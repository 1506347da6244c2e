import Mathlib.Data.Finmap
import Mathlib.Data.Finset.Sort

/-! Unordered maps.  A map with no order on its entries is a `Finmap`: two maps are equal when they
hold the same entries.  `lookup₂`, `put₂`, `putNew₂` and `storeInner` are the operations of a map
of maps, and `Tidy` says that such a map keeps no empty inner map.  `Enumerates` relates a map to the
lists in which an iteration may visit its entries. -/

set_option autoImplicit false

namespace Edm.Library

universe u v w

/-- A finite map from `α` to `β`. -/
abbrev UnorderedMap (α : Type u) (β : Type v) := Finmap fun _ : α => β

namespace UnorderedMap

variable {α : Type u} {β : Type v} {γ : Type w} [DecidableEq α]

theorem lookup_insert_eq (m : UnorderedMap α γ) (a x : α) (c : γ) :
    (m.insert a c).lookup x = if x = a then some c else m.lookup x := by
  by_cases h : x = a
  · subst h
    simp
  · simp [h, Finmap.lookup_insert_of_ne]

theorem lookup_erase_eq (m : UnorderedMap α γ) (a x : α) :
    (m.erase a).lookup x = if x = a then none else m.lookup x := by
  by_cases h : x = a
  · subst h
    simp
  · simp [h, Finmap.lookup_erase_ne]

theorem eq_empty_iff (m : UnorderedMap α γ) : m = ∅ ↔ ∀ a, m.lookup a = none := by
  constructor
  · rintro rfl a
    exact Finmap.lookup_empty a
  · intro h
    exact Finmap.ext_lookup fun a => by rw [h a, Finmap.lookup_empty]

/-- Whether a map has no entries. -/
def isEmpty (m : UnorderedMap α γ) : Bool := decide (m.keys = ∅)

theorem isEmpty_iff {m : UnorderedMap α γ} : isEmpty m = true ↔ m = ∅ := by
  simp only [isEmpty, decide_eq_true_eq, eq_empty_iff, Finset.eq_empty_iff_forall_notMem,
    Finmap.mem_keys]
  exact forall_congr' fun a => Finmap.lookup_eq_none.symm

theorem insert_ne_empty (m : UnorderedMap α γ) (a : α) (c : γ) : m.insert a c ≠ ∅ := by
  intro h
  have := (eq_empty_iff _).mp h a
  simp at this

theorem ne_empty_of_lookup {m : UnorderedMap α γ} {a : α} {c : γ} (h : m.lookup a = some c) :
    m ≠ ∅ := by
  rintro rfl
  simp at h

theorem insert_lookup {m : UnorderedMap α γ} {a : α} {c : γ} (h : m.lookup a = some c) :
    m.insert a c = m := by
  refine Finmap.ext_lookup fun x => ?_
  rw [lookup_insert_eq]
  split
  · rename_i hx
    rw [hx, h]
  · rfl

theorem erase_absent {m : UnorderedMap α γ} {a : α} (h : m.lookup a = none) : m.erase a = m := by
  refine Finmap.ext_lookup fun x => ?_
  rw [lookup_erase_eq]
  split
  · rename_i hx
    rw [hx, h]
  · rfl

/-- The map with `c` at `a`, unless it has a value there. -/
def insertNew (m : UnorderedMap α γ) (a : α) (c : γ) : UnorderedMap α γ :=
  if (m.lookup a).isSome then m else m.insert a c

theorem lookup_insertNew (m : UnorderedMap α γ) (a x : α) (c : γ) :
    (insertNew m a c).lookup x = (m.lookup x).or (if x = a then some c else none) := by
  unfold insertNew
  by_cases h : x = a
  · subst h
    cases hx : m.lookup x <;> simp [hx]
  · cases m.lookup a <;> simp [h]

/-- The map with `f` applied to every value. -/
def mapValues {δ : Type w} (f : γ → δ) (m : UnorderedMap α γ) : UnorderedMap α δ where
  entries := m.entries.map fun e => ⟨e.1, f e.2⟩
  nodupKeys := by
    induction m using Finmap.induction_on with
    | H list => exact List.NodupKeys.map₂ (fun _ => f) list.entries list.nodupKeys

theorem lookup_mapValues {δ : Type w} (f : γ → δ) (m : UnorderedMap α γ) (a : α) :
    (mapValues f m).lookup a = (m.lookup a).map f := by
  induction m using Finmap.induction_on with
  | H list => exact List.dlookup_map₂ (l := list.entries) (f := fun _ => f) a

/-- The map with `f` applied to every key and its value. -/
def mapWithKey {δ : Type w} (f : α → γ → δ) (m : UnorderedMap α γ) : UnorderedMap α δ where
  entries := m.entries.map fun e => ⟨e.1, f e.1 e.2⟩
  nodupKeys := by
    induction m using Finmap.induction_on with
    | H list => exact List.NodupKeys.map₂ f list.entries list.nodupKeys

theorem lookup_mapWithKey {δ : Type w} (f : α → γ → δ) (m : UnorderedMap α γ) (a : α) :
    (mapWithKey f m).lookup a = (m.lookup a).map (f a) := by
  induction m using Finmap.induction_on with
  | H list => exact List.dlookup_map₂ (l := list.entries) (f := f) a

/-- The entries whose value meets `p`. -/
def filterValues (p : γ → Bool) (m : UnorderedMap α γ) : UnorderedMap α γ where
  entries := m.entries.filter fun e => p e.2
  nodupKeys := by
    have hsub : (m.entries.filter fun e => p e.2 = true) ≤ m.entries := Multiset.filter_le _ _
    exact Multiset.nodup_keys.mp
      (Multiset.nodup_of_le (Multiset.map_le_map hsub) (Multiset.nodup_keys.mpr m.nodupKeys))

theorem lookup_filterValues (p : γ → Bool) (m : UnorderedMap α γ) (a : α) :
    (filterValues p m).lookup a = (m.lookup a).filter p := by
  refine Option.ext fun c => ?_
  show c ∈ (filterValues p m).lookup a ↔ c ∈ (m.lookup a).filter p
  rw [Finmap.mem_lookup_iff, Option.mem_filter_iff, Finmap.mem_lookup_iff]
  exact Multiset.mem_filter

/-- The keys whose value meets `p`. -/
def keysWhere (p : γ → Bool) (m : UnorderedMap α γ) : Finset α :=
  m.keys.filter fun a => (m.lookup a).any p

theorem mem_keysWhere {p : γ → Bool} {m : UnorderedMap α γ} {a : α} :
    a ∈ keysWhere p m ↔ ∃ c, m.lookup a = some c ∧ p c = true := by
  simp only [keysWhere, Finset.mem_filter, Finmap.mem_keys, Option.any_eq_true]
  constructor
  · rintro ⟨-, hc⟩
    exact hc
  · rintro ⟨c, hc, hp⟩
    exact ⟨Finmap.mem_of_lookup_eq_some hc, c, hc, hp⟩

theorem keysWhere_insert (p : γ → Bool) (m : UnorderedMap α γ) (a : α) (c : γ) :
    keysWhere p (m.insert a c) =
      if p c = true then insert a (keysWhere p m) else (keysWhere p m).erase a := by
  refine Finset.ext fun x => ?_
  rw [mem_keysWhere, lookup_insert_eq]
  by_cases hx : x = a
  · by_cases hp : p c = true <;> simp [hx, hp]
  · by_cases hp : p c = true <;> simp [hx, hp, mem_keysWhere]

theorem keysWhere_erase (p : γ → Bool) (m : UnorderedMap α γ) (a : α) :
    keysWhere p (m.erase a) = (keysWhere p m).erase a := by
  refine Finset.ext fun x => ?_
  rw [mem_keysWhere, lookup_erase_eq, Finset.mem_erase, mem_keysWhere]
  by_cases hx : x = a <;> simp [hx]

theorem keysWhere_filterValues (p q : γ → Bool) (m : UnorderedMap α γ) :
    keysWhere p (filterValues q m) ⊆ keysWhere p m := by
  intro x hx
  obtain ⟨c, hc, hp⟩ := mem_keysWhere.mp hx
  rw [lookup_filterValues, Option.filter_eq_some_iff] at hc
  exact mem_keysWhere.mpr ⟨c, hc.1, hp⟩

/-- An iteration over the map may visit its entries in the order of `entries`. -/
structure Enumerates (m : UnorderedMap α γ) (entries : List (α × γ)) : Prop where
  nodup : (entries.map Prod.fst).Nodup
  mem_iff : ∀ a c, (a, c) ∈ entries ↔ m.lookup a = some c

/-- The order in which an iteration visits the keys of a container. -/
structure KeyOrder (α : Type u) where
  visit : Finset α → List α
  mem_visit : ∀ keys a, a ∈ visit keys ↔ a ∈ keys

/-- The keys from the least to the greatest. -/
def KeyOrder.sorted (r : α → α → Prop) [DecidableRel r] [IsTrans α r] [Std.Antisymm r]
    [Std.Total r] : KeyOrder α where
  visit keys := Quotient.liftOn keys.val (List.insertionSort r) fun xs ys h =>
    ((List.perm_insertionSort r xs).trans (h.trans (List.perm_insertionSort r ys).symm)).eq_of_pairwise'
      (List.pairwise_insertionSort r xs) (List.pairwise_insertionSort r ys)
  mem_visit keys a := by
    obtain ⟨⟨xs⟩, hnodup⟩ := keys
    exact List.mem_insertionSort r

abbrev KeyOrder.ascending [LinearOrder α] : KeyOrder α := .sorted (· ≤ ·)

/-! ### Maps of maps -/

section Nested

variable [DecidableEq β]

/-- The value at `b` of the inner map at `a`. -/
def lookup₂ (m : UnorderedMap α (UnorderedMap β γ)) (a : α) (b : β) : Option γ :=
  (m.lookup a).bind fun inner => inner.lookup b

/-- No inner map is empty. -/
def Tidy (m : UnorderedMap α (UnorderedMap β γ)) : Prop :=
  ∀ a inner, m.lookup a = some inner → inner ≠ ∅

@[simp] theorem lookup₂_empty (a : α) (b : β) :
    lookup₂ (∅ : UnorderedMap α (UnorderedMap β γ)) a b = none := by
  simp [lookup₂]

omit [DecidableEq β] in
theorem tidy_empty : Tidy (∅ : UnorderedMap α (UnorderedMap β γ)) := by
  intro a inner h
  simp at h

theorem lookup₂_none {m : UnorderedMap α (UnorderedMap β γ)} {a : α} (h : m.lookup a = none)
    (b : β) : lookup₂ m a b = none := by
  simp [lookup₂, h]

theorem lookup₂_some {m : UnorderedMap α (UnorderedMap β γ)} {a : α} {inner : UnorderedMap β γ}
    (h : m.lookup a = some inner) (b : β) : lookup₂ m a b = inner.lookup b := by
  simp [lookup₂, h]

theorem lookup₂_insert (m : UnorderedMap α (UnorderedMap β γ)) (a x : α) (inner : UnorderedMap β γ)
    (b : β) :
    lookup₂ (m.insert a inner) x b = if x = a then inner.lookup b else lookup₂ m x b := by
  simp only [lookup₂, lookup_insert_eq]
  split <;> rfl

theorem lookup₂_erase (m : UnorderedMap α (UnorderedMap β γ)) (a x : α) (b : β) :
    lookup₂ (m.erase a) x b = if x = a then none else lookup₂ m x b := by
  simp only [lookup₂, lookup_erase_eq]
  split <;> rfl

omit [DecidableEq β] in
theorem tidy_insert {m : UnorderedMap α (UnorderedMap β γ)} (h : Tidy m) (a : α)
    {inner : UnorderedMap β γ} (hinner : inner ≠ ∅) : Tidy (m.insert a inner) := by
  intro x other hx
  rw [lookup_insert_eq] at hx
  split at hx
  · cases hx
    exact hinner
  · exact h x other hx

omit [DecidableEq β] in
theorem tidy_erase {m : UnorderedMap α (UnorderedMap β γ)} (h : Tidy m) (a : α) :
    Tidy (m.erase a) := by
  intro x other hx
  rw [lookup_erase_eq] at hx
  split at hx
  · contradiction
  · exact h x other hx

/-- In a tidy map, an outer key without inner values is absent. -/
theorem Tidy.lookup_eq_none {m : UnorderedMap α (UnorderedMap β γ)} (h : Tidy m) {a : α}
    (hnone : ∀ b, lookup₂ m a b = none) : m.lookup a = none := by
  cases ha : m.lookup a with
  | none => rfl
  | some inner =>
    refine absurd ((eq_empty_iff inner).mpr fun b => ?_) (h a inner ha)
    rw [← lookup₂_some ha, hnone b]

/-- Tidy maps of maps with the same values are equal. -/
theorem Tidy.ext {m m' : UnorderedMap α (UnorderedMap β γ)} (h : Tidy m) (h' : Tidy m')
    (heq : ∀ a b, lookup₂ m a b = lookup₂ m' a b) : m = m' := by
  refine Finmap.ext_lookup fun a => ?_
  cases ha : m.lookup a with
  | none =>
    symm
    exact h'.lookup_eq_none fun b => by rw [← heq, lookup₂_none ha]
  | some inner =>
    cases ha' : m'.lookup a with
    | none =>
      have := h.lookup_eq_none (a := a) fun b => by rw [heq, lookup₂_none ha']
      rw [ha] at this
      contradiction
    | some inner' =>
      congr 1
      refine Finmap.ext_lookup fun b => ?_
      rw [← lookup₂_some ha, heq, lookup₂_some ha']

/-- The map with `c` at `b` of the inner map at `a`. -/
def put₂ (m : UnorderedMap α (UnorderedMap β γ)) (a : α) (b : β) (c : γ) :
    UnorderedMap α (UnorderedMap β γ) :=
  m.insert a (((m.lookup a).getD ∅).insert b c)

theorem lookup₂_put₂ (m : UnorderedMap α (UnorderedMap β γ)) (a x : α) (b y : β) (c : γ) :
    lookup₂ (put₂ m a b c) x y = if x = a ∧ y = b then some c else lookup₂ m x y := by
  rw [put₂, lookup₂_insert, lookup_insert_eq]
  by_cases hx : x = a
  · subst hx
    by_cases hy : y = b
    · simp [hy]
    · cases ha : m.lookup x <;> simp [hy, lookup₂, ha]
  · simp [hx]

theorem tidy_put₂ {m : UnorderedMap α (UnorderedMap β γ)} (h : Tidy m) (a : α) (b : β) (c : γ) :
    Tidy (put₂ m a b c) :=
  tidy_insert h a (insert_ne_empty _ b c)

/-- `put₂`, unless the map has a value there. -/
def putNew₂ (m : UnorderedMap α (UnorderedMap β γ)) (a : α) (b : β) (c : γ) :
    UnorderedMap α (UnorderedMap β γ) :=
  if (lookup₂ m a b).isSome then m else put₂ m a b c

theorem lookup₂_putNew₂ (m : UnorderedMap α (UnorderedMap β γ)) (a x : α) (b y : β) (c : γ) :
    lookup₂ (putNew₂ m a b c) x y =
      if x = a ∧ y = b then (lookup₂ m x y).or (some c) else lookup₂ m x y := by
  unfold putNew₂
  split
  · rename_i hsome
    split
    · rename_i hxy
      obtain ⟨rfl, rfl⟩ := hxy
      obtain ⟨old, hold⟩ := Option.isSome_iff_exists.mp hsome
      simp [hold]
    · rfl
  · rename_i hnone
    rw [lookup₂_put₂]
    split
    · rename_i hxy
      obtain ⟨rfl, rfl⟩ := hxy
      simp only [Option.not_isSome_iff_eq_none] at hnone
      simp [hnone]
    · rfl

theorem tidy_putNew₂ {m : UnorderedMap α (UnorderedMap β γ)} (h : Tidy m) (a : α) (b : β)
    (c : γ) : Tidy (putNew₂ m a b c) := by
  unfold putNew₂
  split
  · exact h
  · exact tidy_put₂ h a b c

/-- The map with the inner map at `a` replaced by `inner`, and without `a` when `inner` is empty. -/
def storeInner (m : UnorderedMap α (UnorderedMap β γ)) (a : α) (inner : UnorderedMap β γ) :
    UnorderedMap α (UnorderedMap β γ) :=
  if isEmpty inner then m.erase a else m.insert a inner

theorem lookup₂_storeInner (m : UnorderedMap α (UnorderedMap β γ)) (a x : α)
    (inner : UnorderedMap β γ) (b : β) :
    lookup₂ (storeInner m a inner) x b = if x = a then inner.lookup b else lookup₂ m x b := by
  unfold storeInner
  split
  · rename_i hempty
    rw [lookup₂_erase, isEmpty_iff.mp hempty, Finmap.lookup_empty]
  · rw [lookup₂_insert]

theorem tidy_storeInner {m : UnorderedMap α (UnorderedMap β γ)} (h : Tidy m) (a : α)
    (inner : UnorderedMap β γ) : Tidy (storeInner m a inner) := by
  unfold storeInner
  split
  · exact tidy_erase h a
  · rename_i hne
    exact tidy_insert h a fun hempty => hne (isEmpty_iff.mpr hempty)

end Nested

end UnorderedMap

end Edm.Library
