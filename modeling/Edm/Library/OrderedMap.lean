import Mathlib.Order.Lattice
import Mathlib.Data.List.Nodup

/-! Values kept under a key, as in a `std::map` from the key of a value to the value.  The list holds
the values in the order of their keys. -/

set_option autoImplicit false

namespace Edm.Library

universe u v

variable {α : Type u} {κ : Type v} [LinearOrder κ] (key : α → κ)

/-- `m[key(x)] = x`. -/
def assign (x : α) : List α → List α
  | [] => [x]
  | y :: ys =>
    if key x < key y then x :: y :: ys
    else if key y < key x then y :: assign x ys
    else x :: ys

/-- `m.find(k) != m.end()`. -/
def hasKey (k : κ) (m : List α) : Bool := m.any fun y => key y == k

/-- `m.insert({key(x), x})`, which leaves a value that is there. -/
def insertNew (x : α) (m : List α) : List α := if hasKey key (key x) m then m else assign key x m

/-- Inserts the values one after the other. -/
def insertAll (xs : List α) (m : List α) : List α := xs.foldl (fun m x => insertNew key x m) m

/-- `m.erase(k)`. -/
def eraseKey (k : κ) (m : List α) : List α := m.filter fun y => key y != k

/-- Assigns the values one after the other. -/
def assignAll (xs : List α) (m : List α) : List α := xs.foldl (fun m x => assign key x m) m

/-- The values whose key occurs for the first time. -/
def firsts : List α → List α
  | [] => []
  | x :: xs => x :: (firsts xs).filter fun y => key y != key x

/-- The keys are in strictly ascending order. -/
def KeysAscend (m : List α) : Prop := (m.map key).Pairwise (· < ·)

variable {key}

theorem keysAscend_nil : KeysAscend key ([] : List α) := List.Pairwise.nil

theorem KeysAscend.nodup {m : List α} (h : KeysAscend key m) : (m.map key).Nodup :=
  h.imp ne_of_lt

theorem mem_keys_assign {x : α} {m : List α} {k : κ} :
    k ∈ (assign key x m).map key ↔ k = key x ∨ k ∈ m.map key := by
  induction m with
  | nil => simp [assign]
  | cons y ys ih =>
    rw [assign]
    split
    · simp
    · rename_i hge
      split
      · rw [List.map_cons, List.mem_cons, ih, List.map_cons, List.mem_cons]
        exact or_left_comm
      · rename_i hle
        have hkey : key x = key y := le_antisymm (not_lt.mp hle) (not_lt.mp hge)
        simp [hkey]

theorem keysAscend_assign {x : α} {m : List α} (h : KeysAscend key m) :
    KeysAscend key (assign key x m) := by
  induction m with
  | nil => exact List.pairwise_singleton _ _
  | cons y ys ih =>
    obtain ⟨hhead, htail⟩ := List.pairwise_cons.mp h
    rw [assign]
    split
    · rename_i hlt
      refine List.pairwise_cons.mpr ⟨fun k hk => ?_, h⟩
      rcases List.mem_cons.mp hk with rfl | hk
      · exact hlt
      · exact lt_trans hlt (hhead k hk)
    · rename_i hge
      split
      · rename_i hlt
        refine List.pairwise_cons.mpr ⟨fun k hk => ?_, ih htail⟩
        rcases mem_keys_assign.mp hk with rfl | hk
        · exact hlt
        · exact hhead k hk
      · rename_i hle
        have hkey : key x = key y := le_antisymm (not_lt.mp hle) (not_lt.mp hge)
        refine List.pairwise_cons.mpr ⟨fun k hk => ?_, htail⟩
        rw [hkey]
        exact hhead k hk

theorem mem_keys_assignAll {xs m : List α} {k : κ} :
    k ∈ (assignAll key xs m).map key ↔ k ∈ xs.map key ∨ k ∈ m.map key := by
  induction xs generalizing m with
  | nil => simp [assignAll]
  | cons x xs ih =>
    have hrec : assignAll key (x :: xs) m = assignAll key xs (assign key x m) := rfl
    rw [hrec, ih, mem_keys_assign, List.map_cons, List.mem_cons]
    exact or_left_comm.trans or_assoc.symm

theorem keysAscend_assignAll {xs m : List α} (h : KeysAscend key m) :
    KeysAscend key (assignAll key xs m) := by
  induction xs generalizing m with
  | nil => exact h
  | cons x xs ih => exact ih (keysAscend_assign h)

/-- The map holds assigned values and old ones only. -/
theorem mem_of_mem_assign {x y : α} {m : List α} (h : y ∈ assign key x m) : y = x ∨ y ∈ m := by
  induction m with
  | nil => exact .inl (List.mem_singleton.mp h)
  | cons z zs ih =>
    rw [assign] at h
    split at h
    · exact List.mem_cons.mp h
    · split at h
      · rcases List.mem_cons.mp h with rfl | h
        · exact .inr List.mem_cons_self
        · exact (ih h).imp id (List.mem_cons_of_mem z)
      · exact (List.mem_cons.mp h).imp id (List.mem_cons_of_mem z)

theorem mem_of_mem_assignAll {xs m : List α} {y : α} (h : y ∈ assignAll key xs m) :
    y ∈ xs ∨ y ∈ m := by
  induction xs generalizing m with
  | nil => exact .inr h
  | cons x xs ih =>
    rcases ih h with hmem | hmem
    · exact .inl (List.mem_cons_of_mem x hmem)
    · rcases mem_of_mem_assign hmem with rfl | hmem
      · exact .inl List.mem_cons_self
      · exact .inr hmem

/-- An assignment replaces the value of its key. -/
theorem mem_assign {x y : α} {m : List α} (h : KeysAscend key m) :
    y ∈ assign key x m ↔ y = x ∨ y ∈ m ∧ key y ≠ key x := by
  induction m with
  | nil => simp [assign]
  | cons z zs ih =>
    obtain ⟨hhead, htail⟩ := List.pairwise_cons.mp h
    have hrest : ∀ w, w ∈ zs → key z < key w := fun w hw => hhead _ (List.mem_map_of_mem hw)
    rw [assign]
    split
    · rename_i hlt
      have hne : y ∈ z :: zs → key y ≠ key x := by
        intro hy
        rcases List.mem_cons.mp hy with rfl | hy
        · exact (ne_of_lt hlt).symm
        · exact (ne_of_lt (hlt.trans (hrest y hy))).symm
      rw [List.mem_cons]
      exact or_congr_right (and_iff_left_of_imp hne).symm
    · rename_i hge
      split
      · rename_i hlt
        rw [List.mem_cons, ih htail, List.mem_cons]
        constructor
        · rintro (rfl | rfl | ⟨hy, hne⟩)
          · exact .inr ⟨.inl rfl, ne_of_lt hlt⟩
          · exact .inl rfl
          · exact .inr ⟨.inr hy, hne⟩
        · rintro (rfl | ⟨rfl | hy, hne⟩)
          · exact .inr (.inl rfl)
          · exact .inl rfl
          · exact .inr (.inr ⟨hy, hne⟩)
      · rename_i hle
        have hkey : key x = key z := le_antisymm (not_lt.mp hle) (not_lt.mp hge)
        rw [List.mem_cons, List.mem_cons]
        constructor
        · rintro (rfl | hy)
          · exact .inl rfl
          · exact .inr ⟨.inr hy, hkey ▸ (ne_of_lt (hrest y hy)).symm⟩
        · rintro (rfl | ⟨rfl | hy, hne⟩)
          · exact .inl rfl
          · exact absurd hkey.symm hne
          · exact .inr hy

/-- Values of different keys, assigned one after another, replace those of their keys. -/
theorem mem_assignAll {xs m : List α} (h : KeysAscend key m)
    (hinj : ∀ x, x ∈ xs → ∀ y, y ∈ xs → key x = key y → x = y) {z : α} :
    z ∈ assignAll key xs m ↔ z ∈ xs ∨ z ∈ m ∧ key z ∉ xs.map key := by
  induction xs generalizing m with
  | nil => simp [assignAll]
  | cons x xs ih =>
    have hrec : assignAll key (x :: xs) m = assignAll key xs (assign key x m) := rfl
    have hx : key x ∈ xs.map key → x ∈ xs := by
      intro hkey
      obtain ⟨y, hy, heq⟩ := List.mem_map.mp hkey
      rwa [hinj x List.mem_cons_self y (List.mem_cons_of_mem x hy) heq.symm]
    rw [hrec, ih (keysAscend_assign h) fun y hy w hw => hinj y (List.mem_cons_of_mem x hy) w
      (List.mem_cons_of_mem x hw), mem_assign h, List.map_cons, List.mem_cons, List.mem_cons]
    constructor
    · rintro (hz | ⟨rfl | ⟨hz, hne⟩, hnot⟩)
      · exact .inl (.inr hz)
      · exact .inl (.inl rfl)
      · exact .inr ⟨hz, not_or.mpr ⟨hne, hnot⟩⟩
    · rintro ((rfl | hz) | ⟨hz, hnot⟩)
      · by_cases hkey : key z ∈ xs.map key
        · exact .inl (hx hkey)
        · exact .inr ⟨.inl rfl, hkey⟩
      · exact .inl hz
      · exact .inr ⟨.inr ⟨hz, (not_or.mp hnot).1⟩, (not_or.mp hnot).2⟩

theorem hasKey_iff {k : κ} {m : List α} : hasKey key k m = true ↔ k ∈ m.map key := by
  simp [hasKey]

theorem mem_eraseKey {k : κ} {m : List α} {y : α} : y ∈ eraseKey key k m ↔ y ∈ m ∧ key y ≠ k := by
  simp [eraseKey]

theorem keysAscend_eraseKey {k : κ} {m : List α} (h : KeysAscend key m) :
    KeysAscend key (eraseKey key k m) := h.sublist (List.filter_sublist.map key)

theorem mem_insertNew {x y : α} {m : List α} (h : KeysAscend key m) :
    y ∈ insertNew key x m ↔ y ∈ m ∨ y = x ∧ key x ∉ m.map key := by
  unfold insertNew
  by_cases hkey : hasKey key (key x) m = true
  · rw [if_pos hkey]
    have := hasKey_iff.mp hkey
    tauto
  · rw [if_neg hkey, mem_assign h]
    have hnone : key x ∉ m.map key := fun hmem => hkey (hasKey_iff.mpr hmem)
    constructor
    · rintro (rfl | ⟨hy, -⟩)
      · exact .inr ⟨rfl, hnone⟩
      · exact .inl hy
    · rintro (hy | ⟨rfl, -⟩)
      · refine .inr ⟨hy, fun heq => hnone ?_⟩
        rw [← heq]
        exact List.mem_map_of_mem hy
      · exact .inl rfl

theorem keysAscend_insertNew {x : α} {m : List α} (h : KeysAscend key m) :
    KeysAscend key (insertNew key x m) := by
  unfold insertNew
  split
  · exact h
  · exact keysAscend_assign h

theorem keysAscend_insertAll {xs m : List α} (h : KeysAscend key m) :
    KeysAscend key (insertAll key xs m) := by
  induction xs generalizing m with
  | nil => exact h
  | cons x xs ih => exact ih (keysAscend_insertNew h)

theorem mem_keys_insertNew {x : α} {m : List α} {k : κ} :
    k ∈ (insertNew key x m).map key ↔ k = key x ∨ k ∈ m.map key := by
  unfold insertNew
  split
  · rename_i hkey
    exact (or_iff_right_of_imp fun heq => heq ▸ hasKey_iff.mp hkey).symm
  · exact mem_keys_assign

theorem mem_keys_insertAll {xs m : List α} {k : κ} :
    k ∈ (insertAll key xs m).map key ↔ k ∈ xs.map key ∨ k ∈ m.map key := by
  induction xs generalizing m with
  | nil => simp [insertAll]
  | cons x xs ih =>
    have hrec : insertAll key (x :: xs) m = insertAll key xs (insertNew key x m) := rfl
    rw [hrec, ih, mem_keys_insertNew, List.map_cons, List.mem_cons]
    exact or_left_comm.trans or_assoc.symm

/-- The map holds inserted values and old ones only. -/
theorem mem_of_mem_insertAll {xs m : List α} {y : α} (h : y ∈ insertAll key xs m) :
    y ∈ xs ∨ y ∈ m := by
  induction xs generalizing m with
  | nil => exact .inr h
  | cons x xs ih =>
    rcases ih h with hmem | hmem
    · exact .inl (List.mem_cons_of_mem x hmem)
    · have hmem : y ∈ insertNew key x m := hmem
      rw [insertNew] at hmem
      split at hmem
      · exact .inr hmem
      · rcases mem_of_mem_assign hmem with rfl | hmem
        · exact .inl List.mem_cons_self
        · exact .inr hmem

/-- Values of different keys are all inserted. -/
theorem mem_insertAll {xs m : List α} (h : KeysAscend key m) {P : α → Prop}
    (hinj : ∀ x y, P x → P y → key x = key y → x = y) (hxs : ∀ x, x ∈ xs → P x)
    (hm : ∀ x, x ∈ m → P x) {y : α} : y ∈ insertAll key xs m ↔ y ∈ xs ∨ y ∈ m := by
  induction xs generalizing m with
  | nil => simp [insertAll]
  | cons x xs ih =>
    have hx := hxs x List.mem_cons_self
    have hinsert : ∀ z, z ∈ insertNew key x m ↔ z = x ∨ z ∈ m := by
      intro z
      rw [mem_insertNew h]
      constructor
      · rintro (hz | ⟨rfl, -⟩)
        · exact .inr hz
        · exact .inl rfl
      · rintro (rfl | hz)
        · by_cases hkey : key z ∈ m.map key
          · obtain ⟨w, hw, heq⟩ := List.mem_map.mp hkey
            exact .inl (hinj w z (hm w hw) hx heq ▸ hw)
          · exact .inr ⟨rfl, hkey⟩
        · exact .inl hz
    have hrec : insertAll key (x :: xs) m = insertAll key xs (insertNew key x m) := rfl
    rw [hrec, ih (keysAscend_insertNew h) (fun z hz => hxs z (List.mem_cons_of_mem x hz)) fun z hz =>
      ((hinsert z).mp hz).elim (fun heq => heq ▸ hx) (hm z), hinsert, List.mem_cons]
    tauto

theorem KeysAscend.lt_last {x : α} {m : List α} (h : KeysAscend key (m ++ [x])) :
    ∀ y, y ∈ m → key y < key x := by
  intro y hy
  rw [KeysAscend, List.map_append, List.pairwise_append] at h
  exact h.2.2 (key y) (List.mem_map_of_mem hy) (key x) (List.mem_singleton.mpr rfl)

/-- A value with the greatest key is added at the end. -/
theorem assign_append {x : α} {m : List α} (h : KeysAscend key (m ++ [x])) :
    assign key x m = m ++ [x] := by
  have hlt := h.lt_last
  clear h
  induction m with
  | nil => rfl
  | cons y ys ih =>
    have hy := hlt y List.mem_cons_self
    rw [assign, if_neg (not_lt_of_gt hy), if_pos hy,
      ih fun z hz => hlt z (List.mem_cons_of_mem y hz)]
    rfl

theorem insertNew_append {x : α} {m : List α} (h : KeysAscend key (m ++ [x])) :
    insertNew key x m = m ++ [x] := by
  have hnone : ¬hasKey key (key x) m = true := by
    intro hkey
    obtain ⟨y, hy, heq⟩ := List.mem_map.mp (hasKey_iff.mp hkey)
    exact absurd heq (ne_of_lt (h.lt_last y hy))
  rw [insertNew, if_neg hnone, assign_append h]

/-- Values in the order of their keys are inserted as they stand. -/
theorem insertAll_append {xs m : List α} (h : KeysAscend key (m ++ xs)) :
    insertAll key xs m = m ++ xs := by
  induction xs generalizing m with
  | nil => exact (List.append_nil m).symm
  | cons x xs ih =>
    have hassoc : m ++ x :: xs = (m ++ [x]) ++ xs := by rw [List.append_assoc, List.singleton_append]
    have hrec : insertAll key (x :: xs) m = insertAll key xs (insertNew key x m) := rfl
    rw [hassoc] at h ⊢
    have hprefix : KeysAscend key (m ++ [x]) := by
      rw [KeysAscend, List.map_append] at h
      exact (List.pairwise_append.mp h).1
    rw [hrec, insertNew_append hprefix, ih h]

theorem assignAll_append {xs m : List α} (h : KeysAscend key (m ++ xs)) :
    assignAll key xs m = m ++ xs := by
  induction xs generalizing m with
  | nil => exact (List.append_nil m).symm
  | cons x xs ih =>
    have hassoc : m ++ x :: xs = (m ++ [x]) ++ xs := by rw [List.append_assoc, List.singleton_append]
    have hrec : assignAll key (x :: xs) m = assignAll key xs (assign key x m) := rfl
    rw [hassoc] at h ⊢
    have hprefix : KeysAscend key (m ++ [x]) := by
      rw [KeysAscend, List.map_append] at h
      exact (List.pairwise_append.mp h).1
    rw [hrec, assign_append hprefix, ih h]

theorem mem_of_mem_firsts {xs : List α} {y : α} (h : y ∈ firsts key xs) : y ∈ xs := by
  induction xs with
  | nil => exact h
  | cons x xs ih =>
    rcases List.mem_cons.mp h with rfl | h
    · exact List.mem_cons_self
    · exact List.mem_cons_of_mem x (ih (List.mem_filter.mp h).1)

theorem mem_keys_firsts {xs : List α} {k : κ} : k ∈ (firsts key xs).map key ↔ k ∈ xs.map key := by
  induction xs with
  | nil => rfl
  | cons x xs ih =>
    rw [firsts, List.map_cons, List.mem_cons, List.map_cons, List.mem_cons, ← ih]
    simp only [List.mem_map, List.mem_filter, bne_iff_ne]
    constructor
    · rintro (hk | ⟨y, ⟨hy, -⟩, rfl⟩)
      · exact .inl hk
      · exact .inr ⟨y, hy, rfl⟩
    · rintro (hk | ⟨y, hy, rfl⟩)
      · exact .inl hk
      · by_cases hkey : key y = key x
        · exact .inl hkey
        · exact .inr ⟨y, ⟨hy, hkey⟩, rfl⟩

theorem nodup_keys_firsts (xs : List α) : ((firsts key xs).map key).Nodup := by
  induction xs with
  | nil => exact List.nodup_nil
  | cons x xs ih =>
    rw [firsts, List.map_cons, List.nodup_cons]
    refine ⟨fun hmem => ?_, ih.sublist (List.filter_sublist.map key)⟩
    obtain ⟨y, hy, hkey⟩ := List.mem_map.mp hmem
    exact bne_iff_ne.mp (List.mem_filter.mp hy).2 hkey

/-! ### Entries -/

section Entries

variable {β : Type u}

/-- `m.find(k)`, where the list holds keys with values. -/
def valueAt (k : κ) (m : List (κ × β)) : Option β := (m.find? fun e => e.1 == k).map Prod.snd

variable {k k' : κ} {m : List (κ × β)} {v : β}

theorem valueAt_eq_none : valueAt k m = none ↔ k ∉ m.map Prod.fst := by
  rw [valueAt, Option.map_eq_none_iff, List.find?_eq_none]
  simp only [beq_iff_eq, List.mem_map, not_exists, not_and]

theorem valueAt_cons (e : κ × β) :
    valueAt k (e :: m) = if e.1 = k then some e.2 else valueAt k m := by
  unfold valueAt
  by_cases h : e.1 = k
  · simp [h]
  · simp [h]

theorem valueAt_of_mem (h : KeysAscend Prod.fst m) (hmem : (k, v) ∈ m) : valueAt k m = some v := by
  induction m with
  | nil => exact absurd hmem List.not_mem_nil
  | cons e m ih =>
    obtain ⟨hhead, htail⟩ := List.pairwise_cons.mp h
    rw [valueAt_cons]
    rcases List.mem_cons.mp hmem with rfl | hmem
    · exact if_pos rfl
    · rw [if_neg (ne_of_lt (hhead k (List.mem_map_of_mem hmem)))]
      exact ih htail hmem

theorem mem_of_valueAt (h : valueAt k m = some v) : (k, v) ∈ m := by
  obtain ⟨e, hfind, rfl⟩ := Option.map_eq_some_iff.mp h
  obtain rfl : e.1 = k := beq_iff_eq.mp (List.find?_some (p := fun e : κ × β => e.1 == k) hfind)
  exact List.mem_of_find?_eq_some hfind

theorem valueAt_iff (h : KeysAscend Prod.fst m) : valueAt k m = some v ↔ (k, v) ∈ m :=
  ⟨mem_of_valueAt, valueAt_of_mem h⟩

theorem valueAt_assign (h : KeysAscend Prod.fst m) :
    valueAt k' (assign Prod.fst (k, v) m) = if k' = k then some v else valueAt k' m := by
  have hascend := keysAscend_assign (x := (k, v)) h
  by_cases hk : k' = k
  · rw [if_pos hk, hk]
    exact valueAt_of_mem hascend ((mem_assign h).mpr (.inl rfl))
  · rw [if_neg hk]
    ext w
    rw [valueAt_iff hascend, valueAt_iff h, mem_assign h, Prod.mk.injEq]
    constructor
    · rintro (⟨heq, -⟩ | ⟨hmem, -⟩)
      · exact absurd heq hk
      · exact hmem
    · exact fun hmem => .inr ⟨hmem, hk⟩

/-- An entry put into a map, combined with the value that its key has. -/
def combineEntry (combine : β → β → β) (m : List (κ × β)) (e : κ × β) : List (κ × β) :=
  assign Prod.fst (e.1, (valueAt e.1 m).elim e.2 fun v => combine v e.2) m

/-- Entries put into a map one by one. -/
theorem valueAt_foldl_combineEntry (combine : β → β → β) {entries : List (κ × β)}
    (h : KeysAscend Prod.fst m) (hentries : KeysAscend Prod.fst entries) (k : κ) :
    KeysAscend Prod.fst (entries.foldl (combineEntry combine) m) ∧
      valueAt k (entries.foldl (combineEntry combine) m) =
        (valueAt k entries).elim (valueAt k m) fun w =>
          some ((valueAt k m).elim w fun v => combine v w) := by
  induction entries generalizing m with
  | nil => exact ⟨h, rfl⟩
  | cons e entries ih =>
    obtain ⟨hhead, htail⟩ := List.pairwise_cons.mp hentries
    have hnone : valueAt e.1 entries = none :=
      valueAt_eq_none.mpr fun hmem => lt_irrefl e.1 (hhead e.1 hmem)
    obtain ⟨hascend, hfold⟩ := ih (m := combineEntry combine m e) (keysAscend_assign h) htail
    refine ⟨hascend, hfold.trans ?_⟩
    rw [combineEntry, valueAt_assign h, valueAt_cons]
    by_cases hk : k = e.1
    · subst hk
      rw [if_pos rfl, if_pos rfl, hnone]
      rfl
    · rw [if_neg hk, if_neg (Ne.symm hk)]

end Entries

end Edm.Library
