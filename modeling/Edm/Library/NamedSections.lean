import Mathlib.Data.List.Basic

/-! Lists of sections, each with a name and named entries, where names are compared by a key, as
where case is ignored. -/

set_option autoImplicit false

namespace Edm.Library

universe u v w

variable {Name : Type u} {Key : Type v} {Value : Type w}

/-- A name with the entries under it. -/
abbrev NamedSection (Name : Type u) (Value : Type w) := Name × List (Name × Value)

/-- An entry under a section. -/
def Entry (sections : List (NamedSection Name Value)) (name entry : Name) (value : Value) : Prop :=
  ∃ entries, (name, entries) ∈ sections ∧ (entry, value) ∈ entries

section Keys

variable (key : Name → Key)

/-- No two names have the same key. -/
def DistinctNames {α : Type w} (xs : List (Name × α)) : Prop :=
  xs.Pairwise fun x y => key x.1 ≠ key y.1

/-- No two sections have the same name, and no two entries of a section. -/
structure Tidy (sections : List (NamedSection Name Value)) : Prop where
  names : DistinctNames key sections
  entries : ∀ s, s ∈ sections → DistinctNames key s.2

/-- Sections under the same key have the same name and no entries under the same key. -/
def Apart (sections sections' : List (NamedSection Name Value)) : Prop :=
  ∀ s, s ∈ sections → ∀ t, t ∈ sections' → key s.1 = key t.1 →
    s.1 = t.1 ∧ ∀ e, e ∈ s.2 → ∀ e', e' ∈ t.2 → key e.1 ≠ key e'.1

variable [DecidableEq Key]

/-- Adds the entries of a section to the first section of the name, or the section. -/
def extend : List (NamedSection Name Value) → NamedSection Name Value →
    List (NamedSection Name Value)
  | [], s => [s]
  | t :: sections, s =>
    if key t.1 = key s.1 then (t.1, t.2 ++ s.2) :: sections else t :: extend sections s

/-- Adds all sections of a list. -/
def extendAll (sections more : List (NamedSection Name Value)) : List (NamedSection Name Value) :=
  more.foldl (extend key) sections

/-- The sections of all lists. -/
def mergeSections (lists : List (List (NamedSection Name Value))) :
    List (NamedSection Name Value) :=
  lists.foldl (extendAll key) []

end Keys

section Entries

variable {sections sections' : List (NamedSection Name Value)} {s : NamedSection Name Value}
  {name entry : Name} {value : Value}

theorem entry_nil : ¬ Entry ([] : List (NamedSection Name Value)) name entry value :=
  fun ⟨_, hmem, _⟩ => List.not_mem_nil hmem

theorem entry_append : Entry (sections ++ sections') name entry value ↔
    Entry sections name entry value ∨ Entry sections' name entry value := by
  simp only [Entry, List.mem_append, or_and_right, exists_or]

theorem entry_cons : Entry (s :: sections) name entry value ↔
    name = s.1 ∧ (entry, value) ∈ s.2 ∨ Entry sections name entry value := by
  constructor
  · rintro ⟨entries, hmem, hentry⟩
    rcases List.mem_cons.mp hmem with rfl | hmem
    · exact .inl ⟨rfl, hentry⟩
    · exact .inr ⟨entries, hmem, hentry⟩
  · rintro (⟨rfl, hentry⟩ | ⟨entries, hmem, hentry⟩)
    · exact ⟨s.2, List.mem_cons_self, hentry⟩
    · exact ⟨entries, List.mem_cons_of_mem _ hmem, hentry⟩

end Entries

variable {key : Name → Key} {sections sections' more : List (NamedSection Name Value)}
  {s t : NamedSection Name Value} {name entry : Name} {value : Value}

/-! ### Apart sections -/

theorem apart_nil_left : Apart key [] sections := fun _ hmem => absurd hmem List.not_mem_nil

theorem apart_nil_right : Apart key sections [] := fun _ _ _ hmem => absurd hmem List.not_mem_nil

theorem Apart.symm (h : Apart key sections sections') : Apart key sections' sections :=
  fun t ht s hs hkey => ⟨(h s hs t ht hkey.symm).1.symm,
    fun e' he' e he heq => (h s hs t ht hkey.symm).2 e he e' he' heq.symm⟩

theorem apart_cons_right : Apart key sections (s :: sections') ↔
    Apart key sections [s] ∧ Apart key sections sections' := by
  constructor
  · exact fun h => ⟨fun t ht u hu => h t ht u (List.mem_cons.mpr (.inl (List.mem_singleton.mp hu))),
      fun t ht u hu => h t ht u (List.mem_cons_of_mem _ hu)⟩
  · rintro ⟨hs, hsections⟩ t ht u hu
    rcases List.mem_cons.mp hu with rfl | hu
    · exact hs t ht u (List.mem_singleton.mpr rfl)
    · exact hsections t ht u hu

theorem Tidy.tail (h : Tidy key (s :: sections)) : Tidy key sections :=
  ⟨(List.pairwise_cons.mp h.names).2, fun t ht => h.entries t (List.mem_cons_of_mem _ ht)⟩

/-- The first section of a tidy list is apart from the others. -/
theorem Tidy.apart_head (h : Tidy key (s :: sections)) : Apart key sections [s] := by
  intro t ht u hu hkey
  obtain rfl := List.mem_singleton.mp hu
  exact absurd hkey.symm ((List.pairwise_cons.mp h.names).1 t ht)

/-- Names that differ by their keys differ. -/
theorem Tidy.of_key (h : Tidy key sections) : Tidy id sections :=
  ⟨h.names.imp fun hne heq => hne (congrArg key heq),
    fun s hs => (h.entries s hs).imp fun hne heq => hne (congrArg key heq)⟩

theorem tidy_nil : Tidy key ([] : List (NamedSection Name Value)) :=
  ⟨List.Pairwise.nil, fun _ hmem => absurd hmem List.not_mem_nil⟩

variable [DecidableEq Key]

/-! ### One section -/

/-- The new section is added at the end, or to the section of its name. -/
theorem extend_cases (key : Name → Key) (sections : List (NamedSection Name Value))
    (s : NamedSection Name Value) :
    (∀ t, t ∈ sections → key t.1 ≠ key s.1) ∧ extend key sections s = sections ++ [s] ∨
      ∃ before t after, sections = before ++ t :: after ∧ key t.1 = key s.1 ∧
        (∀ u, u ∈ before → key u.1 ≠ key s.1) ∧
        extend key sections s = before ++ (t.1, t.2 ++ s.2) :: after := by
  induction sections with
  | nil => exact .inl ⟨fun _ hmem => absurd hmem List.not_mem_nil, rfl⟩
  | cons t sections ih =>
    rw [extend]
    by_cases hkey : key t.1 = key s.1
    · rw [if_pos hkey]
      exact .inr ⟨[], t, sections, rfl, hkey, fun _ hmem => absurd hmem List.not_mem_nil, rfl⟩
    rw [if_neg hkey]
    rcases ih with ⟨hother, hextend⟩ | ⟨before, u, after, rfl, hu, hbefore, hextend⟩
    · refine .inl ⟨List.forall_mem_cons.mpr ⟨hkey, hother⟩, ?_⟩
      rw [hextend]
      rfl
    · refine .inr ⟨t :: before, u, after, rfl, hu, List.forall_mem_cons.mpr ⟨hkey, hbefore⟩, ?_⟩
      rw [hextend]
      rfl

theorem entry_extend (hapart : Apart key sections [s]) : Entry (extend key sections s) name entry
    value ↔ Entry sections name entry value ∨ name = s.1 ∧ (entry, value) ∈ s.2 := by
  rcases extend_cases key sections s with ⟨-, hextend⟩ | ⟨before, t, after, rfl, hkey, -, hextend⟩
  · rw [hextend, entry_append, entry_cons, or_iff_left entry_nil]
  · have hname : t.1 = s.1 := (hapart t (List.mem_append_right _ List.mem_cons_self) s
      (List.mem_singleton.mpr rfl) hkey).1
    rw [hextend, entry_append, entry_append, entry_cons, entry_cons, List.mem_append, hname]
    tauto

theorem mem_names_extend (hapart : Apart key sections [s]) :
    name ∈ (extend key sections s).map Prod.fst ↔
      name ∈ sections.map Prod.fst ∨ name = s.1 := by
  rcases extend_cases key sections s with ⟨-, hextend⟩ | ⟨before, t, after, rfl, hkey, -, hextend⟩
  · rw [hextend, List.map_append, List.mem_append, List.map_singleton, List.mem_singleton]
  · have hname : t.1 = s.1 := (hapart t (List.mem_append_right _ List.mem_cons_self) s
      (List.mem_singleton.mpr rfl) hkey).1
    simp only [hextend, List.map_append, List.map_cons, List.mem_append, List.mem_cons, hname]
    tauto

theorem tidy_extend (hapart : Apart key sections [s]) (htidy : Tidy key sections)
    (hs : DistinctNames key s.2) : Tidy key (extend key sections s) := by
  rcases extend_cases key sections s with ⟨hother, hextend⟩ |
    ⟨before, t, after, rfl, hkey, -, hextend⟩
  · rw [hextend]
    refine ⟨List.pairwise_append.mpr ⟨htidy.names, List.pairwise_singleton _ _, ?_⟩, ?_⟩
    · rintro t ht u hu
      obtain rfl := List.mem_singleton.mp hu
      exact hother t ht
    · intro t ht
      rcases List.mem_append.mp ht with ht | ht
      · exact htidy.entries t ht
      · obtain rfl := List.mem_singleton.mp ht
        exact hs
  · rw [hextend]
    obtain ⟨hbefore, hafter, hcross⟩ := List.pairwise_append.mp htidy.names
    obtain ⟨ht, hafter⟩ := List.pairwise_cons.mp hafter
    refine ⟨List.pairwise_append.mpr ⟨hbefore, List.pairwise_cons.mpr ⟨ht, hafter⟩, ?_⟩, ?_⟩
    · intro u hu v hv
      rcases List.mem_cons.mp hv with rfl | hv
      · exact hcross u hu t List.mem_cons_self
      · exact hcross u hu v (List.mem_cons_of_mem _ hv)
    · intro u hu
      rcases List.mem_append.mp hu with hu | hu
      · exact htidy.entries u (List.mem_append_left _ hu)
      rcases List.mem_cons.mp hu with rfl | hu
      · have ht : t ∈ before ++ t :: after := List.mem_append_right _ List.mem_cons_self
        refine List.pairwise_append.mpr ⟨htidy.entries t ht, hs, fun e he e' he' => ?_⟩
        exact (hapart t ht s (List.mem_singleton.mpr rfl) hkey).2 e he e' he'
      · exact htidy.entries u (List.mem_append_right _ (List.mem_cons_of_mem _ hu))

/-- What is apart from the sections and from the new one is apart from the extension. -/
theorem Apart.extend (hapart : Apart key sections [s]) (h : Apart key sections more)
    (hs : Apart key [s] more) : Apart key (extend key sections s) more := by
  rcases extend_cases key sections s with ⟨-, hextend⟩ | ⟨before, t, after, rfl, hkey, -, hextend⟩
  · rw [hextend]
    intro u hu
    rcases List.mem_append.mp hu with hu | hu
    · exact h u hu
    · exact hs u hu
  · rw [hextend]
    intro u hu v hv huv
    rcases List.mem_append.mp hu with hu | hu
    · exact h u (List.mem_append_left _ hu) v hv huv
    rcases List.mem_cons.mp hu with rfl | hu
    · have ht := h t (List.mem_append_right _ List.mem_cons_self) v hv huv
      have hs := hs s (List.mem_singleton.mpr rfl) v hv (hkey.symm.trans huv)
      refine ⟨ht.1, fun e he => ?_⟩
      rcases List.mem_append.mp he with he | he
      · exact ht.2 e he
      · exact hs.2 e he
    · exact h u (List.mem_append_right _ (List.mem_cons_of_mem _ hu)) v hv huv

/-! ### All sections of a list -/

/-- What the extension with all sections of a list is made of. -/
theorem extendAll_spec (htidy : Tidy key sections) (hmore : Tidy key more)
    (hapart : Apart key sections more) :
    Tidy key (extendAll key sections more) ∧
      (∀ name entry value, Entry (extendAll key sections more) name entry value ↔
        Entry sections name entry value ∨ Entry more name entry value) ∧
      (∀ name, name ∈ (extendAll key sections more).map Prod.fst ↔
        name ∈ sections.map Prod.fst ∨ name ∈ more.map Prod.fst) ∧
      ∀ others, Apart key sections others → Apart key more others →
        Apart key (extendAll key sections more) others := by
  induction more generalizing sections with
  | nil =>
    refine ⟨htidy, fun _ _ _ => (or_iff_left entry_nil).symm,
      fun _ => (or_iff_left List.not_mem_nil).symm, fun _ h _ => h⟩
  | cons s more ih =>
    obtain ⟨hs, hrest⟩ := apart_cons_right.mp hapart
    have htidy' := tidy_extend hs htidy (hmore.entries s List.mem_cons_self)
    obtain ⟨hresult, hentry, hnames, hothers⟩ := ih htidy' hmore.tail
      (hs.extend hrest hmore.apart_head.symm)
    refine ⟨hresult, fun name entry value => ?_, fun name => ?_, fun others h h' => ?_⟩
    · exact (hentry name entry value).trans (by rw [entry_extend hs, entry_cons, or_assoc])
    · exact (hnames name).trans (by
        rw [mem_names_extend hs, List.map_cons, List.mem_cons, or_assoc])
    · obtain ⟨hs', hrest'⟩ := apart_cons_right.mp h'.symm
      exact hothers others (hs.extend h hs'.symm) hrest'.symm

/-- What the merge of lists that are apart is made of. -/
theorem mergeSections_spec {lists : List (List (NamedSection Name Value))}
    (htidy : ∀ sections, sections ∈ lists → Tidy key sections)
    (hapart : lists.Pairwise (Apart key)) :
    Tidy key (mergeSections key lists) ∧
      (∀ name entry value, Entry (mergeSections key lists) name entry value ↔
        ∃ sections, sections ∈ lists ∧ Entry sections name entry value) ∧
      (∀ name, name ∈ (mergeSections key lists).map Prod.fst ↔
        ∃ sections, sections ∈ lists ∧ name ∈ sections.map Prod.fst) ∧
      ∀ others, (∀ sections, sections ∈ lists → Apart key sections others) →
        Apart key (mergeSections key lists) others := by
  have hfold : ∀ (lists : List (List (NamedSection Name Value))) (sections :
      List (NamedSection Name Value)), Tidy key sections →
      (∀ more, more ∈ lists → Tidy key more) → (∀ more, more ∈ lists → Apart key sections more) →
      lists.Pairwise (Apart key) →
      Tidy key (lists.foldl (extendAll key) sections) ∧
        (∀ name entry value, Entry (lists.foldl (extendAll key) sections) name entry value ↔
          Entry sections name entry value ∨
            ∃ more, more ∈ lists ∧ Entry more name entry value) ∧
        (∀ name, name ∈ (lists.foldl (extendAll key) sections).map Prod.fst ↔
          name ∈ sections.map Prod.fst ∨ ∃ more, more ∈ lists ∧ name ∈ more.map Prod.fst) ∧
        ∀ others, Apart key sections others →
          (∀ more, more ∈ lists → Apart key more others) →
            Apart key (lists.foldl (extendAll key) sections) others := by
    intro lists
    induction lists with
    | nil =>
      intro sections htidy _ _ _
      exact ⟨htidy, fun _ _ _ => by simp, fun _ => by simp, fun _ h _ => h⟩
    | cons more lists ih =>
      intro sections htidy hlists hsections hpairwise
      obtain ⟨hhead, htail⟩ := List.pairwise_cons.mp hpairwise
      obtain ⟨htidyMore, hlists⟩ := List.forall_mem_cons.mp hlists
      obtain ⟨hapart, hsections⟩ := List.forall_mem_cons.mp hsections
      obtain ⟨htidy', hentry, hnames, hothers⟩ := extendAll_spec htidy htidyMore hapart
      obtain ⟨hresult, hentry', hnames', hothers'⟩ := ih (extendAll key sections more) htidy' hlists
        (fun list hlist => hothers list (hsections list hlist) (hhead list hlist)) htail
      refine ⟨hresult, fun name entry value => ?_, fun name => ?_, fun others h h' => ?_⟩
      · refine (hentry' name entry value).trans ?_
        rw [hentry]
        simp only [List.mem_cons, exists_eq_or_imp, or_assoc]
      · refine (hnames' name).trans ?_
        rw [hnames]
        simp only [List.mem_cons, exists_eq_or_imp, or_assoc]
      · obtain ⟨hmore, hlists'⟩ := List.forall_mem_cons.mp h'
        exact hothers' others (hothers others h hmore) hlists'
  obtain ⟨hresult, hentry, hnames, hothers⟩ := hfold lists [] tidy_nil htidy
    (fun _ _ => apart_nil_left) hapart
  exact ⟨hresult, fun name entry value => (hentry name entry value).trans (or_iff_right entry_nil),
    fun name => (hnames name).trans (or_iff_right List.not_mem_nil),
    fun others h => hothers others apart_nil_left h⟩

/-! ### Removals -/

section Removals

variable (key)

/-- Removes the sections of a name. -/
def dropSection (sections : List (NamedSection Name Value)) (name : Name) :
    List (NamedSection Name Value) :=
  sections.filter fun s => key s.1 ≠ key name

/-- Removes the entries of a name from the sections of a name. -/
def dropEntry (sections : List (NamedSection Name Value)) (name entry : Name) :
    List (NamedSection Name Value) :=
  sections.map fun s =>
    (s.1, if key s.1 = key name then s.2.filter fun e => key e.1 ≠ key entry else s.2)

variable {key}

/-- The first of a name is the only one where names are distinct. -/
theorem DistinctNames.eraseP {α : Type w} {xs : List (Name × α)} (h : DistinctNames key xs)
    (name : Name) : xs.eraseP (fun x => key x.1 = key name) =
      xs.filter fun x => key x.1 ≠ key name := by
  induction xs with
  | nil => rfl
  | cons x xs ih =>
    obtain ⟨hx, hxs⟩ := List.pairwise_cons.mp h
    by_cases hname : key x.1 = key name
    · have hother : ∀ y, y ∈ xs → decide (key y.1 ≠ key name) = true :=
        fun y hy => decide_eq_true fun heq => hx y hy (hname.trans heq.symm)
      have hself : List.eraseP (fun x => decide (key x.1 = key name)) (x :: xs) = xs :=
        List.eraseP_cons_of_pos (decide_eq_true hname)
      rw [hself, List.filter_cons_of_neg (by simpa), List.filter_eq_self.mpr hother]
    · rw [List.eraseP_cons_of_neg (by simpa), List.filter_cons_of_pos (by simpa), ih hxs]

theorem entry_dropSection {name' : Name} : Entry (dropSection key sections name') name entry value ↔
    Entry sections name entry value ∧ key name ≠ key name' := by
  constructor
  · rintro ⟨entries, hmem, hentry⟩
    obtain ⟨hmem, hname⟩ := List.mem_filter.mp hmem
    exact ⟨⟨entries, hmem, hentry⟩, of_decide_eq_true hname⟩
  · rintro ⟨⟨entries, hmem, hentry⟩, hname⟩
    exact ⟨entries, List.mem_filter.mpr ⟨hmem, decide_eq_true hname⟩, hentry⟩

theorem tidy_dropSection (h : Tidy key sections) (name : Name) :
    Tidy key (dropSection key sections name) where
  names := h.names.filter _
  entries s hs := h.entries s (List.mem_of_mem_filter hs)

theorem Apart.dropSection (h : Apart key sections more) (name : Name) :
    Apart key (dropSection key sections name) more :=
  fun s hs => h s (List.mem_of_mem_filter hs)

theorem entry_dropEntry {name' entry' : Name} :
    Entry (dropEntry key sections name' entry') name entry value ↔
      Entry sections name entry value ∧ ¬ (key name = key name' ∧ key entry = key entry') := by
  constructor
  · rintro ⟨entries, hmem, hentry⟩
    obtain ⟨s, hs, heq⟩ := List.mem_map.mp hmem
    obtain ⟨rfl, rfl⟩ := Prod.mk.inj heq
    split at hentry
    · obtain ⟨hentry, hdropped⟩ := List.mem_filter.mp hentry
      exact ⟨⟨s.2, hs, hentry⟩, fun h => of_decide_eq_true hdropped h.2⟩
    · rename_i hname
      exact ⟨⟨s.2, hs, hentry⟩, fun h => hname h.1⟩
  · rintro ⟨⟨entries, hmem, hentry⟩, hkept⟩
    refine ⟨_, List.mem_map_of_mem hmem, ?_⟩
    split
    · rename_i hname
      exact List.mem_filter.mpr ⟨hentry, decide_eq_true fun h => hkept ⟨hname, h⟩⟩
    · exact hentry

theorem mem_dropEntry {name' entry' : Name} (h : s ∈ dropEntry key sections name' entry') :
    ∃ t, t ∈ sections ∧ t.1 = s.1 ∧ s.2.Sublist t.2 := by
  obtain ⟨t, ht, rfl⟩ := List.mem_map.mp h
  refine ⟨t, ht, rfl, ?_⟩
  dsimp only
  split
  · exact List.filter_sublist
  · exact List.Sublist.refl _

theorem tidy_dropEntry (h : Tidy key sections) (name entry : Name) :
    Tidy key (dropEntry key sections name entry) where
  names := List.pairwise_map.mpr h.names
  entries s hs := by
    obtain ⟨t, ht, -, hsublist⟩ := mem_dropEntry hs
    exact (h.entries t ht).sublist hsublist

theorem Apart.dropEntry (h : Apart key sections more) (name entry : Name) :
    Apart key (dropEntry key sections name entry) more := by
  intro s hs t ht hkey
  obtain ⟨u, hu, hname, hsublist⟩ := mem_dropEntry hs
  rw [← hname] at hkey ⊢
  exact ⟨(h u hu t ht hkey).1, fun e he => (h u hu t ht hkey).2 e (hsublist.subset he)⟩

end Removals

section MapValues

variable {f : Value → Value} {lists : List (List (NamedSection Name Value))}

/-- The sections with their values replaced. -/
def mapValues (f : Value → Value) (sections : List (NamedSection Name Value)) :
    List (NamedSection Name Value) :=
  sections.map fun s => (s.1, s.2.map fun e => (e.1, f e.2))

omit [DecidableEq Key] in
theorem tidy_mapValues (h : Tidy key sections) : Tidy key (mapValues f sections) := by
  refine ⟨List.pairwise_map.mpr h.names, fun s hs => ?_⟩
  obtain ⟨t, ht, rfl⟩ := List.mem_map.mp hs
  exact List.pairwise_map.mpr (h.entries t ht)

omit [DecidableEq Key] in
theorem entry_mapValues : Entry (mapValues f sections) name entry value ↔
    ∃ v, Entry sections name entry v ∧ value = f v := by
  constructor
  · rintro ⟨entries, hmem, hentry⟩
    obtain ⟨s, hs, heq⟩ := List.mem_map.mp hmem
    obtain ⟨rfl, rfl⟩ := Prod.mk.inj heq
    obtain ⟨e, he, heq⟩ := List.mem_map.mp hentry
    obtain ⟨rfl, rfl⟩ := Prod.mk.inj heq
    exact ⟨e.2, ⟨s.2, hs, he⟩, rfl⟩
  · rintro ⟨v, ⟨entries, hmem, hentry⟩, rfl⟩
    exact ⟨_, List.mem_map_of_mem hmem, List.mem_map_of_mem hentry⟩

omit [DecidableEq Key] in
theorem names_mapValues : (mapValues f sections).map Prod.fst = sections.map Prod.fst := by
  rw [mapValues, List.map_map]
  rfl

omit [DecidableEq Key] in
theorem Apart.mapValues (h : Apart key sections more) : Apart key (mapValues f sections) more := by
  intro s hs t ht hkey
  obtain ⟨u, hu, rfl⟩ := List.mem_map.mp hs
  refine ⟨(h u hu t ht hkey).1, fun e he e' he' => ?_⟩
  obtain ⟨d, hd, rfl⟩ := List.mem_map.mp he
  exact (h u hu t ht hkey).2 d hd e' he'

end MapValues

end Edm.Library
