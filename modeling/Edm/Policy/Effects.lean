import Edm.Policy.UserPolicyManager

/-! What each call of `UserPolicyManager` does to the maps and to the tables, entry by entry.  A
stored entry is never empty: `entry` is the entry that a written value leaves. -/

set_option autoImplicit false

namespace Edm

open Library Library.UnorderedMap

/-- The entry that a written value leaves: writing the empty value deletes. -/
def entry (value : String) : Option String := if value = "" then none else some value

@[simp] theorem entry_empty : entry "" = none := rfl

theorem entry_of_ne {value : String} (h : value ≠ "") : entry value = some value := by
  simp [entry, h]

theorem entry_eq_some {value v : String} (h : entry value = some v) : v = value ∧ v ≠ "" := by
  unfold entry at h
  split at h
  · contradiction
  · rename_i hne
    cases h
    exact ⟨rfl, hne⟩

namespace UserStore

variable (s : UserStore)

/-! ### The combined half -/

section Combined

variable (write : RdbOutcome) (p v : String)

@[simp] theorem writeCombined_adminPolicies :
    (s.writeCombined write p v).2.manager.adminPolicies = s.manager.adminPolicies := by
  unfold writeCombined deleteCombinedPolicy setCombinedPolicy
  split <;> cases write <;> rfl

@[simp] theorem writeCombined_policyAdmins :
    (s.writeCombined write p v).2.manager.policyAdmins = s.manager.policyAdmins := by
  unfold writeCombined deleteCombinedPolicy setCombinedPolicy
  split <;> cases write <;> rfl

@[simp] theorem writeCombined_userIdState :
    (s.writeCombined write p v).2.manager.userIdState = s.manager.userIdState := by
  unfold writeCombined deleteCombinedPolicy setCombinedPolicy
  split <;> cases write <;> rfl

@[simp] theorem writeCombined_adminRows :
    (s.writeCombined write p v).2.tables.adminRows = s.tables.adminRows := by
  unfold writeCombined deleteCombinedPolicy setCombinedPolicy
  split <;> cases write <;> try rfl
  dsimp only
  split <;> rfl

theorem writeCombined_of_ne_done (h : write ≠ .done) : (s.writeCombined write p v).2 = s := by
  unfold writeCombined deleteCombinedPolicy setCombinedPolicy
  split <;> cases write <;> first | rfl | contradiction

theorem writeCombined_done_lookup (q : String) :
    (s.writeCombined .done p v).2.manager.combinedPolicies.lookup q =
      if q = p then entry v else s.manager.combinedPolicies.lookup q := by
  unfold writeCombined deleteCombinedPolicy setCombinedPolicy
  split
  · rename_i hv
    rw [lookup_erase_eq, hv, entry_empty]
  · rename_i hv
    rw [lookup_insert_eq, entry_of_ne hv]

end Combined

/-! ### The admin half -/

section Admin

variable (write : RdbOutcome) (a p v : String)

@[simp] theorem deleteAdminList_adminPolicies (m : UserPolicyManager) :
    (m.deleteAdminList a p).adminPolicies = m.adminPolicies := by
  unfold UserPolicyManager.deleteAdminList
  split
  · rfl
  · split <;> rfl

@[simp] theorem deleteAdminList_combinedPolicies (m : UserPolicyManager) :
    (m.deleteAdminList a p).combinedPolicies = m.combinedPolicies := by
  unfold UserPolicyManager.deleteAdminList
  split
  · rfl
  · split <;> rfl

@[simp] theorem deleteAdminList_userIdState (m : UserPolicyManager) :
    (m.deleteAdminList a p).userIdState = m.userIdState := by
  unfold UserPolicyManager.deleteAdminList
  split
  · rfl
  · split <;> rfl

theorem lookup₂_deleteAdminList (m : UserPolicyManager) (q x : String) :
    lookup₂ (m.deleteAdminList a p).policyAdmins q x =
      if q = p ∧ x = a then none else lookup₂ m.policyAdmins q x := by
  unfold UserPolicyManager.deleteAdminList
  split
  · rename_i hp
    split
    · rename_i h
      rw [h.1, lookup₂_none hp]
    · rfl
  · rename_i admins hp
    split
    · rename_i ha
      split
      · rename_i h
        rw [h.1, h.2, lookup₂_some hp, ha]
      · rfl
    · rw [lookup₂_storeInner, lookup_erase_eq]
      by_cases hq : q = p
      · subst hq
        rw [lookup₂_some hp]
        by_cases hx : x = a <;> simp [hx]
      · simp [hq]

theorem tidy_deleteAdminList {m : UserPolicyManager} (h : Tidy m.policyAdmins) :
    Tidy (m.deleteAdminList a p).policyAdmins := by
  unfold UserPolicyManager.deleteAdminList
  split
  · exact h
  · split
    · exact h
    · exact tidy_storeInner h _ _

@[simp] theorem writeAdmin_combinedPolicies :
    (s.writeAdmin write a p v).2.manager.combinedPolicies = s.manager.combinedPolicies := by
  unfold writeAdmin deleteAdminPolicy setAdminPolicy
  split <;> cases write <;> try rfl
  all_goals
    dsimp only
    split <;> simp [UserPolicyManager.setAdminList]

@[simp] theorem writeAdmin_userIdState :
    (s.writeAdmin write a p v).2.manager.userIdState = s.manager.userIdState := by
  unfold writeAdmin deleteAdminPolicy setAdminPolicy
  split <;> cases write <;> try rfl
  all_goals
    dsimp only
    split <;> simp [UserPolicyManager.setAdminList]

@[simp] theorem writeAdmin_combinedRows :
    (s.writeAdmin write a p v).2.tables.combinedRows = s.tables.combinedRows := by
  unfold writeAdmin deleteAdminPolicy setAdminPolicy
  split <;> cases write <;> try rfl
  all_goals
    dsimp only
    split <;> try rfl
  dsimp only
  split <;> rfl

theorem writeAdmin_unavailable : (s.writeAdmin .unavailable a p v).2 = s := by
  unfold writeAdmin deleteAdminPolicy setAdminPolicy
  split <;> rfl

/-- A failed write leaves its value in the second index. -/
theorem writeAdmin_failed :
    (s.writeAdmin .failed a p v).2 =
      if v = "" then s else { s with manager := s.manager.setAdminList a p v } := by
  unfold writeAdmin deleteAdminPolicy setAdminPolicy
  split <;> rfl

theorem writeAdmin_done_adminPolicies (x q : String) :
    lookup₂ (s.writeAdmin .done a p v).2.manager.adminPolicies x q =
      if x = a ∧ q = p then entry v else lookup₂ s.manager.adminPolicies x q := by
  unfold writeAdmin deleteAdminPolicy setAdminPolicy
  split
  · rename_i hv
    rw [hv, entry_empty]
    dsimp only
    split
    · rename_i ha
      split
      · rename_i h
        rw [h.1, lookup₂_none ha]
      · rfl
    · rename_i items ha
      rw [deleteAdminList_adminPolicies, lookup₂_storeInner, lookup_erase_eq]
      by_cases hx : x = a
      · subst hx
        rw [lookup₂_some ha]
        by_cases hq : q = p <;> simp [hq]
      · simp [hx]
  · rename_i hv
    rw [entry_of_ne hv]
    dsimp only [UserPolicyManager.setAdminList]
    split
    · rename_i ha
      rw [lookup₂_insert, lookup_insert_eq]
      by_cases hx : x = a
      · subst hx
        rw [lookup₂_none ha]
        by_cases hq : q = p <;> simp [hq]
      · simp [hx]
    · rename_i items ha
      rw [lookup₂_insert, lookup_insert_eq]
      by_cases hx : x = a
      · subst hx
        rw [lookup₂_some ha]
        by_cases hq : q = p <;> simp [hq]
      · simp [hx]

/-- The second index drops a deleted value that the first index holds as well. -/
theorem writeAdmin_done_policyAdmins
    (h : lookup₂ s.manager.adminPolicies a p = lookup₂ s.manager.policyAdmins p a) (q x : String) :
    lookup₂ (s.writeAdmin .done a p v).2.manager.policyAdmins q x =
      if q = p ∧ x = a then entry v else lookup₂ s.manager.policyAdmins q x := by
  unfold writeAdmin deleteAdminPolicy setAdminPolicy
  split
  · rename_i hv
    rw [hv, entry_empty]
    dsimp only
    split
    · rename_i ha
      split
      · rename_i hqx
        rw [hqx.1, hqx.2, ← h, lookup₂_none ha]
      · rfl
    · rw [lookup₂_deleteAdminList]
  · rename_i hv
    rw [entry_of_ne hv]
    dsimp only [UserPolicyManager.setAdminList]
    split <;> rw [lookup₂_put₂]

theorem tidy_writeAdmin_adminPolicies (h : Tidy s.manager.adminPolicies) :
    Tidy (s.writeAdmin write a p v).2.manager.adminPolicies := by
  unfold writeAdmin deleteAdminPolicy setAdminPolicy
  split
  · cases write <;> try exact h
    dsimp only
    split
    · exact h
    · rw [deleteAdminList_adminPolicies]
      exact tidy_storeInner h _ _
  · cases write <;> try exact h
    dsimp only
    split <;> exact tidy_insert h _ (insert_ne_empty _ _ _)

theorem tidy_writeAdmin_policyAdmins (h : Tidy s.manager.policyAdmins) :
    Tidy (s.writeAdmin write a p v).2.manager.policyAdmins := by
  unfold writeAdmin deleteAdminPolicy setAdminPolicy
  split
  · cases write <;> try exact h
    dsimp only
    split
    · exact h
    · exact tidy_deleteAdminList a p h
  · cases write with
    | unavailable => exact h
    | failed => exact tidy_put₂ h _ _ _
    | done =>
      dsimp only
      split <;> exact tidy_put₂ h _ _ _

end Admin

/-! ### Both halves -/

section Set

variable (writes : Writes) (a p v merged : String)

theorem setPolicy_empty_policy : (s.setPolicy writes a "" v merged).2 = s := rfl

theorem setPolicy_of_ne (hp : p ≠ "") :
    (s.setPolicy writes a p v merged).2 =
      if a = "" then (s.writeCombined writes.combined p merged).2
      else ((s.writeCombined writes.combined p merged).2.writeAdmin writes.admin a p v).2 := by
  unfold setPolicy
  simp only [hp, if_false]
  split <;> rfl

end Set

/-! ### Replacing an admin -/

section Replace

variable (write : RdbOutcome) (userId : Int) (a n : String)

theorem replace_of_ne_done (h : write ≠ .done) :
    (s.replacePolicyByAdminName write userId a n).2 = s := by
  cases write <;> first | rfl | contradiction

theorem replace_adminPolicies_absent (h : s.manager.adminPolicies.lookup a = none) :
    (s.replacePolicyByAdminName .done userId a n).2.manager.adminPolicies =
      s.manager.adminPolicies := by
  simp only [replacePolicyByAdminName, h]

/-- The policies of the old admin replace all policies of the new one. -/
theorem replace_adminPolicies (h : s.manager.adminPolicies.lookup a ≠ none) (x q : String) :
    lookup₂ (s.replacePolicyByAdminName .done userId a n).2.manager.adminPolicies x q =
      if x = n then lookup₂ s.manager.adminPolicies a q
      else if x = a then none
      else lookup₂ s.manager.adminPolicies x q := by
  obtain ⟨items, hitems⟩ := Option.ne_none_iff_exists'.mp h
  simp only [replacePolicyByAdminName, hitems, lookup₂_insert, lookup₂_erase, lookup₂_some hitems]

theorem lookup_replaceAdminValue (adminMap : ItemsMap) (x : String) :
    (replaceAdminValue a n adminMap).lookup x =
      match adminMap.lookup a with
      | none => adminMap.lookup x
      | some v => if x = n then some v else if x = a then none else adminMap.lookup x := by
  unfold replaceAdminValue
  cases adminMap.lookup a with
  | none => rfl
  | some v => rw [lookup_insert_eq, lookup_erase_eq]

/-- A policy that the old admin does not hold keeps its entry for the new one. -/
theorem replace_policyAdmins (q x : String) :
    lookup₂ (s.replacePolicyByAdminName .done userId a n).2.manager.policyAdmins q x =
      match lookup₂ s.manager.policyAdmins q a with
      | none => lookup₂ s.manager.policyAdmins q x
      | some v =>
        if x = n then some v else if x = a then none else lookup₂ s.manager.policyAdmins q x := by
  simp only [replacePolicyByAdminName]
  cases hq : s.manager.policyAdmins.lookup q with
  | none => simp [lookup₂, lookup_mapValues, hq]
  | some adminMap =>
    have hq' := lookup_mapValues (replaceAdminValue a n) s.manager.policyAdmins q
    rw [hq, Option.map_some] at hq'
    rw [lookup₂_some hq', lookup₂_some hq, lookup₂_some hq, lookup_replaceAdminValue]

theorem tidy_replace_adminPolicies (h : Tidy s.manager.adminPolicies) :
    Tidy (s.replacePolicyByAdminName write userId a n).2.manager.adminPolicies := by
  cases write <;> try exact h
  simp only [replacePolicyByAdminName]
  split
  · exact h
  · rename_i items hitems
    exact tidy_insert (tidy_erase h a) n (h a items hitems)

theorem tidy_replace_policyAdmins (h : Tidy s.manager.policyAdmins) :
    Tidy (s.replacePolicyByAdminName write userId a n).2.manager.policyAdmins := by
  cases write <;> try exact h
  intro q adminMap hq
  simp only [replacePolicyByAdminName, lookup_mapValues, Option.map_eq_some_iff] at hq
  obtain ⟨old, hold, rfl⟩ := hq
  unfold replaceAdminValue
  split
  · exact h q old hold
  · exact insert_ne_empty _ _ _

end Replace

/-! ### Loading -/

section Init

variable (reads : Reads)

@[simp] theorem init_tables : (s.init reads).tables = s.tables := by
  unfold init
  split <;> rfl

@[simp] theorem init_userIdState :
    (s.init reads).manager.userIdState = s.manager.userIdState := by
  unfold init
  split <;> rfl

/-- `Init` adds to both indexes what they miss, or leaves both. -/
theorem init_indexes (a p : String) :
    ∃ found, (found = none ∨ found = s.tables.adminValue s.manager.userIdState a p) ∧
      lookup₂ (s.init reads).manager.adminPolicies a p =
        (lookup₂ s.manager.adminPolicies a p).or found ∧
      lookup₂ (s.init reads).manager.policyAdmins p a =
        (lookup₂ s.manager.policyAdmins p a).or found := by
  unfold init
  split
  · obtain ⟨h₁, h₂⟩ := lookup₂_queryAdminPolicy s.tables s.manager.userIdState
      (s.manager.adminPolicies, s.manager.policyAdmins) a p
    exact ⟨_, .inr rfl, h₁, h₂⟩
  · exact ⟨none, .inl rfl, by simp, by simp⟩

theorem tidy_init (h₁ : Tidy s.manager.adminPolicies) (h₂ : Tidy s.manager.policyAdmins) :
    Tidy (s.init reads).manager.adminPolicies ∧ Tidy (s.init reads).manager.policyAdmins := by
  unfold init
  split
  · exact tidy_queryAdminPolicy s.tables s.manager.userIdState (_, _) h₁ h₂
  · exact ⟨h₁, h₂⟩

end Init

/-! ### The tables -/

section Tables

variable (a p v : String)

theorem writeCombined_done_tables
    (h : s.manager.combinedPolicies.lookup p = s.tables.combinedValue s.manager.userIdState p)
    (u : Int) (q : String) :
    (s.writeCombined .done p v).2.tables.combinedValue u q =
      if u = s.manager.userIdState ∧ q = p then entry v else s.tables.combinedValue u q := by
  have hkey : ∀ row : CombinedPolicyRow, { row with policyValue := v }.key = row.key := fun _ => rfl
  unfold writeCombined deleteCombinedPolicy setCombinedPolicy
  split
  · rename_i hv
    rw [hv, entry_empty]
    have hdelete := Table.value_delete CombinedPolicyRow.key CombinedPolicyRow.policyValue
      s.tables.combinedRows (s.manager.userIdState, p) (u, q)
    simp only [Prod.mk.injEq] at hdelete
    exact hdelete
  · rename_i hv
    rw [entry_of_ne hv]
    dsimp only
    split
    · rename_i old hold
      have hupdate := Table.value_update CombinedPolicyRow.key CombinedPolicyRow.policyValue
        s.tables.combinedRows (s.manager.userIdState, p) v hkey (fun _ => rfl) (u, q)
      simp only [Prod.mk.injEq] at hupdate
      refine hupdate.trans ?_
      split
      · rename_i huq
        obtain ⟨rfl, rfl⟩ := huq
        rw [hold] at h
        exact congrArg (Option.map fun _ => v) h.symm
      · rfl
    · rename_i hnone
      have hinsert := Table.value_insert CombinedPolicyRow.key CombinedPolicyRow.policyValue
        s.tables.combinedRows ⟨s.manager.userIdState, p, v⟩ (u, q)
      refine hinsert.trans ?_
      by_cases huq : u = s.manager.userIdState ∧ q = p
      · obtain ⟨rfl, rfl⟩ := huq
        rw [hnone] at h
        have habsent : Table.value CombinedPolicyRow.key CombinedPolicyRow.policyValue
            s.tables.combinedRows (s.manager.userIdState, q) = none := h.symm
        simp [habsent, CombinedPolicyRow.key]
      · have hkey' : ¬(s.manager.userIdState = u ∧ p = q) := fun h => huq ⟨h.1.symm, h.2.symm⟩
        simp [CombinedPolicyRow.key, huq, hkey', PolicyTables.combinedValue]

theorem writeAdmin_done_tables
    (h : lookup₂ s.manager.adminPolicies a p = s.tables.adminValue s.manager.userIdState a p)
    (u : Int) (x q : String) :
    (s.writeAdmin .done a p v).2.tables.adminValue u x q =
      if u = s.manager.userIdState ∧ x = a ∧ q = p then entry v
      else s.tables.adminValue u x q := by
  have hkey : ∀ row : AdminPolicyRow, { row with policyValue := v }.key = row.key := fun _ => rfl
  have hinsert : lookup₂ s.manager.adminPolicies a p = none →
      (s.tables.insertAdminPolicy s.manager.userIdState a p v).adminValue u x q =
        if u = s.manager.userIdState ∧ x = a ∧ q = p then some v
        else s.tables.adminValue u x q := by
    intro hnone
    refine (Table.value_insert AdminPolicyRow.key AdminPolicyRow.policyValue
      s.tables.adminRows ⟨s.manager.userIdState, a, p, v⟩ (u, x, q)).trans ?_
    by_cases hux : u = s.manager.userIdState ∧ x = a ∧ q = p
    · obtain ⟨rfl, rfl, rfl⟩ := hux
      rw [hnone] at h
      have habsent : Table.value AdminPolicyRow.key AdminPolicyRow.policyValue
          s.tables.adminRows (s.manager.userIdState, x, q) = none := h.symm
      simp [habsent, AdminPolicyRow.key]
    · have hkey' : ¬(s.manager.userIdState = u ∧ a = x ∧ p = q) :=
        fun h => hux ⟨h.1.symm, h.2.1.symm, h.2.2.symm⟩
      simp [AdminPolicyRow.key, hux, hkey', PolicyTables.adminValue]
  unfold writeAdmin deleteAdminPolicy setAdminPolicy
  split
  · rename_i hv
    rw [hv, entry_empty]
    have hdelete := Table.value_delete AdminPolicyRow.key AdminPolicyRow.policyValue
      s.tables.adminRows (s.manager.userIdState, a, p) (u, x, q)
    simp only [Prod.mk.injEq] at hdelete
    dsimp only
    split <;> exact hdelete
  · rename_i hv
    rw [entry_of_ne hv]
    dsimp only
    split
    · rename_i ha
      exact hinsert (lookup₂_none ha p)
    · rename_i items ha
      dsimp only
      split
      · rename_i old hold
        have hupdate := Table.value_update AdminPolicyRow.key AdminPolicyRow.policyValue
          s.tables.adminRows (s.manager.userIdState, a, p) v hkey (fun _ => rfl) (u, x, q)
        simp only [Prod.mk.injEq] at hupdate
        refine hupdate.trans ?_
        split
        · rename_i hux
          obtain ⟨rfl, rfl, rfl⟩ := hux
          rw [lookup₂_some ha, hold] at h
          exact congrArg (Option.map fun _ => v) h.symm
        · rfl
      · rename_i hnone
        exact hinsert ((lookup₂_some ha p).trans hnone)

end Tables

/-! ### Stored values -/

/-- No row of an admin's policy holds the empty value. -/
def NoEmptyValue : Prop := s.tables.adminRows.All fun row => row.policyValue ≠ ""

variable {s}

theorem NoEmptyValue.writeCombined (h : s.NoEmptyValue) (write : RdbOutcome) (p v : String) :
    (s.writeCombined write p v).2.NoEmptyValue := by
  unfold NoEmptyValue
  rwa [writeCombined_adminRows]

theorem NoEmptyValue.writeAdmin (h : s.NoEmptyValue) (write : RdbOutcome) (a p v : String) :
    (s.writeAdmin write a p v).2.NoEmptyValue := by
  unfold UserStore.writeAdmin deleteAdminPolicy setAdminPolicy
  split
  · cases write <;> try exact h
    dsimp only
    split <;> exact Table.All.delete h _
  · rename_i hv
    cases write <;> try exact h
    dsimp only
    split
    · exact Table.All.insert h hv
    · dsimp only
      split
      · exact Table.All.update h fun _ _ => hv
      · exact Table.All.insert h hv

theorem NoEmptyValue.replace (h : s.NoEmptyValue) (write : RdbOutcome) (userId : Int)
    (a n : String) : (s.replacePolicyByAdminName write userId a n).2.NoEmptyValue := by
  cases write <;> try exact h
  exact Table.All.update h fun _ hrow => hrow

theorem NoEmptyValue.adminValue_ne (h : s.NoEmptyValue) {userId : Int} {a p v : String}
    (hv : s.tables.adminValue userId a p = some v) : v ≠ "" := by
  obtain ⟨row, hrow, rfl⟩ := Option.map_eq_some_iff.mp hv
  exact h row (List.mem_of_find?_eq_some hrow)

end UserStore

end Edm
