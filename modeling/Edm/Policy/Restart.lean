import Edm.Policy.Indexes

/-! The maps of `UserPolicyManager` as a cache of the tables.  A restart reads the maps back from the
tables; it finds the maps that were there exactly while no write has separated the two. -/

set_option autoImplicit false

namespace Edm

open Library Library.UnorderedMap

/-- The manager that a restart builds for a user. -/
def reload (u : Int) (t : PolicyTables) : UserPolicyManager :=
  ((⟨UserPolicyManager.new u, t⟩ : UserStore).init ⟨true, true, true⟩).manager

/-- The maps hold, entry by entry, what the tables hold for the user. -/
structure Mirrors (u : Int) (m : UserPolicyManager) (t : PolicyTables) : Prop where
  userIdState : m.userIdState = u
  adminPolicies : ∀ a p, lookup₂ m.adminPolicies a p = t.adminValue u a p
  policyAdmins : ∀ p a, lookup₂ m.policyAdmins p a = t.adminValue u a p
  combinedPolicies : ∀ p, m.combinedPolicies.lookup p = t.combinedValue u p
  adminPolicies_tidy : Tidy m.adminPolicies
  policyAdmins_tidy : Tidy m.policyAdmins

theorem mirrors_reload (u : Int) (t : PolicyTables) : Mirrors u (reload u t) t := by
  have hindexes := lookup₂_queryAdminPolicy t u (∅, ∅)
  have htidy := tidy_queryAdminPolicy t u (∅, ∅) tidy_empty tidy_empty
  exact {
    userIdState := rfl
    adminPolicies := fun a p => (hindexes a p).1.trans (by simp)
    policyAdmins := fun p a => (hindexes a p).2.trans (by simp)
    combinedPolicies := fun p => (lookup_queryCombinedPolicy t u ∅ p).trans (by simp)
    adminPolicies_tidy := htidy.1
    policyAdmins_tidy := htidy.2 }

theorem Mirrors.unique {u : Int} {m m' : UserPolicyManager} {t : PolicyTables}
    (h : Mirrors u m t) (h' : Mirrors u m' t) : m = m' := by
  obtain ⟨uid, combined, admins, policies⟩ := m
  obtain ⟨uid', combined', admins', policies'⟩ := m'
  have huid : uid = uid' := h.userIdState.trans h'.userIdState.symm
  have hcombined : combined = combined' := Finmap.ext_lookup fun p =>
    (h.combinedPolicies p).trans (h'.combinedPolicies p).symm
  have hadmins : admins = admins' := h.adminPolicies_tidy.ext h'.adminPolicies_tidy fun a p =>
    (h.adminPolicies a p).trans (h'.adminPolicies a p).symm
  have hpolicies : policies = policies' := h.policyAdmins_tidy.ext h'.policyAdmins_tidy fun p a =>
    (h.policyAdmins p a).trans (h'.policyAdmins p a).symm
  rw [huid, hcombined, hadmins, hpolicies]

/-- A restart finds the maps of `m` exactly when `m` mirrors the tables. -/
theorem reload_eq_iff {u : Int} {m : UserPolicyManager} {t : PolicyTables} :
    reload u t = m ↔ Mirrors u m t := by
  constructor
  · rintro rfl
    exact mirrors_reload u t
  · intro h
    exact (mirrors_reload u t).unique h

theorem Mirrors.lookup_eq_none_iff {u : Int} {m : UserPolicyManager} {t : PolicyTables}
    (h : Mirrors u m t) (a : String) :
    m.adminPolicies.lookup a = none ↔ ∀ p, t.adminValue u a p = none := by
  constructor
  · intro hnone p
    rw [← h.adminPolicies, lookup₂_none hnone]
  · intro hnone
    exact h.adminPolicies_tidy.lookup_eq_none fun p => by rw [h.adminPolicies, hnone]

theorem Mirrors.inverse {u : Int} {m : UserPolicyManager} {t : PolicyTables}
    (h : Mirrors u m t) (a p : String) :
    lookup₂ m.adminPolicies a p = lookup₂ m.policyAdmins p a :=
  (h.adminPolicies a p).trans (h.policyAdmins p a).symm

/-- Tables that hold the same for the user are mirrored alike. -/
theorem Mirrors.congr {u : Int} {m : UserPolicyManager} {t t' : PolicyTables} (h : Mirrors u m t)
    (hadmin : ∀ a p, t'.adminValue u a p = t.adminValue u a p)
    (hcombined : ∀ p, t'.combinedValue u p = t.combinedValue u p) : Mirrors u m t' where
  userIdState := h.userIdState
  adminPolicies a p := (h.adminPolicies a p).trans (hadmin a p).symm
  policyAdmins p a := (h.policyAdmins p a).trans (hadmin a p).symm
  combinedPolicies p := (h.combinedPolicies p).trans (hcombined p).symm
  adminPolicies_tidy := h.adminPolicies_tidy
  policyAdmins_tidy := h.policyAdmins_tidy

/-! ### The two halves of `SetPolicy` -/

section Halves

variable {s : UserStore} {u : Int}

theorem mirrors_writeCombined (h : Mirrors u s.manager s.tables) (write : RdbOutcome)
    (p v : String) :
    Mirrors u (s.writeCombined write p v).2.manager (s.writeCombined write p v).2.tables := by
  by_cases hwrite : write = .done
  · subst hwrite
    have huid := h.userIdState
    have htables := s.writeCombined_done_tables p v (by rw [huid]; exact h.combinedPolicies p) u
    have hadmin : ∀ a q, (s.writeCombined .done p v).2.tables.adminValue u a q =
        s.tables.adminValue u a q := fun a q => by
      rw [PolicyTables.adminValue, UserStore.writeCombined_adminRows]
      rfl
    exact {
      userIdState := by simpa using huid
      adminPolicies := fun a q => by
        rw [UserStore.writeCombined_adminPolicies, hadmin, h.adminPolicies]
      policyAdmins := fun q a => by
        rw [UserStore.writeCombined_policyAdmins, hadmin, h.policyAdmins]
      combinedPolicies := fun q => by
        rw [UserStore.writeCombined_done_lookup, htables q, h.combinedPolicies, huid]
        simp
      adminPolicies_tidy := by simpa using h.adminPolicies_tidy
      policyAdmins_tidy := by simpa using h.policyAdmins_tidy }
  · rw [s.writeCombined_of_ne_done write p v hwrite]
    exact h

theorem mirrors_writeAdmin_done (h : Mirrors u s.manager s.tables) (a p v : String) :
    Mirrors u (s.writeAdmin .done a p v).2.manager (s.writeAdmin .done a p v).2.tables := by
  have huid := h.userIdState
  have htables := s.writeAdmin_done_tables a p v (by rw [huid]; exact h.adminPolicies a p) u
  exact {
    userIdState := by simpa using huid
    adminPolicies := fun x q => by
      rw [UserStore.writeAdmin_done_adminPolicies, htables, h.adminPolicies, huid]
      simp
    policyAdmins := fun q x => by
      rw [UserStore.writeAdmin_done_policyAdmins s a p v (h.inverse a p), htables,
        h.policyAdmins, huid]
      simp [and_comm]
    combinedPolicies := fun q => by
      rw [UserStore.writeAdmin_combinedPolicies, PolicyTables.combinedValue,
        UserStore.writeAdmin_combinedRows]
      exact h.combinedPolicies q
    adminPolicies_tidy := s.tidy_writeAdmin_adminPolicies .done a p v h.adminPolicies_tidy
    policyAdmins_tidy := s.tidy_writeAdmin_policyAdmins .done a p v h.policyAdmins_tidy }

theorem mirrors_writeAdmin (h : Mirrors u s.manager s.tables) (write : RdbOutcome)
    (a p v : String) :
    Mirrors u (s.writeAdmin write a p v).2.manager (s.writeAdmin write a p v).2.tables ↔
      v = "" ∨ write ≠ .failed ∨ lookup₂ s.manager.adminPolicies a p = some v := by
  cases write with
  | unavailable => simpa [UserStore.writeAdmin_unavailable] using h
  | done => simpa using mirrors_writeAdmin_done h a p v
  | failed =>
    by_cases hv : v = ""
    · simpa [UserStore.writeAdmin_failed, hv] using h
    · rw [UserStore.writeAdmin_failed, if_neg hv]
      simp only [hv, ne_eq, not_true_eq_false, false_or]
      constructor
      · intro h'
        have hpolicy := h'.policyAdmins p a
        rw [UserPolicyManager.setAdminList, lookup₂_put₂, if_pos ⟨rfl, rfl⟩,
          ← h.adminPolicies] at hpolicy
        exact hpolicy.symm
      · intro hstored
        refine { h with
          policyAdmins := fun q x => ?_, policyAdmins_tidy := tidy_put₂ h.policyAdmins_tidy _ _ _ }
        simp only [UserPolicyManager.setAdminList, lookup₂_put₂]
        split
        · rename_i hqx
          rw [hqx.1, hqx.2, ← h.adminPolicies, hstored]
        · exact h.policyAdmins q x

end Halves

/-! ### Replacing an admin -/

section Replace

variable {s : UserStore} {u : Int}

/-- The user's maps after its own manager replaced `a` by `n`. -/
theorem mirrors_replace_own (h : Mirrors u s.manager s.tables) (a n : String) :
    Mirrors u (s.replacePolicyByAdminName .done u a n).2.manager
        (s.replacePolicyByAdminName .done u a n).2.tables ↔
      a = n ∨ s.manager.adminPolicies.lookup a = none ∨
        ∀ p, s.tables.mergedValue u a n p = lookup₂ s.manager.adminPolicies a p := by
  have htables : ∀ x q, (s.replacePolicyByAdminName .done u a n).2.tables.adminValue u x q =
      if x = n then s.tables.mergedValue u a n q
      else if x = a then none else s.tables.adminValue u x q := fun x q => by
    have hreplace := s.tables.adminValue_replace u u a n x q
    simp only [true_and] at hreplace
    exact hreplace
  have hpolicy := s.replace_policyAdmins u a n
  have htidy₁ := s.tidy_replace_adminPolicies .done u a n h.adminPolicies_tidy
  have htidy₂ := s.tidy_replace_policyAdmins .done u a n h.policyAdmins_tidy
  by_cases habsent : s.manager.adminPolicies.lookup a = none
  · refine iff_of_true ?_ (.inr (.inl habsent))
    have hnone := (h.lookup_eq_none_iff a).mp habsent
    have hsame : ∀ x q, (s.replacePolicyByAdminName .done u a n).2.tables.adminValue u x q =
        s.tables.adminValue u x q := fun x q => by
      rw [htables]
      split
      · rename_i hx
        rw [hx, s.tables.mergedValue_of_absent hnone]
      · split
        · rename_i hx
          rw [hx, hnone]
        · rfl
    exact {
      userIdState := h.userIdState
      adminPolicies := fun x q => by
        rw [s.replace_adminPolicies_absent u a n habsent, hsame, h.adminPolicies]
      policyAdmins := fun q x => by
        rw [hpolicy, hsame, h.policyAdmins q a, hnone, h.policyAdmins]
      combinedPolicies := h.combinedPolicies
      adminPolicies_tidy := htidy₁
      policyAdmins_tidy := htidy₂ }
  · have hadmin := s.replace_adminPolicies u a n habsent
    constructor
    · intro h'
      by_cases han : a = n
      · exact .inl han
      · refine .inr (.inr fun p => ?_)
        have hnew := h'.adminPolicies n p
        rw [hadmin, htables, if_pos rfl, if_pos rfl] at hnew
        exact hnew.symm
    · intro hsafe
      have hmerged : ∀ p, s.tables.mergedValue u a n p = lookup₂ s.manager.adminPolicies a p := by
        rcases hsafe with rfl | hnone | hmerged
        · intro p
          rw [s.tables.mergedValue_self, h.adminPolicies]
        · contradiction
        · exact hmerged
      exact {
        userIdState := h.userIdState
        adminPolicies := fun x q => by rw [hadmin, htables, hmerged, h.adminPolicies x]
        policyAdmins := fun q x => by
          rw [hpolicy, htables, hmerged, h.policyAdmins q a, h.policyAdmins q x,
            h.adminPolicies a q]
          cases ha : s.tables.adminValue u a q with
          | some v => rfl
          | none =>
            have hx := s.tables.adminValue_of_merged_none
              ((hmerged q).trans ((h.adminPolicies a q).trans ha))
            by_cases hxn : x = n
            · simp [hxn, hx]
            · by_cases hxa : x = a
              · simp [hxa, ha]
              · simp [hxn, hxa]
        combinedPolicies := h.combinedPolicies
        adminPolicies_tidy := htidy₁
        policyAdmins_tidy := htidy₂ }

/-- Replacing an admin in the rows of another user leaves this user's rows as they were. -/
theorem adminValue_replace_other (t : PolicyTables) {userId : Int} (hu : u ≠ userId)
    (a n x q : String) :
    (t.replaceAdminPolicy userId a n).adminValue u x q = t.adminValue u x q := by
  simpa [hu] using t.adminValue_replace u userId a n x q

/-- Replacing `a` in the rows of a user whose manager did not: the manager has to have no `a`. -/
theorem mirrors_replaced_rows {m : UserPolicyManager} {t : PolicyTables} (h : Mirrors u m t)
    (a n : String) :
    Mirrors u m (t.replaceAdminPolicy u a n) ↔ a = n ∨ m.adminPolicies.lookup a = none := by
  have hreplace := t.adminValue_replace u u a n
  simp only [true_and] at hreplace
  constructor
  · intro h'
    by_contra hsafe
    obtain ⟨han, habsent⟩ := not_or.mp hsafe
    refine habsent ((h'.lookup_eq_none_iff a).mpr fun p => ?_)
    rw [hreplace, if_neg han, if_pos rfl]
  · intro hsafe
    refine h.congr (fun x q => ?_) fun _ => rfl
    rw [hreplace]
    rcases hsafe with rfl | habsent
    · by_cases hx : x = a
      · simp [hx, t.mergedValue_self]
      · simp [hx]
    · have hnone := (h.lookup_eq_none_iff a).mp habsent
      by_cases hxn : x = n
      · simp [hxn, t.mergedValue_of_absent hnone]
      · by_cases hxa : x = a
        · rw [if_neg hxn, if_pos hxa, hxa, hnone]
        · simp [hxn, hxa]

/-- The user's maps after its manager replaced `a` by `n` in the rows of another user. -/
theorem mirrors_replace_other (h : Mirrors u s.manager s.tables) {userId : Int} (hu : u ≠ userId)
    (a n : String) :
    Mirrors u (s.replacePolicyByAdminName .done userId a n).2.manager
        (s.replacePolicyByAdminName .done userId a n).2.tables ↔
      a = n ∨ s.manager.adminPolicies.lookup a = none := by
  have htables : ∀ x q, (s.replacePolicyByAdminName .done userId a n).2.tables.adminValue u x q =
      s.tables.adminValue u x q := adminValue_replace_other s.tables hu a n
  have hpolicy := s.replace_policyAdmins userId a n
  have htidy₁ := s.tidy_replace_adminPolicies .done userId a n h.adminPolicies_tidy
  have htidy₂ := s.tidy_replace_policyAdmins .done userId a n h.policyAdmins_tidy
  by_cases habsent : s.manager.adminPolicies.lookup a = none
  · refine iff_of_true ?_ (.inr habsent)
    have hnone := (h.lookup_eq_none_iff a).mp habsent
    exact {
      userIdState := h.userIdState
      adminPolicies := fun x q => by
        rw [s.replace_adminPolicies_absent userId a n habsent, htables, h.adminPolicies]
      policyAdmins := fun q x => by
        rw [hpolicy, htables, h.policyAdmins q a, hnone, h.policyAdmins]
      combinedPolicies := h.combinedPolicies
      adminPolicies_tidy := htidy₁
      policyAdmins_tidy := htidy₂ }
  · have hadmin := s.replace_adminPolicies userId a n habsent
    constructor
    · intro h'
      by_contra hsafe
      obtain ⟨han, -⟩ := not_or.mp hsafe
      refine habsent ((h.lookup_eq_none_iff a).mpr fun p => ?_)
      have hold := h'.adminPolicies a p
      rw [hadmin, htables, if_neg han, if_pos rfl] at hold
      exact hold.symm
    · intro hsafe
      have han : a = n := hsafe.resolve_right habsent
      subst han
      exact {
        userIdState := h.userIdState
        adminPolicies := fun x q => by
          rw [hadmin, htables, h.adminPolicies, h.adminPolicies]
          split
          · rename_i hx
            rw [hx]
          · rfl
        policyAdmins := fun q x => by
          rw [hpolicy, htables, h.policyAdmins q a, h.policyAdmins q x]
          cases ha : s.tables.adminValue u a q with
          | none => rfl
          | some v =>
            dsimp only
            split
            · rename_i hx
              rw [hx, ha]
            · rfl
        combinedPolicies := h.combinedPolicies
        adminPolicies_tidy := htidy₁
        policyAdmins_tidy := htidy₂ }

end Replace

/-! ### Runs -/

/-- Every user's manager and the tables, after a restart. -/
def Stores.load (t : PolicyTables) : Stores := ⟨t, fun u => reload u t⟩

def Stores.write (s : Stores) (c : Int × PolicyWrite) : Stores :=
  s.setUser c.1 (c.2.apply (s.user c.1))

/-- A restart would find what every manager holds. -/
def Stores.RefinesTables (s : Stores) : Prop := ∀ u, reload u s.tables = s.manager u

/-- The writes of user `u`'s manager that a restart would find. -/
def PolicyWrite.KeepsRefinement (s : Stores) (u : Int) : PolicyWrite → Prop
  | .setPolicy writes a p v _ =>
    p = "" ∨ a = "" ∨ v = "" ∨ writes.admin ≠ .failed ∨
      lookup₂ (s.manager u).adminPolicies a p = some v
  | .replacePolicyByAdminName write userId a n =>
    write ≠ .done ∨ a = n ∨
      ((s.manager u).adminPolicies.lookup a = none ∧
        (s.manager userId).adminPolicies.lookup a = none) ∨
      (userId = u ∧
        ∀ p, s.tables.mergedValue u a n p = lookup₂ (s.manager u).adminPolicies a p)

/-- A write that leaves another user's rows as they were leaves that user's manager a mirror. -/
theorem refinesTables_setUser {s : Stores} (h : s.RefinesTables) (u : Int) {r : UserStore}
    (hadmin : ∀ u' a p, u' ≠ u → r.tables.adminValue u' a p = s.tables.adminValue u' a p)
    (hcombined : ∀ u' p, u' ≠ u → r.tables.combinedValue u' p = s.tables.combinedValue u' p) :
    (s.setUser u r).RefinesTables ↔ Mirrors u r.manager r.tables := by
  constructor
  · intro h'
    have hu := reload_eq_iff.mp (h' u)
    rwa [Stores.setUser_manager_self] at hu
  · intro hu u'
    rw [reload_eq_iff]
    by_cases hu' : u' = u
    · subst hu'
      rwa [Stores.setUser_manager_self]
    · rw [Stores.setUser_manager_of_ne s hu']
      exact (reload_eq_iff.mp (h u')).congr (fun a p => hadmin u' a p hu')
        fun p => hcombined u' p hu'

theorem adminValue_writeAdmin_other {s : UserStore} {u u' : Int}
    (h : Mirrors u s.manager s.tables) (hu : u' ≠ u) (write : RdbOutcome) (a p v x q : String) :
    (s.writeAdmin write a p v).2.tables.adminValue u' x q = s.tables.adminValue u' x q := by
  cases write with
  | unavailable => rw [UserStore.writeAdmin_unavailable]
  | failed =>
    rw [UserStore.writeAdmin_failed]
    split <;> rfl
  | done =>
    have hheld := h.adminPolicies a p
    rw [← h.userIdState] at hheld hu
    rw [s.writeAdmin_done_tables a p v hheld]
    simp [hu]

theorem combinedValue_writeCombined_other {s : UserStore} {u u' : Int}
    (h : Mirrors u s.manager s.tables) (hu : u' ≠ u) (write : RdbOutcome) (p v q : String) :
    (s.writeCombined write p v).2.tables.combinedValue u' q = s.tables.combinedValue u' q := by
  by_cases hwrite : write = .done
  · subst hwrite
    have hheld := h.combinedPolicies p
    rw [← h.userIdState] at hheld hu
    rw [s.writeCombined_done_tables p v hheld]
    simp [hu]
  · rw [s.writeCombined_of_ne_done write p v hwrite]

theorem refinesTables_setPolicy {s : Stores} (h : s.RefinesTables) (u : Int) (writes : Writes)
    (a p v merged : String) :
    (s.write (u, .setPolicy writes a p v merged)).RefinesTables ↔
      PolicyWrite.KeepsRefinement s u (.setPolicy writes a p v merged) := by
  have hu : Mirrors u (s.user u).manager (s.user u).tables := reload_eq_iff.mp (h u)
  by_cases hp : p = ""
  · subst hp
    refine iff_of_true ?_ (.inl rfl)
    exact (refinesTables_setUser h u (r := s.user u) (fun _ _ _ _ => rfl) fun _ _ _ => rfl).mpr hu
  have hcombined := mirrors_writeCombined hu writes.combined p merged
  have hvalues : ∀ u' q, u' ≠ u →
      ((s.user u).writeCombined writes.combined p merged).2.tables.combinedValue u' q =
        s.tables.combinedValue u' q := fun u' q hu' =>
    combinedValue_writeCombined_other hu hu' writes.combined p merged q
  have hrows : ∀ u' x q,
      ((s.user u).writeCombined writes.combined p merged).2.tables.adminValue u' x q =
        s.tables.adminValue u' x q := fun u' x q => by
    rw [PolicyTables.adminValue, UserStore.writeCombined_adminRows]
    rfl
  rw [Stores.write, PolicyWrite.apply, UserStore.setPolicy_of_ne _ writes a p v merged hp]
  by_cases ha : a = ""
  · rw [if_pos ha, refinesTables_setUser h u (fun u' x q _ => hrows u' x q) hvalues]
    exact iff_of_true hcombined (.inr (.inl ha))
  · rw [if_neg ha, refinesTables_setUser h u
      (fun u' x q hu' => by rw [adminValue_writeAdmin_other hcombined hu', hrows])
      (fun u' q hu' => by
        rw [PolicyTables.combinedValue, UserStore.writeAdmin_combinedRows]
        exact hvalues u' q hu'),
      mirrors_writeAdmin hcombined]
    simp [PolicyWrite.KeepsRefinement, hp, ha, Stores.user]

theorem refinesTables_replace {s : Stores} (h : s.RefinesTables) (u : Int) (write : RdbOutcome)
    (userId : Int) (a n : String) :
    (s.write (u, .replacePolicyByAdminName write userId a n)).RefinesTables ↔
      PolicyWrite.KeepsRefinement s u (.replacePolicyByAdminName write userId a n) := by
  have hmirrors : ∀ u, Mirrors u (s.user u).manager (s.user u).tables := fun u =>
    reload_eq_iff.mp (h u)
  rw [Stores.write, PolicyWrite.apply]
  by_cases hwrite : write = .done
  · subst hwrite
    by_cases huid : userId = u
    · subst huid
      rw [refinesTables_setUser h userId
        (fun u' x q hu' => adminValue_replace_other s.tables hu' a n x q) fun _ _ _ => rfl,
        mirrors_replace_own (hmirrors userId)]
      simp [PolicyWrite.KeepsRefinement, Stores.user]
    · have hother : ∀ u', u' ≠ userId → ∀ x q,
          (s.tables.replaceAdminPolicy userId a n).adminValue u' x q = s.tables.adminValue u' x q :=
        fun u' hu' x q => adminValue_replace_other s.tables hu' a n x q
      have hcaller := mirrors_replace_other (hmirrors u) (Ne.symm huid) a n
      have hnamed := mirrors_replaced_rows (hmirrors userId) a n
      simp only [PolicyWrite.KeepsRefinement, ne_eq, not_true_eq_false, false_or, huid, false_and,
        or_false]
      constructor
      · intro h'
        have hu := reload_eq_iff.mp (h' u)
        have huserId := reload_eq_iff.mp (h' userId)
        rw [Stores.setUser_manager_self] at hu
        rw [Stores.setUser_manager_of_ne s huid] at huserId
        by_cases han : a = n
        · exact .inl han
        · exact .inr ⟨(hcaller.mp hu).resolve_left han, (hnamed.mp huserId).resolve_left han⟩
      · intro hsafe u'
        rw [reload_eq_iff]
        by_cases hu' : u' = u
        · subst hu'
          rw [Stores.setUser_manager_self]
          exact hcaller.mpr (hsafe.imp_right And.left)
        · rw [Stores.setUser_manager_of_ne s hu']
          by_cases huserId : u' = userId
          · subst huserId
            exact hnamed.mpr (hsafe.imp_right And.right)
          · exact (hmirrors u').congr (hother u' huserId) fun _ => rfl
  · rw [UserStore.replace_of_ne_done _ write userId a n hwrite]
    refine iff_of_true ?_ (.inl hwrite)
    exact (refinesTables_setUser h u (r := s.user u) (fun _ _ _ _ => rfl)
      fun _ _ _ => rfl).mpr (hmirrors u)

/-- A restart finds what the managers hold throughout a run exactly when every write of the run
keeps it so. -/
theorem always_refinesTables_iff (t : PolicyTables) (writes : List (Int × PolicyWrite)) :
    Always Stores.write Stores.RefinesTables (Stores.load t) writes ↔
      Each Stores.write (fun s w => w.2.KeepsRefinement s w.1) (Stores.load t) writes := by
  refine always_iff_each (I := fun _ => True) (fun _ _ _ _ _ => trivial) ?_ trivial
    (fun _ => rfl) writes
  rintro s ⟨u, w⟩ - h
  cases w with
  | setPolicy writes a p v merged => exact refinesTables_setPolicy h u writes a p v merged
  | replacePolicyByAdminName write userId a n => exact refinesTables_replace h u write userId a n

/-- One insert that fails: a restart loses the value that the second index took. -/
theorem failed_insert_lost_by_restart :
    ¬ ∀ t writes, Always Stores.write Stores.RefinesTables (Stores.load t) writes := by
  intro h
  have hbroken := (h PolicyTables.empty
    [(100, .setPolicy ⟨.done, .failed⟩ "com.admin" "wifi" "on" "on")]).2 100
  have hpolicy := (reload_eq_iff.mp hbroken).policyAdmins "wifi" "com.admin"
  have : some "on" = (none : Option String) := hpolicy
  contradiction

end Edm
