import Edm.Plugin.Values
import Edm.Policy.Restart

/-! The combined policies of all users.  The map of a manager and the rows of the tables change in one
call, so a failing statement does not part them, and a restart reads back what was there. -/

set_option autoImplicit false

namespace Edm

open Library Library.UnorderedMap

namespace UserStore

variable (s : UserStore) (writes : Writes) (a v merged : String) {p : String}

/-- The combined policies after a `SetPolicy`. -/
theorem lookup_setPolicy (hp : p ≠ "") (q : String) :
    (s.setPolicy writes a p v merged).2.manager.combinedPolicies.lookup q =
      if q = p ∧ writes.combined = .done then entry merged
      else s.manager.combinedPolicies.lookup q := by
  have hcombined : (s.setPolicy writes a p v merged).2.manager.combinedPolicies =
      (s.writeCombined writes.combined p merged).2.manager.combinedPolicies := by
    rw [s.setPolicy_of_ne writes a p v merged hp]
    split
    · rfl
    · rw [writeAdmin_combinedPolicies]
  rw [hcombined]
  by_cases hwrite : writes.combined = .done
  · rw [hwrite, s.writeCombined_done_lookup]
    simp
  · rw [s.writeCombined_of_ne_done _ p merged hwrite, if_neg fun h => hwrite h.2]

theorem policyValue_setPolicy (hp : p ≠ "") (q : String) :
    (s.setPolicy writes a p v merged).2.manager.policyValue "" q =
      if q = p ∧ writes.combined = .done then merged else s.manager.policyValue "" q := by
  rw [UserPolicyManager.policyValue_combined, s.lookup_setPolicy writes a v merged hp,
    UserPolicyManager.policyValue_combined]
  split
  · exact entry_getD merged
  · rfl

end UserStore

namespace Stores

/-- The combined policies of every user are those of the tables. -/
structure CombinedMirrored (s : Stores) : Prop where
  userIdState : ∀ u, (s.manager u).userIdState = u
  combinedPolicies : ∀ u p, (s.manager u).combinedPolicies.lookup p = s.tables.combinedValue u p

variable {s : Stores}

theorem CombinedMirrored.setPolicy (h : s.CombinedMirrored) (u : Int) (writes : Writes)
    (a p v merged : String) :
    (s.setUser u ((s.user u).setPolicy writes a p v merged).2).CombinedMirrored := by
  by_cases hp : p = ""
  · subst hp
    rw [UserStore.setPolicy_empty_policy, setUser_user]
    exact h
  · have hu : (s.user u).manager.userIdState = u := h.userIdState u
    have hrows : ∀ u' q, ((s.user u).setPolicy writes a p v merged).2.tables.combinedValue u' q =
        if u' = u ∧ q = p ∧ writes.combined = .done then entry merged
        else s.tables.combinedValue u' q := by
      intro u' q
      have htables : ((s.user u).setPolicy writes a p v merged).2.tables.combinedRows =
          ((s.user u).writeCombined writes.combined p merged).2.tables.combinedRows := by
        rw [(s.user u).setPolicy_of_ne writes a p v merged hp]
        split
        · rfl
        · rw [UserStore.writeAdmin_combinedRows]
      rw [PolicyTables.combinedValue, htables]
      by_cases hwrite : writes.combined = .done
      · have hdone := (s.user u).writeCombined_done_tables p merged
          (by rw [hu]; exact h.combinedPolicies u p) u' q
        rw [hu] at hdone
        rw [hwrite]
        simp only [and_true]
        exact hdone
      · rw [(s.user u).writeCombined_of_ne_done _ p merged hwrite,
          if_neg fun hdone => hwrite hdone.2.2]
        rfl
    refine ⟨fun u' => ?_, fun u' q => ?_⟩
    · by_cases hu' : u' = u
      · subst hu'
        rw [setUser_manager_self, (s.user u').setPolicy_of_ne writes a p v merged hp]
        split
        · rw [UserStore.writeCombined_userIdState]
          exact hu
        · rw [UserStore.writeAdmin_userIdState, UserStore.writeCombined_userIdState]
          exact hu
      · rw [setUser_manager_of_ne s hu']
        exact h.userIdState u'
    · show _ = ((s.user u).setPolicy writes a p v merged).2.tables.combinedValue u' q
      rw [hrows]
      by_cases hu' : u' = u
      · subst hu'
        rw [setUser_manager_self, (s.user u').lookup_setPolicy writes a v merged hp]
        simp only [true_and]
        split
        · rfl
        · exact h.combinedPolicies u' q
      · rw [setUser_manager_of_ne s hu', if_neg fun hdone => hu' hdone.1]
        exact h.combinedPolicies u' q

/-- A call that leaves a user's store, or sets a policy of it. -/
theorem CombinedMirrored.of_store (h : s.CombinedMirrored) {u : Int} {r : UserStore}
    (hr : r = s.user u ∨ ∃ writes a p v merged, r = ((s.user u).setPolicy writes a p v merged).2) :
    (s.setUser u r).CombinedMirrored := by
  rcases hr with rfl | ⟨writes, a, p, v, merged, rfl⟩
  · rw [setUser_user]
    exact h
  · exact h.setPolicy u writes a p v merged

/-- What a restart reads back for a user when its queries succeed. -/
theorem CombinedMirrored.lookup_reload (h : s.CombinedMirrored) (u : Int) (p : String) :
    (reload u s.tables).combinedPolicies.lookup p = (s.manager u).combinedPolicies.lookup p := by
  rw [(mirrors_reload u s.tables).combinedPolicies, h.combinedPolicies]

end Stores

end Edm
