import Edm.Plugin.Manager
import Edm.Policy.Indexes

/-! The values that plugins read and write.  While the indexes are inverse, the values by admin and
the values by policy are the same, and a `SetPolicy` whose writes take effect changes one admin's
value and the combined value. -/

set_option autoImplicit false

namespace Edm

open Library Library.UnorderedMap

namespace UserPolicyManager

variable (m : UserPolicyManager)

theorem policyValue_admin {a : String} (ha : a ≠ "") (p : String) :
    m.policyValue a p = (lookup₂ m.adminPolicies a p).getD "" := by
  unfold policyValue getPolicy getAdminPolicy
  rw [if_neg ha]
  cases lookup₂ m.adminPolicies a p <;> rfl

theorem policyValue_combined (p : String) :
    m.policyValue "" p = (m.combinedPolicies.lookup p).getD "" := by
  unfold policyValue getPolicy getCombinedPolicy
  rw [if_pos rfl]
  cases m.combinedPolicies.lookup p <;> rfl

theorem lookup_adminValues (p a : String) :
    (m.adminValues p).lookup a = lookup₂ m.policyAdmins p a := by
  unfold adminValues getAdminByPolicyName
  cases hp : m.policyAdmins.lookup p with
  | none => simp [lookup₂, hp]
  | some admins => simp [lookup₂, hp]

end UserPolicyManager

@[simp] theorem entry_getD (v : String) : (entry v).getD "" = v := by
  unfold entry
  split
  · rename_i h
    rw [h]
    rfl
  · rfl

/-- The store `s'` is `s` with value `v` for admin `a` and `merged` as the combined value of `p`. -/
structure Saved (s s' : UserStore) (a p v merged : String) : Prop where
  inverse : IndexesInverse s'.manager
  userIdState : s'.manager.userIdState = s.manager.userIdState
  adminPolicies : ∀ x q, lookup₂ s'.manager.adminPolicies x q =
    if x = a ∧ q = p then entry v else lookup₂ s.manager.adminPolicies x q
  combinedPolicies : ∀ q, s'.manager.combinedPolicies.lookup q =
    if q = p then entry merged else s.manager.combinedPolicies.lookup q

section SetPolicy

variable {s : UserStore} {a p v merged : String}

theorem saved_setPolicy (h : IndexesInverse s.manager) (ha : a ≠ "") (hp : p ≠ "")
    (v merged : String) :
    Saved s (s.setPolicy ⟨.done, .done⟩ a p v merged).2 a p v merged := by
  have hcombined : IndexesInverse (s.writeCombined .done p merged).2.manager :=
    UserStore.indexesInverse_writeCombined.mpr h
  rw [UserStore.setPolicy_of_ne s ⟨.done, .done⟩ a p v merged hp, if_neg ha]
  exact {
    inverse := UserStore.indexesInverse_writeAdmin_done hcombined a p v
    userIdState := by simp
    adminPolicies := fun x q => by
      rw [UserStore.writeAdmin_done_adminPolicies, UserStore.writeCombined_adminPolicies]
    combinedPolicies := fun q => by
      rw [UserStore.writeAdmin_combinedPolicies, UserStore.writeCombined_done_lookup] }

theorem Saved.value_self {s' : UserStore} (h : Saved s s' a p v merged) (ha : a ≠ "") :
    s'.manager.policyValue a p = v := by
  rw [UserPolicyManager.policyValue_admin _ ha, h.adminPolicies, if_pos ⟨rfl, rfl⟩, entry_getD]

theorem Saved.value_other {s' : UserStore} (h : Saved s s' a p v merged) {x q : String}
    (hx : x ≠ "") (hne : ¬(x = a ∧ q = p)) :
    s'.manager.policyValue x q = s.manager.policyValue x q := by
  rw [UserPolicyManager.policyValue_admin _ hx, UserPolicyManager.policyValue_admin _ hx,
    h.adminPolicies, if_neg hne]

theorem Saved.value_combined {s' : UserStore} (h : Saved s s' a p v merged) :
    s'.manager.policyValue "" p = merged := by
  rw [UserPolicyManager.policyValue_combined, h.combinedPolicies, if_pos rfl, entry_getD]

/-- The values of the other policies stay. -/
theorem Saved.value_policy {s' : UserStore} (h : Saved s s' a p v merged) {q : String} (hq : q ≠ p)
    (x : String) : s'.manager.policyValue x q = s.manager.policyValue x q := by
  by_cases hx : x = ""
  · rw [hx, UserPolicyManager.policyValue_combined, UserPolicyManager.policyValue_combined,
      h.combinedPolicies, if_neg hq]
  · exact h.value_other hx fun heq => hq heq.2

/-! ### Writes of any outcome -/

variable (s) (writes : Writes) (v merged)

theorem setPolicy_adminPolicies (ha : a ≠ "") (hp : p ≠ "") (x q : String) :
    lookup₂ (s.setPolicy writes a p v merged).2.manager.adminPolicies x q =
      if writes.admin = .done ∧ x = a ∧ q = p then entry v
      else lookup₂ s.manager.adminPolicies x q := by
  rw [UserStore.setPolicy_of_ne s writes a p v merged hp, if_neg ha]
  cases writes.admin with
  | unavailable => simp [UserStore.writeAdmin_unavailable]
  | done => simp [UserStore.writeAdmin_done_adminPolicies]
  | failed =>
    rw [UserStore.writeAdmin_failed]
    split <;> simp [UserPolicyManager.setAdminList]

theorem setPolicy_combinedPolicies (ha : a ≠ "") (hp : p ≠ "") (q : String) :
    (s.setPolicy writes a p v merged).2.manager.combinedPolicies.lookup q =
      if writes.combined = .done ∧ q = p then entry merged
      else s.manager.combinedPolicies.lookup q := by
  rw [UserStore.setPolicy_of_ne s writes a p v merged hp, if_neg ha,
    UserStore.writeAdmin_combinedPolicies]
  by_cases hdone : writes.combined = .done
  · simp [hdone, UserStore.writeCombined_done_lookup]
  · simp [hdone, UserStore.writeCombined_of_ne_done _ _ p merged hdone]

theorem setPolicy_value_self (ha : a ≠ "") (hp : p ≠ "") :
    (s.setPolicy writes a p v merged).2.manager.policyValue a p =
      if writes.admin = .done then v else s.manager.policyValue a p := by
  rw [UserPolicyManager.policyValue_admin _ ha, UserPolicyManager.policyValue_admin _ ha,
    setPolicy_adminPolicies s v merged writes ha hp]
  split <;> simp_all

theorem setPolicy_value_other (ha : a ≠ "") (hp : p ≠ "") {x q : String} (hx : x ≠ "")
    (hne : ¬(x = a ∧ q = p)) :
    (s.setPolicy writes a p v merged).2.manager.policyValue x q = s.manager.policyValue x q := by
  rw [UserPolicyManager.policyValue_admin _ hx, UserPolicyManager.policyValue_admin _ hx,
    setPolicy_adminPolicies s v merged writes ha hp, if_neg fun h => hne h.2]

theorem setPolicy_value_combined (ha : a ≠ "") (hp : p ≠ "") :
    (s.setPolicy writes a p v merged).2.manager.policyValue "" p =
      if writes.combined = .done then merged else s.manager.policyValue "" p := by
  rw [UserPolicyManager.policyValue_combined, UserPolicyManager.policyValue_combined,
    setPolicy_combinedPolicies s v merged writes ha hp]
  split <;> simp_all

theorem setPolicy_indexesInverse (h : IndexesInverse s.manager) (ha : a ≠ "") (hp : p ≠ "") :
    IndexesInverse (s.setPolicy writes a p v merged).2.manager ↔
      v = "" ∨ writes.admin ≠ .failed ∨ lookup₂ s.manager.adminPolicies a p = some v := by
  rw [UserStore.setPolicy_of_ne s writes a p v merged hp, if_neg ha,
    UserStore.indexesInverse_writeAdmin (UserStore.indexesInverse_writeCombined.mpr h),
    UserStore.writeCombined_adminPolicies]

end SetPolicy

/-- Values that all deserialize. -/
theorem mapM_some {Value DT : Type} {deserialize : Value → Option DT} {values : List Value}
    {data : Value → DT} (h : ∀ value, value ∈ values → deserialize value = some (data value)) :
    values.mapM deserialize = some (values.map data) := by
  induction values with
  | nil => rfl
  | cons value values ih =>
    rw [List.mapM_cons, h value List.mem_cons_self,
      ih fun other hother => h other (List.mem_cons_of_mem value hother)]
    rfl

/-- While the indexes are inverse, an admin's entry for a policy is its value. -/
theorem lookup_adminValues_eq {m : UserPolicyManager} (h : IndexesInverse m) {a : String}
    (ha : a ≠ "") (p : String) : (m.adminValues p).lookup a = entry (m.policyValue a p) := by
  rw [m.lookup_adminValues, m.policyValue_admin ha, ← h.inverse]
  cases hv : lookup₂ m.adminPolicies a p with
  | none => rfl
  | some v => exact (entry_of_ne (h.value_ne a p v hv)).symm

end Edm
