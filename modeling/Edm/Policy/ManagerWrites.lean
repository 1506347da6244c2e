import Edm.Plugin.HandlePolicyDone
import Edm.Policy.Combined

/-! `SetPolicy` as a user's manager sees it, without the tables: it changes one policy, and the calls
for two policies may change places. -/

set_option autoImplicit false

namespace Edm

open Library Library.UnorderedMap

namespace UserPolicyManager

variable (m : UserPolicyManager) (writes : Writes) (a p v merged : String)

/-- What `SetPolicy` leaves of a manager. -/
def setPolicy : UserPolicyManager :=
  (UserStore.setPolicy ⟨m, PolicyTables.empty⟩ writes a p v merged).2.manager

/-- What a manager answers about a policy. -/
structure SamePolicy (m m' : UserPolicyManager) (policyName : String) : Prop where
  policyValue : ∀ adminName, m.policyValue adminName policyName = m'.policyValue adminName policyName
  adminValues : m.adminValues policyName = m'.adminValues policyName

theorem SamePolicy.refl (policyName : String) : SamePolicy m m policyName := ⟨fun _ => rfl, rfl⟩

/-- Inverse indexes are known from one of them. -/
theorem ext_of_inverse {m m' : UserPolicyManager} (h : IndexesInverse m) (h' : IndexesInverse m')
    (huser : m.userIdState = m'.userIdState)
    (hcombined : ∀ p, m.combinedPolicies.lookup p = m'.combinedPolicies.lookup p)
    (hadmins : ∀ a p, lookup₂ m.adminPolicies a p = lookup₂ m'.adminPolicies a p) : m = m' := by
  obtain ⟨user, combined, admins, policies⟩ := m
  obtain ⟨user', combined', admins', policies'⟩ := m'
  obtain rfl : user = user' := huser
  obtain rfl : combined = combined' := Finmap.ext_lookup hcombined
  obtain rfl : admins = admins' := h.adminPolicies_tidy.ext h'.adminPolicies_tidy hadmins
  obtain rfl : policies = policies' := by
    refine h.policyAdmins_tidy.ext h'.policyAdmins_tidy fun p a => ?_
    exact (h.inverse a p).symm.trans (h'.inverse a p)
  rfl

variable {m writes a p v merged}

theorem setPolicy_inverse (h : IndexesInverse m) (hwrites : writes.admin ≠ .failed) :
    IndexesInverse (m.setPolicy writes a p v merged) :=
  (indexesInverse_write (s := ⟨m, PolicyTables.empty⟩) h (.setPolicy writes a p v merged)).mpr
    (.inr (.inr (.inr (.inl hwrites))))

theorem setPolicy_user (hp : p ≠ "") :
    (m.setPolicy writes a p v merged).userIdState = m.userIdState := by
  rw [setPolicy, UserStore.setPolicy_of_ne _ writes a p v merged hp]
  split
  · rw [UserStore.writeCombined_userIdState]
  · rw [UserStore.writeAdmin_userIdState, UserStore.writeCombined_userIdState]

theorem setPolicy_combined (hp : p ≠ "") (q : String) :
    (m.setPolicy writes a p v merged).combinedPolicies.lookup q =
      if q = p ∧ writes.combined = .done then entry merged else m.combinedPolicies.lookup q :=
  UserStore.lookup_setPolicy ⟨m, PolicyTables.empty⟩ writes a v merged hp q

theorem setPolicy_admins (hp : p ≠ "") (x q : String) :
    lookup₂ (m.setPolicy writes a p v merged).adminPolicies x q =
      if (a ≠ "" ∧ writes.admin = .done) ∧ x = a ∧ q = p then entry v
      else lookup₂ m.adminPolicies x q := by
  by_cases ha : a = ""
  · rw [if_neg fun h => h.1.1 ha, setPolicy, UserStore.setPolicy_of_ne _ writes a p v merged hp,
      if_pos ha, UserStore.writeCombined_adminPolicies]
  · rw [setPolicy, setPolicy_adminPolicies _ v merged writes ha hp]
    simp [ha]

/-- The other policies stay. -/
theorem setPolicy_samePolicy (h : IndexesInverse m) (hwrites : writes.admin ≠ .failed)
    (hp : p ≠ "") {q : String} (hq : q ≠ p) :
    SamePolicy (m.setPolicy writes a p v merged) m q where
  policyValue x := by
    by_cases hx : x = ""
    · subst hx
      rw [policyValue_combined, policyValue_combined, setPolicy_combined hp,
        if_neg fun heq => hq heq.1]
    · rw [policyValue_admin _ hx, policyValue_admin _ hx, setPolicy_admins hp,
        if_neg fun heq => hq heq.2.2]
  adminValues := by
    refine Finmap.ext_lookup fun x => ?_
    rw [lookup_adminValues, lookup_adminValues, ← (setPolicy_inverse h hwrites).inverse,
      setPolicy_admins hp, if_neg fun heq => hq heq.2.2, h.inverse]

/-- The calls for two policies may change places. -/
theorem setPolicy_comm (h : IndexesInverse m) {writes' : Writes} {a' p' v' merged' : String}
    (hwrites : writes.admin ≠ .failed) (hwrites' : writes'.admin ≠ .failed) (hp : p ≠ "")
    (hp' : p' ≠ "") (hne : p ≠ p') :
    (m.setPolicy writes a p v merged).setPolicy writes' a' p' v' merged' =
      (m.setPolicy writes' a' p' v' merged').setPolicy writes a p v merged := by
  refine ext_of_inverse (setPolicy_inverse (setPolicy_inverse h hwrites) hwrites')
    (setPolicy_inverse (setPolicy_inverse h hwrites') hwrites) ?_ (fun q => ?_) fun x q => ?_
  · rw [setPolicy_user hp', setPolicy_user hp, setPolicy_user hp, setPolicy_user hp']
  · simp only [setPolicy_combined hp, setPolicy_combined hp']
    by_cases hq : q = p
    · subst hq
      simp [hne]
    · simp [hq]
  · simp only [setPolicy_admins hp, setPolicy_admins hp']
    by_cases hq : q = p
    · subst hq
      simp [hne]
    · simp [hq]

end UserPolicyManager

/-- A manager does not depend on the tables behind it. -/
theorem UserStore.setPolicy_manager (s : UserStore) (writes : Writes) (a p v merged : String) :
    (s.setPolicy writes a p v merged).2.manager = s.manager.setPolicy writes a p v merged :=
  (UserStore.setPolicy_same s.manager s.tables PolicyTables.empty writes a p v merged).2

end Edm
