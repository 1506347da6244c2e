import Edm.Plugin.Values

/-! Which admin holds which policies of a user.  Whatever is written, the second index lists every
admin that holds a policy, so that a removal which succeeds leaves the admin without it. -/

set_option autoImplicit false

namespace Edm

open Library Library.UnorderedMap

namespace UserPolicyManager

variable (m : UserPolicyManager)

/-- The admin has a value for the policy. -/
def Holds (adminName policyName : String) : Prop :=
  lookup₂ m.adminPolicies adminName policyName ≠ none

/-- The second index lists the admins that hold a policy. -/
def Listed : Prop :=
  ∀ adminName policyName, m.Holds adminName policyName →
    lookup₂ m.policyAdmins policyName adminName ≠ none

theorem listed_new (userId : Int) : (UserPolicyManager.new userId).Listed := by
  intro adminName policyName h
  exact absurd (lookup₂_empty _ _) h

end UserPolicyManager

namespace UserStore

variable {s : UserStore} {writes : Writes} {write : RdbOutcome} {a p v merged : String}

/-- Only the entry that is written changes in the second index. -/
theorem writeAdmin_policyAdmins_of_ne {q x : String} (h : ¬(q = p ∧ x = a)) :
    lookup₂ (s.writeAdmin write a p v).2.manager.policyAdmins q x =
      lookup₂ s.manager.policyAdmins q x := by
  unfold writeAdmin deleteAdminPolicy setAdminPolicy
  split
  · cases write <;> try rfl
    dsimp only
    split
    · rfl
    · rw [lookup₂_deleteAdminList, if_neg h]
  · cases write with
    | unavailable => rfl
    | failed =>
      dsimp only [UserPolicyManager.setAdminList]
      rw [lookup₂_put₂, if_neg h]
    | done =>
      dsimp only [UserPolicyManager.setAdminList]
      split <;> rw [lookup₂_put₂, if_neg h]

theorem writeAdmin_policyAdmins_self (h : v ≠ "") (hwrite : write ≠ .unavailable) :
    lookup₂ (s.writeAdmin write a p v).2.manager.policyAdmins p a = some v := by
  unfold writeAdmin setAdminPolicy
  rw [if_neg h]
  cases write with
  | unavailable => exact absurd rfl hwrite
  | failed =>
    dsimp only [UserPolicyManager.setAdminList]
    rw [lookup₂_put₂, if_pos ⟨rfl, rfl⟩]
  | done =>
    dsimp only [UserPolicyManager.setAdminList]
    split <;> rw [lookup₂_put₂, if_pos ⟨rfl, rfl⟩]

theorem writeAdmin_empty_of_ne_done (hv : v = "") (h : write ≠ .done) :
    (s.writeAdmin write a p v).2 = s := by
  cases write with
  | unavailable => exact writeAdmin_unavailable s a p v
  | failed => rw [writeAdmin_failed, if_pos hv]
  | done => exact absurd rfl h

/-- A policy set for no admin changes no value of an admin. -/
theorem setPolicy_unnamed :
    (s.setPolicy writes "" p v merged).2.manager.adminPolicies = s.manager.adminPolicies ∧
      (s.setPolicy writes "" p v merged).2.manager.policyAdmins = s.manager.policyAdmins := by
  by_cases hp : p = ""
  · subst hp
    exact ⟨rfl, rfl⟩
  · rw [setPolicy_of_ne s writes "" p v merged hp, if_pos rfl]
    exact ⟨writeCombined_adminPolicies s _ _ _, writeCombined_policyAdmins s _ _ _⟩

theorem setPolicy_adminPolicies_of_ne {x q : String} (h : ¬(x = a ∧ q = p)) :
    lookup₂ (s.setPolicy writes a p v merged).2.manager.adminPolicies x q =
      lookup₂ s.manager.adminPolicies x q := by
  by_cases hp : p = ""
  · subst hp
    rfl
  · by_cases ha : a = ""
    · subst ha
      rw [setPolicy_unnamed.1]
    · rw [setPolicy_adminPolicies _ _ _ _ ha hp, if_neg fun hx => h hx.2]

/-- An admin holds a policy after it was set only if it did before, or if it was set for it. -/
theorem holds_of_setPolicy {x q : String}
    (h : (s.setPolicy writes a p v merged).2.manager.Holds x q) :
    s.manager.Holds x q ∨ x = a ∧ a ≠ "" ∧ q = p ∧ p ≠ "" ∧ v ≠ "" := by
  by_cases hxq : x = a ∧ q = p
  · by_cases hp : p = ""
    · subst hp
      exact .inl h
    · by_cases ha : a = ""
      · subst ha
        unfold UserPolicyManager.Holds at h
        rw [setPolicy_unnamed.1] at h
        exact .inl h
      · by_cases hv : v = ""
        · unfold UserPolicyManager.Holds at h
          rw [setPolicy_adminPolicies _ _ _ _ ha hp, hv, entry_empty] at h
          split at h
          · exact absurd rfl h
          · exact .inl h
        · exact .inr ⟨hxq.1, ha, hxq.2, hp, hv⟩
  · unfold UserPolicyManager.Holds at h
    rw [setPolicy_adminPolicies_of_ne hxq] at h
    exact .inl h

theorem listed_setPolicy (h : s.manager.Listed) :
    (s.setPolicy writes a p v merged).2.manager.Listed := by
  intro x q hheld
  by_cases hp : p = ""
  · subst hp
    exact h x q hheld
  · by_cases ha : a = ""
    · subst ha
      unfold UserPolicyManager.Holds at hheld
      rw [setPolicy_unnamed.1] at hheld
      rw [setPolicy_unnamed.2]
      exact h x q hheld
    · unfold UserPolicyManager.Holds at hheld
      rw [setPolicy_adminPolicies _ _ _ _ ha hp] at hheld
      rw [setPolicy_of_ne s writes a p v merged hp, if_neg ha]
      by_cases hxq : x = a ∧ q = p
      · by_cases hv : v = ""
        · -- A deletion that takes effect leaves no value, any other leaves the index as it was.
          by_cases hdone : writes.admin = .done
          · rw [if_pos ⟨hdone, hxq⟩, hv] at hheld
            exact absurd entry_empty hheld
          · rw [if_neg fun hx => hdone hx.1] at hheld
            rw [writeAdmin_empty_of_ne_done hv hdone, writeCombined_policyAdmins]
            exact h x q hheld
        · by_cases hunavailable : writes.admin = .unavailable
          · have hne : writes.admin ≠ .done := by rw [hunavailable]; simp
            rw [if_neg fun hx => hne hx.1] at hheld
            rw [hunavailable, writeAdmin_unavailable, writeCombined_policyAdmins]
            exact h x q hheld
          · rw [hxq.1, hxq.2, writeAdmin_policyAdmins_self hv hunavailable]
            exact Option.some_ne_none v
      · rw [writeAdmin_policyAdmins_of_ne fun hx => hxq ⟨hx.2, hx.1⟩, writeCombined_policyAdmins]
        rw [if_neg fun hx => hxq hx.2] at hheld
        exact h x q hheld

/-- After a replacement an admin holds a policy only if it did before, or if it is the new one. -/
theorem holds_of_replace {userId : Int} {n x q : String}
    (h : (s.replacePolicyByAdminName write userId a n).2.manager.Holds x q) :
    s.manager.Holds x q ∨ x = n := by
  by_cases hwrite : write = .done
  · subst hwrite
    unfold UserPolicyManager.Holds at h
    by_cases hlookup : s.manager.adminPolicies.lookup a = none
    · rw [replace_adminPolicies_absent _ _ _ _ hlookup] at h
      exact .inl h
    · rw [replace_adminPolicies _ _ _ _ hlookup] at h
      split at h
      · rename_i hx
        exact .inr hx
      · split at h
        · exact absurd rfl h
        · exact .inl h
  · rw [replace_of_ne_done s write userId a n hwrite] at h
    exact .inl h

/-- The old admin's values are listed under the new name. -/
theorem listed_replace (h : s.manager.Listed) (userId : Int) (n : String) :
    (s.replacePolicyByAdminName write userId a n).2.manager.Listed := by
  by_cases hwrite : write = .done
  · subst hwrite
    intro x q hheld
    unfold UserPolicyManager.Holds at hheld
    rw [replace_policyAdmins]
    by_cases hlookup : s.manager.adminPolicies.lookup a = none
    · rw [replace_adminPolicies_absent _ _ _ _ hlookup] at hheld
      have hlisted := h x q hheld
      have hx : x ≠ a := fun hx => hheld (hx ▸ lookup₂_none hlookup q)
      cases lookup₂ s.manager.policyAdmins q a with
      | none => exact hlisted
      | some w =>
        dsimp only
        split
        · exact Option.some_ne_none w
        · exact hlisted
    · rw [replace_adminPolicies _ _ _ _ hlookup] at hheld
      split at hheld
      · rename_i hx
        have hlisted := h a q hheld
        obtain ⟨w, hw⟩ := Option.ne_none_iff_exists'.mp hlisted
        rw [hw]
        dsimp only
        rw [if_pos hx]
        exact Option.some_ne_none w
      · rename_i hn
        split at hheld
        · exact absurd rfl hheld
        · rename_i hx
          have hlisted := h x q hheld
          cases lookup₂ s.manager.policyAdmins q a with
          | none => exact hlisted
          | some w =>
            dsimp only
            rw [if_neg hn, if_neg hx]
            exact hlisted
  · rw [replace_of_ne_done s write userId a n hwrite]
    exact h

end UserStore

end Edm
