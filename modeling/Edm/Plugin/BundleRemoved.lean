import Edm.Plugin.EventPlugin

/-! The removal of a bundle, dispatched to the admins of one user.  What is to become of the lists of
a policy: the entries of the bundle go, and the others stay. -/

set_option autoImplicit false

namespace Edm

open Library

/-- What a plugin keeps for all users. -/
structure UserLists (Modules : Type) where
  stores : Int → UserStore
  modules : Modules
  subscribed : Bool

namespace UserLists

variable {Modules Req Reply Event : Type}

def user (lists : UserLists Modules) (userId : Int) : PluginState Modules :=
  ⟨lists.stores userId, lists.modules, lists.subscribed⟩

/-- The policies of one user are dispatched. -/
def dispatchForAdmins (plugin : EventPlugin Modules Req Reply Event) (order : HashOrder)
    (writes : String → Writes) (event : String → Event) (userId : Int)
    (lists : UserLists Modules) : UserLists Modules :=
  let s := plugin.dispatchForAdmins order writes event (lists.user userId)
  ⟨Function.update lists.stores userId s.store, s.modules, s.subscribed⟩

end UserLists

section Purged

variable {Own Merged : Type} (ownOf : String → Set Own) (mergedOf : String → Set Merged)
  (p : String)

/-- The entries of one user's lists that are gone are those of the bundle. -/
structure ListsPurged (ownGone : Own → Prop) (mergedGone : Merged → Prop) (s s' : UserStore) :
    Prop where
  own : ∀ (admin : AdminName) x,
    x ∈ itemsHeld ownOf p s' admin ↔ x ∈ itemsHeld ownOf p s admin ∧ ¬ownGone x
  combined : ∀ x, x ∈ mergedOf (s'.manager.policyValue "" p) ↔
    x ∈ mergedOf (s.manager.policyValue "" p) ∧ ¬mergedGone x

/-- One user's lists have no entry of the bundle. -/
structure NoneGone (ownGone : Own → Prop) (mergedGone : Merged → Prop) (s : UserStore) : Prop where
  own : ∀ (admin : AdminName) x, x ∈ itemsHeld ownOf p s admin → ¬ownGone x
  combined : ∀ x, x ∈ mergedOf (s.manager.policyValue "" p) → ¬mergedGone x

/-- The entries of all users' lists that are gone are those of the bundle. -/
def Purged (ownGone : Int → Own → Prop) (mergedGone : Int → Merged → Prop)
    (stores stores' : Int → UserStore) : Prop :=
  ∀ userId, ListsPurged ownOf mergedOf p (ownGone userId) (mergedGone userId) (stores userId)
    (stores' userId)

variable {ownOf mergedOf p}

/-- Lists that stay have no entry of the bundle. -/
theorem listsPurged_self {ownGone : Own → Prop} {mergedGone : Merged → Prop} {s : UserStore} :
    ListsPurged ownOf mergedOf p ownGone mergedGone s s ↔
      NoneGone ownOf mergedOf p ownGone mergedGone s := by
  constructor
  · intro h
    exact ⟨fun admin x hx => ((h.own admin x).mp hx).2, fun x hx => ((h.combined x).mp hx).2⟩
  · intro h
    exact ⟨fun admin x => (and_iff_left_of_imp (h.own admin x)).symm,
      fun x => (and_iff_left_of_imp (h.combined x)).symm⟩

/-- Only the lists of the user whose policies are dispatched change. -/
theorem purged_dispatchForAdmins {Modules Req Reply Event : Type}
    (plugin : EventPlugin Modules Req Reply Event) (order : HashOrder) (writes : String → Writes)
    (event : String → Event) (userId : Int) (lists : UserLists Modules)
    {ownGone : Int → Own → Prop} {mergedGone : Int → Merged → Prop} :
    Purged ownOf mergedOf p ownGone mergedGone lists.stores
        (lists.dispatchForAdmins plugin order writes event userId).stores ↔
      ListsPurged ownOf mergedOf p (ownGone userId) (mergedGone userId) (lists.stores userId)
          (plugin.dispatchForAdmins order writes event (lists.user userId)).store ∧
        ∀ other, other ≠ userId →
          NoneGone ownOf mergedOf p (ownGone other) (mergedGone other) (lists.stores other) := by
  have hself : (lists.dispatchForAdmins plugin order writes event userId).stores userId =
      (plugin.dispatchForAdmins order writes event (lists.user userId)).store :=
    Function.update_self ..
  have hother : ∀ other, other ≠ userId →
      (lists.dispatchForAdmins plugin order writes event userId).stores other =
        lists.stores other := fun other hne => Function.update_of_ne hne ..
  constructor
  · intro h
    refine ⟨hself ▸ h userId, fun other hne => ?_⟩
    have hstay := h other
    rw [hother other hne] at hstay
    exact listsPurged_self.mp hstay
  · rintro ⟨hdispatched, hothers⟩ other
    by_cases hne : other = userId
    · rw [hne, hself]
      exact hdispatched
    · rw [hother other hne]
      exact listsPurged_self.mpr (hothers other hne)

end Purged

end Edm
