import Edm.Ability.RemoveAdmin
import Edm.Library.Run

/-! Runs of the device: updates, events, removals of admins and any other writes of admins and
policies, one after the other.  A run in which no write of an admin's value fails keeps what the
managers hold and what a restart would find the same. -/

set_option autoImplicit false

namespace Edm

open Library Library.UnorderedMap

/-- An operation on the device, with what becomes of its statements.  `write` is a call to the
manager of a user by any other part of the service. -/
inductive DeviceOp (Req Reply Event : Type) where
  | updateDevicePolicy (writes : Writes) (code : UInt32) (bundleName : AdminName) (request : Req)
      (userId : Int)
  | dispatchForAdmins (writes : String → Writes) (code : UInt32) (event : Event) (userId : Int)
  | write (userId : Int) (call : PolicyWrite)
  | admin (op : AdminOp)
  | removeAdmin (removal : Removal Reply)

section

variable {Modules Req Reply Event : Type} (C : CJson) (order : HashOrder)
  (plugins : PluginTable Modules Req Reply Event)

/-- The operations whose writes of admins' values take effect, or leave both indexes and the rows as
they were. -/
def DeviceOp.KeepsRefinement (d : Device Modules) : DeviceOp Req Reply Event → Prop
  | .updateDevicePolicy writes _ _ _ _ => writes.admin ≠ .failed
  | .dispatchForAdmins writes _ _ _ => ∀ adminName, (writes adminName).admin ≠ .failed
  | .write userId call => call.KeepsRefinement d.policies userId
  | .admin _ => True
  | .removeAdmin _ => True

end

/-! ### What the calls of a plugin write -/

namespace PluginManager

variable {Modules Req Reply Event : Type} (plugin : Plugin Modules Req Reply Event)
  (s : PluginState Modules) (writes : Writes)

theorem updateDevicePolicy_store (bundleName : String) (req : Req) :
    (updateDevicePolicy plugin s writes bundleName req).2.store = s.store ∨
      ∃ v merged, (updateDevicePolicy plugin s writes bundleName req).2.store =
        (s.store.setPolicy writes bundleName plugin.policyName v merged).2 := by
  unfold updateDevicePolicy
  generalize plugin.onHandlePolicy s.store.manager s.modules req
    (handlePolicyData plugin s bundleName) = r
  obtain ⟨ret, modules, handled⟩ := r
  dsimp only
  split
  · exact .inl rfl
  · split
    · exact .inr ⟨handled.policyData, handled.mergePolicyData, rfl⟩
    · exact .inl rfl

theorem dispatchForAdmin_store (event : Event) (adminName adminValue : String) :
    (dispatchForAdmin plugin s writes event adminName adminValue).store = s.store ∨
      ∃ v merged, (dispatchForAdmin plugin s writes event adminName adminValue).store =
        (s.store.setPolicy writes adminName plugin.policyName v merged).2 := by
  unfold dispatchForAdmin
  dsimp only
  split
  · exact .inr ⟨_, _, rfl⟩
  · exact .inl rfl

end PluginManager

section

variable {Modules Req Reply Event : Type} {C : CJson} {order : HashOrder}
  {plugins : PluginTable Modules Req Reply Event} {d : Device Modules}

end

/-! ### Removals -/

section

variable {Modules Req Reply Event : Type} (C : CJson) (order : HashOrder)
  (plugins : PluginTable Modules Req Reply Event)
  (merges : String → (AdminName → String) → String → Prop)

end

/-! ### A policy whose plugin does not merge -/

namespace SetAbilityDisablePlugin

/-- The plugin on its own. -/
def plugins (C : CJson) : PluginTable (Finset Ability) Request (String → BundleMgr) Unit :=
  let registered := (plugin C).registered policyName_ne fun _ _ _ _ => rfl
  { pluginsCode := fun code => if code = 1134 then some registered else none
    pluginsName := fun name => if name = registered.policyName then some registered else none
    pluginsName_policyName := by
      intro policyName plugin h
      split at h
      · rename_i hname
        rw [← Option.some.inj h, hname]
      · contradiction }

def disable (bundleName : AdminName) (abilityName : String) :
    DeviceOp Request (String → BundleMgr) Unit :=
  .updateDevicePolicy ⟨.done, .done⟩ (policyFuncCode 1 1134) bundleName
    { operateType := .set, ability := ("com.app", abilityName), isDisable := true
      answer := ⟨true, true, true⟩ } 100

def removal (adminName : AdminName) : Removal (String → BundleMgr) where
  adminName := adminName
  userId := 100
  writes _ := ⟨.done, .done⟩
  reply _ _ := ⟨true, true, true⟩
  deletion := .done

theorem first_ne : "com.first" ≠ "" := by decide

theorem second_ne : "com.second" ≠ "" := by decide

def first : AdminName := ⟨"com.first", first_ne⟩

def second : AdminName := ⟨"com.second", second_ne⟩

/-- The text of one ability of the app. -/
def text (C : CJson) (abilityName : String) : String :=
  ArrayStringSerializer.serialize C [policyItem ("com.app", abilityName)]

section

variable {C : CJson} {order : HashOrder} {d : Device (Finset Ability)}

end

end SetAbilityDisablePlugin

end Edm
