import Mathlib.Data.Finset.Sort
import Mathlib.Data.String.Basic
import Edm.Policy.UserPolicyManager

/-! How `PluginManager` runs a plugin for one user: an update by an admin, the removal of an admin's
value, and the dispatch of an event to every admin that holds the policy. -/

set_option autoImplicit false

namespace Edm

open Library Library.UnorderedMap

/-- The order in which an `std::unordered_map` visits its entries. -/
structure HashOrder where
  entries : ItemsMap → List (String × String)
  enumerates : ∀ m, Enumerates m (entries m)

/-- The entries of a map under the keys of a list. -/
def entriesUnder (m : ItemsMap) (keys : List String) : List (String × String) :=
  keys.filterMap fun key => (m.lookup key).map fun v => (key, v)

theorem enumerates_entriesUnder {m : ItemsMap} {keys : List String} (hnodup : keys.Nodup)
    (hkeys : ∀ key, key ∈ keys ↔ key ∈ m.keys) : Enumerates m (entriesUnder m keys) := by
  have hmem : ∀ a c, (a, c) ∈ entriesUnder m keys ↔ m.lookup a = some c := by
    intro a c
    simp only [entriesUnder, List.mem_filterMap, hkeys, Finmap.mem_keys, Option.map_eq_some_iff,
      Prod.mk.injEq]
    constructor
    · rintro ⟨key, -, v, hv, rfl, rfl⟩
      exact hv
    · intro hc
      exact ⟨a, Finmap.mem_of_lookup_eq_some hc, c, hc, rfl, rfl⟩
  refine ⟨?_, hmem⟩
  unfold entriesUnder
  rw [List.map_filterMap]
  refine List.Nodup.filterMap (fun key key' a ha ha' => ?_) hnodup
  simp only [Option.map_map, Option.mem_def, Option.map_eq_some_iff, Function.comp_apply] at ha ha'
  obtain ⟨-, -, rfl⟩ := ha
  obtain ⟨-, -, rfl⟩ := ha'
  rfl

/-- The entries in the order of their keys. -/
def HashOrder.byKey : HashOrder where
  entries m := (m.keys.sort (· ≤ ·)).filterMap fun key => (m.lookup key).map fun v => (key, v)
  enumerates m :=
    enumerates_entriesUnder (Finset.sort_nodup m.keys _) fun _ => Finset.mem_sort (· ≤ ·)

/-- The entries in an order of the keys. -/
def HashOrder.ofKeys (order : KeyOrder String) : HashOrder where
  entries m := entriesUnder m (order.visit m.keys).dedup
  enumerates m := enumerates_entriesUnder (List.nodup_dedup _) fun key =>
    List.mem_dedup.trans (order.mem_visit m.keys key)

structure HandlePolicyData where
  policyData : String
  mergePolicyData : String
  isChanged : Bool
  deriving DecidableEq, Repr

/-- A plugin.  `Modules` is the state of the modules that it drives, a `Req` is a request with the
answers of these modules, a `Reply` their answers when an admin is removed, an `Event` an event. -/
structure Plugin (Modules Req Reply Event : Type) where
  policyName : String
  needSave : Bool
  /-- The value that the out parameter has after the call, also when the call fails. -/
  getOthersMergePolicyData : UserPolicyManager → String → String
  onHandlePolicy : UserPolicyManager → Modules → Req → HandlePolicyData →
    ErrCode × Modules × HandlePolicyData
  onAdminRemove : Modules → Reply → String → String → ErrCode × Modules
  onPluginEvent : HandlePolicyData → Event → HandlePolicyData

/-- A user's store, the modules that the plugin drives, and whether the plugin is subscribed to its
events. -/
structure PluginState (Modules : Type) where
  store : UserStore
  modules : Modules
  subscribed : Bool

/-- The value that `GetPolicy` leaves in an empty string. -/
def UserPolicyManager.policyValue (m : UserPolicyManager) (adminName policyName : String) :
    String :=
  match m.getPolicy adminName policyName with
  | .ok policyValue => policyValue
  | .error _ => ""

/-- The map that `GetAdminByPolicyName` leaves in an empty map. -/
def UserPolicyManager.adminValues (m : UserPolicyManager) (policyName : String) : ItemsMap :=
  match m.getAdminByPolicyName policyName with
  | .ok adminValueItems => adminValueItems
  | .error _ => ∅

namespace PluginManager

section

variable {Modules Req Reply Event : Type} (plugin : Plugin Modules Req Reply Event)
  (s : PluginState Modules)

/-- What the handler of an update starts from. -/
def handlePolicyData (bundleName : String) : HandlePolicyData where
  policyData := s.store.manager.policyValue bundleName plugin.policyName
  mergePolicyData := plugin.getOthersMergePolicyData s.store.manager bundleName
  isChanged := false

/-- The code of `SetPolicy` is ignored. -/
def updateDevicePolicy (writes : Writes) (bundleName : String) (req : Req) :
    ErrCode × PluginState Modules :=
  let (ret, modules, handled) :=
    plugin.onHandlePolicy s.store.manager s.modules req (handlePolicyData plugin s bundleName)
  if failed ret then (ret, { s with modules })
  else if plugin.needSave && handled.isChanged then
    let store := (s.store.setPolicy writes bundleName plugin.policyName handled.policyData
      handled.mergePolicyData).2
    (ERR_OK, { store, modules, subscribed := handled.mergePolicyData != "" })
  else (ERR_OK, { s with modules })

/-- The code of `OnAdminRemove` is only logged. -/
def removeAdminItem (writes : Writes) (reply : Reply) (adminName policyValue : String) :
    ErrCode × PluginState Modules :=
  let mergedPolicyData := plugin.getOthersMergePolicyData s.store.manager adminName
  let modules := (plugin.onAdminRemove s.modules reply policyValue mergedPolicyData).2
  let (setRet, store) :=
    if plugin.needSave then
      if isEmpty (s.store.manager.adminValues plugin.policyName) then
        s.store.setPolicy writes "" plugin.policyName "" ""
      else s.store.setPolicy writes adminName plugin.policyName "" mergedPolicyData
    else (ERR_OK, s.store)
  if failed setRet then (ERR_EDM_DEL_ADMIN_FAILED, { s with store, modules })
  else
    let subscribed := s.subscribed && store.manager.policyValue "" plugin.policyName != ""
    (ERR_OK, { store, modules, subscribed })

/-- The step of `DispatchForAdmins` for one entry of the snapshot. -/
def dispatchForAdmin (writes : Writes) (event : Event) (adminName adminValue : String) :
    PluginState Modules :=
  let handled := plugin.onPluginEvent
    { policyData := adminValue
      mergePolicyData := plugin.getOthersMergePolicyData s.store.manager adminName
      isChanged := false } event
  if plugin.needSave then
    let store := (s.store.setPolicy writes adminName plugin.policyName handled.policyData
      handled.mergePolicyData).2
    { s with store, subscribed := s.subscribed && handled.mergePolicyData != "" }
  else s

variable {plugin s} {writes : Writes} {bundleName : String} {req : Req} {ret : ErrCode}
  {modules : Modules} {handled : HandlePolicyData}

theorem updateDevicePolicy_failed
    (h : plugin.onHandlePolicy s.store.manager s.modules req
      (handlePolicyData plugin s bundleName) = (ret, modules, handled)) (hret : failed ret = true) :
    updateDevicePolicy plugin s writes bundleName req = (ret, { s with modules }) := by
  simp only [updateDevicePolicy, h, hret, if_true]

theorem updateDevicePolicy_unchanged
    (h : plugin.onHandlePolicy s.store.manager s.modules req
      (handlePolicyData plugin s bundleName) = (ERR_OK, modules, handled)) (hchanged : (plugin.needSave && handled.isChanged) = false) :
    updateDevicePolicy plugin s writes bundleName req = (ERR_OK, { s with modules }) := by
  have hok : failed ERR_OK = false := by decide
  simp only [updateDevicePolicy, h, hok, hchanged, Bool.false_eq_true, if_false]

theorem updateDevicePolicy_changed
    (h : plugin.onHandlePolicy s.store.manager s.modules req
      (handlePolicyData plugin s bundleName) = (ERR_OK, modules, handled)) (hchanged : (plugin.needSave && handled.isChanged) = true) :
    updateDevicePolicy plugin s writes bundleName req =
      (ERR_OK,
        { store := (s.store.setPolicy writes bundleName plugin.policyName handled.policyData
            handled.mergePolicyData).2
          modules, subscribed := handled.mergePolicyData != "" }) := by
  have hok : failed ERR_OK = false := by decide
  simp only [updateDevicePolicy, h, hok, hchanged, Bool.false_eq_true, if_false, if_true]

variable (plugin s writes)

/-- The removal of a value that the plugin does not save. -/
theorem removeAdminItem_unsaved (reply : Reply) (adminName policyValue : String)
    (hsave : plugin.needSave = false) :
    ∃ subscribed, removeAdminItem plugin s writes reply adminName policyValue =
      (ERR_OK,
        { store := s.store
          modules := (plugin.onAdminRemove s.modules reply policyValue
            (plugin.getOthersMergePolicyData s.store.manager adminName)).2
          subscribed }) := by
  have hok : failed ERR_OK = false := by decide
  simp only [removeAdminItem, hsave, Bool.false_eq_true, if_false, hok]
  exact ⟨_, rfl⟩

/-- The code of the removal of a value that some admin holds. -/
theorem removeAdminItem_held_code (reply : Reply) (adminName policyValue : String)
    (hsave : plugin.needSave = true)
    (hheld : isEmpty (s.store.manager.adminValues plugin.policyName) = false) :
    failed (removeAdminItem plugin s writes reply adminName policyValue).1 =
      failed (s.store.setPolicy writes adminName plugin.policyName ""
        (plugin.getOthersMergePolicyData s.store.manager adminName)).1 := by
  simp only [removeAdminItem, hsave, hheld, if_true, Bool.false_eq_true, if_false]
  split
  · rename_i hfailed
    rw [hfailed]
    rfl
  · rename_i hok
    rw [Bool.not_eq_true] at hok
    rw [hok]
    rfl

/-- The removal of a value that some admin holds. -/
theorem removeAdminItem_held (reply : Reply) (adminName policyValue : String)
    (hsave : plugin.needSave = true)
    (hheld : isEmpty (s.store.manager.adminValues plugin.policyName) = false) :
    ∃ subscribed, (removeAdminItem plugin s writes reply adminName policyValue).2 =
      { store := (s.store.setPolicy writes adminName plugin.policyName ""
          (plugin.getOthersMergePolicyData s.store.manager adminName)).2
        modules := (plugin.onAdminRemove s.modules reply policyValue
          (plugin.getOthersMergePolicyData s.store.manager adminName)).2
        subscribed } := by
  simp only [removeAdminItem, hsave, hheld, if_true, Bool.false_eq_true, if_false]
  split <;> exact ⟨_, rfl⟩

end

variable {Modules Req Reply Event : Type} (plugin : Plugin Modules Req Reply Event)

/-- The steps for the entries that are left. -/
def dispatchEntries (writes : String → Writes) (event : Event) (s : PluginState Modules)
    (entries : List (String × String)) : PluginState Modules :=
  entries.foldl (fun s entry => dispatchForAdmin plugin s (writes entry.1) event entry.1 entry.2) s

/-- `writes` tells what becomes of the writes for each admin. -/
def dispatchForAdmins (order : HashOrder) (writes : String → Writes) (event : Event)
    (s : PluginState Modules) : PluginState Modules :=
  dispatchEntries plugin writes event s
    (order.entries (s.store.manager.adminValues plugin.policyName))

end PluginManager

end Edm
