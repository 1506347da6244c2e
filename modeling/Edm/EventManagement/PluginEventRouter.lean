import Edm.Admin.PolicyName
import Edm.EventManagement.EventSubscriptionManager
import Edm.Library.Run
import Edm.Library.SeparatedKey
import Edm.Plugin.ManageKeepAliveAppsPlugin

/-! How `PluginEventRouter` passes the events of the system on to the plugins that asked for them.
`entries` holds what a plugin asked for under a key made from its policy name and the event, and
`eventGroupStates` the keys of each event with the subscription that they share. -/

set_option autoImplicit false

namespace Edm

open Library Library.UnorderedMap

structure PluginEntry where
  policyCode : UInt32
  needAdminIteration : Bool
  useEventUserId : Bool
  deriving DecidableEq, Repr

/-- The handle is that of the subscription in `EventSubscriptionManager`. -/
structure RouterGroup where
  handle : Option UInt32
  registeredKeys : List String
  deriving DecidableEq, Repr

structure PluginEventRouter where
  entries : UnorderedMap String PluginEntry
  eventGroupStates : UnorderedMap EventId RouterGroup
  customEventGroupStates : UnorderedMap EventId RouterGroup

/-- The arguments of `SubscribeEvent`. -/
structure PluginSubscription where
  policyName : String
  eventCode : EventId
  policyCode : UInt32
  needAdminIteration : Bool
  useEventUserId : Bool
  deriving DecidableEq, Repr

def PluginSubscription.entry (args : PluginSubscription) : PluginEntry :=
  ⟨args.policyCode, args.needAdminIteration, args.useEventUserId⟩

namespace PluginEventRouter

def new : PluginEventRouter := ⟨∅, ∅, ∅⟩

def makeKey (policyName : String) (eventId : EventId) : String :=
  policyName ++ ":" ++ Nat.repr eventId.toNat

variable (r : PluginEventRouter)

/-- `handle` is what the `Subscribe` for the event gives, if it is called. -/
def subscribeEvent (args : PluginSubscription) (handle : Option UInt32) :
    Bool × PluginEventRouter :=
  let key := makeKey args.policyName args.eventCode
  match r.entries.lookup key with
  | some _ => (true, r)
  | none =>
    let entries := r.entries.insert key args.entry
    let group := (r.eventGroupStates.lookup args.eventCode).getD ⟨none, []⟩
    match group.handle.or handle with
    | some handle =>
      (true,
        { r with
          entries
          eventGroupStates := r.eventGroupStates.insert args.eventCode
            ⟨some handle, group.registeredKeys ++ [key]⟩ })
    | none =>
      (false,
        { r with
          entries := entries.erase key
          eventGroupStates :=
            if group.registeredKeys = [] then r.eventGroupStates.erase args.eventCode
            else r.eventGroupStates.insert args.eventCode ⟨none, group.registeredKeys⟩ })

/-- The first component is the handle that is released. -/
def unsubscribeEvent (policyName : String) (eventCode : EventId) :
    Option UInt32 × PluginEventRouter :=
  let key := makeKey policyName eventCode
  match r.entries.lookup key with
  | none => (none, r)
  | some _ =>
    let entries := r.entries.erase key
    match r.eventGroupStates.lookup eventCode with
    | none => (none, { r with entries })
    | some group =>
      let keys := group.registeredKeys.filter fun other => other != key
      if keys = [] then
        (group.handle, { r with entries, eventGroupStates := r.eventGroupStates.erase eventCode })
      else
        (none,
          { r with
            entries
            eventGroupStates := r.eventGroupStates.insert eventCode ⟨group.handle, keys⟩ })

def collectDispatchEntries (eventId : EventId) (groupStates : UnorderedMap EventId RouterGroup) :
    List PluginEntry :=
  match groupStates.lookup eventId with
  | none => []
  | some group => group.registeredKeys.filterMap fun key => r.entries.lookup key

/-- The plugins that are called for an event, in order. -/
def onEventDispatch (eventId : EventId) : List PluginEntry :=
  r.collectDispatchEntries eventId r.eventGroupStates ++
    r.collectDispatchEntries eventId r.customEventGroupStates

end PluginEventRouter

/-! ### The plugins that subscribe -/

namespace EdmInterfaceCode

def MANAGE_AUTO_START_APPS : UInt32 := 1045
def CLIPBOARD_POLICY : UInt32 := 1054
def NOTIFY_UPGRADE_PACKAGES : UInt32 := 1056
def WATERMARK_IMAGE : UInt32 := 1061
def MANAGE_KEEP_ALIVE_APPS : UInt32 := 1063
def MANAGE_USER_NON_STOP_APPS : UInt32 := 1125
def MANAGE_FREEZE_EXEMPTED_APPS : UInt32 := 1127
def SET_ABILITY_ENABLED : UInt32 := 1134
def SET_KEY_CODE_POLICYS : UInt32 := 1135
def HIDDEN_SETTINGS_MENU : UInt32 := 1145
def DISALLOWED_UINPUT : UInt32 := 1153
def ALLOWED_PERMISSION_BUNDLE : UInt32 := 1168

end EdmInterfaceCode

namespace PolicyName

def POLICY_HIDDEN_SETTINGS_MENU : String := "hidden_settings_menu"
def POLICY_SET_KEY_CODE : String := "set_key_code"
def POLICY_DISALLOW_UINPUT : String := "disallow_uinput"
def POLICY_SET_ABILITY_ENABLED : String := "set_ability_enabled"
def POLICY_MANAGE_USER_NON_STOP_APPS : String := "manage_user_non_stop_apps"
def POLICY_MANAGE_FREEZE_EXEMPTED_APPS : String := "manage_freeze_exempted_apps"
def POLICY_ALLOWED_PERMISSION_BUNDLE : String := "allowed_permission_bundle"

end PolicyName

open EdmInterfaceCode PolicyName ManagedEvent

/-- What the `SubscribeEvent` of the plugin of a policy asks for. -/
def pluginSubscriptions (policyCode : UInt32) : List PluginSubscription :=
  if policyCode = DISALLOWED_UINPUT then
    [⟨POLICY_DISALLOW_UINPUT, BOOT_COMPLETED, DISALLOWED_UINPUT, true, false⟩]
  else if policyCode = HIDDEN_SETTINGS_MENU then
    [⟨POLICY_HIDDEN_SETTINGS_MENU, USER_SWITCHED, HIDDEN_SETTINGS_MENU, true, false⟩]
  else if policyCode = SET_KEY_CODE_POLICYS then
    [⟨POLICY_SET_KEY_CODE, USER_SWITCHED, SET_KEY_CODE_POLICYS, true, false⟩]
  else if policyCode = NOTIFY_UPGRADE_PACKAGES then
    [⟨POLICY_NOTIFY_UPGRADE_PACKAGES, SYSTEM_UPDATE, NOTIFY_UPGRADE_PACKAGES, false, false⟩]
  else if policyCode = SET_ABILITY_ENABLED then
    [⟨POLICY_SET_ABILITY_ENABLED, BUNDLE_ADDED, SET_ABILITY_ENABLED, false, true⟩]
  else if policyCode = MANAGE_USER_NON_STOP_APPS then
    [⟨POLICY_MANAGE_USER_NON_STOP_APPS, BUNDLE_REMOVED, MANAGE_USER_NON_STOP_APPS, true, false⟩,
      ⟨POLICY_MANAGE_USER_NON_STOP_APPS, USER_SWITCHED, MANAGE_USER_NON_STOP_APPS, false, false⟩]
  else if policyCode = EdmInterfaceCode.MANAGE_KEEP_ALIVE_APPS then
    [⟨POLICY_MANAGE_KEEP_ALIVE_APPS, BUNDLE_REMOVED, EdmInterfaceCode.MANAGE_KEEP_ALIVE_APPS, true,
      true⟩]
  else if policyCode = MANAGE_AUTO_START_APPS then
    [⟨PolicyName.POLICY_MANAGE_AUTO_START_APPS, BUNDLE_REMOVED, MANAGE_AUTO_START_APPS, true, true⟩]
  else if policyCode = MANAGE_FREEZE_EXEMPTED_APPS then
    [⟨PolicyName.POLICY_MANAGE_FREEZE_EXEMPTED_APPS, BUNDLE_REMOVED, MANAGE_FREEZE_EXEMPTED_APPS, true, false⟩,
      ⟨PolicyName.POLICY_MANAGE_FREEZE_EXEMPTED_APPS, BMS_READY, MANAGE_FREEZE_EXEMPTED_APPS, false, false⟩]
  else if policyCode = ALLOWED_PERMISSION_BUNDLE then
    [⟨PolicyName.POLICY_ALLOWED_PERMISSION_BUNDLE, BUNDLE_REMOVED, ALLOWED_PERMISSION_BUNDLE, true, true⟩]
  else if policyCode = EdmInterfaceCode.CLIPBOARD_POLICY then
    [⟨POLICY_CLIPBOARD_POLICY, BUNDLE_REMOVED, EdmInterfaceCode.CLIPBOARD_POLICY, true, false⟩]
  else if policyCode = WATERMARK_IMAGE then
    [⟨POLICY_WATERMARK_IMAGE_POLICY, APP_START, WATERMARK_IMAGE, false, false⟩,
      ⟨POLICY_WATERMARK_IMAGE_POLICY, APP_STOP, WATERMARK_IMAGE, false, false⟩]
  else []

/-- The plugins that `RestorePluginSubscriptions` asks about, by code and policy name. -/
def subscribingPlugins : List (UInt32 × String) :=
  [(DISALLOWED_UINPUT, POLICY_DISALLOW_UINPUT),
    (HIDDEN_SETTINGS_MENU, POLICY_HIDDEN_SETTINGS_MENU),
    (SET_KEY_CODE_POLICYS, POLICY_SET_KEY_CODE),
    (NOTIFY_UPGRADE_PACKAGES, POLICY_NOTIFY_UPGRADE_PACKAGES),
    (SET_ABILITY_ENABLED, POLICY_SET_ABILITY_ENABLED),
    (MANAGE_USER_NON_STOP_APPS, POLICY_MANAGE_USER_NON_STOP_APPS),
    (EdmInterfaceCode.MANAGE_KEEP_ALIVE_APPS, POLICY_MANAGE_KEEP_ALIVE_APPS),
    (MANAGE_AUTO_START_APPS, PolicyName.POLICY_MANAGE_AUTO_START_APPS),
    (MANAGE_FREEZE_EXEMPTED_APPS, PolicyName.POLICY_MANAGE_FREEZE_EXEMPTED_APPS),
    (ALLOWED_PERMISSION_BUNDLE, PolicyName.POLICY_ALLOWED_PERMISSION_BUNDLE),
    (EdmInterfaceCode.CLIPBOARD_POLICY, POLICY_CLIPBOARD_POLICY),
    (WATERMARK_IMAGE, POLICY_WATERMARK_IMAGE_POLICY)]

namespace PluginEventRouter

/-- The calls of a plugin's `SubscribeEvent`, each with the handle that its subscription gives. -/
def subscribeAll (r : PluginEventRouter) (calls : List (PluginSubscription × Option UInt32)) :
    PluginEventRouter :=
  calls.foldl (fun r call => (r.subscribeEvent call.1 call.2).2) r

/-- `policyValue` is the combined policy of the default user, and `subscribePluginEvent` what
`PluginManager::SubscribePluginEvent` comes to, which is nothing for a plugin that cannot be
loaded. -/
def restorePluginSubscriptions (r : PluginEventRouter) (policyValue : String → String)
    (subscribePluginEvent : UInt32 → List (PluginSubscription × Option UInt32)) :
    PluginEventRouter :=
  subscribingPlugins.foldl (fun r info =>
    if policyValue info.2 = "" then r else r.subscribeAll (subscribePluginEvent info.1)) r

end PluginEventRouter

end Edm
