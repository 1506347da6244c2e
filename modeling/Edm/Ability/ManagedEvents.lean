import Edm.Ability.Delegation

/-! How admins ask for the events of the system, and give them up: in the record of the admin and at
the relayer. -/

set_option autoImplicit false

namespace Edm

open Library Library.UnorderedMap

def EdmPermission.PERMISSION_ENTERPRISE_SUBSCRIBE_MANAGED_EVENT : String :=
  "ohos.permission.ENTERPRISE_SUBSCRIBE_MANAGED_EVENT"

def ManagedEvent.POLICIES_CHANGED : ManagedEvent := 11

namespace Admin

variable (admin : Admin)

def hasPermissionSubscribeManagedEvents (events : List UInt32) : Bool :=
  match admin.getAdminType with
  | .ent => true
  | .normal | .subSuperAdmin => !events.contains ManagedEvent.POLICIES_CHANGED
  | .virtualAdmin | .byod | .unknown => false

end Admin

namespace EnterpriseDeviceMgrAbility

open EdmPermission PermissionChecker

variable {Modules Req Reply Event : Type} (build : Build Modules Req Reply Event)
  (call : ServiceCall Reply) (answers : AdapterAnswers) (s : Service Modules)

def checkManagedEvent (event : UInt32) : Bool :=
  decide (ManagedEvent.BUNDLE_ADDED ≤ event ∧ event ≤ ManagedEvent.POLICIES_CHANGED)

def verifyManagedEvent (admin : ElementName) (events : List UInt32) : ErrCode :=
  match AdminManager.getAdminByPkgName s.container admin.bundleName
      call.managers.getCurrentUserId with
  | none => EdmReturnErrCode.ADMIN_INACTIVE
  | some adminItem =>
    if !adminItem.hasPermissionToCallServiceCode build.pcOnly
        EdmInterfaceCode.SUBSCRIBE_MANAGED_EVENT then
      EdmReturnErrCode.ADMIN_EDM_PERMISSION_DENIED
    else if !checkCallerPermission call.managers call.caller adminItem.adminInfo.packageName
        PERMISSION_ENTERPRISE_SUBSCRIBE_MANAGED_EVENT then
      EdmReturnErrCode.PERMISSION_DENIED
    else if events.isEmpty then EdmReturnErrCode.MANAGED_EVENTS_INVALID
    else if !adminItem.hasPermissionSubscribeManagedEvents events then
      EdmReturnErrCode.ADMIN_EDM_PERMISSION_DENIED
    else if !events.all checkManagedEvent then EdmReturnErrCode.MANAGED_EVENTS_INVALID
    else ERR_OK

/-- The user whose record and subscriptions a request for events is about. -/
def managedEventUser (admin : ElementName) : Int :=
  let userId := call.managers.getCurrentUserId
  match AdminManager.getAdminByPkgName s.container admin.bundleName userId with
  | none => DEFAULT_USER_ID
  | some adminItem =>
    if adminItem.isAllowedAcrossAccountSetPolicy then DEFAULT_USER_ID else userId

/-- The events are saved, and each is subscribed whether they could be saved or not. -/
def addManagedEvents (write : RdbOutcome) (adminName : String) (userId : Int)
    (events : List UInt32) : Service Modules :=
  let s := s.setAdmins (AdminManager.saveSubscribeEvents build.cjson s.device.admins write events
    adminName userId).2
  { s with
    relayer := events.foldl
      (fun r event => r.onAdminSubscribe s.container answers adminName userId event) s.relayer }

/-- The events are removed, and each is unsubscribed whether they could be removed or not. -/
def removeManagedEvents (write : RdbOutcome) (adminName : String) (userId : Int)
    (events : List UInt32) : Service Modules :=
  let s := s.setAdmins (AdminManager.removeSubscribeEvents build.cjson s.device.admins write events
    adminName userId).2
  { s with
    relayer := events.foldl (fun r event => r.onAdminUnsubscribe adminName userId event) s.relayer }

def subscribeManagedEvent (admin : ElementName) (events : List UInt32) :
    ErrCode × Service Modules :=
  let ret := verifyManagedEvent build call s admin events
  if failed ret then (ret, s)
  else
    (ERR_OK, addManagedEvents build answers s call.write admin.bundleName
      (managedEventUser call s admin) events)

def unsubscribeManagedEvent (admin : ElementName) (events : List UInt32) :
    ErrCode × Service Modules :=
  let ret := verifyManagedEvent build call s admin events
  if failed ret then (ret, s)
  else
    (ERR_OK, removeManagedEvents build s call.write admin.bundleName
      (managedEventUser call s admin) events)

/-- `RestoreSubscriptions`, over the service. -/
def restoreSubscriptions (appLifecycleOnly : Bool) : Service Modules :=
  { s with
    relayer := s.relayer.restoreSubscriptions build.userOrder s.container answers
      appLifecycleOnly }

/-! ### The plugin that intercepts external storage -/

/-- `OnHandlePolicyDone` of `ExternalStorageInterceptEnablePlugin`.  `enabled` tells whether the
admin's value is true. -/
def onInterceptHandled (write : RdbOutcome) (enabled : Bool) (adminName : String) (userId : Int) :
    Service Modules :=
  let events := [ManagedEvent.UNMOUNT_EXTERNAL_STORAGE_DEVICE]
  if enabled then addManagedEvents build answers s write adminName userId events
  else removeManagedEvents build s write adminName userId events

end EnterpriseDeviceMgrAbility

end Edm
