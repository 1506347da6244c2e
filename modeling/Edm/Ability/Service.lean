import Edm.Ability.DeviceRun
import Edm.Ability.PermissionChecker
import Edm.EventManagement.MdmEventRelayer

/-! The whole service, as `EnterpriseDeviceMgrAbility` works on it when admins come and go: the device,
the users that have a policy manager, and the relayer of the admins' events; the services of the
system that it asks; and the removal of an admin from all users.  The system timers of a removed
admin are left out. -/

set_option autoImplicit false

namespace Edm

open Library Library.UnorderedMap

namespace EdmPermission

def PERMISSION_MANAGE_ENTERPRISE_DEVICE_ADMIN : String :=
  "ohos.permission.MANAGE_ENTERPRISE_DEVICE_ADMIN"
def PERMISSION_ENTERPRISE_MANAGE_DELEGATED_POLICY : String :=
  "ohos.permission.ENTERPRISE_MANAGE_DELEGATED_POLICY"
def PERMISSION_ENTERPRISE_MANAGE_DEVICE_ADMIN : String :=
  "ohos.permission.ENTERPRISE_MANAGE_DEVICE_ADMIN"
def PERMISSION_ENTERPRISE_DEACTIVATE_DEVICE_ADMIN : String :=
  "ohos.permission.ENTERPRISE_DEACTIVATE_DEVICE_ADMIN"
def PERMISSION_ENTERPRISE_ACTIVATE_DEVICE_ADMIN : String :=
  "ohos.permission.ENTERPRISE_ACTIVATE_DEVICE_ADMIN"
def PERMISSION_GET_ADMINPROVISION_INFO : String := "ohos.permission.START_PROVISIONING_MESSAGE"
def PERMISSION_DENIED : String := "PERMISSION_DENIED"

end EdmPermission

/-- The services of the system, at the time of a call. -/
structure AbilityManagers extends ExternalManagers where
  isDebug : Bool
  getHapTokenBundleName : UInt32 → String
  /-- The bundle and the name of the extension abilities of an element, none where the query fails. -/
  queryExtensionAbilityInfos : String → String → Int → List (String × String)
  queryExtensionAbilityInfos_bundle : ∀ bundleName abilityName userId info,
    info ∈ queryExtensionAbilityInfos bundleName abilityName userId → info.1 = bundleName
  /-- The permissions that a bundle requests. -/
  getBundleInfo : String → Int → Option (List String)
  isBundleInstalled : String → Int → Bool
  /-- The distribution type of an application. -/
  getApplicationInfo : String → Int → String
  getExtensionEnterpriseAdminName : String → Int → String
  securityMode : Bool
  maintenanceMode : Bool

namespace PermissionChecker

open EdmPermission in
/-- The permissions that an admin is granted when it requests them. -/
def permissions : List String := [
  "ohos.permission.ENTERPRISE_SET_DATETIME", "ohos.permission.ENTERPRISE_SUBSCRIBE_MANAGED_EVENT",
  "ohos.permission.SET_ENTERPRISE_INFO", PERMISSION_MANAGE_ENTERPRISE_DEVICE_ADMIN,
  "ohos.permission.ENTERPRISE_SET_SCREENOFF_TIME", "ohos.permission.ENTERPRISE_RESTRICT_POLICY",
  "ohos.permission.ENTERPRISE_GET_SETTINGS", "ohos.permission.ENTERPRISE_RESET_DEVICE",
  "ohos.permission.ENTERPRISE_SET_BUNDLE_INSTALL_POLICY",
  "ohos.permission.ENTERPRISE_GET_DEVICE_INFO", "ohos.permission.ENTERPRISE_GET_NETWORK_INFO",
  "ohos.permission.ENTERPRISE_SET_NETWORK", "ohos.permission.ENTERPRISE_MANAGE_NETWORK",
  "ohos.permission.ENTERPRISE_INSTALL_BUNDLE", "ohos.permission.ENTERPRISE_SET_BROWSER_POLICY",
  "ohos.permission.ENTERPRISE_SET_ACCOUNT_POLICY", "ohos.permission.ENTERPRISE_SET_WIFI",
  "ohos.permission.ENTERPRISE_MANAGE_USB", "ohos.permission.ENTERPRISE_MANAGE_CERTIFICATE",
  "ohos.permission.ENTERPRISE_MANAGE_SET_APP_RUNNING_POLICY",
  "ohos.permission.ENTERPRISE_LOCK_DEVICE", "ohos.permission.ENTERPRISE_REBOOT",
  "ohos.permission.ENTERPRISE_MANAGE_SETTINGS", "ohos.permission.ENTERPRISE_MANAGE_SECURITY",
  "ohos.permission.ENTERPRISE_MANAGE_BLUETOOTH", "ohos.permission.ENTERPRISE_MANAGE_LOCATION",
  "ohos.permission.ENTERPRISE_MANAGE_WIFI", "ohos.permission.ENTERPRISE_MANAGE_RESTRICTIONS",
  "ohos.permission.ENTERPRISE_MANAGE_APPLICATION", "ohos.permission.ENTERPRISE_MANAGE_SYSTEM",
  "ohos.permission.ENTERPRISE_OPERATE_DEVICE", PERMISSION_ENTERPRISE_MANAGE_DELEGATED_POLICY,
  "ohos.permission.PERSONAL_MANAGE_RESTRICTIONS", "ohos.permission.START_PROVISIONING_MESSAGE",
  "ohos.permission.ENTERPRISE_SET_USER_RESTRICTION", "ohos.permission.ENTERPRISE_MANAGE_APN",
  "ohos.permission.ENTERPRISE_GET_ALL_BUNDLE_INFO", "ohos.permission.ENTERPRISE_MANAGE_TELEPHONY",
  "ohos.permission.ENTERPRISE_SET_KIOSK", "ohos.permission.ENTERPRISE_SET_WALLPAPER",
  "ohos.permission.ENTERPRISE_MANAGE_USER_GRANT_PERMISSION",
  PERMISSION_ENTERPRISE_MANAGE_DEVICE_ADMIN]

variable (managers : AbilityManagers) (caller : Caller)

def getAllPermissionsByAdmin (bundleInfoName : String) (userId : Int) :
    Except ErrCode (List String) :=
  match managers.getBundleInfo bundleInfoName userId with
  | none => .error ERR_EDM_PARAM_ERROR
  | some reqPermissions => .ok (reqPermissions.filter permissions.contains)

def checkCallerPermission (bundleName permission : String) : Bool :=
  verifyCallingPermission managers.toExternalManagers caller permission &&
    !failed (checkCallingUid managers.toExternalManagers caller bundleName)

end PermissionChecker

/-! ### The state of the service -/

/-- What the service is built with, and the orders of its unordered containers. -/
structure Build (Modules Req Reply Event : Type) where
  cjson : CJson
  pcOnly : Bool
  plugins : PluginTable Modules Req Reply Event
  /-- The permissions of the plugins by code, and by policy name. -/
  registry : Registry
  policyPlugins : String → Option PolicyPlugin
  registry_policyName : ∀ code plugin, plugins.pluginsCode code = some plugin →
    (registry code).map PolicyPlugin.policyName = some plugin.policyName
  itemOrder : HashOrder
  userOrder : KeyOrder Int
  eventOrder : KeyOrder ManagedEvent

/-- The device, the users other than the default one that have a policy manager, and the relayer. -/
structure Service (Modules : Type) where
  device : Device Modules
  policyUserIds : Finset Int
  relayer : MdmEventRelayer

namespace Service

variable {Modules : Type} (s : Service Modules)

/-- A service that nobody has called yet. -/
def boot (modules : Modules) : Service Modules := ⟨Device.boot modules, ∅, .new⟩

/-- The container of the admins. -/
abbrev container : AdminContainer := s.device.admins.container

def setAdmins (admins : AdminState) : Service Modules :=
  { s with device := { s.device with admins } }

/-- The policies of a user after a call to its manager. -/
def setUserStore (userId : Int) (store : UserStore) : Service Modules :=
  { s with device := { s.device with policies := s.device.policies.setUser userId store } }

/-- `GetUserPolicyMgr` makes a manager for a user that has none. -/
def getUserPolicyMgr (userId : Int) : Service Modules :=
  if userId = DEFAULT_USER_ID then s
  else { s with policyUserIds := insert userId s.policyUserIds }

/-- Whether an admin has a value for a policy of a user. -/
def Holds (u : Int) (adminName policyName : String) : Prop :=
  lookup₂ (s.device.policies.manager u).adminPolicies adminName policyName ≠ none

end Service

/-! ### Removing an admin from all users -/

/-- What becomes of the statements and what the modules answer, for each admin and user. -/
structure RemovalOutcomes (Reply : Type) where
  writes : String → Int → String → Writes
  reply : String → Int → String → Reply
  deletion : String → Int → RdbOutcome

def RemovalOutcomes.removal {Reply : Type} (outcomes : RemovalOutcomes Reply)
    (adminName : AdminName) (userId : Int) : Removal Reply where
  adminName := adminName
  userId := userId
  writes := outcomes.writes adminName userId
  reply := outcomes.reply adminName userId
  deletion := outcomes.deletion adminName userId

namespace EnterpriseDeviceMgrAbility

variable {Modules Req Reply Event : Type} (build : Build Modules Req Reply Event)
  (outcomes : RemovalOutcomes Reply) (s : Service Modules)

/-- `RemoveAdmin` for an admin that nothing is stored under. -/
def removeUnnamedAdmin (d : Device Modules) (userId : Int) : ErrCode × Device Modules :=
  let (ret, admins) := AdminManager.deleteAdmin d.admins (outcomes.deletion "" userId) "" userId
  if ret != ERR_OK && ret != ERR_EDM_UNKNOWN_ADMIN then
    (ERR_EDM_DEL_ADMIN_FAILED, { d with admins })
  else (ERR_OK, { d with admins })

/-- `RemoveAdminAndAdminPolicy`.  No policy is stored under the empty name. -/
def removeAdminOfUser (adminName : String) (userId : Int) : ErrCode × Service Modules :=
  let s := s.getUserPolicyMgr userId
  let (ret, device) :=
    if h : adminName = "" then removeUnnamedAdmin outcomes s.device userId
    else
      removeAdminAndAdminPolicy build.plugins s.device build.itemOrder
        (outcomes.removal ⟨adminName, h⟩ userId)
  if failed ret then (ret, { s with device })
  else
    (ret,
      { s with
        device
        relayer := s.relayer.onAdminRemoved build.eventOrder adminName userId })

def removeSubOrSuperAdminAndAdminPolicy (bundleName : String) (s : Service Modules) :
    List Int → ErrCode × Service Modules
  | [] => removeAdminOfUser build outcomes s bundleName DEFAULT_USER_ID
  | userId :: nonDefaultUserIds =>
    let (ret, s) := removeAdminOfUser build outcomes s bundleName userId
    if ret != ERR_OK then (ERR_EDM_DEL_ADMIN_FAILED, s)
    else removeSubOrSuperAdminAndAdminPolicy bundleName s nonDefaultUserIds

/-- `PolicyManager::GetPolicyUserIds` -/
def getPolicyUserIds : List Int := build.userOrder.visit s.policyUserIds

def removeSubSuperAdminAndAdminPolicy (bundleName : String) : ErrCode × Service Modules :=
  removeSubOrSuperAdminAndAdminPolicy build outcomes bundleName s (getPolicyUserIds build s)

/-- The loop over the children of a super admin. -/
def removeSubAdmins (userIds : List Int) (s : Service Modules) :
    List String → ErrCode × Service Modules
  | [] => (ERR_OK, s)
  | subAdminName :: subAdmins =>
    let (ret, s) := removeSubOrSuperAdminAndAdminPolicy build outcomes subAdminName s userIds
    if ret != ERR_OK then (ERR_EDM_DEL_ADMIN_FAILED, s) else removeSubAdmins userIds s subAdmins

def removeSuperAdminAndAdminPolicy (bundleName : String) : ErrCode × Service Modules :=
  let userIds := getPolicyUserIds build s
  let subAdmins := AdminManager.getSubSuperAdminsByParentName s.container bundleName
  let (ret, s) := removeSubAdmins build outcomes userIds s subAdmins
  if failed ret then (ret, s)
  else removeSubOrSuperAdminAndAdminPolicy build outcomes bundleName s userIds

end EnterpriseDeviceMgrAbility

end Edm
