import Edm.Ability.AdminLifecycle

/-! Delegated policies: an admin lets an application handle some policies, which makes the application
a virtual admin below it, or takes that back. -/

set_option autoImplicit false

namespace Edm

open Library Library.UnorderedMap

def POLICIES_MAX_SIZE : Nat := 200

def APP_TYPE_ENTERPRISE_MDM : String := "enterprise_mdm"
def APP_TYPE_ENTERPRISE_NORMAL : String := "enterprise_normal"

def PERMISSION_TAG_VERSION_12 : String := "version_12"

/-- `PluginManager::GetPluginPermissionByPolicyName` -/
def PluginManager.getPluginPermissionByPolicyName (policyPlugins : String → Option PolicyPlugin)
    (policyName : String) (permissionType : PermissionType) : String :=
  match policyPlugins policyName with
  | none => ""
  | some plugin =>
    let permission := plugin.getPermission .set permissionType ""
    if permission == NONE_PERMISSION_MATCH then
      plugin.getPermission .set permissionType PERMISSION_TAG_VERSION_12
    else permission

namespace EnterpriseDeviceMgrAbility

open EdmPermission PermissionChecker

variable {Modules Req Reply Event : Type} (build : Build Modules Req Reply Event)
  (call : ServiceCall Reply) (s : Service Modules)

def checkDelegatedBundle (managers : AbilityManagers) (bundleName : String) (userId : Int) : Bool :=
  if !managers.isBundleInstalled bundleName userId then false
  else
    let appDistributionType := managers.getApplicationInfo bundleName userId
    appDistributionType == APP_TYPE_ENTERPRISE_MDM ||
      appDistributionType == APP_TYPE_ENTERPRISE_NORMAL

def checkDelegatedPolicies (adminType : AdminType) : List String → ErrCode
  | [] => ERR_OK
  | policy :: policies =>
    let permission := PluginManager.getPluginPermissionByPolicyName build.policyPlugins policy
      (adminTypeToPermissionType adminType)
    if !isAllowDelegatedPolicy policy then EdmReturnErrCode.PARAM_ERROR
    else if permission == "" || permission == NONE_PERMISSION_MATCH then
      EdmReturnErrCode.SYSTEM_ABNORMALLY
    else if !call.verify permission then EdmReturnErrCode.PERMISSION_DENIED
    else checkDelegatedPolicies adminType policies

def disableVirtualAdmin (bundleName : String) : ErrCode × Service Modules :=
  removeSubSuperAdminAndAdminPolicy build call.outcomes s bundleName

/-- The checks of the `SetDelegatedPolicies` of an admin that do not depend on the policies: the
admin. -/
def checkParentAdmin (parentAdmin : ElementName) (bundleName : String) : Except ErrCode Admin :=
  let parentAdminName := parentAdmin.bundleName
  match AdminManager.getAdminByPkgName s.container parentAdminName
      call.managers.getCurrentUserId with
  | none => .error EdmReturnErrCode.ADMIN_INACTIVE
  | some adminItem =>
    if !adminItem.hasPermissionToCallServiceCode build.pcOnly
        EdmInterfaceCode.SET_DELEGATED_POLICIES then
      .error EdmReturnErrCode.ADMIN_EDM_PERMISSION_DENIED
    else if !checkCallerPermission call.managers call.caller parentAdminName
        PERMISSION_ENTERPRISE_MANAGE_DELEGATED_POLICY then
      .error EdmReturnErrCode.PERMISSION_DENIED
    else if parentAdminName == bundleName then .error EdmReturnErrCode.PARAM_ERROR
    else .ok adminItem

/-- The checks on the policies that it delegates: the virtual admin. -/
def checkVirtualAdmin (adminItem : Admin) (parentAdminName bundleName : String)
    (policies : List String) : Except ErrCode AdminInfo :=
  let managers := call.managers
  let userId := managers.getCurrentUserId
  let ret := checkDelegatedPolicies build call adminItem.getAdminType policies
  if failed ret then .error ret
  else if !checkDelegatedBundle managers bundleName userId then
    .error EdmReturnErrCode.AUTHORIZE_PERMISSION_FAILED
  else
    match getAllPermissionsByAdmin managers bundleName userId with
    | .error _ => .error EdmReturnErrCode.AUTHORIZE_PERMISSION_FAILED
    | .ok permission =>
      .ok
        { packageName := bundleName, permission, parentAdminName, accessiblePolicies := policies
          adminType := .virtualAdmin, isDebug := adminItem.adminInfo.isDebug }

/-- The `SetDelegatedPolicies` of an admin. -/
def setDelegatedPolicies (parentAdmin : ElementName) (bundleName : String)
    (policies : List String) : ErrCode × Service Modules :=
  if policies.length > POLICIES_MAX_SIZE then (EdmReturnErrCode.PARAM_ERROR, s)
  else
    match checkParentAdmin build call s parentAdmin bundleName with
    | .error ret => (ret, s)
    | .ok adminItem =>
      if policies.isEmpty then disableVirtualAdmin build call s bundleName
      else
        match checkVirtualAdmin build call adminItem parentAdmin.bundleName bundleName policies with
        | .error ret => (ret, s)
        | .ok virtualAdminInfo =>
          setAdminValue build call s call.managers.getCurrentUserId virtualAdminInfo

/-- The checks of the `SetDelegatedPolicies` of an application that manages the admins. -/
def checkDelegatedPoliciesOfUser (bundleName : String) (policies : List String) (userId : Int) :
    Except ErrCode AdminInfo :=
  let managers := call.managers
  if !call.verify PERMISSION_MANAGE_ENTERPRISE_DEVICE_ADMIN then
    .error EdmReturnErrCode.PERMISSION_DENIED
  else if policies.length > POLICIES_MAX_SIZE then .error EdmReturnErrCode.PARAM_ERROR
  else if !policies.all isAllowDelegatedPolicy then .error EdmReturnErrCode.PARAM_ERROR
  else if (AdminManager.getAdminByPkgName s.container bundleName userId).isSome then
    .error EdmReturnErrCode.AUTHORIZE_PERMISSION_FAILED
  else if !checkDelegatedBundle managers bundleName userId then
    .error EdmReturnErrCode.AUTHORIZE_PERMISSION_FAILED
  else
    let setPolicies := if PolicyName.POLICY_ALLOW_ALL ∈ policies then [PolicyName.POLICY_ALLOW_ALL]
      else policies
    let (ret, callingBundleName) := managers.getNameForUid call.caller.uid
    if ret != ERR_OK then .error ERR_EDM_PERMISSION_ERROR
    else
      match getAllPermissionsByAdmin managers bundleName userId with
      | .error _ => .error EdmReturnErrCode.AUTHORIZE_PERMISSION_FAILED
      | .ok permission =>
        .ok
          { packageName := bundleName, permission, parentAdminName := callingBundleName
            accessiblePolicies := setPolicies, adminType := .virtualAdmin, isDebug := false }

/-- The `SetDelegatedPolicies` of an application that manages the admins. -/
def setDelegatedPoliciesOfUser (bundleName : String) (policies : List String) (userId : Int) :
    ErrCode × Service Modules :=
  match checkDelegatedPoliciesOfUser call s bundleName policies userId with
  | .error ret => (ret, s)
  | .ok virtualAdminInfo => setAdminValue build call s userId virtualAdminInfo

end EnterpriseDeviceMgrAbility

end Edm
