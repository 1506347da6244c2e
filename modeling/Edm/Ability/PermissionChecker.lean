import Edm.Ability.PluginPermission
import Edm.Admin.AdminManager

/-! `PermissionChecker`, with the services of the system that it asks about the caller of a request. -/

set_option autoImplicit false

namespace Edm

/-- The caller of a request, as `IPCSkeleton` tells it. -/
structure Caller where
  uid : Int
  tokenId : UInt32
  deriving DecidableEq, Repr

/-- The services behind `IExternalManagerFactory`. -/
structure ExternalManagers where
  /-- The code, and the name that the out parameter has after the call. -/
  getNameForUid : Int → ErrCode × String
  verifyCallingPermission : UInt32 → String → Bool
  isSystemAppOrNative : UInt32 → Bool
  queryActiveOsAccountIds : ErrCode × List Int
  isOsAccountExists : Int → Bool

namespace EdmPermission

def PERMISSION_MANAGE_EDM_POLICY : String := "ohos.permission.MANAGE_EDM_POLICY"
def PERMISSION_ENTERPRISE_MANAGE_SYSTEM : String := "ohos.permission.ENTERPRISE_MANAGE_SYSTEM"

end EdmPermission

/-- The uid of the service itself. -/
def EDM_UID : Int := 3057

/-- The foreground user, or -1 where the query fails. -/
def ExternalManagers.getCurrentUserId (managers : ExternalManagers) : Int :=
  if failed managers.queryActiveOsAccountIds.1 then -1
  else managers.queryActiveOsAccountIds.2.headD (-1)

namespace PermissionChecker

variable (pcOnly : Bool) (managers : ExternalManagers) (caller : Caller)

def verifyCallingPermission (permissionName : String) : Bool :=
  managers.verifyCallingPermission caller.tokenId permissionName

def checkCallingUid (bundleName : String) : ErrCode :=
  let (ret, callingBundleName) := managers.getNameForUid caller.uid
  if ret != ERR_OK then ERR_EDM_PERMISSION_ERROR
  else if bundleName == callingBundleName then ERR_OK
  else ERR_EDM_PERMISSION_ERROR

def PERMISSION_TAG_SYSTEM_API : String := "system"

def checkSystemCalling (apiType : ApiType) (permissionTag : String) : ErrCode :=
  let isCheckSystem := apiType == .systemApi || permissionTag == PERMISSION_TAG_SYSTEM_API
  if isCheckSystem && !managers.isSystemAppOrNative caller.tokenId then
    EdmReturnErrCode.SYSTEM_API_DENIED
  else ERR_OK

def adminTypeToPermissionType (adminType : AdminType) : PermissionType :=
  if adminType = .byod then .byodDeviceAdmin else .superDeviceAdmin

def checkHandlePolicyPermission (operateType : FuncOperateType) (deviceAdmin : Option Admin)
    (policyName permissionName : String) (userId : Int) : ErrCode :=
  if operateType == .set && permissionName == "" then EdmReturnErrCode.PERMISSION_DENIED
  else if permissionName == NONE_PERMISSION_MATCH then EdmReturnErrCode.SYSTEM_ABNORMALLY
  else
    match deviceAdmin with
    | none => EdmReturnErrCode.ADMIN_INACTIVE
    | some deviceAdmin =>
      if failed (checkCallingUid managers caller deviceAdmin.adminInfo.packageName) then
        EdmReturnErrCode.PERMISSION_DENIED
      else if operateType == .set && !deviceAdmin.isAllowedAcrossAccountSetPolicy &&
          userId != managers.getCurrentUserId then
        EdmReturnErrCode.ADMIN_EDM_PERMISSION_DENIED
      else if permissionName != "" && !verifyCallingPermission managers caller permissionName then
        EdmReturnErrCode.PERMISSION_DENIED
      else if !deviceAdmin.hasPermissionToHandlePolicy pcOnly policyName operateType then
        EdmReturnErrCode.ADMIN_EDM_PERMISSION_DENIED
      else ERR_OK

def checkSystemTimerPermission (c : AdminContainer) (bundleName : String) (userId : Int) :
    ErrCode :=
  match AdminManager.getAdminByPkgName c bundleName userId with
  | none => EdmReturnErrCode.ADMIN_INACTIVE
  | some deviceAdmin =>
    if deviceAdmin.getAdminType = .byod then EdmReturnErrCode.ADMIN_EDM_PERMISSION_DENIED
    else if failed (checkCallingUid managers caller deviceAdmin.adminInfo.packageName) then
      EdmReturnErrCode.PERMISSION_DENIED
    else if !verifyCallingPermission managers caller
        EdmPermission.PERMISSION_ENTERPRISE_MANAGE_SYSTEM then
      EdmReturnErrCode.PERMISSION_DENIED
    else ERR_OK

variable {managers caller} {bundleName : String}

theorem checkCallingUid_eq_ok :
    failed (checkCallingUid managers caller bundleName) = false ↔
      managers.getNameForUid caller.uid = (ERR_OK, bundleName) := by
  have herr : failed ERR_EDM_PERMISSION_ERROR = true := by decide
  have hok : failed ERR_OK = false := by decide
  unfold checkCallingUid
  obtain ⟨ret, name⟩ := managers.getNameForUid caller.uid
  by_cases hret : ret = ERR_OK
  · by_cases hname : bundleName = name
    · simp [hret, hname, hok]
    · have hother : ¬name = bundleName := fun h => hname h.symm
      simp [hret, hname, hother, herr]
  · simp [hret, herr]

variable {pcOnly} {deviceAdmin : Admin} {policyName permissionName : String} {userId : Int}

/-- What an admin must meet to set a policy. -/
structure MaySet (pcOnly : Bool) (managers : ExternalManagers) (caller : Caller)
    (deviceAdmin : Admin) (policyName permissionName : String) (userId : Int) : Prop where
  permission_ne : permissionName ≠ ""
  permission_match : permissionName ≠ NONE_PERMISSION_MATCH
  own : managers.getNameForUid caller.uid = (ERR_OK, deviceAdmin.adminInfo.packageName)
  user : deviceAdmin.isAllowedAcrossAccountSetPolicy = true ∨ userId = managers.getCurrentUserId
  granted : verifyCallingPermission managers caller permissionName = true
  handles : deviceAdmin.hasPermissionToHandlePolicy pcOnly policyName .set = true

theorem checkHandlePolicyPermission_set :
    failed (checkHandlePolicyPermission pcOnly managers caller .set (some deviceAdmin) policyName
      permissionName userId) = false ↔
      MaySet pcOnly managers caller deviceAdmin policyName permissionName userId := by
  have hdenied : failed EdmReturnErrCode.PERMISSION_DENIED = true := by decide
  have habnormal : failed EdmReturnErrCode.SYSTEM_ABNORMALLY = true := by decide
  have hadmin : failed EdmReturnErrCode.ADMIN_EDM_PERMISSION_DENIED = true := by decide
  have hok : failed ERR_OK = false := by decide
  unfold checkHandlePolicyPermission
  simp only [failed_check hdenied, failed_check habnormal, failed_check hadmin, hok, and_true,
    checkCallingUid_eq_ok, beq_self_eq_true, Bool.true_and, beq_eq_false_iff_ne, ne_eq,
    Bool.and_eq_false_iff, Bool.not_eq_false', bne_eq_false_iff_eq]
  constructor
  · rintro ⟨hne, hmatch, hown, huser, hgranted, hhandles⟩
    exact ⟨hne, hmatch, hown, huser, hgranted.resolve_left hne, hhandles⟩
  · rintro ⟨hne, hmatch, hown, huser, hgranted, hhandles⟩
    exact ⟨hne, hmatch, hown, huser, .inr hgranted, hhandles⟩

end PermissionChecker

end Edm
