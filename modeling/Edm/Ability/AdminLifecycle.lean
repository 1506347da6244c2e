import Edm.Ability.Service

/-! How admins come and go: enabling, authorizing, the running mode, disabling and replacing.  The
notifications, the settings and the uninstall protection that go with it are left out, they write
neither admins nor policies. -/

set_option autoImplicit false

namespace Edm

open Library Library.UnorderedMap

structure ElementName where
  bundleName : String
  abilityName : String
  deriving DecidableEq, Repr

/-- A call to the service: the services of the system and the caller at the time of the call, what
becomes of the removals that it makes, and of the statement that writes an admin. -/
structure ServiceCall (Reply : Type) where
  managers : AbilityManagers
  caller : Caller
  outcomes : RemovalOutcomes Reply
  write : RdbOutcome

def ServiceCall.verify {Reply : Type} (call : ServiceCall Reply) (permission : String) : Bool :=
  PermissionChecker.verifyCallingPermission call.managers.toExternalManagers call.caller permission

def MAX_SDA_AND_DA_COUNT : Nat := 10

namespace AdminContainer

variable (c : AdminContainer)

/-- Whether an admin of any user is a debug admin, or is not. -/
def isExistTargetAdmin (isDebug : Bool) : Bool :=
  !(isEmpty (filterValues (fun admins => admins.any fun item => item.isDebug == isDebug) c))

def getSuperDeviceAdminAndDeviceAdminCount : Nat :=
  ((c.adminsOf DEFAULT_USER_ID).filter fun item =>
    item.adminType == .ent || item.adminType == .normal).length

end AdminContainer

namespace AdminManager

variable (c : AdminContainer)

def getSuperAdmin : Option Admin :=
  (getAdminByUserId c DEFAULT_USER_ID).find? fun admin => admin.getAdminType == .ent

/-- Whether there is a super admin that is not a debug admin. -/
def isSuperAdminExist : Bool :=
  (getAdminByUserId c DEFAULT_USER_ID).any fun admin =>
    admin.getAdminType == .ent && !admin.adminInfo.isDebug

end AdminManager

namespace Admin

variable (pcOnly : Bool) (admin : Admin)

def isSuperAdmin : Bool := admin.getAdminType == .ent

open EdmPermission in
def getDisableSelfPermission : String :=
  match admin.getAdminType with
  | .ent => PERMISSION_ENTERPRISE_DEACTIVATE_DEVICE_ADMIN
  | .normal => if pcOnly then PERMISSION_ENTERPRISE_DEACTIVATE_DEVICE_ADMIN else PERMISSION_DENIED
  | .byod => PERMISSION_GET_ADMINPROVISION_INFO
  | .subSuperAdmin | .virtualAdmin | .unknown => PERMISSION_DENIED

end Admin

namespace EnterpriseDeviceMgrAbility

open EdmPermission PermissionChecker

variable {Modules Req Reply Event : Type} (build : Build Modules Req Reply Event)
  (call : ServiceCall Reply) (s : Service Modules)

/-- `AdminManager::SetAdminValue`, over the service. -/
def setAdminValue (userId : Int) (adminItem : AdminInfo) : ErrCode × Service Modules :=
  let (ret, admins) :=
    AdminManager.setAdminValue build.cjson s.device.admins call.write userId adminItem
  (ret, s.setAdmins admins)

/-! ### Enabling -/

section

variable (c : AdminContainer) (managers : AbilityManagers)

def verifyEnableAdminConditionCheckExistAdmin (admin : ElementName) (type : AdminType)
    (userId : Int) (isDebug : Bool) : ErrCode :=
  match AdminManager.getAdminByPkgName c admin.bundleName userId with
  | none => ERR_OK
  | some existAdmin =>
    if existAdmin.getAdminType != type then ERR_EDM_ADD_ADMIN_FAILED
    else if isDebug != existAdmin.adminInfo.isDebug then ERR_EDM_ADD_ADMIN_FAILED
    else if existAdmin.adminInfo.className != admin.abilityName then ERR_EDM_ADD_ADMIN_FAILED
    else ERR_OK

def verifyEnableAdminCondition (admin : ElementName) (type : AdminType) (userId : Int)
    (isDebug : Bool) : ErrCode :=
  if type == .ent && userId != DEFAULT_USER_ID then ERR_EDM_ADD_ADMIN_FAILED
  else if type != .ent && managers.securityMode then ERR_EDM_ADD_ADMIN_FAILED
  else if c.isExistTargetAdmin !isDebug then ERR_EDM_ADD_ADMIN_FAILED
  else if verifyEnableAdminConditionCheckExistAdmin c admin type userId isDebug != ERR_OK then
    ERR_EDM_ADD_ADMIN_FAILED
  else ERR_OK

def enableAdminPreCheck (pcOnly : Bool) (type : AdminType) (enableSource : EnableSource) :
    ErrCode :=
  if type != .normal && type != .ent && type != .byod then EdmReturnErrCode.PARAM_ERROR
  else if managers.maintenanceMode then EdmReturnErrCode.ENABLE_ADMIN_FAILED
  else if !pcOnly && enableSource != .deploy && enableSource != .intranetDeploy then
    EdmReturnErrCode.PARAM_ERROR
  else ERR_OK

end

/-- The checks of `EnableAdminWithPermission`: the user to store the admin under, and the admin. -/
def checkEnableAdmin (admin : ElementName) (entInfo : EntInfo) (type : AdminType) (userId : Int)
    (permission : String) (enableSource : EnableSource) : Except ErrCode (Int × AdminInfo) :=
  let managers := call.managers
  let isDebug := managers.isDebug
  let res := enableAdminPreCheck managers build.pcOnly type enableSource
  if failed res then .error res
  else if s.container.getSuperDeviceAdminAndDeviceAdminCount ≥ MAX_SDA_AND_DA_COUNT then
    .error EdmReturnErrCode.ENABLE_ADMIN_FAILED
  else if !isDebug && !call.verify permission then .error EdmReturnErrCode.PERMISSION_DENIED
  else
    match managers.queryExtensionAbilityInfos admin.bundleName admin.abilityName userId with
    | [] => .error EdmReturnErrCode.COMPONENT_INVALID
    | abilityInfo :: _ =>
      if failed (verifyEnableAdminCondition s.container managers admin type userId isDebug) then
        .error EdmReturnErrCode.ENABLE_ADMIN_FAILED
      else if !isDebug && type == .ent && AdminManager.isSuperAdminExist s.container &&
          (AdminManager.getAdminByPkgName s.container admin.bundleName userId).isNone then
        .error EdmReturnErrCode.ENABLE_ADMIN_FAILED
      else
        match getAllPermissionsByAdmin managers admin.bundleName userId with
        | .error _ => .error EdmReturnErrCode.COMPONENT_INVALID
        | .ok permission =>
          let saveUserId := if type == .ent || type == .normal then DEFAULT_USER_ID else userId
          .ok (saveUserId,
            { packageName := abilityInfo.1, className := abilityInfo.2, entInfo, permission
              adminType := type, isDebug, enableSource })

def enableAdminWithPermission (admin : ElementName) (entInfo : EntInfo) (type : AdminType)
    (userId : Int) (permission : String) (enableSource : EnableSource) :
    ErrCode × Service Modules :=
  match checkEnableAdmin build call s admin entInfo type userId permission enableSource with
  | .error ret => (ret, s)
  | .ok (saveUserId, adminInfo) =>
    let (ret, s) := setAdminValue build call s saveUserId adminInfo
    if failed ret then (EdmReturnErrCode.ENABLE_ADMIN_FAILED, s) else (ERR_OK, s)

def checkEnableDeviceAdmin (admin : ElementName) : ErrCode :=
  let userId := call.managers.getCurrentUserId
  if s.container.getSuperDeviceAdminAndDeviceAdminCount ≥ MAX_SDA_AND_DA_COUNT then
    EdmReturnErrCode.ENABLE_ADMIN_FAILED
  else if !call.verify PERMISSION_ENTERPRISE_MANAGE_DEVICE_ADMIN then
    EdmReturnErrCode.PERMISSION_DENIED
  else if (call.managers.queryExtensionAbilityInfos admin.bundleName admin.abilityName
      userId).isEmpty then
    EdmReturnErrCode.COMPONENT_INVALID
  else ERR_OK

/-- The checks of `EnableDeviceAdmin`.  There is nothing to store for a device admin that exists. -/
def checkDeviceAdmin (admin : ElementName) : Except ErrCode (Option AdminInfo) :=
  let managers := call.managers
  let callingBundleName := managers.getHapTokenBundleName call.caller.tokenId
  match AdminManager.getAdminByPkgName s.container callingBundleName DEFAULT_USER_ID with
  | none => .error EdmReturnErrCode.ADMIN_INACTIVE
  | some superAdmin =>
    let ret := checkEnableDeviceAdmin call s admin
    if !superAdmin.hasPermissionToCallServiceCode build.pcOnly
        EdmInterfaceCode.ENABLE_DEVICE_ADMIN then
      .error EdmReturnErrCode.ADMIN_EDM_PERMISSION_DENIED
    else if failed ret then .error ret
    else
      match AdminManager.getAdminByPkgName s.container admin.bundleName DEFAULT_USER_ID with
      | some existAdmin =>
        if existAdmin.getAdminType == .normal then .ok none
        else .error EdmReturnErrCode.ENABLE_ADMIN_FAILED
      | none =>
        .ok (some
          { packageName := admin.bundleName
            className := admin.abilityName
            permission := (getAllPermissionsByAdmin managers admin.bundleName
              DEFAULT_USER_ID).toOption.getD []
            adminType := .normal
            isDebug := superAdmin.adminInfo.isDebug
            enableSource := .superAdmin })

def enableDeviceAdmin (admin : ElementName) : ErrCode × Service Modules :=
  match checkDeviceAdmin build call s admin with
  | .error ret => (ret, s)
  | .ok none => (ERR_OK, s)
  | .ok (some adminInfo) =>
    let (ret, s) := setAdminValue build call s DEFAULT_USER_ID adminInfo
    if failed ret then (EdmReturnErrCode.ENABLE_ADMIN_FAILED, s) else (ERR_OK, s)

/-- The checks of `AuthorizeAdmin`. -/
def checkAuthorizeAdmin (admin : ElementName) (bundleName : String) : Except ErrCode AdminInfo :=
  let managers := call.managers
  let userId := managers.getCurrentUserId
  match AdminManager.getAdminByPkgName s.container admin.bundleName userId with
  | none => .error EdmReturnErrCode.ADMIN_INACTIVE
  | some adminItem =>
    let subAdmin := AdminManager.getAdminByPkgName s.container bundleName userId
    if !adminItem.hasPermissionToCallServiceCode build.pcOnly EdmInterfaceCode.AUTHORIZE_ADMIN then
      .error EdmReturnErrCode.ADMIN_EDM_PERMISSION_DENIED
    else if !call.verify PERMISSION_MANAGE_ENTERPRISE_DEVICE_ADMIN then
      .error EdmReturnErrCode.PERMISSION_DENIED
    else if subAdmin.any fun subAdmin => subAdmin.getAdminType != .subSuperAdmin then
      .error EdmReturnErrCode.ADMIN_EDM_PERMISSION_DENIED
    else
      match getAllPermissionsByAdmin managers bundleName DEFAULT_USER_ID with
      | .error _ => .error EdmReturnErrCode.AUTHORIZE_PERMISSION_FAILED
      | .ok permission =>
        .ok
          { packageName := bundleName
            className := managers.getExtensionEnterpriseAdminName bundleName DEFAULT_USER_ID
            permission, parentAdminName := admin.bundleName, adminType := .subSuperAdmin
            isDebug := adminItem.adminInfo.isDebug }

def authorizeAdmin (admin : ElementName) (bundleName : String) : ErrCode × Service Modules :=
  match checkAuthorizeAdmin build call s admin bundleName with
  | .error ret => (ret, s)
  | .ok subAdminInfo => setAdminValue build call s DEFAULT_USER_ID subAdminInfo

/-- `CheckRunningMode`, for the modes that a number stands for. -/
def runningModeOf (runningMode : UInt32) : Option RunningMode :=
  if runningMode = 0 then some .default
  else if runningMode = 1 then some .multiUser
  else none

/-- The checks of `SetAdminRunningMode`. -/
def checkAdminRunningMode (admin : ElementName) (runningMode : UInt32) :
    Except ErrCode AdminInfo :=
  match AdminManager.getAdminByPkgName s.container admin.bundleName
      call.managers.getCurrentUserId with
  | none => .error EdmReturnErrCode.ADMIN_INACTIVE
  | some adminItem =>
    if !call.verify PERMISSION_MANAGE_ENTERPRISE_DEVICE_ADMIN then
      .error EdmReturnErrCode.PERMISSION_DENIED
    else
      match runningModeOf runningMode with
      | none => .error EdmReturnErrCode.PARAM_ERROR
      | some runningMode => .ok { adminItem.adminInfo with runningMode }

def setAdminRunningMode (admin : ElementName) (runningMode : UInt32) :
    ErrCode × Service Modules :=
  match checkAdminRunningMode call s admin runningMode with
  | .error ret => (ret, s)
  | .ok adminInfo => setAdminValue build call s DEFAULT_USER_ID adminInfo

/-! ### Disabling -/

def checkDisableAdmin (admin : Admin) (adminType : AdminType) : ErrCode :=
  let managers := call.managers
  let requiredPermission := admin.getDisableSelfPermission build.pcOnly
  if managers.isDebug then
    if admin.adminInfo.isDebug then ERR_OK else EdmReturnErrCode.DISABLE_ADMIN_FAILED
  else if admin.getAdminType != adminType then EdmReturnErrCode.DISABLE_ADMIN_FAILED
  else if call.verify PERMISSION_MANAGE_ENTERPRISE_DEVICE_ADMIN then ERR_OK
  else if managers.getHapTokenBundleName call.caller.tokenId != admin.adminInfo.packageName then
    EdmReturnErrCode.PERMISSION_DENIED
  else if requiredPermission == PERMISSION_DENIED then EdmReturnErrCode.PERMISSION_DENIED
  else if !call.verify requiredPermission then EdmReturnErrCode.PERMISSION_DENIED
  else ERR_OK

/-- The removal that `DoDisableAdmin` makes for an admin. -/
def removeDisabledAdmin (admin : Admin) (userId : Int) : ErrCode × Service Modules :=
  let packageName := admin.adminInfo.packageName
  if admin.isSuperAdmin then removeSuperAdminAndAdminPolicy build call.outcomes s packageName
  else if admin.isAllowedAcrossAccountSetPolicy then
    removeSubSuperAdminAndAdminPolicy build call.outcomes s packageName
  else removeAdminOfUser build call.outcomes s packageName userId

def doDisableAdmin (admin : Admin) (userId : Int) : ErrCode × Service Modules :=
  let (ret, s) := removeDisabledAdmin build call s admin userId
  if failed ret then (EdmReturnErrCode.DISABLE_ADMIN_FAILED, s) else (ERR_OK, s)

def disableAdmin (admin : ElementName) (userId : Int) : ErrCode × Service Modules :=
  match AdminManager.getAdminByPkgName s.container admin.bundleName userId with
  | none => (EdmReturnErrCode.DISABLE_ADMIN_FAILED, s)
  | some deviceAdmin =>
    let ret := checkDisableAdmin build call deviceAdmin deviceAdmin.getAdminType
    if failed ret then (ret, s)
    else
      doDisableAdmin build call s deviceAdmin
        (if deviceAdmin.isAllowedAcrossAccountSetPolicy then DEFAULT_USER_ID else userId)

def disableSuperAdmin (bundleName : String) : ErrCode × Service Modules :=
  match AdminManager.getAdminByPkgName s.container bundleName DEFAULT_USER_ID with
  | none => (EdmReturnErrCode.DISABLE_ADMIN_FAILED, s)
  | some deviceAdmin =>
    let ret := checkDisableAdmin build call deviceAdmin .ent
    if failed ret then (ret, s) else doDisableAdmin build call s deviceAdmin DEFAULT_USER_ID

def checkDisableDeviceAdmin (deviceAdmin : Admin) : ErrCode :=
  let callingBundleName := call.managers.getHapTokenBundleName call.caller.tokenId
  match AdminManager.getAdminByPkgName s.container callingBundleName DEFAULT_USER_ID with
  | none => EdmReturnErrCode.ADMIN_INACTIVE
  | some superAdmin =>
    if !superAdmin.hasPermissionToCallServiceCode build.pcOnly
        EdmInterfaceCode.DISABLE_DEVICE_ADMIN then
      EdmReturnErrCode.ADMIN_EDM_PERMISSION_DENIED
    else if !call.verify PERMISSION_ENTERPRISE_MANAGE_DEVICE_ADMIN then
      EdmReturnErrCode.PERMISSION_DENIED
    else if deviceAdmin.getAdminType != .normal then EdmReturnErrCode.DISABLE_ADMIN_FAILED
    else ERR_OK

def disableDeviceAdmin (admin : ElementName) : ErrCode × Service Modules :=
  match AdminManager.getAdminByPkgName s.container admin.bundleName DEFAULT_USER_ID with
  | none => (EdmReturnErrCode.DISABLE_ADMIN_FAILED, s)
  | some deviceAdmin =>
    let ret := checkDisableDeviceAdmin build call s deviceAdmin
    if failed ret then (ret, s) else doDisableAdmin build call s deviceAdmin DEFAULT_USER_ID

/-! ### Replacing -/

/-- What becomes of the statements of a replacement that keeps the policies, and what the bundle
manager answers.  `parents` and `revertParents` are the numbers of parent updates that take effect
before one fails, if one does. -/
structure KeepOutcomes where
  replaceAdmin : RdbOutcome
  parents : Option Nat
  replacePolicies : RdbOutcome
  revertAdmin : RdbOutcome
  revertParents : Option Nat
  delDisallowUninstallApp : Bool
  addDisallowUninstallApp : Bool
  uninstallPolicy : Writes

/-- `std::string::replace` at the first place where `std::string::find` finds `old`, if it does. -/
def replaceFirst (old new : List Char) : List Char → Option (List Char)
  | [] => if old = [] then some new else none
  | c :: cs =>
    if old.isPrefixOf (c :: cs) then some (new ++ (c :: cs).drop old.length)
    else (replaceFirst old new cs).map (c :: ·)

def replaceName (adminName newAdminName policyValue : String) : Option String :=
  (replaceFirst adminName.toList newAdminName.toList policyValue.toList).map String.ofList

/-- A combined value without the name of the old admin makes the last part throw, which is taken as a
failure. -/
def handleKeepPolicy (keep : KeepOutcomes) (adminName newAdminName : String)
    (edmAdminInfo oldAdminInfo : AdminInfo) : ErrCode × Service Modules :=
  let uninstall := PolicyName.POLICY_DISALLOWED_UNINSTALL_BUNDLES
  let (ret, admins) := AdminManager.replaceSuperAdminByPackageName build.cjson s.device.admins
    keep.replaceAdmin keep.parents adminName edmAdminInfo
  let s := s.setAdmins admins
  if failed ret then (EdmReturnErrCode.REPLACE_ADMIN_FAILED, s)
  else
    let manager := s.device.policies.manager DEFAULT_USER_ID
    let adminPolicyValue := manager.policyValue adminName uninstall
    let combinedPolicyValue := manager.policyValue "" uninstall
    let (ret, store) := (s.device.policies.user DEFAULT_USER_ID).replacePolicyByAdminName
      keep.replacePolicies DEFAULT_USER_ID adminName newAdminName
    let s := s.setUserStore DEFAULT_USER_ID store
    if failed ret then
      (EdmReturnErrCode.REPLACE_ADMIN_FAILED,
        s.setAdmins (AdminManager.replaceSuperAdminByPackageName build.cjson s.device.admins
          keep.revertAdmin keep.revertParents newAdminName oldAdminInfo).2)
    else if adminPolicyValue = "" then (ERR_OK, s)
    else
      match replaceName adminName newAdminName adminPolicyValue with
      | none => (ERR_OK, s)
      | some adminPolicyValue =>
        if !keep.delDisallowUninstallApp || !keep.addDisallowUninstallApp then
          (EdmReturnErrCode.SYSTEM_ABNORMALLY, s)
        else
          match replaceName adminName newAdminName combinedPolicyValue with
          | none => (EdmReturnErrCode.SYSTEM_ABNORMALLY, s)
          | some combinedPolicyValue =>
            let (ret, store) := (s.device.policies.user DEFAULT_USER_ID).setPolicy
              keep.uninstallPolicy newAdminName uninstall adminPolicyValue combinedPolicyValue
            (if failed ret then EdmReturnErrCode.SYSTEM_ABNORMALLY else ERR_OK,
              s.setUserStore DEFAULT_USER_ID store)

/-- The name of the extension ability of the new admin, and its permissions. -/
def checkReplaceAdmins (oldAdmin newAdmin : ElementName) :
    Except ErrCode ((String × String) × List String) :=
  let managers := call.managers
  if managers.maintenanceMode then .error EdmReturnErrCode.REPLACE_ADMIN_FAILED
  else if !call.verify PERMISSION_MANAGE_ENTERPRISE_DEVICE_ADMIN then
    .error EdmReturnErrCode.PERMISSION_DENIED
  else if !(AdminManager.getSuperAdmin s.container).any fun edmAdmin =>
      edmAdmin.adminInfo.packageName == oldAdmin.bundleName &&
        edmAdmin.adminInfo.className == oldAdmin.abilityName then
    .error EdmReturnErrCode.ADMIN_INACTIVE
  else
    match managers.queryExtensionAbilityInfos newAdmin.bundleName newAdmin.abilityName
        DEFAULT_USER_ID with
    | [] => .error EdmReturnErrCode.COMPONENT_INVALID
    | abilityInfo :: _ =>
      if failed (verifyEnableAdminCondition s.container managers newAdmin .ent DEFAULT_USER_ID
          false) then
        .error EdmReturnErrCode.REPLACE_ADMIN_FAILED
      else
        match getAllPermissionsByAdmin managers newAdmin.bundleName DEFAULT_USER_ID with
        | .error _ => .error EdmReturnErrCode.SYSTEM_ABNORMALLY
        | .ok permission => .ok (abilityInfo, permission)

/-- The code of `HandleKeepPolicy` is not looked at. -/
def replaceSuperAdmin (keep : KeepOutcomes) (oldAdmin newAdmin : ElementName) (keepPolicy : Bool) :
    ErrCode × Service Modules :=
  match checkReplaceAdmins call s oldAdmin newAdmin with
  | .error ret => (ret, s)
  | .ok ((bundleName, name), permission) =>
    if (AdminManager.getSuperAdmin s.container).any fun superAdmin =>
        superAdmin.adminInfo.runningMode == .multiUser then
      (EdmReturnErrCode.REPLACE_ADMIN_FAILED, s)
    else
      match AdminManager.getAdminByPkgName s.container oldAdmin.bundleName DEFAULT_USER_ID with
      | none => (EdmReturnErrCode.ADMIN_INACTIVE, s)
      | some adminPtr =>
        let adminInfo : AdminInfo :=
          { packageName := bundleName, className := name, entInfo := adminPtr.adminInfo.entInfo
            permission, adminType := .ent, isDebug := false, enableSource := .replace }
        if keepPolicy then
          (ERR_OK, (handleKeepPolicy build s keep oldAdmin.bundleName newAdmin.bundleName adminInfo
            adminPtr.adminInfo).2)
        else
          let (res, s) := doDisableAdmin build call s adminPtr DEFAULT_USER_ID
          if res != ERR_OK then (EdmReturnErrCode.REPLACE_ADMIN_FAILED, s)
          else
            let (ret, s) := setAdminValue build call s DEFAULT_USER_ID adminInfo
            if failed ret then (EdmReturnErrCode.REPLACE_ADMIN_FAILED, s) else (ERR_OK, s)

end EnterpriseDeviceMgrAbility

end Edm
