import Edm.Ability.PermissionChecker

/-! The two entry points that set a policy, up to the call that they let through, and who gets that
far.  The build flag for fuzzing is off. -/

set_option autoImplicit false

namespace Edm

open AdminManager

/-- A call that an entry point lets through. -/
inductive Invocation where
  | updateDevicePolicy (code : UInt32) (bundleName : String) (userId : Int)
  | handleTimerOperation (code : UInt32) (bundleName : String) (userId : Int)
  deriving DecidableEq, Repr

def PERMISSION_TAG_VERSION_23 : String := "version_23"

def WITHOUT_PERMISSION_TAG : String := ""

namespace EnterpriseDeviceMgrAbility

variable (pcOnly : Bool) (managers : ExternalManagers) (registry : Registry) (c : AdminContainer)
  (caller : Caller)

/-- The permission that the plugin requires of the type of the admin. -/
def setPermission (code : UInt32) (deviceAdmin : Admin) (permissionTag : String) : String :=
  PluginManager.getPermission registry code .set
    (PermissionChecker.adminTypeToPermissionType deviceAdmin.getAdminType) permissionTag

def handleDevicePolicy (code : UInt32) (bundleName permissionTag : String) (userId : Int) :
    Except ErrCode Invocation :=
  let policyName := PluginManager.getPolicyName registry code
  if policyName = "" then .error EdmReturnErrCode.INTERFACE_UNSUPPORTED
  else if !managers.isOsAccountExists userId && permissionTag == PERMISSION_TAG_VERSION_23 then
    .error EdmReturnErrCode.PARAMETER_VERIFICATION_FAILED
  else if !managers.isOsAccountExists userId then .error EdmReturnErrCode.PARAM_ERROR
  else
    let systemCalling := PermissionChecker.checkSystemCalling managers caller
      (PluginManager.getPluginType registry code .set) ""
    if failed systemCalling then .error systemCalling
    else if PermissionChecker.verifyCallingPermission managers caller
        EdmPermission.PERMISSION_MANAGE_EDM_POLICY then
      .ok (.updateDevicePolicy code bundleName userId)
    else
      match getAdminByPkgName c bundleName managers.getCurrentUserId with
      | none => .error EdmReturnErrCode.ADMIN_INACTIVE
      | some deviceAdmin =>
        if caller.uid != EDM_UID then
          let checkAdminPermission := PermissionChecker.checkHandlePolicyPermission pcOnly managers
            caller .set (some deviceAdmin) policyName
            (setPermission registry code deviceAdmin permissionTag) userId
          if failed checkAdminPermission then .error checkAdminPermission
          else .ok (.updateDevicePolicy code bundleName userId)
        else .ok (.updateDevicePolicy code bundleName userId)

def checkHandleDevicePolicyNewPermission (code : UInt32) (bundleName policyName : String)
    (userId : Int) : ErrCode :=
  if PermissionChecker.verifyCallingPermission managers caller
      EdmPermission.PERMISSION_MANAGE_EDM_POLICY then ERR_OK
  else
    match getAdminByPkgName c bundleName managers.getCurrentUserId with
    | none => EdmReturnErrCode.ADMIN_INACTIVE
    | some deviceAdmin =>
      if caller.uid == EDM_UID then ERR_OK
      else
        PermissionChecker.checkHandlePolicyPermission pcOnly managers caller .set (some deviceAdmin)
          policyName (setPermission registry code deviceAdmin WITHOUT_PERMISSION_TAG) userId

def isSystemTimerFuncCode (code : UInt32) : Bool :=
  (funcToPolicy code).toNat == EdmInterfaceCode.SYSTEM_TIMER_OPERATION

def handleSystemTimerPolicyNew (code : UInt32) (userId : Int) : Except ErrCode Invocation :=
  let (ret, bundleName) := managers.getNameForUid caller.uid
  if ret != ERR_OK then .error ERR_EDM_PERMISSION_ERROR
  else
    let permRet := PermissionChecker.checkSystemTimerPermission managers caller c bundleName
      managers.getCurrentUserId
    if failed permRet then .error permRet
    else .ok (.handleTimerOperation code bundleName userId)

/-- The code of `GetNameForUid` is ignored. -/
def handleDevicePolicyNew (code : UInt32) (userId : Int) : Except ErrCode Invocation :=
  if !pcOnly && isSystemTimerFuncCode code then
    handleSystemTimerPolicyNew managers c caller code userId
  else
    let policyName := PluginManager.getPolicyName registry code
    if policyName = "" then .error EdmReturnErrCode.INTERFACE_UNSUPPORTED
    else
      let bundleName := (managers.getNameForUid caller.uid).2
      if !managers.isOsAccountExists userId then .error EdmReturnErrCode.UID_INVALID
      else
        let systemCalling := PermissionChecker.checkSystemCalling managers caller
          (PluginManager.getPluginType registry code .set) ""
        if failed systemCalling then .error systemCalling
        else
          let permissionRet := checkHandleDevicePolicyNewPermission pcOnly managers registry c caller
            code bundleName policyName userId
          if failed permissionRet then .error permissionRet
          else .ok (.updateDevicePolicy code bundleName userId)

end EnterpriseDeviceMgrAbility

open EnterpriseDeviceMgrAbility

/-! ### Who may set a policy -/

/-- The policies that an admin may set, by its type. -/
def Admin.Sets (pcOnly : Bool) (deviceAdmin : Admin) (policyName : String) : Prop :=
  match deviceAdmin.getAdminType with
  | .ent | .subSuperAdmin => True
  | .normal => pcOnly = true
  | .virtualAdmin =>
    policyName ∈ deviceAdmin.adminInfo.accessiblePolicies ∨
      PolicyName.POLICY_ALLOW_ALL ∈ deviceAdmin.adminInfo.accessiblePolicies ∧
        policyName ∈ PermissionChecker.allowDelegatedPolicies
  | .byod => policyName ∈ byodPolicies
  | .unknown => False

theorem hasPermissionToHandlePolicy_set {pcOnly : Bool} {deviceAdmin : Admin} {policyName : String}
    (h : deviceAdmin.hasPermissionToHandlePolicy pcOnly policyName .set = true) :
    deviceAdmin.Sets pcOnly policyName := by
  unfold Admin.hasPermissionToHandlePolicy at h
  unfold Admin.Sets
  cases htype : deviceAdmin.getAdminType with
  | ent => trivial
  | subSuperAdmin => trivial
  | normal =>
    rw [htype] at h
    by_contra hpc
    simp only [Bool.not_eq_true] at hpc
    simp [hpc] at h
  | virtualAdmin =>
    rw [htype] at h
    obtain ⟨policy, hpolicy, hallowed⟩ := List.any_eq_true.mp h
    simp only [Bool.or_eq_true, Bool.and_eq_true, beq_iff_eq] at hallowed
    rcases hallowed with ⟨rfl, hdelegated⟩ | rfl
    · exact .inr ⟨hpolicy, List.contains_iff_mem.mp hdelegated⟩
    · exact .inl hpolicy
  | byod =>
    have hfixed := deviceAdmin.byod htype
    rw [htype] at h
    rw [hfixed] at h
    exact List.contains_iff_mem.mp h
  | unknown =>
    rw [htype] at h
    contradiction

/-- A caller that may have a policy set under the name of an admin. -/
structure Authorized (pcOnly : Bool) (managers : ExternalManagers) (registry : Registry)
    (c : AdminContainer) (caller : Caller) (permissionTag : String) (code : UInt32)
    (bundleName : String) (userId : Int) (deviceAdmin : Admin) : Prop where
  own : managers.getNameForUid caller.uid = (ERR_OK, bundleName)
  active : getAdminByPkgName c bundleName managers.getCurrentUserId = some deviceAdmin
  permission_ne : setPermission registry code deviceAdmin permissionTag ≠ ""
  permission_match : setPermission registry code deviceAdmin permissionTag ≠ NONE_PERMISSION_MATCH
  granted : PermissionChecker.verifyCallingPermission managers caller
    (setPermission registry code deviceAdmin permissionTag) = true
  sets : deviceAdmin.Sets pcOnly (PluginManager.getPolicyName registry code)
  user : userId = managers.getCurrentUserId ∨ deviceAdmin.isAllowedAcrossAccountSetPolicy = true

/-- Neither the service itself nor a holder of the permission to manage policies. -/
structure Ordinary (managers : ExternalManagers) (caller : Caller) : Prop where
  not_service : caller.uid ≠ EDM_UID
  not_manager : PermissionChecker.verifyCallingPermission managers caller
    EdmPermission.PERMISSION_MANAGE_EDM_POLICY = false

/-- The requests that reach `UpdateDevicePolicy`. -/
structure Admitted (pcOnly : Bool) (managers : ExternalManagers) (registry : Registry)
    (c : AdminContainer) (caller : Caller) (permissionTag : String) (code : UInt32)
    (bundleName : String) (userId : Int) : Prop where
  policyName_ne : PluginManager.getPolicyName registry code ≠ ""
  user_exists : managers.isOsAccountExists userId = true
  systemCalling : failed (PermissionChecker.checkSystemCalling managers caller
    (PluginManager.getPluginType registry code .set) "") = false
  admin : PermissionChecker.verifyCallingPermission managers caller
      EdmPermission.PERMISSION_MANAGE_EDM_POLICY = true ∨
    ∃ deviceAdmin, getAdminByPkgName c bundleName managers.getCurrentUserId = some deviceAdmin ∧
      (caller.uid = EDM_UID ∨
        PermissionChecker.MaySet pcOnly managers caller deviceAdmin
          (PluginManager.getPolicyName registry code)
          (setPermission registry code deviceAdmin permissionTag) userId)

section Admission

variable {pcOnly : Bool} {managers : ExternalManagers} {registry : Registry} {c : AdminContainer}
  {caller : Caller} {code : UInt32} {bundleName permissionTag : String} {userId : Int}

theorem handleDevicePolicy_ok {invocation : Invocation} :
    handleDevicePolicy pcOnly managers registry c caller code bundleName permissionTag userId =
      .ok invocation ↔
      invocation = .updateDevicePolicy code bundleName userId ∧
        Admitted pcOnly managers registry c caller permissionTag code bundleName userId := by
  unfold handleDevicePolicy
  simp only [ok_check]
  constructor
  · rintro ⟨hname, -, huser, hsystem, hrest⟩
    have hadmitted : _ → Admitted pcOnly managers registry c caller permissionTag code bundleName
        userId := Admitted.mk hname (by simpa using huser) (by simpa using hsystem)
    split at hrest <;> rename_i hmanager
    · exact ⟨(Except.ok.inj hrest).symm, hadmitted (.inl hmanager)⟩
    · split at hrest <;> rename_i hfound
      · contradiction
      · split at hrest <;> rename_i hservice
        · obtain ⟨hcheck, hok⟩ := ok_check.mp hrest
          have hset := PermissionChecker.checkHandlePolicyPermission_set.mp
            (Bool.eq_false_iff.mpr hcheck)
          exact ⟨(Except.ok.inj hok).symm, hadmitted (.inr ⟨_, hfound, .inr hset⟩)⟩
        · have hself : caller.uid = EDM_UID := by simpa using hservice
          exact ⟨(Except.ok.inj hrest).symm, hadmitted (.inr ⟨_, hfound, .inl hself⟩)⟩
  · rintro ⟨rfl, h⟩
    refine ⟨h.policyName_ne, by simp [h.user_exists], by simp [h.user_exists],
      by simp [h.systemCalling], ?_⟩
    split <;> rename_i hmanager
    · rfl
    · obtain ⟨deviceAdmin, hfound, hset⟩ := h.admin.resolve_left hmanager
      rw [hfound]
      dsimp only
      split <;> rename_i hservice
      · have hother : caller.uid ≠ EDM_UID := by simpa using hservice
        exact ok_check.mpr ⟨Bool.eq_false_iff.mp
          (PermissionChecker.checkHandlePolicyPermission_set.mpr (hset.resolve_left hother)), rfl⟩
      · rfl

theorem checkHandleDevicePolicyNewPermission_ok :
    failed (checkHandleDevicePolicyNewPermission pcOnly managers registry c caller code bundleName
      (PluginManager.getPolicyName registry code) userId) = false ↔
      PermissionChecker.verifyCallingPermission managers caller
        EdmPermission.PERMISSION_MANAGE_EDM_POLICY = true ∨
      ∃ deviceAdmin, getAdminByPkgName c bundleName managers.getCurrentUserId = some deviceAdmin ∧
        (caller.uid = EDM_UID ∨
          PermissionChecker.MaySet pcOnly managers caller deviceAdmin
            (PluginManager.getPolicyName registry code)
            (setPermission registry code deviceAdmin WITHOUT_PERMISSION_TAG) userId) := by
  have hok : failed ERR_OK = false := by decide
  have hinactive : failed EdmReturnErrCode.ADMIN_INACTIVE = true := by decide
  unfold checkHandleDevicePolicyNewPermission
  split <;> rename_i hmanager
  · exact iff_of_true hok (.inl hmanager)
  · rw [or_iff_right hmanager]
    cases getAdminByPkgName c bundleName managers.getCurrentUserId with
    | none => simp [hinactive]
    | some deviceAdmin =>
      dsimp only
      split <;> rename_i hservice
      · exact iff_of_true hok ⟨deviceAdmin, rfl, .inl (beq_iff_eq.mp hservice)⟩
      · have hother : caller.uid ≠ EDM_UID := by simpa using hservice
        rw [PermissionChecker.checkHandlePolicyPermission_set]
        simp [hother]

/-- The requests that `HandleDevicePolicyNew` does not take for timer operations. -/
theorem handleDevicePolicyNew_ok (hroute : (!pcOnly && isSystemTimerFuncCode code) = false)
    {invocation : Invocation} :
    handleDevicePolicyNew pcOnly managers registry c caller code userId = .ok invocation ↔
      invocation = .updateDevicePolicy code (managers.getNameForUid caller.uid).2 userId ∧
        Admitted pcOnly managers registry c caller WITHOUT_PERMISSION_TAG code
          (managers.getNameForUid caller.uid).2 userId := by
  unfold handleDevicePolicyNew
  simp only [hroute, Bool.false_eq_true, if_false, ok_check, Bool.not_eq_true,
    checkHandleDevicePolicyNewPermission_ok]
  constructor
  · rintro ⟨hname, huser, hsystem, hadmin, hok⟩
    exact ⟨(Except.ok.inj hok).symm, ⟨hname, by simpa using huser, hsystem, hadmin⟩⟩
  · rintro ⟨rfl, h⟩
    exact ⟨h.policyName_ne, by simp [h.user_exists], h.systemCalling, h.admin, rfl⟩

/-- Timer operations do not reach `UpdateDevicePolicy`. -/
theorem handleSystemTimerPolicyNew_ok {invocation : Invocation}
    (h : handleSystemTimerPolicyNew managers c caller code userId = .ok invocation) :
    ∃ bundleName, invocation = .handleTimerOperation code bundleName userId := by
  unfold handleSystemTimerPolicyNew at h
  simp only [ok_check] at h
  exact ⟨_, (Except.ok.inj h.2.2).symm⟩

theorem Admitted.authorized (hordinary : Ordinary managers caller)
    (h : Admitted pcOnly managers registry c caller permissionTag code bundleName userId) :
    ∃ deviceAdmin, Authorized pcOnly managers registry c caller permissionTag code bundleName userId
      deviceAdmin := by
  have hmanager : ¬PermissionChecker.verifyCallingPermission managers caller
      EdmPermission.PERMISSION_MANAGE_EDM_POLICY = true := by
    rw [hordinary.not_manager]
    decide
  obtain ⟨deviceAdmin, hfound, hset⟩ := h.admin.resolve_left hmanager
  have hset := hset.resolve_left hordinary.not_service
  refine ⟨deviceAdmin, ?_⟩
  exact {
    own := by rw [hset.own, getAdminByPkgName_packageName hfound]
    active := hfound
    permission_ne := hset.permission_ne
    permission_match := hset.permission_match
    granted := hset.granted
    sets := hasPermissionToHandlePolicy_set hset.handles
    user := hset.user.symm }

end Admission

/-- Whether an entry point lets a request through. -/
def accepted (result : Except ErrCode Invocation) : Bool :=
  match result with
  | .ok _ => true
  | .error _ => false

theorem accepted_eq_true {result : Except ErrCode Invocation} :
    accepted result = true ↔ ∃ invocation, result = .ok invocation := by
  cases result <;> simp [accepted]

/-- Only authorized callers reach a policy through either entry point, and the two decide alike on a
request of the caller's own bundle without a tag, unless the newer one takes it for a timer
operation. -/
theorem entryPoints_authorized (pcOnly : Bool) (managers : ExternalManagers) (registry : Registry)
    (c : AdminContainer) (caller : Caller) (hordinary : Ordinary managers caller) (code : UInt32)
    (bundleName permissionTag : String) (userId : Int) :
    (∀ policy name user,
      handleDevicePolicy pcOnly managers registry c caller code bundleName permissionTag userId =
        .ok (.updateDevicePolicy policy name user) →
      ∃ deviceAdmin,
        Authorized pcOnly managers registry c caller permissionTag policy name user deviceAdmin) ∧
    (∀ policy name user,
      handleDevicePolicyNew pcOnly managers registry c caller code userId =
        .ok (.updateDevicePolicy policy name user) →
      ∃ deviceAdmin,
        Authorized pcOnly managers registry c caller WITHOUT_PERMISSION_TAG policy name user
          deviceAdmin) ∧
    (managers.getNameForUid caller.uid = (ERR_OK, bundleName) →
      permissionTag = WITHOUT_PERMISSION_TAG →
      (!pcOnly && isSystemTimerFuncCode code) = false →
      accepted (handleDevicePolicy pcOnly managers registry c caller code bundleName permissionTag
        userId) =
      accepted (handleDevicePolicyNew pcOnly managers registry c caller code userId)) := by
  refine ⟨fun policy name user h => ?_, fun policy name user h => ?_, fun hown htag hroute => ?_⟩
  · obtain ⟨hinvocation, hadmitted⟩ := handleDevicePolicy_ok.mp h
    obtain ⟨rfl, rfl, rfl⟩ := Invocation.updateDevicePolicy.inj hinvocation
    exact hadmitted.authorized hordinary
  · by_cases hroute : (!pcOnly && isSystemTimerFuncCode code) = true
    · rw [handleDevicePolicyNew, if_pos hroute] at h
      obtain ⟨_, htimer⟩ := handleSystemTimerPolicyNew_ok h
      contradiction
    · obtain ⟨hinvocation, hadmitted⟩ :=
        (handleDevicePolicyNew_ok (Bool.eq_false_iff.mpr hroute)).mp h
      obtain ⟨rfl, rfl, rfl⟩ := Invocation.updateDevicePolicy.inj hinvocation
      exact hadmitted.authorized hordinary
  · subst htag
    have hname : (managers.getNameForUid caller.uid).2 = bundleName := by rw [hown]
    rw [Bool.eq_iff_iff, accepted_eq_true, accepted_eq_true]
    simp only [handleDevicePolicy_ok, handleDevicePolicyNew_ok hroute, hname]

/-! ### A device with one admin -/

/-- Services that know one bundle, which holds the permissions that `granted` names. -/
def oneBundle (bundleName : String) (granted : List String) : ExternalManagers where
  getNameForUid _ := (ERR_OK, bundleName)
  verifyCallingPermission _ permission := granted.contains permission
  isSystemAppOrNative _ := false
  queryActiveOsAccountIds := (ERR_OK, [100])
  isOsAccountExists userId := userId == 100

/-- The admins after a super admin was set. -/
def oneSuperAdmin (packageName : String) : AdminContainer :=
  (setAdminValue CJson.standard AdminState.boot .done 100 { packageName, adminType := .ent }).2.container

/-- A policy with one permission. -/
def wifiPolicy : PolicyPlugin where
  policyName := PolicyName.POLICY_DISABLE_WIFI
  permissionConfig := { typePermissions := [(.superDeviceAdmin, "ohos.permission.MANAGE_WIFI")] }

theorem entryPoints_authorized_superAdmin :
    ∃ deviceAdmin, Authorized false (oneBundle "com.admin" ["ohos.permission.MANAGE_WIFI"])
      (fun _ => some wifiPolicy) (oneSuperAdmin "com.admin") ⟨20010, 1⟩ "" (policyFuncCode 1 1013)
      "com.admin" 100 deviceAdmin :=
  (entryPoints_authorized false (oneBundle "com.admin" ["ohos.permission.MANAGE_WIFI"])
    (fun _ => some wifiPolicy) (oneSuperAdmin "com.admin") ⟨20010, 1⟩ ⟨by decide, by decide⟩
    (policyFuncCode 1 1013) "com.admin" "" 100).1 _ _ _ rfl

/-- Off the PC the newer entry point takes a timer operation, which the older one does not know. -/
theorem timer_operation_decided_differently :
    ¬ ∀ (pcOnly : Bool) (managers : ExternalManagers) (registry : Registry) (c : AdminContainer)
      (caller : Caller) (code : UInt32) (bundleName : String) (userId : Int),
      Ordinary managers caller → managers.getNameForUid caller.uid = (ERR_OK, bundleName) →
      accepted (handleDevicePolicy pcOnly managers registry c caller code bundleName
        WITHOUT_PERMISSION_TAG userId) =
      accepted (handleDevicePolicyNew pcOnly managers registry c caller code userId) := by
  intro h
  have hsame := h false (oneBundle "com.admin" [EdmPermission.PERMISSION_ENTERPRISE_MANAGE_SYSTEM])
    (fun _ => none) (oneSuperAdmin "com.admin") ⟨20010, 1⟩ (policyFuncCode 1 1178) "com.admin" 100
    ⟨by decide, by decide⟩ rfl
  have : false = true := hsame
  contradiction

end Edm
