import Edm.Admin.PolicyName

/-! Admins: what the service knows of one, and what the class of its type lets it do.  `pcOnly` tells
whether the service was built with `FEATURE_PC_ONLY`. -/

set_option autoImplicit false

namespace Edm

inductive AdminType where
  | normal
  | ent
  | subSuperAdmin
  | virtualAdmin
  | byod
  | unknown
  deriving DecidableEq, Repr

inductive RunningMode where
  | default
  | multiUser
  deriving DecidableEq, Repr

inductive EnableSource where
  | deploy
  | superAdmin
  | self
  | replace
  | user
  | intranetDeploy
  deriving DecidableEq, Repr

inductive FuncOperateType where
  | get
  | set
  | remove
  | unknown
  deriving DecidableEq, Repr

/-- `enum class ManagedEvent : uint32_t`, which any `uint32_t` can be cast to. -/
abbrev ManagedEvent := UInt32

@[ext] structure EntInfo where
  enterpriseName : String := ""
  description : String := ""
  deriving DecidableEq, Repr

@[ext] structure AdminInfo where
  packageName : String := ""
  className : String := ""
  entInfo : EntInfo := {}
  permission : List String := []
  managedEvents : List ManagedEvent := []
  parentAdminName : String := ""
  accessiblePolicies : List String := []
  adminType : AdminType := .unknown
  isDebug : Bool := false
  runningMode : RunningMode := .default
  enableSource : EnableSource := .deploy
  deriving DecidableEq, Repr

/-- The policies that the constructor of `ByodAdmin` lists. -/
def byodPolicies : List String := [
  PolicyName.POLICY_DISABLED_BLUETOOTH, PolicyName.POLICY_DISABLE_CAMERA,
  PolicyName.POLICY_DISABLED_HDC, PolicyName.POLICY_DISABLE_MICROPHONE,
  PolicyName.POLICY_DISABLE_USB, PolicyName.POLICY_DISALLOWED_TETHERING,
  PolicyName.POLICY_DISABLE_WIFI, PolicyName.POLICY_SET_SWITCH_STATUS,
  "disable_reset_factory", "policy_near_link", "policy_screen_record", "policy_screen_shot",
  PolicyName.POLICY_USB_READ_ONLY, PolicyName.POLICY_DISABLED_MTP_SERVER,
  PolicyName.POLICY_DISALLOWED_P2P]

/-- What the constructor of the class of the type makes of the info. -/
def AdminInfo.construct (adminInfo : AdminInfo) : AdminInfo :=
  match adminInfo.adminType with
  | .byod => { adminInfo with accessiblePolicies := byodPolicies }
  | _ => adminInfo

theorem AdminInfo.construct_of_ne_byod {adminInfo : AdminInfo} (h : adminInfo.adminType ≠ .byod) :
    adminInfo.construct = adminInfo := by
  unfold construct
  split
  · contradiction
  · rfl

@[simp] theorem AdminInfo.construct_adminType (adminInfo : AdminInfo) :
    adminInfo.construct.adminType = adminInfo.adminType := by
  unfold construct
  split <;> rfl

@[simp] theorem AdminInfo.construct_packageName (adminInfo : AdminInfo) :
    adminInfo.construct.packageName = adminInfo.packageName := by
  unfold construct
  split <;> rfl

@[simp] theorem AdminInfo.construct_parentAdminName (adminInfo : AdminInfo) :
    adminInfo.construct.parentAdminName = adminInfo.parentAdminName := by
  unfold construct
  split <;> rfl

/-- An object of the class of its type.  `accessiblePolicies` of a BYOD admin are the fixed ones. -/
structure Admin where
  adminInfo : AdminInfo
  known : adminInfo.adminType ≠ .unknown
  byod : adminInfo.adminType = .byod → adminInfo.accessiblePolicies = byodPolicies

/-- No class stands for an unknown type. -/
def createAdmin (adminInfo : AdminInfo) : Option Admin :=
  if h : adminInfo.adminType = .unknown then none
  else
    some {
      adminInfo := adminInfo.construct
      known := by rwa [AdminInfo.construct_adminType]
      byod := fun hbyod => by
        rw [AdminInfo.construct_adminType] at hbyod
        simp only [AdminInfo.construct, hbyod] }

theorem createAdmin_of_known {adminInfo : AdminInfo} (h : adminInfo.adminType ≠ .unknown) :
    (createAdmin adminInfo).map Admin.adminInfo = some adminInfo.construct := by
  simp [createAdmin, h]

theorem createAdmin_eq_some {adminInfo : AdminInfo} {admin : Admin}
    (h : createAdmin adminInfo = some admin) :
    adminInfo.adminType ≠ .unknown ∧ admin.adminInfo = adminInfo.construct := by
  unfold createAdmin at h
  split at h
  · contradiction
  · rename_i hknown
    cases h
    exact ⟨hknown, rfl⟩

namespace EdmInterfaceCode

def REMOVE_DEVICE_ADMIN : Nat := 2
def SUBSCRIBE_MANAGED_EVENT : Nat := 10
def UNSUBSCRIBE_MANAGED_EVENT : Nat := 11
def AUTHORIZE_ADMIN : Nat := 12
def SET_DELEGATED_POLICIES : Nat := 14
def GET_DELEGATED_POLICIES : Nat := 15
def GET_DELEGATED_BUNDLE_NAMES : Nat := 16
def IS_BYOD_ADMIN : Nat := 22
def ENABLE_DEVICE_ADMIN : Nat := 25
def DISABLE_DEVICE_ADMIN : Nat := 26
def GET_ADMIN_INFOS : Nat := 31
def SYSTEM_TIMER_OPERATION : Nat := 1178

end EdmInterfaceCode

namespace Admin

variable (pcOnly : Bool) (admin : Admin)

def getAdminType : AdminType := admin.adminInfo.adminType

def getParentAdminName : String := admin.adminInfo.parentAdminName

def isAllowedAcrossAccountSetPolicy : Bool :=
  match admin.getAdminType with
  | .ent | .normal | .subSuperAdmin | .virtualAdmin => true
  | .byod | .unknown => false

open EdmInterfaceCode in
def hasPermissionToCallServiceCode (interfaceCode : Nat) : Bool :=
  match admin.getAdminType with
  | .ent =>
    [REMOVE_DEVICE_ADMIN, SUBSCRIBE_MANAGED_EVENT, UNSUBSCRIBE_MANAGED_EVENT, AUTHORIZE_ADMIN,
      SET_DELEGATED_POLICIES, GET_DELEGATED_POLICIES, GET_DELEGATED_BUNDLE_NAMES,
      GET_ADMIN_INFOS].contains interfaceCode ||
    (pcOnly && [ENABLE_DEVICE_ADMIN, DISABLE_DEVICE_ADMIN].contains interfaceCode)
  | .normal =>
    [REMOVE_DEVICE_ADMIN, SUBSCRIBE_MANAGED_EVENT, UNSUBSCRIBE_MANAGED_EVENT,
      GET_ADMIN_INFOS].contains interfaceCode
  | .subSuperAdmin => [SUBSCRIBE_MANAGED_EVENT, UNSUBSCRIBE_MANAGED_EVENT].contains interfaceCode
  | .byod => [REMOVE_DEVICE_ADMIN, IS_BYOD_ADMIN].contains interfaceCode
  | .virtualAdmin | .unknown => false

/-- A normal admin off the PC may only read the browser policies. -/
def hasPermissionToHandlePolicy (policyName : String) (operateType : FuncOperateType) : Bool :=
  match admin.getAdminType with
  | .ent | .subSuperAdmin => true
  | .normal =>
    if pcOnly then true
    else if policyName == PolicyName.POLICY_SET_BROWSER_POLICIES ||
        policyName == PolicyName.POLICY_MANAGED_BROWSER_POLICY then operateType == .get
    else false
  | .virtualAdmin =>
    admin.adminInfo.accessiblePolicies.any fun policy =>
      (policy == PolicyName.POLICY_ALLOW_ALL &&
        PermissionChecker.isAllowDelegatedPolicy policyName) || policy == policyName
  | .byod => admin.adminInfo.accessiblePolicies.contains policyName
  | .unknown => false

end Admin

end Edm
