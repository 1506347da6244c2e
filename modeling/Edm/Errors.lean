/-! The service's return codes. -/

set_option autoImplicit false

namespace Edm

/-- A return code.  Zero is success. -/
abbrev ErrCode := Int

def ERR_OK : ErrCode := 0
def ERR_INVALID_VALUE : ErrCode := 22

/-- The `FAILED` macro. -/
def failed (err : ErrCode) : Bool := err != ERR_OK

/-- A check that returns a code before the rest of a function. -/
theorem failed_check {check : Bool} {err next : ErrCode} (herr : failed err = true) :
    failed (if check = true then err else next) = false ↔ check = false ∧ failed next = false := by
  cases check with
  | false => simp
  | true => simp [herr]

/-- A check that fails before the rest of a function. -/
theorem ok_check {α : Type} {check : Prop} [Decidable check] {err : ErrCode}
    {next : Except ErrCode α} {a : α} :
    (if check then .error err else next) = .ok a ↔ ¬check ∧ next = .ok a := by
  by_cases hcheck : check
  · simp [hcheck]
  · simp [hcheck]

def EDM_SERVICE_ERR_OFFSET : ErrCode := 33554432
def EDM_ADMINMGR_ERR_OFFSET : ErrCode := 33685504
def EDM_POLICYMGR_ERR_OFFSET : ErrCode := 33751040

def EDM_PLUGINMGR_ERR_OFFSET : ErrCode := 33816576

def ERR_EDM_PARAM_ERROR : ErrCode := EDM_SERVICE_ERR_OFFSET + 2
def ERR_EDM_PERMISSION_ERROR : ErrCode := EDM_SERVICE_ERR_OFFSET + 3
def ERR_EDM_ADD_ADMIN_FAILED : ErrCode := EDM_SERVICE_ERR_OFFSET + 4
def ERR_EDM_DEL_ADMIN_FAILED : ErrCode := EDM_SERVICE_ERR_OFFSET + 5
def ERR_EDM_GET_PLUGIN_MGR_FAILED : ErrCode := EDM_SERVICE_ERR_OFFSET + 7
def ERR_GET_STORAGE_RDB_FAILED : ErrCode := EDM_SERVICE_ERR_OFFSET + 17
def ERR_SET_PARENT_ADMIN_FAILED : ErrCode := EDM_SERVICE_ERR_OFFSET + 19

def ERR_EDM_UNKNOWN_ADMIN : ErrCode := EDM_ADMINMGR_ERR_OFFSET + 5

def ERR_EDM_POLICY_NOT_FIND : ErrCode := EDM_POLICYMGR_ERR_OFFSET + 4
def ERR_EDM_POLICY_SET_FAILED : ErrCode := EDM_POLICYMGR_ERR_OFFSET + 5
def ERR_EDM_POLICY_NOT_FOUND : ErrCode := EDM_POLICYMGR_ERR_OFFSET + 6
def ERR_EDM_POLICY_DEL_FAILED : ErrCode := EDM_POLICYMGR_ERR_OFFSET + 7
def ERR_EDM_POLICY_REPLACE_FAILED : ErrCode := EDM_POLICYMGR_ERR_OFFSET + 8

def ERR_EDM_OPERATE_JSON : ErrCode := EDM_PLUGINMGR_ERR_OFFSET + 1
def ERR_EDM_OPERATE_PARCEL : ErrCode := EDM_PLUGINMGR_ERR_OFFSET + 4

def EDM_PLUGIN_ERR_OFFSET : ErrCode := 34013184

def EDM_ADD_AUTO_START_APP_FAILED : ErrCode := EDM_PLUGIN_ERR_OFFSET + 1

/-! ### Codes returned to applications -/

namespace EdmReturnErrCode

def PERMISSION_DENIED : ErrCode := 201
def SYSTEM_API_DENIED : ErrCode := 202
def ENTERPRISE_POLICES_DENIED : ErrCode := 203
def PARAM_ERROR : ErrCode := 401
def INTERFACE_UNSUPPORTED : ErrCode := 801
def ADMIN_INACTIVE : ErrCode := 9200001
def ADMIN_EDM_PERMISSION_DENIED : ErrCode := 9200002
def COMPONENT_INVALID : ErrCode := 9200003
def ENABLE_ADMIN_FAILED : ErrCode := 9200004
def DISABLE_ADMIN_FAILED : ErrCode := 9200005
def UID_INVALID : ErrCode := 9200006
def SYSTEM_ABNORMALLY : ErrCode := 9200007
def MANAGED_EVENTS_INVALID : ErrCode := 9200008
def AUTHORIZE_PERMISSION_FAILED : ErrCode := 9200009
def CONFIGURATION_CONFLICT_FAILED : ErrCode := 9200010
def REPLACE_ADMIN_FAILED : ErrCode := 9200011
def PARAMETER_VERIFICATION_FAILED : ErrCode := 9200012
def EXECUTE_TIME_OUT : ErrCode := 9200016
def APPLICATION_INSTALL_FAILED : ErrCode := 9201002
def ADD_KEEP_ALIVE_APP_FAILED : ErrCode := 9201005
def DOCK_APP_NOT_INSTALLED : ErrCode := 9201015
def INSTALL_APP_INSUFFICIENT_DISK_SPACE : ErrCode := 9201022
def INSTALL_APP_ENTERPRISE_DISALLOWED : ErrCode := 9201023
def INSTALL_APP_PARSE_FAILED : ErrCode := 9201024
def INSTALL_APP_SIGNATURE_VERIFY_FAILED : ErrCode := 9201025
def INSTALL_APP_PATH_INVALID_OR_TOO_LARGE : ErrCode := 9201026
def INSTALL_APPS_CONFIGURATION_MISMATCH : ErrCode := 9201027
def INSTALL_APP_ISOLATION_MODE_NOT_SUPPORTED : ErrCode := 9201028
def INSTALL_APP_VERSION_TOO_EARLY : ErrCode := 9201029
def INSTALL_APP_VERSION_CODE_NOT_GREATER : ErrCode := 9201030
def INSTALL_APP_DEPENDANT_MODULE_NOT_EXIST : ErrCode := 9201031
def INSTALL_APP_USER_ID_NOT_FOUND : ErrCode := 9201032
def INSTALL_APP_OVERLAY_CHECK_FAILED : ErrCode := 9201033
def INSTALL_APP_MISSING_REQUIRED_PERMISSIONS_FOR_HSP : ErrCode := 9201034
def INSTALL_APP_SHARED_LIBRARIES_NOT_ALLOWED : ErrCode := 9201035
def INSTALL_APP_URI_INCORRECT : ErrCode := 9201036
def INSTALL_APP_PERMISSION_CONFIGURATION_INCORRECT : ErrCode := 9201037
def INSTALL_APP_CODE_SIGNATURE_VERIFICATION_FAILURE : ErrCode := 9201038
def INSTALL_APP_ENTERPRISE_DEVICE_VERIFICATION_FAILURE : ErrCode := 9201039
def CANNOT_SET_ALLOWED_PERMISSION_BUNDLE : ErrCode := 9201044
def CANNOT_DISALLOW_PERMISSION : ErrCode := 9201045
def SYSTEM_TIMER_MAX_COUNT_REACHED : ErrCode := 9201053
def SYSTEM_TIMER_NOT_FOUND : ErrCode := 9201054

end EdmReturnErrCode

end Edm
