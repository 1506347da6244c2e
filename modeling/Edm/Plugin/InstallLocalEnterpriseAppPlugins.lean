import Edm.Plugin.Accounts
import Edm.Plugin.BasicBool

/-! `InstallLocalEnterpriseAppEnabledPlugin` and `InstallLocalEnterpriseAppEnabledForAccountPlugin`:
whether enterprise applications can be installed offline, on the device or in an account.  Both
derive one constraint for an account, and both write what they enforce into the settings. -/

set_option autoImplicit false

namespace Edm

open Library

def CONST_FALSE : String := "false"

/-- `b ? EdmConstants::CONST_TRUE : EdmConstants::CONST_FALSE`. -/
def boolText (b : Bool) : String := if b then CONST_TRUE else CONST_FALSE

namespace EdmConstants

def KEY_INSTALL_LOCAL_APP_POLICY : String := "com.enterprise.install.local.app.policy"
def KEY_INSTALL_LOCAL_APP_USER_POLICY : String := "com.enterprise.install.local.app.user.policy"
def SETTINGS_DATA_BASE_URI : String :=
  "datashare:///com.ohos.settingsdata/entry/settingsdata/SETTINGSDATA?Proxy=true"
def SETTINGS_DATA_SECURE_URI_PREFIX : String :=
  "datashare:///com.ohos.settingsdata/entry/settingsdata/USER_SETTINGSDATA_SECURE_"
def SETTINGS_DATA_URI_SUFFIX : String := "?Proxy=true"

end EdmConstants

def POLICY_SET_INSTALL_LOCAL_ENTERPRISE_APP_ENABLED : String :=
  "set_install_local_enterprise_app_enabled"
def POLICY_INSTALL_LOCAL_ENTERPRISE_APP_ENABLED_FOR_ACCOUNT : String :=
  "install_local_enterprise_app_enabled_for_account"

inductive ConstraintSourceType where
  | notExist | base | deviceOwner | profileOwner
  deriving DecidableEq

/-- Whether the constraint on offline installation was last set for an account by
`SetOsAccountConstraints`, which has a low priority, and for its device owner. -/
structure OsAccount where
  constraint : Bool
  deviceOwner : Bool
  deriving DecidableEq

namespace InstallLocalEnterpriseApp

/-- The persist parameter, which is empty while it is absent, the accounts, and the settings by
their URI and key, which are empty while they were not written. -/
structure Modules where
  parameter : String
  accounts : Int → OsAccount
  settings : String → String → String

/-- What the calls of a request return.  `setPersistParam` is the second write of the parameter. -/
structure Answers where
  setParameter : Bool
  setPersistParam : Bool
  getOsAccountLocalIds : ErrCode × List Int
  isOsAccountConstraintEnable : Int → OsAccount → ErrCode × Bool
  queryOsAccountConstraintSourceTypes : Int → OsAccount → ErrCode × List ConstraintSourceType
  setOsAccountConstraints : Int → ErrCode
  setSpecificOsAccountConstraints : ErrCode
  updateSettingsData : ErrCode

structure Request where
  data : Bool
  answers : Answers

end InstallLocalEnterpriseApp

namespace InstallLocalEnterpriseAppPolicyUtils

open InstallLocalEnterpriseApp EdmConstants

def POLICY_NO_CONTROLL : Int32 := 0
def POLICY_FORCE_ENABLE : Int32 := 1
def POLICY_FORCE_DISABLE : Int32 := 2

/-- The URI of an account's settings. -/
def userUri (userId : Int) : String :=
  SETTINGS_DATA_SECURE_URI_PREFIX ++ Int.repr userId ++ SETTINGS_DATA_URI_SUFFIX

section

variable (answers : Answers) (modules : Modules)

def updateSettingsData (uri key value : String) : ErrCode × Modules :=
  if failed answers.updateSettingsData then (answers.updateSettingsData, modules)
  else
    (ERR_OK,
      { modules with
        settings := Function.update modules.settings uri
          (Function.update (modules.settings uri) key value) })

def writeDeviceSettingsData (policyValue : Int32) : ErrCode × Modules :=
  updateSettingsData answers modules SETTINGS_DATA_BASE_URI KEY_INSTALL_LOCAL_APP_POLICY
    (Int.repr policyValue.toInt)

def writeUserSettingsData (policyValue : Int32) (userId : Int) : ErrCode × Modules :=
  updateSettingsData answers modules (userUri userId) KEY_INSTALL_LOCAL_APP_USER_POLICY
    (Int.repr policyValue.toInt)

def getDeviceActualPolicyValue : Bool :=
  let value := if modules.parameter = "" then "false" else modules.parameter
  value == "true"

/-- The code, and the value of the out parameter. -/
def getUserActualPolicyValue (userId : Int) : ErrCode × Bool :=
  let (ret, isEnable) := answers.isOsAccountConstraintEnable userId (modules.accounts userId)
  if failed ret then (ret, isEnable)
  else if isEnable then
    let (ret, constraintTypes) :=
      answers.queryOsAccountConstraintSourceTypes userId (modules.accounts userId)
    if failed ret then (ret, isEnable)
    else (ret, constraintTypes.any (· == .deviceOwner))
  else (ret, isEnable)

def updateOsAccountConstraint (value : Bool) (userId : Int) : ErrCode × Modules :=
  if failed (answers.setOsAccountConstraints userId) then
    (EdmReturnErrCode.SYSTEM_ABNORMALLY, modules)
  else
    (ERR_OK,
      { modules with
        accounts := Function.update modules.accounts userId
          { modules.accounts userId with constraint := value } })

def updateSettingsPolicy (policyValue : Int32) : Option Int → ErrCode × Modules
  | none => writeDeviceSettingsData answers modules policyValue
  | some userId => writeUserSettingsData answers modules policyValue userId

/-- What is done for an account. -/
def updateAccount (deviceActual : Bool) (userId : Int) : ErrCode × Modules :=
  let (ret, userActual) := getUserActualPolicyValue answers modules userId
  if failed ret then (ret, modules)
  else updateOsAccountConstraint answers modules (deviceActual || userActual) userId

end

/-- The loop over the accounts, which ends at the first that fails. -/
def updateAccounts (answers : Answers) (deviceActual : Bool) (modules : Modules) :
    List Int → ErrCode × Modules
  | [] => (ERR_OK, modules)
  | userId :: userIds =>
    let (ret, modules) := updateAccount answers modules deviceActual userId
    if failed ret then (ret, modules) else updateAccounts answers deviceActual modules userIds

variable (answers : Answers) (modules : Modules)

def updatePolicyByUser (userId : Option Int) : ErrCode × Modules :=
  let deviceActual := getDeviceActualPolicyValue modules
  match userId with
  | none =>
    let (ret, userIds) := answers.getOsAccountLocalIds
    if failed ret then (ret, modules) else updateAccounts answers deviceActual modules userIds
  | some userId => updateAccount answers modules deviceActual userId

def setEnterpriseUserPolicy (data : Bool) (userId : Int) : ErrCode × Modules :=
  if failed answers.setSpecificOsAccountConstraints then
    (answers.setSpecificOsAccountConstraints, modules)
  else
    (ERR_OK,
      { modules with
        accounts := Function.update modules.accounts userId
          { modules.accounts userId with deviceOwner := data } })

def setSettingsDataAndUserPolicy (policyValue : Int32) (userId : Option Int) :
    ErrCode × Modules :=
  let (ret, modules) := updatePolicyByUser answers modules userId
  if failed ret then (ret, modules)
  else updateSettingsPolicy answers modules policyValue userId

end InstallLocalEnterpriseAppPolicyUtils

namespace InstallLocalEnterpriseApp

open InstallLocalEnterpriseAppPolicyUtils

/-- What is enforced for a value that is set. -/
def policyOf (data : Bool) : Int32 := if data then POLICY_FORCE_ENABLE else POLICY_FORCE_DISABLE

/-- The parameter takes a value, if there is a parameter. -/
def setParameter (answer : Bool) (modules : Modules) (data : Bool) : Bool × Modules :=
  if answer then (true, { modules with parameter := boolText data }) else (false, modules)

/-- `BasicBoolPlugin::OnSetPolicy`, where `CheckConflictPolicy` is not overridden. -/
def onSetPolicy (config : BasicBoolPlugin.Config)
    (setOtherModulePolicy : Modules → Bool → ErrCode × Modules) (answers : Answers)
    (modules : Modules) (data currentData mergePolicy : Bool) : ErrCode × Modules × Bool × Bool :=
  if mergePolicy then (ERR_OK, modules, data, mergePolicy)
  else
    let (ret, modules) := setOtherModulePolicy modules data
    if failed ret then (ret, modules, currentData, mergePolicy)
    else
      let (written, modules) :=
        if config.persistParam = "" then (true, modules)
        else setParameter answers.setPersistParam modules data
      if !written then
        (EdmReturnErrCode.SYSTEM_ABNORMALLY, modules, currentData, mergePolicy)
      else (ERR_OK, modules, data, data)

/-- The handler of both plugins.  A value that is off is stored as well. -/
def onHandlePolicy (config : BasicBoolPlugin.Config)
    (setOtherModulePolicy : Answers → Modules → Bool → ErrCode × Modules) (modules : Modules)
    (request : Request) (policyData : HandlePolicyData) : ErrCode × Modules × HandlePolicyData :=
  let currentData := policyData.policyData == CONST_TRUE
  let mergeData := policyData.mergePolicyData == CONST_TRUE
  let (result, modules, currentData, mergeData) :=
    onSetPolicy config (setOtherModulePolicy request.answers) request.answers modules request.data
      currentData mergeData
  if result != ERR_OK then (result, modules, policyData)
  else
    (ERR_OK, modules,
      { policyData := boolText currentData
        mergePolicyData := boolText mergeData
        isChanged := policyData.policyData != boolText currentData })

end InstallLocalEnterpriseApp

namespace InstallLocalEnterpriseAppEnabledPlugin

open InstallLocalEnterpriseApp InstallLocalEnterpriseAppPolicyUtils

def config : BasicBoolPlugin.Config where
  policyName := POLICY_SET_INSTALL_LOCAL_ENTERPRISE_APP_ENABLED
  policyName_ne := by decide
  persistParam := "persist.edm.is_local_install_enable"

def setOtherModulePolicy (answers : Answers) (modules : Modules) (data : Bool) :
    ErrCode × Modules :=
  let (written, modules) := setParameter answers.setParameter modules data
  if !written then (EdmReturnErrCode.SYSTEM_ABNORMALLY, modules)
  else
    let (ret, modules) := setSettingsDataAndUserPolicy answers modules (policyOf data) none
    if failed ret then (EdmReturnErrCode.SYSTEM_ABNORMALLY, modules) else (ERR_OK, modules)

def onAdminRemove (modules : Modules) (answers : Answers) (data mergeData : Bool) :
    ErrCode × Modules :=
  let (written, modules) :=
    if !mergeData && data then setParameter answers.setParameter modules false else (true, modules)
  if !written then (EdmReturnErrCode.SYSTEM_ABNORMALLY, modules)
  else
    let (ret, modules) := setSettingsDataAndUserPolicy answers modules POLICY_NO_CONTROLL none
    if failed ret then (EdmReturnErrCode.SYSTEM_ABNORMALLY, modules) else (ERR_OK, modules)

def plugin (order : HashOrder) : Plugin Modules Request Answers Empty where
  policyName := config.policyName
  needSave := true
  getOthersMergePolicyData := BasicBoolPlugin.getOthersMergePolicyData config order
  onHandlePolicy _ := onHandlePolicy config setOtherModulePolicy
  onAdminRemove modules answers policyData mergeData :=
    onAdminRemove modules answers (policyData == CONST_TRUE) (mergeData == CONST_TRUE)
  onPluginEvent _ event := nomatch event

end InstallLocalEnterpriseAppEnabledPlugin

namespace InstallLocalEnterpriseAppEnabledForAccountPlugin

open InstallLocalEnterpriseApp InstallLocalEnterpriseAppPolicyUtils

def config : BasicBoolPlugin.Config where
  policyName := POLICY_INSTALL_LOCAL_ENTERPRISE_APP_ENABLED_FOR_ACCOUNT
  policyName_ne := by decide
  persistParam := ""

def setOtherModulePolicy (userId : Int) (answers : Answers) (modules : Modules) (data : Bool) :
    ErrCode × Modules :=
  let (ret, modules) := setEnterpriseUserPolicy answers modules data userId
  if failed ret then (EdmReturnErrCode.SYSTEM_ABNORMALLY, modules)
  else
    let (ret, modules) :=
      setSettingsDataAndUserPolicy answers modules (policyOf data) (some userId)
    if failed ret then (EdmReturnErrCode.SYSTEM_ABNORMALLY, modules) else (ERR_OK, modules)

def onAdminRemove (userId : Int) (modules : Modules) (answers : Answers) (data mergeData : Bool) :
    ErrCode × Modules :=
  let (ret, modules) :=
    if !mergeData && data then setEnterpriseUserPolicy answers modules false userId
    else (ERR_OK, modules)
  if failed ret then (EdmReturnErrCode.SYSTEM_ABNORMALLY, modules)
  else
    let (ret, modules) :=
      setSettingsDataAndUserPolicy answers modules POLICY_NO_CONTROLL (some userId)
    if failed ret then (EdmReturnErrCode.SYSTEM_ABNORMALLY, modules) else (ERR_OK, modules)

def plugin (order : HashOrder) (userId : Int) : Plugin Modules Request Answers Empty where
  policyName := config.policyName
  needSave := true
  getOthersMergePolicyData := BasicBoolPlugin.getOthersMergePolicyData config order
  onHandlePolicy _ := onHandlePolicy config (setOtherModulePolicy userId)
  onAdminRemove modules answers policyData mergeData :=
    onAdminRemove userId modules answers (policyData == CONST_TRUE) (mergeData == CONST_TRUE)
  onPluginEvent _ event := nomatch event

end InstallLocalEnterpriseAppEnabledForAccountPlugin

end Edm
