import Edm.Admin.Admin
import Edm.Plugin.EventPlugin
import Edm.Plugin.ManageAutoStartAppsSerializer

/-! `ManageAutoStartAppsPlugin`: the abilities that are started with the device.  The auto-startup
service starts them, and those of a bundle that is removed are taken out of the admins' lists. -/

set_option autoImplicit false

namespace Edm

open Library Library.UnorderedMap

def AUTO_START_APPS_MAX_SIZE : Nat := 10

def POLICY_MANAGE_AUTO_START_APPS : String := "manage_auto_start_apps"

/-- The abilities that the service starts, by bundle and ability name, with the flags
`disallowModify` and `isHiddenStart` of the call. -/
abbrev AutoStarted := String × String → Option (Bool × Bool)

namespace ManageAutoStartAppsPlugin

open ManageAutoStartAppInfo ManageAutoStartAppsSerializer

def ERR_NO_STATUS_BAR_ABILITY : ErrCode := 29360136
def ERR_CAPABILITY_NOT_SUPPORT : ErrCode := 2097230

/-- Whether there is a client of the auto-startup service, the abilities that the bundle manager
knows, and the code of each call by its position in the loop. -/
structure Answers where
  client : Bool
  checkBundleAndAbilityExited : String → String → Bool
  byEDM : Nat → ErrCode

structure Request where
  type : FuncOperateType
  autoStartApps : List String
  disallowModify : Bool
  isUninstall : Bool
  answers : Answers

def parseErrCode (res : ErrCode) : ErrCode :=
  if res != ERR_NO_STATUS_BAR_ABILITY && res != ERR_CAPABILITY_NOT_SUPPORT && res != ERR_OK then
    EdmReturnErrCode.PARAM_ERROR
  else res

def getErrorMessage (errCode : ErrCode) : ErrCode :=
  if errCode = ERR_NO_STATUS_BAR_ABILITY ∨ errCode = ERR_CAPABILITY_NOT_SUPPORT then
    EDM_ADD_AUTO_START_APP_FAILED
  else errCode

/-- Items without a separator are skipped. -/
def parseManageAutoStartAppsInfo (data : List String) (disallowModify : Bool) :
    List ManageAutoStartAppInfo :=
  data.filterMap fun item =>
    (splitLast '/' item).map fun (uniqueKey, isHiddenStartStr) =>
      setUniqueKey ⟨"", "", disallowModify, isHiddenStartStr == "true"⟩ uniqueKey

/-- What the loop over abilities has come to: what the service starts, `failedData`, `flag` and
`res`, and the number of calls. -/
structure Progress where
  started : AutoStarted
  failedData : List ManageAutoStartAppInfo
  flag : Bool
  res : ErrCode
  calls : Nat

/-- One ability of the loop. -/
def Progress.next (answers : Answers) (isSet : Bool) (progress : Progress)
    (item : ManageAutoStartAppInfo) : Progress :=
  if !answers.checkBundleAndAbilityExited item.bundleName item.abilityName then
    { progress with
      failedData := progress.failedData ++ [item]
      flag := progress.flag || !isSet
      res := EdmReturnErrCode.PARAM_ERROR }
  else
    let res := answers.byEDM progress.calls
    let progress := { progress with res, calls := progress.calls + 1 }
    if res != ERR_OK then { progress with failedData := progress.failedData ++ [item] }
    else
      { progress with
        started := Function.update progress.started (item.bundleName, item.abilityName)
          (if isSet then some (item.disallowModify, item.isHiddenStart) else none)
        flag := true }

/-- The code, what the service starts, and `failedData`. -/
def setOrRemoveOtherModulePolicy (answers : Answers) (started : AutoStarted)
    (data : List ManageAutoStartAppInfo) (isSet : Bool) :
    ErrCode × AutoStarted × List ManageAutoStartAppInfo :=
  if !answers.client then (EdmReturnErrCode.SYSTEM_ABNORMALLY, started, [])
  else
    let progress := data.foldl (Progress.next answers isSet) ⟨started, [], false, ERR_OK, 0⟩
    (if progress.flag then ERR_OK else parseErrCode progress.res, progress.started,
      progress.failedData)

/-- The differences sort the lists that they are made of. -/
def onSetPolicy (answers : Answers) (started : AutoStarted) (data : List String)
    (disallowModify : Bool) (currentData mergeData : List ManageAutoStartAppInfo) :
    ErrCode × AutoStarted × List ManageAutoStartAppInfo × List ManageAutoStartAppInfo :=
  if data = [] then (ERR_OK, started, currentData, mergeData)
  else if AUTO_START_APPS_MAX_SIZE < data.length then
    (EdmReturnErrCode.PARAM_ERROR, started, currentData, mergeData)
  else
    let tmpData := parseManageAutoStartAppsInfo data disallowModify
    if tmpData = [] then (EdmReturnErrCode.PARAM_ERROR, started, currentData, mergeData)
    else
      let addData := setDifferencePolicyData currentData tmpData
      let afterHandle := setUnionPolicyData (sort currentData) (sort tmpData)
      let afterMerge := setUnionPolicyData mergeData afterHandle
      if AUTO_START_APPS_MAX_SIZE < afterMerge.length then
        (EdmReturnErrCode.PARAM_ERROR, started, currentData, mergeData)
      else
        let (ret, started, failedData) :=
          setOrRemoveOtherModulePolicy answers started (sort tmpData) true
        if failed ret then (ret, started, currentData, mergeData)
        else if failedData = [] then (ERR_OK, started, afterHandle, afterMerge)
        else
          let addDataSuccessful := setDifferencePolicyData failedData addData
          let currentData := setUnionPolicyData (sort currentData) addDataSuccessful
          (ERR_OK, started, currentData, setUnionPolicyData mergeData currentData)

def onRemovePolicy (answers : Answers) (started : AutoStarted) (data : List String)
    (currentData mergeData : List ManageAutoStartAppInfo) (isUninstall : Bool) :
    ErrCode × AutoStarted × List ManageAutoStartAppInfo × List ManageAutoStartAppInfo :=
  if data = [] then (ERR_OK, started, currentData, mergeData)
  else if AUTO_START_APPS_MAX_SIZE < data.length then
    (EdmReturnErrCode.PARAM_ERROR, started, currentData, mergeData)
  else
    let needRemovePolicy := setIntersectionPolicyData data currentData
    let needRemoveMergePolicy := setNeedRemoveMergePolicyData mergeData needRemovePolicy
    let (ret, started, failedData) :=
      if needRemoveMergePolicy ≠ [] ∧ !isUninstall then
        setOrRemoveOtherModulePolicy answers started needRemoveMergePolicy false
      else (ERR_OK, started, [])
    if failed ret then (ret, started, currentData, mergeData)
    else
      let removeData :=
        if failedData = [] then needRemovePolicy
        else setDifferencePolicyData failedData needRemovePolicy
      let currentData := setDifferencePolicyData removeData currentData
      (ERR_OK, started, currentData, setUnionPolicyData currentData mergeData)

variable (C : CJson)

/-- The lists of the admin and of the others, where a text that cannot be read ends the reading.  The
flags of the admin's list become those of the combined list. -/
def deserializePolicyData (policyData : HandlePolicyData) (mergePolicyStr : String) :
    List ManageAutoStartAppInfo × List ManageAutoStartAppInfo :=
  match deserialize C policyData.policyData with
  | (false, currentData) => (currentData, [])
  | (true, currentData) =>
    match deserialize C policyData.mergePolicyData with
    | (false, mergeData) => (currentData, mergeData)
    | (true, mergeData) =>
      (updateByMergePolicy currentData (deserialize C mergePolicyStr).2, mergeData)

def onHandlePolicy (m : UserPolicyManager) (started : AutoStarted) (request : Request)
    (policyData : HandlePolicyData) : ErrCode × AutoStarted × HandlePolicyData :=
  let mergePolicyStr := m.policyValue "" POLICY_MANAGE_AUTO_START_APPS
  let (currentData, mergeData) := deserializePolicyData C policyData mergePolicyStr
  let (res, started, currentData, mergeData) :=
    match request.type with
    | .set =>
      onSetPolicy request.answers started request.autoStartApps request.disallowModify currentData
        mergeData
    | .remove =>
      onRemovePolicy request.answers started request.autoStartApps currentData mergeData
        request.isUninstall
    | _ => (EdmReturnErrCode.PARAM_ERROR, started, currentData, mergeData)
  let res := getErrorMessage res
  if res != ERR_OK then (res, started, policyData)
  else
    let afterHandle := serialize C currentData ""
    let afterMerge := serialize C mergeData ""
    (ERR_OK, started,
      { policyData := afterHandle
        mergePolicyData := afterMerge
        isChanged := policyData.policyData != afterHandle || mergePolicyStr != afterMerge })

def onAdminRemove (started : AutoStarted) (answers : Answers)
    (currentJsonData mergeJsonData : String) : ErrCode × AutoStarted :=
  let currentData := (deserialize C currentJsonData).2
  let mergeData := (deserialize C mergeJsonData).2
  let needRemoveMergePolicy := setNeedRemoveMergePolicyData mergeData currentData
  let (ret, started, _) := setOrRemoveOtherModulePolicy answers started needRemoveMergePolicy false
  (ret, started)

/-- The lists of the values, when all of them deserialize. -/
def deserializeValues (values : List String) : Option (List (List ManageAutoStartAppInfo)) :=
  (values.filter fun value => value != "").mapM fun value =>
    match deserialize C value with
    | (true, dataItem) => some dataItem
    | (false, _) => none

/-- A failure leaves the out parameter empty. -/
def getOthersMergePolicyData (order : HashOrder) (m : UserPolicyManager) (adminName : String) :
    String :=
  let adminValues := (m.adminValues POLICY_MANAGE_AUTO_START_APPS).erase adminName
  if isEmpty adminValues then ""
  else
    match deserializeValues C
      (othersValues order m POLICY_MANAGE_AUTO_START_APPS adminName) with
    | none => ""
    | some data =>
      match deserialize C (m.policyValue "" POLICY_MANAGE_AUTO_START_APPS) with
      | (false, _) => ""
      | (true, mergePolicyData) =>
        serialize C (updateByMergePolicy (mergePolicy data) mergePolicyData) ""

/-- The first ability of the bundle that was removed. -/
def firstOfBundle (bundleName : String) (data : List ManageAutoStartAppInfo) :
    Option ManageAutoStartAppInfo :=
  data.find? fun appInfo => appInfo.bundleName == bundleName

/-- The event that a bundle was removed.  The lists are written over the old texts. -/
def onEvent (started : AutoStarted) (policyData : HandlePolicyData) (bundleName : String) :
    AutoStarted × HandlePolicyData :=
  let adminData := (deserialize C policyData.policyData).2
  match firstOfBundle bundleName adminData with
  | none => (started, policyData)
  | some app =>
    let mergeData := (deserialize C policyData.mergePolicyData).2
    let toRemove := [app.getUniqueKey ++ SEPARATOR ++ if app.isHiddenStart then "true" else "false"]
    let (_, started, adminData, mergeData) :=
      onRemovePolicy ⟨false, fun _ _ => false, fun _ => ERR_OK⟩ started toRemove adminData mergeData
        true
    (started,
      { policyData with
        policyData := serialize C adminData policyData.policyData
        mergePolicyData := serialize C mergeData policyData.mergePolicyData })

def plugin (order : HashOrder) : EventPlugin AutoStarted Request Answers String where
  policyName := POLICY_MANAGE_AUTO_START_APPS
  needSave := true
  getOthersMergePolicyData := getOthersMergePolicyData C order
  onHandlePolicy := onHandlePolicy C
  onAdminRemove := onAdminRemove C
  onPluginEvent _ event := nomatch event
  onEvent := onEvent C

end ManageAutoStartAppsPlugin

end Edm
