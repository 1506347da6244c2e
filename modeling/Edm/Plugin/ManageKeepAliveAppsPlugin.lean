import Edm.Plugin.ManageKeepAliveAppsSerializer
import Edm.Plugin.PolicyRun

/-! `ManageKeepAliveAppsPlugin`: the applications that admins keep alive.  The ability manager keeps
them alive, and an application that is uninstalled is taken out of every admin's list. -/

set_option autoImplicit false

namespace Edm

open Library Library.UnorderedMap

def KEEP_ALIVE_APPS_MAX_SIZE : Nat := 10

def POLICY_MANAGE_KEEP_ALIVE_APPS : String := "manage_keep_alive_apps"

namespace ManageKeepAliveAppsPlugin

open ManageKeepAliveAppsSerializer

def ERR_TARGET_BUNDLE_NOT_EXIST : ErrCode := 2097241
def ERR_NO_MAIN_ABILITY : ErrCode := 29360135
def ERR_NO_STATUS_BAR_ABILITY : ErrCode := 29360136
def ERR_NOT_ATTACHED_TO_STATUS_BAR : ErrCode := 29360137
def ERR_CAPABILITY_NOT_SUPPORT : ErrCode := 2097230

/-- The answers of the other services.  `appRunningControlRule` is `none` when there is no proxy or
the query fails. -/
structure Answers where
  abilityManager : Bool
  appRunningControlRule : Option (List String)
  setApplicationKeepAliveByEDM : String → ErrCode

def parseErrCode (res : ErrCode) : ErrCode :=
  if res = ERR_CAPABILITY_NOT_SUPPORT then EdmReturnErrCode.INTERFACE_UNSUPPORTED
  else if res != ERR_TARGET_BUNDLE_NOT_EXIST && res != ERR_NO_MAIN_ABILITY &&
      res != ERR_NO_STATUS_BAR_ABILITY && res != ERR_NOT_ATTACHED_TO_STATUS_BAR then
    EdmReturnErrCode.SYSTEM_ABNORMALLY
  else res

def getErrorMessage (errCode : ErrCode) : ErrCode :=
  if errCode = ERR_TARGET_BUNDLE_NOT_EXIST ∨ errCode = ERR_NO_MAIN_ABILITY ∨
      errCode = ERR_NO_STATUS_BAR_ABILITY ∨ errCode = ERR_NOT_ATTACHED_TO_STATUS_BAR then
    EdmReturnErrCode.ADD_KEEP_ALIVE_APP_FAILED
  else errCode

/-- How far a loop over applications has come: what is kept alive, `failedData`, `flag` and `res`. -/
structure Progress where
  alive : Finset String
  failedData : List ManageKeepAliveAppInfo
  flag : Bool
  res : ErrCode

def Progress.start (alive : Finset String) : Progress := ⟨alive, [], false, ERR_OK⟩

/-- One call of `SetApplicationKeepAliveByEDM`. -/
def Progress.call (progress : Progress) (answers : Answers) (appInfo : ManageKeepAliveAppInfo)
    (alive : Finset String) : Progress :=
  let res := answers.setApplicationKeepAliveByEDM appInfo.bundleName
  if failed res then
    { progress with failedData := progress.failedData ++ [appInfo], res }
  else { progress with alive, flag := true, res }

/-- The code of a loop that came to its end. -/
def Progress.code (progress : Progress) : ErrCode :=
  if progress.flag then ERR_OK else parseErrCode progress.res

/-- The loop of `SetOtherModulePolicy`, which a disallowed application ends. -/
def addKeepAliveApps (answers : Answers) (disallowedRunningBundles : List String)
    (disallowModify : Bool) :
    List String → Progress → ErrCode × Finset String × List ManageKeepAliveAppInfo
  | [], progress => (progress.code, progress.alive, progress.failedData)
  | bundleName :: keepAliveApps, progress =>
    if bundleName ∈ disallowedRunningBundles then
      (EdmReturnErrCode.CONFIGURATION_CONFLICT_FAILED, progress.alive, progress.failedData)
    else
      addKeepAliveApps answers disallowedRunningBundles disallowModify keepAliveApps
        (progress.call answers ⟨bundleName, disallowModify⟩ (insert bundleName progress.alive))

/-- The code, the applications that are kept alive, and `failedData`. -/
def setOtherModulePolicy (answers : Answers) (alive : Finset String) (keepAliveApps : List String)
    (disallowModify : Bool) : ErrCode × Finset String × List ManageKeepAliveAppInfo :=
  if answers.abilityManager then
    match answers.appRunningControlRule with
    | none => (EdmReturnErrCode.SYSTEM_ABNORMALLY, alive, [])
    | some disallowedRunningBundles =>
      addKeepAliveApps answers disallowedRunningBundles disallowModify keepAliveApps (.start alive)
  else (EdmReturnErrCode.SYSTEM_ABNORMALLY, alive, [])

def removeOtherModulePolicy (answers : Answers) (alive : Finset String)
    (keepAliveApps : List ManageKeepAliveAppInfo) :
    ErrCode × Finset String × List ManageKeepAliveAppInfo :=
  if answers.abilityManager then
    let progress := keepAliveApps.foldl (fun (progress : Progress) bundleName =>
      progress.call answers bundleName (progress.alive.erase bundleName.bundleName))
      (Progress.start alive)
    (progress.code, progress.alive, progress.failedData)
  else (EdmReturnErrCode.SYSTEM_ABNORMALLY, alive, [])

def onSetPolicy (answers : Answers) (alive : Finset String) (data : List String)
    (disallowModify : Bool) (currentData mergeData : List ManageKeepAliveAppInfo) :
    ErrCode × Finset String × List ManageKeepAliveAppInfo × List ManageKeepAliveAppInfo :=
  if data = [] then (ERR_OK, alive, currentData, mergeData)
  else if KEEP_ALIVE_APPS_MAX_SIZE < data.length then
    (EdmReturnErrCode.PARAM_ERROR, alive, currentData, mergeData)
  else
    let tmpData := data.map fun item => ⟨item, disallowModify⟩
    let addData := setDifferencePolicyData currentData tmpData
    let afterHandle := setUnionPolicyData (sort currentData) (sort tmpData)
    let afterMerge := setUnionPolicyData mergeData afterHandle
    if KEEP_ALIVE_APPS_MAX_SIZE < afterMerge.length then
      (EdmReturnErrCode.PARAM_ERROR, alive, currentData, mergeData)
    else
      let (ret, alive, failedData) :=
        setOtherModulePolicy answers alive (bundles (sort tmpData)) disallowModify
      if failed ret then (ret, alive, currentData, mergeData)
      else if failedData = [] then (ERR_OK, alive, afterHandle, afterMerge)
      else
        let addDataSuccessful := setDifferencePolicyData failedData addData
        let currentData := setUnionPolicyData (sort currentData) addDataSuccessful
        (ERR_OK, alive, currentData, setUnionPolicyData mergeData currentData)

def onRemovePolicy (answers : Answers) (alive : Finset String) (data : List String)
    (currentData mergeData : List ManageKeepAliveAppInfo) (isUninstall : Bool) :
    ErrCode × Finset String × List ManageKeepAliveAppInfo × List ManageKeepAliveAppInfo :=
  if data = [] then (ERR_OK, alive, currentData, mergeData)
  else if KEEP_ALIVE_APPS_MAX_SIZE < data.length then
    (EdmReturnErrCode.PARAM_ERROR, alive, currentData, mergeData)
  else
    let needRemovePolicy := setIntersectionPolicyData data currentData
    let needRemoveMergePolicy := setNeedRemoveMergePolicyData mergeData needRemovePolicy
    let (ret, alive, failedData) :=
      if needRemoveMergePolicy ≠ [] ∧ !isUninstall then
        removeOtherModulePolicy answers alive needRemoveMergePolicy
      else (ERR_OK, alive, [])
    if failed ret then (ret, alive, currentData, mergeData)
    else
      let removeData :=
        if failedData = [] then needRemovePolicy
        else setDifferencePolicyData failedData needRemovePolicy
      let currentData := setDifferencePolicyData removeData currentData
      (ERR_OK, alive, currentData, setUnionPolicyData currentData mergeData)

/-- A request, with the answers of the other services.  One that is not a SET is a REMOVE. -/
structure Request where
  isSet : Bool
  keepAliveApps : List String
  disallowModify : Bool
  isUninstall : Bool
  answers : Answers

variable (C : CJson)

/-- The flags of the admin's list are those of the combined list. -/
def onHandlePolicy (m : UserPolicyManager) (alive : Finset String) (request : Request)
    (policyData : HandlePolicyData) : ErrCode × Finset String × HandlePolicyData :=
  let currentData := (deserialize C policyData.policyData).2
  let mergeData := (deserialize C policyData.mergePolicyData).2
  let mergePolicyStr := m.policyValue "" POLICY_MANAGE_KEEP_ALIVE_APPS
  let totalMergePolicyData := (deserialize C mergePolicyStr).2
  let currentData := updateByMergePolicy currentData totalMergePolicyData
  let (res, alive, currentData, mergeData) :=
    if request.isSet then
      onSetPolicy request.answers alive request.keepAliveApps request.disallowModify currentData
        mergeData
    else
      onRemovePolicy request.answers alive request.keepAliveApps currentData mergeData
        request.isUninstall
  let res := getErrorMessage res
  if failed res then (res, alive, policyData)
  else
    let afterHandle := serialize C currentData ""
    let afterMerge := serialize C mergeData ""
    (ERR_OK, alive,
      { policyData := afterHandle
        mergePolicyData := afterMerge
        isChanged := policyData.policyData != afterHandle || mergePolicyStr != afterMerge })

def onAdminRemove (alive : Finset String) (answers : Answers)
    (currentJsonData mergeJsonData : String) : ErrCode × Finset String :=
  let currentData := (deserialize C currentJsonData).2
  let mergeData := (deserialize C mergeJsonData).2
  let (ret, alive, _) := removeOtherModulePolicy answers alive
    (setNeedRemoveMergePolicyData mergeData currentData)
  (ret, alive)

/-- The lists of the values, when all of them deserialize. -/
def deserializeValues (values : List String) : Option (List (List ManageKeepAliveAppInfo)) :=
  (values.filter fun value => value != "").mapM fun value =>
    match deserialize C value with
    | (true, dataItem) => some dataItem
    | (false, _) => none

/-- A failure leaves the out parameter empty. -/
def getOthersMergePolicyData (order : HashOrder) (m : UserPolicyManager) (adminName : String) :
    String :=
  let adminValues := (m.adminValues POLICY_MANAGE_KEEP_ALIVE_APPS).erase adminName
  if isEmpty adminValues then ""
  else
    match deserializeValues C ((order.entries adminValues).map Prod.snd) with
    | none => ""
    | some data =>
      match deserialize C (m.policyValue "" POLICY_MANAGE_KEEP_ALIVE_APPS) with
      | (false, _) => ""
      | (true, mergePolicyData) =>
        serialize C (updateByMergePolicy (mergePolicy data) mergePolicyData) ""

/-- The event that an application was removed.  The lists are written over the old texts. -/
def onPluginEvent (policyData : HandlePolicyData) (bundleName : String) : HandlePolicyData :=
  let adminData := (deserialize C policyData.policyData).2
  if bundleName ∉ bundles adminData then policyData
  else
    let mergeData := (deserialize C policyData.mergePolicyData).2
    let (_, _, adminData, mergeData) :=
      onRemovePolicy ⟨false, none, fun _ => ERR_OK⟩ ∅ [bundleName] adminData mergeData true
    { policyData with
      policyData := serialize C adminData policyData.policyData
      mergePolicyData := serialize C mergeData policyData.mergePolicyData }

def plugin (order : HashOrder) : Plugin (Finset String) Request Answers String where
  policyName := POLICY_MANAGE_KEEP_ALIVE_APPS
  needSave := true
  getOthersMergePolicyData := getOthersMergePolicyData C order
  onHandlePolicy := onHandlePolicy C
  onAdminRemove := onAdminRemove C
  onPluginEvent := onPluginEvent C

end ManageKeepAliveAppsPlugin

end Edm
