import Edm.Admin.AdminManager
import Edm.Library.TextLines
import Edm.Plugin.ManagedBrowserPolicySerializer
import Edm.Plugin.TemplatePolicy

/-! `ManagedBrowserPolicyPlugin`: the names of the policies of each browser, and a file for each
browser with a line for each name. -/

set_option autoImplicit false

namespace Edm

open Library

def POLICY_MANAGED_BROWSER_POLICY : String := "managed_browser_policy"

namespace ManagedBrowserPolicyPlugin

open ManagedBrowserPolicySerializer

def MANAGED_BROWSER_POLICY_DIR : String := "/data/service/el1/public/edm/browser/"
def MANAGED_BROWSER_POLICY_SUFFIX : String := ".dat"

/-- The files under their canonical paths.  Every operation on a file that is there succeeds. -/
abbrev Files := String → Option (List Char)

def url (bundleName : String) : String :=
  MANAGED_BROWSER_POLICY_DIR ++ bundleName ++ MANAGED_BROWSER_POLICY_SUFFIX

def tempUrl (bundleName : String) : String :=
  MANAGED_BROWSER_POLICY_DIR ++ bundleName ++ "_tmp" ++ MANAGED_BROWSER_POLICY_SUFFIX

variable (C : ArrayCJson) (canonical : String → String)

/-! ### The names -/

def policiesAt (bundleName : String) (policies : ManagedBrowserPolicies) :
    ManagedBrowserPolicyType :=
  (valueAt bundleName policies).getD ⟨[], 0⟩

/-- The loop over the policies of the admin. -/
def addToMerge (mergePolicies policies : ManagedBrowserPolicies) : ManagedBrowserPolicies :=
  policies.foldl (fun mergePolicies policy =>
    match valueAt policy.1 mergePolicies with
    | none => assign Prod.fst policy mergePolicies
    | some merged =>
      assign Prod.fst
        (policy.1, ⟨merged.policyNames ++ policy.2.policyNames, merged.version + 1⟩)
        mergePolicies) mergePolicies

def updateCurrentAndMergePolicy (policies mergePolicies : ManagedBrowserPolicies)
    (bundleName policyName policyValue : String) :
    ErrCode × ManagedBrowserPolicies × ManagedBrowserPolicies :=
  if policyName ∈ (policiesAt bundleName mergePolicies).policyNames then
    (EdmReturnErrCode.PARAM_ERROR, policies, mergePolicies)
  else
    let current := policiesAt bundleName policies
    let policyNames :=
      if policyName ∈ current.policyNames then
        if policyValue = "" then current.policyNames.erase policyName else current.policyNames
      else current.policyNames ++ [policyName]
    let policies := assign Prod.fst (bundleName, ⟨policyNames, current.version + 1⟩) policies
    (ERR_OK, policies, addToMerge mergePolicies policies)

/-- The loop over the policies of another admin. -/
def addOthers (mergeData dataItem : ManagedBrowserPolicies) : ManagedBrowserPolicies :=
  dataItem.foldl (fun mergeData item =>
    match valueAt item.1 mergeData with
    | none => assign Prod.fst item mergeData
    | some merged =>
      assign Prod.fst
        (item.1, ⟨merged.policyNames ++ item.2.policyNames,
          if merged.version < item.2.version then item.2.version else merged.version⟩)
        mergeData) mergeData

/-- Every failure leaves the out parameter empty. -/
def getOthersMergePolicyData (order : HashOrder) (m : UserPolicyManager) (adminName : String) :
    String :=
  let adminValues := (m.adminValues POLICY_MANAGED_BROWSER_POLICY).erase adminName
  if UnorderedMap.isEmpty adminValues then ""
  else
    let mergeData := ((order.entries adminValues).map Prod.snd).foldlM (fun mergeData value =>
      if value = "" then some mergeData
      else (deserialize C value).map (addOthers mergeData)) []
    (mergeData.map (serialize C)).getD ""

/-! ### The files -/

def checkRealPath (files : Files) (path expectPath : String) : Bool :=
  (files (canonical path)).isSome && decide (expectPath.toList <:+: (canonical path).toList)

def findPolicyNameInLine (line : List Char) : Option (List Char) :=
  if ':' ∈ line ∧ line.head? ≠ some ':' then some (line.takeWhile fun c => c != ':') else none

def policyNameWithQuotation (policyName : String) : List Char := '"' :: policyName.toList ++ ['"']

/-- The loop over the lines, with what was written to the temporary file.  It stops at a line
without a name. -/
def copyLines (policyName : String) (policyValue : List Char) :
    List (List Char) → List Char → Option (List Char)
  | [], tempOutFile => some tempOutFile
  | line :: inFile, tempOutFile =>
    match findPolicyNameInLine line with
    | none => none
    | some policyNameInLine =>
      if policyNameInLine = policyNameWithQuotation policyName then
        if policyValue = [] then copyLines policyName policyValue inFile tempOutFile
        else
          copyLines policyName policyValue inFile
            (tempOutFile ++ (policyNameWithQuotation policyName ++ ':' :: policyValue) ++ ['\n'])
      else copyLines policyName policyValue inFile (tempOutFile ++ line ++ ['\n'])

def updatePolicyFile (files : Files) (url tempUrl : String) : Bool × Files :=
  if (files url).isNone then (false, Function.update files tempUrl none)
  else
    let files := Function.update files url none
    match files tempUrl with
    | none => (false, files)
    | some content =>
      (true, Function.update (Function.update files tempUrl none) url (some content))

def modifyOrRemoveManagedBrowserPolicy (files : Files) (bundleName policyName : String)
    (policyValue : List Char) : ErrCode × Files :=
  if checkRealPath canonical files (url bundleName) MANAGED_BROWSER_POLICY_DIR = false then
    (EdmReturnErrCode.SYSTEM_ABNORMALLY, files)
  else
    match files (canonical (url bundleName)) with
    | none => (EdmReturnErrCode.SYSTEM_ABNORMALLY, files)
    | some inFile =>
      match copyLines policyName policyValue (lines inFile) [] with
      | none =>
        (EdmReturnErrCode.SYSTEM_ABNORMALLY,
          Function.update files (canonical (tempUrl bundleName)) none)
      | some tempOutFile =>
        let files := Function.update files (canonical (tempUrl bundleName)) (some tempOutFile)
        let (updated, files) := updatePolicyFile files (canonical (url bundleName))
          (canonical (tempUrl bundleName))
        (if updated then ERR_OK else EdmReturnErrCode.SYSTEM_ABNORMALLY, files)

def policyLine (policyName : String) (policyValue : List Char) : List Char :=
  policyNameWithQuotation policyName ++ ':' :: policyValue

/-- The file is made if there is none. -/
def addManagedBrowserPolicy (files : Files) (bundleName policyName : String)
    (policyValue : List Char) : ErrCode × Files :=
  (ERR_OK, Function.update files (canonical (url bundleName))
    (some ((files (canonical (url bundleName))).getD [] ++ policyLine policyName policyValue ++
      ['\n'])))

/-! ### Requests -/

structure Request where
  bundleName : String
  policyName : String
  policyValue : String

/-- The value without its newlines. -/
def written (policyValue : String) : List Char := policyValue.toList.filter fun c => c != '\n'

/-- A request with an empty name, or a bundle name with `..`. -/
def Refused (request : Request) : Prop :=
  request.bundleName = "" ∨ request.policyName = "" ∨
    ['.', '.'] <:+: request.bundleName.toList

instance (request : Request) : Decidable (Refused request) := by
  unfold Refused
  infer_instance

def onHandlePolicy (files : Files) (request : Request) (policyData : HandlePolicyData) :
    ErrCode × Files × HandlePolicyData :=
  if Refused request then (EdmReturnErrCode.PARAM_ERROR, files, policyData)
  else
    match deserialize C policyData.policyData, deserialize C policyData.mergePolicyData with
    | some policies, some mergePolicies =>
      let isModifyOrRemove :=
        request.policyName ∈ (policiesAt request.bundleName policies).policyNames
      let (ret, policies, mergePolicies) := updateCurrentAndMergePolicy policies mergePolicies
        request.bundleName request.policyName request.policyValue
      if failed ret then (ret, files, policyData)
      else
        let afterHandle := serialize C policies
        let afterMerge := serialize C mergePolicies
        let (ret, files) :=
          if isModifyOrRemove then
            modifyOrRemoveManagedBrowserPolicy canonical files request.bundleName
              request.policyName (written request.policyValue)
          else
            addManagedBrowserPolicy canonical files request.bundleName request.policyName
              (written request.policyValue)
        if ret != ERR_OK then (ret, files, policyData)
        else (ERR_OK, files, ⟨afterHandle, afterMerge, true⟩)
    | _, _ => (EdmReturnErrCode.SYSTEM_ABNORMALLY, files, policyData)

/-- The loop over the bundles of the removed admin. -/
def onAdminRemove (files : Files) (policyData : String) : ErrCode × Files :=
  match deserialize C policyData with
  | none => (EdmReturnErrCode.SYSTEM_ABNORMALLY, files)
  | some policies =>
    (ERR_OK, policies.foldl (fun files it =>
      Function.update files (canonical (url it.1)) none) files)

/-- The others' names are those of the default user, whose policies are `defaultUser`. -/
def plugin (order : HashOrder) (defaultUser : UserPolicyManager) :
    Plugin Files Request Unit Empty where
  policyName := POLICY_MANAGED_BROWSER_POLICY
  needSave := true
  getOthersMergePolicyData _ := getOthersMergePolicyData C order defaultUser
  onHandlePolicy _ := onHandlePolicy C canonical
  onAdminRemove files _ policyData _ := onAdminRemove C canonical files policyData
  onPluginEvent _ event := nomatch event

end ManagedBrowserPolicyPlugin

end Edm
