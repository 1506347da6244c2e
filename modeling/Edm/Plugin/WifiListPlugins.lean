import Mathlib.Data.Prod.Lex
import Edm.Admin.AdminManager
import Edm.Plugin.IntCJson
import Edm.Plugin.ItemPolicy
import Edm.Library.SetAlgorithms

/-! `AllowWifiListPlugin` and `DisallowWifiListPlugin`.  Both send their combined list to the WiFi
service, which keeps one list. -/

set_option autoImplicit false

namespace Edm

open Library

def POLICY_ALLOWED_WIFI_LIST : String := "allowed_wifi_list"
def POLICY_DISALLOWED_WIFI_LIST : String := "disallowed_wifi_list"

namespace EdmConstants

def WIFI_LIST_MAX_SIZE : Nat := 200
def WIFI_BSSID_LENGTH : Nat := 17
def WIFI_SSID_MAX_LENGTH : Nat := 32

end EdmConstants

structure WifiId where
  ssid : String
  bssid : String
  deriving DecidableEq

instance : LinearOrder WifiId :=
  LinearOrder.lift' (fun wifiId => toLex (wifiId.ssid, wifiId.bssid)) fun wifiId wifiId' h => by
    obtain ⟨ssid, bssid⟩ := wifiId
    obtain ⟨rfl, rfl⟩ := Prod.mk.inj (toLex.injective h)
    rfl

/-! ### Lists as policy values -/

namespace ArrayWifiIdSerializer

def SSID : String := "ssid"
def BSSID : String := "bssid"

variable (C : CJson)

/-- An item whose names are not strings is left out, and one without names fails. -/
def deserializeItems : List Json → Option (List WifiId)
  | [] => some []
  | item :: items =>
    match item.getObjectItem SSID, item.getObjectItem BSSID with
    | none, _ => none
    | _, none => none
    | some (.str ssid), some (.str bssid) => (deserializeItems items).map (⟨ssid, bssid⟩ :: ·)
    | _, _ => deserializeItems items

def deserialize (jsonString : String) : Option (List WifiId) :=
  match C.parse jsonString with
  | none => some []
  | some root => deserializeItems root.children

def serializeItem (wifiId : WifiId) : Json :=
  .obj [(SSID, .str wifiId.ssid), (BSSID, .str wifiId.bssid)]

/-- The out parameter is empty before the call, and stays so for the empty list. -/
def serialize (dataObj : List WifiId) : String :=
  if dataObj = [] then "" else C.print (.arr (dataObj.map serializeItem))

/-- What `GetPolicy` makes of the networks of a message. -/
def getPolicy (data : List WifiId) : Option (List WifiId) :=
  if EdmConstants.WIFI_LIST_MAX_SIZE < data.length then none else some data

def setUnionPolicyData (data currentData : List WifiId) : List WifiId :=
  setUnion (sort data) (sort currentData)

/-- The networks of `currentData` that are not in `data`. -/
def setDifferencePolicyData (data currentData : List WifiId) : List WifiId :=
  setDifference (sort currentData) (sort data)

def mergePolicy (data : List (List WifiId)) : List WifiId := stdSet data.flatten

def serializer : PolicySerializer (List WifiId) where
  initial := []
  serialize dataObj := some (serialize C dataObj)
  deserialize := deserialize C
  mergePolicy data := some (mergePolicy data)

variable {C} {data : List WifiId}

theorem numberFree_items (data : List WifiId) : (Json.arr (data.map serializeItem)).NumberFree := by
  rw [Json.NumberFree, Json.numberFreeItems_iff]
  intro item hitem
  obtain ⟨wifiId, -, rfl⟩ := List.mem_map.mp hitem
  rw [serializeItem, Json.NumberFree, Json.numberFreeMembers_iff]
  simp only [List.mem_cons, List.not_mem_nil, or_false]
  rintro member (rfl | rfl)
  · trivial
  · trivial

theorem deserializeItems_serialize (data : List WifiId) :
    deserializeItems (data.map serializeItem) = some data := by
  induction data with
  | nil => rfl
  | cons wifiId data ih =>
    have hmember : ∀ {name value}, (name, value) ∈ [(SSID, Json.str wifiId.ssid),
        (BSSID, .str wifiId.bssid)] → (serializeItem wifiId).getObjectItem name = some value :=
      Json.getObjectItem_of_mem (by simp only [List.map_cons, List.map_nil]; decide)
    have hssid := @hmember SSID _ (.head _)
    have hbssid := @hmember BSSID _ (.tail _ (.head _))
    rw [List.map_cons, deserializeItems, hssid, hbssid]
    dsimp only
    rw [ih]
    rfl

/-- The text of a list is read back as the list. -/
theorem deserialize_serialize (data : List WifiId) : deserialize C (serialize C data) = some data := by
  rw [serialize]
  split
  · rename_i hnil
    rw [deserialize, C.parse_empty, hnil]
  · rw [deserialize, C.parse_print _ (numberFree_items data)]
    exact deserializeItems_serialize data

theorem serialize_nil : serialize C [] = "" := if_pos rfl

theorem deserializeNonempty_serialize (data : List WifiId) :
    IPluginTemplate.deserializeNonempty (serializer C) (serialize C data) = some data := by
  rw [IPluginTemplate.deserializeNonempty]
  split
  · rename_i hempty
    have hread := deserialize_serialize (C := C) data
    rw [hempty, ← serialize_nil (C := C), deserialize_serialize] at hread
    exact hread
  · exact deserialize_serialize data

theorem serialize_eq_empty : serialize C data = "" ↔ data = [] := by
  constructor
  · intro h
    have hread := deserialize_serialize (C := C) data
    rw [h, ← serialize_nil (C := C), deserialize_serialize] at hread
    exact (Option.some.inj hread).symm
  · rintro rfl
    exact serialize_nil

theorem mem_setUnionPolicyData {others : List WifiId} {x : WifiId} :
    x ∈ setUnionPolicyData data others ↔ x ∈ data ∨ x ∈ others := by
  rw [setUnionPolicyData, mem_setUnion (sorted_sort _) (sorted_sort _), mem_sort, mem_sort]

theorem mem_mergePolicy {lists : List (List WifiId)} {x : WifiId} :
    x ∈ mergePolicy lists ↔ ∃ l, l ∈ lists ∧ x ∈ l := by
  rw [mergePolicy, mem_stdSet, List.mem_flatten]

end ArrayWifiIdSerializer

/-! ### The plugins -/

/-- `Wifi::WifiRestrictedType`, of the lists that the plugins send. -/
inductive WifiRestrictedType where
  | MDM_WHITELIST
  | MDM_BLOCKLIST
  deriving DecidableEq

structure WifiRestrictedInfo where
  ssid : String
  bssid : String
  wifiRestrictedType : WifiRestrictedType
  deriving DecidableEq

namespace WifiPolicyUtils

open ArrayWifiIdSerializer

/-- The list that the WiFi service was last sent. -/
abbrev WifiService := List WifiRestrictedInfo

def restrictedInfo (isAllowed : Bool) (item : WifiId) : WifiRestrictedInfo where
  ssid := item.ssid
  bssid := item.bssid
  wifiRestrictedType := if isAllowed then .MDM_WHITELIST else .MDM_BLOCKLIST

/-- `accepted` is the answer of the service. -/
def setWifiAccessList (accepted isAllowed : Bool) (data : List WifiId) (wifi : WifiService) :
    ErrCode × WifiService :=
  if accepted then (ERR_OK, data.map (restrictedInfo isAllowed))
  else (EdmReturnErrCode.SYSTEM_ABNORMALLY, wifi)

def checkWifiId (data : List WifiId) : Bool :=
  data.all fun wifiId =>
    !(wifiId.ssid.utf8ByteSize > EdmConstants.WIFI_SSID_MAX_LENGTH || wifiId.ssid == "") &&
      !(wifiId.bssid != "" && wifiId.bssid.utf8ByteSize != EdmConstants.WIFI_BSSID_LENGTH)

def policyName (isAllowed : Bool) : String :=
  if isAllowed then POLICY_ALLOWED_WIFI_LIST else POLICY_DISALLOWED_WIFI_LIST

/-- The policies are those of the default user.  `wifiDisabled` says that WiFi is disabled. -/
def hasConflictPolicy (m : UserPolicyManager) (wifiDisabled isAllowed : Bool) : Bool :=
  wifiDisabled || m.policyValue "" (policyName !isAllowed) != ""

/-- Whether the service accepts a list, and whether WiFi is disabled. -/
structure Answers where
  accepted : Bool
  wifiDisabled : Bool

def addWifiListPolicy (m : UserPolicyManager) (answers : Answers) (isAllowed : Bool)
    (wifi : WifiService) (data currentData mergeData : List WifiId) :
    ErrCode × WifiService × List WifiId × List WifiId :=
  if data = [] then (ERR_OK, wifi, currentData, mergeData)
  else if EdmConstants.WIFI_LIST_MAX_SIZE < data.length then
    (EdmReturnErrCode.PARAM_ERROR, wifi, currentData, mergeData)
  else if !checkWifiId data then (EdmReturnErrCode.PARAM_ERROR, wifi, currentData, mergeData)
  else if hasConflictPolicy m answers.wifiDisabled isAllowed then
    (EdmReturnErrCode.CONFIGURATION_CONFLICT_FAILED, wifi, currentData, mergeData)
  else
    let needAddData := setDifferencePolicyData currentData data
    let afterHandle := setUnionPolicyData currentData needAddData
    let afterMerge := setUnionPolicyData mergeData afterHandle
    if EdmConstants.WIFI_LIST_MAX_SIZE < afterMerge.length then
      (EdmReturnErrCode.PARAM_ERROR, wifi, currentData, mergeData)
    else
      let (errCode, wifi) := setWifiAccessList answers.accepted isAllowed afterMerge wifi
      if errCode != ERR_OK then (errCode, wifi, currentData, mergeData)
      else (ERR_OK, wifi, afterHandle, afterMerge)

/-- There is no check of the other list. -/
def removeWifiListPolicy (answers : Answers) (isAllowed : Bool) (wifi : WifiService)
    (data currentData mergeData : List WifiId) : ErrCode × WifiService × List WifiId × List WifiId :=
  if data = [] then (ERR_OK, wifi, currentData, mergeData)
  else if EdmConstants.WIFI_LIST_MAX_SIZE < data.length then
    (EdmReturnErrCode.PARAM_ERROR, wifi, currentData, mergeData)
  else if !checkWifiId data then (EdmReturnErrCode.PARAM_ERROR, wifi, currentData, mergeData)
  else
    let afterHandle := setDifferencePolicyData data currentData
    let afterMerge := setUnionPolicyData mergeData afterHandle
    let (errCode, wifi) := setWifiAccessList answers.accepted isAllowed afterMerge wifi
    if errCode != ERR_OK then (errCode, wifi, currentData, mergeData)
    else (ERR_OK, wifi, afterHandle, afterMerge)

structure Request where
  type : FuncOperateType
  data : List WifiId
  answers : Answers

variable (C : CJson) (m : UserPolicyManager) (isAllowed : Bool)

def onHandlePolicy (wifi : WifiService) (request : Request) (policyData : HandlePolicyData) :
    ErrCode × WifiService × HandlePolicyData :=
  match request.type with
  | .set =>
    IPluginTemplate.handlePolicy (serializer C) (addWifiListPolicy m request.answers isAllowed) wifi
      (getPolicy request.data) policyData
  | .remove =>
    IPluginTemplate.handlePolicy (serializer C) (removeWifiListPolicy request.answers isAllowed) wifi
      (getPolicy request.data) policyData
  | _ => (ERR_OK, wifi, policyData)

def onAdminRemove (accepted : Bool) (wifi : WifiService) (data mergeData : List WifiId) :
    ErrCode × WifiService :=
  if data = [] then (ERR_OK, wifi) else setWifiAccessList accepted isAllowed mergeData wifi

/-- `m` is what the default user has when an operation starts. -/
def plugin (order : HashOrder) : Plugin WifiService Request Bool Empty where
  policyName := policyName isAllowed
  needSave := true
  getOthersMergePolicyData :=
    IPluginTemplate.getOthersMergePolicyData (serializer C) order (policyName isAllowed)
  onHandlePolicy _ := onHandlePolicy C m isAllowed
  onAdminRemove wifi accepted :=
    IPluginTemplate.adminRemove (serializer C) (onAdminRemove isAllowed accepted) wifi
  onPluginEvent _ event := nomatch event

end WifiPolicyUtils

/-- `AllowWifiListPlugin`. -/
def AllowWifiListPlugin.plugin (C : CJson) (m : UserPolicyManager) (order : HashOrder) :
    Plugin WifiPolicyUtils.WifiService WifiPolicyUtils.Request Bool Empty :=
  WifiPolicyUtils.plugin C m true order

/-- `DisallowWifiListPlugin`. -/
def DisallowWifiListPlugin.plugin (C : CJson) (m : UserPolicyManager) (order : HashOrder) :
    Plugin WifiPolicyUtils.WifiService WifiPolicyUtils.Request Bool Empty :=
  WifiPolicyUtils.plugin C m false order

end Edm
