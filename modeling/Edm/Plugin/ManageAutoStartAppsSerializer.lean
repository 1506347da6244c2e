import Mathlib.Data.Prod.Lex
import Mathlib.Data.String.Basic
import Edm.Library.OrderedMap
import Edm.Library.SeparatedKey
import Edm.Library.SetAlgorithms
import Edm.Plugin.IntCJson

/-! Lists of abilities that are started with the device, as policy values.  A list becomes an object
whose members have no names, and nothing is written for the empty list. -/

set_option autoImplicit false

namespace Edm

open Library

structure ManageAutoStartAppInfo where
  bundleName : String
  abilityName : String
  disallowModify : Bool
  isHiddenStart : Bool
  deriving DecidableEq, Repr

namespace ManageAutoStartAppInfo

def SEPARATOR : String := "/"

def getUniqueKey (info : ManageAutoStartAppInfo) : String :=
  info.bundleName ++ SEPARATOR ++ info.abilityName

/-- A key without a separator leaves the names. -/
def setUniqueKey (info : ManageAutoStartAppInfo) (uniqueKey : String) : ManageAutoStartAppInfo :=
  match splitFirst '/' uniqueKey with
  | some (bundleName, abilityName) => { info with bundleName, abilityName }
  | none => info

/-- By unique key and flags.  The bundle name comes last: keys are the same for different bundles
only where a name has a separator. -/
instance : LinearOrder ManageAutoStartAppInfo :=
  LinearOrder.lift' (fun info => toLex (info.getUniqueKey, toLex (info.disallowModify,
      toLex (info.isHiddenStart, info.bundleName)))) fun info info' h => by
    obtain ⟨bundleName, abilityName, disallowModify, isHiddenStart⟩ := info
    obtain ⟨bundleName', abilityName', disallowModify', isHiddenStart'⟩ := info'
    obtain ⟨hkey, h⟩ := Prod.mk.inj (toLex.injective h)
    obtain ⟨rfl, h⟩ := Prod.mk.inj (toLex.injective h)
    obtain ⟨rfl, rfl⟩ := Prod.mk.inj (toLex.injective h)
    obtain rfl : abilityName = abilityName' := by
      simpa [getUniqueKey] using hkey
    rfl

end ManageAutoStartAppInfo

namespace ManageAutoStartAppsSerializer

open ManageAutoStartAppInfo

def BUNDLE_NAME : String := "bundleName"
def ABILITY_NAME : String := "abilityName"
def DISALLOW_MODIFY : String := "disallowModify"
def ISHIDDENSTART_MODIFY : String := "isHiddenStart"

/-- A string stands for an ability from before the flags. -/
def deserializeItem (mapItem : Json) : Option ManageAutoStartAppInfo :=
  match mapItem.getObjectItem BUNDLE_NAME, mapItem.getObjectItem ABILITY_NAME,
    mapItem.getObjectItem DISALLOW_MODIFY, mapItem with
  | none, none, none, .str autoStartString =>
    match splitFirst '/' autoStartString with
    | some (bundleName, abilityName) => some ⟨bundleName, abilityName, true, false⟩
    | none => none
  | some (.str bundleName), some (.str abilityName), some (.bool disallowModify), _ =>
    let isHiddenStart :=
      match mapItem.getObjectItem ISHIDDENSTART_MODIFY with
      | some (.bool isHiddenStart) => isHiddenStart
      | _ => false
    some { bundleName, abilityName, disallowModify, isHiddenStart }
  | _, _, _, _ => none

/-- The items before the first one that is malformed, and whether there is none. -/
def deserializeItems : List Json → Bool × List ManageAutoStartAppInfo
  | [] => (true, [])
  | mapItem :: items =>
    match deserializeItem mapItem with
    | none => (false, [])
    | some appInfo =>
      let (ok, dataObj) := deserializeItems items
      (ok, appInfo :: dataObj)

variable (C : CJson)

/-- The return value, and what is added to the out parameter. -/
def deserialize (policy : String) : Bool × List ManageAutoStartAppInfo :=
  if policy = "" then (true, [])
  else
    match C.parse policy with
    | none => (false, [])
    | some root => deserializeItems root.children

def serializeItem (info : ManageAutoStartAppInfo) : Json :=
  .obj [(BUNDLE_NAME, .str info.bundleName), (ABILITY_NAME, .str info.abilityName),
    (DISALLOW_MODIFY, .bool info.disallowModify), (ISHIDDENSTART_MODIFY, .bool info.isHiddenStart)]

/-- The text that the out parameter has after the call. -/
def serialize (dataObj : List ManageAutoStartAppInfo) (policy : String) : String :=
  if dataObj = [] then policy else C.print (.obj (dataObj.map fun info => ("", serializeItem info)))

/-- A `std::map` by unique key, in which the second list overrides the first. -/
def setUnionPolicyData (data currentData : List ManageAutoStartAppInfo) :
    List ManageAutoStartAppInfo :=
  assignAll getUniqueKey currentData (assignAll getUniqueKey data [])

/-- The items of `currentData` that are not in `data`. -/
def setDifferencePolicyData (data currentData : List ManageAutoStartAppInfo) :
    List ManageAutoStartAppInfo :=
  setDifference (sort currentData) (sort data)

def setNeedRemoveMergePolicyData (mergeData data : List ManageAutoStartAppInfo) :
    List ManageAutoStartAppInfo :=
  data.filter fun item =>
    !mergeData.any fun mergeItem => mergeItem.getUniqueKey == item.getUniqueKey

/-- The unique key of a request, which a flag may follow. -/
def uniqueKeyOf (dataItem : String) : String :=
  match splitLast '/' dataItem with
  | some (uniqueKey, _) => uniqueKey
  | none => dataItem

/-- The first item of each requested key. -/
def setIntersectionPolicyData (data : List String) (currentData : List ManageAutoStartAppInfo) :
    List ManageAutoStartAppInfo :=
  data.filterMap fun dataItem =>
    currentData.find? fun item => item.getUniqueKey == uniqueKeyOf dataItem

/-- A `std::set` of the first item of each key. -/
def mergePolicy (data : List (List ManageAutoStartAppInfo)) : List ManageAutoStartAppInfo :=
  stdSet (firsts getUniqueKey data.flatten)

/-- The flags of the first item of the merged data that has the key. -/
def updateItem (mergeData : List ManageAutoStartAppInfo) (dataItem : ManageAutoStartAppInfo) :
    ManageAutoStartAppInfo :=
  match mergeData.find? fun mergeItem => dataItem.getUniqueKey == mergeItem.getUniqueKey with
  | some mergeItem =>
    { dataItem with
      disallowModify := mergeItem.disallowModify
      isHiddenStart := mergeItem.isHiddenStart }
  | none => dataItem

def updateByMergePolicy (data mergeData : List ManageAutoStartAppInfo) :
    List ManageAutoStartAppInfo :=
  data.map (updateItem mergeData)

/-! ### The text of a list -/

section Text

variable {C}

theorem numberFree_items (data : List ManageAutoStartAppInfo) :
    (Json.obj (data.map fun info => ("", serializeItem info))).NumberFree := by
  simp only [Json.NumberFree, Json.numberFreeMembers_iff, List.mem_map]
  rintro member ⟨info, -, rfl⟩
  simp [serializeItem, Json.NumberFree, Json.NumberFreeMembers]

theorem serialize_ne_empty {data : List ManageAutoStartAppInfo} (h : data ≠ []) (policy : String) :
    serialize C data policy ≠ "" := by
  rw [serialize, if_neg h]
  exact C.print_ne_empty (numberFree_items data)

theorem deserializeItem_serializeItem (info : ManageAutoStartAppInfo) :
    deserializeItem (serializeItem info) = some info := by
  have hmember : ∀ {name value}, (name, value) ∈ [(BUNDLE_NAME, Json.str info.bundleName),
      (ABILITY_NAME, .str info.abilityName), (DISALLOW_MODIFY, .bool info.disallowModify),
      (ISHIDDENSTART_MODIFY, .bool info.isHiddenStart)] →
        (serializeItem info).getObjectItem name = some value :=
    Json.getObjectItem_of_mem (by simp only [List.map_cons, List.map_nil]; decide)
  have hbundle := @hmember BUNDLE_NAME _ (.head _)
  have hability := @hmember ABILITY_NAME _ (.tail _ (.head _))
  have hdisallow := @hmember DISALLOW_MODIFY _ (.tail _ (.tail _ (.head _)))
  have hhidden := @hmember ISHIDDENSTART_MODIFY _ (.tail _ (.tail _ (.tail _ (.head _))))
  unfold deserializeItem
  rw [hbundle, hability, hdisallow, hhidden]

theorem deserializeItems_map (data : List ManageAutoStartAppInfo) :
    deserializeItems (data.map serializeItem) = (true, data) := by
  induction data with
  | nil => rfl
  | cons info data ih => rw [List.map_cons, deserializeItems, deserializeItem_serializeItem, ih]

@[simp] theorem deserialize_empty : deserialize C "" = (true, []) := rfl

/-- The text of a list is read back as the list. -/
theorem deserialize_serialize (data : List ManageAutoStartAppInfo) :
    deserialize C (serialize C data "") = (true, data) := by
  by_cases h : data = []
  · subst h
    rfl
  · have hparse := C.parse_print _ (numberFree_items data)
    rw [deserialize, if_neg (serialize_ne_empty h ""), serialize, if_neg h, hparse]
    simp only [Json.children, List.map_map]
    exact deserializeItems_map data

/-- The empty list is not written over the text of another list. -/
theorem deserialize_over (data old : List ManageAutoStartAppInfo) :
    deserialize C (serialize C data (serialize C old "")) =
      (true, if data = [] then old else data) := by
  by_cases hnil : data = []
  · rw [serialize, if_pos hnil, if_pos hnil, deserialize_serialize]
  · have hover : serialize C data (serialize C old "") = serialize C data "" := by
      rw [serialize, if_neg hnil, serialize, if_neg hnil]
    rw [hover, if_neg hnil, deserialize_serialize]

end Text

/-! ### The keys of a list -/

section Keys

/-- The abilities that a list names. -/
abbrev keys (data : List ManageAutoStartAppInfo) : List String :=
  data.map ManageAutoStartAppInfo.getUniqueKey

variable {data currentData mergeData : List ManageAutoStartAppInfo} {x : String}
  {info : ManageAutoStartAppInfo}

theorem mem_keys_setUnionPolicyData : x ∈ keys (setUnionPolicyData data currentData) ↔
    x ∈ keys data ∨ x ∈ keys currentData := by
  rw [keys, setUnionPolicyData, mem_keys_assignAll, mem_keys_assignAll]
  simp [or_comm]

theorem nodup_keys_setUnionPolicyData (data currentData : List ManageAutoStartAppInfo) :
    (keys (setUnionPolicyData data currentData)).Nodup :=
  (keysAscend_assignAll (keysAscend_assignAll keysAscend_nil)).nodup

theorem mem_keys_mergePolicy {lists : List (List ManageAutoStartAppInfo)} :
    x ∈ keys (mergePolicy lists) ↔ ∃ list ∈ lists, x ∈ keys list := by
  have hfirsts : x ∈ keys (firsts getUniqueKey lists.flatten) ↔ x ∈ keys lists.flatten :=
    mem_keys_firsts
  simp only [List.mem_map, List.mem_flatten] at hfirsts
  simp only [keys, mergePolicy, List.mem_map, mem_stdSet, hfirsts]
  constructor
  · rintro ⟨info, ⟨list, hlist, hinfo⟩, rfl⟩
    exact ⟨list, hlist, info, hinfo, rfl⟩
  · rintro ⟨list, hlist, info, hinfo, rfl⟩
    exact ⟨info, ⟨list, hlist, hinfo⟩, rfl⟩

theorem mem_of_mem_mergePolicy {lists : List (List ManageAutoStartAppInfo)}
    (h : info ∈ mergePolicy lists) : ∃ list ∈ lists, info ∈ list := by
  rw [mergePolicy, mem_stdSet] at h
  exact List.mem_flatten.mp (mem_of_mem_firsts h)

theorem nodup_keys_mergePolicy (lists : List (List ManageAutoStartAppInfo)) :
    (keys (mergePolicy lists)).Nodup := by
  have hfirsts : (keys (firsts getUniqueKey lists.flatten)).Nodup := nodup_keys_firsts lists.flatten
  refine (nodup_stdSet _).map_on fun info hinfo info' hinfo' heq => ?_
  exact List.inj_on_of_nodup_map hfirsts (mem_stdSet.mp hinfo) (mem_stdSet.mp hinfo') heq

theorem getUniqueKey_updateItem : (updateItem mergeData info).getUniqueKey = info.getUniqueKey := by
  unfold updateItem
  split <;> rfl

/-- The flags change, the keys do not. -/
theorem keys_updateByMergePolicy (data mergeData : List ManageAutoStartAppInfo) :
    keys (updateByMergePolicy data mergeData) = keys data := by
  simp only [keys, updateByMergePolicy, List.map_map]
  exact List.map_congr_left fun item _ => getUniqueKey_updateItem

theorem uniqueKeyOf_append {key flag : String} (h : '/' ∉ flag.toList) :
    uniqueKeyOf (key ++ SEPARATOR ++ flag) = key := by
  rw [uniqueKeyOf, splitLast_append rfl h]

end Keys

end ManageAutoStartAppsSerializer

end Edm
