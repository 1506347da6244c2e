import Mathlib.Data.Prod.Lex
import Mathlib.Data.String.Basic
import Edm.Library.OrderedMap
import Edm.Library.SetAlgorithms
import Edm.Plugin.CJson

/-! Lists of applications that are kept alive, as policy values.  A list becomes an object whose
members have no names, and nothing is written for the empty list. -/

set_option autoImplicit false

namespace Edm

open Library

structure ManageKeepAliveAppInfo where
  bundleName : String
  disallowModify : Bool
  deriving Repr

/-- By bundle name, and then by flag. -/
instance : LinearOrder ManageKeepAliveAppInfo :=
  LinearOrder.lift' (fun info => toLex (info.bundleName, info.disallowModify))
    fun info info' h => by
      obtain ⟨bundleName, disallowModify⟩ := info
      obtain ⟨bundleName', disallowModify'⟩ := info'
      obtain ⟨rfl, rfl⟩ := Prod.mk.inj (toLex.injective h)
      rfl

namespace ManageKeepAliveAppsSerializer

def BUNDLE_NAME : String := "bundleName"
def DISALLOW_MODIFY : String := "disallowModify"

/-- A string stands for a bundle from before the flag. -/
def deserializeItem (mapItem : Json) : Option ManageKeepAliveAppInfo :=
  match mapItem.getObjectItem BUNDLE_NAME, mapItem.getObjectItem DISALLOW_MODIFY, mapItem with
  | none, none, .str bundleName => some ⟨bundleName, true⟩
  | some (.str bundleName), some (.bool disallowModify), _ => some ⟨bundleName, disallowModify⟩
  | _, _, _ => none

/-- The items before the first one that is malformed, and whether there is none. -/
def deserializeItems : List Json → Bool × List ManageKeepAliveAppInfo
  | [] => (true, [])
  | mapItem :: items =>
    match deserializeItem mapItem with
    | none => (false, [])
    | some info =>
      let (ok, dataObj) := deserializeItems items
      (ok, info :: dataObj)

variable (C : CJson)

/-- The return value, and what is added to the out parameter. -/
def deserialize (policy : String) : Bool × List ManageKeepAliveAppInfo :=
  if policy = "" then (true, [])
  else
    match C.parse policy with
    | none => (false, [])
    | some root => deserializeItems root.children

def serializeItem (info : ManageKeepAliveAppInfo) : Json :=
  .obj [(BUNDLE_NAME, .str info.bundleName), (DISALLOW_MODIFY, .bool info.disallowModify)]

/-- The text that the out parameter has after the call. -/
def serialize (dataObj : List ManageKeepAliveAppInfo) (policy : String) : String :=
  if dataObj = [] then policy else C.print (.obj (dataObj.map fun info => ("", serializeItem info)))

/-- A `std::map` by bundle name, in which the second list overrides the first. -/
def setUnionPolicyData (data currentData : List ManageKeepAliveAppInfo) :
    List ManageKeepAliveAppInfo :=
  assignAll ManageKeepAliveAppInfo.bundleName currentData
    (assignAll ManageKeepAliveAppInfo.bundleName data [])

/-- The items of `currentData` that are not in `data`. -/
def setDifferencePolicyData (data currentData : List ManageKeepAliveAppInfo) :
    List ManageKeepAliveAppInfo :=
  setDifference (sort currentData) (sort data)

def setNeedRemoveMergePolicyData (mergeData data : List ManageKeepAliveAppInfo) :
    List ManageKeepAliveAppInfo :=
  data.filter fun item => !mergeData.any fun mergeItem => mergeItem.bundleName == item.bundleName

/-- The first item of each bundle. -/
def setIntersectionPolicyData (data : List String) (currentData : List ManageKeepAliveAppInfo) :
    List ManageKeepAliveAppInfo :=
  data.filterMap fun dataItem => currentData.find? fun item => item.bundleName == dataItem

/-- A `std::set` of the first item of each bundle. -/
def mergePolicy (data : List (List ManageKeepAliveAppInfo)) : List ManageKeepAliveAppInfo :=
  stdSet (firsts ManageKeepAliveAppInfo.bundleName data.flatten)

def updateByMergePolicy (data mergeData : List ManageKeepAliveAppInfo) :
    List ManageKeepAliveAppInfo :=
  data.map fun dataItem =>
    match mergeData.find? fun mergeItem => dataItem.bundleName == mergeItem.bundleName with
    | some mergeItem => { dataItem with disallowModify := mergeItem.disallowModify }
    | none => dataItem

/-! ### The text of a list -/

variable {C}

theorem numberFree_items (data : List ManageKeepAliveAppInfo) :
    (Json.obj (data.map fun info => ("", serializeItem info))).NumberFree := by
  simp only [Json.NumberFree, Json.numberFreeMembers_iff, List.mem_map]
  rintro member ⟨info, -, rfl⟩
  simp [serializeItem, Json.NumberFree, Json.NumberFreeMembers]

theorem serialize_ne_empty {data : List ManageKeepAliveAppInfo} (h : data ≠ []) (policy : String) :
    serialize C data policy ≠ "" := by
  rw [serialize, if_neg h]
  exact C.print_ne_empty (numberFree_items data)

theorem deserializeItem_serializeItem (info : ManageKeepAliveAppInfo) :
    deserializeItem (serializeItem info) = some info := by
  have hbundle : (serializeItem info).getObjectItem BUNDLE_NAME = some (.str info.bundleName) := by
    simp [serializeItem, Json.getObjectItem]
  have hflag : (serializeItem info).getObjectItem DISALLOW_MODIFY =
      some (.bool info.disallowModify) := by
    have hne : (BUNDLE_NAME.toList.map Char.toLower == DISALLOW_MODIFY.toList.map Char.toLower) =
      false := by decide
    simp [serializeItem, Json.getObjectItem, hne]
  unfold deserializeItem
  rw [hbundle, hflag]

theorem deserializeItems_map (data : List ManageKeepAliveAppInfo) :
    deserializeItems (data.map serializeItem) = (true, data) := by
  induction data with
  | nil => rfl
  | cons info data ih => rw [List.map_cons, deserializeItems, deserializeItem_serializeItem, ih]

/-- The text of a list is read back as the list. -/
theorem deserialize_serialize {data : List ManageKeepAliveAppInfo} (h : data ≠ [])
    (policy : String) : deserialize C (serialize C data policy) = (true, data) := by
  have hparse := C.parse_print _ (numberFree_items data)
  rw [deserialize, if_neg (serialize_ne_empty h policy), serialize, if_neg h, hparse]
  simp only [Json.children, List.map_map]
  exact deserializeItems_map data

@[simp] theorem deserialize_empty : deserialize C "" = (true, []) := rfl

/-! ### Bundles -/

/-- The bundles of a list. -/
abbrev bundles (data : List ManageKeepAliveAppInfo) : List String :=
  data.map ManageKeepAliveAppInfo.bundleName

theorem mem_bundles_setUnionPolicyData {data currentData : List ManageKeepAliveAppInfo}
    {x : String} : x ∈ bundles (setUnionPolicyData data currentData) ↔
      x ∈ bundles data ∨ x ∈ bundles currentData := by
  rw [bundles, setUnionPolicyData, mem_keys_assignAll, mem_keys_assignAll]
  simp [or_comm]

theorem nodup_bundles_setUnionPolicyData (data currentData : List ManageKeepAliveAppInfo) :
    (bundles (setUnionPolicyData data currentData)).Nodup :=
  (keysAscend_assignAll (keysAscend_assignAll keysAscend_nil)).nodup

theorem mem_bundles_mergePolicy {data : List (List ManageKeepAliveAppInfo)} {x : String} :
    x ∈ bundles (mergePolicy data) ↔ ∃ list ∈ data, x ∈ bundles list := by
  have hfirsts : x ∈ bundles (firsts ManageKeepAliveAppInfo.bundleName data.flatten) ↔
      x ∈ bundles data.flatten := mem_keys_firsts
  simp only [List.mem_map, List.mem_flatten] at hfirsts
  simp only [bundles, mergePolicy, List.mem_map, mem_stdSet, hfirsts]
  constructor
  · rintro ⟨info, ⟨list, hlist, hinfo⟩, rfl⟩
    exact ⟨list, hlist, info, hinfo, rfl⟩
  · rintro ⟨list, hlist, info, hinfo, rfl⟩
    exact ⟨info, ⟨list, hlist, hinfo⟩, rfl⟩

theorem nodup_bundles_mergePolicy (data : List (List ManageKeepAliveAppInfo)) :
    (bundles (mergePolicy data)).Nodup := by
  have hfirsts : (bundles (firsts ManageKeepAliveAppInfo.bundleName data.flatten)).Nodup :=
    nodup_keys_firsts data.flatten
  refine (nodup_stdSet _).map_on fun info hinfo info' hinfo' heq => ?_
  exact List.inj_on_of_nodup_map hfirsts (mem_stdSet.mp hinfo) (mem_stdSet.mp hinfo') heq

/-- The flags change, the bundles do not. -/
theorem bundles_updateByMergePolicy (data mergeData : List ManageKeepAliveAppInfo) :
    bundles (updateByMergePolicy data mergeData) = bundles data := by
  simp only [bundles, updateByMergePolicy, List.map_map]
  refine List.map_congr_left fun item _ => ?_
  dsimp only [Function.comp_apply]
  split <;> rfl

end ManageKeepAliveAppsSerializer

end Edm
