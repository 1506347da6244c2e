import Mathlib.Data.Prod.Lex
import Mathlib.Data.Set.Function
import Mathlib.Data.String.Basic
import Edm.Library.OrderedMap
import Edm.Library.SeparatedKey
import Edm.Library.SetAlgorithms
import Edm.Plugin.IntCJson

/-! Lists of application instances, as policy values.  An instance is a bundle of an account with an
index; the functions of the serializer tell instances apart by their fields, by all their fields with
the identifier of the application, or by a text made of the fields. -/

set_option autoImplicit false

namespace Edm

open Library

/-- Which instance of an application an `ApplicationInstance` names. -/
structure AppKey where
  bundleName : String
  accountId : Int32
  appIndex : Int32
  deriving DecidableEq

structure ApplicationInstance where
  appIdentifier : String
  bundleName : String
  accountId : Int32
  appIndex : Int32

/-- By identifier, bundle name, account and index. -/
instance : LinearOrder ApplicationInstance :=
  LinearOrder.lift' (fun item => toLex (item.appIdentifier, toLex (item.bundleName,
      toLex (item.accountId.toInt, item.appIndex.toInt)))) fun item item' h => by
    obtain ⟨appIdentifier, bundleName, accountId, appIndex⟩ := item
    obtain ⟨appIdentifier', bundleName', accountId', appIndex'⟩ := item'
    obtain ⟨rfl, h⟩ := Prod.mk.inj (toLex.injective h)
    obtain ⟨rfl, h⟩ := Prod.mk.inj (toLex.injective h)
    obtain ⟨haccount, hindex⟩ := Prod.mk.inj (toLex.injective h)
    obtain rfl := Int32.toInt.inj haccount
    obtain rfl := Int32.toInt.inj hindex
    rfl

def ApplicationInstance.key (item : ApplicationInstance) : AppKey :=
  ⟨item.bundleName, item.accountId, item.appIndex⟩

/-- The comparison of two instances by bundle name, account and index. -/
def ApplicationInstance.sameApp (item other : ApplicationInstance) : Bool :=
  item.bundleName == other.bundleName && item.accountId == other.accountId &&
    item.appIndex == other.appIndex

theorem ApplicationInstance.sameApp_iff {item other : ApplicationInstance} :
    item.sameApp other = true ↔ item.key = other.key := by
  simp [sameApp, key, and_assoc]

namespace ManageAppsSerializer

def BUNDLE_NAME : String := "bundleName"
def APP_IDENTIFIER : String := "appIdentifier"
def ACCOUNT_ID : String := "accountId"
def APP_INDEX : String := "appIndex"

/-- The text by which a union tells instances apart. -/
def mergeText (key : AppKey) : String :=
  key.bundleName ++ Int.repr key.accountId.toInt ++ Int.repr key.appIndex.toInt

def mergeKey (item : ApplicationInstance) : String := mergeText item.key

def makeKey (item : ApplicationInstance) : String :=
  item.bundleName ++ "_" ++ Int.repr item.accountId.toInt ++ "_" ++ Int.repr item.appIndex.toInt

variable (C : IntCJson)

def deserializeItem (mapItem : Json) : Option ApplicationInstance :=
  match mapItem with
  | .obj _ =>
    match mapItem.getObjectItem BUNDLE_NAME, mapItem.getObjectItem APP_IDENTIFIER,
      mapItem.getObjectItem ACCOUNT_ID, mapItem.getObjectItem APP_INDEX with
    | some (.str bundleName), some (.str appIdentifier), some (.number accountId),
        some (.number appIndex) =>
      some ⟨appIdentifier, bundleName, C.getNumberValue accountId, C.getNumberValue appIndex⟩
    | _, _, _, _ => none
  | _ => none

/-- The items before the first one that is malformed, and whether there is none. -/
def deserializeItems : List Json → Bool × List ApplicationInstance
  | [] => (true, [])
  | mapItem :: items =>
    match deserializeItem C mapItem with
    | none => (false, [])
    | some appInfo =>
      let (ok, dataObj) := deserializeItems items
      (ok, appInfo :: dataObj)

/-- The return value, and what is added to the out parameter. -/
def deserialize (policy : String) : Bool × List ApplicationInstance :=
  if policy = "" then (true, [])
  else
    match C.parse policy with
    | some (.arr items) => deserializeItems C items
    | _ => (false, [])

def serializeItem (item : ApplicationInstance) : Json :=
  .obj [(BUNDLE_NAME, .str item.bundleName), (APP_IDENTIFIER, .str item.appIdentifier),
    (ACCOUNT_ID, .number (C.createInt item.accountId)),
    (APP_INDEX, .number (C.createInt item.appIndex))]

/-- The text that the out parameter has after the call. -/
def serialize (dataObj : List ApplicationInstance) (policy : String) : String :=
  if dataObj = [] then policy else C.print (.arr (dataObj.map (serializeItem C)))

/-- A `std::map` by the text of an instance, in which the second list overrides the first. -/
def setUnionPolicyData (data currentData : List ApplicationInstance) : List ApplicationInstance :=
  assignAll mergeKey currentData (assignAll mergeKey data [])

/-- The items of `currentData` that are not in `data`. -/
def setDifferencePolicyData (data currentData : List ApplicationInstance) :
    List ApplicationInstance :=
  setDifference (sort currentData) (sort data)

def setNeedRemoveMergePolicyData (mergeData data : List ApplicationInstance) :
    List ApplicationInstance :=
  data.filter fun item => !mergeData.any fun mergeItem => mergeItem.sameApp item

/-- The first item of each instance. -/
def setIntersectionPolicyData (data currentData : List ApplicationInstance) :
    List ApplicationInstance :=
  data.filterMap fun dataItem => currentData.find? fun item => item.sameApp dataItem

/-- A `std::set` of the first item of each instance. -/
def mergePolicy (data : List (List ApplicationInstance)) : List ApplicationInstance :=
  stdSet (firsts makeKey data.flatten)

/-! ### The text of a list -/

section Text

variable {C}

theorem ints_items (data : List ApplicationInstance) :
    C.Ints (.arr (data.map (serializeItem C))) := by
  rw [IntCJson.Ints, Json.numbersIn_arr]
  intro item hitem
  obtain ⟨app, -, rfl⟩ := List.mem_map.mp hitem
  rw [serializeItem, Json.numbersIn_obj]
  simp [Json.NumbersIn]

theorem serialize_ne_empty {data : List ApplicationInstance} (h : data ≠ []) (policy : String) :
    serialize C data policy ≠ "" := by
  rw [serialize, if_neg h]
  exact C.print_ne_empty_ints (ints_items data)

theorem deserializeItem_serializeItem (item : ApplicationInstance) :
    deserializeItem C (serializeItem C item) = some item := by
  have hmember : ∀ {name value}, (name, value) ∈ [(BUNDLE_NAME, Json.str item.bundleName),
      (APP_IDENTIFIER, .str item.appIdentifier), (ACCOUNT_ID, .number (C.createInt item.accountId)),
      (APP_INDEX, .number (C.createInt item.appIndex))] →
        (serializeItem C item).getObjectItem name = some value :=
    Json.getObjectItem_of_mem (by simp only [List.map_cons, List.map_nil]; decide)
  have hbundle := @hmember BUNDLE_NAME _ (.head _)
  have hidentifier := @hmember APP_IDENTIFIER _ (.tail _ (.head _))
  have haccount := @hmember ACCOUNT_ID _ (.tail _ (.tail _ (.head _)))
  have hindex := @hmember APP_INDEX _ (.tail _ (.tail _ (.tail _ (.head _))))
  unfold deserializeItem
  rw [hbundle, hidentifier, haccount, hindex]
  simp only [C.getNumberValue_createInt, serializeItem]

theorem deserializeItems_map (data : List ApplicationInstance) :
    deserializeItems C (data.map (serializeItem C)) = (true, data) := by
  induction data with
  | nil => rfl
  | cons item data ih => rw [List.map_cons, deserializeItems, deserializeItem_serializeItem, ih]

@[simp] theorem deserialize_empty : deserialize C "" = (true, []) := rfl

/-- The text of a list is read back as the list. -/
theorem deserialize_serialize (data : List ApplicationInstance) :
    deserialize C (serialize C data "") = (true, data) := by
  by_cases h : data = []
  · subst h
    rfl
  · have hparse := C.parse_print_ints _ (ints_items data)
    rw [deserialize, if_neg (serialize_ne_empty h ""), serialize, if_neg h, hparse]
    exact deserializeItems_map data

theorem serialize_injective {data data' : List ApplicationInstance}
    (h : serialize C data "" = serialize C data' "") : data = data' := by
  have hread := deserialize_serialize (C := C) data
  rw [h, deserialize_serialize] at hread
  exact (Prod.mk.inj hread).2.symm

end Text

/-! ### The instances of a list -/

section Keys

/-- The instances that a list names. -/
abbrev apps (data : List ApplicationInstance) : List AppKey := data.map ApplicationInstance.key

variable {data currentData : List ApplicationInstance} {x : AppKey}

theorem makeKey_eq_iff {item other : ApplicationInstance} :
    makeKey item = makeKey other ↔ item.key = other.key := by
  obtain ⟨appIdentifier, bundleName, accountId, appIndex⟩ := item
  obtain ⟨appIdentifier', bundleName', accountId', appIndex'⟩ := other
  have hnone : ∀ n : Int, '_' ∉ (Int.repr n).toList := notMem_intRepr (by decide) (by decide)
  simp only [makeKey, ApplicationInstance.key, AppKey.mk.injEq]
  rw [append_separator_inj rfl (hnone _) (hnone _), append_separator_inj rfl (hnone _) (hnone _),
    Int.repr_inj, Int.repr_inj, and_assoc]
  exact and_congr_right fun _ => and_congr Int32.toInt_inj Int32.toInt_inj

theorem mem_apps_sort : x ∈ apps (sort data) ↔ x ∈ apps data := by
  simp only [List.mem_map, mem_sort]

/-- A union holds items of both lists only. -/
theorem mem_of_mem_setUnionPolicyData {item : ApplicationInstance}
    (h : item ∈ setUnionPolicyData data currentData) : item ∈ data ∨ item ∈ currentData := by
  rcases mem_of_mem_assignAll h with hcurrent | hmem
  · exact .inr hcurrent
  · rcases mem_of_mem_assignAll hmem with hdata | hnil
    · exact .inl hdata
    · exact absurd hnil List.not_mem_nil

/-- The union of lists whose instances have different texts. -/
theorem mem_apps_setUnionPolicyData
    (hinj : Set.InjOn mergeText {x | x ∈ apps data ∨ x ∈ apps currentData}) :
    x ∈ apps (setUnionPolicyData data currentData) ↔ x ∈ apps data ∨ x ∈ apps currentData := by
  have hsound : ∀ item, item ∈ setUnionPolicyData data currentData →
      item.key ∈ apps data ∨ item.key ∈ apps currentData := fun item hitem =>
    (mem_of_mem_setUnionPolicyData hitem).imp List.mem_map_of_mem List.mem_map_of_mem
  constructor
  · intro hx
    obtain ⟨item, hitem, rfl⟩ := List.mem_map.mp hx
    exact hsound item hitem
  · intro hx
    -- Some item of the union has the text of `x`, and so is an item for `x`.
    have htext : mergeText x ∈ (setUnionPolicyData data currentData).map mergeKey := by
      rw [setUnionPolicyData, mem_keys_assignAll, mem_keys_assignAll]
      rcases hx with hx | hx <;> obtain ⟨item, hitem, rfl⟩ := List.mem_map.mp hx
      · exact .inr (.inl (List.mem_map_of_mem (f := mergeKey) hitem))
      · exact .inl (List.mem_map_of_mem (f := mergeKey) hitem)
    obtain ⟨item, hitem, heq⟩ := List.mem_map.mp htext
    rw [← hinj (hsound item hitem) hx heq]
    exact List.mem_map_of_mem hitem

theorem setUnionPolicyData_ne_nil (h : data ≠ [] ∨ currentData ≠ []) :
    setUnionPolicyData data currentData ≠ [] := by
  have htext : ∃ k, k ∈ (setUnionPolicyData data currentData).map mergeKey := by
    rcases h with h | h <;> obtain ⟨item, hitem⟩ := List.exists_mem_of_ne_nil _ h <;>
      refine ⟨mergeKey item, ?_⟩ <;>
      rw [setUnionPolicyData, mem_keys_assignAll, mem_keys_assignAll]
    · exact .inr (.inl (List.mem_map_of_mem hitem))
    · exact .inl (List.mem_map_of_mem hitem)
  rintro hnil
  rw [hnil] at htext
  obtain ⟨k, hk⟩ := htext
  exact List.not_mem_nil hk

theorem nodup_apps_setUnionPolicyData (data currentData : List ApplicationInstance) :
    (apps (setUnionPolicyData data currentData)).Nodup := by
  have htexts : ((setUnionPolicyData data currentData).map mergeKey).Nodup :=
    (keysAscend_assignAll (keysAscend_assignAll keysAscend_nil)).nodup
  refine List.Nodup.of_map mergeText ?_
  rw [List.map_map]
  exact htexts

theorem mem_apps_setNeedRemoveMergePolicyData {mergeData : List ApplicationInstance} :
    x ∈ apps (setNeedRemoveMergePolicyData mergeData data) ↔
      x ∈ apps data ∧ x ∉ apps mergeData := by
  have hany : ∀ item : ApplicationInstance,
      (mergeData.any fun mergeItem => mergeItem.sameApp item) = true ↔
        item.key ∈ apps mergeData := by
    intro item
    simp only [List.any_eq_true, ApplicationInstance.sameApp_iff, List.mem_map]
  simp only [apps, List.mem_map, setNeedRemoveMergePolicyData, List.mem_filter]
  constructor
  · rintro ⟨item, ⟨hitem, hnone⟩, rfl⟩
    refine ⟨⟨item, hitem, rfl⟩, fun hmem => ?_⟩
    rw [(hany item).mpr (List.mem_map.mpr hmem)] at hnone
    cases hnone
  · rintro ⟨⟨item, hitem, rfl⟩, hnone⟩
    refine ⟨item, ⟨hitem, ?_⟩, rfl⟩
    rw [Bool.eq_false_iff.mpr fun htrue => hnone (List.mem_map.mp ((hany item).mp htrue))]
    rfl

theorem nodup_apps_setNeedRemoveMergePolicyData (mergeData : List ApplicationInstance)
    (h : (apps data).Nodup) : (apps (setNeedRemoveMergePolicyData mergeData data)).Nodup :=
  h.sublist (List.filter_sublist.map ApplicationInstance.key)

theorem mem_of_mem_setIntersectionPolicyData {item : ApplicationInstance}
    (h : item ∈ setIntersectionPolicyData data currentData) : item ∈ currentData := by
  obtain ⟨dataItem, -, hfind⟩ := List.mem_filterMap.mp h
  exact List.mem_of_find?_eq_some hfind

theorem mem_apps_setIntersectionPolicyData :
    x ∈ apps (setIntersectionPolicyData data currentData) ↔ x ∈ apps data ∧ x ∈ apps currentData := by
  constructor
  · intro hx
    obtain ⟨item, hitem, rfl⟩ := List.mem_map.mp hx
    obtain ⟨dataItem, hdata, hfind⟩ := List.mem_filterMap.mp hitem
    have hsame := ApplicationInstance.sameApp_iff.mp
      (List.find?_some (p := fun item : ApplicationInstance => item.sameApp dataItem) hfind)
    refine ⟨?_, List.mem_map_of_mem (List.mem_of_find?_eq_some hfind)⟩
    rw [hsame]
    exact List.mem_map_of_mem hdata
  · rintro ⟨hdata, hcurrent⟩
    obtain ⟨dataItem, hdataItem, rfl⟩ := List.mem_map.mp hdata
    obtain ⟨item, hitem, heq⟩ := List.mem_map.mp hcurrent
    have hsome : (currentData.find? fun item => item.sameApp dataItem).isSome = true := by
      rw [List.find?_isSome]
      exact ⟨item, hitem, ApplicationInstance.sameApp_iff.mpr heq⟩
    obtain ⟨found, hfind⟩ := Option.isSome_iff_exists.mp hsome
    have hsame := ApplicationInstance.sameApp_iff.mp
      (List.find?_some (p := fun item : ApplicationInstance => item.sameApp dataItem) hfind)
    rw [← hsame]
    exact List.mem_map_of_mem (List.mem_filterMap.mpr ⟨dataItem, hdataItem, hfind⟩)

theorem mem_apps_of_mem_setDifferencePolicyData
    (h : x ∈ apps (setDifferencePolicyData data currentData)) : x ∈ apps currentData := by
  obtain ⟨item, hitem, rfl⟩ := List.mem_map.mp h
  have hpos := List.count_pos_iff.mpr hitem
  rw [setDifferencePolicyData, count_setDifference _ _ (sorted_sort _) (sorted_sort _), count_sort,
    count_sort] at hpos
  exact List.mem_map_of_mem (List.count_pos_iff.mp (by omega))

/-- The items of a list that are new, and the old ones, name all instances of the list. -/
theorem mem_apps_setDifferencePolicyData_or :
    x ∈ apps (setDifferencePolicyData data currentData) ∨ x ∈ apps data ↔
      x ∈ apps currentData ∨ x ∈ apps data := by
  have hcount := count_setDifference (sort currentData) (sort data) (sorted_sort _) (sorted_sort _)
  simp only [count_sort] at hcount
  constructor
  · exact Or.imp_left mem_apps_of_mem_setDifferencePolicyData
  · rintro (hx | hx)
    · obtain ⟨item, hitem, rfl⟩ := List.mem_map.mp hx
      by_cases hdata : item ∈ data
      · exact .inr (List.mem_map_of_mem hdata)
      · refine .inl (List.mem_map_of_mem (List.count_pos_iff.mp ?_))
        have hpos := List.count_pos_iff.mpr hitem
        rw [setDifferencePolicyData, hcount, List.count_eq_zero.mpr hdata]
        omega
    · exact .inr hx

/-- A list without some of its items. -/
theorem mem_apps_setDifferencePolicyData (hnodup : (apps currentData).Nodup)
    (hsub : ∀ item, item ∈ data → item ∈ currentData) :
    x ∈ apps (setDifferencePolicyData data currentData) ↔ x ∈ apps currentData ∧ x ∉ apps data := by
  have hitems : currentData.Nodup := hnodup.of_map _
  have hmem : ∀ item, item ∈ setDifferencePolicyData data currentData ↔
      item ∈ currentData ∧ item ∉ data := by
    intro item
    rw [setDifferencePolicyData, mem_setDifference (sorted_sort _) (sorted_sort _)
      (nodup_sort.mpr hitems), mem_sort, mem_sort]
  constructor
  · intro hx
    obtain ⟨item, hitem, rfl⟩ := List.mem_map.mp hx
    obtain ⟨hcurrent, hdata⟩ := (hmem item).mp hitem
    refine ⟨List.mem_map_of_mem hcurrent, fun hx => ?_⟩
    obtain ⟨other, hother, heq⟩ := List.mem_map.mp hx
    rw [List.inj_on_of_nodup_map hnodup (hsub other hother) hcurrent heq] at hother
    exact hdata hother
  · rintro ⟨hx, hdata⟩
    obtain ⟨item, hitem, rfl⟩ := List.mem_map.mp hx
    exact List.mem_map_of_mem ((hmem item).mpr ⟨hitem, fun h => hdata (List.mem_map_of_mem h)⟩)

theorem nodup_apps_setDifferencePolicyData (hnodup : (apps currentData).Nodup) :
    (apps (setDifferencePolicyData data currentData)).Nodup := by
  have hitems : currentData.Nodup := hnodup.of_map _
  have hdifference := nodup_setDifference (sorted_sort currentData) (sorted_sort data)
    (nodup_sort.mpr hitems)
  refine hdifference.map_on fun item hitem other hother heq => ?_
  have hmem : ∀ item, item ∈ setDifferencePolicyData data currentData → item ∈ currentData := by
    intro item hitem
    rw [setDifferencePolicyData, mem_setDifference (sorted_sort _) (sorted_sort _)
      (nodup_sort.mpr hitems), mem_sort] at hitem
    exact hitem.1
  exact List.inj_on_of_nodup_map hnodup (hmem item hitem) (hmem other hother) heq

theorem mem_apps_mergePolicy {lists : List (List ApplicationInstance)} :
    x ∈ apps (mergePolicy lists) ↔ ∃ list ∈ lists, x ∈ apps list := by
  have hsub : ∀ item, item ∈ firsts makeKey lists.flatten → item ∈ lists.flatten :=
    fun item => mem_of_mem_firsts
  constructor
  · intro hx
    obtain ⟨item, hitem, rfl⟩ := List.mem_map.mp hx
    obtain ⟨list, hlist, hmem⟩ := List.mem_flatten.mp (hsub item (mem_stdSet.mp hitem))
    exact ⟨list, hlist, List.mem_map_of_mem hmem⟩
  · rintro ⟨list, hlist, hx⟩
    obtain ⟨item, hitem, rfl⟩ := List.mem_map.mp hx
    have hkey : makeKey item ∈ (firsts makeKey lists.flatten).map makeKey :=
      mem_keys_firsts.mpr (List.mem_map_of_mem (List.mem_flatten.mpr ⟨list, hlist, hitem⟩))
    obtain ⟨first, hfirst, heq⟩ := List.mem_map.mp hkey
    rw [← makeKey_eq_iff.mp heq]
    exact List.mem_map_of_mem (mem_stdSet.mpr hfirst)

theorem nodup_apps_mergePolicy (lists : List (List ApplicationInstance)) :
    (apps (mergePolicy lists)).Nodup := by
  refine (nodup_stdSet _).map_on fun item hitem other hother heq => ?_
  exact List.inj_on_of_nodup_map (nodup_keys_firsts lists.flatten) (mem_stdSet.mp hitem)
    (mem_stdSet.mp hother) (makeKey_eq_iff.mpr heq)

end Keys

end ManageAppsSerializer

end Edm
