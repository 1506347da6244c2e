import Mathlib.Data.String.Basic
import Edm.Library.SetAlgorithms
import Edm.Plugin.CJson
import Edm.Plugin.Template

/-! Lists of strings as policy values: a JSON array of strings, and the empty text for the empty
list. -/

set_option autoImplicit false

namespace Edm

open Library

namespace ArrayStringSerializer

variable (C : CJson)

/-- Items that are not strings are skipped. -/
def deserialize (jsonString : String) : Option (List String) :=
  if jsonString = "" then some []
  else
    match C.parse jsonString with
    | some (.arr items) => some (items.filterMap fun
        | .str value => some value
        | _ => none)
    | _ => none

def serialize (dataObj : List String) : String :=
  if dataObj = [] then "" else C.printUnformatted (.arr (dataObj.map Json.str))

/-- A `std::set` of all items. -/
def mergePolicy (data : List (List String)) : List String := stdSet data.flatten

def setUnionPolicyData (data currentData : List String) : List String :=
  setUnion (sort data) (sort currentData)

/-- The items of `currentData` that are not in `data`. -/
def setDifferencePolicyData (data currentData : List String) : List String :=
  setDifference (sort currentData) (sort data)

def setIntersectionPolicyData (data currentData : List String) : List String :=
  setIntersection (sort data) (sort currentData)

/-- What `GetPolicy` makes of the list of a request. -/
def getPolicy (result : List String) : List String := unique (sort result)

/-- The serializer.  Allocation does not fail. -/
def serializer : PolicySerializer (List String) where
  initial := []
  serialize data := some (serialize C data)
  deserialize := deserialize C
  mergePolicy data := some (mergePolicy data)

/-! ### The text of a list -/

variable {C}

@[simp] theorem serialize_nil : serialize C [] = "" := rfl

theorem numberFree_strings (data : List String) : (Json.arr (data.map Json.str)).NumberFree := by
  simp only [Json.NumberFree, Json.numberFreeItems_iff, List.mem_map]
  rintro item ⟨value, -, rfl⟩
  trivial

theorem serialize_ne_empty {data : List String} (h : data ≠ []) : serialize C data ≠ "" := by
  rw [serialize, if_neg h]
  exact C.printUnformatted_ne_empty (numberFree_strings data)

theorem serialize_eq_empty {data : List String} : serialize C data = "" ↔ data = [] := by
  constructor
  · intro h
    by_contra hne
    exact serialize_ne_empty hne h
  · rintro rfl
    rfl

theorem deserialize_serialize (data : List String) :
    deserialize C (serialize C data) = some data := by
  by_cases h : data = []
  · subst h
    rfl
  · have hparse := C.parse_printUnformatted _ (numberFree_strings data)
    rw [deserialize, if_neg (serialize_ne_empty h), serialize, if_neg h, hparse]
    simp [List.filterMap_map]

theorem serialize_injective {data data' : List String} (h : serialize C data = serialize C data') :
    data = data' := by
  have hdata := deserialize_serialize (C := C) data
  rw [h, deserialize_serialize] at hdata
  exact (Option.some.inj hdata).symm

theorem deserializeNonempty_serialize (data : List String) :
    IPluginTemplate.deserializeNonempty (serializer C) (serialize C data) = some data := by
  unfold IPluginTemplate.deserializeNonempty
  split
  · rename_i h
    rw [serialize_eq_empty.mp h]
    rfl
  · exact deserialize_serialize data

/-! ### Set operations -/

section Sets

variable {data currentData : List String}

@[simp] theorem mem_setUnionPolicyData {x : String} :
    x ∈ setUnionPolicyData data currentData ↔ x ∈ data ∨ x ∈ currentData := by
  simp [setUnionPolicyData, mem_setUnion (sorted_sort _) (sorted_sort _)]

theorem nodup_setUnionPolicyData (h : data.Nodup) (h' : currentData.Nodup) :
    (setUnionPolicyData data currentData).Nodup :=
  nodup_setUnion (sorted_sort _) (sorted_sort _) (nodup_sort.mpr h) (nodup_sort.mpr h')

theorem mem_setDifferencePolicyData (h : currentData.Nodup) {x : String} :
    x ∈ setDifferencePolicyData data currentData ↔ x ∈ currentData ∧ x ∉ data := by
  simp [setDifferencePolicyData,
    mem_setDifference (sorted_sort _) (sorted_sort _) (nodup_sort.mpr h)]

theorem nodup_setDifferencePolicyData (h : currentData.Nodup) :
    (setDifferencePolicyData data currentData).Nodup :=
  nodup_setDifference (sorted_sort _) (sorted_sort _) (nodup_sort.mpr h)

@[simp] theorem mem_setIntersectionPolicyData {x : String} :
    x ∈ setIntersectionPolicyData data currentData ↔ x ∈ data ∧ x ∈ currentData := by
  simp [setIntersectionPolicyData, mem_setIntersection (sorted_sort _) (sorted_sort _)]

theorem nodup_setIntersectionPolicyData (h : data.Nodup) :
    (setIntersectionPolicyData data currentData).Nodup :=
  nodup_setIntersection (sorted_sort _) (sorted_sort _) (nodup_sort.mpr h)

theorem nodup_getPolicy (result : List String) : (getPolicy result).Nodup :=
  nodup_unique (sorted_sort result)

end Sets

end ArrayStringSerializer

end Edm
