import Mathlib.Data.Prod.Lex
import Edm.Plugin.ArrayIntSerializer
import Edm.Plugin.Values

/-! `ArrayUsbDeviceTypeSerializerBase`: lists of types of USB devices as policy values, for types of
interfaces and for types of devices. -/

set_option autoImplicit false

namespace Edm

open Library

/-- `UsbDeviceType` of the USB service, which orders the types by their fields. -/
structure UsbDeviceType where
  baseClass : Int32
  subClass : Int32
  protocol : Int32
  isDeviceType : Bool
  isDeviceTypeAllMatch : Bool
  deriving DecidableEq

instance : LinearOrder UsbDeviceType :=
  LinearOrder.lift' (fun t => toLex (t.baseClass, toLex (t.subClass, toLex (t.protocol,
    toLex (t.isDeviceType, t.isDeviceTypeAllMatch))))) fun t t' h => by
      obtain ⟨baseClass, subClass, protocol, isDeviceType, allMatch⟩ := t
      obtain ⟨rfl, h⟩ := Prod.mk.inj (toLex.injective h)
      obtain ⟨rfl, h⟩ := Prod.mk.inj (toLex.injective h)
      obtain ⟨rfl, h⟩ := Prod.mk.inj (toLex.injective h)
      obtain ⟨rfl, rfl⟩ := Prod.mk.inj (toLex.injective h)
      rfl

namespace ArrayUsbDeviceTypeSerializer

def BASE_CLASS : String := "baseClass"
def SUB_CLASS : String := "subClass"
def PROTOCOL : String := "protocol"
def IS_DEVICE_TYPE : String := "isDeviceType"
def IS_DEVICE_TYPE_ALL_MATCH : String := "isDeviceTypeAllMatch"
def DEVICE_TYPE_MAX_VALUE : Int32 := 255

variable (C : ArrayCJson)

def deserializeItem (item : Json) : Option UsbDeviceType :=
  match item.getObjectItem BASE_CLASS, item.getObjectItem SUB_CLASS, item.getObjectItem PROTOCOL,
    item.getObjectItem IS_DEVICE_TYPE, item.getObjectItem IS_DEVICE_TYPE_ALL_MATCH with
  | some (.number baseClass), some (.number subClass), some (.number protocol),
    some (.bool isDeviceType), none =>
    some ⟨C.getNumberValue baseClass, C.getNumberValue subClass, C.getNumberValue protocol,
      isDeviceType, false⟩
  | some (.number baseClass), some (.number subClass), some (.number protocol),
    some (.bool isDeviceType), some (.bool isDeviceTypeAllMatch) =>
    some ⟨C.getNumberValue baseClass, C.getNumberValue subClass, C.getNumberValue protocol,
      isDeviceType, isDeviceTypeAllMatch⟩
  | _, _, _, _, _ => none

def deserialize (jsonString : String) : Option (List UsbDeviceType) :=
  if jsonString = "" then some []
  else
    match C.parse jsonString with
    | none => none
    | some root => root.children.mapM (deserializeItem C)

def serializeItem (it : UsbDeviceType) : Json :=
  .obj [(BASE_CLASS, .number (C.createInt it.baseClass)),
    (SUB_CLASS, .number (C.createInt it.subClass)),
    (PROTOCOL, .number (C.createInt it.protocol)),
    (IS_DEVICE_TYPE, .bool it.isDeviceType),
    (IS_DEVICE_TYPE_ALL_MATCH, .bool it.isDeviceTypeAllMatch)]

/-- The out parameter is empty before the call, and stays so for the empty list. -/
def serialize (maxSize : Nat) (dataObj : List UsbDeviceType) : Option String :=
  if dataObj = [] then some ""
  else if dataObj.length > maxSize then none
  else some (C.print (.arr (dataObj.map (serializeItem C))))

/-- What `GetPolicy` makes of the types of a message. -/
def getPolicy (deviceTypeMinValue : Int32) (maxSize : Nat) (data : List UsbDeviceType) :
    Option (List UsbDeviceType) :=
  let valid (it : UsbDeviceType) : Bool :=
    0 ≤ it.baseClass && it.baseClass ≤ DEVICE_TYPE_MAX_VALUE &&
      deviceTypeMinValue ≤ it.subClass && it.subClass ≤ DEVICE_TYPE_MAX_VALUE &&
      deviceTypeMinValue ≤ it.protocol && it.protocol ≤ DEVICE_TYPE_MAX_VALUE
  if data.length > maxSize then none else if data.all valid then some data else none

def setUnionPolicyData (data currentData : List UsbDeviceType) : List UsbDeviceType :=
  setUnion (sort data) (sort currentData)

/-- The types of `currentData` that are not in `data`. -/
def setDifferencePolicyData (data currentData : List UsbDeviceType) : List UsbDeviceType :=
  setDifference (sort currentData) (sort data)

def mergePolicy (data : List (List UsbDeviceType)) : List UsbDeviceType := stdSet data.flatten

def serializer (maxSize : Nat) : PolicySerializer (List UsbDeviceType) where
  initial := []
  serialize := serialize C maxSize
  deserialize := deserialize C
  mergePolicy data := some (mergePolicy data)

variable {C} {maxSize : Nat} {data : List UsbDeviceType}

theorem ints_items (data : List UsbDeviceType) : C.Ints (.arr (data.map (serializeItem C))) := by
  rw [IntCJson.Ints, Json.numbersIn_arr]
  intro item hitem
  obtain ⟨it, -, rfl⟩ := List.mem_map.mp hitem
  rw [serializeItem, Json.numbersIn_obj]
  simp only [List.mem_cons, List.not_mem_nil, or_false]
  rintro member (rfl | rfl | rfl | rfl | rfl)
  · exact C.ints_createInt _
  · exact C.ints_createInt _
  · exact C.ints_createInt _
  · trivial
  · trivial

theorem deserialize_empty : deserialize C "" = some [] := if_pos rfl

theorem serialize_nil : serialize C maxSize [] = some "" := if_pos rfl

theorem serialize_some (h : data.length ≤ maxSize) :
    ∃ text, serialize C maxSize data = some text := by
  rw [serialize]
  split
  · exact ⟨_, rfl⟩
  · rw [if_neg (Nat.not_lt.mpr h)]
    exact ⟨_, rfl⟩

theorem deserializeItem_serializeItem (it : UsbDeviceType) :
    deserializeItem C (serializeItem C it) = some it := by
  have hmember : ∀ {name value}, (name, value) ∈ [
      (BASE_CLASS, Json.number (C.createInt it.baseClass)),
      (SUB_CLASS, .number (C.createInt it.subClass)),
      (PROTOCOL, .number (C.createInt it.protocol)),
      (IS_DEVICE_TYPE, .bool it.isDeviceType),
      (IS_DEVICE_TYPE_ALL_MATCH, .bool it.isDeviceTypeAllMatch)] →
        (serializeItem C it).getObjectItem name = some value :=
    Json.getObjectItem_of_mem (by simp only [List.map_cons, List.map_nil]; decide)
  have hbase := @hmember BASE_CLASS _ (.head _)
  have hsub := @hmember SUB_CLASS _ (.tail _ (.head _))
  have hprotocol := @hmember PROTOCOL _ (.tail _ (.tail _ (.head _)))
  have htype := @hmember IS_DEVICE_TYPE _ (.tail _ (.tail _ (.tail _ (.head _))))
  have hmatch := @hmember IS_DEVICE_TYPE_ALL_MATCH _
    (.tail _ (.tail _ (.tail _ (.tail _ (.head _)))))
  unfold deserializeItem
  rw [hbase, hsub, hprotocol, htype, hmatch]
  dsimp only
  rw [C.getNumberValue_createInt, C.getNumberValue_createInt, C.getNumberValue_createInt]

/-- The text of a list is read back as the list. -/
theorem deserialize_serialize {text : String} (h : serialize C maxSize data = some text) :
    deserialize C text = some data := by
  rw [serialize] at h
  split at h
  · rename_i hnil
    cases h
    rw [hnil]
    exact deserialize_empty
  · split at h
    · cases h
    · cases h
      have hread : (data.map (serializeItem C)).mapM (deserializeItem C) = some data := by
        rw [List.mapM_map]
        have hitems : data.mapM (fun it => deserializeItem C (serializeItem C it)) =
            some (data.map id) := mapM_some fun it _ => deserializeItem_serializeItem it
        rwa [List.map_id] at hitems
      rw [deserialize, if_neg (C.print_ne_empty_ints (ints_items data)),
        C.parse_print_ints _ (ints_items data)]
      exact hread

/-- Only the empty list has the empty text. -/
theorem serialize_eq_empty (h : serialize C maxSize data = some "") : data = [] :=
  (Option.some.inj (deserialize_empty.symm.trans (deserialize_serialize h))).symm

section Sets

variable {others : List UsbDeviceType} {t : UsbDeviceType}

theorem mem_setUnionPolicyData : t ∈ setUnionPolicyData data others ↔ t ∈ data ∨ t ∈ others := by
  rw [setUnionPolicyData, mem_setUnion (sorted_sort _) (sorted_sort _), mem_sort, mem_sort]

theorem mem_mergePolicy {lists : List (List UsbDeviceType)} :
    t ∈ mergePolicy lists ↔ ∃ l, l ∈ lists ∧ t ∈ l := by
  rw [mergePolicy, mem_stdSet, List.mem_flatten]

end Sets

end ArrayUsbDeviceTypeSerializer

end Edm
