import Edm.Library.OrderedMap
import Edm.Plugin.CJson
import Edm.Plugin.Template
import Edm.Plugin.Values

/-! Maps from strings to strings as policy values, written as JSON objects. -/

set_option autoImplicit false

namespace Edm

open Library

/-- `std::map<std::string, std::string>`. -/
abbrev MapString := List (String × String)

namespace MapStringSerializer

variable (C : CJson)

/-- A member of the object, if it is a string. -/
def deserializeMember (member : String × Json) : Option (String × String) :=
  match member.2 with
  | .str valuestring => some (member.1, valuestring)
  | _ => none

def deserialize (jsonString : String) : Option MapString :=
  if jsonString = "" then some []
  else
    match C.parse jsonString with
    | some (.obj members) =>
      (members.mapM deserializeMember).map fun items => insertAll Prod.fst items []
    | _ => none

/-- The empty map is written as an empty object. -/
def serialize (dataObj : MapString) : String :=
  C.print (.obj (dataObj.map fun item => (item.1, .str item.2)))

/-- A request as the parcel has it. -/
structure Parcel where
  keys : Option (List String)
  values : Option (List String)

def getPolicy (data : Parcel) : Option MapString := do
  let keys ← data.keys
  let values ← data.values
  if keys.length != values.length then none
  else pure (insertAll Prod.fst (keys.zip values) [])

/-- The last map is the result. -/
def mergePolicy (data : List MapString) : MapString := data.getLast?.getD []

def serializer : PolicySerializer MapString where
  initial := []
  serialize dataObj := some (serialize C dataObj)
  deserialize := deserialize C
  mergePolicy data := some (mergePolicy data)

/-! ### The text of a map -/

variable {C}

theorem numberFree_members (data : MapString) :
    (Json.obj (data.map fun item => (item.1, .str item.2))).NumberFree := by
  rw [Json.NumberFree, Json.numberFreeMembers_iff]
  intro member hmember
  obtain ⟨item, -, rfl⟩ := List.mem_map.mp hmember
  trivial

theorem serialize_ne_empty (data : MapString) : serialize C data ≠ "" :=
  C.print_ne_empty (numberFree_members data)

theorem deserialize_empty : deserialize C "" = some [] := if_pos rfl

theorem deserialize_serialize {data : MapString} (h : KeysAscend Prod.fst data) :
    deserialize C (serialize C data) = some data := by
  have hitems : (data.map fun item => (item.1, Json.str item.2)).mapM deserializeMember =
      some data := by
    rw [List.mapM_map]
    have hread : data.mapM (fun item => deserializeMember (item.1, .str item.2)) =
        some (data.map id) := mapM_some fun item _ => rfl
    rwa [List.map_id] at hread
  rw [deserialize, if_neg (serialize_ne_empty data), serialize,
    C.parse_print _ (numberFree_members data)]
  show ((data.map fun item => (item.1, Json.str item.2)).mapM deserializeMember).map _ = _
  rw [hitems, Option.map_some, insertAll_append h]
  rfl

end MapStringSerializer

end Edm
