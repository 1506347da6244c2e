import Edm.Library.OrderedMap
import Edm.Plugin.IntCJson
import Edm.Plugin.Values

/-! The names of the policies that an admin manages for each browser, as policy values. -/

set_option autoImplicit false

namespace Edm

open Library

structure ManagedBrowserPolicyType where
  policyNames : List String
  version : UInt16
  deriving DecidableEq

/-- A map from bundle names. -/
abbrev ManagedBrowserPolicies := List (String × ManagedBrowserPolicyType)

namespace ManagedBrowserPolicySerializer

def VERSION : String := "version"
def POLICY_NAMES : String := "policyNames"

variable (C : ArrayCJson)

def stringItem : Json → Option String
  | .str policyValue => some policyValue
  | _ => none

def deserializeItem (mapItem : String × Json) : Option (String × ManagedBrowserPolicyType) :=
  match mapItem.2.getObjectItem VERSION, mapItem.2.getObjectItem POLICY_NAMES with
  | some (.number version), some (.arr policyNames) =>
    (policyNames.mapM stringItem).map fun policyVector =>
      (mapItem.1, ⟨policyVector, UInt16.ofInt (C.valueint version)⟩)
  | _, _ => none

/-- The tree of a text that was written is an object. -/
def deserialize (policy : String) : Option ManagedBrowserPolicies :=
  if policy = "" then some []
  else
    match C.parse policy with
    | none => none
    | some (.obj members) =>
      (members.mapM (deserializeItem C)).map fun items => assignAll Prod.fst items []
    | some _ => some []

def serializeItem (mapIt : String × ManagedBrowserPolicyType) : String × Json :=
  (mapIt.1, .obj [(VERSION, .number (C.createInt (Int32.ofNat mapIt.2.version.toNat))),
    (POLICY_NAMES, .arr (mapIt.2.policyNames.map Json.str))])

def serialize (dataObj : ManagedBrowserPolicies) : String :=
  C.print (.obj (dataObj.map (serializeItem C)))

/-! ### The text of a map -/

section Text

variable {C}

theorem ints_members (data : ManagedBrowserPolicies) :
    C.Ints (.obj (data.map (serializeItem C))) := by
  rw [IntCJson.Ints, Json.numbersIn_obj]
  intro member hmember
  obtain ⟨item, -, rfl⟩ := List.mem_map.mp hmember
  have hnames : C.Ints (.arr (item.2.policyNames.map Json.str)) := by
    rw [IntCJson.Ints, Json.numbersIn_arr]
    intro name hname
    obtain ⟨text, -, rfl⟩ := List.mem_map.mp hname
    trivial
  show Json.NumbersIn _ (.obj _)
  rw [Json.numbersIn_obj]
  intro member hmember
  simp only [List.mem_cons, List.not_mem_nil, or_false] at hmember
  rcases hmember with rfl | rfl
  · exact C.ints_createInt _
  · exact hnames

theorem serialize_ne_empty (data : ManagedBrowserPolicies) : serialize C data ≠ "" :=
  C.print_ne_empty_ints (ints_members data)

theorem deserialize_empty : deserialize C "" = some [] := if_pos rfl

theorem version_read (version : UInt16) :
    UInt16.ofInt (C.valueint (C.createInt (Int32.ofNat version.toNat))) = version := by
  have hlt := version.toNat_lt
  have hint : (Int32.ofNat version.toNat).toInt = version.toNat :=
    Int32.toInt_ofNat_of_lt (by omega)
  have hmod : ((version.toNat : Int) % 2 ^ 16).toNat = version.toNat := by omega
  rw [C.valueint_createInt, hint, UInt16.ofInt, hmod]
  exact UInt16.ofNat_toNat

theorem deserializeItem_serializeItem (item : String × ManagedBrowserPolicyType) :
    deserializeItem C (serializeItem C item) = some item := by
  have hversion : (serializeItem C item).2.getObjectItem VERSION =
      some (.number (C.createInt (Int32.ofNat item.2.version.toNat))) :=
    Json.getObjectItem_self
  have hnames : (serializeItem C item).2.getObjectItem POLICY_NAMES =
      some (.arr (item.2.policyNames.map Json.str)) :=
    (Json.getObjectItem_other (by decide)).trans Json.getObjectItem_self
  have hstrings : (item.2.policyNames.map Json.str).mapM stringItem = some item.2.policyNames := by
    rw [List.mapM_map]
    have hread : item.2.policyNames.mapM (fun name => stringItem (.str name)) =
        some (item.2.policyNames.map id) := mapM_some fun _ _ => rfl
    rwa [List.map_id] at hread
  rw [deserializeItem, hversion, hnames]
  dsimp only
  rw [hstrings, version_read]
  rfl

theorem deserialize_serialize {data : ManagedBrowserPolicies} (h : KeysAscend Prod.fst data) :
    deserialize C (serialize C data) = some data := by
  have hitems : (data.map (serializeItem C)).mapM (deserializeItem C) = some data := by
    rw [List.mapM_map]
    have hread : data.mapM (fun item => deserializeItem C (serializeItem C item)) =
        some (data.map id) := mapM_some fun item _ => deserializeItem_serializeItem item
    rwa [List.map_id] at hread
  rw [deserialize, if_neg (serialize_ne_empty data), serialize,
    C.parse_print_ints _ (ints_members data)]
  dsimp only
  rw [hitems, Option.map_some, assignAll_append h]
  rfl

end Text

end ManagedBrowserPolicySerializer

end Edm
