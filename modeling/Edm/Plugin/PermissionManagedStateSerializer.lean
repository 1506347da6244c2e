import Mathlib.Data.String.Basic
import Edm.Library.OrderedMap
import Edm.Plugin.IntCJson
import Edm.Plugin.Template
import Edm.Plugin.Values

/-! Maps from permissions of applications to the states that an admin manages, as policy values.  An
application is known by its access token.  The list of permissions of the request is written with
each entry, and not read back. -/

set_option autoImplicit false

namespace Edm

open Library

structure PermissionManagedStateInfo where
  appIdentifier : String
  permissionName : String
  accountId : Int32
  tokenId : Int32
  appIndex : Int32
  managedState : Int32
  permissionNames : List String
  deriving DecidableEq

namespace PermissionManagedStateSerializer

/-- The key of a permission of an application. -/
def appPermissionKey (tokenId : Int32) (permissionName : String) : String :=
  Int.repr tokenId.toInt ++ "\t" ++ permissionName

/-- The key under which a map has an entry. -/
def key (info : PermissionManagedStateInfo) : String :=
  appPermissionKey info.tokenId info.permissionName

def APP_IDENTIFIER : String := "appIdentifier"
def PERMISSION_NAME : String := "permissionName"
def PERMISSION_NAMES : String := "permissionNames"
def ACCOUNT_ID : String := "accountId"
def APP_INDEX : String := "appIndex"
def MANAGED_STATE : String := "managedState"
def TOKEN_ID : String := "tokenId"

variable (C : IntCJson)

def deserializeItem (item : Json) : Option PermissionManagedStateInfo :=
  match item.getObjectItem APP_IDENTIFIER, item.getObjectItem ACCOUNT_ID,
    item.getObjectItem APP_INDEX, item.getObjectItem MANAGED_STATE,
    item.getObjectItem PERMISSION_NAME, item.getObjectItem PERMISSION_NAMES,
    item.getObjectItem TOKEN_ID with
  | some (.str appIdentifier), some (.number accountId), some (.number appIndex),
      some (.number managedState), some (.str permissionName), some (.arr _),
      some (.number tokenId) =>
    some
      { appIdentifier, permissionName
        accountId := C.getNumberValue accountId
        tokenId := C.getNumberValue tokenId
        appIndex := C.getNumberValue appIndex
        managedState := C.getNumberValue managedState
        permissionNames := [] }
  | _, _, _, _, _, _, _ => none

/-- A text that is not JSON stands for the empty map. -/
def deserialize (data : String) : Option (List PermissionManagedStateInfo) :=
  match C.parse data with
  | none => some []
  | some root => (root.children.mapM (deserializeItem C)).map fun infos => insertAll key infos []

def serializeItem (info : PermissionManagedStateInfo) : Json :=
  .obj [(APP_IDENTIFIER, .str info.appIdentifier), (PERMISSION_NAME, .str info.permissionName),
    (ACCOUNT_ID, .number (C.createInt info.accountId)),
    (APP_INDEX, .number (C.createInt info.appIndex)),
    (MANAGED_STATE, .number (C.createInt info.managedState)),
    (TOKEN_ID, .number (C.createInt info.tokenId)),
    (PERMISSION_NAMES, .arr (info.permissionNames.map Json.str))]

/-- Nothing is written for the empty map. -/
def serialize (result : List PermissionManagedStateInfo) : String :=
  if result = [] then "" else C.print (.arr (result.map (serializeItem C)))

/-- A request as the parcel has it, with the token that the access token manager gives for the
application, if any. -/
structure Parcel where
  appIdentifier : String
  accountId : Int32
  appIndex : Int32
  permissionNames : Option (List String)
  managedState : Int32
  accessTokenId : Option Int32

def getPolicy (data : Parcel) : Option (List PermissionManagedStateInfo) := do
  let permissionNames ← data.permissionNames
  let tokenId ← data.accessTokenId
  let infos := permissionNames.map fun permissionName =>
    { appIdentifier := data.appIdentifier, permissionName, accountId := data.accountId, tokenId
      appIndex := data.appIndex, managedState := data.managedState, permissionNames }
  pure (insertAll key infos [])

/-- The first map that has a key decides. -/
def mergePolicy (data : List (List PermissionManagedStateInfo)) : List PermissionManagedStateInfo :=
  insertAll key data.flatten []

def serializer : PolicySerializer (List PermissionManagedStateInfo) where
  initial := []
  serialize result := some (serialize C result)
  deserialize := deserialize C
  mergePolicy data := some (mergePolicy data)

/-! ### The text of a map -/

/-- What is read back of an entry. -/
def stored (info : PermissionManagedStateInfo) : PermissionManagedStateInfo :=
  { info with permissionNames := [] }

@[simp] theorem key_stored (info : PermissionManagedStateInfo) : key (stored info) = key info := rfl

@[simp] theorem managedState_stored (info : PermissionManagedStateInfo) :
    (stored info).managedState = info.managedState := rfl

section Text

variable {C}

theorem ints_items (data : List PermissionManagedStateInfo) :
    C.Ints (.arr (data.map (serializeItem C))) := by
  rw [IntCJson.Ints, Json.numbersIn_arr]
  intro item hitem
  obtain ⟨info, -, rfl⟩ := List.mem_map.mp hitem
  have hnames : C.Ints (.arr (info.permissionNames.map Json.str)) := by
    rw [IntCJson.Ints, Json.numbersIn_arr]
    intro name hname
    obtain ⟨text, -, rfl⟩ := List.mem_map.mp hname
    trivial
  rw [serializeItem, Json.numbersIn_obj]
  simp only [List.mem_cons, List.not_mem_nil, or_false]
  rintro member (rfl | rfl | rfl | rfl | rfl | rfl | rfl)
  · trivial
  · trivial
  · exact C.ints_createInt _
  · exact C.ints_createInt _
  · exact C.ints_createInt _
  · exact C.ints_createInt _
  · exact hnames

theorem deserializeItem_serializeItem (info : PermissionManagedStateInfo) :
    deserializeItem C (serializeItem C info) = some (stored info) := by
  have hmember : ∀ {name value}, (name, value) ∈
      [(APP_IDENTIFIER, Json.str info.appIdentifier), (PERMISSION_NAME, .str info.permissionName),
        (ACCOUNT_ID, .number (C.createInt info.accountId)),
        (APP_INDEX, .number (C.createInt info.appIndex)),
        (MANAGED_STATE, .number (C.createInt info.managedState)),
        (TOKEN_ID, .number (C.createInt info.tokenId)),
        (PERMISSION_NAMES, .arr (info.permissionNames.map Json.str))] →
          (serializeItem C info).getObjectItem name = some value :=
    Json.getObjectItem_of_mem (by simp only [List.map_cons, List.map_nil]; decide)
  have hidentifier := @hmember APP_IDENTIFIER _ (.head _)
  have hname := @hmember PERMISSION_NAME _ (.tail _ (.head _))
  have haccount := @hmember ACCOUNT_ID _ (.tail _ (.tail _ (.head _)))
  have hindex := @hmember APP_INDEX _ (.tail _ (.tail _ (.tail _ (.head _))))
  have hstate := @hmember MANAGED_STATE _ (.tail _ (.tail _ (.tail _ (.tail _ (.head _)))))
  have htoken := @hmember TOKEN_ID _ (.tail _ (.tail _ (.tail _ (.tail _ (.tail _ (.head _))))))
  have hnames := @hmember PERMISSION_NAMES _
    (.tail _ (.tail _ (.tail _ (.tail _ (.tail _ (.tail _ (.head _)))))))
  unfold deserializeItem
  rw [hidentifier, haccount, hindex, hstate, hname, hnames, htoken]
  simp only [C.getNumberValue_createInt]
  rfl

theorem serialize_ne_empty {data : List PermissionManagedStateInfo} (h : data ≠ []) :
    serialize C data ≠ "" := by
  rw [serialize, if_neg h]
  exact C.print_ne_empty_ints (ints_items data)

theorem keysAscend_stored {data : List PermissionManagedStateInfo} (h : KeysAscend key data) :
    KeysAscend key (data.map stored) := by
  rw [KeysAscend, List.map_map]
  exact h

theorem deserialize_empty : deserialize C "" = some [] := by
  rw [deserialize, C.parse_empty]

/-- The text of a map is read back as the map, without the lists of permissions. -/
theorem deserialize_serialize {data : List PermissionManagedStateInfo} (h : KeysAscend key data) :
    deserialize C (serialize C data) = some (data.map stored) := by
  by_cases hnil : data = []
  · subst hnil
    exact deserialize_empty
  · have hparse := C.parse_print_ints _ (ints_items data)
    have hitems : (data.map (serializeItem C)).mapM (deserializeItem C) =
        some (data.map stored) := by
      rw [List.mapM_map]
      exact mapM_some fun info _ => deserializeItem_serializeItem info
    have hinsert : insertAll key (data.map stored) [] = data.map stored :=
      insertAll_append (keysAscend_stored h)
    rw [serialize, if_neg hnil, deserialize, hparse]
    show ((data.map (serializeItem C)).mapM (deserializeItem C)).map _ = _
    rw [hitems, Option.map_some, hinsert]

end Text

end PermissionManagedStateSerializer

end Edm
