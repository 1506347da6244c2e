import Edm.Library.OutParameter
import Edm.Plugin.AllowedPermissionBundleSerializer
import Edm.Plugin.ArrayUsbDeviceTypeSerializer
import Edm.Plugin.ClipboardPolicySerializer
import Edm.Plugin.ManageAutoStartAppsSerializer

/-! Four serializers as their callers see them: each writes to a string that may hold the text of an
older value, and `cJSON_Print` may have no memory for the new one. -/

set_option autoImplicit false

namespace Edm

open Library

/-- `cJSON_Print`, which returns a null pointer where it has no memory for the text. -/
def CJson.printed (C : CJson) (memory : Bool) (root : Json) : Option String :=
  if memory then some (C.print root) else none

namespace ArrayUsbDeviceTypeSerializer

variable (C : ArrayCJson) (maxSize : Nat) (memory : Bool)

/-- `Serialize` over a text.  A text that could not be printed is passed over. -/
def serializeOver (dataObj : List UsbDeviceType) (jsonString : String) : Bool × String :=
  if dataObj = [] then (true, jsonString)
  else if dataObj.length > maxSize then (false, jsonString)
  else
    match C.printed memory (.arr (dataObj.map (serializeItem C))) with
    | some cJsonStr => (true, cJsonStr)
    | none => (true, jsonString)

def codec : OutCodec (List UsbDeviceType) where
  serialize := serializeOver C maxSize memory
  deserialize := deserialize C
  meant := id

/-- The list is printed, or it is too long. -/
def Written (dataObj : List UsbDeviceType) : Prop :=
  dataObj ≠ [] ∧ (memory = true ∨ maxSize < dataObj.length)

variable {C} {maxSize} {memory} {data : List UsbDeviceType} {old : String}

/-- In an empty string. -/
theorem serializeOver_empty : serializeOver C maxSize true data "" =
    ((serialize C maxSize data).isSome, (serialize C maxSize data).getD "") := by
  rw [serializeOver, serialize, CJson.printed, if_pos rfl]
  split
  · rfl
  · split <;> rfl

end ArrayUsbDeviceTypeSerializer

namespace ClipboardSerializer

variable (C : ArrayCJson) (memory : Bool)

/-- `Serialize` over a text. -/
def serializeOver (result : ClipboardMap) (data : String) : Bool × String :=
  if result.entries = [] then (true, data)
  else
    match C.printed memory (.arr (result.entries.map (serializeItem C))) with
    | some jsonStr => (true, jsonStr)
    | none => (false, data)

def codec : OutCodec ClipboardMap where
  serialize := serializeOver C memory
  deserialize := (serializer C).deserialize
  meant := id

variable {C} {memory} {m : ClipboardMap} {old : String}

end ClipboardSerializer

namespace ManageAutoStartAppsSerializer

variable (C : CJson) (memory : Bool)

/-- `Serialize` over a text.  A text that could not be printed is passed over. -/
def serializeOver (dataObj : List ManageAutoStartAppInfo) (policy : String) : Bool × String :=
  if dataObj = [] then (true, policy)
  else
    match C.printed memory (.obj (dataObj.map fun info => ("", serializeItem info))) with
    | some cJsonStr => (true, cJsonStr)
    | none => (true, policy)

def codec : OutCodec (List ManageAutoStartAppInfo) where
  serialize := serializeOver C memory
  deserialize policy := match deserialize C policy with
    | (true, dataObj) => some dataObj
    | (false, _) => none
  meant := id

variable {C} {memory} {data : List ManageAutoStartAppInfo} {old : String}

end ManageAutoStartAppsSerializer

namespace AllowedPermissionBundleSerializer

variable (C : IntCJson) (memory : Bool)

/-- The permissions that have instances. -/
def present (dataObj : PermissionApps) : PermissionApps :=
  dataObj.filter fun pair => !pair.2.isEmpty

/-- `Serialize` over a text.  A text that could not be printed is passed over. -/
def serializeOver (dataObj : PermissionApps) (policy : String) : Bool × String :=
  if dataObj = [] then (true, policy)
  else
    match C.printed memory (.obj ((present dataObj).map fun pair =>
      (pair.1, .arr (pair.2.map (createAppObject C))))) with
    | some cJsonStr => (true, cJsonStr)
    | none => (true, policy)

/-- A permission without instances counts as absent. -/
def codec : OutCodec PermissionApps where
  serialize := serializeOver C memory
  deserialize policy := match deserialize C policy with
    | (true, dataObj) => some dataObj
    | (false, _) => none
  meant := present

variable {C} {memory} {data : PermissionApps} {old : String}

/-- In an empty string. -/
theorem serializeOver_empty : serializeOver C true data "" = (true, serialize C data) := by
  rw [serializeOver, serialize, CJson.printed, if_pos rfl]
  split <;> rfl

end AllowedPermissionBundleSerializer

end Edm
