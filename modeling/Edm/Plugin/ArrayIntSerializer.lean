import Edm.Library.SetAlgorithms
import Edm.Plugin.IntCJson
import Edm.Plugin.Template

/-! Lists of integers as policy values. -/

set_option autoImplicit false

namespace Edm

open Library

namespace EdmConstants

def DEFAULT_LOOP_MAX_SIZE : Nat := 10000

end EdmConstants

instance instLinearOrderInt32 : LinearOrder Int32 where
  le_refl := Int32.le_refl
  le_trans _ _ _ := Int32.le_trans
  le_antisymm _ _ := Int32.le_antisymm
  le_total := Int32.le_total
  lt_iff_le_not_ge a b := by
    rw [Int32.lt_iff_toInt_lt, Int32.le_iff_toInt_le, Int32.le_iff_toInt_le]
    omega
  toDecidableLE := inferInstance

namespace ArrayIntSerializer

variable (C : ArrayCJson)

/-- A number of an array.  Other items are skipped. -/
def number : Json → Option Int32
  | .number n => some (Int32.ofInt (C.valueint n))
  | _ => none

/-- A text that cannot be parsed is no error. -/
def deserialize (jsonString : String) : Option (List Int32) :=
  match C.parse jsonString with
  | none => some []
  | some (.arr items) => some (items.filterMap (number C))
  | some _ => none

/-- The text that the out parameter has after the call. -/
def serialize (dataObj : List Int32) (jsonString : String) : String :=
  if dataObj = [] then jsonString
  else C.print (.arr (dataObj.map fun item => .number (C.createInt item)))

/-- What `GetPolicy` makes of the vector of a message. -/
def getPolicy (data : List Int32) : List Int32 := stdSet data

def mergePolicy (data : List (List Int32)) : List Int32 := stdSet data.flatten

def serializer : PolicySerializer (List Int32) where
  initial := []
  serialize dataObj := some (serialize C dataObj "")
  deserialize := deserialize C
  mergePolicy data := some (mergePolicy data)

variable {C}

theorem deserialize_empty : deserialize C "" = some [] := by
  rw [deserialize, C.parse_empty]

theorem deserialize_serialize (dataObj : List Int32) :
    deserialize C (serialize C dataObj "") = some dataObj := by
  by_cases hnil : dataObj = []
  · rw [hnil]
    exact deserialize_empty
  · have hints : C.Ints (.arr (dataObj.map fun item => .number (C.createInt item))) := by
      refine Json.numbersIn_arr.mpr fun item hitem => ?_
      obtain ⟨n, -, rfl⟩ := List.mem_map.mp hitem
      exact C.ints_createInt n
    rw [serialize, if_neg hnil, deserialize, C.parse_print_ints _ hints]
    show some (List.filterMap _ (List.map _ dataObj)) = _
    rw [List.filterMap_map]
    refine congrArg some ((List.filterMap_congr fun n _ => ?_).trans List.filterMap_some)
    show some (Int32.ofInt (C.valueint (C.createInt n))) = some n
    rw [C.valueint_createInt, Int32.ofInt_toInt]

end ArrayIntSerializer

end Edm
