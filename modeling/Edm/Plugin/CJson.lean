import Edm.Library.Json

/-! The JSON library that the serializers call.  It is not part of the repository, so the model takes
it as a parameter with the round trip that the serializers rely on.  A string of a tree stands for a
C string, which has no NUL character.  Numbers, which the library keeps as floating point, are left
out of the round trip of trees; lists of integers that fit an `int` have one of their own. -/

set_option autoImplicit false

namespace Edm

open Library

/-- The items that `cJSON_ArrayForEach` visits. -/
def Library.Json.children : Json → List Json
  | .arr items => items
  | .obj members => members.map Prod.snd
  | _ => []

/-- `cJSON_GetObjectItem`, which ignores the case of names. -/
def Library.Json.getObjectItem (j : Json) (name : String) : Option Json :=
  match j with
  | .obj members =>
    (members.find? fun member =>
      member.1.toList.map Char.toLower == name.toList.map Char.toLower).map Prod.snd
  | _ => none

def INT_MAX : Nat := 2147483647

/-- `cJSON_Parse`, `cJSON_Print`, `cJSON_PrintUnformatted`, and `cJSON_CreateNumber` on a natural
number with the field `valueint`. -/
structure CJson where
  parse : String → Option Json
  print : Json → String
  printUnformatted : Json → String
  createNumber : Nat → NumberText
  valueint : NumberText → Int
  parse_empty : parse "" = none
  parse_null : parse "null" = some .null
  parse_print : ∀ j, j.NumberFree → parse (print j) = some j
  parse_printUnformatted : ∀ j, j.NumberFree → parse (printUnformatted j) = some j
  valueint_createNumber : ∀ n, n ≤ INT_MAX → valueint (createNumber n) = n
  parse_numbers : ∀ ns : List Nat, (∀ n, n ∈ ns → n ≤ INT_MAX) →
    parse (printUnformatted (.arr (ns.map fun n => .number (createNumber n)))) =
      some (.arr (ns.map fun n => .number (createNumber n)))

namespace CJson

variable (C : CJson)

theorem print_ne_empty {j : Json} (h : j.NumberFree) : C.print j ≠ "" := by
  intro hempty
  have hparse := C.parse_print j h
  rw [hempty, C.parse_empty] at hparse
  contradiction

theorem printUnformatted_ne_empty {j : Json} (h : j.NumberFree) : C.printUnformatted j ≠ "" := by
  intro hempty
  have hparse := C.parse_printUnformatted j h
  rw [hempty, C.parse_empty] at hparse
  contradiction

/-- Texts as the library lays them out. -/
def standard : CJson where
  parse := Json.parse
  print := Json.print true
  printUnformatted := Json.print false
  createNumber := NumberText.ofNat
  valueint := NumberText.toInt
  parse_empty := Json.parse_empty
  parse_null := rfl
  parse_print j _ := Json.parse_print true j
  parse_printUnformatted j _ := Json.parse_print false j
  valueint_createNumber n _ := NumberText.toInt_ofNat n
  parse_numbers _ _ := Json.parse_print false _

end CJson

end Edm
