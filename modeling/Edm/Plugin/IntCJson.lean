import Mathlib.Algebra.Group.Nat.Defs
import Edm.Library.JsonNumbers
import Edm.Plugin.CJson

/-! The JSON library on trees with numbers.  It keeps a number as a `double`, which holds every
`int32_t`. -/

set_option autoImplicit false

namespace Edm

open Library

namespace Library.Json

/-- Whether two names of members are the same up to case. -/
def sameName (name other : String) : Bool :=
  name.toList.map Char.toLower == other.toList.map Char.toLower

variable {name other : String} {value : Json} {members : List (String × Json)}

theorem getObjectItem_self : (obj ((name, value) :: members)).getObjectItem name = some value := by
  simp [getObjectItem]

theorem getObjectItem_other (h : sameName other name = false) :
    (obj ((other, value) :: members)).getObjectItem name = (obj members).getObjectItem name := by
  unfold sameName at h
  simp [getObjectItem, h]

/-- A member of an object whose names all differ. -/
theorem getObjectItem_of_mem
    (hnames : (members.map Prod.fst).Pairwise fun name other => sameName name other = false)
    (hmem : (name, value) ∈ members) : (obj members).getObjectItem name = some value := by
  induction members with
  | nil => exact absurd hmem List.not_mem_nil
  | cons member members ih =>
    obtain ⟨first, firstValue⟩ := member
    obtain ⟨hhead, htail⟩ := List.pairwise_cons.mp hnames
    rcases List.mem_cons.mp hmem with heq | hmem
    · obtain ⟨rfl, rfl⟩ := Prod.mk.inj heq
      exact getObjectItem_self
    · rw [getObjectItem_other (hhead name (List.mem_map_of_mem hmem)), ih htail hmem]

end Library.Json

/-- `cJSON_CreateNumber` of an `int32_t`, and `cJSON_GetNumberValue` assigned to one. -/
structure IntCJson extends CJson where
  createInt : Int32 → NumberText
  getNumberValue : NumberText → Int32
  getNumberValue_createInt : ∀ n, getNumberValue (createInt n) = n
  parse_print_ints : ∀ j, j.NumbersIn (fun number => ∃ n, number = createInt n) →
    parse (print j) = some j
  parse_printUnformatted_ints : ∀ j, j.NumbersIn (fun number => ∃ n, number = createInt n) →
    parse (printUnformatted j) = some j

namespace IntCJson

variable (C : IntCJson)

/-- A tree whose numbers are made from integers. -/
abbrev Ints (j : Json) : Prop := j.NumbersIn fun number => ∃ n, number = C.createInt n

theorem ints_createInt (n : Int32) : C.Ints (.number (C.createInt n)) := ⟨n, rfl⟩

theorem print_ne_empty_ints {j : Json} (h : C.Ints j) : C.print j ≠ "" := by
  intro hempty
  have hparse := C.parse_print_ints j h
  rw [hempty, C.parse_empty] at hparse
  contradiction

theorem printUnformatted_ne_empty_ints {j : Json} (h : C.Ints j) : C.printUnformatted j ≠ "" := by
  intro hempty
  have hparse := C.parse_printUnformatted_ints j h
  rw [hempty, C.parse_empty] at hparse
  contradiction

/-- Texts as the library lays them out. -/
def standard : IntCJson where
  toCJson := .standard
  createInt n := NumberText.ofInt n.toInt
  getNumberValue number := Int32.ofInt number.toInt
  getNumberValue_createInt n := by
    rw [NumberText.toInt_ofInt, Int32.ofInt_toInt]
  parse_print_ints j _ := Json.parse_print true j
  parse_printUnformatted_ints j _ := Json.parse_print false j

end IntCJson

/-- `cJSON_CreateNumber` of an `int64_t`, and `cJSON_GetNumberValue` assigned to one.  A number of at
most 15 digits is read back as it was. -/
structure LongCJson extends IntCJson where
  createLong : Int64 → NumberText
  getLong : NumberText → Int64
  getLong_createLong : ∀ n : Int64, n.toInt.natAbs < 10 ^ 15 → getLong (createLong n) = n
  parse_print_longs : ∀ j, j.NumbersIn (fun number =>
    (∃ n, number = createInt n) ∨ ∃ n, number = createLong n) → parse (print j) = some j

/-- Texts as the library lays them out, for numbers that it prints as integers. -/
def LongCJson.standard : LongCJson where
  toIntCJson := .standard
  createLong n := NumberText.ofInt n.toInt
  getLong number := Int64.ofInt number.toInt
  getLong_createLong n _ := by
    rw [NumberText.toInt_ofInt, Int64.ofInt_toInt]
  parse_print_longs j _ := Json.parse_print true j

/-- The field `valueint` of a number that an `int32_t` was made into, and the text of an empty
array. -/
structure ArrayCJson extends IntCJson where
  valueint_createInt : ∀ n, valueint (createInt n) = n.toInt
  parse_brackets : parse "[]" = some (.arr [])

/-- Texts as the library lays them out. -/
def ArrayCJson.standard : ArrayCJson where
  toIntCJson := .standard
  valueint_createInt n := NumberText.toInt_ofInt n.toInt
  parse_brackets := Json.parse_print true (.arr [])

end Edm
