import Mathlib.Data.String.Basic
import Edm.Plugin.Template

/-! `UIntSerializer`: numbers as policy values. -/

set_option autoImplicit false

namespace Edm

namespace UIntSerializer

/-- `std::from_chars` up to the end of the text. -/
def deserialize (jsonString : String) : Option UInt32 :=
  if jsonString = "" then some 0
  else if jsonString.toList.all Char.isDigit then
    let n := Nat.ofDigitChars 10 jsonString.toList 0
    if n < 2 ^ 32 then some (UInt32.ofNat n) else none
  else none

def serialize (dataObj : UInt32) : String := Nat.repr dataObj.toNat

/-- The last policy that is not zero, or `result` as the caller has it. -/
def mergePolicy (data : List UInt32) (result : UInt32) : UInt32 :=
  data.foldl (fun result policy => if policy != 0 then policy else result) result

/-- `uninitialized` is what a local variable of the type has before it is assigned. -/
def serializer (uninitialized : UInt32) : PolicySerializer UInt32 where
  initial := uninitialized
  serialize dataObj := some (serialize dataObj)
  deserialize := deserialize
  mergePolicy data := some (mergePolicy data uninitialized)

theorem deserialize_empty : deserialize "" = some 0 := rfl

theorem toList_serialize (n : UInt32) : (serialize n).toList = Nat.toDigits 10 n.toNat :=
  Nat.toList_repr

theorem serialize_ne_empty (n : UInt32) : serialize n ≠ "" := by
  intro h
  have hlist := toList_serialize n
  rw [h] at hlist
  exact Nat.toDigits_ne_nil hlist.symm

/-- The text of a number is read back as the number. -/
theorem deserialize_serialize (n : UInt32) : deserialize (serialize n) = some n := by
  have hdigits : (serialize n).toList.all Char.isDigit = true := by
    rw [toList_serialize, List.all_eq_true]
    exact fun c hc => Nat.isDigit_of_mem_toDigits (by decide) (by decide) hc
  have hvalue : Nat.ofDigitChars 10 (serialize n).toList 0 = n.toNat := by
    rw [toList_serialize]
    exact Nat.ofDigitChars_toDigits (by decide) (by decide)
  rw [deserialize, if_neg (serialize_ne_empty n), if_pos hdigits]
  dsimp only
  rw [hvalue, if_pos n.toNat_lt, UInt32.ofNat_toNat]

theorem serialize_inj {n m : UInt32} (h : serialize n = serialize m) : n = m := by
  have hread := deserialize_serialize n
  rw [h, deserialize_serialize] at hread
  exact (Option.some.inj hread).symm

/-- The merged number is one of the policies, or `result`. -/
theorem mergePolicy_mem (data : List UInt32) (result : UInt32) :
    mergePolicy data result = result ∨ mergePolicy data result ∈ data := by
  induction data generalizing result with
  | nil => exact .inl rfl
  | cons policy data ih =>
    show mergePolicy data (if policy != 0 then policy else result) = result ∨ _
    rcases ih (if policy != 0 then policy else result) with hsame | hmem
    · by_cases hpolicy : (policy != 0) = true
      · rw [if_pos hpolicy] at hsame
        right
        show mergePolicy data (if policy != 0 then policy else result) ∈ _
        rw [if_pos hpolicy, hsame]
        exact List.mem_cons_self
      · rw [if_neg hpolicy] at hsame ⊢
        exact .inl hsame
    · exact .inr (List.mem_cons_of_mem policy hmem)

end UIntSerializer

end Edm
