import Edm.Library.Json

/-! The numbers of a JSON tree, and numbers that stand for integers. -/

set_option autoImplicit false

namespace Edm.Library

namespace NumberText

/-- The decimal digits of `n`, after a minus sign where it is negative. -/
def ofInt (n : Int) : NumberText where
  text := if n < 0 then '-' :: (ofNat n.natAbs).text else (ofNat n.natAbs).text
  starts := by
    split
    · exact ⟨'-', (ofNat n.natAbs).text, rfl, .inr rfl⟩
    · exact (ofNat n.natAbs).starts
  wordChars := by
    intro c hc
    split at hc
    · rcases List.mem_cons.mp hc with rfl | hc
      · decide
      · exact (ofNat n.natAbs).wordChars c hc
    · exact (ofNat n.natAbs).wordChars c hc

theorem toInt_ofInt (n : Int) : (ofInt n).toInt = n := by
  have habs := toInt_ofNat n.natAbs
  by_cases hneg : n < 0
  · have htext : (ofInt n).text = '-' :: (ofNat n.natAbs).text := if_pos hneg
    have hdigits : (ofNat n.natAbs).text.takeWhile Char.isDigit = (ofNat n.natAbs).text :=
      List.takeWhile_eq_self_iff.mpr fun c hc =>
        Nat.isDigit_of_mem_toDigits (by decide) (by decide) hc
    have hvalue : Nat.ofDigitChars 10 (ofNat n.natAbs).text 0 = n.natAbs :=
      Nat.ofDigitChars_toDigits (by decide) (by decide)
    unfold toInt
    rw [htext]
    show -(Nat.ofDigitChars 10 ((ofNat n.natAbs).text.takeWhile Char.isDigit) 0 : Int) = n
    rw [hdigits, hvalue]
    omega
  · have htext : (ofInt n).text = (ofNat n.natAbs).text := if_neg hneg
    unfold toInt at habs ⊢
    rw [htext, habs]
    omega

theorem toInt_ofInt32 (n : Int32) : (ofInt n.toInt).toInt = n.toInt := toInt_ofInt n.toInt

end NumberText

namespace Json

mutual

/-- A tree whose numbers all meet `P`. -/
def NumbersIn (P : NumberText → Prop) : Json → Prop
  | number value => P value
  | arr items => NumbersInItems P items
  | obj members => NumbersInMembers P members
  | _ => True

def NumbersInItems (P : NumberText → Prop) : List Json → Prop
  | [] => True
  | item :: items => NumbersIn P item ∧ NumbersInItems P items

def NumbersInMembers (P : NumberText → Prop) : List (String × Json) → Prop
  | [] => True
  | (_, value) :: members => NumbersIn P value ∧ NumbersInMembers P members

end

variable {P : NumberText → Prop}

theorem numbersIn_arr {items : List Json} :
    NumbersIn P (arr items) ↔ ∀ item, item ∈ items → NumbersIn P item := by
  show NumbersInItems P items ↔ _
  induction items with
  | nil => simp [NumbersInItems]
  | cons item items ih => simp [NumbersInItems, ih]

theorem numbersIn_obj {members : List (String × Json)} :
    NumbersIn P (obj members) ↔ ∀ member, member ∈ members → NumbersIn P member.2 := by
  show NumbersInMembers P members ↔ _
  induction members with
  | nil => simp [NumbersInMembers]
  | cons member members ih =>
    obtain ⟨name, value⟩ := member
    simp [NumbersInMembers, ih]

end Json

end Edm.Library
