import Mathlib.Data.String.Basic
import Edm.Plugin.Template

/-! `IntSerializer`: numbers with a sign as policy values. -/

set_option autoImplicit false

namespace Edm.IntSerializer

/-- `isspace`. -/
def isSpace (c : Char) : Bool := c == ' ' || ('\t' ≤ c && c ≤ '\r')

/-- Whether a text starts with a minus sign, and what follows the sign, if any. -/
def readSign : List Char → Bool × List Char
  | '-' :: digits => (true, digits)
  | '+' :: digits => (false, digits)
  | digits => (false, digits)

/-- The number that `strtol` reads, where it reads the whole text and the number is in its range. -/
def strtol (text : List Char) : Option Int :=
  let (negative, digits) := readSign (text.dropWhile isSpace)
  if digits ≠ [] ∧ digits.all Char.isDigit = true then
    let n : Int := Nat.ofDigitChars 10 digits 0
    let value := if negative then -n else n
    if -2 ^ 63 ≤ value ∧ value < 2 ^ 63 then some value else none
  else none

def deserialize (jsonString : String) : Option Int32 :=
  if jsonString = "" then some 0 else (strtol jsonString.toList).map Int32.ofInt

def serialize (dataObj : Int32) : String := Int.repr dataObj.toInt

/-- The last policy that is not zero, or `result` as the caller has it. -/
def mergePolicy (data : List Int32) (result : Int32) : Int32 :=
  data.foldl (fun result policy => if policy != 0 then policy else result) result

/-- `uninitialized` is what a local variable of the type has before it is assigned. -/
def serializer (uninitialized : Int32) : PolicySerializer Int32 where
  initial := uninitialized
  serialize dataObj := some (serialize dataObj)
  deserialize := deserialize
  mergePolicy data := some (mergePolicy data uninitialized)

theorem deserialize_empty : deserialize "" = some 0 := rfl

theorem toList_repr (n : Int) : (Int.repr n).toList =
    if n < 0 then '-' :: Nat.toDigits 10 n.natAbs else Nat.toDigits 10 n.natAbs := by
  cases n with
  | ofNat k =>
    have hneg : ¬ Int.ofNat k < 0 := (Int.natCast_nonneg k).not_gt
    rw [if_neg hneg]
    exact Nat.toList_repr
  | negSucc k =>
    rw [if_pos (Int.negSucc_lt_zero k)]
    show ("-" ++ Nat.repr (k + 1)).toList = _
    rw [String.toList_append, Nat.toList_repr]
    rfl

theorem serialize_ne_empty (n : Int32) : serialize n ≠ "" := by
  intro h
  have hlist := toList_repr n.toInt
  have hnil : (Int.repr n.toInt).toList = [] := congrArg String.toList h
  rw [hnil] at hlist
  split at hlist
  · cases hlist
  · exact Nat.toDigits_ne_nil hlist.symm

section Digits

variable {c : Char}

theorem isDigit_iff : c.isDigit = true ↔ 48 ≤ c.toNat ∧ c.toNat ≤ 57 := by
  rw [Char.isDigit, Bool.and_eq_true, decide_eq_true_iff, decide_eq_true_iff]
  exact and_congr UInt32.le_iff_toNat_le UInt32.le_iff_toNat_le

theorem isSpace_of_isDigit (h : c.isDigit = true) : isSpace c = false := by
  have hc := isDigit_iff.mp h
  rw [isSpace, Bool.or_eq_false_iff, beq_eq_false_iff_ne, Bool.and_eq_false_iff]
  refine ⟨?_, .inr ?_⟩
  · rintro rfl
    exact absurd hc.1 (by decide)
  · refine decide_eq_false fun hle => ?_
    have hle : c.toNat ≤ 13 := hle
    omega

theorem readSign_of_isDigit (h : c.isDigit = true) (digits : List Char) :
    readSign (c :: digits) = (false, c :: digits) := by
  unfold readSign
  split
  · rename_i heq
    cases heq
    exact absurd h (by decide)
  · rename_i heq
    cases heq
    exact absurd h (by decide)
  · rfl

end Digits

/-- The digits of a natural number. -/
theorem toDigits_all (n : Nat) : (Nat.toDigits 10 n).all Char.isDigit = true :=
  List.all_eq_true.mpr fun _ hc => Nat.isDigit_of_mem_toDigits (by decide) (by decide) hc

theorem strtol_toDigits {n : Nat} (hn : n < 2 ^ 63) : strtol (Nat.toDigits 10 n) = some (n : Int) := by
  obtain ⟨c, digits, hdigits⟩ := List.exists_cons_of_ne_nil (Nat.toDigits_ne_nil (n := n) (b := 10))
  have hall := toDigits_all n
  have hc : c.isDigit = true := by
    rw [hdigits] at hall
    exact List.all_eq_true.mp hall c List.mem_cons_self
  have hread : readSign ((Nat.toDigits 10 n).dropWhile isSpace) = (false, Nat.toDigits 10 n) := by
    rw [hdigits, List.dropWhile_cons_of_neg (by rw [isSpace_of_isDigit hc]; decide),
      readSign_of_isDigit hc]
  rw [strtol, hread]
  dsimp only
  rw [if_pos ⟨Nat.toDigits_ne_nil, hall⟩, Nat.ofDigitChars_toDigits (by decide) (by decide),
    if_neg Bool.false_ne_true, if_pos (by omega)]

theorem strtol_minus_toDigits {n : Nat} (hn : n ≤ 2 ^ 63) :
    strtol ('-' :: Nat.toDigits 10 n) = some (-(n : Int)) := by
  have hread : readSign (('-' :: Nat.toDigits 10 n).dropWhile isSpace) =
    (true, Nat.toDigits 10 n) := rfl
  rw [strtol, hread]
  dsimp only
  rw [if_pos ⟨Nat.toDigits_ne_nil, toDigits_all n⟩,
    Nat.ofDigitChars_toDigits (by decide) (by decide), if_pos rfl, if_pos (by omega)]

/-- The text of a number is read back as the number. -/
theorem deserialize_serialize (n : Int32) : deserialize (serialize n) = some n := by
  have hstrtol : strtol (serialize n).toList = some n.toInt := by
    have hlt := n.toInt_lt
    have hle := n.le_toInt
    rw [serialize, toList_repr]
    by_cases hneg : n.toInt < 0
    · rw [if_pos hneg, strtol_minus_toDigits (by omega)]
      exact congrArg some (by omega)
    · rw [if_neg hneg, strtol_toDigits (by omega)]
      exact congrArg some (by omega)
  rw [deserialize, if_neg (serialize_ne_empty n), hstrtol]
  exact congrArg some (Int32.ofInt_toInt n)

/-- The merged policy is one that is not zero, when there is one. -/
theorem mergePolicy_cases (data : List Int32) (result : Int32) :
    (∀ n, n ∈ data → n = 0) ∧ mergePolicy data result = result ∨
      mergePolicy data result ∈ data ∧ mergePolicy data result ≠ 0 := by
  induction data generalizing result with
  | nil => exact .inl ⟨fun n hn => absurd hn List.not_mem_nil, rfl⟩
  | cons n data ih =>
    by_cases hn : n = 0
    · have hcons : mergePolicy (n :: data) result = mergePolicy data result := by
        rw [hn]
        rfl
      rw [hcons]
      rcases ih result with ⟨hzero, hmerge⟩ | ⟨hmem, hne⟩
      · exact .inl ⟨List.forall_mem_cons.mpr ⟨hn, hzero⟩, hmerge⟩
      · exact .inr ⟨List.mem_cons_of_mem n hmem, hne⟩
    · have hcons : mergePolicy (n :: data) result = mergePolicy data n := by
        show List.foldl _ (if n != 0 then n else result) data = _
        rw [if_pos (bne_iff_ne.mpr hn)]
        rfl
      rw [hcons]
      rcases ih n with ⟨-, hmerge⟩ | ⟨hmem, hne⟩
      · rw [hmerge]
        exact .inr ⟨List.mem_cons_self, hn⟩
      · exact .inr ⟨List.mem_cons_of_mem n hmem, hne⟩

end Edm.IntSerializer
