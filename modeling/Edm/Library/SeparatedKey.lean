import Mathlib.Data.List.Basic
import Std.Data.String.ToInt

/-! Keys that are put together from two texts with a separator between them.  A text that does not
have the separator can be told from the other: a number after the last separator, a name before the
first one. -/

set_option autoImplicit false

namespace Edm.Library

universe u

theorem append_cons_inj {α : Type u} {c : α} {a a' d d' : List α} (h : c ∉ d) (h' : c ∉ d') :
    a ++ c :: d = a' ++ c :: d' ↔ a = a' ∧ d = d' := by
  constructor
  · intro heq
    rcases List.append_eq_append_iff.mp heq with ⟨more, rfl, hrest⟩ | ⟨more, rfl, hrest⟩
    · cases more with
      | nil =>
        cases hrest
        exact ⟨(List.append_nil a).symm, rfl⟩
      | cons x more =>
        cases hrest
        exact absurd (List.mem_append_right more List.mem_cons_self) h
    · cases more with
      | nil =>
        cases hrest
        exact ⟨List.append_nil a', rfl⟩
      | cons x more =>
        cases hrest
        exact absurd (List.mem_append_right more List.mem_cons_self) h'
  · rintro ⟨rfl, rfl⟩
    rfl

theorem append_separator_inj {separator : String} {c : Char} (hseparator : separator.toList = [c])
    {a a' b b' : String} (h : c ∉ b.toList) (h' : c ∉ b'.toList) :
    a ++ separator ++ b = a' ++ separator ++ b' ↔ a = a' ∧ b = b' := by
  rw [← String.toList_inj, ← String.toList_inj, ← String.toList_inj]
  simp only [String.toList_append, hseparator, List.append_assoc, List.singleton_append]
  exact append_cons_inj h h'

/-! ### Splitting a text -/

/-- What stands before and after the first separator. -/
def splitFirst (c : Char) (text : String) : Option (String × String) :=
  if c ∈ text.toList then
    some (.ofList (text.toList.takeWhile (· != c)), .ofList (text.toList.dropWhile (· != c)).tail)
  else none

/-- What stands before and after the last separator. -/
def splitLast (c : Char) (text : String) : Option (String × String) :=
  if c ∈ text.toList then
    some (.ofList (text.toList.reverse.dropWhile (· != c)).tail.reverse,
      .ofList (text.toList.reverse.takeWhile (· != c)).reverse)
  else none

section Split

variable {separator : String} {c : Char} {a b : String}

theorem splitFirst_append (hseparator : separator.toList = [c]) (h : c ∉ a.toList) :
    splitFirst c (a ++ separator ++ b) = some (a, b) := by
  have hbefore : ∀ x ∈ a.toList, (x != c) = true := by
    intro x hx
    rw [bne_iff_ne]
    rintro rfl
    exact h hx
  have hchars : (a ++ separator ++ b).toList = a.toList ++ c :: b.toList := by
    simp [hseparator]
  unfold splitFirst
  rw [hchars, if_pos (List.mem_append_right _ List.mem_cons_self),
    List.takeWhile_append_of_pos hbefore, List.dropWhile_append_of_pos hbefore,
    List.takeWhile_cons_of_neg (by simp), List.dropWhile_cons_of_neg (by simp), List.append_nil,
    List.tail_cons, String.ofList_toList, String.ofList_toList]

theorem splitLast_append (hseparator : separator.toList = [c]) (h : c ∉ b.toList) :
    splitLast c (a ++ separator ++ b) = some (a, b) := by
  have hafter : ∀ x ∈ b.toList.reverse, (x != c) = true := by
    intro x hx
    rw [bne_iff_ne]
    rintro rfl
    exact h (List.mem_reverse.mp hx)
  have hchars : (a ++ separator ++ b).toList = a.toList ++ c :: b.toList := by
    simp [hseparator]
  have hreverse : (a.toList ++ c :: b.toList).reverse =
      b.toList.reverse ++ c :: a.toList.reverse := by
    simp
  unfold splitLast
  rw [hchars, if_pos (List.mem_append_right _ List.mem_cons_self), hreverse,
    List.takeWhile_append_of_pos hafter, List.dropWhile_append_of_pos hafter,
    List.takeWhile_cons_of_neg (by simp), List.dropWhile_cons_of_neg (by simp), List.append_nil,
    List.tail_cons, List.reverse_reverse, List.reverse_reverse, String.ofList_toList,
    String.ofList_toList]

end Split

/-! ### The texts of numbers -/

/-- The text of a natural number has digits only. -/
theorem notMem_repr {c : Char} (hdigit : c.isDigit = false) (n : Nat) : c ∉ (Nat.repr n).toList := by
  intro hc
  rw [Nat.toList_repr] at hc
  have := Nat.isDigit_of_mem_toDigits (by decide) (by decide) hc
  rw [hdigit] at this
  cases this

/-- The text of an integer has digits and a minus sign only. -/
theorem notMem_intRepr {c : Char} (hdigit : c.isDigit = false) (hminus : c ≠ '-') (n : Int) :
    c ∉ (Int.repr n).toList := by
  cases n with
  | ofNat n => exact notMem_repr hdigit n
  | negSucc n =>
    show c ∉ ("-" ++ Nat.repr (n + 1)).toList
    rw [String.toList_append]
    intro hc
    rcases List.mem_append.mp hc with hc | hc
    · exact hminus (List.mem_singleton.mp hc)
    · exact notMem_repr hdigit (n + 1) hc

end Edm.Library
