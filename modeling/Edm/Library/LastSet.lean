import Mathlib.Data.List.Basic

/-! Settings that several lists may leave unset.  A merge takes the last one that is set. -/

set_option autoImplicit false

namespace Edm.Library

universe u

variable {α : Type u} [DecidableEq α] {unset x result : α} {xs ys : List α}

/-- The last of `xs` that is set, or `result` where none is. -/
def lastSet (unset : α) (xs : List α) (result : α) : α :=
  xs.foldl (fun result x => if x = unset then result else x) result

theorem lastSet_nil : lastSet unset [] result = result := rfl

theorem lastSet_cons_unset : lastSet unset (unset :: xs) result = lastSet unset xs result := by
  show List.foldl _ (if unset = unset then result else unset) xs = _
  rw [if_pos rfl]
  rfl

theorem lastSet_cons_set (h : x ≠ unset) : lastSet unset (x :: xs) result = lastSet unset xs x := by
  show List.foldl _ (if x = unset then result else x) xs = _
  rw [if_neg h]
  rfl

/-- The merged setting is one that is set, when there is one. -/
theorem lastSet_cases (unset : α) (xs : List α) (result : α) :
    (∀ x, x ∈ xs → x = unset) ∧ lastSet unset xs result = result ∨
      lastSet unset xs result ∈ xs ∧ lastSet unset xs result ≠ unset := by
  induction xs generalizing result with
  | nil => exact .inl ⟨fun x hx => absurd hx List.not_mem_nil, rfl⟩
  | cons x xs ih =>
    by_cases hx : x = unset
    · rw [hx, lastSet_cons_unset]
      rcases ih result with ⟨hunset, hmerge⟩ | ⟨hmem, hset⟩
      · exact .inl ⟨List.forall_mem_cons.mpr ⟨rfl, hunset⟩, hmerge⟩
      · exact .inr ⟨List.mem_cons_of_mem _ hmem, hset⟩
    · rw [lastSet_cons_set hx]
      rcases ih x with ⟨-, hmerge⟩ | ⟨hmem, hset⟩
      · rw [hmerge]
        exact .inr ⟨List.mem_cons_self, hx⟩
      · exact .inr ⟨List.mem_cons_of_mem _ hmem, hset⟩

theorem lastSet_of_unset (h : ∀ x, x ∈ xs → x = unset) : lastSet unset xs result = result := by
  rcases lastSet_cases unset xs result with ⟨-, hmerge⟩ | ⟨hmem, hset⟩
  · exact hmerge
  · exact absurd (h _ hmem) hset

/-- Lists with the same settings, of which all that are set agree, are merged to the same. -/
theorem lastSet_congr (hmem : ∀ x, x ∈ xs ↔ x ∈ ys)
    (hagree : ∀ x, x ∈ xs → ∀ y, y ∈ xs → x ≠ unset → y ≠ unset → x = y) :
    lastSet unset xs result = lastSet unset ys result := by
  rcases lastSet_cases unset xs result with ⟨hunset, hmerge⟩ | ⟨hx, hset⟩
  · rw [hmerge, lastSet_of_unset fun x hx => hunset x ((hmem x).mpr hx)]
  · rcases lastSet_cases unset ys result with ⟨hunset, -⟩ | ⟨hy, hset'⟩
    · exact absurd (hunset _ ((hmem _).mp hx)) hset
    · exact hagree _ hx _ ((hmem _).mpr hy) hset hset'

end Edm.Library
