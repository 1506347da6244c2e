import Mathlib.Data.Set.Lattice
import Mathlib.Order.Bounds.Basic
import Mathlib.Order.MinMax

/-! Levels that several holders ask for.  The level in force is the least one that is not below any
of them. -/

set_option autoImplicit false

namespace Edm.Library

universe u v

variable {Holder : Type u} {Level : Type v}

/-- The levels that the holders other than `a` ask for. -/
def levelsOfOthers (f : Holder → Level) (a : Holder) : Set Level := {n | ∃ b, b ≠ a ∧ f b = n}

section Fold

variable [LinearOrder Level]

theorem foldl_max_le {data : List Level} {first n : Level} :
    data.foldl max first ≤ n ↔ first ≤ n ∧ ∀ k, k ∈ data → k ≤ n := by
  induction data generalizing first with
  | nil => simp
  | cons k data ih =>
    rw [List.foldl_cons, ih, max_le_iff, List.forall_mem_cons]
    exact and_assoc

theorem foldl_max_mem (data : List Level) (first : Level) :
    data.foldl max first = first ∨ data.foldl max first ∈ data := by
  induction data generalizing first with
  | nil => exact .inl rfl
  | cons k data ih =>
    rw [List.foldl_cons]
    rcases ih (max first k) with heq | hmem
    · rw [heq]
      rcases max_choice first k with hfirst | hk
      · exact .inl hfirst
      · rw [hk]
        exact .inr List.mem_cons_self
    · exact .inr (List.mem_cons_of_mem k hmem)

end Fold

variable [DecidableEq Holder]

/-- What a holder asks for does not change what the others ask for. -/
theorem range_update (f : Holder → Level) (a : Holder) (n : Level) :
    Set.range (Function.update f a n) = insert n (levelsOfOthers f a) := by
  refine Set.ext fun k => ?_
  constructor
  · rintro ⟨b, rfl⟩
    by_cases hb : b = a
    · rw [hb, Function.update_self]
      exact Set.mem_insert _ _
    · rw [Function.update_of_ne hb]
      exact Set.mem_insert_of_mem _ ⟨b, hb, rfl⟩
  · rintro (rfl | ⟨b, hb, rfl⟩)
    · exact ⟨a, Function.update_self ..⟩
    · exact ⟨b, Function.update_of_ne hb ..⟩

variable [LinearOrder Level] {f : Holder → Level} {a : Holder} {m : Level}

/-- The level in force when a holder asks for another one. -/
theorem isLUB_update (h : IsLUB (levelsOfOthers f a) m) (n : Level) :
    IsLUB (Set.range (Function.update f a n)) (n ⊔ m) := by
  rw [range_update]
  exact h.insert n

theorem isLUB_range (h : IsLUB (levelsOfOthers f a) m) : IsLUB (Set.range f) (f a ⊔ m) := by
  have hupdate := isLUB_update h (f a)
  rwa [Function.update_eq_self] at hupdate

end Edm.Library
