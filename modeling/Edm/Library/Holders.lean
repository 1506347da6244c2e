import Mathlib.Data.Set.Lattice

/-! Items held by several holders.  An item is held while some holder holds it; it has to be dropped
only when its last holder drops it. -/

set_option autoImplicit false

namespace Edm.Library

universe u v

variable {Holder : Type u} {Item : Type v}

/-- The items that some holder holds. -/
def held (f : Holder → Set Item) : Set Item := {x | ∃ a, x ∈ f a}

/-- The items that some holder other than `a` holds. -/
def heldByOthers (f : Holder → Set Item) (a : Holder) : Set Item := {x | ∃ b, b ≠ a ∧ x ∈ f b}

theorem mem_held {f : Holder → Set Item} {x : Item} : x ∈ held f ↔ ∃ a, x ∈ f a := Iff.rfl

theorem mem_heldByOthers {f : Holder → Set Item} {a : Holder} {x : Item} :
    x ∈ heldByOthers f a ↔ ∃ b, b ≠ a ∧ x ∈ f b := Iff.rfl

theorem held_eq (f : Holder → Set Item) (a : Holder) : held f = heldByOthers f a ∪ f a := by
  refine Set.ext fun x => ⟨?_, ?_⟩
  · rintro ⟨b, hb⟩
    by_cases h : b = a
    · exact .inr (h ▸ hb)
    · exact .inl ⟨b, h, hb⟩
  · rintro (⟨b, -, hb⟩ | ha)
    · exact ⟨b, hb⟩
    · exact ⟨a, ha⟩

variable [DecidableEq Holder]

/-- What a holder holds does not change what the others hold. -/
theorem heldByOthers_update (f : Holder → Set Item) (a : Holder) (items : Set Item) :
    heldByOthers (Function.update f a items) a = heldByOthers f a := by
  refine Set.ext fun x => exists_congr fun b => and_congr_right fun h => ?_
  rw [Function.update_of_ne h]

theorem held_update (f : Holder → Set Item) (a : Holder) (items : Set Item) :
    held (Function.update f a items) = heldByOthers f a ∪ items := by
  rw [held_eq _ a, heldByOthers_update, Function.update_self]

end Edm.Library
