import Mathlib.Data.Set.Lattice

/-! Items that are denied over two channels.  Each channel has what is demanded of it, and may have
items that are demanded of neither channel in particular. -/

set_option autoImplicit false

namespace Edm.Library

universe u

variable {Item : Type u}

/-- The channels `i` and `j` have what is demanded: `d` of the first one, `e` of the second one, and
`c` of one of them. -/
structure Channels (i j d e c : Set Item) : Prop where
  first_lower : d ⊆ i
  first_upper : i ⊆ d ∪ c
  second_lower : e ⊆ j
  second_upper : j ⊆ e ∪ c
  either : c ⊆ i ∪ j

variable {i j d e c : Set Item}

theorem Channels.symm (h : Channels i j d e c) : Channels j i e d c where
  first_lower := h.second_lower
  first_upper := h.second_upper
  second_lower := h.first_lower
  second_upper := h.first_upper
  either := by
    rw [Set.union_comm]
    exact h.either

/-- What is denied is what is demanded. -/
theorem Channels.denied (h : Channels i j d e c) : i ∪ j = d ∪ e ∪ c := by
  refine Set.Subset.antisymm ?_ ?_
  · rintro x (hx | hx)
    · rcases h.first_upper hx with hd | hc
      · exact .inl (.inl hd)
      · exact .inr hc
    · rcases h.second_upper hx with he | hc
      · exact .inl (.inr he)
      · exact .inr hc
  · rintro x ((hd | he) | hc)
    · exact .inl (h.first_lower hd)
    · exact .inr (h.second_lower he)
    · exact h.either hc

/-- A channel is replaced by what is demanded of it and of either one. -/
theorem Channels.send (h : Channels i j d e c) (d' : Set Item) : Channels (d' ∪ c) j d' e c where
  first_lower := Set.subset_union_left
  first_upper := subset_rfl
  second_lower := h.second_lower
  second_upper := h.second_upper
  either := fun _ hx => .inl (.inr hx)

theorem channels_empty : Channels (∅ : Set Item) ∅ ∅ ∅ ∅ where
  first_lower := subset_rfl
  first_upper := Set.empty_subset _
  second_lower := subset_rfl
  second_upper := Set.empty_subset _
  either := Set.empty_subset _

/-- A channel is replaced by what is demanded of it, and something else is demanded of either one: it
is on the first channel, or on neither. -/
theorem Channels.replace (h : Channels i j d e c) {c' : Set Item} (hj : j ⊆ e ∪ c') :
    Channels (d ∪ c') j d e c' where
  first_lower := Set.subset_union_left
  first_upper := subset_rfl
  second_lower := h.second_lower
  second_upper := hj
  either := fun _ hx => .inl (.inr hx)

end Edm.Library
