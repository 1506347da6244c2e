import Edm.Library.OrderedMap

/-! Lists of values kept under keys, as in a `std::map` from keys to vectors. -/

set_option autoImplicit false

namespace Edm.Library

universe u v

variable {α : Type u} {κ : Type v} [LinearOrder κ]

/-- The values under a key. -/
def valuesAt (k : κ) (m : List (κ × List α)) : List α :=
  ((m.find? fun group => group.1 == k).map Prod.snd).getD []

variable {k k' : κ} {m : List (κ × List α)} {xs : List α} {x : α}

@[simp] theorem valuesAt_nil : valuesAt k ([] : List (κ × List α)) = [] := rfl

theorem valuesAt_cons (group : κ × List α) :
    valuesAt k (group :: m) = if group.1 = k then group.2 else valuesAt k m := by
  unfold valuesAt
  by_cases h : group.1 = k
  · simp [h]
  · simp [h]

theorem valuesAt_of_mem (h : KeysAscend Prod.fst m) (hmem : (k, xs) ∈ m) : valuesAt k m = xs := by
  induction m with
  | nil => exact absurd hmem List.not_mem_nil
  | cons group m ih =>
    obtain ⟨hhead, htail⟩ := List.pairwise_cons.mp h
    rw [valuesAt_cons]
    rcases List.mem_cons.mp hmem with rfl | hmem
    · exact if_pos rfl
    · rw [if_neg, ih htail hmem]
      exact ne_of_lt (hhead k (List.mem_map_of_mem hmem))

theorem valuesAt_of_notMem (h : k ∉ m.map Prod.fst) : valuesAt k m = [] := by
  induction m with
  | nil => rfl
  | cons group m ih =>
    rw [List.map_cons, List.mem_cons, not_or] at h
    rw [valuesAt_cons, if_neg (Ne.symm h.1), ih h.2]

/-- The values under a key, in terms of the groups. -/
theorem mem_valuesAt (h : KeysAscend Prod.fst m) : x ∈ valuesAt k m ↔ ∃ xs, (k, xs) ∈ m ∧ x ∈ xs := by
  constructor
  · intro hx
    by_cases hk : k ∈ m.map Prod.fst
    · obtain ⟨group, hgroup, rfl⟩ := List.mem_map.mp hk
      rw [valuesAt_of_mem h hgroup] at hx
      exact ⟨group.2, hgroup, hx⟩
    · rw [valuesAt_of_notMem hk] at hx
      exact absurd hx List.not_mem_nil
  · rintro ⟨xs, hmem, hx⟩
    rwa [valuesAt_of_mem h hmem]

theorem valuesAt_assign (h : KeysAscend Prod.fst m) :
    valuesAt k' (assign Prod.fst (k, xs) m) = if k' = k then xs else valuesAt k' m := by
  have hascend := keysAscend_assign (x := (k, xs)) h
  by_cases hk : k' = k
  · rw [if_pos hk, hk]
    exact valuesAt_of_mem hascend ((mem_assign h).mpr (.inl rfl))
  · rw [if_neg hk]
    by_cases hmem : k' ∈ m.map Prod.fst
    · obtain ⟨group, hgroup, rfl⟩ := List.mem_map.mp hmem
      rw [valuesAt_of_mem h hgroup]
      exact valuesAt_of_mem hascend ((mem_assign h).mpr (.inr ⟨hgroup, hk⟩))
    · rw [valuesAt_of_notMem hmem, valuesAt_of_notMem]
      rw [mem_keys_assign]
      exact not_or.mpr ⟨hk, hmem⟩

end Edm.Library
