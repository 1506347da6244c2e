import Mathlib.Data.List.Basic
import Mathlib.Data.List.Nodup

/-! A block of items that is appended to a list and then erased item by item.  Each item is erased
where it stands first, so the list comes back only if it has none of the items except at its end. -/

set_option autoImplicit false

namespace Edm.Library

universe u

variable {α : Type u} [DecidableEq α]

/-- The items of the block that the list has stand at its end, in the order of the block, and so do
those of them that it has before that end. -/
inductive EndsInCopies : List α → List α → Prop
  | absent {block l : List α} (h : ∀ x ∈ block, x ∉ l) : EndsInCopies block l
  | copy {block l last : List α} (hlast : block.filter (· ∈ l ++ last) = last)
      (h : EndsInCopies last l) : EndsInCopies block (l ++ last)

theorem mem_erase_block {x : α} {block l : List α} (h : x ∉ block) :
    block.filter (· ∈ l.erase x) = block.filter (· ∈ l) := by
  apply List.filter_congr
  intro y hy
  have hne : y ≠ x := fun heq => h (heq ▸ hy)
  exact decide_eq_decide.mpr (List.mem_erase_of_ne hne)

/-- Items that the list does not have are not erased. -/
theorem diff_present {block l : List α} (hnodup : block.Nodup) :
    l.diff (block.filter (· ∈ l)) = l.diff block := by
  induction block generalizing l with
  | nil => rfl
  | cons x block ih =>
    obtain ⟨hx, hblock⟩ := List.nodup_cons.mp hnodup
    rw [List.diff_cons, List.filter_cons]
    by_cases hmem : x ∈ l
    · simp only [hmem, decide_true, if_true]
      rw [List.diff_cons, ← mem_erase_block hx, ih hblock]
    · simp only [hmem, decide_false, Bool.false_eq_true, if_false]
      rw [List.erase_of_not_mem hmem, ih hblock]

/-- An item is erased from the list where the list has it, and from the block elsewhere. -/
theorem append_diff {block l kept : List α} (hnodup : block.Nodup)
    (hkept : ∀ x ∈ block, x ∉ kept) :
    (l ++ kept ++ block).diff block = l.diff block ++ kept ++ block.filter (· ∈ l) := by
  induction block generalizing l kept with
  | nil => simp
  | cons x block ih =>
    obtain ⟨hx, hblock⟩ := List.nodup_cons.mp hnodup
    obtain ⟨hxkept, hkept'⟩ := List.forall_mem_cons.mp hkept
    rw [List.diff_cons, List.diff_cons, List.filter_cons]
    by_cases hmem : x ∈ l
    · have hkept'' : ∀ y ∈ block, y ∉ kept ++ [x] := by
        intro y hy hin
        rcases List.mem_append.mp hin with hin | hin
        · exact hkept' y hy hin
        · rw [List.mem_singleton.mp hin] at hy
          exact hx hy
      have herase : (l ++ kept ++ x :: block).erase x = l.erase x ++ (kept ++ [x]) ++ block := by
        rw [List.append_assoc, List.erase_append_left _ hmem]
        simp only [List.append_assoc, List.singleton_append]
      simp only [hmem, decide_true, if_true]
      rw [herase, ih hblock hkept'', mem_erase_block hx]
      simp only [List.append_assoc, List.singleton_append]
    · have hnot : x ∉ l ++ kept := fun h => (List.mem_append.mp h).elim hmem hxkept
      simp only [hmem, decide_false, Bool.false_eq_true, if_false]
      rw [List.erase_append_right _ hnot, List.erase_cons_head, List.erase_of_not_mem hmem,
        ih hblock hkept']

/-- The items that are not in the block stay, in their order. -/
theorem filter_notMem_diff (l block : List α) :
    (l.diff block).filter (· ∉ block) = l.filter (· ∉ block) := by
  have herase : ∀ (l : List α) (p : α → Bool) (x : α), p x = false →
      (l.erase x).filter p = l.filter p := by
    intro l p x hx
    induction l with
    | nil => rfl
    | cons y l ih =>
      rw [List.erase_cons]
      by_cases hyx : y = x
      · simp [hyx, hx]
      · simp [hyx, List.filter_cons, ih]
  have hall : ∀ (block l : List α) (p : α → Bool), (∀ x ∈ block, p x = false) →
      (l.diff block).filter p = l.filter p := by
    intro block
    induction block with
    | nil => exact fun _ _ _ => rfl
    | cons x block ih =>
      intro l p h
      obtain ⟨hx, hblock⟩ := List.forall_mem_cons.mp h
      rw [List.diff_cons, ih _ p hblock, herase l p x hx]
  exact hall block l _ fun x hx => decide_eq_false (not_not.mpr hx)

theorem append_diff_self {block l : List α} (hnodup : block.Nodup) :
    (l ++ block).diff block = l.diff block ++ block.filter (· ∈ l) := by
  have h := @append_diff α _ block l [] hnodup fun _ _ => List.not_mem_nil
  rwa [List.append_nil, List.append_nil] at h

theorem append_diff_eq_iff {block l : List α} (hnodup : block.Nodup) :
    (l ++ block).diff block = l ↔ EndsInCopies block l := by
  induction hn : l.length using Nat.strongRecOn generalizing block l with
  | _ n ih =>
    rw [append_diff_self hnodup]
    by_cases hnone : block.filter (· ∈ l) = []
    · have habsent : ∀ x ∈ block, x ∉ l := fun x hx hmem =>
        List.filter_eq_nil_iff.mp hnone x hx (decide_eq_true hmem)
      rw [← diff_present hnodup, hnone]
      exact iff_of_true (List.append_nil l) (.absent habsent)
    · have hshorter : ∀ {first last : List α}, l = first ++ last → last ≠ [] →
          first.length < n := by
        intro first last heq hne
        have := List.length_pos_of_ne_nil hne
        rw [← hn, heq, List.length_append]
        omega
      constructor
      · intro h
        have hlast := h.symm
        have hfirst := diff_present (l := l) hnodup
        generalize hrest : l.diff block = first at h hlast hfirst
        generalize hpresent : block.filter (· ∈ l) = last at h hlast hfirst hnone
        have hlastNodup : last.Nodup := hpresent ▸ hnodup.filter _
        subst hlast
        exact .copy hpresent ((ih _ (hshorter rfl hnone) hlastNodup rfl).mp hfirst)
      · intro h
        cases h with
        | absent habsent =>
          exact absurd (List.filter_eq_nil_iff.mpr fun x hx => by simp [habsent x hx]) hnone
        | @copy _ first last hlast h =>
          have hlastNodup : last.Nodup := hlast ▸ hnodup.filter _
          rw [hlast] at hnone ⊢
          rw [← diff_present hnodup, hlast,
            (ih _ (hshorter rfl hnone) hlastNodup rfl).mpr h]

end Edm.Library
