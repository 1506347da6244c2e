import Mathlib.Data.List.Sort
import Mathlib.Data.List.Dedup

/-! The set algorithms of the C++ standard library on sorted lists.  They count an element that
occurs several times: a union keeps the larger count, an intersection the smaller one, and a
difference subtracts. -/

set_option autoImplicit false

namespace Edm.Library

universe u

variable {α : Type u} [LinearOrder α]

/-- `std::sort`. -/
def sort (xs : List α) : List α := xs.insertionSort (· ≤ ·)

/-- `std::unique` with the erasure of the tail: keeps the first of equal neighbours. -/
def unique : List α → List α
  | [] => []
  | [x] => [x]
  | x :: y :: xs => if x = y then unique (y :: xs) else x :: unique (y :: xs)

/-- `std::set_union`. -/
def setUnion : List α → List α → List α
  | [], ys => ys
  | x :: xs, [] => x :: xs
  | x :: xs, y :: ys =>
    if x < y then x :: setUnion xs (y :: ys)
    else if y < x then y :: setUnion (x :: xs) ys
    else x :: setUnion xs ys
termination_by xs ys => xs.length + ys.length

/-- `std::set_difference`. -/
def setDifference : List α → List α → List α
  | [], _ => []
  | x :: xs, [] => x :: xs
  | x :: xs, y :: ys =>
    if x < y then x :: setDifference xs (y :: ys)
    else if y < x then setDifference (x :: xs) ys
    else setDifference xs ys
termination_by xs ys => xs.length + ys.length

/-- `std::set_intersection`. -/
def setIntersection : List α → List α → List α
  | [], _ => []
  | _ :: _, [] => []
  | x :: xs, y :: ys =>
    if x < y then setIntersection xs (y :: ys)
    else if y < x then setIntersection (x :: xs) ys
    else x :: setIntersection xs ys
termination_by xs ys => xs.length + ys.length

/-- Sorted in ascending order, with repetitions. -/
abbrev Sorted (xs : List α) : Prop := xs.Pairwise (· ≤ ·)

theorem sorted_sort (xs : List α) : Sorted (sort xs) := List.pairwise_insertionSort (· ≤ ·) xs

theorem perm_sort (xs : List α) : (sort xs).Perm xs := List.perm_insertionSort (· ≤ ·) xs

@[simp] theorem mem_sort {xs : List α} {x : α} : x ∈ sort xs ↔ x ∈ xs := (perm_sort xs).mem_iff

@[simp] theorem nodup_sort {xs : List α} : (sort xs).Nodup ↔ xs.Nodup := (perm_sort xs).nodup_iff

@[simp] theorem count_sort (xs : List α) (x : α) : (sort xs).count x = xs.count x :=
  (perm_sort xs).count_eq x

@[simp] theorem length_sort (xs : List α) : (sort xs).length = xs.length :=
  (perm_sort xs).length_eq

theorem sort_of_sorted {xs : List α} (h : Sorted xs) : sort xs = xs :=
  List.Pairwise.insertionSort_eq h

/-- A head below another list's head does not occur in that list. -/
theorem count_eq_zero_of_lt {x y : α} {ys : List α} (h : x < y) (hys : Sorted (y :: ys)) :
    (y :: ys).count x = 0 := by
  refine List.count_eq_zero.mpr fun hmem => ?_
  rcases List.mem_cons.mp hmem with rfl | hmem
  · exact lt_irrefl x h
  · exact absurd ((List.pairwise_cons.mp hys).1 x hmem) (not_le.mpr h)

theorem count_setUnion (xs ys : List α) (hxs : Sorted xs) (hys : Sorted ys) (z : α) :
    (setUnion xs ys).count z = max (xs.count z) (ys.count z) := by
  fun_induction setUnion xs ys with
  | case1 ys => simp
  | case2 x xs => simp
  | case3 x xs y ys hlt ih =>
    have hzero := count_eq_zero_of_lt hlt hys
    have hrec := ih (List.pairwise_cons.mp hxs).2 hys
    by_cases hz : x = z
    · subst hz
      simp only [List.count_cons_self, hrec, hzero]
      omega
    · rw [List.count_cons_of_ne hz, List.count_cons_of_ne hz, hrec]
  | case4 x xs y ys hnlt hlt ih =>
    have hzero := count_eq_zero_of_lt hlt hxs
    have hrec := ih hxs (List.pairwise_cons.mp hys).2
    by_cases hz : y = z
    · subst hz
      simp only [List.count_cons_self, hrec, hzero]
      omega
    · rw [List.count_cons_of_ne hz, List.count_cons_of_ne hz, hrec]
  | case5 x xs y ys hnlt hnlt' ih =>
    obtain rfl : x = y := le_antisymm (not_lt.mp hnlt') (not_lt.mp hnlt)
    have hrec := ih (List.pairwise_cons.mp hxs).2 (List.pairwise_cons.mp hys).2
    by_cases hz : x = z
    · subst hz
      simp only [List.count_cons_self, hrec]
      omega
    · rw [List.count_cons_of_ne hz, List.count_cons_of_ne hz, List.count_cons_of_ne hz, hrec]

theorem count_setDifference (xs ys : List α) (hxs : Sorted xs) (hys : Sorted ys) (z : α) :
    (setDifference xs ys).count z = xs.count z - ys.count z := by
  fun_induction setDifference xs ys with
  | case1 ys => simp
  | case2 x xs => simp
  | case3 x xs y ys hlt ih =>
    have hzero := count_eq_zero_of_lt hlt hys
    have hrec := ih (List.pairwise_cons.mp hxs).2 hys
    by_cases hz : x = z
    · subst hz
      simp only [List.count_cons_self, hrec, hzero]
      omega
    · rw [List.count_cons_of_ne hz, List.count_cons_of_ne hz, hrec]
  | case4 x xs y ys hnlt hlt ih =>
    have hzero := count_eq_zero_of_lt hlt hxs
    have hrec := ih hxs (List.pairwise_cons.mp hys).2
    by_cases hz : y = z
    · subst hz
      rw [hrec, hzero]
      omega
    · rw [hrec, List.count_cons_of_ne hz]
  | case5 x xs y ys hnlt hnlt' ih =>
    obtain rfl : x = y := le_antisymm (not_lt.mp hnlt') (not_lt.mp hnlt)
    have hrec := ih (List.pairwise_cons.mp hxs).2 (List.pairwise_cons.mp hys).2
    by_cases hz : x = z
    · subst hz
      simp only [List.count_cons_self, hrec]
      omega
    · rw [List.count_cons_of_ne hz, List.count_cons_of_ne hz, hrec]

theorem count_setIntersection (xs ys : List α) (hxs : Sorted xs) (hys : Sorted ys) (z : α) :
    (setIntersection xs ys).count z = min (xs.count z) (ys.count z) := by
  fun_induction setIntersection xs ys with
  | case1 ys => simp
  | case2 x xs => simp
  | case3 x xs y ys hlt ih =>
    have hzero := count_eq_zero_of_lt hlt hys
    have hrec := ih (List.pairwise_cons.mp hxs).2 hys
    by_cases hz : x = z
    · subst hz
      rw [hrec, hzero]
      omega
    · rw [hrec, List.count_cons_of_ne hz]
  | case4 x xs y ys hnlt hlt ih =>
    have hzero := count_eq_zero_of_lt hlt hxs
    have hrec := ih hxs (List.pairwise_cons.mp hys).2
    by_cases hz : y = z
    · subst hz
      rw [hrec, hzero]
      omega
    · rw [hrec, List.count_cons_of_ne hz]
  | case5 x xs y ys hnlt hnlt' ih =>
    obtain rfl : x = y := le_antisymm (not_lt.mp hnlt') (not_lt.mp hnlt)
    have hrec := ih (List.pairwise_cons.mp hxs).2 (List.pairwise_cons.mp hys).2
    by_cases hz : x = z
    · subst hz
      simp only [List.count_cons_self, hrec]
      omega
    · rw [List.count_cons_of_ne hz, List.count_cons_of_ne hz, List.count_cons_of_ne hz, hrec]

/-! ### Lists without repetitions -/

section Membership

variable {xs ys : List α}

theorem mem_setUnion (hxs : Sorted xs) (hys : Sorted ys) {z : α} :
    z ∈ setUnion xs ys ↔ z ∈ xs ∨ z ∈ ys := by
  rw [← List.count_pos_iff, ← List.count_pos_iff, ← List.count_pos_iff, count_setUnion xs ys hxs hys]
  omega

theorem nodup_setUnion (hxs : Sorted xs) (hys : Sorted ys) (hxs' : xs.Nodup) (hys' : ys.Nodup) :
    (setUnion xs ys).Nodup := by
  rw [List.nodup_iff_count_le_one] at *
  intro z
  rw [count_setUnion xs ys hxs hys]
  have hx := hxs' z
  have hy := hys' z
  omega

theorem mem_setDifference (hxs : Sorted xs) (hys : Sorted ys) (hxs' : xs.Nodup) {z : α} :
    z ∈ setDifference xs ys ↔ z ∈ xs ∧ z ∉ ys := by
  have hx := List.nodup_iff_count_le_one.mp hxs' z
  rw [← List.count_pos_iff, ← List.count_pos_iff, ← List.count_eq_zero,
    count_setDifference xs ys hxs hys]
  omega

/-- Nothing of a list is lost in a union, repetitions included. -/
theorem length_le_setUnion (hxs : Sorted xs) (hys : Sorted ys) :
    ys.length ≤ (setUnion xs ys).length := by
  refine (List.subperm_ext_iff.mpr fun z _ => ?_).length_le
  rw [count_setUnion xs ys hxs hys]
  exact le_max_right _ _

theorem setDifference_sublist (xs ys : List α) : (setDifference xs ys).Sublist xs := by
  fun_induction setDifference xs ys with
  | case1 ys => exact List.Sublist.refl []
  | case2 x xs => exact List.Sublist.refl (x :: xs)
  | case3 x xs y ys hlt ih => exact ih.cons_cons x
  | case4 x xs y ys hnlt hlt ih => exact ih
  | case5 x xs y ys hnlt hnlt' ih => exact ih.cons x

theorem nodup_setDifference (hxs : Sorted xs) (hys : Sorted ys) (hxs' : xs.Nodup) :
    (setDifference xs ys).Nodup := by
  rw [List.nodup_iff_count_le_one] at *
  intro z
  rw [count_setDifference xs ys hxs hys]
  have hx := hxs' z
  omega

theorem mem_setIntersection (hxs : Sorted xs) (hys : Sorted ys) {z : α} :
    z ∈ setIntersection xs ys ↔ z ∈ xs ∧ z ∈ ys := by
  rw [← List.count_pos_iff, ← List.count_pos_iff, ← List.count_pos_iff,
    count_setIntersection xs ys hxs hys]
  omega

theorem nodup_setIntersection (hxs : Sorted xs) (hys : Sorted ys) (hxs' : xs.Nodup) :
    (setIntersection xs ys).Nodup := by
  rw [List.nodup_iff_count_le_one] at *
  intro z
  rw [count_setIntersection xs ys hxs hys]
  have hx := hxs' z
  omega

@[simp] theorem mem_unique {z : α} : z ∈ unique xs ↔ z ∈ xs := by
  fun_induction unique xs with
  | case1 => rfl
  | case2 x => rfl
  | case3 x xs ih =>
    rw [ih]
    simp
  | case4 x y xs hne ih => rw [List.mem_cons, ih, ← List.mem_cons]

theorem nodup_unique (hxs : Sorted xs) : (unique xs).Nodup := by
  fun_induction unique xs with
  | case1 => exact List.nodup_nil
  | case2 x => exact List.nodup_singleton x
  | case3 x xs ih => exact ih (List.pairwise_cons.mp hxs).2
  | case4 x y xs hne ih =>
    obtain ⟨hhead, htail⟩ := List.pairwise_cons.mp hxs
    refine List.nodup_cons.mpr ⟨fun hmem => ?_, ih htail⟩
    have hlt : x < y := lt_of_le_of_ne (hhead y List.mem_cons_self) hne
    have hzero := count_eq_zero_of_lt hlt htail
    exact List.count_eq_zero.mp hzero (mem_unique.mp hmem)

theorem sorted_unique (hxs : Sorted xs) : Sorted (unique xs) := by
  fun_induction unique xs with
  | case1 => exact List.Pairwise.nil
  | case2 x => exact List.pairwise_singleton _ x
  | case3 x xs ih => exact ih (List.pairwise_cons.mp hxs).2
  | case4 x y xs hne ih =>
    obtain ⟨hhead, htail⟩ := List.pairwise_cons.mp hxs
    exact List.pairwise_cons.mpr ⟨fun z hz => hhead z (mem_unique.mp hz), ih htail⟩

/-- A sorted list without repetitions is determined by its members. -/
theorem eq_of_mem_iff (hxs : Sorted xs) (hys : Sorted ys) (hxs' : xs.Nodup) (hys' : ys.Nodup)
    (h : ∀ z, z ∈ xs ↔ z ∈ ys) : xs = ys :=
  ((List.perm_ext_iff_of_nodup hxs' hys').mpr h).eq_of_pairwise'
    hxs hys

end Membership

/-- The elements of a `std::set` filled from the list, in order. -/
def stdSet (xs : List α) : List α := unique (sort xs)

@[simp] theorem mem_stdSet {xs : List α} {z : α} : z ∈ stdSet xs ↔ z ∈ xs := by
  simp [stdSet]

theorem sorted_stdSet (xs : List α) : Sorted (stdSet xs) := sorted_unique (sorted_sort xs)

theorem nodup_stdSet (xs : List α) : (stdSet xs).Nodup := nodup_unique (sorted_sort xs)

end Edm.Library
