import Mathlib.Data.List.Find

/-! Tables of rows in insertion order, without a uniqueness constraint.  A statement acts on every
row that its predicate selects.  `value` reads a table as a map: the value of a key is the one of the
first row that has the key. -/

set_option autoImplicit false

namespace Edm.Library

universe u v w

/-- Rows in the order in which they were inserted. -/
structure Table (Row : Type u) where
  rows : List Row
  deriving DecidableEq, Repr

namespace Table

variable {Row : Type u} {Key : Type v} {Val : Type w}

/-- The table without rows. -/
def empty : Table Row := ⟨[]⟩

/-- `INSERT`: a new last row. -/
def insert (t : Table Row) (row : Row) : Table Row := ⟨t.rows ++ [row]⟩

/-- `UPDATE`: `set` on every row that `pred` selects. -/
def update (t : Table Row) (pred : Row → Bool) (set : Row → Row) : Table Row :=
  ⟨t.rows.map fun row => if pred row then set row else row⟩

/-- `DELETE`: without the rows that `pred` selects. -/
def delete (t : Table Row) (pred : Row → Bool) : Table Row :=
  ⟨t.rows.filter fun row => !pred row⟩

/-- `SELECT`: the rows that `pred` selects, in order. -/
def select (t : Table Row) (pred : Row → Bool) : List Row := t.rows.filter pred

/-- Every row satisfies `P`. -/
def All (P : Row → Prop) (t : Table Row) : Prop := ∀ row, row ∈ t.rows → P row

theorem all_empty (P : Row → Prop) : All P (empty : Table Row) := by
  intro row hrow
  simp [empty] at hrow

theorem All.insert {P : Row → Prop} {t : Table Row} (h : All P t) {row : Row} (hrow : P row) :
    All P (t.insert row) := by
  intro other hother
  simp only [Table.insert, List.mem_append, List.mem_singleton] at hother
  rcases hother with hother | rfl
  · exact h other hother
  · exact hrow

theorem All.update {P : Row → Prop} {t : Table Row} (h : All P t) {pred : Row → Bool}
    {set : Row → Row} (hset : ∀ row, P row → P (set row)) : All P (t.update pred set) := by
  intro other hother
  obtain ⟨row, hrow, rfl⟩ := List.mem_map.mp hother
  split
  · exact hset row (h row hrow)
  · exact h row hrow

theorem All.delete {P : Row → Prop} {t : Table Row} (h : All P t) (pred : Row → Bool) :
    All P (t.delete pred) := fun row hrow => h row (List.mem_filter.mp hrow).1

/-! ### The selected rows after a statement -/

theorem select_insert (t : Table Row) (row : Row) (sel : Row → Bool) :
    (t.insert row).select sel = t.select sel ++ if sel row then [row] else [] := by
  rw [select, insert, List.filter_append, ← select]
  cases hrow : sel row <;> simp [hrow]

/-- An update that moves no row in or out of the selection. -/
theorem select_update (t : Table Row) (pred : Row → Bool) (set : Row → Row) {sel : Row → Bool}
    (hsel : ∀ row, pred row = true → sel (set row) = sel row) :
    (t.update pred set).select sel =
      (t.select sel).map fun row => if pred row then set row else row := by
  have hkeep : ∀ row, sel (if pred row then set row else row) = sel row := by
    intro row
    split
    · rename_i hpred
      exact hsel row hpred
    · rfl
  rw [select, update, List.filter_map]
  simp only [Function.comp_def, hkeep, select]

theorem select_delete (t : Table Row) (pred sel : Row → Bool) :
    (t.delete pred).select sel = (t.select sel).filter fun row => !pred row := by
  simp only [select, delete, List.filter_filter]
  congr 1
  funext row
  exact Bool.and_comm _ _

/-! ### A table as a map -/

section Value

variable [DecidableEq Key] (key : Row → Key) (val : Row → Val)

/-- The value of the first row with key `k`. -/
def value (t : Table Row) (k : Key) : Option Val :=
  (t.rows.find? fun row => key row = k).map val

@[simp] theorem value_empty (k : Key) : value key val empty k = none := rfl

theorem value_insert (t : Table Row) (row : Row) (k : Key) :
    value key val (t.insert row) k =
      (value key val t k).or (if key row = k then some (val row) else none) := by
  unfold value insert
  rw [List.find?_append]
  cases t.rows.find? fun row => key row = k with
  | some first => rfl
  | none => by_cases h : key row = k <;> simp [h]

/-- An update that keeps the keys and gives the rows with key `k₀` the value `v`. -/
theorem value_update (t : Table Row) (k₀ : Key) (v : Val) {set : Row → Row}
    (hkey : ∀ row, key (set row) = key row) (hval : ∀ row, val (set row) = v) (k : Key) :
    value key val (t.update (fun row => key row = k₀) set) k =
      if k = k₀ then (value key val t k).map fun _ => v else value key val t k := by
  unfold value update
  have hkeys : ∀ row, key (if key row = k₀ then set row else row) = key row := by
    intro row
    split
    · exact hkey row
    · rfl
  simp only [decide_eq_true_eq, List.find?_map, Option.map_map, Function.comp_def, hkeys]
  cases hfirst : t.rows.find? fun row => key row = k with
  | none => simp
  | some first =>
    have hk : key first = k := by simpa using List.find?_some hfirst
    by_cases h : k = k₀
    · simp [hk, h, hval]
    · simp [hk, h]

/-- An update that keeps the values and moves the selected keys. -/
theorem value_rekey (t : Table Row) (pred : Row → Bool) (set : Row → Row) (move : Key → Key)
    (hkey : ∀ row, key (if pred row then set row else row) = move (key row))
    (hval : ∀ row, val (set row) = val row) (k : Key) :
    value key val (t.update pred set) k =
      (t.rows.find? fun row => move (key row) = k).map val := by
  unfold value update
  have hvals : ∀ row, val (if pred row then set row else row) = val row := by
    intro row
    split
    · exact hval row
    · rfl
  simp only [List.find?_map, Option.map_map, Function.comp_def, hkey, hvals]

theorem value_delete (t : Table Row) (k₀ k : Key) :
    value key val (t.delete fun row => key row = k₀) k =
      if k = k₀ then none else value key val t k := by
  unfold value delete
  rw [List.find?_filter]
  split
  · rename_i h
    subst h
    simp
  · rename_i h
    congr 2
    funext row
    by_cases hk : key row = k
    · simp [hk, h]
    · simp [hk]

theorem value_eq_none_iff {t : Table Row} {k : Key} :
    value key val t k = none ↔ ∀ row, row ∈ t.rows → key row ≠ k := by
  simp [value]

end Value

end Table

end Edm.Library
