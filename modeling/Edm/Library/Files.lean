import Mathlib.Data.List.Basic
import Mathlib.Logic.Function.Basic

/-! Files under their paths: a list of writes, and a list of removals of which some fail. -/

set_option autoImplicit false

namespace Edm.Library

universe u v

variable {π : Type u} {γ : Type v} [DecidableEq π]

/-- Every file with its content. -/
abbrev Files (π : Type u) (γ : Type v) := π → Option γ

def Files.write (files : Files π γ) (path : π) (content : γ) : Files π γ :=
  Function.update files path (some content)

def Files.remove (files : Files π γ) (path : π) : Files π γ := Function.update files path none

/-- Writes one file after the other. -/
def Files.writeAll (files : Files π γ) : List (π × γ) → Files π γ
  | [] => files
  | w :: writes => (files.write w.1 w.2).writeAll writes

/-- What the last write to a path wrote. -/
def lastWritten (path : π) : List (π × γ) → Option γ
  | [] => none
  | w :: writes => (lastWritten path writes).or (if w.1 = path then some w.2 else none)

/-- Removes one file after the other.  The outcome under an index says whether that removal
succeeds. -/
def Files.removeAll (outcomes : Nat → Bool) : Nat → List π → Files π γ → Files π γ
  | _, [], files => files
  | i, path :: paths, files =>
    removeAll outcomes (i + 1) paths (if outcomes i then files.remove path else files)

/-- Some removal of the path succeeds. -/
def RemovedIn (outcomes : Nat → Bool) (paths : List π) (path : π) : Prop :=
  ∃ i, paths[i]? = some path ∧ outcomes i = true

namespace Files

variable {files : Files π γ}

@[simp] theorem write_self (path : π) (content : γ) : files.write path content path = some content :=
  Function.update_self ..

theorem write_of_ne {path other : π} (h : other ≠ path) (content : γ) :
    files.write path content other = files other :=
  Function.update_of_ne h ..

@[simp] theorem remove_self (path : π) : files.remove path path = none := Function.update_self ..

theorem remove_of_ne {path other : π} (h : other ≠ path) :
    files.remove path other = files other :=
  Function.update_of_ne h ..

theorem write_write (path : π) (content content' : γ) :
    (files.write path content).write path content' = files.write path content' :=
  Function.update_idem ..

/-- After the writes every file holds what was written to it last. -/
theorem writeAll_apply (writes : List (π × γ)) (path : π) :
    files.writeAll writes path = (lastWritten path writes).or (files path) := by
  induction writes generalizing files with
  | nil => rfl
  | cons w writes ih =>
    rw [writeAll, ih, lastWritten, Option.or_assoc]
    by_cases hpath : w.1 = path
    · rw [if_pos hpath, ← hpath, write_self]
      rfl
    · rw [if_neg hpath, write_of_ne (Ne.symm hpath)]
      rfl

theorem writeAll_append (writes writes' : List (π × γ)) :
    files.writeAll (writes ++ writes') = (files.writeAll writes).writeAll writes' := by
  induction writes generalizing files with
  | nil => rfl
  | cons w writes ih => exact ih

theorem lastWritten_isSome {writes : List (π × γ)} {path : π}
    (hpath : path ∈ writes.map Prod.fst) : (lastWritten path writes).isSome = true := by
  induction writes with
  | nil => exact absurd hpath List.not_mem_nil
  | cons w writes ih =>
    rw [lastWritten, Option.isSome_or]
    rcases List.mem_cons.mp hpath with rfl | hin
    · simp
    · rw [ih hin, Bool.true_or]

theorem writeAll_of_mem {writes : List (π × γ)} {path : π} (hpath : path ∈ writes.map Prod.fst) :
    files.writeAll writes path = lastWritten path writes := by
  obtain ⟨content, hcontent⟩ := Option.isSome_iff_exists.mp (lastWritten_isSome hpath)
  rw [writeAll_apply, hcontent]
  rfl

theorem writeAll_isSome {writes : List (π × γ)} {path : π} (hpath : path ∈ writes.map Prod.fst) :
    files.writeAll writes path ≠ none := by
  rw [writeAll_of_mem hpath]
  exact Option.isSome_iff_ne_none.mp (lastWritten_isSome hpath)

/-- A file is gone after the removals if it was not there or one of its removals succeeds. -/
theorem removeAll_eq_none {outcomes : Nat → Bool} {start : Nat} {paths : List π} {path : π} :
    files.removeAll outcomes start paths path = none ↔
      files path = none ∨ RemovedIn (fun i => outcomes (start + i)) paths path := by
  induction paths generalizing files start with
  | nil => simp [removeAll, RemovedIn]
  | cons first paths ih =>
    have htail : RemovedIn (fun i => outcomes (start + i)) (first :: paths) path ↔
        (first = path ∧ outcomes start = true) ∨
          RemovedIn (fun i => outcomes (start + 1 + i)) paths path := by
      constructor
      · rintro ⟨i, hi, hout⟩
        cases i with
        | zero => exact .inl ⟨by simpa using hi, hout⟩
        | succ i =>
          have hindex : start + 1 + i = start + (i + 1) := by omega
          exact .inr ⟨i, hi, (congrArg outcomes hindex).trans hout⟩
      · rintro (⟨rfl, hout⟩ | ⟨i, hi, hout⟩)
        · exact ⟨0, rfl, hout⟩
        · have hindex : start + (i + 1) = start + 1 + i := by omega
          exact ⟨i + 1, hi, (congrArg outcomes hindex).trans hout⟩
    rw [removeAll, ih, htail]
    cases hout : outcomes start with
    | false => simp
    | true =>
      by_cases hpath : first = path
      · subst hpath
        simp
      · rw [if_pos rfl, remove_of_ne (Ne.symm hpath)]
        simp [hpath]

end Files

end Edm.Library
