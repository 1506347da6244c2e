/-! Steps that are taken one after the other, up to the first that fails.  Such a sequence may fail and
still leave the state as it was: every step before the failing one had nothing to do, and the failing
one did nothing.  `attempt_unchanged_iff` says that there is no other way, when what a step does is
not undone by a later one. -/

set_option autoImplicit false

namespace Edm.Library

universe u v

variable {State : Type u} {Op : Type v} (step : State → Op → Bool × State)

/-- Whether all operations succeed, and the state after the last one that was tried. -/
def attempt : State → List Op → Bool × State
  | s, [] => (true, s)
  | s, op :: ops => if (step s op).1 then attempt (step s op).2 ops else step s op

@[simp] theorem attempt_nil (s : State) : attempt step s [] = (true, s) := rfl

theorem attempt_cons_ok {s : State} {op : Op} (h : (step s op).1 = true) (ops : List Op) :
    attempt step s (op :: ops) = attempt step (step s op).2 ops := by
  rw [attempt, if_pos h]

theorem attempt_cons_failed {s : State} {op : Op} (h : (step s op).1 = false) (ops : List Op) :
    attempt step s (op :: ops) = step s op := by
  rw [attempt, if_neg (Bool.eq_false_iff.mp h)]

/-- What every step keeps, a sequence keeps. -/
theorem attempt_keeps {P : State → Prop} (hstep : ∀ s op, P s → P (step s op).2) {s : State}
    (hs : P s) (ops : List Op) : P (attempt step s ops).2 := by
  induction ops generalizing s with
  | nil => exact hs
  | cons op ops ih =>
    cases h : (step s op).1 with
    | true =>
      rw [attempt_cons_ok step h]
      exact ih (hstep s op hs)
    | false =>
      rw [attempt_cons_failed step h]
      exact hstep s op hs

/-- One of the operations is blocked, and those before it are idle. -/
def Stops (idle blocked : Op → Prop) : List Op → Prop
  | [] => False
  | op :: ops => blocked op ∨ idle op ∧ Stops idle blocked ops

theorem Stops.congr {idle idle' blocked blocked' : Op → Prop} {ops : List Op}
    (hidle : ∀ op, op ∈ ops → (idle op ↔ idle' op))
    (hblocked : ∀ op, op ∈ ops → (blocked op ↔ blocked' op)) :
    Stops idle blocked ops ↔ Stops idle' blocked' ops := by
  induction ops with
  | nil => exact Iff.rfl
  | cons op ops ih =>
    have hrest := ih (fun x hx => hidle x (List.mem_cons_of_mem op hx))
      fun x hx => hblocked x (List.mem_cons_of_mem op hx)
    unfold Stops
    rw [hidle op List.mem_cons_self, hblocked op List.mem_cons_self, hrest]

/-- `Same` compares two states, `I` is what is known of a state and the operations that are left.  A
step that succeeds leaves the same state when it is idle, and one that is not idle is not made up for
by the steps after it; a step that fails leaves the same state when it is blocked. -/
theorem attempt_unchanged_iff (I : State → List Op → Prop) (Same : State → State → Prop)
    (Idle Blocked : State → Op → Prop)
    (hI : ∀ s op ops, I s (op :: ops) → (step s op).1 = true → I (step s op).2 ops)
    (hidle : ∀ s op ops, I s (op :: ops) → Idle s op →
      (step s op).1 = true ∧ Same s (step s op).2)
    (hlost : ∀ s op ops, I s (op :: ops) → (step s op).1 = true → ¬Idle s op →
      ¬Same s (attempt step (step s op).2 ops).2)
    (hblocked : ∀ s op ops, I s (op :: ops) →
      ((step s op).1 = false ∧ Same s (step s op).2 ↔ Blocked s op))
    (hsame : ∀ s s', Same s s' → ∀ t, (Same s t ↔ Same s' t))
    (hidle_congr : ∀ s s' op, Same s s' → (Idle s op ↔ Idle s' op))
    (hblocked_congr : ∀ s s' op, Same s s' → (Blocked s op ↔ Blocked s' op))
    {s : State} {ops : List Op} (hs : I s ops) :
    (attempt step s ops).1 = false ∧ Same s (attempt step s ops).2 ↔
      Stops (Idle s) (Blocked s) ops := by
  induction ops generalizing s with
  | nil => exact iff_of_false (fun h => Bool.noConfusion h.1) id
  | cons op ops ih =>
    unfold Stops
    rw [← hblocked s op ops hs]
    cases hstep : (step s op).1 with
    | false =>
      rw [attempt_cons_failed step hstep, hstep]
      refine ⟨.inl, fun h => h.elim id fun hrest => ?_⟩
      have hok := (hidle s op ops hs hrest.1).1
      rw [hstep] at hok
      contradiction
    | true =>
      rw [attempt_cons_ok step hstep]
      have hnot : ¬(true = false ∧ Same s (step s op).2) := fun h => Bool.noConfusion h.1
      rw [or_iff_right hnot]
      by_cases hop : Idle s op
      · have hnext := (hidle s op ops hs hop).2
        have hrest := ih (hI s op ops hs hstep)
        rw [and_iff_right hop, hsame s _ hnext, hrest]
        exact Stops.congr (fun x _ => (hidle_congr s _ x hnext).symm)
          fun x _ => (hblocked_congr s _ x hnext).symm
      · exact iff_of_false (fun h => hlost s op ops hs hstep hop h.2) fun h => hop h.1

end Edm.Library
