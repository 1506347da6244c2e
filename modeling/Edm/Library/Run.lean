/-! Runs of a deterministic machine.  A machine is a step function on states; a run applies a list
of operations one after the other.  `Always` says that a property holds in every state of a run,
`Each` that a condition holds of every operation in the state it is applied to.  `always_iff_each`
relates the two, step by step. -/

set_option autoImplicit false

namespace Edm.Library

universe u v

variable {State : Type u} {Op : Type v} (step : State → Op → State)

/-- The state after the operations `ops` from `s`. -/
def run (s : State) (ops : List Op) : State := ops.foldl step s

@[simp] theorem run_nil (s : State) : run step s [] = s := rfl

@[simp] theorem run_cons (s : State) (op : Op) (ops : List Op) :
    run step s (op :: ops) = run step (step s op) ops := rfl

theorem run_append (s : State) (ops ops' : List Op) :
    run step s (ops ++ ops') = run step (run step s ops) ops' := List.foldl_append

/-- `P` holds in `s` and in every state that the operations reach from `s`. -/
def Always (P : State → Prop) : State → List Op → Prop
  | s, [] => P s
  | s, op :: ops => P s ∧ Always P (step s op) ops

/-- `C` holds of every operation, in the state it is applied to. -/
def Each (C : State → Op → Prop) : State → List Op → Prop
  | _, [] => True
  | s, op :: ops => C s op ∧ Each C (step s op) ops

variable {step}

theorem Always.head {P : State → Prop} {s : State} {ops : List Op} (h : Always step P s ops) :
    P s := by
  cases ops with
  | nil => exact h
  | cons op ops => exact h.1

theorem Always.last {P : State → Prop} {s : State} {ops : List Op} (h : Always step P s ops) :
    P (run step s ops) := by
  induction ops generalizing s with
  | nil => exact h
  | cons op ops ih => exact ih h.2

theorem Always.mono {P Q : State → Prop} (hPQ : ∀ s, P s → Q s) {s : State} {ops : List Op}
    (h : Always step P s ops) : Always step Q s ops := by
  induction ops generalizing s with
  | nil => exact hPQ s h
  | cons op ops ih => exact ⟨hPQ s h.1, ih h.2⟩

/-- `Always` in terms of the prefixes of the run. -/
theorem always_iff_prefix {P : State → Prop} {s : State} {ops : List Op} :
    Always step P s ops ↔ ∀ pre, pre <+: ops → P (run step s pre) := by
  induction ops generalizing s with
  | nil =>
    constructor
    · intro h pre hpre
      rw [List.prefix_nil.mp hpre]
      exact h
    · intro h
      exact h [] List.prefix_rfl
  | cons op ops ih =>
    constructor
    · rintro ⟨hs, hrest⟩ pre hpre
      cases pre with
      | nil => exact hs
      | cons first rest =>
        obtain ⟨rfl, hrest'⟩ := List.cons_prefix_cons.mp hpre
        exact ih.mp hrest rest hrest'
    · intro h
      refine ⟨h [] List.nil_prefix, ih.mpr fun pre hpre => ?_⟩
      exact h (op :: pre) (List.cons_prefix_cons.mpr ⟨rfl, hpre⟩)

/-- A property that every step keeps holds in every state of a run. -/
theorem always_of_step {P : State → Prop} (hstep : ∀ s op, P s → P (step s op)) {s : State}
    (hs : P s) (ops : List Op) : Always step P s ops := by
  induction ops generalizing s with
  | nil => exact hs
  | cons op ops ih => exact ⟨hs, ih (hstep s op hs)⟩

/-- A property that every step keeps when the step meets `C` holds in every state of a run whose
steps all meet `C`. -/
theorem always_of_each {P : State → Prop} {C : State → Op → Prop}
    (hstep : ∀ s op, P s → C s op → P (step s op)) {s : State} (hs : P s) {ops : List Op}
    (h : Each step C s ops) : Always step P s ops := by
  induction ops generalizing s with
  | nil => exact hs
  | cons op ops ih => exact ⟨hs, ih (hstep s op hs h.1) h.2⟩

/-- When every step that meets `C` keeps `I`, and from states of `I` meets `D`, all steps of a run
meet `D` when they meet `C`. -/
theorem each_of_each {I : State → Prop} {C D : State → Op → Prop}
    (hI : ∀ s op, I s → C s op → I (step s op)) (hD : ∀ s op, I s → C s op → D s op) {s : State}
    (hs : I s) {ops : List Op} (h : Each step C s ops) : Each step D s ops := by
  induction ops generalizing s with
  | nil => trivial
  | cons op ops ih => exact ⟨hD s op hs h.1, ih (hI s op hs h.1) h.2⟩

theorem each_true (s : State) (ops : List Op) : Each step (fun _ _ => True) s ops := by
  induction ops generalizing s with
  | nil => trivial
  | cons op ops ih => exact ⟨trivial, ih (step s op)⟩

/-- The end of a run. -/
theorem Each.append_right {C : State → Op → Prop} {s : State} {ops ops' : List Op}
    (h : Each step C s (ops ++ ops')) : Each step C (run step s ops) ops' := by
  induction ops generalizing s with
  | nil => exact h
  | cons op ops ih => exact ih h.2

/-- A condition on all operations of a run, whatever the states. -/
theorem Each.and_all {C : State → Op → Prop} {Q : Op → Prop} {s : State} {ops : List Op}
    (h : Each step C s ops) (hQ : ∀ op, op ∈ ops → Q op) :
    Each step (fun s op => C s op ∧ Q op) s ops := by
  induction ops generalizing s with
  | nil => trivial
  | cons op ops ih =>
    exact ⟨⟨h.1, hQ op List.mem_cons_self⟩,
      ih h.2 fun other hother => hQ other (List.mem_cons_of_mem op hother)⟩

/-- When `I` is kept by every step, and a step from a state of `I` and `P` leads to a state of `P`
exactly when it meets `C`, a run stays in `P` exactly when all its steps meet `C`.  `Q` is what is
known of the operations of the run. -/
theorem always_iff_each_of {Q : Op → Prop} {I P : State → Prop} {C : State → Op → Prop}
    (hI : ∀ s op, Q op → I s → P s → P (step s op) → I (step s op))
    (hP : ∀ s op, Q op → I s → P s → (P (step s op) ↔ C s op)) {s : State} (hIs : I s)
    (hPs : P s) (ops : List Op) (hQ : ∀ op, op ∈ ops → Q op) :
    Always step P s ops ↔ Each step C s ops := by
  induction ops generalizing s with
  | nil => exact ⟨fun _ => trivial, fun _ => hPs⟩
  | cons op ops ih =>
    have hop := hQ op List.mem_cons_self
    have hrest := fun other hother => hQ other (List.mem_cons_of_mem op hother)
    constructor
    · rintro ⟨-, hnext⟩
      have hhead := hnext.head
      exact ⟨(hP s op hop hIs hPs).mp hhead,
        (ih (hI s op hop hIs hPs hhead) hhead hrest).mp hnext⟩
    · rintro ⟨hstep, hnext⟩
      have hhead := (hP s op hop hIs hPs).mpr hstep
      exact ⟨hPs, (ih (hI s op hop hIs hPs hhead) hhead hrest).mpr hnext⟩

theorem always_iff_each {I P : State → Prop} {C : State → Op → Prop}
    (hI : ∀ s op, I s → P s → P (step s op) → I (step s op))
    (hP : ∀ s op, I s → P s → (P (step s op) ↔ C s op)) {s : State} (hIs : I s) (hPs : P s)
    (ops : List Op) : Always step P s ops ↔ Each step C s ops :=
  always_iff_each_of (Q := fun _ => True) (fun s op _ => hI s op) (fun s op _ => hP s op) hIs hPs
    ops fun _ _ => trivial

/-- When every step that meets `K` keeps `I`, and on states of `I` the conditions `C` and `D` say the
same, they say the same of all operations of a run whose operations meet `K`. -/
theorem each_iff_each {I : State → Prop} {K C D : State → Op → Prop}
    (hI : ∀ s op, I s → K s op → I (step s op)) (hCD : ∀ s op, I s → (C s op ↔ D s op))
    {s : State} (hs : I s) {ops : List Op} (hK : Each step K s ops) :
    Each step C s ops ↔ Each step D s ops := by
  induction ops generalizing s with
  | nil => exact Iff.rfl
  | cons op ops ih => exact and_congr (hCD s op hs) (ih (hI s op hs hK.1) hK.2)

end Edm.Library
