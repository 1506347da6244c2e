import Mathlib.Data.List.Nodup
import Mathlib.Logic.Function.Basic

/-! Critical sections.  Each section takes a lock, runs its atomic steps on the shared state and on
registers of its own, and gives the lock back; sections of different locks interleave step by step.
`serializable`: if the steps of sections that may overlap are independent, then every run leaves what
the sections leave one after the other, in the order in which they were entered. -/

set_option autoImplicit false

namespace Edm.Library

universe u v w x

/-- A section without a lock overlaps with every other. -/
structure CriticalSection (Lock : Type u) (Reg : Type v) (Shared : Type w) where
  lock : Option Lock
  start : Reg
  code : List (Reg → Shared → Reg × Shared)

inductive SectionEvent (ι : Type x) where
  | enter (i : ι)
  | move (i : ι)
  | leave (i : ι)
  deriving DecidableEq

/-- Where a section stands, with the steps that are left. -/
inductive Phase (Step : Type u) where
  | waiting
  | inside (rest : List Step)
  | left

namespace CriticalSection

variable {Lock : Type u} {Reg : Type v} {Shared : Type w} {ι : Type x} [DecidableEq ι]

/-- The registers of all sections, and the shared state. -/
abbrev Memory (Reg : Type v) (Shared : Type w) (ι : Type x) := (ι → Reg) × Shared

structure Config (Reg : Type v) (Shared : Type w) (ι : Type x) where
  memory : Memory Reg Shared ι
  phase : ι → Phase (Reg → Shared → Reg × Shared)

/-- A step of a section. -/
def act (i : ι) (f : Reg → Shared → Reg × Shared) (m : Memory Reg Shared ι) :
    Memory Reg Shared ι :=
  (Function.update m.1 i (f (m.1 i) m.2).1, (f (m.1 i) m.2).2)

def runCode (i : ι) (code : List (Reg → Shared → Reg × Shared)) (m : Memory Reg Shared ι) :
    Memory Reg Shared ι :=
  code.foldl (fun m f => act i f m) m

/-- The code of a section that nothing interrupts. -/
def runSteps (code : List (Reg → Shared → Reg × Shared)) (r : Reg) (s : Shared) : Reg × Shared :=
  code.foldl (fun m f => f m.1 m.2) (r, s)

variable (sections : ι → CriticalSection Lock Reg Shared)

/-- What a section leaves when it runs alone. -/
def alone (i : ι) (s : Shared) : Reg × Shared := runSteps (sections i).code (sections i).start s

/-- Two sections with the same lock. -/
def Excludes (i j : ι) : Prop :=
  (sections i).lock ≠ none ∧ (sections i).lock = (sections j).lock

inductive Step : Config Reg Shared ι → SectionEvent ι → Config Reg Shared ι → Prop
  | enter {c : Config Reg Shared ι} {i : ι} (hwaiting : c.phase i = .waiting)
      (hfree : ∀ j rest, c.phase j = .inside rest → ¬Excludes sections i j) :
      Step c (.enter i) { c with phase := Function.update c.phase i (.inside (sections i).code) }
  | move {c : Config Reg Shared ι} {i : ι} {f : Reg → Shared → Reg × Shared}
      {rest : List (Reg → Shared → Reg × Shared)} (hinside : c.phase i = .inside (f :: rest)) :
      Step c (.move i) ⟨act i f c.memory, Function.update c.phase i (.inside rest)⟩
  | leave {c : Config Reg Shared ι} {i : ι} (hinside : c.phase i = .inside []) :
      Step c (.leave i) { c with phase := Function.update c.phase i .left }

/-- A run, with its events in the order in which they happen. -/
inductive Run (c₀ : Config Reg Shared ι) : List (SectionEvent ι) → Config Reg Shared ι → Prop
  | start : Run c₀ [] c₀
  | step {events : List (SectionEvent ι)} {c c' : Config Reg Shared ι} {event : SectionEvent ι}
      (hrun : Run c₀ events c) (hstep : Step sections c event c') :
      Run c₀ (events ++ [event]) c'

def Config.start (shared : Shared) : Config Reg Shared ι :=
  ⟨(fun i => (sections i).start, shared), fun _ => .waiting⟩

/-- The sections in the order in which they are entered. -/
def entered (events : List (SectionEvent ι)) : List ι :=
  events.filterMap fun
    | .enter i => some i
    | _ => none

/-- One section after the other. -/
def serial (order : List ι) (m : Memory Reg Shared ι) : Memory Reg Shared ι :=
  order.foldl (fun m i => runCode i (sections i).code m) m

/-- Neither step changes what the other does to its registers, and the shared state does not depend
on their order. -/
structure Independent (Inv : Shared → Prop) (f g : Reg → Shared → Reg × Shared) : Prop where
  left : ∀ r r' s, Inv s → (f r (g r' s).2).1 = (f r s).1
  right : ∀ r r' s, Inv s → (g r' (f r s).2).1 = (g r' s).1
  shared : ∀ r r' s, Inv s → (f r (g r' s).2).2 = (g r' (f r s).2).2

/-- Every step keeps the invariant, and those of sections that may overlap are independent. -/
structure Apart (Inv : Shared → Prop) : Prop where
  keeps : ∀ i f, f ∈ (sections i).code → ∀ r s, Inv s → Inv (f r s).2
  independent : ∀ i j, i ≠ j → ¬Excludes sections i j →
    ∀ f, f ∈ (sections i).code → ∀ g, g ∈ (sections j).code → Independent Inv f g

variable {sections} {Inv : Shared → Prop}

omit [DecidableEq ι] in
theorem Excludes.symm {i j : ι} (h : Excludes sections i j) : Excludes sections j i :=
  ⟨h.2 ▸ h.1, h.2.symm⟩

theorem Independent.symm {f g : Reg → Shared → Reg × Shared} (h : Independent Inv f g) :
    Independent Inv g f where
  left r r' := h.right r' r
  right r r' := h.left r' r
  shared r r' s hs := (h.shared r' r s hs).symm

@[simp] theorem runCode_nil (i : ι) (m : Memory Reg Shared ι) : runCode i [] m = m := rfl

theorem runCode_append (i : ι) (code code' : List (Reg → Shared → Reg × Shared))
    (m : Memory Reg Shared ι) :
    runCode i (code ++ code') m = runCode i code' (runCode i code m) :=
  List.foldl_append ..

theorem act_comm {i j : ι} (hne : i ≠ j) {f g : Reg → Shared → Reg × Shared}
    (h : Independent Inv f g) {m : Memory Reg Shared ι} (hm : Inv m.2) :
    act i f (act j g m) = act j g (act i f m) := by
  obtain ⟨regs, s⟩ := m
  have hleft := h.left (regs i) (regs j) s hm
  have hright := h.right (regs i) (regs j) s hm
  have hshared := h.shared (regs i) (regs j) s hm
  simp only [act, Function.update_of_ne hne, Function.update_of_ne hne.symm, hleft, hright, hshared]
  rw [Function.update_comm hne]

theorem runCode_inv {i : ι} {code : List (Reg → Shared → Reg × Shared)}
    (h : ∀ f, f ∈ code → ∀ r s, Inv s → Inv (f r s).2) {m : Memory Reg Shared ι} (hm : Inv m.2) :
    Inv (runCode i code m).2 := by
  induction code generalizing m with
  | nil => exact hm
  | cons f code ih =>
    exact ih (fun g hg => h g (List.mem_cons_of_mem f hg)) (h f List.mem_cons_self _ _ hm)

/-- A step goes before the steps of another section. -/
theorem act_runCode {i j : ι} (hne : i ≠ j) {f : Reg → Shared → Reg × Shared}
    {code : List (Reg → Shared → Reg × Shared)}
    (hkeeps : ∀ g, g ∈ code → ∀ r s, Inv s → Inv (g r s).2)
    (h : ∀ g, g ∈ code → Independent Inv f g) {m : Memory Reg Shared ι} (hm : Inv m.2) :
    act i f (runCode j code m) = runCode j code (act i f m) := by
  induction code generalizing m with
  | nil => rfl
  | cons g code ih =>
    have hg := h g List.mem_cons_self
    have hafter : Inv (act j g m).2 := hkeeps g List.mem_cons_self _ _ hm
    show act i f (runCode j code (act j g m)) = runCode j code (act j g (act i f m))
    rw [ih (fun g' hg' => hkeeps g' (List.mem_cons_of_mem g hg'))
      (fun g' hg' => h g' (List.mem_cons_of_mem g hg')) hafter, act_comm hne hg hm]

/-- The sections one after the other, each as far as it has come. -/
def progress (done : ι → List (Reg → Shared → Reg × Shared)) (order : List ι)
    (m : Memory Reg Shared ι) : Memory Reg Shared ι :=
  order.foldl (fun m i => runCode i (done i) m) m

theorem progress_append (done : ι → List (Reg → Shared → Reg × Shared)) (order order' : List ι)
    (m : Memory Reg Shared ι) :
    progress done (order ++ order') m = progress done order' (progress done order m) :=
  List.foldl_append ..

theorem progress_congr {done done' : ι → List (Reg → Shared → Reg × Shared)} {order : List ι}
    (h : ∀ i, i ∈ order → done i = done' i) (m : Memory Reg Shared ι) :
    progress done order m = progress done' order m := by
  induction order generalizing m with
  | nil => rfl
  | cons i order ih =>
    show progress done order (runCode i (done i) m) = progress done' order (runCode i (done' i) m)
    rw [h i List.mem_cons_self, ih fun j hj => h j (List.mem_cons_of_mem i hj)]

theorem progress_update {done : ι → List (Reg → Shared → Reg × Shared)} {order : List ι} {i : ι}
    (hi : i ∉ order) (code : List (Reg → Shared → Reg × Shared)) (m : Memory Reg Shared ι) :
    progress (Function.update done i code) order m = progress done order m := by
  refine progress_congr (fun j hj => ?_) m
  have hne : j ≠ i := fun heq => hi (heq ▸ hj)
  exact Function.update_of_ne hne ..

theorem progress_inv {done : ι → List (Reg → Shared → Reg × Shared)} {order : List ι}
    (h : ∀ i, i ∈ order → ∀ f, f ∈ done i → ∀ r s, Inv s → Inv (f r s).2)
    {m : Memory Reg Shared ι} (hm : Inv m.2) : Inv (progress done order m).2 := by
  induction order generalizing m with
  | nil => exact hm
  | cons i order ih =>
    exact ih (fun j hj => h j (List.mem_cons_of_mem i hj))
      (runCode_inv (h i List.mem_cons_self) hm)

/-- A step goes before all that later sections have done. -/
theorem act_progress {i : ι} {f : Reg → Shared → Reg × Shared}
    {done : ι → List (Reg → Shared → Reg × Shared)} {order : List ι} (hi : i ∉ order)
    (hkeeps : ∀ j, j ∈ order → ∀ g, g ∈ done j → ∀ r s, Inv s → Inv (g r s).2)
    (h : ∀ j, j ∈ order → ∀ g, g ∈ done j → Independent Inv f g) {m : Memory Reg Shared ι}
    (hm : Inv m.2) : act i f (progress done order m) = progress done order (act i f m) := by
  induction order generalizing m with
  | nil => rfl
  | cons j order ih =>
    have hne : i ≠ j := fun heq => hi (heq ▸ List.mem_cons_self)
    have hafter : Inv (runCode j (done j) m).2 := runCode_inv (hkeeps j List.mem_cons_self) hm
    show act i f (progress done order (runCode j (done j) m)) =
      progress done order (runCode j (done j) (act i f m))
    rw [ih (fun hin => hi (List.mem_cons_of_mem j hin))
      (fun k hk => hkeeps k (List.mem_cons_of_mem j hk))
      (fun k hk => h k (List.mem_cons_of_mem j hk)) hafter,
      act_runCode hne (hkeeps j List.mem_cons_self) (h j List.mem_cons_self) hm]

/-- The memory is what the entered sections have done so far, one after the other; a section that has
not left holds its lock against all that were entered after it. -/
structure Serialized (sections : ι → CriticalSection Lock Reg Shared) (shared : Shared)
    (order : List ι) (done : ι → List (Reg → Shared → Reg × Shared)) (c : Config Reg Shared ι) :
    Prop where
  nodup : order.Nodup
  waiting : ∀ i, c.phase i = .waiting ↔ i ∉ order
  inside : ∀ i rest, c.phase i = .inside rest → (sections i).code = done i ++ rest
  left : ∀ i, c.phase i = .left → done i = (sections i).code
  memory : c.memory = progress done order (Config.start sections shared).memory
  locked : ∀ before i after, order = before ++ i :: after → c.phase i ≠ .left →
    ∀ j, j ∈ after → ¬Excludes sections i j

theorem serialized_start (sections : ι → CriticalSection Lock Reg Shared) (shared : Shared) :
    Serialized sections shared [] (fun _ => []) (Config.start sections shared) where
  nodup := List.nodup_nil
  waiting _ := iff_of_true rfl List.not_mem_nil
  inside _ _ h := by cases h
  left _ h := by cases h
  memory := rfl
  locked before i after h := by
    have hlength := congrArg List.length h
    simp at hlength

section Steps

variable {shared : Shared} {order : List ι} {done : ι → List (Reg → Shared → Reg × Shared)}
  {c : Config Reg Shared ι}

theorem Serialized.done_initial (h : Serialized sections shared order done c) {i : ι}
    (hi : i ∈ order) : done i <+: (sections i).code := by
  cases hphase : c.phase i with
  | waiting => exact absurd hi ((h.waiting i).mp hphase)
  | inside rest => exact ⟨rest, (h.inside i rest hphase).symm⟩
  | left => exact h.left i hphase ▸ List.prefix_rfl

theorem Serialized.enter (h : Serialized sections shared order done c) {i : ι}
    (hwaiting : c.phase i = .waiting)
    (hfree : ∀ j rest, c.phase j = .inside rest → ¬Excludes sections i j) :
    Serialized sections shared (order ++ [i]) (Function.update done i [])
      { c with phase := Function.update c.phase i (.inside (sections i).code) } := by
  have hi : i ∉ order := (h.waiting i).mp hwaiting
  constructor
  · exact List.Nodup.append h.nodup (List.nodup_singleton i)
      (List.disjoint_singleton.mpr hi)
  · intro j
    by_cases hj : j = i
    · subst hj
      simp
    · simp [h.waiting j, hj]
  · intro j rest hphase
    by_cases hj : j = i
    · subst hj
      simp only [Function.update_self, Phase.inside.injEq] at hphase
      rw [Function.update_self, hphase]
      rfl
    · simp only [Function.update_of_ne hj] at hphase ⊢
      exact h.inside j rest hphase
  · intro j hphase
    by_cases hj : j = i
    · subst hj
      simp at hphase
    · simp only [Function.update_of_ne hj] at hphase ⊢
      exact h.left j hphase
  · rw [progress_append, progress_update hi, ← h.memory]
    show c.memory = runCode i (Function.update done i [] i) c.memory
    rw [Function.update_self, runCode_nil]
  · intro before j after horder hphase k hk
    rcases List.append_eq_append_iff.mp horder with ⟨tail, hbefore, htail⟩ | ⟨tail, hbefore, htail⟩
    · -- the split lies behind the old order: only the new section is left
      have hlength := congrArg List.length htail
      simp only [List.length_append, List.length_cons, List.length_nil] at hlength
      have hnil : after = [] := List.length_eq_zero_iff.mp (by omega)
      rw [hnil] at hk
      exact absurd hk List.not_mem_nil
    · cases tail with
      | nil =>
        obtain ⟨-, rfl⟩ := List.cons.inj htail
        exact absurd hk List.not_mem_nil
      | cons j' tail =>
        obtain ⟨rfl, rfl⟩ := List.cons.inj htail
        have hj : j ∈ order := hbefore ▸ List.mem_append_right _ List.mem_cons_self
        have hne : j ≠ i := fun heq => hi (heq ▸ hj)
        simp only [Function.update_of_ne hne] at hphase
        rcases List.mem_append.mp hk with hk | hk
        · exact h.locked before j tail hbefore hphase k hk
        · obtain rfl := List.mem_singleton.mp hk
          intro hexcludes
          cases hold : c.phase j with
          | waiting => exact (h.waiting j).mp hold hj
          | inside rest => exact hfree j rest hold hexcludes.symm
          | left => exact hphase hold

theorem Serialized.leave (h : Serialized sections shared order done c) {i : ι}
    (hinside : c.phase i = .inside []) :
    Serialized sections shared order done
      { c with phase := Function.update c.phase i .left } := by
  have hi : i ∈ order := by
    by_contra hnot
    rw [(h.waiting i).mpr hnot] at hinside
    cases hinside
  constructor
  · exact h.nodup
  · intro j
    by_cases hj : j = i
    · subst hj
      simp [hi]
    · simp [Function.update_of_ne hj, h.waiting j]
  · intro j rest hphase
    by_cases hj : j = i
    · subst hj
      simp at hphase
    · simp only [Function.update_of_ne hj] at hphase
      exact h.inside j rest hphase
  · intro j hphase
    by_cases hj : j = i
    · subst hj
      rw [h.inside j [] hinside, List.append_nil]
    · simp only [Function.update_of_ne hj] at hphase
      exact h.left j hphase
  · exact h.memory
  · intro before j after horder hphase
    refine h.locked before j after horder fun hold => hphase ?_
    by_cases hj : j = i
    · subst hj
      exact Function.update_self ..
    · exact (Function.update_of_ne hj ..).trans hold

theorem Serialized.move (h : Serialized sections shared order done c)
    (hapart : Apart sections Inv) (hshared : Inv shared) {i : ι}
    {f : Reg → Shared → Reg × Shared} {rest : List (Reg → Shared → Reg × Shared)}
    (hinside : c.phase i = .inside (f :: rest)) :
    Serialized sections shared order (Function.update done i (done i ++ [f]))
      ⟨act i f c.memory, Function.update c.phase i (.inside rest)⟩ := by
  have hi : i ∈ order := by
    by_contra hnot
    rw [(h.waiting i).mpr hnot] at hinside
    cases hinside
  have hcode := h.inside i (f :: rest) hinside
  obtain ⟨before, after, horder⟩ := List.append_of_mem hi
  have hnodup : (before ++ i :: after).Nodup := horder ▸ h.nodup
  have hbefore : i ∉ before := fun hin =>
    (List.disjoint_of_nodup_append hnodup) hin List.mem_cons_self
  have hafter : i ∉ after := (List.nodup_cons.mp hnodup.of_append_right).1
  have hphase : c.phase i ≠ .left := by
    rw [hinside]
    intro heq
    cases heq
  have hlocked := h.locked before i after horder hphase
  have hmem : ∀ j, j ∈ order → ∀ g, g ∈ done j → g ∈ (sections j).code := fun j hj g hg =>
    (h.done_initial hj).subset hg
  have hkeeps : ∀ j, j ∈ order → ∀ g, g ∈ done j → ∀ r s, Inv s → Inv (g r s).2 :=
    fun j hj g hg => hapart.keeps j g (hmem j hj g hg)
  constructor
  · exact h.nodup
  · intro j
    by_cases hj : j = i
    · subst hj
      simp [hi]
    · simp [Function.update_of_ne hj, h.waiting j]
  · intro j rest' hphase'
    by_cases hj : j = i
    · subst hj
      simp only [Function.update_self, Phase.inside.injEq] at hphase'
      rw [Function.update_self, hcode, hphase', List.append_assoc]
      rfl
    · simp only [Function.update_of_ne hj] at hphase' ⊢
      exact h.inside j rest' hphase'
  · intro j hphase'
    by_cases hj : j = i
    · subst hj
      simp at hphase'
    · simp only [Function.update_of_ne hj] at hphase' ⊢
      exact h.left j hphase'
  · -- the step moves before everything that the later sections have done
    have hsplit : ∀ done' : ι → List (Reg → Shared → Reg × Shared),
        progress done' order (Config.start sections shared).memory =
          progress done' after (runCode i (done' i)
            (progress done' before (Config.start sections shared).memory)) := fun done' => by
      rw [horder, progress_append]
      rfl
    have hin : ∀ j, j ∈ before → j ∈ order := fun j hj => horder ▸ List.mem_append_left _ hj
    have hout : ∀ j, j ∈ after → j ∈ order := fun j hj =>
      horder ▸ List.mem_append_right _ (List.mem_cons_of_mem i hj)
    have hreached : Inv (runCode i (done i)
        (progress done before (Config.start sections shared).memory)).2 :=
      runCode_inv (hkeeps i hi) (progress_inv (fun j hj => hkeeps j (hin j hj)) hshared)
    have hf : f ∈ (sections i).code := hcode ▸ List.mem_append_right _ List.mem_cons_self
    have hindependent : ∀ j, j ∈ after → ∀ g, g ∈ done j → Independent Inv f g := fun j hj g hg =>
      hapart.independent i j (fun heq => hafter (heq ▸ hj)) (hlocked j hj) f hf g
        (hmem j (hout j hj) g hg)
    show act i f c.memory = _
    rw [h.memory, hsplit done, hsplit, progress_update hbefore, Function.update_self,
      runCode_append, progress_update hafter]
    exact act_progress hafter (fun j hj => hkeeps j (hout j hj)) hindependent hreached
  · intro before' j after' horder' hphase'
    refine h.locked before' j after' horder' fun hold => hphase' ?_
    by_cases hj : j = i
    · subst hj
      exact absurd hold hphase
    · exact (Function.update_of_ne hj ..).trans hold

end Steps

omit [DecidableEq ι] in
theorem entered_append (events : List (SectionEvent ι)) (event : SectionEvent ι) :
    entered (events ++ [event]) = entered events ++ entered [event] :=
  List.filterMap_append ..

theorem Run.serialized (hapart : Apart sections Inv) {shared : Shared} (hshared : Inv shared)
    {events : List (SectionEvent ι)} {c : Config Reg Shared ι}
    (hrun : Run sections (Config.start sections shared) events c) :
    ∃ done, Serialized sections shared (entered events) done c := by
  induction hrun with
  | start => exact ⟨_, serialized_start sections shared⟩
  | @step events c c' event hrun hstep ih =>
    obtain ⟨done, h⟩ := ih
    rw [entered_append]
    cases hstep with
    | enter hwaiting hfree => exact ⟨_, h.enter hwaiting hfree⟩
    | move hinside =>
      have hmoved := h.move hapart hshared hinside
      rw [← List.append_nil (entered events)] at hmoved
      exact ⟨_, hmoved⟩
    | leave hinside =>
      have hleft := h.leave hinside
      rw [← List.append_nil (entered events)] at hleft
      exact ⟨_, hleft⟩

/-- When every section that was entered has left, the registers and the shared state are those of the
sections one after the other. -/
theorem serializable (hapart : Apart sections Inv) {shared : Shared} (hshared : Inv shared)
    {events : List (SectionEvent ι)} {c : Config Reg Shared ι}
    (hrun : Run sections (Config.start sections shared) events c)
    (hleft : ∀ i, i ∈ entered events → c.phase i = .left) :
    c.memory = serial sections (entered events) (Config.start sections shared).memory := by
  obtain ⟨done, h⟩ := hrun.serialized hapart hshared
  rw [h.memory]
  exact progress_congr (fun i hi => h.left i (hleft i hi)) _

/-- A section takes several steps at a stretch. -/
theorem Run.moves {c₀ c : Config Reg Shared ι} {events : List (SectionEvent ι)}
    (hrun : Run sections c₀ events c) {i : ι} {code rest : List (Reg → Shared → Reg × Shared)}
    (hinside : c.phase i = .inside (code ++ rest)) :
    Run sections c₀ (events ++ List.replicate code.length (.move i))
      ⟨runCode i code c.memory, Function.update c.phase i (.inside rest)⟩ := by
  induction code generalizing events c with
  | nil =>
    have hsame : Function.update c.phase i (.inside rest) = c.phase := by
      rw [← List.nil_append rest, ← hinside]
      exact Function.update_eq_self ..
    rw [hsame, List.length_nil, List.replicate_zero, List.append_nil]
    exact hrun
  | cons f code ih =>
    have hmoved := ih (hrun.step (.move hinside)) (Function.update_self ..)
    rw [Function.update_idem] at hmoved
    rw [List.length_cons, List.replicate_succ, ← List.singleton_append, ← List.append_assoc]
    exact hmoved

/-! ### Sections that run alone -/

theorem runCode_eq (i : ι) (code : List (Reg → Shared → Reg × Shared)) (m : Memory Reg Shared ι) :
    runCode i code m =
      (Function.update m.1 i (runSteps code (m.1 i) m.2).1, (runSteps code (m.1 i) m.2).2) := by
  induction code generalizing m with
  | nil => simp [runCode, runSteps]
  | cons f code ih =>
    show runCode i code (act i f m) = _
    rw [ih]
    simp [act, runSteps]

theorem runCode_self (i : ι) (code : List (Reg → Shared → Reg × Shared))
    (m : Memory Reg Shared ι) : (runCode i code m).1 i = (runSteps code (m.1 i) m.2).1 := by
  rw [runCode_eq]
  exact Function.update_self ..

theorem runCode_of_ne {i j : ι} (hne : j ≠ i) (code : List (Reg → Shared → Reg × Shared))
    (m : Memory Reg Shared ι) : (runCode i code m).1 j = m.1 j := by
  rw [runCode_eq]
  exact Function.update_of_ne hne ..

theorem runCode_shared (i : ι) (code : List (Reg → Shared → Reg × Shared))
    (m : Memory Reg Shared ι) : (runCode i code m).2 = (runSteps code (m.1 i) m.2).2 := by
  rw [runCode_eq]

theorem serial_append (order order' : List ι) (m : Memory Reg Shared ι) :
    serial sections (order ++ order') m = serial sections order' (serial sections order m) :=
  List.foldl_append ..

theorem serial_registers_of_notMem {i : ι} {order : List ι} (hi : i ∉ order)
    (m : Memory Reg Shared ι) : (serial sections order m).1 i = m.1 i := by
  induction order generalizing m with
  | nil => rfl
  | cons j order ih =>
    have hne : i ≠ j := fun heq => hi (heq ▸ List.mem_cons_self)
    show (serial sections order (runCode j (sections j).code m)).1 i = m.1 i
    rw [ih fun hin => hi (List.mem_cons_of_mem j hin), runCode_of_ne hne]

/-- The shared state that the sections leave one after the other. -/
theorem serial_shared {order : List ι} (hnodup : order.Nodup) {m : Memory Reg Shared ι}
    (hstart : ∀ i, i ∈ order → m.1 i = (sections i).start) :
    (serial sections order m).2 = order.foldl (fun s i => (alone sections i s).2) m.2 := by
  induction order generalizing m with
  | nil => rfl
  | cons i order ih =>
    obtain ⟨hi, hrest⟩ := List.nodup_cons.mp hnodup
    show (serial sections order (runCode i (sections i).code m)).2 = _
    rw [ih hrest, runCode_shared, hstart i List.mem_cons_self]
    · rfl
    · intro j hj
      have hne : j ≠ i := fun heq => hi (heq ▸ hj)
      rw [runCode_of_ne hne]
      exact hstart j (List.mem_cons_of_mem i hj)

/-- The registers of a section, from what the sections before it leave. -/
theorem serial_registers {before after : List ι} {i : ι}
    (hnodup : (before ++ i :: after).Nodup) {m : Memory Reg Shared ι}
    (hstart : ∀ j, j ∈ before ++ i :: after → m.1 j = (sections j).start) :
    (serial sections (before ++ i :: after) m).1 i =
      (alone sections i (before.foldl (fun s j => (alone sections j s).2) m.2)).1 := by
  have hbefore : i ∉ before := fun hin =>
    (List.disjoint_of_nodup_append hnodup) hin List.mem_cons_self
  have hafter : i ∉ after := (List.nodup_cons.mp hnodup.of_append_right).1
  have hshared : (serial sections before m).2 = _ := serial_shared hnodup.of_append_left
    fun j hj => hstart j (List.mem_append_left _ hj)
  rw [serial_append]
  show (serial sections after
    (runCode i (sections i).code (serial sections before m))).1 i = _
  rw [serial_registers_of_notMem hafter, runCode_self, serial_registers_of_notMem hbefore,
    hstart i (List.mem_append_right _ List.mem_cons_self), hshared]
  rfl

/-- A run that interleaves the sections leaves the shared state of the sections that run alone, in
the order in which they were entered, and each section ends with the registers that it has there. -/
theorem linearizable (hapart : Apart sections Inv) {shared : Shared} (hshared : Inv shared)
    {events : List (SectionEvent ι)} {c : Config Reg Shared ι}
    (hrun : Run sections (Config.start sections shared) events c)
    (hleft : ∀ i, i ∈ entered events → c.phase i = .left) :
    c.memory.2 = (entered events).foldl (fun s i => (alone sections i s).2) shared ∧
      ∀ before i after, entered events = before ++ i :: after →
        c.memory.1 i =
          (alone sections i (before.foldl (fun s j => (alone sections j s).2) shared)).1 := by
  obtain ⟨done, h⟩ := hrun.serialized hapart hshared
  rw [serializable hapart hshared hrun hleft]
  refine ⟨serial_shared h.nodup fun i _ => rfl, fun before i after horder => ?_⟩
  have hnodup := h.nodup
  rw [horder] at hnodup ⊢
  exact serial_registers hnodup fun j _ => rfl

/-! ### Invariants of the shared state -/

theorem progress_shared {P : Shared → Prop} {done : ι → List (Reg → Shared → Reg × Shared)}
    {order : List ι} (hnodup : order.Nodup)
    (hstep : ∀ i, i ∈ order → ∀ s, P s → P (runSteps (done i) (sections i).start s).2)
    {m : Memory Reg Shared ι} (hstart : ∀ i, i ∈ order → m.1 i = (sections i).start)
    (hm : P m.2) : P (progress done order m).2 := by
  induction order generalizing m with
  | nil => exact hm
  | cons i order ih =>
    obtain ⟨hi, hrest⟩ := List.nodup_cons.mp hnodup
    refine ih hrest (fun j hj => hstep j (List.mem_cons_of_mem i hj)) (fun j hj => ?_) ?_
    · have hne : j ≠ i := fun heq => hi (heq ▸ hj)
      rw [runCode_of_ne hne]
      exact hstart j (List.mem_cons_of_mem i hj)
    · rw [runCode_shared, hstart i List.mem_cons_self]
      exact hstep i List.mem_cons_self m.2 hm

/-- What a section that runs alone keeps up to any of its steps, a run that interleaves the sections
keeps as well. -/
theorem Run.shared_inv (hapart : Apart sections Inv) {P : Shared → Prop}
    (hkeeps : ∀ i done, done <+: (sections i).code → ∀ s, P s →
      P (runSteps done (sections i).start s).2) {shared : Shared} (hshared : Inv shared)
    (hP : P shared) {events : List (SectionEvent ι)} {c : Config Reg Shared ι}
    (hrun : Run sections (Config.start sections shared) events c) : P c.memory.2 := by
  obtain ⟨done, h⟩ := hrun.serialized hapart hshared
  rw [h.memory]
  exact progress_shared h.nodup (fun i hi => hkeeps i (done i) (h.done_initial hi)) (fun _ _ => rfl) hP

end CriticalSection

end Edm.Library
