import Mathlib.Data.List.Nodup
import Mathlib.Logic.Function.Basic

/-! Items that wait in a queue until a worker takes and delivers them.  When at most one worker has
items at a time, and an item is put back into the empty queue only, the items are delivered in the
order in which they were accepted. -/

set_option autoImplicit false

namespace Edm.Library

universe u v

/-- The items so far: those accepted and those delivered, in order, those that wait, and those that
the workers have taken and not delivered yet. -/
structure Line (Worker : Type u) (Item : Type v) where
  accepted : List Item
  delivered : List Item
  queue : List Item
  work : Worker → List Item

namespace Line

variable {Worker : Type u} {Item : Type v} (l : Line Worker Item)

/-- An item that waits or that a worker has. -/
def Held (x : Item) : Prop := x ∈ l.queue ∨ ∃ w, x ∈ l.work w

/-- An item that is neither delivered nor held any more. -/
def Lost (x : Item) : Prop := x ∈ l.accepted ∧ x ∉ l.delivered ∧ ¬ l.Held x

/-- No worker has an item. -/
def Idle : Prop := ∀ w, l.work w = []

/-- No item was accepted twice, at most one worker has items, and what was delivered, what it has and
what waits are in the order in which they were accepted. -/
structure Orderly : Prop where
  nodup : l.accepted.Nodup
  alone : ∀ v w, l.work v ≠ [] → l.work w ≠ [] → v = w
  order : ∀ w, List.Sublist (l.delivered ++ (l.work w ++ l.queue)) l.accepted

/-- An item is accepted into the queue. -/
def enqueue (x : Item) : Line Worker Item :=
  { l with accepted := l.accepted ++ [x], queue := l.queue ++ [x] }

/-- The items that wait are dropped. -/
def clear : Line Worker Item := { l with queue := [] }

variable {l} {x y : Item}

theorem Orderly.enqueue (h : l.Orderly) (hx : x ∉ l.accepted) : (l.enqueue x).Orderly where
  nodup := List.nodup_append.mpr ⟨h.nodup, List.nodup_singleton x, fun y hy z hz => by
    rw [List.mem_singleton.mp hz]
    exact fun heq => hx (heq ▸ hy)⟩
  alone := h.alone
  order w := by
    show List.Sublist (l.delivered ++ (l.work w ++ (l.queue ++ [x]))) (l.accepted ++ [x])
    rw [← List.append_assoc (l.work w), ← List.append_assoc]
    exact (h.order w).append (List.Sublist.refl [x])

theorem Orderly.clear (h : l.Orderly) : l.clear.Orderly where
  nodup := h.nodup
  alone := h.alone
  order w := by
    refine List.Sublist.trans ?_ (h.order w)
    exact (List.Sublist.refl _).append ((List.Sublist.refl _).append (List.nil_sublist _))

theorem Orderly.others {w : Worker} (h : l.Orderly) (hw : l.work w ≠ []) (v : Worker) (hv : v ≠ w) :
    l.work v = [] := by
  by_contra hne
  exact hv (h.alone v w hne hw)

theorem Lost.of_held {l' : Line Worker Item} (h : l'.Lost y) (haccepted : y ∈ l.accepted)
    (hdelivered : y ∈ l.delivered → y ∈ l'.delivered)
    (hheld : l.Held y → l'.Held y ∨ y ∈ l'.delivered) : l.Lost y :=
  ⟨haccepted, fun hy => h.2.1 (hdelivered hy), fun hy => (hheld hy).elim h.2.2 h.2.1⟩

theorem lost_enqueue (h : (l.enqueue x).Lost y) : l.Lost y := by
  have hne : y ≠ x := by
    rintro rfl
    exact h.2.2 (.inl (List.mem_append_right _ List.mem_cons_self))
  refine h.of_held ?_ id fun hheld => .inl (hheld.imp_left (List.mem_append_left _))
  exact (List.mem_append.mp h.1).resolve_right fun hy => hne (List.mem_singleton.mp hy)

theorem lost_clear (h : l.clear.Lost y) : l.Lost y ∨ y ∈ l.queue := by
  by_cases hy : y ∈ l.queue
  · exact .inr hy
  · exact .inl (h.of_held h.1 id fun hheld => .inl (.inr (hheld.resolve_left hy)))

/-! ### The items of a worker -/

variable (l) [DecidableEq Worker]

/-- A worker's items are replaced. -/
def assign (w : Worker) (items : List Item) : Line Worker Item :=
  { l with work := Function.update l.work w items }

/-- A worker accepts an item. -/
def take (w : Worker) (x : Item) : Line Worker Item :=
  { l.assign w [x] with accepted := l.accepted ++ [x] }

/-- A worker takes the queue. -/
def grab (w : Worker) : Line Worker Item := { l.assign w l.queue with queue := [] }

/-- A worker delivers an item and keeps the rest. -/
def deliver (w : Worker) (x : Item) (rest : List Item) : Line Worker Item :=
  { l.assign w rest with delivered := l.delivered ++ [x] }

/-- A worker puts an item back. -/
def putBack (w : Worker) (x : Item) : Line Worker Item :=
  { l.assign w [] with queue := l.queue ++ [x] }

variable {l} {w : Worker} {rest : List Item}

/-- A change of the items of the only worker that has any. -/
theorem orderly_of_alone {l' : Line Worker Item} (items : List Item)
    (hwork : l'.work = Function.update l.work w items) (hothers : ∀ v, v ≠ w → l.work v = [])
    (hnodup : l'.accepted.Nodup)
    (horder : List.Sublist (l'.delivered ++ (items ++ l'.queue)) l'.accepted) : l'.Orderly := by
  have hnone : ∀ v, v ≠ w → l'.work v = [] := fun v hv => by
    rw [hwork, Function.update_of_ne hv]
    exact hothers v hv
  refine ⟨hnodup, fun v u hv hu => ?_, fun v => ?_⟩
  · by_contra hne
    by_cases hvw : v = w
    · exact hu (hnone u fun huw => hne (hvw.trans huw.symm))
    · exact hv (hnone v hvw)
  · by_cases hvw : v = w
    · rw [hvw, hwork, Function.update_self]
      exact horder
    · rw [hnone v hvw]
      refine List.Sublist.trans ?_ horder
      exact (List.Sublist.refl _).append
        ((List.nil_sublist items).append (List.Sublist.refl l'.queue))

theorem Orderly.take (h : l.Orderly) (hx : x ∉ l.accepted) (hidle : l.Idle)
    (hqueue : l.queue = []) : (l.take w x).Orderly := by
  refine orderly_of_alone [x] rfl (fun v _ => hidle v) (h.enqueue hx).nodup ?_
  have horder := (h.enqueue hx).order w
  rw [show (l.enqueue x).work w = [] from hidle w] at horder
  show List.Sublist (l.delivered ++ ([x] ++ l.queue)) (l.accepted ++ [x])
  rw [hqueue, List.append_nil]
  rw [show (l.enqueue x).queue = [] ++ [x] from congrArg (· ++ [x]) hqueue] at horder
  exact horder

theorem Orderly.grab (h : l.Orderly) (hidle : l.Idle) : (l.grab w).Orderly := by
  refine orderly_of_alone l.queue rfl (fun v _ => hidle v) h.nodup ?_
  have horder := h.order w
  rw [hidle w, List.nil_append] at horder
  show List.Sublist (l.delivered ++ (l.queue ++ [])) l.accepted
  rwa [List.append_nil]

theorem Orderly.deliver (h : l.Orderly) (hw : l.work w = x :: rest) :
    (l.deliver w x rest).Orderly := by
  refine orderly_of_alone rest rfl
    (fun v hv => h.others (hw ▸ List.cons_ne_nil x rest) v hv) h.nodup ?_
  have horder := h.order w
  rw [hw] at horder
  show List.Sublist (l.delivered ++ [x] ++ (rest ++ l.queue)) l.accepted
  rwa [List.append_assoc]

/-- A worker drops items. -/
theorem Orderly.assign (h : l.Orderly) (hw : l.work w ≠ []) (hsub : List.Sublist rest (l.work w)) :
    (l.assign w rest).Orderly := by
  refine orderly_of_alone rest rfl (fun v hv => h.others hw v hv) h.nodup ?_
  refine List.Sublist.trans ?_ (h.order w)
  exact (List.Sublist.refl _).append (hsub.append (List.Sublist.refl _))

theorem Orderly.putBack (h : l.Orderly) (hw : l.work w = [x]) (hqueue : l.queue = []) :
    (l.putBack w x).Orderly := by
  refine orderly_of_alone [] rfl
    (fun v hv => h.others (hw ▸ List.cons_ne_nil x []) v hv) h.nodup ?_
  have horder := h.order w
  rw [hw, hqueue] at horder
  show List.Sublist (l.delivered ++ ([] ++ (l.queue ++ [x]))) l.accepted
  rw [hqueue]
  exact horder

/-- What the workers have after a change of the items of one. -/
theorem exists_work_update {items : List Item} (h : ∃ v, y ∈ l.work v)
    (hy : y ∈ l.work w → y ∈ items) : ∃ v, y ∈ Function.update l.work w items v := by
  obtain ⟨v, hv⟩ := h
  by_cases hvw : v = w
  · refine ⟨w, ?_⟩
    rw [Function.update_self]
    exact hy (hvw ▸ hv)
  · refine ⟨v, ?_⟩
    rwa [Function.update_of_ne hvw]

theorem lost_assign (h : (l.assign w rest).Lost y) : l.Lost y ∨ y ∈ l.work w ∧ y ∉ rest := by
  by_cases hy : y ∈ l.work w ∧ y ∉ rest
  · exact .inr hy
  · refine .inl (h.of_held h.1 id fun hheld => .inl (hheld.imp_right fun hwork => ?_))
    refine exists_work_update hwork fun hmem => ?_
    by_contra hnot
    exact hy ⟨hmem, hnot⟩

theorem lost_take (hw : l.work w = []) (h : (l.take w x).Lost y) : l.Lost y := by
  have hne : y ≠ x := by
    rintro rfl
    refine h.2.2 (.inr ⟨w, ?_⟩)
    show y ∈ Function.update l.work w [y] w
    rw [Function.update_self]
    exact List.mem_cons_self
  refine h.of_held ?_ id fun hheld => .inl (hheld.imp_right fun hwork => ?_)
  · exact (List.mem_append.mp h.1).resolve_right fun hy => hne (List.mem_singleton.mp hy)
  · refine exists_work_update hwork fun hmem => ?_
    rw [hw] at hmem
    exact absurd hmem List.not_mem_nil

theorem lost_grab (hw : l.work w = []) (h : (l.grab w).Lost y) : l.Lost y := by
  refine h.of_held h.1 id fun hheld => .inl (.inr ?_)
  rcases hheld with hqueue | hwork
  · refine ⟨w, ?_⟩
    show y ∈ Function.update l.work w l.queue w
    rwa [Function.update_self]
  · refine exists_work_update hwork fun hmem => ?_
    rw [hw] at hmem
    exact absurd hmem List.not_mem_nil

theorem lost_deliver (hw : l.work w = x :: rest) (h : (l.deliver w x rest).Lost y) : l.Lost y := by
  refine h.of_held h.1 (List.mem_append_left _) fun hheld => ?_
  rcases hheld with hqueue | hwork
  · exact .inl (.inl hqueue)
  · by_cases hyx : y = x
    · exact .inr (List.mem_append_right _ (List.mem_singleton.mpr hyx))
    · refine .inl (.inr (exists_work_update hwork fun hmem => ?_))
      rw [hw] at hmem
      exact (List.mem_cons.mp hmem).resolve_left hyx

theorem lost_putBack (hw : l.work w = [x]) (h : (l.putBack w x).Lost y) : l.Lost y := by
  refine h.of_held h.1 id fun hheld => .inl ?_
  rcases hheld with hqueue | hwork
  · exact .inl (List.mem_append_left _ hqueue)
  · by_cases hyx : y = x
    · exact .inl (List.mem_append_right _ (List.mem_singleton.mpr hyx))
    · refine .inr (exists_work_update hwork fun hmem => ?_)
      rw [hw] at hmem
      exact absurd (List.mem_singleton.mp hmem) hyx

end Line

end Edm.Library
