import Edm.Connection.EnterpriseConnManager
import Edm.Library.Delivery
import Edm.Library.Run

/-! Runs of the calls and connection callbacks of one admin: which strategies reach a live proxy, in
which order, and which are dropped. -/

set_option autoImplicit false

namespace Edm

open Library

namespace EnterpriseConnManager

section Run

variable (s : State)

/-- The strategies that a thread has taken: its own, or those that were pending. -/
def inFlight (t : Thread) : Pc → List Thread
  | .execute _ => [t]
  | .requeue => [t]
  | .executePending _ callbacks => callbacks
  | _ => []

def queueOf (info : Option ConnectionInfo) : List Thread := (info.map (·.pendingCallbacks)).getD []

/-- The strategies as items that wait or are in the hands of the threads. -/
def line : Line Thread Thread where
  accepted := s.history.accepted
  delivered := s.history.executed
  queue := queueOf s.info
  work t := inFlight t (s.pc t)

/-- A strategy that was accepted, and that neither reached a live proxy nor waits nor is in the hands
of a thread.  A call that returns false has not accepted its strategy. -/
def Dropped (t : Thread) : Prop := (line s).Lost t ∧ s.pc t ≠ .returned false

/-- Strategies are executed once, in the order in which they were accepted, and none is dropped that
was accepted before a connection succeeded. -/
structure Coherent : Prop where
  once : s.history.executed.Nodup
  in_order : List.Sublist s.history.executed s.history.accepted
  dropped : ∀ t, Dropped s t → t ∉ s.history.connected

/-- No connection was reported to succeed after the strategy was accepted. -/
def Unconnected (t : Thread) : Prop := t ∉ s.history.connected

/-- What the next step of a thread must not do: drop a strategy that was accepted before a connection
succeeded, or let two threads have strategies at a time, or put a strategy back behind others or after
it reached a live proxy. -/
def NextKeeps (t : Thread) (answer : Answer) : Prop :=
  match s.pc t with
  | .checkConnectionState => ∀ info, s.info = some info →
    if isConnectionTimeout info answer then ∀ u, u ∈ info.pendingCallbacks → Unconnected s u
    else info.proxy ≠ none → (line s).Idle
  | .execute _ => answer.isValid = true → answer.execution ≠ .delivered false
  | .requeue => ∀ info, s.info = some info → info.pendingCallbacks = []
  | .eraseConnection => ∀ u, u ∈ queueOf s.info → u ≠ t → Unconnected s u
  | .removeRemoteObject _ => ∀ u, u ∈ queueOf s.info → Unconnected s u
  | .saveProxy _ => s.info ≠ none → (line s).Idle
  | .executePending _ (u :: _) => answer.execution = .undelivered → Unconnected s u
  | _ => True

/-- No connection is reported to succeed after a strategy was dropped. -/
def Keeps : Op → Prop
  | .executeCallback _ => True
  | .onAbilityConnectDone t callback ok =>
    ok = true → s.pc t = .idle → s.created callback = true → ∀ u, ¬ Dropped s u
  | .onAbilityDisconnectDone _ _ => True
  | .next t answer => NextKeeps s t answer

/-- A thread whose strategy is not accepted yet. -/
def Pc.Before : Pc → Prop
  | .idle => True
  | .checkConnectionState => True
  | .removeRemoteObject _ => True
  | _ => False

structure Inv : Prop where
  orderly : (line s).Orderly
  before : ∀ t, (s.pc t).Before → t ∉ s.history.accepted
  proxy : ∀ info, s.info = some info → info.proxy ≠ none → info.pendingCallbacks = []
  dropped : ∀ t, Dropped s t → t ∉ s.history.connected

end Run

section Step

variable {s s' : State} {t : Thread}

theorem work_goto (pc : Pc) : (fun u => inFlight u (Function.update s.pc t pc u)) =
    Function.update (line s).work t (inFlight t pc) := by
  funext u
  by_cases hu : u = t
  · subst hu
    rw [Function.update_self, Function.update_self]
  · rw [Function.update_of_ne hu, Function.update_of_ne hu]
    rfl

theorem pc_goto_self (pc : Pc) : (s.goto t pc).pc t = pc := by
  rw [State.goto]
  exact Function.update_self t pc s.pc

theorem pc_goto_of_ne (pc : Pc) {u : Thread} (hu : u ≠ t) : (s.goto t pc).pc u = s.pc u := by
  rw [State.goto]
  exact Function.update_of_ne hu pc s.pc

theorem line_goto (pc : Pc) : line (s.goto t pc) = (line s).assign t (inFlight t pc) := by
  unfold Line.assign
  rw [← work_goto]
  rfl

/-- A thread that moves on with the strategies that it has. -/
theorem line_goto_same {pc : Pc} (h : inFlight t pc = inFlight t (s.pc t)) :
    line (s.goto t pc) = line s := by
  rw [line_goto, h, Line.assign]
  exact congrArg (Line.mk _ _ _) (Function.update_eq_self t _)

/-- A step of a thread keeps the invariant when the strategies stay orderly and those that are lost
have not seen a connection succeed. -/
theorem Inv.move (h : Inv s) (hpc : ∀ u, u ≠ t → s'.pc u = s.pc u)
    (hactive : s.pc t ≠ .returned false) (hconnected : s'.history.connected = s.history.connected)
    (horderly : (line s').Orderly)
    (hlost : ∀ u, (line s').Lost u → s'.pc u ≠ .returned false →
      (line s).Lost u ∨ u ∉ s.history.connected)
    (haccepted : ∀ u, u ∈ s'.history.accepted → u ∈ s.history.accepted ∨ u = t)
    (hbefore : (s'.pc t).Before → t ∉ s'.history.accepted)
    (hproxy : ∀ info, s'.info = some info → info.proxy ≠ none → info.pendingCallbacks = []) :
    Inv s' where
  orderly := horderly
  before u hu hmem := by
    by_cases hut : u = t
    · subst hut
      exact hbefore hu hmem
    · rw [hpc u hut] at hu
      exact h.before u hu ((haccepted u hmem).resolve_right hut)
  proxy := hproxy
  dropped u hu := by
    rw [hconnected]
    rcases hlost u hu.1 hu.2 with hold | hnew
    · refine h.dropped u ⟨hold, ?_⟩
      by_cases hut : u = t
      · rwa [hut]
      · rw [← hpc u hut]
        exact hu.2
    · exact hnew

/-- A step of a thread that accepts no strategy. -/
theorem Inv.goto (h : Inv s) (mid : State) (pc : Pc) (hmid : mid.pc = s.pc)
    (haccepted : mid.history.accepted = s.history.accepted)
    (hconnected : mid.history.connected = s.history.connected)
    (hactive : s.pc t ≠ .returned false) (hbefore : pc.Before → (s.pc t).Before)
    (hproxy : ∀ info, mid.info = some info → info.proxy ≠ none → info.pendingCallbacks = [])
    (horderly : (line (mid.goto t pc)).Orderly)
    (hlost : ∀ u, (line (mid.goto t pc)).Lost u → (u = t → pc ≠ .returned false) →
      (line s).Lost u ∨ u ∉ s.history.connected) : Inv (mid.goto t pc) := by
  refine h.move (fun u hu => ?_) hactive hconnected horderly (fun u hu hreturned => ?_)
    (fun u hu => .inl (haccepted ▸ hu)) (fun hb => ?_) hproxy
  · rw [pc_goto_of_ne pc hu, hmid]
  · refine hlost u hu fun hut => ?_
    rwa [hut, pc_goto_self] at hreturned
  · rw [pc_goto_self] at hb
    show t ∉ mid.history.accepted
    rw [haccepted]
    exact h.before t (hbefore hb)

/-- A step that leaves the strategies where they are. -/
theorem Inv.quiet (h : Inv s) (mid : State) (pc : Pc) (hmid : mid.pc = s.pc)
    (hhistory : mid.history = s.history) (hqueue : queueOf mid.info = queueOf s.info)
    (hactive : s.pc t ≠ .returned false) (hbefore : pc.Before → (s.pc t).Before)
    (hflight : inFlight t pc = inFlight t (s.pc t))
    (hproxy : ∀ info, mid.info = some info → info.proxy ≠ none → info.pendingCallbacks = []) :
    Inv (mid.goto t pc) := by
  have hline : line (mid.goto t pc) = line s := by
    rw [line_goto_same (hflight.trans (congrArg (inFlight t) (congrFun hmid.symm t)))]
    unfold line
    rw [hmid, hhistory, hqueue]
  exact h.goto mid pc hmid (congrArg _ hhistory) (congrArg _ hhistory) hactive hbefore hproxy
    (hline ▸ h.orderly) fun u hu _ => .inl (hline ▸ hu)

/-! ### The steps of a thread -/

/-- A strategy is left to its caller, which has a proxy to execute it on, or it waits. -/
theorem acceptStrategy_cases (info : Option ConnectionInfo) (t : Thread) (answer : Answer) :
    (∃ old proxy, info = some old ∧ old.proxy = some proxy ∧
        acceptStrategy info t answer = (old, .execute proxy)) ∨
      ∃ new pc, acceptStrategy info t answer = (new, pc) ∧ new.proxy = none ∧
        new.pendingCallbacks = queueOf info ++ [t] ∧ inFlight t pc = [] ∧ ¬ pc.Before := by
  cases info with
  | none => exact .inr ⟨_, _, rfl, rfl, rfl, rfl, id⟩
  | some info =>
    cases hproxy : info.proxy with
    | some proxy =>
      refine .inl ⟨info, proxy, rfl, hproxy, ?_⟩
      unfold acceptStrategy
      dsimp only
      rw [hproxy]
    | none =>
      right
      unfold acceptStrategy
      dsimp only
      rw [hproxy]
      dsimp only
      by_cases hpending : info.isPending = true
      · rw [if_pos hpending]
        exact ⟨_, _, rfl, rfl, rfl, rfl, id⟩
      · rw [if_neg hpending]
        exact ⟨_, _, rfl, hproxy, rfl, rfl, id⟩

theorem markStale_eq (s : State) (callback : Option Thread) :
    ∃ isStale, (callback.map s.markStale).getD s = { s with isStale } := by
  cases callback with
  | none => exact ⟨s.isStale, rfl⟩
  | some callback => exact ⟨Function.update s.isStale callback true, rfl⟩

/-- The entry is dropped on a timeout. -/
theorem checkTimeout_cases (info : Option ConnectionInfo) (answer : Answer) :
    (checkTimeout info answer).1 = none ∧
        (∀ old, info = some old → isConnectionTimeout old answer = true) ∨
      ∃ old, info = some old ∧ isConnectionTimeout old answer = false ∧
        (checkTimeout info answer).1 = some old := by
  cases info with
  | none => exact .inl ⟨rfl, fun _ h => by cases h⟩
  | some old =>
    unfold checkTimeout
    dsimp only
    by_cases htimeout : isConnectionTimeout old answer = true
    · rw [if_pos htimeout]
      refine .inl ⟨rfl, fun other hother => ?_⟩
      rwa [← Option.some.inj hother]
    · rw [if_neg htimeout]
      exact .inr ⟨old, rfl, Bool.eq_false_iff.mpr htimeout, rfl⟩

theorem check_keeps (h : Inv s) (hpc : s.pc t = .checkConnectionState) (answer : Answer)
    (hkeeps : ∀ info, s.info = some info →
      if isConnectionTimeout info answer then ∀ u, u ∈ info.pendingCallbacks → Unconnected s u
      else info.proxy ≠ none → (line s).Idle) : Inv (checkConnectionState s t answer) := by
  have hnew : t ∉ (line s).accepted := h.before t (by rw [hpc]; trivial)
  have hwork : (line s).work t = [] := by
    show inFlight t (s.pc t) = []
    rw [hpc]
    rfl
  have hactive : s.pc t ≠ .returned false := by
    rw [hpc]
    exact Pc.noConfusion
  obtain ⟨isStale, hstale⟩ := markStale_eq s (checkTimeout s.info answer).2
  unfold checkConnectionState
  dsimp only
  rw [hstale]
  rcases acceptStrategy_cases (checkTimeout s.info answer).1 t answer with
    ⟨old, proxy, hold, hproxy, haccept⟩ | ⟨new, pc, haccept, hproxy, hpending, hflight, hnot⟩
  · -- The caller executes the strategy on the proxy.
    rw [haccept]
    dsimp only
    rcases checkTimeout_cases s.info answer with ⟨hnone, -⟩ | ⟨other, hinfo, htimeout, hsome⟩
    · rw [hnone] at hold
      cases hold
    · obtain rfl : other = old := Option.some.inj (hsome.symm.trans hold)
      have hidle : (line s).Idle := by
        have hkeeps := hkeeps other hinfo
        rw [if_neg (by rw [htimeout]; decide)] at hkeeps
        exact hkeeps (by rw [hproxy]; exact Option.some_ne_none proxy)
      have hqueue : other.pendingCallbacks = [] :=
        h.proxy other hinfo (by rw [hproxy]; exact Option.some_ne_none proxy)
      obtain ⟨s', hs'⟩ : ∃ s', State.goto { s with
          info := some other
          isStale
          history := { s.history with accepted := s.history.accepted ++ [t] } } t (.execute proxy) =
        s' := ⟨_, rfl⟩
      have hline : line s' = (line s).take t t := by
        have hsame : queueOf (some other) = queueOf s.info := congrArg queueOf hinfo.symm
        rw [← hs', line_goto]
        exact congrArg (fun queue => Line.mk _ _ queue _) hsame
      rw [hs']
      refine h.move (t := t) (fun u hu => ?_) hactive (by rw [← hs']; rfl) ?_ (fun u hu _ => ?_)
        (fun u hu => ?_) (fun hb => ?_) fun info hinfo' _ => ?_
      · rw [← hs', pc_goto_of_ne _ hu]
      · rw [hline]
        refine h.orderly.take hnew hidle ?_
        show queueOf s.info = []
        rw [hinfo]
        exact hqueue
      · rw [hline] at hu
        exact .inl (Line.lost_take hwork hu)
      · rw [← hs'] at hu
        exact (List.mem_append.mp hu).imp_right List.mem_singleton.mp
      · rw [← hs', pc_goto_self] at hb
        exact hb.elim
      · rw [← hs'] at hinfo'
        rw [← Option.some.inj hinfo']
        exact hqueue
  · -- The strategy waits, behind those that wait already.
    rw [haccept]
    dsimp only
    obtain ⟨s', hs'⟩ : ∃ s', State.goto { s with
        info := some new
        isStale
        history := { s.history with accepted := s.history.accepted ++ [t] } } t pc = s' := ⟨_, rfl⟩
    have hline : line s' = Line.mk (s.history.accepted ++ [t]) s.history.executed
        (queueOf (checkTimeout s.info answer).1 ++ [t]) (line s).work := by
      have hsame : Function.update (line s).work t (inFlight t pc) = (line s).work := by
        rw [hflight, ← hwork, Function.update_eq_self]
      rw [← hs', ← hpending]
      exact congrArg (Line.mk _ _ _) ((work_goto pc).trans hsame)
    have hlines : ((line s').Orderly ∧ ∀ u, (line s').Lost u →
        (line s).Lost u ∨ u ∉ s.history.connected) := by
      rcases checkTimeout_cases s.info answer with ⟨hnone, htimeout⟩ | ⟨other, hinfo, -, hsome⟩
      · have hclear : line s' = (line s).clear.enqueue t := by
          rw [hline, hnone]
          rfl
        rw [hclear]
        refine ⟨h.orderly.clear.enqueue hnew, fun u hu => ?_⟩
        refine (Line.lost_clear (Line.lost_enqueue hu)).imp_right fun hmem => ?_
        cases hinfo : s.info with
        | none =>
          have hmem : u ∈ queueOf s.info := hmem
          rw [hinfo] at hmem
          exact absurd hmem List.not_mem_nil
        | some info =>
          have hmem : u ∈ queueOf s.info := hmem
          have hkeeps := hkeeps info hinfo
          rw [if_pos (htimeout info hinfo)] at hkeeps
          rw [hinfo] at hmem
          exact hkeeps u hmem
      · have hqueue : line s' = (line s).enqueue t := by
          rw [hline, hsome, ← hinfo]
          rfl
        rw [hqueue]
        exact ⟨h.orderly.enqueue hnew, fun u hu => .inl (Line.lost_enqueue hu)⟩
    rw [hs']
    refine h.move (t := t) (fun u hu => ?_) hactive (by rw [← hs']; rfl) hlines.1
      (fun u hu _ => hlines.2 u hu) (fun u hu => ?_) (fun hb => ?_) fun info hinfo hne => ?_
    · rw [← hs', pc_goto_of_ne _ hu]
    · rw [← hs'] at hu
      exact (List.mem_append.mp hu).imp_right List.mem_singleton.mp
    · rw [← hs', pc_goto_self] at hb
      exact absurd hb hnot
    · rw [← hs'] at hinfo
      rw [← Option.some.inj hinfo] at hne
      exact absurd hproxy hne

theorem execute_keeps (h : Inv s) {proxy : Thread} (hpc : s.pc t = .execute proxy) (answer : Answer)
    (hkeeps : answer.isValid = true → answer.execution ≠ .delivered false) :
    Inv (execute s t answer) := by
  have hactive : s.pc t ≠ .returned false := by
    rw [hpc]
    exact Pc.noConfusion
  have hwork : (line s).work t = [t] := congrArg (inFlight t) hpc
  have hrequeue : Inv (s.goto t .requeue) :=
    h.quiet s .requeue rfl rfl rfl hactive False.elim hwork.symm h.proxy
  unfold execute
  by_cases hvalid : answer.isValid = true
  · rw [if_neg (by rw [hvalid]; decide)]
    cases hexecution : answer.execution with
    | undelivered => exact hrequeue
    | delivered ret =>
      cases ret with
      | false => exact absurd hexecution (hkeeps hvalid)
      | true =>
        have hline : line ((s.deliver t).goto t (.returned true)) = (line s).deliver t t [] := by
          rw [line_goto]
          rfl
        refine h.goto (s.deliver t) (.returned true) rfl rfl rfl hactive False.elim h.proxy ?_
          fun u hu _ => ?_
        · rw [hline]
          exact h.orderly.deliver hwork
        · rw [hline] at hu
          exact .inl (Line.lost_deliver hwork hu)
  · rw [if_pos (by rw [Bool.eq_false_iff.mpr hvalid]; rfl)]
    exact hrequeue

theorem requeue_keeps (h : Inv s) (hpc : s.pc t = .requeue) (answer : Answer)
    (hkeeps : ∀ info, s.info = some info → info.pendingCallbacks = []) :
    Inv (requeue s t answer) := by
  have hactive : s.pc t ≠ .returned false := by
    rw [hpc]
    exact Pc.noConfusion
  have hwork : (line s).work t = [t] := congrArg (inFlight t) hpc
  unfold requeue
  cases hinfo : s.info with
  | none =>
    dsimp only
    refine h.goto s (.returned false) rfl rfl rfl hactive False.elim h.proxy ?_
      fun u hu hreturned => ?_
    · rw [line_goto]
      refine h.orderly.assign ?_ (List.nil_sublist _)
      rw [hwork]
      exact List.cons_ne_nil t []
    · rw [line_goto] at hu
      refine .inl ((Line.lost_assign hu).resolve_right fun hmem => ?_)
      rw [hwork] at hmem
      exact hreturned (List.mem_singleton.mp hmem.1) rfl
  | some info =>
    dsimp only
    generalize hmid : ({ s with
        info := some { info with
          proxy := none
          isPending := true
          createTime := answer.createTime
          pendingCallbacks := info.pendingCallbacks ++ [t] } } : State) = mid
    have hnext : ∀ pc, (pc = .findCallback ∨ ∃ callback, pc = .disconnectRequeued callback) →
        inFlight t pc = [] ∧ ¬ pc.Before := by
      rintro pc (rfl | ⟨callback, rfl⟩)
      · exact ⟨rfl, id⟩
      · exact ⟨rfl, id⟩
    suffices hstep : ∀ pc, inFlight t pc = [] ∧ ¬ pc.Before → Inv (mid.goto t pc) by
      cases info.callback with
      | none => exact hstep _ (hnext _ (.inl rfl))
      | some callback => exact hstep _ (hnext _ (.inr ⟨callback, rfl⟩))
    rintro pc ⟨hflight, hnot⟩
    have hline : line (mid.goto t pc) = (line s).putBack t t := by
      have hqueue : info.pendingCallbacks = queueOf s.info := by
        rw [hinfo]
        rfl
      rw [line_goto, hflight, ← hmid]
      exact congrArg (fun queue => Line.mk _ _ (queue ++ [t]) _) hqueue
    refine h.goto mid pc (by rw [← hmid]) (by rw [← hmid]) (by rw [← hmid]) hactive
      (fun hb => absurd hb hnot) (fun new hnew hne => ?_) ?_ fun u hu _ => ?_
    · rw [← hmid] at hnew
      rw [← Option.some.inj hnew] at hne
      exact absurd rfl hne
    · rw [hline]
      refine h.orderly.putBack hwork ?_
      show queueOf s.info = []
      rw [hinfo]
      exact hkeeps info hinfo
    · rw [hline] at hu
      exact .inl (Line.lost_putBack hwork hu)

/-- A step that drops the entry. -/
theorem erase_keeps (h : Inv s) {pc : Pc} (hactive : s.pc t ≠ .returned false)
    (hwork : inFlight t (s.pc t) = []) (hflight : inFlight t pc = [])
    (hbefore : pc.Before → (s.pc t).Before)
    (hkeeps : ∀ u, u ∈ queueOf s.info → (u = t → pc ≠ .returned false) → Unconnected s u) :
    Inv ({ s with info := none }.goto t pc) := by
  have hline : line ({ s with info := none }.goto t pc) = (line s).clear := by
    have hsame : inFlight t pc = inFlight t (({ s with info := none } : State).pc t) :=
      hflight.trans hwork.symm
    rw [line_goto_same hsame]
    rfl
  refine h.goto { s with info := none } pc rfl rfl rfl hactive hbefore (fun info hinfo => ?_) ?_
    fun u hu hreturned => ?_
  · cases hinfo
  · rw [hline]
    exact h.orderly.clear
  · rw [hline] at hu
    exact (Line.lost_clear hu).imp_right fun hmem => hkeeps u hmem hreturned

theorem saveProxy_keeps (h : Inv s) {proxy : Thread} (hpc : s.pc t = .saveProxy proxy)
    (hkeeps : s.info ≠ none → (line s).Idle) : Inv (saveProxy s t proxy) := by
  have hactive : s.pc t ≠ .returned false := by
    rw [hpc]
    exact Pc.noConfusion
  have hwork : (line s).work t = [] := congrArg (inFlight t) hpc
  unfold saveProxy
  cases hinfo : s.info with
  | none => exact h.quiet s (.returned true) rfl rfl rfl hactive False.elim hwork.symm h.proxy
  | some info =>
    dsimp only
    generalize hmid : ({ s with
      info := some { info with proxy := some proxy, isPending := false, pendingCallbacks := [] } } :
        State) = mid
    have hline : line (mid.goto t (.executePending proxy info.pendingCallbacks)) =
        (line s).grab t := by
      have hqueue : info.pendingCallbacks = queueOf s.info := by
        rw [hinfo]
        rfl
      rw [line_goto, ← hmid]
      exact congrArg (fun queue => Line.mk _ _ _ (Function.update (line s).work t queue)) hqueue
    have hidle : (line s).Idle := hkeeps (by rw [hinfo]; exact Option.some_ne_none info)
    refine h.goto mid _ (by rw [← hmid]) (by rw [← hmid]) (by rw [← hmid]) hactive False.elim
      (fun new hnew _ => ?_) ?_ fun u hu _ => ?_
    · rw [← hmid] at hnew
      rw [← Option.some.inj hnew]
    · rw [hline]
      exact h.orderly.grab hidle
    · rw [hline] at hu
      exact .inl (Line.lost_grab hwork hu)

theorem executePending_keeps (h : Inv s) {proxy : Thread} {callbacks : List Thread}
    (hpc : s.pc t = .executePending proxy callbacks) (answer : Answer)
    (hkeeps : ∀ u rest, callbacks = u :: rest → answer.execution = .undelivered → Unconnected s u) :
    Inv (executePending s t proxy callbacks answer) := by
  have hactive : s.pc t ≠ .returned false := by
    rw [hpc]
    exact Pc.noConfusion
  have hwork : (line s).work t = callbacks := congrArg (inFlight t) hpc
  cases callbacks with
  | nil => exact h.quiet s (.returned true) rfl rfl rfl hactive False.elim hwork.symm h.proxy
  | cons strategy rest =>
    unfold executePending
    dsimp only
    cases hexecution : answer.execution with
    | delivered ret =>
      have hline : line ((s.deliver strategy).goto t (.executePending proxy rest)) =
          (line s).deliver t strategy rest := by
        rw [line_goto]
        rfl
      refine h.goto (s.deliver strategy) (.executePending proxy rest) rfl rfl rfl hactive False.elim
        h.proxy ?_ fun u hu _ => ?_
      · rw [hline]
        exact h.orderly.deliver hwork
      · rw [hline] at hu
        exact .inl (Line.lost_deliver hwork hu)
    | undelivered =>
      refine h.goto s (.executePending proxy rest) rfl rfl rfl hactive False.elim h.proxy ?_
        fun u hu _ => ?_
      · rw [line_goto]
        refine h.orderly.assign ?_ ?_
        · rw [hwork]
          exact List.cons_ne_nil strategy rest
        · rw [hwork]
          exact List.sublist_cons_self strategy rest
      · rw [line_goto] at hu
        refine (Line.lost_assign hu).imp_right fun hmem => ?_
        rw [hwork] at hmem
        rw [(List.mem_cons.mp hmem.1).resolve_right hmem.2]
        exact hkeeps strategy rest rfl hexecution

theorem next_keeps (h : Inv s) (t : Thread) (answer : Answer) (hkeeps : NextKeeps s t answer) :
    Inv (next s t answer) := by
  unfold NextKeeps at hkeeps
  unfold next
  have hactive : ∀ pc, s.pc t = pc → pc ≠ .returned false → s.pc t ≠ .returned false :=
    fun pc heq hne => heq ▸ hne
  cases hpc : s.pc t with
  | idle => exact h
  | checkConnectionState =>
    rw [hpc] at hkeeps
    exact check_keeps h hpc answer hkeeps
  | execute proxy =>
    rw [hpc] at hkeeps
    exact execute_keeps h hpc answer hkeeps
  | requeue =>
    rw [hpc] at hkeeps
    exact requeue_keeps h hpc answer hkeeps
  | disconnectRequeued callback =>
    exact h.quiet (s.markStale callback) .findCallback rfl rfl rfl (hactive _ hpc Pc.noConfusion)
      False.elim (congrArg (inFlight t) hpc).symm h.proxy
  | findCallback =>
    dsimp only
    refine h.quiet s _ rfl rfl rfl (hactive _ hpc Pc.noConfusion) ?_ ?_ h.proxy
    · cases s.info.bind (·.callback) <;> exact False.elim
    · rw [hpc]
      cases s.info.bind (·.callback) <;> rfl
  | disconnectOld callback =>
    exact h.quiet (s.markStale callback) .connect rfl rfl rfl (hactive _ hpc Pc.noConfusion)
      False.elim (congrArg (inFlight t) hpc).symm h.proxy
  | connect =>
    dsimp only
    split
    · exact h.quiet { s with created := Function.update s.created t true } .setCallback rfl rfl rfl
        (hactive _ hpc Pc.noConfusion) False.elim (congrArg (inFlight t) hpc).symm h.proxy
    · exact h.quiet s .eraseConnection rfl rfl rfl (hactive _ hpc Pc.noConfusion) False.elim
        (congrArg (inFlight t) hpc).symm h.proxy
  | setCallback =>
    dsimp only
    refine h.quiet { s with info := s.info.map (ConnectionInfo.setCallback t) } (.returned true) rfl
      rfl ?_ (hactive _ hpc Pc.noConfusion) False.elim (congrArg (inFlight t) hpc).symm
      fun info hinfo hne => ?_
    · cases s.info <;> rfl
    · obtain ⟨old, hold, rfl⟩ := Option.map_eq_some_iff.mp hinfo
      exact h.proxy old hold hne
  | eraseConnection =>
    rw [hpc] at hkeeps
    exact erase_keeps h (hactive _ hpc Pc.noConfusion) (congrArg (inFlight t) hpc) rfl False.elim
      fun u hu hreturned => hkeeps u hu fun hut => hreturned hut rfl
  | removeRemoteObject disconnected =>
    rw [hpc] at hkeeps
    refine erase_keeps h (hactive _ hpc Pc.noConfusion) (congrArg (inFlight t) hpc) ?_
      (fun _ => by rw [hpc]; trivial) fun u hu _ => hkeeps u hu
    split <;> rfl
  | saveProxy proxy =>
    rw [hpc] at hkeeps
    exact saveProxy_keeps h hpc hkeeps
  | executePending proxy callbacks =>
    rw [hpc] at hkeeps
    refine executePending_keeps h hpc answer fun u rest hcallbacks => ?_
    subst hcallbacks
    exact hkeeps
  | returned ret => exact h

/-- A thread that starts. -/
theorem start_keeps (h : Inv s) (mid : State) (hmid : mid.pc = s.pc) (hinfo : mid.info = s.info)
    (haccepted : mid.history.accepted = s.history.accepted)
    (hexecuted : mid.history.executed = s.history.executed) {pc : Pc} (hpc : s.pc t = .idle)
    (hflight : inFlight t pc = [])
    (hconnected : ∀ u, Dropped s u → u ∉ mid.history.connected) : Inv (mid.goto t pc) := by
  have hline : line (mid.goto t pc) = line s := by
    have hidle : inFlight t (mid.pc t) = [] := by
      rw [hmid, hpc]
      rfl
    rw [line_goto_same (hflight.trans hidle.symm)]
    unfold line
    rw [hmid, haccepted, hexecuted, hinfo]
  have hnew : t ∉ s.history.accepted := h.before t (by rw [hpc]; trivial)
  refine ⟨hline ▸ h.orderly, fun u hu hmem => ?_, fun info hsome => h.proxy info ?_, fun u hu => ?_⟩
  · have hmem : u ∈ s.history.accepted := haccepted ▸ hmem
    by_cases hut : u = t
    · exact hnew (hut ▸ hmem)
    · rw [pc_goto_of_ne pc hut, hmid] at hu
      exact h.before u hu hmem
  · rw [← hinfo]
    exact hsome
  · refine hconnected u ⟨hline ▸ hu.1, ?_⟩
    by_cases hut : u = t
    · rw [hut, hpc]
      exact Pc.noConfusion
    · rw [← hmid, ← pc_goto_of_ne pc hut]
      exact hu.2

theorem step_keeps (s : State) (op : Op) (h : Inv s) (hkeeps : Keeps s op) : Inv (step s op) := by
  cases op with
  | executeCallback t =>
    unfold step
    dsimp only
    split
    · exact start_keeps h s rfl rfl rfl rfl ‹_› rfl h.dropped
    · exact h
  | onAbilityConnectDone t callback ok =>
    unfold step
    dsimp only
    split
    · rename_i henabled
      refine start_keeps h { s with history := { s.history with
        connected := if ok then s.history.accepted else s.history.connected } } rfl rfl rfl rfl
        henabled.1 ?_ fun u hu => ?_
      · cases s.isStale callback <;> cases ok <;> rfl
      · cases ok with
        | false => exact h.dropped u hu
        | true => exact absurd hu (hkeeps rfl henabled.1 henabled.2 u)
    · exact h
  | onAbilityDisconnectDone t callback =>
    unfold step
    dsimp only
    split
    · rename_i henabled
      refine start_keeps h s rfl rfl rfl rfl henabled.1 ?_ h.dropped
      cases s.isStale callback <;> rfl
    · exact h
  | next t answer => exact next_keeps h t answer hkeeps

theorem inv_boot : Inv .boot where
  orderly := ⟨List.nodup_nil, fun _ _ hne => absurd rfl hne, fun _ => List.Sublist.refl []⟩
  before _ _ := List.not_mem_nil
  proxy _ h := by cases h
  dropped _ h := absurd h.1.1 List.not_mem_nil

end Step

namespace Overtaken

/-- No timeout, a valid proxy that takes every strategy, and a connection request that is taken. -/
def answer : Answer := ⟨0, 0, 1, true, .delivered true, true, false⟩

/-- A call asks for a connection, and its strategy waits. -/
def connecting : List Op :=
  [.executeCallback 0, .next 0 answer, .next 0 answer, .next 0 answer, .next 0 answer]

/-- Another call finds the proxy before the strategy that has waited is executed. -/
def ops : List Op :=
  connecting ++ [.onAbilityConnectDone 1 0 true, .next 1 answer, .executeCallback 2,
    .next 2 answer, .next 2 answer, .next 1 answer]

end Overtaken

end EnterpriseConnManager

end Edm
