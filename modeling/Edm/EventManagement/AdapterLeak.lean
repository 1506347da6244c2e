import Edm.EventManagement.ReferenceCounts

/-! The adapters that nobody needs any more.  Between the steps of a run, an adapter that is
subscribed without a subscription that needs it has a timer that will give it up. -/

set_option autoImplicit false

namespace Edm

open Library Library.UnorderedMap EventSubscriptionManager

variable {Callback : Type}

/-- A timer of the group runs and is not cancelled, or an `Unsubscribe` is about to start it. -/
def SubscriptionSystem.Pending (s : SubscriptionSystem Callback) (groupId : EventId) : Prop :=
  (∃ timer, s.manager.timer groupId = some timer ∧ timer.active = true ∧
      (timer.thread = .waiting ∨ timer.thread = .firing)) ∨
    .start groupId ∈ s.calls ∨ .startJoin groupId ∈ s.calls

/-- The steps that leave no adapter behind: a `Subscribe` that fits, an `Unsubscribe` of a handle
that its `Subscribe` has returned, and a retry that subscribes no adapter without need, unless a
timer will give it up. -/
def SubscriptionOp.LeavesNoAdapter (s : SubscriptionSystem Callback) :
    SubscriptionOp Callback → Prop
  | .subscribe args _ => s.manager.SubscribeFits args
  | .unsubscribe handleId =>
    ∀ groupId, .cancel handleId groupId ∉ s.calls ∧ .cancelJoin handleId groupId ∉ s.calls
  | .retryFailedAdapters type adapterSubscribes =>
    ∀ groupId state, s.manager.eventGroupStates.lookup groupId = some state →
      state.isSubscribed = false → state.adapter = some type → adapterSubscribes groupId = true →
      state.refCount = 0 → s.Pending groupId
  | _ => True

/-- What every step keeps.  A `Subscribe` that is about to cancel a timer keeps its group needed. -/
structure SubscriptionSystem.Covered (s : SubscriptionSystem Callback) : Prop where
  counted : s.manager.Counted
  cancels : ∀ handleId groupId,
    .cancel handleId groupId ∈ s.calls ∨ .cancelJoin handleId groupId ∈ s.calls →
    handleId ∈ s.manager.groupSubscriptions groupId
  pending : ∀ groupId state, s.manager.eventGroupStates.lookup groupId = some state →
    state.refCount = 0 → state.isSubscribed = true → s.Pending groupId

namespace SubscriptionSystem

variable {s s' : SubscriptionSystem Callback} {groupId : EventId}

/-- A pending timer is still pending when its timer and the calls under way are. -/
theorem Pending.frame (h : s.Pending groupId)
    (htimer : s'.manager.timer groupId = s.manager.timer groupId)
    (hcalls : ∀ call, call.groupId = groupId → call ∈ s.calls → call ∈ s'.calls) :
    s'.Pending groupId := by
  rcases h with ⟨timer, hlookup, hlive⟩ | hstart | hjoin
  · exact .inl ⟨timer, htimer.trans hlookup, hlive⟩
  · exact .inr (.inl (hcalls _ rfl hstart))
  · exact .inr (.inr (hcalls _ rfl hjoin))

/-- A group with a recorded subscription has a count. -/
theorem refCount_ne_zero (h : s.manager.Counted) {handleId : UInt32}
    (hmem : handleId ∈ s.manager.groupSubscriptions groupId) {state : EventGroupState}
    (hstate : s.manager.eventGroupStates.lookup groupId = some state) : state.refCount ≠ 0 := by
  intro hzero
  have hcount := h.counts groupId
  have hpos := Finset.card_pos.mpr ⟨handleId, hmem⟩
  have hzeroInt : (0 : Int32).toInt = 0 := by decide
  simp only [EventSubscriptionManager.refCount, hstate, Option.elim_some, hzero, hzeroInt] at hcount
  omega

end SubscriptionSystem

/-! ### Timers and states after a change -/

namespace EventSubscriptionManager

variable (m : EventSubscriptionManager Callback)

theorem timer_insert (groupId other : EventId) (state : EventGroupState) (nextHandleId : UInt32)
    (subscriptions : UnorderedMap UInt32 (SubscriptionEntry Callback)) :
    timer ⟨nextHandleId, subscriptions, m.eventGroupStates.insert groupId state⟩ other =
      if other = groupId then state.timer else m.timer other := by
  unfold timer
  rw [lookup_insert_eq]
  split <;> rfl

theorem lookup_setTimer (groupId other : EventId) (timer : DelayCancelTimer) :
    (m.setTimer groupId timer).eventGroupStates.lookup other =
      (m.eventGroupStates.lookup other).map fun state =>
        if other = groupId then { state with timer := some timer } else state := by
  unfold setTimer
  cases hstate : m.eventGroupStates.lookup groupId with
  | none =>
    by_cases heq : other = groupId
    · rw [heq]
      simp [hstate]
    · simp [heq]
  | some state =>
    show (m.eventGroupStates.insert groupId _).lookup other = _
    rw [lookup_insert_eq]
    by_cases heq : other = groupId
    · rw [heq, hstate]
      simp
    · simp [heq]

theorem timer_setTimer {groupId : EventId} {old : DelayCancelTimer}
    (hold : m.timer groupId = some old) (other : EventId) (new : DelayCancelTimer) :
    (m.setTimer groupId new).timer other = if other = groupId then some new else m.timer other := by
  unfold timer at hold ⊢
  rw [lookup_setTimer]
  by_cases heq : other = groupId
  · subst heq
    obtain ⟨state, hstate, -⟩ := Option.bind_eq_some_iff.mp hold
    simp [hstate]
  · simp [heq]

@[simp] theorem setTimer_subscriptions (groupId : EventId) (timer : DelayCancelTimer) :
    (m.setTimer groupId timer).subscriptions = m.subscriptions := by
  unfold setTimer
  split <;> rfl

/-- A state after a change of the timer is the old one but for the timer. -/
theorem state_setTimer {groupId other : EventId} {timer : DelayCancelTimer}
    {state : EventGroupState}
    (h : (m.setTimer groupId timer).eventGroupStates.lookup other = some state) :
    ∃ old, m.eventGroupStates.lookup other = some old ∧ old.refCount = state.refCount ∧
      old.isSubscribed = state.isSubscribed := by
  rw [lookup_setTimer, Option.map_eq_some_iff] at h
  obtain ⟨old, hold, rfl⟩ := h
  refine ⟨old, hold, ?_, ?_⟩
  · split <;> rfl
  · split <;> rfl

theorem groupSubscriptions_congr {m m' : EventSubscriptionManager Callback}
    (h : m'.subscriptions = m.subscriptions) (groupId : EventId) :
    m'.groupSubscriptions groupId = m.groupSubscriptions groupId := by
  unfold groupSubscriptions
  rw [h]

end EventSubscriptionManager

/-! ### The steps -/

namespace SubscriptionSystem

variable {s : SubscriptionSystem Callback}

/-- What a call can do in its step. -/
theorem step_cases {call : TimerCall} {timer timer' : DelayCancelTimer} {next : Option TimerCall}
    (h : call.step timer = some (next, timer')) :
    (∃ handleId groupId, call = .cancel handleId groupId ∧
        next = some (.cancelJoin handleId groupId)) ∨
      (∃ handleId groupId, call = .cancelJoin handleId groupId ∧ next = none) ∨
      (∃ groupId, call = .start groupId ∧ next = some (.startJoin groupId)) ∨
      ∃ groupId, call = .startJoin groupId ∧ next = none ∧ timer' = ⟨true, false, .waiting⟩ := by
  cases call with
  | cancel handleId groupId =>
    refine .inl ⟨handleId, groupId, rfl, ?_⟩
    simp only [TimerCall.step] at h
    split at h
    · cases h
    · cases h
      rfl
  | cancelJoin handleId groupId =>
    refine .inr (.inl ⟨handleId, groupId, rfl, ?_⟩)
    simp only [TimerCall.step] at h
    split at h
    · cases h
      rfl
    · cases h
  | start groupId =>
    refine .inr (.inr (.inl ⟨groupId, rfl, ?_⟩))
    simp only [TimerCall.step] at h
    split at h
    · cases h
    · cases h
      rfl
  | startJoin groupId =>
    refine .inr (.inr (.inr ⟨groupId, rfl, ?_⟩))
    simp only [TimerCall.step] at h
    split at h
    · cases h
      exact ⟨rfl, rfl⟩
    · cases h

theorem timerCall_cases (s : SubscriptionSystem Callback) (call : TimerCall) :
    s.timerCall call = s ∨ ∃ old next timer, call ∈ s.calls ∧
      s.manager.timer call.groupId = some old ∧ call.step old = some (next, timer) ∧
      s.timerCall call = ⟨s.manager.setTimer call.groupId timer, s.calls.erase call ++ next.toList⟩ := by
  unfold SubscriptionSystem.timerCall
  by_cases hcall : call ∈ s.calls
  · rw [if_pos hcall]
    cases hstep : (s.manager.timer call.groupId).bind call.step with
    | none => exact .inl rfl
    | some result =>
      obtain ⟨next, timer⟩ := result
      obtain ⟨old, hold, hstep⟩ := Option.bind_eq_some_iff.mp hstep
      exact .inr ⟨old, next, timer, hcall, hold, hstep, rfl⟩
  · exact .inl (if_neg hcall)

/-- A step of a call that leaves its group without need, or with a timer that is pending. -/
theorem Covered.callStep (h : s.Covered) {call : TimerCall} {old timer : DelayCancelTimer}
    {next : Option TimerCall} (hold : s.manager.timer call.groupId = some old)
    (hnext : ∀ handleId groupId, next = some (.cancel handleId groupId) ∨
      next = some (.cancelJoin handleId groupId) → call = .cancel handleId groupId ∧ call ∈ s.calls)
    (hgroup : (∃ handleId, handleId ∈ s.manager.groupSubscriptions call.groupId) ∨
      Pending ⟨s.manager.setTimer call.groupId timer, s.calls.erase call ++ next.toList⟩
        call.groupId) :
    Covered ⟨s.manager.setTimer call.groupId timer, s.calls.erase call ++ next.toList⟩ := by
  refine ⟨counted_setTimer h.counted _ _, ?_, ?_⟩
  · intro handleId groupId hmem
    have hsame : groupSubscriptions (s.manager.setTimer call.groupId timer) groupId =
        s.manager.groupSubscriptions groupId :=
      groupSubscriptions_congr (setTimer_subscriptions _ _ _) groupId
    have hold : ∀ other, other ∈ s.calls.erase call ++ next.toList →
        other ∈ s.calls ∨ next = some other := by
      intro other hmem
      rcases List.mem_append.mp hmem with hmem | hmem
      · exact .inl (List.mem_of_mem_erase hmem)
      · exact .inr (Option.mem_toList.mp hmem)
    show handleId ∈ groupSubscriptions (s.manager.setTimer call.groupId timer) groupId
    rw [hsame]
    refine h.cancels handleId groupId ?_
    rcases hmem with hmem | hmem
    · rcases hold _ hmem with hmem | heq
      · exact .inl hmem
      · obtain ⟨rfl, hcall⟩ := hnext handleId groupId (.inl heq)
        exact .inl hcall
    · rcases hold _ hmem with hmem | heq
      · exact .inr hmem
      · obtain ⟨rfl, hcall⟩ := hnext handleId groupId (.inr heq)
        exact .inl hcall
  · intro groupId state hstate hzero hsubscribed
    obtain ⟨before, hbefore, hcount, hflag⟩ := state_setTimer _ hstate
    by_cases hsame : groupId = call.groupId
    · subst hsame
      rcases hgroup with ⟨handleId, hmem⟩ | hpending
      · exact absurd (hcount.trans hzero) (refCount_ne_zero h.counted hmem hbefore)
      · exact hpending
    · refine (h.pending groupId before hbefore (hcount.trans hzero)
        (hflag.trans hsubscribed)).frame ?_ ?_
      · exact (timer_setTimer _ hold groupId timer).trans (if_neg hsame)
      · intro other hother hmem
        refine List.mem_append_left _ ((List.mem_erase_of_ne ?_).mpr hmem)
        rintro rfl
        exact hsame hother.symm

theorem Covered.timerCall (h : s.Covered) (call : TimerCall) : (s.timerCall call).Covered := by
  rcases timerCall_cases s call with hsame | ⟨old, next, timer, hcall, hold, hstep, heq⟩
  · rw [hsame]
    exact h
  · rw [heq]
    rcases step_cases hstep with ⟨handleId, groupId, rfl, rfl⟩ | ⟨handleId, groupId, rfl, rfl⟩ |
      ⟨groupId, rfl, rfl⟩ | ⟨groupId, rfl, rfl, rfl⟩
    · refine h.callStep hold ?_ (.inl ⟨handleId, h.cancels handleId groupId (.inl hcall)⟩)
      rintro other otherGroup (hother | hother)
      · cases hother
      · cases hother
        exact ⟨rfl, hcall⟩
    · refine h.callStep hold ?_ (.inl ⟨handleId, h.cancels handleId groupId (.inr hcall)⟩)
      rintro other otherGroup (hother | hother) <;> cases hother
    · refine h.callStep hold ?_ (.inr (.inr (.inr ?_)))
      · rintro other otherGroup (hother | hother) <;> cases hother
      · exact List.mem_append_right _ (List.mem_singleton_self _)
    · refine h.callStep hold ?_ (.inr (.inl ⟨⟨true, false, .waiting⟩, ?_, rfl, .inl rfl⟩))
      · rintro other otherGroup (hother | hother) <;> cases hother
      · exact (timer_setTimer _ hold groupId _).trans (if_pos rfl)

/-- A step of the thread of a timer, with the calls as they were. -/
theorem Covered.threadStep (h : s.Covered) {groupId : EventId} {old timer : DelayCancelTimer}
    (hold : s.manager.timer groupId = some old)
    (hlive : old.active = true ∧ (old.thread = .waiting ∨ old.thread = .firing) →
      timer.active = true ∧ (timer.thread = .waiting ∨ timer.thread = .firing)) :
    Covered { s with manager := s.manager.setTimer groupId timer } := by
  refine ⟨counted_setTimer h.counted _ _, ?_, ?_⟩
  · intro handleId other hmem
    have hsame : groupSubscriptions (s.manager.setTimer groupId timer) other =
        s.manager.groupSubscriptions other :=
      groupSubscriptions_congr (setTimer_subscriptions _ _ _) other
    show handleId ∈ groupSubscriptions (s.manager.setTimer groupId timer) other
    rw [hsame]
    exact h.cancels handleId other hmem
  · intro other state hstate hzero hsubscribed
    obtain ⟨before, hbefore, hcount, hflag⟩ := state_setTimer _ hstate
    have hpending := h.pending other before hbefore (hcount.trans hzero) (hflag.trans hsubscribed)
    have htimer := timer_setTimer _ hold other timer
    by_cases hsame : other = groupId
    · subst hsame
      rcases hpending with ⟨running, hrunning, hactive⟩ | hcalls
      · obtain rfl : old = running := Option.some.inj (hold.symm.trans hrunning)
        exact .inl ⟨timer, htimer.trans (if_pos rfl), hlive hactive⟩
      · exact .inr hcalls
    · exact hpending.frame (htimer.trans (if_neg hsame)) fun _ _ hmem => hmem

/-- The changes of one state that leave the records, the calls and the timer of the group. -/
theorem Covered.insertState (h : s.Covered) {groupId : EventId} {old state : EventGroupState}
    (hold : s.manager.eventGroupStates.lookup groupId = some old)
    (hcount : state.refCount = old.refCount) (htimer : state.timer = old.timer)
    (hpending : state.refCount = 0 → state.isSubscribed = true → s.Pending groupId) :
    Covered { s with manager := { s.manager with
      eventGroupStates := s.manager.eventGroupStates.insert groupId state } } := by
  refine ⟨counted_insert h.counted hold hcount, h.cancels, ?_⟩
  have htimers : ∀ other, timer { s.manager with
      eventGroupStates := s.manager.eventGroupStates.insert groupId state } other =
        s.manager.timer other := by
    intro other
    rw [timer_insert]
    split
    · rename_i heq
      unfold EventSubscriptionManager.timer
      rw [heq, hold, htimer]
      rfl
    · rfl
  intro other found hfound hzero hsubscribed
  have hfound : (s.manager.eventGroupStates.insert groupId state).lookup other = some found := hfound
  rw [lookup_insert_eq] at hfound
  have hbefore : s.Pending other := by
    split at hfound
    · rename_i heq
      cases hfound
      rw [heq]
      exact hpending hzero hsubscribed
    · exact h.pending other found hfound hzero hsubscribed
  exact hbefore.frame (htimers other) fun _ _ hmem => hmem

theorem Covered.delayedUnsubscribe (h : s.Covered) (groupId : EventId) (adapterUnsubscribes : Bool) :
    Covered { s with manager := s.manager.delayedUnsubscribe groupId adapterUnsubscribes } := by
  unfold EventSubscriptionManager.delayedUnsubscribe
  cases hstate : s.manager.eventGroupStates.lookup groupId with
  | none => exact h
  | some state =>
    dsimp only
    split
    · exact h.insertState hstate rfl rfl fun _ hsubscribed => nomatch hsubscribed
    · exact h

/-- After the task no adapter is subscribed without need. -/
theorem delayedUnsubscribe_state (m : EventSubscriptionManager Callback) (groupId : EventId)
    (adapterUnsubscribes : Bool) {state : EventGroupState}
    (hstate : (m.delayedUnsubscribe groupId adapterUnsubscribes).eventGroupStates.lookup groupId =
      some state) (hzero : state.refCount = 0) : state.isSubscribed = false := by
  unfold EventSubscriptionManager.delayedUnsubscribe at hstate
  cases hold : m.eventGroupStates.lookup groupId with
  | none =>
    simp only [hold] at hstate
    cases hstate
  | some old =>
    simp only [hold] at hstate
    split at hstate
    · rw [Finmap.lookup_insert] at hstate
      cases hstate
      rfl
    · rename_i hneeded
      rw [hold] at hstate
      cases hstate
      by_contra hsubscribed
      exact hneeded ⟨hzero, by simpa using hsubscribed⟩

theorem delayedUnsubscribe_timer (m : EventSubscriptionManager Callback) (groupId : EventId)
    (adapterUnsubscribes : Bool) (other : EventId) :
    (m.delayedUnsubscribe groupId adapterUnsubscribes).timer other = m.timer other := by
  unfold EventSubscriptionManager.delayedUnsubscribe
  cases hold : m.eventGroupStates.lookup groupId with
  | none => rfl
  | some old =>
    dsimp only
    split
    · rw [timer_insert]
      split
      · rename_i heq
        unfold EventSubscriptionManager.timer
        rw [heq, hold]
        rfl
      · rfl
    · rfl

theorem Covered.timerThread (h : s.Covered) (groupId : EventId) (adapterUnsubscribes : Bool) :
    (s.timerThread groupId adapterUnsubscribes).Covered := by
  unfold SubscriptionSystem.timerThread
  cases hold : s.manager.timer groupId with
  | none => exact h
  | some old =>
    cases hthread : old.thread with
    | none =>
      simp only [hthread]
      exact h
    | waiting =>
      simp only [hthread]
      refine h.threadStep hold fun hlive => ⟨hlive.1, ?_⟩
      simp [hlive.1]
    | firing =>
      simp only [hthread]
      have hafter := h.delayedUnsubscribe groupId adapterUnsubscribes
      have htimer := (delayedUnsubscribe_timer s.manager groupId adapterUnsubscribes groupId).trans
        hold
      refine ⟨counted_setTimer hafter.counted _ _, ?_, ?_⟩
      · intro handleId other hmem
        have hsame := groupSubscriptions_congr (setTimer_subscriptions
          (s.manager.delayedUnsubscribe groupId adapterUnsubscribes) groupId
          { old with thread := .finishing }) other
        exact hsame ▸ hafter.cancels handleId other hmem
      · intro other state hstate hzero hsubscribed
        obtain ⟨before, hbefore, hcount, hflag⟩ := state_setTimer _ hstate
        by_cases hsame : other = groupId
        · subst hsame
          have := delayedUnsubscribe_state s.manager other adapterUnsubscribes hbefore
            (hcount.trans hzero)
          rw [hflag, hsubscribed] at this
          cases this
        · refine (hafter.pending other before hbefore (hcount.trans hzero)
            (hflag.trans hsubscribed)).frame ?_ fun _ _ hmem => hmem
          exact (timer_setTimer _ htimer other _).trans (if_neg hsame)
    | finishing =>
      simp only [hthread]
      refine h.threadStep hold fun hlive => ?_
      rw [hthread] at hlive
      rcases hlive.2 with hwait | hfire
      · cases hwait
      · cases hfire

theorem Covered.subscribe (h : s.Covered) {args : SubscribeArgs Callback}
    (hfits : s.manager.SubscribeFits args) (adapterSubscribes : Bool) :
    (s.subscribe args adapterSubscribes).Covered := by
  have hcounted := (counted_subscribe_iff h.counted args adapterSubscribes).mpr hfits
  unfold SubscriptionSystem.subscribe
  rcases subscribe_cases s.manager args adapterSubscribes with ⟨hnone, -⟩ |
    ⟨callback, state, hcallback, hensure, hsome⟩
  · rw [hnone]
    show Covered ⟨s.manager, s.calls ++ []⟩
    rw [List.append_nil]
    exact h
  · rw [hsome] at hcounted ⊢
    obtain ⟨hfree, -⟩ := hfits state (by rw [hcallback]; rfl) hensure
    have hnew : s.manager.nextHandleId ∈ groupSubscriptions ⟨s.manager.nextHandleId + 1,
        s.manager.subscriptions.insert s.manager.nextHandleId
          ⟨args.subscriberId, args.type, args.eventId, callback⟩,
        s.manager.eventGroupStates⟩ (getEventGroupId args.eventId) := by
      rw [groupSubscriptions_insert, if_pos rfl]
      exact Finset.mem_insert_self _ _
    refine ⟨hcounted, ?_, ?_⟩
    · intro handleId groupId hmem
      have hcase : (.cancel handleId groupId ∈ s.calls ∨ .cancelJoin handleId groupId ∈ s.calls) ∨
          (handleId = s.manager.nextHandleId ∧ groupId = getEventGroupId args.eventId) := by
        simp only [Option.elim_some, List.mem_append, List.mem_map, Option.mem_toList] at hmem
        rcases hmem with (hmem | ⟨group, hgroup, heq⟩) | (hmem | ⟨group, hgroup, heq⟩)
        · exact .inl (.inl hmem)
        · cases heq
          split at hgroup
          · cases hgroup
            exact .inr ⟨rfl, rfl⟩
          · cases hgroup
        · exact .inl (.inr hmem)
        · cases heq
      rcases hcase with hmem | ⟨rfl, rfl⟩
      · have hold := h.cancels handleId groupId hmem
        have hne : handleId ≠ s.manager.nextHandleId := by
          rintro rfl
          exact notMem_groupSubscriptions hfree groupId hold
        show handleId ∈ groupSubscriptions ⟨_, s.manager.subscriptions.insert _ _, _⟩ groupId
        rw [groupSubscriptions_insert]
        split
        · exact Finset.mem_insert_of_mem hold
        · exact Finset.mem_erase.mpr ⟨hne, hold⟩
      · exact hnew
    · intro groupId found hfound hzero hsubscribed
      by_cases hgroup : groupId = getEventGroupId args.eventId
      · subst hgroup
        exact absurd hzero (refCount_ne_zero (s := ⟨_, []⟩) hcounted hnew hfound)
      · have hfound : (s.manager.eventGroupStates.insert (getEventGroupId args.eventId) _).lookup
            groupId = some found := hfound
        rw [lookup_insert_eq, if_neg hgroup] at hfound
        refine (h.pending groupId found hfound hzero hsubscribed).frame ?_ fun _ _ hmem =>
          List.mem_append_left _ hmem
        exact (timer_insert s.manager _ groupId _ _ _).trans (if_neg hgroup)

theorem eq_one_of_pred {count : Int32} (h : count - 1 = 0) : count = 1 := by
  have hsucc := congrArg (· + 1) h
  simpa using hsucc

theorem Covered.unsubscribe (h : s.Covered) {handleId : UInt32}
    (hreturned : ∀ groupId, .cancel handleId groupId ∉ s.calls ∧
      .cancelJoin handleId groupId ∉ s.calls) : (s.unsubscribe handleId).Covered := by
  have hcounted := counted_unsubscribe h.counted handleId
  unfold SubscriptionSystem.unsubscribe
  cases hentry : s.manager.subscriptions.lookup handleId with
  | none =>
    have hsame : s.manager.unsubscribe handleId = (none, s.manager) := by
      unfold EventSubscriptionManager.unsubscribe
      rw [hentry]
    rw [hsame]
    show Covered ⟨s.manager, s.calls ++ []⟩
    rw [List.append_nil]
    exact h
  | some entry =>
    have hmem : handleId ∈ s.manager.groupSubscriptions (getEventGroupId entry.eventId) :=
      mem_keysWhere.mpr ⟨entry, hentry, beq_iff_eq.mpr rfl⟩
    have hgroupState : s.manager.eventGroupStates.lookup (getEventGroupId entry.eventId) ≠ none := by
      intro hnone
      have hcount := h.counted.counts (getEventGroupId entry.eventId)
      have hpos := Finset.card_pos.mpr ⟨handleId, hmem⟩
      simp only [EventSubscriptionManager.refCount, hnone, Option.elim_none] at hcount
      omega
    obtain ⟨state, hstate⟩ := Option.ne_none_iff_exists'.mp hgroupState
    rw [unsubscribe_some hentry hstate] at hcounted ⊢
    have hcalls : ∀ call, call ∈ s.calls ++ (if state.refCount = 1 then
        some (getEventGroupId entry.eventId) else none).toList.map .start →
        call ∈ s.calls ∨ state.refCount = 1 ∧ call = .start (getEventGroupId entry.eventId) := by
      intro call hcall
      rcases List.mem_append.mp hcall with hcall | hcall
      · exact .inl hcall
      · split at hcall
        · rename_i hlast
          exact .inr ⟨hlast, List.mem_singleton.mp hcall⟩
        · cases hcall
    refine ⟨hcounted, ?_, ?_⟩
    · intro other groupId hother
      have hold : .cancel other groupId ∈ s.calls ∨ .cancelJoin other groupId ∈ s.calls := by
        rcases hother with hother | hother
        · refine .inl ((hcalls _ hother).resolve_right ?_)
          rintro ⟨-, hstart⟩
          cases hstart
        · refine .inr ((hcalls _ hother).resolve_right ?_)
          rintro ⟨-, hstart⟩
          cases hstart
      show other ∈ groupSubscriptions ⟨_, s.manager.subscriptions.erase handleId, _⟩ groupId
      rw [groupSubscriptions_erase, Finset.mem_erase]
      refine ⟨?_, h.cancels other groupId hold⟩
      rintro rfl
      exact hold.elim (hreturned groupId).1 (hreturned groupId).2
    · intro groupId found hfound hzero hsubscribed
      have hafter : (s.manager.eventGroupStates.insert (getEventGroupId entry.eventId) _).lookup
          groupId = some found := hfound
      rw [lookup_insert_eq] at hafter
      split at hafter
      · rename_i hgroup
        subst hgroup
        obtain rfl := Option.some.inj hafter
        have hlast := eq_one_of_pred hzero
        refine .inr (.inl (List.mem_append_right _ ?_))
        rw [if_pos hlast]
        exact List.mem_singleton_self _
      · rename_i hgroup
        refine (h.pending groupId found hafter hzero hsubscribed).frame ?_ fun _ _ hmem =>
          List.mem_append_left _ hmem
        exact (timer_insert s.manager _ groupId _ _ _).trans (if_neg hgroup)

theorem Covered.reset (h : s.Covered) (groupId : EventId) :
    Covered { s with manager := s.manager.resetAdapterSubscribedState groupId } := by
  unfold resetAdapterSubscribedState
  cases hstate : s.manager.eventGroupStates.lookup groupId with
  | none => exact h
  | some state => exact h.insertState hstate rfl rfl fun _ hsubscribed => nomatch hsubscribed

/-- A change of the flags of all states that leaves the records, the calls and the timers. -/
theorem Covered.mapStates (h : s.Covered) {m : EventSubscriptionManager Callback}
    (hcounted : m.Counted) (hsubscriptions : m.subscriptions = s.manager.subscriptions)
    (hstates : ∀ groupId state, m.eventGroupStates.lookup groupId = some state →
      ∃ old, s.manager.eventGroupStates.lookup groupId = some old ∧ state.refCount = old.refCount ∧
        state.timer = old.timer ∧
        (state.refCount = 0 → state.isSubscribed = true → s.Pending groupId)) :
    Covered { s with manager := m } := by
  refine ⟨hcounted, ?_, ?_⟩
  · intro handleId groupId hmem
    show handleId ∈ m.groupSubscriptions groupId
    rw [groupSubscriptions_congr hsubscriptions]
    exact h.cancels handleId groupId hmem
  · intro groupId state hstate hzero hsubscribed
    obtain ⟨old, hold, hcount, htimer, hpending⟩ := hstates groupId state hstate
    refine (hpending hzero hsubscribed).frame ?_ fun _ _ hmem => hmem
    show m.timer groupId = s.manager.timer groupId
    unfold EventSubscriptionManager.timer
    have hstate : m.eventGroupStates.lookup groupId = some state := hstate
    rw [hstate, hold]
    exact htimer

theorem Covered.resetCommonEvent (h : s.Covered) :
    Covered { s with manager := s.manager.resetCommonEventAdapterStates } := by
  refine h.mapStates (counted_resetCommonEventAdapterStates h.counted) rfl
    fun groupId state hstate => ?_
  have hstate : (mapValues _ s.manager.eventGroupStates).lookup groupId = some state := hstate
  rw [lookup_mapValues, Option.map_eq_some_iff] at hstate
  obtain ⟨old, hold, rfl⟩ := hstate
  refine ⟨old, hold, ?_⟩
  split
  · exact ⟨rfl, rfl, fun _ hsubscribed => nomatch hsubscribed⟩
  · exact ⟨rfl, rfl, h.pending groupId old hold⟩

theorem Covered.retry (h : s.Covered) {type : AdapterType} {adapterSubscribes : EventId → Bool}
    (hneeded : ∀ groupId state, s.manager.eventGroupStates.lookup groupId = some state →
      state.isSubscribed = false → state.adapter = some type → adapterSubscribes groupId = true →
      state.refCount = 0 → s.Pending groupId) :
    Covered { s with manager := s.manager.retryFailedAdapters type adapterSubscribes } := by
  refine h.mapStates (counted_retryFailedAdapters h.counted type adapterSubscribes) rfl
    fun groupId state hstate => ?_
  have hstate : (mapWithKey _ s.manager.eventGroupStates).lookup groupId = some state := hstate
  rw [lookup_mapWithKey, Option.map_eq_some_iff] at hstate
  obtain ⟨old, hold, rfl⟩ := hstate
  refine ⟨old, hold, ?_⟩
  split
  · rename_i hfailed
    exact ⟨rfl, rfl, fun hzero hsubscribed =>
      hneeded groupId old hold hfailed.1 hfailed.2 hsubscribed hzero⟩
  · exact ⟨rfl, rfl, h.pending groupId old hold⟩

theorem Covered.step (h : s.Covered) (op : SubscriptionOp Callback) (hop : op.LeavesNoAdapter s) :
    (subscriptionStep s op).Covered := by
  cases op with
  | subscribe args adapterSubscribes => exact h.subscribe hop adapterSubscribes
  | unsubscribe handleId => exact h.unsubscribe hop
  | timerCall call => exact h.timerCall call
  | timerThread groupId adapterUnsubscribes => exact h.timerThread groupId adapterUnsubscribes
  | resetAdapterSubscribedState groupId => exact h.reset groupId
  | resetCommonEventAdapterStates => exact h.resetCommonEvent
  | retryFailedAdapters type adapterSubscribes => exact h.retry hop

end SubscriptionSystem

namespace RetryLeak

open SubscriptionSystem

/-- The adapter of a group cannot be subscribed, the only subscription is given up, the delay of 30
seconds passes, and the adapters that failed are subscribed again. -/
def ops : List (SubscriptionOp Unit) :=
  [.subscribe ⟨"EDM_SA", .saCore, ManagedEvent.USER_SWITCHED, some (), "", ""⟩ false,
    .unsubscribe 1, .timerCall (.start ManagedEvent.USER_SWITCHED),
    .timerCall (.startJoin ManagedEvent.USER_SWITCHED),
    .timerThread ManagedEvent.USER_SWITCHED true, .timerThread ManagedEvent.USER_SWITCHED true,
    .timerThread ManagedEvent.USER_SWITCHED true, .retryFailedAdapters .commonEvent fun _ => true]

end RetryLeak

end Edm
