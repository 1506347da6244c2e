import Edm.EventManagement.SubscriptionSystem

/-! The reference counts of the event groups.  A group counts the subscriptions that are recorded in
it, in every order of the steps, as long as no `Subscribe` draws a handle that is still in use or
finds a count that has no successor. -/

set_option autoImplicit false

namespace Edm

open Library Library.UnorderedMap

namespace EventSubscriptionManager

variable {Callback : Type} (m : EventSubscriptionManager Callback)

/-- The handles of the subscriptions that are recorded in a group. -/
def groupSubscriptions (groupId : EventId) : Finset UInt32 :=
  keysWhere (fun entry => getEventGroupId entry.eventId == groupId) m.subscriptions

/-- The count of a group, which is 0 before the group has a state. -/
def refCount (groupId : EventId) : Int :=
  (m.eventGroupStates.lookup groupId).elim 0 fun state => state.refCount.toInt

/-- The counts are those of the recorded subscriptions, and the task of a timer unsubscribes no
adapter that is needed. -/
structure Counted : Prop where
  counts : ∀ groupId, m.refCount groupId = (m.groupSubscriptions groupId).card
  expiry : ∀ groupId, m.expiryUnsubscribes groupId = true → m.groupSubscriptions groupId = ∅

/-- A subscription that gets a free handle, and a count that has a successor. -/
def SubscribeFits (args : SubscribeArgs Callback) : Prop :=
  ∀ state, args.callback.isSome = true →
    m.ensureGroupState (getEventGroupId args.eventId) args.eventName args.eventPermission =
      some state →
    m.subscriptions.lookup m.nextHandleId = none ∧ state.refCount ≠ Int32.maxValue

variable {m}

/-! ### The parts of the critical sections -/

theorem counted_of_counts
    (h : ∀ groupId, m.refCount groupId = (m.groupSubscriptions groupId).card) : m.Counted where
  counts := h
  expiry groupId hexpiry := by
    unfold expiryUnsubscribes at hexpiry
    cases hlookup : m.eventGroupStates.lookup groupId with
    | none =>
      rw [hlookup] at hexpiry
      cases hexpiry
    | some state =>
      simp only [hlookup, Bool.and_eq_true, beq_iff_eq] at hexpiry
      have hcount := h groupId
      simp only [refCount, hlookup, Option.elim_some, hexpiry.1.1] at hcount
      have hzero : (0 : Int32).toInt = 0 := by decide
      rw [hzero] at hcount
      exact Finset.card_eq_zero.mp (by omega)

/-- The counts and the records are all that `Counted` is about. -/
theorem Counted.congr {m' : EventSubscriptionManager Callback} (h : m.Counted)
    (hsubscriptions : m'.subscriptions = m.subscriptions)
    (hcounts : ∀ groupId, m'.refCount groupId = m.refCount groupId) : m'.Counted := by
  refine counted_of_counts fun groupId => ?_
  have hgroup : m'.groupSubscriptions groupId = m.groupSubscriptions groupId := by
    unfold groupSubscriptions
    rw [hsubscriptions]
  rw [hcounts, hgroup, h.counts]

theorem refCount_insert (m : EventSubscriptionManager Callback) (groupId other : EventId)
    (state : EventGroupState) (nextHandleId : UInt32)
    (subscriptions : UnorderedMap UInt32 (SubscriptionEntry Callback)) :
    refCount ⟨nextHandleId, subscriptions, m.eventGroupStates.insert groupId state⟩ other =
      if other = groupId then state.refCount.toInt else m.refCount other := by
  unfold refCount
  rw [lookup_insert_eq]
  split <;> rfl

/-- The count of the state that a subscription finds. -/
theorem ensureGroupState_refCount {groupId : EventId} {eventName eventPermission : String}
    {state : EventGroupState}
    (h : m.ensureGroupState groupId eventName eventPermission = some state) :
    state.refCount.toInt = m.refCount groupId := by
  unfold ensureGroupState at h
  cases hlookup : m.eventGroupStates.lookup groupId with
  | none =>
    simp only [hlookup, Option.map_eq_some_iff] at h
    obtain ⟨adapter, -, rfl⟩ := h
    unfold refCount
    rw [hlookup]
    rfl
  | some found =>
    have hcount : m.refCount groupId = found.refCount.toInt := by
      unfold refCount
      rw [hlookup]
      rfl
    rw [hcount]
    cases hadapter : found.adapter with
    | some adapter =>
      simp only [hlookup, hadapter, Option.some.injEq] at h
      rw [h]
    | none =>
      simp only [hlookup, hadapter, Option.map_eq_some_iff] at h
      obtain ⟨adapter, -, rfl⟩ := h
      rfl

/-- A `Subscribe` that records a subscription, and one that does not. -/
theorem subscribe_cases (m : EventSubscriptionManager Callback) (args : SubscribeArgs Callback)
    (adapterSubscribes : Bool) :
    (m.subscribe args adapterSubscribes = (none, m) ∧
        ∀ state, args.callback.isSome = true → m.ensureGroupState (getEventGroupId args.eventId)
          args.eventName args.eventPermission ≠ some state) ∨
      ∃ callback state, args.callback = some callback ∧
        m.ensureGroupState (getEventGroupId args.eventId) args.eventName args.eventPermission =
          some state ∧
        m.subscribe args adapterSubscribes =
          (some { handleId := m.nextHandleId
                  timerToCancel := if state.timer.any (·.isRunning) then
                    some (getEventGroupId args.eventId) else none },
            { nextHandleId := m.nextHandleId + 1
              subscriptions := m.subscriptions.insert m.nextHandleId
                { subscriberId := args.subscriberId, type := args.type, eventId := args.eventId
                  callback }
              eventGroupStates := m.eventGroupStates.insert (getEventGroupId args.eventId)
                { state with
                  isSubscribed := state.isSubscribed || adapterSubscribes
                  refCount := state.refCount + 1 } }) := by
  unfold subscribe
  cases hcallback : args.callback with
  | none => exact .inl ⟨rfl, fun _ hsome => nomatch hsome⟩
  | some callback =>
    cases hensure : m.ensureGroupState (getEventGroupId args.eventId) args.eventName
        args.eventPermission with
    | none =>
      refine .inl ⟨?_, fun _ _ hstate => nomatch hstate⟩
      simp only [hensure]
    | some state =>
      refine .inr ⟨callback, state, rfl, rfl, ?_⟩
      simp only [hensure]

/-! ### Subscribing -/

/-- The recorded subscriptions of a group after an insertion. -/
theorem groupSubscriptions_insert (m : EventSubscriptionManager Callback) (groupId : EventId)
    (handleId nextHandleId : UInt32) (entry : SubscriptionEntry Callback)
    (eventGroupStates : UnorderedMap EventId EventGroupState) :
    groupSubscriptions ⟨nextHandleId, m.subscriptions.insert handleId entry, eventGroupStates⟩
        groupId =
      if getEventGroupId entry.eventId = groupId then
        insert handleId (m.groupSubscriptions groupId)
      else (m.groupSubscriptions groupId).erase handleId := by
  unfold groupSubscriptions
  rw [keysWhere_insert]
  simp only [beq_iff_eq]

theorem notMem_groupSubscriptions {handleId : UInt32}
    (h : m.subscriptions.lookup handleId = none) (groupId : EventId) :
    handleId ∉ m.groupSubscriptions groupId := by
  intro hmem
  obtain ⟨entry, hentry, -⟩ := mem_keysWhere.mp hmem
  rw [h] at hentry
  cases hentry

theorem toInt_succ {count : Int32} {n : Nat} (h : count.toInt = n)
    (hmax : count ≠ Int32.maxValue) : (count + 1).toInt = n + 1 := by
  have hlt := count.toInt_lt
  have hne : count.toInt ≠ 2147483647 := fun heq => hmax (Int32.toInt_inj.mp (heq.trans (by decide)))
  have hone : (1 : Int32).toInt = 1 := by decide
  rw [Int32.toInt_add, h, hone, Int.bmod_def]
  omega

theorem toInt_pred {count : Int32} {n : Nat} (h : count.toInt = n + 1) :
    (count - 1).toInt = n := by
  have hlt := count.toInt_lt
  have hone : (1 : Int32).toInt = 1 := by decide
  rw [Int32.toInt_sub, h, hone, Int.bmod_def]
  omega

/-- A subscription keeps the counts exactly when it fits. -/
theorem counted_subscribe_iff (h : m.Counted) (args : SubscribeArgs Callback)
    (adapterSubscribes : Bool) :
    (m.subscribe args adapterSubscribes).2.Counted ↔ m.SubscribeFits args := by
  rcases subscribe_cases m args adapterSubscribes with ⟨hnone, hfails⟩ |
    ⟨callback, state, hcallback, hensure, hsome⟩
  · rw [hnone]
    exact ⟨fun _ state hcallback hstate => absurd hstate (hfails state hcallback), fun _ => h⟩
  · rw [hsome]
    have hstate := ensureGroupState_refCount hensure
    rw [h.counts] at hstate
    constructor
    · intro hcounted other _ hother
      obtain rfl : state = other := Option.some.inj (hensure.symm.trans hother)
      have hgroup := hcounted.counts (getEventGroupId args.eventId)
      rw [refCount_insert, groupSubscriptions_insert, if_pos rfl, if_pos rfl] at hgroup
      refine ⟨?_, ?_⟩
      · by_contra hused
        obtain ⟨old, hold⟩ := Option.ne_none_iff_exists'.mp hused
        have hmem : m.nextHandleId ∈ m.groupSubscriptions (getEventGroupId old.eventId) :=
          mem_keysWhere.mpr ⟨old, hold, beq_iff_eq.mpr rfl⟩
        by_cases hsame : getEventGroupId args.eventId = getEventGroupId old.eventId
        · -- the handle is counted twice for its group
          rw [← hsame] at hmem
          rw [Finset.insert_eq_of_mem hmem, ← hstate, Int32.toInt_inj] at hgroup
          simp at hgroup
        · -- the handle is still counted for the group that it was taken from
          have hold := hcounted.counts (getEventGroupId old.eventId)
          rw [refCount_insert, groupSubscriptions_insert, if_neg (Ne.symm hsame), if_neg hsame,
            h.counts] at hold
          have := Finset.card_erase_lt_of_mem hmem
          omega
      · rintro hmax
        rw [hmax] at hgroup
        have hmin : (Int32.maxValue + 1).toInt = -2147483648 := by decide
        have hgroup : (Int32.maxValue + 1).toInt = _ := hgroup
        rw [hmin] at hgroup
        omega
    · intro hfits
      obtain ⟨hfree, hmax⟩ := hfits state (by rw [hcallback]; rfl) hensure
      refine counted_of_counts fun groupId => ?_
      have hnot := notMem_groupSubscriptions hfree groupId
      rw [refCount_insert, groupSubscriptions_insert]
      by_cases hgroup : groupId = getEventGroupId args.eventId
      · subst hgroup
        rw [if_pos rfl, if_pos rfl, Finset.card_insert_of_notMem hnot]
        exact toInt_succ hstate hmax
      · rw [if_neg hgroup, if_neg (Ne.symm hgroup), Finset.erase_eq_of_notMem hnot, h.counts]

/-! ### Unsubscribing, and the steps that leave the counts alone -/

theorem groupSubscriptions_erase (m : EventSubscriptionManager Callback) (groupId : EventId)
    (handleId nextHandleId : UInt32) (eventGroupStates : UnorderedMap EventId EventGroupState) :
    groupSubscriptions ⟨nextHandleId, m.subscriptions.erase handleId, eventGroupStates⟩ groupId =
      (m.groupSubscriptions groupId).erase handleId := keysWhere_erase _ _ _

/-- The removal of a recorded subscription. -/
theorem unsubscribe_some {handleId : UInt32} {entry : SubscriptionEntry Callback}
    {state : EventGroupState} (hentry : m.subscriptions.lookup handleId = some entry)
    (hstate : m.eventGroupStates.lookup (getEventGroupId entry.eventId) = some state) :
    m.unsubscribe handleId =
      (if state.refCount = 1 then some (getEventGroupId entry.eventId) else none,
        { m with
          subscriptions := m.subscriptions.erase handleId
          eventGroupStates := m.eventGroupStates.insert (getEventGroupId entry.eventId)
            { state with
              refCount := state.refCount - 1
              timer := if state.refCount = 1 then some (state.timer.getD .new) else state.timer } }) := by
  unfold unsubscribe
  simp only [hentry, hstate]

theorem counted_unsubscribe (h : m.Counted) (handleId : UInt32) :
    (m.unsubscribe handleId).2.Counted := by
  cases hentry : m.subscriptions.lookup handleId with
  | none =>
    unfold unsubscribe
    rw [hentry]
    exact h
  | some entry =>
    have hmem : ∀ groupId, handleId ∈ m.groupSubscriptions groupId ↔
        groupId = getEventGroupId entry.eventId := by
      intro groupId
      unfold groupSubscriptions
      rw [mem_keysWhere, hentry]
      constructor
      · rintro ⟨other, hother, hgroup⟩
        cases hother
        exact (beq_iff_eq.mp hgroup).symm
      · rintro rfl
        exact ⟨entry, rfl, beq_iff_eq.mpr rfl⟩
    have hcount := h.counts (getEventGroupId entry.eventId)
    have hpos := Finset.card_pos.mpr ⟨handleId, (hmem _).mpr rfl⟩
    cases hstate : m.eventGroupStates.lookup (getEventGroupId entry.eventId) with
    | none =>
      simp only [refCount, hstate, Option.elim_none] at hcount
      omega
    | some state =>
      rw [unsubscribe_some hentry hstate]
      refine counted_of_counts fun groupId => ?_
      rw [refCount_insert, groupSubscriptions_erase]
      by_cases hgroup : groupId = getEventGroupId entry.eventId
      · subst hgroup
        rw [if_pos rfl, Finset.card_erase_of_mem ((hmem _).mpr rfl)]
        refine toInt_pred ?_
        simp only [refCount, hstate, Option.elim_some] at hcount
        omega
      · rw [if_neg hgroup, Finset.erase_eq_of_notMem fun hin => hgroup ((hmem groupId).mp hin),
          h.counts]

/-- A change of one state that keeps its count. -/
theorem counted_insert (h : m.Counted) {groupId : EventId} {state state' : EventGroupState}
    (hstate : m.eventGroupStates.lookup groupId = some state)
    (hcount : state'.refCount = state.refCount) :
    Counted { m with eventGroupStates := m.eventGroupStates.insert groupId state' } := by
  refine h.congr rfl fun other => ?_
  rw [refCount_insert, hcount]
  split
  · rename_i heq
    unfold refCount
    rw [heq, hstate]
    rfl
  · rfl

theorem counted_setTimer (h : m.Counted) (groupId : EventId) (timer : DelayCancelTimer) :
    (m.setTimer groupId timer).Counted := by
  unfold setTimer
  cases hstate : m.eventGroupStates.lookup groupId with
  | none => exact h
  | some state => exact counted_insert h hstate rfl

theorem counted_delayedUnsubscribe (h : m.Counted) (groupId : EventId) (adapterUnsubscribes : Bool) :
    (m.delayedUnsubscribe groupId adapterUnsubscribes).Counted := by
  unfold delayedUnsubscribe
  cases hstate : m.eventGroupStates.lookup groupId with
  | none => exact h
  | some state =>
    dsimp only
    split
    · exact counted_insert h hstate rfl
    · exact h

theorem counted_resetAdapterSubscribedState (h : m.Counted) (groupId : EventId) :
    (m.resetAdapterSubscribedState groupId).Counted := by
  unfold resetAdapterSubscribedState
  cases hstate : m.eventGroupStates.lookup groupId with
  | none => exact h
  | some state => exact counted_insert h hstate rfl

theorem counted_resetCommonEventAdapterStates (h : m.Counted) :
    m.resetCommonEventAdapterStates.Counted := by
  refine h.congr rfl fun groupId => ?_
  unfold refCount resetCommonEventAdapterStates
  rw [lookup_mapValues]
  cases m.eventGroupStates.lookup groupId with
  | none => rfl
  | some state =>
    dsimp only [Option.map_some, Option.elim_some]
    split <;> rfl

theorem counted_retryFailedAdapters (h : m.Counted) (type : AdapterType)
    (adapterSubscribes : EventId → Bool) : (m.retryFailedAdapters type adapterSubscribes).Counted := by
  refine h.congr rfl fun groupId => ?_
  unfold refCount retryFailedAdapters
  rw [lookup_mapWithKey]
  cases m.eventGroupStates.lookup groupId with
  | none => rfl
  | some state =>
    dsimp only [Option.map_some, Option.elim_some]
    split <;> rfl

end EventSubscriptionManager

/-! ### Runs -/

open EventSubscriptionManager

variable {Callback : Type}

/-- The steps that keep the counts: all but a `Subscribe` that does not fit. -/
def SubscriptionOp.Fits (s : SubscriptionSystem Callback) : SubscriptionOp Callback → Prop
  | .subscribe args _ => s.manager.SubscribeFits args
  | _ => True

theorem counted_timerCall {s : SubscriptionSystem Callback} (h : s.manager.Counted)
    (call : TimerCall) : (s.timerCall call).manager.Counted := by
  unfold SubscriptionSystem.timerCall
  split
  · split
    · exact h
    · exact counted_setTimer h _ _
  · exact h

theorem counted_timerThread {s : SubscriptionSystem Callback} (h : s.manager.Counted)
    (groupId : EventId) (adapterUnsubscribes : Bool) :
    (s.timerThread groupId adapterUnsubscribes).manager.Counted := by
  unfold SubscriptionSystem.timerThread
  split
  · exact h
  · split
    · exact h
    · exact counted_setTimer h _ _
    · exact counted_setTimer (counted_delayedUnsubscribe h groupId adapterUnsubscribes) _ _
    · exact counted_setTimer h _ _

theorem counted_subscriptionStep_iff {s : SubscriptionSystem Callback} (h : s.manager.Counted)
    (op : SubscriptionOp Callback) : (subscriptionStep s op).manager.Counted ↔ op.Fits s := by
  cases op with
  | subscribe args adapterSubscribes => exact counted_subscribe_iff h args adapterSubscribes
  | unsubscribe handleId => exact ⟨fun _ => trivial, fun _ => counted_unsubscribe h handleId⟩
  | timerCall call => exact ⟨fun _ => trivial, fun _ => counted_timerCall h call⟩
  | timerThread groupId adapterUnsubscribes =>
    exact ⟨fun _ => trivial, fun _ => counted_timerThread h groupId adapterUnsubscribes⟩
  | resetAdapterSubscribedState groupId =>
    exact ⟨fun _ => trivial, fun _ => counted_resetAdapterSubscribedState h groupId⟩
  | resetCommonEventAdapterStates =>
    exact ⟨fun _ => trivial, fun _ => counted_resetCommonEventAdapterStates h⟩
  | retryFailedAdapters type adapterSubscribes =>
    exact ⟨fun _ => trivial, fun _ => counted_retryFailedAdapters h type adapterSubscribes⟩

theorem counted_new : (EventSubscriptionManager.new Callback).Counted :=
  counted_of_counts fun _ => rfl

/-- The counts are right in every state of a run exactly when all its subscriptions fit. -/
theorem subscriptions_counted_iff (ops : List (SubscriptionOp Callback)) :
    Always subscriptionStep (fun s => s.manager.Counted) (.new Callback) ops ↔
      Each subscriptionStep SubscriptionOp.Fits (.new Callback) ops :=
  always_iff_each (I := fun _ => True) (fun _ _ _ _ _ => trivial)
    (fun _ op _ h => counted_subscriptionStep_iff h op) trivial counted_new ops

namespace HandleWrap

def args : SubscribeArgs Unit := ⟨"EDM_SA", .saCore, ManagedEvent.USER_SWITCHED, some (), "", ""⟩

/-- `n` subscriptions that are given up at once, the first with the handle `handleId`. -/
def passing : Nat → UInt32 → List (SubscriptionOp Unit)
  | 0, _ => []
  | n + 1, handleId =>
    .subscribe args true :: .unsubscribe handleId :: passing n (handleId + 1)

/-- The first subscription stays until the handles start over. -/
def ops : List (SubscriptionOp Unit) := .subscribe args true :: passing 4294967295 2

/-- The subscription with the handle 1 is the only one. -/
def held (nextHandleId : UInt32) : SubscriptionSystem Unit where
  manager :=
    { nextHandleId
      subscriptions := (∅ : UnorderedMap UInt32 (SubscriptionEntry Unit)).insert 1
        ⟨"EDM_SA", .saCore, ManagedEvent.USER_SWITCHED, ()⟩
      eventGroupStates := (∅ : UnorderedMap EventId EventGroupState).insert
        ManagedEvent.USER_SWITCHED ⟨some .commonEvent, 1, true, none, "", ""⟩ }
  calls := []

/-- The group of `held`, with its count. -/
def group (refCount : Int32) : EventGroupState := ⟨some .commonEvent, refCount, true, none, "", ""⟩

theorem subscribe_held (handleId : UInt32) :
    ∃ entry, entry.eventId = ManagedEvent.USER_SWITCHED ∧
      subscriptionStep (held handleId) (.subscribe args true) =
        ⟨⟨handleId + 1, (held handleId).manager.subscriptions.insert handleId entry,
          (held handleId).manager.eventGroupStates.insert ManagedEvent.USER_SWITCHED (group 2)⟩,
          []⟩ :=
  ⟨⟨"EDM_SA", .saCore, ManagedEvent.USER_SWITCHED, ()⟩, rfl, rfl⟩

/-- A passing subscription leaves the one that is held. -/
theorem passing_held {handleId : UInt32} (h : handleId ≠ 1) :
    subscriptionStep (subscriptionStep (held handleId) (.subscribe args true))
      (.unsubscribe handleId) = held (handleId + 1) := by
  obtain ⟨entry, hevent, hsubscribe⟩ := subscribe_held handleId
  have hstates : (((∅ : UnorderedMap EventId EventGroupState).insert ManagedEvent.USER_SWITCHED
      (group 1)).insert ManagedEvent.USER_SWITCHED (group 2)).insert ManagedEvent.USER_SWITCHED
        (group 1) = (∅ : UnorderedMap EventId EventGroupState).insert ManagedEvent.USER_SWITCHED
          (group 1) := by
    refine Finmap.ext_lookup fun groupId => ?_
    simp only [lookup_insert_eq]
    split <;> rfl
  have hother : (held handleId).manager.subscriptions.lookup handleId = none := by
    show ((∅ : UnorderedMap UInt32 (SubscriptionEntry Unit)).insert 1 _).lookup handleId = none
    rw [lookup_insert_eq, if_neg h, Finmap.lookup_empty]
  have hsubscriptions : ((held handleId).manager.subscriptions.insert handleId entry).erase handleId =
      (held handleId).manager.subscriptions := by
    refine Finmap.ext_lookup fun other => ?_
    rw [lookup_erase_eq, lookup_insert_eq]
    split
    · rename_i heq
      rw [heq, hother]
    · rfl
  have hgroup : getEventGroupId entry.eventId = ManagedEvent.USER_SWITCHED := by
    rw [hevent]
    decide
  have hstate : ((held handleId).manager.eventGroupStates.insert ManagedEvent.USER_SWITCHED
      (group 2)).lookup (getEventGroupId entry.eventId) = some (group 2) := by
    rw [hgroup]
    exact Finmap.lookup_insert _
  rw [hsubscribe]
  show SubscriptionSystem.unsubscribe _ handleId = _
  unfold SubscriptionSystem.unsubscribe
  rw [unsubscribe_some (Finmap.lookup_insert _) hstate, hgroup]
  dsimp only
  rw [hsubscriptions]
  show SubscriptionSystem.mk ⟨handleId + 1, _, Finmap.insert ManagedEvent.USER_SWITCHED (group 1) _⟩
    [] = _
  rw [show (held handleId).manager.eventGroupStates = (∅ : UnorderedMap EventId
    EventGroupState).insert ManagedEvent.USER_SWITCHED (group 1) from rfl, hstates]
  rfl

theorem run_passing (n : Nat) (handleId : UInt32) (h : ∀ k, k < n → handleId + UInt32.ofNat k ≠ 1) :
    run subscriptionStep (held handleId) (passing n handleId) = held (handleId + UInt32.ofNat n) := by
  induction n generalizing handleId with
  | zero =>
    show held handleId = held (handleId + UInt32.ofNat 0)
    simp
  | succ n ih =>
    have hfirst : handleId ≠ 1 := by simpa using h 0 (Nat.succ_pos n)
    have hsucc : ∀ k, handleId + 1 + UInt32.ofNat k = handleId + UInt32.ofNat (k + 1) := by
      intro k
      rw [UInt32.ofNat_add, UInt32.add_assoc, UInt32.add_comm 1]
      rfl
    show run subscriptionStep (subscriptionStep (subscriptionStep (held handleId)
      (.subscribe args true)) (.unsubscribe handleId)) (passing n (handleId + 1)) = _
    rw [passing_held hfirst, ih (handleId + 1) fun k hk => ?_, hsucc]
    rw [hsucc]
    exact h (k + 1) (Nat.succ_lt_succ hk)

theorem run_ops : run subscriptionStep (.new Unit) ops = held 1 := by
  have hfirst : subscriptionStep (.new Unit) (.subscribe args true) = held 2 := rfl
  have hlast : (2 : UInt32) + UInt32.ofNat 4294967295 = 1 := by decide
  have hne : ∀ k, k < 4294967295 → (2 : UInt32) + UInt32.ofNat k ≠ 1 := by
    intro k hk heq
    have htoNat := congrArg UInt32.toNat heq
    have htwo : (2 : UInt32).toNat = 2 := rfl
    have hone : (1 : UInt32).toNat = 1 := rfl
    rw [UInt32.toNat_add, UInt32.toNat_ofNat', htwo, hone] at htoNat
    omega
  rw [ops, run_cons, hfirst, run_passing 4294967295 2 hne, hlast]

/-- The subscription with which the handles start over is recorded over the one that is held. -/
theorem handle_counted_twice :
    ¬Always subscriptionStep (fun s => s.manager.Counted) (.new Unit)
      (ops ++ [.subscribe args true]) := by
  intro h
  have hbefore := always_iff_prefix.mp h ops (List.prefix_append _ _)
  have hafter := always_iff_prefix.mp h (ops ++ [.subscribe args true]) List.prefix_rfl
  rw [run_append, run_cons, run_nil, run_ops] at hafter
  rw [run_ops] at hbefore
  have hused := ((counted_subscribe_iff hbefore args true).mp hafter (group 1) rfl rfl).1
  exact absurd hused (by decide)

end HandleWrap

end Edm
