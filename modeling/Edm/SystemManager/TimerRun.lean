import Edm.Library.Run
import Edm.SystemManager.SystemTimerManager

/-! What the calls of one admin do to the timers of another, and what a run of calls keeps: the limit
for each admin, one timer for each name, and a watch on exactly the clients that have timers. -/

set_option autoImplicit false

namespace Edm

open Library Library.UnorderedMap

variable {Callback : Type} [DecidableEq Callback]

/-! ### The timers of the other admins -/

/-- Whether admin `b` may be behind a call.  The death of a client may be that of any admin's. -/
def TimerOp.IssuedBy (b : String) : TimerOp Callback → Prop
  | .createTimer _ adminBundleName => adminBundleName = b
  | .startTimer _ _ adminBundleName => adminBundleName = b
  | .stopTimer _ adminBundleName => adminBundleName = b
  | .destroyTimer _ adminBundleName => adminBundleName = b
  | .resyncTimer _ adminBundleName _ _ => adminBundleName = b
  | .onTimerTriggered _ _ => False
  | .onRemoteDied _ => True
  | .onAdminRemove adminBundleName => adminBundleName = b

/-- A request of an admin changes nothing, or is a call that the admin is behind. -/
theorem handleTimerOperation_issued (service : TimeService) (m : SystemTimerManager Callback)
    (b : String) (request : TimerRequest Callback) :
    (∃ op : TimerOp Callback, op.IssuedBy b ∧
      handleTimerOperation service m b request = op.outcome service m) ∨
      ∃ err, handleTimerOperation service m b request = ⟨err, m, [], none⟩ := by
  unfold handleTimerOperation
  cases h : request.operation b with
  | error err => exact .inr ⟨err, rfl⟩
  | ok op =>
    refine .inl ⟨op, ?_, rfl⟩
    cases request with
    | unread => cases h
    | create isRepeat interval name clientCallback =>
      unfold TimerRequest.operation at h
      obtain ⟨-, h⟩ := ok_check.mp h
      obtain ⟨-, h⟩ := ok_check.mp h
      obtain ⟨-, h⟩ := ok_check.mp h
      cases h
      rfl
    | start timerId triggerTime =>
      unfold TimerRequest.operation at h
      obtain ⟨-, h⟩ := ok_check.mp h
      cases h
      rfl
    | stop timerId =>
      cases h
      rfl
    | destroy timerId =>
      cases h
      rfl
    | resync timerId isRepeat interval name triggerTime clientCallback =>
      unfold TimerRequest.operation at h
      obtain ⟨-, h⟩ := ok_check.mp h
      cases h
      rfl
    | unknown operationType => cases h

/-- The timers that a call replaces by their name, as the time service does, and those that go with
their client. -/
def TimerOp.Replaces (entry : TimerEntry Callback) : TimerOp Callback → Prop
  | .createTimer options _ => options.name ≠ "" ∧ entry.name = options.name
  | .resyncTimer options _ _ _ => options.name ≠ "" ∧ entry.name = options.name
  | .onRemoteDied clientCallback => clientCallback.isSome = true ∧
      entry.clientCallback = clientCallback
  | _ => False

/-- The timer that a `RESYNC` names. -/
def TimerOp.Resyncs (timerId : Nat) : TimerOp Callback → Prop
  | .resyncTimer _ _ resynced _ => resynced = timerId
  | _ => False

/-- The id that a creation gets is not in use. -/
def TimerOp.GetsUnusedId (service : TimeService) (m : SystemTimerManager Callback) :
    TimerOp Callback → Prop
  | .createTimer _ _ => m.timerMap.lookup service.createTimer = none
  | _ => True

/-- The entry of the timer is still there, and no call to the time service is about the timer. -/
structure TimerOutcome.Spares (r : TimerOutcome Callback) (timerId : Nat)
    (entry : TimerEntry Callback) : Prop where
  entry : r.timers.timerMap.lookup timerId = some entry
  calls : ∀ call, call ∈ r.calls → call.timerId ≠ some timerId

namespace SystemTimerManager

variable {m : SystemTimerManager Callback} {service : TimeService} {timerId : Nat}
  {entry : TimerEntry Callback}

theorem destroyTimers_spares {timerIds : Finset Nat} (h : timerId ∉ timerIds) :
    ∀ call, call ∈ destroyTimers service timerIds → call.timerId ≠ some timerId := by
  intro call hcall
  unfold destroyTimers at hcall
  split at hcall
  · obtain ⟨id, hid, rfl⟩ := List.mem_map.mp hcall
    intro heq
    cases heq
    exact h ((Finset.mem_sort _).mp hid)
  · cases hcall

omit [DecidableEq Callback] in
/-- A call that makes no change and no call to the time service. -/
theorem spares_unchanged (h : m.timerMap.lookup timerId = some entry) (ret : ErrCode) :
    TimerOutcome.Spares ⟨ret, m, [], none⟩ timerId entry :=
  ⟨h, fun _ hcall => nomatch hcall⟩

/-- The insertion that ends a creation or a `RESYNC`. -/
theorem lookup_insertTimerEntry (h : m.timerMap.lookup timerId = some entry)
    (options : TimerOptions Callback) (adminBundleName : String) {inserted excludeTimerId : Nat}
    (hname : ¬(options.name ≠ "" ∧ entry.name = options.name)) (hid : timerId ≠ inserted) :
    ((m.cleanupSameNameTimer options.name excludeTimerId).insertTimerEntry inserted options
      adminBundleName).timerMap.lookup timerId = some entry := by
  rw [insertTimerEntry_timerMap, lookup_insert_eq, if_neg hid]
  refine m.lookup_cleanupSameNameTimer h excludeTimerId ?_
  by_cases hempty : options.name = ""
  · exact .inl hempty
  · exact .inr fun heq => hname ⟨hempty, heq⟩

theorem createTimer_spares (h : m.timerMap.lookup timerId = some entry)
    {options : TimerOptions Callback} {adminBundleName : String}
    (hname : ¬(options.name ≠ "" ∧ entry.name = options.name))
    (hunused : m.timerMap.lookup service.createTimer = none) :
    (m.createTimer service options adminBundleName).Spares timerId entry := by
  have hcreate : ∀ call, call ∈ [TimeServiceCall.createTimer options.isRepeat options.interval
      options.name] → call.timerId ≠ some timerId := by
    intro call hcall
    rw [List.mem_singleton.mp hcall]
    nofun
  have hid : timerId ≠ service.createTimer := by
    rintro rfl
    rw [h] at hunused
    cases hunused
  unfold createTimer
  split
  · exact spares_unchanged h _
  · split
    · exact spares_unchanged h _
    · dsimp only
      split
      · exact ⟨h, hcreate⟩
      · exact ⟨lookup_insertTimerEntry h options adminBundleName hname hid, hcreate⟩

theorem resyncTimer_spares (h : m.timerMap.lookup timerId = some entry)
    {options : TimerOptions Callback} {adminBundleName : String} {resynced triggerTime : Nat}
    (hname : ¬(options.name ≠ "" ∧ entry.name = options.name)) (hid : resynced ≠ timerId) :
    (m.resyncTimer service options adminBundleName resynced triggerTime).Spares timerId entry := by
  have hother : some resynced ≠ some timerId := fun heq => hid (Option.some.inj heq)
  have hcalls : ∀ call, call ∈ [TimeServiceCall.destroyTimerV9 resynced,
      .createTimerV9 options.isRepeat options.interval options.name resynced] →
      call.timerId ≠ some timerId := by
    intro call hcall
    rcases List.mem_cons.mp hcall with rfl | hcall
    · exact hother
    · rw [List.mem_singleton.mp hcall]
      exact hother
  unfold resyncTimer
  split
  · exact spares_unchanged h _
  · dsimp only
    split
    · exact ⟨h, hcalls⟩
    · refine ⟨lookup_insertTimerEntry h options adminBundleName hname hid.symm, ?_⟩
      intro call hcall
      rcases List.mem_append.mp hcall with hcall | hcall
      · exact hcalls call hcall
      · split at hcall
        · rw [List.mem_singleton.mp hcall]
          exact hother
        · cases hcall

omit [DecidableEq Callback] in
/-- The calls that check the owner first. -/
theorem not_isTimerOwner (h : m.timerMap.lookup timerId = some entry) {b : String}
    (hb : entry.adminBundleName ≠ b) {owned : Nat} (howned : m.isTimerOwner owned b = true) :
    owned ≠ timerId := by
  rintro rfl
  exact hb (m.isTimerOwner_eq_true h howned)

omit [DecidableEq Callback] in
theorem startTimer_spares (h : m.timerMap.lookup timerId = some entry) {b : String}
    (hb : entry.adminBundleName ≠ b) (started triggerTime : Nat) :
    (m.startTimer service started triggerTime b).Spares timerId entry := by
  unfold startTimer
  split
  · exact spares_unchanged h _
  · rename_i howner
    have hne := not_isTimerOwner h hb (by simpa using howner)
    have hcalls : ∀ call, call ∈ [TimeServiceCall.startTimerV9 started triggerTime] →
        call.timerId ≠ some timerId := by
      intro call hcall
      rw [List.mem_singleton.mp hcall]
      exact fun heq => hne (Option.some.inj heq)
    split
    · exact spares_unchanged h _
    · dsimp only
      split <;> exact ⟨h, hcalls⟩

omit [DecidableEq Callback] in
theorem stopTimer_spares (h : m.timerMap.lookup timerId = some entry) {b : String}
    (hb : entry.adminBundleName ≠ b) (stopped : Nat) :
    (m.stopTimer service stopped b).Spares timerId entry := by
  unfold stopTimer
  split
  · exact spares_unchanged h _
  · rename_i howner
    have hne := not_isTimerOwner h hb (by simpa using howner)
    have hcalls : ∀ call, call ∈ [TimeServiceCall.stopTimerV9 stopped] →
        call.timerId ≠ some timerId := by
      intro call hcall
      rw [List.mem_singleton.mp hcall]
      exact fun heq => hne (Option.some.inj heq)
    split
    · exact spares_unchanged h _
    · dsimp only
      split <;> exact ⟨h, hcalls⟩

theorem destroyTimer_spares (h : m.timerMap.lookup timerId = some entry) {b : String}
    (hb : entry.adminBundleName ≠ b) (destroyed : Nat) :
    (m.destroyTimer service destroyed b).Spares timerId entry := by
  unfold destroyTimer
  split
  · exact spares_unchanged h _
  · rename_i howner
    have hne := not_isTimerOwner h hb (by simpa using howner)
    refine ⟨?_, destroyTimers_spares (Finset.notMem_singleton.mpr hne.symm)⟩
    show (m.cleanupTimer destroyed).timerMap.lookup timerId = some entry
    rw [cleanupTimer_timerMap, lookup_erase_eq, if_neg hne.symm, h]

theorem onRemoteDied_spares (h : m.timerMap.lookup timerId = some entry)
    {clientCallback : Option Callback}
    (hcallback : ¬(clientCallback.isSome = true ∧ entry.clientCallback = clientCallback)) :
    (m.onRemoteDied service clientCallback).Spares timerId entry := by
  cases clientCallback with
  | none => exact spares_unchanged h _
  | some callback =>
    have hne : entry.clientCallback ≠ some callback := fun heq => hcallback ⟨rfl, heq⟩
    refine ⟨?_, destroyTimers_spares fun hmem => ?_⟩
    · show (filterValues _ m.timerMap).lookup timerId = some entry
      rw [lookup_filterValues, h]
      simp [hne]
    · obtain ⟨other, hother, hdead⟩ := m.mem_timers.mp hmem
      rw [h] at hother
      cases hother
      exact hne (beq_iff_eq.mp hdead)

theorem onAdminRemove_spares (h : m.timerMap.lookup timerId = some entry) {b : String}
    (hb : entry.adminBundleName ≠ b) : (m.onAdminRemove service b).Spares timerId entry := by
  refine ⟨?_, destroyTimers_spares fun hmem => ?_⟩
  · show (List.foldl releaseRecipientIfUnused _ _).timerMap.lookup timerId = some entry
    rw [releaseAll_timerMap, lookup_filterValues, h]
    simp [hb]
  · obtain ⟨other, hother, howner⟩ := m.mem_timers.mp hmem
    rw [h] at hother
    cases hother
    exact hb (beq_iff_eq.mp howner)

end SystemTimerManager

open SystemTimerManager in
/-- A call of admin `b` leaves the timer of another admin alone, unless it names the timer in a
`RESYNC`, or the timer has the name that the call gives or the client that died. -/
theorem timers_isolated (m : SystemTimerManager Callback) (service : TimeService)
    (op : TimerOp Callback) (hunused : op.GetsUnusedId service m) {b : String}
    (hb : op.IssuedBy b) {timerId : Nat} {entry : TimerEntry Callback}
    (h : m.timerMap.lookup timerId = some entry) (hother : entry.adminBundleName ≠ b)
    (hreplaces : ¬op.Replaces entry) (hresyncs : ¬op.Resyncs timerId) :
    (op.outcome service m).Spares timerId entry := by
  cases op with
  | createTimer options adminBundleName => exact createTimer_spares h hreplaces hunused
  | startTimer started triggerTime adminBundleName =>
    obtain rfl : adminBundleName = b := hb
    exact startTimer_spares h hother started triggerTime
  | stopTimer stopped adminBundleName =>
    obtain rfl : adminBundleName = b := hb
    exact stopTimer_spares h hother stopped
  | destroyTimer destroyed adminBundleName =>
    obtain rfl : adminBundleName = b := hb
    exact destroyTimer_spares h hother destroyed
  | resyncTimer options adminBundleName resynced triggerTime =>
    exact resyncTimer_spares h hreplaces hresyncs
  | onTimerTriggered triggered isObjectDead => exact hb.elim
  | onRemoteDied clientCallback => exact onRemoteDied_spares h hreplaces
  | onAdminRemove adminBundleName =>
    obtain rfl : adminBundleName = b := hb
    exact onAdminRemove_spares h hother

namespace TimerIsolation

/-- A time service that gives a new timer the id `timerId`, and recreates the timer `timerId`. -/
def service (timerId : Nat) : TimeService := ⟨true, timerId, (0, timerId), 0, 0⟩

def options (name : String) (callback : Nat) : TimerOptions Nat := ⟨true, 1000, name, some callback⟩

/-- Admin `a` has the timer 7, of the name `alarm`. -/
def timers : SystemTimerManager Nat :=
  run timerStep (.new Nat) [(service 7, .createTimer (options "alarm" 1) "a")]

/-- Admin `b` creates a timer of that name, recreates the timer 7 as its own, or has the client of
the timer die. -/
theorem timer_taken :
    timers.timerMap.lookup 7 = some ⟨"a", "alarm", some 1⟩ ∧
      (timerStep timers (service 8, .createTimer (options "alarm" 2) "b")).timerMap.lookup 7 =
        none ∧
      (timerStep timers (service 7, .resyncTimer (options "other" 2) "b" 7 0)).timerMap.lookup 7 =
        some ⟨"b", "other", some 2⟩ ∧
      (timerStep timers (service 0, .onRemoteDied (some 1))).timerMap.lookup 7 = none := by
  decide

/-- Admin `b` creates a timer of another name. -/
theorem timer_kept :
    ((TimerOp.createTimer (options "other" 2) "b").outcome (service 8) timers).Spares 7
      ⟨"a", "alarm", some 1⟩ :=
  timers_isolated timers (service 8) (.createTimer (options "other" 2) "b") rfl rfl (by decide)
    (by decide) (fun h => absurd h.2 (by decide)) nofun

end TimerIsolation

/-! ### The books that a run keeps -/

namespace SystemTimerManager

/-- Some timer has the client. -/
def Uses (m : SystemTimerManager Callback) (callback : Callback) : Prop :=
  ∃ timerId entry, m.timerMap.lookup timerId = some entry ∧ entry.clientCallback = some callback

/-- The clients that have timers are watched, and no others but those of `pending`. -/
structure Watched (m : SystemTimerManager Callback) (pending : List (Option Callback)) : Prop where
  used : ∀ callback, m.Uses callback → callback ∈ m.recipientMap
  watched : ∀ callback, callback ∈ m.recipientMap → m.Uses callback ∨ some callback ∈ pending

/-- What the claims of the manager on its maps are: no admin has more timers than the limit, or two
of the same non-empty name, and the clients that are watched are those that have timers. -/
structure Good (m : SystemTimerManager Callback) : Prop where
  limit : ∀ adminBundleName,
    m.countTimersByAdmin adminBundleName ≤ SystemTimer.TIMER_MAX_COUNT_PER_ADMIN
  names : ∀ timerId timerId' entry entry', m.timerMap.lookup timerId = some entry →
    m.timerMap.lookup timerId' = some entry' → entry.adminBundleName = entry'.adminBundleName →
    entry.name = entry'.name → entry.name ≠ "" → timerId = timerId'
  recipients : ∀ callback, callback ∈ m.recipientMap ↔ m.Uses callback

/-- Names are not shared between admins either, and no timer has the id 0, which stands for no timer
in the clean-up by name. -/
structure Named (m : SystemTimerManager Callback) : Prop where
  names : ∀ timerId timerId' entry entry', m.timerMap.lookup timerId = some entry →
    m.timerMap.lookup timerId' = some entry' → entry.name = entry'.name → entry.name ≠ "" →
    timerId = timerId'
  nonzero : m.timerMap.lookup 0 = none

/-- Every timer of `m'` is one of `m`. -/
def Within (m' m : SystemTimerManager Callback) : Prop :=
  ∀ timerId entry, m'.timerMap.lookup timerId = some entry → m.timerMap.lookup timerId = some entry

variable {m m' : SystemTimerManager Callback} {timerId : Nat} {entry : TimerEntry Callback}

omit [DecidableEq Callback] in
theorem Within.timers (h : m'.Within m) (p : TimerEntry Callback → Bool) :
    m'.timers p ⊆ m.timers p := by
  intro timerId hmem
  obtain ⟨entry, hentry, hp⟩ := m'.mem_timers.mp hmem
  exact m.mem_timers.mpr ⟨entry, h timerId entry hentry, hp⟩

omit [DecidableEq Callback] in
theorem Within.limit (h : m'.Within m) (adminBundleName : String) :
    m'.countTimersByAdmin adminBundleName ≤ m.countTimersByAdmin adminBundleName :=
  Finset.card_le_card (h.timers _)

omit [DecidableEq Callback] in
theorem Named.within (hm : m.Named) (h : m'.Within m) : m'.Named where
  names timerId timerId' entry entry' hentry hentry' hname hne :=
    hm.names timerId timerId' entry entry' (h _ _ hentry) (h _ _ hentry') hname hne
  nonzero := by
    cases hzero : m'.timerMap.lookup 0 with
    | none => rfl
    | some entry =>
      have := h 0 entry hzero
      rw [hm.nonzero] at this
      cases this

theorem within_erase (m : SystemTimerManager Callback) (timerId : Nat) :
    (m.cleanupTimer timerId).Within m := by
  intro other entry h
  rw [cleanupTimer_timerMap, lookup_erase_eq] at h
  split at h
  · cases h
  · exact h

theorem within_cleanupSameNameTimer (m : SystemTimerManager Callback) (name : String)
    (excludeTimerId : Nat) : (m.cleanupSameNameTimer name excludeTimerId).Within m := by
  unfold cleanupSameNameTimer
  split
  · exact fun _ _ h => h
  · split
    · exact fun _ _ h => h
    · exact within_erase m _

/-! ### The watch on the clients -/

/-- What is left to check after one more client was released. -/
theorem Watched.release {c : Option Callback} {pending : List (Option Callback)}
    (h : m.Watched (c :: pending)) : (m.releaseRecipientIfUnused c).Watched pending := by
  cases c with
  | none =>
    refine ⟨h.used, fun callback hmem => ?_⟩
    rcases h.watched callback hmem with huses | hpending
    · exact .inl huses
    · exact .inr (by simpa using hpending)
  | some released =>
    have huses : m.timers (fun entry => entry.clientCallback == some released) = ∅ ↔
        ¬m.Uses released := by
      rw [Finset.eq_empty_iff_forall_notMem]
      constructor
      · rintro hnone ⟨timerId, entry, hentry, hcallback⟩
        exact hnone timerId (m.mem_timers.mpr ⟨entry, hentry, beq_iff_eq.mpr hcallback⟩)
      · intro hunused timerId hmem
        obtain ⟨entry, hentry, hcallback⟩ := m.mem_timers.mp hmem
        exact hunused ⟨timerId, entry, hentry, beq_iff_eq.mp hcallback⟩
    unfold releaseRecipientIfUnused
    dsimp only
    split
    · rename_i hnone
      have hunused := huses.mp hnone
      refine ⟨fun callback hcallback => ?_, fun callback hmem => ?_⟩
      · refine Finset.mem_erase.mpr ⟨?_, h.used callback hcallback⟩
        rintro rfl
        exact hunused hcallback
      · obtain ⟨hne, hmem⟩ := Finset.mem_erase.mp hmem
        rcases h.watched callback hmem with huse | hpending
        · exact .inl huse
        · refine .inr ((List.mem_cons.mp hpending).resolve_left ?_)
          exact fun heq => hne (Option.some.inj heq)
    · rename_i hsome
      have hused : m.Uses released := not_not.mp fun hunused => hsome (huses.mpr hunused)
      refine ⟨h.used, fun callback hmem => ?_⟩
      rcases h.watched callback hmem with huse | hpending
      · exact .inl huse
      · rcases List.mem_cons.mp hpending with heq | hpending
        · cases heq
          exact .inl hused
        · exact .inr hpending

theorem Watched.releaseAll {callbacks : List (Option Callback)} (h : m.Watched callbacks) :
    (callbacks.foldl releaseRecipientIfUnused m).Watched [] := by
  induction callbacks generalizing m with
  | nil => exact h
  | cons c callbacks ih => exact ih h.release

theorem Watched.cleanupTimer (h : m.Watched []) (timerId : Nat) :
    (m.cleanupTimer timerId).Watched [] := by
  unfold SystemTimerManager.cleanupTimer
  cases hentry : m.timerMap.lookup timerId with
  | none => exact h
  | some entry =>
    refine Watched.release ⟨?_, ?_⟩
    · rintro callback ⟨other, entry', hother, hcallback⟩
      have hother : (m.timerMap.erase timerId).lookup other = some entry' := hother
      rw [lookup_erase_eq] at hother
      split at hother
      · cases hother
      · exact h.used callback ⟨other, entry', hother, hcallback⟩
    · intro callback hmem
      rcases h.watched callback hmem with ⟨other, entry', hother, hcallback⟩ | hpending
      · by_cases heq : other = timerId
        · subst heq
          rw [hentry] at hother
          cases hother
          exact .inr (by simp [hcallback])
        · refine .inl ⟨other, entry', ?_, hcallback⟩
          show (m.timerMap.erase timerId).lookup other = some entry'
          rw [lookup_erase_eq, if_neg heq, hother]
      · cases hpending

theorem Watched.cleanupSameNameTimer (h : m.Watched []) (name : String) (excludeTimerId : Nat) :
    (m.cleanupSameNameTimer name excludeTimerId).Watched [] := by
  unfold SystemTimerManager.cleanupSameNameTimer
  split
  · exact h
  · split
    · exact h
    · exact h.cleanupTimer _

/-- The watch after an insertion that replaces no entry, or one whose client is still needed. -/
theorem Watched.insertTimerEntry (h : m.Watched []) (timerId : Nat)
    (options : TimerOptions Callback) (adminBundleName : String)
    (hold : ∀ entry, m.timerMap.lookup timerId = some entry → ∀ old,
      entry.clientCallback = some old → options.clientCallback = some old ∨
        ∃ other entry', other ≠ timerId ∧ m.timerMap.lookup other = some entry' ∧
          entry'.clientCallback = some old) :
    (m.insertTimerEntry timerId options adminBundleName).Watched [] := by
  have hrecipients : ∀ callback,
      callback ∈ (m.insertTimerEntry timerId options adminBundleName).recipientMap ↔
        options.clientCallback = some callback ∨ callback ∈ m.recipientMap := by
    intro callback
    unfold SystemTimerManager.insertTimerEntry getOrCreateDeathRecipient
    cases options.clientCallback with
    | none => simp
    | some c => simp [eq_comm]
  refine ⟨?_, ?_⟩
  · rintro callback ⟨other, entry, hother, hcallback⟩
    rw [insertTimerEntry_timerMap, lookup_insert_eq] at hother
    rw [hrecipients]
    split at hother
    · cases hother
      exact .inl hcallback
    · exact .inr (h.used callback ⟨other, entry, hother, hcallback⟩)
  · intro callback hmem
    refine .inl ?_
    unfold Uses
    simp only [insertTimerEntry_timerMap, lookup_insert_eq]
    have hnew : options.clientCallback = some callback → ∃ id entry,
        (if id = timerId then some (TimerEntry.mk adminBundleName options.name
          options.clientCallback) else m.timerMap.lookup id) = some entry ∧
          entry.clientCallback = some callback :=
      fun hcallback => ⟨timerId, _, if_pos rfl, hcallback⟩
    rcases (hrecipients callback).mp hmem with hcallback | hmem
    · exact hnew hcallback
    · rcases h.watched callback hmem with ⟨other, entry, hother, hcallback⟩ | hpending
      · by_cases heq : other = timerId
        · subst heq
          rcases hold entry hother callback hcallback with hsame | ⟨id, entry', hne, hid, hused⟩
          · exact hnew hsame
          · exact ⟨id, entry', by rw [if_neg hne, hid], hused⟩
        · exact ⟨other, entry, by rw [if_neg heq, hother], hcallback⟩
      · cases hpending

/-! ### The clean-up by name -/

/-- The timers that meet `p` and that a `RESYNC` leaves: under another id, and of another name. -/
def others (m : SystemTimerManager Callback) (options : TimerOptions Callback) (timerId : Nat)
    (p : TimerEntry Callback → Bool) : Finset Nat :=
  (m.timers fun entry => p entry && (options.name == "" || entry.name != options.name)).erase
    timerId

/-- After the clean-up no timer other than the excluded one has the name. -/
theorem name_cleanupSameNameTimer (hnamed : m.Named) {name : String} {excludeTimerId : Nat}
    (h : (m.cleanupSameNameTimer name excludeTimerId).timerMap.lookup timerId = some entry)
    (hne : timerId ≠ excludeTimerId) : name = "" ∨ entry.name ≠ name := by
  by_cases hempty : name = ""
  · exact .inl hempty
  · refine .inr fun hname => ?_
    have hentry := within_cleanupSameNameTimer m name excludeTimerId timerId entry h
    have hsame : timerId ∈ (m.timers fun entry => entry.name == name).erase excludeTimerId :=
      Finset.mem_erase.mpr ⟨hne, m.mem_timers.mpr ⟨entry, hentry, beq_iff_eq.mpr hname⟩⟩
    unfold cleanupSameNameTimer at h
    rw [if_neg hempty] at h
    cases hfirst : m.sameNameTimer name excludeTimerId with
    | none =>
      have := Finset.min_eq_top.mp hfirst
      rw [this] at hsame
      cases hsame
    | some cleaned =>
      obtain ⟨-, other, hother, hotherName⟩ := m.sameNameTimer_name hfirst
      rw [hfirst] at h
      have heq := hnamed.names timerId cleaned entry other hentry hother
        (hname.trans hotherName.symm) fun hnil => hempty (hname.symm.trans hnil)
      have h : (m.cleanupTimer cleaned).timerMap.lookup timerId = some entry := h
      rw [cleanupTimer_timerMap, lookup_erase_eq, if_pos heq] at h
      cases h

/-- The clean-up leaves the excluded timer. -/
theorem lookup_cleanupSameNameTimer_exclude (m : SystemTimerManager Callback) (name : String)
    (excludeTimerId : Nat) :
    (m.cleanupSameNameTimer name excludeTimerId).timerMap.lookup excludeTimerId =
      m.timerMap.lookup excludeTimerId := by
  unfold cleanupSameNameTimer
  split
  · rfl
  · split
    · rfl
    · rename_i cleaned hfirst
      rw [cleanupTimer_timerMap, lookup_erase_eq,
        if_neg (m.sameNameTimer_name hfirst).1.symm]

theorem timers_cleanupSameNameTimer (hnamed : m.Named) (options : TimerOptions Callback)
    (p : TimerEntry Callback → Bool) :
    ((m.cleanupSameNameTimer options.name timerId).timers p).erase timerId =
      m.others options timerId p := by
  refine Finset.ext fun other => ?_
  rw [others, Finset.mem_erase, Finset.mem_erase]
  refine and_congr_right fun hne => ?_
  rw [mem_timers, mem_timers]
  constructor
  · rintro ⟨entry, hentry, hp⟩
    have hname := name_cleanupSameNameTimer hnamed hentry hne
    refine ⟨entry, within_cleanupSameNameTimer m options.name timerId other entry hentry, ?_⟩
    simpa [hp] using hname
  · rintro ⟨entry, hentry, hp⟩
    rw [Bool.and_eq_true, Bool.or_eq_true, beq_iff_eq, bne_iff_ne] at hp
    exact ⟨entry, m.lookup_cleanupSameNameTimer hentry timerId hp.2, hp.1⟩

/-! ### The invariant of a run -/

/-- What every call keeps: `Good`, with names that are not shared between admins. -/
structure Books (m : SystemTimerManager Callback) : Prop where
  limit : ∀ adminBundleName,
    m.countTimersByAdmin adminBundleName ≤ SystemTimer.TIMER_MAX_COUNT_PER_ADMIN
  named : m.Named
  watched : m.Watched []

omit [DecidableEq Callback] in
theorem Books.good (h : m.Books) : m.Good where
  limit := h.limit
  names timerId timerId' entry entry' hentry hentry' _ hname hne :=
    h.named.names timerId timerId' entry entry' hentry hentry' hname hne
  recipients callback := by
    constructor
    · intro hmem
      exact (h.watched.watched callback hmem).resolve_right (by simp)
    · exact h.watched.used callback

omit [DecidableEq Callback] in
theorem books_new : (SystemTimerManager.new Callback).Books where
  limit adminBundleName := Nat.zero_le _
  named := ⟨(fun _ _ _ _ h => nomatch h), rfl⟩
  watched := by
    refine ⟨?_, fun _ hmem => by cases hmem⟩
    rintro callback ⟨timerId, entry, hentry, -⟩
    cases hentry

omit [DecidableEq Callback] in
theorem Books.within (h : m.Books) (hsub : m'.Within m) (hwatched : m'.Watched []) : m'.Books where
  limit adminBundleName := (hsub.limit adminBundleName).trans (h.limit adminBundleName)
  named := h.named.within hsub
  watched := hwatched

/-- An insertion when no other timer has the name. -/
theorem Books.insertTimerEntry (h : m.Books) {timerId : Nat} (hnonzero : timerId ≠ 0)
    (options : TimerOptions Callback) (adminBundleName : String)
    (hlimit : ((m.timers fun entry => entry.adminBundleName == adminBundleName).erase
      timerId).card < SystemTimer.TIMER_MAX_COUNT_PER_ADMIN)
    (hname : ∀ other entry, other ≠ timerId → m.timerMap.lookup other = some entry →
      options.name = "" ∨ entry.name ≠ options.name)
    (hold : ∀ entry, m.timerMap.lookup timerId = some entry → ∀ old,
      entry.clientCallback = some old → options.clientCallback = some old ∨
        ∃ other entry', other ≠ timerId ∧ m.timerMap.lookup other = some entry' ∧
          entry'.clientCallback = some old) :
    (m.insertTimerEntry timerId options adminBundleName).Books := by
  refine ⟨fun other => ?_, ⟨?_, ?_⟩, h.watched.insertTimerEntry timerId options adminBundleName hold⟩
  · unfold countTimersByAdmin SystemTimerManager.timers
    rw [insertTimerEntry_timerMap, keysWhere_insert]
    split
    · rename_i hadmin
      obtain rfl : adminBundleName = other := beq_iff_eq.mp hadmin
      rw [← Finset.card_erase_add_one (Finset.mem_insert_self timerId _),
        Finset.erase_insert_eq_erase]
      exact hlimit
    · exact (Finset.card_erase_le).trans (h.limit other)
  · intro id id' entry entry' hentry hentry' hsame hne
    rw [insertTimerEntry_timerMap, lookup_insert_eq] at hentry hentry'
    by_cases hid : id = timerId
    · rw [if_pos hid] at hentry
      by_cases hid' : id' = timerId
      · exact hid.trans hid'.symm
      · rw [if_neg hid'] at hentry'
        cases hentry
        rcases hname id' entry' hid' hentry' with hempty | hdiff
        · exact absurd hempty hne
        · exact absurd hsame.symm hdiff
    · rw [if_neg hid] at hentry
      by_cases hid' : id' = timerId
      · rw [if_pos hid'] at hentry'
        cases hentry'
        rcases hname id entry hid hentry with hempty | hdiff
        · exact absurd (hsame.trans hempty) hne
        · exact absurd hsame hdiff
      · rw [if_neg hid'] at hentry'
        exact h.named.names id id' entry entry' hentry hentry' hsame hne
  · rw [insertTimerEntry_timerMap, lookup_insert_eq, if_neg hnonzero.symm]
    exact h.named.nonzero

theorem Books.cleanupTimer (h : m.Books) (timerId : Nat) : (m.cleanupTimer timerId).Books :=
  h.within (within_erase m timerId) (h.watched.cleanupTimer timerId)

theorem Books.cleanupSameNameTimer (h : m.Books) (name : String) (excludeTimerId : Nat) :
    (m.cleanupSameNameTimer name excludeTimerId).Books :=
  h.within (within_cleanupSameNameTimer m name excludeTimerId)
    (h.watched.cleanupSameNameTimer name excludeTimerId)

theorem Books.createTimer (h : m.Books) (service : TimeService) (options : TimerOptions Callback)
    (adminBundleName : String) (hunused : m.timerMap.lookup service.createTimer = none) :
    (m.createTimer service options adminBundleName).timers.Books := by
  unfold SystemTimerManager.createTimer
  split
  · exact h
  · rename_i hcount
    split
    · exact h
    · dsimp only
      split
      · exact h
      · rename_i hnonzero
        have hsub := within_cleanupSameNameTimer m options.name 0
        have hzero := (h.named.within hsub).nonzero
        refine (h.cleanupSameNameTimer options.name 0).insertTimerEntry hnonzero options
          adminBundleName ?_ ?_ ?_
        · have := (Finset.card_erase_le (a := service.createTimer)).trans
            (hsub.limit adminBundleName)
          exact lt_of_le_of_lt this (not_le.mp hcount)
        · intro other entry hother hentry
          refine name_cleanupSameNameTimer h.named hentry ?_
          rintro rfl
          rw [hzero] at hentry
          cases hentry
        · intro entry hentry
          rw [hsub _ _ hentry] at hunused
          cases hunused

theorem Books.resyncTimer (h : m.Books) (service : TimeService) (options : TimerOptions Callback)
    (adminBundleName : String) (timerId triggerTime : Nat)
    (hkeeps : service.available = true → service.createTimerV9 = (0, timerId) → timerId ≠ 0 ∧
      (m.others options timerId fun entry => entry.adminBundleName == adminBundleName).card <
        SystemTimer.TIMER_MAX_COUNT_PER_ADMIN ∧
      ∀ entry, m.timerMap.lookup timerId = some entry → ∀ old, entry.clientCallback = some old →
        options.clientCallback = some old ∨
          m.others options timerId (fun entry => entry.clientCallback == some old) ≠ ∅) :
    (m.resyncTimer service options adminBundleName timerId triggerTime).timers.Books := by
  unfold SystemTimerManager.resyncTimer
  split
  · exact h
  · rename_i havailable
    dsimp only
    split
    · exact h
    · rename_i hrecreated
      obtain ⟨hret, hid⟩ := not_or.mp hrecreated
      obtain ⟨hnonzero, hlimit, hold⟩ := hkeeps (by simpa using havailable)
        (Prod.ext (not_not.mp hret) (not_not.mp hid))
      refine (h.cleanupSameNameTimer options.name timerId).insertTimerEntry hnonzero options
        adminBundleName ?_ ?_ ?_
      · rw [timers_cleanupSameNameTimer h.named]
        exact hlimit
      · intro other entry hother hentry
        exact name_cleanupSameNameTimer h.named hentry hother
      · intro entry hentry old hcallback
        rw [lookup_cleanupSameNameTimer_exclude] at hentry
        rcases hold entry hentry old hcallback with hsame | hothers
        · exact .inl hsame
        · refine .inr ?_
          obtain ⟨other, hother⟩ := Finset.nonempty_iff_ne_empty.mpr hothers
          rw [← timers_cleanupSameNameTimer h.named] at hother
          obtain ⟨hne, hmem⟩ := Finset.mem_erase.mp hother
          obtain ⟨entry', hentry', hused⟩ := (mem_timers _).mp hmem
          exact ⟨other, entry', hne, hentry', beq_iff_eq.mp hused⟩

theorem Books.onRemoteDied (h : m.Books) (service : TimeService)
    (clientCallback : Option Callback) : (m.onRemoteDied service clientCallback).timers.Books := by
  cases clientCallback with
  | none => exact h
  | some dead =>
    have hlookup : ∀ id, (m.onRemoteDied service (some dead)).timers.timerMap.lookup id =
        (m.timerMap.lookup id).filter fun entry => entry.clientCallback != some dead :=
      lookup_filterValues _ _
    refine h.within (fun id entry hentry => ?_) ⟨?_, fun callback hmem => ?_⟩
    · rw [hlookup, Option.filter_eq_some_iff] at hentry
      exact hentry.1
    · rintro callback ⟨id, entry, hentry, hcallback⟩
      rw [hlookup, Option.filter_eq_some_iff] at hentry
      refine Finset.mem_erase.mpr ⟨?_, h.watched.used callback ⟨id, entry, hentry.1, hcallback⟩⟩
      rintro rfl
      exact bne_iff_ne.mp hentry.2 hcallback
    · obtain ⟨hne, hmem⟩ := Finset.mem_erase.mp hmem
      rcases h.watched.watched callback hmem with ⟨id, entry, hentry, hcallback⟩ | hpending
      · refine .inl ⟨id, entry, ?_, hcallback⟩
        rw [hlookup, Option.filter_eq_some_iff]
        refine ⟨hentry, bne_iff_ne.mpr ?_⟩
        rw [hcallback]
        exact fun heq => hne (Option.some.inj heq)
      · cases hpending

theorem Books.onAdminRemove (h : m.Books) (service : TimeService) (adminBundleName : String) :
    (m.onAdminRemove service adminBundleName).timers.Books := by
  have hmap : (m.onAdminRemove service adminBundleName).timers.timerMap =
      filterValues (fun entry => entry.adminBundleName != adminBundleName) m.timerMap :=
    releaseAll_timerMap _ _
  refine h.within (fun id entry hentry => ?_) (Watched.releaseAll ⟨?_, fun callback hmem => ?_⟩)
  · rw [hmap, lookup_filterValues, Option.filter_eq_some_iff] at hentry
    exact hentry.1
  · rintro callback ⟨id, entry, hentry, hcallback⟩
    rw [lookup_filterValues, Option.filter_eq_some_iff] at hentry
    exact h.watched.used callback ⟨id, entry, hentry.1, hcallback⟩
  · rcases h.watched.watched callback hmem with ⟨id, entry, hentry, hcallback⟩ | hpending
    · by_cases hadmin : entry.adminBundleName = adminBundleName
      · refine .inr (List.mem_map.mpr ⟨id, (Finset.mem_sort _).mpr ?_, ?_⟩)
        · exact m.mem_timers.mpr ⟨entry, hentry, beq_iff_eq.mpr hadmin⟩
        · rw [hentry]
          exact hcallback
      · refine .inl ⟨id, entry, ?_, hcallback⟩
        rw [lookup_filterValues, Option.filter_eq_some_iff]
        exact ⟨hentry, bne_iff_ne.mpr hadmin⟩
    · cases hpending

end SystemTimerManager

/-- The calls that keep the books: a creation that gets an unused id, and a `RESYNC` that is not
accepted, or is of an id other than 0, with which its admin stays within the limit, and which does
not replace the last timer of another client. -/
def TimerOp.KeepsBooks (m : SystemTimerManager Callback) :
    TimeService × TimerOp Callback → Prop
  | (service, .createTimer _ _) => m.timerMap.lookup service.createTimer = none
  | (service, .resyncTimer options adminBundleName timerId _) =>
    service.available = true → service.createTimerV9 = (0, timerId) → timerId ≠ 0 ∧
      (m.others options timerId fun entry => entry.adminBundleName == adminBundleName).card <
        SystemTimer.TIMER_MAX_COUNT_PER_ADMIN ∧
      ∀ entry, m.timerMap.lookup timerId = some entry → ∀ old, entry.clientCallback = some old →
        options.clientCallback = some old ∨
          m.others options timerId (fun entry => entry.clientCallback == some old) ≠ ∅
  | _ => True

namespace SystemTimerManager

variable {m : SystemTimerManager Callback}

theorem Books.timerStep (h : m.Books) (op : TimeService × TimerOp Callback)
    (hkeeps : TimerOp.KeepsBooks m op) : (timerStep m op).Books := by
  obtain ⟨service, op⟩ := op
  cases op with
  | createTimer options adminBundleName =>
    exact h.createTimer service options adminBundleName hkeeps
  | startTimer timerId triggerTime adminBundleName =>
    have hsame : (m.startTimer service timerId triggerTime adminBundleName).timers = m := by
      unfold startTimer
      dsimp only
      split_ifs <;> rfl
    show (m.startTimer service timerId triggerTime adminBundleName).timers.Books
    rw [hsame]
    exact h
  | stopTimer timerId adminBundleName =>
    have hsame : (m.stopTimer service timerId adminBundleName).timers = m := by
      unfold stopTimer
      dsimp only
      split_ifs <;> rfl
    show (m.stopTimer service timerId adminBundleName).timers.Books
    rw [hsame]
    exact h
  | destroyTimer timerId adminBundleName =>
    show (m.destroyTimer service timerId adminBundleName).timers.Books
    unfold destroyTimer
    split
    · exact h
    · exact h.cleanupTimer timerId
  | resyncTimer options adminBundleName timerId triggerTime =>
    exact h.resyncTimer service options adminBundleName timerId triggerTime hkeeps
  | onTimerTriggered timerId isObjectDead =>
    show (m.onTimerTriggered service timerId isObjectDead).timers.Books
    unfold onTimerTriggered
    split
    · exact h
    · split
      · exact h.cleanupTimer timerId
      · exact h
  | onRemoteDied clientCallback => exact h.onRemoteDied service clientCallback
  | onAdminRemove adminBundleName => exact h.onAdminRemove service adminBundleName

end SystemTimerManager

open SystemTimerManager in
/-- A run whose calls all keep the books is in order all the way. -/
theorem timers_good (ops : List (TimeService × TimerOp Callback))
    (hkeeps : Each timerStep TimerOp.KeepsBooks (.new Callback) ops) :
    Always timerStep Good (.new Callback) ops :=
  (always_of_each (fun _ op hbooks hop => hbooks.timerStep op hop) books_new hkeeps).mono
    fun _ hbooks => hbooks.good

namespace TimerBooks

open TimerIsolation SystemTimerManager

/-- Admin `a` recreates six timers that the manager does not know. -/
def beyondLimit : List (TimeService × TimerOp Nat) :=
  [1, 2, 3, 4, 5, 6].map fun timerId =>
    (service timerId, .resyncTimer (options "" 1) "a" timerId 0)

/-- Admin `a` recreates its timer 7 with another client. -/
def otherClient : List (TimeService × TimerOp Nat) :=
  [(service 7, .createTimer (options "alarm" 1) "a"),
    (service 7, .resyncTimer (options "alarm" 2) "a" 7 0)]

/-- Admin `a` recreates a timer under the id 0, and creates another one of the same name. -/
def timerZero : List (TimeService × TimerOp Nat) :=
  [(service 0, .resyncTimer (options "alarm" 1) "a" 0 0),
    (service 7, .createTimer (options "alarm" 1) "a")]

theorem books_broken :
    ¬Always timerStep Good (.new Nat) beyondLimit ∧ ¬Always timerStep Good (.new Nat) otherClient ∧
      ¬Always timerStep Good (.new Nat) timerZero := by
  refine ⟨fun h => ?_, fun h => ?_, fun h => ?_⟩
  · have hgood := always_iff_prefix.mp h beyondLimit List.prefix_rfl
    have hcount : (run timerStep (.new Nat) beyondLimit).countTimersByAdmin "a" = 6 := by decide
    have := hgood.limit "a"
    rw [hcount] at this
    exact absurd this (by decide)
  · have hgood := always_iff_prefix.mp h otherClient List.prefix_rfl
    have hwatched : 1 ∈ (run timerStep (.new Nat) otherClient).recipientMap := by decide
    obtain ⟨timerId, entry, hentry, hclient⟩ := (hgood.recipients 1).mp hwatched
    have hnone : (run timerStep (.new Nat) otherClient).timers
        (fun entry => entry.clientCallback == some 1) = ∅ := by decide
    refine absurd ?_ (Finset.eq_empty_iff_forall_notMem.mp hnone timerId)
    exact (mem_timers _).mpr ⟨entry, hentry, beq_iff_eq.mpr hclient⟩
  · have hgood := always_iff_prefix.mp h timerZero List.prefix_rfl
    have hzero : (run timerStep (.new Nat) timerZero).timerMap.lookup 0 =
        some ⟨"a", "alarm", some 1⟩ := by decide
    have hseven : (run timerStep (.new Nat) timerZero).timerMap.lookup 7 =
        some ⟨"a", "alarm", some 1⟩ := by decide
    exact absurd (hgood.names 0 7 _ _ hzero hseven rfl rfl (by decide)) (by decide)

/-- Admin `a` creates a timer and recreates it, and then its client dies. -/
theorem books_kept :
    Always timerStep Good (.new Nat)
      [(service 7, .createTimer (options "alarm" 1) "a"),
        (service 7, .resyncTimer (options "alarm" 1) "a" 7 5), (service 7, .onRemoteDied (some 1))] :=
  timers_good _
    ⟨by rfl, ⟨fun _ _ => ⟨by decide, by decide, fun entry hentry old hold => .inl (by
      have hseven : some (TimerEntry.mk "a" "alarm" (some 1)) = some entry := hentry
      cases hseven
      exact hold)⟩, trivial, trivial⟩⟩

end TimerBooks

end Edm
