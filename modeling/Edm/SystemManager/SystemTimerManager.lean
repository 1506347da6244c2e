import Mathlib.Data.Finset.Max
import Mathlib.Data.Finset.Sort
import Edm.Errors
import Edm.Library.UnorderedMap

/-! The timers that the service keeps for admins.  `timerMap` tells whose timer an id is, and
`recipientMap` which clients are watched for their death.  The time service itself is outside: every
operation takes its answers and returns the calls made to it. -/

set_option autoImplicit false

namespace Edm

open Library Library.UnorderedMap

namespace SystemTimer

def TIMER_NAME_MAX_LEN : Nat := 64
def TIMER_INTERVAL_MIN_MS : Nat := 1000
def TIMER_INTERVAL_MAX_MS : Nat := 24 * 3600 * 1000
def TIMER_MAX_COUNT_PER_ADMIN : Nat := 5

end SystemTimer

/-- What a client asks of a timer.  A `Callback` is the object that the client is called back on. -/
structure TimerOptions (Callback : Type) where
  isRepeat : Bool
  interval : Nat
  name : String
  clientCallback : Option Callback
  deriving DecidableEq, Repr

structure TimerEntry (Callback : Type) where
  adminBundleName : String
  name : String
  clientCallback : Option Callback
  deriving DecidableEq, Repr

/-- The keys of `recipientMap_` are kept, not the recipients. -/
structure SystemTimerManager (Callback : Type) where
  timerMap : UnorderedMap Nat (TimerEntry Callback)
  recipientMap : Finset Callback

/-- The manager at the start of the service. -/
def SystemTimerManager.new (Callback : Type) : SystemTimerManager Callback := ⟨∅, ∅⟩

/-- The answers of the time service: whether there is one, the id of a created timer or 0, the code
and the id of a timer created under a given id, and the codes of a start and of a stop. -/
structure TimeService where
  available : Bool
  createTimer : Nat
  createTimerV9 : Int × Nat
  startTimerV9 : Int
  stopTimerV9 : Int
  deriving DecidableEq, Repr

/-- A call to the time service. -/
inductive TimeServiceCall where
  | createTimer (isRepeat : Bool) (interval : Nat) (name : String)
  | createTimerV9 (isRepeat : Bool) (interval : Nat) (name : String) (timerId : Nat)
  | startTimerV9 (timerId triggerTime : Nat)
  | stopTimerV9 (timerId : Nat)
  | destroyTimerV9 (timerId : Nat)
  deriving DecidableEq, Repr

/-- The timer that a call is about. -/
def TimeServiceCall.timerId : TimeServiceCall → Option Nat
  | .createTimer _ _ _ => none
  | .createTimerV9 _ _ _ timerId => some timerId
  | .startTimerV9 timerId _ => some timerId
  | .stopTimerV9 timerId => some timerId
  | .destroyTimerV9 timerId => some timerId

/-- The outcome of an operation.  `reply` is the id that a creation gives back. -/
structure TimerOutcome (Callback : Type) where
  ret : ErrCode
  timers : SystemTimerManager Callback
  calls : List TimeServiceCall
  reply : Option Nat

namespace SystemTimerManager

variable {Callback : Type} [DecidableEq Callback] (m : SystemTimerManager Callback)

/-- The timers whose entry meets `p`. -/
def timers (p : TimerEntry Callback → Bool) : Finset Nat := keysWhere p m.timerMap

def isTimerOwner (timerId : Nat) (adminBundleName : String) : Bool :=
  match m.timerMap.lookup timerId with
  | none => false
  | some entry => entry.adminBundleName == adminBundleName

def countTimersByAdmin (adminBundleName : String) : Nat :=
  (m.timers fun entry => entry.adminBundleName == adminBundleName).card

def releaseRecipientIfUnused (clientCallback : Option Callback) : SystemTimerManager Callback :=
  match clientCallback with
  | none => m
  | some callback =>
    if m.timers (fun entry => entry.clientCallback == some callback) = ∅ then
      { m with recipientMap := m.recipientMap.erase callback }
    else m

def cleanupTimer (timerId : Nat) : SystemTimerManager Callback :=
  match m.timerMap.lookup timerId with
  | none => m
  | some entry =>
    releaseRecipientIfUnused { m with timerMap := m.timerMap.erase timerId } entry.clientCallback

/-- The timer that the loop of `CleanupSameNameTimerLocked` stops at: the map is ordered by id. -/
def sameNameTimer (name : String) (excludeTimerId : Nat) : Option Nat :=
  ((m.timers fun entry => entry.name == name).erase excludeTimerId).min

def cleanupSameNameTimer (name : String) (excludeTimerId : Nat) : SystemTimerManager Callback :=
  if name = "" then m
  else
    match m.sameNameTimer name excludeTimerId with
    | none => m
    | some timerId => m.cleanupTimer timerId

def getOrCreateDeathRecipient (clientCallback : Option Callback) : SystemTimerManager Callback :=
  match clientCallback with
  | none => m
  | some callback => { m with recipientMap := insert callback m.recipientMap }

def insertTimerEntry (timerId : Nat) (options : TimerOptions Callback) (adminBundleName : String) :
    SystemTimerManager Callback :=
  let m := m.getOrCreateDeathRecipient options.clientCallback
  { m with
    timerMap := m.timerMap.insert timerId
      { adminBundleName, name := options.name, clientCallback := options.clientCallback } }

/-! ### The operations -/

def createTimer (service : TimeService) (options : TimerOptions Callback)
    (adminBundleName : String) : TimerOutcome Callback :=
  if SystemTimer.TIMER_MAX_COUNT_PER_ADMIN ≤ m.countTimersByAdmin adminBundleName then
    ⟨EdmReturnErrCode.SYSTEM_TIMER_MAX_COUNT_REACHED, m, [], none⟩
  else if !service.available then ⟨EdmReturnErrCode.EXECUTE_TIME_OUT, m, [], none⟩
  else
    let calls := [.createTimer options.isRepeat options.interval options.name]
    if service.createTimer = 0 then ⟨EdmReturnErrCode.EXECUTE_TIME_OUT, m, calls, none⟩
    else
      let cleaned := m.cleanupSameNameTimer options.name 0
      ⟨ERR_OK, cleaned.insertTimerEntry service.createTimer options adminBundleName, calls,
        some service.createTimer⟩

def startTimer (service : TimeService) (timerId triggerTime : Nat) (adminBundleName : String) :
    TimerOutcome Callback :=
  if !m.isTimerOwner timerId adminBundleName then
    ⟨EdmReturnErrCode.SYSTEM_TIMER_NOT_FOUND, m, [], none⟩
  else if !service.available then ⟨EdmReturnErrCode.EXECUTE_TIME_OUT, m, [], none⟩
  else
    let calls := [.startTimerV9 timerId triggerTime]
    if service.startTimerV9 ≠ 0 then ⟨EdmReturnErrCode.EXECUTE_TIME_OUT, m, calls, none⟩
    else ⟨ERR_OK, m, calls, none⟩

def stopTimer (service : TimeService) (timerId : Nat) (adminBundleName : String) :
    TimerOutcome Callback :=
  if !m.isTimerOwner timerId adminBundleName then
    ⟨EdmReturnErrCode.SYSTEM_TIMER_NOT_FOUND, m, [], none⟩
  else if !service.available then ⟨EdmReturnErrCode.EXECUTE_TIME_OUT, m, [], none⟩
  else
    let calls := [.stopTimerV9 timerId]
    if service.stopTimerV9 ≠ 0 then ⟨EdmReturnErrCode.EXECUTE_TIME_OUT, m, calls, none⟩
    else ⟨ERR_OK, m, calls, none⟩

/-- The calls that destroy timers, which are made when there is a time service. -/
def destroyTimers (service : TimeService) (timerIds : Finset Nat) : List TimeServiceCall :=
  if service.available then (timerIds.sort (· ≤ ·)).map .destroyTimerV9 else []

def destroyTimer (service : TimeService) (timerId : Nat) (adminBundleName : String) :
    TimerOutcome Callback :=
  if !m.isTimerOwner timerId adminBundleName then
    ⟨EdmReturnErrCode.SYSTEM_TIMER_NOT_FOUND, m, [], none⟩
  else ⟨ERR_OK, m.cleanupTimer timerId, destroyTimers service {timerId}, none⟩

/-- `isObjectDead` tells whether the client of the timer is dead. -/
def onTimerTriggered (service : TimeService) (timerId : Nat) (isObjectDead : Bool) :
    TimerOutcome Callback :=
  match m.timerMap.lookup timerId with
  | none => ⟨ERR_OK, m, [], none⟩
  | some entry =>
    if entry.clientCallback.isNone || isObjectDead then
      ⟨ERR_OK, m.cleanupTimer timerId, destroyTimers service {timerId}, none⟩
    else ⟨ERR_OK, m, [], none⟩

/-- `none` is a client that no longer exists. -/
def onRemoteDied (service : TimeService) (clientCallback : Option Callback) :
    TimerOutcome Callback :=
  match clientCallback with
  | none => ⟨ERR_OK, m, [], none⟩
  | some callback =>
    ⟨ERR_OK,
      { timerMap := filterValues (fun entry => entry.clientCallback != some callback) m.timerMap
        recipientMap := m.recipientMap.erase callback },
      destroyTimers service (m.timers fun entry => entry.clientCallback == some callback), none⟩

/-- The recipients that are released after the timers of an admin are gone: those of its clients
that no other timer uses. -/
def onAdminRemove (service : TimeService) (adminBundleName : String) : TimerOutcome Callback :=
  let timerIds := m.timers fun entry => entry.adminBundleName == adminBundleName
  let callbacksToCheck := (timerIds.sort (· ≤ ·)).map fun timerId =>
    (m.timerMap.lookup timerId).bind TimerEntry.clientCallback
  let erased := { m with
    timerMap := filterValues (fun entry => entry.adminBundleName != adminBundleName) m.timerMap }
  ⟨ERR_OK, callbacksToCheck.foldl releaseRecipientIfUnused erased, destroyTimers service timerIds,
    none⟩

def resyncTimer (service : TimeService) (options : TimerOptions Callback)
    (adminBundleName : String) (timerId triggerTime : Nat) : TimerOutcome Callback :=
  if !service.available then ⟨EdmReturnErrCode.EXECUTE_TIME_OUT, m, [], none⟩
  else
    let calls := [.destroyTimerV9 timerId,
      .createTimerV9 options.isRepeat options.interval options.name timerId]
    if service.createTimerV9.1 ≠ 0 ∨ service.createTimerV9.2 ≠ timerId then
      ⟨EdmReturnErrCode.EXECUTE_TIME_OUT, m, calls, none⟩
    else
      let cleaned := m.cleanupSameNameTimer options.name timerId
      let started := if 0 < triggerTime then [.startTimerV9 timerId triggerTime] else []
      ⟨ERR_OK, cleaned.insertTimerEntry timerId options adminBundleName, calls ++ started, none⟩

end SystemTimerManager

/-- A call into the manager: the requests of an admin, and what the time service, the death of a
client and the removal of an admin bring. -/
inductive TimerOp (Callback : Type) where
  | createTimer (options : TimerOptions Callback) (adminBundleName : String)
  | startTimer (timerId triggerTime : Nat) (adminBundleName : String)
  | stopTimer (timerId : Nat) (adminBundleName : String)
  | destroyTimer (timerId : Nat) (adminBundleName : String)
  | resyncTimer (options : TimerOptions Callback) (adminBundleName : String)
      (timerId triggerTime : Nat)
  | onTimerTriggered (timerId : Nat) (isObjectDead : Bool)
  | onRemoteDied (clientCallback : Option Callback)
  | onAdminRemove (adminBundleName : String)
  deriving DecidableEq, Repr

section

variable {Callback : Type} [DecidableEq Callback]

def TimerOp.outcome (service : TimeService) (m : SystemTimerManager Callback) :
    TimerOp Callback → TimerOutcome Callback
  | .createTimer options adminBundleName => m.createTimer service options adminBundleName
  | .startTimer timerId triggerTime adminBundleName =>
    m.startTimer service timerId triggerTime adminBundleName
  | .stopTimer timerId adminBundleName => m.stopTimer service timerId adminBundleName
  | .destroyTimer timerId adminBundleName => m.destroyTimer service timerId adminBundleName
  | .resyncTimer options adminBundleName timerId triggerTime =>
    m.resyncTimer service options adminBundleName timerId triggerTime
  | .onTimerTriggered timerId isObjectDead => m.onTimerTriggered service timerId isObjectDead
  | .onRemoteDied clientCallback => m.onRemoteDied service clientCallback
  | .onAdminRemove adminBundleName => m.onAdminRemove service adminBundleName

/-- The calls one after the other, each with the answers of the time service. -/
def timerStep (m : SystemTimerManager Callback) (op : TimeService × TimerOp Callback) :
    SystemTimerManager Callback :=
  (op.2.outcome op.1 m).timers

end

/-! ### Requests -/

/-- A request as it is read from a parcel.  `unread` is a parcel without an operation type. -/
inductive TimerRequest (Callback : Type) where
  | unread
  | create (isRepeat : Bool) (interval : Nat) (name : String) (clientCallback : Option Callback)
  | start (timerId triggerTime : Nat)
  | stop (timerId : Nat)
  | destroy (timerId : Nat)
  | resync (timerId : Nat) (isRepeat : Bool) (interval : Nat) (name : String) (triggerTime : Nat)
      (clientCallback : Option Callback)
  | unknown (operationType : Int)

section

variable {Callback : Type} [DecidableEq Callback]

/-- What `HandleTimerOperation` checks before it calls into the manager. -/
def TimerRequest.operation (adminBundleName : String) :
    TimerRequest Callback → Except ErrCode (TimerOp Callback)
  | .unread => .error EdmReturnErrCode.EXECUTE_TIME_OUT
  | .create isRepeat interval name clientCallback =>
    if name = "" ∨ SystemTimer.TIMER_NAME_MAX_LEN < name.utf8ByteSize then
      .error EdmReturnErrCode.PARAMETER_VERIFICATION_FAILED
    else if isRepeat = true ∧ (interval < SystemTimer.TIMER_INTERVAL_MIN_MS ∨
        SystemTimer.TIMER_INTERVAL_MAX_MS < interval) then
      .error EdmReturnErrCode.PARAMETER_VERIFICATION_FAILED
    else if clientCallback.isNone then .error EdmReturnErrCode.EXECUTE_TIME_OUT
    else .ok (.createTimer { isRepeat, interval, name, clientCallback } adminBundleName)
  | .start timerId triggerTime =>
    if triggerTime = 0 then .error EdmReturnErrCode.PARAMETER_VERIFICATION_FAILED
    else .ok (.startTimer timerId triggerTime adminBundleName)
  | .stop timerId => .ok (.stopTimer timerId adminBundleName)
  | .destroy timerId => .ok (.destroyTimer timerId adminBundleName)
  | .resync timerId isRepeat interval name triggerTime clientCallback =>
    if clientCallback.isNone then .error EdmReturnErrCode.EXECUTE_TIME_OUT
    else
      .ok (.resyncTimer { isRepeat, interval, name, clientCallback } adminBundleName timerId
        triggerTime)
  | .unknown _ => .error EdmReturnErrCode.PARAMETER_VERIFICATION_FAILED

def handleTimerOperation (service : TimeService) (m : SystemTimerManager Callback)
    (adminBundleName : String) (request : TimerRequest Callback) : TimerOutcome Callback :=
  match request.operation adminBundleName with
  | .error err => ⟨err, m, [], none⟩
  | .ok op => op.outcome service m

end

/-! ### What the helpers leave alone -/

namespace SystemTimerManager

variable {Callback : Type} [DecidableEq Callback] (m : SystemTimerManager Callback)

omit [DecidableEq Callback] in
theorem mem_timers {p : TimerEntry Callback → Bool} {timerId : Nat} :
    timerId ∈ m.timers p ↔ ∃ entry, m.timerMap.lookup timerId = some entry ∧ p entry = true :=
  mem_keysWhere

@[simp] theorem releaseRecipientIfUnused_timerMap (clientCallback : Option Callback) :
    (m.releaseRecipientIfUnused clientCallback).timerMap = m.timerMap := by
  cases clientCallback with
  | none => rfl
  | some callback =>
    unfold releaseRecipientIfUnused
    dsimp only
    split <;> rfl

theorem releaseAll_timerMap (callbacks : List (Option Callback)) :
    (callbacks.foldl releaseRecipientIfUnused m).timerMap = m.timerMap := by
  induction callbacks generalizing m with
  | nil => rfl
  | cons callback callbacks ih =>
    rw [List.foldl_cons, ih, releaseRecipientIfUnused_timerMap]

@[simp] theorem cleanupTimer_timerMap (timerId : Nat) :
    (m.cleanupTimer timerId).timerMap = m.timerMap.erase timerId := by
  unfold cleanupTimer
  cases h : m.timerMap.lookup timerId with
  | none => exact (erase_absent h).symm
  | some entry => exact releaseRecipientIfUnused_timerMap _ _

@[simp] theorem insertTimerEntry_timerMap (timerId : Nat) (options : TimerOptions Callback)
    (adminBundleName : String) :
    (m.insertTimerEntry timerId options adminBundleName).timerMap = m.timerMap.insert timerId
      { adminBundleName, name := options.name, clientCallback := options.clientCallback } := by
  unfold insertTimerEntry getOrCreateDeathRecipient
  cases options.clientCallback <;> rfl

omit [DecidableEq Callback] in
theorem sameNameTimer_name {name : String} {excludeTimerId timerId : Nat}
    (h : m.sameNameTimer name excludeTimerId = some timerId) :
    timerId ≠ excludeTimerId ∧
      ∃ entry, m.timerMap.lookup timerId = some entry ∧ entry.name = name := by
  obtain ⟨hne, hmem⟩ := Finset.mem_erase.mp (Finset.mem_of_min h)
  obtain ⟨entry, hentry, hname⟩ := (m.mem_timers).mp hmem
  exact ⟨hne, entry, hentry, beq_iff_eq.mp hname⟩

/-- The clean-up before an insertion keeps the timers that have another name. -/
theorem lookup_cleanupSameNameTimer {timerId : Nat} {entry : TimerEntry Callback}
    (h : m.timerMap.lookup timerId = some entry) {name : String} (excludeTimerId : Nat)
    (hname : name = "" ∨ entry.name ≠ name) :
    (m.cleanupSameNameTimer name excludeTimerId).timerMap.lookup timerId = some entry := by
  unfold cleanupSameNameTimer
  by_cases hempty : name = ""
  · rw [if_pos hempty]
    exact h
  · rw [if_neg hempty]
    cases hsame : m.sameNameTimer name excludeTimerId with
    | none => exact h
    | some cleaned =>
      obtain ⟨-, other, hother, hsameName⟩ := m.sameNameTimer_name hsame
      have hne : timerId ≠ cleaned := by
        rintro rfl
        rw [h] at hother
        cases hother
        exact hname.elim hempty fun hne => hne hsameName
      show (m.cleanupTimer cleaned).timerMap.lookup timerId = some entry
      rw [cleanupTimer_timerMap, lookup_erase_eq, if_neg hne, h]

omit [DecidableEq Callback] in
theorem isTimerOwner_eq_true {timerId : Nat} {adminBundleName : String}
    {entry : TimerEntry Callback} (h : m.timerMap.lookup timerId = some entry)
    (howner : m.isTimerOwner timerId adminBundleName = true) :
    entry.adminBundleName = adminBundleName := by
  simpa [isTimerOwner, h] using howner

end SystemTimerManager

end Edm
