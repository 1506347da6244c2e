import Edm.Admin.Admin
import Edm.Library.UnorderedMap

/-! The subscriptions of `EventSubscriptionManager`: who gets which event, and for each group of
events the adapter that receives them from the system, with the number of subscriptions that need
it.  Every method here is one critical section; what a caller does outside of it, with the timer that
gives up an adapter nobody needs, is in `SubscriptionSystem`. -/

set_option autoImplicit false

namespace Edm

open Library Library.UnorderedMap

/-- An event, by its code. -/
abbrev EventId := UInt32

namespace ManagedEvent

def BUNDLE_ADDED : ManagedEvent := 0
def BUNDLE_REMOVED : ManagedEvent := 1
def APP_START : ManagedEvent := 2
def APP_STOP : ManagedEvent := 3
def SYSTEM_UPDATE : ManagedEvent := 4
def USER_ADDED : ManagedEvent := 5
def USER_SWITCHED : ManagedEvent := 6
def USER_REMOVED : ManagedEvent := 7
def STARTUP_GUIDE_COMPLETED : ManagedEvent := 8
def BOOT_COMPLETED : ManagedEvent := 9
def BUNDLE_UPDATED : ManagedEvent := 10
def BMS_READY : ManagedEvent := 101
def KIOSK_MODE_ON : ManagedEvent := 102
def KIOSK_MODE_OFF : ManagedEvent := 103
def SIM_STATE_CHANGED : ManagedEvent := 104
def UNMOUNT_EXTERNAL_STORAGE_DEVICE : ManagedEvent := 107

end ManagedEvent

inductive AdapterType where
  | commonEvent
  | appLifecycle
  deriving DecidableEq, Repr

inductive SubscriberType where
  | saCore
  | mdmRelay
  | policyBound
  deriving DecidableEq, Repr

/-- The groups that have a common event adapter without a name of their own, the null adapter of the
unmounting of a storage device among them. -/
def commonEventGroups : List EventId :=
  [ManagedEvent.BUNDLE_ADDED, ManagedEvent.BUNDLE_REMOVED, ManagedEvent.BUNDLE_UPDATED,
    ManagedEvent.USER_ADDED, ManagedEvent.USER_SWITCHED, ManagedEvent.USER_REMOVED,
    ManagedEvent.BOOT_COMPLETED, ManagedEvent.BMS_READY, ManagedEvent.KIOSK_MODE_ON,
    ManagedEvent.KIOSK_MODE_OFF, ManagedEvent.SIM_STATE_CHANGED, ManagedEvent.SYSTEM_UPDATE,
    ManagedEvent.STARTUP_GUIDE_COMPLETED, ManagedEvent.UNMOUNT_EXTERNAL_STORAGE_DEVICE]

/-- `AdapterFactory::CreateAdapter`.  Of an adapter only the type is kept. -/
def createAdapter (groupId : EventId) (eventName : String) : Option AdapterType :=
  if groupId ∈ commonEventGroups then some .commonEvent
  else if groupId = ManagedEvent.APP_START then some .appLifecycle
  else if eventName ≠ "" then some .commonEvent
  else none

/-- The thread of a timer: it waits for the delay to pass, then waits for its turn to run the task,
and is then about to return. -/
inductive TimerThread where
  | none
  | waiting
  | firing
  | finishing
  deriving DecidableEq, Repr

/-- `threadMutex` tells whether a `Start` or a `Cancel` is under way. -/
structure DelayCancelTimer where
  active : Bool
  threadMutex : Bool
  thread : TimerThread
  deriving DecidableEq, Repr

/-- A newly constructed timer. -/
def DelayCancelTimer.new : DelayCancelTimer := ⟨false, false, .none⟩

def DelayCancelTimer.isRunning (timer : DelayCancelTimer) : Bool := timer.active

structure EventGroupState where
  adapter : Option AdapterType
  refCount : Int32
  isSubscribed : Bool
  timer : Option DelayCancelTimer
  eventName : String
  eventPermission : String
  deriving DecidableEq

structure SubscriptionEntry (Callback : Type) where
  subscriberId : String
  type : SubscriberType
  eventId : EventId
  callback : Callback
  deriving DecidableEq, Repr

/-- A null group state is the same as none.  The id of an entry is its key. -/
structure EventSubscriptionManager (Callback : Type) where
  nextHandleId : UInt32
  subscriptions : UnorderedMap UInt32 (SubscriptionEntry Callback)
  eventGroupStates : UnorderedMap EventId EventGroupState

/-- The arguments of `Subscribe`.  `none` is a null callback. -/
structure SubscribeArgs (Callback : Type) where
  subscriberId : String
  type : SubscriberType
  eventId : EventId
  callback : Option Callback
  eventName : String
  eventPermission : String
  deriving DecidableEq, Repr

/-- The handle that `Subscribe` gives, with the group whose timer is still to be cancelled. -/
structure Subscribed where
  handleId : UInt32
  timerToCancel : Option EventId
  deriving DecidableEq, Repr

namespace EventSubscriptionManager

variable {Callback : Type}

def new (Callback : Type) : EventSubscriptionManager Callback := ⟨1, ∅, ∅⟩

def getEventGroupId (eventId : EventId) : EventId :=
  if eventId = ManagedEvent.APP_START ∨ eventId = ManagedEvent.APP_STOP then
    ManagedEvent.APP_START
  else eventId

variable (m : EventSubscriptionManager Callback)

def ensureGroupState (groupId : EventId) (eventName eventPermission : String) :
    Option EventGroupState :=
  match m.eventGroupStates.lookup groupId with
  | none =>
    (createAdapter groupId eventName).map fun adapter =>
      { adapter := some adapter, refCount := 0, isSubscribed := false, timer := none, eventName
        eventPermission }
  | some state =>
    match state.adapter with
    | some _ => some state
    | none =>
      (createAdapter groupId state.eventName).map fun adapter =>
        { state with adapter := some adapter, isSubscribed := false }

/-- `adapterSubscribes` tells whether the adapter's `SubscribeEvent` succeeds, if it is called. -/
def subscribe (args : SubscribeArgs Callback) (adapterSubscribes : Bool) :
    Option Subscribed × EventSubscriptionManager Callback :=
  match args.callback with
  | none => (none, m)
  | some callback =>
    let groupId := getEventGroupId args.eventId
    match m.ensureGroupState groupId args.eventName args.eventPermission with
    | none => (none, m)
    | some state =>
      let timerToCancel := if state.timer.any (·.isRunning) then some groupId else none
      let handleId := m.nextHandleId
      (some { handleId, timerToCancel },
        { nextHandleId := handleId + 1
          subscriptions := m.subscriptions.insert handleId
            { subscriberId := args.subscriberId, type := args.type, eventId := args.eventId, callback }
          eventGroupStates := m.eventGroupStates.insert groupId
            { state with
              isSubscribed := state.isSubscribed || adapterSubscribes
              refCount := state.refCount + 1 } })

/-- The first component is the group whose timer is still to be started. -/
def unsubscribe (handleId : UInt32) : Option EventId × EventSubscriptionManager Callback :=
  match m.subscriptions.lookup handleId with
  | none => (none, m)
  | some entry =>
    let groupId := getEventGroupId entry.eventId
    let subscriptions := m.subscriptions.erase handleId
    match m.eventGroupStates.lookup groupId with
    | none => (none, { m with subscriptions })
    | some state =>
      let last := state.refCount = 1
      let timer := if last then some (state.timer.getD .new) else state.timer
      (if last then some groupId else none,
        { m with
          subscriptions
          eventGroupStates := m.eventGroupStates.insert groupId
            { state with refCount := state.refCount - 1, timer } })

/-- Whether the task of a timer, run now, calls the `UnsubscribeEvent` of the adapter. -/
def expiryUnsubscribes (groupId : EventId) : Bool :=
  match m.eventGroupStates.lookup groupId with
  | none => false
  | some state => state.refCount == 0 && state.isSubscribed && state.adapter.isSome

/-- The task of `StartDelayedUnsubscribe`.  A group state is never replaced by another. -/
def delayedUnsubscribe (groupId : EventId) (adapterUnsubscribes : Bool) :
    EventSubscriptionManager Callback :=
  match m.eventGroupStates.lookup groupId with
  | none => m
  | some state =>
    if state.refCount = 0 ∧ state.isSubscribed = true then
      { m with
        eventGroupStates := m.eventGroupStates.insert groupId
          { state with
            isSubscribed := false
            adapter := if adapterUnsubscribes then none else state.adapter } }
    else m

/-- The callbacks of an event. -/
def dispatchEvent (eventId : EventId) : UnorderedMap UInt32 (SubscriptionEntry Callback) :=
  filterValues (fun entry => entry.eventId == eventId) m.subscriptions

def resetAdapterSubscribedState (groupId : EventId) : EventSubscriptionManager Callback :=
  match m.eventGroupStates.lookup groupId with
  | none => m
  | some state =>
    { m with eventGroupStates := m.eventGroupStates.insert groupId { state with isSubscribed := false } }

def resetCommonEventAdapterStates : EventSubscriptionManager Callback :=
  { m with
    eventGroupStates := mapValues (fun state =>
      if state.adapter = some .commonEvent then { state with isSubscribed := false } else state)
      m.eventGroupStates }

/-- `adapterSubscribes` tells for each group whether the adapter's `SubscribeEvent` succeeds. -/
def retryFailedAdapters (type : AdapterType) (adapterSubscribes : EventId → Bool) :
    EventSubscriptionManager Callback :=
  { m with
    eventGroupStates := mapWithKey (fun groupId state =>
      if state.isSubscribed = false ∧ state.adapter = some type then
        { state with isSubscribed := adapterSubscribes groupId }
      else state) m.eventGroupStates }

end EventSubscriptionManager

end Edm
