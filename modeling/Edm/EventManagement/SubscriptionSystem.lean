import Edm.EventManagement.EventSubscriptionManager
import Edm.Library.Run

/-! The subscriptions with the calls that are under way.  A `Subscribe` cancels the timer of its group
after its critical section, and an `Unsubscribe` starts it after its own; the thread of a timer runs
its task in a critical section of its own.  A step is one of these parts, in any order. -/

set_option autoImplicit false

namespace Edm

open Library Library.UnorderedMap

/-- What a call has left to do: to cancel the timer of a group, for the `Subscribe` that made a
handle, or to start it, or to wait in either for the thread of the timer. -/
inductive TimerCall where
  | cancel (handleId : UInt32) (groupId : EventId)
  | cancelJoin (handleId : UInt32) (groupId : EventId)
  | start (groupId : EventId)
  | startJoin (groupId : EventId)
  deriving DecidableEq, Repr

def TimerCall.groupId : TimerCall → EventId
  | .cancel _ groupId => groupId
  | .cancelJoin _ groupId => groupId
  | .start groupId => groupId
  | .startJoin groupId => groupId

structure SubscriptionSystem (Callback : Type) where
  manager : EventSubscriptionManager Callback
  calls : List TimerCall

/-- A step, with what the adapters answer in it. -/
inductive SubscriptionOp (Callback : Type) where
  | subscribe (args : SubscribeArgs Callback) (adapterSubscribes : Bool)
  | unsubscribe (handleId : UInt32)
  | timerCall (call : TimerCall)
  | timerThread (groupId : EventId) (adapterUnsubscribes : Bool)
  | resetAdapterSubscribedState (groupId : EventId)
  | resetCommonEventAdapterStates
  | retryFailedAdapters (type : AdapterType) (adapterSubscribes : EventId → Bool)

namespace EventSubscriptionManager

variable {Callback : Type} (m : EventSubscriptionManager Callback)

def timer (groupId : EventId) : Option DelayCancelTimer :=
  (m.eventGroupStates.lookup groupId).bind EventGroupState.timer

def setTimer (groupId : EventId) (timer : DelayCancelTimer) : EventSubscriptionManager Callback :=
  match m.eventGroupStates.lookup groupId with
  | none => m
  | some state =>
    { m with
      eventGroupStates := m.eventGroupStates.insert groupId { state with timer := some timer } }

end EventSubscriptionManager

/-- `TimerCall` before its step, and after it, with what becomes of the timer.  A step that has to
wait is none. -/
def TimerCall.step (timer : DelayCancelTimer) : TimerCall → Option (Option TimerCall × DelayCancelTimer)
  | .cancel handleId groupId =>
    if timer.threadMutex then none
    else some (some (.cancelJoin handleId groupId), { timer with active := false, threadMutex := true })
  | .cancelJoin _ _ =>
    if timer.thread = .none then some (none, { timer with threadMutex := false }) else none
  | .start groupId =>
    if timer.threadMutex then none
    else some (some (.startJoin groupId), { timer with active := false, threadMutex := true })
  | .startJoin _ =>
    if timer.thread = .none then
      some (none, { active := true, threadMutex := false, thread := .waiting })
    else none

namespace SubscriptionSystem

variable {Callback : Type} (s : SubscriptionSystem Callback)

def new (Callback : Type) : SubscriptionSystem Callback := ⟨.new Callback, []⟩

def subscribe (args : SubscribeArgs Callback) (adapterSubscribes : Bool) :
    SubscriptionSystem Callback :=
  let (subscribed, manager) := s.manager.subscribe args adapterSubscribes
  let calls := subscribed.elim [] fun subscribed =>
    subscribed.timerToCancel.toList.map (.cancel subscribed.handleId)
  { manager, calls := s.calls ++ calls }

def unsubscribe (handleId : UInt32) : SubscriptionSystem Callback :=
  let (timerToStart, manager) := s.manager.unsubscribe handleId
  { manager, calls := s.calls ++ timerToStart.toList.map .start }

def timerCall (call : TimerCall) : SubscriptionSystem Callback :=
  if call ∈ s.calls then
    match (s.manager.timer call.groupId).bind call.step with
    | none => s
    | some (next, timer) =>
      { manager := s.manager.setTimer call.groupId timer
        calls := s.calls.erase call ++ next.toList }
  else s

/-- The thread of the timer returns if it was cancelled, and runs the task after the delay if not. -/
def timerThread (groupId : EventId) (adapterUnsubscribes : Bool) : SubscriptionSystem Callback :=
  match s.manager.timer groupId with
  | none => s
  | some timer =>
    match timer.thread with
    | .none => s
    | .waiting =>
      let thread := if timer.active then .firing else .none
      { s with manager := s.manager.setTimer groupId { timer with thread } }
    | .firing =>
      let manager := s.manager.delayedUnsubscribe groupId adapterUnsubscribes
      { s with manager := manager.setTimer groupId { timer with thread := .finishing } }
    | .finishing =>
      { s with manager := s.manager.setTimer groupId { timer with active := false, thread := .none } }

end SubscriptionSystem

def subscriptionStep {Callback : Type} (s : SubscriptionSystem Callback) :
    SubscriptionOp Callback → SubscriptionSystem Callback
  | .subscribe args adapterSubscribes => s.subscribe args adapterSubscribes
  | .unsubscribe handleId => s.unsubscribe handleId
  | .timerCall call => s.timerCall call
  | .timerThread groupId adapterUnsubscribes => s.timerThread groupId adapterUnsubscribes
  | .resetAdapterSubscribedState groupId =>
    { s with manager := s.manager.resetAdapterSubscribedState groupId }
  | .resetCommonEventAdapterStates =>
    { s with manager := s.manager.resetCommonEventAdapterStates }
  | .retryFailedAdapters type adapterSubscribes =>
    { s with manager := s.manager.retryFailedAdapters type adapterSubscribes }

end Edm
