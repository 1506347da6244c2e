import Edm.Admin.AdminManager
import Edm.EventManagement.ReferenceCounts
import Edm.Library.SeparatedKey

/-! How `MdmEventRelayer` passes the events of the system on to the admins that asked for them.  For
each admin and user it keeps the handles of the subscriptions in `EventSubscriptionManager`, under a
key made from both. -/

set_option autoImplicit false

namespace Edm

open Library Library.UnorderedMap ManagedEvent

/-- What a subscription calls: the relayer's callback with the values that it captures, or the
callback of another subscriber. -/
inductive EventCallback where
  | relay (event : ManagedEvent) (adminName className : String) (userId : Int)
  | other
  deriving DecidableEq, Repr

/-- The handles, with the manager that they are from. -/
structure MdmEventRelayer where
  adminSubscriptionHandles : UnorderedMap String (UnorderedMap ManagedEvent UInt32)
  manager : EventSubscriptionManager EventCallback

/-- The events that `RegisterStrategyFactories` makes a strategy for. -/
def strategyFactories : List ManagedEvent :=
  [APP_START, APP_STOP, BUNDLE_ADDED, BUNDLE_REMOVED, BUNDLE_UPDATED, USER_ADDED, USER_SWITCHED,
    USER_REMOVED, BOOT_COMPLETED, STARTUP_GUIDE_COMPLETED, SYSTEM_UPDATE,
    UNMOUNT_EXTERNAL_STORAGE_DEVICE]

/-- The answers of the adapters to the subscriptions of a key. -/
abbrev AdapterAnswers := String → ManagedEvent → Bool

namespace MdmEventRelayer

def new : MdmEventRelayer := ⟨∅, .new EventCallback⟩

def makeAdminKey (adminName : String) (userId : Int) : String :=
  adminName ++ "_" ++ Int.repr userId

variable (r : MdmEventRelayer)

/-- The arguments of the `Subscribe` for an event. -/
def subscribeArgs (adminName className : String) (userId : Int) (event : ManagedEvent) :
    SubscribeArgs EventCallback where
  subscriberId := makeAdminKey adminName userId
  type := .mdmRelay
  eventId := event
  callback := some (.relay event adminName className userId)
  eventName := ""
  eventPermission := ""

def onAdminSubscribe (c : AdminContainer) (answers : AdapterAnswers) (adminName : String)
    (userId : Int) (event : ManagedEvent) : MdmEventRelayer :=
  let className := (AdminManager.getAdminByPkgName c adminName userId).elim "" fun admin =>
    admin.adminInfo.className
  let key := makeAdminKey adminName userId
  match lookup₂ r.adminSubscriptionHandles key event with
  | some _ => r
  | none =>
    if event ∈ strategyFactories then
      match r.manager.subscribe (subscribeArgs adminName className userId event)
          (answers key event) with
      | (none, manager) => { r with manager }
      | (some subscribed, manager) =>
        { adminSubscriptionHandles :=
            put₂ r.adminSubscriptionHandles key event subscribed.handleId
          manager }
    else r

/-- `SubscriptionHandle::Release`. -/
def release (manager : EventSubscriptionManager EventCallback) (handleId : UInt32) :
    EventSubscriptionManager EventCallback :=
  if handleId = 0 then manager else (manager.unsubscribe handleId).2

def onAdminUnsubscribe (adminName : String) (userId : Int) (event : ManagedEvent) :
    MdmEventRelayer :=
  let key := makeAdminKey adminName userId
  match r.adminSubscriptionHandles.lookup key with
  | none => r
  | some events =>
    match events.lookup event with
    | none => r
    | some handle =>
      { adminSubscriptionHandles :=
          storeInner r.adminSubscriptionHandles key (events.erase event)
        manager := release r.manager handle }

/-- The handles of the key are released in the order of the map. -/
def onAdminRemoved (order : KeyOrder ManagedEvent) (adminName : String) (userId : Int) :
    MdmEventRelayer :=
  let key := makeAdminKey adminName userId
  match r.adminSubscriptionHandles.lookup key with
  | none => r
  | some handles =>
    { adminSubscriptionHandles := r.adminSubscriptionHandles.erase key
      manager := ((order.visit handles.keys).filterMap handles.lookup).foldl release r.manager }

def restoreAdminEvents (c : AdminContainer) (answers : AdapterAnswers) (appLifecycleOnly : Bool)
    (adminName : String) (userId : Int) : MdmEventRelayer :=
  match AdminManager.getAdminByPkgName c adminName userId with
  | none => r
  | some admin =>
    admin.adminInfo.managedEvents.foldl (fun r event =>
      let isAppLifecycle := event == APP_START || event == APP_STOP
      if isAppLifecycle != appLifecycleOnly then r
      else r.onAdminSubscribe c answers adminName userId event) r

/-- The admins of all users, user by user. -/
def restoreSubscriptions (order : KeyOrder Int) (c : AdminContainer) (answers : AdapterAnswers)
    (appLifecycleOnly : Bool) : MdmEventRelayer :=
  (order.visit c.keys).foldl (fun r userId =>
    (AdminManager.getAdminByUserId c userId).foldl (fun r admin =>
      r.restoreAdminEvents c answers appLifecycleOnly admin.adminInfo.packageName userId) r) r

end MdmEventRelayer

end Edm
