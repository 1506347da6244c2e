import Mathlib.Logic.Function.Basic
import Edm.Library.SeparatedKey

/-! `EnterpriseConnManager` and `EnterpriseConnectionCallback` for one admin: the entry of
`connectionMap_` under the admin's key, and the threads that execute strategies or handle a
connection.  A step of a thread is a section under `connectionMutex_`, or one call outside it. -/

set_option autoImplicit false

namespace Edm

open Library

def DEFAULT_TIMEOUT_MS : Int := 10000

namespace EnterpriseConnManager

def generateConnectionKey (bundleName : String) (userId : Int32) : String :=
  bundleName ++ "_" ++ Int.repr userId.toInt

/-- Admins do not share an entry. -/
theorem generateConnectionKey_inj {bundleName bundleName' : String} {userId userId' : Int32} :
    generateConnectionKey bundleName userId = generateConnectionKey bundleName' userId' ↔
      bundleName = bundleName' ∧ userId = userId' := by
  have hnone : ∀ n : Int, '_' ∉ (Int.repr n).toList := notMem_intRepr (by decide) (by decide)
  rw [generateConnectionKey, generateConnectionKey, append_separator_inj rfl (hnone _) (hnone _),
    Int.repr_inj, Int32.toInt_inj]

/-- Threads are numbered.  The strategy of a call, and the connection callback that the call creates
with the proxy of its connection, have the number of the thread. -/
abbrev Thread := Nat

structure ConnectionInfo where
  proxy : Option Thread
  callback : Option Thread
  pendingCallbacks : List Thread
  isPending : Bool
  createTime : Int

def ConnectionInfo.setCallback (callback : Thread) (info : ConnectionInfo) : ConnectionInfo :=
  { info with callback := some callback }

/-- What becomes of `strategy->Execute(proxy)`.  A request that does not reach a live proxy fails. -/
inductive Execution where
  | delivered (ret : Bool)
  | undelivered
  deriving DecidableEq

/-- What a step reads: the time when the timeout is checked and when an entry is made, the ratio of
the timeout, whether a proxy is valid and what executing a strategy gives, whether a connection
request is taken, and whether the admin of a disconnected extension is to be kept alive. -/
structure Answer where
  now : Int
  createTime : Int
  ratio : Int32
  isValid : Bool
  execution : Execution
  connected : Bool
  keepAlive : Bool

/-- Where a thread stands: before a call, in `ExecuteCallback`, in a connection callback, or after a
call. -/
inductive Pc where
  | idle
  | checkConnectionState
  | execute (proxy : Thread)
  | requeue
  | disconnectRequeued (callback : Thread)
  | findCallback
  | disconnectOld (callback : Thread)
  | connect
  | setCallback
  | eraseConnection
  | removeRemoteObject (disconnected : Bool)
  | saveProxy (proxy : Thread)
  | executePending (proxy : Thread) (callbacks : List Thread)
  | returned (ret : Bool)
  deriving DecidableEq

/-- What the claims of a history are about: the strategies that were accepted, in order, those among
them that a connection reported success after, and those that reached a live proxy, in order. -/
structure History where
  accepted : List Thread
  connected : List Thread
  executed : List Thread

/-- `created` are the connection callbacks whose request was taken. -/
structure State where
  info : Option ConnectionInfo
  isStale : Thread → Bool
  created : Thread → Bool
  pc : Thread → Pc
  history : History

def State.boot : State where
  info := none
  isStale _ := false
  created _ := false
  pc _ := .idle
  history := ⟨[], [], []⟩

def State.goto (s : State) (t : Thread) (pc : Pc) : State :=
  { s with pc := Function.update s.pc t pc }

/-- A strategy reaches a live proxy. -/
def State.deliver (s : State) (strategy : Thread) : State :=
  { s with history := { s.history with executed := s.history.executed ++ [strategy] } }

def State.markStale (s : State) (callback : Thread) : State :=
  { s with isStale := Function.update s.isStale callback true }

def isConnectionTimeout (info : ConnectionInfo) (answer : Answer) : Bool :=
  info.isPending && decide (DEFAULT_TIMEOUT_MS * answer.ratio.toInt < answer.now - info.createTime)

def prepareNewConnection (info : Option ConnectionInfo) (strategy : Thread) (answer : Answer) :
    ConnectionInfo :=
  match info with
  | some info =>
    { info with
      isPending := true
      createTime := answer.createTime
      pendingCallbacks := info.pendingCallbacks ++ [strategy] }
  | none => ⟨none, none, [strategy], true, answer.createTime⟩

/-- The entry and the callback that has become stale, after the check of the timeout. -/
def checkTimeout (info : Option ConnectionInfo) (answer : Answer) :
    Option ConnectionInfo × Option Thread :=
  match info with
  | some info => if isConnectionTimeout info answer then (none, info.callback) else (some info, none)
  | none => (none, none)

/-- The entry after the call, and how the caller goes on. -/
def acceptStrategy (info : Option ConnectionInfo) (strategy : Thread) (answer : Answer) :
    ConnectionInfo × Pc :=
  match info with
  | some info =>
    match info.proxy with
    | some proxy => (info, .execute proxy)
    | none =>
      if info.isPending then
        ({ info with pendingCallbacks := info.pendingCallbacks ++ [strategy] }, .returned true)
      else (prepareNewConnection (some info) strategy answer, .findCallback)
  | none => (prepareNewConnection none strategy answer, .findCallback)

/-- The stale callback is marked under the lock; the caller disconnects it afterwards. -/
def checkConnectionState (s : State) (t : Thread) (answer : Answer) : State :=
  let (info, staleCallback) := checkTimeout s.info answer
  let (info, pc) := acceptStrategy info t answer
  let s := (staleCallback.map s.markStale).getD s
  { s with
    info := some info
    history := { s.history with accepted := s.history.accepted ++ [t] } }.goto t pc

def execute (s : State) (t : Thread) (answer : Answer) : State :=
  if !answer.isValid then s.goto t .requeue
  else
    match answer.execution with
    | .delivered ret => (s.deliver t).goto t (if ret then .returned true else .requeue)
    | .undelivered => s.goto t .requeue

def requeue (s : State) (t : Thread) (answer : Answer) : State :=
  match s.info with
  | none => s.goto t (.returned false)
  | some info =>
    { s with
      info := some { info with
        proxy := none
        isPending := true
        createTime := answer.createTime
        pendingCallbacks := info.pendingCallbacks ++ [t] } }.goto t
      (match info.callback with
        | some callback => .disconnectRequeued callback
        | none => .findCallback)

def saveProxy (s : State) (t proxy : Thread) : State :=
  match s.info with
  | none => s.goto t (.returned true)
  | some info =>
    { s with
      info := some { info with proxy := some proxy, isPending := false, pendingCallbacks := [] } }.goto
      t (.executePending proxy info.pendingCallbacks)

/-- The result of a strategy is not looked at. -/
def executePending (s : State) (t proxy : Thread) (callbacks : List Thread) (answer : Answer) :
    State :=
  match callbacks with
  | [] => s.goto t (.returned true)
  | strategy :: callbacks =>
    match answer.execution with
    | .delivered _ => (s.deliver strategy).goto t (.executePending proxy callbacks)
    | .undelivered => s.goto t (.executePending proxy callbacks)

/-- The next step of a thread. -/
def next (s : State) (t : Thread) (answer : Answer) : State :=
  match s.pc t with
  | .idle => s
  | .checkConnectionState => checkConnectionState s t answer
  | .execute _ => execute s t answer
  | .requeue => requeue s t answer
  | .disconnectRequeued callback => (s.markStale callback).goto t .findCallback
  | .findCallback =>
    s.goto t (match s.info.bind (·.callback) with
      | some callback => .disconnectOld callback
      | none => .connect)
  | .disconnectOld callback => (s.markStale callback).goto t .connect
  | .connect =>
    if answer.connected then
      { s with created := Function.update s.created t true }.goto t .setCallback
    else s.goto t .eraseConnection
  | .setCallback =>
    { s with info := s.info.map (ConnectionInfo.setCallback t) }.goto t (.returned true)
  | .eraseConnection => { s with info := none }.goto t (.returned false)
  | .removeRemoteObject disconnected =>
    { s with info := none }.goto t
      (if disconnected && answer.keepAlive then .checkConnectionState else .returned true)
  | .saveProxy proxy => saveProxy s t proxy
  | .executePending proxy callbacks => executePending s t proxy callbacks answer
  | .returned _ => s

/-- What happens to the connection: a call starts, a connection is reported to be done or failed, or
to be disconnected, in a thread of its own, or a thread takes a step. -/
inductive Op where
  | executeCallback (t : Thread)
  | onAbilityConnectDone (t callback : Thread) (ok : Bool)
  | onAbilityDisconnectDone (t callback : Thread)
  | next (t : Thread) (answer : Answer)

/-- A report on a stale callback is ignored. -/
def step (s : State) : Op → State
  | .executeCallback t => if s.pc t = .idle then s.goto t .checkConnectionState else s
  | .onAbilityConnectDone t callback ok =>
    if s.pc t = .idle ∧ s.created callback = true then
      { s with
        history := { s.history with
          connected := if ok then s.history.accepted else s.history.connected } }.goto t
        (if s.isStale callback then .returned true
          else if ok then .saveProxy callback else .removeRemoteObject false)
    else s
  | .onAbilityDisconnectDone t callback =>
    if s.pc t = .idle ∧ s.created callback = true then
      s.goto t (if s.isStale callback then .returned true else .removeRemoteObject true)
    else s
  | .next t answer => next s t answer

end EnterpriseConnManager

end Edm
