import ShadNet.Changes
import ShadNet.Handler.Types
import ShadNet.LockProgram
import ShadNet.SlotTable

/-!
# NP state events and their callbacks

Any thread queues events and registers callbacks; one thread dispatches. A dispatch takes the queue
and a copy of the callbacks under both locks, and makes its calls from the copy, one by one, while
the others go on. It is the calls of one dispatch that the next one waits for.
-/

namespace NpManager.StateEvents

open NpHandler Runs Changes

def errorInvalidArgument : Int := orbisError 0x80550003
def errorAlreadyRegistered : Int := orbisError 0x80550008
def errorNotRegistered : Int := orbisError 0x80550009
def errorCallbackMax : Int := orbisError 0x8055001D

inductive NpState where
  | notSignedUp
  | signedOut
  | signedIn
  deriving DecidableEq, Repr

inductive Reachability where
  | unavailable
  | available
  | reachable
  deriving DecidableEq, Repr

/-- `PendingNpStateEvent`; the NP id is the one of the user when the event was queued. -/
structure Event where
  userId : Int
  state : NpState
  npId : Option Nat
  deriving DecidableEq, Repr

/-- A function with its data; zero is the null pointer. -/
structure Callback where
  func : Nat := 0
  userdata : Nat := 0
  deriving DecidableEq, Repr

structure CallbackA where
  func : Nat := 0
  userdata : Nat := 0
  inUse : Bool := false
  deriving DecidableEq, Repr

/-- A registered state callback. -/
inductive Target where
  | legacy (cb : Callback)
  | a (id : Nat) (cb : Callback)
  | toolkit (cb : Callback)
  deriving DecidableEq, Repr

def Target.isLegacy : Target → Bool
  | .legacy _ => true
  | _ => false

def Target.isToolkit : Target → Bool
  | .toolkit _ => true
  | _ => false

def Target.hasId (callbackId : Nat) : Target → Bool
  | .a id _ => id = callbackId
  | _ => false

/-- A call of a callback. The legacy one is given the NP id as well; `registration` is the number of
the registration of the reachability callback. -/
inductive Notice where
  | state (target : Target) (event : Event)
  | reach (registration : Nat) (cb : Callback) (userId : Int) (state : Reachability)
  deriving DecidableEq, Repr

def Notice.isState : Notice → Bool
  | .state _ _ => true
  | .reach _ _ _ _ => false

/-- What one dispatch took: the events, the callbacks that were registered, and the registration of
the reachability callback. -/
structure Batch where
  events : List Event
  registered : List Target
  registration : Option Nat
  calls : List Notice
  deriving DecidableEq, Repr

/-- The fields from `registration` on are history: the number of registrations of the reachability
callback, the state callbacks that were registered and not unregistered, the events ever queued,
the batches taken and the calls made. -/
structure State where
  queue : List Event := []
  legacy : Callback := {}
  toolkit : Callback := {}
  callbacks : List CallbackA := List.replicate 8 {}
  reachability : Callback := {}
  last : Int → Option Reachability := fun _ => none
  toCall : List Notice := []
  registration : Nat := 0
  registered : List Target := []
  queued : List Event := []
  batches : List Batch := []
  called : List Notice := []

/-! ## Events -/

/-- `npId` is what the handler knows for the user. -/
def queueNpStateEvent (userId : Int) (state : NpState) (npId : Nat) (s : State) : State :=
  let event := ⟨userId, state, if state = .signedIn then some npId else none⟩
  { s with queue := s.queue ++ [event], queued := s.queued ++ [event] }

/-! ## Registering

Every function is given with the code it returns. -/

def sceNpRegisterNpReachabilityStateCallback (cb : Callback) (s : State) : Int × State :=
  if cb.func = 0 then (errorInvalidArgument, s)
  else if s.reachability.func ≠ 0 then (errorAlreadyRegistered, s)
  else
    (orbisOk,
      { s with reachability := cb, last := fun _ => none, registration := s.registration + 1 })

def sceNpUnregisterNpReachabilityStateCallback (s : State) : Int × State :=
  if s.reachability.func = 0 then (errorNotRegistered, s)
  else (orbisOk, { s with reachability := {}, last := fun _ => none })

def sceNpRegisterStateCallbackForToolkit (cb : Callback) (s : State) : Int × State :=
  if cb.func = 0 then (errorInvalidArgument, s)
  else if s.toolkit.func ≠ 0 then (errorAlreadyRegistered, s)
  else (orbisOk, { s with toolkit := cb })

def sceNpUnregisterStateCallbackForToolkit (s : State) : Int × State :=
  if s.toolkit.func = 0 then (errorNotRegistered, s) else (orbisOk, { s with toolkit := {} })

def sceNpRegisterStateCallback (cb : Callback) (s : State) : Int × State :=
  if cb.func = 0 then (errorInvalidArgument, s)
  else if s.legacy.func ≠ 0 then (errorAlreadyRegistered, s)
  else (orbisOk, { s with legacy := cb })

def sceNpUnregisterStateCallback (s : State) : Int × State :=
  if s.legacy.func = 0 then (errorNotRegistered, s) else (orbisOk, { s with legacy := {} })

def sceNpRegisterStateCallbackA (cb : Callback) (s : State) : Int × State :=
  if cb.func = 0 then (errorInvalidArgument, s)
  else if s.callbacks.any (fun entry => entry.inUse && entry.func == cb.func) then
    (errorAlreadyRegistered, s)
  else
    let i := SlotTable.free CallbackA.inUse s.callbacks
    if i < s.callbacks.length then
      ((i + 1 : Nat), { s with callbacks := s.callbacks.set i ⟨cb.func, cb.userdata, true⟩ })
    else (errorCallbackMax, s)

def sceNpUnregisterStateCallbackA (callbackId : Int) (s : State) : Int × State :=
  if callbackId ≤ 0 ∨ callbackId > s.callbacks.length then (errorInvalidArgument, s)
  else
    match s.callbacks[(callbackId - 1).toNat]? with
    | none => (errorInvalidArgument, s)
    | some entry =>
      if entry.inUse then (orbisOk, { s with callbacks := s.callbacks.set (callbackId - 1).toNat {} })
      else (errorNotRegistered, s)

/-! ## Dispatching -/

/-- The entries of the A callbacks that are called, with their ids; the first one has the id `id`. -/
def targetsFrom (id : Nat) : List CallbackA → List Target
  | [] => []
  | entry :: rest =>
    (if entry.inUse && entry.func ≠ 0 then [.a id ⟨entry.func, entry.userdata⟩] else []) ++
      targetsFrom (id + 1) rest

/-- The state callbacks that the copies hold, in the order in which they are called. -/
def State.targets (s : State) : List Target :=
  (if s.legacy.func ≠ 0 then [.legacy s.legacy] else []) ++ targetsFrom 1 s.callbacks ++
    (if s.toolkit.func ≠ 0 then [.toolkit s.toolkit] else [])

def reach (event : Event) : Int × Reachability :=
  (event.userId, if event.state = .signedIn then .reachable else .unavailable)

/-- The reachability changes of the queue, and the last states behind them. -/
def State.changes (s : State) : List (Int × Reachability) × (Int → Option Reachability) :=
  if s.reachability.func ≠ 0 then report s.last (s.queue.map reach) else ([], s.last)

/-- The calls of a dispatch: all callbacks for one event after the other, then the changes. -/
def State.dispatchCalls (s : State) : List Notice :=
  s.queue.flatMap (fun event => s.targets.map (fun target => .state target event)) ++
    s.changes.1.map (fun change => .reach s.registration s.reachability change.1 change.2)

/-- The locked part of `DispatchPendingNpStateCallbacks`; the thread is done with the calls of the
dispatch before. -/
def takeBatch (s : State) : State :=
  if s.toCall ≠ [] ∨ s.queue = [] then s
  else
    { s with
      queue := []
      last := s.changes.2
      toCall := s.dispatchCalls
      batches := s.batches ++
        [{ events := s.queue
           registered := s.registered
           registration := if s.reachability.func ≠ 0 then some s.registration else none
           calls := s.dispatchCalls }] }

/-- The next call of the dispatch. -/
def callNext (s : State) : State :=
  match s.toCall with
  | [] => s
  | notice :: rest => { s with toCall := rest, called := s.called ++ [notice] }

/-! ## The machine -/

inductive Op where
  | queue (userId : Int) (state : NpState) (npId : Nat)
  | registerReachability (cb : Callback)
  | unregisterReachability
  | registerToolkit (cb : Callback)
  | unregisterToolkit
  | registerState (cb : Callback)
  | unregisterState
  | registerA (cb : Callback)
  | unregisterA (callbackId : Int)
  | dispatch
  | call
  deriving DecidableEq, Repr

/-- The callbacks that are registered, told by what the functions return. -/
def registeredAfter (op : Op) (code : Int) (registered : List Target) : List Target :=
  match op with
  | .registerToolkit cb => if code = orbisOk then registered ++ [.toolkit cb] else registered
  | .unregisterToolkit =>
    if code = orbisOk then registered.filter (!·.isToolkit) else registered
  | .registerState cb => if code = orbisOk then registered ++ [.legacy cb] else registered
  | .unregisterState =>
    if code = orbisOk then registered.filter (!·.isLegacy) else registered
  | .registerA cb => if 0 < code then registered ++ [.a code.toNat cb] else registered
  | .unregisterA callbackId =>
    if code = orbisOk then registered.filter (!·.hasId callbackId.toNat) else registered
  | _ => registered

def perform : Op → State → Int × State
  | .queue userId state npId, s => (orbisOk, queueNpStateEvent userId state npId s)
  | .registerReachability cb, s => sceNpRegisterNpReachabilityStateCallback cb s
  | .unregisterReachability, s => sceNpUnregisterNpReachabilityStateCallback s
  | .registerToolkit cb, s => sceNpRegisterStateCallbackForToolkit cb s
  | .unregisterToolkit, s => sceNpUnregisterStateCallbackForToolkit s
  | .registerState cb, s => sceNpRegisterStateCallback cb s
  | .unregisterState, s => sceNpUnregisterStateCallback s
  | .registerA cb, s => sceNpRegisterStateCallbackA cb s
  | .unregisterA callbackId, s => sceNpUnregisterStateCallbackA callbackId s
  | .dispatch, s => (orbisOk, takeBatch s)
  | .call, s => (orbisOk, callNext s)

def step (op : Op) (s : State) : State :=
  { (perform op s).2 with registered := registeredAfter op (perform op s).1 s.registered }

def after (ops : List Op) : State := run step ops {}

/-! ## The law -/

/-- What the reachability callback is told under one registration. -/
def Notice.told (registration : Nat) : Notice → Option (Int × Reachability)
  | .reach n _ userId reached => if n = registration then some (userId, reached) else none
  | .state _ _ => none

def toldOf (registration : Nat) (userId : Int) (notices : List Notice) : List Reachability :=
  valuesOf userId (notices.filterMap (Notice.told registration))

/-- The states of a user in the batches that were taken under a registration. -/
def statesOf (registration : Nat) (userId : Int) (batches : List Batch) : List Reachability :=
  (batches.filter (fun batch => batch.registration = some registration)).flatMap
    fun batch => valuesOf userId (batch.events.map reach)

/-- The calls that a batch is due: every callback that was registered once, for one event after the
other, and none of another reachability callback. -/
structure Batch.Exact (batch : Batch) : Prop where
  calls : ∃ targets : List Target, targets.Perm batch.registered ∧
    batch.calls.filter Notice.isState =
      batch.events.flatMap fun event => targets.map fun target => .state target event
  reach : ∀ n cb userId state, .reach n cb userId state ∈ batch.calls →
    batch.registration = some n

/-- Every event is in one batch or still in the queue; the calls made and those of the dispatch that
is under way are those of the batches; and a user's notices are the changes of the user's states. -/
structure Lawful (s : State) : Prop where
  batched : s.batches.flatMap Batch.events ++ s.queue = s.queued
  called : s.called ++ s.toCall = s.batches.flatMap Batch.calls
  exact : ∀ batch ∈ s.batches, batch.Exact
  told : ∀ registration userId,
    toldOf registration userId s.called ++ toldOf registration userId s.toCall =
      (statesOf registration userId s.batches).destutter (· ≠ ·)

end NpManager.StateEvents
