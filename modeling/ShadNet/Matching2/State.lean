import ShadNet.Signaling.Api

/-!
# The matching2 library state

The context slots, the request and event queues and the shadNet client that
matching2 talks to. The signaling state is a part of it: the signaling functions
run on `Matching2State.np` and see the live contexts through
`ContextObject.signalingView`.
-/

namespace NpMatching2

open LockProgram NpSignaling

/-! ## Events and requests -/

inductive Matching2Event where
  | contextStarted
  | contextStopped
  | createJoinRoom
  | createJoinRoomA
  | joinRoom
  | joinRoomA
  | leaveRoom
  | getWorldInfoList
  | searchRoom
  | searchRoomA
  | getRoomDataExternalList
  | getRoomDataExternalListA
  | getRoomMemberDataExternalList
  | getRoomMemberDataExternalListA
  | getUserInfoList
  | setUserInfo
  | sendRoomMessage
  | setRoomDataInternal
  | setRoomMemberDataInternal
  | setRoomDataExternal
  | kickoutRoomMember
  | getRoomDataInternal
  | getRoomMemberDataInternalA
  | signalingGetPingInfo
  deriving DecidableEq, Repr

def isContextLifecycleEvent (event : Matching2Event) : Bool :=
  event = .contextStarted || event = .contextStopped

inductive RoomEvent where
  | memberJoined
  | memberLeft
  | kickedOut
  | roomDestroyed
  | roomOwnerChanged
  | updatedRoomDataInternal
  | updatedRoomMemberDataInternal
  | other (code : Nat)
  deriving DecidableEq, Repr

inductive ApiError where
  | notInitialized
  | alreadyInitialized
  | invalidArgument
  | invalidContextId
  | contextMax
  | contextAlreadyStarted
  | contextNotStarted
  | resolverTimedOut
  deriving DecidableEq, Repr

/-- A request callback with its argument; no callback is the null pointer. -/
structure RequestCallbackInfo where
  callback : Option Nat := none
  arg : Nat := 0
  deriving DecidableEq, Repr

structure RequestOptParam where
  callback : Option Nat
  arg : Nat
  deriving DecidableEq, Repr

/-- `call` and `issuer` are history variables: which API call made the request, and on which
context object. -/
structure PendingRequest where
  pktId : Nat
  ctxId : Nat
  reqId : UInt32
  reqEvent : Matching2Event
  aVariant : Bool
  request : RequestCallbackInfo
  call : Nat
  issuer : Nat
  deriving DecidableEq, Repr

def kServerNotAvailable : UInt32 := 0x80550C28

/-- The `SIGNALING_CB` events are in `NpSignalingState.matching2Events`. `call` is the history
variable of the request. -/
inductive EventBody where
  | contextCb (event : Matching2Event) (errorCode : UInt32)
  | requestCb (reqId : UInt32) (event : Matching2Event) (errorCode : UInt32)
      (request : RequestCallbackInfo) (hasData : Bool) (call : Nat)
  | roomEventCb (roomId : Nat) (event : RoomEvent)
  | roomMessageCb (roomId srcMemberId : Nat)
  deriving DecidableEq, Repr

/-- `owner` is the object behind `context_owner`. -/
structure PendingEvent where
  ctxId : Nat
  owner : Nat
  body : EventBody
  deriving DecidableEq, Repr

/-! ## Contexts -/

/-- A context object on the heap. `live` tells whether a slot of the `ContextManager` still points
to it; a thread that looked it up before keeps its own pointer. -/
structure ContextObject where
  object : Nat
  ctxId : Nat
  live : Bool := true
  started : Bool := false
  stopPending : Bool := false
  destroyPending : Bool := false
  aVariant : Bool := false
  onlineId : OrbisNpOnlineId
  roomId : Nat := 0
  myMemberId : Nat := 0
  isRoomOwner : Bool := false
  defaultRequest : RequestCallbackInfo := {}
  perRequest : RequestCallbackInfo := {}
  signalingCallback : Bool := false
  deriving DecidableEq, Repr

def ContextObject.signalingView (ctx : ContextObject) : NpSignaling.ContextObject :=
  { ctxId := ctx.ctxId
    object := ctx.object
    started := ctx.started
    stopPending := ctx.stopPending
    destroyPending := ctx.destroyPending
    onlineId := ctx.onlineId
    myMemberId := ctx.myMemberId
    signalingCallback := ctx.signalingCallback }

/-! ## State -/

structure ShadNetClient where
  clientId : Nat
  authenticated : Bool := true
  matching2Enabled : Bool := true
  pktCounter : Nat := 1
  deriving DecidableEq, Repr

/-- `contexts` holds every context object ever made and `clients` every shadNet client. `ready` is
the batch the dispatcher thread has taken off the queue and not fired yet. `scheduled`, `fired`,
`holding`, `returned`, `destroyed` and `freed` are history variables: the events ever queued, the
events whose callbacks were run, the calls inside a `DispatchHold`, the calls that have returned,
the objects whose destruction was accepted, and the objects whose slots were freed. -/
structure Matching2State where
  initialized : Bool := false
  nextRequestId : UInt32 := 1
  pendingEvents : List PendingEvent := []
  dispatchRunning : Bool := false
  dispatchHolds : Nat := 0
  ready : List PendingEvent := []
  contexts : List ContextObject := []
  nextId : Nat := 1
  clients : List ShadNetClient := []
  mmClient : Option Nat := none
  matching2Enabled : Bool := false
  pending : List PendingRequest := []
  active : Bool := false
  np : NpSignalingState := {}
  scheduled : List PendingEvent := []
  fired : List PendingEvent := []
  holding : List Nat := []
  returned : List Nat := []
  destroyed : List Nat := []
  freed : List Nat := []
  deriving DecidableEq, Repr

/-- Names a critical section in the schedules of interleaved runs. -/
inductive Section where
  | storeRequestCallback (call object : Nat)
  | consumeRequestCallback (call object : Nat)
  | registerPending (call pktId : Nat)
  | takePending (pktId : Nat)
  | connectionStatus (ctxId roomId memberId : Nat)
  | signaling (label : LockSection)
  | other
  deriving DecidableEq, Repr

abbrev Matching2 (α : Type) := Prog Matching2State Section α

abbrev reads {α : Type} (read : Matching2State → α) : Matching2 α :=
  Prog.locked .other (fun s => (read s, s))

abbrev updates (body : Matching2State → Matching2State) : Matching2 Unit :=
  Prog.update .other body

namespace Matching2State

/-- What the signaling functions work on. -/
def signalingState (s : Matching2State) : NpSignalingState :=
  { s.np with contextObjects := (s.contexts.filter (·.live)).map (·.signalingView) }

def withSignaling (np : NpSignalingState) (s : Matching2State) : Matching2State := { s with np }

def object? (object : Nat) (s : Matching2State) : Option ContextObject :=
  KeyedTable.lookup ContextObject.object object s.contexts

/-- `ContextManager::Get`: the object in the slot. -/
def context? (ctxId : Nat) (s : Matching2State) : Option ContextObject :=
  s.contexts.find? (fun ctx => ctx.live && ctx.ctxId = ctxId)

def adjustObject (object : Nat) (f : ContextObject → ContextObject) (s : Matching2State) :
    Matching2State :=
  { s with contexts := KeyedTable.adjust ContextObject.object object f s.contexts }

/-- `LockCache`: a missing cache is an empty one. -/
def cache (ctxId : Nat) (s : Matching2State) : Matching2ContextCache :=
  (KeyedTable.lookup Matching2ContextCache.ctxId ctxId s.np.caches).getD { ctxId }

def setCache (cache : Matching2ContextCache) (s : Matching2State) : Matching2State :=
  { s with np := { s.np with
      caches := KeyedTable.store Matching2ContextCache.ctxId cache s.np.caches } }

def client? (clientId : Nat) (s : Matching2State) : Option ShadNetClient :=
  KeyedTable.lookup ShadNetClient.clientId clientId s.clients

def pending? (pktId : Nat) (s : Matching2State) : Option PendingRequest :=
  KeyedTable.lookup PendingRequest.pktId pktId s.pending

theorem context?_adjustObject {s : Matching2State} {object : Nat}
    {f : ContextObject → ContextObject} (live : ∀ ctx, (f ctx).live = ctx.live)
    (ctxId : ∀ ctx, (f ctx).ctxId = ctx.ctxId) (id : Nat) :
    (s.adjustObject object f).context? id =
      (s.context? id).map (fun ctx => if ctx.object = object then f ctx else ctx) := by
  simp only [context?, adjustObject, KeyedTable.adjust, List.find?_map]
  congr 1
  congr 1
  funext ctx
  by_cases same : ctx.object = object <;> simp [same, live, ctxId]

theorem isSome_context?_adjustObject {s : Matching2State} {object : Nat}
    {f : ContextObject → ContextObject} (live : ∀ ctx, (f ctx).live = ctx.live)
    (ctxId : ∀ ctx, (f ctx).ctxId = ctx.ctxId) (id : Nat) :
    ((s.adjustObject object f).context? id).isSome = (s.context? id).isSome := by
  rw [context?_adjustObject live ctxId, Option.isSome_map]

@[simp] theorem object?_adjustObject {s : Matching2State} {object other : Nat}
    {f : ContextObject → ContextObject} (keeps : ∀ ctx, (f ctx).object = ctx.object) :
    (s.adjustObject object f).object? other =
      (s.object? other).map (fun ctx => if ctx.object = object then f ctx else ctx) :=
  KeyedTable.lookup_adjust keeps s.contexts

theorem context?_some {s : Matching2State} {ctxId : Nat} {ctx : ContextObject}
    (found : s.context? ctxId = some ctx) : ctx ∈ s.contexts ∧ ctx.live ∧ ctx.ctxId = ctxId := by
  have passes := List.find?_some found
  exact ⟨List.mem_of_find?_eq_some found, by simpa using passes⟩

end Matching2State

open Matching2State

/-- A signaling function, run on the signaling part of the state. -/
def signaling {α : Type} (p : Signaling α) : Matching2 α :=
  p.zoom signalingState withSignaling Section.signaling

/-! ## The context manager -/

def kMaxContexts : Nat := 10

def resetCache (ctxId : Nat) (s : Matching2State) : Matching2State :=
  { s with np := { s.np with
      caches := KeyedTable.remove Matching2ContextCache.ctxId ctxId s.np.caches } }

/-- The slot the search from `m_next_id` stops at. -/
def freeSlot (s : Matching2State) : Option Nat :=
  ((List.range kMaxContexts).map (fun i => (s.nextId - 1 + i) % kMaxContexts + 1)).find?
    (fun ctxId => (s.context? ctxId).isNone)

def contextManagerCreate (onlineId : OrbisNpOnlineId) (aVariant : Bool) (s : Matching2State) :
    Except ApiError Nat × Matching2State :=
  match freeSlot s with
  | none => (.error .contextMax, s)
  | some ctxId =>
    (.ok ctxId,
      { (resetCache ctxId s).setCache { ctxId } with
        nextId := ctxId % kMaxContexts + 1
        contexts := s.contexts ++ [{ object := s.contexts.length, ctxId, aVariant, onlineId }] })

/-- The slot lets go of its object. -/
def freeContext (ctx : ContextObject) (s : Matching2State) : Matching2State :=
  { (resetCache ctx.ctxId s).adjustObject ctx.object (fun ctx => { ctx with live := false }) with
    freed := s.freed ++ [ctx.object] }

def contextManagerDestroy (ctxId : Nat) (s : Matching2State) : Bool × Matching2State :=
  match s.context? ctxId with
  | none => (false, s)
  | some ctx =>
    let s := { s with destroyed := s.destroyed ++ [ctx.object] }
    if ctx.stopPending then
      (true, s.adjustObject ctx.object (fun ctx => { ctx with destroyPending := true }))
    else (true, freeContext ctx s)

def contextManagerCompleteStop (ctxId expectedContext : Nat) (s : Matching2State) :
    Matching2State :=
  match s.context? ctxId with
  | none => s
  | some ctx =>
    if ctx.object ≠ expectedContext then s
    else
      let s := s.adjustObject ctx.object (fun ctx => { ctx with stopPending := false })
      if ctx.destroyPending then freeContext ctx s else s

def contextManagerStart (ctxId : Nat) (s : Matching2State) :
    Except ApiError Unit × Matching2State :=
  match s.context? ctxId with
  | none => (.error .invalidContextId, s)
  | some ctx =>
    if ctx.started then (.error .contextAlreadyStarted, s)
    else
      (.ok (), s.adjustObject ctx.object (fun ctx =>
        { ctx with started := true, stopPending := false, destroyPending := false }))

def contextManagerStop (ctxId : Nat) (s : Matching2State) :
    Except ApiError Unit × Matching2State :=
  match s.context? ctxId with
  | none => (.error .invalidContextId, s)
  | some ctx =>
    if ctx.started then
      (.ok (), s.adjustObject ctx.object (fun ctx =>
        { ctx with started := false, stopPending := true }))
    else (.error .contextNotStarted, s)

def contextManagerReset (s : Matching2State) : Matching2State :=
  { s with
    contexts := s.contexts.map (fun ctx => { ctx with live := false })
    np := { s.np with caches := [] }
    nextId := 1
    freed := s.freed ++ (s.contexts.filter (·.live)).map (·.object) }

/-! ## Request callbacks and ids -/

def allocRequestId (s : Matching2State) : UInt32 × Matching2State :=
  let following := s.nextRequestId + 1
  (s.nextRequestId, { s with nextRequestId := if following = 0 then 1 else following })

/-- What the options ask for: nothing without a callback. -/
def requestedCallback (requestOpt : Option RequestOptParam) : RequestCallbackInfo :=
  match requestOpt with
  | some opt =>
    match opt.callback with
    | some callback => ⟨some callback, opt.arg⟩
    | none => {}
  | none => {}

def storeRequestCallback (object : Nat) (requestOpt : Option RequestOptParam)
    (s : Matching2State) : Matching2State :=
  s.adjustObject object (fun ctx => { ctx with perRequest := requestedCallback requestOpt })

def consumeRequestCallback (object : Nat) (s : Matching2State) :
    RequestCallbackInfo × Matching2State :=
  match s.object? object with
  | none => ({}, s)
  | some ctx =>
    if ctx.perRequest.callback.isSome then
      (ctx.perRequest, s.adjustObject object (fun ctx => { ctx with perRequest := {} }))
    else (ctx.defaultRequest, s)

/-! ## The event dispatcher -/

def scheduleEvent (ev : PendingEvent) (s : Matching2State) : Matching2State :=
  { s with pendingEvents := s.pendingEvents ++ [ev], scheduled := s.scheduled ++ [ev] }

def dispatchHold (call : Nat) (s : Matching2State) : Matching2State :=
  { s with dispatchHolds := s.dispatchHolds + 1, holding := s.holding ++ [call] }

/-- The destructor of the hold is the last thing its call does. -/
def dispatchRelease (call : Nat) (s : Matching2State) : Matching2State :=
  { s with
    dispatchHolds := s.dispatchHolds - 1
    holding := s.holding.erase call
    returned := s.returned ++ [call] }

/-- One round of the dispatcher: every event is due as soon as it is queued. -/
def takeReady (s : Matching2State) : Matching2State :=
  if s.dispatchRunning ∧ s.dispatchHolds = 0 ∧ s.ready = [] then
    { s with ready := s.pendingEvents, pendingEvents := [] }
  else s

/-- `FireEvent` for the next event of the batch. -/
def fireEvent (s : Matching2State) : Matching2State :=
  match s.ready with
  | [] => s
  | ev :: rest =>
    let s := { s with ready := rest, fired := s.fired ++ [ev] }
    match ev.body with
    | .contextCb .contextStopped _ => contextManagerCompleteStop ev.ctxId ev.owner s
    | _ => s

def initEventDispatcher (threadOk : Bool) (s : Matching2State) : Matching2State :=
  if s.dispatchRunning then s else { s with dispatchRunning := threadOk }

/-- The thread is joined after the batch it was firing. -/
def termEventDispatcher (s : Matching2State) : Matching2State :=
  if s.dispatchRunning then { s with dispatchRunning := false, pendingEvents := [] } else s

end NpMatching2
