import ShadNet.Handler.Replies

/-!
# The critical sections of the handler

Each function below is what is done under one lock, or by one access that takes
none. `Section` names them in the schedules of interleaved runs, and `Step` says
once which of them there are.
-/

namespace NpHandler

open LockProgram HandlerState

/-- `call` numbers the library call or the reply that a section belongs to. -/
inductive Section where
  | begin (call : Nat) (request : RequestId)
  | submit (call client : Nat) (family : Family) (ref : Nat)
  | register (entry : PendingRequest)
  | finish (call ref : Nat)
  | rejectComment (call ref : Nat)
  | submitFailed (call ref : Nat)
  | take (call client : Nat) (family : Family) (pktId : Nat) (reply : Reply)
  | prepare (call : Nat) (reply : Reply) (entry : PendingRequest)
  | store (call ref : Nat)
  | complete (call ref : Nat)
  | abort (request : RequestId) (found : Option Nat)
  | delete (request : RequestId)
  | deleteTitle (library : Library) (titleId : Nat)
  | disconnect (call : Nat) (userId : Int)
  | sweep (call : Nat) (userId : Int) (family : Family)
  | other
  deriving DecidableEq, Repr

abbrev Handler (α : Type) := Prog HandlerState Section α

abbrev reads {α : Type} (read : HandlerState → α) : Handler α :=
  Prog.locked .other (fun s => (read s, s))

abbrev updates (body : HandlerState → HandlerState) : Handler Unit :=
  Prog.update .other body

/-! ## Results -/

/-- A result, and the operation it is the result of; an abort ends the object for none. -/
structure Outcome where
  result : Int
  call : Option Nat
  deriving DecidableEq, Repr

/-- `SetResult`: the first result stays. -/
def setResult (ref : Nat) (r : Outcome) (s : HandlerState) : HandlerState :=
  s.withRequest ref (fun ctx =>
    if ctx.result.isSome then ctx else { ctx with result := some r.result, resultOf := r.call })

/-! ## Operations -/

def markBegun (call ref : Nat) (s : HandlerState) : HandlerState :=
  { s with starting := s.starting ++ [(call, ref)], begun := s.begun ++ [ref] }

def started (call ref : Nat) (s : HandlerState) : HandlerState :=
  { s with starting := s.starting.filter (· ≠ (call, ref)) }

def RequestCtx.begin (call : Nat) (ctx : RequestCtx) : RequestCtx :=
  { ctx with result := none, resultOf := none, lastCall := call }

/-- What `BeginOp` does; the object is done with the packets sent for it before. -/
def rebegin (call ref : Nat) (s : HandlerState) : HandlerState :=
  { s.withRequest ref (RequestCtx.begin call) with
    superseded := s.superseded ++ s.sent.filter (fun submission => decide (submission.req = ref)) }

/-- The lookup of a score request and its `BeginOp`, both under `g_mutex`. -/
def beginScore (call reqId : Nat) (s : HandlerState) : Except Int Nat × HandlerState :=
  match KeyedTable.lookup ScoreRequest.reqId reqId s.scoreRequests with
  | none => (.error communityInvalidId, s)
  | some row =>
    if s.result? row.ref = some communityAborted then (.error communityAborted, s)
    else (.ok row.ref, markBegun call row.ref (rebegin call row.ref s))

/-- `std::make_shared` of a request context. -/
def newObject (call : Nat) (request : RequestId) (s : HandlerState) : Nat × HandlerState :=
  (s.nextRef,
    { s with
      nextRef := s.nextRef + 1
      requests := s.requests ++ [{ ref := s.nextRef, request, lastCall := call }] })

/-- `req->ctx = ctx` of a TUS operation; a row that was erased meanwhile keeps nothing. -/
def beginTus (call reqId : Nat) (s : HandlerState) : Nat × HandlerState :=
  let (ref, s) := newObject call ⟨.tus, reqId⟩ s
  (ref, markBegun call ref
    { s with
      tusRequests := KeyedTable.adjust NpTusRequest.reqId reqId
        (fun row => { row with ctx := some ref }) s.tusRequests })

/-- An authorization or a trophy sync: the object is made by the one call that uses it. -/
def beginOwn (call : Nat) (library : Library) (s : HandlerState) : Nat × HandlerState :=
  let (ref, s) := newObject call ⟨library, call⟩ s
  (ref, markBegun call ref s)

def finish (call ref : Nat) (r : Int) (s : HandlerState) : HandlerState :=
  started call ref (setResult ref ⟨r, some call⟩ s)

/-- `FakeAsyncComplete`. -/
def fakeAsyncComplete (call reqId : Nat) (s : HandlerState) : Int × HandlerState :=
  match s.tusRequest? reqId with
  | none => (communityInvalidId, s)
  | some _ =>
    let (ref, s) := beginTus call reqId s
    (orbisOk, finish call ref orbisOk s)

/-! ## Packets -/

/-- `ShadNetClient::SubmitRequest`: the packet takes the next number of its client. -/
def submitRequest (call clientId : Nat) (message : Message) (ref : Nat) (s : HandlerState) :
    Nat × HandlerState :=
  match s.client? clientId with
  | none => (0, s)
  | some client =>
    let submission : Submission := ⟨call, clientId, message, client.pktCounter, ref⟩
    (client.pktCounter,
      { s with
        clients := KeyedTable.adjust ShadNetClient.clientId clientId
          (fun client => { client with pktCounter := client.pktCounter + 1 }) s.clients
        sent := s.sent ++ [submission]
        submitting := s.submitting ++ [submission] })

/-- A packet whose reply nobody waits for. -/
def submitUnanswered (clientId : Nat) (s : HandlerState) : HandlerState :=
  { s with
    clients := KeyedTable.adjust ShadNetClient.clientId clientId
      (fun client => { client with pktCounter := client.pktCounter + 1 }) s.clients }

/-- `emplace`: an entry that is there already stays. -/
def register (entry : PendingRequest) (s : HandlerState) : HandlerState :=
  started entry.call entry.req
    { s with
      pending := if (s.pending? entry.family entry.pktId).isSome then s.pending
        else s.pending ++ [entry]
      submitting := s.submitting.filter (fun submission => decide (submission.call ≠ entry.call)) }

/-! ## Replies -/

/-- Finding the entry of a reply and erasing it. -/
def takePending (call client : Nat) (family : Family) (pktId : Nat) (reply : Reply)
    (s : HandlerState) : Option PendingRequest × HandlerState :=
  let s := { s with answered := s.answered ++ [(client, pktId)] }
  match s.pending? family pktId with
  | none =>
    (none, { s with
      dropped := s.dropped ++ [(client, pktId)]
      handled := s.handled ++ [(client, pktId)] })
  | some entry =>
    (some entry,
      { s with
        pending := KeyedTable.remove PendingRequest.key (family, pktId) s.pending
        routed := s.routed ++ [⟨call, client, family, pktId, reply, entry⟩]
        carried := s.carried ++ [(call, entry.req)]
        inHand := s.inHand ++ [⟨call, client, family, pktId, reply, entry⟩] })

def tmpRankOut? (ref : Nat) (s : HandlerState) : Option Pointer :=
  (s.request? ref).bind (·.tmpRankOut)

/-- The mark of a reply that has these stores to make. -/
def storing (call ref : Nat) (stores : List Store) : List (Nat × Nat) :=
  if stores = [] then [] else [(call, ref)]

/-- The place of the rank is read from the request; from here on it is settled what the reply has
to store. -/
def prepare (pb : ShadNetProto) (call : Nat) (reply : Reply) (entry : PendingRequest)
    (s : HandlerState) : Completion × HandlerState :=
  let c := completion pb entry.family reply entry.outputs (tmpRankOut? entry.req s)
  (c, { s with
    rankPlaces := s.rankPlaces ++ (tmpRankOut? entry.req s).toList.map (⟨call, entry.req, ·⟩)
    writing := s.writing ++ storing call entry.req c.stores })

def isDead (ref : Nat) (s : HandlerState) : Bool :=
  match s.owner? ref with
  | some request => request ∈ s.dead
  | none => false

/-- A reply puts something into a buffer of the caller; `last` when it has no more. -/
def replyStore (call ref : Nat) (store : Store) (last : Bool) (s : HandlerState) :
    HandlerState :=
  { s with
    stores := s.stores ++ [store]
    replyStores := s.replyStores ++ [⟨call, ref, store, isDead ref s⟩]
    writing := if last then s.writing.filter (· ≠ (call, ref)) else s.writing }

def keepRecv (ref : Nat) (recv : Option (Nat × Bytes)) (s : HandlerState) : HandlerState :=
  match recv with
  | none => s
  | some (offset, cache) =>
    s.withRequest ref (fun ctx => { ctx with recv := { ctx.recv with offset, cache } })

def replied (call client pktId ref : Nat) (s : HandlerState) : HandlerState :=
  { s with
    carried := s.carried.filter (· ≠ (call, ref))
    inHand := s.inHand.filter (fun r => decide (r.call ≠ call))
    writing := s.writing.filter (· ≠ (call, ref))
    handled := s.handled ++ [(client, pktId)] }

def complete (call client : Nat) (entry : PendingRequest) (r : Int) (s : HandlerState) :
    HandlerState :=
  let late := isDead entry.req s && (s.result? entry.req).isNone
  let s := replied call client entry.pktId entry.req
    (setResult entry.req ⟨r, some entry.call⟩ s)
  { s with completed := s.completed ++ [⟨call, entry.req, r, late⟩] }

/-- `AuthRequestCtx::SetAuthorizationCode`: a code is kept only before the first result. -/
def setAuthorizationCode (call ref : Nat) (stores : List Store) (s : HandlerState) :
    HandlerState :=
  if (s.result? ref).isSome then s
  else
    { s with
      stores := s.stores ++ stores
      replyStores := s.replyStores ++ stores.map (⟨call, ref, ·, isDead ref s⟩) }

/-- `SetAuthorizationCode` and `SetResult`, under one lock. -/
def completeAuth (call client : Nat) (entry : PendingRequest) (c : Completion)
    (s : HandlerState) : HandlerState :=
  complete call client entry c.result (setAuthorizationCode call entry.req c.stores s)

/-! ## Abort and deletion -/

/-- `SetResult(ABORTED)` for the object that was looked up, if there was one. -/
def kill (request : RequestId) (found : Option Nat) (aborted : Int) (s : HandlerState) :
    HandlerState :=
  let s := found.toList.foldl (fun s ref => setResult ref ⟨aborted, none⟩ s) s
  { s with dead := s.dead ++ [request] }

def eraseRequest (request : RequestId) (s : HandlerState) : HandlerState :=
  match request.library with
  | .score =>
    { s with scoreRequests := KeyedTable.remove ScoreRequest.reqId request.id s.scoreRequests }
  | .tus => { s with tusRequests := KeyedTable.remove NpTusRequest.reqId request.id s.tusRequests }
  | .auth | .trophy => s

/-- Deleting a request aborts the operation it has and drops its row. -/
def killAndErase (request : RequestId) (s : HandlerState) : HandlerState :=
  eraseRequest request (kill request (s.current? request) communityAborted s)

def requestExists (request : RequestId) (s : HandlerState) : Bool :=
  match request.library with
  | .score => (KeyedTable.lookup ScoreRequest.reqId request.id s.scoreRequests).isSome
  | .tus => (s.tusRequest? request.id).isSome
  | .auth | .trophy => false

def deleteRequest (request : RequestId) (s : HandlerState) : Int × HandlerState :=
  if requestExists request s then (orbisOk, killAndErase request s) else (communityInvalidId, s)

/-- The requests of a title context, in table order. -/
def requestsOfTitle (library : Library) (titleId : Nat) (s : HandlerState) : List RequestId :=
  match library with
  | .score =>
    (s.scoreRequests.filter (fun row =>
      decide ((s.request? row.ref).map (·.titleCtxId) = some titleId))).map (⟨.score, ·.reqId⟩)
  | .tus => (s.tusRequests.filter (fun row => decide (row.titleCtxId = titleId))).map (⟨.tus, ·.reqId⟩)
  | .auth | .trophy => []

def titleExists (library : Library) (titleId : Nat) (s : HandlerState) : Bool :=
  match library with
  | .score => (s.scoreTitle? titleId).isSome
  | .tus => (s.tusTitle? titleId).isSome
  | .auth | .trophy => false

def eraseTitle (titleId : Nat) (library : Library) (s : HandlerState) : HandlerState :=
  match library with
  | .score => { s with scoreTitleCtxs := KeyedTable.remove ScoreTitleCtx.id titleId s.scoreTitleCtxs }
  | .tus => { s with tusTitleCtxs := KeyedTable.remove NpTusTitleContext.id titleId s.tusTitleCtxs }
  | .auth | .trophy => s

def deleteTitle (library : Library) (titleId : Nat) (s : HandlerState) : Int × HandlerState :=
  if titleExists library titleId s then
    (orbisOk, eraseTitle titleId library
      ((requestsOfTitle library titleId s).foldl (fun s request => killAndErase request s) s))
  else (communityInvalidId, s)

/-! ## Users -/

/-- The families `FailPendingRequests` goes through, in its order. -/
def sweptFamilies : List Family := [.tus, .score, .auth]

def addSession (userId : Int) (npId : Bytes) (accountId : Int) (s : HandlerState) :
    HandlerState :=
  let clientId := s.clients.length
  { s with
    clients := s.clients ++ [{ clientId, userId, npId, accountId }]
    npIds := KeyedTable.store UserNpId.userId ⟨userId, npId.take 16⟩ s.npIds
    sessions := KeyedTable.store Session.userId ⟨userId, clientId⟩ s.sessions }

/-- The user is disconnected from the clients made so far. -/
def cutOff (call : Nat) (userId : Int) (s : HandlerState) : HandlerState :=
  { s with cuts := s.cuts ++ [⟨call, userId, s.clients.length⟩] }

/-- The first section of `DisconnectUser`, with the client that was there. -/
def removeSession (call : Nat) (userId : Int) (s : HandlerState) : Option Nat × HandlerState :=
  match KeyedTable.lookup Session.userId userId s.sessions with
  | none => (none, cutOff call userId s)
  | some session =>
    (some session.clientId,
      { cutOff call userId s with
        sessions := KeyedTable.remove Session.userId userId s.sessions
        sweeping := s.sweeping ++ sweptFamilies.map (fun family => ⟨call, userId, family⟩) })

def PendingRequest.of (userId : Int) (family : Family) (entry : PendingRequest) : Bool :=
  entry.userId = userId && entry.family = family

/-- One map of `FailPendingRequests`. -/
def sweepPending (call : Nat) (userId : Int) (family : Family) (errorCode : Int)
    (s : HandlerState) : HandlerState :=
  let failed := s.pending.filter (PendingRequest.of userId family)
  let s := failed.foldl (fun s entry => setResult entry.req ⟨errorCode, some entry.call⟩ s) s
  { s with
    pending := s.pending.filter (fun entry => !PendingRequest.of userId family entry)
    sweeping := s.sweeping.filter (· ≠ ⟨call, userId, family⟩) }

end NpHandler
