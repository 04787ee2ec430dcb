import ShadNet.Handler.Replies
import ShadNet.Slots

/-!
# Authorization requests

The table of the requests, the results they share with the threads that wait for them, and the
pending map of the handler are under three mutexes; every critical section is one step. Requests
get the least id that is free, so an id comes back as soon as its request is deleted.
-/

namespace NpAuth

open NpHandler Runs

def authAborted : Int := orbisError 0x80550304
def authRequestMax : Int := orbisError 0x80550305
def authRequestNotFound : Int := orbisError 0x80550306
def authInvalidId : Int := orbisError 0x80550307

def requestLimit : Nat := 0x10
def requestIdOffset : Int := 0x10000000

def pollAsyncRetFinished : Int := 0
def pollAsyncRetRunning : Int := 1

/-! ## Requests and their results -/

/-- `reqId` and `serial` are history: the id of the request it was started for, and the number of
that request in the order of their creation. -/
structure AuthRequestCtx where
  result : Option Int := none
  outputs : Outputs := {}
  reqId : Int
  serial : Nat
  deriving DecidableEq, Repr

/-- A row of `g_auth_requests`. -/
structure NpAuthRequest where
  reqId : Int
  async : Bool
  aborted : Bool := false
  ctx : Option Nat := none
  serial : Nat
  deriving DecidableEq, Repr

/-- What one reply has put into the buffers of a caller. -/
structure Written where
  ref : Nat
  stores : List Store
  deriving DecidableEq, Repr

/-- Contexts are shared objects, known by their place in `ctxs`. The fields from `nextSerial` on
are history: what was written into buffers, the results that polls and waits have reported, the
requests aborted or deleted and those deleted. -/
structure Table where
  requests : List NpAuthRequest := []
  ctxs : List AuthRequestCtx := []
  nextSerial : Nat := 0
  written : List Written := []
  reports : List (Nat × Int) := []
  dead : List Nat := []
  deleted : List Nat := []
  deriving DecidableEq, Repr

namespace AuthRequestCtx

/-- `SetResult`: the first result stays. -/
def setResult (r : Int) (ctx : AuthRequestCtx) : AuthRequestCtx :=
  { ctx with result := ctx.result.or (some r) }

end AuthRequestCtx

namespace Table

def result? (ref : Nat) (s : Table) : Option Int := (s.ctxs[ref]?).bind (·.result)

def setResult (ref : Nat) (r : Int) (s : Table) : Table :=
  { s with ctxs := s.ctxs.modify ref (·.setResult r) }

/-- `SetAuthorizationCode`; the code is written with the result, under one lock. -/
def setAuthorizationCode (ref : Nat) (stores : List Store) (s : Table) : Table :=
  match s.result? ref with
  | some _ => s
  | none => { s.setResult ref orbisOk with written := s.written ++ [⟨ref, stores⟩] }

/-- The ids that the loop of `CreateNpAuthRequest` tries. -/
def candidates (s : Table) : List Int :=
  (List.range (s.requests.length + 1)).map (fun n : Nat => requestIdOffset + 1 + n)

def freeId (s : Table) : Int :=
  (s.candidates.find? (fun id => !(s.requests.map (·.reqId)).contains id)).getD 0

def createNpAuthRequest (async : Bool) (s : Table) : Int × Table :=
  if s.requests.length = requestLimit then (authRequestMax, s)
  else
    (s.freeId,
      { s with
        requests := KeyedTable.store NpAuthRequest.reqId
          { reqId := s.freeId, async, serial := s.nextSerial } s.requests
        nextSerial := s.nextSerial + 1 })

def findRequest (reqId : Int) (s : Table) : Except Int NpAuthRequest :=
  if reqId ≤ 0 then .error authInvalidArgument
  else
    match KeyedTable.lookup NpAuthRequest.reqId reqId s.requests with
    | none => .error authRequestNotFound
    | some request => .ok request

/-- `StartRequest`; the new context is the last one. -/
def startRequest (reqId : Int) (s : Table) : Except Int (Bool × Nat) × Table :=
  match s.findRequest reqId with
  | .error error => (.error error, s)
  | .ok request =>
    if request.ctx ≠ none then (.error authInvalidArgument, s)
    else if request.aborted = true then (.error authAborted, s)
    else
      (.ok (request.async, s.ctxs.length),
        { s with
          requests := KeyedTable.store NpAuthRequest.reqId
            { request with ctx := some s.ctxs.length } s.requests
          ctxs := s.ctxs ++ [{ reqId := request.reqId, serial := request.serial }] })

def abortRequest (reqId : Int) (s : Table) : Int × Table :=
  match s.findRequest reqId with
  | .error error => (error, s)
  | .ok request =>
    match request.ctx with
    | some ref =>
      (orbisOk, { s.setResult ref authAborted with dead := s.dead ++ [request.serial] })
    | none =>
      (orbisOk,
        { s with
          requests := KeyedTable.store NpAuthRequest.reqId { request with aborted := true }
            s.requests
          dead := s.dead ++ [request.serial] })

def findAsyncRequest (reqId : Int) (s : Table) : Except Int Nat :=
  match s.findRequest reqId with
  | .error error => .error error
  | .ok request =>
    match request.async, request.ctx with
    | true, some ref => .ok ref
    | _, _ => .error authInvalidId

def deleteRequest (reqId : Int) (s : Table) : Int × Table :=
  match s.findRequest reqId with
  | .error error => (error, s)
  | .ok request =>
    let s := match request.ctx with
      | some ref => s.setResult ref authAborted
      | none => s
    (orbisOk,
      { s with
        requests := KeyedTable.remove NpAuthRequest.reqId reqId s.requests
        dead := s.dead ++ [request.serial]
        deleted := s.deleted ++ [request.serial] })

/-- The end of `OnAuthReply` for the context it found. -/
def complete (pb : ShadNetProto) (ref : Nat) (reply : Reply) (s : Table) : Table :=
  match s.ctxs[ref]? with
  | none => s
  | some ctx =>
    if (authCompletion pb reply ctx.outputs).result = orbisOk then
      s.setAuthorizationCode ref (authCompletion pb reply ctx.outputs).stores
    else s.setResult ref (authCompletion pb reply ctx.outputs).result

def report (ref : Nat) (r : Int) (s : Table) : Table :=
  { s with reports := s.reports ++ [(ref, r)] }

end Table

/-! ## Packets and the pending map -/

structure PendingAuthRequest where
  pktId : Nat
  req : Nat
  userId : Int
  client : Nat
  deriving DecidableEq, Repr

structure AuthClient where
  clientId : Nat
  authenticated : Bool := true
  pktCounter : Nat := 1
  deriving DecidableEq, Repr

structure AuthSession where
  userId : Int
  clientId : Nat
  deriving DecidableEq, Repr

/-- A packet of a client and the context it was sent for, or the context that a reply to it has
found. -/
structure PacketOf where
  client : Nat
  pktId : Nat
  ref : Nat
  deriving DecidableEq, Repr

/-- `sent` and `routed` are history, and so is the client in a pending entry. -/
structure Wire where
  sessions : List AuthSession := []
  clients : List AuthClient := []
  pending : List PendingAuthRequest := []
  sent : List PacketOf := []
  routed : List PacketOf := []
  deriving DecidableEq, Repr

namespace Wire

def client? (clientId : Nat) (s : Wire) : Option AuthClient :=
  KeyedTable.lookup AuthClient.clientId clientId s.clients

def sessionClient? (userId : Int) (s : Wire) : Option Nat :=
  (KeyedTable.lookup AuthSession.userId userId s.sessions).map (·.clientId)

def isAuthenticated (clientId : Nat) (s : Wire) : Bool :=
  ((s.client? clientId).map (·.authenticated)).getD false

def pending? (pktId : Nat) (s : Wire) : Option PendingAuthRequest :=
  KeyedTable.lookup PendingAuthRequest.pktId pktId s.pending

/-- `m_pending_auth.emplace(pkt_id, p)`: an entry that is there stays. -/
def emplace (entry : PendingAuthRequest) (s : Wire) : Wire :=
  if (s.pending? entry.pktId).isSome then s else { s with pending := s.pending ++ [entry] }

def countPacket (clientId : Nat) (s : Wire) : Wire :=
  { s with
    clients := KeyedTable.adjust AuthClient.clientId clientId
      (fun client => { client with pktCounter := client.pktCounter + 1 }) s.clients }

/-- `client->GetAuthorizationCode` and the entry of its packet, under one lock. -/
def submit (clientId : Nat) (userId : Int) (ref : Nat) (s : Wire) : Wire :=
  match s.client? clientId with
  | none => s
  | some client =>
    emplace ⟨client.pktCounter, ref, userId, clientId⟩
      { s.countPacket clientId with sent := s.sent ++ [⟨clientId, client.pktCounter, ref⟩] }

/-- The first section of `OnAuthReply`. -/
def take (clientId pktId : Nat) (s : Wire) : Option Nat × Wire :=
  match s.pending? pktId with
  | none => (none, s)
  | some entry =>
    (some entry.req,
      { s with
        pending := KeyedTable.remove PendingAuthRequest.pktId pktId s.pending
        routed := s.routed ++ [⟨clientId, pktId, entry.req⟩] })

def connect (userId : Int) (s : Wire) : Wire :=
  { s with
    clients := s.clients ++ [{ clientId := s.clients.length }]
    sessions := KeyedTable.store AuthSession.userId ⟨userId, s.clients.length⟩ s.sessions }

def loseConnection (clientId : Nat) (s : Wire) : Wire :=
  { s with
    clients := KeyedTable.adjust AuthClient.clientId clientId
      (fun client => { client with authenticated := false }) s.clients }

end Wire

/-! ## Threads -/

/-- What a thread does next; `ret` is what its last call returned. -/
inductive Thread where
  | idle (ret : Int)
  | creates (async : Bool)
  | starts (reqId userId : Int) (outputs : Outputs)
  | startsToken (reqId : Int)
  | looksUp (ref : Nat) (async : Bool) (userId : Int) (outputs : Outputs)
  | checks (ref : Nat) (async : Bool) (userId : Int) (client : Nat)
  | submits (ref : Nat) (async : Bool) (userId : Int) (client : Nat)
  | sets (ref : Nat) (async : Bool) (ret : Int)
  | finishes (ref : Nat) (async : Bool)
  | aborts (reqId : Int)
  | deletes (reqId : Int)
  | finds (reqId : Int) (waiting : Bool)
  | waits (ref : Nat)
  | polls (ref : Nat)
  | takes (client pktId : Nat) (reply : Reply)
  | completes (ref : Nat) (reply : Reply)
  | cuts (userId errorCode : Int)
  | sweeps (userId errorCode : Int)
  deriving DecidableEq, Repr

structure State where
  threads : List Thread
  table : Table := {}
  wire : Wire := {}
  deriving DecidableEq, Repr

namespace State

def onTable (f : Table → Table) (s : State) : State := { s with table := f s.table }

def onWire (f : Wire → Wire) (s : State) : State := { s with wire := f s.wire }

end State

/-- `FailPendingRequests`, under the lock of the pending map. -/
def sweep (userId errorCode : Int) (s : State) : State :=
  { s with
    table := (s.wire.pending.filter (·.userId = userId)).foldl
      (fun table entry => table.setResult entry.req errorCode) s.table
    wire := { s.wire with pending := s.wire.pending.filter (·.userId ≠ userId) } }

/-- The next critical section of a thread; one that waits for a result stays where it is. -/
def advance (pb : ShadNetProto) (enabled : Bool) (thread : Thread) (s : State) : Thread × State :=
  match thread with
  | .idle ret => (.idle ret, s)
  | .creates async =>
    (.idle (s.table.createNpAuthRequest async).1,
      s.onTable fun table => (table.createNpAuthRequest async).2)
  | .starts reqId userId outputs =>
    match s.table.startRequest reqId with
    | (.error error, _) => (.idle error, s)
    | (.ok (async, ref), table) =>
      (if enabled then .looksUp ref async userId outputs else .sets ref async signedOut,
        { s with table })
  | .startsToken reqId =>
    match s.table.startRequest reqId with
    | (.error error, _) => (.idle error, s)
    | (.ok (async, ref), table) =>
      (.sets ref async (if enabled then orbisOk else signedOut), { s with table })
  | .looksUp ref async userId outputs =>
    let s := s.onTable fun table =>
      { table with ctxs := table.ctxs.modify ref fun ctx => { ctx with outputs } }
    match s.wire.sessionClient? userId with
    | none => (.sets ref async signedOut, s)
    | some client => (.checks ref async userId client, s)
  | .checks ref async userId client =>
    (if s.wire.isAuthenticated client then .submits ref async userId client
      else .sets ref async signedOut, s)
  | .submits ref async userId client =>
    (.finishes ref async, s.onWire (Wire.submit client userId ref))
  | .sets ref async ret => (.finishes ref async, s.onTable (Table.setResult ref ret))
  | .finishes ref async =>
    if async then (.idle orbisOk, s)
    else
      match s.table.result? ref with
      | some r => (.idle r, s.onTable (Table.report ref r))
      | none => (.finishes ref async, s)
  | .aborts reqId =>
    (.idle (s.table.abortRequest reqId).1, s.onTable fun table => (table.abortRequest reqId).2)
  | .deletes reqId =>
    (.idle (s.table.deleteRequest reqId).1, s.onTable fun table => (table.deleteRequest reqId).2)
  | .finds reqId waiting =>
    match s.table.findAsyncRequest reqId with
    | .error error => (.idle error, s)
    | .ok ref => (if waiting then .waits ref else .polls ref, s)
  | .waits ref =>
    match s.table.result? ref with
    | some r => (.idle orbisOk, s.onTable (Table.report ref r))
    | none => (.waits ref, s)
  | .polls ref =>
    match s.table.result? ref with
    | some r => (.idle pollAsyncRetFinished, s.onTable (Table.report ref r))
    | none => (.idle pollAsyncRetRunning, s)
  | .takes client pktId reply =>
    (match (s.wire.take client pktId).1 with
      | some ref => .completes ref reply
      | none => .idle orbisOk,
      s.onWire fun wire => (wire.take client pktId).2)
  | .completes ref reply => (.idle orbisOk, s.onTable (Table.complete pb ref reply))
  | .cuts userId errorCode =>
    match s.wire.sessionClient? userId with
    | none => (.idle orbisOk, s)
    | some _ =>
      (.sweeps userId errorCode,
        s.onWire fun wire =>
          { wire with sessions := KeyedTable.remove AuthSession.userId userId wire.sessions })
  | .sweeps userId errorCode => (.idle orbisOk, sweep userId errorCode s)

/-- The calls of the game, the replies that are read on a client and the disconnects. -/
inductive Request where
  | createRequest (async : Bool)
  | getAuthorizationCode (reqId userId : Int) (outputs : Outputs)
  | getIdToken (reqId : Int)
  | abortRequest (reqId : Int)
  | deleteRequest (reqId : Int)
  | waitAsync (reqId : Int)
  | pollAsync (reqId : Int)
  | onAuthReply (client pktId : Nat) (reply : Reply)
  | disconnectUser (userId errorCode : Int)
  deriving DecidableEq, Repr

def Request.begin : Request → Thread
  | .createRequest async => .creates async
  | .getAuthorizationCode reqId userId outputs => .starts reqId userId outputs
  | .getIdToken reqId => .startsToken reqId
  | .abortRequest reqId => .aborts reqId
  | .deleteRequest reqId => .deletes reqId
  | .waitAsync reqId => .finds reqId true
  | .pollAsync reqId => .finds reqId false
  | .onAuthReply client pktId reply => .takes client pktId reply
  | .disconnectUser userId errorCode => .cuts userId errorCode

inductive Op where
  | connect (userId : Int)
  | loseConnection (client : Nat)
  | otherPacket (client : Nat)
  | begin (t : Nat) (request : Request)
  | next (t : Nat)
  deriving DecidableEq, Repr

def Thread.isIdle : Thread → Bool
  | .idle _ => true
  | _ => false

def step (pb : ShadNetProto) (enabled : Bool) : Op → State → State
  | .connect userId, s => s.onWire (Wire.connect userId)
  | .loseConnection client, s => s.onWire (Wire.loseConnection client)
  | .otherPacket client, s => s.onWire (Wire.countPacket client)
  | .begin t request, s =>
    match s.threads[t]? with
    | none => s
    | some thread =>
      if thread.isIdle then { s with threads := s.threads.set t request.begin } else s
  | .next t, s =>
    match s.threads[t]? with
    | none => s
    | some thread =>
      { (advance pb enabled thread s).2 with
        threads := s.threads.set t (advance pb enabled thread s).1 }

def start (threads : Nat) : State := { threads := List.replicate threads (.idle orbisOk) }

end NpAuth
