import ShadNet.KeyedTable
import ShadNet.Handler.Types

/-!
# The state of the NP handler and of the libraries over it

Request contexts are shared objects: a pending entry, a request table and a
thread may hold the same one. They are kept by reference number and never leave
the state; a table row or an entry that is erased only drops its reference.
-/

namespace NpHandler

open LockProgram

/-! ## Request contexts -/

inductive Library where
  | score
  | tus
  | auth
  | trophy
  deriving DecidableEq, Repr

/-- A request of a library under its id; ids are not used twice. -/
structure RequestId where
  library : Library
  id : Nat
  deriving DecidableEq, Repr

/-- `game_data_recv_key`, before it is written out as a string. -/
inductive GameDataKey where
  | npId (boardId : Nat) (npId : Bytes)
  | account (boardId : Nat) (accountId : Int)
  deriving DecidableEq, Repr

structure RecvCache where
  offset : Nat := 0
  cache : Bytes := []
  key : Option GameDataKey := none
  deriving DecidableEq, Repr

/-- `ScoreRequestCtx`, `TusRequestCtx` and `AuthRequestCtx`; the fields after `result` are used by
the score requests, the last two by the authorization requests. A trophy sync has no such object:
its `result` is a history variable, what became of the call to `on_merged`. So are `request`,
the request the object was made for, `lastCall`, the operation that began it last, and `resultOf`, the
operation whose result it has. -/
structure RequestCtx where
  ref : Nat
  request : RequestId
  lastCall : Nat := 0
  result : Option Int := none
  resultOf : Option Nat := none
  titleCtxId : Nat := 0
  userId : Int := -1
  pcId : Int := 0
  tmpRankOut : Option Pointer := none
  recv : RecvCache := {}
  sendBuf : Bytes := []
  sendTotal : Nat := 0
  deriving DecidableEq, Repr

/-- `client` and `call` are history variables: the client the packet went out on, and the call
that made the request. -/
structure PendingRequest where
  family : Family
  pktId : Nat
  req : Nat
  cmd : CommandType
  userId : Int
  outputs : Outputs := {}
  client : Nat
  call : Nat
  deriving DecidableEq, Repr

def PendingRequest.key (entry : PendingRequest) : Family × Nat := (entry.family, entry.pktId)

/-! ## Tables of the libraries -/

structure ScoreTitleCtx where
  id : Nat
  serviceLabel : Int
  userId : Int
  pcId : Int := 0
  deriving DecidableEq, Repr

structure ScoreRequest where
  reqId : Nat
  ref : Nat
  deriving DecidableEq, Repr

structure NpTusDataXfer where
  active : Bool := false
  slotId : Int := -1
  accountId : Int := 0
  virtualUser : Bytes := []
  sendBuf : Bytes := []
  totalSize : Nat := 0
  info : Bytes := []
  recvOffset : Nat := 0
  deriving DecidableEq, Repr

structure NpTusRequest where
  reqId : Nat
  titleCtxId : Nat
  ctx : Option Nat := none
  xfer : NpTusDataXfer := {}
  deriving DecidableEq, Repr

structure NpTusTitleContext where
  id : Nat
  serviceLabel : Int
  npId : Bytes
  deriving DecidableEq, Repr

/-! ## Clients -/

structure ShadNetClient where
  clientId : Nat
  userId : Int
  npId : Bytes
  accountId : Int
  authenticated : Bool := true
  trophiesEnabled : Bool := true
  pktCounter : Nat := 1
  deriving DecidableEq, Repr

/-- A row of `m_clients`. -/
structure Session where
  userId : Int
  clientId : Nat
  deriving DecidableEq, Repr

/-- A row of `m_np_ids`; online ids are their text. -/
structure UserNpId where
  userId : Int
  npId : Bytes
  deriving DecidableEq, Repr

/-! ## History -/

/-- A packet given to a client, and the request it was sent for. -/
structure Submission where
  call : Nat
  client : Nat
  message : Message
  pktId : Nat
  req : Nat
  deriving DecidableEq, Repr

/-- A store through a pointer of the caller, by the reply numbered `call` for the request object of
its entry; `late` tells whether that request had been aborted or deleted before. -/
structure ReplyStore where
  call : Nat
  req : Nat
  store : Store
  late : Bool
  deriving DecidableEq, Repr

/-- What a reply that was read on `client` took out of the pending map. -/
structure Routed where
  call : Nat
  client : Nat
  family : Family
  pktId : Nat
  reply : Reply
  entry : PendingRequest
  deriving DecidableEq, Repr

/-- The end of a reply: the object it set a result of, and that result; `late` tells whether this
was the first result of an object whose request had been aborted or deleted before. -/
structure Completed where
  call : Nat
  req : Nat
  result : Int
  late : Bool
  deriving DecidableEq, Repr

/-- The place for a rank that a reply found in the request object. -/
structure RankPlace where
  call : Nat
  req : Nat
  target : Pointer
  deriving DecidableEq, Repr

structure Sweep where
  call : Nat
  userId : Int
  family : Family
  deriving DecidableEq, Repr

/-- A disconnect that has looked for the session of its user, and how many clients had been made. -/
structure Cut where
  call : Nat
  userId : Int
  clients : Nat
  deriving DecidableEq, Repr

/-! ## State -/

/-- `clients` holds every client ever made; `sessions` is `m_clients` and `npIds` is `m_np_ids`.
The fields from `stores` on are history variables: what the library calls and the replies have put
into the buffers of callers, the packets sent, the entries replies took and what they made of
them, the replies that found none, the replies that were begun and those done, and, by the number
of the call, the operations begun and not returned, the packets sent and not registered, those
sent for a request that was begun again since, the replies with a request in hand, what they took,
those of them with stores to make, the disconnects with a map still to sweep; then the disconnects there have been, the requests ever begun and those aborted or
deleted. -/
structure HandlerState where
  npCommIds : List Bytes := []
  clients : List ShadNetClient := []
  sessions : List Session := []
  npIds : List UserNpId := []
  pending : List PendingRequest := []
  requests : List RequestCtx := []
  nextRef : Nat := 1
  scoreTitleCtxs : List ScoreTitleCtx := []
  scoreRequests : List ScoreRequest := []
  nextScoreCtxId : Nat := 1
  nextScoreReqId : Nat := 1
  tusTitleCtxs : List NpTusTitleContext := []
  tusRequests : List NpTusRequest := []
  nextTusCtxId : Nat := 1
  nextTusReqId : Nat := 1
  stores : List Store := []
  replyStores : List ReplyStore := []
  sent : List Submission := []
  routed : List Routed := []
  rankPlaces : List RankPlace := []
  completed : List Completed := []
  dropped : List (Nat × Nat) := []
  answered : List (Nat × Nat) := []
  handled : List (Nat × Nat) := []
  starting : List (Nat × Nat) := []
  submitting : List Submission := []
  superseded : List Submission := []
  carried : List (Nat × Nat) := []
  inHand : List Routed := []
  writing : List (Nat × Nat) := []
  sweeping : List Sweep := []
  cuts : List Cut := []
  begun : List Nat := []
  dead : List RequestId := []
  deriving DecidableEq, Repr

namespace HandlerState

def request? (ref : Nat) (s : HandlerState) : Option RequestCtx :=
  KeyedTable.lookup RequestCtx.ref ref s.requests

def result? (ref : Nat) (s : HandlerState) : Option Int := (s.request? ref).bind (·.result)

/-- The request an object was made for. -/
def owner? (ref : Nat) (s : HandlerState) : Option RequestId := (s.request? ref).map (·.request)

def client? (clientId : Nat) (s : HandlerState) : Option ShadNetClient :=
  KeyedTable.lookup ShadNetClient.clientId clientId s.clients

/-- `m_clients.find(user_id)`. -/
def sessionClient? (userId : Int) (s : HandlerState) : Option ShadNetClient :=
  (KeyedTable.lookup Session.userId userId s.sessions).bind (fun session => s.client? session.clientId)

def pending? (family : Family) (pktId : Nat) (s : HandlerState) : Option PendingRequest :=
  KeyedTable.lookup PendingRequest.key (family, pktId) s.pending

def scoreTitle? (id : Nat) (s : HandlerState) : Option ScoreTitleCtx :=
  KeyedTable.lookup ScoreTitleCtx.id id s.scoreTitleCtxs

def tusRequest? (reqId : Nat) (s : HandlerState) : Option NpTusRequest :=
  KeyedTable.lookup NpTusRequest.reqId reqId s.tusRequests

def tusTitle? (id : Nat) (s : HandlerState) : Option NpTusTitleContext :=
  KeyedTable.lookup NpTusTitleContext.id id s.tusTitleCtxs

/-- The object a request id stands for now. -/
def current? (request : RequestId) (s : HandlerState) : Option Nat :=
  match request.library with
  | .score => (KeyedTable.lookup ScoreRequest.reqId request.id s.scoreRequests).map (·.ref)
  | .tus => (s.tusRequest? request.id).bind (·.ctx)
  | .auth | .trophy => none

def withRequest (ref : Nat) (f : RequestCtx → RequestCtx) (s : HandlerState) : HandlerState :=
  { s with requests := KeyedTable.adjust RequestCtx.ref ref f s.requests }

end HandlerState

end NpHandler
