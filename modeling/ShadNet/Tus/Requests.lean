import ShadNet.Handler.Types
import ShadNet.KeyedTable
import ShadNet.Slots

/-!
# Records of the title user storage

An operation looks its request up under the lock of the tables and goes on with a pointer to the
record; the synchronous form looks the request up again, by its id, and waits for the context
that it finds. Every section under the lock is one step, and so is every access to the record and
to a context that is made without it. Ids are not used twice, so a pointer is the id it was
looked up with, and a record that is erased is not there any more.
-/

namespace TusRequests

open NpHandler Runs

def tusMaxTitleCtx : Nat := 32
def tusMaxRequests : Nat := 256

/-! ## The tables -/

/-- `NpTusRequest`; contexts are known by their place in `ctxs`. -/
structure Row where
  reqId : Nat
  titleCtxId : Nat
  ctx : Option Nat := none
  deriving DecidableEq, Repr

/-- What becomes of an operation once its context is in the record: the handler refuses it, a
chunk is kept for a later call, or it is submitted. -/
inductive Outcome where
  | fails (error : Int)
  | kept
  | submitted
  deriving DecidableEq, Repr

def Outcome.isFailure : Outcome → Bool
  | .fails _ => true
  | .kept | .submitted => false

/-- `transfers` is set for the calls that use the transfer record of their request. -/
structure Operation where
  reqId : Nat
  transfers : Bool
  isSync : Bool
  outcome : Outcome
  deriving DecidableEq, Repr

/-- What a thread does next; `ret` is what its last call returned. A wait that belongs to a
synchronous operation carries the context of that operation. -/
inductive Thread where
  | idle (ret : Int)
  | createsTitle
  | creates (titleCtxId : Nat)
  | resolves (o : Operation)
  | transfers (o : Operation)
  | stores (o : Operation)
  | submits (o : Operation) (own : Nat)
  | looksUp (reqId : Nat) (own : Option Nat)
  | waits (reqId : Nat) (own : Option Nat) (ref : Nat)
  | polls (reqId : Nat)
  | pollsCtx (ref : Nat)
  | fakes (reqId : Nat)
  | aborts (reqId : Nat)
  | abortsCtx (ref : Nat)
  | deletes (reqId : Nat)
  | deletesTitle (titleCtxId : Nat)
  deriving DecidableEq, Repr

/-- A synchronous operation has returned `result`, read from the context `source`. -/
structure SyncReturn where
  own : Nat
  source : Option Nat
  result : Int
  deriving DecidableEq, Repr

/-- The last three fields are history: the ids of records accessed after they were erased, what
synchronous operations have returned, and the contexts of those that waited without a result when
their request was aborted or deleted and that was not the context this was told to. -/
structure State where
  threads : List Thread
  rows : List Row := []
  titles : List Nat := []
  ctxs : List (Option Int) := []
  handed : List Nat := []
  nextReqId : Nat := 1
  nextCtxId : Nat := 1
  strayed : List Nat := []
  returned : List SyncReturn := []
  missed : List Nat := []
  deriving DecidableEq, Repr

namespace State

def row? (reqId : Nat) (s : State) : Option Row := KeyedTable.lookup Row.reqId reqId s.rows

def result? (ref : Nat) (s : State) : Option Int := (s.ctxs[ref]?).join

/-- `SetResult`: the first result stays. -/
def setResult (ref : Nat) (r : Int) (s : State) : State :=
  { s with ctxs := s.ctxs.modify ref (fun result => result.or (some r)) }

def setCtx (reqId ref : Nat) (s : State) : State :=
  { s with
    rows := KeyedTable.adjust Row.reqId reqId (fun row => { row with ctx := some ref }) s.rows }

/-- The operation that a thread waits for, if it has no result yet. -/
def waitsFor (reqId : Nat) (s : State) : Thread → Option Nat
  | .waits id (some own) _ => if id = reqId ∧ s.result? own = none then some own else none
  | _ => none

/-- The operations that wait for `reqId` and are not told that it ends. -/
def notTold (reqId : Nat) (told : Option Nat) (s : State) : List Nat :=
  (s.threads.filterMap (s.waitsFor reqId)).filter (fun own => decide (told ≠ some own))

/-- An access to a record through a pointer. -/
def access (reqId : Nat) (s : State) : State :=
  if (s.row? reqId).isSome then s else { s with strayed := s.strayed ++ [reqId] }

end State

/-- `SetResult` for the context of a row that ends. -/
def abortRow (row : Row) (s : State) : State :=
  match row.ctx with
  | some ref => s.setResult ref communityAborted
  | none => s

/-! ## The calls -/

def createNpTitleCtx (s : State) : Int × State :=
  if s.titles.length ≥ tusMaxTitleCtx then (communityTooManyObjects, s)
  else
    (s.nextCtxId,
      { s with nextCtxId := s.nextCtxId + 1, titles := s.titles ++ [s.nextCtxId] })

def createRequest (titleCtxId : Nat) (s : State) : Int × State :=
  if titleCtxId ∉ s.titles then (communityInvalidId, s)
  else if s.rows.length ≥ tusMaxRequests then (communityTooManyObjects, s)
  else
    (s.nextReqId,
      { s with
        nextReqId := s.nextReqId + 1
        rows := s.rows ++ [{ reqId := s.nextReqId, titleCtxId }] })

def deleteRequest (reqId : Nat) (s : State) : Int × State :=
  match s.row? reqId with
  | none => (communityInvalidId, s)
  | some row =>
    (orbisOk,
      { abortRow row s with
        rows := KeyedTable.remove Row.reqId reqId s.rows
        missed := s.missed ++ s.notTold reqId row.ctx })

def deleteNpTitleCtx (titleCtxId : Nat) (s : State) : Int × State :=
  if titleCtxId ∉ s.titles then (communityInvalidId, s)
  else
    let ended := s.rows.filter (·.titleCtxId = titleCtxId)
    (orbisOk,
      { ended.foldl (fun s row => abortRow row s) s with
        rows := s.rows.filter (·.titleCtxId ≠ titleCtxId)
        titles := s.titles.filter (· ≠ titleCtxId)
        missed := s.missed ++ ended.flatMap (fun row => s.notTold row.reqId row.ctx) })

/-- `FakeAsyncComplete`, whose context is done from the start. -/
def fakeAsyncComplete (reqId : Nat) (s : State) : Int × State :=
  match s.row? reqId with
  | none => (communityInvalidId, s)
  | some _ =>
    (orbisOk, { s.setCtx reqId s.ctxs.length with ctxs := s.ctxs ++ [some orbisOk] })

/-- `req->ctx = ctx` for a new context. -/
def storeCtx (reqId : Nat) (s : State) : State :=
  { (s.access reqId).setCtx reqId s.ctxs.length with ctxs := s.ctxs ++ [none] }

def Operation.proceeds (o : Operation) (own : Nat) : Thread :=
  if o.isSync then .looksUp o.reqId (some own) else .idle orbisOk

/-- A synchronous operation returns. -/
def recordReturn (own source : Option Nat) (result : Int) (s : State) : State :=
  match own with
  | some own => { s with returned := s.returned ++ [⟨own, source, result⟩] }
  | none => s

/-- The next step of a thread; one that waits for a result stays where it is. -/
def advance (thread : Thread) (s : State) : Thread × State :=
  match thread with
  | .idle ret => (.idle ret, s)
  | .createsTitle => (.idle (createNpTitleCtx s).1, (createNpTitleCtx s).2)
  | .creates titleCtxId => (.idle (createRequest titleCtxId s).1, (createRequest titleCtxId s).2)
  | .resolves o =>
    match s.row? o.reqId with
    | none => (.idle communityInvalidId, s)
    | some row =>
      if row.titleCtxId ∈ s.titles then (if o.transfers then .transfers o else .stores o, s)
      else (.idle communityInvalidId, s)
  | .transfers o => (.stores o, s.access o.reqId)
  | .stores o => (.submits o s.ctxs.length, storeCtx o.reqId s)
  | .submits o own =>
    match o.outcome with
    | .fails error => (.idle error, s)
    | .kept => (o.proceeds own, s.setResult own orbisOk)
    | .submitted => (o.proceeds own, { s with handed := s.handed ++ [own] })
  | .looksUp reqId own =>
    match s.row? reqId with
    | none => (.idle communityInvalidId, recordReturn own none communityInvalidId s)
    | some row =>
      match row.ctx with
      | none => (.idle communityInvalidArgument, recordReturn own none communityInvalidArgument s)
      | some ref => (.waits reqId own ref, s)
  | .waits reqId own ref =>
    match s.result? ref with
    | none => (.waits reqId own ref, s)
    | some r => (.idle (if own.isSome then r else orbisOk), recordReturn own (some ref) r s)
  | .polls reqId =>
    match s.row? reqId with
    | none => (.idle communityInvalidId, s)
    | some row =>
      match row.ctx with
      | none => (.idle 1, s)
      | some ref => (.pollsCtx ref, s)
  | .pollsCtx ref => (.idle (if (s.result? ref).isSome then 0 else 1), s)
  | .fakes reqId => (.idle (fakeAsyncComplete reqId s).1, (fakeAsyncComplete reqId s).2)
  | .aborts reqId =>
    match s.row? reqId with
    | none => (.idle communityInvalidId, s)
    | some row =>
      (match row.ctx with
        | some ref => .abortsCtx ref
        | none => .idle orbisOk,
        { s with missed := s.missed ++ s.notTold reqId row.ctx })
  | .abortsCtx ref => (.idle orbisOk, s.setResult ref communityAborted)
  | .deletes reqId => (.idle (deleteRequest reqId s).1, (deleteRequest reqId s).2)
  | .deletesTitle titleCtxId =>
    (.idle (deleteNpTitleCtx titleCtxId s).1, (deleteNpTitleCtx titleCtxId s).2)

inductive Call where
  | createNpTitleCtx
  | createRequest (titleCtxId : Nat)
  | operation (o : Operation)
  | waitAsync (reqId : Nat)
  | pollAsync (reqId : Nat)
  | getStorage (reqId : Nat)
  | abortRequest (reqId : Nat)
  | deleteRequest (reqId : Nat)
  | deleteNpTitleCtx (titleCtxId : Nat)
  deriving DecidableEq, Repr

def Call.begin : Call → Thread
  | .createNpTitleCtx => .createsTitle
  | .createRequest titleCtxId => .creates titleCtxId
  | .operation o => .resolves o
  | .waitAsync reqId => .looksUp reqId none
  | .pollAsync reqId => .polls reqId
  | .getStorage reqId => .fakes reqId
  | .abortRequest reqId => .aborts reqId
  | .deleteRequest reqId => .deletes reqId
  | .deleteNpTitleCtx titleCtxId => .deletesTitle titleCtxId

/-- A reply, or the end of the connection, gives a result to a context the handler was handed. -/
inductive Op where
  | reply (ref : Nat) (r : Int)
  | begin (t : Nat) (call : Call)
  | next (t : Nat)
  deriving DecidableEq, Repr

def Thread.isIdle : Thread → Bool
  | .idle _ => true
  | _ => false

def step : Op → State → State
  | .reply ref r, s => if ref ∈ s.handed then s.setResult ref r else s
  | .begin t call, s =>
    match s.threads[t]? with
    | none => s
    | some thread =>
      if thread.isIdle then { s with threads := s.threads.set t call.begin } else s
  | .next t, s =>
    match s.threads[t]? with
    | none => s
    | some thread =>
      { (advance thread s).2 with threads := s.threads.set t (advance thread s).1 }

def start (threads : Nat) : State := { threads := List.replicate threads (.idle orbisOk) }

/-! ## What is promised -/

/-- Records are accessed while they are there, synchronous operations return the result of their
own contexts, and those that wait are told when their request is aborted or deleted. -/
structure Orderly (s : State) : Prop where
  inside : s.strayed = []
  told : s.missed = []
  own : ∀ sync ∈ s.returned, sync.source = some sync.own ∧ s.result? sync.own = some sync.result

/-- What a thread relies on until its next steps: that its record is there, that its context is
in the record. -/
inductive Need where
  | record (reqId : Nat)
  | context (reqId own : Nat)
  deriving DecidableEq, Repr

def Need.reqId : Need → Nat
  | .record reqId => reqId
  | .context reqId _ => reqId

def Thread.need : Thread → Option Need
  | .transfers o | .stores o => some (.record o.reqId)
  | .submits o own =>
    if o.isSync ∧ o.outcome.isFailure = false then some (.context o.reqId own) else none
  | .looksUp reqId (some own) => some (.context reqId own)
  | _ => none

/-- No thread has its context in the record. -/
def Unclaimed (reqId : Nat) (s : State) : Prop :=
  ∀ thread ∈ s.threads, ∀ own, thread.need ≠ some (.context reqId own)

/-- No thread relies on the record. -/
def Unneeded (reqId : Nat) (s : State) : Prop :=
  ∀ thread ∈ s.threads, ∀ need ∈ thread.need, need.reqId ≠ reqId

/-- The context of the row is that of every operation that waits for it without a result. -/
def Reaches (row : Row) (s : State) : Prop := s.notTold row.reqId row.ctx = []

/-- A context is put into a record, and a request or a title context is aborted or deleted, only
where no operation is lost by it. -/
def Ok : Op → State → Prop
  | .next t, s =>
    match s.threads[t]? with
    | some (.stores o) => Unclaimed o.reqId s
    | some (.fakes reqId) => ∀ row ∈ s.row? reqId, Unclaimed row.reqId s
    | some (.aborts reqId) => ∀ row ∈ s.row? reqId, Reaches row s
    | some (.deletes reqId) => ∀ row ∈ s.row? reqId, Unneeded row.reqId s ∧ Reaches row s
    | some (.deletesTitle titleCtxId) =>
      titleCtxId ∈ s.titles → ∀ row ∈ s.rows, row.titleCtxId = titleCtxId →
        Unneeded row.reqId s ∧ Reaches row s
    | _ => True
  | _, _ => True

/-- Every call has returned. -/
def Quiet (s : State) : Prop := ∀ thread ∈ s.threads, thread.isIdle = true

end TusRequests
