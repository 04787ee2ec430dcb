import ShadNet.Handler.Types
import ShadNet.KeyedTable
import ShadNet.Slots

/-!
# The requests of the word filter

Title contexts and requests are found by their ids under the mutex of the two tables, and a request
is used through a shared pointer under its own mutex. A section under either mutex is one step, and
so are the copy of a comment and the wake-up of the waiting threads, which are made without one.
The deletion of a title context keeps the tables locked over the steps of its loop.
-/

namespace WordFilter

open NpHandler Runs

def communityInvalidType : Int := orbisError 0x80550711

def maxCtxNum : Nat := 32
def maxRequestNum : Nat := 32
def titleCtxIdOffset : Int32 := 0x1000000
def requestIdOffset : Int32 := 0x2000000
def commentMaxLength : Nat := 0x400
def pollAsyncFinished : Int := 0
def pollAsyncRunning : Int := 1
def createAsyncParameterSize : UInt64 := 0x18

structure LookupTimeouts where
  resolveRetry : Int32
  resolveTimeout : UInt32
  connTimeout : UInt32
  sendTimeout : UInt32
  recvTimeout : UInt32
  deriving DecidableEq, Repr

def LookupTimeouts.accepted (t : LookupTimeouts) : Bool :=
  !(decide (t.resolveRetry < 0) ||
    (t.resolveTimeout != 0 && decide (t.resolveTimeout < 1000000)) ||
    (t.connTimeout != 0 && decide (t.connTimeout < 10000000)) ||
    (t.sendTimeout != 0 && decide (t.sendTimeout < 10000000)) ||
    (t.recvTimeout != 0 && decide (t.recvTimeout < 10000000)) ||
    t == ⟨0, 0, 0, 0, 0⟩)

/-! ## The tables -/

/-- From `operations` on, history: how many operations were started, every result that was stored,
the values that were given out for the result, whether an abort or a deletion of the request has
returned, and whether its deletion, or that of its context, is done with it. -/
structure LookupRequestCtx where
  titleCtxId : Int32
  isAsync : Bool
  result : Option Int := none
  used : Bool := false
  aborted : Bool := false
  timeouts : Option LookupTimeouts := none
  operations : Nat := 0
  results : List Int := []
  told : List Int := []
  closed : Bool := false
  deleted : Bool := false
  deriving DecidableEq, Repr

structure WordFilterTitleCtx where
  timeouts : Option LookupTimeouts := none
  deriving DecidableEq, Repr

/-- An element of a map: the objects are known by their places in the lists of those ever made. -/
structure Entry where
  id : Int32
  ref : Nat
  deriving DecidableEq, Repr

/-- `std::map::emplace`, which leaves a key that is there alone. -/
def emplace (entry : Entry) (table : List Entry) : List Entry :=
  if (KeyedTable.lookup Entry.id entry.id table).isSome then table
  else KeyedTable.enter Entry.id entry table

inductive Object where
  | titleCtx (ref : Nat)
  | request (ref : Nat)
  deriving DecidableEq, Repr

structure Issue where
  id : Int32
  object : Object
  deriving DecidableEq, Repr

/-- A copy of a comment, and whether an abort or a deletion of its request had returned. -/
structure Copy where
  buffer : Nat
  bytes : List UInt8
  late : Bool
  deriving DecidableEq, Repr

/-! ## Threads -/

/-- A comment is given by the bytes in front of its end; only `SanitizeComment` has a buffer. -/
structure Work where
  comment : List UInt8
  buffer : Option Nat
  deriving DecidableEq, Repr

/-- What a request is looked up for. -/
inductive Purpose where
  | operation (work : Work)
  | abort
  | poll
  | wait
  deriving DecidableEq, Repr

/-- What `SetResult` is called by. -/
inductive Caller where
  | operation
  | abort
  | delete
  | sweep (titleCtxId reqId : Int32)
  deriving DecidableEq, Repr

/-- What a thread does next; `ret` is what its last call returned. -/
inductive Thread where
  | idle (ret : Int)
  | createsTitle
  | creates (titleCtxId : Int32) (isAsync : Bool)
  | finds (reqId : Int32) (purpose : Purpose)
  | starts (work : Work) (ref : Nat)
  | copies (bytes : List UInt8) (buffer : Nat) (ref : Nat)
  | completes (ref : Nat)
  | marks (ref : Nat) (caller : Caller)
  | records (ref : Nat) (caller : Caller)
  | notifies (ref : Nat) (caller : Caller)
  | polls (ref : Nat)
  | waits (ref : Nat)
  | sleeps (ref : Nat)
  | setsTimeout (id : Int32) (timeouts : LookupTimeouts)
  | deletes (reqId : Int32)
  | deletesTitle (titleCtxId : Int32)
  | sweeps (titleCtxId : Int32)
  deriving DecidableEq, Repr

def Caller.sweeps : Caller → Bool
  | .sweep _ _ => true
  | .operation | .abort | .delete => false

/-- Whether the thread is inside the section of `DeleteTitleCtx`. -/
def Thread.holdsTable : Thread → Bool
  | .sweeps _ => true
  | .records _ caller | .notifies _ caller => caller.sweeps
  | _ => false

def Thread.takesTable : Thread → Bool
  | .createsTitle | .creates _ _ | .finds _ _ | .setsTimeout _ _ | .deletes _
  | .deletesTitle _ => true
  | _ => false

def Thread.isIdle : Thread → Bool
  | .idle _ => true
  | _ => false

/-- `issued` and `copied` are history. -/
structure State where
  threads : List Thread
  titles : List Entry := []
  requests : List Entry := []
  titleCtxs : List WordFilterTitleCtx := []
  requestCtxs : List LookupRequestCtx := []
  nextCtxId : Int32 := titleCtxIdOffset + 1
  nextReqId : Int32 := requestIdOffset + 1
  issued : List Issue := []
  copied : List Copy := []
  deriving DecidableEq, Repr

namespace State

def title? (id : Int32) (s : State) : Option Entry := KeyedTable.lookup Entry.id id s.titles

def request? (id : Int32) (s : State) : Option Entry := KeyedTable.lookup Entry.id id s.requests

/-- The object an id was issued for, the last one if there were several. -/
def issuedFor (id : Int32) (s : State) : Option Object :=
  (KeyedTable.lookup Issue.id id s.issued).map Issue.object

def timeouts? (s : State) : Object → Option (Option LookupTimeouts)
  | .titleCtx ref => (s.titleCtxs[ref]?).map WordFilterTitleCtx.timeouts
  | .request ref => (s.requestCtxs[ref]?).map LookupRequestCtx.timeouts

def tableHeld (s : State) : Bool := s.threads.any Thread.holdsTable

def adjust (ref : Nat) (f : LookupRequestCtx → LookupRequestCtx) (s : State) : State :=
  { s with requestCtxs := s.requestCtxs.modify ref f }

def titleCtxOf (s : State) (entry : Entry) : Option Int32 :=
  (s.requestCtxs[entry.ref]?).map LookupRequestCtx.titleCtxId

end State

/-! ## A request -/

namespace LookupRequestCtx

def start (req : LookupRequestCtx) : LookupRequestCtx :=
  { req with used := true, operations := req.operations + 1 }

def abort (req : LookupRequestCtx) : LookupRequestCtx := { req with aborted := true }

def store (r : Int) (req : LookupRequestCtx) : LookupRequestCtx :=
  { req with result := some r, results := req.results ++ [r] }

def tell (r : Int) (req : LookupRequestCtx) : LookupRequestCtx :=
  { req with told := req.told ++ [r] }

/-- `CompleteWordFilterRequest` returns its own result for a request that is not asynchronous. -/
def returns (r : Int) (req : LookupRequestCtx) : LookupRequestCtx :=
  if req.isAsync then req else req.tell r

def setTimeouts (timeouts : LookupTimeouts) (req : LookupRequestCtx) : LookupRequestCtx :=
  { req with timeouts := some timeouts }

def close (req : LookupRequestCtx) : LookupRequestCtx := { req with closed := true }

def delete (req : LookupRequestCtx) : LookupRequestCtx := { req with deleted := true }

end LookupRequestCtx

/-- What comes after the call of `SetResult`. -/
def afterResult (ref : Nat) (caller : Caller) (s : State) : Thread × State :=
  match caller with
  | .operation => (.idle orbisOk, s)
  | .abort => (.idle orbisOk, s.adjust ref .close)
  | .delete => (.idle orbisOk, s.adjust ref (fun req => req.close.delete))
  | .sweep titleCtxId reqId =>
    (.sweeps titleCtxId,
      { s.adjust ref .delete with requests := KeyedTable.remove Entry.id reqId s.requests })

/-- `SetResult` up to the notification. -/
def setResult (ref : Nat) (r : Int) (caller : Caller) (s : State) : Thread × State :=
  match s.requestCtxs[ref]? with
  | none => (.idle orbisOk, s)
  | some req =>
    if req.result.isSome then afterResult ref caller s
    else (.notifies ref caller, s.adjust ref (.store r))

def Thread.wake (ref : Nat) : Thread → Thread
  | .sleeps other => if other = ref then .waits ref else .sleeps other
  | thread => thread

/-! ## The sections -/

def createWordFilterTitleCtx (s : State) : Int × State :=
  if s.titles.length ≥ maxCtxNum then (communityTooManyObjects, s)
  else
    -- the counter is a signed one; it is taken to wrap
    (s.nextCtxId.toInt,
      { s with
        nextCtxId := s.nextCtxId + 1
        titleCtxs := s.titleCtxs ++ [{}]
        titles := emplace ⟨s.nextCtxId, s.titleCtxs.length⟩ s.titles
        issued := ⟨s.nextCtxId, .titleCtx s.titleCtxs.length⟩ :: s.issued })

/-- The context whose timeouts a new request gets. -/
def State.owner? (titleCtxId : Int32) (s : State) : Option WordFilterTitleCtx :=
  (s.title? titleCtxId).bind (fun entry => s.titleCtxs[entry.ref]?)

def createWordFilterRequest (titleCtxId : Int32) (isAsync : Bool) (s : State) : Int × State :=
  match s.owner? titleCtxId with
  | none => (communityInvalidId, s)
  | some ctx =>
    if s.requests.length ≥ maxRequestNum then (communityTooManyObjects, s)
    else
      (s.nextReqId.toInt,
        { s with
          nextReqId := s.nextReqId + 1
          requestCtxs := s.requestCtxs ++ [{ titleCtxId, isAsync, timeouts := ctx.timeouts }]
          requests := emplace ⟨s.nextReqId, s.requestCtxs.length⟩ s.requests
          issued := ⟨s.nextReqId, .request s.requestCtxs.length⟩ :: s.issued })

/-- `GetWordFilterRequest`, and the check of `is_async` that some calls make of what they get. -/
def getWordFilterRequest (reqId : Int32) (purpose : Purpose) (s : State) : Thread :=
  match s.request? reqId with
  | none => .idle communityInvalidId
  | some entry =>
    let isAsync := (s.requestCtxs[entry.ref]?).any LookupRequestCtx.isAsync
    match purpose with
    | .operation work => .starts work entry.ref
    | .abort => .marks entry.ref .abort
    | .poll => if isAsync then .polls entry.ref else .idle communityInvalidId
    | .wait => if isAsync then .waits entry.ref else .idle communityInvalidId

def startWordFilterRequest (work : Work) (ref : Nat) (s : State) : Thread × State :=
  match s.requestCtxs[ref]? with
  | none => (.idle orbisOk, s)
  | some req =>
    if req.aborted then (.idle communityAborted, s)
    else if req.used then (.idle communityInvalidType, s)
    else
      (match work.buffer with
        | some buffer => .copies (work.comment ++ [0]) buffer ref
        | none => .completes ref,
        s.adjust ref .start)

def pollAsync (ref : Nat) (s : State) : Thread × State :=
  match (s.requestCtxs[ref]?).bind LookupRequestCtx.result with
  | none => (.idle pollAsyncRunning, s)
  | some r => (.idle pollAsyncFinished, s.adjust ref (.tell r))

/-- The check of the predicate: the thread goes to sleep, or has its result. -/
def wait (ref : Nat) (s : State) : Thread × State :=
  match (s.requestCtxs[ref]?).bind LookupRequestCtx.result with
  | none => (.sleeps ref, s)
  | some r => (.idle orbisOk, s.adjust ref (.tell r))

def setTimeout (id : Int32) (timeouts : LookupTimeouts) (s : State) : Int × State :=
  match s.title? id with
  | some entry =>
    (orbisOk,
      { s with titleCtxs := s.titleCtxs.modify entry.ref (fun _ => { timeouts := some timeouts }) })
  | none =>
    match s.request? id with
    | some entry => (orbisOk, s.adjust entry.ref (.setTimeouts timeouts))
    | none => (communityInvalidId, s)

def deleteRequest (reqId : Int32) (s : State) : Thread × State :=
  match s.request? reqId with
  | none => (.idle communityInvalidId, s)
  | some entry =>
    (.marks entry.ref .delete,
      { s with requests := KeyedTable.remove Entry.id reqId s.requests })

/-- A round of the loop of `DeleteTitleCtx`: the next request of the context is aborted, or there
is none and the context goes. -/
def sweep (titleCtxId : Int32) (s : State) : Thread × State :=
  match s.requests.find? (fun entry => s.titleCtxOf entry == some titleCtxId) with
  | some entry => (.records entry.ref (.sweep titleCtxId entry.id), s.adjust entry.ref .abort)
  | none =>
    (.idle orbisOk, { s with titles := KeyedTable.remove Entry.id titleCtxId s.titles })

/-- The next step of a thread; one that sleeps stays asleep. -/
def advance (thread : Thread) (s : State) : Thread × State :=
  match thread with
  | .idle ret => (.idle ret, s)
  | .createsTitle => (.idle (createWordFilterTitleCtx s).1, (createWordFilterTitleCtx s).2)
  | .creates titleCtxId isAsync =>
    (.idle (createWordFilterRequest titleCtxId isAsync s).1,
      (createWordFilterRequest titleCtxId isAsync s).2)
  | .finds reqId purpose => (getWordFilterRequest reqId purpose s, s)
  | .starts work ref => startWordFilterRequest work ref s
  | .copies bytes buffer ref =>
    let late := (s.requestCtxs[ref]?).any LookupRequestCtx.closed
    (.completes ref, { s with copied := s.copied ++ [⟨buffer, bytes, late⟩] })
  | .completes ref => setResult ref orbisOk .operation (s.adjust ref (.returns orbisOk))
  | .marks ref caller => (.records ref caller, s.adjust ref .abort)
  | .records ref caller => setResult ref communityAborted caller s
  | .notifies ref caller =>
    afterResult ref caller { s with threads := s.threads.map (Thread.wake ref) }
  | .polls ref => pollAsync ref s
  | .waits ref => wait ref s
  | .sleeps ref => (.sleeps ref, s)
  | .setsTimeout id timeouts => (.idle (setTimeout id timeouts s).1, (setTimeout id timeouts s).2)
  | .deletes reqId => deleteRequest reqId s
  | .deletesTitle titleCtxId =>
    (if (s.title? titleCtxId).isSome then .sweeps titleCtxId else .idle communityInvalidId, s)
  | .sweeps titleCtxId => sweep titleCtxId s

/-! ## The calls -/

inductive Call where
  | createTitleCtx (selfNpIdIsNull : Bool)
  | createTitleCtxA
  | createRequest (titleCtxId : Int32)
  | createAsyncRequest (titleCtxId : Int32) (paramSize : Option UInt64)
  | censorComment (reqId : Int32) (comment : Option (List UInt8)) (optionIsNull : Bool)
  | sanitizeComment (reqId : Int32) (comment : Option (List UInt8)) (sanitized : Option Nat)
      (optionIsNull : Bool)
  | abortRequest (reqId : Int32)
  | deleteRequest (reqId : Int32)
  | deleteTitleCtx (titleCtxId : Int32)
  | pollAsync (reqId : Int32) (resultIsNull : Bool)
  | waitAsync (reqId : Int32) (resultIsNull : Bool)
  | setTimeout (id : Int32) (timeouts : LookupTimeouts)
  deriving DecidableEq, Repr

/-- The checks both operations make of what they are given. -/
def checked (reqId : Int32) (work : Work) (optionIsNull : Bool) : Thread :=
  if optionIsNull = false then .idle communityInvalidArgument
  else if work.comment.length > commentMaxLength then .idle communityInvalidArgument
  else .finds reqId (.operation work)

/-- What a call does before it first takes a mutex. -/
def Call.begin : Call → Thread
  | .createTitleCtx selfNpIdIsNull =>
    if selfNpIdIsNull then .idle communityInsufficientArgument else .createsTitle
  | .createTitleCtxA => .createsTitle
  | .createRequest titleCtxId => .creates titleCtxId false
  | .createAsyncRequest titleCtxId paramSize =>
    if paramSize = some createAsyncParameterSize then .creates titleCtxId true
    else .idle communityInvalidArgument
  | .censorComment reqId comment optionIsNull =>
    match comment with
    | none => .idle communityInsufficientArgument
    | some comment => checked reqId ⟨comment, none⟩ optionIsNull
  | .sanitizeComment reqId comment sanitized optionIsNull =>
    match comment, sanitized with
    | some comment, some buffer => checked reqId ⟨comment, some buffer⟩ optionIsNull
    | _, _ => .idle communityInsufficientArgument
  | .abortRequest reqId => .finds reqId .abort
  | .deleteRequest reqId => .deletes reqId
  | .deleteTitleCtx titleCtxId => .deletesTitle titleCtxId
  | .pollAsync reqId resultIsNull =>
    if resultIsNull then .idle communityInvalidArgument else .finds reqId .poll
  | .waitAsync reqId resultIsNull =>
    if resultIsNull then .idle communityInvalidArgument else .finds reqId .wait
  | .setTimeout id timeouts =>
    if timeouts.accepted then .setsTimeout id timeouts else .idle communityInvalidArgument

/-- `rouses` is a wake-up without a notification. -/
inductive Op where
  | begin (t : Nat) (call : Call)
  | next (t : Nat)
  | rouses (t : Nat)
  deriving DecidableEq, Repr

/-- The thread waits for the mutex of the tables. -/
def State.blocks (thread : Thread) (s : State) : Bool := thread.takesTable && s.tableHeld

def step : Op → State → State
  | .begin t call, s =>
    match s.threads[t]? with
    | none => s
    | some thread =>
      if thread.isIdle then { s with threads := s.threads.set t call.begin } else s
  | .next t, s =>
    match s.threads[t]? with
    | none => s
    | some thread =>
      if s.blocks thread then s
      else
        { (advance thread s).2 with
          threads := (advance thread s).2.threads.set t (advance thread s).1 }
  | .rouses t, s =>
    match s.threads[t]? with
    | some (.sleeps ref) => { s with threads := s.threads.set t (.waits ref) }
    | _ => s

def start (threads : Nat) : State := { threads := List.replicate threads (.idle orbisOk) }

/-! ## What is promised -/

/-- What an id names was issued it, and nothing else since. -/
def Rightful (s : State) : Prop :=
  (∀ entry ∈ s.titles, s.issuedFor entry.id = some (.titleCtx entry.ref)) ∧
    ∀ entry ∈ s.requests, s.issuedFor entry.id = some (.request entry.ref)

/-- A thread that sleeps though the request has its result is about to be woken. -/
def Roused (s : State) : Prop :=
  ∀ ref, .sleeps ref ∈ s.threads → ∀ req ∈ s.requestCtxs[ref]?, req.result ≠ none →
    ∃ caller, .notifies ref caller ∈ s.threads

structure Lawful (s : State) : Prop where
  oneOperation : ∀ req ∈ s.requestCtxs, req.operations ≤ 1
  oneResult : ∀ req ∈ s.requestCtxs, req.results.length ≤ 1
  told : ∀ req ∈ s.requestCtxs, ∀ r ∈ req.told, req.results = [r]
  onTime : ∀ copy ∈ s.copied, copy.late = false
  ended : ∀ req ∈ s.requestCtxs, req.deleted = true → req.result ≠ none
  roused : Roused s
  owned : ∀ entry ∈ s.requests, ∃ titleCtxId ∈ s.titleCtxOf entry, ∃ ctx ∈ s.titles,
    ctx.id = titleCtxId
  apart : ∀ ctx ∈ s.titles, ∀ entry ∈ s.requests, ctx.id ≠ entry.id
  rightful : Rightful s

/-- A timeout is set for the object its id was issued for, and for no other. -/
structure SetsTimeout (id : Int32) (timeouts : LookupTimeouts) (s s' : State) : Prop where
  only : ∀ object, s'.timeouts? object ≠ s.timeouts? object → s.issuedFor id = some object
  done : (s.title? id).isSome ∨ (s.request? id).isSome →
    ∃ object, s.issuedFor id = some object ∧ s'.timeouts? object = some (some timeouts)

def Moves (op : Op) (s s' : State) : Prop :=
  ∀ t id timeouts, op = .next t → s.threads[t]? = some (.setsTimeout id timeouts) →
    s.tableHeld = false → SetsTimeout id timeouts s s'

/-- No context and no request has the id. -/
def Unused (id : Int32) (s : State) : Prop :=
  (∀ entry ∈ s.titles, entry.id ≠ id) ∧ ∀ entry ∈ s.requests, entry.id ≠ id

/-- A comment is copied before an abort or a deletion of the request has returned, a synchronous
operation finds no other result, and an id that is given out is not in use. -/
def Thread.Permitted (s : State) : Thread → Prop
  | .copies _ _ ref => ∀ req ∈ s.requestCtxs[ref]?, req.closed = false
  | .completes ref =>
    ∀ req ∈ s.requestCtxs[ref]?, req.isAsync = false → ∀ r ∈ req.result, r = orbisOk
  | .createsTitle => s.titles.length < maxCtxNum → Unused s.nextCtxId s
  | .creates titleCtxId _ =>
    (s.owner? titleCtxId).isSome → s.requests.length < maxRequestNum → Unused s.nextReqId s
  | _ => True

def Ok : Op → State → Prop
  | .next t, s => ∀ thread ∈ s.threads[t]?, s.blocks thread = false → thread.Permitted s
  | .begin _ _, _ | .rouses _, _ => True

end WordFilter
