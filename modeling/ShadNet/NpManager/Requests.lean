import ShadNet.Handler.Types
import ShadNet.LockProgram
import ShadNet.SlotTable

/-!
# The request table of the NP manager

A request is a slot of a vector; a deleted one leaves its slot to the next request that is created,
which sets the state and the kind of the request and keeps the result. Every call is one section
under the mutex of the table, behind checks of its parameters. `req_id - offset - 1` does not wrap.
-/

namespace NpManager.Requests

open NpHandler Runs

def errorInvalidArgument : Int := orbisError 0x80550003
def errorUserNotFound : Int := orbisError 0x80550007
def errorInvalidSize : Int := orbisError 0x80550011
def errorAborted : Int := orbisError 0x80550012
def errorRequestMax : Int := orbisError 0x80550013
def errorRequestNotFound : Int := orbisError 0x80550014
def errorInvalidId : Int := orbisError 0x80550015

def requestLimit : Nat := 0x20
def requestIdOffset : Int := 0x20000000

inductive NpRequestState where
  | none
  | ready
  | aborted
  | complete
  deriving DecidableEq, Repr

/-- `settled` is history: whether a call for the request that is in the slot has set `result`. -/
structure NpRequest where
  state : NpRequestState
  async : Bool
  result : Int
  settled : Bool := false
  deriving DecidableEq, Repr

structure State where
  activeRequests : Nat := 0
  requests : List NpRequest := []
  deriving DecidableEq, Repr

/-- What a call returns, and what it stores through `result`. -/
structure Output where
  code : Int
  stored : Option Int := none
  deriving DecidableEq, Repr

def NpRequest.live (r : NpRequest) : Bool := r.state != .none

/-- The loop that looks for a slot whose state is `None`. -/
def State.freeIndex (s : State) : Nat := SlotTable.free NpRequest.live s.requests

def idOf (index : Nat) : Int := index + requestIdOffset + 1

/-- A new request, in a slot that is reused or in a new one. -/
def NpRequest.new (async : Bool) : Option NpRequest → NpRequest
  | some old => { old with state := .ready, async, settled := false }
  | none => ⟨.ready, async, 0, false⟩

def createNpRequest (async : Bool) (s : State) : Output × State :=
  if s.activeRequests = requestLimit then (⟨errorRequestMax, none⟩, s)
  else
    (⟨idOf s.freeIndex, none⟩,
      { activeRequests := s.activeRequests + 1
        requests := SlotTable.occupy NpRequest.live (NpRequest.new async) s.requests })

/-- The lookup that every function has a copy of. -/
def State.find (reqId : Int) (s : State) : Option (Nat × NpRequest) :=
  let index := reqId - requestIdOffset - 1
  if s.activeRequests = 0 ∨ index < 0 then none
  else
    match s.requests[index.toNat]? with
    | none => none
    | some r => if r.live then some (index.toNat, r) else none

def State.put (index : Nat) (r : NpRequest) (s : State) : State :=
  { s with requests := s.requests.set index r }

def NpRequest.settle (result : Int) (r : NpRequest) : NpRequest :=
  { r with result, settled := true }

/-- `CompleteRequest`. -/
def completeRequest (result : Int) (r : NpRequest) : Int × NpRequest :=
  (if result ≠ orbisOk ∧ r.async = true then orbisOk else result,
    { r.settle result with state := .complete })

/-- The locked section of the functions that check something about a user: `GetRequest`, then
`CompleteRequest`. -/
def checkRequest (reqId : Int) (signedIn : Bool) (s : State) : Output × State :=
  if reqId = 0 then (⟨errorInvalidArgument, none⟩, s)
  else
    match s.find reqId with
    | none => (⟨errorRequestNotFound, none⟩, s)
    | some (index, r) =>
      match r.state with
      | .complete =>
        (⟨errorInvalidArgument, none⟩, s.put index (r.settle errorInvalidArgument))
      | .aborted => (⟨errorAborted, none⟩, s.put index (r.settle errorAborted))
      | _ =>
        let done := completeRequest (if signedIn then orbisOk else signedOut) r
        (⟨done.1, none⟩, s.put index done.2)

def abortRequest (reqId : Int) (s : State) : Output × State :=
  match s.find reqId with
  | none => (⟨errorRequestNotFound, none⟩, s)
  | some (index, r) =>
    if r.state = .complete then (⟨orbisOk, none⟩, s)
    else (⟨orbisOk, none⟩, s.put index { r with state := .aborted })

/-- The locked section of `sceNpSetTimeout` and `sceNpSetGamePresenceOnline`. -/
def lookAt (reqId : Int) (s : State) : Output × State :=
  match s.find reqId with
  | none => (⟨errorRequestNotFound, none⟩, s)
  | some _ => (⟨orbisOk, none⟩, s)

/-- The locked section of `sceNpWaitAsync` and `sceNpPollAsync`. -/
def readResult (reqId : Int) (s : State) : Output × State :=
  match s.find reqId with
  | none => (⟨errorRequestNotFound, none⟩, s)
  | some (_, r) =>
    if r.async = false ∨ r.state = .ready then (⟨errorInvalidId, none⟩, s)
    else (⟨orbisOk, some r.result⟩, s)

def deleteRequest (reqId : Int) (s : State) : Output × State :=
  match s.find reqId with
  | none => (⟨errorRequestNotFound, none⟩, s)
  | some (index, r) =>
    (⟨orbisOk, none⟩,
      { s.put index { r with state := .none } with activeRequests := s.activeRequests - 1 })

/-- What a call comes to behind the checks of its parameters. -/
inductive Call where
  | refused (code : Int)
  | create (async : Bool)
  | check (reqId : Int) (signedIn : Bool)
  | abort (reqId : Int)
  | look (reqId : Int)
  | read (reqId : Int)
  | delete (reqId : Int)
  deriving DecidableEq, Repr

def perform : Call → State → Output × State
  | .refused code, s => (⟨code, none⟩, s)
  | .create async, s => createNpRequest async s
  | .check reqId signedIn, s => checkRequest reqId signedIn s
  | .abort reqId, s => abortRequest reqId s
  | .look reqId, s => lookAt reqId s
  | .read reqId, s => readResult reqId s
  | .delete reqId, s => deleteRequest reqId s

def step (call : Call) (s : State) : State := (perform call s).2

def output (call : Call) (s : State) : Output := (perform call s).1

def after (calls : List Call) : State := run step calls {}

/-! ## The calls of a game

`user` is what `GetUserIdByOnlineId` finds for an online id, when there is one; `signedIn` is what
`IsPsnSignedIn` answers for the user. -/

def sceNpCreateRequest : Call := .create false

def asyncParameterSize : Nat := 24

/-- `paramSize` is the size that the parameter announces, when there is one. -/
def sceNpCreateAsyncRequest : Option Nat → Call
  | none => .refused errorInvalidArgument
  | some paramSize =>
    if paramSize ≠ asyncParameterSize then .refused errorInvalidSize else .create true

def sceNpCheckNpAvailabilityA (reqId userId : Int) (signedIn : Bool) : Call :=
  if userId = -1 then .refused errorInvalidArgument else .check reqId signedIn

/-- The functions that take an online id: the same for its user. -/
def byOnlineId (checkA : Int → Call) : Option Int → Call
  | none => .refused errorInvalidArgument
  | some userId => if userId = -1 then .refused errorUserNotFound else checkA userId

def sceNpCheckNpAvailability (reqId : Int) (user : Option Int) (signedIn : Bool) : Call :=
  byOnlineId (sceNpCheckNpAvailabilityA reqId · signedIn) user

def sceNpCheckNpReachability (reqId userId : Int) (signedIn : Bool) : Call :=
  if userId = -1 then .refused errorInvalidArgument else .check reqId signedIn

structure CheckPlusParameter where
  size : Nat
  userId : Int
  features : Nat
  reserved : List UInt8
  deriving DecidableEq, Repr

def checkPlusParameterSize : Nat := 56

/-- `fw350` is whether the firmware is 3.50 or later. -/
def sceNpCheckPlus (reqId : Int) (param : Option CheckPlusParameter)
    (result fw350 signedIn : Bool) : Call :=
  match param with
  | none => .refused errorInvalidArgument
  | some param =>
    if reqId = 0 ∨ result = false then .refused errorInvalidArgument
    else if param.size ≠ checkPlusParameterSize then .refused errorInvalidSize
    else if param.userId = -1 then .refused errorInvalidArgument
    else if param.features < 1 ∨ 3 < param.features then .refused errorInvalidArgument
    else if param.features ≠ 1 ∧ fw350 = true then .refused errorInvalidArgument
    else if ∃ b ∈ param.reserved, b ≠ 0 then .refused errorInvalidArgument
    else .check reqId signedIn

/-- `outputs` is whether the pointers to the results are there. -/
def sceNpGetAccountLanguageA (reqId userId : Int) (outputs signedIn : Bool) : Call :=
  if outputs = false ∨ userId = -1 then .refused errorInvalidArgument else .check reqId signedIn

def sceNpGetAccountLanguage (reqId : Int) (user : Option Int) (outputs signedIn : Bool) : Call :=
  if outputs = false then .refused errorInvalidArgument
  else byOnlineId (sceNpGetAccountLanguageA reqId · outputs signedIn) user

def sceNpGetParentalControlInfoA (reqId userId : Int) (outputs signedIn : Bool) : Call :=
  if outputs = false ∨ userId = -1 then .refused errorInvalidArgument else .check reqId signedIn

def sceNpGetParentalControlInfo (reqId : Int) (user : Option Int) (outputs signedIn : Bool) :
    Call :=
  if outputs = false then .refused errorInvalidArgument
  else byOnlineId (sceNpGetParentalControlInfoA reqId · outputs signedIn) user

def sceNpAbortRequest (reqId : Int) : Call := .abort reqId

structure Timeouts where
  resolveRetry : Int
  resolveTimeout : Nat
  connTimeout : Nat
  sendTimeout : Nat
  recvTimeout : Nat
  deriving DecidableEq, Repr

def unsetOrAtLeast (v minUs : Nat) : Bool := v = 0 || minUs ≤ v

def sceNpSetTimeout (reqId : Int) (t : Timeouts) : Call :=
  if reqId ≤ 0 then .refused errorInvalidArgument
  else if t = ⟨0, 0, 0, 0, 0⟩ ∨ t.resolveRetry < 0 ∨
      unsetOrAtLeast t.resolveTimeout 1000000 = false ∨
      unsetOrAtLeast t.connTimeout 10000000 = false ∨
      unsetOrAtLeast t.sendTimeout 10000000 = false ∨
      unsetOrAtLeast t.recvTimeout 10000000 = false then .refused errorInvalidArgument
  else .look reqId

/-- `result` is whether the pointer to the result is there. -/
def sceNpWaitAsync (reqId : Int) (result : Bool) : Call :=
  if result then .read reqId else .refused errorInvalidArgument

def sceNpPollAsync (reqId : Int) (result : Bool) : Call :=
  if result then .read reqId else .refused errorInvalidArgument

def sceNpDeleteRequest (reqId : Int) : Call := .delete reqId

def sceNpSetGamePresenceOnline (reqId : Int) (onlineId : Bool) : Call :=
  if reqId = 0 ∨ onlineId = false then .refused errorInvalidArgument else .look reqId

/-! ## The laws -/

/-- What a live request has from its own calls. -/
structure View where
  state : NpRequestState
  async : Bool
  result : Option Int
  deriving DecidableEq, Repr

def NpRequest.view (r : NpRequest) : Option View :=
  if r.live then some ⟨r.state, r.async, if r.settled then some r.result else none⟩ else none

def State.view (s : State) (index : Nat) : Option View :=
  match s.requests[index]? with
  | none => none
  | some r => r.view

/-- The same requests are live, in the same slots, and the same has become of them. -/
def SameLive (s t : State) : Prop := ∀ index, s.view index = t.view index

/-- What the calls so far have returned says which ids are live. -/
def heldAfter (call : Call) (answer : Output) (held : List Int) : List Int :=
  match call with
  | .create _ => if 0 < answer.code then held ++ [answer.code] else held
  | .delete reqId => if answer.code = orbisOk then held.erase reqId else held
  | _ => held

/-- The table and what its calls have returned. -/
structure Watched where
  table : State := {}
  held : List Int := []
  deriving DecidableEq, Repr

def Watched.step (call : Call) (w : Watched) : Watched :=
  { table := Requests.step call w.table, held := heldAfter call (output call w.table) w.held }

structure WellCounted (s : State) : Prop where
  counted : s.activeRequests = s.requests.countP NpRequest.live
  limited : s.activeRequests ≤ requestLimit

/-- The ids that were handed out and not given back are those of the live slots, once each. -/
structure DistinctIds (ids : List Int) (s : State) : Prop where
  distinct : ids.Nodup
  live : ∀ index, idOf index ∈ ids ↔ (s.view index).isSome
  ofSlot : ∀ id ∈ ids, ∃ index, id = idOf index

/-- The slot that a call is about: that of its id, or the one that it takes. -/
def Call.index (call : Call) (s : State) : Option Nat :=
  match call with
  | .refused _ => none
  | .create _ => some s.freeIndex
  | .check reqId _ | .abort reqId | .look reqId | .read reqId | .delete reqId =>
    if reqId - requestIdOffset - 1 < 0 then none else some (reqId - requestIdOffset - 1).toNat

/-- No other slot is touched. -/
def OwnSlotOnly (call : Call) (s : State) : Prop :=
  ∀ index, call.index s ≠ some index → (step call s).requests[index]? = s.requests[index]?

/-- The call returns the same behind every run that has led to the same live requests. -/
def Determined (call : Call) (s : State) : Prop :=
  ∀ others, SameLive (after others) s → output call (after others) = output call s

/-- The call does not look for a result of an aborted request that none of its calls has set. -/
def OwnResult (call : Call) (s : State) : Prop :=
  ∀ reqId index r, call = .read reqId → s.find reqId = some (index, r) → r.async = true →
    r.state = .aborted → r.settled = true

def Lawful (calls : List Call) : Prop :=
  Throughout Watched.step (fun w => WellCounted w.table ∧ DistinctIds w.held w.table)
    (fun call w _ => OwnSlotOnly call w.table ∧ Determined call w.table) calls {}

end NpManager.Requests
