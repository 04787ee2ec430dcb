import Mathlib.Algebra.Group.Nat.Defs
import ShadNet.Handler.Score

/-!
# The title user storage library

The calls of `np_tus`. Every operation makes a request context of its own and
puts it into its row of the request table, where a poll or an abort finds it.
The variants of an operation differ in whom they name (an NP id, an account, a
virtual user) and in the kind of array they fill, which are arguments here.
-/

namespace NpTus

open LockProgram NpHandler HandlerState NpScore

def tusMaxTitleCtx : Nat := 32
def tusMaxRequests : Nat := 256

/-! ## Title contexts and requests -/

def addTitleCtx (serviceLabel : Int) (npId : Bytes) (s : HandlerState) : Int × HandlerState :=
  if s.tusTitleCtxs.length ≥ tusMaxTitleCtx then (communityTooManyObjects, s)
  else
    (s.nextTusCtxId,
      { s with
        nextTusCtxId := s.nextTusCtxId + 1
        tusTitleCtxs := s.tusTitleCtxs ++ [{ id := s.nextTusCtxId, serviceLabel, npId }] })

/-- `sceNpTusCreateNpTitleCtx`, to which the A and the TSS variants lead. -/
def createNpTitleCtx (rejected : Option Int) (serviceLabel : Int) (npId : Bytes) :
    Handler Returned :=
  match rejected with
  | some error => pure (some error)
  | none => do
    let id ← Prog.locked .other (addTitleCtx serviceLabel npId)
    pure (some id)

def addRequest (titleCtxId : Nat) (s : HandlerState) : Int × HandlerState :=
  match s.tusTitle? titleCtxId with
  | none => (communityInvalidId, s)
  | some _ =>
    if s.tusRequests.length ≥ tusMaxRequests then (communityTooManyObjects, s)
    else
      (s.nextTusReqId,
        { s with
          nextTusReqId := s.nextTusReqId + 1
          tusRequests := s.tusRequests ++ [{ reqId := s.nextTusReqId, titleCtxId }] })

def createRequest (titleCtxId : Nat) : Handler Returned := do
  let id ← Prog.locked .other (addRequest titleCtxId)
  pure (some id)

def deleteNpTitleCtx (titleCtxId : Nat) : Handler Returned := do
  let ret ← Prog.locked (.deleteTitle .tus titleCtxId) (deleteTitle .tus titleCtxId)
  pure (some ret)

def deleteRequest (reqId : Nat) : Handler Returned := do
  let ret ← Prog.locked (.delete ⟨.tus, reqId⟩) (NpHandler.deleteRequest ⟨.tus, reqId⟩)
  pure (some ret)

/-- The context of the running operation is copied under the lock and gets its result after. -/
def abortRequest (reqId : Nat) : Handler Returned := do
  match ← reads (·.tusRequest? reqId) with
  | none => pure (some communityInvalidId)
  | some row =>
    Prog.update (.abort ⟨.tus, reqId⟩ row.ctx) (kill ⟨.tus, reqId⟩ row.ctx communityAborted)
    pure (some orbisOk)

/-- What `PollAsync` sees: a request not started or still running (1), or its result (0). -/
def pollAsync (reqId : Nat) (s : HandlerState) : Int × Option Int :=
  match s.tusRequest? reqId with
  | none => (communityInvalidId, none)
  | some row =>
    match row.ctx with
    | none => (1, none)
    | some ref =>
      match s.result? ref with
      | none => (1, none)
      | some result => (0, some result)

/-! ## Transfers -/

/-- What `SameTarget` compares. -/
structure XferKey where
  slotId : Int
  accountId : Int := 0
  name : Bytes := []
  deriving DecidableEq, Repr

def sameTarget (key : XferKey) (x : NpTusDataXfer) : Bool :=
  x.active && x.slotId = key.slotId && x.accountId = key.accountId && x.virtualUser = key.name

def beginXfer (key : XferKey) : NpTusDataXfer :=
  { active := true, slotId := key.slotId, accountId := key.accountId, virtualUser := key.name }

def withXfer (reqId : Nat) (f : NpTusDataXfer → NpTusDataXfer) (s : HandlerState) : HandlerState :=
  { s with
    tusRequests := KeyedTable.adjust NpTusRequest.reqId reqId
      (fun row => { row with xfer := f row.xfer }) s.tusRequests }

def xferOf (reqId : Nat) (s : HandlerState) : NpTusDataXfer :=
  ((s.tusRequest? reqId).map (·.xfer)).getD {}

/-- The offset a download goes on from, after a call for `recvSize` bytes if there is a buffer. -/
def advanceDownload (reqId : Nat) (key : XferKey) (recvSize : Option Nat) (s : HandlerState) :
    Nat × HandlerState :=
  let x := if sameTarget key (xferOf reqId s) then xferOf reqId s else beginXfer key
  (x.recvOffset,
    withXfer reqId
      (fun _ => { x with recvOffset := (x.recvOffset + recvSize.getD 0) % 2 ^ 64 }) s)

/-- A TSS download of a new slot starts where the caller says; one that goes on starts where it
stood, unless the caller says otherwise. -/
def advanceTss (reqId : Nat) (slotId : Int) (offset : Option Nat) (recvSize : Option Nat)
    (s : HandlerState) : Option Nat × HandlerState :=
  let same := sameTarget { slotId } (xferOf reqId s)
  let (position, s) := advanceDownload reqId { slotId } recvSize s
  (if same ∧ offset = none then some position else offset, s)

structure UploadChunk where
  totalSize : Nat
  data : Bytes
  info : Option Bytes

/-- One chunk of an upload; the whole blob and its info once it is there. -/
def bufferUpload (reqId : Nat) (key : XferKey) (chunk : UploadChunk) (s : HandlerState) :
    Option (Bytes × Bytes) × HandlerState :=
  let x := xferOf reqId s
  let x := if sameTarget key x then x
    else { beginXfer key with
      totalSize := chunk.totalSize
      info := (chunk.info.getD []).take 384 }
  let x := { x with sendBuf := x.sendBuf ++ chunk.data }
  if x.sendBuf.length ≥ x.totalSize then
    (some (x.sendBuf, x.info), withXfer reqId (fun _ => {}) s)
  else (none, withXfer reqId (fun _ => x) s)

/-! ## Operations -/

/-- `ResolveTus`: the label and the name of the title context, then the user of that name. -/
structure TusCaller where
  userId : Int
  serviceLabel : Int
  self : Bytes

def resolveTus (reqId : Nat) : Handler (Option TusCaller) := do
  let title ← reads (fun s =>
    (s.tusRequest? reqId).bind (fun row => s.tusTitle? row.titleCtxId))
  match title with
  | none => pure none
  | some title =>
    let userId ← reads (getUserIdByOnlineId title.npId)
    pure (some { userId, serviceLabel := title.serviceLabel, self := title.npId })

/-- A failed submission is returned, and the new context is left without a result. -/
def endSubmit (call ref : Nat) (isAsync : Bool) (submit : Int) : Handler Returned :=
  if submit < 0 then do
    Prog.update (.submitFailed call ref) (started call ref)
    pure (some submit)
  else pure (if isAsync then some orbisOk else none)

def withTusRequest (reqId : Nat) (rejected : Option Int)
    (body : TusCaller → Handler Returned) : Handler Returned :=
  match rejected with
  | some error => pure (some error)
  | none => do
    match ← resolveTus reqId with
    | none => pure (some communityInvalidId)
    | some caller => body caller

section Operations

variable (call reqId : Nat) (rejected : Option Int) (isAsync : Bool)

/-- The operations without a transfer. -/
def submitOperation (message : TusCaller → ShadNetClient → Message) (outputs : Outputs) :
    Handler Returned :=
  withTusRequest reqId rejected (fun caller => do
    let ref ← Prog.locked (.begin call ⟨.tus, reqId⟩) (beginTus call reqId)
    let submit ← submitTus call ref caller.userId caller.serviceLabel (message caller) outputs
    endSubmit call ref isAsync submit)

/-- Whom an operation is about: an NP id, or the caller's own; an account; a virtual user. -/
inductive Owner where
  | npId (given : Bytes)
  | account (accountId : Int)
  | virtualUser (name : Bytes)
  deriving DecidableEq, Repr

def Owner.target (owner : Owner) (caller : TusCaller) (client : ShadNetClient) : TusTarget :=
  match owner with
  | npId given => tusTarget (if given = [] then caller.self else given) [] 0 client
  | account accountId => tusTarget [] [] accountId client
  | virtualUser name => tusTarget [] name 0 client

def Owner.xferKey (owner : Owner) (caller : TusCaller) (slotId : Int) : XferKey :=
  match owner with
  | npId given => { slotId, name := if given = [] then caller.self else given }
  | account accountId => { slotId, accountId }
  | virtualUser name => { slotId, name }

/-- The kind of an output array. -/
inductive Variant where
  | plain
  | a
  | crossSave
  deriving DecidableEq, Repr

def variableOutputs (variant : Variant) (target : Pointer) (arrayNum : Nat) : Outputs :=
  match variant with
  | .plain => { variableArray := some target, arrayNum }
  | .a => { variableArrayA := some target, arrayNum }
  | .crossSave => { variableArrayCs := some target, arrayNum }

def statusOutputs (variant : Variant) (target : Option Pointer) (arrayNum : Nat) : Outputs :=
  match variant with
  | .plain => { statusArray := target, arrayNum }
  | .a => { statusArrayA := target, arrayNum }
  | .crossSave => { statusArrayCs := target, arrayNum }

def getMultiSlotVariable (owner : Owner) (slotIds : List Int) (variant : Variant)
    (target : Pointer) : Handler Returned :=
  submitOperation call reqId rejected isAsync
    (fun caller client => .tusGetMultiSlotVariable (owner.target caller client) slotIds)
    (variableOutputs variant target slotIds.length)

def setMultiSlotVariable (owner : Owner) (slotIds values : List Int) : Handler Returned :=
  submitOperation call reqId rejected isAsync
    (fun caller client => .tusSetMultiSlotVariable (owner.target caller client) slotIds values) {}

def addAndGetVariable (owner : Owner) (slotId inValue : Int) (guard : TusGuard)
    (variant : Variant) (target : Pointer) : Handler Returned :=
  submitOperation call reqId rejected isAsync
    (fun caller client => .tusAddAndGetVariable (owner.target caller client) slotId inValue guard)
    (variableOutputs variant target 1)

def tryAndSetVariable (owner : Owner) (slotId opeType value : Int) (compare : Option Int)
    (guard : TusGuard) (variant : Variant) (target : Pointer) : Handler Returned :=
  submitOperation call reqId rejected isAsync
    (fun caller client =>
      .tusTryAndSetVariable (owner.target caller client) slotId opeType value compare guard)
    (variableOutputs variant target 1)

def getMultiSlotDataStatus (owner : Owner) (slotIds : List Int) (variant : Variant)
    (target : Pointer) : Handler Returned :=
  submitOperation call reqId rejected isAsync
    (fun caller client => .tusGetMultiSlotDataStatus (owner.target caller client) slotIds)
    (statusOutputs variant (some target) slotIds.length)

def deleteMultiSlotData (owner : Owner) (slotIds : List Int) : Handler Returned :=
  submitOperation call reqId rejected isAsync
    (fun caller client => .tusDeleteMultiSlotData (owner.target caller client) slotIds) {}

def deleteMultiSlotVariable (owner : Owner) (slotIds : List Int) : Handler Returned :=
  submitOperation call reqId rejected isAsync
    (fun caller client => .tusDeleteMultiSlotVariable (owner.target caller client) slotIds) {}

/-- The users of one slot: NP ids, where an empty one is the caller's, or virtual users, or
accounts. -/
inductive Owners where
  | npIds (given : List Bytes)
  | virtualUsers (names : List Bytes)
  | accounts (accountIds : List Int)
  deriving DecidableEq, Repr

def Owners.count : Owners → Nat
  | npIds given => given.length
  | virtualUsers names => names.length
  | accounts accountIds => accountIds.length

def Owners.npIdList (owners : Owners) (caller : TusCaller) : List Bytes :=
  match owners with
  | npIds given => given.map (fun npId => if npId = [] then caller.self else npId)
  | _ => []

def Owners.virtualUserList : Owners → List Bytes
  | virtualUsers names => names
  | _ => []

def Owners.accountList : Owners → List Int
  | accounts accountIds => accountIds
  | _ => []

def getMultiUserDataStatus (owners : Owners) (slotId : Int) (variant : Variant)
    (target : Pointer) : Handler Returned :=
  submitOperation call reqId rejected isAsync
    (fun caller _ => .tusGetMultiUserDataStatus slotId (owners.npIdList caller)
      owners.virtualUserList owners.accountList)
    (statusOutputs variant (some target) owners.count)

def getMultiUserVariable (owners : Owners) (slotId : Int) (variant : Variant)
    (target : Pointer) : Handler Returned :=
  submitOperation call reqId rejected isAsync
    (fun caller _ => .tusGetMultiUserVariable slotId (owners.npIdList caller)
      owners.virtualUserList owners.accountList)
    (variableOutputs variant target owners.count)

/-- What a friends query asks for and where its number of hits goes. -/
structure FriendsQuery where
  slotId : Int
  includeSelf : Bool
  sortType : Int
  arrayLen : Nat
  startOffset : Nat := 0
  hits : Option Pointer := none

def getFriendsDataStatus (query : FriendsQuery) (variant : Variant) (target : Pointer) :
    Handler Returned :=
  submitOperation call reqId rejected isAsync
    (fun _ _ => .tusGetFriendsDataStatus query.slotId query.includeSelf query.sortType
      query.arrayLen query.startOffset)
    { statusOutputs variant (some target) query.arrayLen with totalOut := query.hits }

def getFriendsVariable (query : FriendsQuery) (variant : Variant) (target : Pointer) :
    Handler Returned :=
  submitOperation call reqId rejected isAsync
    (fun _ _ => .tusGetFriendsVariable query.slotId query.includeSelf query.sortType
      query.arrayLen query.startOffset)
    { variableOutputs variant target query.arrayLen with totalOut := query.hits }

/-- Where a piece of data and its status go. -/
structure DataOutputs where
  status : Option Pointer
  statusSize : Nat
  data : Option Pointer
  recvSize : Nat

def DataOutputs.asked (out : DataOutputs) : Option Nat :=
  if out.data.isSome then some out.recvSize else none

def getData (owner : Owner) (slotId : Int) (variant : Variant) (out : DataOutputs) :
    Handler Returned :=
  withTusRequest reqId rejected (fun caller => do
    let offset ← Prog.locked .other
      (advanceDownload reqId (owner.xferKey caller slotId) out.asked)
    let ref ← Prog.locked (.begin call ⟨.tus, reqId⟩) (beginTus call reqId)
    let submit ← submitTus call ref caller.userId caller.serviceLabel
      (fun client => .tusGetData (owner.target caller client) slotId)
      { statusOutputs variant out.status 1 with
        statusCap := out.statusSize
        dataOut := out.data
        dataCap := out.asked.getD 0
        dataOffset := offset }
    endSubmit call ref isAsync submit)

/-- Only the last chunk is sent; the ones before it are done at once. -/
def setData (owner : Owner) (slotId : Int) (chunk : UploadChunk) (guard : TusGuard) :
    Handler Returned :=
  withTusRequest reqId rejected (fun caller => do
    let blob ← Prog.locked .other (bufferUpload reqId (owner.xferKey caller slotId) chunk)
    let ref ← Prog.locked (.begin call ⟨.tus, reqId⟩) (beginTus call reqId)
    match blob with
    | none =>
      finishWith call ref orbisOk
      pure (if isAsync then some orbisOk else none)
    | some (data, info) =>
      let submit ← submitTus call ref caller.userId caller.serviceLabel
        (fun client => .tusSetData (owner.target caller client) slotId data info guard) {}
      endSubmit call ref isAsync submit)

structure TssQuery where
  slotId : Int
  offset : Option Nat := none
  lastByte : Option Nat := none
  ifParam : Option (Int × Nat) := none

def tssGetData (query : TssQuery) (out : DataOutputs) : Handler Returned :=
  withTusRequest reqId rejected (fun caller => do
    let offset ← Prog.locked .other (advanceTss reqId query.slotId query.offset out.asked)
    let ref ← Prog.locked (.begin call ⟨.tus, reqId⟩) (beginTus call reqId)
    let submit ← submitTus call ref caller.userId caller.serviceLabel
      (fun _ => .tssGetData query.slotId offset query.lastByte query.ifParam)
      { tssStatusOut := out.status, dataOut := out.data, dataCap := out.asked.getD 0 }
    endSubmit call ref isAsync submit)

def tssGetSmallStorage (data : Option Pointer) (maxSize : Nat) (contentLength : Option Pointer) :
    Handler Returned :=
  submitOperation call reqId rejected isAsync (fun _ _ => .tssGetData 0 none none none)
    { dataOut := data
      dataCap := if data.isSome then maxSize else 0
      tssContentLengthOut := contentLength }

/-- `sceNpTssGetStorageAsync`, which only pretends. -/
def tssGetStorage : Handler Returned := do
  let ret ← Prog.locked (.begin call ⟨.tus, reqId⟩) (fakeAsyncComplete call reqId)
  pure (some ret)

end Operations

end NpTus
