import ShadNet.Handler.DataDownloads

/-!
# Files of titles in ranges

A TSS file is read on from an offset that stands in the transfer record of the request, where the
TUS transfers of the request have theirs. The request to the server has that offset in it and not
the size of the buffer: the server sends the file from there on, and the client keeps the
beginning of it. The record is moved on by the size of the buffer before the request is made.

Replies do not touch the record, so a call has here the answer that it gets, whenever that comes.
-/

namespace NpTus

open NpHandler HandlerState

/-! ## Calls -/

def communityInvalidAlignment : Int := orbisError 0x80550714

def tssMaxSlotId : Int := 15

/-- `sizeof(OrbisNpTssDataStatus)`. -/
def tssDataStatusSize : Nat := 24

/-- `sizeof(OrbisNpTssGetDataOptParam)`. -/
def tssGetDataOptParamSize : Nat := 32

/-- `OrbisNpTssGetDataOptParam`, with what its pointers lead to. -/
structure TssOption where
  size : Nat
  offset : Option Nat := none
  lastByte : Option Nat := none
  ifParam : Option (Int × Nat) := none

def TssSlot (slotId : Int) : Prop := 0 ≤ slotId ∧ slotId ≤ tssMaxSlotId

instance (slotId : Int) : Decidable (TssSlot slotId) := inferInstanceAs (Decidable (_ ∧ _))

/-- The checks of `sceNpTssGetDataAsync` before it looks for the request. -/
def tssArgumentError (slotId : Int) (out : DataOutputs) (option : Option TssOption) : Option Int :=
  if out.status = none then some communityInsufficientArgument
  else if out.statusSize ≠ tssDataStatusSize then some communityInvalidAlignment
  else if ¬TssSlot slotId then some communityInvalidArgument
  else match option with
    | none => none
    | some option =>
      if option.size ≠ tssGetDataOptParamSize then some communityInvalidAlignment else none

def tssQuery (slotId : Int) (option : Option TssOption) : TssQuery :=
  { slotId
    offset := option.bind (·.offset)
    lastByte := option.bind (·.lastByte)
    ifParam := option.bind (·.ifParam) }

/-- A reply with an error, or with a body that cannot be read. -/
structure FailedReply (pb : ShadNetProto) where
  error : ErrorType
  body : Bytes
  fails : error ≠ .noError ∨ (sizedBody body).bind pb.tssGetDataResponse = none

/-- What comes of a call whose arguments are good. -/
inductive TssAnswer (pb : ShadNetProto) where
  | unsubmitted
  | failed (reply : FailedReply pb)
  | served

structure TssCall (pb : ShadNetProto) where
  slotId : Int
  out : DataOutputs
  option : Option TssOption := none
  answer : TssAnswer pb
  size : out.recvSize < 2 ^ 64

def TssCall.query {pb : ShadNetProto} (call : TssCall pb) : TssQuery :=
  tssQuery call.slotId call.option

def TssCall.rejected {pb : ShadNetProto} (call : TssCall pb) : Option Int :=
  tssArgumentError call.slotId call.out call.option

/-! ## The server -/

/-- The file from an offset through a last byte. -/
def requestedRange (file : Bytes) (offset lastByte : Option Nat) : Bytes :=
  (match lastByte with
    | none => file
    | some last => file.take (last + 1)).drop (offset.getD 0)

/-- A server that has a file for each slot. `withholds` where a modification condition is not
met, and nothing of the file is sent. -/
structure TssServer where
  pb : ShadNetProto
  file : Int → Bytes
  withholds : Int → Int × Nat → Bool
  response : TssQuery → TssGetDataResponse
  body : TssQuery → Bytes
  small : ∀ slotId, (file slotId).length < 2 ^ 64
  stores : ∀ query, (response query).data =
    if query.ifParam.any (withholds query.slotId) then []
    else requestedRange (file query.slotId) query.offset query.lastByte
  carries : ∀ query, (sizedBody (body query)).bind pb.tssGetDataResponse = some (response query)

/-- What the server has for this query when it is read from this offset on. -/
def TssServer.available (server : TssServer) (query : TssQuery) (start : Nat) : Bytes :=
  if query.ifParam.any (server.withholds query.slotId) then []
  else requestedRange (server.file query.slotId) (some start) query.lastByte

/-! ## Runs of calls -/

/-- What a call was given: `start` is the offset the server took, `before` the end of the last
byte that the slot had been given. -/
structure TssDelivery where
  query : TssQuery
  served : Bool
  asked : Nat
  before : Nat
  start : Nat
  bytes : Bytes

structure TssRun where
  state : HandlerState
  deliveries : List TssDelivery := []

inductive TssOp (pb : ShadNetProto) where
  | tssGetData (call : TssCall pb)
  | getData (call : GetDataCall)
  | setData (owner : Owner) (slotId : Int) (chunk : UploadChunk)

/-- Where the last byte ends that a slot was given. -/
def dataEnd (slotId : Int) (deliveries : List TssDelivery) : Nat :=
  deliveries.foldl (fun position d =>
    if d.query.slotId = slotId ∧ d.bytes ≠ [] then d.start + d.bytes.length else position) 0

section Steps

variable (server : TssServer) (reqId : Nat) (caller : TusCaller)

/-- The bytes that end up in the buffer of a call with this offset in its request. -/
def TssCall.received (call : TssCall server.pb) (offset : Option Nat) : Bytes :=
  let outputs : Outputs :=
    { tssStatusOut := call.out.status
      dataOut := call.out.data
      dataCap := call.out.asked.getD 0 }
  match call.answer with
  | .unsubmitted => []
  | .failed reply =>
    bytesOf (tusCompletion server.pb ⟨.tssGetData, reply.error, reply.body⟩ outputs).stores
  | .served =>
    bytesOf (tusCompletion server.pb
      ⟨.tssGetData, .noError, server.body { call.query with offset }⟩ outputs).stores

def TssCall.isServed {pb : ShadNetProto} (call : TssCall pb) : Bool :=
  match call.answer with
  | .unsubmitted => false
  | .failed _ => false
  | .served => true

/-- `TssGetData` with the answer it gets. -/
def tssGetDataRange (call : TssCall server.pb) (r : TssRun) : TssRun :=
  match call.rejected with
  | some _ => r
  | none =>
    let (offset, s) :=
      advanceTss reqId call.slotId call.query.offset call.out.asked r.state
    { state := s
      deliveries := r.deliveries ++
        [{ query := call.query
           served := call.isServed
           asked := call.out.asked.getD 0
           before := dataEnd call.slotId r.deliveries
           start := offset.getD 0
           bytes := call.received server offset }] }

def tssStep (op : TssOp server.pb) (r : TssRun) : TssRun :=
  match op with
  | .tssGetData call => tssGetDataRange server reqId call r
  | .getData call =>
    { r with state := (advanceDownload reqId (call.key caller) call.out.asked r.state).2 }
  | .setData owner slotId chunk =>
    { r with state := (bufferUpload reqId (owner.xferKey caller slotId) chunk r.state).2 }

end Steps

/-! ## What a call should be given -/

/-- A call without offset is given the bytes behind the last one of its slot, and one with an
offset those from there on; a call that fails is given none. -/
structure FollowsOn (server : TssServer) (d : TssDelivery) : Prop where
  bytes : d.bytes =
    if d.served then
      (server.available d.query (d.query.offset.getD d.before)).take d.asked
    else []
  start : d.bytes ≠ [] → d.start = d.query.offset.getD d.before

/-- The next call for a slot goes on where the data of the slot ended. -/
structure EndsWithData (server : TssServer) (reqId : Nat) (r : TssRun) : Prop where
  follows : ∀ d ∈ r.deliveries, FollowsOn server d
  position : ∀ slotId, TssSlot slotId →
    readPosition reqId { slotId } r.state = dataEnd slotId r.deliveries

/-- The state with the position of every TSS slot at the start. -/
def withoutPositions (reqId : Nat) (s : HandlerState) : HandlerState :=
  withXfer reqId (fun x =>
    if TssSlot x.slotId ∧ x.accountId = 0 ∧ x.virtualUser = [] then { x with recvOffset := 0 }
    else x) s

/-- A TSS call that has no offset moves the position of its slot by what it was given. A TUS
call does the same whatever the positions are, and leaves them. -/
def MovesByData (server : TssServer) (reqId : Nat) (caller : TusCaller) (op : TssOp server.pb)
    (r r' : TssRun) : Prop :=
  match op with
  | .tssGetData call => call.rejected = none → call.query.offset = none →
      readPosition reqId { slotId := call.slotId } r'.state =
        readPosition reqId { slotId := call.slotId } r.state +
          (call.received server
            (advanceTss reqId call.slotId none call.out.asked r.state).1).length
  | .getData call =>
      (advanceDownload reqId (call.key caller) call.out.asked r.state).1 =
          (advanceDownload reqId (call.key caller) call.out.asked
            (withoutPositions reqId r.state)).1 ∧
        ∀ slotId, TssSlot slotId →
          readPosition reqId { slotId } r'.state = readPosition reqId { slotId } r.state
  | .setData owner slotId chunk =>
      (bufferUpload reqId (owner.xferKey caller slotId) chunk r.state).1 =
          (bufferUpload reqId (owner.xferKey caller slotId) chunk
            (withoutPositions reqId r.state)).1 ∧
        ∀ slotId, TssSlot slotId →
          readPosition reqId { slotId } r'.state = readPosition reqId { slotId } r.state

/-- No slot has a position but the one that is excepted. -/
def NoPosition (reqId : Nat) (except : Int → Prop) (r : TssRun) : Prop :=
  ∀ slotId, TssSlot slotId → ¬except slotId → readPosition reqId { slotId } r.state = 0

/-- The bytes that are asked for are there, and where the buffer says: up to the end of it, when
the call has no offset of its own. -/
def FillsBuffer (server : TssServer) (reqId : Nat) (call : TssCall server.pb) (r : TssRun) :
    Prop :=
  match call.query.offset with
  | none => call.out.asked.getD 0 ≤ (server.available call.query
      (readPosition reqId { slotId := call.slotId } r.state)).length
  | some offset => server.available call.query offset ≠ [] ∧
      offset + min (call.out.asked.getD 0) (server.available call.query offset).length =
        (readPosition reqId { slotId := call.slotId } r.state + call.out.asked.getD 0) % 2 ^ 64

/-- An upload keeps the record where it goes on with it and is not done. -/
def KeepsRecord (key : XferKey) (chunk : UploadChunk) (x : NpTusDataXfer) : Prop :=
  sameTarget key x = true ∧ (x.sendBuf ++ chunk.data).length < x.totalSize

/-- The record has one position, so a call for another slot has to find none. A TSS call that
asks for bytes has to be given as many. A TUS download forgets every position and has to
leave none; an upload forgets them too unless it keeps the record. -/
def KeepsInStep (server : TssServer) (reqId : Nat) (caller : TusCaller) (op : TssOp server.pb)
    (r : TssRun) : Prop :=
  match op with
  | .tssGetData call => call.rejected = none →
      NoPosition reqId (· = call.slotId) r ∧
        (0 < call.out.asked.getD 0 → call.isServed = true ∧ FillsBuffer server reqId call r)
  | .getData call => NoPosition reqId (fun _ => False) r ∧
      (TssSlot call.slotId → call.key caller = { slotId := call.slotId } →
        call.out.asked.getD 0 = 0)
  | .setData owner slotId chunk =>
      NoPosition reqId (fun _ => False) r ∨
        KeepsRecord (owner.xferKey caller slotId) chunk (xferOf reqId r.state)

/-! ### The record -/

section Record

variable {reqId : Nat} {key key' : XferKey} {s : HandlerState} {row : NpTusRequest}

theorem sameTarget_unique {x : NpTusDataXfer} (same : sameTarget key x = true)
    (same' : sameTarget key' x = true) : key' = key := by
  obtain ⟨slotId, accountId, name⟩ := key
  obtain ⟨slotId', accountId', name'⟩ := key'
  simp only [sameTarget, Bool.and_eq_true, decide_eq_true_eq] at same same'
  obtain ⟨⟨⟨-, rfl⟩, rfl⟩, rfl⟩ := same
  obtain ⟨⟨⟨-, rfl⟩, rfl⟩, rfl⟩ := same'
  rfl

theorem readPosition_of_ne (known : s.tusRequest? reqId = some row)
    (same : sameTarget key row.xfer = true) (other : key' ≠ key) :
    readPosition reqId key' s = 0 := by
  rw [readPosition, xferOf_eq known]
  by_cases same' : sameTarget key' row.xfer = true
  · exact absurd (sameTarget_unique same same') other
  · exact if_neg same'

/-- A download of another key forgets the position. -/
theorem readPosition_advanceDownload_of_ne (known : s.tusRequest? reqId = some row)
    (recvSize : Option Nat) (other : key' ≠ key) :
    readPosition reqId key' (advanceDownload reqId key recvSize s).2 = 0 := by
  have same : sameTarget key (movedOn key recvSize row).xfer = true := sameTarget_readsOn
  exact readPosition_of_ne (advanceDownload_eq known recvSize).2 same other

theorem readPosition_advanceDownload_zero (known : s.tusRequest? reqId = some row)
    (small : row.xfer.recvOffset < 2 ^ 64) {recvSize : Option Nat} (nothing : recvSize.getD 0 = 0) :
    readPosition reqId key (advanceDownload reqId key recvSize s).2 = readPosition reqId key s := by
  rw [readPosition_advanceDownload known, nothing, Nat.add_zero]
  exact Nat.mod_eq_of_lt (readPosition_lt known small)

theorem readPosition_bufferUpload_of_keeps {chunk : UploadChunk}
    (known : s.tusRequest? reqId = some row) (keeps : KeepsRecord key chunk row.xfer) :
    readPosition reqId key' (bufferUpload reqId key chunk s).2 = readPosition reqId key' s := by
  obtain ⟨same, short⟩ := keeps
  have unfinished : ¬(row.xfer.sendBuf ++ chunk.data).length ≥ row.xfer.totalSize := by omega
  rw [bufferUpload, xferOf_eq known, if_pos same]
  dsimp only
  rw [if_neg unfinished, readPosition, xferOf_eq (tusRequest?_withXfer known), readPosition,
    xferOf_eq known]
  rfl

theorem readPosition_bufferUpload_of_not_keeps {chunk : UploadChunk}
    (known : s.tusRequest? reqId = some row) (forgets : ¬KeepsRecord key chunk row.xfer) :
    readPosition reqId key' (bufferUpload reqId key chunk s).2 = 0 := by
  rw [bufferUpload, xferOf_eq known, ← goesOn]
  dsimp only
  by_cases done : ((goesOn key chunk row.xfer).sendBuf ++ chunk.data).length ≥
      (goesOn key chunk row.xfer).totalSize
  · rw [if_pos done, readPosition, xferOf_eq (tusRequest?_withXfer known)]
    exact ite_self _
  · have begun : sameTarget key row.xfer ≠ true := by
      intro same
      rw [goesOn, if_pos same] at done
      exact forgets ⟨same, Nat.lt_of_not_ge done⟩
    rw [if_neg done, readPosition, xferOf_eq (tusRequest?_withXfer known), goesOn, if_neg begun]
    exact ite_self _

/-- What `withoutPositions` does to a record. -/
theorem readPosition_withoutPositions (known : s.tusRequest? reqId = some row) :
    readPosition reqId key (withoutPositions reqId s) =
      if TssSlot key.slotId ∧ key = { slotId := key.slotId } then 0
      else readPosition reqId key s := by
  rw [withoutPositions, readPosition, xferOf_eq (tusRequest?_withXfer known), readPosition,
    xferOf_eq known]
  by_cases positioned :
      TssSlot row.xfer.slotId ∧ row.xfer.accountId = 0 ∧ row.xfer.virtualUser = []
  · rw [if_pos positioned]
    have alike : sameTarget key { row.xfer with recvOffset := 0 } = sameTarget key row.xfer := rfl
    by_cases same : sameTarget key row.xfer = true
    · have mine : sameTarget { slotId := row.xfer.slotId } row.xfer = true := by
        have active : row.xfer.active = true := by
          simp only [sameTarget, Bool.and_eq_true] at same
          exact same.1.1.1
        simp [sameTarget, active, positioned.2.1, positioned.2.2]
      have named := sameTarget_unique mine same
      have slot : TssSlot key.slotId ∧ key = { slotId := key.slotId } := by
        rw [named]
        exact ⟨positioned.1, rfl⟩
      rw [if_pos slot]
      exact ite_self _
    · rw [alike, if_neg same, if_neg same]
      exact (ite_self _).symm
  · rw [if_neg positioned]
    by_cases slot : TssSlot key.slotId ∧ key = { slotId := key.slotId }
    · have other : sameTarget key row.xfer ≠ true := by
        intro same
        rw [slot.2] at same
        simp only [sameTarget, Bool.and_eq_true, decide_eq_true_eq] at same
        obtain ⟨⟨⟨-, slotId⟩, accountId⟩, name⟩ := same
        exact positioned ⟨slotId ▸ slot.1, accountId, name⟩
      rw [if_pos slot, if_neg other]
    · exact (if_neg slot).symm

/-- What an upload sends does not depend on the position. -/
theorem bufferUpload_fst {chunk : UploadChunk} (known : s.tusRequest? reqId = some row) :
    (bufferUpload reqId key chunk s).1 =
      if ((goesOn key chunk row.xfer).sendBuf ++ chunk.data).length ≥
          (goesOn key chunk row.xfer).totalSize then
        some ((goesOn key chunk row.xfer).sendBuf ++ chunk.data, (goesOn key chunk row.xfer).info)
      else none := by
  rw [bufferUpload, xferOf_eq known, ← goesOn]
  dsimp only
  by_cases full : ((goesOn key chunk row.xfer).sendBuf ++ chunk.data).length ≥
      (goesOn key chunk row.xfer).totalSize
  · rw [if_pos full, if_pos full]
  · rw [if_neg full, if_neg full]

theorem bufferUpload_withoutPositions {chunk : UploadChunk}
    (known : s.tusRequest? reqId = some row) :
    (bufferUpload reqId key chunk (withoutPositions reqId s)).1 =
      (bufferUpload reqId key chunk s).1 := by
  rw [bufferUpload_fst known, withoutPositions, bufferUpload_fst (tusRequest?_withXfer known)]
  by_cases positioned :
      TssSlot row.xfer.slotId ∧ row.xfer.accountId = 0 ∧ row.xfer.virtualUser = []
  · rw [if_pos positioned]
    have alike : sameTarget key { row.xfer with recvOffset := 0 } = sameTarget key row.xfer := rfl
    by_cases same : sameTarget key row.xfer = true
    · rw [goesOn, goesOn, alike, if_pos same, if_pos same]
    · rw [goesOn, goesOn, alike, if_neg same, if_neg same]
  · rw [if_neg positioned]

end Record

/-! ### What the server sends -/

theorem bytesOf_tssStatus (target : Option Pointer) (modified : Nat) (status : Int)
    (contentLength : Nat) :
    bytesOf (storeAt target (.tssStatus modified status contentLength)) = [] := by
  cases target with
  | none => rfl
  | some target => rfl

section Server

variable {server : TssServer} {query : TssQuery} {start : Nat}

theorem length_requestedRange_le (file : Bytes) (offset lastByte : Option Nat) :
    (requestedRange file offset lastByte).length ≤ file.length - offset.getD 0 := by
  unfold requestedRange
  cases lastByte with
  | none => exact Nat.le_of_eq List.length_drop
  | some last =>
    rw [List.length_drop, List.length_take]
    omega

/-- What is there to be read ends within the file. -/
theorem end_of_available (some_ : server.available query start ≠ []) :
    start + (server.available query start).length < 2 ^ 64 := by
  have small := server.small query.slotId
  have positive := List.length_pos_iff.mpr some_
  have within : (server.available query start).length ≤
      (server.file query.slotId).length - start := by
    rw [TssServer.available]
    split
    · exact Nat.zero_le _
    · exact length_requestedRange_le _ (some start) _
  omega

theorem stores_available (offset : Option Nat) :
    (server.response { query with offset }).data =
      server.available query (offset.getD 0) := by
  rw [server.stores, TssServer.available]
  rfl

theorem received_eq {call : TssCall server.pb} (offset : Option Nat) :
    call.received server offset =
      if call.isServed then
        (server.available call.query (offset.getD 0)).take (call.out.asked.getD 0)
      else [] := by
  rw [TssCall.received, TssCall.isServed]
  cases call.answer with
  | unsubmitted => rfl
  | failed reply =>
    dsimp only
    rw [tusCompletion]
    by_cases error : reply.error ≠ .noError
    · rw [if_pos error]
      rfl
    · have unread := reply.fails.resolve_left error
      rw [if_neg error, tssCompletion, unread]
      rfl
  | served =>
    dsimp only
    rw [tusCompletion, if_neg (not_not_intro rfl), tssCompletion, server.carries]
    dsimp only
    rw [stores_available, bytesOf_append, bytesOf_append, bytesOf_copyTo, bytesOf_number,
      bytesOf_tssStatus, List.append_nil, List.append_nil, if_pos rfl]
    cases buffer : call.out.data with
    | none => simp [DataOutputs.asked, buffer]
    | some target => rfl

end Server

end NpTus
