import ShadNet.Handler.DataUploads

/-!
# Data of titles in slices

Every call for data asks the server for the whole of it and copies a slice, from the offset that
the transfer record has. The record is moved on when the call is made, whatever comes of it. The
runs below are sequences of calls on one request; beside the state they carry the slices that the
calls which succeeded were given.
-/

namespace NpTus

open NpHandler HandlerState

/-! ## Runs of calls -/

/-- A server whose replies carry the data it has stored. -/
structure TusServer where
  pb : ShadNetProto
  blob : XferTarget → Bytes
  response : XferTarget → TusGetDataResponse
  body : XferTarget → Bytes
  stores : ∀ target, (response target).data = blob target
  carries : ∀ target, (sizedBody (body target)).bind pb.tusGetDataResponse =
    some (response target)

/-- `answered` where the call is submitted and a good reply comes. -/
structure GetDataCall where
  owner : Owner
  slotId : Int
  variant : Variant := .plain
  out : DataOutputs
  answered : Bool
  size : out.recvSize < 2 ^ 64

/-- A slice that a call was given: how much it asked for, how much its target had been given
before, and from where on it was taken. -/
structure DataSlice where
  target : XferTarget
  asked : Nat
  before : Nat
  start : Nat
  bytes : Bytes
  result : Int
  deriving DecidableEq, Repr

structure DataRun where
  state : HandlerState
  slices : List DataSlice := []

inductive DataOp where
  | getData (call : GetDataCall)
  | setData (owner : Owner) (slotId : Int) (chunk : UploadChunk)
  | tssGetData (slotId : Int) (offset recvSize : Option Nat)

/-- How many bytes the target has been given. -/
def givenTo (target : XferTarget) (slices : List DataSlice) : Nat :=
  ((slices.filter fun slice => slice.target = target).map (·.bytes.length)).sum

/-- Where the next call with this key reads on. -/
def readPosition (reqId : Nat) (key : XferKey) (s : HandlerState) : Nat :=
  if sameTarget key (xferOf reqId s) then (xferOf reqId s).recvOffset else 0

section Steps

variable (server : TusServer) (reqId : Nat) (caller : TusCaller)

def GetDataCall.target (call : GetDataCall) : XferTarget :=
  ⟨call.owner.resolved caller, call.slotId⟩

def GetDataCall.key (call : GetDataCall) : XferKey := call.owner.xferKey caller call.slotId

/-- `GetData` with the reply of the server. -/
def getDataSlice (call : GetDataCall) (r : DataRun) : DataRun :=
  let (offset, s) := advanceDownload reqId (call.key caller) call.out.asked r.state
  if call.answered then
    let c := tusGetDataCompletion server.pb (server.body (call.target caller))
      { statusOutputs call.variant call.out.status 1 with
        statusCap := call.out.statusSize
        dataOut := call.out.data
        dataCap := call.out.asked.getD 0
        dataOffset := offset }
    { state := s
      slices := r.slices ++
        [{ target := call.target caller
           asked := call.out.asked.getD 0
           before := givenTo (call.target caller) r.slices
           start := offset
           bytes := bytesOf c.stores
           result := c.result }] }
  else { r with state := s }

def dataStep (op : DataOp) (r : DataRun) : DataRun :=
  match op with
  | .getData call => getDataSlice server reqId caller call r
  | .setData owner slotId chunk =>
    { r with state := (bufferUpload reqId (owner.xferKey caller slotId) chunk r.state).2 }
  | .tssGetData slotId offset recvSize =>
    { r with state := (advanceTss reqId slotId offset recvSize r.state).2 }

end Steps

/-! ## What a call should be given -/

/-- The slices of a target follow each other, and each is as long as there is data for it. -/
structure Right (server : TusServer) (slice : DataSlice) : Prop where
  result : slice.result = slice.bytes.length
  bytes : slice.bytes = ((server.blob slice.target).drop slice.before).take slice.asked
  start : slice.bytes ≠ [] → slice.start = slice.before

/-- What the target has been given is a beginning of its data. -/
def Consecutive (server : TusServer) (slices : List DataSlice) : Prop :=
  ∀ target, (slices.filter fun slice => slice.target = target).flatMap (·.bytes) <+:
    server.blob target

structure Delivers (server : TusServer) (r : DataRun) : Prop where
  right : ∀ slice ∈ r.slices, Right server slice
  consecutive : Consecutive server r.slices

/-- A call that fails leaves the read position of its target. -/
def KeepsPosition (reqId : Nat) (caller : TusCaller) (op : DataOp) (r r' : DataRun) : Prop :=
  match op with
  | .getData call => call.answered = false →
      readPosition reqId (call.key caller) r'.state = readPosition reqId (call.key caller) r.state
  | .setData .. => True
  | .tssGetData .. => True

/-- A call that asks for nothing does no harm. One that fails does, and one that succeeds has to
read on where its target was given data last, unless there is no more. -/
def Fits (server : TusServer) (reqId : Nat) (caller : TusCaller) (op : DataOp) (r : DataRun) :
    Prop :=
  match op with
  | .getData call =>
    0 < call.out.asked.getD 0 →
      call.answered = true ∧
        (readPosition reqId (call.key caller) r.state = givenTo (call.target caller) r.slices ∨
          ((server.blob (call.target caller)).length ≤
              readPosition reqId (call.key caller) r.state ∧
            (server.blob (call.target caller)).length ≤ givenTo (call.target caller) r.slices))
  | .setData .. => True
  | .tssGetData .. => True

/-! ### The record -/

section Record

variable {reqId : Nat} {key : XferKey} {s : HandlerState} {row : NpTusRequest}

/-- The record as a download goes on with it. -/
def readsOn (key : XferKey) (x : NpTusDataXfer) : NpTusDataXfer :=
  if sameTarget key x then x else beginXfer key

theorem readPosition_eq (known : s.tusRequest? reqId = some row) :
    readPosition reqId key s = (readsOn key row.xfer).recvOffset := by
  rw [readPosition, xferOf_eq known, readsOn]
  by_cases same : sameTarget key row.xfer = true
  · rw [if_pos same, if_pos same]
  · rw [if_neg same, if_neg same]
    rfl

theorem sameTarget_readsOn {x : NpTusDataXfer} {recvOffset : Nat} :
    sameTarget key { readsOn key x with recvOffset } = true := by
  rw [readsOn]
  by_cases same : sameTarget key x = true
  · rw [if_pos same]
    exact same
  · rw [if_neg same]
    simp [sameTarget, beginXfer]

/-- The row after a download of this size. -/
def movedOn (key : XferKey) (recvSize : Option Nat) (row : NpTusRequest) : NpTusRequest :=
  { row with
    xfer := { readsOn key row.xfer with
      recvOffset := ((readsOn key row.xfer).recvOffset + recvSize.getD 0) % 2 ^ 64 } }

theorem advanceDownload_eq (known : s.tusRequest? reqId = some row) (recvSize : Option Nat) :
    (advanceDownload reqId key recvSize s).1 = readPosition reqId key s ∧
      (advanceDownload reqId key recvSize s).2.tusRequest? reqId =
        some (movedOn key recvSize row) := by
  constructor
  · rw [readPosition_eq known, advanceDownload, xferOf_eq known]
    rfl
  · rw [advanceDownload, xferOf_eq known]
    exact tusRequest?_withXfer known

theorem readPosition_advanceDownload (known : s.tusRequest? reqId = some row)
    (recvSize : Option Nat) :
    readPosition reqId key (advanceDownload reqId key recvSize s).2 =
      (readPosition reqId key s + recvSize.getD 0) % 2 ^ 64 := by
  have same : sameTarget key (movedOn key recvSize row).xfer = true := sameTarget_readsOn
  rw [readPosition_eq (advanceDownload_eq known recvSize).2, readPosition_eq known, readsOn,
    if_pos same]
  rfl

end Record

/-! ### Slices -/

theorem statusOnly_dataStatusStores (outputs : Outputs) (received : Nat) (d : TusDataStatus) :
    bytesOf (dataStatusStores outputs received d) = [] := by
  rw [dataStatusStores]
  cases outputs.statusArrayA with
  | some target => rfl
  | none =>
    cases outputs.statusArrayCs with
    | some target => rfl
    | none =>
      cases outputs.statusArray with
      | some target => rfl
      | none => rfl

/-- The slice that a call is given from this offset on. -/
def sliceFrom (server : TusServer) (caller : TusCaller) (call : GetDataCall) (before start : Nat) :
    DataSlice :=
  { target := call.target caller
    asked := call.out.asked.getD 0
    before
    start
    bytes := ((server.blob (call.target caller)).drop start).take (call.out.asked.getD 0)
    result := (((server.blob (call.target caller)).drop start).take
      (call.out.asked.getD 0)).length }

theorem tusGetDataCompletion_eq (server : TusServer) (target : XferTarget) (outputs : Outputs) :
    tusGetDataCompletion server.pb (server.body target) outputs =
      { stores :=
          copyTo outputs.dataOut
            (((server.blob target).drop outputs.dataOffset).take outputs.dataCap) ++
          dataStatusStores outputs
            (if outputs.dataOut.isSome then
              (((server.blob target).drop outputs.dataOffset).take outputs.dataCap).length
            else 0) (server.response target).status
        result :=
          (if outputs.dataOut.isSome then
            (((server.blob target).drop outputs.dataOffset).take outputs.dataCap).length
          else 0 : Nat) } := by
  rw [tusGetDataCompletion, server.carries, ← server.stores]

theorem getDataSlice_eq {server : TusServer} {reqId : Nat} {caller : TusCaller}
    {call : GetDataCall} {r : DataRun} {row : NpTusRequest}
    (known : r.state.tusRequest? reqId = some row) :
    getDataSlice server reqId caller call r =
      { state := (advanceDownload reqId (call.key caller) call.out.asked r.state).2
        slices :=
          if call.answered then
            r.slices ++ [sliceFrom server caller call (givenTo (call.target caller) r.slices)
              (readPosition reqId (call.key caller) r.state)]
          else r.slices } := by
  rw [getDataSlice, ← (advanceDownload_eq known call.out.asked).1]
  cases answered : call.answered with
  | false => rfl
  | true =>
    simp only [tusGetDataCompletion_eq, if_true]
    rw [bytesOf_append, bytesOf_copyTo, statusOnly_dataStatusStores, List.append_nil, sliceFrom]
    cases data : call.out.data with
    | none => simp [DataOutputs.asked, data]
    | some target => simp [DataOutputs.asked, data]

/-- A slice is right where it is taken from the right place, or there is none there or here. -/
theorem right_sliceFrom_iff {server : TusServer} {caller : TusCaller} {call : GetDataCall}
    {before start : Nat} :
    Right server (sliceFrom server caller call before start) ↔
      (0 < call.out.asked.getD 0 → start = before ∨
        ((server.blob (call.target caller)).length ≤ start ∧
          (server.blob (call.target caller)).length ≤ before)) := by
  constructor
  · intro right asks
    by_cases same : start = before
    · exact .inl same
    · have nothing : (sliceFrom server caller call before start).bytes = [] := by
        by_contra some_
        exact same (right.start some_)
      have here := congrArg List.length nothing
      have there := congrArg List.length (right.bytes.symm.trans nothing)
      rw [sliceFrom, List.length_take, List.length_drop, List.length_nil] at here there
      dsimp only at there
      exact .inr (by omega)
  · intro suits
    by_cases asks : 0 < call.out.asked.getD 0
    · rcases suits asks with same | ⟨here, there⟩
      · exact ⟨rfl, by rw [sliceFrom, same], fun _ => same⟩
      · have nothing : (sliceFrom server caller call before start).bytes = [] := by
          rw [sliceFrom, List.drop_eq_nil_of_le here, List.take_nil]
        refine ⟨rfl, ?_, fun some_ => absurd nothing some_⟩
        rw [nothing, sliceFrom, List.drop_eq_nil_of_le there, List.take_nil]
    · have nothing : (sliceFrom server caller call before start).bytes = [] := by
        rw [sliceFrom, Nat.eq_zero_of_not_pos asks, List.take_zero]
      refine ⟨rfl, ?_, fun some_ => absurd nothing some_⟩
      rw [nothing, sliceFrom, Nat.eq_zero_of_not_pos asks, List.take_zero]

theorem length_slices (target : XferTarget) (slices : List DataSlice) :
    ((slices.filter fun slice => slice.target = target).flatMap (·.bytes)).length =
      givenTo target slices := by
  rw [List.length_flatMap, givenTo]

/-- The right slice goes on where the ones before it stop. -/
theorem consecutive_concat {server : TusServer} {slices : List DataSlice} {slice : DataSlice}
    (consecutive : Consecutive server slices) (right : Right server slice)
    (follows : slice.before = givenTo slice.target slices) :
    Consecutive server (slices ++ [slice]) := by
  intro target
  rw [List.filter_append, List.flatMap_append]
  by_cases same : slice.target = target
  · have only : [slice].filter (fun slice => slice.target = target) = [slice] := by
      simp [same]
    have upTo : (slices.filter fun slice => slice.target = target).flatMap (·.bytes) =
        (server.blob target).take slice.before := by
      rw [List.prefix_iff_eq_take.mp (consecutive target), length_slices, follows, same]
    rw [only, List.flatMap_singleton, upTo, right.bytes, same, ← List.take_add]
    exact List.take_prefix _ _
  · have none_ : [slice].filter (fun slice => slice.target = target) = [] := by
      simp [same]
    rw [none_, List.flatMap_nil, List.append_nil]
    exact consecutive target

/-! ### Whole runs -/

structure Downloads (server : TusServer) (reqId : Nat) (r : DataRun) : Prop where
  request : ∃ row, r.state.tusRequest? reqId = some row ∧ row.xfer.recvOffset < 2 ^ 64
  delivers : Delivers server r

theorem request_advanceDownload {reqId : Nat} {key : XferKey} {s : HandlerState}
    {row : NpTusRequest} (known : s.tusRequest? reqId = some row) (recvSize : Option Nat) :
    ∃ row', (advanceDownload reqId key recvSize s).2.tusRequest? reqId = some row' ∧
      row'.xfer.recvOffset < 2 ^ 64 :=
  ⟨_, (advanceDownload_eq known recvSize).2, Nat.mod_lt _ (by decide)⟩

theorem request_bufferUpload {reqId : Nat} {key : XferKey} {chunk : UploadChunk}
    {s : HandlerState} {row : NpTusRequest} (known : s.tusRequest? reqId = some row)
    (small : row.xfer.recvOffset < 2 ^ 64) :
    ∃ row', (bufferUpload reqId key chunk s).2.tusRequest? reqId = some row' ∧
      row'.xfer.recvOffset < 2 ^ 64 := by
  have begun : (goesOn key chunk row.xfer).recvOffset < 2 ^ 64 := by
    rw [goesOn]
    by_cases same : sameTarget key row.xfer = true
    · rw [if_pos same]
      exact small
    · rw [if_neg same]
      exact Nat.two_pow_pos 64
  rw [bufferUpload, xferOf_eq known, ← goesOn]
  dsimp only
  split
  · exact ⟨_, tusRequest?_withXfer known, Nat.two_pow_pos 64⟩
  · exact ⟨_, tusRequest?_withXfer known, begun⟩

theorem readPosition_lt {reqId : Nat} {key : XferKey} {s : HandlerState} {row : NpTusRequest}
    (known : s.tusRequest? reqId = some row) (small : row.xfer.recvOffset < 2 ^ 64) :
    readPosition reqId key s < 2 ^ 64 := by
  rw [readPosition_eq known, readsOn]
  by_cases same : sameTarget key row.xfer = true
  · rw [if_pos same]
    exact small
  · rw [if_neg same]
    exact Nat.two_pow_pos 64

theorem GetDataCall.asked_lt (call : GetDataCall) : call.out.asked.getD 0 < 2 ^ 64 := by
  rw [DataOutputs.asked]
  by_cases buffer : call.out.data.isSome = true
  · rw [if_pos buffer]
    exact call.size
  · rw [if_neg buffer]
    exact Nat.two_pow_pos 64

section Step

variable {server : TusServer} {reqId : Nat} {caller : TusCaller} {op : DataOp} {r : DataRun}

theorem downloads_dataStep (downloads : Downloads server reqId r)
    (fits : Fits server reqId caller op r) :
    Downloads server reqId (dataStep server reqId caller op r) ∧
      KeepsPosition reqId caller op r (dataStep server reqId caller op r) := by
  obtain ⟨⟨row, known, small⟩, delivers⟩ := downloads
  cases op with
  | setData owner slotId chunk =>
    exact ⟨⟨request_bufferUpload known small, delivers.right, delivers.consecutive⟩, trivial⟩
  | tssGetData slotId offset recvSize =>
    exact ⟨⟨request_advanceDownload known recvSize, delivers.right, delivers.consecutive⟩, trivial⟩
  | getData call =>
    rw [dataStep, getDataSlice_eq known]
    refine ⟨⟨request_advanceDownload known _, ?_⟩, ?_⟩
    · cases answered : call.answered with
      | false => exact ⟨delivers.right, delivers.consecutive⟩
      | true =>
        have right := right_sliceFrom_iff.mpr (fun asks => (fits asks).2)
        refine ⟨?_, consecutive_concat delivers.consecutive right rfl⟩
        intro slice member
        rcases List.mem_append.mp member with member | member
        · exact delivers.right slice member
        · rw [List.mem_singleton.mp member]
          exact right
    · intro fails
      have nothing : call.out.asked.getD 0 = 0 := by
        by_contra asks
        have answered := (fits (Nat.pos_of_ne_zero asks)).1
        rw [fails] at answered
        cases answered
      rw [readPosition_advanceDownload known, nothing, Nat.add_zero]
      exact Nat.mod_eq_of_lt (readPosition_lt known small)

theorem fits_of_delivers (downloads : Downloads server reqId r)
    (keeps : KeepsPosition reqId caller op r (dataStep server reqId caller op r))
    (delivers : Delivers server (dataStep server reqId caller op r)) :
    Fits server reqId caller op r := by
  obtain ⟨⟨row, known, small⟩, -⟩ := downloads
  cases op with
  | setData owner slotId chunk => trivial
  | tssGetData slotId offset recvSize => trivial
  | getData call =>
    intro asks
    rw [dataStep, getDataSlice_eq known] at keeps delivers
    cases answered : call.answered with
    | false =>
      have same := keeps answered
      have atMost := call.asked_lt
      have below : readPosition reqId (call.key caller) r.state < 2 ^ 64 :=
        readPosition_lt known small
      rw [readPosition_advanceDownload known] at same
      omega
    | true =>
      rw [answered] at delivers
      have last := delivers.right _ (List.mem_append_right _ (List.mem_singleton.mpr rfl))
      exact ⟨rfl, right_sliceFrom_iff.mp last asks⟩

end Step

/-- The calls that succeed are given consecutive slices, and the ones that fail keep the read
position, exactly in the runs where no call fails that asks for bytes and the record is where
its target was given data last. -/
theorem data_slices_iff {server : TusServer} {reqId : Nat} {caller : TusCaller}
    {s : HandlerState} {row : NpTusRequest} (known : s.tusRequest? reqId = some row)
    (small : row.xfer.recvOffset < 2 ^ 64) (ops : List DataOp) :
    Runs.Throughout (dataStep server reqId caller) (Delivers server)
        (KeepsPosition reqId caller) ops { state := s } ↔
      Runs.Admitted (dataStep server reqId caller) (Fits server reqId caller) ops
        { state := s } := by
  have start : Downloads server reqId { state := s } := by
    refine ⟨⟨row, known, small⟩, ?_, ?_⟩
    · exact fun _ member => absurd member List.not_mem_nil
    · exact fun target => List.nil_prefix
  refine Runs.throughout_iff_admitted_next (fun _ downloads => downloads.delivers) ?_ ?_ start
  · exact fun _ _ downloads fits => downloads_dataStep downloads fits
  · exact fun _ _ downloads keeps delivers => fits_of_delivers downloads keeps delivers

/-- Four bytes and no status: the second field of the message, with its length. -/
def fourBytesResponse : TusGetDataResponse :=
  { data := [1, 2, 3, 4]
    status :=
      { ownerNpId := []
        set := false
        lastChangedDate := 0
        lastChangedAuthorNpId := []
        dataSize := 0
        info := []
        ownerAccountId := 0
        lastChangedAuthorAccountId := 0 } }

def fourBytesProto : ShadNetProto :=
  { boardInfo := fun _ => none
    getScoreResponse := fun _ => none
    tusVariableResponse := fun _ => none
    tusDataStatusResponse := fun _ => none
    tusGetDataResponse := fun body =>
      if body = [0x12, 4, 1, 2, 3, 4] then some fourBytesResponse else none
    tssGetDataResponse := fun _ => none
    authorizationCode := fun _ => none
    syncTrophiesReply := fun _ => none }

def fourBytesServer : TusServer :=
  { pb := fourBytesProto
    blob := fun _ => [1, 2, 3, 4]
    response := fun _ => fourBytesResponse
    body := fun _ => [6, 0, 0, 0, 0x12, 4, 1, 2, 3, 4]
    stores := fun _ => rfl
    carries := fun _ => rfl }

def twoBytes (answered : Bool) : GetDataCall :=
  ⟨.npId [66], 0, .plain, ⟨none, 0, some 0, 2⟩, answered, by decide⟩

theorem data_slices_iff_two_calls :
    Runs.Throughout (dataStep fourBytesServer 1 someCaller) (Delivers fourBytesServer)
        (KeepsPosition 1 someCaller) [.getData (twoBytes true), .getData (twoBytes true)]
        { state := oneRequest } ↔
      Runs.Admitted (dataStep fourBytesServer 1 someCaller) (Fits fourBytesServer 1 someCaller)
        [.getData (twoBytes true), .getData (twoBytes true)] { state := oneRequest } :=
  @data_slices_iff fourBytesServer 1 someCaller oneRequest { reqId := 1, titleCtxId := 1 } rfl
    (by decide) _

/-- A call that fails is skipped by the next one. -/
theorem failed_call_moves_on : ¬∀ ops : List DataOp,
    Runs.Throughout (dataStep fourBytesServer 1 someCaller) (Delivers fourBytesServer)
      (KeepsPosition 1 someCaller) ops { state := oneRequest } := by
  intro always
  have keeps := (always [.getData (twoBytes false)]).2.1
  exact absurd (keeps rfl) (by decide)

end NpTus
