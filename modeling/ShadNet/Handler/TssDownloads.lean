import ShadNet.Handler.TssRanges

/-!
# Reading the files of titles on

What one call does to the positions, and the runs in which they stay where the data ended.
-/

namespace NpTus

open NpHandler HandlerState

/-! ### One call -/

theorem dataEnd_concat (slotId : Int) (deliveries : List TssDelivery) (d : TssDelivery) :
    dataEnd slotId (deliveries ++ [d]) =
      if d.query.slotId = slotId ∧ d.bytes ≠ [] then d.start + d.bytes.length
      else dataEnd slotId deliveries := by
  rw [dataEnd, List.foldl_append]
  rfl

theorem start_advanceTss {reqId : Nat} {s : HandlerState} {row : NpTusRequest}
    (known : s.tusRequest? reqId = some row) (slotId : Int) (offset recvSize : Option Nat) :
    (advanceTss reqId slotId offset recvSize s).1.getD 0 =
      offset.getD (readPosition reqId { slotId } s) := by
  have position : (advanceDownload reqId { slotId } recvSize s).1 =
      readPosition reqId { slotId } s := (advanceDownload_eq known recvSize).1
  rw [advanceTss]
  cases offset with
  | some offset => simp
  | none =>
    by_cases same : sameTarget { slotId } (xferOf reqId s) = true
    · simp [same, position]
    · simp [same, readPosition]

/-- A call is given what there is from its offset on, or from the position. -/
def tssDelivery (server : TssServer) (reqId : Nat) (call : TssCall server.pb) (r : TssRun) :
    TssDelivery :=
  let start := call.query.offset.getD (readPosition reqId { slotId := call.slotId } r.state)
  { query := call.query
    served := call.isServed
    asked := call.out.asked.getD 0
    before := dataEnd call.slotId r.deliveries
    start
    bytes :=
      if call.isServed then (server.available call.query start).take (call.out.asked.getD 0)
      else [] }

theorem tssGetDataRange_eq {server : TssServer} {reqId : Nat} {call : TssCall server.pb}
    {r : TssRun} {row : NpTusRequest} (known : r.state.tusRequest? reqId = some row)
    (good : call.rejected = none) :
    tssGetDataRange server reqId call r =
      { state :=
          (advanceDownload reqId { slotId := call.slotId } call.out.asked r.state).2
        deliveries := r.deliveries ++ [tssDelivery server reqId call r] } := by
  have start := start_advanceTss known call.slotId call.query.offset call.out.asked
  rw [tssGetDataRange, good, tssDelivery]
  dsimp only
  rw [received_eq, start]
  rfl

theorem TssCall.asked_lt {pb : ShadNetProto} (call : TssCall pb) :
    call.out.asked.getD 0 < 2 ^ 64 := by
  rw [DataOutputs.asked]
  by_cases buffer : call.out.data.isSome = true
  · rw [if_pos buffer]
    exact call.size
  · rw [if_neg buffer]
    exact Nat.two_pow_pos 64

theorem TssCall.slot {pb : ShadNetProto} {call : TssCall pb} (good : call.rejected = none) :
    TssSlot call.slotId := by
  by_contra other
  rw [TssCall.rejected] at good
  unfold tssArgumentError at good
  by_cases status : call.out.status = none
  · rw [if_pos status] at good
    cases good
  · by_cases sized : call.out.statusSize ≠ tssDataStatusSize
    · rw [if_neg status, if_pos sized] at good
      cases good
    · rw [if_neg status, if_neg sized, if_pos other] at good
      cases good

/-- The record is moved on to where the data ends exactly where the bytes fill the buffer. -/
theorem fillsBuffer_iff {server : TssServer} {reqId : Nat} {call : TssCall server.pb}
    {r : TssRun} {position : Nat}
    (here : readPosition reqId { slotId := call.slotId } r.state = position)
    (small : position < 2 ^ 64) :
    (0 < call.out.asked.getD 0 → call.isServed = true ∧ FillsBuffer server reqId call r) ↔
      (position + call.out.asked.getD 0) % 2 ^ 64 =
        if (tssDelivery server reqId call r).bytes ≠ [] then
          (tssDelivery server reqId call r).start + (tssDelivery server reqId call r).bytes.length
        else position := by
  have atMost := call.asked_lt
  rw [FillsBuffer, tssDelivery, here]
  dsimp only
  generalize call.out.asked.getD 0 = asked at atMost ⊢
  by_cases asks : 0 < asked
  · have moves : (position + asked) % 2 ^ 64 ≠ position := by omega
    cases served : call.isServed with
    | false =>
      rw [if_neg Bool.false_ne_true, if_neg (not_not_intro rfl)]
      exact ⟨fun fills => (nomatch (fills asks).1), fun stays => absurd stays moves⟩
    | true =>
      rw [if_pos rfl]
      generalize offsetGiven : call.query.offset = offset
      have empty : (server.available call.query (offset.getD position)).take asked = [] ↔
          server.available call.query (offset.getD position) = [] := by
        rw [List.take_eq_nil_iff]
        exact or_iff_right (Nat.ne_of_gt asks)
      by_cases nothing : server.available call.query (offset.getD position) = []
      · rw [if_neg (not_not_intro (empty.mpr nothing))]
        refine ⟨?_, fun stays => absurd stays moves⟩
        intro fills
        cases offset with
        | none =>
          have enough := (fills asks).2
          rw [Option.getD_none] at nothing
          rw [nothing, List.length_nil] at enough
          omega
        | some offset => exact absurd nothing (fills asks).2.1
      · have within := end_of_available nothing
        rw [if_pos (fun none_ => nothing (empty.mp none_)), List.length_take]
        cases offset with
        | none =>
          rw [Option.getD_none] at within ⊢
          constructor
          · intro fills
            have enough := (fills asks).2
            rw [Nat.min_eq_left enough]
            exact Nat.mod_eq_of_lt (by omega)
          · intro ends _
            refine ⟨rfl, ?_⟩
            dsimp only
            omega
        | some offset =>
          constructor
          · exact fun fills => (fills asks).2.2.symm
          · exact fun ends _ => ⟨rfl, nothing, ends.symm⟩
  · have nothing : asked = 0 := by omega
    have none_ (start : Nat) : (server.available call.query start).take asked = [] := by
      rw [nothing, List.take_zero]
    rw [none_, ite_self, if_neg (not_not_intro rfl), nothing, Nat.add_zero]
    constructor
    · exact fun _ => Nat.mod_eq_of_lt small
    · exact fun _ asks => absurd asks (Nat.lt_irrefl 0)

/-! ### Whole runs -/

/-- What every state has in which no call has gone wrong yet. -/
structure Downloaded (server : TssServer) (reqId : Nat) (r : TssRun) : Prop where
  request : ∃ row, r.state.tusRequest? reqId = some row ∧ row.xfer.recvOffset < 2 ^ 64
  ends : EndsWithData server reqId r

section Step

variable {server : TssServer} {reqId : Nat} {caller : TusCaller} {r : TssRun}

theorem followsOn_tssDelivery {call : TssCall server.pb}
    (here : readPosition reqId { slotId := call.slotId } r.state =
      dataEnd call.slotId r.deliveries) :
    FollowsOn server (tssDelivery server reqId call r) := by
  constructor
  · rw [tssDelivery, here]
  · intro _
    rw [tssDelivery, here]

theorem keeps_tssGetData {call : TssCall server.pb} (downloaded : Downloaded server reqId r)
    (keeps : KeepsInStep server reqId caller (.tssGetData call) r) :
    Downloaded server reqId (tssGetDataRange server reqId call r) := by
  cases good : call.rejected with
  | some error =>
    rw [tssGetDataRange, good]
    exact downloaded
  | none =>
    obtain ⟨⟨row, known, small⟩, ends⟩ := downloaded
    obtain ⟨alone, fills⟩ := keeps good
    have here := ends.position call.slotId (TssCall.slot good)
    have below : dataEnd call.slotId r.deliveries < 2 ^ 64 := here ▸ readPosition_lt known small
    rw [tssGetDataRange_eq known good]
    refine ⟨request_advanceDownload known _, ?_, ?_⟩
    · intro d member
      rcases List.mem_append.mp member with member | member
      · exact ends.follows d member
      · rw [List.mem_singleton.mp member]
        exact followsOn_tssDelivery here
    · intro slotId slot
      rw [dataEnd_concat]
      by_cases mine : slotId = call.slotId
      · rw [mine, readPosition_advanceDownload known, here, (fillsBuffer_iff here below).mp fills]
        simp [tssDelivery, TssCall.query, tssQuery]
      · have other : ({ slotId } : XferKey) ≠ { slotId := call.slotId } :=
          fun same => mine (congrArg XferKey.slotId same)
        have apart : ¬((tssDelivery server reqId call r).query.slotId = slotId ∧
            (tssDelivery server reqId call r).bytes ≠ []) := fun both => mine both.1.symm
        rw [readPosition_advanceDownload_of_ne known _ other, if_neg apart,
          ← ends.position slotId slot]
        exact (alone slotId slot mine).symm

theorem moves_tssGetData {call : TssCall server.pb} (downloaded : Downloaded server reqId r)
    (keeps : KeepsInStep server reqId caller (.tssGetData call) r) :
    MovesByData server reqId caller (.tssGetData call) r (tssGetDataRange server reqId call r) := by
  intro good unset
  obtain ⟨⟨row, known, small⟩, -⟩ := downloaded
  have moved := (fillsBuffer_iff rfl (readPosition_lt known small)).mp (keeps good).2
  have received : call.received server
        (advanceTss reqId call.slotId none call.out.asked r.state).1 =
      (tssDelivery server reqId call r).bytes := by
    rw [received_eq, start_advanceTss known, tssDelivery, unset]
  have start : (tssDelivery server reqId call r).start =
      readPosition reqId { slotId := call.slotId } r.state := by
    rw [tssDelivery, unset]
    rfl
  rw [tssGetDataRange_eq known good, received, readPosition_advanceDownload known, moved, start]
  by_cases nothing : (tssDelivery server reqId call r).bytes = []
  · rw [if_neg (not_not_intro nothing), nothing]
    rfl
  · exact if_pos nothing

theorem keeps_of_tssGetData {call : TssCall server.pb} (downloaded : Downloaded server reqId r)
    (ends : EndsWithData server reqId (tssGetDataRange server reqId call r)) :
    KeepsInStep server reqId caller (.tssGetData call) r := by
  intro good
  obtain ⟨⟨row, known, small⟩, before⟩ := downloaded
  rw [tssGetDataRange_eq known good] at ends
  constructor
  · intro slotId slot other
    have otherKey : ({ slotId } : XferKey) ≠ { slotId := call.slotId } :=
      fun same => other (congrArg XferKey.slotId same)
    have apart : ¬((tssDelivery server reqId call r).query.slotId = slotId ∧
        (tssDelivery server reqId call r).bytes ≠ []) := fun both => other both.1.symm
    have after := ends.position slotId slot
    rw [readPosition_advanceDownload_of_ne known _ otherKey, dataEnd_concat, if_neg apart] at after
    rw [before.position slotId slot, ← after]
  · have slot := TssCall.slot good
    have here := before.position call.slotId slot
    have after := ends.position call.slotId slot
    have mine : (tssDelivery server reqId call r).query.slotId = call.slotId := rfl
    rw [readPosition_advanceDownload known, dataEnd_concat, mine, here] at after
    refine (fillsBuffer_iff here (here ▸ readPosition_lt known small)).mpr ?_
    rw [after]
    simp

/-! ### TUS transfers -/

theorem xferKey_slotId (owner : Owner) (caller : TusCaller) (slotId : Int) :
    (owner.xferKey caller slotId).slotId = slotId := by
  cases owner with
  | npId given => rfl
  | account accountId => rfl
  | virtualUser name => rfl

theorem start_withoutPositions_iff {key : XferKey} {s : HandlerState} {row : NpTusRequest}
    (known : s.tusRequest? reqId = some row) (recvSize : Option Nat) :
    (advanceDownload reqId key recvSize s).1 =
        (advanceDownload reqId key recvSize (withoutPositions reqId s)).1 ↔
      (TssSlot key.slotId → key = { slotId := key.slotId } → readPosition reqId key s = 0) := by
  have there : (advanceDownload reqId key recvSize (withoutPositions reqId s)).1 =
      readPosition reqId key (withoutPositions reqId s) :=
    (advanceDownload_eq (tusRequest?_withXfer known) recvSize).1
  rw [(advanceDownload_eq known recvSize).1, there, readPosition_withoutPositions known]
  constructor
  · intro same slot keyed
    rwa [if_pos ⟨slot, keyed⟩] at same
  · intro zero
    by_cases slot : TssSlot key.slotId ∧ key = { slotId := key.slotId }
    · rw [if_pos slot, zero slot.1 slot.2]
    · rw [if_neg slot]

theorem keeps_getData {call : GetDataCall} (downloaded : Downloaded server reqId r)
    (keeps : KeepsInStep server reqId caller (.getData call) r) :
    Downloaded server reqId (tssStep server reqId caller (.getData call) r) ∧
      MovesByData server reqId caller (.getData call) r
        (tssStep server reqId caller (.getData call) r) := by
  obtain ⟨⟨row, known, small⟩, ends⟩ := downloaded
  obtain ⟨none_, collides⟩ := keeps
  have stays : ∀ slotId, TssSlot slotId →
      readPosition reqId { slotId } (advanceDownload reqId (call.key caller) call.out.asked
        r.state).2 = readPosition reqId { slotId } r.state := by
    intro slotId slot
    by_cases same : ({ slotId } : XferKey) = call.key caller
    · have named : slotId = call.slotId :=
        (congrArg XferKey.slotId same).trans (xferKey_slotId call.owner caller call.slotId)
      subst named
      rw [same]
      exact readPosition_advanceDownload_zero known small (collides slot same.symm)
    · rw [readPosition_advanceDownload_of_ne known _ same]
      exact (none_ slotId slot id).symm
  refine ⟨⟨request_advanceDownload known _, ends.follows, ?_⟩, ?_, stays⟩
  · intro slotId slot
    exact (stays slotId slot).trans (ends.position slotId slot)
  · refine (start_withoutPositions_iff known _).mpr ?_
    intro slot keyed
    rw [keyed]
    exact none_ _ slot id

theorem keeps_of_getData {call : GetDataCall} (downloaded : Downloaded server reqId r)
    (moves : MovesByData server reqId caller (.getData call) r
      (tssStep server reqId caller (.getData call) r)) :
    KeepsInStep server reqId caller (.getData call) r := by
  obtain ⟨⟨row, known, small⟩, -⟩ := downloaded
  obtain ⟨unused, stays⟩ := moves
  have zero := (start_withoutPositions_iff known _).mp unused
  have slotOf : (call.key caller).slotId = call.slotId :=
    xferKey_slotId call.owner caller call.slotId
  constructor
  · intro slotId slot _
    by_cases same : ({ slotId } : XferKey) = call.key caller
    · rw [same]
      refine zero ?_ ?_
      · rw [← same]
        exact slot
      · rw [← same]
    · rw [← stays slotId slot]
      exact readPosition_advanceDownload_of_ne known _ same
  · intro slot keyed
    have after := stays call.slotId slot
    have atMost := call.asked_lt
    have below : readPosition reqId { slotId := call.slotId } r.state < 2 ^ 64 :=
      readPosition_lt known small
    rw [← keyed] at after below
    rw [tssStep, readPosition_advanceDownload known] at after
    omega

theorem keeps_setData {owner : Owner} {slotId : Int} {chunk : UploadChunk}
    (downloaded : Downloaded server reqId r)
    (keeps : KeepsInStep server reqId caller (.setData owner slotId chunk) r) :
    Downloaded server reqId (tssStep server reqId caller (.setData owner slotId chunk) r) ∧
      MovesByData server reqId caller (.setData owner slotId chunk) r
        (tssStep server reqId caller (.setData owner slotId chunk) r) := by
  obtain ⟨⟨row, known, small⟩, ends⟩ := downloaded
  have stays : ∀ other, TssSlot other →
      readPosition reqId { slotId := other }
        (bufferUpload reqId (owner.xferKey caller slotId) chunk r.state).2 =
          readPosition reqId { slotId := other } r.state := by
    intro other slot
    by_cases goesOn : KeepsRecord (owner.xferKey caller slotId) chunk row.xfer
    · exact readPosition_bufferUpload_of_keeps known goesOn
    · rw [readPosition_bufferUpload_of_not_keeps known goesOn]
      rcases keeps with none_ | kept
      · exact (none_ other slot id).symm
      · rw [xferOf_eq known] at kept
        exact absurd kept goesOn
  refine ⟨⟨request_bufferUpload known small, ends.follows, ?_⟩, ?_, stays⟩
  · intro other slot
    exact (stays other slot).trans (ends.position other slot)
  · exact (bufferUpload_withoutPositions known).symm

theorem keeps_of_setData {owner : Owner} {slotId : Int} {chunk : UploadChunk}
    (downloaded : Downloaded server reqId r)
    (moves : MovesByData server reqId caller (.setData owner slotId chunk) r
      (tssStep server reqId caller (.setData owner slotId chunk) r)) :
    KeepsInStep server reqId caller (.setData owner slotId chunk) r := by
  obtain ⟨⟨row, known, -⟩, -⟩ := downloaded
  by_cases goesOn : KeepsRecord (owner.xferKey caller slotId) chunk row.xfer
  · refine .inr ?_
    rw [xferOf_eq known]
    exact goesOn
  · refine .inl ?_
    intro other slot _
    rw [← moves.2 other slot]
    exact readPosition_bufferUpload_of_not_keeps known goesOn

end Step

/-- The bytes of a slot follow each other, and the position moves by them alone, exactly in the
runs where every TSS call that asks for bytes fills its buffer, up to where the record is moved,
and no transfer makes the record forget a position. -/
theorem tss_downloads_iff {server : TssServer} {reqId : Nat} {caller : TusCaller}
    {s : HandlerState} {row : NpTusRequest} (known : s.tusRequest? reqId = some row)
    (fresh : row.xfer = {}) (ops : List (TssOp server.pb)) :
    Runs.Throughout (tssStep server reqId caller) (EndsWithData server reqId)
        (MovesByData server reqId caller) ops { state := s } ↔
      Runs.Admitted (tssStep server reqId caller) (KeepsInStep server reqId caller) ops
        { state := s } := by
  have start : Downloaded server reqId { state := s } := by
    refine ⟨⟨row, known, ?_⟩, ?_, ?_⟩
    · rw [fresh]
      exact Nat.two_pow_pos 64
    · exact fun _ member => absurd member List.not_mem_nil
    · intro slotId _
      rw [readPosition, xferOf_eq known, fresh]
      rfl
  refine Runs.throughout_iff_admitted_next (fun _ downloaded => downloaded.ends) ?_ ?_ start
  · intro op r downloaded keeps
    cases op with
    | tssGetData call =>
      exact ⟨keeps_tssGetData downloaded keeps, moves_tssGetData downloaded keeps⟩
    | getData call => exact keeps_getData downloaded keeps
    | setData owner slotId chunk => exact keeps_setData downloaded keeps
  · intro op r downloaded moves ends
    cases op with
    | tssGetData call => exact keeps_of_tssGetData downloaded ends
    | getData call => exact keeps_of_getData downloaded moves
    | setData owner slotId chunk => exact keeps_of_setData downloaded moves

/-- A message with the fourth field alone. -/
def rangeResponse (data : Bytes) : TssGetDataResponse :=
  { statusCodeType := 0, lastModified := 0, contentLength := 0, data }

def rangeBody (data : Bytes) : Bytes :=
  [UInt8.ofNat (data.length + 2), 0, 0, 0, 0x22, UInt8.ofNat data.length] ++ data

def rangeProto : ShadNetProto :=
  { fourBytesProto with
    tssGetDataResponse := fun body =>
      match body with
      | tag :: length :: data =>
        if tag = 0x22 ∧ length.toNat = data.length then some (rangeResponse data) else none
      | _ => none }

theorem carries_rangeBody {data : Bytes} (short : data.length ≤ 4) :
    (sizedBody (rangeBody data)).bind rangeProto.tssGetDataResponse =
      some (rangeResponse data) := by
  have length : (UInt8.ofNat data.length).toNat = data.length := by
    rw [UInt8.toNat_ofNat']
    omega
  have total : le32 (rangeBody data) = data.length + 2 := by
    have small : data.length + 2 < 256 := by omega
    simpa [le32, rangeBody] using small
  have all : (rangeBody data).length = data.length + 6 := by simp [rangeBody]
  have sized : sizedBody (rangeBody data) = some (0x22 :: UInt8.ofNat data.length :: data) := by
    rw [sizedBody, total, all, if_neg (by omega), if_neg (by omega)]
    exact congrArg some (List.take_of_length_le (Nat.le_refl _))
  rw [sized, Option.bind_some]
  exact if_pos ⟨rfl, length⟩

/-- Four bytes in each slot, unmodified since any time. -/
def rangeServer : TssServer :=
  { pb := rangeProto
    file := fun _ => [1, 2, 3, 4]
    withholds := fun _ ifParam => ifParam.1 = 0
    response := fun query => rangeResponse
      (if query.ifParam.any (fun ifParam => ifParam.1 = 0) then []
      else requestedRange [1, 2, 3, 4] query.offset query.lastByte)
    body := fun query => rangeBody
      (if query.ifParam.any (fun ifParam => ifParam.1 = 0) then []
      else requestedRange [1, 2, 3, 4] query.offset query.lastByte)
    small := fun _ => by simp
    stores := fun _ => rfl
    carries := fun query => carries_rangeBody (by
      split
      · exact Nat.zero_le _
      · have atMost := length_requestedRange_le [1, 2, 3, 4] query.offset query.lastByte
        simp only [List.length_cons, List.length_nil] at atMost
        omega) }

def firstSlot (answer : TssAnswer rangeProto) : TssCall rangeProto :=
  { slotId := 0
    out := ⟨some 1, tssDataStatusSize, some 2, 2⟩
    answer
    size := by decide }

theorem tss_downloads_iff_two_calls :
    Runs.Throughout (tssStep rangeServer 1 someCaller) (EndsWithData rangeServer 1)
        (MovesByData rangeServer 1 someCaller)
        [.tssGetData (firstSlot .served), .tssGetData (firstSlot .served)]
        { state := oneRequest } ↔
      Runs.Admitted (tssStep rangeServer 1 someCaller) (KeepsInStep rangeServer 1 someCaller)
        [.tssGetData (firstSlot .served), .tssGetData (firstSlot .served)]
        { state := oneRequest } :=
  @tss_downloads_iff rangeServer 1 someCaller oneRequest { reqId := 1, titleCtxId := 1 } rfl rfl _

/-- The call behind one that was never sent is given the second half of the file. -/
theorem unsubmitted_call_is_skipped : ¬∀ ops : List (TssOp rangeServer.pb),
    Runs.Throughout (tssStep rangeServer 1 someCaller) (EndsWithData rangeServer 1)
      (MovesByData rangeServer 1 someCaller) ops { state := oneRequest } := by
  intro always
  obtain ⟨-, -, -, -, ends⟩ :=
    always [.tssGetData (firstSlot .unsubmitted), .tssGetData (firstSlot .served)]
  have last := ends.follows _ (List.mem_append_right _ (List.mem_singleton.mpr rfl))
  exact absurd last.bytes (by decide)

end NpTus
