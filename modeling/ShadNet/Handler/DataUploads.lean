import ShadNet.Transfers
import ShadNet.Handler.Threads

/-!
# Data of titles in chunks

`SetData` gathers its chunks in the transfer record of its request, which the downloads of the
request use too. The record is told apart by a key that says less than whom the data is for.
-/

open Transfers

namespace NpTus

open NpHandler HandlerState

/-! ## Runs of calls -/

/-- The owner with the empty NP id of a call filled in. -/
def Owner.resolved (owner : Owner) (caller : TusCaller) : Owner :=
  match owner with
  | npId given => .npId (if given = [] then caller.self else given)
  | account accountId => .account accountId
  | virtualUser name => .virtualUser name

/-- Whose data a transfer is about, and which slot of it. -/
structure XferTarget where
  owner : Owner
  slotId : Int
  deriving DecidableEq, Repr

structure XferPart where
  target : XferTarget
  data : Bytes

/-- An upload with the chunks that are in it. -/
structure DataUpload where
  target : XferTarget
  data : Bytes
  parts : List XferPart

structure XferRun where
  state : HandlerState
  uploads : List DataUpload := []
  parts : List XferPart := []

/-- The calls that use the transfer record of a request. -/
inductive XferCall where
  | setData (owner : Owner) (slotId : Int) (chunk : UploadChunk)
  | getData (owner : Owner) (slotId : Int) (recvSize : Option Nat)
  | tssGetData (slotId : Int) (offset recvSize : Option Nat)

section Calls

variable (reqId : Nat) (caller : TusCaller)

/-- What is left of the gathered chunks by a call with this key. -/
def keptParts (key : XferKey) (r : XferRun) : List XferPart :=
  if sameTarget key (xferOf reqId r.state) then r.parts else []

/-- `SetData` up to what it hands to the handler. -/
def uploadChunk (owner : Owner) (slotId : Int) (chunk : UploadChunk) (r : XferRun) : XferRun :=
  let key := owner.xferKey caller slotId
  let target : XferTarget := ⟨owner.resolved caller, slotId⟩
  let parts := keptParts reqId key r ++ [⟨target, chunk.data⟩]
  match bufferUpload reqId key chunk r.state with
  | (none, s) => { state := s, uploads := r.uploads, parts }
  | (some blob, s) => { state := s, uploads := r.uploads ++ [⟨target, blob.1, parts⟩] }

def xferCall (call : XferCall) (r : XferRun) : XferRun :=
  match call with
  | .setData owner slotId chunk => uploadChunk reqId caller owner slotId chunk r
  | .getData owner slotId recvSize =>
    let key := owner.xferKey caller slotId
    { state := (advanceDownload reqId key recvSize r.state).2
      uploads := r.uploads
      parts := keptParts reqId key r }
  | .tssGetData slotId offset recvSize =>
    { state := (advanceTss reqId slotId offset recvSize r.state).2
      uploads := r.uploads
      parts := keptParts reqId { slotId } r }

def xferCalls : List XferCall → XferRun → XferRun := Runs.run (xferCall reqId caller)

/-- Whatever is sent in chunks of these sizes is uploaded once, to its target and cut to its
total size, and nothing else is. -/
def UploadsOnce (s : HandlerState) (owner : Owner) (slotId : Int) (totalSize : Nat)
    (sizes : List Nat) : Prop :=
  ∀ chunks : List UploadChunk, (∀ chunk ∈ chunks, chunk.totalSize = totalSize) →
    chunks.map (·.data.length) = sizes →
    ((xferCalls reqId caller (chunks.map (.setData owner slotId)) { state := s }).uploads.map
        fun u => (u.target, u.data)) =
      [(⟨owner.resolved caller, slotId⟩, (chunks.flatMap (·.data)).take totalSize)]

/-- The record has chunks for no other target than the call's. -/
def Continues (call : XferCall) (r : XferRun) : Prop :=
  match call with
  | .setData owner slotId _ => ∀ part ∈ keptParts reqId (owner.xferKey caller slotId) r,
      part.target = ⟨owner.resolved caller, slotId⟩
  | .getData .. => True
  | .tssGetData .. => True

end Calls

/-- What was uploaded, and what is gathered, is from calls for one target. -/
structure NeverMerged (r : XferRun) : Prop where
  gathered : ∀ first ∈ r.parts, ∀ second ∈ r.parts, first.target = second.target
  uploads : ∀ u ∈ r.uploads, u.data = u.parts.flatMap (·.data) ∧
    ∀ part ∈ u.parts, part.target = u.target

/-! ### One call -/

def underWay (key : XferKey) (x : NpTusDataXfer) : Option (Transfer UInt8) :=
  if sameTarget key x then some ⟨x.sendBuf, x.totalSize⟩ else none

theorem sameTarget_beginXfer (key : XferKey) {sendBuf : Bytes} {totalSize : Nat} {info : Bytes} :
    sameTarget key { beginXfer key with sendBuf, totalSize, info } = true := by
  simp [sameTarget, beginXfer]

/-- The record as `SetData` goes on with it. -/
def goesOn (key : XferKey) (chunk : UploadChunk) (x : NpTusDataXfer) : NpTusDataXfer :=
  if sameTarget key x then x
  else { beginXfer key with
    totalSize := chunk.totalSize
    info := (chunk.info.getD []).take 384 }

theorem sameTarget_goesOn {key : XferKey} {chunk : UploadChunk} {x : NpTusDataXfer}
    {sendBuf : Bytes} : sameTarget key { goesOn key chunk x with sendBuf } = true := by
  rw [goesOn]
  by_cases same : sameTarget key x = true
  · rw [if_pos same]
    exact same
  · rw [if_neg same]
    exact sameTarget_beginXfer key

theorem goesOn_eq {key : XferKey} {chunk : UploadChunk} {x : NpTusDataXfer} :
    (underWay key x).getD ⟨[], chunk.totalSize⟩ =
      ⟨(goesOn key chunk x).sendBuf, (goesOn key chunk x).totalSize⟩ := by
  rw [underWay, goesOn]
  by_cases same : sameTarget key x = true
  · rw [if_pos same, if_pos same, Option.getD_some]
  · rw [if_neg same, if_neg same, Option.getD_none]
    rfl

section Record

variable {reqId : Nat} {s : HandlerState} {row : NpTusRequest}

theorem tusRequest?_withXfer {f : NpTusDataXfer → NpTusDataXfer}
    (known : s.tusRequest? reqId = some row) :
    (withXfer reqId f s).tusRequest? reqId = some { row with xfer := f row.xfer } := by
  have named : row.reqId = reqId := (KeyedTable.lookup_some known).2
  have same : ∀ row : NpTusRequest, { row with xfer := f row.xfer }.reqId = row.reqId :=
    fun _ => rfl
  have found := @KeyedTable.lookup_adjust _ _ _ _ reqId reqId _ same s.tusRequests
  rw [tusRequest?, withXfer, found]
  rw [tusRequest?] at known
  rw [known, Option.map_some, if_pos named]

theorem xferOf_eq (known : s.tusRequest? reqId = some row) : xferOf reqId s = row.xfer := by
  rw [xferOf, known, Option.map_some, Option.getD_some]

end Record

section Chunk

variable {reqId : Nat} {caller : TusCaller} {owner : Owner} {slotId : Int} {chunk : UploadChunk}
  {r : XferRun} {row : NpTusRequest} (known : r.state.tusRequest? reqId = some row)
include known

theorem uploadChunk_short {key : XferKey} (keyed : owner.xferKey caller slotId = key)
    (short : ((goesOn key chunk row.xfer).sendBuf ++ chunk.data).length <
      (goesOn key chunk row.xfer).totalSize) :
    uploadChunk reqId caller owner slotId chunk r =
      { state := withXfer reqId (fun _ =>
          { goesOn key chunk row.xfer with
            sendBuf := (goesOn key chunk row.xfer).sendBuf ++ chunk.data }) r.state
        uploads := r.uploads
        parts := keptParts reqId key r ++ [⟨⟨owner.resolved caller, slotId⟩, chunk.data⟩] } := by
  have buffered : bufferUpload reqId key chunk r.state =
      (none, withXfer reqId (fun _ =>
        { goesOn key chunk row.xfer with
          sendBuf := (goesOn key chunk row.xfer).sendBuf ++ chunk.data }) r.state) := by
    rw [bufferUpload, xferOf_eq known, ← goesOn]
    exact if_neg (by dsimp only; omega)
  rw [uploadChunk, keyed, buffered]

theorem uploadChunk_full {key : XferKey} (keyed : owner.xferKey caller slotId = key)
    (full : ¬((goesOn key chunk row.xfer).sendBuf ++ chunk.data).length <
      (goesOn key chunk row.xfer).totalSize) :
    uploadChunk reqId caller owner slotId chunk r =
      { state := withXfer reqId (fun _ => {}) r.state
        uploads := r.uploads ++
          [⟨⟨owner.resolved caller, slotId⟩, (goesOn key chunk row.xfer).sendBuf ++ chunk.data,
            keptParts reqId key r ++ [⟨⟨owner.resolved caller, slotId⟩, chunk.data⟩]⟩] } := by
  have buffered : bufferUpload reqId key chunk r.state =
      (some ((goesOn key chunk row.xfer).sendBuf ++ chunk.data, (goesOn key chunk row.xfer).info),
        withXfer reqId (fun _ => {}) r.state) := by
    rw [bufferUpload, xferOf_eq known, ← goesOn]
    exact if_pos (by dsimp only; omega)
  rw [uploadChunk, keyed, buffered]

end Chunk

/-- The induction goes over the chunks with the record as each of them leaves it. -/
theorem uploads_xferCalls {reqId : Nat} {caller : TusCaller} {owner : Owner} {slotId : Int}
    {key : XferKey} {totalSize : Nat} {chunks : List UploadChunk} {r : XferRun}
    {row : NpTusRequest} (known : r.state.tusRequest? reqId = some row)
    (keyed : owner.xferKey caller slotId = key)
    (totals : ∀ chunk ∈ chunks, chunk.totalSize = totalSize) :
    ((xferCalls reqId caller (chunks.map (.setData owner slotId)) r).uploads.map
        fun u => (u.target, u.data)) =
      (r.uploads.map fun u => (u.target, u.data)) ++
      (gather (fun _ chunk => chunk) totalSize (underWay key row.xfer)
        (chunks.map (·.data))).map fun data => (⟨owner.resolved caller, slotId⟩, data) := by
  induction chunks generalizing r row with
  | nil => simp [xferCalls, gather]
  | cons chunk chunks ih =>
    have here : chunk.totalSize = totalSize := totals chunk List.mem_cons_self
    have later : ∀ chunk ∈ chunks, chunk.totalSize = totalSize :=
      fun other member => totals other (List.mem_cons_of_mem _ member)
    rw [xferCalls, List.map_cons, Runs.run_cons, ← xferCalls, xferCall, List.map_cons, gather,
      ← here, goesOn_eq]
    dsimp only
    by_cases short : ((goesOn key chunk row.xfer).sendBuf ++ chunk.data).length <
        (goesOn key chunk row.xfer).totalSize
    · rw [uploadChunk_short known keyed short, ih (tusRequest?_withXfer known) later, if_pos short,
        ← here, underWay, if_pos sameTarget_goesOn]
    · have done : underWay key {} = none := if_neg (by simp [sameTarget])
      rw [uploadChunk_full known keyed short, ih (tusRequest?_withXfer known) later, if_neg short,
        ← here, done]
      simp only [List.map_append, List.map_cons, List.map_nil, List.append_assoc,
        List.cons_append, List.nil_append]

theorem uploadsOnce_iff {reqId : Nat} {caller : TusCaller} {owner : Owner} {slotId : Int}
    {s : HandlerState} {row : NpTusRequest} {totalSize last : Nat} {init : List Nat}
    (known : s.tusRequest? reqId = some row) (before : init.sum < totalSize)
    (enough : totalSize ≤ init.sum + last) :
    UploadsOnce reqId caller s owner slotId totalSize (init ++ [last]) ↔
      init.sum + last = totalSize ∧
        (sameTarget (owner.xferKey caller slotId) row.xfer = true →
          row.xfer.sendBuf = [] ∧ row.xfer.totalSize ≤ totalSize ∧
            (init = [] ∨ init.sum < row.xfer.totalSize)) := by
  have start : (init.sum + last = totalSize ∧
      ((underWay (owner.xferKey caller slotId) row.xfer).getD ⟨[], totalSize⟩).buf = [] ∧
      ((underWay (owner.xferKey caller slotId) row.xfer).getD ⟨[], totalSize⟩).total ≤ totalSize ∧
      (init = [] ∨ init.sum <
        ((underWay (owner.xferKey caller slotId) row.xfer).getD ⟨[], totalSize⟩).total)) ↔
      init.sum + last = totalSize ∧
        (sameTarget (owner.xferKey caller slotId) row.xfer = true →
          row.xfer.sendBuf = [] ∧ row.xfer.totalSize ≤ totalSize ∧
            (init = [] ∨ init.sum < row.xfer.totalSize)) := by
    rw [underWay]
    by_cases same : sameTarget (owner.xferKey caller slotId) row.xfer = true
    · simp [same]
    · simp [same, before]
  rw [← start, ← gather_whole_iff before enough]
  constructor
  · intro once chunks sized
    have datas : (chunks.map fun data => UploadChunk.mk totalSize data none).map (·.data) =
        chunks := by
      rw [List.map_map]
      exact List.map_id _
    have totals : ∀ chunk ∈ chunks.map (fun data => UploadChunk.mk totalSize data none),
        chunk.totalSize = totalSize := by
      intro chunk member
      obtain ⟨data, -, rfl⟩ := List.mem_map.mp member
      rfl
    have uploaded := once _ totals (by rw [← sized, List.map_map]; rfl)
    rw [uploads_xferCalls known rfl totals, List.map_nil, List.nil_append, datas,
      List.flatMap_def, datas] at uploaded
    have blobs := congrArg (List.map fun u => u.2) uploaded
    rw [List.map_map, List.map_singleton] at blobs
    exact (List.map_id _).symm.trans blobs
  · intro gathers chunks totals sized
    rw [uploads_xferCalls known rfl totals, gathers, List.map_nil, List.nil_append,
      List.map_singleton, List.flatMap_def]
    rw [List.map_map]
    exact sized

/-! ### Whole runs -/

/-- The record has the chunks that are gathered, and nothing was merged yet. -/
structure Gathers (reqId : Nat) (r : XferRun) : Prop where
  request : ∃ row, r.state.tusRequest? reqId = some row ∧
    row.xfer.sendBuf = r.parts.flatMap (·.data)
  merged : NeverMerged r

theorem keptParts_content {reqId : Nat} {key : XferKey} {r : XferRun} {row : NpTusRequest}
    (known : r.state.tusRequest? reqId = some row)
    (content : row.xfer.sendBuf = r.parts.flatMap (·.data)) {kept : NpTusDataXfer}
    (same : sameTarget key row.xfer = true → kept = row.xfer)
    (other : sameTarget key row.xfer ≠ true → kept.sendBuf = []) :
    kept.sendBuf = (keptParts reqId key r).flatMap (·.data) := by
  rw [keptParts, xferOf_eq known]
  by_cases goesOn : sameTarget key row.xfer = true
  · rw [if_pos goesOn, same goesOn, content]
  · rw [if_neg goesOn, other goesOn, List.flatMap_nil]

theorem mem_of_mem_keptParts {reqId : Nat} {key : XferKey} {r : XferRun} {part : XferPart}
    (member : part ∈ keptParts reqId key r) : part ∈ r.parts := by
  rw [keptParts] at member
  by_cases same : sameTarget key (xferOf reqId r.state) = true
  · rwa [if_pos same] at member
  · rw [if_neg same] at member
    exact absurd member List.not_mem_nil

theorem gathers_download {reqId : Nat} {key : XferKey} {recvSize : Option Nat} {r : XferRun}
    (gathers : Gathers reqId r) :
    Gathers reqId
      { state := (advanceDownload reqId key recvSize r.state).2
        uploads := r.uploads
        parts := keptParts reqId key r } := by
  obtain ⟨⟨row, known, content⟩, merged⟩ := gathers
  refine ⟨⟨_, tusRequest?_withXfer known, ?_⟩, ?_, merged.uploads⟩
  · have kept : (if sameTarget key row.xfer then row.xfer else beginXfer key).sendBuf =
        (keptParts reqId key r).flatMap (·.data) := by
      refine keptParts_content known content (fun same => if_pos same) ?_
      intro other
      rw [if_neg other]
      rfl
    rw [← kept, xferOf_eq known]
  · intro first firstMember second secondMember
    exact merged.gathered first (mem_of_mem_keptParts firstMember) second
      (mem_of_mem_keptParts secondMember)

theorem gathers_uploadChunk {reqId : Nat} {caller : TusCaller} {owner : Owner} {slotId : Int}
    {chunk : UploadChunk} {r : XferRun} (gathers : Gathers reqId r)
    (continues : Continues reqId caller (.setData owner slotId chunk) r) :
    Gathers reqId (uploadChunk reqId caller owner slotId chunk r) := by
  obtain ⟨⟨row, known, content⟩, merged⟩ := gathers
  have alike : ∀ part ∈ keptParts reqId (owner.xferKey caller slotId) r ++
      [⟨⟨owner.resolved caller, slotId⟩, chunk.data⟩],
      part.target = ⟨owner.resolved caller, slotId⟩ := by
    intro part member
    rcases List.mem_append.mp member with member | member
    · exact continues part member
    · rw [List.mem_singleton.mp member]
  have kept : (goesOn (owner.xferKey caller slotId) chunk row.xfer).sendBuf =
      (keptParts reqId (owner.xferKey caller slotId) r).flatMap (·.data) := by
    refine keptParts_content known content (fun same => if_pos same) ?_
    intro other
    rw [goesOn, if_neg other]
    rfl
  have data : (goesOn (owner.xferKey caller slotId) chunk row.xfer).sendBuf ++ chunk.data =
      (keptParts reqId (owner.xferKey caller slotId) r ++
        [XferPart.mk ⟨owner.resolved caller, slotId⟩ chunk.data]).flatMap XferPart.data := by
    rw [kept, List.flatMap_append, List.flatMap_singleton]
  by_cases short : ((goesOn (owner.xferKey caller slotId) chunk row.xfer).sendBuf ++
      chunk.data).length < (goesOn (owner.xferKey caller slotId) chunk row.xfer).totalSize
  · rw [uploadChunk_short known rfl short]
    refine ⟨⟨_, tusRequest?_withXfer known, data⟩, ?_, merged.uploads⟩
    intro first firstMember second secondMember
    exact (alike first firstMember).trans (alike second secondMember).symm
  · rw [uploadChunk_full known rfl short]
    refine ⟨⟨_, tusRequest?_withXfer known, rfl⟩, ?_, ?_⟩
    · exact fun _ member => absurd member List.not_mem_nil
    · intro u member
      rcases List.mem_append.mp member with member | member
      · exact merged.uploads u member
      · rw [List.mem_singleton.mp member]
        exact ⟨data, alike⟩

/-- A chunk that is gathered with those of another target is merged at once. -/
theorem continues_of_neverMerged {reqId : Nat} {caller : TusCaller} {call : XferCall}
    {r : XferRun} (gathers : Gathers reqId r)
    (merged : NeverMerged (xferCall reqId caller call r)) : Continues reqId caller call r := by
  obtain ⟨⟨row, known, -⟩, -⟩ := gathers
  cases call with
  | getData owner slotId recvSize => trivial
  | tssGetData slotId offset recvSize => trivial
  | setData owner slotId chunk =>
    intro part member
    rw [xferCall] at merged
    by_cases short : ((goesOn (owner.xferKey caller slotId) chunk row.xfer).sendBuf ++
        chunk.data).length < (goesOn (owner.xferKey caller slotId) chunk row.xfer).totalSize
    · rw [uploadChunk_short known rfl short] at merged
      exact merged.gathered part (List.mem_append_left _ member)
        ⟨⟨owner.resolved caller, slotId⟩, chunk.data⟩
        (List.mem_append_right _ (List.mem_singleton.mpr rfl))
    · rw [uploadChunk_full known rfl short] at merged
      obtain ⟨-, targets⟩ := merged.uploads _
        (List.mem_append_right _ (List.mem_singleton.mpr rfl))
      exact targets part (List.mem_append_left _ member)

theorem neverMerged_iff {reqId : Nat} {caller : TusCaller} {s : HandlerState}
    {row : NpTusRequest} (known : s.tusRequest? reqId = some row)
    (empty : row.xfer.sendBuf = []) (calls : List XferCall) :
    Runs.Throughout (xferCall reqId caller) NeverMerged (fun _ _ _ => True) calls { state := s } ↔
      Runs.Admitted (xferCall reqId caller) (Continues reqId caller) calls { state := s } := by
  have start : Gathers reqId { state := s } := by
    refine ⟨⟨row, known, empty⟩, ?_, ?_⟩
    · exact fun _ member => absurd member List.not_mem_nil
    · exact fun _ member => absurd member List.not_mem_nil
  refine Runs.throughout_iff_admitted_next (fun _ gathers => gathers.merged) ?_ ?_ start
  · intro call r gathers continues
    refine ⟨?_, trivial⟩
    cases call with
    | getData owner slotId recvSize => exact gathers_download gathers
    | tssGetData slotId offset recvSize => exact gathers_download gathers
    | setData owner slotId chunk => exact gathers_uploadChunk gathers continues
  · intro call r gathers _ merged
    exact continues_of_neverMerged gathers merged

/-- An upload is made once, whole and cut to its size where its chunks end with its size and the
record is another transfer's, or has gathered nothing and is reached by the last chunk only.
Chunks are never merged in the runs where the transfer that a call goes on with is its own. -/
theorem data_uploads_iff {reqId : Nat} {caller : TusCaller} {s : HandlerState}
    {row : NpTusRequest} (known : s.tusRequest? reqId = some row) :
    (∀ (owner : Owner) (slotId : Int) (totalSize last : Nat) (init : List Nat),
      init.sum < totalSize → totalSize ≤ init.sum + last →
      (UploadsOnce reqId caller s owner slotId totalSize (init ++ [last]) ↔
        init.sum + last = totalSize ∧
          (sameTarget (owner.xferKey caller slotId) row.xfer = true →
            row.xfer.sendBuf = [] ∧ row.xfer.totalSize ≤ totalSize ∧
              (init = [] ∨ init.sum < row.xfer.totalSize)))) ∧
    (row.xfer.sendBuf = [] → ∀ calls : List XferCall,
      (Runs.Throughout (xferCall reqId caller) NeverMerged (fun _ _ _ => True) calls
          { state := s } ↔
        Runs.Admitted (xferCall reqId caller) (Continues reqId caller) calls
          { state := s })) := by
  constructor
  · intro owner slotId totalSize last init before enough
    exact uploadsOnce_iff known before enough
  · intro empty calls
    exact neverMerged_iff known empty calls

def oneRequest : HandlerState := { tusRequests := [{ reqId := 1, titleCtxId := 1 }] }

def someCaller : TusCaller := { userId := 1, serviceLabel := 0, self := [65] }

theorem data_uploads_iff_one_request :
    (∀ (owner : Owner) (slotId : Int) (totalSize last : Nat) (init : List Nat),
      init.sum < totalSize → totalSize ≤ init.sum + last →
      (UploadsOnce 1 someCaller oneRequest owner slotId totalSize (init ++ [last]) ↔
        init.sum + last = totalSize ∧
          (sameTarget (owner.xferKey someCaller slotId) {} = true →
            ([] : Bytes) = [] ∧ 0 ≤ totalSize ∧ (init = [] ∨ init.sum < 0)))) ∧
    (([] : Bytes) = [] → ∀ calls : List XferCall,
      (Runs.Throughout (xferCall 1 someCaller) NeverMerged (fun _ _ _ => True) calls
          { state := oneRequest } ↔
        Runs.Admitted (xferCall 1 someCaller) (Continues 1 someCaller) calls
          { state := oneRequest })) :=
  @data_uploads_iff 1 someCaller oneRequest { reqId := 1, titleCtxId := 1 } rfl

/-- Half of an upload for an NP id, then one for the virtual user of the same name. -/
theorem virtual_user_merged : ¬∀ calls : List XferCall,
    Runs.Throughout (xferCall 1 someCaller) NeverMerged (fun _ _ _ => True) calls
      { state := oneRequest } := by
  intro never
  have known : oneRequest.tusRequest? 1 = some { reqId := 1, titleCtxId := 1 } := rfl
  have admitted := (neverMerged_iff known rfl _).mp
    (never [.setData (.npId [66]) 0 ⟨2, [1], none⟩, .setData (.virtualUser [66]) 0 ⟨1, [2], none⟩])
  have same : (⟨.npId [66], 0⟩ : XferTarget) = ⟨.virtualUser [66], 0⟩ :=
    admitted.2.1 ⟨⟨.npId [66], 0⟩, [1]⟩ (List.mem_singleton.mpr rfl)
  exact absurd same (by decide)

end NpTus
