import ShadNet.Transfers
import ShadNet.Handler.Threads

/-!
# Game data of scores in chunks

`RecordGameData` gathers its chunks in the request and does not look at what they are for. The
runs below are sequences of calls on one request; beside the state they carry the calls whose
chunks are gathered, and what was uploaded with the calls it is made of.
-/

open Transfers

namespace NpScore

open NpHandler HandlerState

/-! ## Runs of calls -/

/-- What the chunks of one upload have in common. -/
structure GameDataTarget where
  boardId : Nat
  score : Int
  totalSize : Nat
  deriving DecidableEq, Repr

/-- A call of `RecordGameData` that its argument checks let pass. -/
structure GameDataCall where
  target : GameDataTarget
  data : Bytes
  positive : 0 < target.totalSize
  given : data ≠ []

/-- An upload with the calls whose chunks are in it. -/
structure GameDataUpload where
  boardId : Nat
  score : Int
  blob : Bytes
  parts : List GameDataCall

structure Recording where
  state : HandlerState
  uploads : List GameDataUpload := []
  parts : List GameDataCall := []

/-- `RecordGameData` up to what it hands to the handler. -/
def recordChunk (ref : Nat) (call : GameDataCall) (r : Recording) : Recording :=
  match bufferGameData ref call.target.totalSize call.data r.state with
  | (none, s) => { state := s, uploads := r.uploads, parts := r.parts ++ [call] }
  | (some blob, s) =>
    { state := s
      uploads := r.uploads ++ [⟨call.target.boardId, call.target.score, blob, r.parts ++ [call]⟩] }

def recordChunks (ref : Nat) : List GameDataCall → Recording → Recording :=
  Runs.run (recordChunk ref)

/-- The calls make up an upload for this target. -/
structure Splits (target : GameDataTarget) (calls : List GameDataCall) : Prop where
  targets : ∀ call ∈ calls, call.target = target
  whole : (calls.flatMap (·.data)).length = target.totalSize

/-- However an upload for this target is split, it is uploaded once and nothing else is. -/
def UploadsOnce (ref : Nat) (s : HandlerState) (target : GameDataTarget) : Prop :=
  ∀ calls, Splits target calls →
    ((recordChunks ref calls { state := s }).uploads.map fun u => (u.boardId, u.score, u.blob)) =
      [(target.boardId, target.score, calls.flatMap (·.data))]

/-- What was uploaded, and what is gathered, is from calls for one target. -/
structure NeverMerged (r : Recording) : Prop where
  gathered : ∀ first ∈ r.parts, ∀ second ∈ r.parts, first.target = second.target
  uploads : ∀ u ∈ r.uploads, u.blob = (u.parts.flatMap (·.data)).take u.blob.length ∧
    ∀ part ∈ u.parts, part.target = ⟨u.boardId, u.score, u.blob.length⟩

/-- The chunks that are gathered already are for the target of the call. -/
def Continues (call : GameDataCall) (r : Recording) : Prop :=
  ∀ part ∈ r.parts, part.target = call.target

/-! ### One call -/

def underWay (ctx : RequestCtx) : Option (Transfer UInt8) :=
  if ctx.sendBuf = [] then none else some ⟨ctx.sendBuf, ctx.sendTotal⟩

/-- The request with what a call has left of the transfer. -/
def gathered (buf : Bytes) (total : Nat) (ctx : RequestCtx) : RequestCtx :=
  { ctx with sendBuf := buf, sendTotal := total }

/-- What is there of the transfer with the chunk of the call. -/
def buffered (call : GameDataCall) (ctx : RequestCtx) : Transfer UInt8 :=
  let y := (underWay ctx).getD ⟨[], call.target.totalSize⟩
  ⟨y.buf ++ call.data.take (y.total - y.buf.length), y.total⟩

section Call

variable {ref : Nat} {call : GameDataCall} {r : Recording} {ctx : RequestCtx}

theorem request?_gathered {s : HandlerState} {buf : Bytes} {total : Nat}
    (known : s.request? ref = some ctx) :
    (s.withRequest ref (gathered buf total)).request? ref = some (gathered buf total ctx) := by
  rw [request?_withRequest (f := gathered buf total) (fun _ => rfl), known, Option.map_some,
    if_pos (request?_ref known)]

theorem bufferGameData_eq {s : HandlerState} (known : s.request? ref = some ctx) :
    bufferGameData ref call.target.totalSize call.data s =
      if (buffered call ctx).buf.length < (buffered call ctx).total then
        (none, s.withRequest ref (gathered (buffered call ctx).buf (buffered call ctx).total))
      else (some (buffered call ctx).buf, s.withRequest ref (gathered [] 0)) := by
  rw [bufferGameData, known]
  by_cases empty : ctx.sendBuf = []
  · have start : buffered call ctx =
        ⟨[] ++ call.data.take (call.target.totalSize - 0), call.target.totalSize⟩ := by
      rw [buffered, underWay, if_pos empty, Option.getD_none, List.length_nil]
    rw [start]
    simp only [empty]
    rfl
  · have goes : buffered call ctx =
        ⟨ctx.sendBuf ++ call.data.take (ctx.sendTotal - ctx.sendBuf.length), ctx.sendTotal⟩ := by
      rw [buffered, underWay, if_neg empty, Option.getD_some]
    rw [goes]
    simp only [if_neg empty]
    rfl

variable (known : r.state.request? ref = some ctx)
include known

theorem recordChunk_short (short : (buffered call ctx).buf.length < (buffered call ctx).total) :
    recordChunk ref call r =
      { state := r.state.withRequest ref
          (gathered (buffered call ctx).buf (buffered call ctx).total)
        uploads := r.uploads
        parts := r.parts ++ [call] } := by
  rw [recordChunk, bufferGameData_eq known, if_pos short]

theorem recordChunk_full (full : ¬(buffered call ctx).buf.length < (buffered call ctx).total) :
    recordChunk ref call r =
      { state := r.state.withRequest ref (gathered [] 0)
        uploads := r.uploads ++
          [⟨call.target.boardId, call.target.score, (buffered call ctx).buf,
            r.parts ++ [call]⟩] } := by
  rw [recordChunk, bufferGameData_eq known, if_neg full]

end Call

/-- A chunk that leaves room is taken whole, and there was something to take. -/
theorem buffered_short {call : GameDataCall} {ctx : RequestCtx}
    (short : (buffered call ctx).buf.length < (buffered call ctx).total) :
    (buffered call ctx).buf = ((underWay ctx).getD ⟨[], call.target.totalSize⟩).buf ++ call.data ∧
      (buffered call ctx).buf ≠ [] := by
  rw [buffered] at short ⊢
  simp only [List.length_append, List.length_take] at short ⊢
  rw [List.take_of_length_le (by omega)]
  exact ⟨rfl, fun empty => call.given (List.append_eq_nil_iff.mp empty).2⟩

theorem underWay_gathered {buf : Bytes} {total : Nat} {ctx : RequestCtx} (some_ : buf ≠ []) :
    underWay (gathered buf total ctx) = some ⟨buf, total⟩ :=
  if_neg some_

theorem underWay_done {ctx : RequestCtx} : underWay (gathered [] 0 ctx) = none := if_pos rfl

theorem gather_buffered {call : GameDataCall} {ctx : RequestCtx} {rest : List Bytes} :
    gather List.take call.target.totalSize (underWay ctx) (call.data :: rest) =
      if (buffered call ctx).buf.length < (buffered call ctx).total then
        gather List.take call.target.totalSize (some (buffered call ctx)) rest
      else (buffered call ctx).buf :: gather List.take call.target.totalSize none rest := rfl

/-- The induction goes over the calls with the request as each of them leaves it. -/
theorem uploads_recordChunks {ref : Nat} {target : GameDataTarget} {calls : List GameDataCall}
    {r : Recording} {ctx : RequestCtx} (known : r.state.request? ref = some ctx)
    (targets : ∀ call ∈ calls, call.target = target) :
    ((recordChunks ref calls r).uploads.map fun u => (u.boardId, u.score, u.blob)) =
      (r.uploads.map fun u => (u.boardId, u.score, u.blob)) ++
      (gather List.take target.totalSize (underWay ctx) (calls.map (·.data))).map fun blob =>
        (target.boardId, target.score, blob) := by
  induction calls generalizing r ctx with
  | nil => simp [recordChunks, gather]
  | cons call calls ih =>
    have here : call.target = target := targets call List.mem_cons_self
    have later : ∀ call ∈ calls, call.target = target :=
      fun other member => targets other (List.mem_cons_of_mem _ member)
    rw [recordChunks, Runs.run_cons, ← recordChunks, List.map_cons, ← here, gather_buffered]
    by_cases short : (buffered call ctx).buf.length < (buffered call ctx).total
    · have held := buffered_short short
      rw [recordChunk_short known short, ih (request?_gathered known) later,
        underWay_gathered held.2, if_pos short, ← here]
    · rw [recordChunk_full known short, ih (request?_gathered known) later, underWay_done,
        if_neg short, ← here]
      simp only [List.map_append, List.map_cons, List.map_nil, List.append_assoc,
        List.cons_append, List.nil_append]

/-- Calls for this target with these chunks. -/
theorem exists_calls {target : GameDataTarget} (positive : 0 < target.totalSize)
    {chunks : List Bytes} (given : ∀ chunk ∈ chunks, chunk ≠ []) :
    ∃ calls : List GameDataCall, calls.map (·.data) = chunks ∧
      ∀ call ∈ calls, call.target = target := by
  induction chunks with
  | nil => exact ⟨[], rfl, fun _ member => absurd member List.not_mem_nil⟩
  | cons chunk chunks ih =>
    obtain ⟨calls, datas, targets⟩ := ih (fun c member => given c (List.mem_cons_of_mem _ member))
    refine ⟨⟨target, chunk, positive, given chunk List.mem_cons_self⟩ :: calls, ?_, ?_⟩
    · rw [List.map_cons, datas]
    · intro call member
      rcases List.mem_cons.mp member with rfl | member
      · rfl
      · exact targets call member

theorem uploadsOnce_iff {ref : Nat} {s : HandlerState} {ctx : RequestCtx}
    {target : GameDataTarget} (known : s.request? ref = some ctx)
    (positive : 0 < target.totalSize) : UploadsOnce ref s target ↔ ctx.sendBuf = [] := by
  have taken := gather_take_iff (x := underWay ctx) positive
  have start : ((underWay ctx).getD ⟨[], target.totalSize⟩).buf = [] ∧
      ((underWay ctx).getD ⟨[], target.totalSize⟩).total = target.totalSize ↔
      ctx.sendBuf = [] := by
    rw [underWay]
    by_cases empty : ctx.sendBuf = []
    · simp [empty]
    · simp [empty]
  rw [← start, ← taken]
  constructor
  · intro once chunks given whole
    obtain ⟨calls, rfl, targets⟩ := exists_calls positive given
    rw [← List.flatMap_def] at whole
    have uploaded := once calls ⟨targets, whole⟩
    rw [uploads_recordChunks known targets, List.map_nil, List.nil_append] at uploaded
    have blobs := congrArg (List.map fun u => u.2.2) uploaded
    rw [List.map_map, List.map_singleton] at blobs
    rw [← List.flatMap_def, ← blobs]
    exact (List.map_id _).symm
  · intro gathers calls splits
    rw [uploads_recordChunks known splits.targets, gathers, List.map_nil, List.nil_append,
      List.map_singleton, List.flatMap_def]
    · intro chunk member
      obtain ⟨call, -, rfl⟩ := List.mem_map.mp member
      exact call.given
    · rw [← List.flatMap_def, splits.whole]

/-! ### Whole runs -/

/-- What the request has of the calls whose chunks are gathered. -/
structure Holds (parts : List GameDataCall) (ctx : RequestCtx) : Prop where
  content : ctx.sendBuf = parts.flatMap (·.data)
  total : ∀ part ∈ parts, part.target.totalSize = ctx.sendTotal
  room : ctx.sendBuf = [] ∨ ctx.sendBuf.length < ctx.sendTotal

structure Gathers (ref : Nat) (r : Recording) : Prop where
  request : ∃ ctx, r.state.request? ref = some ctx ∧ Holds r.parts ctx
  merged : NeverMerged r

/-- A call that continues the transfer adds to what the calls before it have given. -/
theorem buffered_of_holds {parts : List GameDataCall} {call : GameDataCall} {ctx : RequestCtx}
    (holds : Holds parts ctx) (continues : ∀ part ∈ parts, part.target = call.target) :
    buffered call ctx = ⟨((parts ++ [call]).flatMap (·.data)).take call.target.totalSize,
      call.target.totalSize⟩ := by
  rw [List.flatMap_append, List.flatMap_singleton, ← holds.content, List.take_append]
  by_cases empty : ctx.sendBuf = []
  · rw [buffered, underWay, if_pos empty, empty, List.take_nil]
    rfl
  · obtain ⟨part, member⟩ : ∃ part, part ∈ parts := by
      rw [holds.content] at empty
      exact List.exists_mem_of_ne_nil _ (fun none_ => empty (by rw [none_, List.flatMap_nil]))
    have total : ctx.sendTotal = call.target.totalSize := by
      rw [← holds.total part member, continues part member]
    have room := holds.room.resolve_left empty
    have whole : ctx.sendBuf.take call.target.totalSize = ctx.sendBuf :=
      List.take_of_length_le (by omega)
    rw [buffered, underWay, if_neg empty, Option.getD_some, total, whole]

theorem gathers_recordChunk {ref : Nat} {call : GameDataCall} {r : Recording}
    (gathers : Gathers ref r) (continues : Continues call r) :
    Gathers ref (recordChunk ref call r) := by
  obtain ⟨⟨ctx, known, holds⟩, merged⟩ := gathers
  have alike : ∀ part ∈ r.parts ++ [call], part.target = call.target := by
    intro part member
    rcases List.mem_append.mp member with member | member
    · exact continues part member
    · exact congrArg _ (List.mem_singleton.mp member)
  have taken := buffered_of_holds holds continues
  by_cases short : (buffered call ctx).buf.length < (buffered call ctx).total
  · rw [recordChunk_short known short]
    rw [taken, List.length_take] at short
    have fits : ((r.parts ++ [call]).flatMap (·.data)).length < call.target.totalSize := by
      dsimp only at short
      omega
    refine ⟨⟨_, request?_gathered known, ?_, ?_, .inr ?_⟩, ?_, merged.uploads⟩
    · rw [taken]
      exact List.take_of_length_le (by omega)
    · intro part member
      rw [alike part member, taken]
      rfl
    · rw [taken]
      exact Nat.lt_of_le_of_lt (List.length_take_le' _ _) fits
    · intro first firstMember second secondMember
      exact (alike first firstMember).trans (alike second secondMember).symm
  · rw [recordChunk_full known short]
    rw [taken, List.length_take] at short
    have size : (buffered call ctx).buf.length = call.target.totalSize := by
      rw [taken, List.length_take]
      dsimp only at short
      omega
    refine ⟨⟨_, request?_gathered known, rfl, ?_, .inl rfl⟩, ?_, ?_⟩
    · exact fun _ member => absurd member List.not_mem_nil
    · exact fun _ member => absurd member List.not_mem_nil
    · intro u member
      rcases List.mem_append.mp member with member | member
      · exact merged.uploads u member
      · rw [List.mem_singleton.mp member]
        refine ⟨?_, ?_⟩
        · rw [size, taken]
        · intro part member
          rw [alike part member, size]

/-- A chunk that is gathered with those of another target is merged at once. -/
theorem continues_of_neverMerged {ref : Nat} {call : GameDataCall} {r : Recording}
    (gathers : Gathers ref r) (merged : NeverMerged (recordChunk ref call r)) :
    Continues call r := by
  obtain ⟨⟨ctx, known, -⟩, -⟩ := gathers
  intro part member
  by_cases short : (buffered call ctx).buf.length < (buffered call ctx).total
  · rw [recordChunk_short known short] at merged
    exact merged.gathered part (List.mem_append_left _ member) call
      (List.mem_append_right _ (List.mem_singleton.mpr rfl))
  · rw [recordChunk_full known short] at merged
    obtain ⟨-, targets⟩ := merged.uploads _
      (List.mem_append_right _ (List.mem_singleton.mpr rfl))
    exact (targets part (List.mem_append_left _ member)).trans
      (targets call (List.mem_append_right _ (List.mem_singleton.mpr rfl))).symm

theorem neverMerged_iff {ref : Nat} {s : HandlerState} {ctx : RequestCtx}
    (known : s.request? ref = some ctx) (empty : ctx.sendBuf = []) (calls : List GameDataCall) :
    Runs.Throughout (recordChunk ref) NeverMerged (fun _ _ _ => True) calls { state := s } ↔
      Runs.Admitted (recordChunk ref) Continues calls { state := s } := by
  have start : Gathers ref { state := s } := by
    refine ⟨⟨ctx, known, empty, ?_, .inl empty⟩, ?_, ?_⟩
    · exact fun _ member => absurd member List.not_mem_nil
    · exact fun _ member => absurd member List.not_mem_nil
    · exact fun _ member => absurd member List.not_mem_nil
  refine Runs.throughout_iff_admitted_next (fun _ gathers => gathers.merged) ?_ ?_ start
  · intro call r gathers continues
    exact ⟨gathers_recordChunk gathers continues, trivial⟩
  · intro call r gathers _ merged
    exact continues_of_neverMerged gathers merged

/-- An upload is made once and whole where nothing is gathered when it begins, and chunks are
never merged in the runs where each call continues its own transfer. -/
theorem game_data_uploads_iff {ref : Nat} {s : HandlerState} {ctx : RequestCtx}
    (known : s.request? ref = some ctx) :
    (∀ target : GameDataTarget, 0 < target.totalSize →
      (UploadsOnce ref s target ↔ ctx.sendBuf = [])) ∧
    (ctx.sendBuf = [] → ∀ calls : List GameDataCall,
      (Runs.Throughout (recordChunk ref) NeverMerged (fun _ _ _ => True) calls { state := s } ↔
        Runs.Admitted (recordChunk ref) Continues calls { state := s })) := by
  constructor
  · intro target positive
    exact uploadsOnce_iff known positive
  · intro empty calls
    exact neverMerged_iff known empty calls

def oneRequest : HandlerState := { requests := [{ ref := 1, request := ⟨.score, 1⟩ }] }

theorem game_data_uploads_iff_one_request :
    (∀ target : GameDataTarget, 0 < target.totalSize →
      (UploadsOnce 1 oneRequest target ↔ ([] : Bytes) = [])) ∧
    (([] : Bytes) = [] → ∀ calls : List GameDataCall,
      (Runs.Throughout (recordChunk 1) NeverMerged (fun _ _ _ => True) calls
          { state := oneRequest } ↔
        Runs.Admitted (recordChunk 1) Continues calls { state := oneRequest })) :=
  @game_data_uploads_iff 1 oneRequest { ref := 1, request := ⟨.score, 1⟩ } rfl

def firstHalf : GameDataCall := ⟨⟨1, 10, 4⟩, [1, 2], by decide, by decide⟩

def otherBoard : GameDataCall := ⟨⟨2, 20, 2⟩, [3, 4], by decide, by decide⟩

/-- The first half for one board, then a blob for another one. -/
theorem other_board_merged : ¬∀ calls : List GameDataCall,
    Runs.Throughout (recordChunk 1) NeverMerged (fun _ _ _ => True) calls
      { state := oneRequest } := by
  intro never
  have known : oneRequest.request? 1 = some { ref := 1, request := ⟨.score, 1⟩ } := rfl
  have admitted := (neverMerged_iff known rfl [firstHalf, otherBoard]).mp
    (never [firstHalf, otherBoard])
  have same : firstHalf.target = otherBoard.target :=
    admitted.2.1 firstHalf (List.mem_singleton.mpr rfl)
  exact absurd same (by decide)

end NpScore
