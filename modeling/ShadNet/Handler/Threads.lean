import ShadNet.RelyGuarantee
import ShadNet.Handler.Api

/-!
# What the threads of the handler have under way

The marks a thread has in the history say what it has begun and not finished. It
starts and ends without any, and no other thread touches them. `Step` lists the
sections with what their thread knows when it comes to them.
-/

namespace NpHandler

open LockProgram HandlerState

/-! ## Requests by their reference -/

namespace HandlerState

theorem request?_withRequest {ref other : Nat} {f : RequestCtx → RequestCtx}
    (keeps : ∀ ctx, (f ctx).ref = ctx.ref) (s : HandlerState) :
    (s.withRequest ref f).request? other =
      (s.request? other).map (fun ctx => if ctx.ref = ref then f ctx else ctx) :=
  KeyedTable.lookup_adjust keeps s.requests

theorem request?_ref {ref : Nat} {ctx : RequestCtx} {s : HandlerState}
    (found : s.request? ref = some ctx) : ctx.ref = ref :=
  (KeyedTable.lookup_some found).2

end HandlerState

/-- The parts of a request object that matter to others: whom it belongs to, who began it last,
its result and whose result that is. -/
structure Holding where
  request : RequestId
  lastCall : Nat
  result : Option Int
  resultOf : Option Nat

def RequestCtx.holding (ctx : RequestCtx) : Holding := ⟨ctx.request, ctx.lastCall, ctx.result, ctx.resultOf⟩

def HandlerState.holding? (ref : Nat) (s : HandlerState) : Option Holding :=
  (s.request? ref).map RequestCtx.holding

theorem owner?_eq (ref : Nat) (s : HandlerState) :
    s.owner? ref = (s.holding? ref).map (·.request) := by
  simp [owner?, holding?, RequestCtx.holding, Function.comp_def]

theorem result?_eq (ref : Nat) (s : HandlerState) :
    s.result? ref = (s.holding? ref).bind (·.result) := by
  cases found : s.request? ref <;> simp [result?, holding?, RequestCtx.holding, found]

theorem holding?_withRequest {ref other : Nat} {f : RequestCtx → RequestCtx} {g : Holding → Holding}
    (keeps : ∀ ctx, (f ctx).ref = ctx.ref) (acts : ∀ ctx, (f ctx).holding = g ctx.holding)
    (s : HandlerState) :
    (s.withRequest ref f).holding? other =
      if other = ref then (s.holding? other).map g else s.holding? other := by
  rw [holding?, request?_withRequest keeps]
  cases found : s.request? other with
  | none => simp [holding?, found]
  | some ctx =>
    have named := request?_ref found
    by_cases same : other = ref
    · subst same
      simp [holding?, found, named, acts]
    · simp [holding?, found, named, same]

/-- The first result stays, and whose it is. -/
def Holding.given (r : Outcome) (h : Holding) : Holding :=
  if h.result.isSome then h else { h with result := some r.result, resultOf := r.call }

theorem Holding.given_request (r : Outcome) (h : Holding) : (h.given r).request = h.request := by
  rw [given]
  split <;> rfl

theorem holding?_setResult (ref other : Nat) (r : Outcome) (s : HandlerState) :
    (setResult ref r s).holding? other =
      if other = ref then (s.holding? other).map (Holding.given r) else s.holding? other := by
  apply holding?_withRequest
  · intro ctx
    split <;> rfl
  · intro ctx
    cases set : ctx.result <;> simp [RequestCtx.holding, Holding.given, set]

/-! ## Marks -/

/-- What thread `i` has under way. -/
structure Marks where
  starting : List (Nat × Nat) := []
  submitting : List Submission := []
  carried : List (Nat × Nat) := []
  writing : List (Nat × Nat) := []
  sweeping : List Sweep := []
  inHand : List Routed := []

def marks (i : Nat) (s : HandlerState) : Marks :=
  { starting := s.starting.filter (fun mark => decide (mark.1 = i))
    submitting := s.submitting.filter (fun submission => decide (submission.call = i))
    carried := s.carried.filter (fun mark => decide (mark.1 = i))
    writing := s.writing.filter (fun mark => decide (mark.1 = i))
    sweeping := s.sweeping.filter (fun sweep => decide (sweep.call = i))
    inHand := s.inHand.filter (fun r => decide (r.call = i)) }

def Clean (i : Nat) (s : HandlerState) : Prop := marks i s = {}

/-- What no section takes back. -/
structure Grows (s t : HandlerState) : Prop where
  owner : ∀ ref request, s.owner? ref = some request → t.owner? ref = some request
  client : ∀ id client, s.client? id = some client →
    ∃ later, t.client? id = some later ∧ client.pktCounter ≤ later.pktCounter
  routed : ∀ r ∈ s.routed, r ∈ t.routed
  rankPlaces : ∀ place ∈ s.rankPlaces, place ∈ t.rankPlaces

theorem Grows.refl (s : HandlerState) : Grows s s :=
  ⟨fun _ _ h => h, fun _ client h => ⟨client, h, Nat.le_refl _⟩, fun _ h => h, fun _ h => h⟩

theorem Grows.trans {s t u : HandlerState} (first : Grows s t) (second : Grows t u) :
    Grows s u := by
  constructor
  · intro ref request owned
    exact second.owner ref request (first.owner ref request owned)
  · intro id client found
    obtain ⟨later, found', le⟩ := first.client id client found
    obtain ⟨last, found'', le'⟩ := second.client id later found'
    exact ⟨last, found'', by omega⟩
  · intro r member
    exact second.routed r (first.routed r member)
  · intro place member
    exact second.rankPlaces place (first.rankPlaces place member)

/-- A thread leaves the marks of the others alone. -/
def Moves (i : Nat) (s t : HandlerState) : Prop :=
  (∀ j, j ≠ i → marks j t = marks j s) ∧ Grows s t

section Marks

variable {i j ref : Nat} {s : HandlerState}

/-- A mark taken away is seen only by its own thread. -/
theorem filter_other {α : Type} {own kept : α → Bool} (apart : ∀ a, own a → kept a)
    (items : List α) : (items.filter kept).filter own = items.filter own := by
  rw [List.filter_filter]
  apply List.filter_congr
  intro a _
  cases owned : own a with
  | false => simp
  | true => simp [apart a owned]

theorem filter_unmark (apart : j ≠ i) (items : List (Nat × Nat)) :
    (items.filter (fun mark => decide (mark ≠ (i, ref)))).filter (fun mark => decide (mark.1 = j)) =
      items.filter (fun mark => decide (mark.1 = j)) := by
  apply filter_other
  rintro mark owned
  have named : mark.1 = j := by simpa using owned
  have other : mark ≠ (i, ref) := by
    rintro rfl
    exact apart named.symm
  simpa using other

/-- What a thread drops was never of another. -/
theorem filter_drop {α : Type} (call : α → Nat) (apart : j ≠ i) (items : List α) :
    (items.filter (fun a => decide (call a ≠ i))).filter (fun a => decide (call a = j)) =
      items.filter (fun a => decide (call a = j)) := by
  apply filter_other
  intro a owned
  have named : call a = j := by simpa using owned
  simpa [named] using apart

theorem marks_markBegun : marks j (markBegun i ref s) =
    { marks j s with
      starting := (marks j s).starting ++ if i = j then [(i, ref)] else [] } := by
  by_cases same : i = j <;> simp [marks, markBegun, List.filter_append, same]

theorem marks_started (apart : j ≠ i) : marks j (started i ref s) = marks j s := by
  simp only [marks, started, filter_unmark apart]

end Marks

/-! ## Steps -/

/-- A section that touches no mark, no history and nothing that requests are known by. -/
structure Quiet (s t : HandlerState) : Prop where
  same : t = { s with
    npCommIds := t.npCommIds
    clients := t.clients
    requests := t.requests
    scoreTitleCtxs := t.scoreTitleCtxs
    nextScoreCtxId := t.nextScoreCtxId
    tusTitleCtxs := t.tusTitleCtxs
    nextTusCtxId := t.nextTusCtxId
    tusRequests := t.tusRequests
    nextTusReqId := t.nextTusReqId
    stores := t.stores }
  holding : ∀ ref, t.holding? ref = s.holding? ref
  current : ∀ request, t.current? request = s.current? request
  client : ∀ id client, s.client? id = some client →
    ∃ later, t.client? id = some later ∧ client.pktCounter ≤ later.pktCounter

/-- The entry a submission is registered with. -/
structure PendingRequest.From (entry : PendingRequest) (submission : Submission) : Prop where
  call : entry.call = submission.call
  client : entry.client = submission.client
  pktId : entry.pktId = submission.pktId
  req : entry.req = submission.req
  cmd : entry.cmd = submission.message.cmd
  family : entry.cmd.family? = some entry.family

/-- The library whose requests a pending map is for. -/
def Family.library : Family → Library
  | .score => .score
  | .tus => .tus
  | .auth => .auth
  | .trophy => .trophy

/-- The thread has begun an operation and not brought it to an end. -/
structure Started (i ref : Nat) (library : Library) (s : HandlerState) : Prop where
  marked : marks i s = { starting := [(i, ref)] }
  owned : ∃ id, s.owner? ref = some ⟨library, id⟩

/-- The sections of thread `i`, with what it knows of the state it comes to. -/
inductive Step (pb : ShadNetProto) (i : Nat) (s : HandlerState) :
    Section → (HandlerState → HandlerState) → Prop
  | quiet {update : HandlerState → HandlerState} (quiet : Quiet s (update s)) :
    Step pb i s .other update
  | connect (userId : Int) (npId : Bytes) (accountId : Int) :
    Step pb i s .other (addSession userId npId accountId)
  | createScore (titleCtxId : Nat) :
    Step pb i s .other (fun s => (NpScore.addRequest titleCtxId s).2)
  | beginScore (reqId : Nat) (clean : Clean i s) :
    Step pb i s (.begin i ⟨.score, reqId⟩) (fun s => (beginScore i reqId s).2)
  | beginTus (reqId : Nat) (clean : Clean i s) :
    Step pb i s (.begin i ⟨.tus, reqId⟩) (fun s => (beginTus i reqId s).2)
  | beginOwn (library : Library) (own : library = .auth ∨ library = .trophy) (clean : Clean i s) :
    Step pb i s (.begin i ⟨library, i⟩) (fun s => (beginOwn i library s).2)
  | fake (reqId : Nat) (clean : Clean i s) :
    Step pb i s (.begin i ⟨.tus, reqId⟩) (fun s => (fakeAsyncComplete i reqId s).2)
  | finish (ref : Nat) (r : Int) (library : Library) (begun : Started i ref library s) :
    Step pb i s (.finish i ref) (finish i ref r)
  | rejectComment (ref : Nat) (begun : Started i ref .score s) :
    Step pb i s (.rejectComment i ref) (started i ref)
  | submitFailed (ref : Nat) (begun : Started i ref .tus s) :
    Step pb i s (.submitFailed i ref) (started i ref)
  | submit (client : Nat) (family : Family) (ref : Nat) (message : Message)
      (begun : Started i ref family.library s) (connected : (s.client? client).isSome)
      (routes : message.cmd.family? = some family) :
    Step pb i s (.submit i client family ref) (fun s => (submitRequest i client message ref s).2)
  | submitAuth (client ref : Nat) (userId : Int) (message : Message) (outputs : Outputs)
      (begun : Started i ref .auth s) (connected : (s.client? client).isSome)
      (routes : message.cmd.family? = some .auth) :
    Step pb i s (.submit i client .auth ref) (submitAuth i ref client userId message outputs)
  | register (entry : PendingRequest) (submission : Submission) (own : entry.call = i)
      (marked : marks i s = { starting := [(i, entry.req)], submitting := [submission] })
      (owned : ∃ id, s.owner? entry.req = some ⟨entry.family.library, id⟩)
      (registers : entry.From submission) :
    Step pb i s (.register entry) (register entry)
  | take (client : Nat) (family : Family) (pktId : Nat) (reply : Reply) (clean : Clean i s)
      (routes : reply.cmd.family? = some family) :
    Step pb i s (.take i client family pktId reply)
      (fun s => (takePending i client family pktId reply s).2)
  | prepare (r : Routed) (routed : r ∈ s.routed) (own : r.call = i)
      (family : r.entry.family = r.family)
      (marked : marks i s = { carried := [(i, r.entry.req)], inHand := [r] }) :
    Step pb i s (.prepare i r.reply r.entry) (fun s => (prepare pb i r.reply r.entry s).2)
  | store (r : Routed) (store : Store) (last : Bool) (tmpRankOut : Option Pointer)
      (routed : r ∈ s.routed) (own : r.call = i)
      (place : ∀ target ∈ tmpRankOut, ⟨i, r.entry.req, target⟩ ∈ s.rankPlaces)
      (marked : marks i s =
        { carried := [(i, r.entry.req)], writing := [(i, r.entry.req)], inHand := [r] })
      (due : store ∈ (completion pb r.family r.reply r.entry.outputs tmpRankOut).stores) :
    Step pb i s (.store i r.entry.req) (replyStore i r.entry.req store last)
  | complete (r : Routed) (tmpRankOut : Option Pointer) (routed : r ∈ s.routed)
      (own : r.call = i)
      (place : ∀ target ∈ tmpRankOut, ⟨i, r.entry.req, target⟩ ∈ s.rankPlaces)
      (marked : marks i s = { carried := [(i, r.entry.req)], inHand := [r] }) :
    Step pb i s (.complete i r.entry.req)
      (complete i r.client r.entry
        (completion pb r.family r.reply r.entry.outputs tmpRankOut).result)
  | completeAuth (r : Routed) (routed : r ∈ s.routed) (own : r.call = i)
      (auth : r.family = .auth) (marked : marks i s = { carried := [(i, r.entry.req)], inHand := [r] }) :
    Step pb i s (.complete i r.entry.req)
      (completeAuth i r.client r.entry
        (authCompletion pb r.reply r.entry.outputs))
  | abort (request : RequestId) (found : Option Nat)
      (owned : ∀ ref, found = some ref → s.owner? ref = some request) :
    Step pb i s (.abort request found) (kill request found communityAborted)
  | delete (request : RequestId) :
    Step pb i s (.delete request) (fun s => (deleteRequest request s).2)
  | deleteTitle (library : Library) (titleId : Nat) :
    Step pb i s (.deleteTitle library titleId) (fun s => (deleteTitle library titleId s).2)
  | disconnect (userId : Int) (clean : Clean i s) :
    Step pb i s (.disconnect i userId) (fun s => (removeSession i userId s).2)
  | sweep (userId : Int) (family : Family) (errorCode : Int) (rest : List Sweep)
      (marked : marks i s = { sweeping := ⟨i, userId, family⟩ :: rest }) :
    Step pb i s (.sweep i userId family) (sweepPending i userId family errorCode)

/-! ### Others keep their marks -/

/-- No mark moves at all. -/
def Silent (s t : HandlerState) : Prop := (∀ j, marks j t = marks j s) ∧ Grows s t

theorem Silent.refl (s : HandlerState) : Silent s s := ⟨fun _ => rfl, Grows.refl s⟩

theorem Silent.trans {s t u : HandlerState} (first : Silent s t) (second : Silent t u) :
    Silent s u :=
  ⟨fun j => (second.1 j).trans (first.1 j), first.2.trans second.2⟩

theorem Silent.moves {i : Nat} {s t : HandlerState} (silent : Silent s t) : Moves i s t :=
  ⟨fun j _ => silent.1 j, silent.2⟩

theorem Silent.foldl {α : Type} {f : HandlerState → α → HandlerState}
    (each : ∀ s a, Silent s (f s a)) (items : List α) (s : HandlerState) :
    Silent s (items.foldl f s) := by
  induction items generalizing s with
  | nil => exact Silent.refl s
  | cons a rest ih => exact (each s a).trans (ih (f s a))

section Effects

variable {pb : ShadNetProto} {i j ref : Nat} {s t : HandlerState}

theorem owner?_setResult (ref other : Nat) (r : Outcome) (s : HandlerState) :
    (setResult ref r s).owner? other = s.owner? other := by
  rw [owner?_eq, owner?_eq, holding?_setResult]
  split
  · cases s.holding? other <;> simp [Holding.given_request]
  · rfl

theorem owner?_append {ctx : RequestCtx} {request : RequestId}
    (requests : t.requests = s.requests ++ [ctx]) (owned : s.owner? ref = some request) :
    t.owner? ref = some request := by
  obtain ⟨held, found, rfl⟩ := Option.map_eq_some_iff.mp owned
  have kept : t.request? ref = some held := by
    rw [request?, requests, KeyedTable.lookup_append]
    rw [request?] at found
    rw [found, Option.some_or]
  simp [owner?, kept]

theorem silent_setResult (ref : Nat) (r : Outcome) (s : HandlerState) :
    Silent s (setResult ref r s) := by
  refine ⟨fun _ => rfl, { Grows.refl s with owner := ?_ }⟩
  intro other request owned
  rw [owner?_setResult]
  exact owned

theorem Quiet.silent (quiet : Quiet s t) : Silent s t := by
  refine ⟨?_, ?_, quiet.client, ?_, ?_⟩
  · intro j
    rw [quiet.same]
    rfl
  · intro ref request owned
    rw [owner?_eq, quiet.holding, ← owner?_eq]
    exact owned
  · intro r member
    rw [quiet.same]
    exact member
  · intro place member
    rw [quiet.same]
    exact member

theorem silent_addSession (userId : Int) (npId : Bytes) (accountId : Int) :
    Silent s (addSession userId npId accountId s) := by
  refine ⟨fun _ => rfl, { Grows.refl s with client := ?_ }⟩
  intro id client found
  refine ⟨client, ?_, Nat.le_refl _⟩
  rw [client?, addSession, KeyedTable.lookup_append,
    show KeyedTable.lookup ShadNetClient.clientId id s.clients = some client from found,
    Option.some_or]

theorem addRequest_cases (titleCtxId : Nat) (s : HandlerState) :
    (NpScore.addRequest titleCtxId s).2 = s ∨
      ∃ ctx : RequestCtx, ctx.ref = s.nextRef ∧ ctx.request = ⟨.score, s.nextScoreReqId⟩ ∧
        ctx.result = none ∧ (NpScore.addRequest titleCtxId s).2 =
          { s with
            nextScoreReqId := s.nextScoreReqId + 1
            nextRef := s.nextRef + 1
            requests := s.requests ++ [ctx]
            scoreRequests := s.scoreRequests ++ [⟨s.nextScoreReqId, s.nextRef⟩] } := by
  rw [NpScore.addRequest]
  split
  · exact Or.inl rfl
  · split
    · exact Or.inl rfl
    · exact Or.inr ⟨_, rfl, rfl, rfl, rfl⟩

theorem silent_addRequest (titleCtxId : Nat) : Silent s (NpScore.addRequest titleCtxId s).2 := by
  rcases addRequest_cases titleCtxId s with refused | ⟨ctx, -, -, -, added⟩
  · rw [refused]
    exact Silent.refl s
  · rw [added]
    refine ⟨fun _ => rfl, { Grows.refl s with owner := ?_ }⟩
    intro ref request owned
    exact owner?_append rfl owned

theorem silent_kill (request : RequestId) (found : Option Nat) (aborted : Int) :
    Silent s (kill request found aborted s) := by
  have ended := Silent.foldl (fun s ref => silent_setResult ref ⟨aborted, none⟩ s) found.toList s
  exact ⟨fun j => ended.1 j, { ended.2 with }⟩

theorem silent_eraseRequest (request : RequestId) : Silent s (eraseRequest request s) := by
  rw [eraseRequest]
  split <;> exact ⟨fun _ => rfl, { Grows.refl s with }⟩

theorem silent_killAndErase (request : RequestId) : Silent s (killAndErase request s) :=
  (silent_kill request _ _).trans (silent_eraseRequest request)

theorem silent_deleteRequest (request : RequestId) : Silent s (deleteRequest request s).2 := by
  rw [deleteRequest]
  split
  · exact silent_killAndErase request
  · exact Silent.refl s

theorem silent_deleteTitle (library : Library) (titleId : Nat) :
    Silent s (deleteTitle library titleId s).2 := by
  rw [deleteTitle]
  split
  · have ended := Silent.foldl (fun s request => silent_killAndErase (s := s) request)
      (requestsOfTitle library titleId s) s
    refine ended.trans ?_
    cases library <;> exact ⟨fun _ => rfl, { Grows.refl _ with }⟩
  · exact Silent.refl s

theorem Moves.trans {u : HandlerState} (first : Moves i s t) (second : Moves i t u) :
    Moves i s u :=
  ⟨fun j other => (second.1 j other).trans (first.1 j other), first.2.trans second.2⟩

theorem owner?_withRequest {f : RequestCtx → RequestCtx} (keeps : ∀ ctx, (f ctx).ref = ctx.ref)
    (owned : ∀ ctx, (f ctx).request = ctx.request) (ref other : Nat) (s : HandlerState) :
    (s.withRequest ref f).owner? other = s.owner? other := by
  rw [owner?, request?_withRequest keeps, owner?, Option.map_map]
  congr 1
  funext ctx
  by_cases same : ctx.ref = ref <;> simp [same, owned]

theorem moves_markBegun : Moves i s (markBegun i ref s) := by
  refine ⟨?_, { Grows.refl s with }⟩
  intro j other
  simp [marks_markBegun, Ne.symm other]

theorem moves_started : Moves i s (started i ref s) :=
  ⟨fun _ other => marks_started other, { Grows.refl s with }⟩

theorem beginScore_cases (call reqId : Nat) (s : HandlerState) :
    (∃ error, beginScore call reqId s = (.error error, s)) ∨
      ∃ ref, s.current? ⟨.score, reqId⟩ = some ref ∧ s.result? ref ≠ some communityAborted ∧
        beginScore call reqId s = (.ok ref, markBegun call ref (rebegin call ref s)) := by
  cases found : KeyedTable.lookup ScoreRequest.reqId reqId s.scoreRequests with
  | none => exact Or.inl ⟨communityInvalidId, by simp [beginScore, found]⟩
  | some row =>
    by_cases aborted : s.result? row.ref = some communityAborted
    · exact Or.inl ⟨communityAborted, by simp [beginScore, found, aborted]⟩
    · refine Or.inr ⟨row.ref, by simp [current?, found], aborted, ?_⟩
      simp [beginScore, found, aborted, rebegin]

theorem owner?_rebegin (call ref other : Nat) (s : HandlerState) :
    (rebegin call ref s).owner? other = s.owner? other := by
  have same : (s.withRequest ref (RequestCtx.begin call)).owner? other = s.owner? other := by
    apply owner?_withRequest <;> exact fun _ => rfl
  exact same

theorem silent_rebegin (call ref : Nat) (s : HandlerState) : Silent s (rebegin call ref s) := by
  refine ⟨fun _ => rfl, { Grows.refl s with owner := ?_ }⟩
  intro other request owned
  rw [owner?_rebegin]
  exact owned

theorem moves_beginScore (reqId : Nat) : Moves i s (beginScore i reqId s).2 := by
  rcases beginScore_cases i reqId s with ⟨error, refused⟩ | ⟨ref, -, -, begun⟩
  · rw [refused]
    exact (Silent.refl s).moves
  · rw [begun]
    exact (silent_rebegin i ref s).moves.trans moves_markBegun

theorem silent_newObject (call : Nat) (request : RequestId) :
    Silent s (newObject call request s).2 := by
  refine ⟨fun _ => rfl, { Grows.refl s with owner := ?_ }⟩
  intro ref owner owned
  exact owner?_append rfl owned

/-- The row of a TUS request takes a new object. -/
def assign (reqId ref : Nat) (s : HandlerState) : HandlerState :=
  { s with
    tusRequests := KeyedTable.adjust NpTusRequest.reqId reqId
      (fun row => { row with ctx := some ref }) s.tusRequests }

theorem beginTus_eq (call reqId : Nat) (s : HandlerState) :
    beginTus call reqId s = (s.nextRef,
      markBegun call s.nextRef
        (assign reqId s.nextRef (newObject call ⟨.tus, reqId⟩ s).2)) := rfl

theorem moves_beginTus (reqId : Nat) : Moves i s (beginTus i reqId s).2 := by
  have made := silent_newObject (s := s) i ⟨.tus, reqId⟩
  have assigned : Silent s (assign reqId s.nextRef (newObject i ⟨.tus, reqId⟩ s).2) :=
    ⟨made.1, { made.2 with }⟩
  rw [beginTus_eq]
  exact assigned.moves.trans moves_markBegun

theorem moves_beginOwn (library : Library) : Moves i s (beginOwn i library s).2 :=
  (silent_newObject i ⟨library, i⟩).moves.trans moves_markBegun

theorem moves_finish (r : Int) : Moves i s (finish i ref r s) :=
  (silent_setResult ref ⟨r, some i⟩ s).moves.trans moves_started

theorem fakeAsyncComplete_cases (call reqId : Nat) (s : HandlerState) :
    (fakeAsyncComplete call reqId s).2 = s ∨
      (fakeAsyncComplete call reqId s).2 =
        finish call s.nextRef orbisOk (beginTus call reqId s).2 := by
  rw [fakeAsyncComplete]
  split
  · exact Or.inl rfl
  · exact Or.inr rfl

theorem moves_fakeAsyncComplete (reqId : Nat) : Moves i s (fakeAsyncComplete i reqId s).2 := by
  rcases fakeAsyncComplete_cases i reqId s with refused | done
  · rw [refused]
    exact (Silent.refl s).moves
  · rw [done]
    exact (moves_beginTus reqId).trans (moves_finish orbisOk)

/-- The client has given out the number. -/
def counted (id : Nat) (s : HandlerState) : HandlerState :=
  { s with
    clients := KeyedTable.adjust ShadNetClient.clientId id
      (fun client => { client with pktCounter := client.pktCounter + 1 }) s.clients }

theorem client?_counted (id other : Nat) (s : HandlerState) :
    (counted id s).client? other = (s.client? other).map (fun client =>
      if client.clientId = id then { client with pktCounter := client.pktCounter + 1 }
      else client) := by
  apply KeyedTable.lookup_adjust
  exact fun _ => rfl

theorem silent_counted (id : Nat) (s : HandlerState) : Silent s (counted id s) := by
  refine ⟨fun _ => rfl, { Grows.refl s with client := ?_ }⟩
  intro other client found
  rw [client?_counted, found]
  refine ⟨_, rfl, ?_⟩
  dsimp only
  split <;> simp

/-- The packet is on its way. -/
def noted (submission : Submission) (s : HandlerState) : HandlerState :=
  { s with
    sent := s.sent ++ [submission]
    submitting := s.submitting ++ [submission] }

theorem submitRequest_eq {client : ShadNetClient} {id : Nat} (found : s.client? id = some client)
    (call : Nat) (message : Message) (ref : Nat) :
    submitRequest call id message ref s = (client.pktCounter,
      noted ⟨call, id, message, client.pktCounter, ref⟩ (counted id s)) := by
  simp [submitRequest, found, noted, counted]

theorem moves_submitRequest {id : Nat} (connected : (s.client? id).isSome) (message : Message) :
    Moves i s (submitRequest i id message ref s).2 := by
  obtain ⟨client, found⟩ := Option.isSome_iff_exists.mp connected
  rw [submitRequest_eq found]
  refine (silent_counted id s).moves.trans
    ⟨?_, { Grows.refl _ with }⟩
  intro j other
  simp [marks, noted, List.filter_append, Ne.symm other]

/-- The entry is in the map, if its key was free. -/
def entered (entry : PendingRequest) (s : HandlerState) : HandlerState :=
  { s with
    pending := if (s.pending? entry.family entry.pktId).isSome then s.pending
      else s.pending ++ [entry]
    submitting := s.submitting.filter (fun submission => decide (submission.call ≠ entry.call)) }

theorem register_eq (entry : PendingRequest) (s : HandlerState) :
    register entry s = started entry.call entry.req (entered entry s) := rfl

theorem moves_register (entry : PendingRequest) (own : entry.call = i) :
    Moves i s (register entry s) := by
  subst own
  suffices into : Moves entry.call s (entered entry s) from into.trans moves_started
  refine ⟨?_, { Grows.refl s with }⟩
  intro j other
  simp only [marks, entered, filter_drop Submission.call other]

theorem moves_submitAuth {id : Nat} (connected : (s.client? id).isSome) (userId : Int)
    (message : Message) (outputs : Outputs) :
    Moves i s (submitAuth i ref id userId message outputs s) :=
  (moves_submitRequest connected message).trans (moves_register _ rfl)

theorem moves_takePending (client : Nat) (family : Family) (pktId : Nat) (reply : Reply) :
    Moves i s (takePending i client family pktId reply s).2 := by
  rw [takePending]
  split
  · exact Silent.moves ⟨fun _ => rfl, { Grows.refl s with }⟩
  · refine ⟨?_, { Grows.refl s with routed := fun _ old => List.mem_append_left _ old }⟩
    intro j other
    simp [marks, List.filter_append, Ne.symm other]

theorem moves_prepare (reply : Reply) (entry : PendingRequest) :
    Moves i s (prepare pb i reply entry s).2 := by
  refine ⟨?_, { Grows.refl s with rankPlaces := fun _ old => List.mem_append_left _ old }⟩
  intro j other
  simp only [marks, prepare, storing, List.filter_append]
  split <;> simp [Ne.symm other]

theorem moves_replyStore (store : Store) (last : Bool) :
    Moves i s (replyStore i ref store last s) := by
  refine ⟨?_, { Grows.refl s with }⟩
  intro j other
  cases last with
  | false => rfl
  | true => simp only [marks, replyStore, if_true, filter_unmark other]

theorem moves_complete (client : Nat) (entry : PendingRequest) (r : Int) :
    Moves i s (complete i client entry r s) := by
  refine (silent_setResult entry.req ⟨r, some entry.call⟩ s).moves.trans ⟨?_, { Grows.refl _ with }⟩
  intro j other
  simp only [marks, complete, replied, filter_unmark other, filter_drop Routed.call other]

theorem silent_setAuthorizationCode (call : Nat) (stores : List Store) :
    Silent s (setAuthorizationCode call ref stores s) := by
  rw [setAuthorizationCode]
  split
  · exact Silent.refl s
  · exact ⟨fun _ => rfl, { Grows.refl s with }⟩

theorem moves_completeAuth (client : Nat) (entry : PendingRequest) (c : Completion) :
    Moves i s (completeAuth i client entry c s) :=
  (silent_setAuthorizationCode i c.stores).moves.trans (moves_complete client entry c.result)

theorem moves_removeSession (userId : Int) : Moves i s (removeSession i userId s).2 := by
  rw [removeSession]
  split
  · exact Silent.moves ⟨fun _ => rfl, { Grows.refl s with }⟩
  · refine ⟨?_, { Grows.refl s with }⟩
    intro j other
    simp [marks, cutOff, sweptFamilies, List.filter_append, Ne.symm other]

theorem moves_sweepPending (userId : Int) (family : Family) (errorCode : Int) :
    Moves i s (sweepPending i userId family errorCode s) := by
  have ended := Silent.foldl (fun s entry => silent_setResult entry.req ⟨errorCode, some entry.call⟩ s)
    (s.pending.filter (PendingRequest.of userId family)) s
  refine ended.moves.trans ⟨?_, { Grows.refl _ with }⟩
  intro j other
  have apart : ∀ sweeps : List Sweep, (sweeps.filter
      (fun sweep => decide (sweep ≠ ⟨i, userId, family⟩))).filter
        (fun sweep => decide (sweep.call = j)) =
      sweeps.filter (fun sweep => decide (sweep.call = j)) := by
    intro sweeps
    apply filter_other
    intro sweep owned
    have named : sweep.call = j := by simpa using owned
    have differs : sweep ≠ ⟨i, userId, family⟩ := by
      rintro rfl
      exact other named.symm
    simpa using differs
  simp only [marks, sweepPending, apart]

/-- What every section leaves alone. -/
theorem Step.moves {label : Section} {update : HandlerState → HandlerState}
    (step : Step pb i s label update) : Moves i s (update s) := by
  cases step with
  | quiet quiet => exact quiet.silent.moves
  | connect userId npId accountId => exact (silent_addSession userId npId accountId).moves
  | createScore titleCtxId => exact (silent_addRequest titleCtxId).moves
  | beginScore reqId => exact moves_beginScore reqId
  | beginTus reqId => exact moves_beginTus reqId
  | beginOwn library => exact moves_beginOwn library
  | fake reqId => exact moves_fakeAsyncComplete reqId
  | finish ref r => exact moves_finish r
  | rejectComment ref => exact moves_started
  | submitFailed ref => exact moves_started
  | submit client family ref message begun connected => exact moves_submitRequest connected message
  | submitAuth client ref userId message outputs begun connected =>
    exact moves_submitAuth connected userId message outputs
  | register entry submission own => exact moves_register entry own
  | take client family pktId reply => exact moves_takePending client family pktId reply
  | prepare r => exact moves_prepare r.reply r.entry
  | store r store last => exact moves_replyStore store last
  | complete r => exact moves_complete r.client r.entry _
  | completeAuth r => exact moves_completeAuth r.client r.entry _
  | abort request found => exact (silent_kill request found communityAborted).moves
  | delete request => exact (silent_deleteRequest request).moves
  | deleteTitle library titleId => exact (silent_deleteTitle library titleId).moves
  | disconnect userId => exact moves_removeSession userId
  | sweep userId family errorCode => exact moves_sweepPending userId family errorCode

end Effects

/-- The rules of the threads, with an invariant and permits of any claim. -/
def discipline (Inv : HandlerState → Prop) (permit : Section → HandlerState → Prop) :
    Discipline HandlerState Section where
  inv := Inv
  permit := permit
  rely i s t := marks i t = marks i s ∧ Grows s t
  guar := Moves
  rely_refl _ s := ⟨rfl, Grows.refl s⟩
  rely_trans := by
    rintro i s t u ⟨marked, grown⟩ ⟨marked', grown'⟩
    exact ⟨marked'.trans marked, grown.trans grown'⟩
  compatible := by
    rintro i j s t apart ⟨others, grown⟩
    exact ⟨others j (Ne.symm apart), grown⟩

end NpHandler
