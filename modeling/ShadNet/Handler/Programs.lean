import ShadNet.Handler.Sound

/-!
# Every program of the handler goes by the steps

Each program is followed once, from its first section to its last, with the marks
its thread has at every point. A property that every step keeps then holds in
every interleaving, and the marks in it are those of threads still running.
-/

namespace NpHandler

open LockProgram HandlerState NpScore NpTus

/-- The steps keep `Inv` where `permit` lets them. -/
def Keeps (pb : ShadNetProto) (Inv : HandlerState → Prop)
    (permit : Section → HandlerState → Prop) : Prop :=
  ∀ i s label update, Step pb i s label update → Sound s → Inv s → permit label s →
    Inv (update s)

/-- The rules of the threads for an invariant of sound states. -/
abbrev rules (Inv : HandlerState → Prop) (permit : Section → HandlerState → Prop) :
    Discipline HandlerState Section :=
  discipline (fun s => Sound s ∧ Inv s) permit

/-- What a submission leaves: an entry in the map, or an error and the operation still begun. -/
def Submitted (i ref : Nat) (L : Library) (r : Int) (s : HandlerState) : Prop :=
  (r = orbisOk ∧ Clean i s) ∨ (r < 0 ∧ Started i ref L s)

/-! ## The marks of the thread itself -/

section Own

variable {i ref : Nat} {s : HandlerState}

theorem filter_swap {β : Type} (p q : β → Bool) (items : List β) :
    (items.filter p).filter q = (items.filter q).filter p := by
  rw [List.filter_filter, List.filter_filter]
  apply List.filter_congr
  intro item _
  exact Bool.and_comm _ _

theorem marks_of_eq {m : Marks} (marked : marks i s = m) :
    s.starting.filter (fun mark => decide (mark.1 = i)) = m.starting ∧
      s.submitting.filter (fun submission => decide (submission.call = i)) = m.submitting ∧
      s.carried.filter (fun mark => decide (mark.1 = i)) = m.carried ∧
      s.writing.filter (fun mark => decide (mark.1 = i)) = m.writing ∧
      s.sweeping.filter (fun sweep => decide (sweep.call = i)) = m.sweeping ∧
      s.inHand.filter (fun r => decide (r.call = i)) = m.inHand := by
  subst marked
  exact ⟨rfl, rfl, rfl, rfl, rfl, rfl⟩

theorem started_markBegun {L : Library} (clean : Clean i s)
    (owned : ∃ id, s.owner? ref = some ⟨L, id⟩) : Started i ref L (markBegun i ref s) := by
  refine ⟨?_, owned⟩
  rw [marks_markBegun, show marks i s = {} from clean]
  simp

theorem clean_started (marked : marks i s = { starting := [(i, ref)] }) :
    Clean i (started i ref s) := by
  obtain ⟨starting, submitting, carried, writing, sweeping, inHand⟩ := marks_of_eq marked
  simp only [Clean, marks, started, submitting, carried, writing, sweeping, inHand]
  rw [filter_swap, starting]
  simp

theorem clean_finish (marked : marks i s = { starting := [(i, ref)] }) (r : Int) :
    Clean i (finish i ref r s) :=
  clean_started (s := setResult ref ⟨r, some i⟩ s) marked

theorem marks_noted {submission : Submission} (own : submission.call = i)
    (marked : marks i s = { starting := [(i, ref)] }) :
    marks i (noted submission s) = { starting := [(i, ref)], submitting := [submission] } := by
  obtain ⟨starting, submitting, carried, writing, sweeping, inHand⟩ := marks_of_eq marked
  simp [marks, noted, List.filter_append, starting, submitting, carried, writing, sweeping, inHand, own]

theorem clean_register {entry : PendingRequest} {submission : Submission} (own : entry.call = i)
    (marked : marks i s = { starting := [(i, entry.req)], submitting := [submission] }) :
    Clean i (register entry s) := by
  rw [register_eq, own]
  apply clean_started
  obtain ⟨starting, submitting, carried, writing, sweeping, inHand⟩ := marks_of_eq marked
  have mine : submission.call = i := by
    have listed : submission ∈ s.submitting.filter (fun submission => decide (submission.call = i)) := by
      rw [submitting]
      exact List.mem_singleton_self _
    simpa using (List.mem_filter.mp listed).2
  simp only [marks, entered, starting, carried, writing, sweeping, inHand, own]
  rw [filter_swap, submitting]
  simp [mine]

theorem clean_submitAuth {id : Nat} {userId : Int} {message : Message} {outputs : Outputs}
    (marked : marks i s = { starting := [(i, ref)] }) (connected : (s.client? id).isSome) :
    Clean i (submitAuth i ref id userId message outputs s) := by
  obtain ⟨client, found⟩ := Option.isSome_iff_exists.mp connected
  simp only [submitAuth, submitRequest_eq found]
  exact clean_register rfl (marks_noted (s := counted id s) rfl marked)

theorem marks_taken {r : Routed} {t : HandlerState} (clean : Clean i s) (own : r.call = i)
    (starting : t.starting = s.starting) (submitting : t.submitting = s.submitting)
    (carried : t.carried = s.carried ++ [(i, r.entry.req)]) (writing : t.writing = s.writing)
    (sweeping : t.sweeping = s.sweeping) (inHand : t.inHand = s.inHand ++ [r]) :
    marks i t = { carried := [(i, r.entry.req)], inHand := [r] } := by
  obtain ⟨starting', submitting', carried', writing', sweeping', inHand'⟩ := marks_of_eq clean
  simp [marks, starting, submitting, carried, writing, sweeping, inHand, List.filter_append,
    starting', submitting', carried', writing', sweeping', inHand', own]

theorem marks_prepare {carried : List (Nat × Nat)} {inHand : List Routed}
    (marked : marks i s = { carried, inHand }) (reply : Reply) (entry : PendingRequest) :
    marks i (prepare pb i reply entry s).2 =
      { carried, inHand,
        writing := storing i entry.req (prepare pb i reply entry s).1.stores } := by
  obtain ⟨starting, submitting, carrying, written, sweeping, held⟩ := marks_of_eq marked
  simp only [marks, prepare, List.filter_append, starting, submitting, carrying, written, sweeping,
    held]
  congr 1
  rw [storing]
  split <;> simp

theorem marks_replyStore {carried writing : List (Nat × Nat)} {inHand : List Routed} (ref : Nat)
    (marked : marks i s = { carried, writing, inHand }) (store : Store) (last : Bool) :
    marks i (replyStore i ref store last s) =
      { carried, inHand,
        writing := if last then writing.filter (· ≠ (i, ref)) else writing } := by
  obtain ⟨starting, submitting, carrying, written, sweeping, held⟩ := marks_of_eq marked
  cases last with
  | false => simp [marks, replyStore, starting, submitting, carrying, written, sweeping, held]
  | true =>
    simp only [marks, replyStore, if_true, starting, submitting, carrying, sweeping, held]
    rw [filter_swap, written]

theorem clean_complete {r : Routed} (own : r.call = i)
    (marked : marks i s = { carried := [(i, r.entry.req)], inHand := [r] }) (result : Int) :
    Clean i (complete i r.client r.entry result s) := by
  obtain ⟨starting, submitting, carrying, written, sweeping, held⟩ := marks_of_eq marked
  simp only [Clean, marks, complete, replied, setResult, HandlerState.withRequest, starting,
    submitting, sweeping]
  rw [filter_swap, carrying, filter_swap, written, filter_swap, held]
  simp [own]

theorem clean_completeAuth {r : Routed} (own : r.call = i)
    (marked : marks i s = { carried := [(i, r.entry.req)], inHand := [r] }) (c : Completion) :
    Clean i (completeAuth i r.client r.entry c s) :=
  clean_complete own (((silent_setAuthorizationCode i c.stores).1 i).trans marked) c.result

theorem removeSession_cases (call : Nat) (userId : Int) (s : HandlerState) :
    KeyedTable.lookup Session.userId userId s.sessions = none ∧
        removeSession call userId s = (none, cutOff call userId s) ∨
      ∃ session, KeyedTable.lookup Session.userId userId s.sessions = some session ∧
        removeSession call userId s = (some session.clientId,
          { cutOff call userId s with
            sessions := KeyedTable.remove Session.userId userId s.sessions
            sweeping := s.sweeping ++ sweptFamilies.map (fun family => ⟨call, userId, family⟩) }) := by
  cases found : KeyedTable.lookup Session.userId userId s.sessions with
  | none => exact Or.inl ⟨rfl, by simp [removeSession, found]⟩
  | some session => exact Or.inr ⟨session, rfl, by simp [removeSession, found]⟩

theorem marks_sweepPending {userId : Int} {family : Family} {rest : List Family}
    (once : family ∉ rest)
    (left : marks i s =
      { sweeping := (family :: rest).map (fun family => ⟨i, userId, family⟩) })
    (errorCode : Int) :
    marks i (sweepPending i userId family errorCode s) =
      { sweeping := rest.map (fun family => ⟨i, userId, family⟩) } := by
  have ended := Silent.foldl (fun s entry => silent_setResult entry.req ⟨errorCode, some entry.call⟩ s)
    (s.pending.filter (PendingRequest.of userId family)) s
  obtain ⟨starting, submitting, carried, writing, sweeping, inHand⟩ :=
    marks_of_eq ((ended.1 i).trans left)
  simp only [marks, sweepPending, starting, submitting, carried, writing, inHand]
  rw [filter_swap, sweeping, List.map_cons, List.filter_cons_of_neg (by simp)]
  congr 1
  rw [List.filter_eq_self]
  intro sweep member
  obtain ⟨other, listed, rfl⟩ := List.mem_map.mp member
  have differs : other ≠ family := by
    rintro rfl
    exact once listed
  simpa using differs

end Own

theorem Quiet.refl (s : HandlerState) : Quiet s s :=
  ⟨rfl, fun _ => rfl, fun _ => rfl, (Grows.refl s).client⟩

/-! ## Quiet sections -/

section Quiet

variable {s : HandlerState}

theorem Quiet.trans {t u : HandlerState} (first : Quiet s t) (second : Quiet t u) : Quiet s u := by
  refine ⟨second.same.trans (by rw [first.same]), ?_, ?_, ?_⟩
  · exact fun ref => (second.holding ref).trans (first.holding ref)
  · exact fun request => (second.current request).trans (first.current request)
  · exact (first.silent.trans second.silent).2.client

theorem quiet_stores (stores : List Store) : Quiet s { s with stores } :=
  { Quiet.refl s with same := rfl }

theorem quiet_withRequest {f : RequestCtx → RequestCtx} (named : ∀ ctx, (f ctx).ref = ctx.ref)
    (holds : ∀ ctx, (f ctx).holding = ctx.holding) (ref : Nat) : Quiet s (s.withRequest ref f) := by
  refine ⟨rfl, ?_, fun _ => rfl, (Grows.refl s).client⟩
  intro other
  have same : (s.withRequest ref f).holding? other =
      if other = ref then (s.holding? other).map id else s.holding? other :=
    holding?_withRequest named holds s
  rw [same, Option.map_id]
  split <;> rfl

theorem quiet_storesWithRequest {f : RequestCtx → RequestCtx}
    (named : ∀ ctx, (f ctx).ref = ctx.ref) (holds : ∀ ctx, (f ctx).holding = ctx.holding)
    (ref : Nat) (stores : List Store) : Quiet s ({ s with stores }.withRequest ref f) :=
  (quiet_stores stores).trans (quiet_withRequest named holds ref)

theorem quiet_serveGameDataFromCache (ref : Nat) (key : GameDataKey) (out : GameDataOutputs) :
    Quiet s (serveGameDataFromCache ref key out s).2 := by
  rw [serveGameDataFromCache]
  split
  · exact Quiet.refl s
  · split
    · apply quiet_withRequest <;> exact fun _ => rfl
    · apply quiet_storesWithRequest <;> exact fun _ => rfl

theorem quiet_bufferGameData (ref totalSize : Nat) (data : Bytes) :
    Quiet s (bufferGameData ref totalSize data s).2 := by
  rw [bufferGameData]
  split
  · exact Quiet.refl s
  · dsimp only
    split <;> split <;> apply quiet_withRequest <;> exact fun _ => rfl

theorem quiet_keepRecv (ref : Nat) (recv : Nat × Bytes) :
    Quiet s (keepRecv ref (some recv) s) := by
  apply quiet_withRequest <;> exact fun _ => rfl

theorem quiet_withXfer (reqId : Nat) (f : NpTusDataXfer → NpTusDataXfer) :
    Quiet s (withXfer reqId f s) := by
  refine ⟨rfl, fun _ => rfl, ?_, (Grows.refl s).client⟩
  rintro ⟨library, id⟩
  cases library with
  | tus =>
    have looked : (withXfer reqId f s).tusRequest? id = (s.tusRequest? id).map (fun row =>
        if row.reqId = reqId then { row with xfer := f row.xfer } else row) := by
      apply KeyedTable.lookup_adjust
      exact fun _ => rfl
    simp only [current?, looked]
    cases s.tusRequest? id with
    | none => rfl
    | some row => by_cases same : row.reqId = reqId <;> simp [same]
  | score => rfl
  | auth => rfl
  | trophy => rfl

theorem quiet_advanceDownload (reqId : Nat) (key : XferKey) (recvSize : Option Nat) :
    Quiet s (advanceDownload reqId key recvSize s).2 := by
  simp only [advanceDownload]
  exact quiet_withXfer reqId _

theorem quiet_advanceTss (reqId : Nat) (slotId : Int) (offset recvSize : Option Nat) :
    Quiet s (advanceTss reqId slotId offset recvSize s).2 :=
  quiet_advanceDownload reqId { slotId } recvSize

theorem quiet_bufferUpload (reqId : Nat) (key : XferKey) (chunk : UploadChunk) :
    Quiet s (bufferUpload reqId key chunk s).2 := by
  rw [bufferUpload]
  dsimp only
  split <;> split <;> dsimp only <;> exact quiet_withXfer reqId _

theorem quiet_addScoreTitleCtx (serviceLabel userId : Int) :
    Quiet s (NpScore.addTitleCtx serviceLabel userId s).2 := by
  rw [NpScore.addTitleCtx]
  split
  · exact Quiet.refl s
  · exact { Quiet.refl s with same := rfl }

theorem quiet_addTusTitleCtx (serviceLabel : Int) (npId : Bytes) :
    Quiet s (NpTus.addTitleCtx serviceLabel npId s).2 := by
  rw [NpTus.addTitleCtx]
  split
  · exact Quiet.refl s
  · exact { Quiet.refl s with same := rfl }

theorem quiet_setPlayerCharacterId (ctxId : Nat) (pcId : Int) :
    Quiet s (NpScore.setPlayerCharacterId ctxId pcId s).2 := by
  rw [NpScore.setPlayerCharacterId]
  split
  · exact Quiet.refl s
  · split
    · exact { Quiet.refl s with same := rfl }
    · split
      · apply quiet_withRequest <;> exact fun _ => rfl
      · exact Quiet.refl s

/-- A new TUS request has no object yet, so that its row names nothing. -/
theorem quiet_addTusRequest (titleCtxId : Nat) : Quiet s (NpTus.addRequest titleCtxId s).2 := by
  rw [NpTus.addRequest]
  split
  · exact Quiet.refl s
  · split
    · exact Quiet.refl s
    · refine ⟨rfl, fun _ => rfl, ?_, (Grows.refl s).client⟩
      rintro ⟨library, id⟩
      cases library with
      | tus =>
        simp only [current?, tusRequest?, KeyedTable.lookup_append]
        cases KeyedTable.lookup NpTusRequest.reqId id s.tusRequests with
        | some row => rfl
        | none =>
          rw [Option.none_or, KeyedTable.lookup]
          by_cases same : s.nextTusReqId = id <;> simp [same]
      | score => rfl
      | auth => rfl
      | trophy => rfl

theorem quiet_counted (id : Nat) : Quiet s (counted id s) :=
  ⟨rfl, fun _ => rfl, fun _ => rfl, (silent_counted id s).2.client⟩

theorem quiet_loseConnection (id : Nat) : Quiet s (loseConnection id s) := by
  refine ⟨rfl, fun _ => rfl, fun _ => rfl, ?_⟩
  intro other client found
  have looked : (loseConnection id s).client? other = (s.client? other).map (fun client =>
      if client.clientId = id then { client with authenticated := false } else client) := by
    apply KeyedTable.lookup_adjust
    exact fun _ => rfl
  rw [looked, found]
  refine ⟨_, rfl, ?_⟩
  dsimp only
  split <;> exact Nat.le_refl _

end Quiet

/-! ## Rules -/

section Rules

variable {pb : ShadNetProto} {Inv : HandlerState → Prop} {permit : Section → HandlerState → Prop}
  {i ref : Nat} {L : Library} {α : Type}

theorem stable_marks (m : Marks) :
    Prog.Stable (rules Inv permit) i (fun s => marks i s = m) := by
  rintro s t marked ⟨same, -⟩
  exact same.trans marked

theorem stable_clean : Prog.Stable (rules Inv permit) i (Clean i) := stable_marks {}

theorem stable_started : Prog.Stable (rules Inv permit) i (Started i ref L) := by
  rintro s t ⟨marked, id, owned⟩ ⟨same, grows⟩
  exact ⟨same.trans marked, id, grows.owner ref _ owned⟩

theorem stable_grows {F : HandlerState → Prop} (keeps : ∀ s t, F s → Grows s t → F t) :
    Prog.Stable (rules Inv permit) i F := by
  rintro s t fact ⟨-, grows⟩
  exact keeps s t fact grows

theorem Grows.connected {s t : HandlerState} {id : Nat} (connected : (s.client? id).isSome)
    (grows : Grows s t) : (t.client? id).isSome := by
  obtain ⟨client, found⟩ := Option.isSome_iff_exists.mp connected
  obtain ⟨later, found', -⟩ := grows.client id client found
  exact Option.isSome_of_eq_some found'

theorem stable_connected (id : Nat) :
    Prog.Stable (rules Inv permit) i (fun s => (s.client? id).isSome) :=
  stable_grows (fun _ _ connected grows => grows.connected connected)

/-- A fact that lasts is still there after a program. -/
theorem secured_frame {P F : HandlerState → Prop} {Q : α → HandlerState → Prop} {p : Handler α}
    (lasts : ∀ s t, F s → Grows s t → F t) (secured : Prog.Secured (rules Inv permit) i P p Q) :
    Prog.Secured (rules Inv permit) i (fun s => P s ∧ F s) p (fun a s => Q a s ∧ F s) := by
  have framed : ∀ (p : Handler α) s, p.Secures (rules Inv permit) i Q s → F s →
      p.Secures (rules Inv permit) i (fun a s => Q a s ∧ F s) s := by
    intro p
    induction p with
    | done result => exact fun s post fact => ⟨post, fact⟩
    | atomic label update next ih =>
      intro s secures fact t moved inv permitted
      obtain ⟨inv', kept, rest⟩ := secures t moved inv permitted
      exact ⟨inv', kept, ih t _ rest (lasts _ _ (lasts _ _ fact moved.2) kept.2)⟩
  rintro s ⟨pre, fact⟩
  exact framed p s (secured s pre) fact

/-- The thread has taken an entry, and has this mark of the stores it has still to make. -/
structure Answering (i : Nat) (r : Routed) (writing : List (Nat × Nat)) (s : HandlerState) :
    Prop where
  routed : r ∈ s.routed
  own : r.call = i
  family : r.entry.family = r.family
  marked : marks i s = { carried := [(i, r.entry.req)], writing, inHand := [r] }

theorem stable_answering (r : Routed) (writing : List (Nat × Nat)) :
    Prog.Stable (rules Inv permit) i (Answering i r writing) := by
  rintro s t ⟨routed, own, family, marked⟩ ⟨same, grows⟩
  exact ⟨grows.routed r routed, own, family, same.trans marked⟩

/-- A place for a rank that the thread goes by was in the object. -/
def PlaceFound (i ref : Nat) (tmpRankOut : Option Pointer) (s : HandlerState) : Prop :=
  ∀ target ∈ tmpRankOut, ⟨i, ref, target⟩ ∈ s.rankPlaces

theorem stable_placeFound (ref : Nat) (tmpRankOut : Option Pointer) :
    Prog.Stable (rules Inv permit) i (PlaceFound i ref tmpRankOut) := by
  rintro s t place ⟨-, grows⟩ target found
  exact grows.rankPlaces _ (place target found)

theorem submitted_of_error {r : Int} (error : r < 0) :
    Prog.Secured (rules Inv permit) i (Started i ref L) (pure r : Handler Int) (Submitted i ref L) :=
  Prog.secured_pure (fun _ begun => Or.inr ⟨error, begun⟩)

variable (keeps : Keeps pb Inv permit)

include keeps

/-- One section, which its thread knows to be a step. -/
theorem secured_step {P : HandlerState → Prop} {Q : α → HandlerState → Prop} {label : Section}
    {body : HandlerState → α × HandlerState} (stable : Prog.Stable (rules Inv permit) i P)
    (isStep : ∀ s, P s → Sound s → Step pb i s label (fun s => (body s).2))
    (post : ∀ s, P s → Sound s → Q (body s).1 (body s).2) :
    Prog.Secured (rules Inv permit) i P (Prog.locked label body) Q := by
  refine Prog.secured_locked stable ?_
  rintro s pre ⟨sound, inv⟩ permitted
  have step := isStep s pre sound
  exact ⟨⟨step.sound sound, keeps i s label _ step sound inv permitted⟩, step.moves,
    post s pre sound⟩

theorem secured_quiet {P : HandlerState → Prop} {body : HandlerState → α × HandlerState}
    (stable : Prog.Stable (rules Inv permit) i P) (quiet : ∀ s, Quiet s (body s).2) :
    Prog.Secured (rules Inv permit) i P (Prog.locked .other body) (fun _ => P) := by
  refine secured_step keeps stable (fun s _ _ => Step.quiet (quiet s)) ?_
  intro s pre _
  obtain ⟨marked, grows⟩ := (quiet s).silent
  exact stable s _ pre ⟨marked i, grows⟩

/-- What is read may tell a lasting fact. -/
theorem secured_reads {P : HandlerState → Prop} {R : α → HandlerState → Prop}
    {read : HandlerState → α} (stable : Prog.Stable (rules Inv permit) i P)
    (fact : ∀ s, P s → Sound s → R (read s) s) :
    Prog.Secured (rules Inv permit) i P (reads read) (fun a s => P s ∧ R a s) :=
  secured_step keeps stable (fun s _ _ => Step.quiet (Quiet.refl s))
    (fun s pre sound => ⟨pre, fact s pre sound⟩)

theorem secured_reads_any {P : HandlerState → Prop} {read : HandlerState → α}
    (stable : Prog.Stable (rules Inv permit) i P) :
    Prog.Secured (rules Inv permit) i P (reads read) (fun _ => P) :=
  secured_quiet keeps stable (fun s => Quiet.refl s)

/-! ### Submissions -/

theorem submitAndRegister_secured {id : Nat} {family : Family} {message : Message}
    (routes : message.cmd.family? = some family) (userId : Int) (outputs : Outputs) :
    Prog.Secured (rules Inv permit) i
      (fun s => Started i ref family.library s ∧ (s.client? id).isSome)
      (submitAndRegister i ref id family userId message outputs)
      (fun r s => r = orbisOk ∧ Clean i s) := by
  let Sent (pktId : Nat) (s : HandlerState) : Prop :=
    marks i s = { starting := [(i, ref)], submitting := [⟨i, id, message, pktId, ref⟩] } ∧
      ∃ reqId, s.owner? ref = some ⟨family.library, reqId⟩
  have submit : Prog.Secured (rules Inv permit) i
      (fun s => Started i ref family.library s ∧ (s.client? id).isSome)
      (Prog.locked (.submit i id family ref) (submitRequest i id message ref)) Sent := by
    refine secured_step keeps (stable_started.and (stable_connected id)) ?_ ?_
    · rintro s ⟨begun, connected⟩ -
      exact Step.submit id family ref message begun connected routes
    · rintro s ⟨begun, connected⟩ -
      obtain ⟨client, found⟩ := Option.isSome_iff_exists.mp connected
      rw [submitRequest_eq found]
      exact ⟨marks_noted rfl begun.marked, begun.owned⟩
  refine submit.bind ?_
  intro pktId
  have stable : Prog.Stable (rules Inv permit) i (Sent pktId) := by
    rintro s t ⟨marked, reqId, owned⟩ ⟨same, grows⟩
    exact ⟨same.trans marked, reqId, grows.owner ref _ owned⟩
  refine Prog.Secured.bind (M := fun _ => Clean i) ?_ ?_
  · refine secured_step keeps stable ?_ ?_
    · rintro s ⟨marked, owned⟩ -
      exact Step.register _ _ rfl marked owned ⟨rfl, rfl, rfl, rfl, rfl, routes⟩
    · rintro s ⟨marked, -⟩ -
      exact clean_register rfl marked
  · intro _
    exact Prog.secured_pure (fun s clean => ⟨rfl, clean⟩)

theorem secured_session {P : HandlerState → Prop} (stable : Prog.Stable (rules Inv permit) i P)
    (userId : Int) :
    Prog.Secured (rules Inv permit) i P (reads (·.sessionClient? userId))
      (fun found s => P s ∧ ∀ client, found = some client → (s.client? client.clientId).isSome) := by
  refine secured_reads keeps stable ?_
  intro s _ _ client found
  obtain ⟨session, -, looked⟩ := Option.bind_eq_some_iff.mp found
  have named : client.clientId = session.clientId := (KeyedTable.lookup_some looked).2
  rw [named]
  exact Option.isSome_of_eq_some looked

theorem secured_check {P : HandlerState → Prop} {Q : α → HandlerState → Prop}
    {check : HandlerState → Bool} {yes no : Handler α}
    (stable : Prog.Stable (rules Inv permit) i P)
    (passed : Prog.Secured (rules Inv permit) i P yes Q)
    (failed : Prog.Secured (rules Inv permit) i P no Q) :
    Prog.Secured (rules Inv permit) i P (do if ← reads check then yes else no) Q := by
  refine (secured_reads_any keeps stable).bind ?_
  intro answer
  exact Prog.secured_ite (fun _ => passed) (fun _ => failed)

theorem submitScore_secured (userId serviceLabel : Int) {message : Message}
    (routes : message.cmd.family? = some .score) (outputs : Outputs) :
    Prog.Secured (rules Inv permit) i (Started i ref .score)
      (submitScore i ref userId serviceLabel message outputs) (Submitted i ref .score) := by
  refine (secured_session keeps stable_started userId).bind ?_
  intro found
  cases found with
  | none =>
    have error : signedOut < 0 := by decide
    exact (submitted_of_error error).weaken (fun _ h => h.1) (fun _ _ h => h)
  | some client =>
    have stable : Prog.Stable (rules Inv permit) i
        (fun s => Started i ref .score s ∧ (s.client? client.clientId).isSome) :=
      stable_started.and (stable_connected client.clientId)
    suffices passed : Prog.Secured (rules Inv permit) i
        (fun s => Started i ref .score s ∧ (s.client? client.clientId).isSome) _ (Submitted i ref .score) from
      passed.weaken (fun _ h => ⟨h.1, h.2 client rfl⟩) (fun _ _ h => h)
    refine secured_check keeps stable (secured_check keeps stable ?_ ?_) ?_
    · exact (submitAndRegister_secured keeps routes userId outputs).weaken (fun _ h => h)
        (fun _ _ h => Or.inl h)
    · have error : communityInvalidArgument < 0 := by decide
      exact (submitted_of_error error).weaken (fun _ h => h.1) (fun _ _ h => h)
    · have error : communityNoLogin < 0 := by decide
      exact (submitted_of_error error).weaken (fun _ h => h.1) (fun _ _ h => h)

theorem submitTus_secured (userId serviceLabel : Int) {message : ShadNetClient → Message}
    (routes : ∀ client, (message client).cmd.family? = some .tus) (outputs : Outputs) :
    Prog.Secured (rules Inv permit) i (Started i ref .tus)
      (submitTus i ref userId serviceLabel message outputs) (Submitted i ref .tus) := by
  refine (secured_session keeps stable_started userId).bind ?_
  intro found
  cases found with
  | none =>
    have error : signedOut < 0 := by decide
    exact (submitted_of_error error).weaken (fun _ h => h.1) (fun _ _ h => h)
  | some client =>
    have stable : Prog.Stable (rules Inv permit) i
        (fun s => Started i ref .tus s ∧ (s.client? client.clientId).isSome) :=
      stable_started.and (stable_connected client.clientId)
    suffices passed : Prog.Secured (rules Inv permit) i
        (fun s => Started i ref .tus s ∧ (s.client? client.clientId).isSome) _ (Submitted i ref .tus) from
      passed.weaken (fun _ h => ⟨h.1, h.2 client rfl⟩) (fun _ _ h => h)
    refine secured_check keeps stable ?_ ?_
    · exact (submitAndRegister_secured keeps (routes client) userId outputs).weaken (fun _ h => h)
        (fun _ _ h => Or.inl h)
    · have error : communityInvalidArgument < 0 := by decide
      exact (submitted_of_error error).weaken (fun _ h => h.1) (fun _ _ h => h)

theorem requestAuthorizationCode_secured (userId : Int) (clientId scope : Bytes)
    (outputs : Outputs) :
    Prog.Secured (rules Inv permit) i (Started i ref .auth)
      (requestAuthorizationCode i ref userId clientId scope outputs) (Submitted i ref .auth) := by
  have error : signedOut < 0 := by decide
  refine (secured_session keeps stable_started userId).bind ?_
  intro found
  cases found with
  | none => exact (submitted_of_error error).weaken (fun _ h => h.1) (fun _ _ h => h)
  | some client =>
    have stable : Prog.Stable (rules Inv permit) i
        (fun s => Started i ref .auth s ∧ (s.client? client.clientId).isSome) :=
      stable_started.and (stable_connected client.clientId)
    suffices passed : Prog.Secured (rules Inv permit) i
        (fun s => Started i ref .auth s ∧ (s.client? client.clientId).isSome) _ (Submitted i ref .auth) from
      passed.weaken (fun _ h => ⟨h.1, h.2 client rfl⟩) (fun _ _ h => h)
    refine secured_check keeps stable ?_ ?_
    · refine Prog.Secured.bind (M := fun _ => Clean i) ?_ ?_
      · refine secured_step keeps stable ?_ ?_
        · rintro s ⟨begun, connected⟩ -
          exact Step.submitAuth client.clientId ref userId _ outputs begun connected rfl
        · rintro s ⟨begun, connected⟩ -
          exact clean_submitAuth begun.marked connected
      · intro _
        exact Prog.secured_pure (fun s clean => Or.inl ⟨rfl, clean⟩)
    · exact (submitted_of_error error).weaken (fun _ h => h.1) (fun _ _ h => h)

/-! ### Operations -/

theorem finishWith_secured (r : Int) :
    Prog.Secured (rules Inv permit) i (Started i ref L) (finishWith i ref r)
      (fun _ => Clean i) := by
  refine secured_step keeps stable_started ?_ ?_
  · intro s begun _
    exact Step.finish ref r L begun
  · intro s begun _
    exact clean_finish begun.marked r

theorem finishWith_returns (r : Int) (returned : Returned) :
    Prog.Secured (rules Inv permit) i (Started i ref L)
      (do finishWith i ref r; pure returned) (fun _ => Clean i) :=
  (finishWith_secured keeps r).bind (fun _ => Prog.secured_pure (fun _ clean => clean))

theorem endDispatch_secured (isAsync : Bool) (dispatchErr : Int) :
    Prog.Secured (rules Inv permit) i (Submitted i ref L dispatchErr)
      (endDispatch i ref isAsync dispatchErr) (fun _ => Clean i) := by
  refine Prog.secured_ite ?_ ?_
  · intro failed
    refine (finishWith_returns (L := L) keeps dispatchErr (some dispatchErr)).weaken ?_ (fun _ _ h => h)
    rintro s (⟨ok, -⟩ | ⟨-, begun⟩)
    · exact absurd ok failed
    · exact begun
  · intro good
    refine Prog.secured_pure ?_
    rintro s (⟨-, clean⟩ | ⟨error, -⟩)
    · exact clean
    · have ok : dispatchErr = orbisOk := by simpa using good
      rw [ok] at error
      exact absurd error (by decide)

theorem dispatch_secured (isAsync : Bool) {submit : ScoreCaller → Handler Int}
    (submits : ∀ caller, Prog.Secured (rules Inv permit) i (Started i ref L) (submit caller)
      (Submitted i ref L)) :
    Prog.Secured (rules Inv permit) i (Started i ref L) (dispatch i ref isAsync submit)
      (fun _ => Clean i) := by
  refine (secured_reads_any keeps stable_started).bind ?_
  intro caller
  refine (submits caller).bind ?_
  intro dispatchErr
  exact endDispatch_secured keeps isAsync dispatchErr

/-- `BeginOp` and what follows it. -/
theorem withRequest_secured (reqId : Nat) (rejected : Option Int) {body : Nat → Handler Returned}
    (operation : ∀ ref, Prog.Secured (rules Inv permit) i (Started i ref .score) (body ref)
      (fun _ => Clean i)) :
    Prog.Secured (rules Inv permit) i (Clean i) (NpScore.withRequest i reqId rejected body)
      (fun _ => Clean i) := by
  cases rejected with
  | some error => exact Prog.secured_pure (fun _ clean => clean)
  | none =>
    have begin_ : Prog.Secured (rules Inv permit) i (Clean i)
        (Prog.locked (.begin i ⟨.score, reqId⟩) (beginScore i reqId))
        (fun found s =>
          found.toOption.elim (Clean i s) (fun ref => Started i ref .score s)) := by
      refine secured_step keeps stable_clean (fun s clean _ => Step.beginScore reqId clean) ?_
      intro s clean sound
      rcases beginScore_cases i reqId s with ⟨error, refused⟩ | ⟨ref, found, -, begun⟩
      · rw [refused]
        exact clean
      · rw [begun]
        have owned := sound.current _ ref found
        rw [← owner?_rebegin i ref] at owned
        exact started_markBegun (s := rebegin i ref s) clean ⟨reqId, owned⟩
    refine begin_.bind ?_
    intro found
    cases found with
    | error error => exact Prog.secured_pure (fun _ clean => clean)
    | ok ref => exact operation ref

theorem endSubmit_secured (isAsync : Bool) (submit : Int) :
    Prog.Secured (rules Inv permit) i (Submitted i ref .tus submit) (endSubmit i ref isAsync submit)
      (fun _ => Clean i) := by
  refine Prog.secured_ite ?_ ?_
  · intro failed
    have ended : Prog.Secured (rules Inv permit) i (Started i ref .tus)
        (Prog.update (.submitFailed i ref) (started i ref)) (fun _ => Clean i) :=
      secured_step keeps stable_started (fun s begun _ => Step.submitFailed ref begun)
        (fun s begun _ => clean_started begun.marked)
    refine Prog.Secured.weaken
      (ended.bind (fun _ => Prog.secured_pure (fun _ clean => clean))) ?_ (fun _ _ h => h)
    rintro s (⟨ok, -⟩ | ⟨-, begun⟩)
    · rw [ok] at failed
      exact absurd failed (by decide)
    · exact begun
  · intro good
    refine Prog.secured_pure ?_
    rintro s (⟨-, clean⟩ | ⟨error, -⟩)
    · exact clean
    · exact absurd error good

theorem beginTus_secured (reqId : Nat) :
    Prog.Secured (rules Inv permit) i (Clean i)
      (Prog.locked (.begin i ⟨.tus, reqId⟩) (beginTus i reqId))
      (fun ref => Started i ref .tus) := by
  refine secured_step keeps stable_clean (fun s clean _ => Step.beginTus reqId clean) ?_
  intro s clean sound
  rw [beginTus_eq]
  exact started_markBegun (s := assign reqId s.nextRef (newObject i ⟨.tus, reqId⟩ s).2) clean
    ⟨reqId, owner?_newObject sound ⟨.tus, reqId⟩⟩

theorem beginOwn_secured {library : Library} (own : library = .auth ∨ library = .trophy) :
    Prog.Secured (rules Inv permit) i (Clean i)
      (Prog.locked (.begin i ⟨library, i⟩) (beginOwn i library)) (fun ref => Started i ref library) := by
  refine secured_step keeps stable_clean (fun s clean _ => Step.beginOwn library own clean) ?_
  intro s clean sound
  exact started_markBegun (s := (newObject i ⟨library, i⟩ s).2) clean
    ⟨i, owner?_newObject sound ⟨library, i⟩⟩

theorem withTusRequest_secured (reqId : Nat) (rejected : Option Int)
    {body : TusCaller → Handler Returned}
    (operation : ∀ caller, Prog.Secured (rules Inv permit) i (Clean i) (body caller)
      (fun _ => Clean i)) :
    Prog.Secured (rules Inv permit) i (Clean i) (withTusRequest reqId rejected body)
      (fun _ => Clean i) := by
  cases rejected with
  | some error => exact Prog.secured_pure (fun _ clean => clean)
  | none =>
    have resolve : Prog.Secured (rules Inv permit) i (Clean i) (resolveTus reqId)
        (fun _ => Clean i) := by
      refine (secured_reads_any keeps stable_clean).bind ?_
      intro title
      cases title with
      | none => exact Prog.secured_pure (fun _ clean => clean)
      | some title =>
        refine (secured_reads_any keeps stable_clean).bind ?_
        intro userId
        exact Prog.secured_pure (fun _ clean => clean)
    refine resolve.bind ?_
    intro caller
    cases caller with
    | none => exact Prog.secured_pure (fun _ clean => clean)
    | some caller => exact operation caller

/-! ### The operations of the libraries -/

/-- The dispatches differ only in the message, which is always a score message. -/
theorem dispatch_score (isAsync : Bool) (message : ScoreCaller → Message)
    (routes : ∀ caller, (message caller).cmd.family? = some .score)
    (outputs : Outputs) :
    Prog.Secured (rules Inv permit) i (Started i ref .score)
      (dispatch i ref isAsync (fun caller =>
        submitScore i ref caller.userId caller.serviceLabel (message caller) outputs))
      (fun _ => Clean i) :=
  dispatch_secured keeps isAsync
    (fun caller => submitScore_secured keeps _ _ (routes caller) outputs)

theorem checkComment_secured (reqId : Nat) (rejected : Option Int) (isAsync : Bool)
    (comment : Bytes) (sanitized : Option Pointer) :
    Prog.Secured (rules Inv permit) i (Clean i)
      (checkComment i reqId rejected isAsync comment sanitized) (fun _ => Clean i) := by
  refine withRequest_secured keeps reqId rejected ?_
  intro ref
  refine Prog.secured_ite ?_ ?_
  · intro _
    have refused : Prog.Secured (rules Inv permit) i (Started i ref .score)
        (Prog.update (.rejectComment i ref) (started i ref)) (fun _ => Clean i) :=
      secured_step keeps stable_started (fun s begun _ => Step.rejectComment ref begun)
        (fun s begun _ => clean_started begun.marked)
    exact refused.bind (fun _ => Prog.secured_pure (fun _ clean => clean))
  · intro _
    refine Prog.Secured.bind (M := fun _ => Started i ref .score) ?_ ?_
    · refine Prog.secured_forSome ?_
      intro target _
      exact secured_quiet keeps stable_started (fun s => quiet_stores _)
    · intro _
      exact finishWith_returns keeps orbisOk _

theorem getGameDataFor_secured (isAsync : Bool) (key : GameDataKey) (out : GameDataOutputs)
    (message : ScoreCaller → Message) (routes : ∀ caller, (message caller).cmd.family? = some .score)
    (outputs : Outputs) :
    Prog.Secured (rules Inv permit) i (Started i ref .score)
      (getGameDataFor i isAsync ref key out (fun caller =>
        submitScore i ref caller.userId caller.serviceLabel (message caller) outputs))
      (fun _ => Clean i) := by
  refine (secured_quiet keeps stable_started
    (fun s => quiet_serveGameDataFromCache ref key out)).bind ?_
  intro served
  cases served with
  | some n => exact finishWith_returns keeps n _
  | none => exact dispatch_score keeps isAsync message routes outputs

theorem scoreOperation_secured (reqId : Nat) (rejected : Option Int) (isAsync : Bool)
    (operation : ScoreOperation) :
    Prog.Secured (rules Inv permit) i (Clean i) (operation.program i reqId rejected isAsync)
      (fun _ => Clean i) := by
  cases operation with
  | recordScore boardId score comment gameInfo compareDate tmpRank =>
    refine withRequest_secured keeps reqId rejected ?_
    intro ref
    refine Prog.Secured.bind (M := fun _ => Started i ref .score) ?_ ?_
    · refine secured_quiet keeps stable_started ?_
      intro s
      apply quiet_withRequest <;> exact fun _ => rfl
    · intro _
      exact dispatch_score keeps isAsync _ (fun _ => rfl) {}
  | recordGameData boardId score totalSize data =>
    refine withRequest_secured keeps reqId rejected ?_
    intro ref
    refine (secured_quiet keeps stable_started
      (fun s => quiet_bufferGameData ref totalSize data)).bind ?_
    intro blob
    cases blob with
    | none => exact finishWith_returns keeps orbisOk _
    | some blob => exact dispatch_score keeps isAsync _ (fun _ => rfl) {}
  | getGameData boardId npId out =>
    refine withRequest_secured keeps reqId rejected ?_
    intro ref
    refine Prog.secured_ite ?_ ?_
    · intro _
      exact finishWith_returns keeps communityInvalidArgument _
    · intro _
      exact getGameDataFor_secured keeps isAsync _ out _ (fun _ => rfl) _
  | getGameDataByAccountId boardId accountId out =>
    refine withRequest_secured keeps reqId rejected ?_
    intro ref
    exact getGameDataFor_secured keeps isAsync _ out _ (fun _ => rfl) _
  | getBoardInfo boardId boardInfo =>
    refine withRequest_secured keeps reqId rejected ?_
    intro ref
    cases boardInfo with
    | none => exact finishWith_returns keeps orbisOk _
    | some target =>
      refine Prog.Secured.bind (M := fun _ => Started i ref .score) ?_ ?_
      · exact secured_quiet keeps stable_started (fun s => quiet_stores _)
      · intro _
        exact dispatch_score keeps isAsync _ (fun _ => rfl) _
  | getRankingByNpId boardId npIds pcIds rankArray out =>
    refine withRequest_secured keeps reqId rejected ?_
    intro ref
    refine dispatch_secured keeps isAsync ?_
    intro caller
    refine Prog.secured_ite ?_ ?_
    · intro _
      have error : communityInvalidArgument < 0 := by decide
      exact submitted_of_error error
    · intro _
      exact submitScore_secured keeps _ _ rfl _
  | getRankingByAccountId boardId accountIds pcIds rankArray out =>
    refine withRequest_secured keeps reqId rejected ?_
    intro ref
    exact dispatch_score keeps isAsync _ (fun _ => rfl) _
  | getRankingByRange boardId startSerialRank arrayNum rankArray out =>
    refine withRequest_secured keeps reqId rejected ?_
    intro ref
    exact dispatch_score keeps isAsync _ (fun _ => rfl) _
  | getFriendsRanking boardId includeSelf startSerialRank arrayNum rankArray out =>
    refine withRequest_secured keeps reqId rejected ?_
    intro ref
    exact dispatch_score keeps isAsync _ (fun _ => rfl) _
  | censorComment comment => exact checkComment_secured keeps reqId rejected isAsync comment none
  | sanitizeComment comment sanitized =>
    exact checkComment_secured keeps reqId rejected isAsync comment (some sanitized)

/-- The new object, the packet and what is made of its error. -/
theorem tusRequest_secured (reqId : Nat) (isAsync : Bool) (caller : TusCaller)
    {message : ShadNetClient → Message}
    (routes : ∀ client, (message client).cmd.family? = some .tus) (outputs : Outputs) :
    Prog.Secured (rules Inv permit) i (Clean i)
      (do
        let ref ← Prog.locked (.begin i ⟨.tus, reqId⟩) (beginTus i reqId)
        let submit ← submitTus i ref caller.userId caller.serviceLabel message outputs
        endSubmit i ref isAsync submit)
      (fun _ => Clean i) := by
  refine (beginTus_secured keeps reqId).bind ?_
  intro ref
  refine (submitTus_secured keeps _ _ routes outputs).bind ?_
  intro submit
  exact endSubmit_secured keeps isAsync submit

theorem submitOperation_secured (reqId : Nat) (rejected : Option Int) (isAsync : Bool)
    {message : TusCaller → ShadNetClient → Message}
    (routes : ∀ caller client, (message caller client).cmd.family? = some .tus)
    (outputs : Outputs) :
    Prog.Secured (rules Inv permit) i (Clean i)
      (submitOperation i reqId rejected isAsync message outputs) (fun _ => Clean i) := by
  refine withTusRequest_secured keeps reqId rejected ?_
  intro caller
  exact tusRequest_secured keeps reqId isAsync caller (routes caller) outputs

theorem tusOperation_secured (reqId : Nat) (rejected : Option Int) (isAsync : Bool)
    (operation : TusOperation) :
    Prog.Secured (rules Inv permit) i (Clean i) (operation.program i reqId rejected isAsync)
      (fun _ => Clean i) := by
  cases operation with
  | setData owner slotId chunk guard =>
    refine withTusRequest_secured keeps reqId rejected ?_
    intro caller
    refine (secured_quiet keeps stable_clean
      (fun s => quiet_bufferUpload reqId (owner.xferKey caller slotId) chunk)).bind ?_
    intro blob
    cases blob with
    | none =>
      refine (beginTus_secured keeps reqId).bind ?_
      intro ref
      exact finishWith_returns keeps orbisOk _
    | some blob => exact tusRequest_secured keeps reqId isAsync caller (fun _ => rfl) {}
  | getData owner slotId variant out =>
    refine withTusRequest_secured keeps reqId rejected ?_
    intro caller
    refine (secured_quiet keeps stable_clean
      (fun s => quiet_advanceDownload reqId (owner.xferKey caller slotId) out.asked)).bind ?_
    intro offset
    exact tusRequest_secured keeps reqId isAsync caller (fun _ => rfl) _
  | tssGetData query out =>
    refine withTusRequest_secured keeps reqId rejected ?_
    intro caller
    refine (secured_quiet keeps stable_clean
      (fun s => quiet_advanceTss reqId query.slotId query.offset out.asked)).bind ?_
    intro offset
    exact tusRequest_secured keeps reqId isAsync caller (fun _ => rfl) _
  | tssGetStorage =>
    refine Prog.Secured.bind (M := fun _ => Clean i) ?_ ?_
    · refine secured_step keeps stable_clean (fun s clean _ => Step.fake reqId clean) ?_
      intro s clean sound
      rcases fakeAsyncComplete_cases i reqId s with refused | done
      · rw [refused]
        exact clean
      · have begun : Started i s.nextRef .tus (beginTus i reqId s).2 :=
          started_markBegun (s := assign reqId s.nextRef (newObject i ⟨.tus, reqId⟩ s).2) clean
            ⟨reqId, owner?_newObject sound ⟨.tus, reqId⟩⟩
        rw [done]
        exact clean_finish begun.marked orbisOk
    · intro _
      exact Prog.secured_pure (fun _ clean => clean)
  | _ => exact submitOperation_secured keeps reqId rejected isAsync (fun _ _ => rfl) _

theorem getAuthorizationCode_secured (userId : Int) (clientId scope : Bytes)
    (outputs : Outputs) :
    Prog.Secured (rules Inv permit) i (Clean i)
      (getAuthorizationCode i userId clientId scope outputs) (fun _ => Clean i) := by
  refine (beginOwn_secured keeps (Or.inl rfl)).bind ?_
  intro ref
  refine (requestAuthorizationCode_secured keeps userId clientId scope outputs).bind ?_
  intro submit
  refine Prog.secured_ite ?_ ?_
  · intro failed
    refine (finishWith_secured (L := .auth) keeps submit).weaken ?_ (fun _ _ h => h)
    rintro s (⟨rfl, -⟩ | ⟨-, begun⟩)
    · exact absurd failed (by decide)
    · exact begun
  · intro good
    refine Prog.secured_pure ?_
    rintro s (⟨-, clean⟩ | ⟨error, -⟩)
    · exact clean
    · exact absurd error good

theorem syncTrophies_secured (userId serviceLabel : Int) (localTrophies : List (Int × Nat))
    (onMerged : Bool) :
    Prog.Secured (rules Inv permit) i (Clean i)
      (syncTrophies i userId serviceLabel localTrophies onMerged) (fun _ => Clean i) := by
  refine (secured_session keeps stable_clean userId).bind ?_
  intro found
  cases found with
  | none => exact Prog.secured_pure (fun _ known => known.1)
  | some client =>
    have stable : Prog.Stable (rules Inv permit) i
        (fun s => Clean i s ∧ (s.client? client.clientId).isSome) :=
      stable_clean.and (stable_connected client.clientId)
    suffices passed : Prog.Secured (rules Inv permit) i
        (fun s => Clean i s ∧ (s.client? client.clientId).isSome) _ (fun _ => Clean i) from
      passed.weaken (fun _ h => ⟨h.1, h.2 client rfl⟩) (fun _ _ h => h)
    refine secured_check keeps stable (secured_check keeps stable ?_ ?_) ?_
    · refine Prog.secured_ite ?_ ?_
      · intro _
        have own : Library.trophy = .auth ∨ Library.trophy = .trophy := Or.inr rfl
        have begun := beginOwn_secured keeps (i := i) own
        refine (secured_frame (fun _ _ connected grows => grows.connected connected) begun).bind ?_
        intro ref
        have routes : (Message.syncTrophies localTrophies).cmd.family? = some .trophy := rfl
        refine (submitAndRegister_secured keeps routes (-1) {}).bind ?_
        intro r
        exact Prog.secured_pure (fun _ done => done.2)
      · intro _
        refine (secured_quiet keeps stable (fun s => quiet_counted client.clientId)).weaken
          (fun _ h => h) (fun _ _ known => known.1)
    · exact Prog.secured_pure (fun _ known => known.1)
    · exact Prog.secured_pure (fun _ known => known.1)

/-! ### Replies -/

theorem storeAll_secured (r : Routed) (tmpRankOut : Option Pointer) (stores : List Store)
    (due : ∀ store ∈ stores,
      store ∈ (completion pb r.family r.reply r.entry.outputs tmpRankOut).stores) :
    Prog.Secured (rules Inv permit) i
      (fun s => Answering i r (storing i r.entry.req stores) s ∧
        PlaceFound i r.entry.req tmpRankOut s)
      (storeAll i r.entry.req stores)
      (fun _ s => Answering i r [] s ∧ PlaceFound i r.entry.req tmpRankOut s) := by
  induction stores with
  | nil => exact Prog.secured_pure (fun _ answering => answering)
  | cons store rest ih =>
    refine Prog.Secured.bind (M := fun _ s => Answering i r (storing i r.entry.req rest) s ∧
        PlaceFound i r.entry.req tmpRankOut s) ?_
      (fun _ => ih (fun other member => due other (List.mem_cons_of_mem _ member)))
    refine secured_step keeps ((stable_answering r _).and (stable_placeFound _ _)) ?_ ?_
    · rintro s ⟨⟨routed, own, family, marked⟩, place⟩ -
      exact Step.store r store rest.isEmpty tmpRankOut routed own place marked
        (due store (List.mem_cons_self ..))
    · rintro s ⟨⟨routed, own, family, marked⟩, place⟩ -
      refine ⟨⟨routed, own, family, ?_⟩, place⟩
      have stored := marks_replyStore r.entry.req marked store rest.isEmpty
      cases rest with
      | nil => simpa [storing] using stored
      | cons next later => exact stored

theorem complete_secured (r : Routed) (tmpRankOut : Option Pointer) :
    Prog.Secured (rules Inv permit) i
      (fun s => Answering i r [] s ∧ PlaceFound i r.entry.req tmpRankOut s)
      (Prog.update (.complete i r.entry.req) (complete i r.client r.entry
        (completion pb r.family r.reply r.entry.outputs tmpRankOut).result))
      (fun _ => Clean i) := by
  refine secured_step keeps ((stable_answering r []).and (stable_placeFound _ _)) ?_ ?_
  · rintro s ⟨⟨routed, own, family, marked⟩, place⟩ -
    exact Step.complete r tmpRankOut routed own place marked
  · rintro s ⟨⟨routed, own, family, marked⟩, -⟩ -
    exact clean_complete own marked _

theorem answer_secured (r : Routed) :
    Prog.Secured (rules Inv permit) i (Answering i r [])
      (answer pb i r.client r.reply r.entry) (fun _ => Clean i) := by
  have ready : Prog.Secured (rules Inv permit) i (Answering i r [])
      (Prog.locked (.prepare i r.reply r.entry) (prepare pb i r.reply r.entry))
      (fun c s => ∃ tmpRankOut, c = completion pb r.family r.reply r.entry.outputs tmpRankOut ∧
        Answering i r (storing i r.entry.req c.stores) s ∧
          PlaceFound i r.entry.req tmpRankOut s) := by
    refine secured_step keeps (stable_answering r []) ?_ ?_
    · rintro s ⟨routed, own, family, marked⟩ -
      exact Step.prepare r routed own family marked
    · rintro s ⟨routed, own, family, marked⟩ -
      refine ⟨tmpRankOut? r.entry.req s, ?_, ⟨routed, own, family, marks_prepare marked _ _⟩, ?_⟩
      · rw [prepare, family]
      · intro target found
        have found := Option.mem_toList.mpr found
        exact List.mem_append_right _ (List.mem_map.mpr ⟨target, found, rfl⟩)
  refine ready.bind ?_
  intro c
  refine Prog.secured_exists ?_
  intro tmpRankOut
  refine Prog.secured_fact ?_
  rintro rfl
  refine (storeAll_secured keeps r tmpRankOut _ (fun _ h => h)).bind ?_
  intro _
  have stable : Prog.Stable (rules Inv permit) i
      (fun s => Answering i r [] s ∧ PlaceFound i r.entry.req tmpRankOut s) :=
    (stable_answering r []).and (stable_placeFound r.entry.req tmpRankOut)
  refine Prog.Secured.bind (M := fun _ s => Answering i r [] s ∧
    PlaceFound i r.entry.req tmpRankOut s) ?_ ?_
  · refine Prog.secured_forSome ?_
    intro recv _
    exact secured_quiet keeps stable (fun s => quiet_keepRecv r.entry.req recv)
  · intro _
    exact complete_secured keeps r tmpRankOut

theorem answerAuth_secured (r : Routed) (auth : r.family = .auth) :
    Prog.Secured (rules Inv permit) i (Answering i r [])
      (answerAuth pb i r.client r.reply r.entry) (fun _ => Clean i) := by
  refine secured_step keeps (stable_answering r []) ?_ ?_
  · rintro s ⟨routed, own, -, marked⟩ -
    exact Step.completeAuth r routed own auth marked
  · rintro s ⟨routed, own, -, marked⟩ -
    exact clean_completeAuth own marked _

theorem onReply_secured (client : Nat) {family : Family} (pktId : Nat) {reply : Reply}
    (routes : reply.cmd.family? = some family) :
    Prog.Secured (rules Inv permit) i (Clean i) (onReply pb i client family pktId reply)
      (fun _ => Clean i) := by
  have take : Prog.Secured (rules Inv permit) i (Clean i)
      (Prog.locked (.take i client family pktId reply)
        (takePending i client family pktId reply))
      (fun found s => found.elim (Clean i s)
        (fun entry => Answering i ⟨i, client, family, pktId, reply, entry⟩ [] s)) := by
    refine secured_step keeps stable_clean
      (fun s clean _ => Step.take client family pktId reply clean routes) ?_
    intro s clean _
    rcases takePending_cases i client family pktId reply s with
      ⟨-, none_⟩ | ⟨entry, found, some_⟩
    · rw [none_]
      exact clean
    · rw [some_]
      have key : (entry.family, entry.pktId) = (family, pktId) := (KeyedTable.lookup_some found).2
      exact ⟨List.mem_append_right _ (List.mem_singleton_self _), rfl, congrArg Prod.fst key,
        marks_taken clean rfl rfl rfl rfl rfl rfl rfl⟩
  refine take.bind ?_
  intro found
  cases found with
  | none => exact Prog.secured_pure (fun _ clean => clean)
  | some entry =>
    have other := answer_secured keeps (i := i) ⟨i, client, family, pktId, reply, entry⟩
    cases family with
    | auth => exact answerAuth_secured keeps ⟨i, client, .auth, pktId, reply, entry⟩ rfl
    | score => exact other
    | tus => exact other
    | trophy => exact other

theorem onAsyncReply_secured (client pktId : Nat) (reply : Reply) :
    Prog.Secured (rules Inv permit) i (Clean i) (onAsyncReply pb i client pktId reply)
      (fun _ => Clean i) := by
  rw [onAsyncReply]
  cases routes : reply.cmd.family? with
  | none => exact Prog.secured_pure (fun _ clean => clean)
  | some family => exact onReply_secured keeps client pktId routes

/-! ### Aborts, deletions and disconnects -/

theorem abort_secured (request : RequestId) (found : Option Nat) :
    Prog.Secured (rules Inv permit) i
      (fun s => Clean i s ∧ ∀ ref, found = some ref → s.owner? ref = some request)
      (do
        Prog.update (.abort request found) (kill request found communityAborted)
        pure (some orbisOk) : Handler Returned)
      (fun _ => Clean i) := by
  refine Prog.Secured.bind (M := fun _ => Clean i) ?_
    (fun _ => Prog.secured_pure (fun _ clean => clean))
  have stable : Prog.Stable (rules Inv permit) i
      (fun s => Clean i s ∧ ∀ ref, found = some ref → s.owner? ref = some request) := by
    refine stable_clean.and (stable_grows ?_)
    intro s t owned grows ref named
    exact grows.owner ref request (owned ref named)
  refine secured_step keeps stable (fun s known _ => Step.abort request found known.2) ?_
  rintro s ⟨clean, -⟩ -
  exact ((silent_kill request found communityAborted).1 i).trans clean

theorem abortScoreRequest_secured (reqId : Nat) :
    Prog.Secured (rules Inv permit) i (Clean i) (NpScore.abortRequest reqId)
      (fun _ => Clean i) := by
  have look : Prog.Secured (rules Inv permit) i (Clean i) (reads (·.current? ⟨.score, reqId⟩))
      (fun found s => Clean i s ∧
        ∀ ref, found = some ref → s.owner? ref = some ⟨.score, reqId⟩) :=
    secured_reads keeps stable_clean (fun s _ sound ref found => sound.current _ ref found)
  refine look.bind ?_
  intro found
  cases found with
  | none => exact Prog.secured_pure (fun _ known => known.1)
  | some ref => exact abort_secured keeps ⟨.score, reqId⟩ (some ref)

theorem abortTusRequest_secured (reqId : Nat) :
    Prog.Secured (rules Inv permit) i (Clean i) (NpTus.abortRequest reqId)
      (fun _ => Clean i) := by
  have look : Prog.Secured (rules Inv permit) i (Clean i) (reads (·.tusRequest? reqId))
      (fun found s => Clean i s ∧ ∀ row, found = some row →
        ∀ ref, row.ctx = some ref → s.owner? ref = some ⟨.tus, reqId⟩) := by
    refine secured_reads keeps stable_clean ?_
    intro s _ sound row found ref named
    apply sound.current
    rw [current?, found, Option.bind_some, named]
  refine look.bind ?_
  intro found
  cases found with
  | none => exact Prog.secured_pure (fun _ known => known.1)
  | some row =>
    exact (abort_secured keeps ⟨.tus, reqId⟩ row.ctx).weaken
      (fun _ known => ⟨known.1, known.2 row rfl⟩) (fun _ _ clean => clean)

theorem silent_secured {label : Section} {body : HandlerState → α × HandlerState}
    (isStep : ∀ s, Step pb i s label (fun s => (body s).2))
    (silent : ∀ s, Silent s (body s).2) :
    Prog.Secured (rules Inv permit) i (Clean i) (Prog.locked label body) (fun _ => Clean i) := by
  refine secured_step keeps stable_clean (fun s _ _ => isStep s) ?_
  intro s clean _
  exact ((silent s).1 i).trans clean

theorem disconnectUser_secured (userId : Int) :
    Prog.Secured (rules Inv permit) i (Clean i) (disconnectUser i userId)
      (fun _ => Clean i) := by
  let Left (families : List Family) (s : HandlerState) : Prop :=
    families.Nodup ∧ marks i s = { sweeping := families.map (fun family => ⟨i, userId, family⟩) }
  have stable : ∀ families, Prog.Stable (rules Inv permit) i (Left families) := by
    rintro families s t ⟨once, left⟩ ⟨same, -⟩
    exact ⟨once, same.trans left⟩
  have leave : Prog.Secured (rules Inv permit) i (Clean i)
      (Prog.locked (.disconnect i userId) (removeSession i userId))
      (fun found s => found.elim (Clean i s) (fun _ => Left sweptFamilies s)) := by
    refine secured_step keeps stable_clean (fun s clean _ => Step.disconnect userId clean) ?_
    intro s clean _
    rcases removeSession_cases i userId s with ⟨-, absent⟩ | ⟨session, -, removed⟩
    · rw [absent]
      exact clean
    · rw [removed]
      obtain ⟨starting, submitting, carried, writing, sweeping, inHand⟩ := marks_of_eq clean
      refine ⟨by decide, ?_⟩
      simp [marks, cutOff, starting, submitting, carried, writing, sweeping, inHand, sweptFamilies,
        List.filter_append]
  refine leave.bind ?_
  intro found
  cases found with
  | none => exact Prog.secured_pure (fun _ clean => clean)
  | some clientId =>
    refine Prog.Secured.bind (M := fun _ => Left sweptFamilies) ?_ ?_
    · exact secured_quiet keeps (stable _) (fun s => quiet_loseConnection clientId)
    · intro _
      refine (Prog.secured_forEach_left (J := Left) ?_).weaken (fun _ h => h)
        (fun _ _ left => left.2)
      intro family rest
      refine secured_step keeps (stable (family :: rest)) ?_ ?_
      · rintro s ⟨-, left⟩ -
        exact Step.sweep userId family signedOut _ left
      · rintro s ⟨once, left⟩ -
        obtain ⟨fresh, distinct⟩ := List.nodup_cons.mp once
        exact ⟨distinct, marks_sweepPending fresh left signedOut⟩

/-- Every operation of the system keeps to the rules, on the thread it says it is. -/
theorem program_secured {op : Op} (named : ∀ call ∈ op.call?, call = i) :
    Prog.Secured (rules Inv permit) i (Clean i) (op.program pb) (fun _ => Clean i) := by
  have ended : ∀ {β : Type} {p : Handler β},
      Prog.Secured (rules Inv permit) i (Clean i) p (fun _ => Clean i) →
      Prog.Secured (rules Inv permit) i (Clean i) (do let _ ← p) (fun _ => Clean i) :=
    fun secured => secured.bind (fun _ => Prog.secured_pure (fun _ clean => clean))
  cases op with
  | loadNpCommIds npCommIds =>
    exact secured_quiet keeps stable_clean (fun s => { Quiet.refl s with same := rfl })
  | connectUser userId npId accountId =>
    exact silent_secured keeps (fun s => Step.connect userId npId accountId)
      (fun s => silent_addSession userId npId accountId)
  | loseConnection clientId =>
    exact secured_quiet keeps stable_clean (fun s => quiet_loseConnection clientId)
  | disconnectUser call userId =>
    obtain rfl : call = i := named call rfl
    exact disconnectUser_secured keeps userId
  | otherRequest clientId =>
    exact secured_quiet keeps stable_clean (fun s => quiet_counted clientId)
  | createScoreTitleCtx rejected serviceLabel selfNpId =>
    cases rejected with
    | some error => exact ended (Prog.secured_pure (fun _ clean => clean))
    | none =>
      refine ended ((secured_quiet keeps stable_clean ?_).bind
        (fun _ => Prog.secured_pure (fun _ clean => clean)))
      intro s
      exact quiet_addScoreTitleCtx serviceLabel _
  | createScoreTitleCtxA rejected serviceLabel selfId =>
    refine ended (secured_check keeps stable_clean ?_
      (Prog.secured_pure (fun _ clean => clean)))
    cases rejected with
    | some error => exact Prog.secured_pure (fun _ clean => clean)
    | none =>
      refine (secured_quiet keeps stable_clean ?_).bind
        (fun _ => Prog.secured_pure (fun _ clean => clean))
      intro s
      exact quiet_addScoreTitleCtx serviceLabel selfId
  | createScoreRequest titleCtxId =>
    exact ended (ended (silent_secured keeps (fun s => Step.createScore titleCtxId)
      (fun s => silent_addRequest titleCtxId)))
  | setPlayerCharacterId ctxId pcId =>
    exact ended (secured_quiet keeps stable_clean (fun s => quiet_setPlayerCharacterId ctxId pcId))
  | deleteScoreTitleCtx titleCtxId =>
    exact ended (ended (silent_secured keeps (fun s => Step.deleteTitle .score titleCtxId)
      (fun s => silent_deleteTitle .score titleCtxId)))
  | deleteScoreRequest reqId =>
    exact ended (ended (silent_secured keeps (fun s => Step.delete ⟨.score, reqId⟩)
      (fun s => silent_deleteRequest ⟨.score, reqId⟩)))
  | abortScoreRequest reqId => exact ended (abortScoreRequest_secured keeps reqId)
  | score call reqId rejected isAsync operation =>
    obtain rfl : call = i := named call rfl
    exact ended (scoreOperation_secured keeps reqId rejected isAsync operation)
  | createTusTitleCtx rejected serviceLabel npId =>
    cases rejected with
    | some error => exact ended (Prog.secured_pure (fun _ clean => clean))
    | none =>
      refine ended ((secured_quiet keeps stable_clean ?_).bind
        (fun _ => Prog.secured_pure (fun _ clean => clean)))
      intro s
      exact quiet_addTusTitleCtx serviceLabel npId
  | createTusRequest titleCtxId =>
    exact ended (ended (secured_quiet keeps stable_clean
      (fun s => quiet_addTusRequest titleCtxId)))
  | deleteTusTitleCtx titleCtxId =>
    exact ended (ended (silent_secured keeps (fun s => Step.deleteTitle .tus titleCtxId)
      (fun s => silent_deleteTitle .tus titleCtxId)))
  | deleteTusRequest reqId =>
    exact ended (ended (silent_secured keeps (fun s => Step.delete ⟨.tus, reqId⟩)
      (fun s => silent_deleteRequest ⟨.tus, reqId⟩)))
  | abortTusRequest reqId => exact ended (abortTusRequest_secured keeps reqId)
  | tus call reqId rejected isAsync operation =>
    obtain rfl : call = i := named call rfl
    exact ended (tusOperation_secured keeps reqId rejected isAsync operation)
  | getAuthorizationCode call userId clientId scope authCode issuerId =>
    obtain rfl : call = i := named call rfl
    exact getAuthorizationCode_secured keeps userId clientId scope _
  | syncTrophies call userId serviceLabel localTrophies onMerged =>
    obtain rfl : call = i := named call rfl
    exact syncTrophies_secured keeps userId serviceLabel localTrophies onMerged
  | reply call client pktId received =>
    obtain rfl : call = i := named call rfl
    exact onAsyncReply_secured keeps client pktId received

end Rules

/-! ## Every interleaving -/

section Runs

variable {pb : ShadNetProto} {Inv : HandlerState → Prop} {permit : Section → HandlerState → Prop}

/-- What the steps keep holds after every run of permitted sections, and only threads that are
still running have marks. -/
theorem holds_of_scheduled (keeps : Keeps pb Inv permit) (start : Inv {})
    {actions : List (Action Op)} (scheduled : Scheduled pb permit actions) :
    Sound (runPool pb actions).state ∧ Inv (runPool pb actions).state ∧
      ∀ i, ¬Running (runPool pb actions) i → Clean i (runPool pb actions).state := by
  have obeys : Runs.Admitted (Pool.step (Op.program pb))
      (Pool.Obeys (rules Inv permit) (fun i op => ∀ call ∈ op.call?, call = i)) actions
      ⟨{}, []⟩ := by
    refine scheduled.mono ?_
    rintro action _ pool ⟨permitted, numbered⟩
    refine ⟨permitted, ?_⟩
    rintro op rfl
    exact numbered
  have begun : Pool.Attended (rules Inv permit) Clean ⟨({} : HandlerState), []⟩ :=
    Pool.attended_empty ⟨sound_start, start⟩ (fun i => by simp [Clean, marks])
  have secures : ∀ i (op : Op), (∀ call ∈ op.call?, call = i) →
      Prog.Secured (rules Inv permit) i (fun s => (Sound s ∧ Inv s) ∧ Clean i s) (op.program pb)
        (fun _ => Clean i) :=
    fun i op named => (program_secured keeps named).weaken (fun _ h => h.2) (fun _ _ h => h)
  have attended := begun.run (fun i => stable_clean) secures obeys
  refine ⟨attended.inv.1, attended.inv.2, ?_⟩
  intro i done
  refine attended.idle ?_
  intro label update next found
  exact done ⟨label, update, next, found⟩

end Runs

end NpHandler
