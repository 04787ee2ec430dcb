import ShadNet.Handler.Packets

/-!
# Results of the last operation

All operations on a score request share one object, and each of them that is
answered, failed or swept away sets the result of that object. `Suits` says when
this does no harm: the operation is the one that began the object last, or the
object has a result and keeps it.
-/

namespace NpHandler

open LockProgram HandlerState

/-! ## Objects -/

/-- The result is that of the operation that began the object last, or an abort's. -/
def Holding.Own (h : Holding) : Prop :=
  h.request.library = .score → h.result.isSome → ∀ call ∈ h.resultOf, call = h.lastCall

/-- An outcome of this operation leaves the object with a result of its own. -/
def Holding.Suits (call : Nat) (h : Holding) : Prop :=
  h.request.library = .score → h.result.isSome ∨ h.lastCall = call

/-- There is such an object, and an outcome of the operation suits it. -/
def Suited (call ref : Nat) (s : HandlerState) : Prop :=
  ∃ h, s.holding? ref = some h ∧ h.Suits call

/-- Results are of the last operations, and so will be those of the replies in hand. -/
structure OfLast (s : HandlerState) : Prop where
  own : ∀ ref h, s.holding? ref = some h → h.Own
  inHand : ∀ r ∈ s.inHand, Suited r.entry.call r.entry.req s

/-- No object loses its own result or what suits it, and no reply is taken in hand. -/
structure Fair (s t : HandlerState) : Prop where
  inHand : t.inHand ⊆ s.inHand
  holding : ∀ ref h, s.holding? ref = some h → ∃ h', t.holding? ref = some h' ∧
    (h.Own → h'.Own) ∧ ∀ call, h.Suits call → h'.Suits call
  fresh : ∀ ref h, t.holding? ref = some h → (s.holding? ref).isSome ∨ h.Own

section Objects

variable {h : Holding} {r : Outcome} {call : Nat}

theorem Holding.own_given (own : h.Own) (suits : ∀ call ∈ r.call, h.Suits call) :
    (h.given r).Own := by
  intro library held other named
  rw [given] at library held named ⊢
  split at library
  · rename_i set
    simp only [set, if_true] at named ⊢
    exact own library set other named
  · rename_i unset
    simp only [unset] at named ⊢
    rcases suits other named library with set | last
    · exact absurd set unset
    · exact last.symm

/-- An object with a result keeps it. -/
theorem Holding.suits_given (call : Nat) (h : Holding) (r : Outcome) : (h.given r).Suits call := by
  intro _
  left
  rw [given]
  split
  · assumption
  · rfl

theorem Holding.own_none (none_ : h.result = none) : h.Own := by
  intro _ held
  rw [none_] at held
  cases held

end Objects

section Fair

variable {pb : ShadNetProto} {i ref call : Nat} {s t u : HandlerState}

theorem Fair.of_same (holding : ∀ ref, t.holding? ref = s.holding? ref)
    (inHand : t.inHand ⊆ s.inHand) : Fair s t := by
  refine ⟨inHand, ?_, ?_⟩
  · intro ref h found
    exact ⟨h, (holding ref).trans found, id, fun _ => id⟩
  · intro ref h found
    rw [holding] at found
    exact Or.inl (Option.isSome_of_eq_some found)

theorem Fair.refl (s : HandlerState) : Fair s s := Fair.of_same (fun _ => rfl) (fun _ h => h)

theorem Fair.trans (first : Fair s t) (second : Fair t u) : Fair s u := by
  refine ⟨fun _ member => first.inHand (second.inHand member), ?_, ?_⟩
  · intro ref h found
    obtain ⟨h', found', own, suits⟩ := first.holding ref h found
    obtain ⟨h'', found'', own', suits'⟩ := second.holding ref h' found'
    exact ⟨h'', found'', fun holds => own' (own holds),
      fun call holds => suits' call (suits call holds)⟩
  · intro ref h found
    rcases second.fresh ref h found with known | own
    · obtain ⟨h', found'⟩ := Option.isSome_iff_exists.mp known
      rcases first.fresh ref h' found' with old | own
      · exact Or.inl old
      · obtain ⟨h'', same, keeps, -⟩ := second.holding ref h' found'
        rw [found] at same
        obtain rfl := Option.some.inj same
        exact Or.inr (keeps own)
    · exact Or.inr own

theorem Fair.foldl {α : Type} {f : HandlerState → α → HandlerState}
    (each : ∀ s a, Fair s (f s a)) (items : List α) (s : HandlerState) :
    Fair s (items.foldl f s) := by
  induction items generalizing s with
  | nil => exact Fair.refl s
  | cons a rest ih => exact (each s a).trans (ih (f s a))

theorem Fair.suited (fair : Fair s t) (suited : Suited call ref s) : Suited call ref t := by
  obtain ⟨h, found, suits⟩ := suited
  obtain ⟨h', found', -, keeps⟩ := fair.holding ref h found
  exact ⟨h', found', keeps call suits⟩

theorem Fair.ofLast (fair : Fair s t) (last : OfLast s) : OfLast t := by
  constructor
  · intro ref h found
    rcases fair.fresh ref h found with known | own
    · obtain ⟨h', found'⟩ := Option.isSome_iff_exists.mp known
      obtain ⟨h'', same, keeps, -⟩ := fair.holding ref h' found'
      rw [found] at same
      obtain rfl := Option.some.inj same
      exact keeps (last.own ref h' found')
    · exact own
  · exact fun r member => fair.suited (last.inHand r (fair.inHand member))

/-! ### Outcomes -/

theorem fair_setResult {r : Outcome} (suited : ∀ call ∈ r.call, Suited call ref s) :
    Fair s (setResult ref r s) := by
  refine ⟨fun _ member => member, ?_, ?_⟩
  · intro other h found
    by_cases same : other = ref
    · subst same
      refine ⟨h.given r, ?_, ?_, fun call _ => h.suits_given call r⟩
      · rw [holding?_setResult, if_pos rfl, found]
        rfl
      · intro own
        refine Holding.own_given own ?_
        intro call named
        obtain ⟨h', found', suits⟩ := suited call named
        rw [found] at found'
        obtain rfl := Option.some.inj found'
        exact suits
    · refine ⟨h, ?_, id, fun _ => id⟩
      rw [holding?_setResult, if_neg same, found]
  · intro other h found
    left
    rw [holding?_setResult] at found
    split at found
    · obtain ⟨h', found', -⟩ := Option.map_eq_some_iff.mp found
      exact Option.isSome_of_eq_some found'
    · exact Option.isSome_of_eq_some found

/-- The outcomes of operations that suit their objects are fair one after another. -/
theorem fair_foldl {α : Type} {f : α → Nat} {g : α → Outcome} {items : List α}
    (suited : ∀ item ∈ items, ∀ call ∈ (g item).call, Suited call (f item) s) :
    Fair s (items.foldl (fun s item => setResult (f item) (g item) s) s) := by
  induction items generalizing s with
  | nil => exact Fair.refl s
  | cons item rest ih =>
    have first : Fair s (setResult (f item) (g item) s) :=
      fair_setResult (suited item (List.mem_cons_self ..))
    refine first.trans (ih ?_)
    intro other member call named
    exact first.suited (suited other (List.mem_cons_of_mem _ member) call named)

theorem fair_finish (suited : Suited call ref s) (r : Int) : Fair s (finish call ref r s) := by
  have given : Fair s (setResult ref ⟨r, some call⟩ s) := by
    apply fair_setResult
    rintro _ ⟨⟩
    exact suited
  exact { given with }

theorem fair_kill (request : RequestId) (found : Option Nat) (aborted : Int) :
    Fair s (kill request found aborted s) := by
  have ended : Fair s (found.toList.foldl (fun s ref => setResult ref ⟨aborted, none⟩ s) s) := by
    apply fair_foldl (f := id)
    rintro _ - _ ⟨⟩
  exact { ended with }

theorem fair_eraseRequest (request : RequestId) : Fair s (eraseRequest request s) := by
  rw [eraseRequest]
  split <;> exact { Fair.refl s with }

theorem fair_killAndErase (request : RequestId) : Fair s (killAndErase request s) :=
  (fair_kill request _ _).trans (fair_eraseRequest request)

theorem fair_deleteRequest (request : RequestId) : Fair s (deleteRequest request s).2 := by
  rw [deleteRequest]
  split
  · exact fair_killAndErase request
  · exact Fair.refl s

theorem fair_deleteTitle (library : Library) (titleId : Nat) :
    Fair s (deleteTitle library titleId s).2 := by
  rw [deleteTitle]
  split
  · have ended := Fair.foldl (fun s request => fair_killAndErase (s := s) request)
      (requestsOfTitle library titleId s) s
    refine ended.trans ?_
    cases library <;> exact { Fair.refl _ with }
  · exact Fair.refl s

/-! ### New objects -/

/-- The new object has no result. -/
theorem fair_new (sound : Sound s) (ctx : RequestCtx) (ref : ctx.ref = s.nextRef)
    (result : ctx.result = none) (requests : t.requests = s.requests ++ [ctx])
    (inHand : t.inHand ⊆ s.inHand) : Fair s t := by
  have unused : s.owner? ctx.ref = none := by
    rw [ref]
    exact sound.unused
  have holding := holding?_new requests unused
  refine ⟨inHand, ?_, ?_⟩
  · intro other h found
    refine ⟨h, ?_, id, fun _ => id⟩
    rw [holding, if_neg, found]
    rintro rfl
    rw [owner?_eq, found] at unused
    cases unused
  · intro other h found
    rw [holding] at found
    split at found
    · obtain rfl := Option.some.inj found
      exact Or.inr (Holding.own_none result)
    · exact Or.inl (Option.isSome_of_eq_some found)

theorem fair_addRequest (sound : Sound s) (titleCtxId : Nat) :
    Fair s (NpScore.addRequest titleCtxId s).2 := by
  rcases addRequest_cases titleCtxId s with refused | ⟨ctx, ref, -, none_, added⟩
  · rw [refused]
    exact Fair.refl s
  · rw [added]
    exact fair_new sound ctx ref none_ rfl (fun _ member => member)

theorem fair_beginTus (sound : Sound s) (reqId : Nat) : Fair s (beginTus i reqId s).2 := by
  have made := fair_new (t := (beginTus i reqId s).2) sound
    { ref := s.nextRef, request := ⟨.tus, reqId⟩, lastCall := i } rfl rfl rfl
  exact made (fun _ member => member)

theorem fair_beginOwn (sound : Sound s) (library : Library) :
    Fair s (beginOwn i library s).2 := by
  have made := fair_new (t := (beginOwn i library s).2) sound
    { ref := s.nextRef, request := ⟨library, i⟩, lastCall := i } rfl rfl rfl
  exact made (fun _ member => member)

/-- Only the objects of score requests are begun more than once. -/
theorem fair_fakeAsyncComplete (sound : Sound s) (reqId : Nat) :
    Fair s (fakeAsyncComplete i reqId s).2 := by
  rcases fakeAsyncComplete_cases i reqId s with refused | done
  · rw [refused]
    exact Fair.refl s
  · rw [done]
    refine (fair_beginTus sound reqId).trans (fair_finish ?_ orbisOk)
    have holding := holding?_new (t := (beginTus i reqId s).2) rfl sound.unused s.nextRef
    rw [if_pos rfl] at holding
    exact ⟨_, holding, fun _ => Or.inr rfl⟩

/-! ### Beginning again and replies -/

theorem ofLast_rebegin (last : OfLast s) (free : ∀ r ∈ s.inHand, r.entry.req ≠ ref) :
    OfLast (rebegin call ref s) := by
  constructor
  · intro other h found
    rw [holding?_rebegin] at found
    split at found
    · obtain ⟨before, -, rfl⟩ := Option.map_eq_some_iff.mp found
      exact Holding.own_none rfl
    · exact last.own other h found
  · intro r member
    obtain ⟨h, found, suits⟩ := last.inHand r member
    refine ⟨h, ?_, suits⟩
    rw [holding?_rebegin_other (free r member), found]

theorem fair_submitRequest (id : Nat) (message : Message) :
    Fair s (submitRequest i id message ref s).2 := by
  rw [submitRequest]
  split
  · exact Fair.refl s
  · exact { Fair.refl s with }

theorem fair_register (entry : PendingRequest) : Fair s (register entry s) :=
  { Fair.refl s with }

theorem fair_removeSession (userId : Int) : Fair s (removeSession i userId s).2 := by
  rw [removeSession]
  split <;> exact { Fair.refl s with }

theorem fair_prepare (reply : Reply) (entry : PendingRequest) :
    Fair s (prepare pb i reply entry s).2 := { Fair.refl s with }

theorem fair_replyStore (store : Store) (last : Bool) : Fair s (replyStore i ref store last s) :=
  { Fair.refl s with }

theorem fair_complete (client : Nat) {entry : PendingRequest} (r : Int)
    (suited : Suited entry.call entry.req s) : Fair s (complete i client entry r s) := by
  have given : Fair s (setResult entry.req ⟨r, some entry.call⟩ s) := by
    apply fair_setResult
    rintro _ ⟨⟩
    exact suited
  exact { given with inHand := List.filter_subset_self _ }

theorem fair_setAuthorizationCode (stores : List Store) :
    Fair s (setAuthorizationCode i ref stores s) := by
  rw [setAuthorizationCode]
  split
  · exact Fair.refl s
  · exact { Fair.refl s with }

theorem fair_sweepPending (userId : Int) (family : Family) (errorCode : Int)
    (suited : ∀ entry ∈ s.pending, PendingRequest.of userId family entry →
      Suited entry.call entry.req s) :
    Fair s (sweepPending i userId family errorCode s) := by
  have ended : Fair s ((s.pending.filter (PendingRequest.of userId family)).foldl
      (fun s entry => setResult entry.req ⟨errorCode, some entry.call⟩ s) s) := by
    apply fair_foldl (f := PendingRequest.req)
    rintro entry member _ ⟨⟩
    obtain ⟨listed, ours⟩ := List.mem_filter.mp member
    exact suited entry listed ours
  exact { ended with }

theorem inHand_of_marks {r : Routed} {carried writing : List (Nat × Nat)}
    (marked : marks i s = { carried, writing, inHand := [r] }) : r ∈ s.inHand := by
  have listed : r ∈ s.inHand.filter (fun other => decide (other.call = i)) := by
    rw [show s.inHand.filter _ = [r] from congrArg Marks.inHand marked]
    exact List.mem_singleton_self _
  exact List.mem_of_mem_filter listed

end Fair

/-! ## Every section -/

/-- An outcome of this operation comes while the object is still at it, or has a result. -/
def OnTime (call ref : Nat) (s : HandlerState) : Prop :=
  ∀ ctx ∈ s.request? ref, ctx.request.library = .score →
    ctx.result.isSome ∨ ctx.lastCall = call

/-- A score request is not begun again with a reply to it in hand, and no reply, failed dispatch or
disconnect meets it at a later operation than its own. -/
def UpToDate : Section → HandlerState → Prop
  | .begin _ request, s => request.library = .score → ∀ ref ∈ s.current? request,
    s.result? ref ≠ some communityAborted → ∀ r ∈ s.inHand, r.entry.req ≠ ref
  | .finish call ref, s => OnTime call ref s
  | .take _ _ family pktId _, s =>
    ∀ entry ∈ s.pending? family pktId, OnTime entry.call entry.req s
  | .sweep _ userId family, s =>
    ∀ entry ∈ s.pending, PendingRequest.of userId family entry → OnTime entry.call entry.req s
  | _, _ => True

section Steps

variable {i call ref : Nat} {s : HandlerState}

theorem suited_of_onTime (known : (s.owner? ref).isSome) (onTime : OnTime call ref s) :
    Suited call ref s := by
  rw [owner?, Option.isSome_map] at known
  obtain ⟨ctx, found⟩ := Option.isSome_iff_exists.mp known
  refine ⟨ctx.holding, ?_, onTime ctx found⟩
  rw [holding?, found]
  rfl

theorem ofLast_beginScore (last : OfLast s) {reqId : Nat}
    (permitted : UpToDate (.begin i ⟨.score, reqId⟩) s) : OfLast (beginScore i reqId s).2 := by
  rcases beginScore_cases i reqId s with ⟨error, refused⟩ | ⟨ref, current, running, begun⟩
  · rw [refused]
    exact last
  · rw [begun]
    have again : OfLast (rebegin i ref s) :=
      ofLast_rebegin last (permitted rfl ref current running)
    exact { again with }

theorem ofLast_takePending (last : OfLast s) (sound : Sound s) {client pktId : Nat}
    {family : Family} {reply : Reply}
    (permitted : UpToDate (.take i client family pktId reply) s) :
    OfLast (takePending i client family pktId reply s).2 := by
  rcases takePending_cases i client family pktId reply s with
    ⟨missing, none_⟩ | ⟨entry, found, some_⟩
  · rw [none_]
    exact { last with }
  · rw [some_]
    refine { last with inHand := ?_ }
    intro r member
    rcases List.mem_append.mp member with old | new
    · exact last.inHand r old
    · rw [List.mem_singleton.mp new]
      have listed := (KeyedTable.lookup_some found).1
      exact suited_of_onTime (sound.begun _ (sound.pending entry listed)) (permitted entry found)

end Steps

theorem keeps_ofLast (pb : ShadNetProto) : Keeps pb OfLast UpToDate := by
  intro i s label update step sound last permitted
  cases step with
  | quiet quiet =>
    have inHand : (update s).inHand ⊆ s.inHand := by
      rw [quiet.same]
      exact fun _ member => member
    exact (Fair.of_same quiet.holding inHand).ofLast last
  | connect userId npId accountId => exact { last with }
  | createScore titleCtxId => exact (fair_addRequest sound titleCtxId).ofLast last
  | beginScore reqId => exact ofLast_beginScore last permitted
  | beginTus reqId => exact (fair_beginTus sound reqId).ofLast last
  | beginOwn library => exact (fair_beginOwn sound library).ofLast last
  | fake reqId => exact (fair_fakeAsyncComplete sound reqId).ofLast last
  | finish ref r library begun =>
    obtain ⟨id, owned⟩ := begun.owned
    have suited := suited_of_onTime (Option.isSome_of_eq_some owned) permitted
    exact (fair_finish suited r).ofLast last
  | rejectComment ref => exact { last with }
  | submitFailed ref => exact { last with }
  | submit client family ref message => exact (fair_submitRequest client message).ofLast last
  | submitAuth client ref userId message =>
    exact ((fair_submitRequest client message).trans (fair_register _)).ofLast last
  | register entry => exact (fair_register entry).ofLast last
  | take client family pktId reply => exact ofLast_takePending last sound permitted
  | prepare r => exact (fair_prepare r.reply r.entry).ofLast last
  | store r store isLast => exact (fair_replyStore store isLast).ofLast last
  | complete r tmpRankOut routed own place marked =>
    exact (fair_complete r.client _ (last.inHand r (inHand_of_marks marked))).ofLast last
  | completeAuth r routed own auth marked =>
    have stored : ∀ stores, Fair s (setAuthorizationCode i r.entry.req stores s) :=
      fair_setAuthorizationCode
    have suited := last.inHand r (inHand_of_marks marked)
    exact ((stored _).trans (fair_complete r.client _ ((stored _).suited suited))).ofLast last
  | abort request found => exact (fair_kill request found communityAborted).ofLast last
  | delete request => exact (fair_deleteRequest request).ofLast last
  | deleteTitle library titleId => exact (fair_deleteTitle library titleId).ofLast last
  | disconnect userId => exact (fair_removeSession userId).ofLast last
  | sweep userId family errorCode =>
    refine (fair_sweepPending userId family errorCode ?_).ofLast last
    intro entry listed ours
    exact suited_of_onTime (sound.begun _ (sound.pending entry listed)) (permitted entry listed ours)

/-! ## Every interleaving -/

/-- What is to be read of a request object is a result of the operation that began it last, unless
the request was aborted. -/
def ResultOfLast (ctx : RequestCtx) : Prop :=
  ctx.request.library = .score → ctx.result.isSome → ∀ call ∈ ctx.resultOf, call = ctx.lastCall

/-- What threads that wait for a score request and calls that poll it read is the result of its last
operation. -/
def ReadsLast (s : HandlerState) : Prop :=
  (∀ ref, ∀ ctx ∈ s.request? ref, ResultOfLast ctx) ∧
    ∀ reqId, ∀ result ∈ (NpScore.pollAsync reqId s).2, ∃ ref ∈ s.current? ⟨.score, reqId⟩,
      ∃ ctx ∈ s.request? ref, ctx.result = some result ∧ ResultOfLast ctx

instance (ctx : RequestCtx) : Decidable (ResultOfLast ctx) :=
  inferInstanceAs (Decidable (_ → _ → ∀ call ∈ ctx.resultOf, _))

instance (call ref : Nat) (s : HandlerState) : Decidable (OnTime call ref s) :=
  inferInstanceAs (Decidable (∀ ctx ∈ s.request? ref, _ → _))

instance : ∀ label s, Decidable (UpToDate label s)
  | .begin _ request, s =>
    inferInstanceAs (Decidable (_ → ∀ ref ∈ s.current? request, _ → ∀ r ∈ s.inHand, _))
  | .finish call ref, s => inferInstanceAs (Decidable (OnTime call ref s))
  | .take _ _ family pktId _, s =>
    inferInstanceAs (Decidable (∀ entry ∈ s.pending? family pktId, OnTime entry.call entry.req s))
  | .sweep .., s => inferInstanceAs (Decidable (∀ entry ∈ s.pending, _ → _))
  | .submit .., _ | .register .., _ | .rejectComment .., _ | .submitFailed .., _ | .prepare .., _
  | .store .., _ | .complete .., _ | .abort .., _ | .delete .., _ | .deleteTitle .., _
  | .disconnect .., _ | .other, _ => isTrue trivial

theorem OfLast.readsLast {s : HandlerState} (last : OfLast s) : ReadsLast s := by
  have own : ∀ ref, ∀ ctx ∈ s.request? ref, ResultOfLast ctx := by
    intro ref ctx found
    refine last.own ref ctx.holding ?_
    rw [holding?, Option.mem_def.mp found]
    rfl
  refine ⟨own, ?_⟩
  intro reqId result read
  rw [NpScore.pollAsync] at read
  split at read
  · cases read
  · rename_i ref current
    split at read
    · cases read
    · rename_i held
      obtain ⟨ctx, found, set⟩ := Option.bind_eq_some_iff.mp held
      obtain rfl := Option.some.inj (Option.mem_def.mp read)
      exact ⟨ref, current, ctx, found, set, own ref ctx found⟩

/-- In every interleaving whose outcomes come up to date, results are of the last operation. -/
theorem results_of_last (pb : ShadNetProto) (actions : List (Action Op))
    (scheduled : Scheduled pb UpToDate actions) : ReadsLast (runPool pb actions).state := by
  have start : OfLast {} := by
    constructor <;> simp [holding?, request?, KeyedTable.lookup]
  obtain ⟨-, last, -⟩ := holds_of_scheduled (keeps_ofLast pb) start scheduled
  exact last.readsLast

/-- A request records two scores, each answered before the next is begun. -/
def oneAtATime : List (Action Op) :=
  setUp ++ .spawn (.score 6 1 none true (.recordScore 1 500 [] [] 0 none)) ::
    List.replicate 9 (.take 6) ++
    .spawn (.reply 7 0 1 ⟨.recordScore, .noError, []⟩) :: List.replicate 4 (.take 7) ++
    .spawn (.score 8 1 none true (.recordScore 1 700 [] [] 0 none)) ::
    List.replicate 9 (.take 8) ++
    .spawn (.reply 9 0 2 ⟨.recordScore, .noError, []⟩) :: List.replicate 4 (.take 9)

theorem oneAtATime_readsLast : ReadsLast (runPool noReplies oneAtATime).state :=
  results_of_last noReplies oneAtATime (by decide +kernel)

/-- The second score is recorded with the first still with the server, which then answers the
first. -/
def overlapping : List (Action Op) :=
  setUp ++ .spawn (.score 6 1 none true (.recordScore 1 500 [] [] 0 none)) ::
    List.replicate 9 (.take 6) ++
    .spawn (.score 7 1 none true (.recordScore 1 700 [] [] 0 none)) ::
    List.replicate 9 (.take 7) ++
    .spawn (.reply 8 0 1 ⟨.recordScore, .noError, []⟩) :: List.replicate 4 (.take 8)

/-- A poll says that the second score has been recorded. -/
theorem overlapping_reads_first :
    Scheduled noReplies AnsweredOnce overlapping ∧
      NpScore.pollAsync 1 (runPool noReplies overlapping).state = (0, some 0) ∧
      ¬ReadsLast (runPool noReplies overlapping).state := by
  have wrong : Scheduled noReplies AnsweredOnce overlapping ∧
      NpScore.pollAsync 1 (runPool noReplies overlapping).state = (0, some 0) ∧
      ¬∀ ctx ∈ (runPool noReplies overlapping).state.request? 1, ResultOfLast ctx := by
    decide +kernel
  exact ⟨wrong.1, wrong.2.1, fun reads => wrong.2.2 (reads.1 1)⟩

end NpHandler
