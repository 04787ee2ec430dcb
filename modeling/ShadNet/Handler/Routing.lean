import ShadNet.Handler.Packets

/-!
# Replies and the requests they complete

The clients of all users number their packets from one, and the entries of all of
them are in one map for each library. Where entries find their numbers free and
replies go in turn, a reply reaches the request that its client sent the packet
for, and stores and reports what it brings.
-/

namespace NpHandler

open LockProgram HandlerState

/-! ## What replies do is in them -/

/-- The call is a reply that had this request in hand, and it makes this of it. -/
def Brings (pb : ShadNetProto) (call req : Nat) (c : Completion) (s : HandlerState) : Prop :=
  ∃ r ∈ s.routed, r.call = call ∧ r.entry.req = req ∧
    ∃ rankOut, PlaceFound call req rankOut s ∧
      c = completion pb r.family r.reply r.entry.outputs rankOut

/-- Every result and every store of a reply is what that reply brings. -/
structure Reported (pb : ShadNetProto) (s : HandlerState) : Prop where
  completed : ∀ done ∈ s.completed, ∃ c, Brings pb done.call done.req c s ∧ done.result = c.result
  stored : ∀ done ∈ s.replyStores, ∃ c, Brings pb done.call done.req c s ∧ done.store ∈ c.stores

section Reported

variable {pb : ShadNetProto} {i : Nat} {s t : HandlerState}

theorem Brings.mono {call req : Nat} {c : Completion} (brings : Brings pb call req c s)
    (grows : Grows s t) : Brings pb call req c t := by
  obtain ⟨r, routed, own, named, rankOut, place, same⟩ := brings
  refine ⟨r, grows.routed r routed, own, named, rankOut, ?_, same⟩
  intro target found
  exact grows.rankPlaces _ (place target found)

/-- No reply has reported or stored anything. -/
def Unreported (s t : HandlerState) : Prop :=
  t.completed = s.completed ∧ t.replyStores = s.replyStores

theorem Unreported.keeps (unreported : Unreported s t) (grows : Grows s t)
    (reported : Reported pb s) : Reported pb t := by
  obtain ⟨completed, replyStores⟩ := unreported
  constructor
  · rw [completed]
    intro done member
    obtain ⟨c, brings, result⟩ := reported.completed done member
    exact ⟨c, brings.mono grows, result⟩
  · rw [replyStores]
    intro done member
    obtain ⟨c, brings, due⟩ := reported.stored done member
    exact ⟨c, brings.mono grows, due⟩

theorem unreported_beginScore (reqId : Nat) : Unreported s (beginScore i reqId s).2 := by
  rcases beginScore_cases i reqId s with ⟨error, refused⟩ | ⟨ref, -, -, begun⟩
  · rw [refused]
    exact ⟨rfl, rfl⟩
  · rw [begun]
    exact ⟨rfl, rfl⟩

theorem unreported_submitRequest (id : Nat) (message : Message) (ref : Nat) :
    Unreported s (submitRequest i id message ref s).2 := by
  rw [submitRequest]
  split <;> exact ⟨rfl, rfl⟩

theorem unreported_takePending (client : Nat) (family : Family) (pktId : Nat) (reply : Reply) :
    Unreported s (takePending i client family pktId reply s).2 := by
  rw [takePending]
  split <;> exact ⟨rfl, rfl⟩

theorem unreported_removeSession (userId : Int) : Unreported s (removeSession i userId s).2 := by
  rw [removeSession]
  split <;> exact ⟨rfl, rfl⟩

theorem unreported_sweepPending (userId : Int) (family : Family) (errorCode : Int) :
    Unreported s (sweepPending i userId family errorCode s) := by
  have failed := Offstage.foldl (fun s entry => offstage_setResult (s := s) entry.req
    ⟨errorCode, some entry.call⟩) (s.pending.filter (PendingRequest.of userId family)) s
  exact ⟨failed.completed, failed.replyStores⟩

theorem reported_replyStore (reported : Reported pb s) {call ref : Nat} {store : Store}
    {c : Completion} (brings : Brings pb call ref c s) (due : store ∈ c.stores) (last : Bool) :
    Reported pb (replyStore call ref store last s) := by
  refine ⟨reported.completed, ?_⟩
  intro done member
  rcases List.mem_append.mp member with old | new
  · exact reported.stored done old
  · obtain rfl := List.mem_singleton.mp new
    exact ⟨c, brings, due⟩

theorem reported_complete (reported : Reported pb s) {call client : Nat} {entry : PendingRequest}
    {c : Completion} (brings : Brings pb call entry.req c s) :
    Reported pb (complete call client entry c.result s) := by
  have grows := (moves_complete (i := call) (s := s) client entry c.result).2
  constructor
  · intro done member
    rcases List.mem_append.mp member with old | new
    · obtain ⟨c', brings', result⟩ := reported.completed done old
      exact ⟨c', brings'.mono grows, result⟩
    · obtain rfl := List.mem_singleton.mp new
      exact ⟨c, brings.mono grows, rfl⟩
  · intro done member
    obtain ⟨c', brings', due⟩ := reported.stored done member
    exact ⟨c', brings'.mono grows, due⟩

theorem reported_setAuthorizationCode (reported : Reported pb s) {call ref : Nat}
    {c : Completion} (brings : Brings pb call ref c s) :
    Reported pb (setAuthorizationCode call ref c.stores s) := by
  rw [setAuthorizationCode]
  split
  · exact reported
  · refine ⟨reported.completed, ?_⟩
    intro done member
    rcases List.mem_append.mp member with old | new
    · exact reported.stored done old
    · obtain ⟨store, due, rfl⟩ := List.mem_map.mp new
      exact ⟨c, brings, due⟩

end Reported

theorem keeps_reported (pb : ShadNetProto) : Keeps pb (Reported pb) (fun _ _ => True) := by
  rintro i s label update step sound reported -
  have grows := step.moves.2
  by_cases on : label.onstage
  · cases step with
    | beginScore reqId => exact (unreported_beginScore reqId).keeps grows reported
    | submit client family ref message =>
      exact (unreported_submitRequest client message ref).keeps grows reported
    | submitAuth client ref userId message =>
      exact Unreported.keeps (unreported_submitRequest client message ref) grows reported
    | register entry => exact Unreported.keeps (s := s) ⟨rfl, rfl⟩ grows reported
    | take client family pktId reply =>
      exact (unreported_takePending client family pktId reply).keeps grows reported
    | store r store last rankOut routed own place marked due =>
      exact reported_replyStore reported ⟨r, routed, own, rfl, rankOut, place, rfl⟩ due last
    | complete r rankOut routed own place =>
      exact reported_complete reported ⟨r, routed, own, rfl, rankOut, place, rfl⟩
    | completeAuth r routed own auth =>
      have brings : Brings pb i r.entry.req (authCompletion pb r.reply r.entry.outputs) s := by
        refine ⟨r, routed, own, rfl, none, ?_, ?_⟩
        · intro target found
          cases found
        · rw [auth]
          rfl
      exact reported_complete (reported_setAuthorizationCode reported brings)
        (brings.mono (silent_setAuthorizationCode i _).2)
    | disconnect userId => exact (unreported_removeSession userId).keeps grows reported
    | sweep userId family errorCode =>
      exact (unreported_sweepPending userId family errorCode).keeps grows reported
    | beginTus | beginOwn | fake => simp_all [Section.onstage]
    | _ => cases on
  · have offstage := step.offstage sound (by simpa using on)
    exact Unreported.keeps ⟨offstage.completed, offstage.replyStores⟩ grows reported

/-! ## Replies find the request of their own packet -/

/-- Every reply had in hand the request that was sent on its client with its number, what it
stored and reported is what it brings for that request, and the request of every packet whose
reply has been handled has a result once its submission has returned. -/
structure RepliesRouted (pb : ShadNetProto) (pool : Pool HandlerState Section) : Prop where
  home : ∀ r ∈ pool.state.routed, ∃ submission ∈ pool.state.sent,
    submission.packet = (r.client, r.pktId) ∧ r.entry.From submission
  completed : ∀ done ∈ pool.state.completed,
    ∃ c, Brings pb done.call done.req c pool.state ∧ done.result = c.result
  stored : ∀ done ∈ pool.state.replyStores,
    ∃ c, Brings pb done.call done.req c pool.state ∧ done.store ∈ c.stores
  answered : ∀ submission ∈ pool.state.sent, submission ∉ pool.state.superseded →
    submission.message.cmd.family?.isSome → submission.packet ∈ pool.state.handled →
    ¬Running pool submission.call → (pool.state.result? submission.req).isSome

/-- In every interleaving that goes in turn in every map, replies are routed. -/
theorem replies_routed (pb : ShadNetProto) (actions : List (Action Op))
    (scheduled : Scheduled pb (AnsweredInTurn (fun _ => true)) actions) :
    RepliesRouted pb (runPool pb actions) := by
  have start : Tracked (fun _ => true) {} := by constructor <;> simp [KeyedTable.Distinct]
  obtain ⟨-, tracked, -⟩ :=
    holds_of_scheduled (keeps_tracked pb (fun _ => true)) start scheduled
  have anyway : Scheduled pb (fun _ _ => True) actions := by
    refine scheduled.mono ?_
    rintro action _ pool ⟨-, numbered⟩
    exact ⟨fun _ _ => trivial, numbered⟩
  have empty : Reported pb {} := by constructor <;> simp
  obtain ⟨-, reported, -⟩ := holds_of_scheduled (keeps_reported pb) empty anyway
  constructor
  · intro r routed
    obtain ⟨submission, sent, registers, client⟩ := tracked.home r routed rfl
    have key := (tracked.routed r routed).2
    refine ⟨submission, sent, ?_, registers⟩
    have number : r.entry.pktId = r.pktId := congrArg Prod.snd key
    rw [Submission.packet, client, ← registers.pktId, number]
  · exact reported.completed
  · exact reported.stored
  · intro submission member current routes handled _
    obtain ⟨family, found⟩ := Option.isSome_iff_exists.mp routes
    have watching : submission.watched (fun _ => true) = true := by
      rw [Submission.watched, found]
      rfl
    rcases tracked.accounted submission member watching current with
      held | ⟨unanswered, -⟩ | ⟨unhandled, -⟩
    · exact held
    · exact absurd (tracked.handled _ handled) unanswered
    · exact absurd handled unhandled

instance (entry : PendingRequest) (submission : Submission) :
    Decidable (entry.From submission) :=
  decidable_of_iff (entry.call = submission.call ∧ entry.client = submission.client ∧
      entry.pktId = submission.pktId ∧ entry.req = submission.req ∧
      entry.cmd = submission.message.cmd ∧ entry.cmd.family? = some entry.family) <| by
    constructor
    · rintro ⟨call, client, pktId, req, cmd, family⟩
      exact ⟨call, client, pktId, req, cmd, family⟩
    · intro registers
      exact ⟨registers.call, registers.client, registers.pktId, registers.req, registers.cmd,
        registers.family⟩

def bob : Bytes := [98, 111, 98]

/-- Bob signs in too, and gets a title context and a request, on the threads from `n` on. -/
def bobSignsIn (n : Nat) : List (Action Op) :=
  .spawn (.connectUser 2 bob 8) :: .take n ::
    .spawn (.createScoreTitleCtx none 0 bob) :: List.replicate 2 (.take (n + 1)) ++
    .spawn (.createScoreRequest 2) :: List.replicate 2 (.take (n + 2))

/-- Ali records a score and gets its answer; then Bob does, whose packet has the same number. -/
def oneAfterTheOther : List (Action Op) :=
  setUp ++ .spawn (.score 6 1 none true (.recordScore 1 500 [] [] 0 (some 40))) ::
    List.replicate 9 (.take 6) ++
    .spawn (.reply 7 0 1 ⟨.recordScore, .noError, [3, 0, 0, 0]⟩) :: List.replicate 5 (.take 7) ++
    bobSignsIn 8 ++
    .spawn (.score 11 2 none true (.recordScore 1 700 [] [] 0 (some 41))) ::
    List.replicate 9 (.take 11) ++
    .spawn (.reply 12 1 1 ⟨.recordScore, .noError, [2, 0, 0, 0]⟩) :: List.replicate 5 (.take 12)

theorem oneAfterTheOther_routed :
    RepliesRouted noReplies (runPool noReplies oneAfterTheOther) :=
  replies_routed noReplies oneAfterTheOther (by decide +kernel)

/-- Both have a packet numbered one with the server; Bob's is answered. -/
def bothInFlight : List (Action Op) :=
  setUp ++ bobSignsIn 6 ++
    .spawn (.score 9 1 none true (.recordScore 1 500 [] [] 0 none)) ::
    List.replicate 9 (.take 9) ++
    .spawn (.score 10 2 none true (.recordScore 1 700 [] [] 0 none)) ::
    List.replicate 9 (.take 10) ++
    .spawn (.reply 11 1 1 ⟨.recordScore, .noError, []⟩) :: List.replicate 5 (.take 11)

/-- The reply on Bob's client completes the request of Ali. -/
theorem bothInFlight_misrouted :
    Scheduled noReplies AnsweredOnce bothInFlight ∧
      ¬RepliesRouted noReplies (runPool noReplies bothInFlight) := by
  have once : Scheduled noReplies AnsweredOnce bothInFlight := by decide +kernel
  have astray : ¬∀ r ∈ (runPool noReplies bothInFlight).state.routed,
      ∃ submission ∈ (runPool noReplies bothInFlight).state.sent,
        submission.packet = (r.client, r.pktId) ∧ r.entry.From submission := by
    decide +kernel
  exact ⟨once, fun routed => astray routed.home⟩

end NpHandler
