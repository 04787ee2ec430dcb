import Mathlib
import ShadNet.RelyGuarantee
import ShadNet.Matching2.Frames

/-!
# Callbacks and the return of their calls

A `DispatchHold` keeps the dispatcher thread away from the queue until the call
that holds it is about to return. The calls are numbered by their threads; one
that takes the hold has its callback run only after it has returned, whatever
the other calls, the replies and the dispatcher do in between.
-/

namespace NpMatching2

open LockProgram NpSignaling Matching2State

/-- The call holds the dispatcher or has returned. -/
def Queues.Begun (q : Queues) (call : Nat) : Prop := call ∈ q.holding ∨ call ∈ q.returned

/-- Of the call `c`, nothing is on its way before it holds the dispatcher, and nothing has reached
the dispatcher before it has returned. -/
structure HeldBack (c : Nat) (q : Queues) : Prop where
  holds : q.dispatchHolds = q.holding.length
  pending : ∀ pr ∈ q.pending, pr.call = c → q.Begun c
  queued : ∀ ev ∈ q.pendingEvents, ev.body.requestCall = some c → q.Begun c
  ready : ∀ ev ∈ q.ready, ev.body.requestCall = some c → c ∈ q.returned
  fired : ∀ ev ∈ q.fired, ev.body.requestCall = some c → c ∈ q.returned

/-- A thread ends no hold but its own, and no call is forgotten. -/
def callDiscipline (c : Nat) : Discipline Matching2State Section where
  inv s := HeldBack c s.queues
  permit _ _ := True
  rely i s t := (i ∈ s.holding → i ∈ t.holding) ∧
    ∀ call, s.queues.Begun call → t.queues.Begun call
  guar i s t := (∀ call, call ≠ i → call ∈ s.holding → call ∈ t.holding) ∧
    ∀ call, s.queues.Begun call → t.queues.Begun call
  rely_refl _ _ := ⟨id, fun _ => id⟩
  rely_trans := by
    rintro i s t u ⟨hold, begun⟩ ⟨hold', begun'⟩
    exact ⟨fun h => hold' (hold h), fun call h => begun' call (begun call h)⟩
  compatible := by
    rintro i j s t different ⟨hold, begun⟩
    exact ⟨hold j (Ne.symm different), begun⟩

section Sections

variable {c i : Nat} {α : Type}

/-- What a thread may know of its own call. -/
theorem stable_holding : Prog.Stable (callDiscipline c) i (fun s => i ∈ s.queues.holding) :=
  fun _ _ holding moved => moved.1 holding

theorem guar_of_queues {s t : Matching2State} (same : t.queues = s.queues) :
    (callDiscipline c).guar i s t := by
  have holding : t.holding = s.holding := congrArg Queues.holding same
  constructor
  · intro call _ hold
    exact holding ▸ hold
  · intro call begun
    exact same ▸ begun

theorem aside_secured {I : Queues → Prop} {p : Matching2 α} (uses : p.Uses Aside)
    (stable : Prog.Stable (callDiscipline c) i (fun s => I s.queues)) :
    Prog.Secured (callDiscipline c) i (fun s => I s.queues) p (fun _ s => I s.queues) := by
  refine uses.secured stable ?_
  intro label update aside s known inv _
  have same := aside s
  have inv' : HeldBack c (update s).queues := same.symm ▸ inv
  have known' : I (update s).queues := same.symm ▸ known
  exact ⟨inv', guar_of_queues same, known'⟩

theorem aside_holding {p : Matching2 α} (uses : p.Uses Aside) :
    Prog.Secured (callDiscipline c) i (fun s => i ∈ s.queues.holding) p
      (fun _ s => i ∈ s.queues.holding) :=
  @aside_secured c i α (fun q => i ∈ q.holding) p uses stable_holding

theorem scheduleEvent_secured {I : Queues → Prop} {ev : PendingEvent}
    (stable : Prog.Stable (callDiscipline c) i (fun s => I s.queues))
    (known : ∀ q, I q → ev.body.requestCall = some c → q.Begun c) :
    Prog.Secured (callDiscipline c) i (fun s => I s.queues) (updates (scheduleEvent ev))
      (fun _ _ => True) := by
  refine Prog.secured_update stable ?_
  intro s holds inv _
  refine ⟨?_, ⟨fun _ _ hold => hold, fun _ begun => begun⟩, trivial⟩
  constructor
  · exact inv.holds
  · exact inv.pending
  · intro other member named
    rcases List.mem_append.mp member with old | new
    · exact inv.queued other old named
    · rw [List.mem_singleton.mp new] at named
      exact known s.queues holds named
  · exact inv.ready
  · exact inv.fired

theorem registerPending_secured {pr : PendingRequest} {label : Section} (own : pr.call = i) :
    Prog.Secured (callDiscipline c) i (fun s => i ∈ s.queues.holding)
      (Prog.update label (registerPending pr)) (fun _ s => i ∈ s.queues.holding) := by
  refine Prog.secured_update stable_holding ?_
  intro s holds inv _
  refine ⟨?_, ⟨fun _ _ hold => hold, fun _ begun => begun⟩, holds⟩
  constructor
  · exact inv.holds
  · intro other member named
    rcases KeyedTable.mem_store.mp member with ⟨old, -⟩ | new
    · exact inv.pending other old named
    · rw [new, own] at named
      subst named
      exact Or.inl holds
  · exact inv.queued
  · exact inv.ready
  · exact inv.fired

theorem dispatchHold_secured :
    Prog.Secured (callDiscipline c) i (fun _ => True) (updates (dispatchHold i))
      (fun _ s => i ∈ s.queues.holding) := by
  refine Prog.secured_update Prog.stable_true ?_
  intro s _ inv _
  have grows : ∀ call, s.queues.Begun call → (dispatchHold i s).queues.Begun call := by
    rintro call (hold | returned)
    · exact Or.inl (List.mem_append_left _ hold)
    · exact Or.inr returned
  refine ⟨?_, ⟨fun _ _ hold => List.mem_append_left _ hold, grows⟩,
    List.mem_append_right _ (List.mem_singleton_self i)⟩
  constructor
  · have holds : s.dispatchHolds = s.holding.length := inv.holds
    simp only [dispatchHold, queues, List.length_append, List.length_singleton]
    omega
  · exact fun pr member named => grows c (inv.pending pr member named)
  · exact fun ev member named => grows c (inv.queued ev member named)
  · exact inv.ready
  · exact inv.fired

theorem begun_dispatchRelease {s : Matching2State} {call : Nat} (begun : s.queues.Begun call) :
    (dispatchRelease i s).queues.Begun call := by
  rcases begun with hold | returned
  · by_cases own : call = i
    · subst own
      exact Or.inr (List.mem_append_right _ (List.mem_singleton_self call))
    · exact Or.inl ((List.mem_erase_of_ne own).mpr hold)
  · exact Or.inr (List.mem_append_left _ returned)

theorem dispatchRelease_secured :
    Prog.Secured (callDiscipline c) i (fun s => i ∈ s.queues.holding)
      (updates (dispatchRelease i)) (fun _ _ => True) := by
  refine Prog.secured_update stable_holding ?_
  intro s hold inv _
  have others : ∀ call, call ≠ i → call ∈ s.holding → call ∈ s.holding.erase i :=
    fun call other held => (List.mem_erase_of_ne other).mpr held
  refine ⟨?_, ⟨others, fun _ begun => begun_dispatchRelease begun⟩, trivial⟩
  have later : ∀ call, call ∈ s.returned → call ∈ s.returned ++ [i] :=
    fun call old => List.mem_append_left _ old
  constructor
  · have holds : s.dispatchHolds = s.holding.length := inv.holds
    have erased : (s.holding.erase i).length = s.holding.length - 1 :=
      List.length_erase_of_mem hold
    simp only [dispatchRelease, queues]
    omega
  · exact fun pr member named => begun_dispatchRelease (inv.pending pr member named)
  · exact fun ev member named => begun_dispatchRelease (inv.queued ev member named)
  · exact fun ev member named => later c (inv.ready ev member named)
  · exact fun ev member named => later c (inv.fired ev member named)

/-! ## Programs -/

theorem submitOrComplete_secured {clientId ctxId : Nat} {reqId : UInt32}
    {reqEvent : Matching2Event} {aVariant : Bool} {ctx : ContextObject}
    {request : RequestCallbackInfo} {enabled : Bool} :
    Prog.Secured (callDiscipline c) i (fun s => i ∈ s.queues.holding)
      (submitOrComplete i clientId ctxId reqId reqEvent aVariant ctx request enabled)
      (fun _ s => i ∈ s.queues.holding) := by
  simp only [submitOrComplete]
  refine Prog.secured_ite (fun _ => ?_) (fun _ => ?_)
  · refine Prog.Secured.bind ?_ (fun _ => Prog.secured_pure (fun _ hold => hold))
    refine Prog.secured_update stable_holding ?_
    intro s holds inv _
    refine ⟨?_, ⟨fun _ _ hold => hold, fun _ begun => begun⟩, holds⟩
    constructor
    · exact inv.holds
    · exact inv.pending
    · intro other member named
      rcases List.mem_append.mp member with old | new
      · exact inv.queued other old named
      · rw [List.mem_singleton.mp new] at named
        obtain rfl : i = c := Option.some.inj named
        exact Or.inl holds
    · exact inv.ready
    · exact inv.fired
  · have counted : (Prog.locked Section.other (clientSubmitRequest clientId)).Uses Aside :=
      Prog.uses_locked (queues_clientSubmitRequest clientId)
    refine (aside_holding counted).bind (fun pktId => ?_)
    refine Prog.Secured.bind (registerPending_secured rfl) (fun _ => ?_)
    exact Prog.secured_pure (fun _ hold => hold)

theorem mmSubmitRequest_secured {ctxId : Nat} {reqId : UInt32} {reqEvent : Matching2Event}
    {aVariant : Bool} :
    Prog.Secured (callDiscipline c) i (fun s => i ∈ s.queues.holding)
      (mmSubmitRequest i ctxId reqId reqEvent aVariant) (fun _ s => i ∈ s.queues.holding) := by
  have refused : ∀ error, Prog.Secured (callDiscipline c) i (fun s => i ∈ s.queues.holding)
      (pure (.error error) : Matching2 (Except ApiError Unit))
      (fun _ s => i ∈ s.queues.holding) :=
    fun error => Prog.secured_pure (fun _ hold => hold)
  refine (aside_holding (aside_reads _)).bind (fun client => ?_)
  cases client with
  | none => exact refused _
  | some clientId =>
    refine (aside_holding (aside_reads _)).bind (fun authenticated => ?_)
    refine Prog.secured_ite (fun _ => ?_) (fun _ => refused _)
    refine (aside_holding (aside_reads _)).bind (fun found => ?_)
    cases found with
    | none => exact refused _
    | some ctx =>
      have consumed : (Prog.locked (Section.consumeRequestCallback i ctx.object)
          (consumeRequestCallback ctx.object)).Uses Aside :=
        Prog.uses_locked (queues_consumeRequestCallback ctx.object)
      refine (aside_holding consumed).bind (fun request => ?_)
      refine (aside_holding (aside_reads _)).bind (fun enabled => ?_)
      exact submitOrComplete_secured

theorem heldSubmission_secured {ctxId : Nat} {reqId : UInt32} {event : Matching2Event}
    {aVariant : Bool} :
    Prog.Secured (callDiscipline c) i (fun _ => True)
      (heldSubmission i ctxId reqId event aVariant) (fun _ _ => True) := by
  refine dispatchHold_secured.bind (fun _ => ?_)
  refine mmSubmitRequest_secured.bind (fun result => ?_)
  exact dispatchRelease_secured.bind (fun _ => Prog.secured_pure (fun _ _ => trivial))

/-- Nothing is asked of the state before a program that stays aside. -/
theorem aside_free {p : Matching2 α} (uses : p.Uses Aside) :
    Prog.Secured (callDiscipline c) i (fun _ => True) p (fun _ _ => True) :=
  @aside_secured c i α (fun _ => True) p uses Prog.stable_true

theorem beside_free {p : Matching2 α} (uses : p.Uses Beside) :
    Prog.Secured (callDiscipline c) i (fun _ => True) p (fun _ _ => True) :=
  aside_free (Beside.aside uses)

theorem free_pure {a : α} :
    Prog.Secured (callDiscipline c) i (fun _ => True) (pure a : Matching2 α) (fun _ _ => True) :=
  Prog.secured_pure (fun _ _ => trivial)

theorem remoteRequest_secured {event : Bool → Matching2Event} {aVariant : Bool → Bool}
    {ctxId : Nat} {valid : Bool} {requestOpt : Option RequestOptParam} :
    Prog.Secured (callDiscipline c) i (fun _ => True)
      (remoteRequest event aVariant i ctxId valid requestOpt) (fun _ _ => True) := by
  refine (beside_free (beside_requestContext valid ctxId)).bind (fun found => ?_)
  cases found with
  | error error => exact free_pure
  | ok ctx =>
    refine (beside_free (beside_beginRequest i ctx.object requestOpt)).bind (fun reqId => ?_)
    exact heldSubmission_secured.bind (fun _ => free_pure)

theorem sendRoomMessage_secured {ctxId : Nat} {valid : Bool}
    {requestOpt : Option RequestOptParam} :
    Prog.Secured (callDiscipline c) i (fun _ => True)
      (sceNpMatching2SendRoomMessage i ctxId valid requestOpt) (fun _ _ => True) := by
  refine (beside_free (beside_requestContext valid ctxId)).bind (fun found => ?_)
  cases found with
  | error error => exact free_pure
  | ok ctx =>
    refine (beside_free (beside_beginRequest i ctx.object requestOpt)).bind (fun reqId => ?_)
    exact heldSubmission_secured.bind (fun _ => free_pure)

/-- A call that takes no hold keeps to the rules as long as nothing is promised of it. -/
theorem localRequest_secured {event : Matching2Event} {data : Matching2ContextCache → Bool}
    {ctxId : Nat} {valid : Bool} {requestOpt : Option RequestOptParam} (other : i ≠ c) :
    Prog.Secured (callDiscipline c) i (fun _ => True)
      (localRequest event data i ctxId valid requestOpt) (fun _ _ => True) := by
  refine (beside_free (beside_requestContext valid ctxId)).bind (fun found => ?_)
  cases found with
  | error error => exact free_pure
  | ok ctx =>
    refine (beside_free (beside_beginRequest i ctx.object requestOpt)).bind (fun reqId => ?_)
    refine (aside_free (aside_reads _)).bind (fun hasData => ?_)
    have consumed : (Prog.locked (Section.consumeRequestCallback i ctx.object)
        (consumeRequestCallback ctx.object)).Uses Aside :=
      Prog.uses_locked (queues_consumeRequestCallback ctx.object)
    refine (aside_free consumed).bind (fun request => ?_)
    have scheduled := @scheduleEvent_secured c i (fun _ => True) ⟨ctxId, ctx.object,
      .requestCb reqId event 0 request hasData i⟩ Prog.stable_true
      (fun _ _ named => absurd (Option.some.inj named) other)
    refine scheduled.bind (fun _ => ?_)
    refine Prog.Secured.bind ?_ (fun _ => free_pure)
    refine Prog.secured_update Prog.stable_true ?_
    intro s _ inv _
    have later : ∀ call, call ∈ s.returned → call ∈ s.returned ++ [i] :=
      fun call old => List.mem_append_left _ old
    have grows : ∀ call, s.queues.Begun call → (returnCall i s).queues.Begun call := by
      rintro call (hold | returned)
      · exact Or.inl hold
      · exact Or.inr (later call returned)
    refine ⟨?_, ⟨fun _ _ hold => hold, grows⟩, trivial⟩
    constructor
    · exact inv.holds
    · exact fun pr member named => grows c (inv.pending pr member named)
    · exact fun ev member named => grows c (inv.queued ev member named)
    · exact fun ev member named => later c (inv.ready ev member named)
    · exact fun ev member named => later c (inv.fired ev member named)

theorem contextStart_secured {ctxId : Nat} :
    Prog.Secured (callDiscipline c) i (fun _ => True) (sceNpMatching2ContextStart i ctxId)
      (fun _ _ => True) := by
  refine (aside_free (aside_reads _)).bind (fun initialized => ?_)
  refine Prog.secured_ite (fun _ => ?_) (fun _ => free_pure)
  refine (aside_free (aside_reads _)).bind (fun active => ?_)
  refine Prog.secured_ite (fun _ => ?_) (fun _ => free_pure)
  have start : (Prog.locked Section.other (contextManagerStart ctxId)).Uses Aside :=
    Prog.uses_locked (queues_contextManagerStart ctxId)
  refine (aside_free start).bind (fun started => ?_)
  cases started with
  | error error => exact free_pure
  | ok _ =>
    refine dispatchHold_secured.bind (fun _ => ?_)
    have submitted : Prog.Secured (callDiscipline c) i (fun s => i ∈ s.queues.holding)
        (mmContextStart i ctxId) (fun _ s => i ∈ s.queues.holding) :=
      mmSubmitRequest_secured.bind (fun _ => Prog.secured_pure (fun _ hold => hold))
    refine submitted.bind (fun _ => ?_)
    exact dispatchRelease_secured.bind (fun _ => free_pure)

theorem contextStop_secured {ctxId : Nat} :
    Prog.Secured (callDiscipline c) i (fun _ => True) (sceNpMatching2ContextStop i ctxId)
      (fun _ _ => True) := by
  refine (aside_free (aside_reads _)).bind (fun initialized => ?_)
  refine Prog.secured_ite (fun _ => ?_) (fun _ => free_pure)
  have stop : (Prog.locked Section.other (contextManagerStop ctxId)).Uses Aside :=
    Prog.uses_locked (queues_contextManagerStop ctxId)
  refine (aside_free stop).bind (fun stopped => ?_)
  cases stopped with
  | error error => exact free_pure
  | ok _ =>
    refine (aside_free (aside_reads _)).bind (fun ctx => ?_)
    have dead : (Prog.forSome ctx (fun ctx => Prog.when ctx.signalingCallback
        (signaling (stopMatching2 ctxId .terminatedByMyself .terminatedByMyself)))).Uses Aside :=
      Prog.uses_forSome (fun _ _ => Prog.uses_when (aside_signaling _))
    refine (aside_free dead).bind (fun _ => ?_)
    refine dispatchHold_secured.bind (fun _ => ?_)
    refine Prog.Secured.bind mmSubmitRequest_secured (fun result => ?_)
    cases result with
    | ok _ => exact dispatchRelease_secured.bind (fun _ => free_pure)
    | error error =>
      have completed : (Prog.forSome ctx (fun ctx =>
          updates (contextManagerCompleteStop ctxId ctx.object))).Uses Aside :=
        Prog.uses_forSome (fun ctx _ =>
          aside_updates (queues_contextManagerCompleteStop ctxId ctx.object))
      refine (aside_holding completed).bind (fun _ => ?_)
      exact dispatchRelease_secured.bind (fun _ => free_pure)

theorem dispatchRequestComplete_secured {pr : PendingRequest} {errorCode : UInt32}
    {body : ReplyBody} {input : StartInput} :
    Prog.Secured (callDiscipline c) i (fun s => pr.call = c → s.queues.Begun c)
      (dispatchRequestComplete pr errorCode body input) (fun _ _ => True) := by
  let Known (q : Queues) : Prop := pr.call = c → q.Begun c
  have stable : Prog.Stable (callDiscipline c) i (fun s => Known s.queues) :=
    fun _ _ known moved own => moved.2 c (known own)
  refine Prog.Secured.bind (aside_secured (aside_reads _) stable) (fun found => ?_)
  cases found with
  | none => exact Prog.secured_pure (fun _ _ => trivial)
  | some ctx =>
    refine Prog.secured_ite (fun _ => ?_) (fun _ => ?_)
    · have unnamed : (EventBody.contextCb pr.reqEvent errorCode).requestCall ≠ some c :=
        (Option.some_ne_none c).symm
      exact scheduleEvent_secured stable (fun _ _ named => absurd named unnamed)
    · have built :=
        aside_secured (Beside.aside (beside_buildRequestData ctx pr errorCode body)) stable
      refine built.bind (fun hasData => ?_)
      refine Prog.Secured.bind (scheduleEvent_secured stable ?_) (fun _ => ?_)
      · intro q own named
        exact own (Option.some.inj named)
      · exact beside_free (Prog.uses_when (beside_startMatching2 ctx.object input))

/-- The reply's request had begun before it was registered. -/
theorem reply_secured {pktId : Nat} {errorCode : UInt32} {body : ReplyBody}
    {input : StartInput} :
    Prog.Secured (callDiscipline c) i (fun _ => True)
      (onMatching2Reply pktId errorCode body input) (fun _ _ => True) := by
  have taken : Prog.Secured (callDiscipline c) i (fun _ => True)
      (Prog.locked (.takePending pktId) (takePending pktId))
      (fun found s => ∀ pr, found = some pr → pr.call = c → s.queues.Begun c) := by
    refine Prog.secured_locked Prog.stable_true ?_
    intro s _ inv _
    refine ⟨?_, ⟨fun _ _ hold => hold, fun _ begun => begun⟩, ?_⟩
    · constructor
      · exact inv.holds
      · exact fun pr member named => inv.pending pr (KeyedTable.mem_remove.mp member).1 named
      · exact inv.queued
      · exact inv.ready
      · exact inv.fired
    · intro pr found named
      exact inv.pending pr (KeyedTable.lookup_some found).1 named
  refine taken.bind (fun found => ?_)
  cases found with
  | none => exact Prog.secured_pure (fun _ _ => trivial)
  | some pr =>
    exact dispatchRequestComplete_secured.weaken (fun s known => known pr rfl)
      (fun _ _ _ => trivial)

theorem roomEvent_secured {n : NotifyRoomEvent} {input : StartInput} :
    Prog.Secured (callDiscipline c) i (fun _ => True) (handleRoomEvent n input)
      (fun _ _ => True) := by
  refine (aside_free (aside_reads _)).bind (fun found => ?_)
  cases found with
  | none => exact free_pure
  | some ctx =>
    have handled : (Prog.locked Section.other (roomEventLocked ctx.object n)).Uses Aside :=
      Prog.uses_locked (queues_roomEventLocked ctx.object n)
    refine (aside_free handled).bind (fun known => ?_)
    refine Prog.secured_ite (fun _ => ?_) (fun _ => free_pure)
    have scheduled := @scheduleEvent_secured c i (fun _ => True) ⟨ctx.ctxId, ctx.object,
      .roomEventCb n.roomId n.event⟩ Prog.stable_true (fun _ _ named => by
        simp [EventBody.requestCall] at named)
    refine scheduled.bind (fun _ => ?_)
    exact beside_free (Prog.uses_when (beside_startMatching2 ctx.object input))

theorem roomMessage_secured {ctxId roomId srcMemberId : Nat} :
    Prog.Secured (callDiscipline c) i (fun _ => True)
      (handleRoomMessage ctxId roomId srcMemberId) (fun _ _ => True) := by
  refine (aside_free (aside_reads _)).bind (fun found => ?_)
  cases found with
  | none => exact free_pure
  | some ctx =>
    exact @scheduleEvent_secured c i (fun _ => True) ⟨ctx.ctxId, ctx.object,
      .roomMessageCb roomId srcMemberId⟩ Prog.stable_true (fun _ _ named => by
        simp [EventBody.requestCall] at named)

/-- The dispatcher takes the queue only while no call holds it back. -/
theorem takeReady_secured :
    Prog.Secured (callDiscipline c) i (fun _ => True) (updates takeReady) (fun _ _ => True) := by
  refine Prog.secured_update Prog.stable_true ?_
  intro s _ inv _
  simp only [takeReady]
  split
  · rename_i free
    refine ⟨?_, ⟨fun _ _ hold => hold, fun _ begun => begun⟩, trivial⟩
    have none_held : s.holding = [] := by
      have holds : s.dispatchHolds = s.holding.length := inv.holds
      exact List.eq_nil_of_length_eq_zero (by omega)
    constructor
    · exact inv.holds
    · exact inv.pending
    · simp [queues]
    · intro ev member named
      rcases inv.queued ev member named with hold | returned
      · simp [queues, none_held] at hold
      · exact returned
    · exact inv.fired
  · exact ⟨inv, ⟨fun _ _ hold => hold, fun _ begun => begun⟩, trivial⟩

/-- Firing an event moves it, and may complete a stop. -/
theorem queues_fireEvent {s : Matching2State} {ev : PendingEvent} {rest : List PendingEvent}
    (next : s.ready = ev :: rest) :
    (fireEvent s).queues = { s.queues with ready := rest, fired := s.fired ++ [ev] } := by
  simp only [fireEvent, next]
  split
  · rw [queues_contextManagerCompleteStop]
    rfl
  · rfl

theorem fireEvent_secured :
    Prog.Secured (callDiscipline c) i (fun _ => True) (updates fireEvent) (fun _ _ => True) := by
  refine Prog.secured_update Prog.stable_true ?_
  intro s _ inv _
  cases next : s.ready with
  | nil =>
    simp only [fireEvent, next]
    exact ⟨inv, ⟨fun _ _ hold => hold, fun _ begun => begun⟩, trivial⟩
  | cons ev rest =>
    have queues' := queues_fireEvent next
    have ready : ∀ other ∈ ev :: rest, other.body.requestCall = some c → c ∈ s.returned :=
      next ▸ inv.ready
    have inv' : HeldBack c (fireEvent s).queues := by
      rw [queues']
      constructor
      · exact inv.holds
      · exact inv.pending
      · exact inv.queued
      · exact fun other member => ready other (List.mem_cons_of_mem _ member)
      · intro other member named
        rcases List.mem_append.mp member with old | new
        · exact inv.fired other old named
        · rw [List.mem_singleton.mp new] at named
          exact ready ev (List.mem_cons_self ..) named
    refine ⟨inv', ⟨?_, ?_⟩, trivial⟩
    · intro call _ hold
      have holding : (fireEvent s).holding = s.holding := congrArg Queues.holding queues'
      exact holding ▸ hold
    · intro call begun
      rw [queues']
      exact begun

theorem termEventDispatcher_secured :
    Prog.Secured (callDiscipline c) i (fun _ => True) (updates termEventDispatcher)
      (fun _ _ => True) := by
  refine Prog.secured_update Prog.stable_true ?_
  intro s _ inv _
  simp only [termEventDispatcher]
  split
  · refine ⟨?_, ⟨fun _ _ hold => hold, fun _ begun => begun⟩, trivial⟩
    constructor
    · exact inv.holds
    · exact inv.pending
    · simp [queues]
    · exact inv.ready
    · exact inv.fired
  · exact ⟨inv, ⟨fun _ _ hold => hold, fun _ begun => begun⟩, trivial⟩

theorem terminate_secured :
    Prog.Secured (callDiscipline c) i (fun _ => True) sceNpMatching2Terminate
      (fun _ _ => True) := by
  refine (aside_free (aside_reads _)).bind (fun initialized => ?_)
  refine Prog.secured_ite (fun _ => ?_) (fun _ => free_pure)
  refine Prog.Secured.bind (aside_free (aside_updates ?_)) (fun _ => ?_)
  · exact fun _ => rfl
  refine termEventDispatcher_secured.bind (fun _ => ?_)
  refine (aside_free (aside_updates queues_contextManagerReset)).bind (fun _ => ?_)
  refine Prog.Secured.bind (aside_free (aside_updates ?_)) (fun _ => ?_)
  · exact fun _ => rfl
  exact (aside_free (aside_signaling _)).bind (fun _ => free_pure)

theorem clear_secured :
    Prog.Secured (callDiscipline c) i (fun _ => True) (updates clearMmShadNetClient)
      (fun _ _ => True) := by
  refine Prog.secured_update Prog.stable_true ?_
  intro s _ inv _
  refine ⟨?_, ⟨fun _ _ hold => hold, fun _ begun => begun⟩, trivial⟩
  constructor
  · exact inv.holds
  · simp [clearMmShadNetClient, queues]
  · exact inv.queued
  · exact inv.ready
  · exact inv.fired

end Sections

/-! ## The law -/

def Op.call? : Op → Option Nat
  | .contextStart call _ | .contextStop call _ | .request call .. => some call
  | _ => none

/-- The history variable of a call is the number of its thread. -/
def Numbered : Action Op → Pool Matching2State Section → Prop
  | .spawn op, pool => ∀ call ∈ op.call?, call = pool.threads.length
  | .take _, _ => True

instance : ∀ action pool, Decidable (Numbered action pool)
  | .spawn op, pool => inferInstanceAs (Decidable (∀ call ∈ op.call?, call = pool.threads.length))
  | .take _, _ => isTrue trivial

abbrev runPool (actions : List (Action Op)) : Pool Matching2State Section :=
  Runs.run (Pool.step Op.program) actions ⟨{}, []⟩

abbrev NumberedRun (actions : List (Action Op)) : Prop :=
  Runs.Admitted (Pool.step Op.program) Numbered actions ⟨{}, []⟩

/-- In every interleaving, the callback of a request made through the call is only run once the
call has returned. -/
def CallbackFollowsCall (api : RequestApi) : Prop :=
  ∀ actions, NumberedRun actions →
    ∀ call ctxId valid requestOpt,
      Action.spawn (.request call api ctxId valid requestOpt) ∈ actions →
        ∀ ev ∈ (runPool actions).state.fired, ev.body.requestCall = some call →
          call ∈ (runPool actions).state.returned

/-- Every thread number starts one operation. -/
theorem threads_le_of_numbered {actions : List (Action Op)} {pool : Pool Matching2State Section}
    (numbered : Runs.Admitted (Pool.step Op.program) Numbered actions pool) {op : Op} {call : Nat}
    (started : Action.spawn op ∈ actions) (named : call ∈ op.call?) :
    pool.threads.length ≤ call := by
  induction actions generalizing pool with
  | nil => simp at started
  | cons action actions ih =>
    obtain ⟨first, later⟩ := numbered
    rcases List.mem_cons.mp started with rfl | started
    · exact Nat.le_of_eq (first call named).symm
    · have grown := ih later started
      cases action with
      | spawn other =>
        simp only [Pool.step, List.length_append, List.length_singleton] at grown
        omega
      | take thread =>
        simp only [Pool.step] at grown
        split at grown
        · rwa [List.length_set] at grown
        · exact grown

theorem op_eq_of_call {actions : List (Action Op)} {pool : Pool Matching2State Section}
    (numbered : Runs.Admitted (Pool.step Op.program) Numbered actions pool) {op other : Op}
    {call : Nat} (started : Action.spawn op ∈ actions) (started' : Action.spawn other ∈ actions)
    (named : call ∈ op.call?) (named' : call ∈ other.call?) : op = other := by
  induction actions generalizing pool with
  | nil => simp at started
  | cons action actions ih =>
    obtain ⟨first, later⟩ := numbered
    -- a call started first has a number that is used up afterwards
    have used : ∀ {op other : Op}, action = .spawn op → Action.spawn other ∈ actions →
        call ∈ op.call? → call ∉ other.call? := by
      rintro op other rfl member named named'
      have grown := threads_le_of_numbered later member named'
      have number := first call named
      simp only [Pool.step, List.length_append, List.length_singleton] at grown
      omega
    rcases List.mem_cons.mp started with same | member
    · rcases List.mem_cons.mp started' with same' | member'
      · exact Action.spawn.inj (same.trans same'.symm)
      · exact absurd named' (used same.symm member' named)
    · rcases List.mem_cons.mp started' with same' | member'
      · exact absurd named (used same'.symm member named')
      · exact ih later member member'

/-- What may run under a number: its own call, and the promised call only with a hold. -/
def Starts (c : Nat) (i : Nat) (op : Op) : Prop :=
  (∀ call ∈ op.call?, call = i) ∧
    ∀ api ctxId valid requestOpt, op = .request c api ctxId valid requestOpt →
      api.answeredLocally = false

theorem program_secured {c i : Nat} {op : Op} (starts : Starts c i op) :
    Prog.Secured (callDiscipline c) i (callDiscipline c).inv op.program (fun _ _ => True) := by
  refine @Prog.Secured.weaken _ _ _ _ _ (fun _ => True) _ (callDiscipline c).inv
    (fun _ _ => True) op.program ?_ (fun _ _ => trivial) (fun _ _ h => h)
  by_cases aside : op.aside
  · exact aside_free (aside_program aside)
  cases op with
  | matching2Terminate => exact terminate_secured.bind (fun _ => free_pure)
  | contextStart call ctxId =>
    obtain rfl : call = i := starts.1 call rfl
    exact contextStart_secured.bind (fun _ => free_pure)
  | contextStop call ctxId =>
    obtain rfl : call = i := starts.1 call rfl
    exact contextStop_secured.bind (fun _ => free_pure)
  | request call api ctxId valid requestOpt =>
    obtain rfl : call = i := starts.1 call rfl
    have secured : Prog.Secured (callDiscipline c) call (fun _ => True)
        (api.program call ctxId valid requestOpt) (fun _ _ => True) := ?_
    · exact secured.bind (fun _ => free_pure)
    rcases RequestApi.program_cases api with ⟨event, data, answered, shape⟩ | ⟨rfl, shape⟩ |
      ⟨event, aVariant, -, -, -, shape⟩
    · have other : call ≠ c := by
        rintro rfl
        have held := starts.2 api ctxId valid requestOpt rfl
        rw [answered] at held
        cases held
      rw [shape]
      exact localRequest_secured other
    · rw [shape]
      exact sendRoomMessage_secured
    · rw [shape]
      exact remoteRequest_secured
  | reply pktId errorCode body input => exact reply_secured
  | roomEvent n input => exact roomEvent_secured
  | roomMessage ctxId roomId srcMemberId => exact roomMessage_secured
  | takeReady => exact takeReady_secured
  | fireEvent => exact fireEvent_secured
  | clearMmShadNetClient => exact clear_secured
  | _ => simp [Op.aside, Op.beside] at aside

theorem heldBack_start (c : Nat) : HeldBack c ({} : Matching2State).queues := by
  constructor <;> simp [queues]

theorem callback_follows_held {api : RequestApi} (remote : api.answeredLocally = false) :
    CallbackFollowsCall api := by
  intro actions numbered call ctxId valid requestOpt started ev fired named
  have obeys : Runs.Admitted (Pool.step Op.program)
      (Pool.Obeys (callDiscipline call) (Starts call)) actions ⟨{}, []⟩ := by
    refine numbered.mono ?_
    intro action member pool number
    refine ⟨fun _ _ => trivial, ?_⟩
    rintro op rfl
    refine ⟨number, ?_⟩
    rintro api' ctxId' valid' requestOpt' rfl
    have same : Op.request call api ctxId valid requestOpt =
        .request call api' ctxId' valid' requestOpt' :=
      op_eq_of_call numbered started member rfl rfl
    cases same
    exact remote
  have start : Pool.Disciplined (callDiscipline call) ⟨({} : Matching2State), []⟩ :=
    Pool.disciplined_empty (heldBack_start call)
  have disciplined := start.run (fun i op starts => program_secured starts) obeys
  exact disciplined.inv.fired ev fired named

/-- The dispatcher runs the callback of thread 2 between its last two sections. -/
def earlyCallback (api : RequestApi) : List (Action Op) :=
  Action.serial 8 [.matching2Initialize true true, .createContext true ali.handle] ++
    .spawn (.request 2 api 1 true none) :: List.replicate 7 (.take 2) ++
    [.spawn .takeReady, .take 3, .spawn .fireEvent, .take 4]

theorem numbered_earlyCallback {api : RequestApi} (answered : api.answeredLocally) :
    NumberedRun (earlyCallback api) := by
  cases api with
  | getRoomDataInternal roomId => exact of_decide_eq_true (by cbv)
  | getRoomMemberDataInternal roomId memberId => exact of_decide_eq_true (by cbv)
  | signalingGetPingInfo => exact of_decide_eq_true (by cbv)
  | _ => simp [RequestApi.answeredLocally] at answered

theorem earlyCallback_fires {api : RequestApi} (answered : api.answeredLocally) :
    (runPool (earlyCallback api)).state.fired.map (·.body.requestCall) = [some 2] := by
  cases api with
  | getRoomDataInternal roomId => cbv
  | getRoomMemberDataInternal roomId memberId => cbv
  | signalingGetPingInfo => cbv
  | _ => simp [RequestApi.answeredLocally] at answered

theorem earlyCallback_under_way {api : RequestApi} (answered : api.answeredLocally) :
    (runPool (earlyCallback api)).state.returned = [] := by
  cases api with
  | getRoomDataInternal roomId => cbv
  | getRoomMemberDataInternal roomId memberId => cbv
  | signalingGetPingInfo => cbv
  | _ => simp [RequestApi.answeredLocally] at answered

theorem callback_precedes_local {api : RequestApi} (answered : api.answeredLocally) :
    ¬ CallbackFollowsCall api := by
  intro follows
  have ran : some 2 ∈ (runPool (earlyCallback api)).state.fired.map (·.body.requestCall) := by
    simp [earlyCallback_fires answered]
  obtain ⟨ev, member, named⟩ := List.mem_map.mp ran
  have started : Action.spawn (.request 2 api 1 true none) ∈ earlyCallback api := by
    simp [earlyCallback]
  have early := follows (earlyCallback api) (numbered_earlyCallback answered) 2 1 true none
    started ev member named
  simp [earlyCallback_under_way answered] at early

/-- Exactly the calls that take a `DispatchHold` have their callbacks follow them. -/
theorem callbackFollowsCall_iff (api : RequestApi) :
    CallbackFollowsCall api ↔ api.answeredLocally = false := by
  constructor
  · intro follows
    cases answered : api.answeredLocally with
    | false => rfl
    | true => exact absurd follows (callback_precedes_local answered)
  · exact callback_follows_held

/-- The ping information reaches its callback while the call is still under way. -/
theorem pingInfo_callback_precedes_return : ¬ ∀ api, CallbackFollowsCall api := by
  intro follows
  exact callback_precedes_local (rfl : RequestApi.signalingGetPingInfo.answeredLocally = true)
    (follows .signalingGetPingInfo)

end NpMatching2
