import ShadNet.Matching2.Api

/-!
# Failed submissions

A request call that returns success should have been submitted, and one that
could not be submitted should return an error and change nothing. The request
calls other than `sceNpMatching2SendRoomMessage`, and the start of a context, do
not look at what the submission returned.
-/

namespace NpMatching2

open LockProgram NpSignaling Matching2State

/-- There is a client and it is authenticated: the test of `MmSubmitRequest`. -/
def connected (s : Matching2State) : Bool :=
  match s.mmClient with
  | some clientId => isAuthenticated clientId s
  | none => false

/-- The request has an entry in the pending map, under the number of the packet that was given to
the client for it. -/
def Registered (ctxId : Nat) (reqId : UInt32) (s s' : Matching2State) : Prop :=
  ∃ clientId client pr, s.mmClient = some clientId ∧ s.client? clientId = some client ∧
    s'.client? clientId = some { client with pktCounter := client.pktCounter + 1 } ∧
    s'.pending? client.pktCounter = some pr ∧ pr.ctxId = ctxId ∧ pr.reqId = reqId

def PendingEvent.Completes (ev : PendingEvent) (ctxId : Nat) (reqId : UInt32) : Prop :=
  ev.ctxId = ctxId ∧ ∃ event errorCode request hasData call,
    ev.body = .requestCb reqId event errorCode request hasData call

/-- The completion event of the request has been queued. -/
def Completed (ctxId : Nat) (reqId : UInt32) (s s' : Matching2State) : Prop :=
  ∃ ev : PendingEvent, s'.pendingEvents = s.pendingEvents ++ [ev] ∧ ev.Completes ctxId reqId

def Taken (ctxId : Nat) (reqId : UInt32) (s s' : Matching2State) : Prop :=
  Registered ctxId reqId s s' ∨ Completed ctxId reqId s s'

/-! ## What a submission does -/

theorem mmSubmitRequest_refused {call ctxId : Nat} {reqId : UInt32} {reqEvent : Matching2Event}
    {aVariant : Bool} {s : Matching2State} (refused : connected s = false) :
    (mmSubmitRequest call ctxId reqId reqEvent aVariant).exec s =
      (.error .invalidContextId, s) := by
  simp only [connected] at refused
  cases client : s.mmClient with
  | none => simp [mmSubmitRequest, client]
  | some clientId =>
    have unauthenticated : isAuthenticated clientId s = false := by simpa [client] using refused
    simp [mmSubmitRequest, client, unauthenticated]

theorem connected_client {s : Matching2State} (ok : connected s) :
    ∃ clientId client, s.mmClient = some clientId ∧ s.client? clientId = some client ∧
      isAuthenticated clientId s = true := by
  simp only [connected] at ok
  cases found : s.mmClient with
  | none => simp [found] at ok
  | some clientId =>
    simp only [found] at ok
    cases client : s.client? clientId with
    | none => simp [isAuthenticated, client] at ok
    | some client' => exact ⟨clientId, client', rfl, client, ok⟩

theorem clientSubmitRequest_some {clientId : Nat} {client : ShadNetClient} {s : Matching2State}
    (found : s.client? clientId = some client) :
    clientSubmitRequest clientId s = (client.pktCounter, { s with
      clients := KeyedTable.adjust ShadNetClient.clientId clientId
        (fun client => { client with pktCounter := client.pktCounter + 1 }) s.clients }) := by
  simp only [clientSubmitRequest, found]

theorem consumeRequestCallback_state (object : Nat) (s : Matching2State) :
    ∃ contexts, (consumeRequestCallback object s).2 = { s with contexts } := by
  simp only [consumeRequestCallback]
  split
  · exact ⟨s.contexts, rfl⟩
  · split
    · exact ⟨_, rfl⟩
    · exact ⟨s.contexts, rfl⟩

/-- What a submission looks at and what it leaves behind. -/
theorem Taken.congr {ctxId : Nat} {reqId : UInt32} {s s' t t' : Matching2State}
    (taken : Taken ctxId reqId s s') (mmClient : t.mmClient = s.mmClient)
    (clients : t.clients = s.clients) (events : t.pendingEvents = s.pendingEvents)
    (clients' : t'.clients = s'.clients) (pending' : t'.pending = s'.pending)
    (events' : t'.pendingEvents = s'.pendingEvents) : Taken ctxId reqId t t' := by
  simp only [Taken, Registered, Completed, client?, pending?] at taken ⊢
  rw [mmClient, clients, events, clients', pending', events']
  exact taken

theorem submitOrComplete_taken {call clientId ctxId : Nat} {reqId : UInt32}
    {reqEvent : Matching2Event} {aVariant : Bool} {s : Matching2State} {ctx : ContextObject}
    {request : RequestCallbackInfo} {enabled : Bool} {client : ShadNetClient}
    (current : s.mmClient = some clientId) (found : s.client? clientId = some client) :
    ((submitOrComplete call clientId ctxId reqId reqEvent aVariant ctx request enabled).exec s).1 =
        .ok () ∧
      Taken ctxId reqId s ((submitOrComplete call clientId ctxId reqId reqEvent aVariant ctx
        request enabled).exec s).2 := by
  rw [submitOrComplete]
  split
  · simp only [Prog.exec_bind, Prog.exec_update, Prog.exec_pure]
    exact ⟨trivial, Or.inr ⟨_, rfl, rfl, reqEvent, _, _, _, call, rfl⟩⟩
  · simp only [Prog.exec_bind, Prog.exec_locked, Prog.exec_update, Prog.exec_pure,
      clientSubmitRequest_some found]
    have entered := pending?_registerPending
      { pktId := client.pktCounter, ctxId, reqId, reqEvent, aVariant, request, call
        issuer := ctx.object }
    refine ⟨trivial, Or.inl ⟨clientId, client, _, current, found, ?_, entered _, rfl, rfl⟩⟩
    have keeps : ∀ client : ShadNetClient,
        ({ client with pktCounter := client.pktCounter + 1 } : ShadNetClient).clientId =
          client.clientId := fun _ => rfl
    have named : client.clientId = clientId := (KeyedTable.lookup_some found).2
    have adjusted := KeyedTable.lookup_adjust (k := clientId) keeps s.clients (j := clientId)
    simp only [registerPending, client?] at found ⊢
    rw [adjusted, found, Option.map_some, if_pos named]

theorem mmSubmitRequest_taken {call ctxId : Nat} {reqId : UInt32} {reqEvent : Matching2Event}
    {aVariant : Bool} {s : Matching2State} {ctx : ContextObject} (ok : connected s)
    (live : s.context? ctxId = some ctx) :
    ((mmSubmitRequest call ctxId reqId reqEvent aVariant).exec s).1 = .ok () ∧
      Taken ctxId reqId s ((mmSubmitRequest call ctxId reqId reqEvent aVariant).exec s).2 := by
  obtain ⟨clientId, client, current, found, authenticated⟩ := connected_client ok
  obtain ⟨contexts, consumed⟩ := consumeRequestCallback_state ctx.object s
  have found' : ({ s with contexts } : Matching2State).client? clientId = some client := found
  have current' : ({ s with contexts } : Matching2State).mmClient = some clientId := current
  simp only [mmSubmitRequest, Prog.exec_bind, Prog.exec_locked, current, authenticated, live,
    if_true, consumed]
  rw [← current]
  obtain ⟨result, taken⟩ := @submitOrComplete_taken call clientId ctxId reqId reqEvent aVariant _
    ctx (consumeRequestCallback ctx.object s).1 s.matching2Enabled client current' found'
  exact ⟨result, taken.congr rfl rfl rfl rfl rfl rfl⟩

/-- The options only go to the callback slot of their object. -/
theorem storeRequestCallback_contexts {s : Matching2State} {object : Nat}
    {requestOpt : Option RequestOptParam} :
    (storeRequestCallback object requestOpt s).contexts = s.contexts ↔
      ∀ ctx ∈ s.contexts, ctx.object = object → ctx.perRequest = requestedCallback requestOpt := by
  simp only [storeRequestCallback, adjustObject, KeyedTable.adjust]
  constructor
  · intro same ctx member named
    have fixed := List.map_inj_left.mp (same.trans (List.map_id _).symm) ctx member
    rw [if_pos named] at fixed
    exact congrArg ContextObject.perRequest fixed.symm
  · intro stored
    have fixed : ∀ ctx ∈ s.contexts, (if ctx.object = object then
        { ctx with perRequest := requestedCallback requestOpt } else ctx) = id ctx := by
      intro ctx member
      split
      · rename_i named
        rw [← stored ctx member named]
        rfl
      · rfl
    rw [List.map_congr_left fixed, List.map_id]

/-! ## The law -/

inductive SubmittingCall where
  | request (api : RequestApi) (valid : Bool) (requestOpt : Option RequestOptParam)
  | contextStart
  deriving DecidableEq, Repr

def SubmittingCall.program : SubmittingCall → Nat → Nat → Matching2 (Except ApiError UInt32)
  | .request api valid requestOpt => fun call ctxId => api.program call ctxId valid requestOpt
  | .contextStart => fun call ctxId => do
    let result ← sceNpMatching2ContextStart call ctxId
    pure (result.map (fun _ => 0))

/-- A call that returns success has its request taken; one whose request is not taken returns an
error and leaves the contexts, their caches and the pending map alone. -/
structure SubmissionLaw (ctxId : Nat) (s : Matching2State)
    (outcome : Except ApiError UInt32 × Matching2State) : Prop where
  success : ∀ reqId, outcome.1 = .ok reqId → Taken ctxId reqId s outcome.2
  failure : (¬ ∃ reqId, Taken ctxId reqId s outcome.2) → (∃ error, outcome.1 = .error error) ∧
    outcome.2.contexts = s.contexts ∧ outcome.2.np.caches = s.np.caches ∧
    outcome.2.pending = s.pending

/-- The call is refused by its own checks, or there is a connection to submit to, or the call needs
none; `sceNpMatching2SendRoomMessage` also gets by where its options are already stored. -/
def SubmissionMet (ctxId : Nat) (s : Matching2State) : SubmittingCall → Prop
  | .request api valid requestOpt =>
    s.initialized = false ∨ valid = false ∨ s.context? ctxId = none ∨ connected s ∨
      api.answeredLocally ∨
      (api = .sendRoomMessage ∧ ∀ ctx ∈ s.contexts,
        (s.context? ctxId).map (·.object) = some ctx.object →
          ctx.perRequest = requestedCallback requestOpt)
  | .contextStart =>
    s.initialized = false ∨ s.active = false ∨
      (∀ ctx, s.context? ctxId = some ctx → ctx.started) ∨ connected s

theorem submissionLaw_error {ctxId : Nat} {s : Matching2State} {error : ApiError} :
    SubmissionLaw ctxId s (.error error, s) := by
  constructor
  · simp
  · exact fun _ => ⟨⟨error, rfl⟩, rfl, rfl, rfl⟩

theorem submissionLaw_taken {ctxId : Nat} {s s' : Matching2State} {reqId : UInt32}
    (taken : Taken ctxId reqId s s') : SubmissionLaw ctxId s (.ok reqId, s') := by
  constructor
  · intro other same
    cases same
    exact taken
  · intro untaken
    exact absurd ⟨reqId, taken⟩ untaken

/-- Nothing was given to the client and nothing was queued. -/
theorem not_taken {ctxId : Nat} {s s' : Matching2State} (clients : s'.clients = s.clients)
    (events : s'.pendingEvents = s.pendingEvents) : ¬ ∃ reqId, Taken ctxId reqId s s' := by
  rintro ⟨reqId, ⟨clientId, client, -, -, found, moved, -⟩ | ⟨ev, queued, -⟩⟩
  · simp only [client?] at found moved
    rw [clients, found] at moved
    have counter := congrArg ShadNetClient.pktCounter (Option.some.inj moved)
    simp at counter
  · rw [events] at queued
    simp at queued

theorem not_submissionLaw {ctxId : Nat} {s s' : Matching2State} {reqId : UInt32}
    (clients : s'.clients = s.clients) (events : s'.pendingEvents = s.pendingEvents) :
    ¬ SubmissionLaw ctxId s (.ok reqId, s') := by
  intro law
  exact not_taken clients events ⟨reqId, law.success reqId rfl⟩

/-! ## The calls -/

theorem requestContext_exec {valid : Bool} {ctxId : Nat} {s : Matching2State}
    {ctx : ContextObject} (initialized : s.initialized = true) (ok : valid = true)
    (live : s.context? ctxId = some ctx) :
    (requestContext valid ctxId).exec s = (.ok ctx, s) := by
  simp [requestContext, initialized, ok, live]

theorem requestContext_exec_refused {valid : Bool} {ctxId : Nat} {s : Matching2State}
    (refused : s.initialized = false ∨ valid = false ∨ s.context? ctxId = none) :
    ∃ error, (requestContext valid ctxId).exec s = (.error error, s) := by
  cases initialized : s.initialized with
  | false => exact ⟨.notInitialized, by simp [requestContext, initialized]⟩
  | true =>
    cases valid with
    | false => exact ⟨.invalidArgument, by simp [requestContext, initialized]⟩
    | true =>
      have absent : s.context? ctxId = none := by simpa [initialized] using refused
      exact ⟨.invalidContextId, by simp [requestContext, initialized, absent]⟩

/-- The state in which a request call submits. -/
def begun (call object : Nat) (requestOpt : Option RequestOptParam) (s : Matching2State) :
    Matching2State :=
  dispatchHold call (allocRequestId (storeRequestCallback object requestOpt s)).2

theorem context?_begun {call object ctxId : Nat} {requestOpt : Option RequestOptParam}
    {s : Matching2State} {ctx : ContextObject} (live : s.context? ctxId = some ctx) :
    ∃ ctx', (begun call object requestOpt s).context? ctxId = some ctx' := by
  have found := @isSome_context?_adjustObject s object
    (fun ctx => { ctx with perRequest := requestedCallback requestOpt })
    (fun _ => rfl) (fun _ => rfl) ctxId
  rw [live] at found
  exact Option.isSome_iff_exists.mp found

theorem remoteRequest_exec {event : Bool → Matching2Event} {aVariant : Bool → Bool}
    {call ctxId : Nat} {valid : Bool} {requestOpt : Option RequestOptParam} {s : Matching2State}
    {ctx : ContextObject} (initialized : s.initialized = true) (ok : valid = true)
    (live : s.context? ctxId = some ctx) :
    (remoteRequest event aVariant call ctxId valid requestOpt).exec s =
      (.ok s.nextRequestId, dispatchRelease call
        ((mmSubmitRequest call ctxId s.nextRequestId (event ctx.aVariant)
          (aVariant ctx.aVariant)).exec (begun call ctx.object requestOpt s)).2) := by
  simp only [remoteRequest, Prog.exec_bind, requestContext_exec initialized ok live, beginRequest,
    heldSubmission, Prog.exec_update, Prog.exec_locked, Prog.exec_pure]
  rfl

/-- What is taken between the checks and the return is taken by the call. -/
theorem taken_begun {call object ctxId : Nat} {requestOpt : Option RequestOptParam}
    {reqId : UInt32} {s s' : Matching2State}
    (taken : Taken ctxId reqId (begun call object requestOpt s) s') :
    Taken ctxId reqId s (dispatchRelease call s') :=
  taken.congr rfl rfl rfl rfl rfl rfl

theorem remoteRequest_law {event : Bool → Matching2Event} {aVariant : Bool → Bool}
    {call ctxId : Nat} {valid : Bool} {requestOpt : Option RequestOptParam} {s : Matching2State} :
    SubmissionLaw ctxId s ((remoteRequest event aVariant call ctxId valid requestOpt).exec s) ↔
      s.initialized = false ∨ valid = false ∨ s.context? ctxId = none ∨ connected s := by
  by_cases refused : s.initialized = false ∨ valid = false ∨ s.context? ctxId = none
  · obtain ⟨error, result⟩ := requestContext_exec_refused refused
    have outcome : (remoteRequest event aVariant call ctxId valid requestOpt).exec s =
        (.error error, s) := by
      simp only [remoteRequest, Prog.exec_bind, result, Prog.exec_pure]
    rw [outcome]
    constructor
    · intro _
      rcases refused with h | h | h <;> simp [h]
    · exact fun _ => submissionLaw_error
  · simp only [not_or, Bool.not_eq_false] at refused
    obtain ⟨initialized, ok, present⟩ := refused
    obtain ⟨ctx, live⟩ := Option.ne_none_iff_exists'.mp present
    rw [remoteRequest_exec initialized ok live]
    simp only [initialized, ok, live, reduceCtorEq, false_or]
    constructor
    · intro law
      cases reached : connected s with
      | true => rfl
      | false =>
        have refused : connected (begun call ctx.object requestOpt s) = false := reached
        rw [mmSubmitRequest_refused refused] at law
        exact absurd law (not_submissionLaw rfl rfl)
    · intro reached
      have ok : connected (begun call ctx.object requestOpt s) := reached
      obtain ⟨ctx', live'⟩ := context?_begun live
      exact submissionLaw_taken (taken_begun (mmSubmitRequest_taken ok live').2)

theorem sendRoomMessage_law {call ctxId : Nat} {valid : Bool}
    {requestOpt : Option RequestOptParam} {s : Matching2State} :
    SubmissionLaw ctxId s
        ((sceNpMatching2SendRoomMessage call ctxId valid requestOpt).exec s) ↔
      s.initialized = false ∨ valid = false ∨ s.context? ctxId = none ∨ connected s ∨
        ∀ ctx ∈ s.contexts, (s.context? ctxId).map (·.object) = some ctx.object →
          ctx.perRequest = requestedCallback requestOpt := by
  by_cases refused : s.initialized = false ∨ valid = false ∨ s.context? ctxId = none
  · obtain ⟨error, result⟩ := requestContext_exec_refused refused
    have outcome : (sceNpMatching2SendRoomMessage call ctxId valid requestOpt).exec s =
        (.error error, s) := by
      simp only [sceNpMatching2SendRoomMessage, Prog.exec_bind, result, Prog.exec_pure]
    rw [outcome]
    constructor
    · intro _
      rcases refused with h | h | h <;> simp [h]
    · exact fun _ => submissionLaw_error
  · simp only [not_or, Bool.not_eq_false] at refused
    obtain ⟨initialized, ok, present⟩ := refused
    obtain ⟨ctx, live⟩ := Option.ne_none_iff_exists'.mp present
    have outcome : (sceNpMatching2SendRoomMessage call ctxId valid requestOpt).exec s =
        ((((mmSubmitRequest call ctxId s.nextRequestId .sendRoomMessage false).exec
          (begun call ctx.object requestOpt s)).1).map (fun _ => s.nextRequestId),
        dispatchRelease call ((mmSubmitRequest call ctxId s.nextRequestId .sendRoomMessage
          false).exec (begun call ctx.object requestOpt s)).2) := by
      simp only [sceNpMatching2SendRoomMessage, Prog.exec_bind,
        requestContext_exec initialized ok live, beginRequest, heldSubmission, Prog.exec_update,
        Prog.exec_locked, Prog.exec_pure]
      rfl
    rw [outcome]
    simp only [initialized, ok, live, reduceCtorEq, false_or, Option.map_some, Option.some.injEq]
    have named : (∀ ctx' ∈ s.contexts, ctx.object = ctx'.object →
        ctx'.perRequest = requestedCallback requestOpt) ↔
        (storeRequestCallback ctx.object requestOpt s).contexts = s.contexts := by
      rw [storeRequestCallback_contexts]
      simp only [eq_comm]
    rw [named]
    cases reached : connected s with
    | true =>
      have ok : connected (begun call ctx.object requestOpt s) := reached
      obtain ⟨ctx', live'⟩ := context?_begun live
      obtain ⟨result, taken⟩ := mmSubmitRequest_taken ok live'
      rw [result]
      simp only [true_or, iff_true]
      exact submissionLaw_taken (taken_begun taken)
    | false =>
      have refused : connected (begun call ctx.object requestOpt s) = false := reached
      rw [mmSubmitRequest_refused refused]
      simp only [Bool.false_eq_true, false_or]
      have untaken : ¬ ∃ reqId, Taken ctxId reqId s (dispatchRelease call
          (begun call ctx.object requestOpt s)) := not_taken rfl rfl
      constructor
      · intro law
        exact (law.failure untaken).2.1
      · intro same
        exact ⟨by simp [Except.map], fun _ => ⟨⟨.invalidContextId, rfl⟩, same, rfl, rfl⟩⟩

theorem localRequest_law {event : Matching2Event} {data : Matching2ContextCache → Bool}
    {call ctxId : Nat} {valid : Bool} {requestOpt : Option RequestOptParam} {s : Matching2State} :
    SubmissionLaw ctxId s ((localRequest event data call ctxId valid requestOpt).exec s) := by
  by_cases refused : s.initialized = false ∨ valid = false ∨ s.context? ctxId = none
  · obtain ⟨error, result⟩ := requestContext_exec_refused refused
    have outcome : (localRequest event data call ctxId valid requestOpt).exec s =
        (.error error, s) := by
      simp only [localRequest, Prog.exec_bind, result, Prog.exec_pure]
    rw [outcome]
    exact submissionLaw_error
  · simp only [not_or, Bool.not_eq_false] at refused
    obtain ⟨initialized, ok, present⟩ := refused
    obtain ⟨ctx, live⟩ := Option.ne_none_iff_exists'.mp present
    obtain ⟨contexts, consumed⟩ := consumeRequestCallback_state ctx.object
      (allocRequestId (storeRequestCallback ctx.object requestOpt s)).2
    simp only [localRequest, Prog.exec_bind, requestContext_exec initialized ok live,
      beginRequest, Prog.exec_update, Prog.exec_locked, Prog.exec_pure, consumed]
    have completes : ∀ request hasData, PendingEvent.Completes ⟨ctxId, ctx.object,
        .requestCb s.nextRequestId event 0 request hasData call⟩ ctxId s.nextRequestId :=
      fun request hasData => ⟨rfl, event, 0, request, hasData, call, rfl⟩
    exact submissionLaw_taken (Or.inr ⟨_, rfl, completes _ _⟩)

/-- The checks of the start pass, and the context is not started yet. -/
theorem contextStart_exec {call ctxId : Nat} {s : Matching2State} {ctx : ContextObject}
    (initialized : s.initialized = true) (active : s.active = true)
    (live : s.context? ctxId = some ctx) (stopped : ctx.started = false) :
    (sceNpMatching2ContextStart call ctxId).exec s =
      (.ok (), dispatchRelease call ((mmSubmitRequest call ctxId 0 .contextStarted false).exec
        (dispatchHold call (contextManagerStart ctxId s).2)).2) := by
  have result : (contextManagerStart ctxId s).1 = .ok () := by
    simp [contextManagerStart, live, stopped]
  simp [sceNpMatching2ContextStart, initialized, active, result, mmContextStart]

theorem contextStart_exec_refused {call ctxId : Nat} {s : Matching2State}
    (refused : s.initialized = false ∨ s.active = false ∨
      ∀ ctx, s.context? ctxId = some ctx → ctx.started) :
    ∃ error, (sceNpMatching2ContextStart call ctxId).exec s = (.error error, s) := by
  cases initialized : s.initialized with
  | false => exact ⟨.notInitialized, by simp [sceNpMatching2ContextStart, initialized]⟩
  | true =>
    cases active : s.active with
    | false => exact ⟨.resolverTimedOut, by simp [sceNpMatching2ContextStart, initialized, active]⟩
    | true =>
      cases live : s.context? ctxId with
      | none =>
        have start : contextManagerStart ctxId s = (.error .invalidContextId, s) := by
          simp [contextManagerStart, live]
        exact ⟨_, by simp [sceNpMatching2ContextStart, initialized, active, start]; rfl⟩
      | some ctx =>
        have started : ctx.started := by simpa [initialized, active, live] using refused
        have start : contextManagerStart ctxId s = (.error .contextAlreadyStarted, s) := by
          simp [contextManagerStart, live, started]
        exact ⟨_, by simp [sceNpMatching2ContextStart, initialized, active, start]; rfl⟩

theorem contextStart_law {call ctxId : Nat} {s : Matching2State} :
    SubmissionLaw ctxId s ((SubmittingCall.contextStart.program call ctxId).exec s) ↔
      s.initialized = false ∨ s.active = false ∨
        (∀ ctx, s.context? ctxId = some ctx → ctx.started) ∨ connected s := by
  simp only [SubmittingCall.program, Prog.exec_bind, Prog.exec_pure]
  by_cases refused : s.initialized = false ∨ s.active = false ∨
      ∀ ctx, s.context? ctxId = some ctx → ctx.started
  · obtain ⟨error, outcome⟩ := @contextStart_exec_refused call ctxId s refused
    rw [outcome]
    constructor
    · intro _
      rcases refused with h | h | h
      · exact Or.inl h
      · exact Or.inr (Or.inl h)
      · exact Or.inr (Or.inr (Or.inl h))
    · exact fun _ => submissionLaw_error
  · simp only [not_or, Bool.not_eq_false, not_forall] at refused
    obtain ⟨initialized, active, ctx, live, unstarted⟩ := refused
    have stopped : ctx.started = false := by simpa using unstarted
    rw [contextStart_exec initialized active live stopped]
    simp only [initialized, active, live, Bool.true_eq_false, false_or, Option.some.injEq,
      forall_eq', stopped, Bool.false_eq_true]
    have started : contextManagerStart ctxId s = (.ok (), s.adjustObject ctx.object (fun ctx =>
        { ctx with started := true, stopPending := false, destroyPending := false })) := by
      simp [contextManagerStart, live, stopped]
    have reachable : ∀ h, connected (dispatchHold h (contextManagerStart ctxId s).2) =
        connected s := by
      intro h
      rw [started]
      rfl
    cases reached : connected s with
    | false =>
      rw [mmSubmitRequest_refused ((reachable call).trans reached), started]
      simp only [Bool.false_eq_true, iff_false]
      exact not_submissionLaw rfl rfl
    | true =>
      have found := @isSome_context?_adjustObject s ctx.object (fun ctx =>
        { ctx with started := true, stopPending := false, destroyPending := false })
        (fun _ => rfl) (fun _ => rfl) ctxId
      rw [live] at found
      obtain ⟨ctx', live'⟩ := Option.isSome_iff_exists.mp found
      have held : (dispatchHold call (contextManagerStart ctxId s).2).context? ctxId =
          some ctx' := by
        rw [started]
        exact live'
      obtain ⟨-, taken⟩ := @mmSubmitRequest_taken call ctxId 0 .contextStarted false _ _
        ((reachable call).trans reached) held
      simp only [iff_true]
      refine submissionLaw_taken (taken.congr ?_ ?_ ?_ rfl rfl rfl) <;> rw [started] <;> rfl

/-- For every request call, and for the start of a context, in every state. -/
theorem submissionLaw_iff (c : SubmittingCall) (call ctxId : Nat) (s : Matching2State) :
    SubmissionLaw ctxId s ((c.program call ctxId).exec s) ↔ SubmissionMet ctxId s c := by
  cases c with
  | contextStart => exact contextStart_law
  | request api valid requestOpt =>
    simp only [SubmittingCall.program, SubmissionMet]
    rcases RequestApi.program_cases api with ⟨event, data, answered, shape⟩ | ⟨rfl, shape⟩ |
      ⟨event, aVariant, remote, other, -, shape⟩
    · rw [shape, answered]
      simp [localRequest_law]
    · rw [shape, sendRoomMessage_law]
      simp [RequestApi.answeredLocally]
    · rw [shape, remoteRequest_law, remote]
      simp [other]

/-- A context is made while no user is signed in. -/
def offlineState : Matching2State :=
  runOps [.matching2Initialize true true, .createContext true ali.handle] {}

/-- The call returns success with a request id, and nothing was submitted. -/
theorem offline_createJoinRoom_breaks_law :
    ¬ SubmissionLaw 1 offlineState
      ((SubmittingCall.request .createJoinRoom true none).program 0 1 |>.exec offlineState) := by
  simp only [SubmittingCall.program, RequestApi.program, sceNpMatching2CreateJoinRoom,
    remoteRequest_law]
  decide

end NpMatching2
