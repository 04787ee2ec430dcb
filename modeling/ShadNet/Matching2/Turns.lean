import ShadNet.Matching2.Registry
import ShadNet.Matching2.Submission

/-!
# What a complete operation does

Seen from the registry of the contexts and from the requests and events on their
way, each operation of the library is one of a few moves. The results about whole
runs are proved over these.
-/

namespace NpMatching2

open LockProgram NpSignaling Matching2State

/-- The requests and the events, without the calls that hold the dispatcher. -/
structure Traffic where
  pending : List PendingRequest
  pendingEvents : List PendingEvent
  ready : List PendingEvent
  scheduled : List PendingEvent

def Matching2State.traffic (s : Matching2State) : Traffic :=
  { pending := s.pending
    pendingEvents := s.pendingEvents
    ready := s.ready
    scheduled := s.scheduled }

namespace Traffic

def queue (ev : PendingEvent) (t : Traffic) : Traffic :=
  { t with pendingEvents := t.pendingEvents ++ [ev], scheduled := t.scheduled ++ [ev] }

def register (pr : PendingRequest) (t : Traffic) : Traffic :=
  { t with pending := KeyedTable.store PendingRequest.pktId pr t.pending }

def take (pktId : Nat) (t : Traffic) : Traffic :=
  { t with pending := KeyedTable.remove PendingRequest.pktId pktId t.pending }

end Traffic

theorem traffic_of_queues {s t : Matching2State} (same : t.queues = s.queues) :
    t.traffic = s.traffic := by
  have pending := congrArg Queues.pending same
  have pendingEvents := congrArg Queues.pendingEvents same
  have ready := congrArg Queues.ready same
  have scheduled := congrArg Queues.scheduled same
  simp only [queues] at pending pendingEvents ready scheduled
  simp only [traffic, pending, pendingEvents, ready, scheduled]

/-- Neither the traffic nor the registry has changed. -/
def Unmoved (s s' : Matching2State) : Prop :=
  s'.traffic = s.traffic ∧ s'.registry = s.registry

theorem unmoved_beside {α : Type} {p : Matching2 α} (uses : p.Uses Beside) (s : Matching2State) :
    Unmoved s (p.exec s).2 := by
  obtain ⟨queues, registry⟩ := exec_beside uses s
  exact ⟨traffic_of_queues queues, registry⟩

/-- The number the next packet takes. -/
def nextPacket (s : Matching2State) : Nat :=
  match s.mmClient.bind (fun clientId => s.client? clientId) with
  | some client => client.pktCounter
  | none => 0

/-- A submission that went through: the completion of a disabled backend, or an entry in the
pending map. -/
inductive Accepted (s : Matching2State) (ctxId object : Nat) (reqEvent : Matching2Event) :
    Traffic → Prop where
  | answered (ev : PendingEvent) (owner : ev.owner = object)
      (request : ev.body.requestCall ≠ none) (disabled : s.matching2Enabled = false)
      (other : isContextLifecycleEvent reqEvent = false) :
      Accepted s ctxId object reqEvent (s.traffic.queue ev)
  | registered (pr : PendingRequest) (pktId : pr.pktId = nextPacket s) (ctx : pr.ctxId = ctxId)
      (issuer : pr.issuer = object) (event : pr.reqEvent = reqEvent)
      (enabled : s.matching2Enabled ∨ isContextLifecycleEvent reqEvent) :
      Accepted s ctxId object reqEvent (s.traffic.register pr)

theorem Accepted.congr {s t : Matching2State} {ctxId object : Nat} {reqEvent : Matching2Event}
    {after : Traffic} (accepted : Accepted t ctxId object reqEvent after)
    (traffic : t.traffic = s.traffic) (packet : nextPacket t = nextPacket s)
    (enabled : t.matching2Enabled = s.matching2Enabled) :
    Accepted s ctxId object reqEvent after := by
  cases accepted with
  | answered ev owner request disabled other =>
    rw [traffic]
    exact .answered ev owner request (enabled ▸ disabled) other
  | registered pr pktId ctx issuer event through =>
    rw [traffic]
    exact .registered pr (pktId.trans packet) ctx issuer event (enabled ▸ through)

section Submission

variable {call ctxId : Nat} {reqId : UInt32} {reqEvent : Matching2Event} {aVariant : Bool}
  {s : Matching2State}

theorem nextPacket_client {clientId : Nat} {client : ShadNetClient}
    (current : s.mmClient = some clientId) (found : s.client? clientId = some client) :
    nextPacket s = client.pktCounter := by
  simp [nextPacket, current, found]

theorem submitOrComplete_turn {clientId : Nat} {client : ShadNetClient} {ctx : ContextObject}
    {request : RequestCallbackInfo} (current : s.mmClient = some clientId)
    (found : s.client? clientId = some client) :
    let r := (submitOrComplete call clientId ctxId reqId reqEvent aVariant ctx request
      s.matching2Enabled).exec s
    r.1 = .ok () ∧ r.2.registry = s.registry ∧
      Accepted s ctxId ctx.object reqEvent r.2.traffic := by
  dsimp only
  rw [submitOrComplete]
  split
  · rename_i disabled
    simp only [Prog.exec_bind, Prog.exec_update, Prog.exec_pure]
    have answered := @Accepted.answered s ctxId ctx.object reqEvent
      (disabledEvent call ctx ctxId reqId reqEvent request) rfl (Option.some_ne_none call)
      disabled.1 disabled.2
    exact ⟨trivial, rfl, answered⟩
  · rename_i through
    simp only [Prog.exec_bind, Prog.exec_locked, Prog.exec_update, Prog.exec_pure,
      clientSubmitRequest_some found]
    have enabled : s.matching2Enabled ∨ isContextLifecycleEvent reqEvent := by
      cases h : s.matching2Enabled <;> simp_all
    have registered := @Accepted.registered s ctxId ctx.object reqEvent
      { pktId := client.pktCounter, ctxId, reqId, reqEvent, aVariant, request, call
        issuer := ctx.object } (nextPacket_client current found).symm rfl rfl rfl enabled
    exact ⟨trivial, rfl, registered⟩

/-- Submission fails exactly where the connection or the context is missing, and then it has done
nothing. -/
theorem mmSubmitRequest_turn :
    let r := (mmSubmitRequest call ctxId reqId reqEvent aVariant).exec s
    ((connected s = false ∨ s.registry.slot ctxId = none) ∧
        r = (.error .invalidContextId, s)) ∨
      (connected s ∧ ∃ a, s.registry.slot ctxId = some a ∧ r.1 = .ok () ∧
        r.2.registry = s.registry ∧ Accepted s ctxId a.object reqEvent r.2.traffic) := by
  dsimp only
  cases reached : connected s with
  | false => exact Or.inl ⟨Or.inl rfl, mmSubmitRequest_refused reached⟩
  | true =>
    obtain ⟨clientId, client, current, found, authenticated⟩ := connected_client reached
    cases live : s.context? ctxId with
    | none =>
      refine Or.inl ⟨Or.inr ?_, ?_⟩
      · simp [slot_registry, live]
      · simp [mmSubmitRequest, current, authenticated, live]
    | some ctx =>
      refine Or.inr ⟨rfl, ctx.lifecycle, by simp [slot_registry, live], ?_⟩
      simp only [mmSubmitRequest, Prog.exec_bind, Prog.exec_locked, current, authenticated, live,
        if_true]
      let s₁ := (consumeRequestCallback ctx.object s).2
      obtain ⟨contexts, consumed⟩ := consumeRequestCallback_state ctx.object s
      have current₁ : s₁.mmClient = some clientId := by rw [← current]; simp only [s₁, consumed]
      have found₁ : s₁.client? clientId = some client := by
        rw [← found]
        simp only [s₁, consumed]
        rfl
      have turn := @submitOrComplete_turn call ctxId reqId reqEvent aVariant s₁ clientId client
        ctx (consumeRequestCallback ctx.object s).1 current₁ found₁
      obtain ⟨result, registry, accepted⟩ := turn
      have registry₁ : s₁.registry = s.registry := registry_consumeRequestCallback ctx.object s
      have traffic₁ : s₁.traffic = s.traffic := by simp only [s₁, consumed]; rfl
      have packet₁ : nextPacket s₁ = nextPacket s := by simp only [s₁, consumed]; rfl
      have enabled₁ : s₁.matching2Enabled = s.matching2Enabled := by simp only [s₁, consumed]
      exact ⟨result, registry.trans registry₁, accepted.congr traffic₁ packet₁ enabled₁⟩

end Submission

/-! ## Requests -/

/-- A request call that passed its checks submits. -/
theorem begun_turn {call ctxId object : Nat} {reqId : UInt32} {event : Matching2Event}
    {aVariant : Bool} {requestOpt : Option RequestOptParam} {s : Matching2State} :
    let s' := dispatchRelease call ((mmSubmitRequest call ctxId reqId event aVariant).exec
      (begun call object requestOpt s)).2
    s'.registry = s.registry ∧
      (((connected s = false ∨ s.registry.slot ctxId = none) ∧ s'.traffic = s.traffic) ∨
        connected s ∧ ∃ a, s.registry.slot ctxId = some a ∧
          Accepted s ctxId a.object event s'.traffic) := by
  dsimp only
  have registry : (begun call object requestOpt s).registry = s.registry :=
    registry_storeRequestCallback object requestOpt s
  rcases @mmSubmitRequest_turn call ctxId reqId event aVariant (begun call object requestOpt s)
    with ⟨missing, same⟩ | ⟨reached, a, slot, -, kept, accepted⟩
  · rw [registry] at missing
    rw [same]
    exact ⟨registry, Or.inl ⟨missing, rfl⟩⟩
  · rw [registry] at slot kept
    exact ⟨kept, Or.inr ⟨reached, a, slot, accepted.congr rfl rfl rfl⟩⟩

/-- The checks of a request call pass, and then it submits to the server. -/
structure SubmitsRequest (api : RequestApi) (ctxId : Nat) (valid : Bool) (s : Matching2State) :
    Prop where
  initialized : s.initialized
  valid : valid
  remote : api.answeredLocally = false
  connected : connected s
  context : s.registry.slot ctxId ≠ none

/-- A request call that does not submit queues the answer from the cache, if it does anything. -/
def AnswersOnly (ctxId : Nat) (s s' : Matching2State) : Prop :=
  s'.traffic = s.traffic ∨ ∃ a ev, s.registry.slot ctxId = some a ∧ ev.owner = a.object ∧
    ev.body.requestCall ≠ none ∧ s'.traffic = s.traffic.queue ev

def SubmitsOn (ctxId : Nat) (s s' : Matching2State) : Prop :=
  ∃ a event, s.registry.slot ctxId = some a ∧ isContextLifecycleEvent event = false ∧
    Accepted s ctxId a.object event s'.traffic

/-- What `begun_turn` says of a remote call. -/
theorem submits_or_answers {api : RequestApi} {ctxId : Nat} {valid : Bool}
    {event : Matching2Event} {s s' : Matching2State} (initialized : s.initialized)
    (ok : valid) (remote : api.answeredLocally = false) {a : Lifecycle}
    (slot : s.registry.slot ctxId = some a) (other : isContextLifecycleEvent event = false)
    (turn : ((connected s = false ∨ s.registry.slot ctxId = none) ∧ s'.traffic = s.traffic) ∨
      connected s ∧ ∃ a, s.registry.slot ctxId = some a ∧
        Accepted s ctxId a.object event s'.traffic) :
    (SubmitsRequest api ctxId valid s ∧ SubmitsOn ctxId s s') ∨
      (¬SubmitsRequest api ctxId valid s ∧ AnswersOnly ctxId s s') := by
  have present : s.registry.slot ctxId ≠ none := by simp [slot]
  rcases turn with ⟨offline | absent, same⟩ | ⟨reached, b, found, accepted⟩
  · refine Or.inr ⟨?_, Or.inl same⟩
    intro submits
    rw [submits.connected] at offline
    cases offline
  · exact absurd absent present
  · exact Or.inl ⟨⟨initialized, ok, remote, reached, present⟩, b, event, found, other, accepted⟩

theorem request_turn (call : Nat) (api : RequestApi) (ctxId : Nat) (valid : Bool)
    (requestOpt : Option RequestOptParam) (s : Matching2State) :
    let s' := (Op.request call api ctxId valid requestOpt).complete s
    s'.registry = s.registry ∧ ((SubmitsRequest api ctxId valid s ∧ SubmitsOn ctxId s s') ∨
      (¬SubmitsRequest api ctxId valid s ∧ AnswersOnly ctxId s s')) := by
  dsimp only
  simp only [Op.complete, Op.program, Prog.exec_bind, Prog.exec_pure]
  by_cases refused : s.initialized = false ∨ valid = false ∨ s.context? ctxId = none
  · obtain ⟨error, result⟩ := requestContext_exec_refused refused
    have outcome : ((api.program call ctxId valid requestOpt).exec s).2 = s := by
      rcases RequestApi.program_cases api with ⟨event, data, -, shape⟩ | ⟨rfl, shape⟩ |
        ⟨event, aVariant, -, -, -, shape⟩
      · simp only [shape, localRequest, Prog.exec_bind, result, Prog.exec_pure]
      · simp only [shape, sceNpMatching2SendRoomMessage, Prog.exec_bind, result, Prog.exec_pure]
      · simp only [shape, remoteRequest, Prog.exec_bind, result, Prog.exec_pure]
    rw [outcome]
    refine ⟨rfl, Or.inr ⟨?_, Or.inl rfl⟩⟩
    rintro ⟨initialized, ok, -, -, present⟩
    rcases refused with h | h | h
    · simp [h] at initialized
    · simp [h] at ok
    · simp [slot_registry, h] at present
  · simp only [not_or, Bool.not_eq_false] at refused
    obtain ⟨initialized, ok, present⟩ := refused
    obtain ⟨ctx, live⟩ := Option.ne_none_iff_exists'.mp present
    have slot : s.registry.slot ctxId = some ctx.lifecycle := by simp [slot_registry, live]
    rcases RequestApi.program_cases api with ⟨event, data, answered, shape⟩ | ⟨rfl, shape⟩ |
      ⟨event, aVariant, remote, -, other, shape⟩
    · let begun_ := (allocRequestId (storeRequestCallback ctx.object requestOpt s)).2
      obtain ⟨contexts, consumed⟩ := consumeRequestCallback_state ctx.object begun_
      have registry : ({ begun_ with contexts } : Matching2State).registry = s.registry := by
        rw [← consumed, registry_consumeRequestCallback]
        exact registry_storeRequestCallback ctx.object requestOpt s
      simp only [shape, localRequest, Prog.exec_bind, requestContext_exec initialized ok live,
        beginRequest, Prog.exec_update, Prog.exec_locked, Prog.exec_pure]
      rw [show consumeRequestCallback ctx.object (allocRequestId
        (storeRequestCallback ctx.object requestOpt s)).2 =
          ((consumeRequestCallback ctx.object begun_).1, { begun_ with contexts }) from
        Prod.ext rfl consumed]
      refine ⟨registry, Or.inr ⟨?_, Or.inr ⟨ctx.lifecycle, _, slot, rfl, ?_, rfl⟩⟩⟩
      · intro submits
        have remote := submits.remote
        rw [answered] at remote
        cases remote
      · exact Option.some_ne_none call
    · simp only [shape, sceNpMatching2SendRoomMessage, Prog.exec_bind,
        requestContext_exec initialized ok live, beginRequest, heldSubmission, Prog.exec_update,
        Prog.exec_locked, Prog.exec_pure]
      have turn := @begun_turn call ctxId ctx.object s.nextRequestId .sendRoomMessage false
        requestOpt s
      exact ⟨turn.1, submits_or_answers initialized ok rfl slot rfl turn.2⟩
    · rw [shape, remoteRequest_exec initialized ok live]
      have turn := @begun_turn call ctxId ctx.object s.nextRequestId (event ctx.aVariant)
        (aVariant ctx.aVariant) requestOpt s
      exact ⟨turn.1, submits_or_answers initialized ok remote slot (other ctx.aVariant) turn.2⟩

/-! ## Start and stop -/

/-- The checks of a start pass. -/
def Starting (ctxId : Nat) (s : Matching2State) (a : Lifecycle) : Prop :=
  s.initialized ∧ s.active ∧ s.registry.slot ctxId = some a ∧ a.started = false

theorem contextStart_turn (call ctxId : Nat) (s : Matching2State) :
    let s' := (Op.contextStart call ctxId).complete s
    ((∀ a, ¬Starting ctxId s a) ∧ Unmoved s s') ∨
      ∃ a, Starting ctxId s a ∧ s'.registry = s.registry.start ctxId ∧
        ((connected s = false ∧ s'.traffic = s.traffic) ∨
          connected s ∧ Accepted s ctxId a.object .contextStarted s'.traffic) := by
  dsimp only
  simp only [Op.complete, Op.program, Prog.exec_bind, Prog.exec_pure]
  by_cases refused : s.initialized = false ∨ s.active = false ∨
      ∀ ctx, s.context? ctxId = some ctx → ctx.started
  · obtain ⟨error, outcome⟩ := @contextStart_exec_refused call ctxId s refused
    rw [outcome]
    refine Or.inl ⟨?_, rfl, rfl⟩
    rintro a ⟨initialized, active, slot, stopped⟩
    rcases refused with h | h | h
    · simp [h] at initialized
    · simp [h] at active
    · rw [slot_registry] at slot
      obtain ⟨ctx, live, rfl⟩ := Option.map_eq_some_iff.mp slot
      have started : ctx.lifecycle.started = true := h ctx live
      rw [started] at stopped
      cases stopped
  · simp only [not_or, Bool.not_eq_false, not_forall] at refused
    obtain ⟨initialized, active, ctx, live, unstarted⟩ := refused
    have stopped : ctx.started = false := by simpa using unstarted
    have slot : s.registry.slot ctxId = some ctx.lifecycle := by simp [slot_registry, live]
    rw [contextStart_exec initialized active live stopped]
    let s₁ := dispatchHold call (contextManagerStart ctxId s).2
    have started : contextManagerStart ctxId s = (.ok (), s.adjustObject ctx.object (fun ctx =>
        { ctx with started := true, stopPending := false, destroyPending := false })) := by
      simp [contextManagerStart, live, stopped]
    have registry : s₁.registry = s.registry.start ctxId := registry_contextManagerStart ctxId s
    have traffic : s₁.traffic = s.traffic := by simp only [s₁, started]; rfl
    have connected₁ : connected s₁ = connected s := by simp only [s₁, started]; rfl
    have packet : nextPacket s₁ = nextPacket s := by simp only [s₁, started]; rfl
    have enabled : s₁.matching2Enabled = s.matching2Enabled := by simp only [s₁, started]; rfl
    refine Or.inr ⟨ctx.lifecycle, ⟨initialized, active, slot, stopped⟩, ?_⟩
    have marked : s₁.context? ctxId = some { ctx with
        started := true, stopPending := false, destroyPending := false } := by
      simp only [s₁, started]
      have found := @context?_adjustObject s ctx.object (fun ctx =>
        { ctx with started := true, stopPending := false, destroyPending := false })
        (fun _ => rfl) (fun _ => rfl) ctxId
      rw [live, Option.map_some, if_pos rfl] at found
      exact found
    rcases @mmSubmitRequest_turn call ctxId 0 .contextStarted false s₁ with
      ⟨missing, same⟩ | ⟨reached, a, found, -, kept, accepted⟩
    · simp only [s₁] at same
      rw [same]
      refine ⟨registry, Or.inl ⟨?_, traffic⟩⟩
      rcases missing with offline | absent
      · exact connected₁ ▸ offline
      · rw [slot_registry, marked] at absent
        cases absent
    · have named : a.object = ctx.object := by
        rw [slot_registry, marked] at found
        rw [← Option.some.inj found]
        rfl
      refine ⟨kept.trans registry, Or.inr ⟨connected₁ ▸ reached, ?_⟩⟩
      have owned := named ▸ accepted
      exact owned.congr traffic packet enabled

/-- The checks of a stop pass. -/
def Stopping (ctxId : Nat) (s : Matching2State) (a : Lifecycle) : Prop :=
  s.initialized ∧ s.registry.slot ctxId = some a ∧ a.started

/-- A signaling function leaves everything but the signaling part as it was. -/
theorem exec_signaling {α : Type} (p : Signaling α) (s : Matching2State) :
    ∃ np, ((signaling p).exec s).2 = { s with np } := by
  let Zoomed (t : Matching2State) : Prop := ∃ np, t = { s with np }
  have start : Zoomed s := ⟨s.np, rfl⟩
  have zoomed := @Prog.Uses.zoom _ _ _ _ _ _ signalingState withSignaling Section.signaling p
    (Prog.uses_everything p)
  refine zoomed.exec_keeps ?_ start
  rintro label update ⟨inner, body, -, -, rfl⟩ t ⟨np, rfl⟩
  exact ⟨_, rfl⟩

theorem contextStop_turn (call ctxId : Nat) (s : Matching2State) :
    let s' := (Op.contextStop call ctxId).complete s
    ((∀ a, ¬Stopping ctxId s a) ∧ Unmoved s s') ∨
      ∃ a, Stopping ctxId s a ∧
        ((connected s = false ∧ s'.traffic = s.traffic ∧
            s'.registry = (s.registry.stop ctxId).completeStop ctxId a.object) ∨
          (connected s ∧ s'.registry = s.registry.stop ctxId ∧
            Accepted s ctxId a.object .contextStopped s'.traffic)) := by
  dsimp only
  simp only [Op.complete, Op.program, Prog.exec_bind, Prog.exec_pure]
  have refuse : ∀ error, contextManagerStop ctxId s = (.error error, s) →
      Unmoved s ((sceNpMatching2ContextStop call ctxId).exec s).2 := by
    intro error refused
    cases initialized : s.initialized <;>
      simp [sceNpMatching2ContextStop, initialized, refused, Unmoved]
  cases live : s.context? ctxId with
  | none =>
    refine Or.inl ⟨?_, refuse .invalidContextId (by simp [contextManagerStop, live])⟩
    rintro a ⟨-, slot, -⟩
    simp [slot_registry, live] at slot
  | some ctx =>
    cases started : ctx.started with
    | false =>
      refine Or.inl ⟨?_, refuse .contextNotStarted (by simp [contextManagerStop, live, started])⟩
      rintro a ⟨-, slot, running⟩
      rw [slot_registry, live] at slot
      obtain rfl : ctx.lifecycle = a := Option.some.inj slot
      exact Bool.false_ne_true (started.symm.trans running)
    | true =>
      cases initialized : s.initialized with
      | false =>
        refine Or.inl ⟨?_, by simp [sceNpMatching2ContextStop, initialized, Unmoved]⟩
        rintro a ⟨ready, -, -⟩
        simp [initialized] at ready
      | true =>
        have slot : s.registry.slot ctxId = some ctx.lifecycle := by simp [slot_registry, live]
        let halted : ContextObject := { ctx with started := false, stopPending := true }
        let s₀ := s.adjustObject ctx.object (fun ctx =>
          { ctx with started := false, stopPending := true })
        have stopped : contextManagerStop ctxId s = (.ok (), s₀) := by
          simp [contextManagerStop, live, started, s₀]
        have marked : s₀.context? ctxId = some halted := by
          have found := @context?_adjustObject s ctx.object (fun ctx =>
            { ctx with started := false, stopPending := true }) (fun _ => rfl) (fun _ => rfl)
            ctxId
          rw [live, Option.map_some, if_pos rfl] at found
          exact found
        have registry : s₀.registry = s.registry.stop ctxId := by
          rw [← registry_contextManagerStop, stopped]
        have told : ∃ np, ((Prog.when halted.signalingCallback (signaling
            (stopMatching2 ctxId .terminatedByMyself .terminatedByMyself))).exec s₀).2 =
              { s₀ with np } := by
          rw [Prog.exec_when]
          split
          · exact exec_signaling _ s₀
          · exact ⟨s₀.np, rfl⟩
        obtain ⟨np, told⟩ := told
        let s₁ : Matching2State := dispatchHold call { s₀ with np }
        have slot₁ : s₁.registry.slot ctxId = some halted.lifecycle := by
          rw [slot_registry]
          exact congrArg (Option.map (·.lifecycle)) marked
        refine Or.inr ⟨ctx.lifecycle, ⟨initialized, slot, started⟩, ?_⟩
        simp only [sceNpMatching2ContextStop, Prog.exec_bind, Prog.exec_locked, initialized,
          if_true, stopped, marked, Prog.exec_forSome_some, told, Prog.exec_update,
          mmContextStop]
        rcases @mmSubmitRequest_turn call ctxId 0 .contextStopped false s₁ with
          ⟨missing, same⟩ | ⟨reached, a, found, result, kept, accepted⟩
        · have offline : connected s = false := by
            rcases missing with offline | absent
            · exact offline
            · rw [slot₁] at absent
              cases absent
          simp only [s₁] at same
          simp only [same, Prog.exec_bind, Prog.exec_update, Prog.exec_forSome_some,
            Prog.exec_pure]
          refine Or.inl ⟨offline, ?_, ?_⟩
          · have kept :=
              traffic_of_queues (queues_contextManagerCompleteStop ctxId ctx.object s₁)
            exact kept
          · have completed := registry_contextManagerCompleteStop ctxId ctx.object s₁
            rw [show s₁.registry = s.registry.stop ctxId from registry] at completed
            exact completed
        · have named : a.object = ctx.object := by
            rw [slot₁] at found
            rw [← Option.some.inj found]
            rfl
          simp only [s₁] at result
          simp only [result, Prog.exec_bind, Prog.exec_update, Prog.exec_pure]
          refine Or.inr ⟨reached, kept.trans registry, ?_⟩
          have owned := named ▸ accepted
          exact owned.congr rfl rfl rfl

/-! ## Replies and events -/

/-- What a handled reply queues on the context in the slot of its request. -/
def AnswerEvent (pr : PendingRequest) (a : Lifecycle) (ev : PendingEvent) : Prop :=
  ev.ctxId = pr.ctxId ∧ ev.owner = a.object ∧
    (isContextLifecycleEvent pr.reqEvent → ∃ errorCode,
      ev.body = .contextCb pr.reqEvent errorCode) ∧
    (isContextLifecycleEvent pr.reqEvent = false → ev.body.requestCall ≠ none)

theorem dispatchRequestComplete_turn (pr : PendingRequest) (errorCode : UInt32) (body : ReplyBody)
    (input : StartInput) (s : Matching2State) :
    let s' := ((dispatchRequestComplete pr errorCode body input).exec s).2
    s'.registry = s.registry ∧
      ((s.registry.slot pr.ctxId = none ∧ s' = s) ∨
        ∃ a ev, s.registry.slot pr.ctxId = some a ∧ AnswerEvent pr a ev ∧
          s'.traffic = s.traffic.queue ev) := by
  dsimp only
  simp only [dispatchRequestComplete, Prog.exec_bind, Prog.exec_locked, slot_registry]
  cases live : s.context? pr.ctxId with
  | none => exact ⟨rfl, Or.inl ⟨rfl, rfl⟩⟩
  | some ctx =>
    cases lifecycle : isContextLifecycleEvent pr.reqEvent with
    | true =>
      simp only [if_true]
      refine ⟨rfl, Or.inr ⟨ctx.lifecycle, _, rfl, ⟨rfl, rfl, ?_, ?_⟩, rfl⟩⟩
      · exact fun _ => ⟨errorCode, rfl⟩
      · exact fun other => by simp [lifecycle] at other
    | false =>
      simp only [Bool.false_eq_true, if_false, Prog.exec_bind, Prog.exec_update]
      obtain ⟨traffic, registry⟩ := unmoved_beside (beside_buildRequestData ctx pr errorCode body) s
      generalize (buildRequestData ctx pr errorCode body).exec s = built at traffic registry ⊢
      let ev : PendingEvent := ⟨pr.ctxId, ctx.object,
        .requestCb pr.reqId pr.reqEvent errorCode pr.request built.1 pr.call⟩
      have started : (Prog.when (errorCode = 0 ∧ isJoinEvent pr.reqEvent)
          (startMatching2 ctx.object input)).Uses Beside :=
        Prog.uses_when (beside_startMatching2 ctx.object input)
      obtain ⟨traffic', registry'⟩ := unmoved_beside started (scheduleEvent ev built.2)
      refine ⟨registry'.trans registry, Or.inr ⟨ctx.lifecycle, ev, rfl, ⟨rfl, rfl, ?_, ?_⟩, ?_⟩⟩
      · exact fun other => by simp [lifecycle] at other
      · exact fun _ => Option.some_ne_none pr.call
      · have queued : (scheduleEvent ev built.2).traffic = built.2.traffic.queue ev := rfl
        rw [traffic', queued, traffic]

theorem reply_turn (pktId : Nat) (errorCode : UInt32) (body : ReplyBody) (input : StartInput)
    (s : Matching2State) :
    let s' := (Op.reply pktId errorCode body input).complete s
    s'.registry = s.registry ∧
      ((s.pending? pktId = none ∧ s'.traffic = s.traffic) ∨
        ∃ pr, s.pending? pktId = some pr ∧
          ((s.registry.slot pr.ctxId = none ∧ s'.traffic = s.traffic.take pktId) ∨
            ∃ a ev, s.registry.slot pr.ctxId = some a ∧ AnswerEvent pr a ev ∧
              s'.traffic = (s.traffic.take pktId).queue ev)) := by
  dsimp only
  simp only [Op.complete, Op.program, onMatching2Reply, Prog.exec_bind, Prog.exec_locked,
    takePending]
  cases found : s.pending? pktId with
  | none =>
    have kept : KeyedTable.remove PendingRequest.pktId pktId s.pending = s.pending :=
      KeyedTable.remove_of_lookup_none found
    refine ⟨rfl, Or.inl ⟨rfl, ?_⟩⟩
    simp only [Prog.exec_pure, traffic, kept]
  | some pr =>
    let taken : Matching2State := { s with
      pending := KeyedTable.remove PendingRequest.pktId pktId s.pending }
    obtain ⟨registry, turn⟩ := dispatchRequestComplete_turn pr errorCode body input taken
    refine ⟨registry, Or.inr ⟨pr, rfl, ?_⟩⟩
    rcases turn with ⟨empty, same⟩ | ⟨a, ev, slot, answer, queued⟩
    · exact Or.inl ⟨empty, congrArg Matching2State.traffic same⟩
    · exact Or.inr ⟨a, ev, slot, answer, queued⟩

/-- An event of a room, which completes nothing. -/
def RoomNotice (ev : PendingEvent) : Prop :=
  (∃ roomId event, ev.body = .roomEventCb roomId event) ∨
    ∃ roomId srcMemberId, ev.body = .roomMessageCb roomId srcMemberId

theorem roomEvent_turn (n : NotifyRoomEvent) (input : StartInput) (s : Matching2State) :
    let s' := (Op.roomEvent n input).complete s
    s'.registry = s.registry ∧ (s'.traffic = s.traffic ∨
      ∃ ev, RoomNotice ev ∧ s'.traffic = s.traffic.queue ev) := by
  dsimp only
  simp only [Op.complete, Op.program, handleRoomEvent, Prog.exec_locked_bind]
  cases s.context? n.ctxId with
  | none => exact ⟨rfl, Or.inl rfl⟩
  | some ctx =>
    have traffic := traffic_of_queues (queues_roomEventLocked ctx.object n s)
    have registry := registry_roomEventLocked ctx.object n s
    simp only [Prog.exec_locked_bind]
    by_cases known : (roomEventLocked ctx.object n s).1 = true
    · rw [if_pos known]
      let handled := (roomEventLocked ctx.object n s).2
      let ev : PendingEvent := ⟨ctx.ctxId, ctx.object, .roomEventCb n.roomId n.event⟩
      have started : (Prog.when (n.event = .memberJoined)
          (startMatching2 ctx.object input)).Uses Beside :=
        Prog.uses_when (beside_startMatching2 ctx.object input)
      obtain ⟨traffic', registry'⟩ := unmoved_beside started (scheduleEvent ev handled)
      have queued : (scheduleEvent ev handled).traffic = handled.traffic.queue ev := rfl
      rw [queued, traffic] at traffic'
      exact ⟨registry'.trans registry, Or.inr ⟨ev, Or.inl ⟨_, _, rfl⟩, traffic'⟩⟩
    · rw [if_neg known]
      exact ⟨registry, Or.inl traffic⟩

theorem roomMessage_turn (ctxId roomId srcMemberId : Nat) (s : Matching2State) :
    let s' := (Op.roomMessage ctxId roomId srcMemberId).complete s
    s'.registry = s.registry ∧ (s'.traffic = s.traffic ∨
      ∃ ev, RoomNotice ev ∧ s'.traffic = s.traffic.queue ev) := by
  dsimp only
  simp only [Op.complete, Op.program, handleRoomMessage, Prog.exec_bind, Prog.exec_locked]
  cases s.context? ctxId with
  | none => exact ⟨rfl, Or.inl rfl⟩
  | some ctx => exact ⟨rfl, Or.inr ⟨_, Or.inr ⟨_, _, rfl⟩, rfl⟩⟩

/-! ## The context manager and the dispatcher -/

theorem createContextWith_turn (valid : Bool) (onlineId : OrbisNpOnlineId) (aVariant : Bool)
    (s : Matching2State) :
    let s' := ((createContextWith valid onlineId aVariant).exec s).2
    s'.traffic = s.traffic ∧ (s'.registry = s.registry ∨
      ∃ ctxId, s.registry.slot ctxId = none ∧ s'.registry = s.registry.create ctxId) := by
  dsimp only
  refine ⟨?_, ?_⟩
  · let Same (t : Matching2State) : Prop := t.queues = s.queues
    have start : Same s := rfl
    refine traffic_of_queues ((aside_createContextWith valid onlineId aVariant).exec_keeps ?_ start)
    exact fun label update aside t same => (aside t).trans same
  · cases initialized : s.initialized with
    | false => exact Or.inl (by simp [createContextWith, initialized])
    | true =>
      cases valid with
      | false => exact Or.inl (by simp [createContextWith, initialized])
      | true =>
        have made := registry_contextManagerCreate onlineId aVariant s
        simp only [createContextWith, Prog.exec_bind, Prog.exec_locked, initialized, if_true]
        generalize contextManagerCreate onlineId aVariant s = created at made ⊢
        cases created.1 with
        | error error => exact made
        | ok ctxId =>
          have same := (unmoved_beside (beside_signaling addContextRef) created.2).2
          simp only [Prog.exec_bind, Prog.exec_pure, same]
          exact made

theorem createContext_complete (valid : Bool) (onlineId : OrbisNpOnlineId) (s : Matching2State) :
    (Op.createContext valid onlineId).complete s =
      ((createContextWith valid onlineId false).exec s).2 := by
  simp only [Op.complete, Op.program, sceNpMatching2CreateContext, Prog.exec_bind, Prog.exec_pure]

theorem createContextA_complete (valid : Bool) (onlineId : OrbisNpOnlineId)
    (s : Matching2State) :
    (Op.createContextA valid onlineId).complete s =
      ((createContextWith valid onlineId true).exec s).2 := by
  simp only [Op.complete, Op.program, sceNpMatching2CreateContextA, Prog.exec_bind,
    Prog.exec_pure]

theorem destroyContext_turn (ctxId : Nat) (s : Matching2State) :
    let s' := (Op.destroyContext ctxId).complete s
    s'.traffic = s.traffic ∧
      (s'.registry = s.registry ∨ s'.registry = s.registry.destroy ctxId) := by
  dsimp only
  simp only [Op.complete, Op.program, Prog.exec_bind, Prog.exec_pure]
  cases initialized : s.initialized with
  | false =>
    simp only [sceNpMatching2DestroyContext, Prog.exec_bind, Prog.exec_locked, initialized,
      Bool.false_eq_true, if_false, Prog.exec_pure]
    exact ⟨trivial, Or.inl trivial⟩
  | true =>
    have traffic := traffic_of_queues (queues_contextManagerDestroy ctxId s)
    have registry := registry_contextManagerDestroy ctxId s
    simp only [sceNpMatching2DestroyContext, Prog.exec_locked_bind, initialized, if_true]
    by_cases known : (contextManagerDestroy ctxId s).1 = true
    · rw [if_pos known, Prog.exec_bind, Prog.exec_pure]
      obtain ⟨traffic', registry'⟩ :=
        unmoved_beside (beside_signaling releaseContextRef) (contextManagerDestroy ctxId s).2
      exact ⟨traffic'.trans traffic, Or.inr (registry'.trans registry)⟩
    · rw [if_neg known]
      exact ⟨traffic, Or.inr registry⟩

theorem terminate_turn (s : Matching2State) :
    let s' := Op.matching2Terminate.complete s
    Unmoved s s' ∨ (s'.registry = s.registry.reset ∧
      (s'.traffic = s.traffic ∨ s'.traffic = { s.traffic with pendingEvents := [] })) := by
  dsimp only
  simp only [Op.complete, Op.program, Prog.exec_bind, Prog.exec_pure]
  cases initialized : s.initialized with
  | false =>
    refine Or.inl ?_
    simp [sceNpMatching2Terminate, initialized, Unmoved]
  | true =>
    refine Or.inr ?_
    simp only [sceNpMatching2Terminate, Prog.exec_bind, Prog.exec_locked, initialized, if_true,
      Prog.exec_update, Prog.exec_pure, termEventDispatcher]
    split
    · let ended : Matching2State := { contextManagerReset { s with
        initialized := false, dispatchRunning := false, pendingEvents := [] } with
          nextRequestId := 1 }
      obtain ⟨traffic, registry⟩ := unmoved_beside (beside_signaling releaseContextRef) ended
      have lives : ended.registry = s.registry.reset := registry_contextManagerReset _
      exact ⟨registry.trans lives, Or.inr traffic⟩
    · let ended : Matching2State :=
        { contextManagerReset { s with initialized := false } with nextRequestId := 1 }
      obtain ⟨traffic, registry⟩ := unmoved_beside (beside_signaling releaseContextRef) ended
      have lives : ended.registry = s.registry.reset := registry_contextManagerReset _
      exact ⟨registry.trans lives, Or.inl traffic⟩

theorem takeReady_turn (s : Matching2State) :
    let s' := Op.takeReady.complete s
    s'.registry = s.registry ∧ (s'.traffic = s.traffic ∨
      (s.ready = [] ∧
        s'.traffic = { s.traffic with ready := s.pendingEvents, pendingEvents := [] })) := by
  dsimp only
  simp only [Op.complete, Op.program, Prog.exec_update, takeReady]
  split
  · rename_i free
    exact ⟨rfl, Or.inr ⟨free.2.2, rfl⟩⟩
  · exact ⟨rfl, Or.inl rfl⟩

/-- The registry after an event has reached its callback. -/
def Registry.fire (ev : PendingEvent) (r : Registry) : Registry :=
  match ev.body with
  | .contextCb .contextStopped _ => r.completeStop ev.ctxId ev.owner
  | _ => r

theorem fireEvent_turn (s : Matching2State) :
    let s' := Op.fireEvent.complete s
    (s.ready = [] ∧ s' = s) ∨
      ∃ ev rest, s.ready = ev :: rest ∧ s'.traffic = { s.traffic with ready := rest } ∧
        s'.registry = s.registry.fire ev := by
  dsimp only
  simp only [Op.complete, Op.program, Prog.exec_update]
  cases next : s.ready with
  | nil => exact Or.inl ⟨rfl, by simp only [fireEvent, next]⟩
  | cons ev rest =>
    refine Or.inr ⟨ev, rest, rfl, ?_⟩
    simp only [fireEvent, next]
    split
    · rename_i errorCode stopped
      let fired : Matching2State := { s with ready := rest, fired := s.fired ++ [ev] }
      have traffic : (contextManagerCompleteStop ev.ctxId ev.owner fired).traffic =
          fired.traffic :=
        traffic_of_queues (queues_contextManagerCompleteStop ev.ctxId ev.owner fired)
      have fires : s.registry.fire ev = s.registry.completeStop ev.ctxId ev.owner := by
        simp only [Registry.fire, stopped]
      rw [fires]
      exact ⟨traffic, registry_contextManagerCompleteStop ev.ctxId ev.owner fired⟩
    · have fires : s.registry.fire ev = s.registry := by simp only [Registry.fire]
      rw [fires]
      exact ⟨rfl, rfl⟩

end NpMatching2
