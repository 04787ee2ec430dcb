import ShadNet.Matching2.Api

/-!
# What the sections of matching2 leave alone

Most sections work on the caches, the callbacks or the clients: they touch neither
the queues nor the lives of the contexts (`Beside`). The context manager changes
the lives and leaves the queues alone (`Aside`).
-/

namespace NpMatching2

open LockProgram NpSignaling Matching2State

/-- The call whose request the event completes. -/
def EventBody.requestCall : EventBody → Option Nat
  | .requestCb _ _ _ _ _ call => some call
  | _ => none

/-- The requests and events on their way, and the calls that hold the dispatcher back. -/
structure Queues where
  pending : List PendingRequest
  pendingEvents : List PendingEvent
  ready : List PendingEvent
  scheduled : List PendingEvent
  fired : List PendingEvent
  dispatchHolds : Nat
  holding : List Nat
  returned : List Nat

def Matching2State.queues (s : Matching2State) : Queues :=
  { pending := s.pending
    pendingEvents := s.pendingEvents
    ready := s.ready
    scheduled := s.scheduled
    fired := s.fired
    dispatchHolds := s.dispatchHolds
    holding := s.holding
    returned := s.returned }

/-- Where a context object stands in its life. -/
structure Lifecycle where
  object : Nat
  ctxId : Nat
  live : Bool
  started : Bool
  stopPending : Bool
  destroyPending : Bool
  deriving DecidableEq

def ContextObject.lifecycle (ctx : ContextObject) : Lifecycle :=
  { object := ctx.object
    ctxId := ctx.ctxId
    live := ctx.live
    started := ctx.started
    stopPending := ctx.stopPending
    destroyPending := ctx.destroyPending }

/-- What the context manager keeps of the contexts. -/
structure Registry where
  lives : List Lifecycle
  destroyed : List Nat
  freed : List Nat

def Matching2State.registry (s : Matching2State) : Registry :=
  { lives := s.contexts.map (·.lifecycle)
    destroyed := s.destroyed
    freed := s.freed }

def Beside (_ : Section) (update : Matching2State → Matching2State) : Prop :=
  ∀ s, (update s).queues = s.queues ∧ (update s).registry = s.registry

def Aside (_ : Section) (update : Matching2State → Matching2State) : Prop :=
  ∀ s, (update s).queues = s.queues

@[simp] theorem queues_adjustObject (object : Nat) (f : ContextObject → ContextObject)
    (s : Matching2State) : (s.adjustObject object f).queues = s.queues := rfl

@[simp] theorem queues_setCache (cache : Matching2ContextCache) (s : Matching2State) :
    (s.setCache cache).queues = s.queues := rfl

@[simp] theorem queues_storeRequestCallback (object : Nat) (requestOpt : Option RequestOptParam)
    (s : Matching2State) : (storeRequestCallback object requestOpt s).queues = s.queues := rfl

@[simp] theorem queues_consumeRequestCallback (object : Nat) (s : Matching2State) :
    (consumeRequestCallback object s).2.queues = s.queues := by
  simp only [consumeRequestCallback]
  split
  · rfl
  · split <;> rfl

@[simp] theorem queues_clientSubmitRequest (clientId : Nat) (s : Matching2State) :
    (clientSubmitRequest clientId s).2.queues = s.queues := by
  simp only [clientSubmitRequest]
  split <;> rfl

@[simp] theorem queues_contextManagerCreate (onlineId : OrbisNpOnlineId) (aVariant : Bool)
    (s : Matching2State) : (contextManagerCreate onlineId aVariant s).2.queues = s.queues := by
  simp only [contextManagerCreate]
  split <;> rfl

@[simp] theorem queues_contextManagerDestroy (ctxId : Nat) (s : Matching2State) :
    (contextManagerDestroy ctxId s).2.queues = s.queues := by
  simp only [contextManagerDestroy]
  split
  · rfl
  · split <;> rfl

@[simp] theorem queues_contextManagerCompleteStop (ctxId expectedContext : Nat)
    (s : Matching2State) :
    (contextManagerCompleteStop ctxId expectedContext s).queues = s.queues := by
  simp only [contextManagerCompleteStop]
  split
  · rfl
  · split
    · rfl
    · split <;> rfl

@[simp] theorem queues_contextManagerStart (ctxId : Nat) (s : Matching2State) :
    (contextManagerStart ctxId s).2.queues = s.queues := by
  simp only [contextManagerStart]
  split
  · rfl
  · split <;> rfl

@[simp] theorem queues_contextManagerStop (ctxId : Nat) (s : Matching2State) :
    (contextManagerStop ctxId s).2.queues = s.queues := by
  simp only [contextManagerStop]
  split
  · rfl
  · split <;> rfl

@[simp] theorem queues_contextManagerReset (s : Matching2State) :
    (contextManagerReset s).queues = s.queues := rfl

@[simp] theorem queues_initEventDispatcher (threadOk : Bool) (s : Matching2State) :
    (initEventDispatcher threadOk s).queues = s.queues := by
  simp only [initEventDispatcher]
  split <;> rfl

@[simp] theorem queues_queueMatching2SignalingEvent (object roomId memberId : Nat)
    (established : Bool) (errorCode : Matching2Error) (s : Matching2State) :
    (queueMatching2SignalingEvent object roomId memberId established errorCode s).queues =
      s.queues := by
  simp only [queueMatching2SignalingEvent]
  split <;> rfl

@[simp] theorem queues_deadRoomPeers (object roomId : Nat) (s : Matching2State) :
    (deadRoomPeers object roomId s).2.queues = s.queues := by
  simp only [deadRoomPeers]
  split
  · rfl
  · split <;> rfl

@[simp] theorem queues_buildCreateJoinRoomPayloadCommon (object : Nat) (details : RoomDetails)
    (s : Matching2State) :
    (buildCreateJoinRoomPayloadCommon object details s).queues = s.queues := by
  simp only [buildCreateJoinRoomPayloadCommon]
  split <;> rfl

@[simp] theorem queues_buildLeaveRoomPayload (object roomId : Nat) (s : Matching2State) :
    (buildLeaveRoomPayload object roomId s).queues = s.queues := by
  simp only [buildLeaveRoomPayload]
  split
  · rfl
  · split <;> rfl

@[simp] theorem queues_roomEventLocked (object : Nat) (n : NotifyRoomEvent)
    (s : Matching2State) : (roomEventLocked object n s).2.queues = s.queues := by
  simp only [roomEventLocked]
  split
  · rfl
  · split
    · rfl
    · split <;> simp
    all_goals rfl

@[simp] theorem queues_connectionStatusLocked (ctxId roomId memberId : Nat)
    (s : Matching2State) :
    (connectionStatusLocked ctxId roomId memberId s).2.queues = s.queues := by
  simp only [connectionStatusLocked]
  split
  · rfl
  · split <;> rfl

@[simp] theorem queues_setMmShadNetClient (matching2Enabled : Bool) (s : Matching2State) :
    (setMmShadNetClient matching2Enabled s).queues = s.queues := by
  simp only [setMmShadNetClient]
  split <;> rfl

/-! ### Lives -/

theorem registry_adjustObject {object : Nat} {f : ContextObject → ContextObject}
    (keeps : ∀ ctx, (f ctx).lifecycle = ctx.lifecycle) (s : Matching2State) :
    (s.adjustObject object f).registry = s.registry := by
  have lives : (s.adjustObject object f).contexts.map (·.lifecycle) =
      s.contexts.map (·.lifecycle) := by
    simp only [adjustObject, KeyedTable.adjust, List.map_map]
    refine List.map_congr_left (fun ctx _ => ?_)
    simp only [Function.comp]
    split
    · exact keeps ctx
    · rfl
  simp only [registry, lives]
  rfl

@[simp] theorem registry_storeRequestCallback (object : Nat)
    (requestOpt : Option RequestOptParam) (s : Matching2State) :
    (storeRequestCallback object requestOpt s).registry = s.registry := by
  refine registry_adjustObject ?_ s
  exact fun _ => rfl

@[simp] theorem registry_consumeRequestCallback (object : Nat) (s : Matching2State) :
    (consumeRequestCallback object s).2.registry = s.registry := by
  simp only [consumeRequestCallback]
  split
  · rfl
  · split
    · refine registry_adjustObject ?_ s
      exact fun _ => rfl
    · rfl

@[simp] theorem registry_initEventDispatcher (threadOk : Bool) (s : Matching2State) :
    (initEventDispatcher threadOk s).registry = s.registry := by
  simp only [initEventDispatcher]
  split <;> rfl

@[simp] theorem registry_queueMatching2SignalingEvent (object roomId memberId : Nat)
    (established : Bool) (errorCode : Matching2Error) (s : Matching2State) :
    (queueMatching2SignalingEvent object roomId memberId established errorCode s).registry =
      s.registry := by
  simp only [queueMatching2SignalingEvent]
  split <;> rfl

@[simp] theorem registry_deadRoomPeers (object roomId : Nat) (s : Matching2State) :
    (deadRoomPeers object roomId s).2.registry = s.registry := by
  simp only [deadRoomPeers]
  split
  · rfl
  · split <;> rfl

@[simp] theorem registry_buildCreateJoinRoomPayloadCommon (object : Nat) (details : RoomDetails)
    (s : Matching2State) :
    (buildCreateJoinRoomPayloadCommon object details s).registry = s.registry := by
  simp only [buildCreateJoinRoomPayloadCommon]
  split
  · rfl
  · refine registry_adjustObject ?_ _
    exact fun _ => rfl

@[simp] theorem registry_buildLeaveRoomPayload (object roomId : Nat) (s : Matching2State) :
    (buildLeaveRoomPayload object roomId s).registry = s.registry := by
  simp only [buildLeaveRoomPayload]
  split
  · rfl
  · split
    · refine registry_adjustObject ?_ _
      exact fun _ => rfl
    · rfl

@[simp] theorem registry_roomEventLocked (object : Nat) (n : NotifyRoomEvent)
    (s : Matching2State) : (roomEventLocked object n s).2.registry = s.registry := by
  simp only [roomEventLocked]
  split
  · rfl
  · split
    · rfl
    · split
      · rfl
      · exact registry_queueMatching2SignalingEvent _ _ _ _ _ s
    all_goals rfl

@[simp] theorem registry_connectionStatusLocked (ctxId roomId memberId : Nat)
    (s : Matching2State) :
    (connectionStatusLocked ctxId roomId memberId s).2.registry = s.registry := by
  simp only [connectionStatusLocked]
  split
  · rfl
  · split <;> rfl

@[simp] theorem registry_setMmShadNetClient (matching2Enabled : Bool) (s : Matching2State) :
    (setMmShadNetClient matching2Enabled s).registry = s.registry := by
  simp only [setMmShadNetClient]
  split <;> rfl

/-! ## Programs that touch neither -/

theorem beside_reads {α : Type} (read : Matching2State → α) : (reads read).Uses Beside :=
  Prog.uses_locked (fun _ => ⟨rfl, rfl⟩)

theorem beside_locked {α : Type} {label : Section}
    {body : Matching2State → α × Matching2State}
    (same : ∀ s, (body s).2.queues = s.queues ∧ (body s).2.registry = s.registry) :
    (Prog.locked label body).Uses Beside :=
  Prog.uses_locked same

theorem beside_updates {body : Matching2State → Matching2State}
    (same : ∀ s, (body s).queues = s.queues ∧ (body s).registry = s.registry) :
    (updates body).Uses Beside :=
  Prog.uses_update same

/-- A signaling function only works on the signaling part. -/
theorem beside_signaling {α : Type} (p : Signaling α) : (signaling p).Uses Beside := by
  have zoomed := @Prog.Uses.zoom _ _ _ _ _ _ signalingState withSignaling Section.signaling p
    (Prog.uses_everything p)
  refine zoomed.mono ?_
  rintro label update ⟨inner, body, -, -, rfl⟩ s
  exact ⟨rfl, rfl⟩

theorem beside_startMatching2 (object : Nat) (input : StartInput) :
    (startMatching2 object input).Uses Beside := by
  refine (beside_reads _).bind ?_
  intro found
  cases found with
  | none => exact Prog.uses_pure ()
  | some ctx => exact beside_signaling _

theorem beside_queueMatching2DeadForRoomPeers (ctx : ContextObject) (roomId : Nat) :
    (queueMatching2DeadForRoomPeers ctx roomId).Uses Beside := by
  refine (beside_locked (fun s => ⟨queues_deadRoomPeers ctx.object roomId s,
    registry_deadRoomPeers ctx.object roomId s⟩)).bind ?_
  intro dead
  cases dead with
  | none => exact Prog.uses_pure ()
  | some dead =>
    have told : (Prog.forEach dead (fun memberId => updates (queueMatching2SignalingEvent
        ctx.object roomId memberId false .terminatedByMyself))).Uses Beside :=
      Prog.uses_forEach (fun memberId =>
        beside_updates (fun s => ⟨queues_queueMatching2SignalingEvent _ _ memberId _ _ s,
          registry_queueMatching2SignalingEvent _ _ memberId _ _ s⟩))
    exact told.bind (fun _ => beside_signaling _)

theorem beside_buildRequestData (ctx : ContextObject) (pr : PendingRequest) (errorCode : UInt32)
    (body : ReplyBody) : (buildRequestData ctx pr errorCode body).Uses Beside := by
  simp only [buildRequestData]
  refine Prog.uses_ite (fun _ => Prog.uses_pure _) (fun _ => ?_)
  refine Prog.uses_ite (fun _ => ?_) (fun _ => ?_)
  · cases body.details with
    | none => exact Prog.uses_pure _
    | some details =>
      exact (beside_updates (fun s =>
        ⟨queues_buildCreateJoinRoomPayloadCommon ctx.object details s,
          registry_buildCreateJoinRoomPayloadCommon ctx.object details s⟩)).bind
        (fun _ => Prog.uses_pure _)
  · refine Prog.uses_ite (fun _ => ?_) (fun _ => Prog.uses_pure _)
    cases body.leftRoom with
    | none => exact Prog.uses_pure _
    | some roomId =>
      refine (beside_queueMatching2DeadForRoomPeers ctx roomId).bind (fun _ => ?_)
      exact (beside_updates (fun s => ⟨queues_buildLeaveRoomPayload ctx.object roomId s,
        registry_buildLeaveRoomPayload ctx.object roomId s⟩)).bind
        (fun _ => Prog.uses_pure _)

theorem beside_requestContext (valid : Bool) (ctxId : Nat) :
    (requestContext valid ctxId).Uses Beside := by
  refine (beside_reads _).bind (fun initialized => ?_)
  refine Prog.uses_ite (fun _ => ?_) (fun _ => Prog.uses_pure _)
  refine Prog.uses_ite (fun _ => ?_) (fun _ => Prog.uses_pure _)
  refine (beside_reads _).bind (fun found => ?_)
  cases found with
  | none => exact Prog.uses_pure _
  | some ctx => exact Prog.uses_pure _

theorem beside_beginRequest (call object : Nat) (requestOpt : Option RequestOptParam) :
    (beginRequest call object requestOpt).Uses Beside := by
  have stored : (Prog.update (.storeRequestCallback call object)
      (storeRequestCallback object requestOpt)).Uses Beside :=
    Prog.uses_update (fun s => ⟨rfl, registry_storeRequestCallback object requestOpt s⟩)
  exact stored.bind (fun _ => beside_locked (fun _ => ⟨rfl, rfl⟩))

theorem beside_onContext (ctxId : Nat) {body : ContextObject → Matching2 Unit}
    (uses : ∀ ctx, (body ctx).Uses Beside) : (onContext ctxId body).Uses Beside := by
  refine (beside_requestContext true ctxId).bind (fun found => ?_)
  cases found with
  | error error => exact Prog.uses_pure _
  | ok ctx => exact (uses ctx).bind (fun _ => Prog.uses_pure _)

/-! ## Programs that stay aside of the queues -/

theorem Beside.aside {α : Type} {p : Matching2 α} (uses : p.Uses Beside) : p.Uses Aside :=
  uses.mono (fun _ _ beside s => (beside s).1)

theorem aside_reads {α : Type} (read : Matching2State → α) : (reads read).Uses Aside :=
  Beside.aside (beside_reads read)

theorem aside_signaling {α : Type} (p : Signaling α) : (signaling p).Uses Aside :=
  Beside.aside (beside_signaling p)

theorem aside_updates {body : Matching2State → Matching2State}
    (same : ∀ s, (body s).queues = s.queues) : (updates body).Uses Aside :=
  Prog.uses_update same

theorem aside_createContextWith (valid : Bool) (onlineId : OrbisNpOnlineId) (aVariant : Bool) :
    (createContextWith valid onlineId aVariant).Uses Aside := by
  refine (aside_reads _).bind (fun initialized => ?_)
  refine Prog.uses_ite (fun _ => ?_) (fun _ => Prog.uses_pure _)
  refine Prog.uses_ite (fun _ => ?_) (fun _ => Prog.uses_pure _)
  refine (Prog.uses_locked (queues_contextManagerCreate onlineId aVariant)).bind (fun made => ?_)
  cases made with
  | error error => exact Prog.uses_pure _
  | ok ctxId => exact (aside_signaling _).bind (fun _ => Prog.uses_pure _)

theorem aside_destroyContext (ctxId : Nat) : (sceNpMatching2DestroyContext ctxId).Uses Aside := by
  refine (aside_reads _).bind (fun initialized => ?_)
  refine Prog.uses_ite (fun _ => ?_) (fun _ => Prog.uses_pure _)
  refine (Prog.uses_locked (queues_contextManagerDestroy ctxId)).bind (fun found => ?_)
  refine Prog.uses_ite (fun _ => ?_) (fun _ => Prog.uses_pure _)
  exact (aside_signaling _).bind (fun _ => Prog.uses_pure _)

theorem beside_matching2Initialize (valid threadOk : Bool) :
    (sceNpMatching2Initialize valid threadOk).Uses Beside := by
  refine (beside_reads _).bind (fun initialized => ?_)
  refine Prog.uses_ite (fun _ => Prog.uses_pure _) (fun _ => ?_)
  refine Prog.uses_ite (fun _ => ?_) (fun _ => Prog.uses_pure _)
  have begun := fun s => And.intro (queues_initEventDispatcher threadOk s)
    (registry_initEventDispatcher threadOk s)
  refine (beside_updates begun).bind (fun _ => ?_)
  exact (beside_updates (fun _ => ⟨rfl, rfl⟩)).bind (fun _ => Prog.uses_pure _)

/-- The operations that touch neither the queues nor the lives of the contexts. -/
def Op.beside : Op → Bool
  | .matching2Initialize .. | .setDefaultRequestOptParam .. | .registerSignalingCallback ..
  | .getConnectionStatus .. | .signaling .. | .connectUser .. | .connectionLost ..
  | .activeChanged .. => true
  | _ => false

theorem beside_program {op : Op} (beside : op.beside) : op.program.Uses Beside := by
  cases op with
  | matching2Initialize valid threadOk =>
    exact (beside_matching2Initialize valid threadOk).bind (fun _ => Prog.uses_pure _)
  | setDefaultRequestOptParam ctxId requestOpt =>
    refine Prog.Uses.bind (beside_onContext ctxId (fun ctx => ?_)) (fun _ => Prog.uses_pure _)
    refine beside_updates (fun s => ⟨rfl, registry_adjustObject ?_ s⟩)
    exact fun _ => rfl
  | registerSignalingCallback ctxId callback input =>
    refine Prog.Uses.bind (beside_onContext ctxId (fun ctx => ?_)) (fun _ => Prog.uses_pure _)
    refine Prog.Uses.bind (beside_updates (fun s => ⟨rfl, registry_adjustObject ?_ s⟩))
      (fun _ => beside_startMatching2 ctx.object input)
    exact fun _ => rfl
  | getConnectionStatus ctxId roomId memberId =>
    refine Prog.Uses.bind (beside_onContext ctxId (fun ctx => ?_)) (fun _ => Prog.uses_pure _)
    have queried := fun s => And.intro (queues_connectionStatusLocked ctx.ctxId roomId memberId s)
      (registry_connectionStatusLocked ctx.ctxId roomId memberId s)
    exact (beside_locked queried).bind (fun _ => Prog.uses_pure ())
  | signaling op => exact Prog.uses_when (beside_signaling _)
  | connectUser matching2Enabled =>
    exact beside_updates (fun s => ⟨queues_setMmShadNetClient matching2Enabled s,
      registry_setMmShadNetClient matching2Enabled s⟩)
  | connectionLost clientId => exact beside_updates (fun _ => ⟨rfl, rfl⟩)
  | activeChanged active => exact beside_updates (fun _ => ⟨rfl, rfl⟩)
  | _ => simp [Op.beside] at beside

/-- The operations that never touch the queues. -/
def Op.aside (op : Op) : Bool :=
  match op with
  | .createContext .. | .createContextA .. | .destroyContext .. => true
  | op => op.beside

theorem aside_program {op : Op} (aside : op.aside) : op.program.Uses Aside := by
  cases op with
  | createContext valid onlineId =>
    exact (aside_createContextWith valid onlineId false).bind (fun _ => Prog.uses_pure _)
  | createContextA valid onlineId =>
    exact (aside_createContextWith valid onlineId true).bind (fun _ => Prog.uses_pure _)
  | destroyContext ctxId => exact (aside_destroyContext ctxId).bind (fun _ => Prog.uses_pure _)
  | _ => exact Beside.aside (beside_program aside)

/-! ## Programs run alone -/

/-- Run alone, a program that stays beside leaves both as they were. -/
theorem exec_beside {α : Type} {p : Matching2 α} (uses : p.Uses Beside) (s : Matching2State) :
    (p.exec s).2.queues = s.queues ∧ (p.exec s).2.registry = s.registry := by
  let Same (t : Matching2State) : Prop := t.queues = s.queues ∧ t.registry = s.registry
  have start : Same s := ⟨rfl, rfl⟩
  refine uses.exec_keeps ?_ start
  intro label update beside t same
  obtain ⟨queues, registry⟩ := beside t
  exact ⟨queues.trans same.1, registry.trans same.2⟩

end NpMatching2
