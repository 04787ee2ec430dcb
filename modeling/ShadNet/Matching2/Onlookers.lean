import ShadNet.Matching2.Isolation
import ShadNet.Signaling.Bystanders

/-!
# What the handlers leave to the context manager

Contexts are made and ended by the context manager alone. The calls on a context, the
handlers of replies and events, and the runtime they call mark peers and queue
events; so an invariant that puts up with those is kept by every one of them.
-/

namespace NpMatching2

open LockProgram NpSignaling Matching2State

/-- Where a context object is: its slot, and the room it names. -/
structure Dwelling where
  object : Nat
  ctxId : Nat
  live : Bool
  roomId : Nat
  deriving DecidableEq

def ContextObject.dwelling (ctx : ContextObject) : Dwelling :=
  { object := ctx.object
    ctxId := ctx.ctxId
    live := ctx.live
    roomId := ctx.roomId }

def Matching2State.dwellings (s : Matching2State) : List Dwelling := s.contexts.map (·.dwelling)

/-! ### Sections that are not seen -/

/-- Neither the signaling part nor the dwellings change. -/
structure Unseen (s s' : Matching2State) : Prop where
  np : s'.np = s.np
  dwellings : s'.dwellings = s.dwellings

section Unseen

variable {s s' : Matching2State}

theorem Unseen.refl (s : Matching2State) : Unseen s s := ⟨rfl, rfl⟩

theorem dwellings_adjustObject {object : Nat} {f : ContextObject → ContextObject}
    (keeps : ∀ ctx, (f ctx).dwelling = ctx.dwelling) (s : Matching2State) :
    (s.adjustObject object f).dwellings = s.dwellings := by
  simp only [Matching2State.dwellings, adjustObject, KeyedTable.adjust, List.map_map]
  refine List.map_congr_left (fun ctx _ => ?_)
  simp only [Function.comp]
  split
  · exact keeps ctx
  · rfl

theorem unseen_adjustObject {object : Nat} {f : ContextObject → ContextObject}
    (keeps : ∀ ctx, (f ctx).dwelling = ctx.dwelling) (s : Matching2State) :
    Unseen s (s.adjustObject object f) :=
  ⟨rfl, dwellings_adjustObject keeps s⟩

theorem unseen_consumeRequestCallback (object : Nat) (s : Matching2State) :
    Unseen s (consumeRequestCallback object s).2 := by
  unfold consumeRequestCallback
  split
  · exact Unseen.refl s
  · split
    · refine unseen_adjustObject ?_ s
      exact fun _ => rfl
    · exact Unseen.refl s

theorem unseen_clientSubmitRequest (clientId : Nat) (s : Matching2State) :
    Unseen s (clientSubmitRequest clientId s).2 := by
  unfold clientSubmitRequest
  split
  · exact Unseen.refl s
  · exact ⟨rfl, rfl⟩

theorem unseen_contextManagerStart (ctxId : Nat) (s : Matching2State) :
    Unseen s (contextManagerStart ctxId s).2 := by
  unfold contextManagerStart
  split
  · exact Unseen.refl s
  · split
    · exact Unseen.refl s
    · refine unseen_adjustObject ?_ s
      exact fun _ => rfl

theorem unseen_contextManagerStop (ctxId : Nat) (s : Matching2State) :
    Unseen s (contextManagerStop ctxId s).2 := by
  unfold contextManagerStop
  split
  · exact Unseen.refl s
  · split
    · refine unseen_adjustObject ?_ s
      exact fun _ => rfl
    · exact Unseen.refl s

theorem unseen_initEventDispatcher (threadOk : Bool) (s : Matching2State) :
    Unseen s (initEventDispatcher threadOk s) := by
  unfold initEventDispatcher
  split <;> exact ⟨rfl, rfl⟩

theorem unseen_takeReady (s : Matching2State) : Unseen s (NpMatching2.takeReady s) := by
  unfold NpMatching2.takeReady
  split
  · exact ⟨rfl, rfl⟩
  · exact Unseen.refl s

end Unseen

/-! ### Programs -/

/-- The program starts and ends in the invariant. -/
abbrev Leaves {α : Type} (I : Matching2State → Prop) (p : Matching2 α) : Prop :=
  Prog.Triple I p (fun _ => I)

/-- An invariant that the handlers keep: they end no context but one whose stop is complete,
tell the peers of a room dead, and run the signaling runtime. -/
structure Onlooker (I : Matching2State → Prop) : Prop where
  unseen : ∀ {s s'}, Unseen s s' → I s → I s'
  event : ∀ object roomId memberId established errorCode {s}, I s →
    I (queueMatching2SignalingEvent object roomId memberId established errorCode s)
  dead : ∀ object roomId {s}, I s → I (deadRoomPeers object roomId s).2
  status : ∀ ctxId roomId memberId {s}, I s → I (connectionStatusLocked ctxId roomId memberId s).2
  completeStop : ∀ ctxId expectedContext {s}, I s →
    I (contextManagerCompleteStop ctxId expectedContext s)
  runtime : ∀ {α : Type} {p : Signaling α}, (∀ {J : NpSignalingState → Prop}, Bystander J →
    p.Preserves J) → Leaves I (signaling p)

/-- What the context manager or the signaling library does itself, or what comes in for a room. -/
def Op.rules : Op → Bool
  | .createContext .. | .createContextA .. | .destroyContext _ | .matching2Terminate | .reply ..
  | .roomEvent .. | .signaling _ | .connectUser _ | .clearMmShadNetClient => true
  | _ => false

theorem leaves_pure {α : Type} {I : Matching2State → Prop} (a : α) :
    Leaves I (pure a : Matching2 α) :=
  Prog.triple_pure (fun _ before => before)

theorem leaves_reads {α : Type} {I : Matching2State → Prop} (read : Matching2State → α) :
    Leaves I (reads read) :=
  Prog.triple_locked (fun _ before => before)

namespace Onlooker

variable {I : Matching2State → Prop} (o : Onlooker I)

include o

theorem locked {α : Type} {label : Section} {body : Matching2State → α × Matching2State}
    (unseen : ∀ s, Unseen s (body s).2) : Leaves I (Prog.locked label body) :=
  Prog.triple_locked (fun s before => o.unseen (unseen s) before)

theorem update {label : Section} {body : Matching2State → Matching2State}
    (unseen : ∀ s, Unseen s (body s)) : Leaves I (Prog.update label body) :=
  Prog.triple_update (fun s before => o.unseen (unseen s) before)

/-- A section that touches neither the contexts nor the signaling part. -/
theorem aside {label : Section} {body : Matching2State → Matching2State}
    (np : ∀ s, (body s).np = s.np) (contexts : ∀ s, (body s).contexts = s.contexts) :
    Leaves I (Prog.update label body) :=
  o.update (fun s => ⟨np s, congrArg (List.map ContextObject.dwelling) (contexts s)⟩)

theorem startMatching2 (object : Nat) (input : StartInput) :
    Leaves I (startMatching2 object input) := by
  refine Prog.triple_seq (leaves_reads _) (fun found => ?_)
  cases found with
  | none => exact leaves_pure ()
  | some ctx => exact o.runtime (fun b => b.startMatching2 ctx.signalingView _ _ _)

theorem queueMatching2DeadForRoomPeers (ctx : ContextObject) (roomId : Nat) :
    Leaves I (queueMatching2DeadForRoomPeers ctx roomId) := by
  refine Prog.triple_seq (Prog.triple_locked (fun s before => o.dead ctx.object roomId before))
    (fun dead => ?_)
  cases dead with
  | none => exact leaves_pure ()
  | some dead =>
    refine Prog.triple_seq (Prog.triple_forEach_mem (fun memberId _ => ?_)) (fun _ => ?_)
    · exact Prog.triple_update (fun s before => o.event ctx.object roomId memberId false _ before)
    · exact o.runtime (fun b => b.stopMatching2Room _ _ _ _)

theorem submitOrComplete (call clientId ctxId : Nat) (reqId : UInt32)
    (reqEvent : Matching2Event) (aVariant : Bool) (ctx : ContextObject)
    (request : RequestCallbackInfo) (enabled : Bool) :
    Leaves I
      (submitOrComplete call clientId ctxId reqId reqEvent aVariant ctx request enabled) := by
  refine Prog.triple_ite (fun _ => ?_) (fun _ => ?_)
  · exact Prog.triple_seq (o.aside (fun _ => rfl) (fun _ => rfl)) (fun _ => leaves_pure _)
  · refine Prog.triple_seq (o.locked (unseen_clientSubmitRequest clientId)) (fun pktId => ?_)
    exact Prog.triple_seq (o.aside (fun _ => rfl) (fun _ => rfl)) (fun _ => leaves_pure _)

theorem mmSubmitRequest (call ctxId : Nat) (reqId : UInt32) (reqEvent : Matching2Event)
    (aVariant : Bool) : Leaves I (mmSubmitRequest call ctxId reqId reqEvent aVariant) := by
  refine Prog.triple_seq (leaves_reads _) (fun client => ?_)
  cases client with
  | none => exact leaves_pure _
  | some clientId =>
    refine Prog.triple_seq (leaves_reads _) (fun authenticated => ?_)
    refine Prog.triple_ite (fun _ => ?_) (fun _ => leaves_pure _)
    refine Prog.triple_seq (leaves_reads _) (fun found => ?_)
    cases found with
    | none => exact leaves_pure _
    | some ctx =>
      refine Prog.triple_seq (o.locked (unseen_consumeRequestCallback ctx.object))
        (fun request => ?_)
      refine Prog.triple_seq (leaves_reads _) (fun enabled => ?_)
      exact o.submitOrComplete _ _ _ _ _ _ _ _ _

theorem heldSubmission (call ctxId : Nat) (reqId : UInt32) (event : Matching2Event)
    (aVariant : Bool) : Leaves I (heldSubmission call ctxId reqId event aVariant) := by
  refine Prog.triple_seq (o.aside (fun _ => rfl) (fun _ => rfl)) (fun _ => ?_)
  refine Prog.triple_seq (o.mmSubmitRequest _ _ _ _ _) (fun result => ?_)
  exact Prog.triple_seq (o.aside (fun _ => rfl) (fun _ => rfl)) (fun _ => leaves_pure _)

omit o in
theorem requestContext (valid : Bool) (ctxId : Nat) : Leaves I (requestContext valid ctxId) := by
  refine Prog.triple_seq (leaves_reads _) (fun initialized => ?_)
  refine Prog.triple_ite (fun _ => ?_) (fun _ => leaves_pure _)
  refine Prog.triple_ite (fun _ => ?_) (fun _ => leaves_pure _)
  refine Prog.triple_seq (leaves_reads _) (fun found => ?_)
  cases found with
  | none => exact leaves_pure _
  | some ctx => exact leaves_pure _

theorem beginRequest (call object : Nat) (requestOpt : Option RequestOptParam) :
    Leaves I (beginRequest call object requestOpt) := by
  refine Prog.triple_seq (o.update (fun s => unseen_adjustObject ?_ s)) (fun _ => ?_)
  · exact fun _ => rfl
  · exact o.locked (fun s => ⟨rfl, rfl⟩)

/-- Every request call looks the context up, begins the request and goes on with it. -/
theorem request (call : Nat) (api : RequestApi) (ctxId : Nat) (valid : Bool)
    (requestOpt : Option RequestOptParam) :
    Leaves I (api.program call ctxId valid requestOpt) := by
  have looked : ∀ {β : Type} {rest : Except ApiError ContextObject → Matching2 (Except ApiError β)},
      (∀ error, rest (.error error) = pure (.error error)) →
      (∀ ctx, Leaves I (rest (.ok ctx))) →
      Leaves I (NpMatching2.requestContext valid ctxId >>= rest) := by
    intro β rest refused accepted
    refine Prog.triple_seq (requestContext valid ctxId) (fun found => ?_)
    cases found with
    | error error =>
      rw [refused]
      exact leaves_pure _
    | ok ctx => exact accepted ctx
  obtain ⟨event, data, -, program⟩ | ⟨-, program⟩ | ⟨event, aVariant, -, -, -, program⟩ :=
    api.program_cases
  all_goals rw [program]
  all_goals refine looked (fun _ => rfl) (fun ctx => ?_)
  all_goals refine Prog.triple_seq (o.beginRequest _ _ _) (fun reqId => ?_)
  · refine Prog.triple_seq (leaves_reads _) (fun hasData => ?_)
    refine Prog.triple_seq (o.locked (unseen_consumeRequestCallback ctx.object))
      (fun request => ?_)
    refine Prog.triple_seq (o.aside (fun _ => rfl) (fun _ => rfl)) (fun _ => ?_)
    exact Prog.triple_seq (o.aside (fun _ => rfl) (fun _ => rfl)) (fun _ => leaves_pure _)
  · exact Prog.triple_seq (o.heldSubmission _ _ _ _ _) (fun _ => leaves_pure _)
  · exact Prog.triple_seq (o.heldSubmission _ _ _ _ _) (fun _ => leaves_pure _)

omit o in
theorem onContext (ctxId : Nat) {body : ContextObject → Matching2 Unit}
    (leaves : ∀ ctx, Leaves I (body ctx)) : Leaves I (onContext ctxId body) := by
  refine Prog.triple_seq (requestContext true ctxId) (fun found => ?_)
  cases found with
  | error error => exact leaves_pure _
  | ok ctx => exact Prog.triple_seq (leaves ctx) (fun _ => leaves_pure _)

theorem contextStart (call ctxId : Nat) : Leaves I (sceNpMatching2ContextStart call ctxId) := by
  refine Prog.triple_seq (leaves_reads _) (fun initialized => ?_)
  refine Prog.triple_ite (fun _ => ?_) (fun _ => leaves_pure _)
  refine Prog.triple_seq (leaves_reads _) (fun active => ?_)
  refine Prog.triple_ite (fun _ => ?_) (fun _ => leaves_pure _)
  refine Prog.triple_seq (o.locked (unseen_contextManagerStart ctxId)) (fun started => ?_)
  cases started with
  | error error => exact leaves_pure _
  | ok started =>
    refine Prog.triple_seq (o.aside (fun _ => rfl) (fun _ => rfl)) (fun _ => ?_)
    refine Prog.triple_seq (Prog.triple_seq (o.mmSubmitRequest _ _ _ _ _)
      (fun _ => leaves_pure _)) (fun _ => ?_)
    exact Prog.triple_seq (o.aside (fun _ => rfl) (fun _ => rfl)) (fun _ => leaves_pure _)

theorem contextStop (call ctxId : Nat) : Leaves I (sceNpMatching2ContextStop call ctxId) := by
  refine Prog.triple_seq (leaves_reads _) (fun initialized => ?_)
  refine Prog.triple_ite (fun _ => ?_) (fun _ => leaves_pure _)
  refine Prog.triple_seq (o.locked (unseen_contextManagerStop ctxId)) (fun stopped => ?_)
  cases stopped with
  | error error => exact leaves_pure _
  | ok stopped =>
    refine Prog.triple_seq (leaves_reads _) (fun ctx => ?_)
    refine Prog.triple_seq ?_ (fun _ => ?_)
    · cases ctx with
      | none => exact leaves_pure ()
      | some ctx => exact Prog.triple_when (fun _ => o.runtime (fun b => b.stopMatching2 _ _ _))
    refine Prog.triple_seq (o.aside (fun _ => rfl) (fun _ => rfl)) (fun _ => ?_)
    refine Prog.triple_seq (o.mmSubmitRequest _ _ _ _ _) (fun submitted => ?_)
    cases submitted with
    | ok submitted =>
      exact Prog.triple_seq (o.aside (fun _ => rfl) (fun _ => rfl)) (fun _ => leaves_pure _)
    | error error =>
      refine Prog.triple_seq ?_ (fun _ => ?_)
      · cases ctx with
        | none => exact leaves_pure ()
        | some ctx => exact Prog.triple_update (fun s before => o.completeStop _ _ before)
      · exact Prog.triple_seq (o.aside (fun _ => rfl) (fun _ => rfl)) (fun _ => leaves_pure _)

theorem op {op : Op} (follows : op.rules = false) : Leaves I op.program := by
  cases op with
  | matching2Initialize valid threadOk =>
    refine Prog.triple_seq ?_ (fun _ => leaves_pure _)
    refine Prog.triple_seq (leaves_reads _) (fun initialized => ?_)
    refine Prog.triple_ite (fun _ => leaves_pure _) (fun _ => ?_)
    refine Prog.triple_ite (fun _ => ?_) (fun _ => leaves_pure _)
    refine Prog.triple_seq (o.update (unseen_initEventDispatcher threadOk)) (fun _ => ?_)
    exact Prog.triple_seq (o.aside (fun _ => rfl) (fun _ => rfl)) (fun _ => leaves_pure _)
  | contextStart call ctxId =>
    exact Prog.triple_seq (o.contextStart call ctxId) (fun _ => leaves_pure _)
  | contextStop call ctxId =>
    exact Prog.triple_seq (o.contextStop call ctxId) (fun _ => leaves_pure _)
  | request call api ctxId valid requestOpt =>
    exact Prog.triple_seq (o.request _ _ _ _ _) (fun _ => leaves_pure _)
  | setDefaultRequestOptParam ctxId requestOpt =>
    refine Prog.triple_seq (onContext ctxId (fun ctx => ?_)) (fun _ => leaves_pure _)
    refine o.update (fun s => unseen_adjustObject ?_ s)
    exact fun _ => rfl
  | registerSignalingCallback ctxId callback input =>
    refine Prog.triple_seq (onContext ctxId (fun ctx => ?_)) (fun _ => leaves_pure _)
    refine Prog.triple_seq (o.update (fun s => unseen_adjustObject ?_ s)) (fun _ => ?_)
    · exact fun _ => rfl
    · exact o.startMatching2 ctx.object input
  | getConnectionStatus ctxId roomId memberId =>
    refine Prog.triple_seq (onContext ctxId (fun ctx => ?_)) (fun _ => leaves_pure _)
    exact Prog.triple_seq (Prog.triple_locked (fun s before => o.status _ _ _ before))
      (fun _ => leaves_pure _)
  | roomMessage ctxId roomId srcMemberId =>
    refine Prog.triple_seq (leaves_reads _) (fun found => ?_)
    cases found with
    | none => exact leaves_pure _
    | some ctx => exact o.aside (fun _ => rfl) (fun _ => rfl)
  | takeReady => exact o.update unseen_takeReady
  | fireEvent =>
    refine Prog.triple_update (fun s before => ?_)
    unfold NpMatching2.fireEvent
    split
    · exact before
    · rename_i ev rest _
      have fired : Unseen s { s with ready := rest, fired := s.fired ++ [ev] } := ⟨rfl, rfl⟩
      dsimp only
      split
      · exact o.completeStop _ _ (o.unseen fired before)
      · exact o.unseen fired before
  | connectionLost clientId => exact o.aside (fun _ => rfl) (fun _ => rfl)
  | activeChanged active => exact o.aside (fun _ => rfl) (fun _ => rfl)
  | _ => cases follows

end Onlooker

end NpMatching2
