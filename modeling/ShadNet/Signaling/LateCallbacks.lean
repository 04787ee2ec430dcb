import ShadNet.Signaling.Sessions

/-!
# Callbacks of contexts that are gone

A staged event carries its context's callback and argument in the queue of the
dispatch thread. `sceNpSignalingTerminate` empties that queue, and
`sceNpSignalingDeleteContext` does not look at it, so an event may be dispatched
after its context was deleted, or after another context got the id.
-/

namespace NpSignaling

open KeyedTable LockProgram

/-! ## Calls and dispatches as they are seen from outside -/

/-- What a call that has returned has put an end to. -/
inductive Scope where
  | context (ctxId : Nat)
  | library
  deriving DecidableEq, Repr

inductive Seen where
  | locked (label : LockSection)
  | returned (scope : Scope)
  deriving DecidableEq, Repr

/-- The runtime with a record of the events, by their position in `staged`, that outlived their
contexts. -/
structure Watched where
  runtime : NpSignalingState := {}
  orphaned : List Nat := []
  /-- How many events were staged when `sceNpSignalingTerminate` last cleared the contexts. -/
  ended : Nat := 0
  /-- The events of contexts whose deleting or terminating call has returned. -/
  returned : List Nat := []

/-- The events whose context is there in `s` and gone in `s'`. -/
def orphans (s s' : NpSignalingState) : List Nat :=
  (List.range s'.staged.length).filter (fun position =>
    (s'.staged[position]?).any (fun d =>
      (s.context? d.ctxId).isSome && (s'.context? d.ctxId).isNone))

namespace Watched

def locked (label : LockSection) (update : NpSignalingState → NpSignalingState) (w : Watched) :
    Watched :=
  let runtime := update w.runtime
  { w with
    runtime
    orphaned := w.orphaned ++ orphans w.runtime runtime
    ended := if label = .reset then runtime.staged.length else w.ended }

/-- The events a returning call has put an end to. -/
def covered (w : Watched) : Scope → List Nat
  | .context ctxId =>
    w.orphaned.filter (fun position =>
      (w.runtime.staged[position]?).any (fun d => d.ctxId = ctxId))
  | .library => List.range w.ended

def callReturned (scope : Scope) (w : Watched) : Watched :=
  { w with returned := w.returned ++ w.covered scope }

/-- The event waits in the queue, or the dispatch thread holds it. -/
def pending (w : Watched) (position : Nat) : Prop :=
  w.runtime.taken ≤ position ∨ w.runtime.inHand = some position

instance (w : Watched) (position : Nat) : Decidable (w.pending position) :=
  inferInstanceAs (Decidable (_ ∨ _))

end Watched

def watch {α : Type} : Signaling α → Prog Watched Seen α
  | .done result => .done result
  | .atomic label update next =>
    .atomic (.locked label) (Watched.locked label update) (fun w => watch (next w.runtime))

def Op.scope : Op → CallResult → Option Scope
  | .deleteContext ctxId, .done (.ok _) => some (.context ctxId)
  | .signalingTerminate, .done (.ok _) => some .library
  | _, _ => none

def Op.watched (op : Op) : Prog Watched Seen Unit := do
  let result ← watch op.call
  Prog.forSome (op.scope result) (fun scope =>
    Prog.update (.returned scope) (Watched.callReturned scope))

/-- `sceNpJoinThread` waits for the callback the dispatch thread is in. -/
def Joining (action : Action Op) (pool : Pool Watched Seen) : Prop :=
  pool.label action = some (.locked .joinDispatch) ∧ pool.state.runtime.inHand.isSome

instance (action : Action Op) (pool : Pool Watched Seen) : Decidable (Joining action pool) :=
  inferInstanceAs (Decidable (_ ∧ _))

def watchedStep (action : Action Op) (pool : Pool Watched Seen) : Pool Watched Seen :=
  if Joining action pool then pool else Pool.step Op.watched action pool

/-- No callback comes too late in a step from `w` to `w'`. -/
structure InTime (w w' : Watched) : Prop where
  starts : ∀ position, w'.runtime.inHand = some position → w.runtime.inHand ≠ some position →
    position ∉ w.returned
  calls : ∀ position, w'.runtime.invoked = w.runtime.invoked ++ [position] →
    position ∈ w.orphaned → ∀ d, w.runtime.staged[position]? = some d →
      w.runtime.context? d.ctxId = none

/-- No event of the ended contexts is left where the dispatch thread can still come to it. -/
def DispatchesEnded : Seen → Watched → Prop
  | .locked .createContext, w =>
    w.runtime.initialized = true → ∀ ctxId ∈ (allocateContextIdLocked w.runtime).1,
      ∀ position ∈ w.orphaned, w.pending position →
        ∀ d ∈ w.runtime.staged[position]?, d.ctxId ≠ ctxId
  | .locked .reset, w => w.runtime.dispatchStop = true
  | .returned (.context ctxId), w =>
    ∀ position ∈ w.covered (.context ctxId), position < w.runtime.taken
  | _, _ => True

instance DispatchesEnded.decidable : ∀ (seen : Seen) (w : Watched),
    Decidable (DispatchesEnded seen w)
  | .locked .createContext, w =>
    inferInstanceAs (Decidable (_ → ∀ ctxId ∈ (allocateContextIdLocked w.runtime).1,
      ∀ position ∈ w.orphaned, _ → ∀ d ∈ w.runtime.staged[position]?, _))
  | .locked .reset, _ => inferInstanceAs (Decidable (_ = _))
  | .returned (.context ctxId), w =>
    inferInstanceAs (Decidable (∀ position ∈ w.covered (.context ctxId), _))
  | .returned .library, _ | .locked (.startTransportHandshakeInitiator _), _
  | .locked (.establishConnection _), _ | .locked (.activateSig1 ..), _
  | .locked (.activateConnectionA _), _ | .locked (.handleControlPacket _), _
  | .locked .joinDispatch, _ | .locked .other, _ => isTrue trivial

/-! ## What a section does to the queue and to the contexts -/

/-- The queue holds what is staged and not taken, and nothing once it was stopped. -/
structure Queued (s : NpSignalingState) : Prop where
  taken : s.taken ≤ s.staged.length
  stopped : s.dispatchStop = true → s.taken = s.staged.length

/-- The dispatch thread goes on in the queue, one event after the other. -/
structure DispatchMoves (s s' : NpSignalingState) : Prop where
  staged : s.staged <+: s'.staged
  taken : s.taken ≤ s'.taken
  inHand : ∀ position, s'.inHand = some position →
    s.inHand = some position ∨ s.taken ≤ position
  invoked : ∀ position, s'.invoked = s.invoked ++ [position] → s.inHand = some position

section Sections

variable {s s' : NpSignalingState} {licence : Licence} {label : LockSection}
  {update : NpSignalingState → NpSignalingState}

theorem not_invoked (same : s'.invoked = s.invoked) (position : Nat) :
    s'.invoked ≠ s.invoked ++ [position] := by
  intro more
  have lengths := congrArg List.length (same.symm.trans more)
  simp at lengths

theorem QueueGrows.moves (grows : QueueGrows s s') : DispatchMoves s s' where
  staged := grows.staged
  taken := Nat.le_of_eq grows.taken.symm
  inHand _ held := Or.inl (grows.inHand ▸ held)
  invoked position more := absurd more (not_invoked grows.invoked position)

theorem QueueGrows.queued (grows : QueueGrows s s') (queued : Queued s) : Queued s' where
  taken := by
    rw [grows.taken]
    exact Nat.le_trans queued.taken grows.staged.length_le
  stopped := by
    intro stop
    have stop' : s.dispatchStop = true := grows.dispatchStop ▸ stop
    rw [grows.taken, grows.stopped stop', queued.stopped stop']

theorem queued_stopDispatch : Queued (stopDispatchLocked s) :=
  ⟨Nat.le_refl _, fun _ => rfl⟩

theorem moves_stopDispatch (queued : Queued s) : DispatchMoves s (stopDispatchLocked s) where
  staged := List.prefix_refl _
  taken := queued.taken
  inHand _ held := Or.inl held
  invoked position more := absurd more (not_invoked rfl position)

theorem takeDispatch_cases (s : NpSignalingState) :
    takeDispatchLocked s = (false, s) ∨
      s.dispatchStop = false ∧ s.inHand = none ∧ s.taken < s.staged.length ∧
        takeDispatchLocked s = (true, { s with taken := s.taken + 1, inHand := some s.taken }) := by
  simp only [takeDispatchLocked]
  split
  · exact Or.inl rfl
  · rename_i ready
    obtain ⟨running, free, some'⟩ : s.dispatchStop = false ∧ s.inHand = none ∧
        s.dispatchQueue ≠ [] := by
      simpa [not_or] using ready
    refine Or.inr ⟨running, free, ?_, rfl⟩
    simpa [NpSignalingState.dispatchQueue, List.drop_eq_nil_iff] using some'

theorem section_moves (member : Section licence label update) (coherent : Coherent s)
    (queued : Queued s) : DispatchMoves s (update s) ∧ Queued (update s) := by
  obtain grows | dispatching := section_queueGrows member coherent
  · exact ⟨grows.moves, grows.queued queued⟩
  have unmoved : DispatchMoves s s := (QueueGrows.refl s).moves
  cases dispatching with
  | signalingInitialize heapOk echoOk =>
    rcases initialize_cases heapOk echoOk s with same | started | failed
    · rw [same]
      exact ⟨unmoved, queued⟩
    · rw [started]
      exact ⟨{ unmoved with }, ⟨queued.taken, fun stop => absurd stop (by simp)⟩⟩
    · rw [failed]
      exact ⟨{ moves_stopDispatch queued with }, queued_stopDispatch⟩
  | stopDispatch => exact ⟨moves_stopDispatch queued, queued_stopDispatch⟩
  | takeDispatch _ =>
    rcases takeDispatch_cases s with same | ⟨running, free, more, took⟩
    · simp only [same]
      exact ⟨unmoved, queued⟩
    · simp only [took]
      constructor
      · constructor
        · exact List.prefix_refl _
        · exact Nat.le_succ _
        · intro position held
          exact Or.inr (Nat.le_of_eq (Option.some.inj held))
        · intro position invoked
          exact absurd invoked (not_invoked rfl position)
      · exact ⟨more, fun stop => absurd (running.symm.trans stop) (by simp)⟩
  | invokeCallback _ =>
    simp only [invokeCallback]
    cases held : s.inHand with
    | none => exact ⟨unmoved, queued⟩
    | some called =>
      constructor
      · constructor
        · exact List.prefix_refl _
        · exact Nat.le_refl _
        · intro position inHand
          cases inHand
        · intro position invoked
          have same : called = position := by simpa using invoked
          rw [held, same]
      · exact ⟨queued.taken, queued.stopped⟩

/-- A context is made in one section only. -/
theorem structural_contexts (member : Structural licence label update) :
    label = .createContext ∨ ∀ ctx ∈ (update s).contexts, ctx ∈ s.contexts := by
  cases member with
  | eraseTransport transportId sig1Conns =>
    obtain ⟨npidToConn, erased⟩ := eraseTransport_eq transportId sig1Conns s
    rw [erased]
    exact Or.inr (fun _ member => member)
  | createContext request now => exact Or.inl rfl
  | eraseContext ctxId =>
    obtain ⟨npidToConn, erased⟩ := eraseContext_eq ctxId s
    rw [erased]
    exact Or.inr (fun _ member => (mem_remove.mp member).1)
  | signalingInitialize heapOk echoOk =>
    right
    rcases initialize_cases heapOk echoOk s with same | started | failed
    · rw [same]
      exact fun _ member => member
    · rw [started]
      exact fun _ member => member
    · rw [failed]
      exact fun _ member => member
  | stopLibrary _ => exact Or.inr (fun _ member => member)
  | stopDispatch _ => exact Or.inr (fun _ member => member)
  | joinDispatch => exact Or.inr (fun _ member => member)
  | takeDispatch _ =>
    obtain ⟨taken, inHand, round⟩ := takeDispatch_eq s
    simp only [round]
    exact Or.inr (fun _ member => member)
  | invokeCallback _ =>
    obtain ⟨inHand, invoked, called⟩ := invokeCallback_eq s
    rw [called]
    exact Or.inr (fun _ member => member)
  | reset _ => exact Or.inr (fun _ member => absurd member (List.not_mem_nil))
  | rehash tables =>
    right
    simp only [rehashLocked]
    split
    · rename_i same
      exact fun _ member => (List.isPerm_iff.mp same.1).mem_iff.mp member
    · exact fun _ member => member

theorem allocateContextId_eq {request : ContextRequest} {now : Int} {ctxId : Nat}
    (made : (createContextLocked request now s).1 = .ok ctxId) :
    s.initialized = true ∧ (allocateContextIdLocked s).1 = some ctxId := by
  simp only [createContextLocked] at made
  split at made
  · cases made
  · rename_i on
    cases allocated : allocateContextIdLocked s with
    | mk found s₁ =>
      cases found with
      | none =>
        rw [allocated] at made
        cases made
      | some found =>
        rw [allocated] at made
        cases made
        exact ⟨by simpa using on, rfl⟩

/-- An id without a context has none after the section, unless it is the next one to be given. -/
theorem section_contexts (member : Section licence label update) (coherent : Coherent s)
    {ctxId : Nat} (gone : s.context? ctxId = none)
    (unused : label = .createContext → s.initialized = true →
      (allocateContextIdLocked s).1 ≠ some ctxId) : (update s).context? ctxId = none := by
  apply lookup_none.mpr
  intro ctx' member' same
  obtain ⟨made, evolves⟩ | structural := section_split member coherent
  · obtain ⟨ctx, member, sameId⟩ := evolves.surroundings.1 ctx' member'
    exact lookup_none.mp gone ctx member (sameId.trans same)
  by_cases creates : label = .createContext
  · cases structural with
    | createContext request now =>
      rcases createContext_cases request now s with ⟨error, refused⟩ | ⟨made, -, -, on, created⟩
      · simp only [refused] at member'
        exact lookup_none.mp gone ctx' member' same
      · simp only [created] at member'
        rcases mem_store.mp member' with ⟨old, -⟩ | rfl
        · exact lookup_none.mp gone ctx' old same
        · obtain ⟨-, allocated⟩ := allocateContextId_eq (congrArg Prod.fst created)
          have next : made = ctxId := same
          exact unused rfl on (allocated.trans (congrArg some next))
    | _ => cases creates
  · have old := (structural_contexts structural).resolve_left creates ctx' member'
    exact lookup_none.mp gone ctx' old same

end Sections

/-! ## Runs as they are seen -/

inductive WatchedSection : Seen → (Watched → Watched) → Prop where
  | locked {label : LockSection} {update : NpSignalingState → NpSignalingState}
      (member : Section anyLicence label update) :
      WatchedSection (.locked label) (Watched.locked label update)
  | returned (scope : Scope) : WatchedSection (.returned scope) (Watched.callReturned scope)

theorem uses_watch {α : Type} {p : Signaling α} (uses : p.Uses (Section anyLicence)) :
    (watch p).Uses WatchedSection := by
  induction p with
  | done result => trivial
  | atomic label update next ih =>
    exact ⟨.locked uses.1, fun w => ih w.runtime (uses.2 w.runtime)⟩

theorem call_uses (op : Op) : op.call.Uses (Section anyLicence) := by
  have uses := op_uses_any op
  cases op with
  | signalingTerminate => exact uses.of_bind.bind (fun _ => Prog.uses_pure _)
  | createContext npid valid callback callbackArg sdkVersion now =>
    exact uses.of_bind.bind (fun _ => Prog.uses_pure _)
  | createContextA account callback callbackArg sdkVersion now =>
    exact uses.of_bind.bind (fun _ => Prog.uses_pure _)
  | deleteContext ctxId => exact uses.of_bind.bind (fun _ => Prog.uses_pure _)
  | activateSig1 ctxId peerNpid random now => exact uses.of_bind.bind (fun _ => Prog.uses_pure _)
  | activateConnection ctxId peerNpid valid random now =>
    exact uses.of_bind.bind (fun _ => Prog.uses_pure _)
  | activateConnectionA ctxId accountId platformType random now =>
    exact uses.of_bind.bind (fun _ => Prog.uses_pure _)
  | deactivateConnection ctxId connId => exact uses.of_bind.bind (fun _ => Prog.uses_pure _)
  | terminateConnection ctxId connId => exact uses.of_bind.bind (fun _ => Prog.uses_pure _)
  | getPeerNetInfo ctxId valid externalIpv4 natRouteKind =>
    exact uses.of_bind.bind (fun _ => Prog.uses_pure _)
  | getPeerNetInfoA ctxId externalIpv4 natRouteKind =>
    exact uses.of_bind.bind (fun _ => Prog.uses_pure _)
  | cancelPeerNetInfo ctxId reqOrConnId => exact uses.of_bind.bind (fun _ => Prog.uses_pure _)
  | getPeerNetInfoResult ctxId connId => exact uses.of_bind.bind (fun _ => Prog.uses_pure _)
  | getConnectionStatistics => exact uses.of_bind.bind (fun _ => Prog.uses_pure _)
  | _ => exact uses.bind (fun _ => Prog.uses_pure _)

theorem watched_uses (op : Op) : op.watched.Uses WatchedSection := by
  apply (uses_watch (call_uses op)).bind
  intro result
  exact Prog.uses_forSome (fun scope _ => Prog.uses_update (.returned scope))

/-- What holds between any two sections of a run in which the dispatches end in time. -/
structure Settled (w : Watched) : Prop where
  coherent : Coherent w.runtime
  queued : Queued w.runtime
  orphaned : ∀ position ∈ w.orphaned, position < w.runtime.staged.length
  ended : w.ended ≤ w.runtime.taken
  returned : ∀ position ∈ w.returned, position < w.runtime.taken
  gone : ∀ position ∈ w.orphaned, w.pending position →
    ∀ d, w.runtime.staged[position]? = some d → w.runtime.context? d.ctxId = none

section Steps

variable {w : Watched} {label : LockSection} {update : NpSignalingState → NpSignalingState}

theorem mem_orphans {s s' : NpSignalingState} {position : Nat} :
    position ∈ orphans s s' ↔ ∃ d, s'.staged[position]? = some d ∧
      s.context? d.ctxId ≠ none ∧ s'.context? d.ctxId = none := by
  simp only [orphans, List.mem_filter, List.mem_range]
  constructor
  · rintro ⟨inRange, lost⟩
    rw [List.getElem?_eq_getElem inRange] at lost ⊢
    exact ⟨_, rfl, by simpa [Option.isSome_iff_ne_none] using lost⟩
  · rintro ⟨d, there, lost⟩
    obtain ⟨inRange, -⟩ := List.getElem?_eq_some_iff.mp there
    refine ⟨inRange, ?_⟩
    rw [there]
    simpa [Option.isSome_iff_ne_none] using lost

theorem Watched.pending.before {w' : Watched} {position : Nat}
    (moves : DispatchMoves w.runtime w'.runtime) (pending : w'.pending position) :
    w.pending position := by
  rcases pending with waiting | held
  · exact Or.inl (Nat.le_trans moves.taken waiting)
  · rcases moves.inHand position held with before | waiting
    · exact Or.inr before
    · exact Or.inl waiting

theorem section_reset {licence : Licence} (member : Section licence .reset update)
    (s : NpSignalingState) : update s = resetSig1Data s := by
  cases member with
  | structural member =>
    cases member with
    | reset _ => rfl

theorem Settled.locked (settled : Settled w) (member : Section anyLicence label update)
    (ended : DispatchesEnded (.locked label) w) : Settled (w.locked label update) := by
  obtain ⟨moves, queued⟩ := section_moves member settled.coherent settled.queued
  have moves' : DispatchMoves w.runtime (w.locked label update).runtime := moves
  constructor
  · exact section_coherent member settled.coherent
  · exact queued
  · intro position orphaned
    rcases List.mem_append.mp orphaned with old | new
    · exact Nat.lt_of_lt_of_le (settled.orphaned position old) moves.staged.length_le
    · obtain ⟨d, there, -⟩ := mem_orphans.mp new
      exact (List.getElem?_eq_some_iff.mp there).1
  · simp only [Watched.locked]
    split
    · rename_i clears
      subst clears
      rw [section_reset member] at queued ⊢
      exact Nat.le_of_eq (queued.stopped ended).symm
    · exact Nat.le_trans settled.ended moves.taken
  · exact fun position member => Nat.lt_of_lt_of_le (settled.returned position member) moves.taken
  · intro position orphaned pending d there
    rcases List.mem_append.mp orphaned with old | new
    · have before : w.runtime.staged[position]? = some d := by
        obtain ⟨news, appended⟩ := moves'.staged
        rw [← there, ← appended, List.getElem?_append_left (settled.orphaned position old)]
      have gone := settled.gone position old (pending.before moves') d before
      apply section_contexts member settled.coherent gone
      rintro rfl on allocated
      exact ended on d.ctxId allocated position old (pending.before moves') d before rfl
    · obtain ⟨d', there', -, gone⟩ := mem_orphans.mp new
      have same : d' = d := Option.some.inj (there'.symm.trans there)
      rw [← same]
      exact gone

theorem Settled.inTime (settled : Settled w) (member : Section anyLicence label update) :
    InTime w (w.locked label update) := by
  obtain ⟨moves, -⟩ := section_moves member settled.coherent settled.queued
  constructor
  · intro position held before returned
    rcases moves.inHand position held with same | waiting
    · exact before same
    · exact absurd (settled.returned position returned) (Nat.not_lt_of_le waiting)
  · intro position invoked orphaned d there
    exact settled.gone position orphaned (Or.inr (moves.invoked position invoked)) d there

theorem Settled.callReturned (settled : Settled w) (scope : Scope)
    (ended : DispatchesEnded (.returned scope) w) : Settled (w.callReturned scope) :=
  { settled with
    returned := by
      intro position member
      rcases List.mem_append.mp member with old | new
      · exact settled.returned position old
      · cases scope with
        | context ctxId => exact ended position new
        | library => exact Nat.lt_of_lt_of_le (List.mem_range.mp new) settled.ended }

theorem inTime_of_same {w' : Watched} (same : w'.runtime = w.runtime) : InTime w w' where
  starts _ held before := absurd (same ▸ held) before
  calls position invoked := absurd invoked (not_invoked (congrArg _ same) position)

theorem settled_section {label : Seen} {update : Watched → Watched}
    (member : WatchedSection label update) (settled : Settled w)
    (ended : DispatchesEnded label w) : Settled (update w) ∧ InTime w (update w) := by
  cases member with
  | locked member => exact ⟨settled.locked member ended, settled.inTime member⟩
  | returned scope => exact ⟨settled.callReturned scope ended, inTime_of_same rfl⟩

end Steps

theorem settled_start : Settled {} where
  coherent := coherent_start
  queued := ⟨Nat.le_refl 0, fun _ => rfl⟩
  orphaned position member := by cases member
  ended := Nat.le_refl 0
  returned position member := by cases member
  gone position member := by cases member

/-- No callback starts after its delete or terminate has returned, and none is called for a later
context, as long as no event is left behind. -/
theorem callbacks_end_in_time (actions : List (Action Op))
    (ended : Runs.Admitted watchedStep (Pool.Permitted DispatchesEnded) actions ⟨{}, []⟩) :
    Runs.Throughout watchedStep (fun _ => True)
      (fun _ pool pool' => InTime pool.state pool'.state) actions ⟨{}, []⟩ := by
  let Inv (pool : Pool Watched Seen) : Prop :=
    Pool.ThreadsUse WatchedSection pool ∧ Settled pool.state
  have start : Inv ⟨{}, []⟩ := ⟨fun p member => absurd member (List.not_mem_nil), settled_start⟩
  refine Runs.throughout_of_admitted (fun _ _ => trivial) ?_ start ended
  rintro action pool ⟨threads, settled⟩ permitted
  by_cases joining : Joining action pool
  · rw [watchedStep, if_pos joining]
    exact ⟨⟨threads, settled⟩, inTime_of_same rfl⟩
  rw [watchedStep, if_neg joining]
  obtain ⟨threads', ⟨-, same⟩ | ⟨label, update, member, taken, state⟩⟩ :=
    Pool.step_cases watched_uses threads action
  · exact ⟨⟨threads', same ▸ settled⟩, inTime_of_same (congrArg _ same)⟩
  · obtain ⟨settled', inTime⟩ := settled_section member settled (permitted label taken)
    exact ⟨⟨threads', state ▸ settled'⟩, state ▸ inTime⟩

/-- `ali` activates a connection to `bob`, which the delete has to close. -/
def activatedOps : List Op :=
  [.signalingInitialize true true,
    .createContext ali true (some 1) 7 0 10,
    .activateConnection 1 bob true 0 20]

/-- The dispatch thread comes before the delete returns; a later session gives the id again. -/
def promptRun : List (Action Op) :=
  Action.serial 6 activatedOps ++ .spawn (.deleteContext 1) :: List.replicate 7 (.take 3) ++
    .spawn .dispatchThread :: List.replicate 2 (.take 4) ++ List.replicate 3 (.take 3) ++
    .spawn .signalingTerminate :: List.replicate 5 (.take 5) ++
    .spawn (.signalingInitialize true true) :: .take 6 ::
    .spawn (.createContext ali true (some 2) 8 0 30) :: List.replicate 4 (.take 7)

theorem promptRun_in_time :
    Runs.Throughout watchedStep (fun _ => True)
      (fun _ pool pool' => InTime pool.state pool'.state) promptRun ⟨{}, []⟩ :=
  callbacks_end_in_time promptRun (by decide +kernel)

/-- The delete returns with the DEAD event it staged still in the queue. -/
def deletedRun : List (Action Op) :=
  Action.serial 10 (activatedOps ++ [.deleteContext 1]) ++ [.spawn .dispatchThread]

theorem deletedRun_not_in_time :
    ¬ Runs.Throughout watchedStep (fun _ => True)
      (fun _ pool pool' => InTime pool.state pool'.state) (deletedRun ++ [.take 4]) ⟨{}, []⟩ := by
  intro holds
  let returned := Runs.run watchedStep deletedRun ⟨{}, []⟩
  let after := watchedStep (.take 4) returned
  have inTime : InTime returned.state after.state := holds.moved
  have idle : returned.state.runtime.inHand = none := by decide +kernel
  have started : after.state.runtime.inHand = some 0 := by decide +kernel
  have covered : 0 ∈ returned.state.returned := by decide +kernel
  have early : 0 ∉ returned.state.returned := inTime.starts 0 started (by simp [idle])
  exact early covered

/-- Eight contexts later the id is given again, and the event is called with the old argument. -/
def reusedRun : List (Action Op) :=
  Action.serial 10 (activatedOps ++ [.deleteContext 1] ++
    List.replicate 8 (.createContext ali true (some 2) 8 0 30) ++ [.dispatchThread])

example :
    let late := (Runs.run watchedStep reusedRun ⟨{}, []⟩).state.runtime
    late.invoked = [0] ∧ late.staged.map (fun d => (d.ctxId, d.callbackArg)) = [(1, 7)] ∧
      (late.context? 1).map (·.callbackArg) = some 8 := by
  decide +kernel

end NpSignaling
