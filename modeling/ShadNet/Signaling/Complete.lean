import ShadNet.Signaling.Effects

/-!
# Complete operations

What every complete operation keeps: the tables stay coherent, and as long as a
context exists the library is initialized and its dispatcher takes events. Only
the terminating call passes through states where this fails, and it leaves no
context behind.
-/

namespace NpSignaling

open KeyedTable LockProgram

structure Running (s : NpSignalingState) : Prop where
  initialized : s.contexts ≠ [] → s.initialized = true
  dispatching : s.initialized = true → s.dispatchStop = false

theorem running_start : Running {} := ⟨by simp, by simp⟩

theorem Running.context {s : NpSignalingState} (running : Running s) {ctx : NpSignalingContext}
    (member : ctx ∈ s.contexts) : s.dispatchStop = false :=
  running.dispatching (running.initialized (List.ne_nil_of_mem member))

section Running

variable {R : PeerTransport → PeerTransport → Prop} {made : List ConnectionInfo}
  {s s' : NpSignalingState}

theorem Running.of_same (running : Running s)
    (contexts : ∀ ctx' ∈ s'.contexts, ∃ ctx ∈ s.contexts, ctx.ctxId = ctx'.ctxId)
    (initialized : s'.initialized = s.initialized) (dispatchStop : s'.dispatchStop = s.dispatchStop) :
    Running s' := by
  refine ⟨fun some' => ?_, fun on => ?_⟩
  · obtain ⟨ctx', member'⟩ := List.exists_mem_of_ne_nil _ some'
    obtain ⟨ctx, member, -⟩ := contexts ctx' member'
    rw [initialized]
    exact running.initialized (List.ne_nil_of_mem member)
  · rw [dispatchStop]
    exact running.dispatching (initialized ▸ on)

/-- Sections that make and remove neither contexts nor change what the library says of itself. -/
theorem Evolves.surroundings (evolves : Evolves R made s s') :
    (∀ ctx' ∈ s'.contexts, ∃ ctx ∈ s.contexts, ctx.ctxId = ctx'.ctxId) ∧
      s'.initialized = s.initialized ∧ s'.dispatchStop = s.dispatchStop := by
  induction evolves with
  | refl _ => exact ⟨fun ctx hctx => ⟨ctx, hctx, rfl⟩, rfl, rfl⟩
  | kept _ kept ih =>
    obtain ⟨contexts, on, stop⟩ := ih
    refine ⟨fun ctx hctx => ?_, kept.initialized.trans on, kept.dispatchStop.trans stop⟩
    obtain ⟨ctx₁, member₁, sameId, -⟩ := kept.contexts.mem_new hctx
    obtain ⟨ctx₀, member₀, sameId₀⟩ := contexts ctx₁ member₁
    exact ⟨ctx₀, member₀, sameId₀.trans sameId.symm⟩
  | removed connId _ ih =>
    obtain ⟨npidToConn, removed⟩ := removeConnection_eq connId _
    rw [removed]
    exact ih
  | created _ created ih =>
    obtain ⟨t, seed, -, -, -, -, -, -, rfl⟩ := created
    exact ih
  | inserted _ _ _ _ _ _ _ ih => exact ih
  | indexed _ _ _ _ ih => exact ih

theorem Running.evolves (running : Running s) (evolves : Evolves R made s s') : Running s' :=
  running.of_same evolves.surroundings.1 evolves.surroundings.2.1 evolves.surroundings.2.2

theorem section_running {licence : Licence} {label : LockSection}
    {update : NpSignalingState → NpSignalingState} (member : Section licence label update)
    (keepsOn : ¬ licence.stops) (coherent : Coherent s) (running : Running s) :
    Running (update s) := by
  obtain ⟨made, evolves⟩ | structural := section_split member coherent
  · exact running.evolves evolves
  cases structural with
  | eraseTransport transportId sig1Conns =>
    obtain ⟨npidToConn, erased⟩ := eraseTransport_eq transportId sig1Conns s
    rw [erased]
    exact ⟨running.initialized, running.dispatching⟩
  | createContext request now =>
    rcases createContext_cases request now s with ⟨error, same⟩ | ⟨ctxId, -, -, on, made⟩
    · simp only [same]
      exact running
    · simp only [made]
      exact ⟨fun _ => on, running.dispatching⟩
  | eraseContext ctxId =>
    obtain ⟨npidToConn, erased⟩ := eraseContext_eq ctxId s
    rw [erased]
    refine ⟨fun some' => running.initialized ?_, running.dispatching⟩
    obtain ⟨ctx, hctx⟩ := List.exists_mem_of_ne_nil _ some'
    exact List.ne_nil_of_mem (mem_remove.mp hctx).1
  | signalingInitialize heapOk echoOk =>
    simp only [initializeLocked]
    split
    · exact running
    split
    · exact running
    split
    · exact ⟨fun _ => rfl, fun _ => rfl⟩
    · rename_i off _ _
      exact ⟨fun some' => absurd (running.initialized some') off, by simp [stopDispatchLocked]⟩
  | stopLibrary stops => exact absurd stops keepsOn
  | stopDispatch stops => exact absurd stops keepsOn
  | joinDispatch => exact running
  | takeDispatch _ =>
    obtain ⟨taken, inHand, round⟩ := takeDispatch_eq s
    simp only [round]
    exact ⟨running.initialized, running.dispatching⟩
  | invokeCallback _ =>
    obtain ⟨inHand, invoked, called⟩ := invokeCallback_eq s
    rw [called]
    exact ⟨running.initialized, running.dispatching⟩
  | reset stops => exact absurd stops keepsOn
  | rehash tables =>
    simp only [rehashLocked]
    split
    · rename_i same
      have perm := List.isPerm_iff.mp same.1
      exact running.of_same (fun ctx hctx => ⟨ctx, perm.mem_iff.mp hctx, rfl⟩) rfl rfl
    · exact running

end Running

/-! ## Shutting the library down -/

/-- Only the reference count and the threads of the runtime differ. -/
def OnlyRuntime (s s' : NpSignalingState) : Prop :=
  ∃ contextRefs runtimeRunning, s' = { s with contextRefs, runtimeRunning }

theorem triple_releaseContextRef (s : NpSignalingState) :
    Prog.Triple (OnlyRuntime s) releaseContextRef (fun _ => OnlyRuntime s) := by
  have dropped : Prog.Triple (OnlyRuntime s) (inLock (fun s : NpSignalingState =>
      let s := if s.contextRefs > 0 then { s with contextRefs := s.contextRefs - 1 } else s
      (decide (s.contextRefs = 0), s))) (fun _ => OnlyRuntime s) := by
    apply Prog.triple_locked
    rintro _ ⟨refs, threads, rfl⟩
    dsimp only
    split <;> exact ⟨_, _, rfl⟩
  · refine dropped.bind (fun shouldStop => Prog.triple_when (fun _ => Prog.triple_update ?_))
    rintro _ ⟨refs, threads, rfl⟩
    simp only [stopRuntime]
    split <;> exact ⟨_, _, rfl⟩

/-- Terminating empties the tables of contexts and connections, and leaves the transports. -/
theorem terminate_exec (s : NpSignalingState) :
    Op.signalingTerminate.complete s = s ∧ s.initialized = false ∨
      OnlyRuntime (resetSig1Data (stopDispatchLocked { s with initialized := false }))
        (Op.signalingTerminate.complete s) := by
  let stopped := resetSig1Data (stopDispatchLocked { s with initialized := false })
  have each : ∀ ctx ∈ s.contexts, Prog.Triple (OnlyRuntime stopped) releaseContextRef
      (fun _ => OnlyRuntime stopped) := fun _ _ => triple_releaseContextRef stopped
  have released := Prog.triple_forEach_mem each stopped ⟨_, _, rfl⟩
  simp only [Op.complete, Op.program, sceNpSignalingTerminate, Prog.exec_bind, Prog.exec_ite,
    Prog.exec_pure]
  split
  · rename_i off
    have off' : s.initialized = false := off
    have same : { s with initialized := false } = s := by rw [← off']
    exact Or.inl ⟨same, off'⟩
  · exact Or.inr released

/-- Any program of the runtime leaves coherent tables behind. -/
theorem exec_coherent {α : Type} {s : NpSignalingState} {p : Signaling α}
    (uses : p.Uses (Section anyLicence)) (coherent : Coherent s) : Coherent (p.exec s).2 :=
  uses.exec_keeps (fun _ _ member _ inv => section_coherent member inv) coherent

/-- What holds between any two complete operations. -/
structure Sound (s : NpSignalingState) : Prop where
  coherent : Coherent s
  running : Running s

theorem sound_start : Sound {} := ⟨coherent_start, running_start⟩

/-- Between complete operations the event of a connection goes to its context's callback. -/
theorem Sound.ownDispatch_eq {s : NpSignalingState} (sound : Sound s) {ci : ConnectionInfo}
    {ctx : NpSignalingContext} (member : ctx ∈ s.contexts) (owner : ctx.ctxId = ci.ctxId)
    {callback : Nat} (calls : ctx.callback = some callback) (eventType : SignalingEvent)
    (errorCode : Option SignalingError) :
    ownDispatch s ci eventType errorCode =
      [⟨ctx.ctxId, ci.connId, eventType, errorCode, callback, ctx.callbackArg, ci.serial⟩] := by
  have found : s.context? ci.ctxId = some ctx := by
    rw [← owner]
    exact sound.coherent.context_of_mem member
  have active := (sound.coherent.contextIds ctx member).2
  have takes := sound.running.context member
  simp [ownDispatch, found, active, basicDispatch, calls, takes]

theorem exec_sound {α : Type} {licence : Licence} {s : NpSignalingState} {p : Signaling α}
    (uses : p.Uses (Section licence)) (keepsOn : ¬ licence.stops) (sound : Sound s) :
    Sound (p.exec s).2 := by
  have keeps : ∀ label update, Section licence label update → ∀ s, Sound s → Sound (update s) := by
    rintro label update member s ⟨coherent, running⟩
    exact ⟨section_coherent member coherent, section_running member keepsOn coherent running⟩
  exact uses.exec_keeps keeps sound

theorem Sound.complete {s : NpSignalingState} (sound : Sound s) (op : Op) :
    Sound (op.complete s) := by
  by_cases stops : op.licence.stops
  · refine ⟨exec_coherent (op_uses_any op) sound.coherent, ?_⟩
    cases op with
    | signalingTerminate =>
      rcases terminate_exec s with ⟨same, -⟩ | ⟨refs, threads, reset⟩
      · rw [same]
        exact sound.running
      · rw [reset]
        exact ⟨fun some' => absurd rfl some', by simp [resetSig1Data, stopDispatchLocked]⟩
    | _ => exact stops.elim
  · exact exec_sound (op_uses op) stops sound

/-- The states between the operations of a run. -/
theorem runOps_sound (ops : List Op) : Sound (runOps ops {}) :=
  Runs.invariant_of_run (fun op _ sound _ => sound.complete op) sound_start
    (Runs.admitted_always (fun _ _ => trivial) ops _)

end NpSignaling
