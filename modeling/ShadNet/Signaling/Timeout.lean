import ShadNet.Signaling.Complete

/-!
# The handshake timeout

One time stamp of a transport, that of its last handshake packet, is both the
start of the deadline and the start of the resend interval. The steps of a run
are followed here with the transport in view: everything else a step does
happens elsewhere and leaves the transport and its connections alone.
-/

namespace NpSignaling

open KeyedTable LockProgram

/-- What happens to other transports and their connections. -/
structure Elsewhere (transportId : Nat) (s s' : NpSignalingState) : Prop where
  transports : ∀ t : PeerTransport, t.transportId = transportId →
    (t ∈ s'.peerTransports ↔ t ∈ s.peerTransports)
  connections : ∀ ci : ConnectionInfo, ci.transportId = transportId →
    (ci ∈ s'.connections ↔ ci ∈ s.connections)
  serials : ∀ ci' ∈ s'.connections, ∃ ci ∈ s.connections, ci.serial = ci'.serial
  contexts : s'.contexts = s.contexts
  staged : ∃ news, s'.staged = s.staged ++ news

section Elsewhere

variable {transportId other : Nat} {s s' s'' : NpSignalingState}

theorem Elsewhere.refl (transportId : Nat) (s : NpSignalingState) : Elsewhere transportId s s where
  transports _ _ := Iff.rfl
  connections _ _ := Iff.rfl
  serials ci member := ⟨ci, member, rfl⟩
  contexts := rfl
  staged := ⟨[], by simp⟩

theorem Elsewhere.trans (first : Elsewhere transportId s s')
    (second : Elsewhere transportId s' s'') : Elsewhere transportId s s'' where
  transports t same := (second.transports t same).trans (first.transports t same)
  connections ci same := (second.connections ci same).trans (first.connections ci same)
  serials ci'' member'' := by
    obtain ⟨ci', member', serial'⟩ := second.serials ci'' member''
    obtain ⟨ci, member, serial⟩ := first.serials ci' member'
    exact ⟨ci, member, serial.trans serial'⟩
  contexts := second.contexts.trans first.contexts
  staged := by
    obtain ⟨news, appended⟩ := first.staged
    obtain ⟨later, appended'⟩ := second.staged
    exact ⟨news ++ later, by rw [appended', appended, List.append_assoc]⟩

theorem elsewhere_adjustTransport (apart : other ≠ transportId) {f : PeerTransport → PeerTransport}
    (keeps : ∀ t, (f t).transportId = t.transportId) :
    Elsewhere transportId s (s.adjustTransport other f) :=
  { Elsewhere.refl transportId s with
    transports := by
      intro t same
      constructor
      · intro member
        obtain ⟨old, hold, image⟩ := mem_adjust.mp member
        split at image
        · rename_i hit
          have equal : other = transportId := by rw [← hit, ← keeps old, image, same]
          exact absurd equal apart
        · rwa [← image]
      · intro member
        exact mem_adjust_other member (by omega) }

theorem elsewhere_sync (apart : other ≠ transportId) :
    Elsewhere transportId s (syncSig1ConnectionsForTransportLocked other s) := by
  simp only [syncSig1ConnectionsForTransportLocked]
  cases s.transport? other with
  | none => exact Elsewhere.refl transportId s
  | some transport =>
    have image : ∀ ci : ConnectionInfo, (if ci.transportId = other then
        syncSig1StatusLocked transport ci else ci).transportId = ci.transportId ∧
        (if ci.transportId = other then syncSig1StatusLocked transport ci else ci).serial =
          ci.serial := by
      intro ci
      split <;> exact ⟨rfl, rfl⟩
    refine { Elsewhere.refl transportId s with connections := ?_, serials := ?_ }
    · intro ci same
      have apart' : ci.transportId ≠ other := by omega
      constructor
      · intro member
        obtain ⟨old, hold, rfl⟩ := List.mem_map.mp member
        have away : old.transportId ≠ other := by rwa [(image old).1] at apart'
        rwa [if_neg away]
      · intro member
        exact List.mem_map.mpr ⟨ci, member, if_neg apart'⟩
    · intro ci' member'
      obtain ⟨ci, member, rfl⟩ := List.mem_map.mp member'
      exact ⟨ci, member, (image ci).2.symm⟩

theorem elsewhere_sendHandshake (apart : other ≠ transportId) (packet : SignalingHandshake)
    (now : Int) : Elsewhere transportId s (sendHandshakeLocked other packet now s) := by
  simp only [sendHandshakeLocked]
  cases s.transport? other with
  | none => exact Elsewhere.refl transportId s
  | some transport =>
    dsimp only
    split
    · exact Elsewhere.refl transportId s
    · have stamped : Elsewhere transportId s (s.adjustTransport other
          (fun t => { t with lastHandshakeSendUs := now })) :=
        elsewhere_adjustTransport apart (fun _ => rfl)
      have sent : Elsewhere transportId s ((s.adjustTransport other
          (fun t => { t with lastHandshakeSendUs := now })).send
            ⟨transport.addr, transport.port, .handshake packet⟩) :=
        { stamped with }
      exact sent.trans (elsewhere_sync apart)

theorem elsewhere_start (apart : other ≠ transportId) (now : Int) :
    Elsewhere transportId s (startTransportHandshakeInitiatorLocked other now s) := by
  simp only [startTransportHandshakeInitiatorLocked]
  cases s.transport? other with
  | none => exact Elsewhere.refl transportId s
  | some transport =>
    dsimp only
    cases initiatorKind transport.state with
    | none => exact elsewhere_adjustTransport apart (fun _ => rfl)
    | some kind =>
      have started : Elsewhere transportId s (s.adjustTransport other startedTransport) :=
        elsewhere_adjustTransport apart (fun t => (startedTransport_same t).1)
      exact started.trans (elsewhere_sendHandshake apart _ now)

theorem elsewhere_closeTransport (coherent : Coherent s) (apart : other ≠ transportId)
    (sigErrorCode : SignalingError) (matching2ErrorCode : Matching2Error) :
    Elsewhere transportId s
      ((closeTransportAndDispatchDead other sigErrorCode matching2ErrorCode).exec s).2 := by
  by_cases open' : ∃ t ∈ s.peerTransports, t.transportId = other ∧ t.state ≠ .inactive
  · obtain ⟨t, member, rfl, live⟩ := open'
    obtain ⟨caches, events, index, closed⟩ :=
      closeTransport_exec coherent member live sigErrorCode matching2ErrorCode
    rw [closed]
    constructor
    · intro t' same
      simp only [mem_remove]
      constructor
      · exact And.left
      · exact fun old => ⟨old, by omega⟩
    · intro ci same
      have away : closedWith t.transportId ci = false := by
        simp only [closedWith, Bool.and_eq_false_iff, decide_eq_false_iff_not]
        exact Or.inl (by omega)
      simp [away]
    · intro ci member'
      exact ⟨ci, (List.mem_filter.mp member').1, rfl⟩
    · rfl
    · exact ⟨_, rfl⟩
  · have same : ((closeTransportAndDispatchDead other sigErrorCode matching2ErrorCode).exec s).2 =
        s := by
      apply closeTransport_exec_none
      intro t found
      obtain ⟨member, sameId⟩ := lookup_some found
      by_contra live
      exact open' ⟨t, member, sameId, live⟩
    rw [same]
    exact Elsewhere.refl transportId s

theorem elsewhere_startLoop {ids : List Nat} (apart : transportId ∉ ids) (sendNow : Nat → Int)
    (s : NpSignalingState) : Elsewhere transportId s ((Prog.forEach ids (fun id =>
      startTransportHandshakeInitiator id (sendNow id))).exec s).2 := by
  have round : ∀ id ∈ ids, Prog.Triple (Elsewhere transportId s)
      (startTransportHandshakeInitiator id (sendNow id)) (fun _ => Elsewhere transportId s) := by
    intro id listed
    apply Prog.triple_update
    intro s' away
    have other : id ≠ transportId := by
      rintro rfl
      exact apart listed
    exact away.trans (elsewhere_start other (sendNow id))
  exact Prog.triple_forEach_mem round s (Elsewhere.refl transportId s)

theorem elsewhere_closeLoop {ids : List Nat} (apart : transportId ∉ ids) (coherent : Coherent s) :
    Elsewhere transportId s ((Prog.forEach ids (fun id =>
      closeTransportAndDispatchDead id .timeout .timeout)).exec s).2 := by
  let I (s' : NpSignalingState) : Prop := Coherent s' ∧ Elsewhere transportId s s'
  have round : ∀ id ∈ ids, Prog.Triple I (closeTransportAndDispatchDead id .timeout .timeout)
      (fun _ => I) := by
    rintro id listed s' ⟨coherent', away⟩
    have other : id ≠ transportId := by
      rintro rfl
      exact apart listed
    exact ⟨exec_coherent (uses_closeTransport trivial id .timeout .timeout) coherent',
      away.trans (elsewhere_closeTransport coherent' other .timeout .timeout)⟩
  have start : I s := ⟨coherent, Elsewhere.refl transportId s⟩
  exact (Prog.triple_forEach_mem round s start).2

end Elsewhere

/-! ## The transport itself -/

/-- The transport waits for its peer, and sent its last handshake packet at `mark`. -/
def AwaitsPeer (transportId : Nat) (mark : Int) (s : NpSignalingState) : Prop :=
  ∃ t ∈ s.peerTransports, t.transportId = transportId ∧ stillPending t = true ∧
    t.addr ≠ 0 ∧ t.port ≠ 0 ∧ t.lastHandshakeSendUs = mark

/-- The connections of the transport are carried along, whatever their status. -/
structure Carries (transportId : Nat) (s s' : NpSignalingState) : Prop where
  connections : ∀ ci ∈ s.connections, closedWith transportId ci = true →
    ∃ ci' ∈ s'.connections, closedWith transportId ci' = true ∧ ci'.connId = ci.connId ∧
      ci'.ctxId = ci.ctxId ∧ ci'.serial = ci.serial
  contexts : s'.contexts = s.contexts
  staged : ∃ news, s'.staged = s.staged ++ news

/-- The transport is closed and its connections are gone, each with its DEAD event. -/
structure TimedOut (transportId : Nat) (s s' : NpSignalingState) : Prop where
  closed : ∀ t ∈ s'.peerTransports, t.transportId ≠ transportId
  dead : ∃ news, s'.staged = s.staged ++ news ∧ ∀ ci ∈ s.connections,
    ci.transportId = transportId → ci.deadFired = false →
      (∀ ci' ∈ s'.connections, ci'.serial ≠ ci.serial) ∧
      ∀ ctx ∈ s.contexts, ctx.ctxId = ci.ctxId → ∀ callback, ctx.callback = some callback →
        ⟨ctx.ctxId, ci.connId, .dead, some .timeout, callback, ctx.callbackArg, ci.serial⟩ ∈ news

section Own

variable {transportId : Nat} {mark now : Int} {s s' s'' : NpSignalingState}

theorem closedWith_iff {ci : ConnectionInfo} :
    closedWith transportId ci = true ↔ ci.transportId = transportId ∧ ci.deadFired = false := by
  simp [closedWith]

theorem AwaitsPeer.not_timedOut (awaits : AwaitsPeer transportId mark s') :
    ¬ TimedOut transportId s s' := by
  obtain ⟨t, member, sameId, -⟩ := awaits
  exact fun timedOut => timedOut.closed t member sameId

theorem AwaitsPeer.elsewhere (awaits : AwaitsPeer transportId mark s)
    (away : Elsewhere transportId s s') : AwaitsPeer transportId mark s' := by
  obtain ⟨t, member, sameId, waits⟩ := awaits
  exact ⟨t, (away.transports t sameId).mpr member, sameId, waits⟩

theorem Carries.refl (transportId : Nat) (s : NpSignalingState) : Carries transportId s s where
  connections ci member goes := ⟨ci, member, goes, rfl, rfl, rfl⟩
  contexts := rfl
  staged := ⟨[], by simp⟩

theorem Carries.trans (first : Carries transportId s s') (second : Carries transportId s' s'') :
    Carries transportId s s'' where
  connections ci member goes := by
    obtain ⟨ci', member', goes', connId', ctxId', serial'⟩ := first.connections ci member goes
    obtain ⟨ci'', member'', goes'', connId, ctxId, serial⟩ :=
      second.connections ci' member' goes'
    exact ⟨ci'', member'', goes'', connId.trans connId', ctxId.trans ctxId', serial.trans serial'⟩
  contexts := second.contexts.trans first.contexts
  staged := by
    obtain ⟨news, appended⟩ := first.staged
    obtain ⟨later, appended'⟩ := second.staged
    exact ⟨news ++ later, by rw [appended', appended, List.append_assoc]⟩

theorem Elsewhere.carries (away : Elsewhere transportId s s') : Carries transportId s s' where
  connections ci member goes :=
    ⟨ci, (away.connections ci (closedWith_iff.mp goes).1).mpr member, goes, rfl, rfl, rfl⟩
  contexts := away.contexts
  staged := away.staged

theorem TimedOut.elsewhere (timedOut : TimedOut transportId s s')
    (away : Elsewhere transportId s' s'') : TimedOut transportId s s'' where
  closed t member sameId := timedOut.closed t ((away.transports t sameId).mp member) sameId
  dead := by
    obtain ⟨news, appended, dead⟩ := timedOut.dead
    obtain ⟨later, appended'⟩ := away.staged
    refine ⟨news ++ later, by rw [appended', appended, List.append_assoc], ?_⟩
    intro ci member same alive
    obtain ⟨gone, told⟩ := dead ci member same alive
    refine ⟨fun ci'' member'' => ?_, fun ctx hctx owner callback calls => ?_⟩
    · obtain ⟨ci', member', serial⟩ := away.serials ci'' member''
      rw [← serial]
      exact gone ci' member'
    · exact List.mem_append_left later (told ctx hctx owner callback calls)

theorem carries_sync (transportId : Nat) (s : NpSignalingState) :
    Carries transportId s (syncSig1ConnectionsForTransportLocked transportId s) := by
  simp only [syncSig1ConnectionsForTransportLocked]
  cases s.transport? transportId with
  | none => exact Carries.refl transportId s
  | some transport =>
    refine { Carries.refl transportId s with connections := ?_ }
    intro ci member goes
    have same : ci.transportId = transportId := (closedWith_iff.mp goes).1
    have image : syncSig1StatusLocked transport ci ∈ s.connections.map (fun ci =>
        if ci.transportId = transportId then syncSig1StatusLocked transport ci else ci) :=
      List.mem_map.mpr ⟨ci, member, if_pos same⟩
    exact ⟨_, image, goes, rfl, rfl, rfl⟩

theorem startedTransport_pending {t : PeerTransport} (status : t.status = statusFromState t.state)
    (pending : stillPending t = true) :
    stillPending (startedTransport t) = true ∧ ∃ kind, initiatorKind t.state = some kind := by
  have live : t.state ≠ .inactive ∧ t.state ≠ .established := by
    have both : t.status ≠ .active ∧ t.state ≠ .inactive := by
      simpa [stillPending] using pending
    refine ⟨both.2, fun established => both.1 ?_⟩
    rw [status, established]
    rfl
  cases state : t.state with
  | inactive => exact absurd state live.1
  | established => exact absurd state live.2
  | sendingOffer | waitOffer | connCheck | sendingAccept | waitAccept =>
    constructor
    · simp [stillPending, startedTransport, initiatorTransport, state, setTransportStateLocked,
        status, statusFromState]
    · simp [initiatorKind]

/-- The packet that is due goes out and restarts the clock. -/
theorem start_awaits (coherent : Coherent s) (awaits : AwaitsPeer transportId mark s) (now : Int) :
    AwaitsPeer transportId now (startTransportHandshakeInitiatorLocked transportId now s) ∧
      Carries transportId s (startTransportHandshakeInitiatorLocked transportId now s) := by
  obtain ⟨t, member, rfl, pending, addr, port, -⟩ := awaits
  have found : s.transport? t.transportId = some t := coherent.transport_of_mem member
  obtain ⟨started, kind, sends⟩ := startedTransport_pending (coherent.statuses t member) pending
  have endpoint : (startedTransport t).addr = t.addr ∧ (startedTransport t).port = t.port := by
    simp only [startedTransport, initiatorTransport]
    split <;> exact ⟨rfl, rfl⟩
  let s₁ := s.adjustTransport t.transportId startedTransport
  have found₁ : s₁.transport? t.transportId = some (startedTransport t) := by
    have looked : s₁.transport? t.transportId = (s.transport? t.transportId).map
        (fun t' => if t'.transportId = t.transportId then startedTransport t' else t') :=
      lookup_adjust (fun t => (startedTransport_same t).1) s.peerTransports
    rw [looked, found]
    simp
  have resolved : ¬ ((startedTransport t).addr = 0 ∨ (startedTransport t).port = 0) := by
    rw [endpoint.1, endpoint.2]
    exact not_or.mpr ⟨addr, port⟩
  let stamp (t : PeerTransport) : PeerTransport := { t with lastHandshakeSendUs := now }
  obtain ⟨datagram, sent⟩ : ∃ datagram,
      startTransportHandshakeInitiatorLocked t.transportId now s =
        syncSig1ConnectionsForTransportLocked t.transportId
          ((s₁.adjustTransport t.transportId stamp).send datagram) := by
    simp only [startTransportHandshakeInitiatorLocked, found, sends, sendHandshakeLocked, found₁,
      s₁, if_neg resolved, stamp]
    exact ⟨_, rfl⟩
  rw [sent]
  constructor
  · have there : stamp (startedTransport t) ∈ adjust PeerTransport.transportId t.transportId stamp
        s₁.peerTransports :=
      mem_adjust_self (mem_adjust_self member rfl) (startedTransport_same t).1
    rw [AwaitsPeer, sync_transports]
    refine ⟨stamp (startedTransport t), there, (startedTransport_same t).1, started, ?_, ?_, rfl⟩
    · exact endpoint.1.trans_ne addr
    · exact endpoint.2.trans_ne port
  · have before : Carries t.transportId s ((s₁.adjustTransport t.transportId stamp).send datagram) :=
      { Carries.refl t.transportId s with }
    exact before.trans (carries_sync t.transportId _)

theorem TimedOut.of_carries (carries : Carries transportId s s')
    (timedOut : TimedOut transportId s' s'') : TimedOut transportId s s'' where
  closed := timedOut.closed
  dead := by
    obtain ⟨news, appended⟩ := carries.staged
    obtain ⟨later, appended', dead⟩ := timedOut.dead
    refine ⟨news ++ later, by rw [appended', appended, List.append_assoc], ?_⟩
    intro ci member same alive
    obtain ⟨ci', member', goes', connId, ctxId, serial⟩ :=
      carries.connections ci member (closedWith_iff.mpr ⟨same, alive⟩)
    obtain ⟨same', alive'⟩ := closedWith_iff.mp goes'
    obtain ⟨gone, told⟩ := dead ci' member' same' alive'
    rw [connId, ctxId, serial, carries.contexts] at told
    rw [serial] at gone
    exact ⟨gone, fun ctx hctx owner callback calls =>
      List.mem_append_right news (told ctx hctx owner callback calls)⟩

theorem close_timedOut (sound : Sound s) (awaits : AwaitsPeer transportId mark s) :
    TimedOut transportId s
      ((closeTransportAndDispatchDead transportId .timeout .timeout).exec s).2 := by
  obtain ⟨t, member, rfl, pending, -⟩ := awaits
  have live : t.state ≠ .inactive := by
    have both : t.status ≠ .active ∧ t.state ≠ .inactive := by
      simpa [stillPending] using pending
    exact both.2
  obtain ⟨caches, events, index, closed⟩ :=
    closeTransport_exec sound.coherent member live .timeout .timeout
  rw [closed]
  constructor
  · intro t' member'
    exact (mem_remove.mp member').2
  · refine ⟨_, rfl, fun ci hci same alive => ⟨?_, ?_⟩⟩
    · intro ci' member' serial
      obtain ⟨old, stays⟩ := List.mem_filter.mp member'
      obtain rfl := sound.coherent.serialsDistinct ci' old ci hci serial
      simp [closedWith, same, alive] at stays
    · intro ctx hctx owner callback calls
      have goes : ci ∈ s.connections.filter (closedWith t.transportId) :=
        List.mem_filter.mpr ⟨hci, closedWith_iff.mpr ⟨same, alive⟩⟩
      have told := sound.ownDispatch_eq hctx owner calls .dead (some .timeout)
      exact List.mem_flatMap.mpr ⟨ci, goes, by rw [told]; exact List.mem_singleton.mpr rfl⟩

end Own

/-! ## Steps and runs -/

/-- One call of `StepPendingConnections`, with the readings of the clock it makes. -/
structure PeriodicStep where
  now : Int
  sendNow : Nat → Int

def PeriodicStep.op (step : PeriodicStep) : Op := .stepPendingConnections step.now step.sendNow

/-- The step comes more than the timeout after the last packet. -/
def PeriodicStep.overdue (step : PeriodicStep) (mark : Int) : Prop :=
  mark ≠ 0 ∧ step.now - mark > kMatching2Timeout

instance (step : PeriodicStep) (mark : Int) : Decidable (step.overdue mark) :=
  inferInstanceAs (Decidable (mark ≠ 0 ∧ step.now - mark > kMatching2Timeout))

/-- When the last packet went out, as of the end of the step. -/
def PeriodicStep.lastSend (step : PeriodicStep) (transportId : Nat) (mark : Int) : Int :=
  if mark = 0 ∨ step.now - mark ≥ kMatching2StepInterval then step.sendNow transportId else mark

/-- Some step of the run comes more than the timeout after the packet before it. -/
def PacketOverdue (transportId : Nat) : Int → List PeriodicStep → Prop
  | _, [] => False
  | mark, step :: steps =>
    step.overdue mark ∨ PacketOverdue transportId (step.lastSend transportId mark) steps

section Steps

variable {transportId : Nat} {mark : Int} {s s' : NpSignalingState}

theorem step_exec (step : PeriodicStep) (s : NpSignalingState) :
    step.op.complete s =
      ((Prog.forEach (timeoutTargets step.now s) (fun id =>
        closeTransportAndDispatchDead id .timeout .timeout)).exec
          ((Prog.forEach (resendTargets step.now s) (fun id =>
            startTransportHandshakeInitiator id (step.sendNow id))).exec s).2).2 := by
  simp only [PeriodicStep.op, Op.complete, Op.program, stepPendingConnections, Prog.exec_bind,
    Prog.exec_locked]

theorem step_elsewhere (sound : Sound s) (step : PeriodicStep)
    (resend : transportId ∉ resendTargets step.now s)
    (timeout : transportId ∉ timeoutTargets step.now s) :
    Elsewhere transportId s (step.op.complete s) := by
  have uses : (Prog.forEach (resendTargets step.now s) (fun id =>
      startTransportHandshakeInitiator id (step.sendNow id))).Uses (Section anyLicence) :=
    Prog.uses_forEach (fun id => uses_start id (step.sendNow id))
  rw [step_exec]
  exact (elsewhere_startLoop resend step.sendNow s).trans
    (elsewhere_closeLoop timeout (exec_coherent uses sound.coherent))

/-- A closed transport is not brought back by the steps that follow. -/
theorem TimedOut.step (timedOut : TimedOut transportId s s') (sound : Sound s')
    (step : PeriodicStep) : TimedOut transportId s (step.op.complete s') := by
  have unlisted : ∀ p : PeerTransport → Bool,
      transportId ∉ (s'.peerTransports.filter p).map (·.transportId) := by
    intro p listed
    obtain ⟨t, member, sameId⟩ := List.mem_map.mp listed
    exact timedOut.closed t (List.mem_filter.mp member).1 sameId
  exact timedOut.elsewhere (step_elsewhere sound step (unlisted _) (unlisted _))

theorem apart_of_targets {ids before after : List Nat} (nodup : ids.Nodup)
    (split : ids = before ++ transportId :: after) : transportId ∉ before ∧ transportId ∉ after := by
  rw [split] at nodup
  have once := (List.nodup_cons.mp (List.nodup_middle.mp nodup)).1
  simpa using once

theorem step_timedOut (sound : Sound s) (awaits : AwaitsPeer transportId mark s)
    (step : PeriodicStep) (overdue : step.overdue mark) :
    TimedOut transportId s (step.op.complete s) := by
  have resendUses : (Prog.forEach (resendTargets step.now s) (fun id =>
      startTransportHandshakeInitiator id (step.sendNow id))).Uses (Section step.op.licence) :=
    Prog.uses_forEach (fun id => uses_start id (step.sendNow id))
  obtain ⟨t, member, sameId, pending, addr, port, sentAt⟩ := id awaits
  have late : handshakeTimedOut step.now t = true := by
    simpa [handshakeTimedOut, sentAt, PeriodicStep.overdue] using overdue
  have distinct := sound.coherent.peerTransports
  have resend : transportId ∉ resendTargets step.now s := by
    rw [← sameId]
    intro listed
    have holds := (distinct.key_mem_filter member).mp listed
    simp [late] at holds
  have timeout : transportId ∈ timeoutTargets step.now s := by
    rw [← sameId]
    exact (distinct.key_mem_filter member).mpr (by simp [late, pending])
  obtain ⟨before, after, split⟩ := List.append_of_mem timeout
  have apart := apart_of_targets (distinct.filter_keys _) split
  rw [step_exec, split, Prog.exec_forEach_append, Prog.exec_forEach_cons]
  have away₁ := elsewhere_startLoop resend step.sendNow s
  have sound₁ := exec_sound resendUses id sound
  generalize ((Prog.forEach (resendTargets step.now s) (fun id =>
    startTransportHandshakeInitiator id (step.sendNow id))).exec s).2 = s₁ at away₁ sound₁ ⊢
  have closeUses : ∀ ids : List Nat, (Prog.forEach ids (fun id =>
      closeTransportAndDispatchDead id .timeout .timeout)).Uses
        (Section step.op.licence) :=
    fun ids => Prog.uses_forEach (fun id => uses_closeTransport trivial id .timeout .timeout)
  have away₂ := elsewhere_closeLoop apart.1 sound₁.coherent
  have sound₂ := exec_sound (closeUses before) id sound₁
  generalize ((Prog.forEach before (fun id =>
    closeTransportAndDispatchDead id .timeout .timeout)).exec s₁).2 = s₂ at away₂ sound₂ ⊢
  have away := away₁.trans away₂
  have closed := close_timedOut sound₂ (awaits.elsewhere away)
  have ownUses : (closeTransportAndDispatchDead transportId .timeout .timeout).Uses
      (Section step.op.licence) := uses_closeTransport trivial transportId .timeout .timeout
  have sound₃ := exec_sound ownUses id sound₂
  have away₃ := elsewhere_closeLoop apart.2 sound₃.coherent
  exact (closed.of_carries away.carries).elsewhere away₃

/-- Before the deadline the transport keeps waiting, its packet being sent again when due. -/
theorem step_awaits (sound : Sound s) (awaits : AwaitsPeer transportId mark s)
    (step : PeriodicStep) (inTime : ¬ step.overdue mark) :
    AwaitsPeer transportId (step.lastSend transportId mark) (step.op.complete s) ∧
      Carries transportId s (step.op.complete s) := by
  obtain ⟨t, member, sameId, pending, addr, port, sentAt⟩ := id awaits
  have inTime' : handshakeTimedOut step.now t = false := by
    simpa [handshakeTimedOut, sentAt, PeriodicStep.overdue] using inTime
  have distinct := sound.coherent.peerTransports
  have timeout : transportId ∉ timeoutTargets step.now s := by
    rw [← sameId]
    intro listed
    have holds := (distinct.key_mem_filter member).mp listed
    simp [inTime'] at holds
  have due : transportId ∈ resendTargets step.now s ↔
      (mark = 0 ∨ step.now - mark ≥ kMatching2StepInterval) := by
    rw [← sameId, resendTargets, distinct.key_mem_filter member]
    simp [inTime', pending, resendDue, sentAt]
  by_cases resend : transportId ∈ resendTargets step.now s
  · obtain ⟨before, after, split⟩ := List.append_of_mem resend
    have apart := apart_of_targets (distinct.filter_keys _) split
    have sent : step.lastSend transportId mark = step.sendNow transportId :=
      if_pos (due.mp resend)
    have startUses : ∀ ids : List Nat, (Prog.forEach ids (fun id =>
        startTransportHandshakeInitiator id (step.sendNow id))).Uses (Section anyLicence) :=
      fun ids => Prog.uses_forEach (fun id => uses_start id (step.sendNow id))
    have away₁ := elsewhere_startLoop apart.1 step.sendNow s
    have coherent₁ := exec_coherent (startUses before) sound.coherent
    rw [step_exec, split, Prog.exec_forEach_append, Prog.exec_forEach_cons, sent]
    generalize ((Prog.forEach before (fun id =>
      startTransportHandshakeInitiator id (step.sendNow id))).exec s).2 = s₁ at away₁ coherent₁ ⊢
    obtain ⟨awaits₂, carries₂⟩ :=
      start_awaits coherent₁ (awaits.elsewhere away₁) (step.sendNow transportId)
    have ownUses : (startTransportHandshakeInitiator transportId
        (step.sendNow transportId)).Uses (Section anyLicence) := uses_start transportId _
    have coherent₂ := exec_coherent ownUses coherent₁
    have section₂ : ((startTransportHandshakeInitiator transportId
        (step.sendNow transportId)).exec s₁).2 =
        startTransportHandshakeInitiatorLocked transportId (step.sendNow transportId) s₁ := rfl
    rw [section₂] at coherent₂ ⊢
    generalize startTransportHandshakeInitiatorLocked transportId
      (step.sendNow transportId) s₁ = s₂ at awaits₂ carries₂ coherent₂ ⊢
    have away₃ := elsewhere_startLoop apart.2 step.sendNow s₂
    have coherent₃ := exec_coherent (startUses after) coherent₂
    have away₄ := away₃.trans (elsewhere_closeLoop timeout coherent₃)
    exact ⟨awaits₂.elsewhere away₄, (away₁.carries.trans carries₂).trans away₄.carries⟩
  · have away := step_elsewhere sound step resend timeout
    have sent : step.lastSend transportId mark = mark := if_neg (fun h => resend (due.mpr h))
    rw [sent]
    exact ⟨awaits.elsewhere away, away.carries⟩

abbrev runSteps (steps : List PeriodicStep) (s : NpSignalingState) : NpSignalingState :=
  runOps (steps.map PeriodicStep.op) s

theorem TimedOut.run (timedOut : TimedOut transportId s s') (sound : Sound s')
    (steps : List PeriodicStep) : TimedOut transportId s (runSteps steps s') := by
  induction steps generalizing s' with
  | nil => exact timedOut
  | cons step steps ih => exact ih (timedOut.step sound step) (sound.complete step.op)

theorem run_timedOut (sound : Sound s) (awaits : AwaitsPeer transportId mark s)
    {steps : List PeriodicStep} (overdue : PacketOverdue transportId mark steps) :
    TimedOut transportId s (runSteps steps s) := by
  induction steps generalizing s mark with
  | nil => exact overdue.elim
  | cons step steps ih =>
    by_cases now : step.overdue mark
    · exact (step_timedOut sound awaits step now).run (sound.complete step.op) steps
    · obtain ⟨awaits', carries⟩ := step_awaits sound awaits step now
      have later := overdue.resolve_left now
      exact (ih (sound.complete step.op) awaits' later).of_carries carries

theorem run_awaits (sound : Sound s) (awaits : AwaitsPeer transportId mark s)
    {steps : List PeriodicStep} (inTime : ¬ PacketOverdue transportId mark steps) :
    ∃ mark', AwaitsPeer transportId mark' (runSteps steps s) := by
  induction steps generalizing s mark with
  | nil => exact ⟨mark, awaits⟩
  | cons step steps ih =>
    obtain ⟨now, later⟩ := not_or.mp inTime
    obtain ⟨awaits', -⟩ := step_awaits sound awaits step now
    exact ih (sound.complete step.op) awaits' later

/-- A run times the transport out exactly when one of its steps finds the last packet too old. -/
theorem run_timedOut_iff (sound : Sound s) (awaits : AwaitsPeer transportId mark s)
    (steps : List PeriodicStep) :
    TimedOut transportId s (runSteps steps s) ↔ PacketOverdue transportId mark steps := by
  constructor
  · intro timedOut
    by_contra inTime
    obtain ⟨mark', still⟩ := run_awaits sound awaits inTime
    exact still.not_timedOut timedOut
  · exact run_timedOut sound awaits

end Steps

/-! ## The deadline of the first packet -/

/-- After every step later than the timeout after `first`, the transport has timed out. -/
def MeetsDeadline (transportId : Nat) (first : Int) (steps : List PeriodicStep)
    (s : NpSignalingState) : Prop :=
  ∀ earlier step, earlier ++ [step] <+: steps → step.now - first > kMatching2Timeout →
    TimedOut transportId s (runSteps (earlier ++ [step]) s)

/-- `first` is the time of the first handshake packet; the time of the last one is in the
transport, and is 0 when none has been sent. -/
theorem meetsDeadline_iff (ops : List Op) (t : PeerTransport) (first : Int)
    (steps : List PeriodicStep) (member : t ∈ (runOps ops {}).peerTransports)
    (pending : stillPending t = true) (addr : t.addr ≠ 0) (port : t.port ≠ 0) :
    MeetsDeadline t.transportId first steps (runOps ops {}) ↔
      ∀ earlier step, earlier ++ [step] <+: steps → step.now - first > kMatching2Timeout →
        PacketOverdue t.transportId t.lastHandshakeSendUs (earlier ++ [step]) := by
  have awaits : AwaitsPeer t.transportId t.lastHandshakeSendUs (runOps ops {}) :=
    ⟨t, member, rfl, pending, addr, port, rfl⟩
  have runs := run_timedOut_iff (runOps_sound ops) awaits
  constructor
  · intro meets earlier step within late
    exact (runs _).mp (meets earlier step within late)
  · intro overdue earlier step within late
    exact (runs _).mpr (overdue earlier step within late)

/-- `ali` activates `bob`, whose endpoint is known at once; the offer goes out after a second. -/
def offeredRun : List Op :=
  [.signalingInitialize true true,
    .createContext ali true (some 1) 0 0 10,
    .activateSig1 1 bob 0 20,
    .processPendingActivations (fun _ => ⟨some (5, 6), 1000000⟩)]

def offeredTransport : PeerTransport :=
  { transportId := 1
    addr := 5
    port := 6
    npid := bob
    onlineId := bob.handle
    localOnlineId := ali.handle
    status := .pending
    state := .sendingOffer
    isInitiator := true
    lastHandshakeSendUs := 1000000 }

/-- A single step, more than the timeout after the offer, does time the transport out. -/
theorem offeredRun_meets_deadline :
    MeetsDeadline 1 1000000 [⟨31000001, fun _ => 31000001⟩] (runOps offeredRun {}) := by
  refine (meetsDeadline_iff offeredRun offeredTransport 1000000 _ (by decide +kernel)
    (by decide) (by decide) (by decide)).mpr ?_
  intro earlier step within late
  have only : earlier ++ [step] = [⟨31000001, fun _ => 31000001⟩] := by
    refine within.eq_of_length ?_
    have bound := within.length_le
    simp only [List.length_append, List.length_singleton] at bound ⊢
    omega
  rw [only]
  exact Or.inl (by decide)

/-- The times increase, and by less than the timeout. -/
def Spaced (steps : List PeriodicStep) : Prop :=
  steps.IsChain (fun step later =>
    step.now < later.now ∧ later.now - step.now < kMatching2Timeout)

def resentSteps : List PeriodicStep :=
  [⟨11000000, fun _ => 11000000⟩, ⟨21000000, fun _ => 21000000⟩, ⟨31000000, fun _ => 31000000⟩,
    ⟨41000000, fun _ => 41000000⟩]

/-- Steps ten seconds apart: each sends the offer again, and none finds the last packet too old. -/
theorem resentSteps_miss_deadline :
    Spaced resentSteps ∧ ¬ MeetsDeadline 1 1000000 resentSteps (runOps offeredRun {}) := by
  constructor
  · simp [Spaced, resentSteps, kMatching2Timeout]
  · intro meets
    have late : (41000000 : Int) - 1000000 > kMatching2Timeout := by decide
    have timedOut := meets (resentSteps.take 3) ⟨41000000, fun _ => 41000000⟩
      (List.prefix_refl resentSteps) late
    have still : ((runSteps resentSteps (runOps offeredRun {})).peerTransports.map
        (·.transportId)) = [1] := by decide +kernel
    have listed : 1 ∈ (runSteps resentSteps (runOps offeredRun {})).peerTransports.map
        (·.transportId) := by simp [still]
    obtain ⟨t, member, sameId⟩ := List.mem_map.mp listed
    exact timedOut.closed t member sameId

end NpSignaling
