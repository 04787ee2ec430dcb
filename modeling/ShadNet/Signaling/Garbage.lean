import Mathlib.Data.List.Perm.Subperm
import ShadNet.Signaling.Transports
import ShadNet.Signaling.Complete

/-!
# Garbage in the transport table

A transport that is closed as a whole leaves the table with its connections. One
whose connection is closed on its own, by a call or by the peer, is only made
Inactive and stays. As long as no connection over a transport is closed on its
own the table holds open transports only, so it is no longer than its uses and
an id is left to give out.
-/

namespace NpSignaling

open KeyedTable LockProgram

def liveConnection (ci : ConnectionInfo) : Bool := ci.status ≠ .inactive && !ci.deadFired

def connectionUses (s : NpSignalingState) : List Nat :=
  (s.connections.filter liveConnection).map (·.transportId)

/-- The transports the matching2 peers refer to. -/
def peerUses (s : NpSignalingState) : List Nat :=
  s.caches.flatMap (fun cache => cache.peers.map (·.connId))

def GarbageFree (s : NpSignalingState) : Prop :=
  ∀ t ∈ s.peerTransports,
    t.state ≠ .inactive ∨ t.transportId ∈ connectionUses s ∨ t.transportId ∈ peerUses s

/-- Transports that are open, live connections and matching2 peers. -/
def liveUses (s : NpSignalingState) : Nat :=
  s.peerTransports.countP (fun t => t.state ≠ .inactive) + (connectionUses s).length +
    (peerUses s).length

instance (s : NpSignalingState) : Decidable (GarbageFree s) :=
  inferInstanceAs (Decidable (∀ t ∈ s.peerTransports, _))

section Bound

variable {s : NpSignalingState}

/-- Each Inactive transport of a garbage free table has a use of its own. -/
theorem GarbageFree.length_le (free : GarbageFree s) (coherent : Coherent s) :
    s.peerTransports.length ≤ liveUses s := by
  let closed (t : PeerTransport) : Bool := ¬ decide (t.state ≠ .inactive) = true
  have ids : ((s.peerTransports.filter closed).map (·.transportId)).Nodup :=
    coherent.peerTransports.filter_keys closed
  have used : (s.peerTransports.filter closed).map (·.transportId) ⊆
      connectionUses s ++ peerUses s := by
    intro id listed
    obtain ⟨t, member, rfl⟩ := List.mem_map.mp listed
    obtain ⟨there, inactive⟩ := List.mem_filter.mp member
    refine List.mem_append.mpr ((free t there).resolve_left ?_)
    simpa [closed] using inactive
  have uses := (List.subperm_of_subset ids used).length_le
  have split : s.peerTransports.length =
      s.peerTransports.countP (fun t => t.state ≠ .inactive) + s.peerTransports.countP closed :=
    List.length_eq_countP_add_countP _
  have counted : s.peerTransports.countP closed = (s.peerTransports.filter closed).length :=
    List.countP_eq_length_filter
  simp only [List.length_map, List.length_append] at uses
  simp only [liveUses]
  omega

/-- An id is free as long as there are more ids than transports. -/
theorem allocateTransportIdLocked_room (room : s.peerTransports.length < 0x7fff) :
    (allocateTransportIdLocked s).1 ≠ none := by
  by_cases free : ∃ id ∈ List.range' 1 0x7fff, s.transport? id = none
  · obtain ⟨id, listed, untaken⟩ := free
    obtain ⟨low, high⟩ := List.mem_range'_1.mp listed
    exact allocateTransportIdLocked_some (by omega) (by omega) untaken
  · have taken : List.range' 1 0x7fff ⊆ s.peerTransports.map (·.transportId) := by
      intro id listed
      cases found : s.transport? id with
      | none => exact absurd ⟨id, listed, found⟩ free
      | some t =>
        obtain ⟨member, sameId⟩ := lookup_some found
        exact List.mem_map.mpr ⟨t, member, sameId⟩
    have distinct : (List.range' 1 0x7fff).Nodup := List.nodup_range'
    have full := (List.subperm_of_subset distinct taken).length_le
    simp only [List.length_range', List.length_map] at full
    omega

end Bound

/-- What the transport table promises between two complete operations. -/
structure Tidy (s : NpSignalingState) : Prop where
  garbageFree : GarbageFree s
  bounded : s.peerTransports.length ≤ liveUses s
  allocates : liveUses s < 0x7fff → (allocateTransportIdLocked s).1 ≠ none

def NoneInactive (s : NpSignalingState) : Prop := ∀ t ∈ s.peerTransports, t.state ≠ .inactive

theorem NoneInactive.tidy {s : NpSignalingState} (allOpen : NoneInactive s)
    (coherent : Coherent s) : Tidy s := by
  have free : GarbageFree s := fun t member => Or.inl (allOpen t member)
  have bounded := free.length_le coherent
  exact ⟨free, bounded, fun room => allocateTransportIdLocked_room (Nat.lt_of_le_of_lt bounded room)⟩

/-! ## Sections that close nothing -/

def StaysOpen (t t' : PeerTransport) : Prop := t.state ≠ .inactive → t'.state ≠ .inactive

theorem composable_staysOpen : Composable StaysOpen where
  refl _ := id
  trans _ _ _ first second := second ∘ first

theorem Steady.staysOpen {t t' : PeerTransport} (steady : Steady t t') : StaysOpen t t' :=
  fun open' inactive => open' (steady.reverse.quiet.inactive inactive)

theorem Stirs.staysOpen {t t' : PeerTransport} (stirs : Stirs t t') : StaysOpen t t' :=
  fun open' => (stirs.resolve_right (fun revived => open' revived.1)).staysOpen open'

theorem establishTransport_staysOpen (hint : Bool) (now : Int) (t : PeerTransport) :
    StaysOpen t (establishTransport hint now t) := by
  intro open'
  cases fired : t.transportEstablishedFired with
  | true =>
    rw [establishTransport_fired fired]
    exact open'
  | false =>
    rw [establishTransport_fresh fired]
    simp [setTransportStateLocked]

section Open

variable {R : PeerTransport → PeerTransport → Prop} {made : List ConnectionInfo}
  {s s' : NpSignalingState}

theorem NoneInactive.subset (allOpen : NoneInactive s)
    (subset : ∀ t ∈ s'.peerTransports, t ∈ s.peerTransports) : NoneInactive s' :=
  fun t member => allOpen t (subset t member)

theorem NoneInactive.kept (allOpen : NoneInactive s) (kept : Kept StaysOpen s s') :
    NoneInactive s' := by
  intro t' member'
  obtain ⟨t, member, -, -, stays⟩ := kept.peerTransports.mem_new member'
  exact stays (allOpen t member)

theorem NoneInactive.evolves (allOpen : NoneInactive s) (evolves : Evolves Steady made s s') :
    NoneInactive s' := by
  induction evolves with
  | refl _ => exact allOpen
  | kept _ kept ih => exact (ih allOpen).kept (kept.mono (fun _ _ => Steady.staysOpen))
  | removed connId _ ih =>
    obtain ⟨npidToConn, removed⟩ := removeConnection_eq connId _
    rw [removed]
    exact ih allOpen
  | created _ created ih =>
    obtain ⟨new, seed, -, -, sending, -, -, -, rfl⟩ := created
    intro t member
    rcases mem_store.mp member with ⟨old, -⟩ | rfl
    · exact ih allOpen t old
    · simp [sending]
  | inserted _ _ _ _ _ _ _ ih => exact ih allOpen
  | indexed _ _ _ _ ih => exact ih allOpen

theorem section_open {licence : Licence} {label : LockSection}
    {update : NpSignalingState → NpSignalingState} (member : Section licence label update)
    (stays : ¬ licence.closes) (coherent : Coherent s) (allOpen : NoneInactive s) :
    NoneInactive (update s) := by
  cases member with
  | evolves evolves _ => exact allOpen.evolves (evolves s coherent)
  | closes closes _ _ => exact absurd closes stays
  | startTransportHandshakeInitiator transportId now =>
    exact allOpen.kept ((kept_start_stirs transportId now).mono (fun _ _ => Stirs.staysOpen))
  | establishConnection transportId hint now =>
    exact allOpen.kept (kept_establish composable_staysOpen transportId hint now
      (fun t _ _ => establishTransport_staysOpen hint now t))
  | activateSig1 ctxId peerNpid random now =>
    obtain evolves | ⟨ci, evolves⟩ := activateSig1_evolves coherent ctxId peerNpid random now
    · exact allOpen.evolves evolves
    · exact allOpen.evolves evolves
  | activateConnectionA ctxId accountId platformType random now =>
    rcases activationStub_cases ctxId accountId platformType random now with
      evolves | ⟨ci, -, -, inserts⟩
    · exact allOpen.evolves evolves
    · exact allOpen.evolves inserts.evolves
  | handleControlPacket fromAddr fromPort packet random closes =>
    obtain evolves | ⟨ci, evolves⟩ := handleControl_steady coherent fromAddr fromPort random
      (fun kind => stays (closes kind))
    · exact allOpen.evolves evolves
    · exact allOpen.evolves evolves
  | reply transportId packet now _ =>
    exact allOpen.evolves (Evolves.of_kept (kept_sendHandshake transportId packet now))
  | structural member => exact allOpen.subset (structural_subset member).1

/-- A program of such sections leaves every transport open. -/
theorem exec_open {α : Type} {licence : Licence} {p : Signaling α}
    (uses : p.Uses (Section licence)) (stays : ¬ licence.closes) (coherent : Coherent s)
    (allOpen : NoneInactive s) : Coherent (p.exec s).2 ∧ NoneInactive (p.exec s).2 := by
  have keeps : ∀ label update, Section licence label update → ∀ s,
      Coherent s ∧ NoneInactive s → Coherent (update s) ∧ NoneInactive (update s) := by
    rintro label update member s ⟨coherent, allOpen⟩
    exact ⟨section_coherent member coherent, section_open member stays coherent allOpen⟩
  exact uses.exec_keeps keeps ⟨coherent, allOpen⟩

end Open

/-! ## Closing -/

/-- The connection of this id, if it is live, is not over a transport of the table. -/
def Detached (connId : Nat) (s : NpSignalingState) : Prop :=
  ∀ ci ∈ s.connections, ci.connId = connId → liveConnection ci = true →
    ∀ t ∈ s.peerTransports, t.transportId ≠ ci.transportId

instance (connId : Nat) (s : NpSignalingState) : Decidable (Detached connId s) :=
  inferInstanceAs (Decidable (∀ ci ∈ s.connections, _ → _ → ∀ t ∈ s.peerTransports, _))

/-- Coherent tables with open transports only, where these connections are detached. -/
structure Spares (connIds : List Nat) (s : NpSignalingState) : Prop where
  coherent : Coherent s
  allOpen : NoneInactive s
  detached : ∀ connId ∈ connIds, Detached connId s

/-- Nothing that only some operations may do. -/
abbrev noLicence : Licence := ⟨fun _ => False, False, False, False⟩

section Close

variable {s : NpSignalingState} {connIds : List Nat}

theorem spares_nil (coherent : Coherent s) (allOpen : NoneInactive s) : Spares [] s :=
  ⟨coherent, allOpen, by simp⟩

theorem Spares.sent (spares : Spares connIds s) (sent : List Datagram) :
    Spares connIds { s with sent } :=
  ⟨{ spares.coherent with }, spares.allOpen, spares.detached⟩

theorem triple_spares {α : Type} {p : Signaling α} (uses : p.Uses (Section noLicence)) :
    Prog.Triple (Spares []) p (fun _ => Spares []) := by
  intro s spares
  obtain ⟨coherent, allOpen⟩ := exec_open uses id spares.coherent spares.allOpen
  exact spares_nil coherent allOpen

theorem adjust_absent {id : Nat} (absent : ∀ t ∈ s.peerTransports, t.transportId ≠ id)
    (f : PeerTransport → PeerTransport) :
    adjust PeerTransport.transportId id f s.peerTransports = s.peerTransports := by
  have untouched : ∀ t ∈ s.peerTransports, (if t.transportId = id then f t else t) = t :=
    fun t member => if_neg (absent t member)
  rw [adjust, List.map_congr_left untouched, List.map_id']

/-- Closing a detached connection leaves the transports alone. -/
theorem triple_closeConnection (connId : Nat) (sigErrorCode : SignalingError)
    (matching2ErrorCode : Matching2Error) :
    Prog.Triple (Spares (connId :: connIds))
      (closeConnectionAndDispatchDead connId sigErrorCode matching2ErrorCode)
      (fun _ => Spares connIds) := by
  intro s spares
  have coherent' := exec_coherent
    (uses_closeConnection trivial connId sigErrorCode matching2ErrorCode) spares.coherent
  have rest : ∀ other ∈ connIds, Detached other s :=
    fun other listed => spares.detached other (List.mem_cons_of_mem _ listed)
  by_cases live : ∃ ci ∈ s.connections, ci.connId = connId ∧ liveConnection ci = true
  · obtain ⟨ci, member, rfl, live⟩ := live
    obtain ⟨status, alive⟩ : ci.status ≠ .inactive ∧ ci.deadFired = false := by
      simpa [liveConnection] using live
    have absent := spares.detached ci.connId (List.mem_cons_self ..) ci member rfl live
    obtain ⟨caches, events, index, closed⟩ := closeConnection_exec spares.coherent member status
      alive sigErrorCode matching2ErrorCode
    rw [closed, adjust_absent absent] at coherent' ⊢
    refine ⟨coherent', spares.allOpen, fun other listed ci' member' => ?_⟩
    exact rest other listed ci' (mem_remove.mp member').1
  · have closed : ∀ ci, s.connection? connId = some ci →
        ci.status = .inactive ∨ ci.deadFired = true := by
      intro ci found
      obtain ⟨member, sameId⟩ := lookup_some found
      by_contra still
      refine live ⟨ci, member, sameId, ?_⟩
      simpa [liveConnection] using still
    rw [closeConnection_exec_none _ _ closed]
    exact ⟨spares.coherent, spares.allOpen, rest⟩

theorem sendControlClose_eq (ci : ConnectionInfo) (reason : ControlReason)
    (s : NpSignalingState) : ∃ sent, sendControlCloseLocked ci reason s = { s with sent } := by
  unfold sendControlCloseLocked
  cases s.transport? ci.transportId with
  | none => exact ⟨_, rfl⟩
  | some t =>
    dsimp only
    split <;> exact ⟨_, rfl⟩

theorem triple_terminateSig1 (connId : Nat) :
    Prog.Triple (Spares (connId :: connIds)) (terminateSig1 connId) (fun _ => Spares connIds) := by
  refine Prog.Triple.bind (Prog.triple_update (fun s spares => ?_))
    (fun _ => triple_closeConnection connId _ _)
  unfold terminateCloseLocked
  cases s.connection? connId with
  | none => exact spares
  | some ci =>
    obtain ⟨sent, said⟩ := sendControlClose_eq ci .terminate s
    simp only [said]
    exact spares.sent sent

theorem triple_deactivateSig1 (connId : Nat) :
    Prog.Triple (Spares (connId :: connIds)) (deactivateSig1 connId) (fun _ => Spares connIds) := by
  refine Prog.Triple.bind (Prog.triple_update (fun s spares => ?_))
    (fun _ => triple_closeConnection connId _ _)
  unfold deactivateCloseLocked
  cases s.connection? connId with
  | none => exact spares
  | some ci =>
    dsimp only
    cases s.transport? ci.transportId with
    | none => exact spares
    | some t =>
      dsimp only
      split
      · obtain ⟨sent, said⟩ := sendControlClose_eq ci .deactivate s
        rw [said]
        exact spares.sent sent
      · exact spares

/-- A transport closed as a whole leaves the table. -/
theorem triple_closeTransport (transportId : Nat) (sigErrorCode : SignalingError)
    (matching2ErrorCode : Matching2Error) :
    Prog.Triple (Spares [])
      (closeTransportAndDispatchDead transportId sigErrorCode matching2ErrorCode)
      (fun _ => Spares []) := by
  intro s spares
  have coherent' := exec_coherent
    (uses_closeTransport trivial transportId sigErrorCode matching2ErrorCode) spares.coherent
  refine spares_nil coherent' ?_
  cases found : s.transport? transportId with
  | none =>
    have gone : ∀ t, s.transport? transportId = some t → t.state = .inactive := by simp [found]
    rw [closeTransport_exec_none _ _ gone]
    exact spares.allOpen
  | some t =>
    obtain ⟨member, rfl⟩ := lookup_some found
    obtain ⟨caches, events, index, closed⟩ := closeTransport_exec spares.coherent member
      (spares.allOpen t member) sigErrorCode matching2ErrorCode
    rw [closed]
    exact spares.allOpen.subset (fun t' member' => (mem_remove.mp member').1)

theorem triple_stopMatching2Room (ctxId roomId : Nat) (errorCode : SignalingError)
    (matching2ErrorCode : Matching2Error) :
    Prog.Triple (Spares []) (stopMatching2Room ctxId roomId errorCode matching2ErrorCode)
      (fun _ => Spares []) := by
  refine Prog.triple_seq (triple_spares (uses_read _)) (fun transports => ?_)
  refine Prog.triple_forEach_mem (fun transportId _ => ?_)
  refine Prog.triple_seq (triple_spares (uses_read _)) (fun used => ?_)
  exact Prog.triple_when (fun _ => triple_closeTransport transportId _ _)

end Close

/-! ## Complete operations -/

/-- A Close packet finds no transport of its sender, or a connection that it does not take from a
transport of the table. -/
def PeerTakesNone (packet : SignalingControl) (s : NpSignalingState) : Prop :=
  let name := packetOnlineIdToString packet.onlineIdFrom
  ∀ t, findTransportByOnlineIdLocked name s = some t →
    ∃ ci, findConnectionByOnlineIdLocked name 0 s = some ci ∧
      (packet.reason = .deactivate ∧ t.state = .established ∨ Detached ci.connId s)

/-- The operation closes no connection on its own that is over a transport of the table. -/
def TakesNone : Op → NpSignalingState → Prop
  | .deactivateSig1 connId, s => Detached connId s
  | .terminateSig1 connId, s => Detached connId s
  | .deactivateConnection ctxId connId, s =>
    ownConnectionLocked ctxId connId s = none → Detached connId s
  | .terminateConnection ctxId connId, s =>
    ownConnectionLocked ctxId connId s = none → Detached connId s
  | .deleteContext ctxId, s =>
    s.initialized = true → ∀ connId ∈ contextConnections ctxId s, Detached connId s
  | .controlPacket _ _ packet _ _, s => packet.kind = .close → PeerTakesNone packet s
  | _, _ => True

section Complete

variable {s : NpSignalingState}

theorem spares_one (coherent : Coherent s) (allOpen : NoneInactive s) {connId : Nat}
    (detached : Detached connId s) : Spares [connId] s :=
  ⟨coherent, allOpen, by simpa using detached⟩

theorem deleteContext_spares (spares : Spares [] s) {ctxId : Nat}
    (takes : TakesNone (.deleteContext ctxId) s) :
    Spares [] ((Op.deleteContext ctxId).complete s) := by
  cases on : s.initialized with
  | false =>
    simpa only [Op.complete, Op.program, sceNpSignalingDeleteContext, Prog.exec_bind,
      Prog.exec_locked, on, Bool.false_eq_true, if_false, Prog.exec_pure] using spares
  | true =>
    have all : Spares (contextConnections ctxId s) s :=
      ⟨spares.coherent, spares.allOpen, takes on⟩
    have closed := Prog.triple_forEach (fun connId rest => triple_terminateSig1 connId) s all
    have erased := Section.structural (.eraseContext ctxId : Structural noLicence _ _)
    have left := triple_spares (Prog.uses_update erased) _ closed
    simp only [Op.complete, Op.program, sceNpSignalingDeleteContext, Prog.exec_bind,
      Prog.exec_locked, on, if_true, Prog.exec_pure]
    exact triple_spares uses_releaseContextRef _ left

theorem controlPacket_spares (spares : Spares [] s) {packet : SignalingControl}
    (close : packet.kind = .close) (takes : PeerTakesNone packet s) (fromAddr : UInt32)
    (fromPort : UInt16) (random : UInt32) (now : Int) :
    Spares [] ((Op.controlPacket fromAddr fromPort packet random now).complete s) := by
  have ordinary : packet.kind ≠ .activationRequest := by simp [close]
  simp only [Op.complete, Op.program, handleControlPacket, Prog.exec_bind, Prog.exec_locked,
    handleControlLocked, ordinary, if_false]
  cases search : findTransportByOnlineIdLocked (packetOnlineIdToString packet.onlineIdFrom) s with
  | none => simpa only [sendDatagram, Prog.exec_forSome_none] using spares
  | some t =>
    obtain ⟨ci, found, said⟩ := takes t search
    simp only [controlOnTransportLocked, close, closeRequestLocked, found]
    by_cases deactivates : packet.reason = .deactivate ∧ t.state = .established
    · simp only [if_pos deactivates, sendDatagram, Prog.exec_forSome_none, Prog.exec_forSome_some]
      exact triple_spares (Prog.uses_update (section_dispatch ci.connId _ _)) s spares
    · have detached := said.resolve_left deactivates
      simp only [if_neg deactivates, sendDatagram, Prog.exec_forSome_none, Prog.exec_forSome_some]
      exact triple_closeConnection ci.connId _ _ s
        (spares_one spares.coherent spares.allOpen detached)

theorem complete_spares (spares : Spares [] s) (op : Op) (takes : TakesNone op s) :
    Spares [] (op.complete s) := by
  by_cases closes : op.licence.closes
  · cases op with
    | deactivateSig1 connId =>
      exact triple_deactivateSig1 connId s (spares_one spares.coherent spares.allOpen takes)
    | terminateSig1 connId =>
      exact triple_terminateSig1 connId s (spares_one spares.coherent spares.allOpen takes)
    | deactivateConnection ctxId connId =>
      simp only [Op.complete, Op.program, sceNpSignalingDeactivateConnection, Prog.exec_bind,
        Prog.exec_locked, Prog.exec_pure]
      cases own : ownConnectionLocked ctxId connId s with
      | some error => exact spares
      | none =>
        simp only [Prog.exec_bind, Prog.exec_pure]
        exact triple_deactivateSig1 connId s
          (spares_one spares.coherent spares.allOpen (takes own))
    | terminateConnection ctxId connId =>
      simp only [Op.complete, Op.program, sceNpSignalingTerminateConnection, Prog.exec_bind,
        Prog.exec_locked, Prog.exec_pure]
      cases own : ownConnectionLocked ctxId connId s with
      | some error => exact spares
      | none =>
        have closed := triple_terminateSig1 connId s
          (spares_one spares.coherent spares.allOpen (takes own))
        simp only [Prog.exec_bind, Prog.exec_pure]
        exact triple_spares (Prog.uses_update (section_removeConnection connId)) _ closed
    | deleteContext ctxId => exact deleteContext_spares spares takes
    | controlPacket fromAddr fromPort packet random now =>
      exact controlPacket_spares spares closes (takes closes) fromAddr fromPort random now
    | stepPendingConnections now sendNow =>
      simp only [Op.complete, Op.program, stepPendingConnections, Prog.exec_bind,
        Prog.exec_locked]
      have resend : (Prog.forEach (resendTargets now s) (fun transportId =>
          startTransportHandshakeInitiator transportId (sendNow transportId))).Uses
          (Section noLicence) :=
        Prog.uses_forEach (fun transportId => uses_start transportId (sendNow transportId))
      have resent := triple_spares resend s spares
      exact Prog.triple_forEach_mem
        (fun transportId _ => triple_closeTransport transportId _ _) _ resent
    | stopMatching2 ctxId errorCode matching2ErrorCode =>
      exact Prog.triple_seq (triple_spares (uses_read _)) (fun rooms =>
        Prog.triple_forEach_mem (fun roomId _ =>
          triple_stopMatching2Room ctxId roomId errorCode matching2ErrorCode)) s spares
    | stopMatching2Room ctxId roomId errorCode matching2ErrorCode =>
      exact triple_stopMatching2Room ctxId roomId errorCode matching2ErrorCode s spares
    | _ => exact closes.elim
  · obtain ⟨coherent, allOpen⟩ := exec_open (op_uses op) closes spares.coherent spares.allOpen
    exact spares_nil coherent allOpen

end Complete

/-- In a run that closes no connection on its own, no transport is garbage, the table is no longer
than its uses, and an id is found as long as these are fewer than the ids. -/
theorem transports_tidy (ops : List Op) (spared : Runs.Admitted Op.complete TakesNone ops {}) :
    Runs.Throughout Op.complete Tidy (fun _ _ _ => True) ops {} := by
  have start : Spares [] {} := spares_nil coherent_start (by simp [NoneInactive])
  refine Runs.throughout_of_admitted (fun s spares => spares.allOpen.tidy spares.coherent) ?_ start
    spared
  intro op s spares takes
  exact ⟨complete_spares spares op takes, trivial⟩

/-- A connection without a transport is terminated; the one to `bob` goes when its transport times
out. -/
def timedOutRun : List Op :=
  [.signalingInitialize true true,
    .createContextA (some (ali, 7)) (some 1) 0 0 10,
    .activateConnectionA 1 9 1 0 20,
    .activateSig1 1 bob 0 30,
    .processPendingActivations (fun _ => ⟨some (5, 6), 40⟩),
    .terminateConnection 1 1,
    .stepPendingConnections 30000041 (fun _ => 30000041)]

theorem timedOutRun_tidy :
    Runs.Throughout Op.complete Tidy (fun _ _ _ => True) timedOutRun {} := by
  have detached : Detached 1 (runOps (timedOutRun.take 5) {}) := by decide +kernel
  exact transports_tidy timedOutRun
    ⟨trivial, trivial, trivial, trivial, trivial, fun _ => detached, trivial, trivial⟩

/-- `ali` activates `bob` and terminates the connection again. -/
def terminatedRun : List Op :=
  [.signalingInitialize true true,
    .createContext ali true (some 1) 0 0 10,
    .activateSig1 1 bob 0 20,
    .terminateSig1 1]

/-- The transport stays behind, Inactive and unused. -/
theorem terminatedRun_leaves_garbage :
    ¬ Runs.Throughout Op.complete Tidy (fun _ _ _ => True) terminatedRun {} := by
  intro holds
  rw [← List.append_nil terminatedRun] at holds
  have dirty : ¬ GarbageFree (runOps terminatedRun {}) := by decide +kernel
  exact dirty holds.last.garbageFree

end NpSignaling
