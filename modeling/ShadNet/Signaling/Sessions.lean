import ShadNet.Signaling.Complete

/-!
# Sessions of the signaling library

`sceNpSignalingTerminate` empties the tables it lists and leaves the transports,
which matching2 shares, and the seed of their ids as they are. Nothing else
passes from one session to the next, so whatever is called later answers as it
would in a first session that found these transports.
-/

namespace NpSignaling

open KeyedTable LockProgram

/-! ## What a caller sees -/

inductive CallResult where
  | nothing
  | done (result : Except SignalingError Unit)
  | id (result : Except SignalingError Nat)
  | request (result : Except SignalingError UInt32)
  | netInfo (result : Except SignalingError PeerNetInfoResult)
  | statistics (result : Except SignalingError ConnectionStatistics)

/-- The operation with what it returns; only library calls return anything. -/
def Op.call : Op → Signaling CallResult
  | .signalingTerminate => do return .done (← sceNpSignalingTerminate)
  | .createContext npid valid callback callbackArg sdkVersion now => do
    return .id (← sceNpSignalingCreateContext npid valid callback callbackArg sdkVersion now)
  | .createContextA account callback callbackArg sdkVersion now => do
    return .id (← sceNpSignalingCreateContextA account callback callbackArg sdkVersion now)
  | .deleteContext ctxId => do return .done (← sceNpSignalingDeleteContext ctxId)
  | .activateSig1 ctxId peerNpid random now => do
    return .id (← NpSignaling.activateSig1 ctxId peerNpid peerNpid.handle random now)
  | .activateConnection ctxId peerNpid valid random now => do
    return .id (← sceNpSignalingActivateConnection ctxId peerNpid valid random now)
  | .activateConnectionA ctxId accountId platformType random now => do
    return .id (← sceNpSignalingActivateConnectionA ctxId accountId platformType random now)
  | .deactivateConnection ctxId connId => do
    return .done (← sceNpSignalingDeactivateConnection ctxId connId)
  | .terminateConnection ctxId connId => do
    return .done (← sceNpSignalingTerminateConnection ctxId connId)
  | .getPeerNetInfo ctxId valid externalIpv4 natRouteKind => do
    return .request (← sceNpSignalingGetPeerNetInfo ctxId valid externalIpv4 natRouteKind)
  | .getPeerNetInfoA ctxId externalIpv4 natRouteKind => do
    return .request (← sceNpSignalingGetPeerNetInfoA ctxId externalIpv4 natRouteKind)
  | .cancelPeerNetInfo ctxId reqOrConnId => do
    return .done (← sceNpSignalingCancelPeerNetInfo ctxId reqOrConnId)
  | .getPeerNetInfoResult ctxId connId => do
    return .netInfo (← sceNpSignalingGetPeerNetInfoResult ctxId connId)
  | .getConnectionStatistics => do return .statistics (← sceNpSignalingGetConnectionStatistics)
  | op => do
    op.program
    return .nothing

/-- What an operation returns, sends, hands to callbacks and queues for matching2. -/
structure Output where
  result : CallResult
  sent : List Datagram
  invoked : List QueuedDispatch
  matching2Events : List Matching2SignalingEvent

def Op.output (op : Op) (s : NpSignalingState) : Output :=
  let s' := op.complete s
  { result := (op.call.exec s).1
    sent := s'.sent.drop s.sent.length
    invoked := (s'.invoked.drop s.invoked.length).filterMap (fun position => s'.staged[position]?)
    matching2Events := s'.matching2Events.drop s.matching2Events.length }

def transcript : List Op → NpSignalingState → List Output
  | [], _ => []
  | op :: ops, s => op.output s :: transcript ops (op.complete s)

/-! ## The end of a session -/

abbrev opened (s : NpSignalingState) : NpSignalingState :=
  (Op.signalingInitialize true true).complete s

/-- The signaling library as it is before its first session. The records of what was sent, staged
and made so far stay, and so does what belongs to the runtime and to the libraries beside it. -/
def neverOpened (s : NpSignalingState) : NpSignalingState :=
  { staged := s.staged, taken := s.staged.length, invoked := s.invoked
    sent := s.sent, connectionsMade := s.connectionsMade
    contextRefs := s.contextRefs, runtimeRunning := s.runtimeRunning
    externalIp := s.externalIp
    contextObjects := s.contextObjects, caches := s.caches
    matching2Events := s.matching2Events, matching2Initialized := s.matching2Initialized
    matching2NextId := s.matching2NextId, objectsMade := s.objectsMade }

/-! ## The dispatch thread between operations -/

section Idle

variable {R : PeerTransport → PeerTransport → Prop} {made : List ConnectionInfo}
  {s s' : NpSignalingState}

/-- Events may be staged; the dispatch thread stays where it is. -/
structure QueueGrows (s s' : NpSignalingState) : Prop where
  staged : s.staged <+: s'.staged
  stopped : s.dispatchStop = true → s'.staged = s.staged
  dispatchStop : s'.dispatchStop = s.dispatchStop
  taken : s'.taken = s.taken
  inHand : s'.inHand = s.inHand
  invoked : s'.invoked = s.invoked

theorem QueueGrows.refl (s : NpSignalingState) : QueueGrows s s :=
  ⟨List.prefix_refl _, fun _ => rfl, rfl, rfl, rfl, rfl⟩

theorem QueueGrows.of_kept {s'' : NpSignalingState} (grows : QueueGrows s s')
    (kept : Kept R s' s'') : QueueGrows s s'' where
  staged := by
    obtain ⟨news, appended, -⟩ := kept.staged
    rw [appended]
    exact grows.staged.trans (List.prefix_append _ _)
  stopped := by
    intro stop
    rw [kept.stopped (grows.dispatchStop.trans stop), grows.stopped stop]
  dispatchStop := kept.dispatchStop.trans grows.dispatchStop
  taken := kept.taken.trans grows.taken
  inHand := kept.inHand.trans grows.inHand
  invoked := kept.invoked.trans grows.invoked

theorem Evolves.queueGrows (evolves : Evolves R made s s') : QueueGrows s s' := by
  induction evolves with
  | refl s => exact QueueGrows.refl s
  | kept _ kept ih => exact ih.of_kept kept
  | removed connId _ ih =>
    obtain ⟨npidToConn, removed⟩ := removeConnection_eq connId _
    rw [removed]
    exact { ih with }
  | created _ created ih =>
    obtain ⟨t, seed, -, -, -, -, -, -, rfl⟩ := created
    exact { ih with }
  | inserted _ _ _ _ _ _ _ ih => exact { ih with }
  | indexed _ _ _ _ ih => exact { ih with }

/-- The sections that start, stop or are the dispatch thread. -/
inductive DispatchSection (licence : Licence) : (NpSignalingState → NpSignalingState) → Prop where
  | signalingInitialize (heapOk echoOk : Bool) :
      DispatchSection licence (initializeLocked heapOk echoOk)
  | stopDispatch : DispatchSection licence stopDispatchLocked
  | takeDispatch (takes : licence.takes) :
      DispatchSection licence (fun s => (takeDispatchLocked s).2)
  | invokeCallback (takes : licence.takes) : DispatchSection licence invokeCallback

/-- All other sections let the dispatch thread be. -/
theorem section_queueGrows {licence : Licence} {label : LockSection}
    {update : NpSignalingState → NpSignalingState} (member : Section licence label update)
    (coherent : Coherent s) : QueueGrows s (update s) ∨ DispatchSection licence update := by
  obtain ⟨made, evolves⟩ | structural := section_split member coherent
  · exact Or.inl evolves.queueGrows
  cases structural with
  | eraseTransport transportId sig1Conns =>
    obtain ⟨npidToConn, erased⟩ := eraseTransport_eq transportId sig1Conns s
    rw [erased]
    exact Or.inl { QueueGrows.refl s with }
  | createContext request now =>
    rcases createContext_cases request now s with ⟨error, same⟩ | ⟨ctxId, -, -, -, created⟩
    · simp only [same]
      exact Or.inl (QueueGrows.refl s)
    · simp only [created]
      exact Or.inl { QueueGrows.refl s with }
  | eraseContext ctxId =>
    obtain ⟨npidToConn, erased⟩ := eraseContext_eq ctxId s
    rw [erased]
    exact Or.inl { QueueGrows.refl s with }
  | signalingInitialize heapOk echoOk => exact Or.inr (.signalingInitialize heapOk echoOk)
  | stopLibrary _ => exact Or.inl { QueueGrows.refl s with }
  | stopDispatch _ => exact Or.inr .stopDispatch
  | joinDispatch => exact Or.inl (QueueGrows.refl s)
  | takeDispatch takes => exact Or.inr (.takeDispatch takes)
  | invokeCallback takes => exact Or.inr (.invokeCallback takes)
  | reset _ => exact Or.inl { QueueGrows.refl s with }
  | rehash tables =>
    left
    simp only [rehashLocked]
    split
    · exact { QueueGrows.refl s with }
    · exact QueueGrows.refl s

theorem section_inHand {licence : Licence} {label : LockSection}
    {update : NpSignalingState → NpSignalingState} (member : Section licence label update)
    (waits : ¬ licence.takes) (coherent : Coherent s) : (update s).inHand = s.inHand := by
  obtain grows | dispatching := section_queueGrows member coherent
  · exact grows.inHand
  cases dispatching with
  | signalingInitialize heapOk echoOk =>
    rcases initialize_cases heapOk echoOk s with same | started | failed
    · rw [same]
    · rw [started]
    · rw [failed]
      rfl
  | stopDispatch => rfl
  | takeDispatch takes => exact absurd takes waits
  | invokeCallback takes => exact absurd takes waits

/-- The dispatch thread leaves its callback before the round ends. -/
theorem dispatchThread_idle (idle : s.inHand = none) :
    (Op.dispatchThread.complete s).inHand = none := by
  simp only [Op.complete, Op.program, dispatchThreadRound, Prog.exec_bind, Prog.exec_locked,
    takeDispatchLocked]
  split
  · exact idle
  · rfl

theorem complete_idle (sound : Sound s) (idle : s.inHand = none) (op : Op) :
    (op.complete s).inHand = none := by
  by_cases takes : op.licence.takes
  · cases op with
    | dispatchThread => exact dispatchThread_idle idle
    | _ => exact takes.elim
  · have keeps : ∀ label update, Section op.licence label update → ∀ s,
        Coherent s ∧ s.inHand = none → Coherent (update s) ∧ (update s).inHand = none := by
      rintro label update member s ⟨coherent, idle⟩
      exact ⟨section_coherent member coherent,
        (section_inHand member takes coherent).trans idle⟩
    exact ((op_uses op).exec_keeps keeps ⟨sound.coherent, idle⟩).2

end Idle

section Ended

variable {s : NpSignalingState}

/-- All that a terminated session hands on are its transports and the seed of their ids. -/
theorem opened_terminate (idle : s.inHand = none) (on : s.initialized = true) :
    opened (Op.signalingTerminate.complete s) =
      { opened (neverOpened (Op.signalingTerminate.complete s)) with
        peerTransports := s.peerTransports, transportIdSeed := s.transportIdSeed } := by
  rcases terminate_exec s with ⟨-, off⟩ | ⟨contextRefs, runtimeRunning, ended⟩
  · rw [on] at off
    cases off
  · rw [ended, opened, opened]
    simp [Op.complete, Op.program, initializeLocked, neverOpened, resetSig1Data,
      stopDispatchLocked, idle]

end Ended

def offerFrom (onlineId : Vector UInt8 16) : SignalingHandshake :=
  { kind := .offer, onlineIdFrom := onlineId, onlineIdTo := onlineId, fromConnId := 0 }

/-! ## Sessions one after the other -/

/-- The session opened after this terminating call answers like a first session. -/
def StartsAfresh (op : Op) (s s' : NpSignalingState) : Prop :=
  op = .signalingTerminate → s.initialized = true →
    ∀ later, transcript later (opened s') = transcript later (opened (neverOpened s'))

/-- It answers like a first session that finds the transports of the one before. -/
def StartsOnTransports (op : Op) (s s' : NpSignalingState) : Prop :=
  op = .signalingTerminate → s.initialized = true →
    ∀ later, transcript later (opened s') =
      transcript later { opened (neverOpened s') with
        peerTransports := s.peerTransports, transportIdSeed := s.transportIdSeed }

/-- `ali` establishes a connection to `bob` and terminates the library. -/
def inheritedRun : List Op :=
  [.signalingInitialize true true,
    .createContext ali true (some 1) 0 0 10,
    .activateSig1 1 bob 0 20,
    .processPendingActivations (fun _ => ⟨some (5, 6), 30⟩),
    .handshakePacket 5 6 { offerFrom bob.handle.data with kind := .accept } 40,
    .handshakePacket 5 6 { offerFrom bob.handle.data with kind := .checkAck } 50]

/-- The next session activates `bob` again; no packet arrives. -/
def nextSession : List Op :=
  [.createContext ali true (some 2) 0 0 100,
    .activateSig1 1 bob 0 110,
    .processPendingActivations (fun _ => ⟨some (5, 6), 120⟩),
    .dispatchThread]

end NpSignaling
