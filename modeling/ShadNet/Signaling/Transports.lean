import ShadNet.Signaling.Sections

/-!
# One live transport per peer

A transport is live until it becomes Inactive. The searches by online id only
see live transports, so a new one is made as soon as the old one is closed. Two
critical sections address a transport by an id they were given earlier: starting
a handshake and establishing. Where neither meets a closed transport, no closed
transport is brought back, in any interleaving of any operations.
-/

namespace NpSignaling

open KeyedTable LockProgram

def UniqueLive (s : NpSignalingState) : Prop :=
  ∀ a ∈ s.peerTransports, ∀ b ∈ s.peerTransports, a.state ≠ .inactive → b.state ≠ .inactive →
    onlineIdToString a.onlineId = onlineIdToString b.onlineId → a.transportId = b.transportId

/-- No transport of the table leaves Inactive. -/
def StaysInactive (s s' : NpSignalingState) : Prop :=
  ∀ t ∈ s.peerTransports, t.state = .inactive →
    ∀ t' ∈ s'.peerTransports, t'.transportId = t.transportId → t'.state = .inactive

/-- At most one live transport under each online id. -/
def OneLivePerPeer (s : NpSignalingState) : Prop :=
  ∀ onlineId, (s.peerTransports.filter (transportMatchesOnlineId · onlineId)).length ≤ 1

section Steps

variable {R : PeerTransport → PeerTransport → Prop} {made : List ConnectionInfo}
  {s s' : NpSignalingState}

theorem OneLivePerPeer.of_unique (coherent : Coherent s) (unique : UniqueLive s) :
    OneLivePerPeer s := by
  intro onlineId
  apply coherent.peerTransports.filter_le_one
  intro a memberA b memberB matchA matchB
  simp only [transportMatchesOnlineId, Bool.and_eq_true, decide_eq_true_eq] at matchA matchB
  exact unique a memberA b memberB matchA.1 matchB.1 (matchA.2.trans matchB.2.symm)

theorem UniqueLive.kept (unique : UniqueLive s) (kept : Kept NoRevival s s') : UniqueLive s' := by
  intro a' ha' b' hb' liveA liveB sameName
  obtain ⟨a, ha, idA, sameA, stayA⟩ := kept.peerTransports.mem_new ha'
  obtain ⟨b, hb, idB, sameB, stayB⟩ := kept.peerTransports.mem_new hb'
  rw [idA, idB]
  refine unique a ha b hb (fun dead => liveA (stayA dead)) (fun dead => liveB (stayB dead)) ?_
  rw [← sameA.name, ← sameB.name, sameName]

theorem UniqueLive.created (unique : UniqueLive s) (created : CreatesTransport s s') :
    UniqueLive s' := by
  obtain ⟨t, seed, -, -, -, -, -, unused, rfl⟩ := created
  intro a ha b hb liveA liveB sameName
  rcases mem_store.mp ha with ⟨oldA, -⟩ | rfl
  · rcases mem_store.mp hb with ⟨oldB, -⟩ | rfl
    · exact unique a oldA b oldB liveA liveB sameName
    · exact absurd sameName (unused a oldA liveA)
  · rcases mem_store.mp hb with ⟨oldB, -⟩ | rfl
    · exact absurd sameName.symm (unused b oldB liveB)
    · rfl

theorem UniqueLive.evolves (unique : UniqueLive s) (evolves : Evolves NoRevival made s s') :
    UniqueLive s' := by
  induction evolves with
  | refl _ => exact unique
  | kept _ kept ih => exact (ih unique).kept kept
  | removed connId _ ih =>
    obtain ⟨npidToConn, removed⟩ := removeConnection_eq connId _
    rw [removed]
    exact ih unique
  | created _ created ih => exact (ih unique).created created
  | inserted ci _ _ _ _ _ _ ih => exact ih unique
  | indexed ci _ _ _ ih => exact ih unique

theorem Evolves.inactive (evolves : Evolves NoRevival made s s') {t : PeerTransport}
    (member : t ∈ s.peerTransports) (inactive : t.state = .inactive) :
    ∃ t' ∈ s'.peerTransports, t'.transportId = t.transportId ∧ t'.state = .inactive := by
  induction evolves with
  | refl _ => exact ⟨t, member, rfl, inactive⟩
  | kept _ kept ih =>
    obtain ⟨t₁, member₁, sameId₁, inactive₁⟩ := ih member
    obtain ⟨t₂, member₂, sameId₂, -, stays⟩ := kept.peerTransports.mem_old member₁
    exact ⟨t₂, member₂, sameId₂.trans sameId₁, stays inactive₁⟩
  | removed connId _ ih =>
    obtain ⟨npidToConn, removed⟩ := removeConnection_eq connId _
    rw [removed]
    exact ih member
  | created _ created ih =>
    obtain ⟨t₁, member₁, sameId, inactive₁⟩ := ih member
    obtain ⟨new, seed, -, free, -, -, -, -, rfl⟩ := created
    have other : t₁.transportId ≠ new.transportId := lookup_none.mp free t₁ member₁
    exact ⟨t₁, mem_store.mpr (Or.inl ⟨member₁, other⟩), sameId, inactive₁⟩
  | inserted ci _ _ _ _ _ _ ih => exact ih member
  | indexed ci _ _ _ ih => exact ih member

theorem StaysInactive.evolves (coherent : Coherent s) (evolves : Evolves NoRevival made s s') :
    StaysInactive s s' := by
  intro t member inactive t' member' sameId
  obtain ⟨t'', member'', sameId'', inactive''⟩ := evolves.inactive member inactive
  have distinct := (evolves.coherent coherent).peerTransports
  rw [distinct.eq_of_key member' member'' (sameId.trans sameId''.symm)]
  exact inactive''

theorem StaysInactive.subset (coherent : Coherent s)
    (subset : ∀ t ∈ s'.peerTransports, t ∈ s.peerTransports) : StaysInactive s s' := by
  intro t member inactive t' member' sameId
  rw [coherent.peerTransports.eq_of_key (subset t' member') member sameId]
  exact inactive

theorem UniqueLive.subset (unique : UniqueLive s)
    (subset : ∀ t ∈ s'.peerTransports, t ∈ s.peerTransports) : UniqueLive s' :=
  fun a ha b hb => unique a (subset a ha) b (subset b hb)

end Steps

/-! ## Every section, and every run -/

/-- Neither section that goes by an old transport id finds the transport closed, except that an
established event that has fired keeps `EstablishConnection` from touching the state. -/
def ActsOnLive : LockSection → NpSignalingState → Prop
  | .startTransportHandshakeInitiator transportId, s =>
    ∀ t ∈ s.peerTransports, t.transportId = transportId → t.state ≠ .inactive
  | .establishConnection transportId, s =>
    ∀ t ∈ s.peerTransports, t.transportId = transportId → t.state = .inactive →
      t.transportEstablishedFired = true
  | _, _ => True

section Sections

variable {licence : Licence} {label : LockSection}
  {update : NpSignalingState → NpSignalingState} {s : NpSignalingState}

theorem quiet_noRevival (t t' : PeerTransport) (quiet : Quiet t t') : NoRevival t t' :=
  quiet.inactive

theorem createContext_keeps (request : ContextRequest) (now : Int) (s : NpSignalingState) :
    (createContextLocked request now s).2.peerTransports = s.peerTransports ∧
      (createContextLocked request now s).2.connections = s.connections := by
  rcases createContext_cases request now s with ⟨error, same⟩ | ⟨ctxId, -, -, -, made⟩
  · simp [same]
  · simp [made]

theorem signalingInitialize_keeps (heapOk echoOk : Bool) (s : NpSignalingState) :
    (initializeLocked heapOk echoOk s).peerTransports = s.peerTransports ∧
      (initializeLocked heapOk echoOk s).connections = s.connections := by
  rcases initialize_cases heapOk echoOk s with same | started | failed
  · rw [same]
    exact ⟨rfl, rfl⟩
  · rw [started]
    exact ⟨rfl, rfl⟩
  · rw [failed]
    exact ⟨rfl, rfl⟩

/-- A structural section makes no transport and no connection, and changes none. -/
theorem structural_subset (member : Structural licence label update) :
    (∀ t ∈ (update s).peerTransports, t ∈ s.peerTransports) ∧
      ∀ ci ∈ (update s).connections, ci ∈ s.connections := by
  cases member with
  | eraseTransport transportId sig1Conns =>
    obtain ⟨npidToConn, erased⟩ := eraseTransport_eq transportId sig1Conns s
    rw [erased]
    exact ⟨fun t ht => (mem_remove.mp ht).1, fun ci hci => (List.mem_filter.mp hci).1⟩
  | createContext request now =>
    obtain ⟨transports, connections⟩ := createContext_keeps request now s
    simp only [transports, connections]
    exact ⟨fun _ ht => ht, fun _ hci => hci⟩
  | eraseContext ctxId =>
    obtain ⟨npidToConn, erased⟩ := eraseContext_eq ctxId s
    rw [erased]
    exact ⟨fun _ ht => ht, fun ci hci => (List.mem_filter.mp hci).1⟩
  | signalingInitialize heapOk echoOk =>
    obtain ⟨transports, connections⟩ := signalingInitialize_keeps heapOk echoOk s
    simp only [transports, connections]
    exact ⟨fun _ ht => ht, fun _ hci => hci⟩
  | stopLibrary _ => exact ⟨fun _ ht => ht, fun _ hci => hci⟩
  | stopDispatch _ => exact ⟨fun _ ht => ht, fun _ hci => hci⟩
  | joinDispatch => exact ⟨fun _ ht => ht, fun _ hci => hci⟩
  | takeDispatch _ =>
    obtain ⟨taken, inHand, round⟩ := takeDispatch_eq s
    simp only [round]
    exact ⟨fun _ ht => ht, fun _ hci => hci⟩
  | invokeCallback _ =>
    obtain ⟨inHand, invoked, called⟩ := invokeCallback_eq s
    rw [called]
    exact ⟨fun _ ht => ht, fun _ hci => hci⟩
  | reset _ => exact ⟨fun _ ht => ht, fun ci hci => by cases hci⟩
  | rehash tables =>
    unfold rehashLocked
    split
    · rename_i same
      exact ⟨fun _ ht => (List.isPerm_iff.mp same.2.2.1).mem_iff.mp ht,
        fun _ hci => (List.isPerm_iff.mp same.2.1).mem_iff.mp hci⟩
    · exact ⟨fun _ ht => ht, fun _ hci => hci⟩

/-- A permitted section changes the transports without reviving one, or only drops some. -/
theorem section_transports (member : Section licence label update) (coherent : Coherent s)
    (permit : ActsOnLive label s) :
    (∃ made, Evolves NoRevival made s (update s)) ∨
      ∀ t ∈ (update s).peerTransports, t ∈ s.peerTransports := by
  cases member with
  | evolves evolves _ => exact Or.inl ⟨_, (evolves s coherent).quiet.mono quiet_noRevival⟩
  | closes _ kept _ => exact Or.inl ⟨_, Evolves.of_kept ((kept s).mono quiet_noRevival)⟩
  | startTransportHandshakeInitiator transportId now =>
    have kept := (kept_start_steady transportId now permit).quiet
    exact Or.inl ⟨_, Evolves.of_kept (kept.mono quiet_noRevival)⟩
  | establishConnection transportId hint now =>
    have kept := kept_establish composable_noRevival transportId hint now
      (fun t ht sameId => establishTransport_noRevival (permit t ht sameId))
    exact Or.inl ⟨_, Evolves.of_kept kept⟩
  | activateSig1 ctxId peerNpid random now =>
    obtain evolves | ⟨ci, evolves⟩ := activateSig1_evolves coherent ctxId peerNpid random now
    · exact Or.inl ⟨_, evolves.quiet.mono quiet_noRevival⟩
    · exact Or.inl ⟨_, evolves.quiet.mono quiet_noRevival⟩
  | activateConnectionA ctxId accountId platformType random now =>
    obtain evolves | ⟨ci, -, -, inserts⟩ :=
      activationStub_cases ctxId accountId platformType random now
    · exact Or.inl ⟨_, evolves.quiet.mono quiet_noRevival⟩
    · exact Or.inl ⟨_, inserts.evolves.quiet.mono quiet_noRevival⟩
  | handleControlPacket fromAddr fromPort packet random _ =>
    obtain evolves | ⟨ci, evolves⟩ := handleControl_evolves coherent fromAddr fromPort packet random
    · exact Or.inl ⟨_, evolves.mono quiet_noRevival⟩
    · exact Or.inl ⟨_, evolves.mono quiet_noRevival⟩
  | reply transportId packet now _ =>
    exact Or.inl ⟨_, Evolves.of_kept ((kept_sendHandshake transportId packet now).quiet.mono
      quiet_noRevival)⟩
  | structural member => exact Or.inr (structural_subset member).1

theorem section_keepsLive (member : Section licence label update) (coherent : Coherent s)
    (unique : UniqueLive s) (permit : ActsOnLive label s) :
    UniqueLive (update s) ∧ StaysInactive s (update s) := by
  obtain ⟨made, evolves⟩ | subset := section_transports member coherent permit
  · exact ⟨unique.evolves evolves, StaysInactive.evolves coherent evolves⟩
  · exact ⟨unique.subset subset, StaysInactive.subset coherent subset⟩

/-- Sending a handshake only stamps the transport, if it does anything to it. -/
theorem sendHandshake_keeps_state (transportId : Nat) (packet : SignalingHandshake) (now : Int)
    {t : PeerTransport} (member : t ∈ s.peerTransports) :
    ∃ t' ∈ (sendHandshakeLocked transportId packet now s).peerTransports,
      t'.transportId = t.transportId ∧ t'.state = t.state := by
  unfold sendHandshakeLocked
  cases s.transport? transportId with
  | none => exact ⟨t, member, rfl, rfl⟩
  | some transport =>
    dsimp only
    split
    · exact ⟨t, member, rfl, rfl⟩
    · rw [sync_transports]
      by_cases same : t.transportId = transportId
      · exact ⟨_, mem_adjust_self member same, rfl, rfl⟩
      · exact ⟨t, mem_adjust_other member same, rfl, rfl⟩

/-- Starting a handshake on a closed transport reopens it, whatever its history. -/
theorem start_revives (coherent : Coherent s) {t : PeerTransport} (member : t ∈ s.peerTransports)
    (inactive : t.state = .inactive) (now : Int) :
    ¬ StaysInactive s (startTransportHandshakeInitiatorLocked t.transportId now s) := by
  intro stays
  have found : s.transport? t.transportId = some t := coherent.transport_of_mem member
  have kind : initiatorKind t.state = some .offer := by rw [inactive]; rfl
  have reopened : (startedTransport t).state = .sendingOffer := by
    simp only [startedTransport, initiatorTransport, inactive, setTransportStateLocked]
  have started : startedTransport t ∈
      (s.adjustTransport t.transportId startedTransport).peerTransports :=
    mem_adjust_self member rfl
  obtain ⟨t', member', sameId', state'⟩ := sendHandshake_keeps_state t.transportId
    (initiatorPacket s.externalIp .offer now (startedTransport t)) now started
  have dead := stays t member inactive t'
    (by simpa only [startTransportHandshakeInitiatorLocked, found, kind] using member')
    (sameId'.trans (startedTransport_same t).1)
  rw [state', reopened] at dead
  cases dead

theorem establish_revives (coherent : Coherent s) {t : PeerTransport}
    (member : t ∈ s.peerTransports) (inactive : t.state = .inactive)
    (fresh : t.transportEstablishedFired = false) (hint : Bool) (now : Int) :
    ¬ StaysInactive s (establishConnectionLocked t.transportId hint now s).2 := by
  intro stays
  have found : s.transport? t.transportId = some t := coherent.transport_of_mem member
  obtain ⟨sameId, -⟩ := establishTransport_same hint now t
  have member' : establishTransport hint now t ∈
      (establishConnectionLocked t.transportId hint now s).2.peerTransports := by
    simp only [establishConnectionLocked, found]
    exact mem_adjust_self member rfl
  have dead := stays t member inactive _ member' sameId
  rw [establishTransport_fresh fresh] at dead
  cases dead

theorem section_permitted (member : Section licence label update) (coherent : Coherent s)
    (stays : StaysInactive s (update s)) : ActsOnLive label s := by
  cases member with
  | startTransportHandshakeInitiator transportId now =>
    rintro t ht rfl inactive
    exact start_revives coherent ht inactive now stays
  | establishConnection transportId hint now =>
    rintro t ht rfl inactive
    by_contra fresh
    exact establish_revives coherent ht inactive (by simpa using fresh) hint now stays
  | structural member => cases member <;> trivial
  | _ => trivial

end Sections

/-- A run of interleaved operations from the initial state. -/
abbrev runtimeStart : Pool NpSignalingState LockSection := ⟨{}, []⟩

abbrev RuntimeAction := Action Op

/-- Exactly the runs in which both sections that go by an old transport id find it open have one
live transport for each peer throughout, and never reopen one. -/
theorem one_live_transport_iff (actions : List RuntimeAction) :
    Runs.Throughout (Pool.step Op.program) (fun pool => OneLivePerPeer pool.state)
        (fun _ pool pool' => StaysInactive pool.state pool'.state) actions runtimeStart ↔
      Runs.Admitted (Pool.step Op.program) (Pool.Permitted ActsOnLive) actions runtimeStart := by
  let Inv (pool : Pool NpSignalingState LockSection) : Prop :=
    Pool.ThreadsUse (Section anyLicence) pool ∧ Coherent pool.state ∧ UniqueLive pool.state
  have start : Inv runtimeStart :=
    ⟨by simp [Pool.ThreadsUse], coherent_start, by simp [UniqueLive]⟩
  refine Runs.throughout_iff_admitted ?_ ?_ ?_ start
  · rintro pool ⟨_, coherent, unique⟩
    exact OneLivePerPeer.of_unique coherent unique
  · rintro action pool ⟨threads, coherent, unique⟩ permitted
    obtain ⟨threads', ⟨-, same⟩ | ⟨label, update, member, taken, state⟩⟩ :=
      Pool.step_cases op_uses_any threads action
    · refine ⟨⟨threads', same ▸ coherent, same ▸ unique⟩, ?_⟩
      rw [same]
      exact StaysInactive.subset coherent (fun _ ht => ht)
    · obtain ⟨unique', stays⟩ := section_keepsLive member coherent unique (permitted label taken)
      have coherent' := section_coherent member coherent
      exact ⟨⟨threads', state ▸ coherent', state ▸ unique'⟩, state ▸ stays⟩
  · rintro action pool ⟨threads, coherent, unique⟩ stays label taken
    obtain ⟨-, ⟨idle, -⟩ | ⟨label', update, member, taken', state⟩⟩ :=
      Pool.step_cases op_uses_any threads action
    · rw [taken] at idle
      cases idle
    · obtain rfl := Option.some.inj (taken.symm.trans taken')
      rw [state] at stays
      exact section_permitted member coherent stays

/-- Two contexts activate `bob` and share a transport; the first deactivates, which closes it, and
activates again, which makes another. The second context's activation is still queued under the
closed transport and restarts it. -/
def reopenedRun : List RuntimeAction :=
  Action.serial 14
    [.signalingInitialize true true,
      .createContext ali true (some 1) 0 0 10,
      .createContext car true (some 1) 0 0 10,
      .activateSig1 1 bob 0 20,
      .activateSig1 2 bob 0 21,
      .deactivateSig1 1,
      .activateSig1 1 bob 0 22,
      .processPendingActivations (fun _ => ⟨some (5, 6), 30⟩)]

theorem reopenedRun_two_live :
    ¬ Runs.Throughout (Pool.step Op.program) (fun pool => OneLivePerPeer pool.state)
      (fun _ pool pool' => StaysInactive pool.state pool'.state) reopenedRun runtimeStart := by
  intro holds
  have one : OneLivePerPeer (Runs.run (Pool.step Op.program) reopenedRun runtimeStart).state := by
    rw [← List.append_nil reopenedRun] at holds
    exact holds.last
  have two : ((Runs.run (Pool.step Op.program) reopenedRun runtimeStart).state.peerTransports.filter
      (transportMatchesOnlineId · (onlineIdToString bob.handle))).length = 2 := by
    decide +kernel
  have bound := one (onlineIdToString bob.handle)
  rw [two] at bound
  exact absurd bound (by decide)

end NpSignaling
