import ShadNet.LossyNetwork
import ShadNet.Signaling.Complete

/-!
# What provokes a handshake packet

Only an Offer is sent unasked. The other packets, and the states that make the
periodic step send them, come from packets of the peer: they are followed here
from the section that reads one packet to the one that sends the next.
-/

namespace NpSignaling

open KeyedTable LockProgram Prog

/-- A packet of this kind was sent under the name. -/
def Heard (known : Packet → Prop) (kind : HandshakeKind) (name : List UInt8) : Prop :=
  ∃ packet : SignalingHandshake, known (.handshake packet) ∧ packet.kind = kind ∧
    packetOnlineIdToString packet.onlineIdFrom = name

/-- The cause of a packet: one that its addressee has sent. -/
def Provoked (known : Packet → Prop) : Packet → Prop
  | .control _ => True
  | .handshake packet =>
    match packet.kind with
    | .offer => True
    | .accept => Heard known .offer (packetOnlineIdToString packet.onlineIdTo)
    | .check => Heard known .accept (packetOnlineIdToString packet.onlineIdTo) ∨
        Heard known .check (packetOnlineIdToString packet.onlineIdTo)
    | .checkAck => ∃ check : SignalingHandshake, known (.handshake check) ∧ check.kind = .check ∧
        packetOnlineIdToString check.onlineIdFrom = packetOnlineIdToString packet.onlineIdTo ∧
        check.nonce = packet.nonce
    | .other _ => False

def PeerTransport.peerName (transport : PeerTransport) : List UInt8 :=
  onlineIdToString transport.onlineId

/-- The states that only a packet of the peer brings about. -/
def ConnState.prompted (state : ConnState) : Bool :=
  state = .sendingAccept || state = .connCheck || state = .established

/-- The peer has sent what a transport in this state answers. -/
def Backed (known : Packet → Prop) (transport : PeerTransport) : Prop :=
  (transport.state = .sendingAccept → Heard known .offer transport.peerName) ∧
    (transport.state = .connCheck →
      Heard known .accept transport.peerName ∨ Heard known .check transport.peerName)

theorem Heard.mono {known known' : Packet → Prop} {kind : HandshakeKind} {name : List UInt8}
    (grows : ∀ packet, known packet → known' packet) (heard : Heard known kind name) :
    Heard known' kind name := by
  obtain ⟨packet, there, facts⟩ := heard
  exact ⟨packet, grows _ there, facts⟩

theorem Backed.mono {known known' : Packet → Prop} {t : PeerTransport}
    (grows : ∀ packet, known packet → known' packet) (backed : Backed known t) :
    Backed known' t :=
  ⟨fun state => (backed.1 state).mono grows,
    fun state => (backed.2 state).imp (Heard.mono grows) (Heard.mono grows)⟩

/-- What a transport knows lasts as long as its name and a prompted state. -/
theorem Backed.of_same {known : Packet → Prop} {t t' : PeerTransport} (backed : Backed known t)
    (name : t.peerName = t'.peerName) (state : t.state = t'.state) : Backed known t' := by
  rw [Backed, ← name, ← state]
  exact backed

theorem backed_unprompted {known : Packet → Prop} {t : PeerTransport}
    (fresh : t.state.prompted = false) : Backed known t := by
  constructor
  · intro state
    simp [state, ConnState.prompted] at fresh
  · intro state
    simp [state, ConnState.prompted] at fresh

/-! ## Sections that answer nothing -/

/-- A packet a transport sends by its state alone. -/
def Volunteered (s : NpSignalingState) : Packet → Prop
  | .control _ => True
  | .handshake packet => packet.kind = .offer ∨
      ∃ t ∈ s.peerTransports, t.peerName = packetOnlineIdToString packet.onlineIdTo ∧
        (packet.kind = .accept ∧ t.state = .sendingAccept ∨
          packet.kind = .check ∧ t.state = .connCheck)

/-- No transport gets into a prompted state, and what is sent goes by the states there were. -/
structure Unprompted (s s' : NpSignalingState) : Prop where
  transports : ∀ t' ∈ s'.peerTransports, t'.state.prompted = true →
    ∃ t ∈ s.peerTransports, t.peerName = t'.peerName ∧ t.state = t'.state
  sent : ∃ news, s'.sent = s.sent ++ news ∧ ∀ d ∈ news, Volunteered s d.packet

section Unprompted

variable {s s' s'' : NpSignalingState}

theorem Unprompted.of_subset (subset : ∀ t ∈ s'.peerTransports, t ∈ s.peerTransports)
    (sent : s'.sent = s.sent) : Unprompted s s' where
  transports t member _ := ⟨t, subset t member, rfl, rfl⟩
  sent := ⟨[], by simp [sent], by simp⟩

theorem Unprompted.of_same (transports : s'.peerTransports = s.peerTransports)
    (sent : s'.sent = s.sent) : Unprompted s s' :=
  .of_subset (fun _ member => transports ▸ member) sent

theorem Unprompted.refl (s : NpSignalingState) : Unprompted s s := .of_same rfl rfl

theorem Volunteered.before (quiet : Unprompted s s') {packet : Packet}
    (volunteered : Volunteered s' packet) : Volunteered s packet := by
  cases packet with
  | control packet => trivial
  | handshake packet =>
    rcases volunteered with offer | ⟨t', member', name', speaks⟩
    · exact Or.inl offer
    · have prompted : t'.state.prompted = true := by
        rcases speaks with ⟨-, state⟩ | ⟨-, state⟩ <;> simp [state, ConnState.prompted]
      obtain ⟨t, member, name, state⟩ := quiet.transports t' member' prompted
      exact Or.inr ⟨t, member, name.trans name', state ▸ speaks⟩

theorem Unprompted.trans (first : Unprompted s s') (second : Unprompted s' s'') :
    Unprompted s s'' := by
  constructor
  · intro t'' member'' prompted
    obtain ⟨t', member', name', state'⟩ := second.transports t'' member'' prompted
    obtain ⟨t, member, name, state⟩ := first.transports t' member' (state' ▸ prompted)
    exact ⟨t, member, name.trans name', state.trans state'⟩
  · obtain ⟨news, sent, volunteered⟩ := first.sent
    obtain ⟨later, sent', volunteered'⟩ := second.sent
    refine ⟨news ++ later, by rw [sent', sent, List.append_assoc], fun d member => ?_⟩
    rcases List.mem_append.mp member with old | new
    · exact volunteered d old
    · exact (volunteered' d new).before first

theorem unprompted_adjustTransport (transportId : Nat) {f : PeerTransport → PeerTransport}
    (keeps : ∀ t ∈ s.peerTransports, t.transportId = transportId →
      (f t).state.prompted = true → t.peerName = (f t).peerName ∧ t.state = (f t).state) :
    Unprompted s (s.adjustTransport transportId f) where
  transports t' member' prompted := by
    obtain ⟨t, member, image⟩ := mem_adjust.mp member'
    split at image
    · rename_i same
      subst image
      obtain ⟨name, state⟩ := keeps t member same prompted
      exact ⟨t, member, name, state⟩
    · exact ⟨t, member, image ▸ rfl, image ▸ rfl⟩
  sent := ⟨[], by simp [NpSignalingState.adjustTransport], by simp⟩

theorem Unprompted.send (quiet : Unprompted s s') {d : Datagram}
    (volunteered : Volunteered s d.packet) : Unprompted s (s'.send d) := by
  obtain ⟨news, sent, volunteered'⟩ := quiet.sent
  refine ⟨quiet.transports, ⟨news ++ [d], ?_, fun other member => ?_⟩⟩
  · rw [NpSignalingState.send, sent, List.append_assoc]
  · rcases List.mem_append.mp member with old | new
    · exact volunteered' other old
    · rwa [List.mem_singleton.mp new]

theorem unprompted_send {d : Datagram} (volunteered : Volunteered s d.packet) :
    Unprompted s (s.send d) :=
  (Unprompted.refl s).send volunteered

theorem unprompted_sync (transportId : Nat) :
    Unprompted s (syncSig1ConnectionsForTransportLocked transportId s) :=
  .of_same (sync_transports transportId s) (sync_sent transportId)

theorem unprompted_sendActivate (ci : ConnectionInfo) : Unprompted s (sendActivate ci s) := by
  unfold sendActivate
  cases s.transport? ci.transportId with
  | none => exact Unprompted.refl s
  | some t =>
    dsimp only
    split
    · exact Unprompted.refl s
    · exact unprompted_send trivial

theorem unprompted_sendControlClose (ci : ConnectionInfo) (reason : ControlReason) :
    Unprompted s (sendControlCloseLocked ci reason s) := by
  unfold sendControlCloseLocked
  cases s.transport? ci.transportId with
  | none => exact Unprompted.refl s
  | some t =>
    dsimp only
    split
    · exact Unprompted.refl s
    · exact unprompted_send trivial

theorem OnlyMatching2.unprompted (only : OnlyMatching2 s s') : Unprompted s s' := by
  obtain ⟨_, _, rfl⟩ := only
  exact Unprompted.of_same rfl rfl

theorem prompted_set {newState : ConnState} (fresh : newState.prompted = false)
    (t : PeerTransport) (prompted : (setTransportStateLocked newState t).state.prompted = true) :
    t.peerName = (setTransportStateLocked newState t).peerName ∧
      t.state = (setTransportStateLocked newState t).state := by
  rw [setTransportStateLocked, fresh] at prompted
  cases prompted

theorem Unprompted.sendHandshake (quiet : Unprompted s s') {packet : SignalingHandshake}
    (volunteered : Volunteered s (.handshake packet)) (transportId : Nat) (now : Int) :
    Unprompted s (sendHandshakeLocked transportId packet now s') := by
  unfold sendHandshakeLocked
  cases s'.transport? transportId with
  | none => exact quiet
  | some transport =>
    dsimp only
    split
    · exact quiet
    · have stamped : Unprompted s
          (s'.adjustTransport transportId (fun t => { t with lastHandshakeSendUs := now })) :=
        quiet.trans (unprompted_adjustTransport transportId (fun _ _ _ _ => ⟨rfl, rfl⟩))
      have sent := @Unprompted.send _ _ stamped
        ⟨transport.addr, transport.port, .handshake packet⟩ volunteered
      exact sent.trans (unprompted_sync transportId)

theorem startedTransport_prompted (t : PeerTransport)
    (prompted : (startedTransport t).state.prompted = true) :
    t.peerName = (startedTransport t).peerName ∧ t.state = (startedTransport t).state := by
  unfold startedTransport initiatorTransport at prompted ⊢
  split
  · rename_i waiting
    simp only [waiting] at prompted
    cases prompted
  · rename_i inactive
    simp only [inactive] at prompted
    cases prompted
  · exact ⟨rfl, rfl⟩

theorem initiatorPacket_fields (externalIp : UInt32) (kind : HandshakeKind) (now : Int)
    (t : PeerTransport) :
    (initiatorPacket externalIp kind now (startedTransport t)).kind = kind ∧
      packetOnlineIdToString
        (initiatorPacket externalIp kind now (startedTransport t)).onlineIdTo = t.peerName := by
  have name : (startedTransport t).onlineId = t.onlineId := by
    unfold startedTransport initiatorTransport
    cases t.state <;> rfl
  have fields : (initiatorPacket externalIp kind now (startedTransport t)).kind = kind ∧
      (initiatorPacket externalIp kind now (startedTransport t)).onlineIdTo =
        (startedTransport t).onlineId.data := by
    unfold initiatorPacket makeHandshakeLocked
    split <;> exact ⟨rfl, rfl⟩
  exact ⟨fields.1, by rw [fields.2, name]; rfl⟩

/-- The periodic packet of a transport goes by its state. -/
theorem volunteered_initiator {t : PeerTransport} {kind : HandshakeKind}
    (member : t ∈ s.peerTransports) (initiates : initiatorKind t.state = some kind)
    (externalIp : UInt32) (now : Int) :
    Volunteered s (.handshake (initiatorPacket externalIp kind now (startedTransport t))) := by
  obtain ⟨sameKind, addressee⟩ := initiatorPacket_fields externalIp kind now t
  rw [Volunteered, sameKind, addressee]
  cases state : t.state <;> rw [state, initiatorKind] at initiates
  case established => cases initiates
  case sendingAccept =>
    exact Or.inr ⟨t, member, rfl, Or.inl ⟨(Option.some.inj initiates).symm, state⟩⟩
  case connCheck =>
    exact Or.inr ⟨t, member, rfl, Or.inr ⟨(Option.some.inj initiates).symm, state⟩⟩
  all_goals exact Or.inl (Option.some.inj initiates).symm

theorem unprompted_start (transportId : Nat) (now : Int) :
    Unprompted s (startTransportHandshakeInitiatorLocked transportId now s) := by
  unfold startTransportHandshakeInitiatorLocked
  cases found : s.transport? transportId with
  | none => exact Unprompted.refl s
  | some t =>
    obtain ⟨member, -⟩ := lookup_some found
    dsimp only
    cases initiates : initiatorKind t.state with
    | none => exact unprompted_adjustTransport transportId (fun _ _ _ _ => ⟨rfl, rfl⟩)
    | some kind =>
      have started : Unprompted s (s.adjustTransport transportId startedTransport) :=
        unprompted_adjustTransport transportId (fun t _ _ => startedTransport_prompted t)
      exact started.sendHandshake (volunteered_initiator member initiates s.externalIp now) _ now

/-! ### Making and using transports -/

theorem unprompted_createTransport (localOnlineId peerOnlineId : OrbisNpOnlineId)
    (peerNpid : OrbisNpId) (addr : UInt32) (port : UInt16) :
    Unprompted s (createTransportLocked localOnlineId peerOnlineId peerNpid addr port s).2 := by
  unfold createTransportLocked
  cases allocated : allocateTransportIdLocked s with
  | mk transportId s₁ =>
    obtain ⟨seed, rfl⟩ := allocateTransportIdLocked_state allocated
    cases transportId with
    | none => exact Unprompted.of_same rfl rfl
    | some transportId =>
      refine ⟨fun t member prompted => ?_, ⟨[], by simp, by simp⟩⟩
      rcases mem_store.mp member with ⟨old, -⟩ | rfl
      · exact ⟨t, old, rfl, rfl⟩
      · cases prompted

theorem unprompted_ensureTransport
    (distinct : Distinct PeerTransport.transportId s.peerTransports)
    (localOnlineId peerOnlineId : OrbisNpOnlineId) (peerNpid : OrbisNpId) (addr : UInt32)
    (port : UInt16) :
    Unprompted s (ensureTransportLocked localOnlineId peerOnlineId peerNpid addr port s).2 := by
  unfold ensureTransportLocked
  cases found : findTransportByOnlineIdLocked (onlineIdToString peerOnlineId) s with
  | none => exact unprompted_createTransport _ _ _ _ _
  | some t =>
    obtain ⟨member, live, name⟩ := findTransport_some found
    obtain ⟨-, same, state⟩ := refreshTransport_kept localOnlineId peerNpid addr port live name
    apply unprompted_adjustTransport
    intro other hother sameKey _
    rw [distinct.eq_of_key hother member sameKey]
    exact ⟨same.name.symm, state.symm⟩

theorem unprompted_requestTransport (coherent : Coherent s) (fromAddr : UInt32)
    (fromPort : UInt16) (packet : SignalingControl) :
    Unprompted s (requestTransportLocked fromAddr fromPort packet s).2 := by
  unfold requestTransportLocked
  split
  · exact Unprompted.refl s
  · exact unprompted_ensureTransport coherent.peerTransports _ _ _ _ _

theorem requestedTransport_prompted (fromAddr : UInt32) (fromPort : UInt16)
    (packet : SignalingControl) (t : PeerTransport)
    (prompted : (requestedTransport fromAddr fromPort packet t).state.prompted = true) :
    t.peerName = (requestedTransport fromAddr fromPort packet t).peerName ∧
      t.state = (requestedTransport fromAddr fromPort packet t).state := by
  unfold requestedTransport at prompted ⊢
  dsimp only at prompted ⊢
  split
  · rename_i inactive
    rw [if_pos inactive] at prompted
    cases prompted
  · exact ⟨rfl, rfl⟩

/-- A connection that is marked or made concerns no transport. -/
theorem requestConnection_same (ctx : Option NpSignalingContext) (transport : PeerTransport)
    (packet : SignalingControl) (random : UInt32) (s : NpSignalingState) :
    let s' := (requestConnectionLocked ctx transport packet random s).2
    s'.peerTransports = s.peerTransports ∧ s'.sent = s.sent := by
  unfold requestConnectionLocked
  cases ctx with
  | none => exact ⟨rfl, rfl⟩
  | some ctx =>
    dsimp only
    split
    · exact ⟨rfl, rfl⟩
    · cases allocated : allocateConnectionIdLocked random s with
      | mk connId s₁ =>
        obtain ⟨seed, rfl⟩ := allocateConnectionIdLocked_state allocated
        cases connId <;> exact ⟨rfl, rfl⟩

theorem unprompted_requestConnection (ctx : Option NpSignalingContext)
    (transport : PeerTransport) (packet : SignalingControl) (random : UInt32) :
    Unprompted s (requestConnectionLocked ctx transport packet random s).2 := by
  obtain ⟨transports, sent⟩ := requestConnection_same ctx transport packet random s
  exact Unprompted.of_same transports sent

theorem unprompted_activationRequest (coherent : Coherent s) (fromAddr : UInt32)
    (fromPort : UInt16) (packet : SignalingControl) (random : UInt32) :
    Unprompted s (activationRequestLocked fromAddr fromPort packet random s).2 := by
  unfold activationRequestLocked
  have requested := unprompted_requestTransport coherent fromAddr fromPort packet
  cases made : requestTransportLocked fromAddr fromPort packet s with
  | mk transportId s₁ =>
    rw [made] at requested
    cases transportId with
    | none => exact requested
    | some transportId =>
      have marked : Unprompted s
          (s₁.adjustTransport transportId (requestedTransport fromAddr fromPort packet)) :=
        requested.trans (unprompted_adjustTransport transportId
          (fun t _ _ => requestedTransport_prompted fromAddr fromPort packet t))
      dsimp only
      cases (s₁.adjustTransport transportId
          (requestedTransport fromAddr fromPort packet)).transport? transportId with
      | none => exact marked
      | some transport =>
        dsimp only
        have joined := marked.trans (unprompted_requestConnection
          (addressedContext (packetOnlineIdToString packet.onlineIdTo) s) transport packet random)
        cases answer : requestConnectionLocked
            (addressedContext (packetOnlineIdToString packet.onlineIdTo) s) transport packet random
            (s₁.adjustTransport transportId (requestedTransport fromAddr fromPort packet)) with
        | mk found s₂ =>
          rw [answer] at joined
          cases found with
          | none => exact joined
          | some found =>
            refine Unprompted.trans ?_ (unprompted_sync transportId)
            cases found with
            | none => exact joined
            | some connId => exact joined.trans (Unprompted.of_same rfl rfl)

theorem unprompted_controlOnTransport (packet : SignalingControl) (transport : PeerTransport) :
    Unprompted s (controlOnTransportLocked packet transport s).2 := by
  unfold controlOnTransportLocked
  cases packet.kind with
  | activationRequest => exact Unprompted.refl s
  | activationAck =>
    have marked : Unprompted s
        (s.adjustTransport transport.transportId (acknowledgedTransport packet)) :=
      unprompted_adjustTransport _ (fun _ _ _ _ => ⟨rfl, rfl⟩)
    exact marked.trans (unprompted_sync _)
  | established => exact unprompted_adjustTransport _ (fun _ _ _ _ => ⟨rfl, rfl⟩)
  | other code => exact Unprompted.refl s
  | close =>
    dsimp only
    unfold closeRequestLocked
    split
    · split <;> exact Unprompted.refl s
    · exact (unprompted_adjustTransport _ (fun t _ _ => prompted_set rfl t)).trans
        (onlyMatching2_dead _ _).unprompted

theorem unprompted_handleControl (coherent : Coherent s) (fromAddr : UInt32) (fromPort : UInt16)
    (packet : SignalingControl) (random : UInt32) :
    Unprompted s (handleControlLocked fromAddr fromPort packet random s).2 := by
  unfold handleControlLocked
  split
  · exact unprompted_activationRequest coherent fromAddr fromPort packet random
  · split
    · exact Unprompted.refl s
    · exact unprompted_controlOnTransport packet _

theorem unprompted_removeConnection (connId : Nat) :
    Unprompted s (removeConnectionLocked connId s) := by
  obtain ⟨_, removed⟩ := removeConnection_eq connId s
  rw [removed]
  exact Unprompted.of_same rfl rfl

/-- A connection that is used again or removed concerns no transport. -/
theorem reuseConnection_same (key : CtxNpIdKey) :
    (reuseConnectionLocked key s).2.peerTransports = s.peerTransports ∧
      (reuseConnectionLocked key s).2.sent = s.sent := by
  unfold reuseConnectionLocked
  split
  · exact ⟨rfl, rfl⟩
  · split
    · exact ⟨rfl, rfl⟩
    · split
      · obtain ⟨_, removed⟩ := removeConnection_eq (s := s) _
        rw [removed]
        exact ⟨rfl, rfl⟩
      · exact ⟨rfl, rfl⟩

theorem resumedTransport_prompted (t : PeerTransport)
    (prompted : (resumedTransport t).state.prompted = true) :
    t.peerName = (resumedTransport t).peerName ∧ t.state = (resumedTransport t).state := by
  unfold resumedTransport restartTransport at prompted ⊢
  split
  · exact ⟨rfl, rfl⟩
  · rename_i pending
    rw [if_neg pending] at prompted
    split
    · rename_i restarts
      rw [if_pos restarts] at prompted
      cases prompted
    · exact ⟨rfl, rfl⟩

theorem unprompted_reactivateConnection (ci : ConnectionInfo) (ctxId : Nat)
    (peerNpid : OrbisNpId) (peerOnlineId : OrbisNpOnlineId) (transport : PeerTransport) :
    Unprompted s (reactivateConnectionLocked ci ctxId peerNpid peerOnlineId transport s) := by
  have resumed : Unprompted s (s.adjustTransport transport.transportId resumedTransport) :=
    unprompted_adjustTransport _ (fun t _ _ => resumedTransport_prompted t)
  unfold reactivateConnectionLocked
  dsimp only
  split
  · exact resumed.trans (Unprompted.of_same rfl rfl)
  · exact resumed.trans (Unprompted.of_same rfl rfl)

theorem unprompted_createLocalConnection (ctxId : Nat) (peerNpid : OrbisNpId)
    (peerOnlineId : OrbisNpOnlineId) (transport : PeerTransport) (random : UInt32) :
    Unprompted s
      (createLocalConnectionLocked ctxId peerNpid peerOnlineId transport random s).2 := by
  unfold createLocalConnectionLocked
  cases allocated : allocateConnectionIdLocked random s with
  | mk connId s₁ =>
    obtain ⟨seed, rfl⟩ := allocateConnectionIdLocked_state allocated
    cases connId <;> exact Unprompted.of_same rfl rfl

theorem unprompted_activateSig1
    (distinct : Distinct PeerTransport.transportId s.peerTransports) (ctxId : Nat)
    (peerNpid : OrbisNpId) (random : UInt32) (now : Int) :
    Unprompted s (activateSig1Locked ctxId peerNpid peerNpid.handle random now s).2 := by
  have charged : Unprompted s (chargeContext ctxId now s) := Unprompted.of_same rfl rfl
  unfold activateSig1Locked
  split
  · exact Unprompted.refl s
  split
  · exact Unprompted.refl s
  split
  · exact Unprompted.refl s
  split
  · exact Unprompted.refl s
  dsimp only
  split
  · exact charged
  obtain ⟨transports, sent⟩ :=
    reuseConnection_same (s := chargeContext ctxId now s) ⟨ctxId, peerNpid⟩
  have reused := charged.trans (Unprompted.of_same transports sent)
  cases reuse : reuseConnectionLocked ⟨ctxId, peerNpid⟩ (chargeContext ctxId now s) with
  | mk existing s₁ =>
    rw [reuse] at reused transports
    dsimp only
    rename_i ctx _ _ _ _
    have ensured := reused.trans (unprompted_ensureTransport (transports ▸ distinct)
      ctx.ownerOnlineId peerNpid.handle peerNpid 0 0)
    cases ensure : ensureTransportLocked ctx.ownerOnlineId peerNpid.handle peerNpid 0 0 s₁ with
    | mk transportId s₂ =>
      rw [ensure] at ensured
      cases transportId with
      | none => exact ensured
      | some transportId =>
        dsimp only
        split
        · exact ensured
        cases existing with
        | some ci => exact ensured.trans (unprompted_reactivateConnection _ _ _ _ _)
        | none =>
          rename_i transport _
          have made := ensured.trans
            (unprompted_createLocalConnection ctxId peerNpid peerNpid.handle transport random)
          dsimp only
          split
          · rename_i answer
            rwa [answer] at made
          · rename_i answer
            rwa [answer] at made

end Unprompted

/-! ## The section that reads a handshake packet -/

/-- What is known of a party between two sections. -/
def Briefed (known : Packet → Prop) (s : NpSignalingState) : Prop :=
  Coherent s ∧ ∀ t ∈ s.peerTransports, Backed known t

section Briefed

variable {known : Packet → Prop} {s s' : NpSignalingState}

theorem Unprompted.backed (quiet : Unprompted s s')
    (backed : ∀ t ∈ s.peerTransports, Backed known t) :
    ∀ t ∈ s'.peerTransports, Backed known t := by
  intro t' member'
  cases prompted : t'.state.prompted with
  | false => exact backed_unprompted prompted
  | true =>
    obtain ⟨t, member, name, state⟩ := quiet.transports t' member' prompted
    exact (backed t member).of_same name state

/-- What goes out by the state of a transport was provoked when it got into the state. -/
theorem Volunteered.provoked {packet : Packet} (volunteered : Volunteered s packet)
    (backed : ∀ t ∈ s.peerTransports, Backed known t) : Provoked known packet := by
  cases packet with
  | control packet => trivial
  | handshake packet =>
    rcases volunteered with offer | ⟨t, member, name, ⟨kind, state⟩ | ⟨kind, state⟩⟩
    · rw [Provoked, offer]
      trivial
    · rw [Provoked, kind, ← name]
      exact (backed t member).1 state
    · rw [Provoked, kind, ← name]
      exact (backed t member).2 state

theorem handshakeTransport_backed {packet : SignalingHandshake} (there : known (.handshake packet))
    {t : PeerTransport} (name : t.peerName = packetOnlineIdToString packet.onlineIdFrom)
    (backed : Backed known t) (fromAddr : UInt32) (fromPort : UInt16) (now : Int) :
    Backed known (handshakeTransport fromAddr fromPort packet now t) := by
  have heard : ∀ kind, packet.kind = kind → Heard known kind t.peerName :=
    fun kind same => ⟨packet, there, same, name.symm⟩
  unfold handshakeTransport
  cases kind : packet.kind with
  | offer =>
    simp only [handleOffer]
    split
    · exact ⟨fun _ => heard .offer kind, fun checking => by cases checking⟩
    · exact backed.of_same rfl rfl
  | accept =>
    simp only [handleAccept]
    split
    · exact ⟨(fun accepting => by cases accepting), fun _ => Or.inl (heard .accept kind)⟩
    · exact backed.of_same rfl rfl
  | check =>
    simp only [handleCheck]
    split
    · exact ⟨(fun accepting => by cases accepting), fun _ => Or.inr (heard .check kind)⟩
    · exact backed.of_same rfl rfl
  | checkAck =>
    simp only [handleCheckAck]
    split
    · exact backed.of_same rfl rfl
    · exact backed.of_same rfl rfl
  | other code => exact backed.of_same rfl rfl

theorem backed_handshake {packet : SignalingHandshake} (there : known (.handshake packet))
    (briefed : Briefed known s) (fromAddr : UInt32) (fromPort : UInt16) (now : Int) :
    ∀ t ∈ (handleHandshakeLocked fromAddr fromPort packet now s).2.peerTransports,
      Backed known t := by
  obtain ⟨coherent, backed⟩ := briefed
  unfold handleHandshakeLocked
  split
  · exact backed
  · rename_i transport found
    obtain ⟨member, -, name⟩ := findTransport_some found
    refine (unprompted_sync transport.transportId).backed ?_
    intro t' member'
    obtain ⟨t, old, image⟩ := mem_adjust.mp member'
    split at image
    · rename_i same
      rw [coherent.peerTransports.eq_of_key old member same] at image
      subst image
      exact handshakeTransport_backed there name (backed transport member) fromAddr fromPort now
    · exact image ▸ backed t old

/-- The reply to a packet is provoked by the packet. -/
theorem reply_provoked {packet : SignalingHandshake} (there : known (.handshake packet))
    {fromAddr : UInt32} {fromPort : UInt16} {now : Int} {transportId : Nat}
    {reply : SignalingHandshake}
    (replied : (handleHandshakeLocked fromAddr fromPort packet now s).1.reply =
      some (transportId, reply)) : Provoked known (.handshake reply) := by
  unfold handleHandshakeLocked at replied
  split at replied
  · cases replied
  · rename_i transport found
    obtain ⟨member, -, name⟩ := findTransport_some found
    have after : onlineIdToString
        (handshakeTransport fromAddr fromPort packet now transport).onlineId =
          packetOnlineIdToString packet.onlineIdFrom :=
      (handshakeTransport_kept fromAddr fromPort packet now transport).2.1.name.trans name
    dsimp only at replied
    unfold handshakeOutcome at replied
    cases kind : packet.kind with
    | offer =>
      simp only [kind, Option.some.injEq, Prod.mk.injEq] at replied
      obtain ⟨-, rfl⟩ := replied
      exact ⟨packet, there, kind, after.symm⟩
    | accept =>
      simp only [kind] at replied
      split at replied
      · simp only [Option.some.injEq, Prod.mk.injEq] at replied
        obtain ⟨-, rfl⟩ := replied
        exact Or.inl ⟨packet, there, kind, after.symm⟩
      · cases replied
    | check =>
      simp only [kind, Option.some.injEq, Prod.mk.injEq] at replied
      obtain ⟨-, rfl⟩ := replied
      exact ⟨packet, there, kind, name.symm, rfl⟩
    | checkAck =>
      simp only [kind] at replied
      split at replied <;> cases replied
    | other code =>
      simp only [kind] at replied
      cases replied

theorem handleHandshake_sent (fromAddr : UInt32) (fromPort : UInt16) (packet : SignalingHandshake)
    (now : Int) (s : NpSignalingState) :
    (handleHandshakeLocked fromAddr fromPort packet now s).2.sent = s.sent := by
  unfold handleHandshakeLocked
  split
  · rfl
  · exact sync_sent _

end Briefed

/-! ## The catalogue -/

/-- What a thread that heard a packet may do to its party; `establishes` says whether it may
get to `EstablishConnection`. -/
inductive Turn (heard : Option Packet) (establishes : Prop) :
    LockSection → (NpSignalingState → NpSignalingState) → Prop where
  | unprompted {label : LockSection} {update : NpSignalingState → NpSignalingState}
      (quiet : ∀ s, Coherent s → Unprompted s (update s)) : Turn heard establishes label update
  | handshake (fromAddr : UInt32) (fromPort : UInt16) (packet : SignalingHandshake) (now : Int)
      (arrived : Packet.handshake packet ∈ heard) :
      Turn heard establishes .other
        (fun s => (handleHandshakeLocked fromAddr fromPort packet now s).2)
  | reply (transportId : Nat) (packet : SignalingHandshake) (now : Int)
      (provoked : ∀ known : Packet → Prop, (∀ message ∈ heard, known message) →
        Provoked known (.handshake packet)) :
      Turn heard establishes .other (sendHandshakeLocked transportId packet now)
  | establishConnection (may : establishes) (transportId : Nat) (peerActivatedHint : Bool)
      (now : Int) :
      Turn heard establishes (.establishConnection transportId)
        (fun s => (establishConnectionLocked transportId peerActivatedHint now s).2)

/-- What a thread may do that does not establish, one that does may do as well. -/
theorem Turn.may {heard : Option Packet} {establishes : Prop} {label : LockSection}
    {update : NpSignalingState → NpSignalingState} (turn : Turn heard establishes label update) :
    Turn heard True label update := by
  cases turn with
  | unprompted quiet => exact .unprompted quiet
  | handshake fromAddr fromPort packet now arrived =>
    exact .handshake fromAddr fromPort packet now arrived
  | reply transportId packet now provoked => exact .reply transportId packet now provoked
  | establishConnection may transportId hint now =>
    exact .establishConnection trivial transportId hint now

def Op.hears : Op → Option Packet
  | .handshakePacket _ _ packet _ => some (.handshake packet)
  | .controlPacket _ _ packet _ _ => some (.control packet)
  | _ => none

/-- The operations that may end in `EstablishConnection`. -/
def Op.establishes : Op → Prop
  | .handshakePacket _ _ _ _ | .controlPacket _ _ _ _ _ | .processPendingActivations _
  | .activateSig1 _ _ _ _ | .activateConnection _ _ _ _ _ | .activateConnectionA _ _ _ _ _ => True
  | _ => False

section Turns

variable {heard : Option Packet} {establishes : Prop}

theorem turn_same {label : LockSection} {update : NpSignalingState → NpSignalingState}
    (transports : ∀ s, (update s).peerTransports = s.peerTransports)
    (sent : ∀ s, (update s).sent = s.sent) : Turn heard establishes label update :=
  .unprompted (fun s _ => Unprompted.of_same (transports s) (sent s))

theorem turns_read {α : Type} (f : NpSignalingState → α) :
    (inLock (fun s => (f s, s))).Uses (Turn heard establishes) :=
  uses_locked (turn_same (fun _ => rfl) (fun _ => rfl))

theorem turns_quiet {body : NpSignalingState → NpSignalingState}
    (quiet : ∀ s, Unprompted s (body s)) : (updateLocked body).Uses (Turn heard establishes) :=
  uses_update (.unprompted (fun s _ => quiet s))

theorem turns_dispatch (connId : Nat) (eventType : SignalingEvent)
    (errorCode : Option SignalingError) :
    (updateLocked (dispatchConnectionEvent connId eventType errorCode)).Uses
      (Turn heard establishes) :=
  turns_quiet (fun s => by
    rw [dispatchConnectionEvent_eq]
    exact Unprompted.of_same rfl rfl)

theorem turns_dead (transportId : Nat) (errorCode : Matching2Error) :
    (updateLocked (queueMatching2DeadForTransport transportId errorCode)).Uses
      (Turn heard establishes) :=
  turns_quiet (fun _ => (onlyMatching2_dead transportId errorCode).unprompted)

theorem turns_closeConnection (connId : Nat) (sigErrorCode : SignalingError)
    (matching2ErrorCode : Matching2Error) :
    (closeConnectionAndDispatchDead connId sigErrorCode matching2ErrorCode).Uses
      (Turn heard establishes) := by
  have closed : ∀ s, Unprompted s (closeConnectionLocked connId s).2 := by
    intro s
    unfold closeConnectionLocked
    split
    · exact Unprompted.refl s
    split
    · exact Unprompted.refl s
    · exact (unprompted_adjustTransport _ (fun t _ _ => prompted_set rfl t)).trans
        (Unprompted.of_same rfl rfl)
  apply (uses_locked (.unprompted (fun s _ => closed s))).bind
  intro result
  cases result with
  | none => exact uses_pure ()
  | some closed =>
    apply (uses_when (turns_dead _ _)).bind
    intro _
    apply (uses_when (turns_dispatch connId _ _)).bind
    intro _
    exact turns_quiet (fun _ => unprompted_removeConnection connId)

theorem unprompted_removeConnections (connIds : List Nat) (s : NpSignalingState) :
    Unprompted s (connIds.foldl (fun s connId => removeConnectionLocked connId s) s) := by
  induction connIds generalizing s with
  | nil => exact Unprompted.refl s
  | cons connId rest ih => exact (unprompted_removeConnection connId).trans (ih _)

theorem unprompted_eraseTransport {s : NpSignalingState} (transportId : Nat)
    (sig1Conns : List Nat) : Unprompted s (eraseTransportLocked transportId sig1Conns s) := by
  refine (unprompted_removeConnections sig1Conns s).trans (Unprompted.of_subset ?_ rfl)
  exact fun t member => (mem_remove.mp member).1

theorem turns_closeTransport (transportId : Nat) (sigErrorCode : SignalingError)
    (matching2ErrorCode : Matching2Error) :
    (closeTransportAndDispatchDead transportId sigErrorCode matching2ErrorCode).Uses
      (Turn heard establishes) := by
  have closed : ∀ s, Unprompted s (closeTransportLocked transportId s).2 := by
    intro s
    unfold closeTransportLocked
    split
    · exact Unprompted.refl s
    split
    · exact Unprompted.refl s
    · exact (unprompted_adjustTransport _ (fun t _ _ => prompted_set rfl t)).trans
        (Unprompted.of_same rfl rfl)
  apply (uses_locked (.unprompted (fun s _ => closed s))).bind
  intro result
  cases result with
  | none => exact uses_pure ()
  | some sig1Conns =>
    apply (turns_dead _ _).bind
    intro _
    apply (uses_forEach (fun connId => turns_dispatch connId _ _)).bind
    intro _
    exact turns_quiet (fun _ => unprompted_eraseTransport transportId sig1Conns)

/-- What `EstablishConnection` does after its section. -/
theorem turns_announce (transportId : Nat) (hint : Bool) (now : Int) (s : NpSignalingState) :
    (do
      let outcome := (establishConnectionLocked transportId hint now s).1
      sendDatagram outcome.established
      forEach outcome.sig1PeerActivated (fun connId =>
        updateLocked (dispatchPeerActivatedEvent connId))
      forEach outcome.sig1Established (fun connId =>
        updateLocked (dispatchConnectionEvent connId .established none))
      forEach outcome.sig1Mutual (fun connId =>
        updateLocked (dispatchConnectionEvent connId .mutualActivated none)) :
          Signaling Unit).Uses (Turn heard establishes) := by
  apply Prog.Uses.bind
  · apply uses_forSome
    intro datagram established
    unfold establishConnectionLocked at established
    split at established
    · cases established
    · dsimp only at established
      split at established
      · obtain rfl := Option.some.inj established
        exact turns_quiet (fun _ => unprompted_send trivial)
      · cases established
  intro _
  apply Prog.Uses.bind
  · apply uses_forEach
    intro connId
    apply turns_quiet
    intro s
    rw [dispatchPeerActivatedEvent_eq]
    exact Unprompted.of_same rfl rfl
  intro _
  apply (uses_forEach (fun connId => turns_dispatch connId _ _)).bind
  intro _
  exact uses_forEach (fun connId => turns_dispatch connId _ _)

theorem turns_establishConnection (may : establishes) (transportId : Nat)
    (peerActivatedHint : Bool) (now : Int) :
    (establishConnection transportId peerActivatedHint now).Uses (Turn heard establishes) :=
  uses_locked_bind (.establishConnection may transportId peerActivatedHint now)
    (turns_announce transportId peerActivatedHint now)

theorem turns_start (transportId : Nat) (now : Int) :
    (startTransportHandshakeInitiator transportId now).Uses (Turn heard establishes) :=
  uses_update (.unprompted (fun _ _ => unprompted_start transportId now))

theorem unprompted_activationResolved {s : NpSignalingState} (connId : Nat) (addr : UInt32)
    (port : UInt16) : Unprompted s (activationResolvedLocked connId addr port s).2 := by
  unfold activationResolvedLocked
  split
  · exact Unprompted.refl s
  split
  · exact Unprompted.refl s
  · rename_i ci _ _ transport _
    refine Unprompted.trans ?_ (unprompted_sendActivate ci)
    have moved : Unprompted s
        (s.adjustTransport ci.transportId (fun t : PeerTransport => { t with addr, port })) :=
      unprompted_adjustTransport _ (fun _ _ _ _ => ⟨rfl, rfl⟩)
    exact moved.trans (Unprompted.of_same rfl rfl)

theorem turns_processActivation (may : establishes) (resolution : Resolution)
    (act : PendingActivation) :
    (processActivation resolution act).Uses (Turn heard establishes) := by
  apply (turns_read _).bind
  intro live
  cases live with
  | none => exact uses_pure _
  | some ci =>
    dsimp only
    cases resolution.resolved with
    | none => exact uses_pure _
    | some endpoint =>
      obtain ⟨addr, port⟩ := endpoint
      apply (uses_locked (.unprompted (fun _ _ =>
        unprompted_activationResolved act.connId addr port))).bind
      intro outcome
      cases outcome with
      | none => exact uses_pure _
      | some alreadyEstablished =>
        apply (uses_when (turns_start _ _)).bind
        intro _
        apply (uses_when (turns_establishConnection may _ _ _)).bind
        intro _
        exact uses_pure _

theorem turns_processPendingActivations (may : establishes) (resolve : Nat → Resolution) :
    (processPendingActivations resolve).Uses (Turn heard establishes) := by
  have worked : ∀ i work, (processWork resolve i work).Uses (Turn heard establishes) := by
    intro i work
    induction work generalizing i with
    | nil => exact uses_pure _
    | cons act work ih =>
      apply (turns_processActivation may (resolve i) act).bind
      intro again
      exact (ih (i + 1)).bind (fun _ => uses_pure _)
  apply (uses_locked (turn_same (fun _ => rfl) (fun _ => rfl))).bind
  intro work
  apply (worked 0 work).bind
  intro retry
  exact uses_when (uses_update (turn_same (fun _ => rfl) (fun _ => rfl)))

theorem turns_reply (fromAddr : UInt32) (fromPort : UInt16) (packet : SignalingHandshake)
    (now : Int) (s : NpSignalingState) :
    (forSome (handleHandshakeLocked fromAddr fromPort packet now s).1.reply
      (fun (transportId, reply) => updateLocked (sendHandshakeLocked transportId reply now))).Uses
        (Turn (some (.handshake packet)) establishes) := by
  apply uses_forSome
  rintro ⟨transportId, reply⟩ replied
  exact uses_update (.reply transportId reply now
    (fun known there => reply_provoked (there _ rfl) replied))

theorem turns_handleHandshakePacket (may : establishes) (fromAddr : UInt32) (fromPort : UInt16)
    (packet : SignalingHandshake) (now : Int) :
    (handleHandshakePacket fromAddr fromPort packet now).Uses
      (Turn (some (.handshake packet)) establishes) := by
  apply uses_locked_bind (.handshake fromAddr fromPort packet now rfl)
  intro s
  apply (turns_reply fromAddr fromPort packet now s).bind
  intro _
  exact uses_forSome (fun _ _ => turns_establishConnection may _ _ _)

theorem turns_handleControlPacket (may : establishes) (fromAddr : UInt32) (fromPort : UInt16)
    (packet : SignalingControl) (random : UInt32) (now : Int) :
    (handleControlPacket fromAddr fromPort packet random now).Uses (Turn heard establishes) := by
  have handled : Turn heard establishes (.handleControlPacket packet)
      (fun s => (handleControlLocked fromAddr fromPort packet random s).2) :=
    .unprompted (fun _ coherent =>
      unprompted_handleControl coherent fromAddr fromPort packet random)
  apply uses_locked_bind handled
  intro s
  apply Prog.Uses.bind
  · apply uses_forSome
    intro datagram acked
    obtain ⟨addr, port, ack, rfl⟩ := handleControl_ack acked
    exact turns_quiet (fun _ => unprompted_send trivial)
  intro _
  apply (uses_forSome (fun _ _ => turns_establishConnection may _ _ _)).bind
  intro _
  apply (uses_forSome (fun _ _ => turns_dispatch _ _ _)).bind
  intro _
  exact uses_forSome (fun _ _ => turns_closeConnection _ _ _)

theorem turns_stepPendingConnections (now : Int) (sendNow : Nat → Int) :
    (stepPendingConnections now sendNow).Uses (Turn heard establishes) := by
  apply (turns_read _).bind
  rintro ⟨resend, timeout⟩
  apply (uses_forEach (fun transportId => turns_start transportId _)).bind
  intro _
  exact uses_forEach (fun transportId => turns_closeTransport transportId _ _)

theorem turns_activateSig1 (may : establishes) (ctxId : Nat) (peerNpid : OrbisNpId)
    (random : UInt32) (now : Int) :
    (activateSig1 ctxId peerNpid peerNpid.handle random now).Uses (Turn heard establishes) := by
  have activated : Turn heard establishes (.activateSig1 ctxId peerNpid now)
      (fun s => (activateSig1Locked ctxId peerNpid peerNpid.handle random now s).2) :=
    .unprompted (fun _ coherent =>
      unprompted_activateSig1 coherent.peerTransports ctxId peerNpid random now)
  apply (uses_locked activated).bind
  intro result
  cases result with
  | error error => exact uses_pure _
  | ok activated =>
    apply Prog.Uses.bind
    · apply uses_when
      apply (turns_read _).bind
      intro found
      exact uses_forSome (fun ci _ => uses_when (turns_establishConnection may _ _ _))
    intro _
    exact uses_pure _

theorem turns_terminateSig1 (connId : Nat) :
    (terminateSig1 connId).Uses (Turn heard establishes) := by
  refine Prog.Uses.bind (turns_quiet (fun s => ?_)) (fun _ => turns_closeConnection connId _ _)
  unfold terminateCloseLocked
  split
  · exact Unprompted.refl s
  · exact unprompted_sendControlClose _ _

theorem turns_deactivateSig1 (connId : Nat) :
    (deactivateSig1 connId).Uses (Turn heard establishes) := by
  refine Prog.Uses.bind (turns_quiet (fun s => ?_)) (fun _ => turns_closeConnection connId _ _)
  unfold deactivateCloseLocked
  split
  · exact Unprompted.refl s
  split
  · exact Unprompted.refl s
  split
  · exact unprompted_sendControlClose _ _
  · exact Unprompted.refl s

theorem turns_syncMatching2Peers (now : Int) :
    (syncMatching2Peers now).Uses (Turn heard establishes) :=
  (turns_read _).bind (fun _ => uses_forEach (fun snapshot =>
    turns_quiet (fun _ => (onlyMatching2_syncSnapshot now snapshot).unprompted)))

theorem unprompted_matching2Transport {s : NpSignalingState} (coherent : Coherent s)
    (onlineId : OrbisNpOnlineId) (member : MemberCache) (addr : UInt32) (port : UInt16) :
    Unprompted s (matching2TransportLocked onlineId member addr port s).2 := by
  unfold matching2TransportLocked
  have ensured := unprompted_ensureTransport coherent.peerTransports onlineId member.npId.handle
    member.npId addr port
  cases ensure : ensureTransportLocked onlineId member.npId.handle member.npId addr port s with
  | mk transportId s₁ =>
    rw [ensure] at ensured
    cases transportId with
    | none => exact ensured
    | some transportId =>
      refine ensured.trans (unprompted_adjustTransport transportId (fun t _ _ prompted => ?_))
      by_cases waiting : t.state = .waitOffer
      · rw [if_pos waiting] at prompted
        cases prompted
      · rw [if_neg waiting]
        exact ⟨rfl, rfl⟩

theorem turns_startMatching2Targets (ctx : ContextObject)
    (resolve : Nat → Option (UInt32 × UInt16)) (i : Nat) (targets : List MemberCache) :
    (startMatching2Targets ctx resolve i targets).Uses (Turn heard establishes) := by
  induction targets generalizing i with
  | nil => exact uses_pure _
  | cons member rest ih =>
    unfold startMatching2Targets
    cases resolvePeerEndpoint member (resolve i) with
    | none => exact ih (i + 1)
    | some endpoint =>
      obtain ⟨addr, port⟩ := endpoint
      have ensured : Turn heard establishes .other
          (fun s => (matching2TransportLocked ctx.onlineId member addr port s).2) :=
        .unprompted (fun _ coherent =>
          unprompted_matching2Transport coherent ctx.onlineId member addr port)
      apply (uses_locked ensured).bind
      intro found
      cases found with
      | none => exact ih (i + 1)
      | some transport =>
        apply (turns_quiet (fun _ => (onlyMatching2_updatePeer _ _ _).unprompted)).bind
        intro _
        exact (ih (i + 1)).bind (fun _ => uses_pure _)

theorem turns_startMatching2 (ctx : ContextObject) (ready : Bool)
    (resolve : Nat → Option (UInt32 × UInt16)) (now : Int) :
    (startMatching2 ctx ready resolve now).Uses (Turn heard establishes) := by
  apply uses_when
  apply (turns_read _).bind
  intro targets
  apply (turns_startMatching2Targets ctx resolve 0 targets).bind
  intro pendingTransports
  apply (turns_syncMatching2Peers now).bind
  intro _
  exact uses_forEach (fun transportId => turns_start transportId now)

theorem turns_stopMatching2Room (ctxId roomId : Nat) (errorCode : SignalingError)
    (matching2ErrorCode : Matching2Error) :
    (stopMatching2Room ctxId roomId errorCode matching2ErrorCode).Uses
      (Turn heard establishes) := by
  apply (turns_read _).bind
  intro transports
  apply uses_forEach
  intro transportId
  exact (turns_read _).bind (fun _ => uses_when (turns_closeTransport transportId _ _))

theorem turns_addContextRef : addContextRef.Uses (Turn heard establishes) := by
  refine Prog.Uses.bind (turns_quiet (fun _ => Unprompted.of_same rfl rfl)) (fun _ => ?_)
  refine turns_quiet (fun s => ?_)
  unfold startRuntime
  split <;> exact Unprompted.of_same rfl rfl

theorem turns_releaseContextRef : releaseContextRef.Uses (Turn heard establishes) := by
  have dropped : Turn heard establishes .other (fun s : NpSignalingState =>
      if s.contextRefs > 0 then { s with contextRefs := s.contextRefs - 1 } else s) := by
    refine .unprompted (fun s _ => ?_)
    split <;> exact Unprompted.of_same rfl rfl
  refine (uses_locked dropped).bind (fun _ => uses_when ?_)
  refine turns_quiet (fun s => ?_)
  unfold stopRuntime
  split <;> exact Unprompted.of_same rfl rfl

theorem turns_createContextWith (request : ContextRequest) (now : Int) :
    (createContextWith request now).Uses (Turn heard establishes) := by
  have created : Turn heard establishes .createContext
      (fun s => (createContextLocked request now s).2) := by
    refine .unprompted (fun s _ => ?_)
    unfold createContextLocked allocateContextIdLocked
    dsimp only
    split
    · exact Unprompted.refl s
    · split
      · rename_i unissued
        split at unissued
        · cases unissued
          exact Unprompted.refl s
        · cases unissued
      · rename_i issued
        split at issued
        · cases issued
        · cases issued
          exact Unprompted.of_same rfl rfl
  apply (uses_locked created).bind
  intro result
  cases result with
  | error error => exact uses_pure _
  | ok ctxId => exact turns_addContextRef.bind (fun _ => uses_pure _)

theorem turns_terminate : sceNpSignalingTerminate.Uses (Turn heard establishes) := by
  have stopped : Turn heard establishes .other stopDispatchLocked :=
    turn_same (fun _ => rfl) (fun _ => rfl)
  have joined : joinDispatchThread.Uses (Turn heard establishes) :=
    uses_update (turn_same (fun _ => rfl) (fun _ => rfl))
  have reset : Turn heard establishes .reset resetSig1Data :=
    turn_same (fun _ => rfl) (fun _ => rfl)
  apply (uses_locked (turn_same (fun _ => rfl) (fun _ => rfl))).bind
  intro running
  split
  · exact uses_pure _
  · apply (uses_update stopped).bind
    intro _
    apply joined.bind
    intro _
    apply (uses_locked reset).bind
    intro contexts
    exact (uses_forEach (fun _ => turns_releaseContextRef)).bind (fun _ => uses_pure _)

/-- Sections on the results kept for the caller. -/
theorem unprompted_getPeerNetInfo {s : NpSignalingState} (ctxId : Nat)
    (externalIpv4 natRouteKind : UInt32) :
    Unprompted s (getPeerNetInfoLocked ctxId externalIpv4 natRouteKind s).2 := by
  unfold getPeerNetInfoLocked
  split <;> exact Unprompted.of_same rfl rfl

theorem unprompted_getPeerNetInfoA {s : NpSignalingState} (ctxId : Nat)
    (externalIpv4 natRouteKind : UInt32) :
    Unprompted s (getPeerNetInfoALocked ctxId externalIpv4 natRouteKind s).2 := by
  unfold getPeerNetInfoALocked
  split
  · exact Unprompted.refl s
  split
  · exact Unprompted.refl s
  split
  · exact Unprompted.refl s
  split
  · exact Unprompted.refl s
  · exact unprompted_getPeerNetInfo ctxId externalIpv4 natRouteKind

theorem unprompted_ownPeerNetInfo {s : NpSignalingState} (missing : SignalingError)
    (ctxId : Nat) (reqOrConnId : UInt32) :
    Unprompted s (ownPeerNetInfoLocked missing ctxId reqOrConnId s).2 := by
  have taken : Unprompted s (takePeerNetInfoResultLocked ctxId reqOrConnId s).2 := by
    unfold takePeerNetInfoResultLocked
    split
    · exact Unprompted.refl s
    split <;> exact Unprompted.of_same rfl rfl
  unfold ownPeerNetInfoLocked
  split
  · exact Unprompted.refl s
  split
  · exact Unprompted.refl s
  split
  · rename_i answer
    rwa [answer] at taken
  · rename_i answer
    rwa [answer] at taken

theorem unprompted_eraseContext {s : NpSignalingState} (ctxId : Nat) :
    Unprompted s (eraseContextLocked ctxId s) := by
  exact (unprompted_removeConnections _ s).trans (Unprompted.of_same rfl rfl)

theorem unprompted_activationStub {s : NpSignalingState} (ctxId : Nat) (accountId : UInt64)
    (platformType : UInt32) (random : UInt32) (now : Int) :
    Unprompted s (activateConnectionAStubLocked ctxId accountId platformType random now s).2 := by
  have charged : Unprompted s (chargeContext ctxId now s) := Unprompted.of_same rfl rfl
  unfold activateConnectionAStubLocked
  split
  · exact Unprompted.refl s
  split
  · exact Unprompted.refl s
  split
  · exact Unprompted.refl s
  split
  · exact Unprompted.refl s
  split
  · exact Unprompted.refl s
  dsimp only
  split
  · exact charged
  cases allocated : allocateConnectionIdLocked random (chargeContext ctxId now s) with
  | mk connId s₁ =>
    obtain ⟨seed, rfl⟩ := allocateConnectionIdLocked_state allocated
    cases connId <;> exact charged.trans (Unprompted.of_same rfl rfl)

theorem unprompted_rehash {s : NpSignalingState} (tables : Tables) :
    Unprompted s (rehashLocked tables s) := by
  unfold rehashLocked
  split
  · rename_i perm
    have transports := List.isPerm_iff.mp perm.2.2.1
    exact Unprompted.of_subset (fun _ member => transports.mem_iff.mp member) rfl
  · exact Unprompted.refl s

end Turns

/-- Every operation is made of the sections of the catalogue. -/
theorem op_turns (op : Op) : op.program.Uses (Turn op.hears op.establishes) := by
  cases op with
  | signalingInitialize heapOk echoOk =>
    refine turns_quiet (fun s => ?_)
    unfold initializeLocked
    split
    · exact Unprompted.refl s
    split
    · exact Unprompted.refl s
    split <;> exact Unprompted.of_same rfl rfl
  | signalingTerminate => exact turns_terminate.bind (fun _ => uses_pure _)
  | createContext npid valid callback callbackArg sdkVersion now =>
    refine Prog.Uses.bind ?_ (fun _ => uses_pure _)
    apply (turns_read _).bind
    intro running
    refine uses_ite (fun _ => ?_) (fun _ => uses_pure _)
    exact uses_ite (fun _ => turns_createContextWith _ now) (fun _ => uses_pure _)
  | createContextA account callback callbackArg sdkVersion now =>
    refine Prog.Uses.bind ?_ (fun _ => uses_pure _)
    apply (turns_read _).bind
    intro running
    refine uses_ite (fun _ => ?_) (fun _ => uses_pure _)
    cases account with
    | none => exact uses_pure _
    | some known =>
      exact uses_ite (fun _ => uses_pure _) (fun _ => turns_createContextWith _ now)
  | deleteContext ctxId =>
    refine Prog.Uses.bind ?_ (fun _ => uses_pure _)
    apply (turns_read _).bind
    intro activeConns
    cases activeConns with
    | none => exact uses_pure _
    | some activeConns =>
      apply (uses_forEach turns_terminateSig1).bind
      intro _
      apply (turns_quiet (fun _ => unprompted_eraseContext ctxId)).bind
      intro _
      exact turns_releaseContextRef.bind (fun _ => uses_pure _)
  | activateSig1 ctxId peerNpid random now =>
    exact (turns_activateSig1 trivial ctxId peerNpid random now).bind (fun _ => uses_pure _)
  | activateConnection ctxId peerNpid valid random now =>
    refine Prog.Uses.bind ?_ (fun _ => uses_pure _)
    apply (turns_read _).bind
    intro running
    refine uses_ite (fun _ => ?_) (fun _ => uses_pure _)
    exact uses_ite (fun _ => turns_activateSig1 trivial ctxId peerNpid random now)
      (fun _ => uses_pure _)
  | activateConnectionA ctxId accountId platformType random now =>
    refine Prog.Uses.bind ?_ (fun _ => uses_pure _)
    apply (turns_read _).bind
    intro known
    cases known with
    | some peerNpid =>
      exact (turns_activateSig1 trivial ctxId peerNpid random now).bind (fun _ => uses_pure _)
    | none => exact uses_locked (.unprompted (fun _ _ => unprompted_activationStub _ _ _ _ _))
  | deactivateSig1 connId => exact turns_deactivateSig1 connId
  | terminateSig1 connId => exact turns_terminateSig1 connId
  | deactivateConnection ctxId connId =>
    refine Prog.Uses.bind ?_ (fun _ => uses_pure _)
    apply (turns_read _).bind
    intro refused
    cases refused with
    | some error => exact uses_pure _
    | none => exact (turns_deactivateSig1 connId).bind (fun _ => uses_pure _)
  | terminateConnection ctxId connId =>
    refine Prog.Uses.bind ?_ (fun _ => uses_pure _)
    apply (turns_read _).bind
    intro refused
    cases refused with
    | some error => exact uses_pure _
    | none =>
      apply (turns_terminateSig1 connId).bind
      intro _
      exact (turns_quiet (fun _ => unprompted_removeConnection connId)).bind
        (fun _ => uses_pure _)
  | getPeerNetInfo ctxId valid externalIpv4 natRouteKind =>
    refine Prog.Uses.bind ?_ (fun _ => uses_pure _)
    apply (turns_read _).bind
    intro running
    refine uses_ite (fun _ => ?_) (fun _ => uses_pure _)
    refine uses_ite (fun _ => ?_) (fun _ => uses_pure _)
    exact uses_locked (.unprompted (fun _ _ =>
      unprompted_getPeerNetInfo ctxId externalIpv4 natRouteKind))
  | getPeerNetInfoA ctxId externalIpv4 natRouteKind =>
    refine Prog.Uses.bind (uses_locked ?_) (fun _ => uses_pure _)
    exact .unprompted (fun _ _ => unprompted_getPeerNetInfoA ctxId externalIpv4 natRouteKind)
  | cancelPeerNetInfo ctxId reqOrConnId =>
    refine Prog.Uses.bind ?_ (fun _ => uses_pure _)
    refine Prog.Uses.bind (uses_locked ?_) (fun _ => uses_pure _)
    exact .unprompted (fun _ _ => unprompted_ownPeerNetInfo .reqNotFound ctxId reqOrConnId)
  | getPeerNetInfoResult ctxId connId =>
    refine Prog.Uses.bind (uses_locked ?_) (fun _ => uses_pure _)
    exact .unprompted (fun _ _ => unprompted_ownPeerNetInfo .resultNotFound ctxId connId)
  | getConnectionStatistics =>
    refine Prog.Uses.bind ?_ (fun _ => uses_pure _)
    apply (turns_read _).bind
    intro running
    refine uses_ite (fun _ => ?_) (fun _ => uses_pure _)
    exact (uses_locked (turn_same (fun _ => rfl) (fun _ => rfl))).bind
      (fun _ => uses_pure _)
  | dispatchThread =>
    have took : Turn none False .other (fun s => (takeDispatchLocked s).2) := by
      refine .unprompted (fun s _ => ?_)
      unfold takeDispatchLocked
      split <;> exact Unprompted.of_same rfl rfl
    refine Prog.Uses.bind (uses_locked took) (fun _ => uses_when (turns_quiet ?_))
    intro s
    unfold invokeCallback
    split <;> exact Unprompted.of_same rfl rfl
  | handshakePacket fromAddr fromPort packet now =>
    exact turns_handleHandshakePacket trivial fromAddr fromPort packet now
  | controlPacket fromAddr fromPort packet random now =>
    exact turns_handleControlPacket trivial fromAddr fromPort packet random now
  | processPendingActivations resolve => exact turns_processPendingActivations trivial resolve
  | stepPendingConnections now sendNow => exact turns_stepPendingConnections now sendNow
  | startMatching2 ctx ready resolve now => exact turns_startMatching2 ctx ready resolve now
  | stopMatching2 ctxId errorCode matching2ErrorCode =>
    exact (turns_read _).bind (fun _ => uses_forEach (fun roomId =>
      turns_stopMatching2Room ctxId roomId errorCode matching2ErrorCode))
  | stopMatching2Room ctxId roomId errorCode matching2ErrorCode =>
    exact turns_stopMatching2Room ctxId roomId errorCode matching2ErrorCode
  | syncMatching2Peers now => exact turns_syncMatching2Peers now
  | matching2Changed contextObjects caches =>
    exact uses_update (turn_same (fun _ => rfl) (fun _ => rfl))
  | externalIpLearned externalIp =>
    exact uses_update (turn_same (fun _ => rfl) (fun _ => rfl))
  | rehash tables => exact turns_quiet (fun _ => unprompted_rehash tables)

end NpSignaling
