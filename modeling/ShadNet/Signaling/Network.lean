import ShadNet.Signaling.Handshake

/-!
# Nodes that shake hands

Any number of consoles run the signaling library over a network that loses,
repeats, reorders and misdelivers their datagrams. Whatever the network and the
threads of each console do, every handshake packet answers one that was sent
before it, and a transport becomes Established only at the end of a whole
handshake.
-/

namespace NpSignaling

open KeyedTable LockProgram Prog LossyNetwork Runs

theorem Provoked.mono {known known' : Packet → Prop} {packet : Packet}
    (grows : ∀ packet, known packet → known' packet) (provoked : Provoked known packet) :
    Provoked known' packet := by
  cases packet with
  | control packet => trivial
  | handshake packet =>
    cases kind : packet.kind <;> rw [Provoked, kind] at provoked ⊢
    case offer => trivial
    case accept => exact Heard.mono grows provoked
    case check => exact provoked.imp (Heard.mono grows) (Heard.mono grows)
    case checkAck =>
      obtain ⟨check, there, facts⟩ := provoked
      exact ⟨check, grows _ there, facts⟩
    case other => exact provoked

theorem Briefed.mono {known known' : Packet → Prop} {s : NpSignalingState}
    (grows : ∀ packet, known packet → known' packet) (briefed : Briefed known s) :
    Briefed known' s :=
  ⟨briefed.1, fun t member => (briefed.2 t member).mono grows⟩

def NpSignalingState.packets (s : NpSignalingState) : List Packet := s.sent.map (·.packet)

/-- A section of the catalogue, with what both catalogues know of it. -/
def Allowed (establishes : Prop) (heard : Option Packet) (label : LockSection)
    (update : NpSignalingState → NpSignalingState) : Prop :=
  Section anyLicence label update ∧ Turn heard establishes label update

theorem op_allowed (op : Op) : op.program.Uses (Allowed op.establishes op.hears) :=
  (op_uses_any op).and (op_turns op)

/-! ## Packets -/

section Packets

variable {known : Packet → Prop} {s s' : NpSignalingState}

/-- The packets that were added were provoked. -/
def Speaks (known : Packet → Prop) (s s' : NpSignalingState) : Prop :=
  ∃ news, s'.packets = s.packets ++ news ∧ ∀ packet ∈ news, Provoked known packet

theorem Speaks.of_same (sent : s'.sent = s.sent) : Speaks known s s' :=
  ⟨[], by simp [NpSignalingState.packets, sent], by simp⟩

theorem Unprompted.speaks (quiet : Unprompted s s') (briefed : Briefed known s) :
    Speaks known s s' := by
  obtain ⟨news, sent, volunteered⟩ := quiet.sent
  refine ⟨news.map (·.packet), by simp [NpSignalingState.packets, sent], ?_⟩
  intro packet member
  obtain ⟨d, new, rfl⟩ := List.mem_map.mp member
  exact (volunteered d new).provoked briefed.2

theorem backed_establish (briefed : Briefed known s) (transportId : Nat) (hint : Bool)
    (now : Int) :
    ∀ t ∈ (establishConnectionLocked transportId hint now s).2.peerTransports,
      Backed known t := by
  unfold establishConnectionLocked
  cases s.transport? transportId with
  | none => exact briefed.2
  | some transport =>
    intro t' member'
    obtain ⟨t, member, image⟩ := mem_adjust.mp member'
    split at image
    · subst image
      cases fired : t.transportEstablishedFired with
      | false =>
        rw [establishTransport_fresh fired]
        exact ⟨(fun accepting => by cases accepting), fun checking => by cases checking⟩
      | true =>
        rw [establishTransport_fired fired]
        exact (briefed.2 t member).of_same rfl rfl
    · exact image ▸ briefed.2 t member

theorem establish_sent (transportId : Nat) (hint : Bool) (now : Int) (s : NpSignalingState) :
    (establishConnectionLocked transportId hint now s).2.sent = s.sent := by
  unfold establishConnectionLocked
  cases s.transport? transportId <;> rfl

theorem reply_speaks {packet : SignalingHandshake} (provoked : Provoked known (.handshake packet))
    (transportId : Nat) (now : Int) :
    Speaks known s (sendHandshakeLocked transportId packet now s) := by
  unfold sendHandshakeLocked
  cases s.transport? transportId with
  | none => exact Speaks.of_same rfl
  | some transport =>
    dsimp only
    split
    · exact Speaks.of_same rfl
    · refine ⟨[.handshake packet], ?_, fun _ member => by rwa [List.mem_singleton.mp member]⟩
      rw [NpSignalingState.packets, sync_sent]
      exact List.map_append

theorem reply_transports (packet : SignalingHandshake) (transportId : Nat) (now : Int) :
    ∀ t' ∈ (sendHandshakeLocked transportId packet now s).peerTransports,
      ∃ t ∈ s.peerTransports, t.peerName = t'.peerName ∧ t.state = t'.state := by
  unfold sendHandshakeLocked
  cases s.transport? transportId with
  | none => exact fun t member => ⟨t, member, rfl, rfl⟩
  | some transport =>
    dsimp only
    split
    · exact fun t member => ⟨t, member, rfl, rfl⟩
    · rw [sync_transports]
      intro t' member'
      obtain ⟨t, member, rfl⟩ := mem_adjust.mp member'
      refine ⟨t, member, ?_⟩
      split <;> exact ⟨rfl, rfl⟩

theorem allowed_keeps {establishes : Prop} {heard : Option Packet} {label : LockSection}
    {update : NpSignalingState → NpSignalingState} (there : ∀ packet ∈ heard, known packet)
    (allowed : Allowed establishes heard label update) {s : NpSignalingState}
    (briefed : Briefed known s) : Briefed known (update s) ∧ Speaks known s (update s) := by
  obtain ⟨member, turn⟩ := allowed
  have coherent := section_coherent member briefed.1
  cases turn with
  | unprompted quiet =>
    have unprompted := quiet s briefed.1
    exact ⟨⟨coherent, unprompted.backed briefed.2⟩, unprompted.speaks briefed⟩
  | handshake fromAddr fromPort packet now arrived =>
    exact ⟨⟨coherent, backed_handshake (there _ arrived) briefed fromAddr fromPort now⟩,
      Speaks.of_same (handleHandshake_sent fromAddr fromPort packet now s)⟩
  | reply transportId packet now provoked =>
    refine ⟨⟨coherent, fun t' member' => ?_⟩, reply_speaks (provoked known there) transportId now⟩
    obtain ⟨t, old, name, state⟩ := reply_transports packet transportId now t' member'
    exact (briefed.2 t old).of_same name state
  | establishConnection may transportId hint now =>
    exact ⟨⟨coherent, backed_establish briefed transportId hint now⟩,
      Speaks.of_same (establish_sent transportId hint now s)⟩

end Packets

/-! ## Every interleaving -/

/-- A console: the signaling runtime with the threads that are in it. -/
abbrev Console := Pool NpSignalingState LockSection

def console : Party Console (Action Op) Packet :=
  pooled Op.program NpSignalingState.packets Op.hears

def console.start : Console := ⟨{}, []⟩

theorem rule_console : Rule console
    (PooledInv (fun heard => Allowed True heard) Briefed) Provoked := by
  apply rule_pooled
  · exact fun grows briefed => briefed.mono grows
  · intro op
    refine (op_allowed op).mono (fun label update allowed => ⟨allowed.1, ?_⟩)
    exact allowed.2.may
  · intro known heard label update there allowed s briefed
    exact allowed_keeps there allowed briefed

theorem lawful_start {ν : Type} [DecidableEq ν] :
    Lawful console (PooledInv (fun heard => Allowed True heard) Briefed)
      (fun _ : ν => console.start) :=
  fun _ => ⟨⟨coherent_start, by simp [console.start]⟩, by simp [console.start]⟩

/-- Whatever the network and the threads of the consoles do, an Accept, a Check or a CheckAck is
sent only after its addressee has sent what it answers, and a transport that is about to send one
of them again has heard that of its peer. -/
theorem handshake_in_order {ν : Type} [DecidableEq ν] {events : List (ν × Action Op)}
    (delivered : Admitted (step console) (Delivered console) events (fun _ => console.start)) :
    Throughout (step console)
      (fun s => ∀ node, ∀ t ∈ (s node).state.peerTransports, Backed (Known console s) t)
      (fun _ => Answers console Provoked) events (fun _ => console.start) := by
  have lawful := rule_console.throughout lawful_start delivered
  exact lawful.mono (fun s lawful node => (lawful node).1.2)

/-- The packets of a handshake between two users, before the network adds an address. -/
def handshakeOf (sender peer : OrbisNpId) (kind : HandshakeKind) (nonce : BitVec 64) :
    SignalingHandshake :=
  { kind, onlineIdFrom := sender.handle.data, onlineIdTo := peer.handle.data
    fromConnId := 1, nonce }

def requestOf (sender peer : OrbisNpId) : SignalingControl :=
  { kind := .activationRequest
    onlineIdFrom := sender.handle.data, onlineIdTo := peer.handle.data, fromConnId := 1 }

def threadOf (node : Bool) (thread takes : Nat) (op : Op) : List (Bool × Action Op) :=
  (node, .spawn op) :: List.replicate takes (node, .take thread)

/-- One console offers a connection, the other accepts it. -/
def offerRun : List (Bool × Action Op) :=
  threadOf true 0 1 (.signalingInitialize true true) ++
    threadOf true 1 4 (.createContext ali true (some 1) 0 0 1) ++
    threadOf false 0 1 (.signalingInitialize true true) ++
    threadOf false 1 4 (.createContext bob true (some 1) 0 0 1) ++
    threadOf true 2 2 (.activateConnection 1 bob true 0 10) ++
    threadOf true 3 4 (.processPendingActivations (fun _ => ⟨some (2, 2), 11⟩)) ++
    threadOf false 2 2 (.controlPacket 1 1 (requestOf ali bob) 0 12) ++
    threadOf false 3 2 (.handshakePacket 1 1 (handshakeOf ali bob .offer 0) 13)

theorem offerRun_in_order :
    Throughout (step console)
      (fun s => ∀ node, ∀ t ∈ (s node).state.peerTransports, Backed (Known console s) t)
      (fun _ => Answers console Provoked) offerRun (fun _ => console.start) :=
  handshake_in_order (by decide +kernel)

/-! ## Operations that run one at a time -/

/-- An Established transport has been acknowledged by its peer. -/
def Acked (known : Packet → Prop) (transport : PeerTransport) : Prop :=
  transport.state = .established → Heard known .checkAck transport.peerName

def Assured (known : Packet → Prop) (s : NpSignalingState) : Prop :=
  Coherent s ∧ ∀ t ∈ s.peerTransports, Acked known t

/-- Whatever has this id may be established. -/
def MayEstablish (known : Packet → Prop) (transportId : Nat) (s : NpSignalingState) : Prop :=
  ∀ t ∈ s.peerTransports, t.transportId = transportId → Heard known .checkAck t.peerName

section Assured

variable {known : Packet → Prop} {s s' : NpSignalingState}

theorem Acked.of_same {t t' : PeerTransport} (acked : Acked known t)
    (name : t.peerName = t'.peerName) (state : t.state = t'.state) : Acked known t' := by
  rw [Acked, ← name, ← state]
  exact acked

theorem Assured.unprompted (assured : Assured known s) (coherent : Coherent s')
    (quiet : Unprompted s s') : Assured known s' := by
  refine ⟨coherent, fun t' member' established => ?_⟩
  have prompted : t'.state.prompted = true := by rw [established]; rfl
  obtain ⟨t, old, name, state⟩ := quiet.transports t' member' prompted
  exact (assured.2 t old).of_same name state established

theorem assured_allowed {heard : Option Packet} {label : LockSection}
    {update : NpSignalingState → NpSignalingState} (allowed : Allowed False heard label update)
    (assured : Assured known s) : Assured known (update s) := by
  obtain ⟨member, turn⟩ := allowed
  have coherent' := section_coherent member assured.1
  cases turn with
  | unprompted quiet => exact assured.unprompted coherent' (quiet s assured.1)
  | handshake fromAddr fromPort packet now arrived =>
    obtain ⟨coherent, acked⟩ := assured
    refine ⟨coherent', fun t' member' => ?_⟩
    have kept := kept_handshake coherent.peerTransports fromAddr fromPort packet now
    obtain ⟨t, old, -, same, steady⟩ := kept.peerTransports.mem_new member'
    intro established
    have name : t.peerName = t'.peerName := same.name.symm
    rw [← name]
    exact acked t old (steady.quiet.established established)
  | reply transportId packet now provoked =>
    refine ⟨coherent', fun t' member' => ?_⟩
    obtain ⟨t, old, name, state⟩ := reply_transports packet transportId now t' member'
    exact (assured.2 t old).of_same name state
  | establishConnection may transportId hint now => exact may.elim

theorem triple_allowed {α : Type} {heard : Option Packet} {p : Signaling α}
    (uses : p.Uses (Allowed False heard)) :
    Triple (Assured known) p (fun _ => Assured known) :=
  fun _ assured => uses.exec_keeps (fun _ _ allowed _ => assured_allowed allowed) assured

theorem assured_establishLocked (assured : Assured known s) {transportId : Nat}
    (may : MayEstablish known transportId s) (hint : Bool) (now : Int) :
    Assured known (establishConnectionLocked transportId hint now s).2 := by
  obtain ⟨coherent, acked⟩ := assured
  have member : Section anyLicence (.establishConnection transportId)
      (fun s => (establishConnectionLocked transportId hint now s).2) :=
    .establishConnection transportId hint now
  refine ⟨section_coherent member coherent, ?_⟩
  unfold establishConnectionLocked
  cases s.transport? transportId with
  | none => exact acked
  | some transport =>
    intro t' member'
    obtain ⟨t, old, image⟩ := mem_adjust.mp member'
    split at image
    · rename_i same
      have name : t.peerName = t'.peerName :=
        image ▸ (establishTransport_same hint now t).2.name.symm
      exact fun _ => name ▸ may t old same
    · exact image ▸ acked t old

theorem triple_establishConnection (transportId : Nat) (hint : Bool) (now : Int) :
    Triple (fun s => Assured known s ∧ MayEstablish known transportId s)
      (establishConnection transportId hint now) (fun _ => Assured known) := by
  rintro s ⟨assured, may⟩
  have sections : (establishConnection transportId hint now).Uses (Section anyLicence) :=
    uses_establishConnection transportId hint now
  have rest : Prog.Uses (Allowed False none) _ :=
    (sections.2 s).and (turns_announce transportId hint now s)
  exact triple_allowed rest _ (assured_establishLocked assured may hint now)

/-! ### The operations that establish -/

theorem mayEstablish_of_established (assured : Assured known s) {transportId : Nat}
    (established : ∀ t ∈ s.peerTransports, t.transportId = transportId →
      t.state = .established) : MayEstablish known transportId s :=
  fun t member same => assured.2 t member (established t member same)

/-- A CheckAck is not answered; it establishes the transport of its sender. -/
theorem handshakeOutcome_establishes {externalIp : UInt32} {packet : SignalingHandshake}
    {now : Int} {before after : PeerTransport} {transportId : Nat}
    (establishes : (handshakeOutcome externalIp packet now before after).establishTransport =
      some transportId) :
    packet.kind = .checkAck ∧ before.transportId = transportId ∧
      (handshakeOutcome externalIp packet now before after).reply = none := by
  unfold handshakeOutcome at establishes ⊢
  cases kind : packet.kind <;> simp only [kind] at establishes ⊢
  case checkAck =>
    split at establishes
    · rename_i pending
      rw [if_pos pending]
      exact ⟨trivial, Option.some.inj establishes, rfl⟩
    · cases establishes
  case accept => split at establishes <;> cases establishes
  all_goals cases establishes

theorem handshake_mayEstablish {packet : SignalingHandshake} (there : known (.handshake packet))
    (coherent : Coherent s) {fromAddr : UInt32} {fromPort : UInt16} {now : Int}
    {transportId : Nat}
    (establishes : (handleHandshakeLocked fromAddr fromPort packet now s).1.establishTransport =
      some transportId) :
    (handleHandshakeLocked fromAddr fromPort packet now s).1.reply = none ∧
      MayEstablish known transportId
        (handleHandshakeLocked fromAddr fromPort packet now s).2 := by
  have kept := kept_handshake coherent.peerTransports fromAddr fromPort packet now
  cases found : findTransportByOnlineIdLocked (packetOnlineIdToString packet.onlineIdFrom) s with
  | none =>
    rw [handleHandshakeLocked, found] at establishes
    cases establishes
  | some transport =>
    obtain ⟨member, -, name⟩ := findTransport_some found
    have outcome : (handleHandshakeLocked fromAddr fromPort packet now s).1 =
        handshakeOutcome s.externalIp packet now transport
          (handshakeTransport fromAddr fromPort packet now transport) := by
      rw [handleHandshakeLocked, found]
    rw [outcome] at establishes ⊢
    obtain ⟨kind, sameId, unanswered⟩ := handshakeOutcome_establishes establishes
    refine ⟨unanswered, fun t' member' same' => ?_⟩
    obtain ⟨t, old, key, same, -⟩ := kept.peerTransports.mem_new member'
    obtain rfl : t = transport :=
      coherent.peerTransports.eq_of_key old member (by rw [← key, same', sameId])
    exact ⟨packet, there, kind, name.symm.trans same.name.symm⟩

theorem assured_handshakePacket {packet : SignalingHandshake} (there : known (.handshake packet))
    (fromAddr : UInt32) (fromPort : UInt16) (now : Int) :
    Triple (Assured known) (handleHandshakePacket fromAddr fromPort packet now)
      (fun _ => Assured known) := by
  intro s assured
  have uses := op_uses_any (.handshakePacket fromAddr fromPort packet now)
  have allowed : Allowed False (some (.handshake packet)) .other
      (fun s => (handleHandshakeLocked fromAddr fromPort packet now s).2) :=
    ⟨uses.1, .handshake fromAddr fromPort packet now rfl⟩
  have handled := assured_allowed allowed assured
  let outcome := (handleHandshakeLocked fromAddr fromPort packet now s).1
  let reply : Signaling Unit := forSome outcome.reply
    (fun answer => updateLocked (sendHandshakeLocked answer.1 answer.2 now))
  have sections : reply.Uses (Section anyLicence) :=
    Prog.Uses.of_bind (k := fun _ => forSome outcome.establishTransport
      (fun transportId => establishConnection transportId true now)) (uses.2 s)
  have replies : reply.Uses (Allowed False (some (.handshake packet))) :=
    sections.and (turns_reply fromAddr fromPort packet now s)
  simp only [handleHandshakePacket, exec_bind, exec_locked]
  cases establishes :
      (handleHandshakeLocked fromAddr fromPort packet now s).1.establishTransport with
  | none => exact triple_allowed replies _ handled
  | some transportId =>
    obtain ⟨unanswered, may⟩ := handshake_mayEstablish there assured.1 establishes
    rw [unanswered]
    exact triple_establishConnection transportId true now _ ⟨handled, may⟩

theorem activationRequest_establishes {fromAddr : UInt32} {fromPort : UInt16}
    {packet : SignalingControl} {random : UInt32} {transportId : Nat}
    (establishes :
      (activationRequestLocked fromAddr fromPort packet random s).1.establishTransport =
        some transportId) :
    ∃ t ∈ (activationRequestLocked fromAddr fromPort packet random s).2.peerTransports,
      t.transportId = transportId ∧ t.state = .established := by
  unfold activationRequestLocked at establishes ⊢
  cases made : requestTransportLocked fromAddr fromPort packet s with
  | mk asked s₁ =>
    simp only [made] at establishes ⊢
    cases asked with
    | none => cases establishes
    | some asked =>
      dsimp only at establishes ⊢
      cases known : (s₁.adjustTransport asked
          (requestedTransport fromAddr fromPort packet)).transport? asked with
      | none =>
        simp only [known] at establishes
        cases establishes
      | some transport =>
        obtain ⟨member, sameId⟩ := lookup_some known
        obtain ⟨same, -⟩ := requestConnection_same
          (addressedContext (packetOnlineIdToString packet.onlineIdTo) s) transport packet random
          (s₁.adjustTransport asked (requestedTransport fromAddr fromPort packet))
        simp only [known] at establishes ⊢
        cases answer : requestConnectionLocked
            (addressedContext (packetOnlineIdToString packet.onlineIdTo) s) transport packet random
            (s₁.adjustTransport asked (requestedTransport fromAddr fromPort packet)) with
        | mk found s₂ =>
          rw [answer] at same
          simp only [answer] at establishes ⊢
          cases found with
          | none => cases establishes
          | some found =>
            dsimp only at establishes ⊢
            split at establishes
            · rename_i established
              obtain rfl := Option.some.inj establishes
              refine ⟨transport, ?_, sameId, established⟩
              rw [sync_transports]
              cases found with
              | none => exact same ▸ member
              | some connId => exact same ▸ member
            · cases establishes

theorem handleControl_establishes {fromAddr : UInt32} {fromPort : UInt16}
    {packet : SignalingControl} {random : UInt32} {transportId : Nat}
    (establishes : (handleControlLocked fromAddr fromPort packet random s).1.establishTransport =
      some transportId) :
    ∃ t ∈ (handleControlLocked fromAddr fromPort packet random s).2.peerTransports,
      t.transportId = transportId ∧ t.state = .established := by
  unfold handleControlLocked at establishes ⊢
  split at establishes
  · rename_i request
    rw [if_pos request]
    exact activationRequest_establishes establishes
  · rename_i other
    rw [if_neg other]
    split at establishes
    · cases establishes
    · rename_i transport found
      obtain ⟨member, -, -⟩ := findTransport_some found
      unfold controlOnTransportLocked at establishes ⊢
      cases kind : packet.kind <;> simp only [kind] at establishes ⊢
      case established =>
        split at establishes
        · rename_i established
          obtain rfl := Option.some.inj establishes
          exact ⟨_, mem_adjust_self member rfl, rfl, established⟩
        · cases establishes
      case close =>
        unfold closeRequestLocked at establishes
        split at establishes
        · split at establishes <;> cases establishes
        · cases establishes
      all_goals cases establishes

theorem assured_send (assured : Assured known s) (d : Datagram) : Assured known (s.send d) :=
  ⟨assured.1.of_kept (kept_send d), assured.2⟩

theorem assured_controlPacket (fromAddr : UInt32) (fromPort : UInt16) (packet : SignalingControl)
    (random : UInt32) (now : Int) :
    Triple (Assured known) (handleControlPacket fromAddr fromPort packet random now)
      (fun _ => Assured known) := by
  let May (outcome : ControlOutcome) (s : NpSignalingState) : Prop :=
    ∀ transportId ∈ outcome.establishTransport, MayEstablish known transportId s
  have handled : Triple (Assured known)
      (locked (LockSection.handleControlPacket packet)
        (handleControlLocked fromAddr fromPort packet random))
      (fun outcome s => Assured known s ∧ May outcome s) := by
    apply triple_locked
    intro s assured
    have turn : Turn none False (.handleControlPacket packet)
        (fun s => (handleControlLocked fromAddr fromPort packet random s).2) :=
      .unprompted (fun _ coherent =>
        unprompted_handleControl coherent fromAddr fromPort packet random)
    have assured' := assured_allowed
      ⟨.handleControlPacket fromAddr fromPort packet random (fun _ => trivial), turn⟩ assured
    refine ⟨assured', fun transportId establishes => ?_⟩
    obtain ⟨t, member, sameId, established⟩ := handleControl_establishes establishes
    refine mayEstablish_of_established assured' (fun other among same => ?_)
    rw [assured'.1.peerTransports.eq_of_key among member (same.trans sameId.symm)]
    exact established
  have closes : ∀ outcome : ControlOutcome, (do
      forSome outcome.peerDeactivatedConn (fun connId =>
        updateLocked (dispatchConnectionEvent connId .peerDeactivated none))
      forSome outcome.deadConn (fun connId =>
        closeConnectionAndDispatchDead connId .terminatedByPeer .terminatedByPeer) :
          Signaling Unit).Uses (Allowed False none) := by
    intro outcome
    apply Prog.Uses.bind
    · exact uses_forSome (fun connId _ =>
        (uses_update (section_dispatch connId _ _)).and (turns_dispatch connId _ _))
    · intro _
      exact uses_forSome (fun connId _ =>
        (uses_closeConnection trivial connId _ _).and (turns_closeConnection connId _ _))
  refine handled.bind (fun outcome => ?_)
  have acks : Triple (fun s => Assured known s ∧ May outcome s) (sendDatagram outcome.ack)
      (fun _ s => Assured known s ∧ May outcome s) := by
    rintro s ⟨assured, may⟩
    cases ack : outcome.ack with
    | none => exact ⟨assured, may⟩
    | some d => exact ⟨assured_send assured d, may⟩
  have establishes : Triple (fun s => Assured known s ∧ May outcome s)
      (forSome outcome.establishTransport (fun transportId =>
        establishConnection transportId false now)) (fun _ => Assured known) := by
    rintro s ⟨assured, may⟩
    cases establish : outcome.establishTransport with
    | none => exact assured
    | some transportId =>
      exact triple_establishConnection transportId false now s ⟨assured, may _ establish⟩
  exact acks.bind (fun _ => establishes.bind (fun _ => triple_allowed (closes outcome)))

theorem sendActivate_transports (ci : ConnectionInfo) (s : NpSignalingState) :
    (sendActivate ci s).peerTransports = s.peerTransports := by
  unfold sendActivate
  split
  · rfl
  · split <;> rfl

theorem activationResolved_established (coherent : Coherent s) {connId : Nat} {addr : UInt32}
    {port : UInt16} {ci : ConnectionInfo} (live : liveConnection? connId s = some ci)
    (already : (activationResolvedLocked connId addr port s).1 = some true) :
    ∀ t ∈ (activationResolvedLocked connId addr port s).2.peerTransports,
      t.transportId = ci.transportId → t.state = .established := by
  unfold activationResolvedLocked at already ⊢
  simp only [live] at already ⊢
  cases known : s.transport? ci.transportId with
  | none =>
    simp only [known] at already
    cases already
  | some transport =>
    obtain ⟨member, sameId⟩ := lookup_some known
    simp only [known, Option.some.injEq, decide_eq_true_eq] at already ⊢
    rw [sendActivate_transports]
    intro t' member' same'
    obtain ⟨t, old, image⟩ := mem_adjust.mp member'
    split at image
    · rename_i same
      obtain rfl := coherent.peerTransports.eq_of_key old member (same.trans sameId.symm)
      exact image ▸ already
    · rename_i other
      exact absurd (image ▸ same') other

theorem assured_processActivation (resolution : Resolution) (act : PendingActivation) :
    Triple (Assured known) (processActivation resolution act)
      (fun _ => Assured known) := by
  intro s assured
  simp only [processActivation, exec_bind, exec_locked]
  cases live : liveConnection? act.connId s with
  | none => exact assured
  | some ci =>
    dsimp only
    cases resolution.resolved with
    | none => exact assured
    | some endpoint =>
      obtain ⟨addr, port⟩ := endpoint
      have already := @activationResolved_established _ assured.1 act.connId addr port ci live
      have moved : Assured known (activationResolvedLocked act.connId addr port s).2 :=
        assured.unprompted (assured.1.of_kept (kept_activationResolved act.connId addr port))
          (unprompted_activationResolved act.connId addr port)
      simp only [exec_bind, exec_locked]
      cases outcome : (activationResolvedLocked act.connId addr port s).1 with
      | none => exact moved
      | some alreadyEstablished =>
        simp only [exec_bind, exec_when, exec_pure]
        by_cases starts : act.startHandshake = true
        · -- a handshake is started and nothing established
          have start : (startTransportHandshakeInitiator ci.transportId resolution.now).Uses
              (Allowed False none) := (uses_start _ _).and (turns_start _ _)
          have started := triple_allowed start _ moved
          rw [if_pos starts, if_neg (fun both => by simp [starts] at both)]
          exact started
        · rw [if_neg starts]
          split
          · rename_i both
            rw [both.2] at outcome
            exact triple_establishConnection ci.transportId false resolution.now _
              ⟨moved, mayEstablish_of_established moved (already outcome)⟩
          · exact moved

theorem assured_processPendingActivations (resolve : Nat → Resolution) :
    Triple (Assured known) (processPendingActivations resolve)
      (fun _ => Assured known) := by
  have work : ∀ i (work : List PendingActivation), Triple (Assured known)
      (processWork resolve i work) (fun _ => Assured known) := by
    intro i work
    induction work generalizing i with
    | nil => exact triple_pure (fun _ assured => assured)
    | cons act work ih =>
      refine (assured_processActivation (resolve i) act).bind (fun again => ?_)
      exact (ih (i + 1)).bind (fun _ => triple_pure (fun _ assured => assured))
  have same : ∀ (pending : List PendingActivation) s, Assured known s →
      Assured known { s with pendingActivations := pending } :=
    fun pending s assured =>
      ⟨assured.1.of_kept (R := Steady) { Kept.refl composable_steady s with }, assured.2⟩
  refine Triple.bind (M := fun _ => Assured known) (fun s => same [] s) (fun taken => ?_)
  refine (work 0 taken).bind (fun retry => ?_)
  exact triple_when (fun _ => triple_update (fun s => same _ s))

/-- The connections with this id are on the transport, which is Established. -/
def OnEstablished (connId : Nat) (s : NpSignalingState) : Prop :=
  ∃ transport ∈ s.peerTransports, transport.state = .established ∧
    ∀ ci ∈ s.connections, ci.connId = connId → ci.transportId = transport.transportId

theorem onEstablished_reactivate {ci : ConnectionInfo} {transport : PeerTransport}
    (member : transport ∈ s.peerTransports) (established : transport.state = .established)
    (ctxId : Nat) (peerNpid : OrbisNpId) (peerOnlineId : OrbisNpOnlineId) :
    OnEstablished ci.connId
      (reactivateConnectionLocked ci ctxId peerNpid peerOnlineId transport s) := by
  have unchanged : resumedTransport transport = transport := by
    rw [resumedTransport, if_pos established]
  let s₁ := (s.adjustTransport transport.transportId resumedTransport).adjustConnection ci.connId
    (reactivatedConnection ctxId peerNpid peerOnlineId (resumedTransport transport))
  have there : OnEstablished ci.connId s₁ := by
    refine ⟨transport, unchanged ▸ mem_adjust_self member rfl, established, ?_⟩
    intro ci' member' same'
    obtain ⟨old, -, image⟩ := mem_adjust.mp member'
    split at image
    · rw [← image, unchanged]
      rfl
    · rename_i other
      exact absurd (image ▸ same') other
  unfold reactivateConnectionLocked
  dsimp only
  split
  · exact there
  · exact there

theorem onEstablished_create {ctxId connId : Nat} {peerNpid : OrbisNpId}
    {peerOnlineId : OrbisNpOnlineId} {transport : PeerTransport} {random : UInt32}
    (member : transport ∈ s.peerTransports) (established : transport.state = .established)
    (created : createLocalConnectionLocked ctxId peerNpid peerOnlineId transport random s =
      (some connId, s')) : OnEstablished connId s' := by
  unfold createLocalConnectionLocked at created
  cases allocated : allocateConnectionIdLocked random s with
  | mk made s₁ =>
    obtain ⟨seed, rfl⟩ := allocateConnectionIdLocked_state allocated
    rw [allocated] at created
    cases made with
    | none => cases created
    | some made =>
      cases created
      refine ⟨transport, member, established, fun ci' member' same' => ?_⟩
      have fields := localConnection_fields connId ctxId peerNpid peerOnlineId transport
        s.connectionsMade
      rcases mem_store.mp member' with ⟨-, other⟩ | rfl
      · exact absurd (same'.trans fields.1.symm) other
      · unfold localConnection
        dsimp only
        split <;> rfl

/-- An activation that reports an established transport leaves its connection on one. -/
theorem activateSig1_established {ctxId connId : Nat} {peerNpid : OrbisNpId} {random : UInt32}
    {now : Int}
    (reused : (activateSig1Locked ctxId peerNpid peerNpid.handle random now s).1 =
      .ok (connId, true)) :
    OnEstablished connId (activateSig1Locked ctxId peerNpid peerNpid.handle random now s).2 := by
  unfold activateSig1Locked at reused ⊢
  split at reused
  · cases reused
  rename_i on
  rw [if_neg on]
  cases context : s.context? ctxId with
  | none =>
    simp only [context] at reused
    cases reused
  | some ctx =>
    simp only [context] at reused ⊢
    split at reused
    · cases reused
    rename_i active
    rw [if_neg active]
    split at reused
    · cases reused
    rename_i foreign
    rw [if_neg foreign]
    split at reused
    · cases reused
    rename_i paid
    rw [if_neg paid]
    cases reuse : reuseConnectionLocked ⟨ctxId, peerNpid⟩ (chargeContext ctxId now s) with
    | mk existing s₁ =>
      simp only [reuse] at reused ⊢
      cases ensure : ensureTransportLocked ctx.ownerOnlineId peerNpid.handle peerNpid 0 0 s₁ with
      | mk transportId s₂ =>
        simp only [ensure] at reused ⊢
        cases transportId with
        | none => cases reused
        | some transportId =>
          dsimp only at reused ⊢
          cases known : s₂.transport? transportId with
          | none =>
            simp only [known] at reused
            cases reused
          | some transport =>
            obtain ⟨member, -⟩ := lookup_some known
            simp only [known] at reused ⊢
            cases existing with
            | some ci =>
              simp only [Except.ok.injEq, Prod.mk.injEq, decide_eq_true_eq] at reused ⊢
              obtain ⟨rfl, established⟩ := reused
              exact onEstablished_reactivate member established ctxId peerNpid peerNpid.handle
            | none =>
              cases create : createLocalConnectionLocked ctxId peerNpid peerNpid.handle transport
                  random s₂ with
              | mk made s₃ =>
                simp only [create] at reused ⊢
                cases made with
                | none => cases reused
                | some made =>
                  simp only [Except.ok.injEq, Prod.mk.injEq, decide_eq_true_eq] at reused ⊢
                  obtain ⟨rfl, established⟩ := reused
                  exact onEstablished_create member established create

theorem assured_activateSig1 (ctxId : Nat) (peerNpid : OrbisNpId) (random : UInt32) (now : Int) :
    Triple (Assured known) (activateSig1 ctxId peerNpid peerNpid.handle random now)
      (fun _ => Assured known) := by
  intro s assured
  have turn : Turn none False (.activateSig1 ctxId peerNpid now)
      (fun s => (activateSig1Locked ctxId peerNpid peerNpid.handle random now s).2) :=
    .unprompted (fun _ coherent =>
      unprompted_activateSig1 coherent.peerTransports ctxId peerNpid random now)
  have assured' := assured_allowed ⟨.activateSig1 ctxId peerNpid random now, turn⟩ assured
  simp only [activateSig1, exec_bind, exec_locked]
  cases answer : (activateSig1Locked ctxId peerNpid peerNpid.handle random now s).1 with
  | error error => exact assured'
  | ok activated =>
    obtain ⟨connId, reusedEstablished⟩ := activated
    simp only [exec_bind, exec_when, exec_pure, exec_locked]
    split
    · rename_i reused
      subst reused
      obtain ⟨transport, member, established, on⟩ := activateSig1_established answer
      cases found : (activateSig1Locked ctxId peerNpid peerNpid.handle random now s).2.connection?
          connId with
      | none => exact assured'
      | some ci =>
        obtain ⟨memberC, sameConn⟩ := lookup_some found
        simp only [exec_forSome_some, exec_when]
        split
        · refine triple_establishConnection ci.transportId false now _ ⟨assured', ?_⟩
          refine mayEstablish_of_established assured' (fun t among same => ?_)
          rw [on ci memberC sameConn] at same
          rw [assured'.1.peerTransports.eq_of_key among member same]
          exact established
        · exact assured'
    · exact assured'

end Assured

/-! ## Whole runs -/

def ownConsole : Party NpSignalingState Op Packet where
  step := Op.complete
  sent := NpSignalingState.packets
  hears := Op.hears

theorem op_assured {known : Packet → Prop} {op : Op} (there : ∀ packet ∈ op.hears, known packet) :
    Triple (Assured known) op.program (fun _ => Assured known) := by
  by_cases establishes : op.establishes
  · cases op with
    | handshakePacket fromAddr fromPort packet now =>
      exact assured_handshakePacket (there _ rfl) fromAddr fromPort now
    | controlPacket fromAddr fromPort packet random now =>
      exact assured_controlPacket fromAddr fromPort packet random now
    | processPendingActivations resolve => exact assured_processPendingActivations resolve
    | activateSig1 ctxId peerNpid random now =>
      exact (assured_activateSig1 ctxId peerNpid random now).bind
        (fun _ => triple_pure (fun _ assured => assured))
    | activateConnection ctxId peerNpid valid random now =>
      refine triple_seq ?_ (fun _ => triple_pure (fun _ assured => assured))
      refine Triple.bind (M := fun _ => Assured known) (fun _ assured => assured)
        (fun running => ?_)
      refine triple_ite (fun _ => ?_) (fun _ => triple_pure (fun _ assured => assured))
      exact triple_ite
        (fun _ s assured => assured_activateSig1 ctxId peerNpid random now s assured)
        (fun _ => triple_pure (fun _ assured => assured))
    | activateConnectionA ctxId accountId platformType random now =>
      refine triple_seq ?_ (fun _ => triple_pure (fun _ assured => assured))
      refine Triple.bind (M := fun _ => Assured known) (fun _ assured => assured)
        (fun member => ?_)
      cases member with
      | some peerNpid =>
        exact triple_seq (assured_activateSig1 ctxId peerNpid random now)
          (fun _ => triple_pure (fun _ assured => assured))
      | none =>
        intro s assured
        have stub : Section anyLicence (.activateConnectionA ctxId) _ :=
          .activateConnectionA ctxId accountId platformType random now
        have coherent := section_coherent stub assured.1
        exact assured.unprompted coherent (unprompted_activationStub _ _ _ _ _)
    | _ => cases establishes
  · have allowed := op_allowed op
    rw [eq_false establishes] at allowed
    exact triple_allowed allowed

theorem rule_ownConsole :
    Rule ownConsole (fun known s => Briefed known s ∧ Assured known s) Provoked where
  mono := by
    rintro known known' s grows ⟨briefed, assured⟩
    refine ⟨briefed.mono grows, assured.1, fun t member established => ?_⟩
    exact (assured.2 t member established).mono grows
  keeps := by
    rintro known op s ⟨briefed, assured⟩ there
    obtain ⟨briefed', speaks⟩ := exec_answers
      (fun allowed _ briefed => allowed_keeps there allowed briefed) (op_allowed op) briefed
    exact ⟨⟨briefed', op_assured there s assured⟩, speaks⟩

def IsHandshake (kind : HandshakeKind) (packet : Packet) : Prop :=
  ∃ handshake : SignalingHandshake, packet = .handshake handshake ∧ handshake.kind = kind

/-- The handshake an Established transport has behind it: its peer has acknowledged a Check with
its nonce, and an Accept and the Offer it answers went before. -/
def HandshakeBehind (known : Packet → Prop) (t : PeerTransport) : Prop :=
  ∃ ack check accept offer : SignalingHandshake,
    (∀ packet ∈ [ack, check, accept, offer], known (.handshake packet)) ∧
    (ack.kind = .checkAck ∧ packetOnlineIdToString ack.onlineIdFrom = t.peerName) ∧
    (check.kind = .check ∧ check.nonce = ack.nonce ∧
      packetOnlineIdToString check.onlineIdFrom = packetOnlineIdToString ack.onlineIdTo) ∧
    accept.kind = .accept ∧ offer.kind = .offer ∧
      packetOnlineIdToString offer.onlineIdFrom = packetOnlineIdToString accept.onlineIdTo

/-- No transport is Established before a whole handshake, whoever lost, repeated, reordered or
misdelivered its packets. -/
theorem established_after_handshake {ν : Type} [DecidableEq ν] {events : List (ν × Op)}
    (delivered : Admitted (step ownConsole) (Delivered ownConsole) events (fun _ => {}))
    {node : ν} {t : PeerTransport}
    (member : t ∈ (run (step ownConsole) events (fun _ => {}) node).peerTransports)
    (established : t.state = .established) :
    HandshakeBehind (Known ownConsole (run (step ownConsole) events (fun _ => {}))) t := by
  have nothing : ∀ message : Packet, ¬Known ownConsole (fun _ : ν => {}) message := by
    rintro message ⟨_, sent⟩
    cases sent
  have start : Lawful ownConsole (fun known s => Briefed known s ∧ Assured known s)
      (fun _ : ν => {}) :=
    fun _ => ⟨⟨coherent_start, by simp⟩, coherent_start, by simp⟩
  have lawful := (rule_ownConsole.throughout start delivered).final
  have accounted := rule_ownConsole.accounted Provoked.mono start
    (fun message sent => absurd sent (nothing message)) delivered
  obtain ⟨ack, acked, isAck, sender⟩ := (lawful node).2.2 t member established
  have cause := accounted _ acked
  rw [Provoked, isAck] at cause
  obtain ⟨check, checked, isCheck, addressee, nonce⟩ := cause
  have first : ∀ known message, Provoked known message → IsHandshake .check message →
      ∃ cause, known cause ∧ (IsHandshake .check cause ∨ IsHandshake .accept cause) := by
    rintro known _ provoked ⟨packet, rfl, kind⟩
    rw [Provoked, kind] at provoked
    rcases provoked with ⟨cause, there, kind, -⟩ | ⟨cause, there, kind, -⟩
    · exact ⟨_, there, Or.inr ⟨cause, rfl, kind⟩⟩
    · exact ⟨_, there, Or.inl ⟨cause, rfl, kind⟩⟩
  obtain ⟨_, accepted, accept, rfl, isAccept⟩ := rule_ownConsole.origin first start
    (fun message sent => absurd sent (nothing message)) delivered checked ⟨check, rfl, isCheck⟩
  have cause := accounted _ accepted
  rw [Provoked, isAccept] at cause
  obtain ⟨offer, offered, isOffer, offerer⟩ := cause
  refine ⟨ack, check, accept, offer, ?_, ⟨isAck, sender⟩, ⟨isCheck, nonce, addressee⟩, isAccept,
    isOffer, offerer⟩
  simp only [List.forall_mem_cons]
  exact ⟨acked, checked, accepted, offered, by simp⟩

/-- Two consoles connect: an Offer, its Accept, a Check and its CheckAck. -/
def connectRun : List (Bool × Op) :=
  [(true, .signalingInitialize true true),
   (true, .createContext ali true (some 1) 0 0 1),
   (false, .signalingInitialize true true),
   (false, .createContext bob true (some 1) 0 0 1),
   (true, .activateConnection 1 bob true 0 10),
   (true, .processPendingActivations (fun _ => ⟨some (2, 2), 11⟩)),
   (false, .controlPacket 1 1 (requestOf ali bob) 0 12),
   (false, .handshakePacket 1 1 (handshakeOf ali bob .offer 0) 13),
   (true, .handshakePacket 2 2 (handshakeOf bob ali .accept 0) 14),
   (false, .handshakePacket 1 1 (handshakeOf ali bob .check 14) 15),
   (true, .handshakePacket 2 2 (handshakeOf bob ali .checkAck 14) 16)]

theorem connectRun_established :
    ∃ t ∈ (run (step ownConsole) connectRun (fun _ => {}) true).peerTransports,
      t.state = .established ∧
        HandshakeBehind (Known ownConsole (run (step ownConsole) connectRun (fun _ => {}))) t := by
  have ends : ∃ t ∈ (run (step ownConsole) connectRun (fun _ => {}) true).peerTransports,
      t.state = .established := by decide +kernel
  obtain ⟨t, member, established⟩ := ends
  exact ⟨t, member, established,
    established_after_handshake (by decide +kernel) member established⟩

end NpSignaling
