import ShadNet.Signaling.Transports

/-!
# One connection per context and peer

A connection is found by the full `OrbisNpId` when it is activated locally and
by the online id alone when the peer asks for it. The two agree for a name as
long as each creating section sees what the other key would have shown it; then
a context has at most one connection to that name whose DEAD event has not been
dispatched, and a request is served by the context it is addressed to.
-/

namespace NpSignaling

open KeyedTable LockProgram

def notDead (name : List UInt8) (ctxId : Nat) (ci : ConnectionInfo) : Bool :=
  ci.ctxId = ctxId && !ci.deadFired && onlineIdToString ci.onlineId = name

theorem notDead_iff {name : List UInt8} {ctxId : Nat} {ci : ConnectionInfo} :
    notDead name ctxId ci = true ↔
      ci.ctxId = ctxId ∧ ci.deadFired = false ∧ onlineIdToString ci.onlineId = name := by
  simp [notDead, and_assoc]

/-- The connections of a context to the peer of this name, without those that are dead. -/
def connectionsTo (name : List UInt8) (ctxId : Nat) (s : NpSignalingState) : List ConnectionInfo :=
  s.connections.filter (notDead name ctxId)

def OneToPeer (name : List UInt8) (s : NpSignalingState) : Prop :=
  ∀ ctxId, (connectionsTo name ctxId s).length ≤ 1

/-- The request is addressed to a context, which has to end up with a connection to its sender. -/
def Serves (packet : SignalingControl) (s s' : NpSignalingState) : Prop :=
  ∀ ctx, addressedContext (packetOnlineIdToString packet.onlineIdTo) s = some ctx →
    ∃ ci ∈ connectionsTo (packetOnlineIdToString packet.onlineIdFrom) ctx.ctxId s',
      ci.peerActivated = true

section Origins

variable {R : PeerTransport → PeerTransport → Prop} {made : List ConnectionInfo}
  {s s' : NpSignalingState} {name : List UInt8}

/-- Every connection was there before or has been made on the way. -/
theorem Evolves.origin (evolves : Evolves R made s s') {ci' : ConnectionInfo}
    (member : ci' ∈ s'.connections) :
    (∃ ci ∈ s.connections, ci'.connId = ci.connId ∧ SameConnection ci ci') ∨
      ∃ ci ∈ made, ci'.connId = ci.connId ∧ SameConnection ci ci' := by
  induction evolves generalizing ci' with
  | refl s => exact Or.inl ⟨ci', member, rfl, SameConnection.refl ci'⟩
  | kept _ kept ih =>
    obtain ⟨ci₁, member₁, sameId₁, same₁⟩ := kept.connections.mem_new member
    rcases ih member₁ with ⟨ci, old, sameId, same⟩ | ⟨ci, new, sameId, same⟩
    · exact Or.inl ⟨ci, old, sameId₁.trans sameId, same.trans same₁⟩
    · exact Or.inr ⟨ci, new, sameId₁.trans sameId, same.trans same₁⟩
  | removed connId _ ih =>
    rw [removeConnection_connections] at member
    exact ih (mem_remove.mp member).1
  | created _ created ih =>
    obtain ⟨t, seed, -, -, -, -, -, -, rfl⟩ := created
    exact ih member
  | inserted ci connId free serial owner handle _ ih =>
    rcases mem_store.mp member with ⟨old, -⟩ | rfl
    · rcases ih old with there | ⟨other, new, sameId, same⟩
      · exact Or.inl there
      · exact Or.inr ⟨other, List.mem_append_left _ new, sameId, same⟩
    · exact Or.inr ⟨ci', by simp, rfl, SameConnection.refl ci'⟩
  | indexed ci _ _ _ ih => exact ih member

def UniqueTo (name : List UInt8) (s : NpSignalingState) : Prop :=
  ∀ ctxId, ∀ a ∈ s.connections, ∀ b ∈ s.connections, notDead name ctxId a = true →
    notDead name ctxId b = true → a.connId = b.connId

theorem OneToPeer.of_unique (coherent : Coherent s) (unique : UniqueTo name s) :
    OneToPeer name s :=
  fun ctxId => coherent.connections.filter_le_one (unique ctxId)

theorem SameConnection.notDead {ci ci' : ConnectionInfo} (same : SameConnection ci ci')
    {ctxId : Nat} (alive : notDead name ctxId ci' = true) : NpSignaling.notDead name ctxId ci := by
  obtain ⟨owner, notFired, named⟩ := notDead_iff.mp alive
  refine notDead_iff.mpr ⟨same.ctxId.symm.trans owner, ?_, by rw [← same.onlineId, named]⟩
  by_contra fired
  have dead := same.dead (by simpa using fired)
  rw [notFired] at dead
  cases dead

theorem UniqueTo.subset (unique : UniqueTo name s)
    (subset : ∀ ci ∈ s'.connections, ci ∈ s.connections) : UniqueTo name s' :=
  fun ctxId a ha b hb => unique ctxId a (subset a ha) b (subset b hb)

theorem UniqueTo.evolves (unique : UniqueTo name s) (evolves : Evolves R [] s s') :
    UniqueTo name s' := by
  intro ctxId a' ha' b' hb' aliveA aliveB
  rcases evolves.origin ha' with ⟨a, ha, idA, sameA⟩ | ⟨_, none, -⟩
  · rcases evolves.origin hb' with ⟨b, hb, idB, sameB⟩ | ⟨_, none, -⟩
    · rw [idA, idB]
      exact unique ctxId a ha b hb (sameA.notDead aliveA) (sameB.notDead aliveB)
    · cases none
  · cases none

/-- A connection may be made where its context has none to the peer yet. -/
theorem UniqueTo.evolves_made {new : ConnectionInfo} (unique : UniqueTo name s)
    (evolves : Evolves R [new] s s')
    (first : onlineIdToString new.npid.handle = name → connectionsTo name new.ctxId s = [])
    (handle : new.onlineId = new.npid.handle) : UniqueTo name s' := by
  have clash : ∀ ctxId a a' b', a ∈ s.connections → SameConnection a a' → SameConnection new b' →
      notDead name ctxId a' = true → notDead name ctxId b' = true → False := by
    intro ctxId a a' b' ha sameA sameB aliveA aliveB
    obtain ⟨owner, -, named⟩ := notDead_iff.mp (sameB.notDead aliveB)
    have none : connectionsTo name new.ctxId s = [] := first (by rw [← handle, named])
    have there : a ∈ connectionsTo name new.ctxId s :=
      List.mem_filter.mpr ⟨ha, owner ▸ sameA.notDead aliveA⟩
    rw [none] at there
    cases there
  intro ctxId a' ha' b' hb' aliveA aliveB
  rcases evolves.origin ha' with ⟨a, ha, idA, sameA⟩ | ⟨a, ha, idA, sameA⟩
  · rcases evolves.origin hb' with ⟨b, hb, idB, sameB⟩ | ⟨b, hb, idB, sameB⟩
    · rw [idA, idB]
      exact unique ctxId a ha b hb (sameA.notDead aliveA) (sameB.notDead aliveB)
    · obtain rfl := List.mem_singleton.mp hb
      exact (clash ctxId a a' b' ha sameA sameB aliveA aliveB).elim
  · obtain rfl := List.mem_singleton.mp ha
    rcases evolves.origin hb' with ⟨b, hb, idB, sameB⟩ | ⟨b, hb, idB, sameB⟩
    · exact (clash ctxId b b' a' hb sameB sameA aliveB aliveA).elim
    · obtain rfl := List.mem_singleton.mp hb
      rw [idA, idB]

end Origins

/-! ## The two keys -/

def FreeConnectionId (s : NpSignalingState) : Prop :=
  ∃ connId ∈ List.range' 1 0x7fff, s.connection? connId = none

def FreeTransportId (s : NpSignalingState) : Prop :=
  ∃ transportId ∈ List.range' 1 0x7fff, s.transport? transportId = none

/-- The index by full id gives every connection of the context to the peer. -/
def IndexAgrees (name : List UInt8) (ctxId : Nat) (peerNpid : OrbisNpId) (now : Int)
    (s : NpSignalingState) : Prop :=
  onlineIdToString peerNpid.handle = name → activationAllowed ctxId peerNpid now s →
    ∀ ci ∈ connectionsTo name ctxId s,
      ∃ entry ∈ s.indexed? ⟨ctxId, peerNpid⟩, entry.connId = ci.connId

/-- The search by online id gives a connection of the context; or the context has none, and then
the search gives none of another context either, and one can be made. -/
def SearchAgrees (name : List UInt8) (ctxId : Nat) (s : NpSignalingState) : Prop :=
  (∀ ci ∈ findConnectionByOnlineIdLocked name ctxId s, ci.ctxId = ctxId) ∧
    ((findConnectionByOnlineIdLocked name ctxId s).isNone →
      connectionsTo name ctxId s = [] ∧ FreeConnectionId s)

/-- The context the request is addressed to is the one that serves it; the sender has a transport
or can get one. -/
def RequestAgrees (name : List UInt8) (packet : SignalingControl) (s : NpSignalingState) : Prop :=
  packet.kind = .activationRequest → packetOnlineIdToString packet.onlineIdFrom = name →
    ∀ ctx ∈ addressedContext (packetOnlineIdToString packet.onlineIdTo) s,
      SearchAgrees name ctx.ctxId s ∧
        ((findTransportByOnlineIdLocked name s).isNone → FreeTransportId s)

/-- Where the two keys show the creating sections the same connection to the peer. -/
def KeysAgree (name : List UInt8) : LockSection → NpSignalingState → Prop
  | .activateSig1 ctxId peerNpid now, s => IndexAgrees name ctxId peerNpid now s
  | .activateConnectionA ctxId, s => name = [] → connectionsTo name ctxId s = []
  | .handleControlPacket packet, s => RequestAgrees name packet s
  | _, _ => True

section Decidable

variable (name : List UInt8) (s : NpSignalingState)

instance : Decidable (FreeConnectionId s) :=
  inferInstanceAs (Decidable (∃ connId ∈ List.range' 1 0x7fff, s.connection? connId = none))

instance : Decidable (FreeTransportId s) :=
  inferInstanceAs (Decidable (∃ transportId ∈ List.range' 1 0x7fff, s.transport? transportId = none))

instance (ctxId : Nat) (peerNpid : OrbisNpId) (now : Int) :
    Decidable (activationAllowed ctxId peerNpid now s) :=
  inferInstanceAs (Decidable (_ ∧ ∃ ctx ∈ s.context? ctxId, _ ∧ _ ∧ _))

instance (ctxId : Nat) (peerNpid : OrbisNpId) (now : Int) :
    Decidable (IndexAgrees name ctxId peerNpid now s) :=
  inferInstanceAs (Decidable (_ → _ → ∀ ci ∈ connectionsTo name ctxId s,
    ∃ entry ∈ s.indexed? ⟨ctxId, peerNpid⟩, _))

instance (ctxId : Nat) : Decidable (SearchAgrees name ctxId s) :=
  inferInstanceAs (Decidable ((∀ ci ∈ findConnectionByOnlineIdLocked name ctxId s, _) ∧ (_ → _ ∧ _)))

instance (packet : SignalingControl) : Decidable (RequestAgrees name packet s) :=
  inferInstanceAs (Decidable (_ → _ →
    ∀ ctx ∈ addressedContext (packetOnlineIdToString packet.onlineIdTo) s, _ ∧ (_ → _)))

instance KeysAgree.decidable : ∀ label : LockSection, Decidable (KeysAgree name label s)
  | .activateSig1 ctxId peerNpid now =>
    inferInstanceAs (Decidable (IndexAgrees name ctxId peerNpid now s))
  | .activateConnectionA ctxId =>
    inferInstanceAs (Decidable (name = [] → connectionsTo name ctxId s = []))
  | .handleControlPacket packet => inferInstanceAs (Decidable (RequestAgrees name packet s))
  | .startTransportHandshakeInitiator _ | .establishConnection _ | .createContext | .joinDispatch
  | .reset | .other => isTrue trivial

end Decidable

section Sections

variable {licence : Licence} {label : LockSection}
  {update : NpSignalingState → NpSignalingState} {s s' : NpSignalingState} {name : List UInt8}

/-- When nothing is reused, what the index gave is gone. -/
theorem reuseConnection_none (coherent : Coherent s) (key : CtxNpIdKey)
    (none : (reuseConnectionLocked key s).1 = none) :
    ∀ ci ∈ (reuseConnectionLocked key s).2.connections, ci ∈ s.connections ∧
      ∀ entry, s.indexed? key = some entry → entry.connId ≠ ci.connId := by
  intro ci member
  unfold reuseConnectionLocked at none member
  cases indexed : s.indexed? key with
  | none =>
    simp only [indexed] at member
    exact ⟨member, by simp⟩
  | some entry =>
    obtain ⟨he, rfl⟩ := lookup_some indexed
    obtain ⟨owned, hci, sameConn, -⟩ := coherent.indexed entry he
    have found : s.connection? entry.connId = some owned := by
      rw [← sameConn]
      exact coherent.connection_of_mem hci
    simp only [indexed, found] at none member
    by_cases inactive : owned.status = .inactive
    · simp only [inactive, if_true] at member
      rw [removeConnection_connections] at member
      obtain ⟨old, other⟩ := mem_remove.mp member
      refine ⟨old, ?_⟩
      rintro e ⟨⟩
      exact other.symm
    · simp only [inactive, if_false] at none
      cases none

theorem Evolves.made_handle {R : PeerTransport → PeerTransport → Prop}
    {made : List ConnectionInfo} (evolves : Evolves R made s s') :
    ∀ ci ∈ made, ci.onlineId = ci.npid.handle := by
  induction evolves with
  | refl _ => simp
  | kept _ _ ih => exact ih
  | removed _ _ ih => exact ih
  | created _ _ ih => exact ih
  | inserted ci _ _ _ _ handle _ ih =>
    intro other member
    rcases List.mem_append.mp member with old | new
    · exact ih other old
    · rw [List.mem_singleton.mp new]
      exact handle
  | indexed _ _ _ _ ih => exact ih

theorem activateSig1_unique (coherent : Coherent s) (unique : UniqueTo name s) (ctxId : Nat)
    (peerNpid : OrbisNpId) (random : UInt32) (now : Int)
    (agree : KeysAgree name (.activateSig1 ctxId peerNpid now) s) :
    UniqueTo name (activateSig1Locked ctxId peerNpid peerNpid.handle random now s).2 := by
  rcases activateSig1_cases coherent ctxId peerNpid random now with
    evolves | ⟨new, owner, npid, allowed, none, makes⟩
  · exact unique.evolves evolves
  · have charged : Kept Steady s (chargeContext ctxId now s) := kept_chargeContext ctxId now
    have left := reuseConnection_none (coherent.of_kept charged) ⟨ctxId, peerNpid⟩ none
    have unique₂ := unique.subset (fun ci member => (left ci member).1)
    refine unique₂.evolves_made makes.evolves ?_ (makes.evolves.made_handle new (by simp))
    intro named
    refine List.filter_eq_nil_iff.mpr (fun ci member alive => ?_)
    have there : ci ∈ connectionsTo name ctxId s :=
      List.mem_filter.mpr ⟨(left ci member).1, owner ▸ alive⟩
    obtain ⟨entry, indexed, same⟩ := agree (by rw [← npid, named]) allowed ci there
    exact (left ci member).2 entry indexed same

theorem handleControl_unique (coherent : Coherent s) (unique : UniqueTo name s)
    (fromAddr : UInt32) (fromPort : UInt16) (packet : SignalingControl) (random : UInt32)
    (agree : KeysAgree name (.handleControlPacket packet) s) :
    UniqueTo name (handleControlLocked fromAddr fromPort packet random s).2 := by
  unfold handleControlLocked
  by_cases request : packet.kind = .activationRequest
  · rw [if_pos request]
    rcases activationRequest_cases coherent fromAddr fromPort packet random with
      evolves | ⟨ctx, new, addressed, owner, npid, unseen, makes⟩
    · exact unique.evolves evolves
    · refine unique.evolves_made makes.evolves ?_ (makes.evolves.made_handle new (by simp))
      intro named
      have sender : packetOnlineIdToString packet.onlineIdFrom = name := by
        rw [← named, npid, npIdFromOnlineId_handle, onlineIdToString_setNpOnlineId]
      obtain ⟨⟨-, first⟩, -⟩ := agree request sender ctx addressed
      rw [owner]
      exact (first (by rw [← sender, unseen]; rfl)).1
  · rw [if_neg request]
    split
    · exact unique
    · exact unique.evolves (Evolves.of_kept (kept_controlOnTransport packet _))

theorem section_unique (member : Section licence label update) (coherent : Coherent s)
    (unique : UniqueTo name s) (agree : KeysAgree name label s) : UniqueTo name (update s) := by
  cases member with
  | evolves evolves _ => exact unique.evolves (evolves s coherent)
  | closes _ kept _ => exact unique.evolves (Evolves.of_kept (kept s))
  | startTransportHandshakeInitiator transportId now =>
    exact unique.evolves (Evolves.of_kept (kept_start_stirs transportId now))
  | establishConnection transportId hint now =>
    exact unique.evolves (Evolves.of_kept (kept_establish composable_anyChange transportId hint now
      (fun _ _ _ => trivial)))
  | activateSig1 ctxId peerNpid random now =>
    exact activateSig1_unique coherent unique ctxId peerNpid random now agree
  | activateConnectionA ctxId accountId platformType random now =>
    rcases activationStub_cases ctxId accountId platformType random now with
      evolves | ⟨new, owner, npid, inserts⟩
    · exact unique.evolves evolves
    · refine unique.evolves_made inserts.evolves ?_ (inserts.evolves.made_handle new (by simp))
      intro named
      rw [owner]
      apply agree
      rw [← named, npid]
      decide
  | handleControlPacket fromAddr fromPort packet random _ =>
    exact handleControl_unique coherent unique fromAddr fromPort packet random agree
  | reply transportId packet now _ =>
    exact unique.evolves (Evolves.of_kept (kept_sendHandshake transportId packet now))
  | structural member => exact unique.subset (structural_subset member).2

/-! ### The context that is addressed -/

theorem connectionMatches_notDead {ci : ConnectionInfo}
    (h : connectionMatchesOnlineId ci name = true) : notDead name ci.ctxId ci = true := by
  simp only [connectionMatchesOnlineId, Bool.and_eq_true, Bool.not_eq_true',
    decide_eq_true_eq] at h
  exact notDead_iff.mpr ⟨rfl, h.1.1, h.2⟩

/-- Synchronizing the connections of a transport changes their status alone. -/
theorem sync_connection (transportId : Nat) {ci : ConnectionInfo} (member : ci ∈ s.connections) :
    ∃ status, { ci with status } ∈
      (syncSig1ConnectionsForTransportLocked transportId s).connections := by
  unfold syncSig1ConnectionsForTransportLocked
  cases s.transport? transportId with
  | none => exact ⟨ci.status, member⟩
  | some transport =>
    by_cases same : ci.transportId = transportId
    · exact ⟨transport.status, List.mem_map.mpr ⟨ci, member, if_pos same⟩⟩
    · exact ⟨ci.status, List.mem_map.mpr ⟨ci, member, if_neg same⟩⟩

theorem marked_serves {ctxId connId transportId : Nat} {ci : ConnectionInfo}
    (member : ci ∈ s.connections) (sameId : ci.connId = connId)
    (alive : notDead name ctxId ci = true) :
    ∃ ci' ∈ connectionsTo name ctxId (syncSig1ConnectionsForTransportLocked transportId
      (s.adjustConnection connId (fun ci => { ci with peerActivated := true, transportId }))),
      ci'.peerActivated = true := by
  have marked : { ci with peerActivated := true, transportId } ∈
      (s.adjustConnection connId
        (fun ci => { ci with peerActivated := true, transportId })).connections :=
    mem_adjust_self member sameId
  obtain ⟨status, synced⟩ := sync_connection transportId marked
  exact ⟨_, List.mem_filter.mpr ⟨synced, alive⟩, rfl⟩

theorem requestTransport_some (fromAddr : UInt32) (fromPort : UInt16) (packet : SignalingControl)
    (available : (findTransportByOnlineIdLocked (packetOnlineIdToString packet.onlineIdFrom)
      s).isNone → FreeTransportId s) : (requestTransportLocked fromAddr fromPort packet s).1 ≠ none := by
  unfold requestTransportLocked
  cases found : findTransportByOnlineIdLocked (packetOnlineIdToString packet.onlineIdFrom) s with
  | some t => simp
  | none =>
    obtain ⟨free, inRange, untaken⟩ := available (by simp [found])
    have bounds := List.mem_range'_1.mp inRange
    have allocated := allocateTransportIdLocked_some (by omega) (by omega) untaken
    simp only [ensureTransportLocked, onlineIdToString_setNpOnlineId, found,
      createTransportLocked]
    cases result : allocateTransportIdLocked s with
    | mk transportId s₁ =>
      rw [result] at allocated
      cases transportId with
      | none => exact absurd rfl allocated
      | some transportId => simp

theorem requestedTransport_id (fromAddr : UInt32) (fromPort : UInt16) (packet : SignalingControl)
    (t : PeerTransport) :
    (requestedTransport fromAddr fromPort packet t).transportId = t.transportId := by
  simp only [requestedTransport]
  split <;> rfl

theorem requestedTransport_found (coherent : Coherent s) (fromAddr : UInt32) (fromPort : UInt16)
    (packet : SignalingControl) {t : PeerTransport} (member : t ∈ s.peerTransports) :
    (s.adjustTransport t.transportId (requestedTransport fromAddr fromPort packet)).transport?
      t.transportId = some (requestedTransport fromAddr fromPort packet t) := by
  let s' := s.adjustTransport t.transportId (requestedTransport fromAddr fromPort packet)
  have moved : requestedTransport fromAddr fromPort packet t ∈ s'.peerTransports :=
    mem_adjust_self member rfl
  have distinct : Distinct PeerTransport.transportId s'.peerTransports :=
    coherent.peerTransports.adjust (requestedTransport_id fromAddr fromPort packet)
  have found := distinct.lookup_of_mem moved
  rw [requestedTransport_id] at found
  exact found

/-- The connection the request marks is one of the addressed context. -/
theorem requestConnection_marks {ctx : NpSignalingContext} (transport : PeerTransport)
    (packet : SignalingControl) (random : UInt32)
    (agree : SearchAgrees (packetOnlineIdToString packet.onlineIdFrom) ctx.ctxId s) :
    ∃ connId s', requestConnectionLocked (some ctx) transport packet random s =
        (some (some connId), s') ∧
      ∃ ci ∈ s'.connections, ci.connId = connId ∧
        notDead (packetOnlineIdToString packet.onlineIdFrom) ctx.ctxId ci = true := by
  obtain ⟨own, first⟩ := agree
  simp only [requestConnectionLocked]
  cases found : findConnectionByOnlineIdLocked (packetOnlineIdToString packet.onlineIdFrom)
      ctx.ctxId s with
  | some ci =>
    obtain ⟨member, matched⟩ := findConnection_some found
    have owner : ci.ctxId = ctx.ctxId := own ci found
    exact ⟨ci.connId, s, rfl, ci, member, rfl, owner ▸ connectionMatches_notDead matched⟩
  | none =>
    obtain ⟨-, free, inRange, untaken⟩ := first (by simp [found])
    have bounds := List.mem_range'_1.mp inRange
    have some' := allocateConnectionIdLocked_some random (by omega) (by omega) untaken
    cases allocated : allocateConnectionIdLocked random s with
    | mk connId s₁ =>
      rw [allocated] at some'
      cases connId with
      | none => exact absurd rfl some'
      | some connId =>
        refine ⟨connId, _, rfl, _, mem_store.mpr (Or.inr rfl), rfl, notDead_iff.mpr ⟨rfl, rfl, ?_⟩⟩
        exact onlineIdToString_setNpOnlineId _

theorem activationRequest_serves (coherent : Coherent s) (fromAddr : UInt32) (fromPort : UInt16)
    (packet : SignalingControl) (random : UInt32) (request : packet.kind = .activationRequest)
    (agree : RequestAgrees (packetOnlineIdToString packet.onlineIdFrom) packet s) :
    Serves packet s (activationRequestLocked fromAddr fromPort packet random s).2 := by
  intro ctx addressed
  obtain ⟨search, available⟩ := agree request rfl ctx addressed
  have requested := requestTransport_evolves coherent fromAddr fromPort packet
  have some' := requestTransport_some fromAddr fromPort packet available
  simp only [activationRequestLocked, addressed]
  cases result : requestTransportLocked fromAddr fromPort packet s with
  | mk transportId s₁ =>
    rw [result] at requested some'
    obtain ⟨evolves₁, connections₁, alive⟩ := requested
    cases transportId with
    | none => exact absurd rfl some'
    | some transportId =>
      obtain ⟨t, member, rfl, -, -⟩ := alive transportId rfl
      let s₂ := s₁.adjustTransport t.transportId (requestedTransport fromAddr fromPort packet)
      have connections₂ : s₂.connections = s.connections := connections₁
      have found : s₂.transport? t.transportId =
          some (requestedTransport fromAddr fromPort packet t) :=
        requestedTransport_found (evolves₁.coherent coherent) fromAddr fromPort packet member
      have search₂ : SearchAgrees (packetOnlineIdToString packet.onlineIdFrom) ctx.ctxId s₂ := by
        simpa only [SearchAgrees, findConnectionByOnlineIdLocked, connectionsTo,
          FreeConnectionId, NpSignalingState.connection?, connections₂] using search
      obtain ⟨connId, s₃, marks, ci, member₃, sameConn, alive₃⟩ :=
        requestConnection_marks (requestedTransport fromAddr fromPort packet t) packet random
          search₂
      dsimp only
      rw [found]
      dsimp only
      rw [marks]
      exact marked_serves member₃ sameConn alive₃

theorem section_serves {packet : SignalingControl}
    (member : Section licence (.handleControlPacket packet) update) (coherent : Coherent s)
    (request : packet.kind = .activationRequest)
    (agree : RequestAgrees (packetOnlineIdToString packet.onlineIdFrom) packet s) :
    Serves packet s (update s) := by
  cases member with
  | handleControlPacket fromAddr fromPort packet random _ =>
    simp only [handleControlLocked, if_pos request]
    exact activationRequest_serves coherent fromAddr fromPort packet random request agree
  | structural member => cases member

end Sections

/-- What an activation request from the peer of this name leaves behind when it is handled. -/
def ServesRequest (name : List UInt8) (action : RuntimeAction)
    (pool pool' : Pool NpSignalingState LockSection) : Prop :=
  ∀ packet, pool.label action = some (.handleControlPacket packet) →
    packet.kind = .activationRequest → packetOnlineIdToString packet.onlineIdFrom = name →
    Serves packet pool.state pool'.state

/-- In every interleaving of sections for which the keys agree about a peer, no context has two
connections to it that are not dead, and the context a request is addressed to serves it. -/
theorem one_connection_to_peer (name : List UInt8) (actions : List RuntimeAction)
    (agree : Runs.Admitted (Pool.step Op.program) (Pool.Permitted (KeysAgree name)) actions
      runtimeStart) :
    Runs.Throughout (Pool.step Op.program) (fun pool => OneToPeer name pool.state)
      (ServesRequest name) actions runtimeStart := by
  let Inv (pool : Pool NpSignalingState LockSection) : Prop :=
    Pool.ThreadsUse (Section anyLicence) pool ∧ Coherent pool.state ∧ UniqueTo name pool.state
  have start : Inv runtimeStart :=
    ⟨by simp [Pool.ThreadsUse], coherent_start, by simp [UniqueTo]⟩
  refine Runs.throughout_of_admitted ?_ ?_ start agree
  · rintro pool ⟨_, coherent, unique⟩
    exact OneToPeer.of_unique coherent unique
  · rintro action pool ⟨threads, coherent, unique⟩ permitted
    obtain ⟨threads', ⟨idle, same⟩ | ⟨label, update, member, taken, state⟩⟩ :=
      Pool.step_cases op_uses_any threads action
    · refine ⟨⟨threads', same ▸ coherent, same ▸ unique⟩, ?_⟩
      intro packet taken
      rw [idle] at taken
      cases taken
    · have coherent' := section_coherent member coherent
      have unique' := section_unique member coherent unique (permitted label taken)
      refine ⟨⟨threads', state ▸ coherent', state ▸ unique'⟩, ?_⟩
      rintro packet taken' request rfl
      obtain rfl := Option.some.inj (taken.symm.trans taken')
      rw [state]
      exact section_serves member coherent request (permitted _ taken)

/-- `bob` asks for what `ali` has activated already. -/
def requestedRun : List RuntimeAction :=
  Action.serial 8
    [.signalingInitialize true true,
      .createContext ali true (some 1) 0 0 10,
      .activateSig1 1 bob 0 20,
      .controlPacket 5 6
        { kind := .activationRequest
          onlineIdFrom := bob.handle.data
          onlineIdTo := ali.handle.data
          fromConnId := 1 } 0 30]

theorem one_connection_to_bob :
    Runs.Throughout (Pool.step Op.program)
      (fun pool => OneToPeer (onlineIdToString bob.handle) pool.state)
      (ServesRequest (onlineIdToString bob.handle)) requestedRun runtimeStart :=
  one_connection_to_peer (onlineIdToString bob.handle) requestedRun (by decide +kernel)

/-- The same user under an id whose `opt` bytes differ. -/
def bobWithOpt : OrbisNpId := { bob with opt := Vector.replicate 8 1 }

/-- The index is keyed by the whole id, so the second activation does not see the first. -/
def activatedTwiceRun : List RuntimeAction :=
  Action.serial 8
    [.signalingInitialize true true,
      .createContext ali true (some 1) 0 0 10,
      .activateSig1 1 bob 0 20,
      .activateSig1 1 bobWithOpt 0 21]

theorem activatedTwiceRun_two_connections :
    ¬ Runs.Throughout (Pool.step Op.program)
      (fun pool => OneToPeer (onlineIdToString bob.handle) pool.state)
      (ServesRequest (onlineIdToString bob.handle)) activatedTwiceRun runtimeStart := by
  intro holds
  rw [← List.append_nil activatedTwiceRun] at holds
  have one := holds.last 1
  have two : (connectionsTo (onlineIdToString bob.handle) 1
      (Runs.run (Pool.step Op.program) activatedTwiceRun runtimeStart).state).length = 2 := by
    decide +kernel
  omega

end NpSignaling
