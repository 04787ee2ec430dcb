import ShadNet.Signaling.Sections

/-!
# What the runtime leaves to the libraries

The reference count, the contexts and the matching2 caches belong to the libraries
beside the runtime. Its sections leave them alone, but for the peer entries that
follow the transports; so an invariant of the libraries that puts up with those is
kept by every program of the runtime.
-/

namespace NpSignaling

open KeyedTable LockProgram

structure Ledger where
  contextRefs : Nat
  runtimeRunning : Bool
  contexts : List Nat
  contextObjects : List ContextObject
  caches : List Matching2ContextCache

def NpSignalingState.ledger (s : NpSignalingState) : Ledger :=
  { contextRefs := s.contextRefs
    runtimeRunning := s.runtimeRunning
    contexts := s.contexts.map (·.ctxId)
    contextObjects := s.contextObjects
    caches := s.caches }

section Ledger

variable (s : NpSignalingState)

@[simp] theorem ledger_adjustTransport (transportId : Nat) (f : PeerTransport → PeerTransport) :
    (s.adjustTransport transportId f).ledger = s.ledger := rfl

@[simp] theorem ledger_adjustConnection (connId : Nat) (f : ConnectionInfo → ConnectionInfo) :
    (s.adjustConnection connId f).ledger = s.ledger := rfl

@[simp] theorem ledger_send (datagram : Datagram) : (s.send datagram).ledger = s.ledger := rfl

@[simp] theorem ledger_syncSig1Connections (transportId : Nat) :
    (syncSig1ConnectionsForTransportLocked transportId s).ledger = s.ledger := by
  unfold syncSig1ConnectionsForTransportLocked
  split <;> rfl

@[simp] theorem ledger_allocateTransportId :
    (allocateTransportIdLocked s).2.ledger = s.ledger := rfl

@[simp] theorem ledger_allocateConnectionId (random : UInt32) :
    (allocateConnectionIdLocked random s).2.ledger = s.ledger := rfl

@[simp] theorem ledger_createTransport (localOnlineId peerOnlineId : OrbisNpOnlineId)
    (peerNpid : OrbisNpId) (addr : UInt32) (port : UInt16) :
    (createTransportLocked localOnlineId peerOnlineId peerNpid addr port s).2.ledger =
      s.ledger := by
  have allocated := ledger_allocateTransportId s
  unfold createTransportLocked
  cases found : allocateTransportIdLocked s with
  | mk transportId s₁ =>
    rw [found] at allocated
    cases transportId <;> exact allocated

@[simp] theorem ledger_ensureTransport (localOnlineId peerOnlineId : OrbisNpOnlineId)
    (peerNpid : OrbisNpId) (addr : UInt32) (port : UInt16) :
    (ensureTransportLocked localOnlineId peerOnlineId peerNpid addr port s).2.ledger =
      s.ledger := by
  unfold ensureTransportLocked
  split
  · exact ledger_createTransport s localOnlineId peerOnlineId peerNpid addr port
  · rfl

@[simp] theorem ledger_sendHandshake (transportId : Nat) (packet : SignalingHandshake)
    (now : Int) : (sendHandshakeLocked transportId packet now s).ledger = s.ledger := by
  unfold sendHandshakeLocked
  split
  · rfl
  · split
    · rfl
    · simp

@[simp] theorem ledger_sendActivate (ci : ConnectionInfo) :
    (sendActivate ci s).ledger = s.ledger := by
  unfold sendActivate
  split
  · rfl
  · split <;> rfl

@[simp] theorem ledger_sendControlClose (ci : ConnectionInfo) (reason : ControlReason) :
    (sendControlCloseLocked ci reason s).ledger = s.ledger := by
  unfold sendControlCloseLocked
  split
  · rfl
  · split <;> rfl

@[simp] theorem ledger_startTransportHandshakeInitiator (transportId : Nat) (now : Int) :
    (startTransportHandshakeInitiatorLocked transportId now s).ledger = s.ledger := by
  unfold startTransportHandshakeInitiatorLocked
  split
  · rfl
  · split <;> simp

@[simp] theorem ledger_closeConnection (connId : Nat) :
    (closeConnectionLocked connId s).2.ledger = s.ledger := by
  unfold closeConnectionLocked
  split
  · rfl
  · split <;> rfl

@[simp] theorem ledger_closeTransport (transportId : Nat) :
    (closeTransportLocked transportId s).2.ledger = s.ledger := by
  unfold closeTransportLocked
  split
  · rfl
  · split <;> rfl

@[simp] theorem ledger_removeConnection (connId : Nat) :
    (removeConnectionLocked connId s).ledger = s.ledger := by
  unfold removeConnectionLocked
  split <;> rfl

@[simp] theorem ledger_removeConnections (connIds : List Nat) :
    (connIds.foldl (fun s connId => removeConnectionLocked connId s) s).ledger = s.ledger := by
  induction connIds generalizing s with
  | nil => rfl
  | cons connId rest ih => rw [List.foldl_cons, ih, ledger_removeConnection]

@[simp] theorem ledger_eraseTransport (transportId : Nat) (sig1Conns : List Nat) :
    (eraseTransportLocked transportId sig1Conns s).ledger = s.ledger := by
  unfold eraseTransportLocked
  exact ledger_removeConnections s sig1Conns

@[simp] theorem ledger_dispatchConnectionEvent (connId : Nat) (eventType : SignalingEvent)
    (errorCode : Option SignalingError) :
    (dispatchConnectionEvent connId eventType errorCode s).ledger = s.ledger := by
  rw [dispatchConnectionEvent_eq]
  rfl

@[simp] theorem ledger_dispatchPeerActivated (connId : Nat) :
    (dispatchPeerActivatedEvent connId s).ledger = s.ledger := by
  rw [dispatchPeerActivatedEvent_eq]
  rfl

@[simp] theorem ledger_establishConnection (transportId : Nat) (peerActivatedHint : Bool)
    (now : Int) :
    (establishConnectionLocked transportId peerActivatedHint now s).2.ledger = s.ledger := by
  unfold establishConnectionLocked
  split <;> rfl

@[simp] theorem ledger_activationResolved (connId : Nat) (addr : UInt32) (port : UInt16) :
    (activationResolvedLocked connId addr port s).2.ledger = s.ledger := by
  unfold activationResolvedLocked
  split
  · rfl
  · split <;> simp

@[simp] theorem ledger_handleHandshake (fromAddr : UInt32) (fromPort : UInt16)
    (packet : SignalingHandshake) (now : Int) :
    (handleHandshakeLocked fromAddr fromPort packet now s).2.ledger = s.ledger := by
  unfold handleHandshakeLocked
  split <;> simp

@[simp] theorem ledger_requestTransport (fromAddr : UInt32) (fromPort : UInt16)
    (packet : SignalingControl) :
    (requestTransportLocked fromAddr fromPort packet s).2.ledger = s.ledger := by
  unfold requestTransportLocked
  split
  · rfl
  · simp

@[simp] theorem ledger_requestConnection (ctx : Option NpSignalingContext)
    (transport : PeerTransport) (packet : SignalingControl) (random : UInt32) :
    (requestConnectionLocked ctx transport packet random s).2.ledger = s.ledger := by
  have allocated := ledger_allocateConnectionId s random
  unfold requestConnectionLocked
  split
  · rfl
  · split
    · rfl
    · cases found : allocateConnectionIdLocked random s with
      | mk connId s₁ =>
        rw [found] at allocated
        cases connId <;> exact allocated

@[simp] theorem ledger_activationRequest (fromAddr : UInt32) (fromPort : UInt16)
    (packet : SignalingControl) (random : UInt32) :
    (activationRequestLocked fromAddr fromPort packet random s).2.ledger = s.ledger := by
  have made := ledger_requestTransport s fromAddr fromPort packet
  unfold activationRequestLocked
  extract_lets ctx
  cases found : requestTransportLocked fromAddr fromPort packet s with
  | mk transportId s₁ =>
    rw [found] at made
    cases transportId with
    | none => exact made
    | some transportId =>
      dsimp only
      split
      · exact made
      · rename_i transport _
        have requested := ledger_requestConnection
          (s₁.adjustTransport transportId (requestedTransport fromAddr fromPort packet)) ctx
          transport packet random
        cases result : requestConnectionLocked ctx transport packet random
            (s₁.adjustTransport transportId (requestedTransport fromAddr fromPort packet)) with
        | mk marked s₂ =>
          rw [result] at requested
          have same := requested.trans made
          cases marked with
          | none => exact same
          | some marked =>
            simp only [ledger_syncSig1Connections]
            cases marked <;> exact same

@[simp] theorem ledger_reuseConnection (lookupKey : CtxNpIdKey) :
    (reuseConnectionLocked lookupKey s).2.ledger = s.ledger := by
  unfold reuseConnectionLocked
  split
  · rfl
  · split
    · rfl
    · split <;> simp

@[simp] theorem ledger_createLocalConnection (ctxId : Nat) (peerNpid : OrbisNpId)
    (peerOnlineId : OrbisNpOnlineId) (transport : PeerTransport) (random : UInt32) :
    (createLocalConnectionLocked ctxId peerNpid peerOnlineId transport random s).2.ledger =
      s.ledger := by
  have allocated := ledger_allocateConnectionId s random
  unfold createLocalConnectionLocked
  cases found : allocateConnectionIdLocked random s with
  | mk connId s₁ =>
    rw [found] at allocated
    cases connId <;> exact allocated

@[simp] theorem ledger_reactivateConnection (ci : ConnectionInfo) (ctxId : Nat)
    (peerNpid : OrbisNpId) (peerOnlineId : OrbisNpOnlineId) (transport : PeerTransport) :
    (reactivateConnectionLocked ci ctxId peerNpid peerOnlineId transport s).ledger = s.ledger := by
  unfold reactivateConnectionLocked
  dsimp only
  split <;> rfl

/-- A context is charged in its place. -/
@[simp] theorem ledger_chargeContext (ctxId : Nat) (now : Int) :
    (chargeContext ctxId now s).ledger = s.ledger := by
  have charged : Kept Steady s (chargeContext ctxId now s) := kept_chargeContext ctxId now
  have ids := charged.contexts.map_key
  exact congrArg (fun contexts => Ledger.mk s.contextRefs s.runtimeRunning contexts s.contextObjects
    s.caches) ids

@[simp] theorem ledger_activateSig1 (ctxId : Nat) (peerNpid : OrbisNpId)
    (peerOnlineId : OrbisNpOnlineId) (random : UInt32) (now : Int) :
    (activateSig1Locked ctxId peerNpid peerOnlineId random now s).2.ledger = s.ledger := by
  unfold activateSig1Locked
  by_cases off : s.initialized = false
  · rw [if_pos off]
  rw [if_neg off]
  cases s.context? ctxId with
  | none => rfl
  | some ctx =>
    dsimp only
    by_cases idle : ctx.active = false
    · rw [if_pos idle]
    rw [if_neg idle]
    by_cases own : ctx.ownerNpid = peerNpid
    · rw [if_pos own]
    rw [if_neg own]
    have charged := ledger_chargeContext s ctxId now
    by_cases limited : (consumeActivationBudgetGatedLocked now ctx).1 = false
    · rw [if_pos limited]
      exact charged
    rw [if_neg limited]
    have reused := ledger_reuseConnection (chargeContext ctxId now s) ⟨ctxId, peerNpid⟩
    cases reuse : reuseConnectionLocked ⟨ctxId, peerNpid⟩ (chargeContext ctxId now s) with
    | mk existing s₁ =>
      rw [reuse] at reused
      have ensured := ledger_ensureTransport s₁ ctx.ownerOnlineId peerOnlineId peerNpid 0 0
      dsimp only
      cases ensure : ensureTransportLocked ctx.ownerOnlineId peerOnlineId peerNpid 0 0 s₁ with
      | mk transportId s₂ =>
        rw [ensure] at ensured
        have soFar : s₂.ledger = s.ledger := ensured.trans (reused.trans charged)
        cases transportId with
        | none => exact soFar
        | some transportId =>
          dsimp only
          cases s₂.transport? transportId with
          | none => exact soFar
          | some transport =>
            cases existing with
            | some ci => exact (ledger_reactivateConnection s₂ ..).trans soFar
            | none =>
              have made := ledger_createLocalConnection s₂ ctxId peerNpid peerOnlineId transport
                random
              dsimp only
              cases create : createLocalConnectionLocked ctxId peerNpid peerOnlineId transport
                  random s₂ with
              | mk connId s₃ =>
                rw [create] at made
                cases connId <;> exact made.trans soFar

@[simp] theorem ledger_deactivateClose (connId : Nat) :
    (deactivateCloseLocked connId s).ledger = s.ledger := by
  unfold deactivateCloseLocked
  split
  · rfl
  · split
    · rfl
    · split <;> simp

@[simp] theorem ledger_terminateClose (connId : Nat) :
    (terminateCloseLocked connId s).ledger = s.ledger := by
  unfold terminateCloseLocked
  split <;> simp

@[simp] theorem ledger_matching2Transport (onlineId : OrbisNpOnlineId) (member : MemberCache)
    (addr : UInt32) (port : UInt16) :
    (matching2TransportLocked onlineId member addr port s).2.ledger = s.ledger := by
  have ensured := ledger_ensureTransport s onlineId member.npId.handle member.npId addr port
  unfold matching2TransportLocked
  cases found : ensureTransportLocked onlineId member.npId.handle member.npId addr port s with
  | mk transportId s₁ =>
    rw [found] at ensured
    cases transportId <;> exact ensured

@[simp] theorem ledger_activateConnectionAStub (ctxId : Nat) (accountId : UInt64)
    (platformType : UInt32) (random : UInt32) (now : Int) :
    (activateConnectionAStubLocked ctxId accountId platformType random now s).2.ledger =
      s.ledger := by
  unfold activateConnectionAStubLocked
  split
  · rfl
  split
  · rfl
  split
  · rfl
  split
  · rfl
  split
  · rfl
  have charged := ledger_chargeContext s ctxId now
  have allocated := ledger_allocateConnectionId (chargeContext ctxId now s) random
  dsimp only
  split
  · exact charged
  · cases found : allocateConnectionIdLocked random (chargeContext ctxId now s) with
    | mk connId s₁ =>
      rw [found] at allocated
      cases connId <;> exact allocated.trans charged

@[simp] theorem ledger_getPeerNetInfo (ctxId : Nat) (externalIpv4 natRouteKind : UInt32) :
    (getPeerNetInfoLocked ctxId externalIpv4 natRouteKind s).2.ledger = s.ledger := by
  unfold getPeerNetInfoLocked
  split <;> rfl

@[simp] theorem ledger_getPeerNetInfoA (ctxId : Nat) (externalIpv4 natRouteKind : UInt32) :
    (getPeerNetInfoALocked ctxId externalIpv4 natRouteKind s).2.ledger = s.ledger := by
  unfold getPeerNetInfoALocked
  split
  · rfl
  split
  · rfl
  split
  · rfl
  split
  · rfl
  · simp

@[simp] theorem ledger_takePeerNetInfoResult (ctxId : Nat) (reqOrConnId : UInt32) :
    (takePeerNetInfoResultLocked ctxId reqOrConnId s).2.ledger = s.ledger := by
  unfold takePeerNetInfoResultLocked
  split
  · rfl
  · split <;> rfl

@[simp] theorem ledger_ownPeerNetInfo (missing : SignalingError) (ctxId : Nat)
    (reqOrConnId : UInt32) :
    (ownPeerNetInfoLocked missing ctxId reqOrConnId s).2.ledger = s.ledger := by
  have taken := ledger_takePeerNetInfoResult s ctxId reqOrConnId
  unfold ownPeerNetInfoLocked
  split
  · rfl
  split
  · rfl
  cases found : takePeerNetInfoResultLocked ctxId reqOrConnId s with
  | mk result s₁ =>
    rw [found] at taken
    cases result <;> exact taken

@[simp] theorem ledger_takeDispatch : (takeDispatchLocked s).2.ledger = s.ledger := by
  unfold takeDispatchLocked
  split <;> rfl

@[simp] theorem ledger_invokeCallback : (invokeCallback s).ledger = s.ledger := by
  unfold invokeCallback
  split <;> rfl

@[simp] theorem ledger_initialize (heapOk echoOk : Bool) :
    (initializeLocked heapOk echoOk s).ledger = s.ledger := by
  unfold initializeLocked
  split
  · rfl
  split
  · rfl
  split <;> rfl

end Ledger

/-! ## Members of cached rooms -/

namespace NpSignalingState

/-- `LockCache`: a missing cache is an empty one. -/
def cache (ctxId : Nat) (s : NpSignalingState) : Matching2ContextCache :=
  (lookup Matching2ContextCache.ctxId ctxId s.caches).getD { ctxId }

theorem cache_of_lookup {ctxId : Nat} {s : NpSignalingState} {cache : Matching2ContextCache}
    (found : lookup Matching2ContextCache.ctxId ctxId s.caches = some cache) :
    s.cache ctxId = cache := by
  simp only [NpSignalingState.cache, found, Option.getD_some]

end NpSignalingState

def Matching2ContextCache.HasMember (memberId : Nat) (cache : Matching2ContextCache) : Prop :=
  ∃ room ∈ cache.rooms, ∃ member ∈ room.members, member.memberId = memberId

theorem hasMember_of_roomOfMember {cache : Matching2ContextCache} {memberId : Nat}
    {room : RoomCache} (found : roomOfMember cache memberId = some room) :
    cache.HasMember memberId := by
  unfold roomOfMember at found
  have passes := List.find?_some found
  obtain ⟨member, ofRoom, named⟩ := List.any_eq_true.mp passes
  exact ⟨room, List.mem_of_find?_eq_some found, member, ofRoom, by simpa using named⟩

/-- A snapshot is taken of a peer that is a member of a cached room. -/
theorem snapshot_member {s : NpSignalingState} {snapshot : Snapshot}
    (taken : snapshot ∈ snapshotsOf s) :
    (s.cache snapshot.ctx.ctxId).HasMember snapshot.memberId := by
  obtain ⟨ctx, -, among⟩ := List.mem_flatMap.mp taken
  split at among
  · split at among
    · cases among
    · rename_i cache found
      obtain ⟨peer, -, made⟩ := List.mem_filterMap.mp among
      split at made
      · cases made
      · split at made
        · rename_i transport room known inRoom
          split at made
          · cases made
          · obtain rfl := Option.some.inj made
            rw [NpSignalingState.cache_of_lookup found]
            exact hasMember_of_roomOfMember inRoom
        · cases made
  · cases among

theorem target_member {ctx : ContextObject} {s : NpSignalingState} {member : MemberCache}
    (target : member ∈ matching2Targets ctx s) :
    (s.cache ctx.ctxId).HasMember member.memberId := by
  unfold matching2Targets at target
  split at target
  · cases target
  · rename_i cache found
    obtain ⟨room, among, kept⟩ := List.mem_flatMap.mp target
    rw [NpSignalingState.cache_of_lookup found]
    exact ⟨room, among, member, (List.mem_filter.mp kept).1, rfl⟩

theorem syncPeer_memberId (snapshot : Snapshot) (now : Int) (peer : PeerInfo) :
    (syncPeer snapshot now peer).1.memberId = snapshot.memberId := by
  unfold syncPeer
  extract_lets peer since
  split
  · rfl
  split
  · rfl
  split <;> rfl

/-! ## Programs that bystanders live through -/

/-- The hash maps may change their order. -/
structure SameLedger (s s' : NpSignalingState) : Prop where
  contextRefs : s'.contextRefs = s.contextRefs
  runtimeRunning : s'.runtimeRunning = s.runtimeRunning
  contexts : (s'.contexts.map (·.ctxId)).Perm (s.contexts.map (·.ctxId))
  contextObjects : s'.contextObjects = s.contextObjects
  caches : s'.caches = s.caches

theorem SameLedger.of_eq {s s' : NpSignalingState} (same : s'.ledger = s.ledger) :
    SameLedger s s' where
  contextRefs := congrArg Ledger.contextRefs same
  runtimeRunning := congrArg Ledger.runtimeRunning same
  contexts := by
    have ids : s'.contexts.map (·.ctxId) = s.contexts.map (·.ctxId) :=
      congrArg Ledger.contexts same
    exact List.Perm.of_eq ids
  contextObjects := congrArg Ledger.contextObjects same
  caches := congrArg Ledger.caches same

theorem sameLedger_rehash (tables : Tables) (s : NpSignalingState) :
    SameLedger s (rehashLocked tables s) := by
  unfold rehashLocked
  split
  · rename_i perm
    have contexts : tables.contexts.Perm s.contexts := List.isPerm_iff.mp perm.1
    exact ⟨rfl, rfl, contexts.map _, rfl, rfl⟩
  · exact SameLedger.of_eq rfl

/-- An invariant that the sections of the runtime keep: they leave the ledger alone, tell the
peers of a transport dead, and write the entries of members. -/
structure Bystander (I : NpSignalingState → Prop) : Prop where
  same : ∀ {s s'}, SameLedger s s' → I s → I s'
  dead : ∀ transportId errorCode {s}, I s →
    I (queueMatching2DeadForTransport transportId errorCode s)
  peer : ∀ {ctxId memberId f s₀ s}, I s₀ → (s₀.cache ctxId).HasMember memberId →
    (∀ peer, (f peer).memberId = memberId) → I s → I (updatePeer ctxId memberId f s)
  event : ∀ ctx roomId memberId established errorCode {s}, I s →
    I (queueMatching2SignalingEvent ctx roomId memberId established errorCode s)

namespace Bystander

variable {I : NpSignalingState → Prop} (b : Bystander I)

theorem reads {α : Type} (f : NpSignalingState → α) : (inLock (fun s => (f s, s))).Preserves I :=
  Prog.preserves_locked (fun _ inv => inv)

include b

theorem ledger {s s' : NpSignalingState} (same : s'.ledger = s.ledger) (inv : I s) : I s' :=
  b.same (SameLedger.of_eq same) inv

theorem locked {α : Type} {label : LockSection}
    {body : NpSignalingState → α × NpSignalingState} (same : ∀ s, (body s).2.ledger = s.ledger) :
    (Prog.locked label body).Preserves I :=
  Prog.preserves_locked (fun s inv => b.ledger (same s) inv)

theorem update {label : LockSection} {body : NpSignalingState → NpSignalingState}
    (same : ∀ s, (body s).ledger = s.ledger) : (Prog.update label body).Preserves I :=
  Prog.preserves_update (fun s inv => b.ledger (same s) inv)

theorem told_dead (transportId : Nat) (errorCode : Matching2Error) :
    (updateLocked (queueMatching2DeadForTransport transportId errorCode)).Preserves I :=
  Prog.preserves_update (fun _ inv => b.dead transportId errorCode inv)

theorem dispatch (connId : Nat) (eventType : SignalingEvent) (errorCode : Option SignalingError) :
    (updateLocked (dispatchConnectionEvent connId eventType errorCode)).Preserves I :=
  b.update (fun s => ledger_dispatchConnectionEvent s connId eventType errorCode)

theorem sendDatagram (datagram : Option Datagram) : (sendDatagram datagram).Preserves I :=
  Prog.preserves_forSome (fun datagram => b.update (fun s => ledger_send s datagram))

theorem closeConnection (connId : Nat) (sigErrorCode : SignalingError)
    (matching2ErrorCode : Matching2Error) :
    (closeConnectionAndDispatchDead connId sigErrorCode matching2ErrorCode).Preserves I := by
  refine (b.locked (fun s => ledger_closeConnection s connId)).bind (fun closed => ?_)
  cases closed with
  | none => exact Prog.preserves_pure ()
  | some closed =>
    refine (Prog.preserves_when (b.told_dead _ _)).bind (fun _ => ?_)
    refine (Prog.preserves_when (b.dispatch _ _ _)).bind (fun _ => ?_)
    exact b.update (fun s => ledger_removeConnection s connId)

theorem closeTransport (transportId : Nat) (sigErrorCode : SignalingError)
    (matching2ErrorCode : Matching2Error) :
    (closeTransportAndDispatchDead transportId sigErrorCode matching2ErrorCode).Preserves I := by
  refine (b.locked (fun s => ledger_closeTransport s transportId)).bind (fun closed => ?_)
  cases closed with
  | none => exact Prog.preserves_pure ()
  | some sig1Conns =>
    refine (b.told_dead _ _).bind (fun _ => ?_)
    refine (Prog.preserves_forEach (fun connId _ => b.dispatch connId _ _)).bind (fun _ => ?_)
    exact b.update (fun s => ledger_eraseTransport s transportId sig1Conns)

theorem establishConnection (transportId : Nat) (peerActivatedHint : Bool) (now : Int) :
    (establishConnection transportId peerActivatedHint now).Preserves I := by
  refine (b.locked (fun s => ledger_establishConnection s _ _ _)).bind (fun outcome => ?_)
  refine (b.sendDatagram _).bind (fun _ => ?_)
  refine (Prog.preserves_forEach (fun connId _ =>
    b.update (fun s => ledger_dispatchPeerActivated s connId))).bind (fun _ => ?_)
  refine (Prog.preserves_forEach (fun connId _ => b.dispatch connId _ _)).bind (fun _ => ?_)
  exact Prog.preserves_forEach (fun connId _ => b.dispatch connId _ _)

theorem start (transportId : Nat) (now : Int) :
    (startTransportHandshakeInitiator transportId now).Preserves I :=
  b.update (fun s => ledger_startTransportHandshakeInitiator s transportId now)

theorem processActivation (resolution : Resolution) (act : PendingActivation) :
    (processActivation resolution act).Preserves I := by
  refine (reads _).bind (fun live => ?_)
  cases live with
  | none => exact Prog.preserves_pure _
  | some ci =>
    dsimp only
    cases resolution.resolved with
    | none => exact Prog.preserves_pure _
    | some endpoint =>
      refine (b.locked (fun s => ledger_activationResolved s _ _ _)).bind (fun outcome => ?_)
      cases outcome with
      | none => exact Prog.preserves_pure _
      | some alreadyEstablished =>
        refine (Prog.preserves_when (b.start _ _)).bind (fun _ => ?_)
        exact (Prog.preserves_when (b.establishConnection _ _ _)).bind
          (fun _ => Prog.preserves_pure _)

theorem processWork (resolve : Nat → Resolution) (i : Nat) (work : List PendingActivation) :
    (processWork resolve i work).Preserves I := by
  induction work generalizing i with
  | nil => exact Prog.preserves_pure _
  | cons act work ih =>
    refine (b.processActivation (resolve i) act).bind (fun again => ?_)
    exact (ih (i + 1)).bind (fun retry => Prog.preserves_pure _)

theorem processPendingActivations (resolve : Nat → Resolution) :
    (processPendingActivations resolve).Preserves I := by
  refine (b.locked (fun s => rfl)).bind (fun work => ?_)
  refine (b.processWork resolve 0 work).bind (fun retry => ?_)
  exact Prog.preserves_when (b.update (fun s => rfl))

theorem handleHandshakePacket (fromAddr : UInt32) (fromPort : UInt16)
    (packet : SignalingHandshake) (now : Int) :
    (handleHandshakePacket fromAddr fromPort packet now).Preserves I := by
  refine (b.locked (fun s => ledger_handleHandshake s _ _ _ _)).bind (fun outcome => ?_)
  refine (Prog.preserves_forSome (fun reply =>
    b.update (fun s => ledger_sendHandshake s _ _ _))).bind (fun _ => ?_)
  exact Prog.preserves_forSome (fun transportId => b.establishConnection _ _ _)

theorem closeRequest (packet : SignalingControl) (transport : PeerTransport)
    {s : NpSignalingState} (inv : I s) : I (closeRequestLocked packet transport s).2 := by
  unfold closeRequestLocked
  split
  · split <;> exact inv
  · exact b.dead _ _ (b.ledger (ledger_adjustTransport s _ _) inv)

theorem handleControl (fromAddr : UInt32) (fromPort : UInt16) (packet : SignalingControl)
    (random : UInt32) {s : NpSignalingState} (inv : I s) :
    I (handleControlLocked fromAddr fromPort packet random s).2 := by
  unfold handleControlLocked
  split
  · exact b.ledger (ledger_activationRequest s _ _ _ _) inv
  · split
    · exact inv
    · rename_i transport _
      unfold controlOnTransportLocked
      split
      · exact b.ledger (ledger_syncSig1Connections _ _)
          (b.ledger (ledger_adjustTransport s _ _) inv)
      · exact b.ledger (ledger_adjustTransport s _ _) inv
      · exact b.closeRequest packet transport inv
      · exact inv
      · exact inv

theorem handleControlPacket (fromAddr : UInt32) (fromPort : UInt16) (packet : SignalingControl)
    (random : UInt32) (now : Int) :
    (handleControlPacket fromAddr fromPort packet random now).Preserves I := by
  refine Prog.Preserves.bind (Prog.preserves_locked (fun s inv => b.handleControl _ _ _ _ inv))
    (fun outcome => ?_)
  refine (b.sendDatagram _).bind (fun _ => ?_)
  refine (Prog.preserves_forSome (fun transportId => b.establishConnection _ _ _)).bind
    (fun _ => ?_)
  refine (Prog.preserves_forSome (fun connId => b.dispatch _ _ _)).bind (fun _ => ?_)
  exact Prog.preserves_forSome (fun connId => b.closeConnection _ _ _)

theorem stepPendingConnections (now : Int) (sendNow : Nat → Int) :
    (stepPendingConnections now sendNow).Preserves I := by
  refine (reads _).bind (fun targets => ?_)
  refine (Prog.preserves_forEach (fun transportId _ => b.start _ _)).bind (fun _ => ?_)
  exact Prog.preserves_forEach (fun transportId _ => b.closeTransport _ _ _)

theorem activateSig1 (ctxId : Nat) (peerNpid : OrbisNpId) (peerOnlineId : OrbisNpOnlineId)
    (random : UInt32) (now : Int) :
    (activateSig1 ctxId peerNpid peerOnlineId random now).Preserves I := by
  refine (b.locked (fun s => ledger_activateSig1 s _ _ _ _ _)).bind (fun result => ?_)
  cases result with
  | error error => exact Prog.preserves_pure _
  | ok activated =>
    refine Prog.Preserves.bind (Prog.preserves_when ?_) (fun _ => Prog.preserves_pure _)
    refine (reads _).bind (fun found => ?_)
    exact Prog.preserves_forSome (fun ci => Prog.preserves_when (b.establishConnection _ _ _))

theorem deactivateSig1 (connId : Nat) : (deactivateSig1 connId).Preserves I :=
  (b.update (fun s => ledger_deactivateClose s connId)).bind
    (fun _ => b.closeConnection connId _ _)

theorem terminateSig1 (connId : Nat) : (terminateSig1 connId).Preserves I :=
  (b.update (fun s => ledger_terminateClose s connId)).bind
    (fun _ => b.closeConnection connId _ _)

/-! ### Matching2 -/

theorem syncSnapshot (now : Int) (snapshot : Snapshot) {s₀ s : NpSignalingState} (read : I s₀)
    (member : (s₀.cache snapshot.ctx.ctxId).HasMember snapshot.memberId) (inv : I s) :
    I (syncSnapshotLocked now snapshot s) := by
  unfold syncSnapshotLocked
  split
  · exact inv
  · rename_i ctx found
    have sameId : ctx.ctxId = snapshot.ctx.ctxId := (lookup_some found).2
    rw [← sameId] at member
    have written := b.peer read member (syncPeer_memberId snapshot now) inv
    dsimp only
    split
    · split
      · exact b.event _ _ _ _ _ written
      · exact written
    · exact inv

theorem syncMatching2Peers (now : Int) : (syncMatching2Peers now).Preserves I := by
  refine Prog.preserves_locked_bind (fun _ inv => inv) (fun s₀ read => ?_)
  refine Prog.preserves_forEach (fun snapshot taken => ?_)
  exact Prog.preserves_update (fun s inv =>
    b.syncSnapshot now snapshot read (snapshot_member taken) inv)

theorem startMatching2Targets (ctx : ContextObject) (resolve : Nat → Option (UInt32 × UInt16))
    (i : Nat) {targets : List MemberCache} {s₀ : NpSignalingState} (read : I s₀)
    (members : ∀ member ∈ targets, (s₀.cache ctx.ctxId).HasMember member.memberId) :
    (startMatching2Targets ctx resolve i targets).Preserves I := by
  induction targets generalizing i with
  | nil => exact Prog.preserves_pure _
  | cons member rest ih =>
    have later := ih (i + 1) (fun other among => members other (List.mem_cons_of_mem _ among))
    have here := members member (List.mem_cons_self ..)
    unfold NpSignaling.startMatching2Targets
    cases resolvePeerEndpoint member (resolve i) with
    | none => exact later
    | some endpoint =>
      refine (b.locked (fun s => ledger_matching2Transport s _ _ _ _)).bind (fun found => ?_)
      cases found with
      | none => exact later
      | some transport =>
        refine Prog.Preserves.bind (Prog.preserves_update (fun s inv => ?_)) (fun _ => ?_)
        · exact b.peer read here (fun _ => rfl) inv
        · exact later.bind (fun _ => Prog.preserves_pure _)

theorem startMatching2 (ctx : ContextObject) (ready : Bool)
    (resolve : Nat → Option (UInt32 × UInt16)) (now : Int) :
    (startMatching2 ctx ready resolve now).Preserves I := by
  refine Prog.preserves_when ?_
  refine Prog.preserves_locked_bind (fun _ inv => inv) (fun s₀ read => ?_)
  have started := b.startMatching2Targets ctx resolve 0 read (fun _ target => target_member target)
  refine started.bind (fun pendingTransports => ?_)
  refine (b.syncMatching2Peers now).bind (fun _ => ?_)
  exact Prog.preserves_forEach (fun transportId _ => b.start _ _)

theorem stopMatching2Room (ctxId roomId : Nat) (errorCode : SignalingError)
    (matching2ErrorCode : Matching2Error) :
    (stopMatching2Room ctxId roomId errorCode matching2ErrorCode).Preserves I := by
  refine (reads _).bind (fun transports => ?_)
  refine Prog.preserves_forEach (fun transportId _ => ?_)
  refine (reads _).bind (fun used => ?_)
  exact Prog.preserves_when (b.closeTransport _ _ _)

theorem stopMatching2 (ctxId : Nat) (errorCode : SignalingError)
    (matching2ErrorCode : Matching2Error) :
    (stopMatching2 ctxId errorCode matching2ErrorCode).Preserves I := by
  refine (reads _).bind (fun rooms => ?_)
  exact Prog.preserves_forEach (fun roomId _ => b.stopMatching2Room _ _ _ _)

end Bystander

/-! ## The operations of the runtime -/

/-- The calls that make and delete contexts, and what the matching2 library does itself. -/
def Op.keepsContexts : Op → Bool
  | .signalingTerminate | .createContext .. | .createContextA .. | .deleteContext _
  | .matching2Changed .. => false
  | _ => true

theorem Bystander.op {I : NpSignalingState → Prop} (b : Bystander I) {op : Op}
    (keeps : op.keepsContexts) : op.program.Preserves I := by
  cases op with
  | signalingInitialize heapOk echoOk => exact b.update (fun s => ledger_initialize s _ _)
  | activateSig1 ctxId peerNpid random now =>
    exact (b.activateSig1 _ _ _ _ _).bind (fun _ => Prog.preserves_pure _)
  | activateConnection ctxId peerNpid valid random now =>
    refine Prog.Preserves.bind ((reads _).bind (fun running => ?_)) (fun _ => Prog.preserves_pure _)
    refine Prog.preserves_ite (Prog.preserves_ite ?_ (Prog.preserves_pure _))
      (Prog.preserves_pure _)
    exact b.activateSig1 _ _ _ _ _
  | activateConnectionA ctxId accountId platformType random now =>
    refine Prog.Preserves.bind ((reads _).bind (fun known => ?_)) (fun _ => Prog.preserves_pure _)
    cases known with
    | some peerNpid => exact (b.activateSig1 _ _ _ _ _).bind (fun _ => Prog.preserves_pure _)
    | none => exact b.locked (fun s => ledger_activateConnectionAStub s _ _ _ _ _)
  | deactivateSig1 connId => exact b.deactivateSig1 connId
  | terminateSig1 connId => exact b.terminateSig1 connId
  | deactivateConnection ctxId connId =>
    refine Prog.Preserves.bind ((reads _).bind (fun refused => ?_)) (fun _ => Prog.preserves_pure _)
    cases refused with
    | some error => exact Prog.preserves_pure _
    | none => exact (b.deactivateSig1 connId).bind (fun _ => Prog.preserves_pure _)
  | terminateConnection ctxId connId =>
    refine Prog.Preserves.bind ((reads _).bind (fun refused => ?_)) (fun _ => Prog.preserves_pure _)
    cases refused with
    | some error => exact Prog.preserves_pure _
    | none =>
      refine (b.terminateSig1 connId).bind (fun _ => ?_)
      exact (b.update (fun s => ledger_removeConnection s connId)).bind
        (fun _ => Prog.preserves_pure _)
  | getPeerNetInfo ctxId valid externalIpv4 natRouteKind =>
    refine Prog.Preserves.bind ((reads _).bind (fun running => ?_)) (fun _ => Prog.preserves_pure _)
    refine Prog.preserves_ite (Prog.preserves_ite ?_ (Prog.preserves_pure _))
      (Prog.preserves_pure _)
    exact b.locked (fun s => ledger_getPeerNetInfo s _ _ _)
  | getPeerNetInfoA ctxId externalIpv4 natRouteKind =>
    exact (b.locked (fun s => ledger_getPeerNetInfoA s _ _ _)).bind (fun _ => Prog.preserves_pure _)
  | cancelPeerNetInfo ctxId reqOrConnId =>
    refine Prog.Preserves.bind ((b.locked (fun s => ledger_ownPeerNetInfo s _ _ _)).bind ?_)
      (fun _ => Prog.preserves_pure _)
    exact fun _ => Prog.preserves_pure _
  | getPeerNetInfoResult ctxId connId =>
    exact (b.locked (fun s => ledger_ownPeerNetInfo s _ _ _)).bind (fun _ => Prog.preserves_pure _)
  | getConnectionStatistics =>
    refine Prog.Preserves.bind ((reads _).bind (fun running => ?_)) (fun _ => Prog.preserves_pure _)
    refine Prog.preserves_ite ?_ (Prog.preserves_pure _)
    exact (b.locked (fun s => rfl)).bind (fun _ => Prog.preserves_pure _)
  | dispatchThread =>
    refine (b.locked ledger_takeDispatch).bind (fun took => ?_)
    exact Prog.preserves_when (b.update ledger_invokeCallback)
  | handshakePacket fromAddr fromPort packet now => exact b.handleHandshakePacket _ _ _ _
  | controlPacket fromAddr fromPort packet random now => exact b.handleControlPacket _ _ _ _ _
  | processPendingActivations resolve => exact b.processPendingActivations resolve
  | stepPendingConnections now sendNow => exact b.stepPendingConnections now sendNow
  | startMatching2 ctx ready resolve now => exact b.startMatching2 _ _ _ _
  | stopMatching2 ctxId errorCode matching2ErrorCode => exact b.stopMatching2 _ _ _
  | stopMatching2Room ctxId roomId errorCode matching2ErrorCode =>
    exact b.stopMatching2Room _ _ _ _
  | syncMatching2Peers now => exact b.syncMatching2Peers now
  | externalIpLearned externalIp => exact b.update (fun s => rfl)
  | rehash tables =>
    exact Prog.preserves_update (fun s inv => b.same (sameLedger_rehash tables s) inv)
  | _ => cases keeps

/-- What the matching2 library has written is as it was. -/
structure SameMatching2 (s s' : NpSignalingState) : Prop where
  contextObjects : s'.contextObjects = s.contextObjects
  caches : s'.caches = s.caches

theorem Bystander.releaseContextRef {I : NpSignalingState → Prop}
    (free : ∀ s s', SameMatching2 s s' → I s → I s') : releaseContextRef.Preserves I := by
  refine Prog.Preserves.bind (Prog.preserves_locked (fun s inv => ?_)) (fun shouldStop => ?_)
  · refine free s _ ?_ inv
    dsimp only
    split <;> exact ⟨rfl, rfl⟩
  · refine Prog.preserves_when (Prog.preserves_update (fun s inv => free s _ ?_ inv))
    unfold stopRuntime
    split <;> exact ⟨rfl, rfl⟩

theorem Bystander.addContextRef {I : NpSignalingState → Prop}
    (free : ∀ s s', SameMatching2 s s' → I s → I s') : addContextRef.Preserves I := by
  refine Prog.Preserves.bind (Prog.preserves_update (fun s inv => free s _ ⟨rfl, rfl⟩ inv))
    (fun _ => ?_)
  refine Prog.preserves_update (fun s inv => free s _ ?_ inv)
  unfold startRuntime
  split <;> exact ⟨rfl, rfl⟩

/-- The calls that make and delete contexts leave the matching2 library alone. -/
theorem Bystander.op_of_matching2 {I : NpSignalingState → Prop} (b : Bystander I)
    (free : ∀ s s', SameMatching2 s s' → I s → I s') {op : Op}
    (own : ∀ contextObjects caches, op ≠ .matching2Changed contextObjects caches) :
    op.program.Preserves I := by
  have released := Bystander.releaseContextRef free
  have createdWith : ∀ request now, (createContextWith request now).Preserves I := by
    intro request now
    refine Prog.Preserves.bind (Prog.preserves_locked (fun s inv => free s _ ?_ inv))
      (fun made => ?_)
    · obtain ⟨error, same⟩ | ⟨ctxId, -, -, -, made⟩ := createContext_cases request now s
      · rw [same]
        exact ⟨rfl, rfl⟩
      · rw [made]
        exact ⟨rfl, rfl⟩
    · cases made with
      | error error => exact Prog.preserves_pure _
      | ok ctxId =>
        exact (Bystander.addContextRef free).bind (fun _ => Prog.preserves_pure _)
  cases op with
  | signalingTerminate =>
    refine Prog.Preserves.bind ?_ (fun _ => Prog.preserves_pure _)
    refine Prog.Preserves.bind (Prog.preserves_locked (fun s inv => free s _ ⟨rfl, rfl⟩ inv))
      (fun running => ?_)
    refine Prog.preserves_ite (Prog.preserves_pure _) ?_
    refine Prog.Preserves.bind (Prog.preserves_update (fun s inv => free s _ ⟨rfl, rfl⟩ inv))
      (fun _ => ?_)
    refine Prog.Preserves.bind (Prog.preserves_update (fun s inv => inv)) (fun _ => ?_)
    refine Prog.Preserves.bind (Prog.preserves_locked (fun s inv => free s _ ⟨rfl, rfl⟩ inv))
      (fun contexts => ?_)
    exact (Prog.preserves_forEach (fun _ _ => released)).bind (fun _ => Prog.preserves_pure _)
  | createContext npid valid callback callbackArg sdkVersion now =>
    refine Prog.Preserves.bind ((Bystander.reads _).bind (fun running => ?_))
      (fun _ => Prog.preserves_pure _)
    exact Prog.preserves_ite (Prog.preserves_ite (createdWith _ _) (Prog.preserves_pure _))
      (Prog.preserves_pure _)
  | createContextA account callback callbackArg sdkVersion now =>
    refine Prog.Preserves.bind ((Bystander.reads _).bind (fun running => ?_))
      (fun _ => Prog.preserves_pure _)
    refine Prog.preserves_ite ?_ (Prog.preserves_pure _)
    cases account with
    | none => exact Prog.preserves_pure _
    | some known => exact Prog.preserves_ite (Prog.preserves_pure _) (createdWith _ _)
  | deleteContext ctxId =>
    refine Prog.Preserves.bind ((Bystander.reads _).bind (fun activeConns => ?_))
      (fun _ => Prog.preserves_pure _)
    cases activeConns with
    | none => exact Prog.preserves_pure _
    | some activeConns =>
      refine (Prog.preserves_forEach (fun connId _ => b.terminateSig1 connId)).bind (fun _ => ?_)
      refine Prog.Preserves.bind (Prog.preserves_update (fun s inv => free s _ ?_ inv))
        (fun _ => ?_)
      · have removed : (removeContextConnectionsLocked ctxId s).ledger = s.ledger :=
          ledger_removeConnections s _
        exact ⟨congrArg Ledger.contextObjects removed, congrArg Ledger.caches removed⟩
      · exact released.bind (fun _ => Prog.preserves_pure _)
  | matching2Changed contextObjects caches => exact absurd rfl (own contextObjects caches)
  | _ => exact b.op rfl

/-! ## Peer entries of members -/

/-- The cached rooms of a context stay as they are, and its peer entries are those of their
members. -/
structure Housed (ctxId : Nat) (rooms : List RoomCache) (s : NpSignalingState) : Prop where
  rooms : (s.cache ctxId).rooms = rooms
  peers : ∀ peer ∈ (s.cache ctxId).peers, (s.cache ctxId).HasMember peer.memberId

section Housed

variable {ctxId : Nat} {rooms : List RoomCache} {s s' : NpSignalingState}

theorem cache_ctxId (ctxId : Nat) (s : NpSignalingState) : (s.cache ctxId).ctxId = ctxId := by
  unfold NpSignalingState.cache
  cases found : lookup Matching2ContextCache.ctxId ctxId s.caches with
  | none => rfl
  | some cache => exact (lookup_some found).2

theorem Housed.of_cache (housed : Housed ctxId rooms s) (same : s'.cache ctxId = s.cache ctxId) :
    Housed ctxId rooms s' := by
  obtain ⟨kept, members⟩ := housed
  rw [← same] at kept members
  exact ⟨kept, members⟩

theorem cache_of_caches (same : s'.caches = s.caches) (ctxId : Nat) :
    s'.cache ctxId = s.cache ctxId := by
  unfold NpSignalingState.cache
  rw [same]

theorem Housed.of_caches (housed : Housed ctxId rooms s) (same : s'.caches = s.caches) :
    Housed ctxId rooms s' :=
  housed.of_cache (cache_of_caches same ctxId)

/-- The entries change, the members they are of do not. -/
theorem Housed.of_peers (housed : Housed ctxId rooms s)
    (kept : (s'.cache ctxId).rooms = (s.cache ctxId).rooms)
    (members : ∀ peer ∈ (s'.cache ctxId).peers, (∃ old ∈ (s.cache ctxId).peers,
      old.memberId = peer.memberId) ∨ (s.cache ctxId).HasMember peer.memberId) :
    Housed ctxId rooms s' := by
  refine ⟨kept.trans housed.rooms, ?_⟩
  intro peer among
  unfold Matching2ContextCache.HasMember
  rw [kept]
  obtain ⟨old, before, same⟩ | member := members peer among
  · rw [← same]
    exact housed.peers old before
  · exact member

theorem cache_store (cache : Matching2ContextCache) :
    ({ s with caches := store Matching2ContextCache.ctxId cache s.caches } :
        NpSignalingState).cache ctxId =
      if ctxId = cache.ctxId then cache else s.cache ctxId := by
  simp only [NpSignalingState.cache, lookup_store]
  split <;> rfl

theorem Housed.updatePeer (housed : Housed ctxId rooms s) {id memberId : Nat}
    {f : PeerInfo → PeerInfo} (named : ∀ peer, (f peer).memberId = memberId)
    (member : id = ctxId → (s.cache ctxId).HasMember memberId) :
    Housed ctxId rooms (updatePeer id memberId f s) := by
  let peer := (lookup PeerInfo.memberId memberId (s.cache id).peers).getD { memberId }
  let cache := { s.cache id with peers := store PeerInfo.memberId (f peer) (s.cache id).peers }
  have cached : (NpSignaling.updatePeer id memberId f s).cache ctxId =
      if ctxId = cache.ctxId then cache else s.cache ctxId := cache_store cache
  have key : cache.ctxId = id := cache_ctxId id s
  rw [key] at cached
  by_cases same : ctxId = id
  · rw [if_pos same] at cached
    subst same
    refine housed.of_peers (by rw [cached]) ?_
    rw [cached]
    intro peer among
    rcases mem_store.mp among with ⟨old, -⟩ | rfl
    · exact Or.inl ⟨peer, old, rfl⟩
    · rw [named]
      exact Or.inr (member rfl)
  · rw [if_neg same] at cached
    exact housed.of_cache cached

theorem caches_event (ctx : ContextObject) (roomId memberId : Nat) (established : Bool)
    (errorCode : Matching2Error) :
    (queueMatching2SignalingEvent ctx roomId memberId established errorCode s).caches =
      s.caches := by
  unfold queueMatching2SignalingEvent
  split <;> rfl

/-- The entries of one cache are rewritten. -/
theorem Housed.setPeers (housed : Housed ctxId rooms s) {id : Nat}
    {cache : Matching2ContextCache} {peers : List PeerInfo}
    (found : lookup Matching2ContextCache.ctxId id s.caches = some cache)
    (old : ∀ peer ∈ peers, ∃ old ∈ cache.peers, old.memberId = peer.memberId) :
    Housed ctxId rooms { s with
      caches := adjust Matching2ContextCache.ctxId id (fun cache => { cache with peers })
        s.caches } := by
  have kept : ∀ cache : Matching2ContextCache,
      ({ cache with peers } : Matching2ContextCache).ctxId = cache.ctxId := fun _ => rfl
  by_cases same : id = ctxId
  · subst same
    have named : cache.ctxId = id := (lookup_some found).2
    have before : s.cache id = cache := NpSignalingState.cache_of_lookup found
    have cached : ({ s with
        caches := adjust Matching2ContextCache.ctxId id (fun cache => { cache with peers })
          s.caches } : NpSignalingState).cache id = { cache with peers } := by
      simp only [NpSignalingState.cache, lookup_adjust kept, found, Option.map_some, if_pos named,
        Option.getD_some]
    refine housed.of_peers (by rw [cached, before]) ?_
    rw [cached, before]
    exact fun peer among => Or.inl (old peer among)
  · have cached : ({ s with
        caches := adjust Matching2ContextCache.ctxId id (fun cache => { cache with peers })
          s.caches } : NpSignalingState).cache ctxId = s.cache ctxId := by
      simp only [NpSignalingState.cache, lookup_adjust kept]
      cases other : lookup Matching2ContextCache.ctxId ctxId s.caches with
      | none => rfl
      | some cache =>
        have named : cache.ctxId = ctxId := (lookup_some other).2
        have elsewhere : ¬cache.ctxId = id := fun here => same (here.symm.trans named)
        simp only [Option.map_some, if_neg elsewhere]
    exact housed.of_cache cached

theorem Housed.deadForContext (housed : Housed ctxId rooms s) (transportId : Nat)
    (errorCode : Matching2Error) (ctx : ContextObject) :
    Housed ctxId rooms (queueMatching2DeadForContext transportId errorCode ctx s) := by
  unfold queueMatching2DeadForContext
  cases found : lookup Matching2ContextCache.ctxId ctx.ctxId s.caches with
  | none => exact housed
  | some cache =>
    dsimp -zeta only
    extract_lets gone peers s'
    have old : ∀ peer ∈ peers, ∃ old ∈ cache.peers, old.memberId = peer.memberId := by
      intro peer among
      obtain ⟨old, before, rfl⟩ := List.mem_map.mp among
      refine ⟨old, before, ?_⟩
      split <;> rfl
    have written : Housed ctxId rooms s' := housed.setPeers found old
    clear_value s' gone
    induction gone generalizing s' with
    | nil => exact written
    | cons peer rest ih =>
      refine ih _ ?_
      dsimp only
      split
      · split
        · exact written.of_caches (caches_event _ _ _ _ _)
        · exact written
      · exact written

theorem Housed.dead (housed : Housed ctxId rooms s) (transportId : Nat)
    (errorCode : Matching2Error) :
    Housed ctxId rooms (queueMatching2DeadForTransport transportId errorCode s) := by
  unfold queueMatching2DeadForTransport
  generalize s.contextObjects = contexts
  induction contexts generalizing s with
  | nil => exact housed
  | cons ctx rest ih => exact ih (housed.deadForContext transportId errorCode ctx)

theorem bystander_housed : Bystander (Housed ctxId rooms) where
  same same housed := housed.of_caches same.caches
  dead transportId errorCode _ housed := housed.dead transportId errorCode
  peer := by
    intro id memberId f s₀ s read member named housed
    refine housed.updatePeer named ?_
    rintro rfl
    obtain ⟨room, among, rest⟩ := member
    rw [read.rooms, ← housed.rooms] at among
    exact ⟨room, among, rest⟩
  event ctx roomId memberId established errorCode _ housed :=
    housed.of_caches (caches_event ctx roomId memberId established errorCode)

end Housed

end NpSignaling
