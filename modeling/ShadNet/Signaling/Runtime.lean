import ShadNet.Signaling.Handler

/-!
# Packets, timers and activation

The entry points of the signaling handler: what arrives from the network, the
periodic step of the runtime thread, and the calls of the two libraries above.
-/

namespace NpSignaling

open LockProgram

/-! ## Handshake packets -/

/-- What is left to do after the section of `HandleHandshakePacket`. -/
structure HandshakeOutcome where
  reply : Option (Nat × SignalingHandshake) := none
  establishTransport : Option Nat := none

def senderAddr (mappedAddr fromAddr : UInt32) : UInt32 :=
  if mappedAddr ≠ 0 then mappedAddr else fromAddr

def recordRtt (rttUs : Int) (transport : PeerTransport) : PeerTransport :=
  let index := transport.probeSampleWriteIndex % kProbeSampleCount
  { transport with
    probeRttSamples := transport.probeRttSamples.set index (BitVec.ofInt 32 rttUs).toInt
    probeSampleWriteIndex := index + 1 }

def handleOffer (fromAddr : UInt32) (fromPort : UInt16) (packet : SignalingHandshake)
    (transport : PeerTransport) : PeerTransport :=
  let transport :=
    { transport with
      addr := senderAddr packet.mappedAddr fromAddr, port := fromPort, peerActivated := true }
  if transport.state ≠ .established then setTransportStateLocked .sendingAccept transport
  else transport

def acceptExpected (state : ConnState) : Bool :=
  state = .sendingOffer || state = .waitAccept || state = .sendingAccept || state = .waitOffer

def handleAccept (fromAddr : UInt32) (fromPort : UInt16) (packet : SignalingHandshake)
    (transport : PeerTransport) : PeerTransport :=
  let transport :=
    { transport with
      peerActivated := true, addr := senderAddr packet.mappedAddr fromAddr, port := fromPort }
  if acceptExpected transport.state then setTransportStateLocked .connCheck transport
  else transport

def handleCheck (transport : PeerTransport) : PeerTransport :=
  if transport.state = .sendingAccept ∨ transport.state = .waitOffer then
    setTransportStateLocked .connCheck transport
  else transport

def handleCheckAck (packet : SignalingHandshake) (now : Int) (transport : PeerTransport) :
    PeerTransport :=
  let rttUs := now - packet.nonce.toInt
  if rttUs ≥ 0 then recordRtt rttUs transport else transport

/-- The transport after the packet. -/
def handshakeTransport (fromAddr : UInt32) (fromPort : UInt16) (packet : SignalingHandshake)
    (now : Int) (transport : PeerTransport) : PeerTransport :=
  let transport := { transport with lastPeerRxUs := now }
  match packet.kind with
  | .offer => handleOffer fromAddr fromPort packet transport
  | .accept => handleAccept fromAddr fromPort packet transport
  | .check => handleCheck transport
  | .checkAck => handleCheckAck packet now transport
  | .other _ => transport

/-- The answer to the packet; `before` is the transport it found, `after` what it left. -/
def handshakeOutcome (externalIp : UInt32) (packet : SignalingHandshake) (now : Int)
    (before after : PeerTransport) : HandshakeOutcome :=
  match packet.kind with
  | .offer => { reply := some (before.transportId, makeHandshakeLocked externalIp after .accept) }
  | .accept =>
    if acceptExpected before.state then
      { reply := some (before.transportId,
          { makeHandshakeLocked externalIp after .check with nonce := nonceOf now }) }
    else {}
  | .check =>
    { reply := some (before.transportId,
        { makeHandshakeLocked externalIp before .checkAck with nonce := packet.nonce }) }
  | .checkAck =>
    if before.state ≠ .established then { establishTransport := some before.transportId } else {}
  | .other _ => {}

def handleHandshakeLocked (fromAddr : UInt32) (fromPort : UInt16) (packet : SignalingHandshake)
    (now : Int) (s : NpSignalingState) : HandshakeOutcome × NpSignalingState :=
  match findTransportByOnlineIdLocked (packetOnlineIdToString packet.onlineIdFrom) s with
  | none => ({}, s)
  | some transport =>
    let after := handshakeTransport fromAddr fromPort packet now transport
    (handshakeOutcome s.externalIp packet now transport after,
      syncSig1ConnectionsForTransportLocked transport.transportId
        (s.adjustTransport transport.transportId
          (handshakeTransport fromAddr fromPort packet now)))

def handleHandshakePacket (fromAddr : UInt32) (fromPort : UInt16) (packet : SignalingHandshake)
    (now : Int) : Signaling Unit := do
  let outcome ← inLock (handleHandshakeLocked fromAddr fromPort packet now)
  Prog.forSome outcome.reply (fun (transportId, reply) =>
    updateLocked (sendHandshakeLocked transportId reply now))
  Prog.forSome outcome.establishTransport (fun transportId =>
    establishConnection transportId true now)

/-! ## Control packets -/

/-- What is left to do after the section of `HandleControlPacket`. -/
structure ControlOutcome where
  ack : Option Datagram := none
  establishTransport : Option Nat := none
  peerDeactivatedConn : Option Nat := none
  deadConn : Option Nat := none

def insertConnection (ci : ConnectionInfo) (s : NpSignalingState) : NpSignalingState :=
  { s with
    connections := KeyedTable.store ConnectionInfo.connId ci s.connections
    connectionsMade := s.connectionsMade + 1 }

def indexConnection (ctxId : Nat) (npid : OrbisNpId) (connId : Nat) (s : NpSignalingState) :
    NpSignalingState :=
  { s with npidToConn := KeyedTable.store NpidEntry.key ⟨⟨ctxId, npid⟩, connId⟩ s.npidToConn }

/-- The active context an activation request is addressed to. -/
def addressedContext (toId : List UInt8) (s : NpSignalingState) : Option NpSignalingContext :=
  s.contexts.find? (fun ctx => ctx.active && onlineIdToString ctx.ownerOnlineId = toId)

def requestedTransport (fromAddr : UInt32) (fromPort : UInt16) (packet : SignalingControl)
    (transport : PeerTransport) : PeerTransport :=
  let transport :=
    { transport with
      peerActivated := true, addr := senderAddr packet.mappedAddr fromAddr, port := fromPort }
  if transport.state = .inactive then setTransportStateLocked .waitOffer transport else transport

/-- The local side of a transport made for an activation request. -/
def requestedOnlineId (packet : SignalingControl) (s : NpSignalingState) : OrbisNpOnlineId :=
  match addressedContext (packetOnlineIdToString packet.onlineIdTo) s with
  | some ctx => ctx.ownerOnlineId
  | none => setNpOnlineId packet.onlineIdTo

/-- The transport of the sender, made when there is none. -/
def requestTransportLocked (fromAddr : UInt32) (fromPort : UInt16) (packet : SignalingControl)
    (s : NpSignalingState) : Option Nat × NpSignalingState :=
  match findTransportByOnlineIdLocked (packetOnlineIdToString packet.onlineIdFrom) s with
  | some transport => (some transport.transportId, s)
  | none =>
    let peerOnlineId := setNpOnlineId packet.onlineIdFrom
    ensureTransportLocked (requestedOnlineId packet s) peerOnlineId (npIdFromOnlineId peerOnlineId)
      (senderAddr packet.mappedAddr fromAddr) fromPort s

def remoteConnection (connId ctxId : Nat) (npid : OrbisNpId) (transport : PeerTransport)
    (serial : Nat) : ConnectionInfo :=
  syncSig1StatusLocked transport
    { connId
      ctxId
      transportId := transport.transportId
      locallyActivated := false
      peerActivated := true
      onlineId := npid.handle
      npid
      serial }

/-- The connection an activation request marks, made when the context sees none. `none` is the
early return for want of a connection id; `some none` means no context was addressed. -/
def requestConnectionLocked (ctx : Option NpSignalingContext) (transport : PeerTransport)
    (packet : SignalingControl) (random : UInt32) (s : NpSignalingState) :
    Option (Option Nat) × NpSignalingState :=
  match ctx with
  | none => (some none, s)
  | some ctx =>
    match findConnectionByOnlineIdLocked (packetOnlineIdToString packet.onlineIdFrom) ctx.ctxId s with
    | some ci => (some (some ci.connId), s)
    | none =>
      match allocateConnectionIdLocked random s with
      | (none, s) => (none, s)
      | (some connId, s) =>
        let npid := npIdFromOnlineId (setNpOnlineId packet.onlineIdFrom)
        (some (some connId),
          indexConnection ctx.ctxId npid connId
            (insertConnection
              (remoteConnection connId ctx.ctxId npid transport s.connectionsMade) s))

def activationRequestLocked (fromAddr : UInt32) (fromPort : UInt16) (packet : SignalingControl)
    (random : UInt32) (s : NpSignalingState) : ControlOutcome × NpSignalingState :=
  let ctx := addressedContext (packetOnlineIdToString packet.onlineIdTo) s
  match requestTransportLocked fromAddr fromPort packet s with
  | (none, s) => ({}, s)
  | (some transportId, s) =>
    let s := s.adjustTransport transportId (requestedTransport fromAddr fromPort packet)
    match s.transport? transportId with
    | none => ({}, s)
    | some transport =>
      match requestConnectionLocked ctx transport packet random s with
      | (none, s) => ({}, s)
      | (some found, s) =>
        let s :=
          match found with
          | some connId =>
            s.adjustConnection connId (fun ci => { ci with peerActivated := true, transportId })
          | none => s
        let ack : Datagram :=
          ⟨transport.addr, transport.port,
            .control (makeControlLocked s.externalIp transport .activationAck)⟩
        ({ ack := if transport.addr ≠ 0 ∧ transport.port ≠ 0 then some ack else none
           establishTransport := if transport.state = .established then some transportId else none },
          syncSig1ConnectionsForTransportLocked transportId s)

def closeRequestLocked (packet : SignalingControl) (transport : PeerTransport)
    (s : NpSignalingState) : ControlOutcome × NpSignalingState :=
  match findConnectionByOnlineIdLocked (packetOnlineIdToString packet.onlineIdFrom) 0 s with
  | some ci =>
    if packet.reason = .deactivate ∧ transport.state = .established then
      ({ peerDeactivatedConn := some ci.connId }, s)
    else ({ deadConn := some ci.connId }, s)
  | none =>
    ({}, queueMatching2DeadForTransport transport.transportId .terminatedByPeer
      (s.adjustTransport transport.transportId (setTransportStateLocked .inactive)))

def acknowledgedTransport (packet : SignalingControl) (transport : PeerTransport) :
    PeerTransport :=
  { transport with
    peerActivated := true
    addr := if packet.mappedAddr ≠ 0 then packet.mappedAddr else transport.addr }

/-- The branches for a packet whose sender has a live transport here. -/
def controlOnTransportLocked (packet : SignalingControl) (transport : PeerTransport)
    (s : NpSignalingState) : ControlOutcome × NpSignalingState :=
  match packet.kind with
  | .activationAck =>
    ({}, syncSig1ConnectionsForTransportLocked transport.transportId
      (s.adjustTransport transport.transportId (acknowledgedTransport packet)))
  | .established =>
    ({ establishTransport :=
        if transport.state = .established then some transport.transportId else none },
      s.adjustTransport transport.transportId (fun t => { t with peerEstablished := true }))
  | .close => closeRequestLocked packet transport s
  | .activationRequest => ({}, s)
  | .other _ => ({}, s)

def handleControlLocked (fromAddr : UInt32) (fromPort : UInt16) (packet : SignalingControl)
    (random : UInt32) (s : NpSignalingState) : ControlOutcome × NpSignalingState :=
  if packet.kind = .activationRequest then
    activationRequestLocked fromAddr fromPort packet random s
  else
    match findTransportByOnlineIdLocked (packetOnlineIdToString packet.onlineIdFrom) s with
    | none => ({}, s)
    | some transport => controlOnTransportLocked packet transport s

def handleControlPacket (fromAddr : UInt32) (fromPort : UInt16) (packet : SignalingControl)
    (random : UInt32) (now : Int) : Signaling Unit := do
  let outcome ← Prog.locked (.handleControlPacket packet)
    (handleControlLocked fromAddr fromPort packet random)
  sendDatagram outcome.ack
  Prog.forSome outcome.establishTransport (fun transportId =>
    establishConnection transportId false now)
  Prog.forSome outcome.peerDeactivatedConn (fun connId =>
    updateLocked (dispatchConnectionEvent connId .peerDeactivated none))
  Prog.forSome outcome.deadConn (fun connId =>
    closeConnectionAndDispatchDead connId .terminatedByPeer .terminatedByPeer)

/-! ## Matching2 peers -/

structure Snapshot where
  ctx : ContextObject
  roomId : Nat
  memberId : Nat
  transport : PeerTransport

def snapshotsOf (s : NpSignalingState) : List Snapshot :=
  s.contextObjects.flatMap (fun ctx =>
    if ctx.signalingCallback then
      match KeyedTable.lookup Matching2ContextCache.ctxId ctx.ctxId s.caches with
      | none => []
      | some cache =>
        cache.peers.filterMap (fun peer =>
          if peer.connId = 0 then none
          else
            match s.transport? peer.connId, roomOfMember cache peer.memberId with
            | some transport, some room =>
              if room.roomId = 0 then none else some ⟨ctx, room.roomId, peer.memberId, transport⟩
            | _, _ => none)
    else [])

/-- The peer record after one snapshot, and whether ESTABLISHED is to be queued. -/
def syncPeer (snapshot : Snapshot) (now : Int) (peer : PeerInfo) : PeerInfo × Bool :=
  let peer :=
    { peer with
      connId := snapshot.transport.transportId
      memberId := snapshot.memberId
      addr := snapshot.transport.addr
      port := snapshot.transport.port
      pingUs := averageRtt snapshot.transport
      status := peerStatus snapshot.transport.status }
  if peer.status ≠ .active then ({ peer with activeSinceUs := 0 }, false)
  else if peer.sentEstablished then (peer, false)
  else
    let since := if peer.activeSinceUs = 0 then now else peer.activeSinceUs
    if now - since < kMatching2EstablishDelay then
      ({ peer with activeSinceUs := since, status := .pending }, false)
    else ({ peer with activeSinceUs := since, sentEstablished := true }, true)

/-- `cache->peers[member_id]`, updated by `f`. -/
def updatePeer (ctxId memberId : Nat) (f : PeerInfo → PeerInfo) (s : NpSignalingState) :
    NpSignalingState :=
  let cache := (KeyedTable.lookup Matching2ContextCache.ctxId ctxId s.caches).getD { ctxId }
  let peer := (KeyedTable.lookup PeerInfo.memberId memberId cache.peers).getD { memberId }
  { s with
    caches := KeyedTable.store Matching2ContextCache.ctxId
      { cache with peers := KeyedTable.store PeerInfo.memberId (f peer) cache.peers } s.caches }

def syncSnapshotLocked (now : Int) (snapshot : Snapshot) (s : NpSignalingState) :
    NpSignalingState :=
  match s.contextObject? snapshot.ctx.ctxId with
  | none => s
  | some ctx =>
    if ctx.signalingCallback then
      let cache :=
        (KeyedTable.lookup Matching2ContextCache.ctxId ctx.ctxId s.caches).getD
          { ctxId := ctx.ctxId }
      let peer :=
        (KeyedTable.lookup PeerInfo.memberId snapshot.memberId cache.peers).getD
          { memberId := snapshot.memberId }
      let s := updatePeer ctx.ctxId snapshot.memberId (fun peer => (syncPeer snapshot now peer).1) s
      if (syncPeer snapshot now peer).2 then
        queueMatching2SignalingEvent ctx snapshot.roomId snapshot.memberId true .ok s
      else s
    else s

def syncMatching2Peers (now : Int) : Signaling Unit := do
  let snapshots ← inLock (fun s => (snapshotsOf s, s))
  Prog.forEach snapshots (fun snapshot => updateLocked (syncSnapshotLocked now snapshot))

/-! ## The periodic step -/

def handshakeTimedOut (now : Int) (transport : PeerTransport) : Bool :=
  transport.lastHandshakeSendUs ≠ 0 && now - transport.lastHandshakeSendUs > kMatching2Timeout

def resendDue (now : Int) (transport : PeerTransport) : Bool :=
  transport.lastHandshakeSendUs = 0 ||
    now - transport.lastHandshakeSendUs ≥ kMatching2StepInterval

def stillPending (transport : PeerTransport) : Bool :=
  transport.status ≠ .active && transport.state ≠ .inactive

def resendTargets (now : Int) (s : NpSignalingState) : List Nat :=
  (s.peerTransports.filter (fun transport =>
    stillPending transport && !handshakeTimedOut now transport && resendDue now transport)).map
    (·.transportId)

def timeoutTargets (now : Int) (s : NpSignalingState) : List Nat :=
  (s.peerTransports.filter (fun transport =>
    stillPending transport && handshakeTimedOut now transport)).map (·.transportId)

/-- `sendNow` is the clock reading taken when the packet of each transport goes out. -/
def stepPendingConnections (now : Int) (sendNow : Nat → Int) : Signaling Unit := do
  let (resend, timeout) ← inLock (fun s => ((resendTargets now s, timeoutTargets now s), s))
  Prog.forEach resend (fun transportId =>
    startTransportHandshakeInitiator transportId (sendNow transportId))
  Prog.forEach timeout (fun transportId =>
    closeTransportAndDispatchDead transportId .timeout .timeout)

/-! ## Activation -/

/-- The connection the context already has for the key, an inactive one being removed. -/
def reuseConnectionLocked (lookupKey : CtxNpIdKey) (s : NpSignalingState) :
    Option ConnectionInfo × NpSignalingState :=
  match s.indexed? lookupKey with
  | none => (none, s)
  | some entry =>
    match s.connection? entry.connId with
    | none => (none, s)
    | some ci =>
      if ci.status = .inactive then (none, removeConnectionLocked entry.connId s)
      else (some ci, s)

def localConnection (connId ctxId : Nat) (peerNpid : OrbisNpId) (peerOnlineId : OrbisNpOnlineId)
    (transport : PeerTransport) (serial : Nat) : ConnectionInfo :=
  let ci : ConnectionInfo :=
    { connId
      ctxId
      transportId := transport.transportId
      locallyActivated := true
      npid := peerNpid
      onlineId := peerOnlineId
      serial }
  let ci := syncSig1StatusLocked transport ci
  if ci.status = .inactive then { ci with status := .pending } else ci

def createLocalConnectionLocked (ctxId : Nat) (peerNpid : OrbisNpId)
    (peerOnlineId : OrbisNpOnlineId) (transport : PeerTransport) (random : UInt32)
    (s : NpSignalingState) : Option Nat × NpSignalingState :=
  match allocateConnectionIdLocked random s with
  | (none, s) => (none, s)
  | (some connId, s) =>
    (some connId,
      queueActivationLocked connId (onlineIdToString peerOnlineId)
        (transport.state ≠ .established)
        (indexConnection ctxId peerNpid connId
          (insertConnection
            (localConnection connId ctxId peerNpid peerOnlineId transport s.connectionsMade) s)))

def restartTransport (transport : PeerTransport) : PeerTransport :=
  if transport.state = .inactive ∨ transport.state = .waitOffer then
    setTransportStateLocked .sendingOffer transport
  else transport

def resumedTransport (transport : PeerTransport) : PeerTransport :=
  if transport.state = .established then transport else restartTransport transport

def reactivatedConnection (ctxId : Nat) (peerNpid : OrbisNpId) (peerOnlineId : OrbisNpOnlineId)
    (transport : PeerTransport) (ci : ConnectionInfo) : ConnectionInfo :=
  syncSig1StatusLocked transport
    { ci with
      ctxId
      transportId := transport.transportId
      locallyActivated := true
      npid := peerNpid
      onlineId := peerOnlineId }

def reactivateConnectionLocked (ci : ConnectionInfo) (ctxId : Nat) (peerNpid : OrbisNpId)
    (peerOnlineId : OrbisNpOnlineId) (transport : PeerTransport) (s : NpSignalingState) :
    NpSignalingState :=
  let s :=
    indexConnection ctxId peerNpid ci.connId
      ((s.adjustTransport transport.transportId resumedTransport).adjustConnection ci.connId
        (reactivatedConnection ctxId peerNpid peerOnlineId (resumedTransport transport)))
  if ci.locallyActivated then s
  else
    queueActivationLocked ci.connId (onlineIdToString peerOnlineId)
      (transport.state ≠ .established) s

def chargeContext (ctxId : Nat) (now : Int) (s : NpSignalingState) : NpSignalingState :=
  { s with
    contexts := KeyedTable.adjust NpSignalingContext.ctxId ctxId
      (fun ctx => (consumeActivationBudgetGatedLocked now ctx).2) s.contexts }

/-- The section of `ActivateSig1`: the connection id and whether its transport is established. -/
def activateSig1Locked (ctxId : Nat) (peerNpid : OrbisNpId) (peerOnlineId : OrbisNpOnlineId)
    (random : UInt32) (now : Int) (s : NpSignalingState) :
    Except SignalingError (Nat × Bool) × NpSignalingState :=
  if s.initialized = false then (.error .notInitialized, s)
  else
    match s.context? ctxId with
    | none => (.error .ctxNotFound, s)
    | some ctx =>
      if ctx.active = false then (.error .ctxNotFound, s)
      else if ctx.ownerNpid = peerNpid then (.error .ownNpId, s)
      else
        let s := chargeContext ctxId now s
        if (consumeActivationBudgetGatedLocked now ctx).1 = false then (.error .exceedRateLimit, s)
        else
          let (existing, s) := reuseConnectionLocked ⟨ctxId, peerNpid⟩ s
          match ensureTransportLocked ctx.ownerOnlineId peerOnlineId peerNpid 0 0 s with
          | (none, s) => (.error .outOfMemory, s)
          | (some transportId, s) =>
            match s.transport? transportId with
            | none => (.error .outOfMemory, s)
            | some transport =>
              let established := transport.state = .established
              match existing with
              | some ci =>
                (.ok (ci.connId, established),
                  reactivateConnectionLocked ci ctxId peerNpid peerOnlineId transport s)
              | none =>
                match createLocalConnectionLocked ctxId peerNpid peerOnlineId transport random s with
                | (none, s) => (.error .outOfMemory, s)
                | (some connId, s) => (.ok (connId, established), s)

def activateSig1 (ctxId : Nat) (peerNpid : OrbisNpId) (peerOnlineId : OrbisNpOnlineId)
    (random : UInt32) (now : Int) : Signaling (Except SignalingError Nat) := do
  match ← Prog.locked (.activateSig1 ctxId peerNpid now)
      (activateSig1Locked ctxId peerNpid peerOnlineId random now) with
  | .error error => pure (.error error)
  | .ok (connId, reusedEstablished) =>
    Prog.when reusedEstablished (do
      let found ← inLock (fun s => (s.connection? connId, s))
      Prog.forSome found (fun ci =>
        Prog.when (ci.transportId ≠ 0) (establishConnection ci.transportId false now)))
    pure (.ok connId)

def deactivateCloseLocked (connId : Nat) (s : NpSignalingState) : NpSignalingState :=
  match s.connection? connId with
  | none => s
  | some ci =>
    match s.transport? ci.transportId with
    | none => s
    | some transport =>
      if transport.state = .established ∧ ci.deadFired = false then
        sendControlCloseLocked ci .deactivate s
      else s

def deactivateSig1 (connId : Nat) : Signaling Unit := do
  updateLocked (deactivateCloseLocked connId)
  closeConnectionAndDispatchDead connId .terminatedByMyself .terminatedByMyself

def terminateCloseLocked (connId : Nat) (s : NpSignalingState) : NpSignalingState :=
  match s.connection? connId with
  | none => s
  | some ci => sendControlCloseLocked ci .terminate s

def terminateSig1 (connId : Nat) : Signaling Unit := do
  updateLocked (terminateCloseLocked connId)
  closeConnectionAndDispatchDead connId .terminatedByMyself .terminatedByMyself

/-! ## Matching2 entry points -/

def shouldConnectToPeer (room : RoomCache) (self peer : Nat) : Bool :=
  if peer = 0 ∨ peer = self then false
  else if room.signalingType = .none then false
  else if room.signalingType = .star ∧ room.signalingMainMember ≠ 0 then
    self = room.signalingMainMember || peer = room.signalingMainMember
  else true

/-- `resolved` is the answer of `ResolvePeer`, asked only when the member has no endpoint. -/
def resolvePeerEndpoint (member : MemberCache) (resolved : Option (UInt32 × UInt16)) :
    Option (UInt32 × UInt16) :=
  if member.addr ≠ 0 ∧ member.port ≠ 0 then some (member.addr, member.port)
  else if onlineIdToString member.npId.handle = [] then none
  else
    match resolved with
    | some (addr, port) => if addr ≠ 0 ∧ port ≠ 0 then some (addr, port) else none
    | none => none

def matching2Targets (ctx : ContextObject) (s : NpSignalingState) : List MemberCache :=
  match KeyedTable.lookup Matching2ContextCache.ctxId ctx.ctxId s.caches with
  | none => []
  | some cache =>
    cache.rooms.flatMap (fun room =>
      room.members.filter (fun member => shouldConnectToPeer room ctx.myMemberId member.memberId))

/-- The section for one target: its transport, ready to send an offer. -/
def matching2TransportLocked (onlineId : OrbisNpOnlineId) (member : MemberCache) (addr : UInt32)
    (port : UInt16) (s : NpSignalingState) : Option PeerTransport × NpSignalingState :=
  match ensureTransportLocked onlineId member.npId.handle member.npId addr port s with
  | (none, s) => (none, s)
  | (some transportId, s) =>
    let s := s.adjustTransport transportId (fun t =>
      if t.state = .waitOffer then setTransportStateLocked .sendingOffer t else t)
    (s.transport? transportId, s)

def startMatching2Targets (ctx : ContextObject) (resolve : Nat → Option (UInt32 × UInt16)) :
    Nat → List MemberCache → Signaling (List Nat)
  | _, [] => pure []
  | i, member :: rest => do
    match resolvePeerEndpoint member (resolve i) with
    | none => startMatching2Targets ctx resolve (i + 1) rest
    | some (addr, port) =>
      match ← inLock (matching2TransportLocked ctx.onlineId member addr port) with
      | none => startMatching2Targets ctx resolve (i + 1) rest
      | some transport =>
        updateLocked (updatePeer ctx.ctxId member.memberId (fun peer =>
          { peer with
            connId := transport.transportId
            memberId := member.memberId
            addr
            port
            status := if transport.status = .active then .active else .pending }))
        let pending ← startMatching2Targets ctx resolve (i + 1) rest
        pure (if transport.state = .established then pending
          else transport.transportId :: pending)

/-- `ready` is the answer of the `ensure_transport` hook. -/
def startMatching2 (ctx : ContextObject) (ready : Bool)
    (resolve : Nat → Option (UInt32 × UInt16)) (now : Int) : Signaling Unit := do
  Prog.when (ctx.signalingCallback ∧ ready) (do
    let targets ← inLock (fun s => (matching2Targets ctx s, s))
    let pendingTransports ← startMatching2Targets ctx resolve 0 targets
    syncMatching2Peers now
    Prog.forEach pendingTransports (fun transportId =>
      startTransportHandshakeInitiator transportId now))

def roomTransports (ctxId roomId : Nat) (s : NpSignalingState) : List Nat :=
  match KeyedTable.lookup Matching2ContextCache.ctxId ctxId s.caches with
  | none => []
  | some cache =>
    match KeyedTable.lookup RoomCache.roomId roomId cache.rooms with
    | none => []
    | some room =>
      room.members.filterMap (fun member =>
        match KeyedTable.lookup PeerInfo.memberId member.memberId cache.peers with
        | some peer => if peer.connId ≠ 0 then some peer.connId else none
        | none => none)

def stopMatching2Room (ctxId roomId : Nat) (errorCode : SignalingError)
    (matching2ErrorCode : Matching2Error) : Signaling Unit := do
  let transports ← inLock (fun s => (roomTransports ctxId roomId s, s))
  Prog.forEach transports (fun transportId => do
    let used ← inLock (fun s => (hasSig1ConnectionForTransportLocked transportId s, s))
    Prog.when (used = false)
      (closeTransportAndDispatchDead transportId errorCode matching2ErrorCode))

def stopMatching2 (ctxId : Nat) (errorCode : SignalingError)
    (matching2ErrorCode : Matching2Error) : Signaling Unit := do
  let rooms ← inLock (fun s =>
    ((match KeyedTable.lookup Matching2ContextCache.ctxId ctxId s.caches with
      | some cache => cache.rooms.map (·.roomId)
      | none => []), s))
  Prog.forEach rooms (fun roomId => stopMatching2Room ctxId roomId errorCode matching2ErrorCode)

def findMatching2MemberNpId (accountId : UInt64) (s : NpSignalingState) : Option OrbisNpId :=
  let members :=
    s.contextObjects.flatMap (fun ctx =>
      (KeyedTable.lookup Matching2ContextCache.ctxId ctx.ctxId s.caches).elim []
        (fun cache => cache.rooms.flatMap (·.members)))
  (members.find? (fun member =>
    member.accountId = accountId && member.npId.handle.first ≠ 0)).map (·.npId)

end NpSignaling
