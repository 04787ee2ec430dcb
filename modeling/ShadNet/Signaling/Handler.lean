import ShadNet.Signaling.State

/-!
# The signaling handler

Functions ending in `Locked` are what the source does inside one critical
section of the signaling mutex. A function that takes the mutex several times is
a program of such sections. `now` is the clock reading of the call; a loop that
sends several packets takes one reading per transport.
-/

namespace NpSignaling

open LockProgram

def kMatching2StepInterval : Int := 500000

def kMatching2Timeout : Int := 30000000

def kMatching2EstablishDelay : Int := 1000000

/-- Names a critical section in the schedules of interleaved runs. -/
inductive LockSection where
  | startTransportHandshakeInitiator (transportId : Nat)
  | establishConnection (transportId : Nat)
  | activateSig1 (ctxId : Nat) (peerNpid : OrbisNpId) (now : Int)
  | activateConnectionA (ctxId : Nat)
  | handleControlPacket (packet : SignalingControl)
  | createContext
  | joinDispatch
  | reset
  | other
  deriving DecidableEq, Repr

abbrev Signaling (α : Type) := Prog NpSignalingState LockSection α

abbrev inLock {α : Type} (body : NpSignalingState → α × NpSignalingState) : Signaling α :=
  Prog.locked .other body

abbrev updateLocked (body : NpSignalingState → NpSignalingState) : Signaling Unit :=
  Prog.update .other body

/-! ## Transports -/

def setTransportStateLocked (newState : ConnState) (transport : PeerTransport) : PeerTransport :=
  { transport with state := newState, status := statusFromState newState }

def transportMatchesOnlineId (transport : PeerTransport) (onlineId : List UInt8) : Bool :=
  transport.state ≠ .inactive && onlineIdToString transport.onlineId = onlineId

def findTransportByOnlineIdLocked (onlineId : List UInt8) (s : NpSignalingState) :
    Option PeerTransport :=
  s.peerTransports.find? (fun transport => transportMatchesOnlineId transport onlineId)

def hasSig1ConnectionForTransportLocked (transportId : Nat) (s : NpSignalingState) : Bool :=
  s.connections.any (fun ci =>
    ci.transportId = transportId && ci.status ≠ .inactive && !ci.deadFired)

def syncSig1StatusLocked (transport : PeerTransport) (ci : ConnectionInfo) : ConnectionInfo :=
  { ci with status := transport.status }

def syncSig1ConnectionsForTransportLocked (transportId : Nat) (s : NpSignalingState) :
    NpSignalingState :=
  match s.transport? transportId with
  | none => s
  | some transport =>
    { s with
      connections := s.connections.map (fun ci =>
        if ci.transportId = transportId then syncSig1StatusLocked transport ci else ci) }

def createTransportLocked (localOnlineId peerOnlineId : OrbisNpOnlineId) (peerNpid : OrbisNpId)
    (addr : UInt32) (port : UInt16) (s : NpSignalingState) : Option Nat × NpSignalingState :=
  match allocateTransportIdLocked s with
  | (none, s) => (none, s)
  | (some transportId, s) =>
    let transport : PeerTransport :=
      { transportId
        localOnlineId
        onlineId := peerOnlineId
        npid := peerNpid
        addr
        port
        status := .pending
        state := .sendingOffer
        isInitiator := true }
    (some transportId, { s with
      peerTransports := KeyedTable.store PeerTransport.transportId transport s.peerTransports })

/-- What `EnsureTransportLocked` does to the transport it found. -/
def refreshTransport (localOnlineId peerOnlineId : OrbisNpOnlineId) (peerNpid : OrbisNpId)
    (addr : UInt32) (port : UInt16) (transport : PeerTransport) : PeerTransport :=
  let transport :=
    if transport.localOnlineId.first = 0 then { transport with localOnlineId } else transport
  let transport :=
    if transport.onlineId.first = 0 then
      { transport with onlineId := peerOnlineId, npid := peerNpid }
    else transport
  let transport := if addr ≠ 0 ∧ port ≠ 0 then { transport with addr, port } else transport
  if transport.state = .inactive then
    { setTransportStateLocked .sendingOffer transport with isInitiator := true }
  else transport

def ensureTransportLocked (localOnlineId peerOnlineId : OrbisNpOnlineId) (peerNpid : OrbisNpId)
    (addr : UInt32) (port : UInt16) (s : NpSignalingState) : Option Nat × NpSignalingState :=
  match findTransportByOnlineIdLocked (onlineIdToString peerOnlineId) s with
  | none => createTransportLocked localOnlineId peerOnlineId peerNpid addr port s
  | some found =>
    (some found.transportId, s.adjustTransport found.transportId
      (refreshTransport localOnlineId peerOnlineId peerNpid addr port))

/-! ## Connections by online id -/

def connectionMatchesOnlineId (ci : ConnectionInfo) (onlineId : List UInt8) : Bool :=
  !ci.deadFired && ci.status ≠ .inactive && onlineIdToString ci.onlineId = onlineId

/-- The preferred context is tried first (0 for none), then any context. -/
def findConnectionByOnlineIdLocked (onlineId : List UInt8) (preferredCtxId : Nat)
    (s : NpSignalingState) : Option ConnectionInfo :=
  let preferred :=
    if preferredCtxId ≠ 0 then
      s.connections.find? (fun ci =>
        ci.ctxId = preferredCtxId && connectionMatchesOnlineId ci onlineId)
    else none
  match preferred with
  | some ci => some ci
  | none => s.connections.find? (fun ci => connectionMatchesOnlineId ci onlineId)

/-! ## Packets -/

def makeHandshakeLocked (externalIp : UInt32) (transport : PeerTransport) (kind : HandshakeKind) :
    SignalingHandshake :=
  { kind
    fromConnId := transport.transportId
    onlineIdFrom := transport.localOnlineId.data
    onlineIdTo := transport.onlineId.data
    mappedAddr := externalIp }

/-- `static_cast<u64>(NowUs())`. -/
def nonceOf (now : Int) : BitVec 64 := BitVec.ofInt 64 now

def sendHandshakeLocked (transportId : Nat) (packet : SignalingHandshake) (now : Int)
    (s : NpSignalingState) : NpSignalingState :=
  match s.transport? transportId with
  | none => s
  | some transport =>
    if transport.addr = 0 ∨ transport.port = 0 then s
    else
      syncSig1ConnectionsForTransportLocked transportId
        ((s.adjustTransport transportId (fun t => { t with lastHandshakeSendUs := now })).send
          ⟨transport.addr, transport.port, .handshake packet⟩)

def makeControlLocked (externalIp : UInt32) (transport : PeerTransport) (kind : ControlKind) :
    SignalingControl :=
  { kind
    fromConnId := transport.transportId
    onlineIdFrom := transport.localOnlineId.data
    onlineIdTo := transport.onlineId.data
    mappedAddr := externalIp }

def sendActivate (ci : ConnectionInfo) (s : NpSignalingState) : NpSignalingState :=
  match s.transport? ci.transportId with
  | none => s
  | some transport =>
    if transport.addr = 0 ∨ transport.port = 0 then s
    else
      s.send ⟨transport.addr, transport.port,
        .control (makeControlLocked s.externalIp transport .activationRequest)⟩

def sendControlCloseLocked (ci : ConnectionInfo) (reason : ControlReason)
    (s : NpSignalingState) : NpSignalingState :=
  match s.transport? ci.transportId with
  | none => s
  | some transport =>
    if transport.addr = 0 ∨ transport.port = 0 then s
    else
      s.send ⟨transport.addr, transport.port,
        .control { makeControlLocked s.externalIp transport .close with reason }⟩

def queueActivationLocked (connId : Nat) (peerOnlineId : List UInt8) (startHandshake : Bool)
    (s : NpSignalingState) : NpSignalingState :=
  { s with pendingActivations := s.pendingActivations ++ [⟨connId, peerOnlineId, startHandshake⟩] }

/-! ## Starting a handshake -/

/-- The packet the initiator sends in each state; nothing once established. -/
def initiatorKind : ConnState → Option HandshakeKind
  | .sendingAccept => some .accept
  | .waitOffer => some .offer
  | .connCheck => some .check
  | .sendingOffer => some .offer
  | .waitAccept => some .offer
  | .established => none
  | .inactive => some .offer

def initiatorTransport (transport : PeerTransport) : PeerTransport :=
  match transport.state with
  | .waitOffer => setTransportStateLocked .sendingOffer transport
  | .inactive => setTransportStateLocked .sendingOffer transport
  | _ => transport

def startedTransport (transport : PeerTransport) : PeerTransport :=
  { initiatorTransport transport with isInitiator := true }

def initiatorPacket (externalIp : UInt32) (kind : HandshakeKind) (now : Int)
    (transport : PeerTransport) : SignalingHandshake :=
  let packet := makeHandshakeLocked externalIp transport kind
  if kind = .check then { packet with nonce := nonceOf now } else packet

def startTransportHandshakeInitiatorLocked (transportId : Nat) (now : Int)
    (s : NpSignalingState) : NpSignalingState :=
  match s.transport? transportId with
  | none => s
  | some transport =>
    match initiatorKind transport.state with
    | none => s.adjustTransport transportId (fun t => { t with isInitiator := true })
    | some kind =>
      sendHandshakeLocked transportId
        (initiatorPacket s.externalIp kind now (startedTransport transport)) now
        (s.adjustTransport transportId startedTransport)

def startTransportHandshakeInitiator (transportId : Nat) (now : Int) : Signaling Unit :=
  Prog.update (.startTransportHandshakeInitiator transportId)
    (startTransportHandshakeInitiatorLocked transportId now)

/-! ## Matching2 peers of a transport -/

def peerStatus : ConnStatus → Matching2Conn
  | .active => .active
  | .pending => .pending
  | .inactive => .inactive

def averageRtt (transport : PeerTransport) : Nat :=
  let samples := transport.probeRttSamples.filter (fun sample => 0 < sample)
  if samples = [] then 0 else (samples.foldl (· + ·) (0 : Int) / samples.length).toNat

def roomOfMember (cache : Matching2ContextCache) (memberId : Nat) : Option RoomCache :=
  cache.rooms.find? (fun room => room.members.any (fun member => member.memberId = memberId))

def queueMatching2SignalingEvent (ctx : ContextObject) (roomId memberId : Nat)
    (established : Bool) (errorCode : Matching2Error) (s : NpSignalingState) :
    NpSignalingState :=
  if ctx.signalingCallback then
    { s with
      matching2Events := s.matching2Events ++ [⟨ctx.ctxId, roomId, memberId, established, errorCode⟩] }
  else s

/-- One context of the loop of `QueueMatching2DeadForTransport`. -/
def queueMatching2DeadForContext (transportId : Nat) (errorCode : Matching2Error)
    (ctx : ContextObject) (s : NpSignalingState) : NpSignalingState :=
  match KeyedTable.lookup Matching2ContextCache.ctxId ctx.ctxId s.caches with
  | none => s
  | some cache =>
    let gone := cache.peers.filter (fun peer => peer.connId = transportId)
    let peers := cache.peers.map (fun peer =>
      if peer.connId = transportId then
        { peer with status := .inactive, sentEstablished := false, activeSinceUs := 0 }
      else peer)
    let s := { s with
      caches := KeyedTable.adjust Matching2ContextCache.ctxId ctx.ctxId
        (fun cache => { cache with peers }) s.caches }
    gone.foldl
      (fun s peer =>
        match roomOfMember cache peer.memberId with
        | some room =>
          if room.roomId ≠ 0 then
            queueMatching2SignalingEvent ctx room.roomId peer.memberId false errorCode s
          else s
        | none => s) s

def queueMatching2DeadForTransport (transportId : Nat) (errorCode : Matching2Error)
    (s : NpSignalingState) : NpSignalingState :=
  s.contextObjects.foldl
    (fun s ctx => queueMatching2DeadForContext transportId errorCode ctx s) s

/-! ## Closing -/

/-- The first section: the transport of the connection, and whether its context gets the event. -/
def closeConnectionLocked (connId : Nat) (s : NpSignalingState) :
    Option (Nat × Bool) × NpSignalingState :=
  match s.connection? connId with
  | none => (none, s)
  | some ci =>
    if ci.status = .inactive ∨ ci.deadFired then (none, s)
    else
      (some (ci.transportId, ci.ctxId ≠ 0),
        (s.adjustTransport ci.transportId (setTransportStateLocked .inactive)).adjustConnection
          connId (fun ci => { ci with status := .inactive, deadFired := true }))

def closeConnectionAndDispatchDead (connId : Nat) (sigErrorCode : SignalingError)
    (matching2ErrorCode : Matching2Error) : Signaling Unit := do
  match ← inLock (closeConnectionLocked connId) with
  | none => pure ()
  | some (transportId, fireSig1) =>
    Prog.when (transportId ≠ 0)
      (updateLocked (queueMatching2DeadForTransport transportId matching2ErrorCode))
    Prog.when fireSig1 (updateLocked (dispatchConnectionEvent connId .dead (some sigErrorCode)))
    updateLocked (removeConnectionLocked connId)

/-- The first section: the connections whose contexts get the event. -/
def closeTransportLocked (transportId : Nat) (s : NpSignalingState) :
    Option (List Nat) × NpSignalingState :=
  match s.transport? transportId with
  | none => (none, s)
  | some transport =>
    if transport.state = .inactive then (none, s)
    else
      let closing := fun ci : ConnectionInfo => ci.transportId = transportId && !ci.deadFired
      let sig1Conns :=
        (s.connections.filter (fun ci => closing ci && ci.ctxId ≠ 0)).map (·.connId)
      (some sig1Conns,
        { s.adjustTransport transportId (setTransportStateLocked .inactive) with
          connections := s.connections.map (fun ci =>
            if closing ci then { ci with deadFired := true, status := .inactive } else ci) })

def eraseTransportLocked (transportId : Nat) (sig1Conns : List Nat) (s : NpSignalingState) :
    NpSignalingState :=
  let s := sig1Conns.foldl (fun s connId => removeConnectionLocked connId s) s
  { s with
    peerTransports := KeyedTable.remove PeerTransport.transportId transportId s.peerTransports }

def closeTransportAndDispatchDead (transportId : Nat) (sigErrorCode : SignalingError)
    (matching2ErrorCode : Matching2Error) : Signaling Unit := do
  match ← inLock (closeTransportLocked transportId) with
  | none => pure ()
  | some sig1Conns =>
    updateLocked (queueMatching2DeadForTransport transportId matching2ErrorCode)
    Prog.forEach sig1Conns (fun connId =>
      updateLocked (dispatchConnectionEvent connId .dead (some sigErrorCode)))
    updateLocked (eraseTransportLocked transportId sig1Conns)

/-! ## Establishing -/

def peerActivatedDue (ci : ConnectionInfo) : Bool :=
  ci.peerActivated && !ci.locallyActivated && !ci.peerActivatedFired

def establishedDue (ci : ConnectionInfo) : Bool :=
  ci.ctxId ≠ 0 && ci.locallyActivated && ci.status = .active && !ci.sig1EstablishedEventFired

def mutualDue (ci : ConnectionInfo) : Bool :=
  ci.ctxId ≠ 0 && ci.locallyActivated && ci.status = .active && ci.peerActivated &&
    !ci.mutualFired

/-- One round of the loop of `EstablishConnection` over the connections. -/
def establishInfo (ci : ConnectionInfo) : ConnectionInfo :=
  { ci with
    peerActivatedFired := ci.peerActivatedFired || peerActivatedDue ci
    sig1EstablishedEventFired := ci.sig1EstablishedEventFired || establishedDue ci
    mutualFired := ci.mutualFired || mutualDue ci }

/-- What `EstablishConnection` has to send and to stage after its section. -/
structure EstablishOutcome where
  established : Option Datagram := none
  sig1PeerActivated : List Nat := []
  sig1Established : List Nat := []
  sig1Mutual : List Nat := []

/-- The transport after the section, which establishes it unless that was done before. -/
def establishTransport (peerActivatedHint : Bool) (now : Int) (transport : PeerTransport) :
    PeerTransport :=
  let transport :=
    if peerActivatedHint then { transport with peerActivated := true } else transport
  if transport.transportEstablishedFired then transport
  else
    { setTransportStateLocked .established transport with
      transportEstablishedFired := true, lastPeerRxUs := now }

def establishConnectionLocked (transportId : Nat) (peerActivatedHint : Bool) (now : Int)
    (s : NpSignalingState) : EstablishOutcome × NpSignalingState :=
  match s.transport? transportId with
  | none => ({}, s)
  | some transport =>
    let after := establishTransport peerActivatedHint now transport
    let established :=
      if !transport.transportEstablishedFired && transport.addr ≠ 0 && transport.port ≠ 0 then
        some ⟨transport.addr, transport.port,
          .control (makeControlLocked s.externalIp after .established)⟩
      else none
    let synced :=
      (s.connections.filter (fun ci => ci.transportId = transportId)).map
        (syncSig1StatusLocked after)
    ({ established
       sig1PeerActivated := (synced.filter peerActivatedDue).map (·.connId)
       sig1Established := (synced.filter establishedDue).map (·.connId)
       sig1Mutual := (synced.filter mutualDue).map (·.connId) },
      { s.adjustTransport transportId (establishTransport peerActivatedHint now) with
        connections := s.connections.map (fun ci =>
          if ci.transportId = transportId then establishInfo (syncSig1StatusLocked after ci)
          else ci) })

def sendDatagram (datagram : Option Datagram) : Signaling Unit :=
  Prog.forSome datagram (fun datagram => updateLocked (NpSignalingState.send datagram))

def establishConnection (transportId : Nat) (peerActivatedHint : Bool) (now : Int) :
    Signaling Unit := do
  let outcome ← Prog.locked (.establishConnection transportId)
    (establishConnectionLocked transportId peerActivatedHint now)
  sendDatagram outcome.established
  Prog.forEach outcome.sig1PeerActivated (fun connId =>
    updateLocked (dispatchPeerActivatedEvent connId))
  Prog.forEach outcome.sig1Established (fun connId =>
    updateLocked (dispatchConnectionEvent connId .established none))
  Prog.forEach outcome.sig1Mutual (fun connId =>
    updateLocked (dispatchConnectionEvent connId .mutualActivated none))

/-! ## Pending activations -/

/-- What the peer resolver answered for one activation, and the clock at that moment. -/
structure Resolution where
  endpoint : Option (UInt32 × UInt16)
  now : Int

def Resolution.resolved (resolution : Resolution) : Option (UInt32 × UInt16) :=
  match resolution.endpoint with
  | some (addr, port) => if addr ≠ 0 ∧ port ≠ 0 then some (addr, port) else none
  | none => none

def liveConnection? (connId : Nat) (s : NpSignalingState) : Option ConnectionInfo :=
  match s.connection? connId with
  | some ci => if ci.status = .inactive then none else some ci
  | none => none

/-- The section after the resolver answered: whether the transport is established already. -/
def activationResolvedLocked (connId : Nat) (addr : UInt32) (port : UInt16)
    (s : NpSignalingState) : Option Bool × NpSignalingState :=
  match liveConnection? connId s with
  | none => (none, s)
  | some ci =>
    match s.transport? ci.transportId with
    | none => (none, s)
    | some transport =>
      (some (transport.state = .established),
        sendActivate ci
          ((s.adjustTransport ci.transportId (fun t => { t with addr, port })).adjustConnection
            connId (syncSig1StatusLocked transport)))

/-- One entry of the work list; `true` puts it back for the next round. -/
def processActivation (resolution : Resolution) (act : PendingActivation) : Signaling Bool := do
  match ← inLock (fun s => (liveConnection? act.connId s, s)) with
  | none => pure false
  | some ci =>
    match resolution.resolved with
    | none => pure true
    | some (addr, port) =>
      match ← inLock (activationResolvedLocked act.connId addr port) with
      | none => pure false
      | some alreadyEstablished =>
        Prog.when act.startHandshake
          (startTransportHandshakeInitiator ci.transportId resolution.now)
        Prog.when (act.startHandshake = false ∧ alreadyEstablished = true)
          (establishConnection ci.transportId false resolution.now)
        pure false

def processWork (resolve : Nat → Resolution) : Nat → List PendingActivation →
    Signaling (List PendingActivation)
  | _, [] => pure []
  | i, act :: work => do
    let again ← processActivation (resolve i) act
    let retry ← processWork resolve (i + 1) work
    pure (if again then act :: retry else retry)

def processPendingActivations (resolve : Nat → Resolution) : Signaling Unit := do
  let work ← inLock (fun s => (s.pendingActivations, { s with pendingActivations := [] }))
  let retry ← processWork resolve 0 work
  Prog.when (retry ≠ [])
    (updateLocked (fun s => { s with pendingActivations := s.pendingActivations ++ retry }))

end NpSignaling
