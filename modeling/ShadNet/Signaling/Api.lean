import ShadNet.Signaling.Runtime

/-!
# The signaling library calls

`Op` lists everything that can happen to the signaling runtime: the calls of the
library, what the network and the timers bring, and what the libraries beside it
do. `Op.program` gives the source's function for each, as a program of critical
sections.
-/

namespace NpSignaling

open LockProgram

/-! ## Runtime threads -/

def startRuntime (s : NpSignalingState) : NpSignalingState :=
  if s.runtimeRunning then s else { s with runtimeRunning := true }

def stopRuntime (s : NpSignalingState) : NpSignalingState :=
  if s.contextRefs > 0 then s else { s with runtimeRunning := false }

def addContextRef : Signaling Unit := do
  updateLocked (fun s => { s with contextRefs := s.contextRefs + 1 })
  updateLocked startRuntime

def releaseContextRef : Signaling Unit := do
  let shouldStop ← inLock (fun s =>
    let s := if s.contextRefs > 0 then { s with contextRefs := s.contextRefs - 1 } else s
    (decide (s.contextRefs = 0), s))
  Prog.when shouldStop (updateLocked stopRuntime)

/-! ## Library calls -/

/-- `heapOk` and `echoOk` are the answers of the kernel calls behind the two set-up steps. -/
def initializeLocked (heapOk echoOk : Bool) (s : NpSignalingState) : NpSignalingState :=
  if s.initialized then s
  else if heapOk = false then s
  else if echoOk then { s with initialized := true, dispatchStop := false }
  else stopDispatchLocked { s with initialized := false }

def resetSig1Data (s : NpSignalingState) : NpSignalingState :=
  { s with
    contexts := [], connections := [], npidToConn := [], peerNetinfoResults := []
    pendingActivations := [], peerNetinfoNextId := 1, peakConnectionCount := 0
    lastAssignedContextId := 0, connectionIdSeed := 0 }

/-- `sceNpJoinThread` returns once the dispatch thread has left its last callback. -/
def joinDispatchThread : Signaling Unit := Prog.update .joinDispatch (fun s => s)

def sceNpSignalingTerminate : Signaling (Except SignalingError Unit) := do
  let running ← inLock (fun s => (s.initialized, { s with initialized := false }))
  if running = false then pure (.error .notInitialized)
  else
    updateLocked stopDispatchLocked
    joinDispatchThread
    let contexts ← Prog.locked .reset (fun s => (s.contexts, resetSig1Data s))
    Prog.forEach contexts (fun _ => releaseContextRef)
    pure (.ok ())

/-- What both create calls store for a new context. -/
structure ContextRequest where
  ownerNpid : OrbisNpId
  callback : Option Nat
  callbackArg : Nat
  flags : UInt32
  accountId : UInt64
  sdkVersion : UInt32

def newContext (request : ContextRequest) (ctxId : Nat) (now : Int) : NpSignalingContext :=
  { ctxId
    callback := request.callback
    callbackArg := request.callbackArg
    active := true
    ownerNpid := request.ownerNpid
    ownerOnlineId := request.ownerNpid.handle
    flags := request.flags
    accountId := request.accountId
    compiledSdkVersion := request.sdkVersion
    activateBudgetUs := kActivateBudgetMaxUs
    activateLastUpdateUs := now }

def createContextLocked (request : ContextRequest) (now : Int) (s : NpSignalingState) :
    Except SignalingError Nat × NpSignalingState :=
  if s.initialized = false then (.error .notInitialized, s)
  else
    match allocateContextIdLocked s with
    | (none, s) => (.error .ctxidNotAvailable, s)
    | (some ctxId, s) =>
      (.ok ctxId, { s with
        contexts :=
          KeyedTable.store NpSignalingContext.ctxId (newContext request ctxId now) s.contexts })

def createContextWith (request : ContextRequest) (now : Int) :
    Signaling (Except SignalingError Nat) := do
  match ← Prog.locked .createContext (createContextLocked request now) with
  | .error error => pure (.error error)
  | .ok ctxId =>
    addContextRef
    pure (.ok ctxId)

/-- `valid` is the answer of `sceNpIntIsValidOnlineId` for the handle. -/
def sceNpSignalingCreateContext (npid : OrbisNpId) (valid : Bool) (callback : Option Nat)
    (callbackArg : Nat) (sdkVersion : UInt32) (now : Int) :
    Signaling (Except SignalingError Nat) := do
  if ← inLock (fun s => (s.initialized, s)) then
    if valid then
      createContextWith ⟨npid, callback, callbackArg, 0x2, 0, sdkVersion⟩ now
    else pure (.error .invalidArgument)
  else pure (.error .notInitialized)

/-- `account` is what `sceNpGetNpId` and `sceNpGetAccountIdA` know of the user, if anything. -/
def sceNpSignalingCreateContextA (account : Option (OrbisNpId × UInt64)) (callback : Option Nat)
    (callbackArg : Nat) (sdkVersion : UInt32) (now : Int) :
    Signaling (Except SignalingError Nat) := do
  if ← inLock (fun s => (s.initialized, s)) then
    match account with
    | none => pure (.error .invalidArgument)
    | some (npid, accountId) =>
      if accountId = 0 then pure (.error .invalidArgument)
      else createContextWith ⟨npid, callback, callbackArg, 0x6, accountId, sdkVersion⟩ now
  else pure (.error .notInitialized)

def contextConnections (ctxId : Nat) (s : NpSignalingState) : List Nat :=
  (s.connections.filter (fun ci => ci.ctxId = ctxId && ci.status ≠ .inactive)).map (·.connId)

def eraseContextLocked (ctxId : Nat) (s : NpSignalingState) : NpSignalingState :=
  let s := removeContextConnectionsLocked ctxId s
  { s with
    peerNetinfoResults := s.peerNetinfoResults.filter (fun result => result.ctxId ≠ ctxId)
    contexts := KeyedTable.remove NpSignalingContext.ctxId ctxId s.contexts }

def sceNpSignalingDeleteContext (ctxId : Nat) : Signaling (Except SignalingError Unit) := do
  let activeConns ← inLock (fun s =>
    (if s.initialized then some (contextConnections ctxId s) else none, s))
  match activeConns with
  | none => pure (.error .notInitialized)
  | some activeConns =>
    Prog.forEach activeConns terminateSig1
    updateLocked (eraseContextLocked ctxId)
    releaseContextRef
    pure (.ok ())

def sceNpSignalingActivateConnection (ctxId : Nat) (peerNpid : OrbisNpId) (valid : Bool)
    (random : UInt32) (now : Int) : Signaling (Except SignalingError Nat) := do
  if ← inLock (fun s => (s.initialized, s)) then
    if valid then activateSig1 ctxId peerNpid peerNpid.handle random now
    else pure (.error .invalidArgument)
  else pure (.error .notInitialized)

/-- The stub taken when no matching2 room names the account: a connection without a peer. -/
def activateConnectionAStubLocked (ctxId : Nat) (accountId : UInt64) (platformType : UInt32)
    (random : UInt32) (now : Int) (s : NpSignalingState) :
    Except SignalingError Nat × NpSignalingState :=
  if s.initialized = false then (.error .notInitialized, s)
  else if accountId = 0 ∨ platformType = 0 then (.error .invalidArgument, s)
  else
    match s.context? ctxId with
    | none => (.error .ctxNotFound, s)
    | some ctx =>
      if ctx.active = false then (.error .ctxNotFound, s)
      else if ctx.flags &&& 0x4 ≠ 0 ∧ ctx.accountId = accountId ∧ ctx.platformType = platformType
      then (.error .ownPeerAddress, s)
      else
        let s := chargeContext ctxId now s
        if (consumeActivationBudgetGatedLocked now ctx).1 = false then (.error .exceedRateLimit, s)
        else
          match allocateConnectionIdLocked random s with
          | (none, s) => (.error .outOfMemory, s)
          | (some connId, s) =>
            (.ok connId,
              insertConnection { connId, ctxId, status := .pending, serial := s.connectionsMade } s)

def sceNpSignalingActivateConnectionA (ctxId : Nat) (accountId : UInt64) (platformType : UInt32)
    (random : UInt32) (now : Int) : Signaling (Except SignalingError Nat) := do
  let known ← inLock (fun s =>
    (if accountId ≠ 0 ∧ platformType ≠ 0 then findMatching2MemberNpId accountId s else none, s))
  match known with
  | some peerNpid =>
    let result ← activateSig1 ctxId peerNpid peerNpid.handle random now
    pure (match result with
      | .error .ownNpId => .error .ownPeerAddress
      | result => result)
  | none =>
    Prog.locked (.activateConnectionA ctxId)
      (activateConnectionAStubLocked ctxId accountId platformType random now)

/-- The checks before a connection is closed by its owner. -/
def ownConnectionLocked (ctxId connId : Nat) (s : NpSignalingState) : Option SignalingError :=
  if s.initialized = false then some .notInitialized
  else if isContextValidLocked ctxId s = false then some .ctxNotFound
  else
    match s.connection? connId with
    | none => some .connNotFound
    | some ci => if ci.ctxId ≠ ctxId then some .connNotFound else none

def sceNpSignalingDeactivateConnection (ctxId connId : Nat) :
    Signaling (Except SignalingError Unit) := do
  match ← inLock (fun s => (ownConnectionLocked ctxId connId s, s)) with
  | some error => pure (.error error)
  | none =>
    deactivateSig1 connId
    pure (.ok ())

def sceNpSignalingTerminateConnection (ctxId connId : Nat) :
    Signaling (Except SignalingError Unit) := do
  match ← inLock (fun s => (ownConnectionLocked ctxId connId s, s)) with
  | some error => pure (.error error)
  | none =>
    terminateSig1 connId
    updateLocked (removeConnectionLocked connId)
    pure (.ok ())

/-- The NAT answers are those of `sceNetCtlGetNatInfo`. -/
def getPeerNetInfoLocked (ctxId : Nat) (externalIpv4 natRouteKind : UInt32)
    (s : NpSignalingState) : Except SignalingError UInt32 × NpSignalingState :=
  if isContextValidLocked ctxId s then
    let (reqId, s) := stagePeerNetInfoResultLocked ctxId externalIpv4 natRouteKind s
    (if reqId = 0 then .error .outOfMemory else .ok reqId, s)
  else (.error .ctxNotFound, s)

def sceNpSignalingGetPeerNetInfo (ctxId : Nat) (valid : Bool)
    (externalIpv4 natRouteKind : UInt32) : Signaling (Except SignalingError UInt32) := do
  if ← inLock (fun s => (s.initialized, s)) then
    if valid then inLock (getPeerNetInfoLocked ctxId externalIpv4 natRouteKind)
    else pure (.error .invalidArgument)
  else pure (.error .notInitialized)

def getPeerNetInfoALocked (ctxId : Nat) (externalIpv4 natRouteKind : UInt32)
    (s : NpSignalingState) : Except SignalingError UInt32 × NpSignalingState :=
  if s.initialized = false then (.error .notInitialized, s)
  else
    match s.context? ctxId with
    | none => (.error .ctxNotFound, s)
    | some ctx =>
      if ctx.active = false then (.error .ctxNotFound, s)
      else if ctx.flags &&& 0x4 = 0 then (.error .invalidArgument, s)
      else getPeerNetInfoLocked ctxId externalIpv4 natRouteKind s

def sceNpSignalingGetPeerNetInfoA (ctxId : Nat) (externalIpv4 natRouteKind : UInt32) :
    Signaling (Except SignalingError UInt32) :=
  inLock (getPeerNetInfoALocked ctxId externalIpv4 natRouteKind)

/-- Both calls that take a result away; `missing` is the error of each for one not there. -/
def ownPeerNetInfoLocked (missing : SignalingError) (ctxId : Nat) (reqOrConnId : UInt32)
    (s : NpSignalingState) : Except SignalingError PeerNetInfoResult × NpSignalingState :=
  if s.initialized = false then (.error .notInitialized, s)
  else if isContextValidLocked ctxId s = false then (.error .ctxNotFound, s)
  else
    match takePeerNetInfoResultLocked ctxId reqOrConnId s with
    | (none, s) => (.error missing, s)
    | (some result, s) => (.ok result, s)

def sceNpSignalingCancelPeerNetInfo (ctxId : Nat) (reqOrConnId : UInt32) :
    Signaling (Except SignalingError Unit) := do
  let dropped ← inLock (ownPeerNetInfoLocked .reqNotFound ctxId reqOrConnId)
  pure (dropped.map (fun _ => ()))

def sceNpSignalingGetPeerNetInfoResult (ctxId : Nat) (connId : UInt32) :
    Signaling (Except SignalingError PeerNetInfoResult) :=
  inLock (ownPeerNetInfoLocked .resultNotFound ctxId connId)

def sceNpSignalingGetConnectionStatistics :
    Signaling (Except SignalingError ConnectionStatistics) := do
  if ← inLock (fun s => (s.initialized, s)) then
    let statistics ← inLock snapshotConnectionStatisticsLocked
    pure (.ok statistics)
  else pure (.error .notInitialized)

/-- One round of the dispatch thread. -/
def dispatchThreadRound : Signaling Unit := do
  let took ← inLock takeDispatchLocked
  Prog.when took (updateLocked invokeCallback)

/-! ## Everything that can happen -/

/-- The contents of the hash maps in the order a rehash leaves them in. -/
structure Tables where
  contexts : List NpSignalingContext
  connections : List ConnectionInfo
  peerTransports : List PeerTransport
  npidToConn : List NpidEntry

/-- A hash map may change its iteration order, never its contents. -/
def rehashLocked (tables : Tables) (s : NpSignalingState) : NpSignalingState :=
  if tables.contexts.isPerm s.contexts ∧ tables.connections.isPerm s.connections ∧
      tables.peerTransports.isPerm s.peerTransports ∧ tables.npidToConn.isPerm s.npidToConn then
    { s with
      contexts := tables.contexts
      connections := tables.connections
      peerTransports := tables.peerTransports
      npidToConn := tables.npidToConn }
  else s

inductive Op where
  | signalingInitialize (heapOk echoOk : Bool)
  | signalingTerminate
  | createContext (npid : OrbisNpId) (valid : Bool) (callback : Option Nat) (callbackArg : Nat)
      (sdkVersion : UInt32) (now : Int)
  | createContextA (account : Option (OrbisNpId × UInt64)) (callback : Option Nat)
      (callbackArg : Nat) (sdkVersion : UInt32) (now : Int)
  | deleteContext (ctxId : Nat)
  | activateSig1 (ctxId : Nat) (peerNpid : OrbisNpId) (random : UInt32) (now : Int)
  | activateConnection (ctxId : Nat) (peerNpid : OrbisNpId) (valid : Bool) (random : UInt32)
      (now : Int)
  | activateConnectionA (ctxId : Nat) (accountId : UInt64) (platformType : UInt32)
      (random : UInt32) (now : Int)
  | deactivateSig1 (connId : Nat)
  | terminateSig1 (connId : Nat)
  | deactivateConnection (ctxId connId : Nat)
  | terminateConnection (ctxId connId : Nat)
  | getPeerNetInfo (ctxId : Nat) (valid : Bool) (externalIpv4 natRouteKind : UInt32)
  | getPeerNetInfoA (ctxId : Nat) (externalIpv4 natRouteKind : UInt32)
  | cancelPeerNetInfo (ctxId : Nat) (reqOrConnId : UInt32)
  | getPeerNetInfoResult (ctxId : Nat) (connId : UInt32)
  | getConnectionStatistics
  | dispatchThread
  | handshakePacket (fromAddr : UInt32) (fromPort : UInt16) (packet : SignalingHandshake)
      (now : Int)
  | controlPacket (fromAddr : UInt32) (fromPort : UInt16) (packet : SignalingControl)
      (random : UInt32) (now : Int)
  | processPendingActivations (resolve : Nat → Resolution)
  | stepPendingConnections (now : Int) (sendNow : Nat → Int)
  | startMatching2 (ctx : ContextObject) (ready : Bool)
      (resolve : Nat → Option (UInt32 × UInt16)) (now : Int)
  | stopMatching2 (ctxId : Nat) (errorCode : SignalingError) (matching2ErrorCode : Matching2Error)
  | stopMatching2Room (ctxId roomId : Nat) (errorCode : SignalingError)
      (matching2ErrorCode : Matching2Error)
  | syncMatching2Peers (now : Int)
  /-- The matching2 library changes its context slots and its caches. -/
  | matching2Changed (contextObjects : List ContextObject) (caches : List Matching2ContextCache)
  | externalIpLearned (externalIp : UInt32)
  | rehash (tables : Tables)

/-- Callers of `ActivateSig1` pass the handle of the peer's `OrbisNpId` as its online id. -/
def Op.program : Op → Signaling Unit
  | .signalingInitialize heapOk echoOk => updateLocked (initializeLocked heapOk echoOk)
  | .signalingTerminate => do let _ ← sceNpSignalingTerminate
  | .createContext npid valid callback callbackArg sdkVersion now => do
    let _ ← sceNpSignalingCreateContext npid valid callback callbackArg sdkVersion now
  | .createContextA account callback callbackArg sdkVersion now => do
    let _ ← sceNpSignalingCreateContextA account callback callbackArg sdkVersion now
  | .deleteContext ctxId => do let _ ← sceNpSignalingDeleteContext ctxId
  | .activateSig1 ctxId peerNpid random now => do
    let _ ← NpSignaling.activateSig1 ctxId peerNpid peerNpid.handle random now
  | .activateConnection ctxId peerNpid valid random now => do
    let _ ← sceNpSignalingActivateConnection ctxId peerNpid valid random now
  | .activateConnectionA ctxId accountId platformType random now => do
    let _ ← sceNpSignalingActivateConnectionA ctxId accountId platformType random now
  | .deactivateSig1 connId => NpSignaling.deactivateSig1 connId
  | .terminateSig1 connId => NpSignaling.terminateSig1 connId
  | .deactivateConnection ctxId connId => do
    let _ ← sceNpSignalingDeactivateConnection ctxId connId
  | .terminateConnection ctxId connId => do
    let _ ← sceNpSignalingTerminateConnection ctxId connId
  | .getPeerNetInfo ctxId valid externalIpv4 natRouteKind => do
    let _ ← sceNpSignalingGetPeerNetInfo ctxId valid externalIpv4 natRouteKind
  | .getPeerNetInfoA ctxId externalIpv4 natRouteKind => do
    let _ ← sceNpSignalingGetPeerNetInfoA ctxId externalIpv4 natRouteKind
  | .cancelPeerNetInfo ctxId reqOrConnId => do
    let _ ← sceNpSignalingCancelPeerNetInfo ctxId reqOrConnId
  | .getPeerNetInfoResult ctxId connId => do
    let _ ← sceNpSignalingGetPeerNetInfoResult ctxId connId
  | .getConnectionStatistics => do let _ ← sceNpSignalingGetConnectionStatistics
  | .dispatchThread => dispatchThreadRound
  | .handshakePacket fromAddr fromPort packet now =>
    handleHandshakePacket fromAddr fromPort packet now
  | .controlPacket fromAddr fromPort packet random now =>
    handleControlPacket fromAddr fromPort packet random now
  | .processPendingActivations resolve => NpSignaling.processPendingActivations resolve
  | .stepPendingConnections now sendNow => NpSignaling.stepPendingConnections now sendNow
  | .startMatching2 ctx ready resolve now => NpSignaling.startMatching2 ctx ready resolve now
  | .stopMatching2 ctxId errorCode matching2ErrorCode =>
    NpSignaling.stopMatching2 ctxId errorCode matching2ErrorCode
  | .stopMatching2Room ctxId roomId errorCode matching2ErrorCode =>
    NpSignaling.stopMatching2Room ctxId roomId errorCode matching2ErrorCode
  | .syncMatching2Peers now => NpSignaling.syncMatching2Peers now
  | .matching2Changed contextObjects caches =>
    updateLocked (fun s => { s with contextObjects, caches })
  | .externalIpLearned externalIp => updateLocked (fun s => { s with externalIp })
  | .rehash tables => updateLocked (rehashLocked tables)

/-- One complete operation, run alone from its first section to its last. -/
def Op.complete (op : Op) (s : NpSignalingState) : NpSignalingState := (op.program.exec s).2

/-! Three users, for the runs that are written out. -/

def ali : OrbisNpId := npIdNamed [97, 108, 105]

def bob : OrbisNpId := npIdNamed [98, 111, 98]

def car : OrbisNpId := npIdNamed [99, 97, 114]

abbrev runOps (ops : List Op) (s : NpSignalingState) : NpSignalingState :=
  Runs.run Op.complete ops s

end NpSignaling
