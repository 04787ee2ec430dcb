import ShadNet.KeyedTable

/-!
# Records of the signaling runtime

Fixed character arrays are vectors, so `memcmp` on an `OrbisNpId` is equality.
Hash maps are keyed tables in iteration order. Connection, context and transport
ids are natural numbers; 0 stands for "none", as in the source. Times are in
microseconds of the steady clock.
-/

namespace NpSignaling

structure OrbisNpOnlineId where
  data : Vector UInt8 16
  term : UInt8
  dummy : Vector UInt8 3
  deriving DecidableEq, Repr

/-- `data[0]`, zero for an unset id. -/
def OrbisNpOnlineId.first (onlineId : OrbisNpOnlineId) : UInt8 := onlineId.data[0]

structure OrbisNpId where
  handle : OrbisNpOnlineId
  opt : Vector UInt8 8
  reserved : Vector UInt8 8
  deriving DecidableEq, Repr

def OrbisNpOnlineId.zero : OrbisNpOnlineId :=
  ⟨Vector.replicate 16 0, 0, Vector.replicate 3 0⟩

/-- `SetNpOnlineId` on the sixteen bytes of a packet field. -/
def setNpOnlineId (src : Vector UInt8 16) : OrbisNpOnlineId :=
  { OrbisNpOnlineId.zero with data := src }

def npIdFromOnlineId (onlineId : OrbisNpOnlineId) : OrbisNpId :=
  ⟨onlineId, Vector.replicate 8 0, Vector.replicate 8 0⟩

/-- The id of the user with this name, cut or filled to sixteen characters. -/
def npIdNamed (name : List UInt8) : OrbisNpId :=
  npIdFromOnlineId (setNpOnlineId (Vector.ofFn (fun i => name.getD i 0)))

/-- The text up to the first NUL, or all sixteen characters. -/
def textOf (data : Vector UInt8 16) : List UInt8 :=
  data.toList.takeWhile (· ≠ 0)

def onlineIdToString (onlineId : OrbisNpOnlineId) : List UInt8 := textOf onlineId.data

def packetOnlineIdToString (bytes : Vector UInt8 16) : List UInt8 := textOf bytes

@[simp] theorem onlineIdToString_setNpOnlineId (bytes : Vector UInt8 16) :
    onlineIdToString (setNpOnlineId bytes) = packetOnlineIdToString bytes := rfl

@[simp] theorem npIdFromOnlineId_handle (onlineId : OrbisNpOnlineId) :
    (npIdFromOnlineId onlineId).handle = onlineId := rfl

inductive ConnState where
  | inactive
  | sendingOffer
  | waitOffer
  | connCheck
  | sendingAccept
  | waitAccept
  | established
  deriving DecidableEq, Repr

inductive ConnStatus where
  | inactive
  | pending
  | active
  deriving DecidableEq, Repr

def statusFromState : ConnState → ConnStatus
  | .established => .active
  | .inactive => .inactive
  | _ => .pending

theorem statusFromState_inactive {state : ConnState} :
    statusFromState state = .inactive ↔ state = .inactive := by
  cases state <;> simp [statusFromState]

theorem statusFromState_active {state : ConnState} :
    statusFromState state = .active ↔ state = .established := by
  cases state <;> simp [statusFromState]

theorem statusFromState_pending {state : ConnState} (live : state ≠ .inactive)
    (fresh : state ≠ .established) : statusFromState state = .pending := by
  cases state <;> simp_all [statusFromState]

/-- The one-byte `kind` of a handshake packet; codes without a meaning are kept. -/
inductive HandshakeKind where
  | offer
  | accept
  | check
  | checkAck
  | other (code : UInt8)
  deriving DecidableEq, Repr

def HandshakeKind.ofCode (code : UInt8) : HandshakeKind :=
  if code = 1 then .offer
  else if code = 2 then .accept
  else if code = 3 then .check
  else if code = 4 then .checkAck
  else .other code

inductive ControlKind where
  | activationRequest
  | activationAck
  | close
  | established
  | other (code : UInt8)
  deriving DecidableEq, Repr

def ControlKind.ofCode (code : UInt8) : ControlKind :=
  if code = 1 then .activationRequest
  else if code = 2 then .activationAck
  else if code = 3 then .close
  else if code = 4 then .established
  else .other code

inductive ControlReason where
  | terminate
  | deactivate
  | other (code : UInt16)
  deriving DecidableEq, Repr

def ControlReason.ofCode (code : UInt16) : ControlReason :=
  if code = 0 then .terminate
  else if code = 1 then .deactivate
  else .other code

structure SignalingHandshake where
  kind : HandshakeKind
  onlineIdFrom : Vector UInt8 16
  onlineIdTo : Vector UInt8 16
  fromConnId : Nat
  mappedAddr : UInt32 := 0
  nonce : BitVec 64 := 0
  deriving DecidableEq, Repr

structure SignalingControl where
  kind : ControlKind
  onlineIdFrom : Vector UInt8 16
  onlineIdTo : Vector UInt8 16
  fromConnId : Nat
  mappedAddr : UInt32 := 0
  reason : ControlReason := .terminate
  deriving DecidableEq, Repr

inductive Packet where
  | handshake (packet : SignalingHandshake)
  | control (packet : SignalingControl)
  deriving DecidableEq, Repr

structure Datagram where
  destAddr : UInt32
  destPort : UInt16
  packet : Packet
  deriving DecidableEq, Repr

def kProbeSampleCount : Nat := 6

structure PeerTransport where
  transportId : Nat
  addr : UInt32 := 0
  port : UInt16 := 0
  npid : OrbisNpId
  onlineId : OrbisNpOnlineId
  localOnlineId : OrbisNpOnlineId
  status : ConnStatus := .inactive
  state : ConnState := .inactive
  peerActivated : Bool := false
  peerEstablished : Bool := false
  transportEstablishedFired : Bool := false
  isInitiator : Bool := false
  probeRttSamples : List Int := List.replicate kProbeSampleCount (-1)
  probeSampleWriteIndex : Nat := 0
  lastPeerRxUs : Int := 0
  lastHandshakeSendUs : Int := 0
  deriving DecidableEq, Repr

/-- `serial` is a history variable: the number of connections made before this one. It tells
apart two connections that were given the same id one after the other. -/
structure ConnectionInfo where
  connId : Nat
  ctxId : Nat
  transportId : Nat := 0
  status : ConnStatus := .inactive
  npid : OrbisNpId := npIdFromOnlineId .zero
  onlineId : OrbisNpOnlineId := .zero
  sig1EstablishedEventFired : Bool := false
  locallyActivated : Bool := false
  peerActivated : Bool := false
  peerActivatedFired : Bool := false
  mutualFired : Bool := false
  deadFired : Bool := false
  serial : Nat
  deriving DecidableEq, Repr

structure NpSignalingContext where
  ctxId : Nat
  callback : Option Nat
  callbackArg : Nat
  active : Bool := false
  flags : UInt32 := 0
  compiledSdkVersion : UInt32 := 0
  accountId : UInt64 := 0
  platformType : UInt32 := 0
  ownerNpid : OrbisNpId
  ownerOnlineId : OrbisNpOnlineId
  activateBudgetUs : Int := 0
  activateLastUpdateUs : Int := 0
  deriving DecidableEq, Repr

structure CtxNpIdKey where
  ctxId : Nat
  npid : OrbisNpId
  deriving DecidableEq, Repr

structure NpidEntry where
  key : CtxNpIdKey
  connId : Nat
  deriving DecidableEq, Repr

inductive SignalingEvent where
  | dead
  | established
  | peerActivated
  | peerDeactivated
  | mutualActivated
  deriving DecidableEq, Repr

inductive SignalingError where
  | notInitialized
  | alreadyInitialized
  | invalidArgument
  | outOfMemory
  | ctxidNotAvailable
  | ctxNotFound
  | connNotFound
  | reqNotFound
  | resultNotFound
  | ownNpId
  | ownPeerAddress
  | exceedRateLimit
  | timeout
  | terminatedByPeer
  | terminatedByMyself
  deriving DecidableEq, Repr

/-- An entry of `dispatch_queue`, with the serial of the connection it is about. -/
structure QueuedDispatch where
  ctxId : Nat
  connId : Nat
  eventType : SignalingEvent
  errorCode : Option SignalingError
  callback : Nat
  callbackArg : Nat
  serial : Nat
  deriving DecidableEq, Repr

/-- `connId` repeats the request id the result is kept under. -/
structure PeerNetInfoResult where
  ctxId : Nat
  connId : UInt32
  localIpv4 : UInt32 := 0
  externalIpv4 : UInt32 := 0
  natRouteKind : UInt32 := 0
  deriving DecidableEq, Repr

structure PendingActivation where
  connId : Nat
  peerOnlineId : List UInt8
  startHandshake : Bool
  deriving DecidableEq, Repr

/-! ## What the signaling code reads and writes of matching2 -/

inductive Matching2Conn where
  | inactive
  | pending
  | active
  deriving DecidableEq, Repr

structure PeerInfo where
  memberId : Nat
  connId : Nat := 0
  addr : UInt32 := 0
  port : UInt16 := 0
  status : Matching2Conn := .inactive
  sentEstablished : Bool := false
  activeSinceUs : Int := 0
  pingUs : Nat := 0
  deriving DecidableEq, Repr

structure MemberCache where
  memberId : Nat
  npId : OrbisNpId
  accountId : UInt64 := 0
  addr : UInt32 := 0
  port : UInt16 := 0
  deriving DecidableEq, Repr

inductive SignalingType where
  | none
  | mesh
  | star
  | other (code : UInt8)
  deriving DecidableEq, Repr

structure RoomCache where
  roomId : Nat
  signalingType : SignalingType := .mesh
  signalingMainMember : Nat := 0
  members : List MemberCache := []
  deriving DecidableEq, Repr

/-- `LockCache(ctx_id)`: the peers and rooms of one matching2 context slot. -/
structure Matching2ContextCache where
  ctxId : Nat
  peers : List PeerInfo := []
  rooms : List RoomCache := []
  deriving DecidableEq, Repr

/-- A slot of the matching2 `ContextManager`. `object` identifies the heap object behind the
shared pointer, so that a slot reused by a later context is told apart. -/
structure ContextObject where
  ctxId : Nat
  object : Nat
  started : Bool := false
  stopPending : Bool := false
  destroyPending : Bool := false
  onlineId : OrbisNpOnlineId
  myMemberId : Nat := 0
  signalingCallback : Bool := false
  deriving DecidableEq, Repr

inductive Matching2Error where
  | ok
  | timeout
  | terminatedByPeer
  | terminatedByMyself
  deriving DecidableEq, Repr

/-- A `SIGNALING_CB` event handed to the matching2 event dispatcher. -/
structure Matching2SignalingEvent where
  ctxId : Nat
  roomId : Nat
  memberId : Nat
  established : Bool
  errorCode : Matching2Error
  deriving DecidableEq, Repr

end NpSignaling
