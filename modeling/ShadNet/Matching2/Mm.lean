import ShadNet.Matching2.State

/-!
# Requests, replies and room events

What matching2 sends to the shadNet server, and what it does with the replies
and the notifications. The bytes of a reply enter as what its parser makes of
them; the payloads built for the callbacks are reduced to whether there is one.
-/

namespace NpMatching2

open LockProgram NpSignaling Matching2State

/-! ## Submission -/

def isAuthenticated (clientId : Nat) (s : Matching2State) : Bool :=
  match s.client? clientId with
  | some client => client.authenticated
  | none => false

/-- `ShadNetClient::SubmitRequest`: the packet takes the next number of its client. -/
def clientSubmitRequest (clientId : Nat) (s : Matching2State) : Nat × Matching2State :=
  match s.client? clientId with
  | none => (0, s)
  | some client =>
    (client.pktCounter,
      { s with
        clients := KeyedTable.adjust ShadNetClient.clientId clientId
          (fun client => { client with pktCounter := client.pktCounter + 1 }) s.clients })

def registerPending (pr : PendingRequest) (s : Matching2State) : Matching2State :=
  { s with pending := KeyedTable.store PendingRequest.pktId pr s.pending }

@[simp] theorem pending?_registerPending (pr : PendingRequest) (s : Matching2State) :
    (registerPending pr s).pending? pr.pktId = some pr :=
  KeyedTable.lookup_store_self

/-- The completion a disabled backend gives at once: the world list is made up, all else fails. -/
def disabledEvent (call : Nat) (ctx : ContextObject) (ctxId : Nat) (reqId : UInt32)
    (reqEvent : Matching2Event) (request : RequestCallbackInfo) : PendingEvent :=
  let listed := decide (reqEvent = .getWorldInfoList)
  ⟨ctxId, ctx.object,
    .requestCb reqId reqEvent (if listed then 0 else kServerNotAvailable) request listed call⟩

/-- The end of `MmSubmitRequest`, once the context and the callback are known. -/
def submitOrComplete (call clientId ctxId : Nat) (reqId : UInt32) (reqEvent : Matching2Event)
    (aVariant : Bool) (ctx : ContextObject) (request : RequestCallbackInfo) (enabled : Bool) :
    Matching2 (Except ApiError Unit) :=
  if enabled = false ∧ isContextLifecycleEvent reqEvent = false then do
    updates (scheduleEvent (disabledEvent call ctx ctxId reqId reqEvent request))
    pure (.ok ())
  else do
    let pktId ← Prog.locked .other (clientSubmitRequest clientId)
    Prog.update (.registerPending call pktId) (registerPending
      { pktId, ctxId, reqId, reqEvent, aVariant, request, call, issuer := ctx.object })
    pure (.ok ())

def mmSubmitRequest (call ctxId : Nat) (reqId : UInt32) (reqEvent : Matching2Event)
    (aVariant : Bool) : Matching2 (Except ApiError Unit) := do
  match ← reads (·.mmClient) with
  | none => pure (.error .invalidContextId)
  | some clientId =>
    if ← reads (isAuthenticated clientId) then
      match ← reads (·.context? ctxId) with
      | none => pure (.error .invalidContextId)
      | some ctx =>
        let request ← Prog.locked (.consumeRequestCallback call ctx.object)
          (consumeRequestCallback ctx.object)
        let enabled ← reads (·.matching2Enabled)
        submitOrComplete call clientId ctxId reqId reqEvent aVariant ctx request enabled
    else pure (.error .invalidContextId)

/-- The result of the submission is not looked at. -/
def mmContextStart (call ctxId : Nat) : Matching2 Unit := do
  let _ ← mmSubmitRequest call ctxId 0 .contextStarted false

def mmContextStop (call ctxId : Nat) : Matching2 (Except ApiError Unit) :=
  mmSubmitRequest call ctxId 0 .contextStopped false

/-! ## Signaling of a context -/

/-- What `StartMatching2` reads outside of the state: the answer of the `ensure_transport` hook,
those of the peer resolver, and the clock. -/
structure StartInput where
  ready : Bool
  resolve : Nat → Option (UInt32 × UInt16)
  now : Int

def startMatching2 (object : Nat) (input : StartInput) : Matching2 Unit := do
  match ← reads (·.object? object) with
  | none => pure ()
  | some ctx =>
    signaling (NpSignaling.startMatching2 ctx.signalingView input.ready input.resolve input.now)

def queueMatching2SignalingEvent (object roomId memberId : Nat) (established : Bool)
    (errorCode : Matching2Error) (s : Matching2State) : Matching2State :=
  match s.object? object with
  | none => s
  | some ctx =>
    { s with
      np := NpSignaling.queueMatching2SignalingEvent ctx.signalingView roomId memberId
        established errorCode s.np }

/-- The members of the room that are told dead, and their peers marked so. -/
def deadRoomPeers (object roomId : Nat) (s : Matching2State) :
    Option (List Nat) × Matching2State :=
  match s.object? object with
  | none => (none, s)
  | some ctx =>
    let cache := s.cache ctx.ctxId
    match KeyedTable.lookup RoomCache.roomId roomId cache.rooms with
    | none => (none, s)
    | some room =>
      let dead := (room.members.map (·.memberId)).filter
        (fun memberId => memberId ≠ 0 && memberId ≠ ctx.myMemberId)
      (some dead, s.setCache { cache with
        peers := cache.peers.map (fun peer =>
          if peer.memberId ∈ dead then { peer with status := .inactive } else peer) })

def queueMatching2DeadForRoomPeers (ctx : ContextObject) (roomId : Nat) : Matching2 Unit := do
  match ← Prog.locked .other (deadRoomPeers ctx.object roomId) with
  | none => pure ()
  | some dead =>
    Prog.forEach dead (fun memberId =>
      updates (queueMatching2SignalingEvent ctx.object roomId memberId false .terminatedByMyself))
    signaling (stopMatching2Room ctx.ctxId roomId .terminatedByMyself .terminatedByMyself)

/-! ## Replies -/

/-- `CreateJoinRoomResponse`, as far as it is cached. -/
structure RoomDetails where
  roomId : Nat
  meMemberId : Nat
  ownerMemberId : Nat
  members : List MemberCache
  deriving DecidableEq, Repr

/-- What the parser of each message type makes of the body of a reply. -/
structure ReplyBody where
  details : Option RoomDetails := none
  leftRoom : Option Nat := none
  parsed : Bool := false
  deriving DecidableEq, Repr

def joinedMembers (members : List MemberCache) : List MemberCache :=
  members.foldl (fun table member => KeyedTable.store MemberCache.memberId member table) []

def newPeer (member : MemberCache) : PeerInfo :=
  { memberId := member.memberId, addr := member.addr, port := member.port }

def joinedPeers (self : Nat) (members : List MemberCache) : List PeerInfo :=
  members.foldl (fun table member =>
    if member.memberId ≠ self then KeyedTable.store PeerInfo.memberId (newPeer member) table
    else table) []

/-- The room the context was in makes place for the one it is in now. -/
def joinedRooms (roomId : Nat) (details : RoomDetails) (rooms : List RoomCache) :
    List RoomCache :=
  let rooms :=
    if roomId ≠ 0 ∧ roomId ≠ details.roomId then KeyedTable.remove RoomCache.roomId roomId rooms
    else rooms
  KeyedTable.store RoomCache.roomId
    { roomId := details.roomId
      signalingMainMember := details.ownerMemberId
      members := joinedMembers details.members } rooms

def buildCreateJoinRoomPayloadCommon (object : Nat) (details : RoomDetails)
    (s : Matching2State) : Matching2State :=
  match s.object? object with
  | none => s
  | some ctx =>
    let cache := s.cache ctx.ctxId
    (s.setCache { cache with
      rooms := joinedRooms ctx.roomId details cache.rooms
      peers := joinedPeers details.meMemberId details.members }).adjustObject object (fun ctx =>
        { ctx with
          roomId := details.roomId
          myMemberId := details.meMemberId
          isRoomOwner := details.meMemberId = details.ownerMemberId })

def buildLeaveRoomPayload (object roomId : Nat) (s : Matching2State) : Matching2State :=
  match s.object? object with
  | none => s
  | some ctx =>
    if ctx.roomId = roomId then
      let cache := s.cache ctx.ctxId
      (s.setCache { cache with
        rooms := KeyedTable.remove RoomCache.roomId ctx.roomId cache.rooms
        peers := [] }).adjustObject object (fun ctx =>
          { ctx with roomId := 0, myMemberId := 0, isRoomOwner := false })
    else s

def isJoinEvent (event : Matching2Event) : Bool :=
  event = .createJoinRoom || event = .createJoinRoomA || event = .joinRoom || event = .joinRoomA

def isListEvent (event : Matching2Event) : Bool :=
  event = .getWorldInfoList || event = .searchRoom || event = .searchRoomA ||
    event = .getRoomDataExternalList || event = .getRoomDataExternalListA ||
    event = .getRoomMemberDataExternalList || event = .getRoomMemberDataExternalListA ||
    event = .getUserInfoList

/-- Builds the data of the callback: the caches change on the way, and the result tells whether
the pointer is set. -/
def buildRequestData (ctx : ContextObject) (pr : PendingRequest) (errorCode : UInt32)
    (body : ReplyBody) : Matching2 Bool := do
  if errorCode ≠ 0 then pure false
  else if isJoinEvent pr.reqEvent then
    match body.details with
    | none => pure false
    | some details =>
      updates (buildCreateJoinRoomPayloadCommon ctx.object details)
      pure true
  else if pr.reqEvent = .leaveRoom then
    match body.leftRoom with
    | none => pure false
    | some roomId =>
      queueMatching2DeadForRoomPeers ctx roomId
      updates (buildLeaveRoomPayload ctx.object roomId)
      pure true
  else pure (isListEvent pr.reqEvent && body.parsed)

def dispatchRequestComplete (pr : PendingRequest) (errorCode : UInt32) (body : ReplyBody)
    (input : StartInput) : Matching2 Unit := do
  match ← reads (·.context? pr.ctxId) with
  | none => pure ()
  | some ctx =>
    if isContextLifecycleEvent pr.reqEvent then
      updates (scheduleEvent ⟨pr.ctxId, ctx.object, .contextCb pr.reqEvent errorCode⟩)
    else
      let hasData ← buildRequestData ctx pr errorCode body
      updates (scheduleEvent ⟨pr.ctxId, ctx.object,
        .requestCb pr.reqId pr.reqEvent errorCode pr.request hasData pr.call⟩)
      Prog.when (errorCode = 0 ∧ isJoinEvent pr.reqEvent) (startMatching2 ctx.object input)

def takePending (pktId : Nat) (s : Matching2State) : Option PendingRequest × Matching2State :=
  (s.pending? pktId,
    { s with pending := KeyedTable.remove PendingRequest.pktId pktId s.pending })

/-- A reply without a pending entry is dropped. -/
def onMatching2Reply (pktId : Nat) (errorCode : UInt32) (body : ReplyBody) (input : StartInput) :
    Matching2 Unit := do
  match ← Prog.locked (.takePending pktId) (takePending pktId) with
  | none => pure ()
  | some pr => dispatchRequestComplete pr errorCode body input

/-! ## Room events -/

/-- `NotifyRoomEvent`, as far as it is cached. -/
structure NotifyRoomEvent where
  ctxId : Nat
  roomId : Nat
  event : RoomEvent
  member : MemberCache
  deriving DecidableEq, Repr

def setRoom (room : RoomCache) (cache : Matching2ContextCache) : Matching2ContextCache :=
  { cache with rooms := KeyedTable.adjust RoomCache.roomId room.roomId (fun _ => room) cache.rooms }

def memberJoinedCache (member : MemberCache) (room : RoomCache) (cache : Matching2ContextCache) :
    Matching2ContextCache :=
  let room := { room with members := KeyedTable.store MemberCache.memberId member room.members }
  { setRoom room cache with
    peers := KeyedTable.store PeerInfo.memberId (newPeer member) cache.peers }

def memberLeftCache (memberId : Nat) (room : RoomCache) (cache : Matching2ContextCache) :
    Matching2ContextCache :=
  let room := { room with
    members := KeyedTable.remove MemberCache.memberId memberId room.members }
  { setRoom room cache with peers := KeyedTable.remove PeerInfo.memberId memberId cache.peers }

/-- The switch of `HandleRoomEvent` under the cache lock; `false` is its early return. The data
the two update events change is not cached here. -/
def roomEventLocked (object : Nat) (n : NotifyRoomEvent) (s : Matching2State) :
    Bool × Matching2State :=
  match s.object? object with
  | none => (false, s)
  | some ctx =>
    let cache := s.cache ctx.ctxId
    let room := KeyedTable.lookup RoomCache.roomId n.roomId cache.rooms
    match n.event, room with
    | .memberJoined, some room => (true, s.setCache (memberJoinedCache n.member room cache))
    | .memberLeft, some room =>
      if (KeyedTable.lookup MemberCache.memberId n.member.memberId room.members).isNone then
        (false, s)
      else
        let s := queueMatching2SignalingEvent object n.roomId n.member.memberId false
          .terminatedByPeer s
        (true, s.setCache (memberLeftCache n.member.memberId room cache))
    | .kickedOut, _ => (true, s)
    | .updatedRoomDataInternal, some _ => (true, s)
    | .updatedRoomMemberDataInternal, some room =>
      ((KeyedTable.lookup MemberCache.memberId n.member.memberId room.members).isSome, s)
    | _, _ => (false, s)

def handleRoomEvent (n : NotifyRoomEvent) (input : StartInput) : Matching2 Unit := do
  match ← reads (·.context? n.ctxId) with
  | none => pure ()
  | some ctx =>
    if ← Prog.locked .other (roomEventLocked ctx.object n) then
      updates (scheduleEvent ⟨ctx.ctxId, ctx.object, .roomEventCb n.roomId n.event⟩)
      Prog.when (n.event = .memberJoined) (startMatching2 ctx.object input)

def handleRoomMessage (ctxId roomId srcMemberId : Nat) : Matching2 Unit := do
  match ← reads (·.context? ctxId) with
  | none => pure ()
  | some ctx =>
    updates (scheduleEvent ⟨ctx.ctxId, ctx.object, .roomMessageCb roomId srcMemberId⟩)

/-! ## The shadNet client -/

def withRuntimeStopped (s : Matching2State) : Matching2State := { s with np := stopRuntime s.np }

/-- A user has signed in on a client of its own, which is the one matching2 uses from then on. -/
def setMmShadNetClient (matching2Enabled : Bool) (s : Matching2State) : Matching2State :=
  let clientId := s.clients.length
  let s := { s with
    clients := s.clients ++ [{ clientId, matching2Enabled }]
    mmClient := some clientId
    matching2Enabled }
  if matching2Enabled then s else withRuntimeStopped s

theorem clients_setMmShadNetClient (enabled : Bool) (mm : Matching2State) :
    (setMmShadNetClient enabled mm).clients =
        mm.clients ++ [{ clientId := mm.clients.length, matching2Enabled := enabled }] ∧
      (setMmShadNetClient enabled mm).mmClient = some mm.clients.length ∧
      (setMmShadNetClient enabled mm).matching2Enabled = enabled := by
  cases enabled <;> exact ⟨rfl, rfl, rfl⟩

def clearMmShadNetClient (s : Matching2State) : Matching2State :=
  { withRuntimeStopped s with mmClient := none, matching2Enabled := false, pending := [] }

/-- The reader thread of the client ends: it is no longer authenticated. -/
def connectionLost (clientId : Nat) (s : Matching2State) : Matching2State :=
  { s with
    clients := KeyedTable.adjust ShadNetClient.clientId clientId
      (fun client => { client with authenticated := false }) s.clients }

end NpMatching2
