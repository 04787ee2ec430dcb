import ShadNet.Matching2.Mm

/-!
# The matching2 library calls

The request calls share one shape: check, store the callback, take a request id,
and then either submit to the server inside a `DispatchHold` or answer from the
cache. `Op` lists everything that can happen to the library. The number `call`
of a call is a history variable.
-/

namespace NpMatching2

open LockProgram NpSignaling Matching2State

/-! ## Requests -/

/-- `valid` tells whether the pointer arguments pass the check of the call. -/
def requestContext (valid : Bool) (ctxId : Nat) : Matching2 (Except ApiError ContextObject) := do
  if ← reads (·.initialized) then
    if valid then
      match ← reads (·.context? ctxId) with
      | some ctx => pure (.ok ctx)
      | none => pure (.error .invalidContextId)
    else pure (.error .invalidArgument)
  else pure (.error .notInitialized)

def beginRequest (call object : Nat) (requestOpt : Option RequestOptParam) : Matching2 UInt32 := do
  Prog.update (.storeRequestCallback call object) (storeRequestCallback object requestOpt)
  Prog.locked .other allocRequestId

/-- The submission inside the hold. -/
def heldSubmission (call ctxId : Nat) (reqId : UInt32) (event : Matching2Event)
    (aVariant : Bool) : Matching2 (Except ApiError Unit) := do
  updates (dispatchHold call)
  let result ← mmSubmitRequest call ctxId reqId event aVariant
  updates (dispatchRelease call)
  pure result

/-- The calls that do not look at the result of the submission. -/
def remoteRequest (event : Bool → Matching2Event) (aVariant : Bool → Bool) (call ctxId : Nat)
    (valid : Bool) (requestOpt : Option RequestOptParam) : Matching2 (Except ApiError UInt32) := do
  match ← requestContext valid ctxId with
  | .error error => pure (.error error)
  | .ok ctx =>
    let reqId ← beginRequest call ctx.object requestOpt
    let _ ← heldSubmission call ctxId reqId (event ctx.aVariant) (aVariant ctx.aVariant)
    pure (.ok reqId)

def returnCall (call : Nat) (s : Matching2State) : Matching2State :=
  { s with returned := s.returned ++ [call] }

/-- The calls answered from the cache, which take no hold. -/
def localRequest (event : Matching2Event) (data : Matching2ContextCache → Bool)
    (call ctxId : Nat) (valid : Bool) (requestOpt : Option RequestOptParam) :
    Matching2 (Except ApiError UInt32) := do
  match ← requestContext valid ctxId with
  | .error error => pure (.error error)
  | .ok ctx =>
    let reqId ← beginRequest call ctx.object requestOpt
    let hasData ← reads (fun s => data (s.cache ctx.ctxId))
    let request ← Prog.locked (.consumeRequestCallback call ctx.object)
      (consumeRequestCallback ctx.object)
    updates (scheduleEvent ⟨ctxId, ctx.object, .requestCb reqId event 0 request hasData call⟩)
    updates (returnCall call)
    pure (.ok reqId)

abbrev sceNpMatching2CreateJoinRoom := remoteRequest (fun _ => .createJoinRoom) (fun _ => false)

abbrev sceNpMatching2CreateJoinRoomA := remoteRequest (fun _ => .createJoinRoomA) (fun _ => true)

abbrev sceNpMatching2JoinRoom := remoteRequest (fun _ => .joinRoom) (fun _ => false)

abbrev sceNpMatching2JoinRoomA := remoteRequest (fun _ => .joinRoomA) (fun _ => true)

abbrev sceNpMatching2LeaveRoom := remoteRequest (fun _ => .leaveRoom) (fun _ => false)

abbrev sceNpMatching2GetWorldInfoList := remoteRequest (fun _ => .getWorldInfoList) (fun _ => false)

abbrev sceNpMatching2SearchRoom :=
  remoteRequest (fun aVariant => if aVariant then .searchRoomA else .searchRoom) id

abbrev sceNpMatching2SetUserInfo := remoteRequest (fun _ => .setUserInfo) (fun _ => false)

abbrev sceNpMatching2SetRoomDataExternal :=
  remoteRequest (fun _ => .setRoomDataExternal) (fun _ => false)

abbrev sceNpMatching2SetRoomDataInternal :=
  remoteRequest (fun _ => .setRoomDataInternal) (fun _ => false)

abbrev sceNpMatching2GetRoomDataExternalList :=
  remoteRequest
    (fun aVariant => if aVariant then .getRoomDataExternalListA else .getRoomDataExternalList) id

abbrev sceNpMatching2GetRoomMemberDataExternalList :=
  remoteRequest (fun aVariant =>
    if aVariant then .getRoomMemberDataExternalListA else .getRoomMemberDataExternalList) id

abbrev sceNpMatching2GetUserInfoList := remoteRequest (fun _ => .getUserInfoList) id

abbrev sceNpMatching2GetUserInfoListA := remoteRequest (fun _ => .getUserInfoList) (fun _ => true)

abbrev sceNpMatching2KickoutRoomMember := remoteRequest (fun _ => .kickoutRoomMember) (fun _ => false)

abbrev sceNpMatching2SetRoomMemberDataInternal :=
  remoteRequest (fun _ => .setRoomMemberDataInternal) (fun _ => false)

/-- The one request call that returns what the submission returned. -/
def sceNpMatching2SendRoomMessage (call ctxId : Nat) (valid : Bool)
    (requestOpt : Option RequestOptParam) : Matching2 (Except ApiError UInt32) := do
  match ← requestContext valid ctxId with
  | .error error => pure (.error error)
  | .ok ctx =>
    let reqId ← beginRequest call ctx.object requestOpt
    let result ← heldSubmission call ctxId reqId .sendRoomMessage false
    pure (result.map (fun _ => reqId))

def roomCached (roomId : Nat) (cache : Matching2ContextCache) : Bool :=
  (KeyedTable.lookup RoomCache.roomId roomId cache.rooms).isSome

def memberCached (roomId memberId : Nat) (cache : Matching2ContextCache) : Bool :=
  match KeyedTable.lookup RoomCache.roomId roomId cache.rooms with
  | some room => (KeyedTable.lookup MemberCache.memberId memberId room.members).isSome
  | none => false

abbrev sceNpMatching2GetRoomDataInternal (roomId : Nat) :=
  localRequest .getRoomDataInternal (roomCached roomId)

abbrev sceNpMatching2GetRoomMemberDataInternal (roomId memberId : Nat) :=
  localRequest .getRoomMemberDataInternalA (memberCached roomId memberId)

abbrev sceNpMatching2SignalingGetPingInfo := localRequest .signalingGetPingInfo (fun _ => true)

inductive RequestApi where
  | createJoinRoom
  | createJoinRoomA
  | joinRoom
  | joinRoomA
  | leaveRoom
  | getWorldInfoList
  | searchRoom
  | setUserInfo
  | sendRoomMessage
  | setRoomDataExternal
  | setRoomDataInternal
  | getRoomDataExternalList
  | getRoomMemberDataExternalList
  | getUserInfoList
  | getUserInfoListA
  | kickoutRoomMember
  | setRoomMemberDataInternal
  | getRoomDataInternal (roomId : Nat)
  | getRoomMemberDataInternal (roomId memberId : Nat)
  | signalingGetPingInfo
  deriving DecidableEq, Repr

def RequestApi.program : RequestApi → Nat → Nat → Bool → Option RequestOptParam →
    Matching2 (Except ApiError UInt32)
  | .createJoinRoom => sceNpMatching2CreateJoinRoom
  | .createJoinRoomA => sceNpMatching2CreateJoinRoomA
  | .joinRoom => sceNpMatching2JoinRoom
  | .joinRoomA => sceNpMatching2JoinRoomA
  | .leaveRoom => sceNpMatching2LeaveRoom
  | .getWorldInfoList => sceNpMatching2GetWorldInfoList
  | .searchRoom => sceNpMatching2SearchRoom
  | .setUserInfo => sceNpMatching2SetUserInfo
  | .sendRoomMessage => sceNpMatching2SendRoomMessage
  | .setRoomDataExternal => sceNpMatching2SetRoomDataExternal
  | .setRoomDataInternal => sceNpMatching2SetRoomDataInternal
  | .getRoomDataExternalList => sceNpMatching2GetRoomDataExternalList
  | .getRoomMemberDataExternalList => sceNpMatching2GetRoomMemberDataExternalList
  | .getUserInfoList => sceNpMatching2GetUserInfoList
  | .getUserInfoListA => sceNpMatching2GetUserInfoListA
  | .kickoutRoomMember => sceNpMatching2KickoutRoomMember
  | .setRoomMemberDataInternal => sceNpMatching2SetRoomMemberDataInternal
  | .getRoomDataInternal roomId => sceNpMatching2GetRoomDataInternal roomId
  | .getRoomMemberDataInternal roomId memberId =>
    sceNpMatching2GetRoomMemberDataInternal roomId memberId
  | .signalingGetPingInfo => sceNpMatching2SignalingGetPingInfo

def RequestApi.answeredLocally : RequestApi → Bool
  | .getRoomDataInternal _ | .getRoomMemberDataInternal _ _ | .signalingGetPingInfo => true
  | _ => false

/-- The three shapes of a request call. -/
theorem RequestApi.program_cases (api : RequestApi) :
    (∃ event data, api.answeredLocally = true ∧ api.program = localRequest event data) ∨
      (api = .sendRoomMessage ∧ api.program = sceNpMatching2SendRoomMessage) ∨
      (∃ event aVariant, api.answeredLocally = false ∧ api ≠ .sendRoomMessage ∧
        (∀ a, isContextLifecycleEvent (event a) = false) ∧
        api.program = remoteRequest event aVariant) := by
  cases api
  case sendRoomMessage => exact Or.inr (Or.inl ⟨rfl, rfl⟩)
  case getRoomDataInternal =>
    exact Or.inl ⟨_, _, rfl, by rw [program]⟩
  case getRoomMemberDataInternal =>
    exact Or.inl ⟨_, _, rfl, by rw [program]⟩
  case signalingGetPingInfo =>
    exact Or.inl ⟨_, _, rfl, by rw [program]⟩
  all_goals
    refine Or.inr (Or.inr ⟨_, _, rfl, nofun, ?_, by rw [program]⟩)
    decide

/-! ## The library and its contexts -/

/-- `threadOk` is the answer of the kernel call that starts the dispatcher thread. -/
def sceNpMatching2Initialize (valid threadOk : Bool) : Matching2 (Except ApiError Unit) := do
  if ← reads (·.initialized) then pure (.error .alreadyInitialized)
  else if valid then
    updates (initEventDispatcher threadOk)
    updates (fun s => { s with initialized := true })
    pure (.ok ())
  else pure (.error .invalidArgument)

def sceNpMatching2Terminate : Matching2 (Except ApiError Unit) := do
  if ← reads (·.initialized) then
    updates (fun s => { s with initialized := false })
    updates termEventDispatcher
    updates contextManagerReset
    updates (fun s => { s with nextRequestId := 1 })
    signaling releaseContextRef
    pure (.ok ())
  else pure (.error .notInitialized)

def createContextWith (valid : Bool) (onlineId : OrbisNpOnlineId) (aVariant : Bool) :
    Matching2 (Except ApiError Nat) := do
  if ← reads (·.initialized) then
    if valid then
      match ← Prog.locked .other (contextManagerCreate onlineId aVariant) with
      | .error error => pure (.error error)
      | .ok ctxId =>
        signaling addContextRef
        pure (.ok ctxId)
    else pure (.error .invalidArgument)
  else pure (.error .notInitialized)

def sceNpMatching2CreateContext (valid : Bool) (onlineId : OrbisNpOnlineId) :=
  createContextWith valid onlineId false

def sceNpMatching2CreateContextA (valid : Bool) (onlineId : OrbisNpOnlineId) :=
  createContextWith valid onlineId true

def sceNpMatching2DestroyContext (ctxId : Nat) : Matching2 (Except ApiError Unit) := do
  if ← reads (·.initialized) then
    if ← Prog.locked .other (contextManagerDestroy ctxId) then
      signaling releaseContextRef
      pure (.ok ())
    else pure (.error .invalidContextId)
  else pure (.error .notInitialized)

def sceNpMatching2ContextStart (call ctxId : Nat) : Matching2 (Except ApiError Unit) := do
  if ← reads (·.initialized) then
    if ← reads (·.active) then
      match ← Prog.locked .other (contextManagerStart ctxId) with
      | .error error => pure (.error error)
      | .ok () =>
        updates (dispatchHold call)
        mmContextStart call ctxId
        updates (dispatchRelease call)
        pure (.ok ())
    else pure (.error .resolverTimedOut)
  else pure (.error .notInitialized)

def sceNpMatching2ContextStop (call ctxId : Nat) : Matching2 (Except ApiError Unit) := do
  if ← reads (·.initialized) then
    match ← Prog.locked .other (contextManagerStop ctxId) with
    | .error error => pure (.error error)
    | .ok () =>
      let ctx ← reads (·.context? ctxId)
      Prog.forSome ctx (fun ctx => Prog.when ctx.signalingCallback
        (signaling (stopMatching2 ctxId .terminatedByMyself .terminatedByMyself)))
      updates (dispatchHold call)
      match ← mmContextStop call ctxId with
      | .ok () =>
        updates (dispatchRelease call)
        pure (.ok ())
      | .error error =>
        Prog.forSome ctx (fun ctx => updates (contextManagerCompleteStop ctxId ctx.object))
        updates (dispatchRelease call)
        pure (.error error)
  else pure (.error .notInitialized)

/-- The calls that look a context up and change its object. -/
def onContext (ctxId : Nat) (body : ContextObject → Matching2 Unit) :
    Matching2 (Except ApiError Unit) := do
  match ← requestContext true ctxId with
  | .error error => pure (.error error)
  | .ok ctx =>
    body ctx
    pure (.ok ())

def sceNpMatching2SetDefaultRequestOptParam (ctxId : Nat) (requestOpt : RequestOptParam) :=
  onContext ctxId (fun ctx => updates (fun s => s.adjustObject ctx.object (fun ctx =>
    { ctx with defaultRequest := ⟨requestOpt.callback, requestOpt.arg⟩ })))

def sceNpMatching2RegisterSignalingCallback (ctxId : Nat) (callback : Bool)
    (input : StartInput) :=
  onContext ctxId (fun ctx => do
    updates (fun s => s.adjustObject ctx.object (fun ctx =>
      { ctx with signalingCallback := callback }))
    startMatching2 ctx.object input)

/-- A status query gives a member of the room that has no peer entry one. -/
def connectionStatusLocked (ctxId roomId memberId : Nat) (s : Matching2State) :
    Matching2Conn × Matching2State :=
  let cache := s.cache ctxId
  match (KeyedTable.lookup RoomCache.roomId roomId cache.rooms).bind
      (fun room => KeyedTable.lookup MemberCache.memberId memberId room.members) with
  | none => (.inactive, s)
  | some member =>
    match KeyedTable.lookup PeerInfo.memberId memberId cache.peers with
    | some peer => (if peer.status = .active then .active else .pending, s)
    | none =>
      let peer := { newPeer member with status := .pending }
      (.pending, s.setCache { cache with peers := cache.peers ++ [peer] })

def sceNpMatching2SignalingGetConnectionStatus (ctxId roomId memberId : Nat) :=
  onContext ctxId (fun ctx => do
    let _ ← Prog.locked (.connectionStatus ctx.ctxId roomId memberId)
      (connectionStatusLocked ctx.ctxId roomId memberId))

/-! ## Everything that can happen -/

/-- The operations of the signaling model that are not themselves calls out of matching2. -/
def ofSignaling : NpSignaling.Op → Bool
  | .matching2Changed .. | .startMatching2 .. | .stopMatching2 .. | .stopMatching2Room .. => false
  | _ => true

inductive Op where
  | matching2Initialize (valid threadOk : Bool)
  | matching2Terminate
  | createContext (valid : Bool) (onlineId : OrbisNpOnlineId)
  | createContextA (valid : Bool) (onlineId : OrbisNpOnlineId)
  | destroyContext (ctxId : Nat)
  | contextStart (call ctxId : Nat)
  | contextStop (call ctxId : Nat)
  | request (call : Nat) (api : RequestApi) (ctxId : Nat) (valid : Bool)
      (requestOpt : Option RequestOptParam)
  | setDefaultRequestOptParam (ctxId : Nat) (requestOpt : RequestOptParam)
  | registerSignalingCallback (ctxId : Nat) (callback : Bool) (input : StartInput)
  | getConnectionStatus (ctxId roomId memberId : Nat)
  | reply (pktId : Nat) (errorCode : UInt32) (body : ReplyBody) (input : StartInput)
  | roomEvent (n : NotifyRoomEvent) (input : StartInput)
  | roomMessage (ctxId roomId srcMemberId : Nat)
  | takeReady
  | fireEvent
  | signaling (op : NpSignaling.Op)
  | connectUser (matching2Enabled : Bool)
  | connectionLost (clientId : Nat)
  | clearMmShadNetClient
  | activeChanged (active : Bool)

def Op.program : Op → Matching2 Unit
  | .matching2Initialize valid threadOk => do let _ ← sceNpMatching2Initialize valid threadOk
  | .matching2Terminate => do let _ ← sceNpMatching2Terminate
  | .createContext valid onlineId => do let _ ← sceNpMatching2CreateContext valid onlineId
  | .createContextA valid onlineId => do let _ ← sceNpMatching2CreateContextA valid onlineId
  | .destroyContext ctxId => do let _ ← sceNpMatching2DestroyContext ctxId
  | .contextStart call ctxId => do let _ ← sceNpMatching2ContextStart call ctxId
  | .contextStop call ctxId => do let _ ← sceNpMatching2ContextStop call ctxId
  | .request call api ctxId valid requestOpt => do
    let _ ← api.program call ctxId valid requestOpt
  | .setDefaultRequestOptParam ctxId requestOpt => do
    let _ ← sceNpMatching2SetDefaultRequestOptParam ctxId requestOpt
  | .registerSignalingCallback ctxId callback input => do
    let _ ← sceNpMatching2RegisterSignalingCallback ctxId callback input
  | .getConnectionStatus ctxId roomId memberId => do
    let _ ← sceNpMatching2SignalingGetConnectionStatus ctxId roomId memberId
  | .reply pktId errorCode body input => onMatching2Reply pktId errorCode body input
  | .roomEvent n input => handleRoomEvent n input
  | .roomMessage ctxId roomId srcMemberId => handleRoomMessage ctxId roomId srcMemberId
  | .takeReady => updates NpMatching2.takeReady
  | .fireEvent => updates NpMatching2.fireEvent
  | .signaling op => Prog.when (ofSignaling op) (NpMatching2.signaling op.program)
  | .connectUser matching2Enabled => updates (setMmShadNetClient matching2Enabled)
  | .connectionLost clientId => updates (NpMatching2.connectionLost clientId)
  | .clearMmShadNetClient => updates NpMatching2.clearMmShadNetClient
  | .activeChanged active => updates (fun s => { s with active })

/-- One complete operation, run alone from its first section to its last. -/
def Op.complete (op : Op) (s : Matching2State) : Matching2State := (op.program.exec s).2

abbrev runOps (ops : List Op) (s : Matching2State) : Matching2State :=
  Runs.run Op.complete ops s

end NpMatching2
