import ShadNet.WebApi.Calls

/-!
# The operations of the web API library

`sdk` is `g_sdk_ver`, which does not change once the library is initialized. The
clock, the sign-in state and the answers of the HTTP library are arguments.
-/

namespace NpWebApi

open LockProgram Prog KeyedTable

/-! ## Requests -/

def setRequestTimeout (requestId : Int) (timeout : Nat) : Call Int :=
  withRequest findRequestAndMarkBusy requestId fun _ _ request => do
    writing (.request request)
      (State.modifyRequest request (fun x => { x with requestTimeout := timeout }))
    pure orbisOk

def addHttpRequestHeaderInternal (requestId : Int) (fieldName value : String) : Call Int :=
  withRequest findRequestAndMarkBusy requestId fun _ _ request => do
    writing (.request request) (State.modifyRequest request (fun x =>
      { x with userHeaders := x.userHeaders ++ [(fieldName, value)] }))
    pure orbisOk

/-- `err` is what `sceHttpGetAllResponseHeaders` returns. -/
def getHttpResponseHeaderValueInternal (requestId err : Int) : Call Int :=
  withRequest findRequestAndMarkBusy requestId fun _ _ request => do
    let _ ← reading (.request request) (fun s => (s.requests request).httpRequestId)
    pure (if err < 0 then err else orbisOk)

/-- `err` is what `sceHttpGetStatusCode` returns. -/
def getHttpStatusCodeInternal (requestId err : Int) : Call Int :=
  withRequest findRequestAndMarkBusy requestId fun _ _ request => do
    let _ ← reading (.request request) (fun s => (s.requests request).httpRequestId)
    pure err

/-- The request is not marked, and still released. -/
def setMultipartContentType (requestId : Int) (typeName boundary : Option String) : Call Int :=
  withRequest findRequest requestId fun _ _ request => do
    writing (.request request) (State.modifyRequest request (fun x =>
      { x with
        multipartContentType := typeName.getD ""
        multipartBoundary := boundary.getD "" }))
    pure orbisOk

/-- `param` is the declared length of the part. -/
def addMultipartPart (requestId : Int) (param : Option Nat) : Call Int :=
  match param with
  | none => pure invalidArgument
  | some contentLength =>
    withRequest findRequest requestId fun _ _ request => do
      writing (.request request) (State.modifyRequest request (fun x =>
        { x with multipartParts := x.multipartParts ++ [{ contentLength }] }))
      pure orbisOk

def Request.startTimer (now : Nat) (x : Request) : Request :=
  if x.requestTimeout ≠ 0 ∧ x.requestEndTime = 0 then
    { x with requestEndTime := now + x.requestTimeout }
  else x

def startRequestTimer (now : Nat) (request : RequestPtr) : Call Unit :=
  writing (.request request) (State.modifyRequest request (Request.startTimer now))

def setRequestState (state : Nat) (request : RequestPtr) : Call Unit :=
  writing (.request request)
    (State.modifyRequest request (fun x => { x with requestState := state }))

/-- What becomes of the chunk of a multipart request. -/
inductive PartStep where
  | refused
  | incomplete
  | complete
  deriving DecidableEq, Repr

def Request.takePart (partIndex : Int) (dataSize : Nat) (x : Request) : PartStep × Request :=
  if ¬x.multipart then (.complete, x)
  else if partIndex < 1 ∨ x.multipartParts.length < partIndex then (.refused, x)
  else
    let parts := x.multipartParts.modify (partIndex - 1).toNat
      (fun part => { part with sentSize := part.sentSize + dataSize })
    let step := if parts.all (fun part => part.contentLength ≤ part.sentSize) then .complete
      else .incomplete
    (step, { x with multipartParts := parts })

def takePart (partIndex : Int) (dataSize : Nat) (request : RequestPtr) : Call PartStep :=
  access (.request request) (fun s =>
    ((Request.takePart partIndex dataSize (s.requests request)).1,
      s.modifyRequest request (fun x => (Request.takePart partIndex dataSize x).2)))

/-- The answers that a call of `sendRequest` meets; `sendResult` is what it makes of the status
and the error body. -/
structure SendAnswers where
  now : Nat := 0
  isSignedIn : Bool := true
  tmplId : Int := 1
  connId : Int := 1
  methodKnown : Bool := true
  reqId : Int := 1
  sendErr : Int := 0
  sendResult : Int := 0
  deriving DecidableEq, Repr

/-- The HTTP objects of a request that has none; a failure is returned. -/
def createHttpRequest (answers : SendAnswers) (request : RequestPtr) : Call (Option Int) := do
  let httpRequestId ← reading (.request request) (fun s => (s.requests request).httpRequestId)
  if httpRequestId ≠ 0 then pure none
  else if answers.tmplId < 0 then pure (some answers.tmplId)
  else
    writing (.request request)
      (State.modifyRequest request (fun x => { x with httpTemplateId := answers.tmplId }))
    if answers.connId < 0 then
      writing (.request request)
        (State.modifyRequest request (fun x => { x with httpTemplateId := 0 }))
      pure (some answers.connId)
    else
      writing (.request request)
        (State.modifyRequest request (fun x => { x with httpConnectionId := answers.connId }))
      if answers.methodKnown = false then pure (some invalidArgument)
      else if answers.reqId < 0 then
        writing (.request request) (State.modifyRequest request (fun x =>
          { x with httpConnectionId := 0, httpTemplateId := 0 }))
        pure (some answers.reqId)
      else
        writing (.request request)
          (State.modifyRequest request (fun x => { x with httpRequestId := answers.reqId }))
        pure none

def sendRequest (sdk : Nat) (answers : SendAnswers) (requestId partIndex : Int) (dataSize : Nat)
    (flag : Bool) : Call Int :=
  withRequest findRequestAndMarkBusy requestId fun context user request => do
    startRequestTimer answers.now request
    match ← takePart partIndex dataSize request with
    | .refused => pure invalidArgument
    | .incomplete => pure orbisOk
    | .complete =>
      when (fw250 ≤ sdk) (writing (.request request)
        (State.modifyRequest request (fun x => { x with sent := true })))
      let stopped ← guarded (.contextLock context) (reading (.request request)
        (fun s => !(s.requests request).timedOut && (s.requests request).aborted))
      if stopped then pure aborted
      else
        let _ ← reading (.userContext user) (fun s => (s.userContexts user).userId)
        if answers.isSignedIn = false then pure notSignedIn
        else
          match ← createHttpRequest answers request with
          | some failure => pure failure
          | none =>
            setRequestState 4 request
            pure (if answers.sendErr < 0 then answers.sendErr
              else if flag then answers.sendResult else orbisOk)

def abortRequestInternal (context : ContextPtr) (request : RequestPtr) : Call Int :=
  guarded (.contextLock context) do
    writing (.request request)
      (State.modifyRequest request (fun x => { x with aborted := true }))
    pure orbisOk

/-- The request is looked up without a mark. -/
def abortRequest (requestId : Int) : Call Int :=
  withUserContext (requestId.shiftRight 0x30) (requestId.shiftRight 0x20) fun context user => do
    match ← findRequest user requestId with
    | none => pure requestNotFound
    | some request => abortRequestInternal context request

/-- The exits before the request is aborted leave the context locked. -/
def deleteRequest (sdk : Nat) (requestId : Int) : Call Int := do
  match ← findAndValidateContext (requestId.shiftRight 0x30) with
  | none => pure libContextNotFound
  | some context =>
    lockContext context
    match ← findUserContext context (requestId.shiftRight 0x20) with
    | none =>
      releaseContext context
      pure userContextNotFound
    | some user =>
      match ← findRequestAndMarkBusy user requestId with
      | none =>
        releaseUserContext user
        releaseContext context
        pure requestNotFound
      | some request =>
        let refused ← (if sdk < fw400 then isRequestBusy request false else pure false)
        if refused then
          releaseRequest request
          releaseUserContext user
          releaseContext context
          pure requestBusy
        else
          let _ ← abortRequestInternal context request
          let busy ← isRequestBusy request true
          waitWhile busy (.contextLock context) (.requestIdle request)
          releaseRequest request
          writing (.eraseRequest user request) (State.eraseRequest user request)
          releaseUserContext user
          unlockContext context
          releaseContext context
          pure orbisOk

/-- The answers that a call of `readDataInternal` meets. -/
structure ReadAnswers where
  now : Nat := 0
  httpRead : Int := 0
  deriving DecidableEq, Repr

/-- The bytes that are left over from an earlier read, as many as fit. -/
def Request.copyData (size : Nat) (x : Request) : Nat × Request :=
  let remaining := if x.remainingData = 0 then 0 else x.remainingData - x.readOffset
  let copied := min remaining size
  (copied, { x with readOffset := x.readOffset + copied })

def copyRequestData (size : Nat) (request : RequestPtr) : Call Nat :=
  access (.request request) (fun s =>
    ((Request.copyData size (s.requests request)).1,
      s.modifyRequest request (fun x => (Request.copyData size x).2)))

/-- The part of `readDataInternal` that asks the HTTP library for the rest. -/
def readRest (answers : ReadAnswers) (context : ContextPtr) (request : RequestPtr)
    (copied remaining : Nat) : Call Int :=
  if remaining = 0 then pure copied
  else do
    let stopped ← guarded (.contextLock context) do
      setRequestState 5 request
      reading (.request request)
        (fun s => !(s.requests request).timedOut && (s.requests request).aborted)
    if stopped then pure aborted
    else
      let _ ← reading (.request request) (fun s => (s.requests request).httpRequestId)
      pure (copied + max answers.httpRead 0)

def readDataInternal (answers : ReadAnswers) (requestId : Int) (size : Nat) : Call Int :=
  withRequest findRequestAndMarkBusy requestId fun context _ request => do
    startRequestTimer answers.now request
    let copied ← copyRequestData size request
    let offset ← readRest answers context request copied (size - copied)
    let result ← guarded (.contextLock context) do
      setRequestState 0 request
      reading (.request request) (fun s =>
        if (s.requests request).timedOut then timeout
        else if (s.requests request).aborted then aborted else offset)
    writing (.request request)
      (State.modifyRequest request (fun x => { x with requestEndTime := 0 }))
    pure result

def createRequest (sdk : Nat) (userCtxId : Int) (multipart : Bool) : Call Int :=
  withUserContext (userCtxId.shiftRight 0x10) userCtxId fun _ user => do
    let created ← guarded (.contextLock user.parentContext) do
      let gone ← (if fw400 ≤ sdk then
          reading (.userContextDeleted user) (fun s => (s.userContexts user).deleted)
        else pure false)
      if gone then pure none
      else
        let request ← access (.createRequest user) (State.createRequest user userCtxId multipart)
        pure (some request)
    match created with
    | none => pure userContextNotFound
    | some request =>
      let _ ← reading (.request request) (fun _ => request.requestId)
      pure orbisOk

/-! ## User contexts -/

/-- When no id is left the library context is not released. -/
def createUserContext (libCtxId userId : Int) : Call Int := do
  match ← findAndValidateContext libCtxId with
  | none => pure libContextNotFound
  | some context =>
    match ← findUserContextByUserId context userId with
    | some user =>
      releaseUserContext user
      releaseContext context
      pure userContextAlreadyExist
    | none =>
      guarded (.contextLock context) do
        match ← access (.createUserContext context libCtxId userId)
            (State.createUserContext context libCtxId userId) with
        | none => pure userContextMax
        | some userCtxId =>
          releaseContext context
          pure userCtxId

def registerNotificationCallback (userCtxId : Int) (callback : Option Nat) : Call Int :=
  withUserContext (userCtxId.shiftRight 0x10) userCtxId fun context user => do
    guarded (.contextLock context) (writing (.userContext user)
      (State.modifyUserContext user (fun x => { x with notificationCallback := callback })))
    pure orbisOk

def unregisterNotificationCallback (userCtxId : Int) : Call Int :=
  registerNotificationCallback userCtxId none

/-- The end of `deleteUserContext`, under the lock of the context. -/
def finishDeleteUserContext (context : ContextPtr) (user : UserContextPtr) : Call Int := do
  writing (.eraseUserContext user) (State.eraseUserContext user)
  unlockContext context
  releaseContext context
  pure orbisOk

def leaveUserContext (context : ContextPtr) (user : UserContextPtr) (code : Int) : Call Int := do
  releaseUserContext user
  unlockContext context
  releaseContext context
  pure code

/-- `isUserContextBusy(uc) || areUserContextRequestsBusy(uc)`. -/
def isUserContextInUse (user : UserContextPtr) : Call Bool := do
  if ← isUserContextBusy user then pure true
  else areUserContextRequestsBusy user

def deleteUserContext (sdk : Nat) (userCtxId : Int) : Call Int := do
  match ← findAndValidateContext (userCtxId.shiftRight 0x10) with
  | none => pure libContextNotFound
  | some context =>
    lockContext context
    match ← findUserContext context userCtxId with
    | none =>
      unlockContext context
      releaseContext context
      pure userContextNotFound
    | some user =>
      if sdk < fw400 then
        if ← isUserContextInUse user then leaveUserContext context user userContextBusy
        else finishDeleteUserContext context user
      else
        let requests ← reading (.visitRequests user) (fun s => (s.userContexts user).requests)
        forEach requests (fun request => do
          let _ ← abortRequestInternal context request
          pure ())
        if ← reading (.userContextDeleted user) (fun s => (s.userContexts user).deleted) then
          leaveUserContext context user userContextNotFound
        else
          writing (.markDeleted user)
            (State.modifyUserContext user (fun x => { x with deleted := true }))
          let busy ← isUserContextInUse user
          waitWhile busy (.contextLock context) (.userContextIdle user)
          finishDeleteUserContext context user

/-! ## Handles -/

def createHandle (sdk : Nat) (libCtxId : Int) : Call Int :=
  withContext libCtxId fun context => do
    writing .handleCount (fun s => { s with handleCount := State.advance 0xf0000000 s.handleCount })
    guarded (.contextLock context)
      (access (.createHandle context) (State.createHandle (fw300 ≤ sdk) context))

def setHandleTimeout (libCtxId handleId : Int) (timeout : Nat) : Call Int :=
  withContext libCtxId fun context => guarded (.contextLock context) do
    let found ← access (.timers context) (fun s =>
      ((lookup TimerHandle.handleId handleId (s.contexts context).timerHandles).isSome,
        s.modifyContext context
          (Context.adjustTimer handleId (fun timer => { timer with handleTimeout := timeout }))))
    pure (if found then orbisOk else handleNotFound)

def TimerHandle.start (now : Nat) (timer : TimerHandle) : TimerHandle :=
  if timer.handleTimeout = 0 then timer
  else { timer with handleEndTime := now + timer.handleTimeout }

def startHandleTimer (now : Nat) (context : ContextPtr) (handleId : Int) : Call Unit :=
  guarded (.contextLock context) (writing (.timers context)
    (State.modifyContext context (Context.adjustTimer handleId (TimerHandle.start now))))

def abortHandle (libCtxId handleId : Int) : Call Int :=
  withContext libCtxId fun context => do
    match ← getHandle context handleId with
    | none => pure handleNotFound
    | some handle =>
      guarded (.contextLock context) do
        writing (.handle handle)
          (State.modifyHandle handle (fun x => { x with aborted := true }))
        releaseHandle context handle
        pure orbisOk

/-- The end of `deleteHandleInternal`, under the lock of the context. -/
def finishDeleteHandle (sdk : Nat) (context : ContextPtr) (handleId : Int) : Call Int := do
  writing (.eraseHandle context handleId) (State.eraseHandle (fw300 ≤ sdk) context handleId)
  unlockContext context
  pure orbisOk

/-- In the wait loop the handle is marked while it is asked, and not while the loop sleeps. -/
def waitForHandle (context : ContextPtr) (handle : HandlePtr) : Call Unit := do
  addUser (.handle handle)
  let busy ← reading (.handle handle) (fun s => decide (1 < (s.handles handle).userCount))
  when busy do
    removeUser (.handle handle)
    unlockContext context
    relock (.contextLock context) (.handleIdle handle)
    addUser (.handle handle)
  removeUser (.handle handle)

def deleteHandleInternal (sdk : Nat) (context : ContextPtr) (handleId : Int) : Call Int := do
  lockContext context
  match ← reading (.findHandle context handleId) (State.handleById context handleId) with
  | none =>
    unlockContext context
    pure handleNotFound
  | some handle =>
    if fw400 ≤ sdk then
      if ← reading (.handle handle) (fun s => (s.handles handle).deleted) then
        unlockContext context
        pure handleNotFound
      else
        writing (.handle handle)
          (State.modifyHandle handle (fun x => { x with deleted := true }))
        unlockContext context
        let _ ← abortHandle context.libCtxId handleId
        lockContext context
        waitForHandle context handle
        finishDeleteHandle sdk context handleId
    else if ← reading (.handle handle) (fun s => decide (0 < (s.handles handle).userCount)) then
      unlockContext context
      pure handleBusy
    else finishDeleteHandle sdk context handleId

def deleteHandle (sdk : Nat) (libCtxId handleId : Int) : Call Int :=
  withContext libCtxId fun context => deleteHandleInternal sdk context handleId

/-! ## Push event filters and callbacks -/

def createPushEventFilter (libCtxId : Int) : Call Int :=
  withContext libCtxId fun context => guarded (.contextLock context)
    (access (.filters context .basic) (State.createPushEventFilter .basic context))

/-- The service and the extended filters are made under a handle; `refused` is a named service
while shadNet is not active. -/
def createHandleFilter (kind : PushKind) (now : Nat) (libCtxId handleId : Int) (refused : Bool) :
    Call Int :=
  withContext libCtxId fun context => do
    startHandleTimer now context handleId
    guarded (.contextLock context) do
      match ← reading (.findHandle context handleId) (State.handleById context handleId) with
      | none => pure handleNotFound
      | some handle =>
        addUser (.handle handle)
        if refused then
          removeUser (.handle handle)
          pure signedInUserNotFound
        else
          let filterId ← access (.filters context kind) (State.createPushEventFilter kind context)
          removeUser (.handle handle)
          pure filterId

def createServicePushEventFilter := createHandleFilter .service

def createExtendedPushEventFilter := createHandleFilter .extended

def deleteFilter (kind : PushKind) (missing libCtxId filterId : Int) : Call Int :=
  withContext libCtxId fun context => guarded (.contextLock context)
    (access (.filters context kind) (fun s =>
      (if filterId ∈ (s.contexts context).filters kind then orbisOk else missing,
        s.modifyContext context (Context.removeFilter kind filterId))))

def deletePushEventFilter := deleteFilter .basic pushEventFilterNotFound

def deleteServicePushEventFilter := deleteFilter .service servicePushEventFilterNotFound

def deleteExtendedPushEventFilter := deleteFilter .extended extdPushEventFilterNotFound

/-- `checks` says that the filter is looked up first, without the lock; `refused` stands for a
service or extended callback without a function, which takes a callback id only if it is extended. -/
def registerCallback (kind : PushKind) (missing : Int) (checks refused : Bool)
    (userCtxId filterId : Int) : Call Int :=
  withUserContext (userCtxId.shiftRight 0x10) userCtxId fun context user => do
    let known ← (if checks then
        reading (.filters context kind)
          (fun s => decide (filterId ∈ (s.contexts context).filters kind))
      else pure true)
    if known = false then pure missing
    else
      guarded (.contextLock user.parentContext) do
        if refused then
          when (kind = .extended) (writing (.callbacks user kind) (fun s => { s with
            registeredCallbackCount := State.advance 0xf0000000 s.registeredCallbackCount }))
          pure invalidArgument
        else access (.callbacks user kind) (State.registerCallback kind user filterId)

def registerPushEventCallback (sdk : Nat) :=
  registerCallback .basic pushEventFilterNotFound (fw250 ≤ sdk) false

def registerServicePushEventCallback (sdk : Nat) :=
  registerCallback .service servicePushEventFilterNotFound (fw250 ≤ sdk)

def registerExtdPushEventCallback :=
  registerCallback .extended extdPushEventFilterNotFound true

/-- The callback is looked up without the lock. -/
def unregisterCallback (kind : PushKind) (missing userCtxId callbackId : Int) : Call Int :=
  withUserContext (userCtxId.shiftRight 0x10) userCtxId fun context user => do
    let known ← reading (.callbacks user kind) (fun s =>
      (lookup RegisteredCallback.callbackId callbackId ((s.userContexts user).callbacks kind)).isSome)
    if known = false then pure missing
    else
      guarded (.contextLock context) (writing (.callbacks user kind)
        (State.modifyUserContext user (UserContext.removeCallback kind callbackId)))
      pure orbisOk

def unregisterPushEventCallback := unregisterCallback .basic pushEventCallbackNotFound

def unregisterServicePushEventCallback :=
  unregisterCallback .service servicePushEventCallbackNotFound

def unregisterExtdPushEventCallback := unregisterCallback .extended extdPushEventCallbackNotFound

/-! ## Timeouts -/

def checkRequestTimeout (now : Nat) (request : RequestPtr) : Call Unit := do
  let expired ← access (.request request) (fun s =>
    let x := s.requests request
    if ¬x.timedOut ∧ x.requestEndTime ≠ 0 ∧ x.requestEndTime < now then
      (true, s.modifyRequest request (fun x => { x with timedOut := true }))
    else (false, s))
  when expired do
    let _ ← abortRequest request.requestId
    pure ()

def checkUserContextTimeout (now : Nat) (user : UserContextPtr) : Call Unit :=
  guarded (.contextLock user.parentContext) do
    let requests ← reading (.visitRequests user) (fun s => (s.userContexts user).requests)
    forEach requests (checkRequestTimeout now)

def TimerHandle.expired (now : Nat) (timer : TimerHandle) : Bool :=
  !timer.timedOut && decide (timer.handleTimeout ≠ 0) && decide (timer.handleEndTime < now)

def TimerHandle.check (now : Nat) (timer : TimerHandle) : TimerHandle :=
  if timer.expired now then { timer with timedOut := true } else timer

def checkTimerHandle (now : Nat) (context : ContextPtr) (handleId : Int) : Call Unit := do
  let expired ← access (.timers context) (fun s =>
    ((lookup TimerHandle.handleId handleId (s.contexts context).timerHandles).any
        (TimerHandle.expired now),
      s.modifyContext context (Context.adjustTimer handleId (TimerHandle.check now))))
  when expired do
    let _ ← abortHandle context.libCtxId handleId
    pure ()

def checkContextTimeout (now : Nat) (context : ContextPtr) : Call Unit :=
  guarded (.contextLock context) do
    let users ← reading (.visitUserContexts context) (fun s => (s.contexts context).userContexts)
    forEach users (checkUserContextTimeout now)
    let timers ← reading (.timers context)
      (fun s => (s.contexts context).timerHandles.map TimerHandle.handleId)
    forEach timers (checkTimerHandle now context)

def checkTimeout (now : Nat) : Call Unit := do
  let due ← access .lastTimeoutCheck (fun s =>
    if now < s.lastTimeoutCheck + 1000 then (false, s)
    else (true, { s with lastTimeoutCheck := now }))
  when due (guarded .globalMutex do
    let contexts ← reading .listContexts State.libraryContexts
    forEach contexts (checkContextTimeout now))

def sceNpWebApiCheckTimeout (now : Nat) : Call Unit := do
  let initialized ← reading .library State.isInitialized
  when initialized (checkTimeout now)

/-! ## Push dispatch -/

/-- The callbacks of one kind whose filter accepts the event, as they are when their turn begins;
`onPush` is what a callback does. -/
def deliver (onPush : Int → Call Unit) (event : PushEventInput) (context : ContextPtr)
    (user : UserContextPtr) (kind : PushKind) : Call Unit := do
  let callbacks ← reading (.callbacks user kind) (fun s => (s.userContexts user).callbacks kind)
  forEach callbacks fun callback => do
    let accepted ← reading (.filters context kind) (fun s =>
      decide (callback.filterId ∈ (s.contexts context).filters kind) &&
        event.accepts kind callback.filterId)
    when accepted (onPush callback.callbackId)

def dispatchEvent (onPush : Int → Call Unit) (event : PushEventInput) : Call Unit :=
  guarded .globalMutex do
    let contexts ← reading .listContexts State.libraryContexts
    forEach contexts fun context => guarded (.contextLock context) do
      let users ← reading (.visitUserContexts context) (fun s => (s.contexts context).userContexts)
      forEach users fun user => do
        let userId ← reading (.userContext user) (fun s => (s.userContexts user).userId)
        when (userId = event.targetUserId)
          (forEach [.extended, .service, .basic] (deliver onPush event context user))

def DrainPushEvents (onPush : Int → Call Unit) : Call Unit := do
  let events ← access .pushQueue (fun s => (s.pushQueue, { s with pushQueue := [] }))
  forEach events (dispatchEvent onPush)

def EnqueuePushEvent (event : PushEventInput) : Call Unit :=
  writing .pushQueue (fun s => { s with pushQueue := s.pushQueue ++ [event] })

/-! ## Library contexts -/

def createLibraryContext : Call Int :=
  guarded .globalMutex (access .createLibraryContext State.createLibraryContext)

def deleteContext (libCtxId : Int) : Call Int :=
  guarded .globalMutex (access (.deleteContext libCtxId) (State.deleteContext libCtxId))

/-- Each listed user context is deleted; from FW 4.00 on one that is gone is passed by. Any other
result ends the termination. -/
def deleteUserContexts (sdk : Nat) : List Int → Call (Option Int)
  | [] => pure none
  | userCtxId :: rest => do
    let result ← (deleteUserContext sdk userCtxId).rename .inside
    if result ≠ userContextNotFound ∨ sdk < fw400 then pure (some result)
    else deleteUserContexts sdk rest

/-- `isContextBusy(ctx) || areContextHandlesBusy(ctx)`. -/
def isContextInUse (context : ContextPtr) : Call Bool := do
  if ← isContextBusy context then pure true
  else areContextHandlesBusy context

/-- The end of `terminateContext`, under the lock of the context. -/
def finishTerminate (context : ContextPtr) (libCtxId : Int) : Call Int := do
  unlockContext context
  releaseContext context
  deleteContext libCtxId

/-- The handles are aborted, and the other calls waited for, under the lock of the context. -/
def closeContext (sdk : Nat) (context : ContextPtr) (libCtxId : Int) : Call Int := do
  lockContext context
  if fw400 ≤ sdk then
    let handles ← reading (.listHandles context) (fun s => (s.contexts context).handles)
    forEach handles (fun handle => do
      let _ ← abortHandle libCtxId handle.handleId
      pure ())
    if ← isContextTerminated context then
      unlockContext context
      releaseContext context
      pure libContextNotFound
    else
      markContextAsTerminated context
      let busy ← isContextInUse context
      waitWhile busy (.contextLock context) (.contextIdle context)
      finishTerminate context libCtxId
  else finishTerminate context libCtxId

def terminateContext (sdk : Nat) (libCtxId : Int) : Call Int := do
  match ← findAndValidateContext libCtxId with
  | none => pure libContextNotFound
  | some context =>
    let refused ← (if sdk < fw400 then isContextBusy context else pure false)
    if refused then
      releaseContext context
      pure libContextBusy
    else
      let userContextIds ← reading (.listUserContexts context)
        (fun s => (s.contexts context).userContexts.map UserContextPtr.userCtxId)
      match ← deleteUserContexts sdk userContextIds with
      | some result => pure result
      | none => closeContext sdk context libCtxId

/-- `sceNpWebApiInitialize` and its variants; `initializeResult` is the outcome of reading the SDK
version, which the first call asks for. -/
def sceNpWebApiInitialize (initializeResult : Int) : Call Int := do
  let first ← access .library (fun s => (!s.isInitialized, { s with isInitialized := true }))
  if first ∧ initializeResult < 0 then pure initializeResult
  else
    let result ← createLibraryContext
    when (0 ≤ result) (writing .library
      (fun s => { s with activeLibraryContexts := s.activeLibraryContexts + 1 }))
    pure result

def sceNpWebApiTerminate (sdk : Nat) (libCtxId : Int) : Call Int := do
  let result ← terminateContext sdk libCtxId
  if result ≠ orbisOk then pure result
  else
    writing .library (fun s => { s with
      activeLibraryContexts := s.activeLibraryContexts - 1
      isInitialized := if s.activeLibraryContexts - 1 = 0 then false else s.isInitialized })
    pure orbisOk

/-! ## The calls -/

/-- `rejected` stands for the calls whose arguments the exported function turns down and for those
that do nothing. -/
inductive Op where
  | rejected (code : Int)
  | sceInitialize (initializeResult : Int)
  | sceTerminate (libCtxId : Int)
  | createUserContext (libCtxId userId : Int)
  | deleteUserContext (userCtxId : Int)
  | registerNotificationCallback (userCtxId : Int) (callback : Option Nat)
  | unregisterNotificationCallback (userCtxId : Int)
  | createRequest (userCtxId : Int) (multipart : Bool)
  | setRequestTimeout (requestId : Int) (timeout : Nat)
  | addHttpRequestHeader (requestId : Int) (fieldName value : String)
  | getHttpResponseHeaderValue (requestId err : Int)
  | getHttpStatusCode (requestId err : Int)
  | setMultipartContentType (requestId : Int) (typeName boundary : Option String)
  | addMultipartPart (requestId : Int) (param : Option Nat)
  | sendRequest (answers : SendAnswers) (requestId partIndex : Int) (dataSize : Nat) (flag : Bool)
  | readData (answers : ReadAnswers) (requestId : Int) (size : Nat)
  | abortRequest (requestId : Int)
  | deleteRequest (requestId : Int)
  | createHandle (libCtxId : Int)
  | setHandleTimeout (libCtxId handleId : Int) (timeout : Nat)
  | abortHandle (libCtxId handleId : Int)
  | deleteHandle (libCtxId handleId : Int)
  | createPushEventFilter (libCtxId : Int)
  | createServicePushEventFilter (now : Nat) (libCtxId handleId : Int) (refused : Bool)
  | createExtendedPushEventFilter (now : Nat) (libCtxId handleId : Int) (refused : Bool)
  | deletePushEventFilter (libCtxId filterId : Int)
  | deleteServicePushEventFilter (libCtxId filterId : Int)
  | deleteExtendedPushEventFilter (libCtxId filterId : Int)
  | registerPushEventCallback (userCtxId filterId : Int)
  | registerServicePushEventCallback (refused : Bool) (userCtxId filterId : Int)
  | registerExtdPushEventCallback (refused : Bool) (userCtxId filterId : Int)
  | unregisterPushEventCallback (userCtxId callbackId : Int)
  | unregisterServicePushEventCallback (userCtxId callbackId : Int)
  | unregisterExtdPushEventCallback (userCtxId callbackId : Int)
  | checkTimeout (now : Nat)
  | drainPushEvents
  | enqueuePushEvent (event : PushEventInput)

/-- The program of a call. A call without a result returns `ORBIS_OK` here; `onPush` is what the
callbacks of the game do. -/
def program (sdk : Nat) (onPush : Int → Call Unit) : Op → Call Int
  | .rejected code => pure code
  | .sceInitialize initializeResult => sceNpWebApiInitialize initializeResult
  | .sceTerminate libCtxId => sceNpWebApiTerminate sdk libCtxId
  | .createUserContext libCtxId userId => NpWebApi.createUserContext libCtxId userId
  | .deleteUserContext userCtxId => NpWebApi.deleteUserContext sdk userCtxId
  | .registerNotificationCallback userCtxId callback =>
    NpWebApi.registerNotificationCallback userCtxId callback
  | .unregisterNotificationCallback userCtxId => NpWebApi.unregisterNotificationCallback userCtxId
  | .createRequest userCtxId multipart => NpWebApi.createRequest sdk userCtxId multipart
  | .setRequestTimeout requestId timeout => NpWebApi.setRequestTimeout requestId timeout
  | .addHttpRequestHeader requestId fieldName value =>
    addHttpRequestHeaderInternal requestId fieldName value
  | .getHttpResponseHeaderValue requestId err => getHttpResponseHeaderValueInternal requestId err
  | .getHttpStatusCode requestId err => getHttpStatusCodeInternal requestId err
  | .setMultipartContentType requestId typeName boundary =>
    NpWebApi.setMultipartContentType requestId typeName boundary
  | .addMultipartPart requestId param => NpWebApi.addMultipartPart requestId param
  | .sendRequest answers requestId partIndex dataSize flag =>
    NpWebApi.sendRequest sdk answers requestId partIndex dataSize flag
  | .readData answers requestId size => readDataInternal answers requestId size
  | .abortRequest requestId => NpWebApi.abortRequest requestId
  | .deleteRequest requestId => NpWebApi.deleteRequest sdk requestId
  | .createHandle libCtxId => NpWebApi.createHandle sdk libCtxId
  | .setHandleTimeout libCtxId handleId timeout =>
    NpWebApi.setHandleTimeout libCtxId handleId timeout
  | .abortHandle libCtxId handleId => NpWebApi.abortHandle libCtxId handleId
  | .deleteHandle libCtxId handleId => NpWebApi.deleteHandle sdk libCtxId handleId
  | .createPushEventFilter libCtxId => NpWebApi.createPushEventFilter libCtxId
  | .createServicePushEventFilter now libCtxId handleId refused =>
    NpWebApi.createServicePushEventFilter now libCtxId handleId refused
  | .createExtendedPushEventFilter now libCtxId handleId refused =>
    NpWebApi.createExtendedPushEventFilter now libCtxId handleId refused
  | .deletePushEventFilter libCtxId filterId => NpWebApi.deletePushEventFilter libCtxId filterId
  | .deleteServicePushEventFilter libCtxId filterId =>
    NpWebApi.deleteServicePushEventFilter libCtxId filterId
  | .deleteExtendedPushEventFilter libCtxId filterId =>
    NpWebApi.deleteExtendedPushEventFilter libCtxId filterId
  | .registerPushEventCallback userCtxId filterId =>
    NpWebApi.registerPushEventCallback sdk userCtxId filterId
  | .registerServicePushEventCallback refused userCtxId filterId =>
    NpWebApi.registerServicePushEventCallback sdk refused userCtxId filterId
  | .registerExtdPushEventCallback refused userCtxId filterId =>
    NpWebApi.registerExtdPushEventCallback refused userCtxId filterId
  | .unregisterPushEventCallback userCtxId callbackId =>
    NpWebApi.unregisterPushEventCallback userCtxId callbackId
  | .unregisterServicePushEventCallback userCtxId callbackId =>
    NpWebApi.unregisterServicePushEventCallback userCtxId callbackId
  | .unregisterExtdPushEventCallback userCtxId callbackId =>
    NpWebApi.unregisterExtdPushEventCallback userCtxId callbackId
  | .checkTimeout now => do
    sceNpWebApiCheckTimeout now
    pure orbisOk
  | .drainPushEvents => do
    DrainPushEvents onPush
    pure orbisOk
  | .enqueuePushEvent event => do
    EnqueuePushEvent event
    pure orbisOk

end NpWebApi
