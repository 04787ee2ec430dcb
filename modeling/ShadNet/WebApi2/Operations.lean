import ShadNet.WebApi2.Calls

/-!
# The operations of the second web API

The clock, the sign-in state and the answers of the HTTP library are arguments.
-/

namespace NpWebApi2.Internal

open LockProgram Prog
open NpWebApi (ContextPtr UserContextPtr RequestPtr HandlePtr Object)

/-! ## Requests -/

/-- The names that `IsInternalHeader` skips, in lower case. -/
def internalHeaders : List String :=
  ["content-type", "user-agent", "authorization", "x-psn-np-title-id", "x-psn-np-title-token",
    "x-psn-request-id", "x-psn-sdk-ver", "x-psn-debug-settings", "npdebug",
    "x-psn-trc-check-notification-enabled", "x-psn-webtrace-enabled", "x-psn-npwebapi2-context",
    "x-psn-fake-rate-limit-enabled", "x-psn-fake-rate-limit-targets"]

def isInternalHeader (headerName : String) : Bool := internalHeaders.contains headerName.toLower

def addHttpRequestHeader (requestId : Int) (fieldName fieldValue : String) : Call Int :=
  withRequest requestId fun lib _ request => do
    if ← reading (.request request) (fun s => (s.requests request).sent) then pure afterSend
    else
      let skips ← reading (.library lib) (fun s =>
        decide ((s.libraries lib).type ≠ .internal) && isInternalHeader fieldName)
      when (skips = false) (guarded (.contextLock lib) (writing (.request request)
        (State.modifyRequest request (fun x =>
          { x with httpHeaders := x.httpHeaders ++ [(fieldName, fieldValue)] }))))
      pure orbisOk

def setRequestTimeout (requestId : Int) (timeout : Nat) : Call Int :=
  withRequest requestId fun _ _ request => do
    writing (.request request) (State.modifyRequest request (fun x => { x with timeout }))
    pure orbisOk

/-- `result` is what the HTTP library makes of the response headers. -/
def getHttpResponseHeaderData (requestId result : Int) : Call Int :=
  withRequest requestId fun _ _ _ => pure (if 0 ≤ result then orbisOk else result)

/-- A request that was aborted or has timed out is let go on behalf of the caller. -/
def checkRequestStatus (request : RequestPtr) (user : UserContextPtr) (lib : ContextPtr) :
    Call Int := do
  let result ← reading (.request request) (fun s => (s.requests request).status)
  if result ≠ orbisOk then releaseRequest lib user request result
  else pure orbisOk

/-- The state of the request is set, and its status looked at, under one lock. -/
def enterState (state : Nat) (request : RequestPtr) (user : UserContextPtr) (lib : ContextPtr) :
    Call Int :=
  guarded (.contextLock request.parentContext) do
    writing (.request request)
      (State.modifyRequest request (fun x => { x with sendState := state }))
    checkRequestStatus request user lib

/-- The answers that a call of `sendRequest` meets. -/
structure HttpAnswers where
  now : Nat := 0
  isSignedIn : Bool := true
  created : Int := 1
  contentType : Int := 0
  bearer : Option Int := none
  headers : List Int := []
  send : NpWebApi2.SendAnswers := {}
  responseHeaders : Int := 0
  statusCode : Int := 0
  httpStatus : Nat := 200

/-- The user context is looked up again; while it is being deleted it is not found, and the null
pointer is followed. -/
def createHttpRequest (answers : HttpAnswers) (lib : ContextPtr) (request : RequestPtr) :
    Call Int := do
  if answers.created < 0 then pure answers.created
  else
    writing (.request request)
      (State.modifyRequest request (fun x => { x with httpRequestId := answers.created }))
    if answers.contentType < 0 then pure answers.contentType
    else
      match ← getUserContext lib (request.requestId.shiftRight 0x20) with
      | none =>
        undefined
        pure 0
      | some user =>
        let _ ← reading (.userContext user) (fun s => (s.userContexts user).userId)
        let headers ← reading (.request request) (fun s => (s.requests request).httpHeaders)
        let failed := (answers.headers.take headers.length).find? (fun result => result < 0)
        removeUser (.userContext user)
        pure (failed.getD (answers.bearer.getD answers.contentType))

/-- `http_status | 0x82f00000`. -/
def statusResult (httpStatus : Nat) : Int :=
  (BitVec.ofNat 32 httpStatus ||| 0x82f00000#32).toInt

/-- What the response comes to once the whole body is out. -/
def HttpAnswers.response (answers : HttpAnswers) : Int :=
  if answers.responseHeaders < 0 then answers.responseHeaders
  else if answers.statusCode < 0 then answers.statusCode
  else if 400 ≤ answers.httpStatus then statusResult answers.httpStatus
  else answers.statusCode

/-- Multipart requests send nothing so far. -/
def sendBody (answers : HttpAnswers) (data : NpWebApi2.SendData) (request : RequestPtr) :
    Call Int :=
  access (.request request) (fun s =>
    let x := s.requests request
    let sent := if x.multipartSupported then (orbisOk, x.content)
      else x.content.sendHttpRequest answers.send data
    (if 0 ≤ sent.1 ∧ sent.2.outOfData then answers.response else sent.1,
      s.modifyRequest request (fun x => { x with content := sent.2 })))

def clearEndTime (request : RequestPtr) : Call Unit :=
  writing (.request request) (State.modifyRequest request (fun x => { x with endTime := 0 }))

def sendRequest (answers : HttpAnswers) (requestId partIndex : Int)
    (data : NpWebApi2.SendData) : Call Int :=
  lookupRequest requestId fun lib user request => do
    writing (.request request) (State.modifyRequest request (Request.setEndTime answers.now))
    let refused ← reading (.request request) (fun s =>
      (s.requests request).multipartSupported && decide (partIndex = 0))
    if refused then releaseRequest lib user request prohibitedFunctionCall
    else
      writing (.request request) (State.modifyRequest request (fun x => { x with sent := true }))
      let result ← enterState 0 request user lib
      if result ≠ orbisOk then pure result
      else
        let _ ← reading (.userContext user) (fun s => (s.userContexts user).userId)
        if answers.isSignedIn = false then releaseRequest lib user request notSignedIn
        else
          let httpRequestId ← reading (.request request)
            (fun s => (s.requests request).httpRequestId)
          let created ← (if httpRequestId = 0 then createHttpRequest answers lib request
            else pure orbisOk)
          if created < 0 then releaseRequest lib user request created
          else
            let result ← enterState 3 request user lib
            if result ≠ orbisOk then pure result
            else
              let result ← sendBody answers data request
              let result2 ← enterState 0 request user lib
              if result2 ≠ orbisOk then pure result2
              else
                clearEndTime request
                releaseRequest lib user request result

/-- `result` is what the HTTP library reads. -/
def readData (now : Nat) (requestId result : Int) : Call Int :=
  lookupRequest requestId fun lib user request => do
    writing (.request request) (State.modifyRequest request (Request.setEndTime now))
    let status ← enterState 3 request user lib
    if status ≠ orbisOk then pure status
    else
      let _ ← reading (.request request) (fun s => (s.requests request).httpRequestId)
      let status ← enterState 0 request user lib
      if status ≠ orbisOk then pure status
      else
        clearEndTime request
        releaseRequest lib user request result

/-- `answer` is what the HTTP library says when the request is under way. -/
def abort (answer : Int) (request : RequestPtr) : Call Int :=
  guarded (.contextLock request.parentContext) (access (.request request) (fun s =>
    ((Request.abort answer (s.requests request)).1,
      s.modifyRequest request (fun x => (Request.abort answer x).2))))

/-- The request is let go before it is aborted. -/
def abortRequest (answer requestId : Int) : Call Int :=
  lookupRequest requestId fun lib user request => do
    removeUser (.request request)
    let result ← abort answer request
    removeUser (.userContext user)
    removeUser (.context lib)
    pure result

/-- The deletion waits until nobody uses the request. -/
def deleteRequestObject (request : RequestPtr) : Call Unit := do
  await (.requestUnused request)
  writing (.deleteRequest request) (State.free (.request request))

def deleteRequest (answer requestId : Int) : Call Int := do
  match ← getLibraryContext (requestId.shiftRight 0x30) with
  | none => pure libContextNotFound
  | some lib =>
    lock (.contextLock lib)
    match ← getUserContext lib (requestId.shiftRight 0x20) with
    | none =>
      unlock (.contextLock lib)
      removeUser (.context lib)
      pure userContextNotFound
    | some user =>
      match ← getRequest user requestId with
      | none =>
        removeUser (.userContext user)
        unlock (.contextLock lib)
        removeUser (.context lib)
        pure requestNotFound
      | some request =>
        if ← reading (.request request) (fun s => (s.requests request).deleting) then
          removeUser (.request request)
          removeUser (.userContext user)
          unlock (.contextLock lib)
          removeUser (.context lib)
          pure requestNotFound
        else
          writing (.request request)
            (State.modifyRequest request (fun x => { x with deleting := true }))
          let _ ← abort answer request
          let busy ← isRequestBusy request
          waitWhile busy (.contextLock lib) (.requestIdle request)
          guarded (.contextLock user.parentContext)
            (writing (.removeRequest user requestId) (State.removeRequest user requestId))
          removeUser (.request request)
          deleteRequestObject request
          removeUser (.userContext user)
          unlock (.contextLock lib)
          removeUser (.context lib)
          pure orbisOk

/-- `contentLength` is that of the content parameter; `tooLong` is an API group of 63 characters
or more. -/
def createRequest (userCtxId : Int) (contentLength : BitVec 64) (multipart tooLong : Bool) :
    Call Int :=
  withUserContext (userCtxId.shiftRight 0x10) userCtxId fun _ user => do
    if tooLong then pure parameterTooLong
    else
      let _ ← guarded (.contextLock user.parentContext) do
        await (.requestIdFree user)
        access (.createRequest user) (State.createRequest user contentLength multipart)
      pure orbisOk

/-! ## User contexts -/

/-- `template` is the HTTP template of the user context, `callback` what becomes of its callback.
When one of them fails the library context is not let go. -/
def createUserContext (template callback libCtxId userId : Int) : Call Int := do
  match ← getLibraryContext libCtxId with
  | none => pure libContextNotFound
  | some lib =>
    match ← getUserContextByUserId lib userId with
    | some user =>
      removeUser (.userContext user)
      removeUser (.context lib)
      pure userContextAlreadyExist
    | none =>
      let userCtxId ← guarded (.contextLock lib) do
        if ← reading (.library lib)
            (fun s => decide (0x10000 ≤ (s.libraries lib).userContexts.length)) then
          pure userContextMax
        else
          await (.userContextIdFree lib)
          access (.createUserContext lib) (State.createUserContext lib userId)
      if userCtxId < 0 then
        removeUser (.context lib)
        pure userCtxId
      else
        match ← getUserContext lib userCtxId with
        | none =>
          undefined
          pure 0
        | some user =>
          removeUser (.userContext user)
          let result := if template < 0 then template else callback
          writing (.initializeUserContext user result)
            (State.modifyUserContext user (fun x => { x with httpTemplateId := template }))
          if result < 0 then
            guarded (.contextLock lib) (writing (.removeUserContext lib userCtxId)
              (State.removeUserContext lib userCtxId))
            writing (.deleteUserContext user) (State.deleteUserContext user)
            pure result
          else
            removeUser (.context lib)
            pure userCtxId

/-- The end of a user context, under the lock of the library context. -/
def deleteUserContextObject (user : UserContextPtr) : Call Unit := do
  guarded (.contextLock user.parentContext)
    (writing (.removeUserContext user.parentContext user.userCtxId)
      (State.removeUserContext user.parentContext user.userCtxId))
  removeUser (.userContext user)
  let requests ← reading (.listRequests user) (fun s => (s.userContexts user).requests)
  forEach requests deleteRequestObject
  writing (.deleteUserContext user) (State.deleteUserContext user)

def deleteUserContext (answer userCtxId : Int) : Call Int := do
  match ← getLibraryContext (userCtxId.shiftRight 0x10) with
  | none => pure libContextNotFound
  | some lib =>
    lock (.contextLock lib)
    match ← getUserContext lib userCtxId with
    | none =>
      unlock (.contextLock lib)
      removeUser (.context lib)
      pure userContextNotFound
    | some user =>
      guarded (.contextLock user.parentContext) do
        let requests ← reading (.listRequests user) (fun s => (s.userContexts user).requests)
        forEach requests (fun request => do
          let _ ← abort answer request
          pure ())
      if ← reading (.userContext user) (fun s => (s.userContexts user).deleting) then
        removeUser (.userContext user)
        unlock (.contextLock lib)
        removeUser (.context lib)
        pure userContextNotFound
      else
        writing (.userContext user)
          (State.modifyUserContext user (fun x => { x with deleting := true }))
        let busy ← isUserContextInUse user
        waitWhile busy (.contextLock lib) (.userContextIdle user)
        deleteUserContextObject user
        unlock (.contextLock lib)
        removeUser (.context lib)
        pure orbisOk

/-! ## Callbacks of a user context -/

/-- The filter is looked up without being counted as used. -/
def registerCallback (kind : CallbackKind) (userCtxId filterId : Int) : Call Int :=
  withUserContext (userCtxId.shiftRight 0x10) userCtxId fun lib user => do
    let known ← guarded (.contextLock lib) (reading (.filters lib)
      (fun s => (s.libraries lib).pushEventFilters.contains filterId))
    if known = false then pure pushEventFilterNotFound
    else
      guarded (.contextLock user.parentContext)
        (access (.callbacks user kind) (State.createCallback kind user filterId))

def unregisterCallback (kind : CallbackKind) (userCtxId callbackId : Int) : Call Int :=
  withUserContext (userCtxId.shiftRight 0x10) userCtxId fun _ user =>
    guarded (.contextLock user.parentContext) do
      match ← reading (.callbacks user kind) (State.callback? kind user callbackId) with
      | none => pure pushEventCallbackNotFound
      | some callback =>
        waitWhile callback.isBusy (.contextLock user.parentContext)
          (.callbackIdle user kind callbackId)
        writing (.callbacks user kind) (State.removeCallback kind user callbackId)
        pure orbisOk

def registerPushEventCallback := registerCallback .pushEvent
def unregisterPushEventCallback := unregisterCallback .pushEvent
def registerPushContextCallback := registerCallback .pushContext
def unregisterPushContextCallback := unregisterCallback .pushContext

/-! ## Push contexts -/

/-- The push contexts are marked busy, once they are not any more. -/
def claimPushContexts (user : UserContextPtr) : Call Unit := do
  let busy ← reading (.pushContexts user) (fun s => (s.userContexts user).pushContextsBusy)
  waitWhile busy (.contextLock user.parentContext) (.pushContextsFree user)
  writing (.pushContexts user)
    (State.modifyUserContext user (fun x => { x with pushContextsBusy := true }))

def createPushContext (userCtxId : Int) : Call Int :=
  withUserContext (userCtxId.shiftRight 0x10) userCtxId fun _ user => do
    guarded (.contextLock user.parentContext) do
      claimPushContexts user
      writing (.pushContexts user) (State.createPushContext user)
      writing (.pushContexts user)
        (State.modifyUserContext user (fun x => { x with pushContextsBusy := false }))
    pure orbisOk

def getPushContext (user : UserContextPtr) (fakeId : Int) : Call (Option PushContext) :=
  guarded (.contextLock user.parentContext)
    (reading (.pushContexts user) (State.pushContext? user fakeId))

def startPushContextCallback (userCtxId fakeId : Int) : Call Int :=
  withUserContext (userCtxId.shiftRight 0x10) userCtxId fun _ user => do
    match ← getPushContext user fakeId with
    | none => pure pushContextNotFound
    | some _ =>
      writing (.pushContexts user) (State.startPushContext user fakeId)
      pure orbisOk

def deletePushContext (userCtxId fakeId : Int) : Call Int :=
  withUserContext (userCtxId.shiftRight 0x10) userCtxId fun _ user => do
    match ← getPushContext user fakeId with
    | none => pure pushContextNotFound
    | some _ =>
      guarded (.contextLock user.parentContext) do
        claimPushContexts user
        let running ← reading (.pushContexts user)
          (fun s => (s.pushContext? user fakeId).any PushContext.callbackRunning)
        waitWhile running (.contextLock user.parentContext) (.pushContextIdle user fakeId)
        writing (.pushContexts user) (State.removePushContext user fakeId)
      pure orbisOk

/-! ## Push event handles and filters -/

def getMemoryPoolStats (libCtxId : Int) : Call Int :=
  withLibraryContext libCtxId fun lib => do
    let _ ← reading (.library lib) (fun s => (s.libraries lib).poolSize)
    pure orbisOk

def createPushEventHandle (libCtxId : Int) : Call Int :=
  withLibraryContext libCtxId fun lib =>
    guarded (.contextLock lib) (access (.createHandle lib) (State.createPushEventHandle lib))

def setHandleTimeout (libCtxId handleId : Int) (timeout : Nat) : Call Int :=
  withHandle libCtxId handleId fun lib handle => do
    guarded (.contextLock lib) do
      writing (.handle handle) (State.modifyHandle handle (fun x => { x with timeout }))
      removeUser (.handle handle)
    pure orbisOk

def abortPushEventHandle (libCtxId handleId : Int) : Call Int :=
  withHandle libCtxId handleId fun lib handle => do
    guarded (.contextLock lib) (writing (.handle handle)
      (State.modifyHandle handle (fun x => { x with aborted := true })))
    removeUser (.handle handle)
    pure orbisOk

/-- While the loop sleeps the handle is not counted as used. -/
def waitForHandle (lib : ContextPtr) (handle : HandlePtr) : Call Unit := do
  let busy ← reading (.handle handle) (fun s => decide (1 < (s.handles handle).userCount))
  when busy do
    removeUser (.handle handle)
    unlock (.contextLock lib)
    relock (.contextLock lib) (.handleIdle handle)
    addUser (.handle handle)

/-- A handle that was marked before is not let go, and after the deletion the lock is kept. -/
def deleteHandle (lib : ContextPtr) (handle : HandlePtr) : Call Int := do
  lock (.contextLock lib)
  if ← reading (.handleDeleted handle) (fun s => (s.handles handle).deleting) then
    unlock (.contextLock lib)
    pure handleNotFound
  else
    writing (.handle handle)
      (State.modifyHandle handle (fun x => { x with deleting := true, aborted := true }))
    waitForHandle lib handle
    writing (.deleteHandle handle) (State.deleteHandle handle)
    pure orbisOk

def deletePushEventHandle (libCtxId handleId : Int) : Call Int :=
  withHandle libCtxId handleId deleteHandle

def createPushEventFilter (now : Nat) (libCtxId handleId : Int) : Call Int :=
  withLibraryContext libCtxId fun lib => do
    guarded (.contextLock lib) do
      match ← reading (.findHandle lib handleId) (State.handle? lib handleId) with
      | none => pure ()
      | some handle =>
        writing (.handle handle) (State.modifyHandle handle (PushEventHandle.setEndTime now))
    guarded (.contextLock lib) do
      match ← reading (.findHandle lib handleId) (State.handle? lib handleId) with
      | none => pure handleNotFound
      | some handle =>
        addUser (.handle handle)
        let filterId ← access (.filters lib) (State.createPushEventFilter lib)
        let refusal ← reading (.handle handle) (fun s => (s.handles handle).refusal)
        if refusal < 0 then
          writing (.filters lib) (State.removeFilter lib filterId)
          removeUser (.handle handle)
          pure refusal
        else
          removeUser (.handle handle)
          pure filterId

def deletePushEventFilter (libCtxId filterId : Int) : Call Int :=
  withLibraryContext libCtxId fun lib => do
    let known ← guarded (.contextLock lib) (reading (.filters lib)
      (fun s => (s.libraries lib).pushEventFilters.contains filterId))
    if known = false then pure pushEventFilterNotFound
    else
      guarded (.contextLock lib)
        (writing (.filters lib) (State.removeFilter lib filterId))
      pure orbisOk

/-! ## Library contexts -/

def createLibraryContext (type : LibraryContextType) (poolSize : Nat) : Call Int :=
  guarded .globalMutex do
    if ← reading .listLibraryContexts (fun s => decide (0x8000 ≤ s.libContexts.length)) then
      pure libContextMax
    else
      await .libContextIdFree
      access .createLibraryContext (State.createLibraryContext type poolSize)

/-- The loop stands on the entry that a deletion erases. -/
def deleteUserContexts (answer : Int) : List Int → Call Unit
  | [] => pure ()
  | userCtxId :: rest => do
    let result ← deleteUserContext answer userCtxId
    when (result = orbisOk) undefined
    deleteUserContexts answer rest

def deleteAllUserContexts (answer : Int) (lib : ContextPtr) : Call Unit :=
  guarded (.contextLock lib) do
    let userCtxIds ← reading (.listUserContexts lib)
      (fun s => (s.libraries lib).userContexts.map UserContextPtr.userCtxId)
    deleteUserContexts answer userCtxIds
    writing (.clearUserContexts lib)
      (State.modifyLibrary lib (fun x => { x with userContexts := [] }))

def abortAllPushEventHandles (lib : ContextPtr) : Call Unit :=
  guarded (.contextLock lib) do
    let handles ← reading (.listHandles lib) (fun s => (s.libraries lib).pushEventHandles)
    forEach handles (fun handle => do
      let _ ← abortPushEventHandle lib.libCtxId handle.handleId
      pure ())

def terminateLibraryContext (answer libCtxId : Int) : Call Int := do
  match ← getLibraryContext libCtxId with
  | none => pure libContextNotFound
  | some lib =>
    lock (.contextLock lib)
    deleteAllUserContexts answer lib
    abortAllPushEventHandles lib
    if ← reading (.library lib) (fun s => (s.libraries lib).deleting) then
      unlock (.contextLock lib)
      removeUser (.context lib)
      pure libContextNotFound
    else
      writing (.library lib) (State.modifyLibrary lib (fun x => { x with deleting := true }))
      let busy ← isLibraryInUse lib
      waitWhile busy (.contextLock lib) (.libraryIdle lib)
      unlock (.contextLock lib)
      removeUser (.context lib)
      guarded .globalMutex (writing (.eraseLibraryContext libCtxId) (fun s =>
        { s with libContexts := KeyedTable.remove ContextPtr.libCtxId libCtxId s.libContexts }))
      writing (.deleteLibraryContext lib) (State.deleteLibraryContext lib)
      pure orbisOk

/-! ## Timeouts -/

def checkRequestTimeout (answer : Int) (now : Nat) (request : RequestPtr) : Call Unit := do
  let expired ← access (.request request) (fun s =>
    ((Request.checkTimeout now (s.requests request)).1,
      s.modifyRequest request (fun x => (Request.checkTimeout now x).2)))
  when expired do
    let _ ← abort answer request
    pure ()

def checkUserContextTimeout (answer : Int) (now : Nat) (user : UserContextPtr) : Call Unit :=
  guarded (.contextLock user.parentContext) do
    let requests ← reading (.listRequests user) (fun s => (s.userContexts user).requests)
    forEach requests (checkRequestTimeout answer now)

def checkLibraryTimeout (answer : Int) (now : Nat) (lib : ContextPtr) : Call Unit :=
  guarded (.contextLock lib) do
    let users ← reading (.library lib) (fun s => (s.libraries lib).userContexts)
    forEach users (checkUserContextTimeout answer now)
    let handles ← reading (.library lib) (fun s => (s.libraries lib).pushEventHandles)
    forEach handles (fun handle => writing (.handle handle)
      (State.modifyHandle handle (PushEventHandle.checkTimeout now)))

def checkTimeout (answer : Int) (now : Nat) : Call Unit := do
  let late ← reading .lastTimeoutCheck (fun s => decide (s.lastTimeoutCheck + 1000 ≤ now))
  when late (guarded .globalMutex do
    writing .lastTimeoutCheck (fun s => { s with lastTimeoutCheck := now })
    let libs ← reading .listLibraryContexts State.libContexts
    forEach libs (checkLibraryTimeout answer now))

/-! ## The calls -/

/-- `rejected` stands for the calls whose arguments the exported function turns down and for those
that do nothing. -/
inductive Op where
  | rejected (code : Int)
  | createLibraryContext (type : LibraryContextType) (poolSize : Nat)
  | terminateLibraryContext (answer libCtxId : Int)
  | getMemoryPoolStats (libCtxId : Int)
  | createUserContext (template callback libCtxId userId : Int)
  | deleteUserContext (answer userCtxId : Int)
  | createRequest (userCtxId : Int) (contentLength : BitVec 64) (multipart tooLong : Bool)
  | addHttpRequestHeader (requestId : Int) (fieldName fieldValue : String)
  | setRequestTimeout (requestId : Int) (timeout : Nat)
  | sendRequest (answers : HttpAnswers) (requestId partIndex : Int) (data : NpWebApi2.SendData)
  | getHttpResponseHeaderData (requestId result : Int)
  | readData (now : Nat) (requestId result : Int)
  | abortRequest (answer requestId : Int)
  | deleteRequest (answer requestId : Int)
  | createPushEventHandle (libCtxId : Int)
  | setHandleTimeout (libCtxId handleId : Int) (timeout : Nat)
  | abortPushEventHandle (libCtxId handleId : Int)
  | deletePushEventHandle (libCtxId handleId : Int)
  | createPushEventFilter (now : Nat) (libCtxId handleId : Int)
  | deletePushEventFilter (libCtxId filterId : Int)
  | registerPushEventCallback (userCtxId filterId : Int)
  | unregisterPushEventCallback (userCtxId callbackId : Int)
  | registerPushContextCallback (userCtxId filterId : Int)
  | unregisterPushContextCallback (userCtxId callbackId : Int)
  | createPushContext (userCtxId : Int)
  | startPushContextCallback (userCtxId fakeId : Int)
  | deletePushContext (userCtxId fakeId : Int)
  | checkTimeout (answer : Int) (now : Nat)

/-- The program of a call. A call without a result returns `ORBIS_OK` here. -/
def program : Op → Call Int
  | .rejected code => pure code
  | .createLibraryContext type poolSize => createLibraryContext type poolSize
  | .terminateLibraryContext answer libCtxId => terminateLibraryContext answer libCtxId
  | .getMemoryPoolStats libCtxId => getMemoryPoolStats libCtxId
  | .createUserContext template callback libCtxId userId =>
    createUserContext template callback libCtxId userId
  | .deleteUserContext answer userCtxId => deleteUserContext answer userCtxId
  | .createRequest userCtxId contentLength multipart tooLong =>
    createRequest userCtxId contentLength multipart tooLong
  | .addHttpRequestHeader requestId fieldName fieldValue =>
    addHttpRequestHeader requestId fieldName fieldValue
  | .setRequestTimeout requestId timeout => setRequestTimeout requestId timeout
  | .sendRequest answers requestId partIndex data => sendRequest answers requestId partIndex data
  | .getHttpResponseHeaderData requestId result => getHttpResponseHeaderData requestId result
  | .readData now requestId result => readData now requestId result
  | .abortRequest answer requestId => abortRequest answer requestId
  | .deleteRequest answer requestId => deleteRequest answer requestId
  | .createPushEventHandle libCtxId => createPushEventHandle libCtxId
  | .setHandleTimeout libCtxId handleId timeout => setHandleTimeout libCtxId handleId timeout
  | .abortPushEventHandle libCtxId handleId => abortPushEventHandle libCtxId handleId
  | .deletePushEventHandle libCtxId handleId => deletePushEventHandle libCtxId handleId
  | .createPushEventFilter now libCtxId handleId => createPushEventFilter now libCtxId handleId
  | .deletePushEventFilter libCtxId filterId => deletePushEventFilter libCtxId filterId
  | .registerPushEventCallback userCtxId filterId => registerPushEventCallback userCtxId filterId
  | .unregisterPushEventCallback userCtxId callbackId =>
    unregisterPushEventCallback userCtxId callbackId
  | .registerPushContextCallback userCtxId filterId =>
    registerPushContextCallback userCtxId filterId
  | .unregisterPushContextCallback userCtxId callbackId =>
    unregisterPushContextCallback userCtxId callbackId
  | .createPushContext userCtxId => createPushContext userCtxId
  | .startPushContextCallback userCtxId fakeId => startPushContextCallback userCtxId fakeId
  | .deletePushContext userCtxId fakeId => deletePushContext userCtxId fakeId
  | .checkTimeout answer now => do
    checkTimeout answer now
    pure orbisOk

end NpWebApi2.Internal
