import ShadNet.IdSearch
import ShadNet.WebApi.State
import ShadNet.WebApi2.Request

/-!
# The objects of the second web API

Unlike the first library this one frees its objects. A pointer carries a serial
number, so it never stands for a later object; `freed` lists what was deleted, and
the record of a deleted object is left as it was.
-/

namespace NpWebApi2.Internal

open KeyedTable
open NpWebApi (ContextPtr UserContextPtr RequestPtr HandlePtr Object)

/-! ## Results -/

def orbisOk : Int := NpHandler.orbisOk
def libContextNotFound : Int := NpHandler.orbisError 0x80553404
def userContextNotFound : Int := NpHandler.orbisError 0x80553405
def requestNotFound : Int := NpHandler.orbisError 0x80553406
def notSignedIn : Int := NpHandler.orbisError 0x80553407
def aborted : Int := NpHandler.orbisError 0x80553409
def userContextAlreadyExist : Int := NpHandler.orbisError 0x8055340a
def pushEventFilterNotFound : Int := NpHandler.orbisError 0x8055340b
def pushEventCallbackNotFound : Int := NpHandler.orbisError 0x8055340c
def handleNotFound : Int := NpHandler.orbisError 0x8055340d
def prohibitedFunctionCall : Int := NpHandler.orbisError 0x80553414
def parameterTooLong : Int := NpHandler.orbisError 0x80553416
def libContextMax : Int := NpHandler.orbisError 0x80553418
def userContextMax : Int := NpHandler.orbisError 0x80553419
def afterSend : Int := NpHandler.orbisError 0x8055341a
def timeout : Int := NpHandler.orbisError 0x8055341b
def pushContextNotFound : Int := NpHandler.orbisError 0x8055341c

/-! ## Objects -/

inductive LibraryContextType where
  | debug
  | normal
  | internal
  | presence
  deriving DecidableEq, Repr

structure LibraryContext where
  userCount : Int := 0
  type : LibraryContextType := .normal
  poolSize : Nat := 0
  deleting : Bool := false
  userContexts : List UserContextPtr := []
  pushEventHandles : List HandlePtr := []
  pushEventFilters : List Int := []

/-- A user context has callbacks for push events and callbacks for push contexts. -/
inductive CallbackKind where
  | pushEvent
  | pushContext
  deriving DecidableEq, Repr

structure Callback where
  id : Int
  filterId : Int
  isBusy : Bool := false
  deriving DecidableEq, Repr

structure PushContext where
  fakeId : Int
  state : Int := 0
  started : Bool := false
  deriving DecidableEq, Repr

structure UserContext where
  userCount : Int := 0
  userId : Int := 0
  httpTemplateId : Int := 0
  deleting : Bool := false
  pushContextsBusy : Bool := false
  requests : List RequestPtr := []
  callbacks : CallbackKind → List Callback := fun _ => []
  pushContexts : List PushContext := []

/-- `content` is the body with what was sent of it. -/
structure Request where
  userCount : Int := 0
  content : NpWebApi2.Request := { contentLength := 0 }
  httpRequestId : Int := 0
  timeout : Nat := 0
  sendState : Nat := 0
  multipartSupported : Bool := false
  sent : Bool := false
  aborted : Bool := false
  expired : Bool := false
  deleting : Bool := false
  endTime : Nat := 0
  httpHeaders : List (String × String) := []

structure PushEventHandle where
  userCount : Int := 0
  timeout : Nat := 0
  aborted : Bool := false
  deleting : Bool := false
  timedOut : Bool := false
  endTime : Nat := 0

/-- `libContexts` is `g_lib_contexts`. `allocated` numbers the objects that were made. -/
structure State where
  libContexts : List ContextPtr := []
  libraries : ContextPtr → LibraryContext := fun _ => {}
  userContexts : UserContextPtr → UserContext := fun _ => {}
  requests : RequestPtr → Request := fun _ => {}
  handles : HandlePtr → PushEventHandle := fun _ => {}
  allocated : Nat := 0
  freed : List Object := []
  currentLibContextId : Nat := 0
  currentUserContextId : Nat := 0
  currentRequestId : Nat := 0
  currentHandleId : Nat := 0
  currentFilterId : Nat := 0
  currentCallbackId : CallbackKind → Nat := fun _ => 0
  currentPushContextId : Nat := 0
  lastTimeoutCheck : Nat := 0

/-! ## Requests and handles -/

def Request.setEndTime (now : Nat) (x : Request) : Request :=
  if x.timeout ≠ 0 ∧ x.endTime = 0 then { x with endTime := now + x.timeout } else x

/-- `answer` is what the HTTP library says when a request that is under way is aborted. -/
def Request.abort (answer : Int) (x : Request) : Int × Request :=
  if x.aborted then (0, x) else (if x.sendState = 3 then answer else 0, { x with aborted := true })

/-- Whether the request has to be aborted is told. -/
def Request.checkTimeout (now : Nat) (x : Request) : Bool × Request :=
  if ¬x.expired ∧ x.endTime ≠ 0 ∧ x.endTime < now then (true, { x with expired := true })
  else (false, x)

def Request.status (x : Request) : Int :=
  if x.expired then Internal.timeout else if x.aborted then Internal.aborted else orbisOk

def PushEventHandle.setEndTime (now : Nat) (x : PushEventHandle) : PushEventHandle :=
  if x.timeout ≠ 0 then { x with endTime := now + x.timeout } else x

def PushEventHandle.checkTimeout (now : Nat) (x : PushEventHandle) : PushEventHandle :=
  if ¬x.timedOut ∧ x.endTime ≠ 0 ∧ x.endTime < now then
    { x with timedOut := true, aborted := true }
  else x

/-- What a filter is refused for by its handle. -/
def PushEventHandle.refusal (x : PushEventHandle) : Int :=
  if x.deleting then handleNotFound
  else if x.timedOut then Internal.timeout
  else if x.aborted then Internal.aborted
  else orbisOk

def PushContext.callbackRunning (x : PushContext) : Bool := x.state = 2

namespace State

def modifyLibrary (c : ContextPtr) (f : LibraryContext → LibraryContext) (s : State) : State :=
  { s with libraries := Function.update s.libraries c (f (s.libraries c)) }

def modifyUserContext (u : UserContextPtr) (f : UserContext → UserContext) (s : State) : State :=
  { s with userContexts := Function.update s.userContexts u (f (s.userContexts u)) }

def modifyRequest (r : RequestPtr) (f : Request → Request) (s : State) : State :=
  { s with requests := Function.update s.requests r (f (s.requests r)) }

def modifyHandle (h : HandlePtr) (f : PushEventHandle → PushEventHandle) (s : State) : State :=
  { s with handles := Function.update s.handles h (f (s.handles h)) }

/-! ### `user_count` -/

def userCount : Object → State → Int
  | .context c, s => (s.libraries c).userCount
  | .userContext u, s => (s.userContexts u).userCount
  | .request r, s => (s.requests r).userCount
  | .handle h, s => (s.handles h).userCount

def addUsers (n : Int) : Object → State → State
  | .context c => modifyLibrary c (fun x => { x with userCount := x.userCount + n })
  | .userContext u => modifyUserContext u (fun x => { x with userCount := x.userCount + n })
  | .request r => modifyRequest r (fun x => { x with userCount := x.userCount + n })
  | .handle h => modifyHandle h (fun x => { x with userCount := x.userCount + n })

def free (o : Object) (s : State) : State := { s with freed := o :: s.freed }

/-! ### Lookups -/

def libContext? (libCtxId : Int) (s : State) : Option ContextPtr :=
  lookup ContextPtr.libCtxId libCtxId s.libContexts

/-- A user context that is being deleted is not found any more. -/
def userContext? (c : ContextPtr) (userCtxId : Int) (s : State) : Option UserContextPtr :=
  (lookup UserContextPtr.userCtxId userCtxId (s.libraries c).userContexts).filter
    (fun user => !(s.userContexts user).deleting)

def userContextByUserId? (c : ContextPtr) (userId : Int) (s : State) : Option UserContextPtr :=
  (s.libraries c).userContexts.find? (fun user => (s.userContexts user).userId = userId)

def request? (u : UserContextPtr) (requestId : Int) (s : State) : Option RequestPtr :=
  lookup RequestPtr.requestId requestId (s.userContexts u).requests

def handle? (c : ContextPtr) (handleId : Int) (s : State) : Option HandlePtr :=
  lookup HandlePtr.handleId handleId (s.libraries c).pushEventHandles

def pushContext? (u : UserContextPtr) (fakeId : Int) (s : State) : Option PushContext :=
  lookup PushContext.fakeId fakeId (s.userContexts u).pushContexts

def callback? (kind : CallbackKind) (u : UserContextPtr) (callbackId : Int) (s : State) :
    Option Callback :=
  lookup Callback.id callbackId ((s.userContexts u).callbacks kind)

/-! ### Whether others use an object -/

def isLibraryBusy (c : ContextPtr) (s : State) : Bool := 1 < (s.libraries c).userCount

def hasBusyPushEventHandles (c : ContextPtr) (s : State) : Bool :=
  (s.libraries c).pushEventHandles.any (fun h => 1 < (s.handles h).userCount)

def isUserContextBusy (u : UserContextPtr) (s : State) : Bool := 1 < (s.userContexts u).userCount

/-- Each request is marked while it is asked. -/
def hasBusyRequests (u : UserContextPtr) (s : State) : Bool :=
  (s.userContexts u).requests.any (fun r => 1 < (s.requests r).userCount + 1)

def isRequestBusy (r : RequestPtr) (s : State) : Bool := 1 < (s.requests r).userCount

/-! ### Ids and new objects

The record of a new object is blank, as its pointer is new. -/

def freeLibContextId (s : State) : Option Nat :=
  IdSearch.searchUp (fun id => (s.libContexts.map ContextPtr.libCtxId).contains (id : Int)) 0x8000
    0x8000 s.currentLibContextId

def createLibraryContext (type : LibraryContextType) (poolSize : Nat) (s : State) : Int × State :=
  match s.freeLibContextId with
  | none => (libContextMax, s)
  | some id =>
    let lib : ContextPtr := ⟨id, s.allocated⟩
    let s := { s with
      allocated := s.allocated + 1
      currentLibContextId := id
      libContexts := enter ContextPtr.libCtxId lib s.libContexts }
    (id, s.modifyLibrary lib (fun x => { x with type, poolSize }))

/-- The counter is put beside the id of the library context. -/
def actualUserContextId (c : ContextPtr) (counter : Nat) : Int :=
  c.libCtxId.shiftLeft 0x10 + counter

def freeUserContextId (c : ContextPtr) (s : State) : Option Nat :=
  IdSearch.searchUp (fun counter => ((s.libraries c).userContexts.map
    UserContextPtr.userCtxId).contains (actualUserContextId c counter)) 0x10000 0x10000
    s.currentUserContextId

def createUserContext (c : ContextPtr) (userId : Int) (s : State) : Int × State :=
  match s.freeUserContextId c with
  | none => (userContextMax, s)
  | some counter =>
    let user : UserContextPtr := ⟨c, actualUserContextId c counter, s.allocated⟩
    let s := { s with allocated := s.allocated + 1, currentUserContextId := counter }
    let s := s.modifyUserContext user (fun x => { x with userId })
    (user.userCtxId, s.modifyLibrary c (fun x =>
      { x with userContexts := enter UserContextPtr.userCtxId user x.userContexts }))

def actualRequestId (u : UserContextPtr) (counter : Nat) : Int :=
  u.userCtxId.shiftLeft 0x20 + counter

def freeRequestId (u : UserContextPtr) (s : State) : Option Nat :=
  IdSearch.searchUp (fun counter => ((s.userContexts u).requests.map
    RequestPtr.requestId).contains (actualRequestId u counter)) 0x100000000 0x100000000
    s.currentRequestId

def createRequest (u : UserContextPtr) (contentLength : BitVec 64) (multipart : Bool)
    (s : State) : Option RequestPtr × State :=
  match s.freeRequestId u with
  | none => (none, s)
  | some counter =>
    let request : RequestPtr := ⟨u.parentContext, actualRequestId u counter, s.allocated⟩
    let s := { s with allocated := s.allocated + 1, currentRequestId := counter }
    let s := s.modifyRequest request (fun x =>
      { x with content := { contentLength }, multipartSupported := multipart })
    (some request, s.modifyUserContext u (fun x =>
      { x with requests := enter RequestPtr.requestId request x.requests }))

/-- Ids of handles, filters and callbacks start again at 1, and may be in use. -/
def advance (counter : Nat) : Nat := if counter + 1 < 0xf0000000 then counter + 1 else 1

/-- The counters are unsigned, the ids signed. -/
def signed (id : Nat) : Int := (BitVec.ofNat 32 id).toInt

def createPushEventHandle (c : ContextPtr) (s : State) : Int × State :=
  let id := advance s.currentHandleId
  let handle : HandlePtr := ⟨c, signed id, s.allocated⟩
  let s := { s with allocated := s.allocated + 1, currentHandleId := id }
  (signed id, s.modifyLibrary c (fun x =>
    { x with pushEventHandles := enter HandlePtr.handleId handle x.pushEventHandles }))

def createPushEventFilter (c : ContextPtr) (s : State) : Int × State :=
  let id := advance s.currentFilterId
  let s := { s with currentFilterId := id }
  (signed id, s.modifyLibrary c (fun x =>
    { x with pushEventFilters := enter (fun id : Int => id) (signed id) x.pushEventFilters }))

def createCallback (kind : CallbackKind) (u : UserContextPtr) (filterId : Int) (s : State) :
    Int × State :=
  let id := advance (s.currentCallbackId kind)
  let s := { s with currentCallbackId := Function.update s.currentCallbackId kind id }
  (signed id, s.modifyUserContext u (fun x => { x with
    callbacks := Function.update x.callbacks kind
      (enter Callback.id { id := signed id, filterId } (x.callbacks kind)) }))

def createPushContext (u : UserContextPtr) (s : State) : State :=
  let next := s.currentPushContextId + 1
  let id := if next < 0x8000000000000000 then next else 1
  let s := { s with currentPushContextId := id }
  s.modifyUserContext u (fun x => { x with
    pushContexts := enter PushContext.fakeId { fakeId := id } x.pushContexts })

def startPushContext (u : UserContextPtr) (fakeId : Int) (s : State) : State :=
  s.modifyUserContext u (fun x => { x with
    pushContexts := adjust PushContext.fakeId fakeId
      (fun pushContext => { pushContext with started := true }) x.pushContexts })

/-! ### Removal -/

def removeUserContext (c : ContextPtr) (userCtxId : Int) (s : State) : State :=
  s.modifyLibrary c (fun x =>
    { x with userContexts := remove UserContextPtr.userCtxId userCtxId x.userContexts })

def removeRequest (u : UserContextPtr) (requestId : Int) (s : State) : State :=
  s.modifyUserContext u (fun x =>
    { x with requests := remove RequestPtr.requestId requestId x.requests })

def removeFilter (c : ContextPtr) (filterId : Int) (s : State) : State :=
  s.modifyLibrary c (fun x =>
    { x with pushEventFilters := remove (fun id : Int => id) filterId x.pushEventFilters })

def removeCallback (kind : CallbackKind) (u : UserContextPtr) (callbackId : Int) (s : State) :
    State :=
  s.modifyUserContext u (fun x => { x with
    callbacks := Function.update x.callbacks kind
      (remove Callback.id callbackId (x.callbacks kind)) })

def removePushContext (u : UserContextPtr) (fakeId : Int) (s : State) : State :=
  s.modifyUserContext u (fun x => { x with
    pushContexts := remove PushContext.fakeId fakeId x.pushContexts, pushContextsBusy := false })

/-- The entry is erased and the object deleted. -/
def deleteHandle (h : HandlePtr) (s : State) : State :=
  (s.modifyLibrary h.parentContext (fun x => { x with
    pushEventHandles := remove HandlePtr.handleId h.handleId x.pushEventHandles })).free (.handle h)

/-- What is left of a user context when its requests are gone. -/
def deleteUserContext (u : UserContextPtr) (s : State) : State :=
  (s.modifyUserContext u (fun x => { x with
    requests := [], pushContexts := [], callbacks := fun _ => [] })).free (.userContext u)

/-- A library context goes with its handles and filters. -/
def deleteLibraryContext (c : ContextPtr) (s : State) : State :=
  let handles := (s.libraries c).pushEventHandles.map Object.handle
  let s := s.modifyLibrary c (fun x => { x with pushEventHandles := [], pushEventFilters := [] })
  { s with freed := .context c :: handles ++ s.freed }

end State

end NpWebApi2.Internal
