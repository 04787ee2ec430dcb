import ShadNet.Handler.Types
import ShadNet.KeyedTable
import ShadNet.Mutexes
import Mathlib.Logic.Function.Basic

/-!
# The state of the web API library

No object of the library is freed: an entry that is erased drops a pointer, and a
pointer that a thread has looked up stays good. A pointer carries what its object
is made with and keeps: the context, the id, and a serial number that tells it from
objects that had the id before.
-/

namespace NpWebApi

open KeyedTable

/-! ## Results -/

def orbisOk : Int := NpHandler.orbisOk
def invalidArgument : Int := NpHandler.orbisError 0x80552902
def libContextNotFound : Int := NpHandler.orbisError 0x80552904
def userContextNotFound : Int := NpHandler.orbisError 0x80552905
def requestNotFound : Int := NpHandler.orbisError 0x80552906
def notSignedIn : Int := NpHandler.orbisError 0x80552907
def aborted : Int := NpHandler.orbisError 0x80552909
def userContextAlreadyExist : Int := NpHandler.orbisError 0x8055290A
def pushEventFilterNotFound : Int := NpHandler.orbisError 0x8055290B
def pushEventCallbackNotFound : Int := NpHandler.orbisError 0x8055290C
def handleNotFound : Int := NpHandler.orbisError 0x8055290D
def servicePushEventFilterNotFound : Int := NpHandler.orbisError 0x8055290E
def servicePushEventCallbackNotFound : Int := NpHandler.orbisError 0x8055290F
def signedInUserNotFound : Int := NpHandler.orbisError 0x80552910
def libContextBusy : Int := NpHandler.orbisError 0x80552911
def userContextBusy : Int := NpHandler.orbisError 0x80552912
def requestBusy : Int := NpHandler.orbisError 0x80552913
def handleBusy : Int := NpHandler.orbisError 0x80552919
def libContextMax : Int := NpHandler.orbisError 0x8055291A
def userContextMax : Int := NpHandler.orbisError 0x8055291B
def extdPushEventFilterNotFound : Int := NpHandler.orbisError 0x8055291C
def extdPushEventCallbackNotFound : Int := NpHandler.orbisError 0x8055291D
def timeout : Int := NpHandler.orbisError 0x8055291F

def fw250 : Nat := 0x2500000
def fw300 : Nat := 0x3000000
def fw400 : Nat := 0x4000000

/-! ## Objects -/

structure ContextPtr where
  libCtxId : Int
  serial : Nat
  deriving DecidableEq, Repr

structure UserContextPtr where
  parentContext : ContextPtr
  userCtxId : Int
  serial : Nat
  deriving DecidableEq, Repr

structure RequestPtr where
  parentContext : ContextPtr
  requestId : Int
  serial : Nat
  deriving DecidableEq, Repr

structure HandlePtr where
  parentContext : ContextPtr
  handleId : Int
  serial : Nat
  deriving DecidableEq, Repr

/-- The objects with a `user_count`. -/
inductive Object where
  | context (c : ContextPtr)
  | userContext (u : UserContextPtr)
  | request (r : RequestPtr)
  | handle (h : HandlePtr)
  deriving DecidableEq, Repr

/-- Push events, their filters and their callbacks come in three kinds. -/
inductive PushKind where
  | basic
  | service
  | extended
  deriving DecidableEq, Repr

structure RegisteredCallback where
  callbackId : Int
  filterId : Int
  deriving DecidableEq, Repr

structure TimerHandle where
  handleId : Int
  handleTimeout : Nat := 0
  handleEndTime : Nat := 0
  timedOut : Bool := false
  deriving DecidableEq, Repr

structure Context where
  userCount : Int := 0
  userContexts : List UserContextPtr := []
  handles : List HandlePtr := []
  timerHandles : List TimerHandle := []
  filters : PushKind → List Int := fun _ => []
  terminated : Bool := false

structure UserContext where
  userCount : Int := 0
  userId : Int := 0
  requests : List RequestPtr := []
  callbacks : PushKind → List RegisteredCallback := fun _ => []
  notificationCallback : Option Nat := none
  deleted : Bool := false

def Context.adjustTimer (handleId : Int) (f : TimerHandle → TimerHandle) (x : Context) : Context :=
  { x with timerHandles := adjust TimerHandle.handleId handleId f x.timerHandles }

def Context.removeFilter (kind : PushKind) (filterId : Int) (x : Context) : Context :=
  { x with filters := Function.update x.filters kind (remove id filterId (x.filters kind)) }

def UserContext.removeCallback (kind : PushKind) (callbackId : Int) (x : UserContext) :
    UserContext :=
  let left := remove RegisteredCallback.callbackId callbackId (x.callbacks kind)
  { x with callbacks := Function.update x.callbacks kind left }

structure MultipartPart where
  contentLength : Nat
  sentSize : Nat := 0
  deriving DecidableEq, Repr

structure Request where
  userCount : Int := 0
  userHeaders : List (String × String) := []
  multipart : Bool := false
  multipartContentType : String := ""
  multipartBoundary : String := ""
  multipartParts : List MultipartPart := []
  aborted : Bool := false
  sent : Bool := false
  requestTimeout : Nat := 0
  requestEndTime : Nat := 0
  timedOut : Bool := false
  requestState : Nat := 0
  remainingData : Nat := 0
  readOffset : Nat := 0
  httpConnectionId : Int := 0
  httpRequestId : Int := 0
  httpTemplateId : Int := 0

structure Handle where
  userCount : Int := 0
  aborted : Bool := false
  deleted : Bool := false

/-- A push event: its user, and which filters accept it. -/
structure PushEventInput where
  targetUserId : Int
  accepts : PushKind → Int → Bool

/-- `libraryContexts` is `g_contexts`; the objects are kept by pointer. `allocated` numbers the
objects that were made. -/
structure State where
  libraryContexts : List ContextPtr := []
  contexts : ContextPtr → Context := fun _ => {}
  userContexts : UserContextPtr → UserContext := fun _ => {}
  requests : RequestPtr → Request := fun _ => {}
  handles : HandlePtr → Handle := fun _ => {}
  allocated : Nat := 0
  libraryContextCount : Int := 0
  userContextCount : Int := 0
  handleCount : Int := 0
  filterCount : PushKind → Int := fun _ => 0
  registeredCallbackCount : Int := 0
  requestCount : Int := 0
  lastTimeoutCheck : Nat := 0
  pushQueue : List PushEventInput := []
  activeLibraryContexts : Int := 0
  isInitialized : Bool := false

namespace State

def modifyContext (c : ContextPtr) (f : Context → Context) (s : State) : State :=
  { s with contexts := Function.update s.contexts c (f (s.contexts c)) }

def modifyUserContext (u : UserContextPtr) (f : UserContext → UserContext) (s : State) : State :=
  { s with userContexts := Function.update s.userContexts u (f (s.userContexts u)) }

def modifyRequest (r : RequestPtr) (f : Request → Request) (s : State) : State :=
  { s with requests := Function.update s.requests r (f (s.requests r)) }

def modifyHandle (h : HandlePtr) (f : Handle → Handle) (s : State) : State :=
  { s with handles := Function.update s.handles h (f (s.handles h)) }

/-! ### `user_count` -/

def userCount : Object → State → Int
  | .context c, s => (s.contexts c).userCount
  | .userContext u, s => (s.userContexts u).userCount
  | .request r, s => (s.requests r).userCount
  | .handle h, s => (s.handles h).userCount

def addUsers (n : Int) : Object → State → State
  | .context c => modifyContext c (fun x => { x with userCount := x.userCount + n })
  | .userContext u => modifyUserContext u (fun x => { x with userCount := x.userCount + n })
  | .request r => modifyRequest r (fun x => { x with userCount := x.userCount + n })
  | .handle h => modifyHandle h (fun x => { x with userCount := x.userCount + n })

/-! ### Lookups -/

/-- The context that `g_contexts` has under a valid id. -/
def registered (libCtxId : Int) (s : State) : Option ContextPtr :=
  if libCtxId < 1 ∨ 0x8000 ≤ libCtxId then none
  else lookup ContextPtr.libCtxId libCtxId s.libraryContexts

def userContextById (c : ContextPtr) (userCtxId : Int) (s : State) : Option UserContextPtr :=
  lookup UserContextPtr.userCtxId userCtxId (s.contexts c).userContexts

def userContextByUserId (c : ContextPtr) (userId : Int) (s : State) : Option UserContextPtr :=
  (s.contexts c).userContexts.find? (fun u => (s.userContexts u).userId = userId)

def requestById (u : UserContextPtr) (requestId : Int) (s : State) : Option RequestPtr :=
  lookup RequestPtr.requestId requestId (s.userContexts u).requests

def handleById (c : ContextPtr) (handleId : Int) (s : State) : Option HandlePtr :=
  lookup HandlePtr.handleId handleId (s.contexts c).handles

/-! ### Whether others use an object -/

def isContextBusy (c : ContextPtr) (s : State) : Bool := 1 < (s.contexts c).userCount

def areContextHandlesBusy (c : ContextPtr) (s : State) : Bool :=
  (s.contexts c).handles.any (fun h => 0 < (s.handles h).userCount)

def isUserContextBusy (u : UserContextPtr) (s : State) : Bool := 1 < (s.userContexts u).userCount

/-- Each request is marked while it is asked. -/
def areUserContextRequestsBusy (u : UserContextPtr) (s : State) : Bool :=
  (s.userContexts u).requests.any (fun r => 1 < (s.requests r).userCount + 1)

def isRequestBusy (r : RequestPtr) (s : State) : Bool := 1 < (s.requests r).userCount

/-! ### Ids and new objects -/

/-- A counter that starts again at 1 when it reaches the limit. -/
def advance (limit count : Int) : Int := if limit ≤ count + 1 then 1 else count + 1

/-- `while (used.contains(id)) { id--; }`, which ends after one round for each used id at the
latest. -/
def freeBelow (used : List Int) : Nat → Int → Int
  | 0, id => id
  | rounds + 1, id => if id ∈ used then freeBelow used rounds (id - 1) else id

def createLibraryContext (s : State) : Int × State :=
  let count := advance 0x8000 s.libraryContextCount
  let used := s.libraryContexts.map ContextPtr.libCtxId
  let ctxId := freeBelow used used.length count
  let s := { s with libraryContextCount := count }
  if ctxId ≤ 0 then (libContextMax, s)
  else
    let context : ContextPtr := ⟨ctxId, s.allocated⟩
    let s := { s with
      allocated := s.allocated + 1
      libraryContexts := enter ContextPtr.libCtxId context s.libraryContexts }
    (ctxId, s.modifyContext context (fun _ => {}))

/-- The id of the next user context of the library context. -/
def nextUserContextId (c : ContextPtr) (libCtxId : Int) (s : State) : Int :=
  let used := (s.contexts c).userContexts.map UserContextPtr.userCtxId
  freeBelow used used.length (libCtxId.shiftLeft 0x10 + advance 0x10000 s.userContextCount)

def createUserContext (c : ContextPtr) (libCtxId userId : Int) (s : State) : Option Int × State :=
  let userCtxId := s.nextUserContextId c libCtxId
  let s := { s with userContextCount := advance 0x10000 s.userContextCount }
  if userCtxId ≤ libCtxId.shiftLeft 0x10 then (none, s)
  else
    let user : UserContextPtr := ⟨c, userCtxId, s.allocated⟩
    let s := { s with allocated := s.allocated + 1 }
    let s := s.modifyUserContext user (fun _ => { userId })
    (some userCtxId, s.modifyContext c (fun x =>
      { x with userContexts := enter UserContextPtr.userCtxId user x.userContexts }))

def createRequest (u : UserContextPtr) (userCtxId : Int) (multipart : Bool) (s : State) :
    RequestPtr × State :=
  let count := advance 0x100000000 s.requestCount
  let used := (s.userContexts u).requests.map RequestPtr.requestId
  let requestId := freeBelow used used.length (userCtxId.shiftLeft 0x20 + count)
  let request : RequestPtr := ⟨u.parentContext, requestId, s.allocated⟩
  let s := { s with requestCount := count, allocated := s.allocated + 1 }
  let s := s.modifyRequest request (fun _ => { multipart })
  (request, s.modifyUserContext u (fun x =>
    { x with requests := enter RequestPtr.requestId request x.requests }))

def createHandle (timers : Bool) (c : ContextPtr) (s : State) : Int × State :=
  let handle : HandlePtr := ⟨c, s.handleCount, s.allocated⟩
  let timer : TimerHandle := { handleId := s.handleCount }
  let s := { s with allocated := s.allocated + 1 }
  let s := s.modifyHandle handle (fun _ => {})
  (s.handleCount, s.modifyContext c (fun x => { x with
    handles := enter HandlePtr.handleId handle x.handles
    timerHandles := if timers then enter TimerHandle.handleId timer x.timerHandles
      else x.timerHandles }))

def createPushEventFilter (kind : PushKind) (c : ContextPtr) (s : State) : Int × State :=
  let filterId := advance 0xf0000000 (s.filterCount kind)
  let s := { s with filterCount := Function.update s.filterCount kind filterId }
  (filterId, s.modifyContext c (fun x =>
    { x with filters := Function.update x.filters kind (enter id filterId (x.filters kind)) }))

def registerCallback (kind : PushKind) (u : UserContextPtr) (filterId : Int) (s : State) :
    Int × State :=
  let callbackId := advance 0xf0000000 s.registeredCallbackCount
  let s := { s with registeredCallbackCount := callbackId }
  (callbackId, s.modifyUserContext u (fun x => { x with
    callbacks := Function.update x.callbacks kind
      (enter RegisteredCallback.callbackId ⟨callbackId, filterId⟩ (x.callbacks kind)) }))

/-! ### Removal -/

def eraseUserContext (u : UserContextPtr) (s : State) : State :=
  let s := s.modifyUserContext u (fun x => { x with callbacks := fun _ => [], requests := [] })
  s.modifyContext u.parentContext (fun x =>
    { x with userContexts := remove UserContextPtr.userCtxId u.userCtxId x.userContexts })

def eraseRequest (u : UserContextPtr) (r : RequestPtr) (s : State) : State :=
  let s := s.modifyRequest r (fun x =>
    { x with httpRequestId := 0, httpConnectionId := 0, httpTemplateId := 0 })
  s.modifyUserContext u (fun x =>
    { x with requests := remove RequestPtr.requestId r.requestId x.requests })

def eraseHandle (timers : Bool) (c : ContextPtr) (handleId : Int) (s : State) : State :=
  s.modifyContext c (fun x => { x with
    handles := remove HandlePtr.handleId handleId x.handles
    timerHandles := if timers then remove TimerHandle.handleId handleId x.timerHandles
      else x.timerHandles })

/-- The context drops its handles and filters; its user contexts are left in it. -/
def deleteContext (libCtxId : Int) (s : State) : Int × State :=
  match lookup ContextPtr.libCtxId libCtxId s.libraryContexts with
  | none => (libContextNotFound, s)
  | some context =>
    let s := { s with libraryContexts := remove ContextPtr.libCtxId libCtxId s.libraryContexts }
    (orbisOk, s.modifyContext context (fun x =>
      { x with handles := [], timerHandles := [], filters := fun _ => [] }))

end State

end NpWebApi
