import ShadNet.WebApi2.Objects
import ShadNet.Mutexes

/-!
# Lookups, users and locks of the second web API

Each object is looked up under the lock of its library context, counts the callers
that use it, and is let go by each of them. The library-wide mutex is held for the
lookup of a library context only. All mutexes are recursive.
-/

namespace NpWebApi2.Internal

open LockProgram Prog
open NpWebApi (ContextPtr UserContextPtr RequestPtr HandlePtr Object)

inductive Mutex where
  | globalMutex
  | contextLock (c : ContextPtr)
  deriving DecidableEq, Repr

/-- What an atom of a call reads, writes or waits for. -/
inductive Access where
  | libContextIdFree
  | createLibraryContext
  | findLibraryContext (libCtxId : Int)
  | listLibraryContexts
  | eraseLibraryContext (libCtxId : Int)
  | deleteLibraryContext (c : ContextPtr)
  | addUser (o : Object)
  | removeUser (o : Object)
  | library (c : ContextPtr)
  | libraryIdle (c : ContextPtr)
  | listUserContexts (c : ContextPtr)
  | clearUserContexts (c : ContextPtr)
  | userContextIdFree (c : ContextPtr)
  | createUserContext (c : ContextPtr)
  | findUserContext (c : ContextPtr) (userCtxId : Int)
  | findUserContextByUserId (c : ContextPtr) (userId : Int)
  | removeUserContext (c : ContextPtr) (userCtxId : Int)
  | initializeUserContext (u : UserContextPtr) (result : Int)
  | userContext (u : UserContextPtr)
  | userContextIdle (u : UserContextPtr)
  | deleteUserContext (u : UserContextPtr)
  | requestIdFree (u : UserContextPtr)
  | createRequest (u : UserContextPtr)
  | findRequest (u : UserContextPtr) (requestId : Int)
  | listRequests (u : UserContextPtr)
  | removeRequest (u : UserContextPtr) (requestId : Int)
  | request (r : RequestPtr)
  | requestIdle (r : RequestPtr)
  | requestUnused (r : RequestPtr)
  | deleteRequest (r : RequestPtr)
  | createHandle (c : ContextPtr)
  | findHandle (c : ContextPtr) (handleId : Int)
  | listHandles (c : ContextPtr)
  | handle (h : HandlePtr)
  | handleDeleted (h : HandlePtr)
  | handleIdle (h : HandlePtr)
  | deleteHandle (h : HandlePtr)
  | filters (c : ContextPtr)
  | callbacks (u : UserContextPtr) (kind : CallbackKind)
  | callbackIdle (u : UserContextPtr) (kind : CallbackKind) (callbackId : Int)
  | pushContexts (u : UserContextPtr)
  | pushContextsFree (u : UserContextPtr)
  | pushContextIdle (u : UserContextPtr) (fakeId : Int)
  | lastTimeoutCheck
  | undefined
  deriving DecidableEq, Repr

/-- What the loops wait for. A search for an id goes on until one is free. -/
def ready : Access → State → Bool
  | .libContextIdFree, s => s.freeLibContextId.isSome
  | .userContextIdFree c, s => (s.freeUserContextId c).isSome
  | .requestIdFree u, s => (s.freeRequestId u).isSome
  | .libraryIdle c, s => !(s.isLibraryBusy c || s.hasBusyPushEventHandles c)
  | .userContextIdle u, s => !(s.isUserContextBusy u || s.hasBusyRequests u)
  | .requestIdle r, s => !s.isRequestBusy r
  | .requestUnused r, s => !decide (0 < (s.requests r).userCount)
  | .handleIdle h, s => !decide (1 < (s.handles h).userCount + 1)
  | .callbackIdle u kind callbackId, s => !(s.callback? kind u callbackId).any Callback.isBusy
  | .pushContextsFree u, s => !(s.userContexts u).pushContextsBusy
  | .pushContextIdle u fakeId, s => !(s.pushContext? u fakeId).any PushContext.callbackRunning
  | .undefined, _ => false
  | _, _ => true

abbrev Call (α : Type) := Prog State (Atom Mutex Access) α

/-- The behaviour is not defined from here on: a null pointer is followed, or an iterator of an
erased entry is moved on. -/
def undefined : Call Unit := await .undefined

/-! ## Users -/

def Object.library : Object → ContextPtr
  | .context c => c
  | .userContext u => u.parentContext
  | .request r => r.parentContext
  | .handle h => h.parentContext

/-- A handle has no lock of its own. -/
def underLock {α : Type} (o : Object) (p : Call α) : Call α :=
  match o with
  | .handle _ => p
  | _ => guarded (.contextLock (Object.library o)) p

def addUser (o : Object) : Call Unit :=
  underLock o (writing (.addUser o) (State.addUsers 1 o))

def removeUser (o : Object) : Call Unit :=
  underLock o (writing (.removeUser o) (State.addUsers (-1) o))

/-! ## Lookups -/

def getLibraryContext (libCtxId : Int) : Call (Option ContextPtr) :=
  guarded .globalMutex do
    match ← reading (.findLibraryContext libCtxId) (State.libContext? libCtxId) with
    | none => pure none
    | some lib =>
      if ← reading (.library lib) (fun s => (s.libraries lib).deleting) then pure none
      else
        addUser (.context lib)
        pure (some lib)

/-- What is found is counted as used under the lock. -/
def findAndAdd {α : Type} (c : ContextPtr) (lookup : Access) (find : State → Option α)
    (object : α → Object) : Call (Option α) :=
  guarded (.contextLock c) do
    match ← reading lookup find with
    | none => pure none
    | some found =>
      addUser (object found)
      pure (some found)

def getUserContext (lib : ContextPtr) (userCtxId : Int) : Call (Option UserContextPtr) :=
  findAndAdd lib (.findUserContext lib userCtxId) (State.userContext? lib userCtxId) .userContext

def getUserContextByUserId (lib : ContextPtr) (userId : Int) : Call (Option UserContextPtr) :=
  if userId = -1 then pure none
  else
    findAndAdd lib (.findUserContextByUserId lib userId) (State.userContextByUserId? lib userId)
      .userContext

def getRequest (user : UserContextPtr) (requestId : Int) : Call (Option RequestPtr) :=
  findAndAdd user.parentContext (.findRequest user requestId) (State.request? user requestId)
    .request

def getPushEventHandle (lib : ContextPtr) (handleId : Int) : Call (Option HandlePtr) :=
  findAndAdd lib (.findHandle lib handleId) (State.handle? lib handleId) .handle

/-! ## Whether an object is in use -/

def isLibraryBusy (lib : ContextPtr) : Call Bool :=
  guarded (.contextLock lib) (reading (.library lib) (State.isLibraryBusy lib))

def hasBusyPushEventHandles (lib : ContextPtr) : Call Bool :=
  guarded (.contextLock lib) (reading (.library lib) (State.hasBusyPushEventHandles lib))

def isUserContextBusy (user : UserContextPtr) : Call Bool :=
  guarded (.contextLock user.parentContext)
    (reading (.userContext user) (State.isUserContextBusy user))

def hasBusyRequests (user : UserContextPtr) : Call Bool :=
  guarded (.contextLock user.parentContext)
    (reading (.userContext user) (State.hasBusyRequests user))

/-- `IsBusy() || HasBusyPushEventHandles()`. -/
def isLibraryInUse (lib : ContextPtr) : Call Bool := do
  if ← isLibraryBusy lib then pure true
  else hasBusyPushEventHandles lib

/-- `IsBusy() || HasBusyRequests()`. -/
def isUserContextInUse (user : UserContextPtr) : Call Bool := do
  if ← isUserContextBusy user then pure true
  else hasBusyRequests user

def isRequestBusy (request : RequestPtr) : Call Bool :=
  guarded (.contextLock request.parentContext)
    (reading (.request request) (State.isRequestBusy request))

/-! ## The frames of the operations -/

/-- A call on a library context: what it does between lookup and release. -/
def withLibraryContext (libCtxId : Int) (body : ContextPtr → Call Int) : Call Int := do
  match ← getLibraryContext libCtxId with
  | none => pure libContextNotFound
  | some lib =>
    let result ← body lib
    removeUser (.context lib)
    pure result

def withUserContext (libCtxId userCtxId : Int)
    (body : ContextPtr → UserContextPtr → Call Int) : Call Int :=
  withLibraryContext libCtxId fun lib => do
    match ← getUserContext lib userCtxId with
    | none => pure userContextNotFound
    | some user =>
      let result ← body lib user
      removeUser (.userContext user)
      pure result

def withHandle (libCtxId handleId : Int) (body : ContextPtr → HandlePtr → Call Int) : Call Int :=
  withLibraryContext libCtxId fun lib => do
    match ← getPushEventHandle lib handleId with
    | none => pure handleNotFound
    | some handle => body lib handle

/-- The ids of the library context and of the user context are parts of the id of a request. The
body lets the three objects go itself. -/
def lookupRequest (requestId : Int)
    (body : ContextPtr → UserContextPtr → RequestPtr → Call Int) : Call Int := do
  match ← getLibraryContext (requestId.shiftRight 0x30) with
  | none => pure libContextNotFound
  | some lib =>
    match ← getUserContext lib (requestId.shiftRight 0x20) with
    | none =>
      removeUser (.context lib)
      pure userContextNotFound
    | some user =>
      match ← getRequest user requestId with
      | none =>
        removeUser (.userContext user)
        removeUser (.context lib)
        pure requestNotFound
      | some request => body lib user request

def releaseRequest (lib : ContextPtr) (user : UserContextPtr) (request : RequestPtr)
    (result : Int) : Call Int := do
  removeUser (.request request)
  removeUser (.userContext user)
  removeUser (.context lib)
  pure result

def withRequest (requestId : Int)
    (body : ContextPtr → UserContextPtr → RequestPtr → Call Int) : Call Int :=
  lookupRequest requestId fun lib user request => do
    let result ← body lib user request
    releaseRequest lib user request result

end NpWebApi2.Internal
