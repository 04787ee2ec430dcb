import ShadNet.WebApi.State

/-!
# Lookups, marks and locks of the web API library

A call looks its objects up one after the other, adds itself to the `user_count` of
each, and takes itself off again in the reverse order. The library-wide mutex is
held for the lookup of a library context only; everything else is done under the
lock of that context, which a thread may take several times.
-/

namespace NpWebApi

open LockProgram Prog

inductive Mutex where
  | globalMutex
  | contextLock (c : ContextPtr)
  deriving DecidableEq, Repr

/-- What an atom of a call reads or writes. `inside` marks the accesses of a call that another
call makes. -/
inductive Access where
  | createLibraryContext
  | findContext (libCtxId : Int)
  | listContexts
  | deleteContext (libCtxId : Int)
  | addUser (o : Object)
  | removeUser (o : Object)
  | terminated (c : ContextPtr)
  | markTerminated (c : ContextPtr)
  | contextBusy (c : ContextPtr)
  | handlesBusy (c : ContextPtr)
  | contextIdle (c : ContextPtr)
  | findUserContextByUserId (c : ContextPtr) (userId : Int)
  | findUserContext (c : ContextPtr) (userCtxId : Int)
  | createUserContext (c : ContextPtr) (libCtxId userId : Int)
  | listUserContexts (c : ContextPtr)
  | visitUserContexts (c : ContextPtr)
  | userContext (u : UserContextPtr)
  | userContextDeleted (u : UserContextPtr)
  | markDeleted (u : UserContextPtr)
  | userContextBusy (u : UserContextPtr)
  | requestsBusy (u : UserContextPtr)
  | userContextIdle (u : UserContextPtr)
  | eraseUserContext (u : UserContextPtr)
  | findRequest (u : UserContextPtr) (requestId : Int)
  | createRequest (u : UserContextPtr)
  | visitRequests (u : UserContextPtr)
  | request (r : RequestPtr)
  | requestBusy (r : RequestPtr) (waiting : Bool)
  | requestIdle (r : RequestPtr)
  | eraseRequest (u : UserContextPtr) (r : RequestPtr)
  | handleCount
  | createHandle (c : ContextPtr)
  | findHandle (c : ContextPtr) (handleId : Int)
  | listHandles (c : ContextPtr)
  | handle (h : HandlePtr)
  | handleIdle (h : HandlePtr)
  | eraseHandle (c : ContextPtr) (handleId : Int)
  | timers (c : ContextPtr)
  | filters (c : ContextPtr) (kind : PushKind)
  | callbacks (u : UserContextPtr) (kind : PushKind)
  | lastTimeoutCheck
  | pushQueue
  | library
  | inside (access : Access)
  deriving DecidableEq, Repr

/-- What the wait loops wait for. -/
def ready : Access → State → Bool
  | .contextIdle c, s => !(s.isContextBusy c || s.areContextHandlesBusy c)
  | .userContextIdle u, s => !(s.isUserContextBusy u || s.areUserContextRequestsBusy u)
  | .requestIdle r, s => !s.isRequestBusy r
  | .handleIdle h, s => !decide (1 < (s.handles h).userCount + 1)
  | .inside access, s => ready access s
  | _, _ => true

abbrev Call (α : Type) := Prog State (Atom Mutex Access) α

def addUser (o : Object) : Call Unit := writing (.addUser o) (State.addUsers 1 o)

def removeUser (o : Object) : Call Unit := writing (.removeUser o) (State.addUsers (-1) o)

/-! ## Library contexts -/

def findAndValidateContext (libCtxId : Int) : Call (Option ContextPtr) :=
  guarded .globalMutex do
    match ← reading (.findContext libCtxId) (State.registered libCtxId) with
    | none => pure none
    | some context =>
      guarded (.contextLock context) do
        if ← reading (.terminated context) (fun s => (s.contexts context).terminated) then
          pure none
        else
          addUser (.context context)
          pure (some context)

def releaseContext (context : ContextPtr) : Call Unit :=
  guarded (.contextLock context) (removeUser (.context context))

def isContextTerminated (context : ContextPtr) : Call Bool :=
  guarded (.contextLock context)
    (reading (.terminated context) (fun s => (s.contexts context).terminated))

def isContextBusy (context : ContextPtr) : Call Bool :=
  guarded (.contextLock context) (reading (.contextBusy context) (State.isContextBusy context))

def areContextHandlesBusy (context : ContextPtr) : Call Bool :=
  guarded (.contextLock context)
    (reading (.handlesBusy context) (State.areContextHandlesBusy context))

def lockContext (context : ContextPtr) : Call Unit := lock (.contextLock context)

def unlockContext (context : ContextPtr) : Call Unit := unlock (.contextLock context)

def markContextAsTerminated (context : ContextPtr) : Call Unit :=
  guarded (.contextLock context) (writing (.markTerminated context)
    (State.modifyContext context (fun x => { x with terminated := true })))

/-! ## User contexts -/

def invalidUserId : Int := -1

def findUserContextByUserId (context : ContextPtr) (userId : Int) :
    Call (Option UserContextPtr) :=
  if userId = invalidUserId then pure none
  else guarded (.contextLock context) do
    match ← reading (.findUserContextByUserId context userId)
        (State.userContextByUserId context userId) with
    | none => pure none
    | some user =>
      addUser (.userContext user)
      pure (some user)

/-- A user context that is being deleted is not found any more. -/
def State.liveUserContext (c : ContextPtr) (userCtxId : Int) (s : State) :
    Option UserContextPtr :=
  (s.userContextById c userCtxId).filter (fun user => !(s.userContexts user).deleted)

def findUserContext (context : ContextPtr) (userCtxId : Int) : Call (Option UserContextPtr) :=
  guarded (.contextLock context) do
    match ← reading (.findUserContext context userCtxId)
        (State.liveUserContext context userCtxId) with
    | none => pure none
    | some user =>
      addUser (.userContext user)
      pure (some user)

def isUserContextBusy (user : UserContextPtr) : Call Bool :=
  guarded (.contextLock user.parentContext)
    (reading (.userContextBusy user) (State.isUserContextBusy user))

def areUserContextRequestsBusy (user : UserContextPtr) : Call Bool :=
  guarded (.contextLock user.parentContext)
    (reading (.requestsBusy user) (State.areUserContextRequestsBusy user))

def releaseUserContext (user : UserContextPtr) : Call Unit :=
  guarded (.contextLock user.parentContext) (removeUser (.userContext user))

/-! ## Requests -/

def findRequest (user : UserContextPtr) (requestId : Int) : Call (Option RequestPtr) :=
  guarded (.contextLock user.parentContext)
    (reading (.findRequest user requestId) (State.requestById user requestId))

def findRequestAndMarkBusy (user : UserContextPtr) (requestId : Int) :
    Call (Option RequestPtr) :=
  guarded (.contextLock user.parentContext) do
    match ← reading (.findRequest user requestId) (State.requestById user requestId) with
    | none => pure none
    | some request =>
      addUser (.request request)
      pure (some request)

/-- `waiting` tells the test of the wait loop from the one in front of it. -/
def isRequestBusy (request : RequestPtr) (waiting : Bool) : Call Bool :=
  guarded (.contextLock request.parentContext)
    (reading (.requestBusy request waiting) (State.isRequestBusy request))

def releaseRequest (request : RequestPtr) : Call Unit :=
  guarded (.contextLock request.parentContext) (removeUser (.request request))

/-! ## Handles -/

def getHandle (context : ContextPtr) (handleId : Int) : Call (Option HandlePtr) :=
  guarded (.contextLock context) do
    match ← reading (.findHandle context handleId) (State.handleById context handleId) with
    | none => pure none
    | some handle =>
      addUser (.handle handle)
      pure (some handle)

def releaseHandle (context : ContextPtr) (handle : HandlePtr) : Call Unit :=
  guarded (.contextLock context) (removeUser (.handle handle))

/-! ## The frames of the operations -/

/-- A call on a library context: what it does between lookup and release. -/
def withContext (libCtxId : Int) (body : ContextPtr → Call Int) : Call Int := do
  match ← findAndValidateContext libCtxId with
  | none => pure libContextNotFound
  | some context =>
    let result ← body context
    releaseContext context
    pure result

def withUserContext (libCtxId userCtxId : Int)
    (body : ContextPtr → UserContextPtr → Call Int) : Call Int :=
  withContext libCtxId fun context => do
    match ← findUserContext context userCtxId with
    | none => pure userContextNotFound
    | some user =>
      let result ← body context user
      releaseUserContext user
      pure result

/-- The ids of the library context and of the user context are parts of the id of a request. -/
def withRequest (find : UserContextPtr → Int → Call (Option RequestPtr)) (requestId : Int)
    (body : ContextPtr → UserContextPtr → RequestPtr → Call Int) : Call Int :=
  withUserContext (requestId.shiftRight 0x30) (requestId.shiftRight 0x20) fun context user => do
    match ← find user requestId with
    | none => pure requestNotFound
    | some request =>
      let result ← body context user request
      releaseRequest request
      pure result

end NpWebApi
