import ShadNet.Deadlines
import ShadNet.LockProgram
import ShadNet.WebApi.State

/-!
# Timers of requests and handles

Both web API libraries time their requests and their handles. An operation is a program of
sections, between which other operations and the checks can come. What does not touch a timer is
an input of the operation: which way it goes and what it returns.
-/

namespace NpWebApi.Timers

open LockProgram Deadlines

/-! ## Requests and handles -/

inductive Library where
  | webApi
  | webApi2
  deriving DecidableEq, Repr

inductive Kind where
  | request
  | handle
  deriving DecidableEq, Repr

/-- No id is given twice. -/
structure Key where
  library : Library
  kind : Kind
  id : Nat
  deriving DecidableEq, Repr

/-- `startHandleTimer` and `PushEventHandle::SetEndTime` do not ask whether the timer is armed. -/
def Key.again (key : Key) : Bool := key.kind == .handle

/-- `checkContextTimeout` asks for the timeout of a handle, the other checks for the end. -/
def Key.unarmed (key : Key) : Bool := key.library == .webApi && key.kind == .handle

structure Object where
  timer : Timer := {}
  aborted : Bool := false
  live : Bool := false

/-- `created` are the keys given so far, `lastCheck` is the time of the last check of a library. -/
structure System where
  now : Nat := 0
  objects : Key → Object := fun _ => {}
  created : List Key := []
  lastCheck : Library → Nat := fun _ => 0

def System.modify (key : Key) (f : Object → Object) (s : System) : System :=
  { s with objects := fun other => if other = key then f (s.objects key) else s.objects other }

/-- An object that is deleted is no longer found. -/
def System.time (key : Key) (f : Timer → Timer) (s : System) : System :=
  if (s.objects key).live then s.modify key (fun o => { o with timer := f o.timer }) else s

/-! ## Sections -/

/-- `late` says how long ago the time of a check was read, `reached` whether the call that aborts
the object finds it. -/
inductive Section where
  | look
  | wait (time : Nat)
  | create (key : Key)
  | delete (key : Key)
  | setTimeout (key : Key) (timeout : Nat)
  | arm (key : Key)
  | clear (key : Key)
  | abort (key : Key)
  | finish (key : Key) (result : Int)
  | beginCheck (library : Library)
  | check (key : Key) (late : Nat) (reached : Bool)

def create (key : Key) (s : System) : System :=
  if key ∈ s.created then s
  else { s.modify key (fun _ => { live := true }) with created := s.created ++ [key] }

def delete (key : Key) (s : System) : System := s.modify key (fun o => { o with live := false })

def abort (key : Key) (s : System) : System := s.modify key (fun o => { o with aborted := true })

def Object.check (unarmed : Bool) (time : Nat) (reached : Bool) (o : Object) : Object :=
  if o.timer.Due unarmed time then
    { o with timer := o.timer.check unarmed time, aborted := o.aborted || reached }
  else o

def check (key : Key) (late : Nat) (reached : Bool) (s : System) : System :=
  if (s.objects key).live then s.modify key (Object.check key.unarmed (s.now - late) reached) else s

def Section.apply : Section → System → System
  | .look, s => s
  | .wait time, s => { s with now := s.now + time }
  | .create key, s => Timers.create key s
  | .delete key, s => Timers.delete key s
  | .setTimeout key timeout, s => s.time key (Timer.setTimeout timeout)
  | .arm key, s => s.time key (Timer.arm key.again s.now)
  | .clear key, s => s.time key Timer.clear
  | .abort key, s => Timers.abort key s
  | .finish key result, s => s.time key (Timer.finish (0 ≤ result))
  | .beginCheck library, s =>
    { s with lastCheck := fun other => if other = library then s.now else s.lastCheck other }
  | .check key late reached, s => Timers.check key late reached s

abbrev Program (α : Type) := Prog System Section α

def look {α : Type} (read : System → α) : Program α := Prog.locked .look (fun s => (read s, s))

def perform (l : Section) : Program Unit := Prog.update l l.apply

def found (key : Key) : Program Bool := look (fun s => (s.objects key).live)

/-! ## Operations of both libraries -/

def setTimeout (key : Key) (timeout : Nat) : Program Unit := do
  let found ← found key
  Prog.when (found = true) (perform (.setTimeout key timeout))

def abortObject (key : Key) : Program Unit := do
  let found ← found key
  Prog.when (found = true) (perform (.abort key))

/-- Some deletions abort the object first. -/
def deleteObject (key : Key) (aborts : Bool) : Program Unit := do
  let found ← found key
  Prog.when (found = true) (do
    Prog.when (aborts = true) (perform (.abort key))
    perform (.delete key))

/-- At most once in a millisecond, all requests and handles of a library. -/
def checkTimeout (library : Library) (late : Key → Nat) (reached : Key → Bool) : Program Unit := do
  let soon ← look (fun s => decide (s.now < s.lastCheck library + 1000))
  Prog.when (soon = false) (do
    perform (.beginCheck library)
    let keys ← look (fun s =>
      s.created.filter (fun key => key.library == library && (s.objects key).live))
    Prog.forEach keys (fun key => perform (.check key (late key) (reached key))))

/-! ## Operations of the first library -/

def request (id : Nat) : Key := ⟨.webApi, .request, id⟩

def handle (id : Nat) : Key := ⟨.webApi, .handle, id⟩

def setRequestTimeout (id timeout : Nat) : Program Unit := setTimeout (request id) timeout

def setHandleTimeout (id timeout : Nat) : Program Unit := setTimeout (handle id) timeout

def isAborted (key : Key) (s : System) : Bool :=
  !(s.objects key).timer.expired && (s.objects key).aborted

/-- `collected` is what the call returns when it ends with the parts of a multipart request,
`result` what it returns behind the test for an abort. -/
def sendRequest (id : Nat) (collected : Option Int) (result : Int) : Program Unit := do
  let found ← found (request id)
  Prog.when (found = true) (do
    perform (.arm (request id))
    match collected with
    | some result => perform (.finish (request id) result)
    | none => do
      let aborted ← look (isAborted (request id))
      perform (.finish (request id) (if aborted then NpWebApi.aborted else result)))

/-- `copied` and `read` are what the call has got from the buffer and from the library; it asks the
library when `wants` holds. -/
def readDataInternal (id : Nat) (copied read : Nat) (wants : Bool) : Program Unit := do
  let found ← found (request id)
  Prog.when (found = true) (do
    perform (.arm (request id))
    let aborted ← look (fun s => wants && isAborted (request id) s)
    let offset : Int :=
      if aborted then NpWebApi.aborted
      else (BitVec.ofNat 32 (copied + (if wants then read else 0))).toInt
    let result ← look (fun s =>
      if (s.objects (request id)).timer.expired then NpWebApi.timeout
      else if (s.objects (request id)).aborted then NpWebApi.aborted
      else offset)
    perform (.clear (request id))
    perform (.finish (request id) result))

/-- `named` and `active`: a service name was given, and the handler is active. -/
def createFilter (key : Key) (named active : Bool) (filterId : Nat) : Program Unit := do
  perform (.arm key)
  let found ← found key
  let result : Int :=
    if found = false then handleNotFound
    else if named = true ∧ active = false then signedInUserNotFound
    else filterId
  perform (.finish key result)

def createServicePushEventFilter (id : Nat) (named active : Bool) (filterId : Nat) :
    Program Unit :=
  createFilter (handle id) named active filterId

def createExtendedPushEventFilter (id : Nat) (named active : Bool) (filterId : Nat) :
    Program Unit :=
  createFilter (handle id) named active filterId

end NpWebApi.Timers
