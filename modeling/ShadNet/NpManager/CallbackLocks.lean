import ShadNet.LockProgram
import ShadNet.Reentrancy

/-!
# The locks of `sceNpCheckCallback`

The state callbacks are called from copies, with no lock held. The library callbacks are called with
the plain mutex of their table held, and the one of the web API calls the game's push event
callbacks under its own mutexes, which are recursive. What a game callback does is up to the game;
how many callbacks a call comes to is an input.
-/

namespace NpManager.CallbackLocks

open Reentrancy Runs

inductive Mutex where
  | callbacks
  | stateEvents
  | stateCallbacks
  | requests
  | push
  | webApiGlobal
  | webApiContext (id : Nat)
  | webApi2Global
  | webApi2Context (id : Nat)
  deriving DecidableEq, Repr

def Mutex.recursive : Mutex → Bool
  | .webApiGlobal | .webApiContext _ | .webApi2Global | .webApi2Context _ => true
  | _ => false

/-- The functions that the libraries have registered. -/
inductive LibCallback where
  | drainPushEvents
  | processPushEvents
  deriving DecidableEq, Repr

/-- For each push event, the web API contexts with the number of callbacks that are called. -/
abbrev Drained := List (List (Nat × Nat))

/-- `loop` is the loop over the library callbacks, up to `loopEnds`. -/
inductive Effect where
  | loop (drained : Drained)
  | loopEnds
  | emplace (key : String) (cb : LibCallback)
  | erase (key : String)
  deriving DecidableEq, Repr

abbrev Program := List (Act Mutex Effect)

/-- `g_np_callbacks`. -/
abbrev Libs := List (String × LibCallback)

/-! ## Programs -/

def contextCalls (context : Nat × Nat) : Program :=
  .lock (.webApiContext context.1) :: List.replicate context.2 .call ++
    [.unlock (.webApiContext context.1)]

def eventCalls (contexts : List (Nat × Nat)) : Program :=
  .lock .webApiGlobal :: contexts.flatMap contextCalls ++ [.unlock .webApiGlobal]

def drainPushEvents (drained : Drained) : Program :=
  [.lock .push, .unlock .push] ++ drained.flatMap eventCalls

def LibCallback.program (drained : Drained) : LibCallback → Program
  | .drainPushEvents => CallbackLocks.drainPushEvents drained
  | .processPushEvents => []

/-- `calls` is the number of calls that the events and the callbacks come to. -/
def dispatchPendingNpStateCallbacks (calls : Nat) : Program :=
  [.lock .stateEvents, .lock .stateCallbacks, .unlock .stateCallbacks, .unlock .stateEvents] ++
    List.replicate calls .call

def sceNpCheckCallback (calls : Nat) (drained : Drained) : Program :=
  dispatchPendingNpStateCallbacks calls ++
    [.lock .callbacks, .effect (.loop drained), .effect .loopEnds, .unlock .callbacks]

def sceNpCheckCallbackForLib (calls : Nat) : Program := dispatchPendingNpStateCallbacks calls

/-- The functions that look something up or change it under one mutex, behind a check. -/
def sectionOf (m : Mutex) (valid : Bool) : Program := if valid then [.lock m, .unlock m] else []

def sceNpRegisterNpReachabilityStateCallback (callback : Nat) : Program :=
  sectionOf .stateCallbacks (callback ≠ 0)

def sceNpUnregisterNpReachabilityStateCallback : Program := sectionOf .stateCallbacks true

def sceNpRegisterStateCallbackForToolkit (callback : Nat) : Program :=
  sectionOf .stateCallbacks (callback ≠ 0)

def sceNpUnregisterStateCallbackForToolkit : Program := sectionOf .stateCallbacks true

def sceNpRegisterStateCallback (callback : Nat) : Program :=
  sectionOf .stateCallbacks (callback ≠ 0)

def sceNpUnregisterStateCallback : Program := sectionOf .stateCallbacks true

def sceNpRegisterStateCallbackA (callback : Nat) : Program :=
  sectionOf .stateCallbacks (callback ≠ 0)

def sceNpUnregisterStateCallbackA (callbackId : Int) : Program :=
  sectionOf .stateCallbacks (0 < callbackId ∧ callbackId ≤ 8)

def sceNpRegisterGamePresenceCallback : Program := sectionOf .callbacks true

def sceNpRegisterGamePresenceCallbackA (callback : Nat) : Program :=
  sectionOf .callbacks (callback ≠ 0)

def sceNpUnregisterGamePresenceCallbackA : Program := sectionOf .callbacks true

def sceNpRegisterPlusEventCallback (callback : Nat) : Program :=
  sectionOf .callbacks (callback ≠ 0)

def sceNpUnregisterPlusEventCallback : Program := sectionOf .callbacks true

def registerNpCallback (key : String) (cb : LibCallback) : Program :=
  [.lock .callbacks, .effect (.emplace key cb), .unlock .callbacks]

def deregisterNpCallback (key : String) : Program :=
  [.lock .callbacks, .effect (.erase key), .unlock .callbacks]

/-- The mutexes of the two web API libraries. -/
inductive WebApiMutex where
  | global
  | context (id : Nat)
  | global2
  | context2 (id : Nat)
  deriving DecidableEq, Repr

def WebApiMutex.mutex : WebApiMutex → Mutex
  | .global => .webApiGlobal
  | .context id => .webApiContext id
  | .global2 => .webApi2Global
  | .context2 id => .webApi2Context id

/-- Mutexes one inside the other. -/
def nested : List WebApiMutex → Program
  | [] => []
  | m :: inner => .lock m.mutex :: nested inner ++ [.unlock m.mutex]

/-- A call of a web API library takes its mutexes and gives them back, however often. -/
def webApiCall (sections : List (List WebApiMutex)) : Program := sections.flatMap nested

inductive Call where
  | registerNpReachabilityState (callback : Nat)
  | unregisterNpReachabilityState
  | registerStateForToolkit (callback : Nat)
  | unregisterStateForToolkit
  | registerState (callback : Nat)
  | unregisterState
  | registerStateA (callback : Nat)
  | unregisterStateA (callbackId : Int)
  | registerGamePresence
  | registerGamePresenceA (callback : Nat)
  | unregisterGamePresenceA
  | registerPlusEvent (callback : Nat)
  | unregisterPlusEvent
  | registerNp (key : String) (cb : LibCallback)
  | deregisterNp (key : String)
  | request (valid : Bool)
  | webApi (sections : List (List WebApiMutex))
  | checkCallback (calls : Nat) (drained : Drained)
  | checkCallbackForLib (calls : Nat)
  deriving DecidableEq, Repr

def Call.program : Call → Program
  | .registerNpReachabilityState callback => sceNpRegisterNpReachabilityStateCallback callback
  | .unregisterNpReachabilityState => sceNpUnregisterNpReachabilityStateCallback
  | .registerStateForToolkit callback => sceNpRegisterStateCallbackForToolkit callback
  | .unregisterStateForToolkit => sceNpUnregisterStateCallbackForToolkit
  | .registerState callback => sceNpRegisterStateCallback callback
  | .unregisterState => sceNpUnregisterStateCallback
  | .registerStateA callback => sceNpRegisterStateCallbackA callback
  | .unregisterStateA callbackId => sceNpUnregisterStateCallbackA callbackId
  | .registerGamePresence => sceNpRegisterGamePresenceCallback
  | .registerGamePresenceA callback => sceNpRegisterGamePresenceCallbackA callback
  | .unregisterGamePresenceA => sceNpUnregisterGamePresenceCallbackA
  | .registerPlusEvent callback => sceNpRegisterPlusEventCallback callback
  | .unregisterPlusEvent => sceNpUnregisterPlusEventCallback
  | .registerNp key cb => registerNpCallback key cb
  | .deregisterNp key => deregisterNpCallback key
  | .request valid => sectionOf .requests valid
  | .webApi sections => webApiCall sections
  | .checkCallback calls drained => sceNpCheckCallback calls drained
  | .checkCallbackForLib calls => sceNpCheckCallbackForLib calls

/-- The loop runs every library callback; an entry that is there stays where it is. -/
def Effect.perform : Effect → Libs → Program × Libs
  | .loop drained, libs => (libs.flatMap fun lib => lib.2.program drained, libs)
  | .loopEnds, libs => ([], libs)
  | .emplace key cb, libs =>
    ([], if libs.any (fun lib => lib.1 = key) then libs else libs ++ [(key, cb)])
  | .erase key, libs => ([], libs.filter fun lib => lib.1 ≠ key)

def system : System Mutex Effect Libs Call where
  recursive := Mutex.recursive
  perform := Effect.perform
  guard _ := some .callbacks
  program := Call.program

/-! ## The law -/

/-- What is left of `sceNpCheckCallback` while it runs a library callback. -/
def loopRest : Program := [.effect .loopEnds, .unlock .callbacks]

def InLoop (t : Thread Mutex Effect Libs) : Prop := .code loopRest ∈ t.stack

def Lawful (libs : Libs) (ops : List (Move Call)) : Prop :=
  Throughout (move system) (fun t => t.stuck = false)
    (fun _ t t' => InLoop t → t'.data = t.data) ops { data := libs }

/-- A call comes to the lock of the library callbacks while `sceNpCheckCallback` runs one of
them. -/
def LocksInLoop (op : Move Call) (t : Thread Mutex Effect Libs) : Prop :=
  op = .next ∧ ∃ rest below, t.stack = .code (.lock .callbacks :: rest) :: below ∧
    .code loopRest ∈ below

/-! ## Every program is whole -/

abbrev Special (acts : Program) : Prop := acts = loopRest

theorem closed_sectionOf (m : Mutex) (valid : Bool) :
    Closed system Special (sectionOf m valid) := by
  rw [sectionOf]
  split
  · exact closed_section m
  · exact closed_nil

theorem closed_nested (mutexes : List WebApiMutex) : Closed system Special (nested mutexes) := by
  induction mutexes with
  | nil => exact closed_nil
  | cons m inner ih =>
    have recursive : system.recursive m.mutex = true := by cases m <;> rfl
    exact ih.guarded recursive

theorem closed_drain (drained : Drained) : Closed system Special (drainPushEvents drained) := by
  have contexts : ∀ context, Closed system Special (contextCalls context) :=
    fun context => (closed_calls context.2).guarded rfl
  have events : ∀ event, Closed system Special (eventCalls event) :=
    fun event => (closed_flatMap contexts event).guarded rfl
  exact (closed_section .push).append (closed_flatMap events drained)

theorem closed_dispatch (calls : Nat) :
    Closed system Special (dispatchPendingNpStateCallbacks calls) := by
  have differ : Mutex.stateEvents ≠ .stateCallbacks := by decide
  exact (closed_pair differ).append (closed_calls calls)

theorem whole_checkCallback (calls : Nat) (drained : Drained) :
    Whole system Special (sceNpCheckCallback calls drained) := by
  have sane : Sane system Special
      [.lock .callbacks, .effect (.loop drained), .effect .loopEnds, .unlock .callbacks] := by
    refine ⟨List.mem_cons_self, fun _ => ?_, fun _ => Or.inr (Or.inr rfl), fun m guard => ?_,
      fun _ => Or.inl rfl, fun m guard => ?_, trivial⟩
    · simp [holds]
    · injection guard with guard
      exact guard ▸ List.mem_cons_self
    · injection guard with guard
      exact guard ▸ List.mem_cons_self
  obtain ⟨same, sane⟩ := closed_dispatch calls _ sane (by simp [Clear, holds])
  refine ⟨sane, same.trans ?_⟩
  simp [holds]

theorem whole_change (e : Effect) (quiet : ∀ libs, (e.perform libs).1 = []) :
    Whole system Special [.lock .callbacks, .effect e, .unlock .callbacks] := by
  refine ⟨⟨List.mem_cons_self, fun _ => ?_, fun libs => Or.inl (quiet libs), fun m guard => ?_,
    trivial⟩, ?_⟩
  · simp [holds]
  · injection guard with guard
    exact guard ▸ List.mem_cons_self
  · simp [holds]

theorem wholesome : Wholesome system Special := by
  constructor
  · intro call
    cases call with
    | checkCallback calls drained => exact whole_checkCallback calls drained
    | registerNp key cb => exact whole_change _ fun _ => rfl
    | deregisterNp key => exact whole_change _ fun _ => rfl
    | webApi sections => exact (closed_flatMap closed_nested sections).whole
    | checkCallbackForLib calls => exact (closed_dispatch calls).whole
    | unregisterNpReachabilityState => exact (closed_sectionOf .stateCallbacks true).whole
    | unregisterStateForToolkit => exact (closed_sectionOf .stateCallbacks true).whole
    | unregisterState => exact (closed_sectionOf .stateCallbacks true).whole
    | registerGamePresence => exact (closed_sectionOf .callbacks true).whole
    | unregisterGamePresenceA => exact (closed_sectionOf .callbacks true).whole
    | unregisterPlusEvent => exact (closed_sectionOf .callbacks true).whole
    | _ => exact (closed_sectionOf _ _).whole
  · intro e libs
    cases e with
    | loop drained =>
      have each : ∀ lib : String × LibCallback, Closed system Special (lib.2.program drained) := by
        intro lib
        cases lib.2 with
        | drainPushEvents => exact closed_drain drained
        | processPushEvents => exact closed_nil
      exact (closed_flatMap each libs).whole
    | loopEnds => exact closed_nil.whole
    | emplace key cb => exact closed_nil.whole
    | erase key => exact closed_nil.whole

/-! ## Every run -/

variable {t : Thread Mutex Effect Libs}

theorem holds_loopRest : holds loopRest = [Mutex.callbacks] := rfl

theorem relocks_iff (op : Move Call) : Relocks system Special op t ↔ LocksInLoop op t := by
  constructor
  · rintro ⟨m, rest, below, rfl, top, -, acts, member, rfl, held⟩
    rw [holds_loopRest, List.mem_singleton] at held
    subst held
    exact ⟨rfl, rest, below, top, member⟩
  · rintro ⟨rfl, rest, below, top, member⟩
    exact ⟨.callbacks, rest, below, rfl, top, rfl, loopRest, member, rfl, List.mem_cons_self⟩

/-- The table of the library callbacks is changed under its mutex, which the loop has. -/
theorem data_act (account : Account system Special t) (looping : InLoop t) {acts : Program}
    {below : List (Frame Mutex Effect)} (top : t.stack = .code acts :: below) :
    (act system acts below t).data = t.data := by
  cases acts with
  | nil => rfl
  | cons first rest =>
    cases first with
    | lock m =>
      simp only [act]
      split <;> rfl
    | unlock m => rfl
    | call => rfl
    | effect e =>
      change (e.perform t.data).2 = t.data
      have alone := guard_alone account top (m := .callbacks) rfl rfl
      have notBelow : Frame.code loopRest ∉ below :=
        fun member => alone _ member List.mem_cons_self
      rw [InLoop, top, List.mem_cons] at looping
      rcases looping with here | member
      · injection here with here
        injection here with here _
        injection here with here
        rw [← here]
        rfl
      · exact absurd member notBelow

theorem data_move (account : Account system Special t) (looping : InLoop t) (op : Move Call) :
    (move system op t).data = t.data := by
  rw [move]
  split
  · rfl
  · cases op with
    | enter call =>
      simp only [go]
      split <;> rfl
    | leave =>
      simp only [go]
      split <;> rfl
    | next =>
      simp only [go]
      split
      · next acts below top => exact data_act account looping top
      · rfl

structure Going (t : Thread Mutex Effect Libs) : Prop where
  account : Account system Special t
  going : t.stuck = false

theorem Lawful.going {libs : Libs} {ops : List (Move Call)} (lawful : Lawful libs ops) :
    (run (move system) ops { data := libs }).stuck = false := by
  rw [Lawful, ← List.append_nil ops] at lawful
  exact lawful.last

/-- A push event callback of the game registers a presence callback. -/
def presenceFromPushEvent : List (Move Call) :=
  [.enter (.checkCallback 0 [[(1, 1)]])] ++ List.replicate 11 .next ++
    [.enter .registerGamePresence, .next]

/-- Or looks for callbacks again. -/
def checkFromPushEvent : List (Move Call) :=
  [.enter (.checkCallback 0 [[(1, 1)]])] ++ List.replicate 11 .next ++
    [.enter (.checkCallback 0 [])] ++ List.replicate 5 .next

def webApiOnly : Libs := [("npwebapi_push", .drainPushEvents)]

end NpManager.CallbackLocks
