import ShadNet.WebApi.Timers
import Mathlib.Tactic.ByContra

/-!
# Timeouts of both libraries

The operations of the second library, and what the checks do in any run of both.
-/

namespace NpWebApi2.Timers

open LockProgram Deadlines
open NpWebApi.Timers (Library Kind Key Object System Section Program look perform found)

/-! ## Operations of the second library -/

def request (id : Nat) : Key := ⟨.webApi2, .request, id⟩

def handle (id : Nat) : Key := ⟨.webApi2, .handle, id⟩

def notSignedIn : Int := NpHandler.orbisError 0x80553407
def aborted : Int := NpHandler.orbisError 0x80553409
def handleNotFound : Int := NpHandler.orbisError 0x8055340D
def prohibitedFunctionCall : Int := NpHandler.orbisError 0x80553414
def timeout : Int := NpHandler.orbisError 0x8055341B

def setRequestTimeout (id timeout : Nat) : Program Unit :=
  NpWebApi.Timers.setTimeout (request id) timeout

def setHandleTimeout (id timeout : Nat) : Program Unit :=
  NpWebApi.Timers.setTimeout (handle id) timeout

def status (key : Key) (s : System) : Int :=
  if (s.objects key).timer.expired then timeout
  else if (s.objects key).aborted then aborted
  else 0

/-- The call returns when the request has timed out or was aborted. -/
def checkRequestStatus (key : Key) (rest : Program Unit) : Program Unit := do
  let result ← look (status key)
  if result ≠ 0 then perform (.finish key result) else rest

/-- `created` is negative when there is no HTTP request yet and none can be made, `result` is what
sending, the headers and the status come to. -/
structure SendCall where
  multipart : Bool := false
  partIndex : Int := 0
  signedIn : Bool := true
  created : Int := 0
  result : Int := 0
  deriving DecidableEq, Repr

def sendRequest (id : Nat) (call : SendCall) : Program Unit := do
  let key := request id
  let found ← found key
  Prog.when (found = true) (do
    perform (.arm key)
    if call.multipart = true ∧ call.partIndex = 0 then perform (.finish key prohibitedFunctionCall)
    else checkRequestStatus key <|
      if call.signedIn = false then perform (.finish key notSignedIn)
      else if call.created < 0 then perform (.finish key call.created)
      else checkRequestStatus key <| checkRequestStatus key do
        perform (.clear key)
        perform (.finish key call.result))

def readData (id : Nat) (result : Int) : Program Unit := do
  let key := request id
  let found ← found key
  Prog.when (found = true) (do
    perform (.arm key)
    checkRequestStatus key <| checkRequestStatus key do
      perform (.clear key)
      perform (.finish key result))

/-- `initialized` is negative when the filter cannot be set up. -/
def createPushEventFilter (id : Nat) (initialized : Int) (filterId : Nat) : Program Unit := do
  let key := handle id
  perform (.arm key)
  let found ← found key
  let result : Int :=
    if found = false then handleNotFound
    else if initialized < 0 then initialized
    else filterId
  perform (.finish key result)

/-! ## All operations -/

inductive Op where
  | wait (time : Nat)
  | create (key : Key)
  | setTimeout (key : Key) (timeout : Nat)
  | abort (key : Key)
  | delete (key : Key) (aborts : Bool)
  | sendRequest (id : Nat) (collected : Option Int) (result : Int)
  | readDataInternal (id : Nat) (copied read : Nat) (wants : Bool)
  | createServicePushEventFilter (id : Nat) (named active : Bool) (filterId : Nat)
  | createExtendedPushEventFilter (id : Nat) (named active : Bool) (filterId : Nat)
  | sendRequest2 (id : Nat) (call : SendCall)
  | readData2 (id : Nat) (result : Int)
  | createPushEventFilter2 (id : Nat) (initialized : Int) (filterId : Nat)
  | checkTimeout (library : Library) (late : Key → Nat) (reached : Key → Bool)

def Op.program : Op → Program Unit
  | .wait time => perform (.wait time)
  | .create key => perform (.create key)
  | .setTimeout ⟨.webApi, .request, id⟩ timeout => NpWebApi.Timers.setRequestTimeout id timeout
  | .setTimeout ⟨.webApi, .handle, id⟩ timeout => NpWebApi.Timers.setHandleTimeout id timeout
  | .setTimeout ⟨.webApi2, .request, id⟩ timeout => Timers.setRequestTimeout id timeout
  | .setTimeout ⟨.webApi2, .handle, id⟩ timeout => Timers.setHandleTimeout id timeout
  | .abort key => NpWebApi.Timers.abortObject key
  | .delete key aborts => NpWebApi.Timers.deleteObject key aborts
  | .sendRequest id collected result => NpWebApi.Timers.sendRequest id collected result
  | .readDataInternal id copied read wants => NpWebApi.Timers.readDataInternal id copied read wants
  | .createServicePushEventFilter id named active filterId =>
    NpWebApi.Timers.createServicePushEventFilter id named active filterId
  | .createExtendedPushEventFilter id named active filterId =>
    NpWebApi.Timers.createExtendedPushEventFilter id named active filterId
  | .sendRequest2 id call => Timers.sendRequest id call
  | .readData2 id result => Timers.readData id result
  | .createPushEventFilter2 id initialized filterId =>
    Timers.createPushEventFilter id initialized filterId
  | .checkTimeout library late reached => NpWebApi.Timers.checkTimeout library late reached

abbrev Threads := Pool System Section

/-! ## What is asked of a run -/

/-- What a step marks as timed out, and what a check aborts, has earned it. -/
structure EarnedTimeouts (action : Action Op) (pool pool' : Threads) : Prop where
  marked : ∀ key, (pool.state.objects key).timer.expired = false →
    (pool'.state.objects key).timer.expired = true →
    (pool.state.objects key).timer.Earned pool.state.now
  aborted : ∀ key late reached, pool.label action = some (.check key late reached) →
    (pool.state.objects key).aborted = false → (pool'.state.objects key).aborted = true →
    (pool.state.objects key).timer.Earned pool.state.now

/-- Timeouts are set while nothing is armed or are lowered, an operation that fails leaves nothing
armed, and no check meets a handle of the first library that has a timeout and was not armed. -/
def Proper (l : Section) (s : System) : Prop :=
  match l with
  | .setTimeout key timeout => (s.objects key).timer.MaySet key.unarmed timeout
  | .finish key result => result < 0 → (s.objects key).timer.MayFail
  | .check key _ _ => (s.objects key).timer.MayCheck key.unarmed
  | _ => True

instance Proper.decidable (l : Section) (s : System) : Decidable (Proper l s) :=
  match l with
  | .setTimeout key timeout =>
    inferInstanceAs (Decidable ((s.objects key).timer.MaySet key.unarmed timeout))
  | .finish key result => inferInstanceAs (Decidable (result < 0 → (s.objects key).timer.MayFail))
  | .check key _ _ => inferInstanceAs (Decidable ((s.objects key).timer.MayCheck key.unarmed))
  | .look | .wait _ | .create _ | .delete _ | .arm _ | .clear _ | .abort _ | .beginCheck _ =>
    isTrue trivial

/-! ## Sections -/

/-- A section does what its name says. -/
def ByName (l : Section) (update : System → System) : Prop := update = l.apply

theorem uses_look {α : Type} (read : System → α) : (look read).Uses ByName :=
  Prog.uses_locked rfl

theorem uses_perform (l : Section) : (perform l).Uses ByName := Prog.uses_update rfl

theorem uses_found (key : Key) : (found key).Uses ByName := uses_look _

theorem uses_setTimeout (key : Key) (timeout : Nat) :
    (NpWebApi.Timers.setTimeout key timeout).Uses ByName :=
  (uses_found key).bind fun _ => Prog.uses_when (uses_perform _)

theorem uses_deleteObject (key : Key) (aborts : Bool) :
    (NpWebApi.Timers.deleteObject key aborts).Uses ByName := by
  refine (uses_found key).bind fun _ => Prog.uses_when ?_
  exact (Prog.uses_when (uses_perform _)).bind fun _ => uses_perform _

theorem uses_createFilter (key : Key) (named active : Bool) (filterId : Nat) :
    (NpWebApi.Timers.createFilter key named active filterId).Uses ByName := by
  refine (uses_perform _).bind fun _ => ?_
  exact (uses_found key).bind fun _ => uses_perform _

theorem uses_sendRequest (id : Nat) (collected : Option Int) (result : Int) :
    (NpWebApi.Timers.sendRequest id collected result).Uses ByName := by
  refine (uses_found _).bind fun _ => Prog.uses_when ?_
  refine (uses_perform _).bind fun _ => ?_
  cases collected with
  | some result => exact uses_perform _
  | none => exact (uses_look _).bind fun _ => uses_perform _

theorem uses_readDataInternal (id copied read : Nat) (wants : Bool) :
    (NpWebApi.Timers.readDataInternal id copied read wants).Uses ByName := by
  refine (uses_found _).bind fun _ => Prog.uses_when ?_
  refine (uses_perform _).bind fun _ => ?_
  refine (uses_look _).bind fun _ => ?_
  refine (uses_look _).bind fun _ => ?_
  exact (uses_perform _).bind fun _ => uses_perform _

theorem uses_checkRequestStatus {key : Key} {rest : Program Unit} (uses : rest.Uses ByName) :
    (checkRequestStatus key rest).Uses ByName := by
  refine (uses_look _).bind fun _ => ?_
  exact Prog.uses_ite (fun _ => uses_perform _) fun _ => uses

theorem uses_sendRequest2 (id : Nat) (call : SendCall) :
    (Timers.sendRequest id call).Uses ByName := by
  refine (uses_found _).bind fun _ => Prog.uses_when ?_
  refine (uses_perform _).bind fun _ => ?_
  refine Prog.uses_ite (fun _ => uses_perform _) fun _ => ?_
  refine uses_checkRequestStatus (Prog.uses_ite (fun _ => uses_perform _) fun _ => ?_)
  refine Prog.uses_ite (fun _ => uses_perform _) fun _ => ?_
  refine uses_checkRequestStatus (uses_checkRequestStatus ?_)
  exact (uses_perform _).bind fun _ => uses_perform _

theorem uses_readData2 (id : Nat) (result : Int) : (Timers.readData id result).Uses ByName := by
  refine (uses_found _).bind fun _ => Prog.uses_when ?_
  refine (uses_perform _).bind fun _ => ?_
  refine uses_checkRequestStatus (uses_checkRequestStatus ?_)
  exact (uses_perform _).bind fun _ => uses_perform _

theorem uses_createPushEventFilter (id : Nat) (initialized : Int) (filterId : Nat) :
    (Timers.createPushEventFilter id initialized filterId).Uses ByName := by
  refine (uses_perform _).bind fun _ => ?_
  exact (uses_found _).bind fun _ => uses_perform _

theorem uses_checkTimeout (library : Library) (late : Key → Nat) (reached : Key → Bool) :
    (NpWebApi.Timers.checkTimeout library late reached).Uses ByName := by
  refine (uses_look _).bind fun _ => Prog.uses_when ?_
  refine (uses_perform _).bind fun _ => ?_
  refine (uses_look _).bind fun _ => ?_
  exact Prog.uses_forEach fun _ => uses_perform _

theorem uses_program (op : Op) : op.program.Uses ByName := by
  cases op with
  | wait time => exact uses_perform _
  | create key => exact uses_perform _
  | setTimeout key timeout =>
    match key with
    | ⟨.webApi, .request, id⟩ => exact uses_setTimeout _ timeout
    | ⟨.webApi, .handle, id⟩ => exact uses_setTimeout _ timeout
    | ⟨.webApi2, .request, id⟩ => exact uses_setTimeout _ timeout
    | ⟨.webApi2, .handle, id⟩ => exact uses_setTimeout _ timeout
  | abort key => exact (uses_found key).bind fun _ => Prog.uses_when (uses_perform _)
  | delete key aborts => exact uses_deleteObject key aborts
  | sendRequest id collected result => exact uses_sendRequest id collected result
  | readDataInternal id copied read wants => exact uses_readDataInternal id copied read wants
  | createServicePushEventFilter id named active filterId =>
    exact uses_createFilter _ named active filterId
  | createExtendedPushEventFilter id named active filterId =>
    exact uses_createFilter _ named active filterId
  | sendRequest2 id call => exact uses_sendRequest2 id call
  | readData2 id result => exact uses_readData2 id result
  | createPushEventFilter2 id initialized filterId =>
    exact uses_createPushEventFilter id initialized filterId
  | checkTimeout library late reached => exact uses_checkTimeout library late reached

/-! ## What a section keeps -/

def Honest (s : System) : Prop := ∀ key, (s.objects key).timer.Honest key.unarmed

variable {s : System} {key : Key}

theorem honest_modify (f : Object → Object) (honest : Honest s)
    (kept : (f (s.objects key)).timer.Honest key.unarmed) : Honest (s.modify key f) := by
  intro other
  by_cases same : other = key
  · rw [same]
    simpa [System.modify] using kept
  · simpa [System.modify, same] using honest other

theorem honest_time {f : Timer → Timer} (honest : Honest s)
    (kept : (f (s.objects key).timer).Honest key.unarmed) : Honest (s.time key f) := by
  rw [System.time]
  split
  · exact honest_modify _ honest kept
  · exact honest

theorem apply_honest (l : Section) (honest : Honest s) (proper : Proper l s) :
    Honest (l.apply s) := by
  cases l with
  | look => exact honest
  | wait time => exact honest
  | create key =>
    simp only [Section.apply, NpWebApi.Timers.create]
    split
    · exact honest
    · have renewed : Honest (s.modify key fun _ => { live := true }) :=
        honest_modify _ honest Timer.honest_new
      exact renewed
  | delete key =>
    rw [Section.apply, NpWebApi.Timers.delete]
    exact honest_modify _ honest (honest key)
  | setTimeout key timeout => exact honest_time honest ((honest key).setTimeout proper)
  | arm key => exact honest_time honest (honest key).arm
  | clear key => exact honest_time honest (.clear _)
  | abort key =>
    rw [Section.apply, NpWebApi.Timers.abort]
    exact honest_modify _ honest (honest key)
  | finish key result =>
    refine honest_time honest ((honest key).finish fun failed => proper ?_)
    simpa using failed
  | beginCheck library => exact honest
  | check key late reached =>
    simp only [Section.apply, NpWebApi.Timers.check]
    split
    · refine honest_modify _ honest ?_
      rw [Object.check]
      split
      · exact (honest key).check
      · exact honest key
    · exact honest

/-! ## What a section marks -/

theorem time_expired {f : Timer → Timer} (same : ∀ t, (f t).expired = t.expired) (key other : Key)
    (s : System) : ((s.time key f).objects other).timer.expired =
      (s.objects other).timer.expired := by
  rw [System.time]
  split
  · by_cases here : other = key
    · simp [System.modify, here, same]
    · simp [System.modify, here]
  · rfl

/-- Only a check marks an object. -/
theorem marked_by_check (l : Section) (running : (s.objects key).timer.expired = false)
    (marked : ((l.apply s).objects key).timer.expired = true) :
    ∃ late reached, l = .check key late reached := by
  have unmarked : ((l.apply s).objects key).timer.expired ≠ (s.objects key).timer.expired := by
    rw [running, marked]
    decide
  cases l with
  | look => exact absurd rfl unmarked
  | wait time => exact absurd rfl unmarked
  | create other =>
    simp only [Section.apply, NpWebApi.Timers.create] at marked
    split at marked
    · rw [running] at marked
      cases marked
    · by_cases here : key = other
      · simp [System.modify, here] at marked
      · simp [System.modify, here, running] at marked
  | delete other =>
    by_cases here : key = other
    · simp [Section.apply, NpWebApi.Timers.delete, System.modify, here] at unmarked
    · simp [Section.apply, NpWebApi.Timers.delete, System.modify, here] at unmarked
  | setTimeout other timeout => exact absurd (time_expired (by simp) other key s) unmarked
  | arm other => exact absurd (time_expired (by simp) other key s) unmarked
  | clear other => exact absurd (time_expired (by simp) other key s) unmarked
  | abort other =>
    by_cases here : key = other
    · simp [Section.apply, NpWebApi.Timers.abort, System.modify, here] at unmarked
    · simp [Section.apply, NpWebApi.Timers.abort, System.modify, here] at unmarked
  | finish other result => exact absurd (time_expired (by simp) other key s) unmarked
  | beginCheck library => exact absurd rfl unmarked
  | check other late reached =>
    by_cases here : key = other
    · exact ⟨late, reached, by rw [here]⟩
    · simp only [Section.apply, NpWebApi.Timers.check] at unmarked
      split at unmarked
      · simp [System.modify, here] at unmarked
      · exact absurd rfl unmarked

/-- What a check changes was due. -/
theorem check_due {late : Nat} {reached : Bool}
    (changed : (Section.check key late reached).apply s ≠ s) :
    (s.objects key).timer.Due key.unarmed (s.now - late) := by
  by_contra early
  apply changed
  simp only [Section.apply, NpWebApi.Timers.check]
  split
  · have same : (s.objects key).check key.unarmed (s.now - late) reached = s.objects key := by
      rw [Object.check, if_neg early]
    rw [System.modify, same]
    congr 1
    funext other
    split
    · next here => rw [here]
    · rfl
  · rfl

theorem check_earned {late : Nat} {reached : Bool} (honest : Honest s)
    (proper : Proper (.check key late reached) s)
    (changed : (Section.check key late reached).apply s ≠ s) :
    (s.objects key).timer.Earned s.now :=
  (honest key).earned proper (check_due changed) (Nat.sub_le _ _)

/-! ## Whole runs -/

/-- In every interleaving of the operations, what is marked as timed out has a timeout, was armed
at least that long ago, and its last operation has not failed. -/
theorem timeouts_are_earned (actions : List (Action Op))
    (proper : Runs.Admitted (Pool.step Op.program) (Pool.Permitted Proper) actions
      { state := {}, threads := [] }) :
    Runs.Throughout (Pool.step Op.program) (fun _ => True) EarnedTimeouts actions
      { state := {}, threads := [] } := by
  let Kept (pool : Threads) : Prop := Pool.ThreadsUse ByName pool ∧ Honest pool.state
  have start : Kept { state := {}, threads := [] } :=
    ⟨fun _ member => absurd member List.not_mem_nil, fun _ => Timer.honest_new⟩
  refine Runs.throughout_of_admitted (fun _ _ => trivial) ?_ start proper
  rintro action pool ⟨threads, honest⟩ permitted
  obtain ⟨threads', ⟨idle, same⟩ | ⟨label, update, rfl, taken, state⟩⟩ :=
    Pool.step_cases uses_program threads action
  · refine ⟨⟨threads', same ▸ honest⟩, ?_, ?_⟩
    · intro key running marked
      rw [same, running] at marked
      cases marked
    · intro key late reached label
      rw [idle] at label
      cases label
  · have proper := permitted label taken
    have kept := apply_honest label honest proper
    refine ⟨⟨threads', state ▸ kept⟩, ?_, ?_⟩
    · intro key running marked
      rw [state] at marked
      obtain ⟨late, reached, rfl⟩ := marked_by_check label running marked
      refine check_earned honest proper fun same => ?_
      rw [same, running] at marked
      cases marked
    · intro key late reached check running aborted
      rw [taken, Option.some.injEq] at check
      rw [state, check] at aborted
      rw [check] at proper
      refine check_earned honest proper fun same => ?_
      rw [same, running] at aborted
      cases aborted

/-- A request of the first library is timed out after it was sent. -/
theorem sent_request_times_out :
    Runs.Throughout (Pool.step Op.program) (fun _ => True) EarnedTimeouts
      (Action.serial 5 [.create (NpWebApi.Timers.request 1),
        .setTimeout (NpWebApi.Timers.request 1) 100, .sendRequest 1 none 0, .wait 2000,
        .checkTimeout .webApi (fun _ => 0) (fun _ => true)])
      { state := {}, threads := [] } :=
  timeouts_are_earned _ (by decide +kernel)

/-- A handle with a timeout is timed out by the next check, although nothing has armed it. -/
theorem unarmed_handle_times_out :
    ¬Runs.Throughout (Pool.step Op.program) (fun _ => True) EarnedTimeouts
      ([.spawn (.create (NpWebApi.Timers.handle 1)), .take 0,
        .spawn (.setTimeout (NpWebApi.Timers.handle 1) 100), .take 1, .take 1,
        .spawn (.wait 2000), .take 2,
        .spawn (.checkTimeout .webApi (fun _ => 0) (fun _ => true)), .take 3, .take 3, .take 3] ++
        [.take 3])
      { state := {}, threads := [] } := by
  intro holds
  obtain ⟨armed, set, -⟩ := (holds.moved.marked (NpWebApi.Timers.handle 1) rfl rfl).armed
  cases set

end NpWebApi2.Timers
