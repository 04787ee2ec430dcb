import ShadNet.Signaling.Types
import ShadNet.LockProgram
import Mathlib.Data.List.Infix
import Mathlib.Data.List.Range
import Mathlib.Tactic.SplitIfs

/-!
# The dispatch queue of the signaling library

Events are stamped and staged under the signaling mutex, wait in a multimap under the dispatch
mutex, and are handed to their callbacks without a lock.
-/

namespace NpSignaling.DispatchThread

/-- A dispatch with the time in its `fire_at` and its number in the order of staging. -/
structure Staged where
  number : Nat
  fireAt : Nat
  dispatch : QueuedDispatch
  deriving DecidableEq, Repr

/-- Where `DispatchThreadMain` is. -/
inductive Position where
  | looking
  | waiting
  | holding (e : Staged)
  | inCallback
  deriving DecidableEq, Repr

/-- `staging` is the event of the thread that holds the signaling mutex in
`StageBasicCallbackLocked`, and `thread` is empty when the dispatch thread has ended or was not
made. `staged` and `invoked` list all events that were staged and called back, and the two
counters are their lengths when the dispatch thread was last allowed to go on. -/
structure State where
  clock : Nat := 0
  staging : Option Staged := none
  dispatchQueue : List Staged := []
  dispatchStop : Bool := false
  dispatchThread : Bool := false
  thread : Option Position := none
  stopping : Bool := false
  staged : List Staged := []
  invoked : List Staged := []
  stagedBefore : Nat := 0
  invokedBefore : Nat := 0

/-! ## Staging -/

/-- The place of a new entry of a multimap is behind those with the same key. -/
def emplace (e : Staged) : List Staged → List Staged
  | [] => [e]
  | q :: queue => if q.fireAt ≤ e.fireAt then q :: emplace e queue else e :: q :: queue

/-- `StageBasicCallbackLocked`, up to the dispatch mutex. -/
def stamp (ctx : NpSignalingContext) (connId : Nat) (eventType : SignalingEvent)
    (errorCode : Option SignalingError) (serial : Nat) (s : State) : State :=
  match ctx.callback with
  | none => s
  | some callback =>
    if s.staging.isSome then s
    else
      { s with
        staging := some ⟨s.staged.length, s.clock,
          ⟨ctx.ctxId, connId, eventType, errorCode, callback, ctx.callbackArg, serial⟩⟩ }

def stageUnderMutex (s : State) : State :=
  match s.staging with
  | none => s
  | some e =>
    if s.dispatchStop then { s with staging := none, staged := s.staged ++ [e] }
    else
      { s with
        staging := none
        staged := s.staged ++ [e]
        dispatchQueue := emplace e s.dispatchQueue }

/-! ## The dispatch thread -/

/-- One round of `DispatchThreadMain` while it has the dispatch mutex. -/
def lookUnderMutex (s : State) : State :=
  if s.thread ≠ some .looking then s
  else if s.dispatchStop then { s with thread := none }
  else
    match s.dispatchQueue with
    | [] => { s with thread := some .waiting }
    | e :: queue =>
      if s.clock < e.fireAt then { s with thread := some .waiting }
      else { s with thread := some (.holding e), dispatchQueue := queue }

/-- A wait ends with a notification, with its time, or without a reason. -/
def wake (s : State) : State :=
  if s.thread = some .waiting then { s with thread := some .looking } else s

def invoke (s : State) : State :=
  match s.thread with
  | some (.holding e) => { s with thread := some .inCallback, invoked := s.invoked ++ [e] }
  | _ => s

def callbackReturns (s : State) : State :=
  if s.thread = some .inCallback then { s with thread := some .looking } else s

/-! ## Starting and stopping

`dispatch_thread` is not kept under the mutex: the calls that start and stop the thread come one
after the other. -/

def clearStop (s : State) : State :=
  if s.dispatchStop then
    { s with
      dispatchStop := false
      stagedBefore := s.staged.length
      invokedBefore := s.invoked.length }
  else s

/-- `created` is whether `sceNpCreateThread` made a thread. -/
def createThread (created : Bool) (s : State) : State :=
  if s.dispatchThread = false ∧ created = true then
    { s with dispatchThread := true, thread := some .looking }
  else s

/-- `StartDispatchThread`. -/
def start (created : Bool) (s : State) : State :=
  if s.stopping then s else createThread created (clearStop s)

/-- `StopDispatchThread`, its part under the mutex. -/
def stopUnderMutex (s : State) : State :=
  if s.stopping then s
  else { s with dispatchStop := true, dispatchQueue := [], stopping := true }

/-- The rest of it. `sceNpJoinThread` returns when the thread has ended. -/
def join (s : State) : State :=
  if s.stopping = true ∧ (s.dispatchThread = false ∨ s.thread = none) then
    { s with dispatchThread := false, stopping := false }
  else s

inductive Op where
  | tick (elapsed : Nat)
  | stamp (ctx : NpSignalingContext) (connId : Nat) (eventType : SignalingEvent)
      (errorCode : Option SignalingError) (serial : Nat)
  | stage
  | look
  | wake
  | invoke
  | callbackReturns
  | start (created : Bool)
  | stop
  | join

def step : Op → State → State
  | .tick elapsed, s => { s with clock := s.clock + elapsed }
  | .stamp ctx connId eventType errorCode serial, s => stamp ctx connId eventType errorCode serial s
  | .stage, s => stageUnderMutex s
  | .look, s => lookUnderMutex s
  | .wake, s => wake s
  | .invoke, s => invoke s
  | .callbackReturns, s => callbackReturns s
  | .start created, s => start created s
  | .stop, s => stopUnderMutex s
  | .join, s => join s

/-! ## What is kept -/

/-- The event that the dispatch thread has taken and not called back yet. -/
def State.inHand (s : State) : List Staged :=
  match s.thread with
  | some (.holding e) => [e]
  | _ => []

/-- What was staged since the dispatch thread was last allowed to go on. -/
def State.session (s : State) : List Staged := s.staged.drop s.stagedBefore

def State.sessionInvoked (s : State) : List Staged := s.invoked.drop s.invokedBefore

/-- `StopDispatchThread` has returned, and the thread was not started since. -/
def State.Stopped (s : State) : Prop := s.dispatchStop = true ∧ s.stopping = false

structure Kept (s : State) : Prop where
  numbers : s.staged.map Staged.number = List.range s.staged.length
  next : ∀ e ∈ s.staging, e.number = s.staged.length
  stamped : ∀ e ∈ s.staging, e.fireAt ≤ s.clock
  past : ∀ q ∈ s.dispatchQueue, q.fireAt ≤ s.clock
  ordered : ∀ e ∈ s.staging, ∀ q ∈ s.dispatchQueue, q.fireAt ≤ e.fireAt
  within : s.stagedBefore ≤ s.staged.length ∧ s.invokedBefore ≤ s.invoked.length
  earlier : (s.invoked.take s.invokedBefore).Sublist (s.staged.take s.stagedBefore)
  running : s.dispatchStop = false →
    s.session = s.sessionInvoked ++ (s.inHand ++ s.dispatchQueue)
  stopped : s.dispatchStop = true →
    s.dispatchQueue = [] ∧ s.sessionInvoked ++ s.inHand <+: s.session
  alive : s.thread ≠ none → s.dispatchThread = true
  ended : s.Stopped → s.thread = none

theorem emplace_last {e : Staged} {queue : List Staged} (last : ∀ q ∈ queue, q.fireAt ≤ e.fireAt) :
    emplace e queue = queue ++ [e] := by
  induction queue with
  | nil => rfl
  | cons q queue ih =>
    obtain ⟨first, later⟩ := List.forall_mem_cons.mp last
    rw [emplace, if_pos first, ih later, List.cons_append]

variable {s : State}

theorem Kept.tick (kept : Kept s) (elapsed : Nat) :
    Kept { s with clock := s.clock + elapsed } where
  numbers := kept.numbers
  next := kept.next
  stamped := fun e staging => Nat.le_add_right_of_le (kept.stamped e staging)
  past := fun q queued => Nat.le_add_right_of_le (kept.past q queued)
  ordered := kept.ordered
  within := kept.within
  earlier := kept.earlier
  running := kept.running
  stopped := kept.stopped
  alive := kept.alive
  ended := kept.ended

theorem Kept.stamp (kept : Kept s) (ctx : NpSignalingContext) (connId : Nat)
    (eventType : SignalingEvent) (errorCode : Option SignalingError) (serial : Nat) :
    Kept (stamp ctx connId eventType errorCode serial s) := by
  rw [DispatchThread.stamp]
  split
  · exact kept
  · next callback _ =>
    split_ifs with busy
    · exact kept
    · exact {
        numbers := kept.numbers
        next := by
          rintro e ⟨⟩
          rfl
        stamped := by
          rintro e ⟨⟩
          exact Nat.le_refl _
        past := kept.past
        ordered := by
          rintro e ⟨⟩
          exact kept.past
        within := kept.within
        earlier := kept.earlier
        running := kept.running
        stopped := kept.stopped
        alive := kept.alive
        ended := kept.ended }

theorem map_number_concat {staged : List Staged} {e : Staged}
    (numbers : staged.map Staged.number = List.range staged.length)
    (next : e.number = staged.length) :
    (staged ++ [e]).map Staged.number = List.range (staged ++ [e]).length := by
  rw [List.map_append, numbers, List.length_append, List.length_singleton, List.range_succ,
    List.map_singleton, next]

theorem session_concat (kept : Kept s) (e : Staged) :
    (s.staged ++ [e]).drop s.stagedBefore = s.session ++ [e] :=
  List.drop_append_of_le_length kept.within.1

theorem earlier_concat (kept : Kept s) (e : Staged) :
    (s.invoked.take s.invokedBefore).Sublist ((s.staged ++ [e]).take s.stagedBefore) := by
  rw [List.take_append_of_le_length kept.within.1]
  exact kept.earlier

theorem within_concat (kept : Kept s) (e : Staged) :
    s.stagedBefore ≤ (s.staged ++ [e]).length ∧ s.invokedBefore ≤ s.invoked.length := by
  have within := kept.within
  rw [List.length_append]
  omega

/-- An event that comes after the thread was told to stop is not queued. -/
theorem Kept.dropped (kept : Kept s) {e : Staged} (staging : s.staging = some e)
    (stop : s.dispatchStop = true) :
    Kept { s with staging := none, staged := s.staged ++ [e] } where
  numbers := map_number_concat kept.numbers (kept.next e staging)
  next := fun _ none => nomatch none
  stamped := fun _ none => nomatch none
  past := kept.past
  ordered := fun _ none => nomatch none
  within := within_concat kept e
  earlier := earlier_concat kept e
  running := by
    intro goes
    rw [stop] at goes
    cases goes
  stopped := by
    intro _
    obtain ⟨empty, first⟩ := kept.stopped stop
    refine ⟨empty, ?_⟩
    have longer := first.trans (List.prefix_append s.session [e])
    rwa [← session_concat kept e] at longer
  alive := kept.alive
  ended := kept.ended

theorem Kept.queued (kept : Kept s) {e : Staged} (staging : s.staging = some e)
    (goes : s.dispatchStop = false) :
    Kept { s with
      staging := none
      staged := s.staged ++ [e]
      dispatchQueue := s.dispatchQueue ++ [e] } where
  numbers := map_number_concat kept.numbers (kept.next e staging)
  next := fun _ none => nomatch none
  stamped := fun _ none => nomatch none
  past := by
    intro q queued
    rcases List.mem_append.mp queued with old | new
    · exact kept.past q old
    · rw [List.mem_singleton.mp new]
      exact kept.stamped e staging
  ordered := fun _ none => nomatch none
  within := within_concat kept e
  earlier := earlier_concat kept e
  running := by
    intro _
    have before : s.session ++ [e] = s.sessionInvoked ++ (s.inHand ++ s.dispatchQueue) ++ [e] := by
      rw [kept.running goes]
    rw [← session_concat kept e, List.append_assoc, List.append_assoc] at before
    exact before
  stopped := by
    intro stop
    rw [goes] at stop
    cases stop
  alive := kept.alive
  ended := kept.ended

theorem Kept.stage (kept : Kept s) : Kept (stageUnderMutex s) := by
  cases staging : s.staging with
  | none =>
    rw [stageUnderMutex, staging]
    exact kept
  | some e =>
    rw [stageUnderMutex, staging]
    simp only
    split_ifs with stop
    · exact kept.dropped staging stop
    · rw [emplace_last (kept.ordered e staging)]
      exact kept.queued staging (Bool.not_eq_true _ ▸ stop)

/-- What the thread does without the queue. -/
theorem Kept.moves (kept : Kept s) {thread : Option Position}
    (same : State.inHand { s with thread } = s.inHand) (was : thread ≠ none → s.thread ≠ none) :
    Kept { s with thread } where
  numbers := kept.numbers
  next := kept.next
  stamped := kept.stamped
  past := kept.past
  ordered := kept.ordered
  within := kept.within
  earlier := kept.earlier
  running := by
    intro goes
    rw [same]
    exact kept.running goes
  stopped := by
    intro stop
    rw [same]
    exact kept.stopped stop
  alive := fun here => kept.alive (was here)
  ended := by
    intro stopped
    by_contra here
    exact was here (kept.ended stopped)

/-- All that a round under the mutex can do. -/
theorem lookUnderMutex_cases (s : State) :
    lookUnderMutex s = s ∨
    (s.thread = some .looking ∧
      (lookUnderMutex s = { s with thread := none } ∨
        lookUnderMutex s = { s with thread := some .waiting } ∨
        ∃ e queue, s.dispatchStop = false ∧ s.dispatchQueue = e :: queue ∧
          lookUnderMutex s = { s with thread := some (.holding e), dispatchQueue := queue })) := by
  rw [lookUnderMutex]
  by_cases here : s.thread = some .looking
  · refine Or.inr ⟨here, ?_⟩
    rw [if_neg (not_not.mpr here)]
    by_cases stop : s.dispatchStop = true
    · rw [if_pos stop]
      exact Or.inl rfl
    · rw [if_neg stop]
      split
      · exact Or.inr (Or.inl rfl)
      · next e queue queued =>
        by_cases early : s.clock < e.fireAt
        · rw [if_pos early]
          exact Or.inr (Or.inl rfl)
        · rw [if_neg early]
          exact Or.inr (Or.inr ⟨e, queue, by simpa using stop, queued, rfl⟩)
  · rw [if_pos here]
    exact Or.inl rfl

theorem Kept.look (kept : Kept s) : Kept (lookUnderMutex s) := by
  rcases lookUnderMutex_cases s with same | ⟨here, ended | waits | ⟨e, queue, goes, queued, taken⟩⟩
  · rwa [same]
  all_goals
    have free : s.inHand = [] := by rw [State.inHand, here]
    have was : s.thread ≠ none := by
      rw [here]
      exact Option.some_ne_none _
  · rw [ended]
    exact kept.moves (by rw [free]; rfl) (fun absent => absurd rfl absent)
  · rw [waits]
    exact kept.moves (by rw [free]; rfl) (fun _ => was)
  · rw [taken]
    exact {
      numbers := kept.numbers
      next := kept.next
      stamped := kept.stamped
      past := fun q later => kept.past q (queued ▸ List.mem_cons_of_mem e later)
      ordered := fun n staging q later =>
        kept.ordered n staging q (queued ▸ List.mem_cons_of_mem e later)
      within := kept.within
      earlier := kept.earlier
      running := by
        intro _
        have sofar := kept.running goes
        rw [free, queued] at sofar
        exact sofar
      stopped := by
        intro stop
        rw [goes] at stop
        cases stop
      alive := fun _ => kept.alive was
      ended := by
        intro stopped
        exact absurd (kept.ended stopped) was }

theorem Kept.wake (kept : Kept s) : Kept (wake s) := by
  rw [DispatchThread.wake]
  split_ifs with waits
  · refine kept.moves ?_ (fun _ => ?_)
    · rw [State.inHand, State.inHand, waits]
    · rw [waits]
      exact Option.some_ne_none _
  · exact kept

theorem Kept.callbackReturns (kept : Kept s) : Kept (callbackReturns s) := by
  rw [DispatchThread.callbackReturns]
  split_ifs with calls
  · refine kept.moves ?_ (fun _ => ?_)
    · rw [State.inHand, State.inHand, calls]
    · rw [calls]
      exact Option.some_ne_none _
  · exact kept

theorem Kept.invoke (kept : Kept s) : Kept (invoke s) := by
  rw [DispatchThread.invoke]
  split
  · next e holds =>
    have hand : s.inHand = [e] := by rw [State.inHand, holds]
    have was : s.thread ≠ none := by
      rw [holds]
      exact Option.some_ne_none _
    have within := kept.within
    have called : (s.invoked ++ [e]).drop s.invokedBefore = s.sessionInvoked ++ [e] :=
      List.drop_append_of_le_length within.2
    have longer : s.invokedBefore ≤ (s.invoked ++ [e]).length := by
      rw [List.length_append]
      omega
    exact {
      numbers := kept.numbers
      next := kept.next
      stamped := kept.stamped
      past := kept.past
      ordered := kept.ordered
      within := ⟨within.1, longer⟩
      earlier := by
        rw [List.take_append_of_le_length within.2]
        exact kept.earlier
      running := by
        intro goes
        have sofar := kept.running goes
        rw [hand, ← List.append_assoc, ← called] at sofar
        exact sofar
      stopped := by
        intro stop
        obtain ⟨empty, first⟩ := kept.stopped stop
        rw [hand, ← called] at first
        refine ⟨empty, ?_⟩
        rw [State.inHand, List.append_nil]
        exact first
      alive := fun _ => kept.alive was
      ended := fun stopped => absurd (kept.ended stopped) was }
  · exact kept

theorem Kept.stop (kept : Kept s) : Kept (stopUnderMutex s) := by
  rw [stopUnderMutex]
  split_ifs with busy
  · exact kept
  · exact {
      numbers := kept.numbers
      next := kept.next
      stamped := kept.stamped
      past := fun _ none => nomatch none
      ordered := fun _ _ _ none => nomatch none
      within := kept.within
      earlier := kept.earlier
      running := fun goes => nomatch goes
      stopped := by
        intro _
        refine ⟨rfl, ?_⟩
        by_cases stop : s.dispatchStop = true
        · exact (kept.stopped stop).2
        · have sofar := kept.running (Bool.not_eq_true _ ▸ stop)
          rw [← List.append_assoc] at sofar
          exact ⟨s.dispatchQueue, sofar.symm⟩
      alive := kept.alive
      ended := fun stopped => nomatch stopped.2 }

theorem Kept.join (kept : Kept s) : Kept (join s) := by
  rw [DispatchThread.join]
  split_ifs with done
  · have absent : s.thread = none := by
      rcases done.2 with handle | ended
      · by_contra here
        rw [kept.alive here] at handle
        cases handle
      · exact ended
    exact {
      numbers := kept.numbers
      next := kept.next
      stamped := kept.stamped
      past := kept.past
      ordered := kept.ordered
      within := kept.within
      earlier := kept.earlier
      running := kept.running
      stopped := kept.stopped
      alive := fun here => absurd absent here
      ended := fun _ => absent }
  · exact kept

/-- A new session begins where the last one has ended. -/
theorem Kept.clearStop (kept : Kept s) (free : s.stopping = false) : Kept (clearStop s) := by
  rw [DispatchThread.clearStop]
  split_ifs with stop
  · have absent := kept.ended ⟨stop, free⟩
    obtain ⟨empty, first⟩ := kept.stopped stop
    have hand : s.inHand = [] := by rw [State.inHand, absent]
    rw [hand, List.append_nil] at first
    exact {
      numbers := kept.numbers
      next := kept.next
      stamped := kept.stamped
      past := kept.past
      ordered := kept.ordered
      within := ⟨Nat.le_refl _, Nat.le_refl _⟩
      earlier := by
        rw [List.take_length, List.take_length, ← List.take_append_drop s.invokedBefore s.invoked,
          ← List.take_append_drop s.stagedBefore s.staged]
        exact kept.earlier.append first.sublist
      running := by
        intro _
        have none : s.inHand ++ s.dispatchQueue = [] := by rw [hand, empty]; rfl
        rw [State.session, State.sessionInvoked, List.drop_length, List.drop_length]
        exact none.symm
      stopped := fun stop => nomatch stop
      alive := kept.alive
      ended := fun stop => nomatch stop.1 }
  · exact kept

theorem clearStop_dispatchStop (s : State) : (clearStop s).dispatchStop = false := by
  rw [clearStop]
  split_ifs with stop
  · rfl
  · simpa using stop

theorem Kept.createThread (kept : Kept s) (goes : s.dispatchStop = false) (created : Bool) :
    Kept (createThread created s) := by
  rw [DispatchThread.createThread]
  split_ifs with makes
  · have absent : s.thread = none := by
      by_contra here
      rw [kept.alive here] at makes
      cases makes.1
    have hand : s.inHand = [] := by rw [State.inHand, absent]
    have halted : s.dispatchStop ≠ true := by
      rw [goes]
      exact Bool.false_ne_true
    exact {
      numbers := kept.numbers
      next := kept.next
      stamped := kept.stamped
      past := kept.past
      ordered := kept.ordered
      within := kept.within
      earlier := kept.earlier
      running := by
        intro _
        have sofar := kept.running goes
        rw [hand] at sofar
        exact sofar
      stopped := fun stop => absurd stop halted
      alive := fun _ => rfl
      ended := fun stopped => absurd stopped.1 halted }
  · exact kept

theorem Kept.start (kept : Kept s) (created : Bool) : Kept (start created s) := by
  rw [DispatchThread.start]
  split_ifs with busy
  · exact kept
  · have free : s.stopping = false := by simpa using busy
    exact (kept.clearStop free).createThread (clearStop_dispatchStop s) created

theorem step_kept (op : Op) (s : State) (kept : Kept s) : Kept (step op s) := by
  cases op with
  | tick elapsed => exact kept.tick elapsed
  | stamp ctx connId eventType errorCode serial =>
    exact kept.stamp ctx connId eventType errorCode serial
  | stage => exact kept.stage
  | look => exact kept.look
  | wake => exact kept.wake
  | invoke => exact kept.invoke
  | callbackReturns => exact kept.callbackReturns
  | start created => exact kept.start created
  | stop => exact kept.stop
  | join => exact kept.join

theorem initial_kept : Kept {} where
  numbers := rfl
  next := fun _ none => nomatch none
  stamped := fun _ none => nomatch none
  past := fun _ none => nomatch none
  ordered := fun _ none => nomatch none
  within := ⟨Nat.le_refl _, Nat.le_refl _⟩
  earlier := List.Sublist.refl _
  running := fun _ => rfl
  stopped := fun stop => nomatch stop
  alive := fun here => absurd rfl here
  ended := fun stop => nomatch stop.1

theorem run_kept (ops : List Op) {s : State} (kept : Kept s) : Kept (Runs.run step ops s) :=
  Runs.invariant_of_run (fun op s kept (_ : True) => step_kept op s kept) kept
    (Runs.admitted_always (fun _ _ => trivial) ops s)

/-! ## After a stop -/

/-- Only events with these numbers are on their way, or were called back since. -/
structure After (n : Nat) (before : List Staged) (s : State) : Prop where
  invoked : ∃ later, s.invoked = before ++ later ∧ ∀ e ∈ later, n ≤ e.number
  hand : ∀ e ∈ s.inHand, n ≤ e.number
  queue : ∀ e ∈ s.dispatchQueue, n ≤ e.number
  longer : n ≤ s.staged.length

variable {n : Nat} {before : List Staged}

theorem After.clearStop (after : After n before s) : After n before (clearStop s) := by
  rw [DispatchThread.clearStop]
  split_ifs
  · exact ⟨after.invoked, after.hand, after.queue, after.longer⟩
  · exact after

theorem After.createThread (after : After n before s) (created : Bool) :
    After n before (createThread created s) := by
  rw [DispatchThread.createThread]
  split_ifs
  · exact ⟨after.invoked, fun _ none => (nomatch none), after.queue, after.longer⟩
  · exact after

theorem After.start (after : After n before s) (created : Bool) :
    After n before (start created s) := by
  rw [DispatchThread.start]
  split_ifs
  · exact after
  · exact after.clearStop.createThread created

theorem After.stage (after : After n before s) (kept : Kept s) :
    After n before (stageUnderMutex s) := by
  have longer := after.longer
  rw [stageUnderMutex]
  split
  · exact after
  · next e staging =>
    have more : n ≤ (s.staged ++ [e]).length := by
      rw [List.length_append]
      omega
    split_ifs
    · exact ⟨after.invoked, after.hand, after.queue, more⟩
    · refine ⟨after.invoked, after.hand, ?_, more⟩
      intro q queued
      have number := kept.next e staging
      simp only [emplace_last (kept.ordered e staging)] at queued
      rcases List.mem_append.mp queued with old | new
      · exact after.queue q old
      · rw [List.mem_singleton.mp new]
        omega

theorem After.look (after : After n before s) : After n before (lookUnderMutex s) := by
  rcases lookUnderMutex_cases s with same | ⟨-, ended | waits | ⟨e, queue, -, queued, taken⟩⟩
  · rwa [same]
  · rw [ended]
    exact ⟨after.invoked, fun _ none => (nomatch none), after.queue, after.longer⟩
  · rw [waits]
    exact ⟨after.invoked, fun _ none => (nomatch none), after.queue, after.longer⟩
  · have numbers := after.queue
    rw [queued] at numbers
    obtain ⟨first, rest⟩ := List.forall_mem_cons.mp numbers
    rw [taken]
    exact ⟨after.invoked, by simpa [State.inHand] using first, rest, after.longer⟩

theorem After.invoke (after : After n before s) : After n before (invoke s) := by
  rw [DispatchThread.invoke]
  split
  · next e holds =>
    have number : n ≤ e.number := after.hand e (by simp [State.inHand, holds])
    obtain ⟨later, same, numbers⟩ := after.invoked
    refine ⟨⟨later ++ [e], ?_, ?_⟩, fun _ none => (nomatch none), after.queue, after.longer⟩
    · rw [← List.append_assoc, ← same]
    · intro q member
      rcases List.mem_append.mp member with old | new
      · exact numbers q old
      · rwa [List.mem_singleton.mp new]
  · exact after

theorem step_after (op : Op) (s : State) (kept : Kept s) (after : After n before s) :
    After n before (step op s) := by
  cases op with
  | tick elapsed => exact ⟨after.invoked, after.hand, after.queue, after.longer⟩
  | stamp ctx connId eventType errorCode serial =>
    rw [step, stamp]
    split
    · exact after
    · split_ifs
      · exact after
      · exact ⟨after.invoked, after.hand, after.queue, after.longer⟩
  | stage => exact after.stage kept
  | look => exact after.look
  | wake =>
    rw [step, wake]
    split_ifs
    · exact ⟨after.invoked, fun _ none => (nomatch none), after.queue, after.longer⟩
    · exact after
  | invoke => exact after.invoke
  | callbackReturns =>
    rw [step, callbackReturns]
    split_ifs
    · exact ⟨after.invoked, fun _ none => (nomatch none), after.queue, after.longer⟩
    · exact after
  | start created => exact after.start created
  | stop =>
    rw [step, stopUnderMutex]
    split_ifs
    · exact after
    · exact ⟨after.invoked, after.hand, fun _ none => (nomatch none), after.longer⟩
  | join =>
    rw [step, join]
    split_ifs
    · exact ⟨after.invoked, after.hand, after.queue, after.longer⟩
    · exact after

theorem run_after (ops : List Op) {s : State} (kept : Kept s) (after : After n before s) :
    After n before (Runs.run step ops s) := by
  induction ops generalizing s with
  | nil => exact after
  | cons op ops ih => exact ih (step_kept op s kept) (step_after op s kept after)

theorem after_of_stopped (kept : Kept s) (stopped : s.Stopped) :
    After s.staged.length s.invoked s where
  invoked := ⟨[], (List.append_nil _).symm, fun _ none => nomatch none⟩
  hand := by
    intro e held
    rw [State.inHand, kept.ended stopped] at held
    cases held
  queue := by
    intro e queued
    rw [(kept.stopped stopped.1).1] at queued
    cases queued
  longer := Nat.le_refl _

/-- The thread was told to stop and has ended. -/
structure Idle (before : List Staged) (s : State) : Prop where
  stop : s.dispatchStop = true
  ended : s.thread = none
  queue : s.dispatchQueue = []
  invoked : s.invoked = before

def Op.isStart : Op → Bool
  | .start _ => true
  | _ => false

theorem step_idle (op : Op) (s : State) (noStart : op.isStart = false) (idle : Idle before s) :
    Idle before (step op s) := by
  cases op with
  | tick elapsed => exact ⟨idle.stop, idle.ended, idle.queue, idle.invoked⟩
  | stamp ctx connId eventType errorCode serial =>
    rw [step, stamp]
    split
    · exact idle
    · split_ifs
      · exact idle
      · exact ⟨idle.stop, idle.ended, idle.queue, idle.invoked⟩
  | stage =>
    rw [step, stageUnderMutex]
    split
    · exact idle
    · rw [if_pos idle.stop]
      exact ⟨idle.stop, idle.ended, idle.queue, idle.invoked⟩
  | look =>
    have absent : s.thread ≠ some .looking := by
      rw [idle.ended]
      exact (Option.some_ne_none _).symm
    rw [step, lookUnderMutex, if_pos absent]
    exact idle
  | wake =>
    have absent : s.thread ≠ some .waiting := by
      rw [idle.ended]
      exact (Option.some_ne_none _).symm
    rw [step, wake, if_neg absent]
    exact idle
  | invoke =>
    rw [step, invoke, idle.ended]
    exact idle
  | callbackReturns =>
    have absent : s.thread ≠ some .inCallback := by
      rw [idle.ended]
      exact (Option.some_ne_none _).symm
    rw [step, callbackReturns, if_neg absent]
    exact idle
  | start created => cases noStart
  | stop =>
    rw [step, stopUnderMutex]
    split_ifs
    · exact idle
    · exact ⟨rfl, idle.ended, rfl, idle.invoked⟩
  | join =>
    rw [step, join]
    split_ifs
    · exact ⟨idle.stop, idle.ended, idle.queue, idle.invoked⟩
    · exact idle

theorem run_idle (ops : List Op) (noStart : ∀ op ∈ ops, op.isStart = false) {s : State}
    (idle : Idle before s) : Idle before (Runs.run step ops s) := by
  induction ops generalizing s with
  | nil => exact idle
  | cons op ops ih =>
    obtain ⟨first, later⟩ := List.forall_mem_cons.mp noStart
    exact ih later (step_idle op s first idle)

/-! ## The deliveries of a run -/

/-- The events that were called back are some of those that were staged, in their order, and
those of the session are the first of the session. -/
structure InOrder (s : State) : Prop where
  numbered : s.staged.map Staged.number = List.range s.staged.length
  each : s.invoked.Sublist s.staged
  first : s.sessionInvoked <+: s.session

theorem inOrder_of_kept (kept : Kept s) : InOrder s := by
  have first : s.sessionInvoked <+: s.session := by
    by_cases stop : s.dispatchStop = true
    · exact (List.prefix_append _ _).trans (kept.stopped stop).2
    · exact ⟨_, (kept.running (by simpa using stop)).symm⟩
  refine ⟨kept.numbers, ?_, first⟩
  rw [← List.take_append_drop s.invokedBefore s.invoked,
    ← List.take_append_drop s.stagedBefore s.staged]
  exact kept.earlier.append first.sublist

/-- In every run the callbacks come in the order of staging, each event once at most and none
left out; a thread that was stopped delivers nothing from before, and nothing is queued until it
is started again. -/
theorem delivered_in_order (ops : List Op) :
    InOrder (Runs.run step ops {}) ∧
    ((Runs.run step ops {}).Stopped → ∀ more : List Op,
      (∃ later, (Runs.run step (ops ++ more) {}).invoked =
          (Runs.run step ops {}).invoked ++ later ∧
        ∀ e ∈ later, (Runs.run step ops {}).staged.length ≤ e.number) ∧
      ((∀ op ∈ more, op.isStart = false) →
        (Runs.run step (ops ++ more) {}).dispatchQueue = [] ∧
        (Runs.run step (ops ++ more) {}).invoked = (Runs.run step ops {}).invoked)) := by
  have kept := run_kept ops initial_kept
  refine ⟨inOrder_of_kept kept, ?_⟩
  intro stopped more
  rw [Runs.run_append]
  constructor
  · exact (run_after more kept (after_of_stopped kept stopped)).invoked
  · intro noStart
    have idle := run_idle more noStart
      ⟨stopped.1, kept.ended stopped, (kept.stopped stopped.1).1, rfl⟩
    exact ⟨idle.queue, idle.invoked⟩

def listening : NpSignalingContext where
  ctxId := 1
  callback := some 7
  callbackArg := 0
  ownerNpid := npIdFromOnlineId .zero
  ownerOnlineId := .zero

/-- Two events are staged; the thread is stopped while it is in the callback of the first. -/
def stoppedInCallback : List Op :=
  [.start true, .stamp listening 1 .established none 0, .stage, .stamp listening 1 .dead none 0,
    .stage, .look, .invoke, .stop, .callbackReturns, .look, .join]

theorem delivered_in_order_stopped :
    (Runs.run step stoppedInCallback {}).invoked.map Staged.number = [0] ∧
    (Runs.run step (stoppedInCallback ++ [.stamp listening 2 .established none 1, .stage]) {}
      ).dispatchQueue = [] := by
  constructor
  · decide +kernel
  · exact (((delivered_in_order stoppedInCallback).2 (by
      constructor
      · decide +kernel
      · decide +kernel) _).2 (by decide)).1

end NpSignaling.DispatchThread
