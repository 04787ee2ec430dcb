import ShadNet.LockProgram

/-!
# The wake-ups of the event dispatcher

The dispatcher thread of matching2 sleeps on `queue_cv` under `queue_mutex`.
Between its test of `dispatch_running` and its wait it keeps the mutex, which
`ScheduleEvent` and `DispatchHold` take before they change anything and
`TermEventDispatcher` does not.
-/

namespace Matching2Dispatcher

/-! ## Steps -/

structure ScheduledEvent where
  event : Nat
  fireAt : Int
  deriving DecidableEq, Repr

/-- Where `EventDispatcherThreadMain` stands. It holds the mutex in `looping`, `tested` and
`extracting`. -/
inductive DispatcherAt where
  /-- On its way to the mutex: at its start, after a batch, after a wake-up. -/
  | locking
  | looping
  /-- `dispatch_running` was set. -/
  | tested
  /-- No hold was active. -/
  | extracting
  | firing (ready : List ScheduledEvent)
  | waiting
  | waitingUntil
  | finished
  deriving DecidableEq, Repr

/-- Where a thread stands that calls into the dispatcher. -/
inductive Caller where
  | scheduleEvent (ev : ScheduledEvent)
  | dispatchHold
  | holding
  /-- `ScheduleEvent` or the destructor of `DispatchHold`, after its change. -/
  | notifying
  | termEventDispatcher
  | termNotifying
  | termJoining
  | termClearing
  | returned
  deriving DecidableEq, Repr

structure Dispatcher where
  dispatchRunning : Bool := true
  dispatchHolds : Nat := 0
  pendingEvents : List ScheduledEvent := []
  dispatchThread : Bool := true
  dispatcher : DispatcherAt := .locking
  callers : List Caller := []
  fired : List ScheduledEvent := []
  deriving DecidableEq, Repr

def DispatcherAt.locks : DispatcherAt → Bool
  | .looping | .tested | .extracting => true
  | _ => false

/-- `now` is what the clock says when the queue is searched. -/
def eventDispatcherThreadMain (now : Int) (s : Dispatcher) : Dispatcher :=
  match s.dispatcher with
  | .locking => { s with dispatcher := .looping }
  | .looping =>
    if s.dispatchRunning then { s with dispatcher := .tested }
    else { s with dispatcher := .finished }
  | .tested =>
    if s.dispatchHolds > 0 then { s with dispatcher := .waiting }
    else { s with dispatcher := .extracting }
  | .extracting =>
    let ready := s.pendingEvents.filter (fun ev => ev.fireAt ≤ now)
    let later := s.pendingEvents.filter (fun ev => ¬ ev.fireAt ≤ now)
    if ready ≠ [] then { s with pendingEvents := later, dispatcher := .firing ready }
    else if later = [] then { s with dispatcher := .waiting }
    else { s with dispatcher := .waitingUntil }
  | .firing (ev :: ready) => { s with fired := s.fired ++ [ev], dispatcher := .firing ready }
  | .firing [] => { s with dispatcher := .locking }
  | .waiting => s
  | .waitingUntil => { s with dispatcher := .locking }
  | .finished => s

def notifyAll (s : Dispatcher) : Dispatcher :=
  match s.dispatcher with
  | .waiting | .waitingUntil => { s with dispatcher := .locking }
  | _ => s

/-- A critical section of a caller waits for the dispatcher to give up the mutex. -/
def underMutex (before after : Caller) (change : Dispatcher → Dispatcher) (s : Dispatcher) :
    Caller × Dispatcher :=
  if s.dispatcher.locks then (before, s) else (after, change s)

def callerStep (caller : Caller) (s : Dispatcher) : Caller × Dispatcher :=
  match caller with
  | .scheduleEvent ev =>
    underMutex caller .notifying (fun s => { s with pendingEvents := s.pendingEvents ++ [ev] }) s
  | .dispatchHold =>
    underMutex caller .holding (fun s => { s with dispatchHolds := s.dispatchHolds + 1 }) s
  | .holding =>
    underMutex caller .notifying (fun s => { s with dispatchHolds := s.dispatchHolds - 1 }) s
  | .notifying => (.returned, notifyAll s)
  | .termEventDispatcher =>
    if s.dispatchRunning then (.termNotifying, { s with dispatchRunning := false })
    else (.returned, s)
  | .termNotifying =>
    (if s.dispatchThread then .termJoining else .termClearing, notifyAll s)
  | .termJoining =>
    if s.dispatcher = .finished then (.termClearing, { s with dispatchThread := false })
    else (.termJoining, s)
  | .termClearing => underMutex caller .returned (fun s => { s with pendingEvents := [] }) s
  | .returned => (.returned, s)

inductive Call where
  | scheduleEvent (ev : ScheduledEvent)
  | dispatchHold
  | termEventDispatcher
  deriving DecidableEq, Repr

def Call.start : Call → Caller
  | .scheduleEvent ev => .scheduleEvent ev
  | .dispatchHold => .dispatchHold
  | .termEventDispatcher => .termEventDispatcher

inductive Action where
  | call (call : Call)
  | caller (thread : Nat)
  | dispatcher (now : Int)
  /-- A wait may end without a notification. -/
  | spuriousWakeUp
  deriving DecidableEq, Repr

def step (action : Action) (s : Dispatcher) : Dispatcher :=
  match action with
  | .call call => { s with callers := s.callers ++ [call.start] }
  | .caller thread =>
    match s.callers[thread]? with
    | none => s
    | some caller =>
      let (caller, s) := callerStep caller s
      { s with callers := s.callers.set thread caller }
  | .dispatcher now => eventDispatcherThreadMain now s
  | .spuriousWakeUp => notifyAll s

/-! ## What the dispatcher must not sleep through -/

/-- Some thread has made its change and is about to notify. -/
def Outstanding (s : Dispatcher) : Prop := Caller.notifying ∈ s.callers ∨ .termNotifying ∈ s.callers

/-- A step of the threads that are there; nothing new is called and nothing wakes by itself. -/
def Action.continues : Action → Bool
  | .caller _ | .dispatcher _ => true
  | .call _ | .spuriousWakeUp => false

structure Wakeful (s : Dispatcher) : Prop where
  work : s.dispatcher = .waiting → ¬ Outstanding s → s.dispatchHolds = 0 → s.pendingEvents = []
  running : s.dispatcher = .waiting → ¬ Outstanding s → s.dispatchRunning = true
  joins : ∀ thread : Nat, s.callers[thread]? = some .termJoining →
    ∃ later : List Action, later.all (·.continues) ∧
      (Runs.run step later s).callers[thread]? = some .termClearing

/-- The dispatcher has tested the flag, and what it finds next will make it wait. -/
def BoundToWait (s : Dispatcher) : Prop :=
  s.dispatcher = .tested ∧ (s.dispatchHolds > 0 ∨ s.pendingEvents = []) ∨
    s.dispatcher = .extracting ∧ s.pendingEvents = []

/-- `TermEventDispatcher` does not notify a dispatcher that is about to wait. -/
def NotifiesInTime (action : Action) (s : Dispatcher) : Prop :=
  ∀ thread, action = .caller thread → s.callers[thread]? = some .termNotifying → ¬ BoundToWait s

/-- The part of the invariant that no order of steps breaks. -/
structure Noticed (s : Dispatcher) : Prop where
  work : s.dispatcher = .waiting →
    s.dispatchHolds > 0 ∨ s.pendingEvents = [] ∨ .notifying ∈ s.callers
  ended : ∀ caller ∈ s.callers, caller = .termNotifying ∨ caller = .termJoining →
    s.dispatchRunning = false

/-- Past its test the dispatcher finds the flag set, or a notification is to come. -/
def Told (s : Dispatcher) : Prop :=
  BoundToWait s ∨ s.dispatcher = .waiting →
    s.dispatchRunning = true ∨ .termNotifying ∈ s.callers

section Steps

variable {s : Dispatcher} {thread : Nat} {caller other : Caller}

theorem extracted_nothing {events : List ScheduledEvent} {now : Int}
    (ready : events.filter (fun ev => ev.fireAt ≤ now) = [])
    (later : events.filter (fun ev => ¬ ev.fireAt ≤ now) = []) : events = [] := by
  cases events with
  | nil => rfl
  | cons ev rest =>
    by_cases due : ev.fireAt ≤ now
    · simp [due] at ready
    · simp [due] at later

theorem noticed_dispatcher (noticed : Noticed s) (now : Int) :
    Noticed (eventDispatcherThreadMain now s) := by
  obtain ⟨work, ended⟩ := noticed
  simp only [eventDispatcherThreadMain]
  split
  · exact ⟨fun waiting => absurd waiting (by simp), ended⟩
  · split
    · exact ⟨fun waiting => absurd waiting (by simp), ended⟩
    · exact ⟨fun waiting => absurd waiting (by simp), ended⟩
  · split
    · rename_i held
      exact ⟨fun _ => Or.inl held, ended⟩
    · exact ⟨fun waiting => absurd waiting (by simp), ended⟩
  · split
    · exact ⟨fun waiting => absurd waiting (by simp), ended⟩
    · rename_i none
      split
      · rename_i nothing
        have empty := extracted_nothing (Decidable.not_not.mp none) nothing
        exact ⟨fun _ => Or.inr (Or.inl empty), ended⟩
      · exact ⟨fun waiting => absurd waiting (by simp), ended⟩
  · exact ⟨fun waiting => absurd waiting (by simp), ended⟩
  · exact ⟨fun waiting => absurd waiting (by simp), ended⟩
  · exact ⟨work, ended⟩
  · exact ⟨fun waiting => absurd waiting (by simp), ended⟩
  · exact ⟨work, ended⟩

theorem told_dispatcher (told : Told s) (now : Int) : Told (eventDispatcherThreadMain now s) := by
  simp only [eventDispatcherThreadMain]
  split
  · simp [Told, BoundToWait]
  · split
    · rename_i running
      exact fun _ => Or.inl running
    · simp [Told, BoundToWait]
  · rename_i tested
    split
    · rename_i held
      exact fun _ => told (Or.inl (Or.inl ⟨tested, Or.inl held⟩))
    · intro past
      have empty : s.pendingEvents = [] := by simpa [BoundToWait] using past
      exact told (Or.inl (Or.inl ⟨tested, Or.inr empty⟩))
  · rename_i extracting
    split
    · simp [Told, BoundToWait]
    · rename_i none
      split
      · rename_i nothing
        have empty := extracted_nothing (Decidable.not_not.mp none) nothing
        exact fun _ => told (Or.inl (Or.inr ⟨extracting, empty⟩))
      · simp [Told, BoundToWait]
  · simp [Told, BoundToWait]
  · simp [Told, BoundToWait]
  · exact told
  · simp [Told, BoundToWait]
  · exact told

theorem notifyAll_awake (s : Dispatcher) : (notifyAll s).dispatcher ≠ .waiting := by
  simp only [notifyAll]
  split
  · simp
  · simp
  · rename_i awake _
    exact awake

/-- A notification changes nothing but where the dispatcher stands. -/
theorem notifyAll_eq (s : Dispatcher) : ∃ dispatcher, notifyAll s = { s with dispatcher } ∧
    (dispatcher = s.dispatcher ∨ dispatcher = .locking) := by
  simp only [notifyAll]
  split
  · exact ⟨_, rfl, Or.inr rfl⟩
  · exact ⟨_, rfl, Or.inr rfl⟩
  · exact ⟨_, rfl, Or.inl rfl⟩

theorem mem_set_other {callers : List Caller} (found : callers[thread]? = some caller)
    (member : other ∈ callers) (differs : other ≠ caller) (after : Caller) :
    other ∈ callers.set thread after := by
  obtain ⟨i, there⟩ := List.mem_iff_getElem?.mp member
  have apart : thread ≠ i := by
    rintro rfl
    exact differs (Option.some.inj (there.symm.trans found))
  apply List.mem_of_getElem? (i := i)
  rw [List.getElem?_set_ne apart, there]

theorem mem_set_self {callers : List Caller} (found : callers[thread]? = some caller)
    (after : Caller) : after ∈ callers.set thread after := by
  obtain ⟨inRange, -⟩ := List.getElem?_eq_some_iff.mp found
  exact List.mem_set inRange after

theorem callerStep_callers (caller : Caller) (s : Dispatcher) :
    (callerStep caller s).2.callers = s.callers := by
  have notified : (notifyAll s).callers = s.callers := by
    obtain ⟨dispatcher, same, -⟩ := notifyAll_eq s
    rw [same]
  cases caller <;> simp only [callerStep, underMutex, notified] <;> split <;> rfl

theorem step_caller (found : s.callers[thread]? = some caller) :
    step (.caller thread) s = { (callerStep caller s).2 with
      callers := s.callers.set thread (callerStep caller s).1 } := by
  simp only [step, found]
  rw [callerStep_callers]

/-- A step of a thread that waits for the mutex changes nothing. -/
theorem set_same (found : s.callers[thread]? = some caller) :
    s.callers.set thread caller = s.callers := by
  obtain ⟨inRange, there⟩ := List.getElem?_eq_some_iff.mp found
  rw [← there, List.set_getElem_self]

/-- Once unset, the flag stays so. -/
theorem callerStep_stopped (stopped : s.dispatchRunning = false) (caller : Caller) :
    (callerStep caller s).2.dispatchRunning = false := by
  have notified : (notifyAll s).dispatchRunning = false := by
    obtain ⟨dispatcher, same, -⟩ := notifyAll_eq s
    rw [same]
    exact stopped
  cases caller with
  | notifying | termNotifying => exact notified
  | returned => exact stopped
  | _ =>
    simp only [callerStep, underMutex]
    split <;> first | exact stopped | rfl

theorem callerStep_ended (ended : caller = .termNotifying ∨ caller = .termJoining →
    s.dispatchRunning = false)
    (after : (callerStep caller s).1 = .termNotifying ∨ (callerStep caller s).1 = .termJoining) :
    (callerStep caller s).2.dispatchRunning = false := by
  by_cases ending : caller = .termNotifying ∨ caller = .termJoining
  · exact callerStep_stopped (ended ending) caller
  cases caller with
  | termEventDispatcher =>
    simp only [callerStep] at after ⊢
    split
    · rfl
    · rename_i unset
      simpa using unset
  | termNotifying => simp at ending
  | termJoining => simp at ending
  | scheduleEvent ev | dispatchHold | holding | termClearing =>
    simp only [callerStep, underMutex] at after
    split at after <;> simp at after
  | notifying | returned => simp [callerStep] at after

theorem noticed_caller (noticed : Noticed s) (thread : Nat) : Noticed (step (.caller thread) s) := by
  cases found : s.callers[thread]? with
  | none =>
    simp only [step, found]
    exact noticed
  | some caller =>
    rw [step_caller found]
    constructor
    · have kept (differs : Caller.notifying ≠ caller) (after : Caller)
          (waiting : s.dispatcher = .waiting) : s.dispatchHolds > 0 ∨ s.pendingEvents = [] ∨
            .notifying ∈ s.callers.set thread after := by
        rcases noticed.work waiting with held | empty | notifying
        · exact Or.inl held
        · exact Or.inr (Or.inl empty)
        · exact Or.inr (Or.inr (mem_set_other found notifying differs after))
      cases caller with
      | scheduleEvent ev =>
        simp only [callerStep, underMutex]
        split
        · exact kept (by simp) _
        · exact fun _ => Or.inr (Or.inr (mem_set_self found _))
      | dispatchHold =>
        simp only [callerStep, underMutex]
        split
        · exact kept (by simp) _
        · exact fun _ => Or.inl (Nat.succ_pos _)
      | holding =>
        simp only [callerStep, underMutex]
        split
        · exact kept (by simp) _
        · exact fun _ => Or.inr (Or.inr (mem_set_self found _))
      | notifying => exact fun waiting => absurd waiting (notifyAll_awake s)
      | termEventDispatcher =>
        simp only [callerStep]
        split
        · exact kept (by simp) _
        · exact kept (by simp) _
      | termNotifying => exact fun waiting => absurd waiting (notifyAll_awake s)
      | termJoining =>
        simp only [callerStep]
        split
        · exact kept (by simp) _
        · exact kept (by simp) _
      | termClearing =>
        simp only [callerStep, underMutex]
        split
        · exact kept (by simp) _
        · exact fun _ => Or.inr (Or.inl rfl)
      | returned => exact kept (by simp) _
    · intro other member ending
      rcases List.mem_or_eq_of_mem_set member with old | new
      · exact callerStep_stopped (noticed.ended other old ending) caller
      · have before := noticed.ended caller (List.mem_of_getElem? found)
        exact callerStep_ended before (new ▸ ending)

theorem noticed_step (noticed : Noticed s) (action : Action) : Noticed (step action s) := by
  cases action with
  | call call =>
    have fresh : ∀ caller ∈ s.callers ++ [call.start],
        caller = .termNotifying ∨ caller = .termJoining → caller ∈ s.callers := by
      intro caller member ending
      rcases List.mem_append.mp member with old | new
      · exact old
      · rw [List.mem_singleton.mp new] at ending
        cases call <;> simp [Call.start] at ending
    constructor
    · intro waiting
      rcases noticed.work waiting with held | empty | notifying
      · exact Or.inl held
      · exact Or.inr (Or.inl empty)
      · exact Or.inr (Or.inr (List.mem_append_left _ notifying))
    · exact fun caller member ending => noticed.ended caller (fresh caller member ending) ending
  | caller thread => exact noticed_caller noticed thread
  | dispatcher now => exact noticed_dispatcher noticed now
  | spuriousWakeUp =>
    have awake := notifyAll_awake s
    obtain ⟨dispatcher, same, -⟩ := notifyAll_eq s
    simp only [step, same] at awake ⊢
    exact ⟨fun waiting => absurd waiting awake, noticed.ended⟩

/-- A caller lets the dispatcher be, or notifies it. -/
theorem callerStep_dispatcher (caller : Caller) (s : Dispatcher) :
    (callerStep caller s).2.dispatcher = s.dispatcher ∨
      (callerStep caller s).2.dispatcher = .locking := by
  have notified : (notifyAll s).dispatcher = s.dispatcher ∨ (notifyAll s).dispatcher = .locking := by
    obtain ⟨dispatcher, same, either⟩ := notifyAll_eq s
    rw [same]
    exact either
  cases caller with
  | notifying | termNotifying => exact notified
  | returned => exact Or.inl rfl
  | _ =>
    simp only [callerStep, underMutex]
    split <;> exact Or.inl rfl

/-- The flag is unset in one step, which leaves a notification to come. -/
theorem callerStep_running (set : s.dispatchRunning = true) (caller : Caller) :
    (callerStep caller s).2.dispatchRunning = true ∨
      (callerStep caller s).1 = .termNotifying := by
  have notified : (notifyAll s).dispatchRunning = true := by
    obtain ⟨dispatcher, same, -⟩ := notifyAll_eq s
    rw [same]
    exact set
  cases caller with
  | notifying | termNotifying => exact Or.inl notified
  | returned => exact Or.inl set
  | termEventDispatcher =>
    simp only [callerStep, set, if_true]
    exact Or.inr trivial
  | _ =>
    simp only [callerStep, underMutex]
    split <;> exact Or.inl set

/-- While the dispatcher has the mutex, a caller changes neither the holds nor the queue. -/
theorem callerStep_locked (locks : s.dispatcher.locks) (caller : Caller) :
    (callerStep caller s).2.dispatchHolds = s.dispatchHolds ∧
      (callerStep caller s).2.pendingEvents = s.pendingEvents := by
  have notified : (notifyAll s).dispatchHolds = s.dispatchHolds ∧
      (notifyAll s).pendingEvents = s.pendingEvents := by
    obtain ⟨dispatcher, same, -⟩ := notifyAll_eq s
    rw [same]
    exact ⟨rfl, rfl⟩
  cases caller with
  | notifying | termNotifying => exact notified
  | returned => exact ⟨rfl, rfl⟩
  | termEventDispatcher | termJoining =>
    simp only [callerStep]
    split <;> exact ⟨rfl, rfl⟩
  | scheduleEvent ev | dispatchHold | holding | termClearing =>
    simp only [callerStep, underMutex, locks, if_true, and_self]

theorem boundToWait_before {after : List Caller}
    (same : (callerStep caller s).2.dispatcher = s.dispatcher)
    (bound : BoundToWait { (callerStep caller s).2 with callers := after }) : BoundToWait s := by
  have locks : s.dispatcher.locks := by
    rcases bound with ⟨tested, -⟩ | ⟨extracting, -⟩
    · rw [same.symm.trans tested]
      rfl
    · rw [same.symm.trans extracting]
      rfl
  obtain ⟨holds, events⟩ := callerStep_locked locks caller
  simpa only [BoundToWait, same, holds, events] using bound

/-- Unless `TermEventDispatcher` notifies too early, the dispatcher is told. -/
theorem told_caller (told : Told s) (thread : Nat) (inTime : NotifiesInTime (.caller thread) s) :
    Told (step (.caller thread) s) := by
  cases found : s.callers[thread]? with
  | none =>
    simp only [step, found]
    exact told
  | some caller =>
    rw [step_caller found]
    intro past
    rcases callerStep_dispatcher caller s with same | locking
    · have before : BoundToWait s ∨ s.dispatcher = .waiting :=
        past.imp (boundToWait_before same) (fun waiting => same.symm.trans waiting)
      by_cases notifies : caller = .termNotifying
      · subst notifies
        have awake : s.dispatcher ≠ .waiting := same ▸ notifyAll_awake s
        exact absurd (before.resolve_right awake) (inTime thread rfl found)
      · rcases told before with set | notifying
        · rcases callerStep_running set caller with still | unset
          · exact Or.inl still
          · exact Or.inr (unset ▸ mem_set_self found _)
        · exact Or.inr (mem_set_other found notifying (Ne.symm notifies) _)
    · simp [BoundToWait, locking] at past

theorem told_step (told : Told s) (action : Action) (inTime : NotifiesInTime action s) :
    Told (step action s) := by
  cases action with
  | call call =>
    intro past
    exact (told past).imp_right (List.mem_append_left _)
  | caller thread => exact told_caller told thread inTime
  | dispatcher now => exact told_dispatcher told now
  | spuriousWakeUp =>
    obtain ⟨dispatcher, same, either⟩ := notifyAll_eq s
    simp only [step, same]
    intro past
    rcases either with rfl | rfl
    · exact told past
    · simp [BoundToWait] at past

/-! ## The join -/

/-- The threads that are there can bring the dispatcher to its end while one of them joins it. -/
def Ends (thread : Nat) (s : Dispatcher) : Prop :=
  ∃ later : List Action, later.all (·.continues) ∧
    (Runs.run step later s).callers[thread]? = some .termClearing

theorem Ends.before (action : Action) (continues : action.continues)
    (ends : Ends thread (step action s)) : Ends thread s := by
  obtain ⟨later, all, clearing⟩ := ends
  exact ⟨action :: later, by simp [continues, all], clearing⟩

/-- A thread joins a dispatcher that was told to stop. -/
structure Joined (thread : Nat) (s : Dispatcher) : Prop where
  joining : s.callers[thread]? = some .termJoining
  stopped : s.dispatchRunning = false

theorem Joined.dispatcher (joined : Joined thread s) (now : Int) :
    Joined thread (eventDispatcherThreadMain now s) := by
  obtain ⟨joining, stopped⟩ := joined
  simp only [eventDispatcherThreadMain]
  repeat' split
  all_goals exact ⟨joining, stopped⟩

theorem ends_finished (joined : Joined thread s) (finished : s.dispatcher = .finished) :
    Ends thread s := by
  refine ⟨[.caller thread], rfl, ?_⟩
  obtain ⟨inRange, -⟩ := List.getElem?_eq_some_iff.mp joined.joining
  simp only [Runs.run_cons, Runs.run_nil, step_caller joined.joining, callerStep, finished, if_true]
  exact List.getElem?_set_self inRange

theorem ends_looping (joined : Joined thread s) (looping : s.dispatcher = .looping) :
    Ends thread s := by
  apply Ends.before (.dispatcher 0) rfl
  apply ends_finished (joined.dispatcher 0)
  simp [eventDispatcherThreadMain, looping, joined.stopped]

theorem ends_locking (joined : Joined thread s) (locking : s.dispatcher = .locking) :
    Ends thread s := by
  apply Ends.before (.dispatcher 0) rfl
  apply ends_looping (joined.dispatcher 0)
  simp [eventDispatcherThreadMain, locking]

theorem ends_waitingUntil (joined : Joined thread s) (until_ : s.dispatcher = .waitingUntil) :
    Ends thread s := by
  apply Ends.before (.dispatcher 0) rfl
  apply ends_locking (joined.dispatcher 0)
  simp [eventDispatcherThreadMain, until_]

theorem ends_firing {ready : List ScheduledEvent} (joined : Joined thread s)
    (firing : s.dispatcher = .firing ready) : Ends thread s := by
  induction ready generalizing s with
  | nil =>
    apply Ends.before (.dispatcher 0) rfl
    apply ends_locking (joined.dispatcher 0)
    simp [eventDispatcherThreadMain, firing]
  | cons ev ready ih =>
    apply Ends.before (.dispatcher 0) rfl
    apply ih (joined.dispatcher 0)
    simp [eventDispatcherThreadMain, firing]

/-- The notification that is to come ends the wait. -/
theorem ends_waiting (joined : Joined thread s) (notifying : .termNotifying ∈ s.callers)
    (waiting : s.dispatcher = .waiting) : Ends thread s := by
  obtain ⟨other, found⟩ := List.mem_iff_getElem?.mp notifying
  have apart : other ≠ thread := by
    rintro rfl
    simp [joined.joining] at found
  apply Ends.before (.caller other) rfl
  rw [step_caller found]
  simp only [callerStep, notifyAll, waiting]
  apply ends_locking
  · constructor
    · exact (List.getElem?_set_ne apart).trans joined.joining
    · exact joined.stopped
  · rfl

theorem ends_extracting (joined : Joined thread s) (extracting : s.dispatcher = .extracting)
    (notifying : s.pendingEvents = [] → .termNotifying ∈ s.callers) : Ends thread s := by
  apply Ends.before (.dispatcher 0) rfl
  have joined' := joined.dispatcher 0
  simp only [step]
  simp only [eventDispatcherThreadMain, extracting] at joined' ⊢
  split at joined'
  · rename_i some'
    rw [if_pos some']
    exact ends_firing joined' rfl
  · rename_i none
    rw [if_neg none]
    split at joined'
    · rename_i nothing
      rw [if_pos nothing]
      have empty := extracted_nothing (Decidable.not_not.mp none) nothing
      exact ends_waiting joined' (notifying empty) rfl
    · rename_i later
      rw [if_neg later]
      exact ends_waitingUntil joined' rfl

theorem ends_tested (joined : Joined thread s) (tested : s.dispatcher = .tested)
    (notifying : s.dispatchHolds > 0 ∨ s.pendingEvents = [] → .termNotifying ∈ s.callers) :
    Ends thread s := by
  apply Ends.before (.dispatcher 0) rfl
  by_cases held : s.dispatchHolds > 0
  · have waits : step (.dispatcher 0) s = { s with dispatcher := .waiting } := by
      simp [step, eventDispatcherThreadMain, tested, held]
    rw [waits]
    exact ends_waiting ⟨joined.joining, joined.stopped⟩ (notifying (Or.inl held)) rfl
  · have extracts : step (.dispatcher 0) s = { s with dispatcher := .extracting } := by
      simp [step, eventDispatcherThreadMain, tested, held]
    rw [extracts]
    exact ends_extracting ⟨joined.joining, joined.stopped⟩ rfl
      (fun empty => notifying (Or.inr empty))

theorem Told.ends (told : Told s) (joined : Joined thread s) : Ends thread s := by
  have notifying (past : BoundToWait s ∨ s.dispatcher = .waiting) :
      Caller.termNotifying ∈ s.callers :=
    (told past).resolve_left (by simp [joined.stopped])
  cases at_ : s.dispatcher with
  | locking => exact ends_locking joined at_
  | looping => exact ends_looping joined at_
  | tested => exact ends_tested joined at_ (fun bound => notifying (Or.inl (Or.inl ⟨at_, bound⟩)))
  | extracting =>
    exact ends_extracting joined at_ (fun empty => notifying (Or.inl (Or.inr ⟨at_, empty⟩)))
  | firing ready => exact ends_firing joined at_
  | waiting => exact ends_waiting joined (notifying (Or.inr at_)) at_
  | waitingUntil => exact ends_waitingUntil joined at_
  | finished => exact ends_finished joined at_

end Steps

/-! ## Runs -/

theorem noticed_start : Noticed {} where
  work waiting := by simp at waiting
  ended caller member := by simp at member

theorem told_start : Told {} := by simp [Told, BoundToWait]

theorem Noticed.workDone {s : Dispatcher} (noticed : Noticed s) (waiting : s.dispatcher = .waiting)
    (quiet : ¬ Outstanding s) (free : s.dispatchHolds = 0) : s.pendingEvents = [] := by
  rcases noticed.work waiting with held | empty | notifying
  · omega
  · exact empty
  · exact absurd (Or.inl notifying) quiet

/-- Work alone is never slept through, whenever `TermEventDispatcher` notifies. -/
theorem work_never_slept_through (actions : List Action) :
    Runs.Throughout step
      (fun s => s.dispatcher = .waiting → ¬ Outstanding s → s.dispatchHolds = 0 →
        s.pendingEvents = [])
      (fun _ _ _ => True) actions {} := by
  have start : Noticed {} := noticed_start
  refine Runs.throughout_of_admitted ?_ ?_ start
    (Runs.admitted_always (fun _ _ => trivial) actions _)
  · exact fun s noticed => noticed.workDone
  · exact fun action s noticed _ => ⟨noticed_step noticed action, trivial⟩

theorem dispatcher_never_sleeps_through (actions : List Action)
    (inTime : Runs.Admitted step NotifiesInTime actions {}) :
    Runs.Throughout step Wakeful (fun _ _ _ => True) actions {} := by
  let Inv (s : Dispatcher) : Prop := Noticed s ∧ Told s
  have start : Inv {} := ⟨noticed_start, told_start⟩
  refine Runs.throughout_of_admitted ?_ ?_ start inTime
  · rintro s ⟨noticed, told⟩
    constructor
    · exact noticed.workDone
    · intro waiting quiet
      rcases told (Or.inr waiting) with set | notifying
      · exact set
      · exact absurd (Or.inr notifying) quiet
    · intro thread joining
      have stopped := noticed.ended _ (List.mem_of_getElem? joining) (Or.inr rfl)
      exact told.ends ⟨joining, stopped⟩
  · rintro action s ⟨noticed, told⟩ admitted
    exact ⟨⟨noticed_step noticed action, told_step told action admitted⟩, trivial⟩

instance (s : Dispatcher) : Decidable (BoundToWait s) :=
  inferInstanceAs (Decidable (_ ∧ (_ ∨ _) ∨ _ ∧ _))

instance NotifiesInTime.decidable : ∀ (action : Action) (s : Dispatcher),
    Decidable (NotifiesInTime action s)
  | .caller thread, s =>
    decidable_of_iff (s.callers[thread]? = some .termNotifying → ¬ BoundToWait s)
      ⟨fun inTime _ same => Action.caller.inj same ▸ inTime, fun inTime => inTime thread rfl⟩
  | .call _, _ | .dispatcher _, _ | .spuriousWakeUp, _ => isTrue (fun _ other => by cases other)

/-- An event is scheduled under a hold and fired after it; then the dispatcher is stopped. -/
def stoppedRun : List Action :=
  [.call .dispatchHold, .caller 0, .dispatcher 0, .dispatcher 0, .dispatcher 0,
    .call (.scheduleEvent ⟨1, 10⟩), .caller 1, .caller 1, .caller 0, .caller 0,
    .dispatcher 20, .dispatcher 20, .dispatcher 20, .dispatcher 20, .dispatcher 20,
    .dispatcher 20, .dispatcher 20, .dispatcher 20, .dispatcher 20, .dispatcher 20,
    .call .termEventDispatcher, .caller 2, .caller 2, .dispatcher 30, .dispatcher 30,
    .caller 2, .caller 2]

theorem stoppedRun_wakes :
    Runs.Throughout step Wakeful (fun _ _ _ => True) stoppedRun {} :=
  dispatcher_never_sleeps_through stoppedRun (by decide)

example : (Runs.run step stoppedRun {}).dispatcher = .finished ∧
    (Runs.run step stoppedRun {}).fired = [⟨1, 10⟩] ∧
    (Runs.run step stoppedRun {}).callers = [.returned, .returned, .returned] := by
  decide

/-- The flag is unset and notified between the test and the wait. -/
def missedRun : List Action :=
  [.dispatcher 0, .dispatcher 0, .call .termEventDispatcher, .caller 0, .caller 0,
    .dispatcher 0, .dispatcher 0]

theorem missedRun_sleeps :
    ¬ Runs.Throughout step Wakeful (fun _ _ _ => True) missedRun {} := by
  intro holds
  rw [← List.append_nil missedRun] at holds
  have slept : Wakeful (Runs.run step missedRun {}) := holds.last
  have callers : (Runs.run step missedRun {}).callers = [.termJoining] := by decide
  have running := slept.running (by decide) (by simp [Outstanding, callers])
  exact absurd running (by decide)

end Matching2Dispatcher
