import ShadNet.DueQueue
import ShadNet.Matching2.Dispatcher

/-!
# What the event dispatcher delivers

A run is followed with the list of the events that were put into the queue. The events that were
fired, those of the batch in hand and those still queued are these events, each once.
-/

namespace Matching2Dispatcher

open DueQueue

/-! ## Schedulings -/

/-- An event that was put into the queue, and the threads whose holds were active then. -/
structure Scheduling where
  ev : ScheduledEvent
  holds : List Nat
  deriving DecidableEq, Repr

def holding (s : Dispatcher) : List Nat :=
  (List.range s.callers.length).filter (fun thread => s.callers[thread]? = some .holding)

/-- What a step puts into the queue. -/
def scheduledBy (action : Action) (s : Dispatcher) : List Scheduling :=
  match action with
  | .caller thread =>
    match s.callers[thread]? with
    | some (.scheduleEvent ev) => if s.dispatcher.locks then [] else [⟨ev, holding s⟩]
    | _ => []
  | _ => []

def schedulings : List Action → Dispatcher → List Scheduling
  | [], _ => []
  | action :: actions, s => scheduledBy action s ++ schedulings actions (step action s)

/-- The events that were taken out of the queue and are not fired yet. -/
def DispatcherAt.batch : DispatcherAt → List ScheduledEvent
  | .firing ready => ready
  | _ => []

def scheduling (log : List Scheduling) (i : Nat) : Scheduling := log.getD i ⟨⟨0, 0⟩, []⟩

def eventOf (log : List Scheduling) (i : Nat) : ScheduledEvent := (scheduling log i).ev

def dueAt (log : List Scheduling) (i : Nat) : Int := (eventOf log i).fireAt

/-- The hold of a thread is over. -/
def Released (thread : Nat) (s : Dispatcher) : Prop :=
  s.callers[thread]? = some .notifying ∨ s.callers[thread]? = some .returned

/-- The numbers of the events that were fired, that are in hand and that are queued. -/
structure Deliveries (log : List Scheduling) (done inHand queued : List Nat) (s : Dispatcher) :
    Prop where
  once : (done ++ inHand ++ queued).Perm (List.range log.length)
  fired : done.map (eventOf log) = s.fired
  batch : inHand.map (eventOf log) = s.dispatcher.batch
  pending : queued.map (eventOf log) = s.pendingEvents
  held : ∀ i ∈ done, ∀ thread ∈ (scheduling log i).holds, Released thread s
  order : ∀ i j : Nat, i < j → dueAt log i ≤ dueAt log j → j ∈ done → List.Sublist [i, j] done

/-- Every event is fired once at most, after the holds and the events it must wait for, and a
batch in hand will be fired. -/
structure DeliversAll (log : List Scheduling) (s : Dispatcher) : Prop where
  deliveries : ∃ done inHand queued, Deliveries log done inHand queued s
  batch : ∀ now,
    (Runs.run step (List.replicate s.dispatcher.batch.length (.dispatcher now)) s).fired =
      s.fired ++ s.dispatcher.batch

/-! ## The invariant -/

/-- A call that `TermEventDispatcher` does not make. -/
def Caller.plain : Caller → Bool
  | .termEventDispatcher | .termNotifying | .termJoining | .termClearing => false
  | _ => true

/-- The invariant: `out` are the numbers of the events taken out of the queue. -/
structure Tracks (log : List Scheduling) (out queue : List Nat) (s : Dispatcher) : Prop where
  once : (out ++ queue).Perm (List.range log.length)
  taken : out.map (eventOf log) = s.fired ++ s.dispatcher.batch
  pending : queue.map (eventOf log) = s.pendingEvents
  sorted : queue.Pairwise (· < ·)
  turn : InTurn (dueAt log) (out ++ queue)
  released : ∀ i ∈ out, ∀ thread ∈ (scheduling log i).holds, Released thread s
  known : ∀ i ∈ queue, ∀ thread ∈ (scheduling log i).holds,
    s.callers[thread]? = some .holding ∨ Released thread s
  holds : s.dispatchHolds = s.callers.countP (· = .holding)
  free : s.dispatcher = .extracting → s.dispatchHolds = 0
  plain : ∀ caller ∈ s.callers, caller.plain = true

/-- Holds end and do not begin again. -/
def Keeps (s s' : Dispatcher) : Prop :=
  ∀ thread : Nat, (s.callers[thread]? = some .holding →
      s'.callers[thread]? = some .holding ∨ Released thread s') ∧
    (Released thread s → Released thread s')

section Steps

variable {log : List Scheduling} {out queue : List Nat} {s s' : Dispatcher} {thread : Nat}
  {caller after : Caller} {now : Int}

theorem Keeps.of_same (same : s'.callers = s.callers) : Keeps s s' := by
  intro thread
  rw [Released, Released, same]
  exact ⟨Or.inl, id⟩

/-- A step that leaves the queue and the batch alone. -/
theorem Tracks.frame (tracks : Tracks log out queue s)
    (taken : s'.fired ++ s'.dispatcher.batch = s.fired ++ s.dispatcher.batch)
    (pending : s'.pendingEvents = s.pendingEvents) (keeps : Keeps s s')
    (holds : s'.dispatchHolds = s'.callers.countP (· = .holding))
    (free : s'.dispatcher = .extracting → s'.dispatchHolds = 0)
    (plain : ∀ caller ∈ s'.callers, caller.plain = true) : Tracks log out queue s' where
  once := tracks.once
  taken := tracks.taken.trans taken.symm
  pending := tracks.pending.trans pending.symm
  sorted := tracks.sorted
  turn := tracks.turn
  released i member thread held := (keeps thread).2 (tracks.released i member thread held)
  known i member thread held :=
    (tracks.known i member thread held).elim (keeps thread).1
      (fun released => Or.inr ((keeps thread).2 released))
  holds := holds
  free := free
  plain := plain

/-- A step of the dispatcher that takes nothing out of the queue. -/
theorem Tracks.moves (tracks : Tracks log out queue s) {dispatcher : DispatcherAt}
    (batch : dispatcher.batch = s.dispatcher.batch)
    (free : dispatcher = .extracting → s.dispatchHolds = 0) :
    Tracks log out queue { s with dispatcher } :=
  tracks.frame (by rw [batch]) rfl (Keeps.of_same rfl) tracks.holds free tracks.plain

theorem eventOf_filter (log : List Scheduling) (p : ScheduledEvent → Bool) (queue : List Nat) :
    (queue.map (eventOf log)).filter p = (queue.filter (fun i => p (eventOf log i))).map
      (eventOf log) :=
  List.filter_map

theorem not_holding (tracks : Tracks log out queue s) (free : s.dispatchHolds = 0) :
    s.callers[thread]? ≠ some .holding := by
  intro held
  have none_ := tracks.holds
  rw [free] at none_
  have counted := List.countP_eq_zero.mp none_.symm _ (List.mem_of_getElem? held)
  simp at counted

/-- Nothing is held while the queue is searched, so all holds of what is taken are over. -/
theorem Tracks.extract (tracks : Tracks log out queue s) (extracting : s.dispatcher = .extracting)
    (now : Int) : Tracks log (out ++ queue.filter (fun i => dueAt log i ≤ now))
      (queue.filter (fun i => ¬dueAt log i ≤ now))
      { s with
        pendingEvents := s.pendingEvents.filter (fun ev => ¬ev.fireAt ≤ now)
        dispatcher := .firing (s.pendingEvents.filter (fun ev => ev.fireAt ≤ now)) } where
  once := (perm_extract now).trans tracks.once
  taken := by
    have before : out.map (eventOf log) = s.fired := by
      rw [tracks.taken, extracting]
      exact List.append_nil _
    have ready := eventOf_filter log (fun ev => ev.fireAt ≤ now) queue
    rw [tracks.pending] at ready
    rw [List.map_append, before, DispatcherAt.batch, ready]
    rfl
  pending := by
    have later := eventOf_filter log (fun ev => ¬ev.fireAt ≤ now) queue
    rw [tracks.pending] at later
    rw [later]
    rfl
  sorted := tracks.sorted.sublist List.filter_sublist
  turn := tracks.turn.extract tracks.sorted now
  released i member thread held := by
    rcases List.mem_append.mp member with old | ready
    · exact tracks.released i old thread held
    · exact (tracks.known i (List.mem_of_mem_filter ready) thread held).resolve_left
        (not_holding tracks (tracks.free extracting))
  known i member thread held := tracks.known i (List.mem_of_mem_filter member) thread held
  holds := tracks.holds
  free still := by cases still
  plain := tracks.plain

theorem tracks_dispatcher (tracks : Tracks log out queue s) (now : Int) :
    ∃ out queue, Tracks log out queue (eventDispatcherThreadMain now s) := by
  unfold eventDispatcherThreadMain
  split
  · next at_ => exact ⟨out, queue, tracks.moves (by rw [at_]; rfl) (by simp)⟩
  · next at_ =>
    split
    · exact ⟨out, queue, tracks.moves (by rw [at_]; rfl) (by simp)⟩
    · exact ⟨out, queue, tracks.moves (by rw [at_]; rfl) (by simp)⟩
  · next at_ =>
    split
    · exact ⟨out, queue, tracks.moves (by rw [at_]; rfl) (by simp)⟩
    · exact ⟨out, queue, tracks.moves (by rw [at_]; rfl) (fun _ => by omega)⟩
  · next at_ =>
    dsimp only
    split
    · exact ⟨_, _, tracks.extract at_ now⟩
    · split
      · exact ⟨out, queue, tracks.moves (by rw [at_]; rfl) (by simp)⟩
      · exact ⟨out, queue, tracks.moves (by rw [at_]; rfl) (by simp)⟩
  · next ev ready at_ =>
    refine ⟨out, queue, tracks.frame ?_ rfl (Keeps.of_same rfl) tracks.holds (by simp)
      tracks.plain⟩
    simp [at_, DispatcherAt.batch]
  · next at_ => exact ⟨out, queue, tracks.moves (by rw [at_]; rfl) (by simp)⟩
  · exact ⟨out, queue, tracks⟩
  · next at_ => exact ⟨out, queue, tracks.moves (by rw [at_]; rfl) (by simp)⟩
  · exact ⟨out, queue, tracks⟩

/-! ## Callers -/

theorem notifyAll_batch (s : Dispatcher) :
    (notifyAll s).dispatcher.batch = s.dispatcher.batch ∧
      ((notifyAll s).dispatcher = .extracting → s.dispatcher = .extracting) := by
  unfold notifyAll
  split
  · next at_ => exact ⟨by rw [at_]; rfl, by simp⟩
  · next at_ => exact ⟨by rw [at_]; rfl, by simp⟩
  · exact ⟨rfl, id⟩

theorem tracks_notifyAll (tracks : Tracks log out queue s) :
    Tracks log out queue (notifyAll s) := by
  obtain ⟨batch, extracting⟩ := notifyAll_batch s
  obtain ⟨dispatcher, same, -⟩ := notifyAll_eq s
  rw [same] at batch extracting ⊢
  exact tracks.moves batch (fun at_ => tracks.free (extracting at_))

/-- What may become of a caller: a hold ends, and what has returned stays so. -/
def Follows (caller after : Caller) : Prop :=
  (caller = .holding → after = .holding ∨ after = .notifying) ∧
    (caller = .notifying ∨ caller = .returned → after = .notifying ∨ after = .returned)

theorem keeps_set (found : s.callers[thread]? = some caller) (follows : Follows caller after)
    (callers : s'.callers = s.callers.set thread after) : Keeps s s' := by
  obtain ⟨inRange, -⟩ := List.getElem?_eq_some_iff.mp found
  intro other
  rw [Released, Released, callers]
  by_cases same : thread = other
  · subst same
    rw [List.getElem?_set_self inRange, found]
    constructor
    · intro held
      exact (follows.1 (Option.some.inj held)).imp (congrArg some)
        (fun ended => Or.inl (congrArg some ended))
    · intro ended
      exact (follows.2 (ended.imp Option.some.inj Option.some.inj)).imp (congrArg some)
        (congrArg some)
  · rw [List.getElem?_set_ne same]
    exact ⟨Or.inl, id⟩

theorem plain_set (tracks : Tracks log out queue s) (plain : after.plain = true) :
    ∀ other ∈ s.callers.set thread after, other.plain = true := by
  intro other member
  rcases List.mem_or_eq_of_mem_set member with old | rfl
  · exact tracks.plain other old
  · exact plain

theorem count_set (after : Caller) (found : s.callers[thread]? = some caller) :
    (s.callers.set thread after).countP (· = .holding) + (if caller = .holding then 1 else 0) =
      s.callers.countP (· = .holding) + (if after = .holding then 1 else 0) := by
  obtain ⟨inRange, there⟩ := List.getElem?_eq_some_iff.mp found
  have member : caller ∈ s.callers := List.mem_of_getElem? found
  rw [List.countP_set inRange, there]
  by_cases held : caller = .holding
  · have positive : 0 < s.callers.countP (· = .holding) :=
      List.countP_pos_iff.mpr ⟨caller, member, by simpa using held⟩
    simp only [held, decide_true, if_true]
    by_cases holds : after = .holding
    · simp only [holds, decide_true, if_true]
      omega
    · simp only [holds, decide_false, Bool.false_eq_true, if_false]
      omega
  · simp only [held, decide_false, Bool.false_eq_true, if_false]
    by_cases holds : after = .holding
    · simp only [holds, decide_true, if_true]
      omega
    · simp only [holds, decide_false, Bool.false_eq_true, if_false]
      omega

/-- A caller that schedules nothing. -/
theorem tracks_set (tracks : Tracks log out queue s) (found : s.callers[thread]? = some caller)
    {t : Dispatcher} (follows : Follows caller after) (plain : after.plain = true)
    (same : Tracks log out queue { t with callers := s.callers, dispatchHolds := s.dispatchHolds })
    (holds : t.dispatchHolds + (if caller = .holding then 1 else 0) =
      s.dispatchHolds + (if after = .holding then 1 else 0))
    (free : t.dispatcher = .extracting → t.dispatchHolds = s.dispatchHolds) :
    Tracks log out queue { t with callers := s.callers.set thread after } := by
  have counted := count_set after found
  have before := tracks.holds
  refine same.frame rfl rfl (keeps_set found follows rfl) ?_ ?_ (plain_set tracks plain)
  · dsimp only
    omega
  · intro extracting
    have none_ := same.free extracting
    dsimp only at none_ extracting ⊢
    rw [free extracting, none_]

/-! ## Scheduling -/

theorem scheduling_concat {entry : Scheduling} {i : Nat} (old : i < log.length) :
    scheduling (log ++ [entry]) i = scheduling log i := by
  rw [scheduling, scheduling, List.getD_eq_getElem?_getD, List.getD_eq_getElem?_getD,
    List.getElem?_append_left old]

theorem scheduling_last {entry : Scheduling} :
    scheduling (log ++ [entry]) log.length = entry := by
  rw [scheduling, List.getD_eq_getElem?_getD, List.getElem?_append_right (Nat.le_refl _)]
  simp

theorem Tracks.known_number (tracks : Tracks log out queue s) {i : Nat}
    (member : i ∈ out ++ queue) : i < log.length :=
  List.mem_range.mp (tracks.once.subset member)

theorem map_eventOf_concat {entry : Scheduling} {numbers : List Nat}
    (old : ∀ i ∈ numbers, i < log.length) :
    numbers.map (eventOf (log ++ [entry])) = numbers.map (eventOf log) := by
  refine List.map_congr_left fun i member => ?_
  rw [eventOf, eventOf, scheduling_concat (old i member)]

theorem mem_holding {thread : Nat} (member : thread ∈ holding s) :
    s.callers[thread]? = some .holding := by
  simpa using (List.mem_filter.mp member).2

theorem Tracks.schedule (tracks : Tracks log out queue s) {ev : ScheduledEvent}
    (found : s.callers[thread]? = some (.scheduleEvent ev)) :
    Tracks (log ++ [⟨ev, holding s⟩]) out (queue ++ [log.length])
      { s with
        pendingEvents := s.pendingEvents ++ [ev]
        callers := s.callers.set thread .notifying } := by
  have outOld : ∀ i ∈ out, i < log.length :=
    fun i member => tracks.known_number (List.mem_append_left _ member)
  have queueOld : ∀ i ∈ queue, i < log.length :=
    fun i member => tracks.known_number (List.mem_append_right _ member)
  have keeps : Keeps s { s with
      pendingEvents := s.pendingEvents ++ [ev]
      callers := s.callers.set thread .notifying } :=
    keeps_set found (by simp [Follows]) rfl
  have counted := count_set .notifying found
  constructor
  case once =>
    rw [← List.append_assoc, List.length_append, List.length_singleton, List.range_succ]
    exact tracks.once.append_right _
  case taken =>
    rw [map_eventOf_concat outOld]
    exact tracks.taken
  case pending =>
    rw [List.map_append, map_eventOf_concat queueOld, tracks.pending, List.map_singleton, eventOf,
      scheduling_last]
  case sorted =>
    refine List.pairwise_append.mpr ⟨tracks.sorted, List.pairwise_singleton _ _, ?_⟩
    intro i member j last
    rw [List.mem_singleton.mp last]
    exact queueOld i member
  case turn =>
    rw [← List.append_assoc]
    refine InTurn.concat (tracks.turn.congr fun i member => ?_)
      (fun i member => tracks.known_number member)
    rw [dueAt, dueAt, eventOf, eventOf, scheduling_concat (tracks.known_number member)]
  case released =>
    intro i member thread held
    rw [scheduling_concat (outOld i member)] at held
    exact (keeps thread).2 (tracks.released i member thread held)
  case known =>
    intro i member thread held
    rcases List.mem_append.mp member with old | last
    · rw [scheduling_concat (queueOld i old)] at held
      exact (tracks.known i old thread held).elim (keeps thread).1
        (fun released => Or.inr ((keeps thread).2 released))
    · rw [List.mem_singleton.mp last, scheduling_last] at held
      exact (keeps thread).1 (mem_holding held)
  case holds =>
    have before := tracks.holds
    simp only [reduceCtorEq, if_false] at counted
    dsimp only
    omega
  case free => exact tracks.free
  case plain => exact plain_set tracks rfl

theorem tracks_caller (tracks : Tracks log out queue s) (thread : Nat) :
    ∃ out queue, Tracks (log ++ scheduledBy (.caller thread) s) out queue
      (step (.caller thread) s) := by
  cases found : s.callers[thread]? with
  | none =>
    simp only [scheduledBy, step, found, List.append_nil]
    exact ⟨out, queue, tracks⟩
  | some caller =>
    have plain := tracks.plain caller (List.mem_of_getElem? found)
    have stays : s.callers.set thread caller = s.callers := set_same found
    rw [step_caller found]
    simp only [scheduledBy, found]
    cases caller with
    | scheduleEvent ev =>
      simp only [callerStep, underMutex]
      cases locked : s.dispatcher.locks with
      | true =>
        simp only [if_true, stays, List.append_nil]
        exact ⟨out, queue, tracks⟩
      | false =>
        simp only [Bool.false_eq_true, if_false]
        exact ⟨_, _, tracks.schedule found⟩
    | dispatchHold =>
      simp only [callerStep, underMutex, List.append_nil]
      cases locked : s.dispatcher.locks with
      | true =>
        simp only [if_true, stays]
        exact ⟨out, queue, tracks⟩
      | false =>
        simp only [Bool.false_eq_true, if_false]
        refine ⟨out, queue, tracks_set (t := { s with dispatchHolds := s.dispatchHolds + 1 }) tracks
          found (by simp [Follows]) rfl tracks (by simp) ?_⟩
        intro extracting
        rw [extracting] at locked
        cases locked
    | holding =>
      simp only [callerStep, underMutex, List.append_nil]
      cases locked : s.dispatcher.locks with
      | true =>
        simp only [if_true, stays]
        exact ⟨out, queue, tracks⟩
      | false =>
        simp only [Bool.false_eq_true, if_false]
        have positive : 0 < s.dispatchHolds := by
          rw [tracks.holds]
          exact List.countP_pos_iff.mpr ⟨_, List.mem_of_getElem? found, by simp⟩
        refine ⟨out, queue, tracks_set (t := { s with dispatchHolds := s.dispatchHolds - 1 }) tracks
          found (by simp [Follows]) rfl tracks (by simp; omega) ?_⟩
        intro extracting
        rw [extracting] at locked
        cases locked
    | notifying =>
      simp only [callerStep, List.append_nil]
      obtain ⟨dispatcher, same, -⟩ := notifyAll_eq s
      have notified := tracks_notifyAll tracks
      rw [same] at notified ⊢
      exact ⟨out, queue, tracks_set tracks found (by simp [Follows]) rfl notified (by simp)
        (fun _ => rfl)⟩
    | returned =>
      simp only [callerStep, stays, List.append_nil]
      exact ⟨out, queue, tracks⟩
    | termEventDispatcher => cases plain
    | termNotifying => cases plain
    | termJoining => cases plain
    | termClearing => cases plain

/-! ## Runs -/

theorem tracks_call (tracks : Tracks log out queue s) {call : Call}
    (other : call ≠ .termEventDispatcher) : Tracks log out queue (step (.call call) s) := by
  have started : call.start ≠ .holding ∧ call.start.plain = true := by
    cases call with
    | scheduleEvent ev => exact ⟨by simp [Call.start], rfl⟩
    | dispatchHold => exact ⟨by simp [Call.start], rfl⟩
    | termEventDispatcher => exact absurd rfl other
  refine tracks.frame rfl rfl ?_ ?_ tracks.free ?_
  · intro thread
    have old {caller : Caller} (found : s.callers[thread]? = some caller) :
        (s.callers ++ [call.start])[thread]? = some caller := by
      obtain ⟨inRange, -⟩ := List.getElem?_eq_some_iff.mp found
      rw [List.getElem?_append_left inRange, found]
    exact ⟨fun held => Or.inl (old held), fun ended => ended.imp old old⟩
  · have counted : [call.start].countP (· = .holding) = 0 := by simp [started.1]
    simp only [step, List.countP_append, counted, Nat.add_zero]
    exact tracks.holds
  · intro caller member
    rcases List.mem_append.mp member with here | new
    · exact tracks.plain caller here
    · rw [List.mem_singleton.mp new]
      exact started.2

theorem tracks_step (tracks : Tracks log out queue s) (action : Action)
    (other : action ≠ .call .termEventDispatcher) :
    ∃ out queue, Tracks (log ++ scheduledBy action s) out queue (step action s) := by
  cases action with
  | call call =>
    simp only [scheduledBy, List.append_nil]
    exact ⟨out, queue, tracks_call tracks (fun same => other (congrArg _ same))⟩
  | caller thread => exact tracks_caller tracks thread
  | dispatcher now =>
    simp only [scheduledBy, List.append_nil]
    exact tracks_dispatcher tracks now
  | spuriousWakeUp =>
    simp only [scheduledBy, List.append_nil]
    exact ⟨out, queue, tracks_notifyAll tracks⟩

theorem tracks_run (tracks : Tracks log out queue s) {actions : List Action}
    (others : .call .termEventDispatcher ∉ actions) :
    ∃ out queue, Tracks (log ++ schedulings actions s) out queue (Runs.run step actions s) := by
  induction actions generalizing log out queue s with
  | nil =>
    rw [schedulings, List.append_nil]
    exact ⟨out, queue, tracks⟩
  | cons action actions ih =>
    obtain ⟨first, later⟩ := not_or.mp (fun either => others (List.mem_cons.mpr either))
    obtain ⟨out, queue, stepped⟩ := tracks_step tracks action (Ne.symm first)
    obtain ⟨out, queue, ran⟩ := ih stepped later
    rw [schedulings, ← List.append_assoc]
    exact ⟨out, queue, ran⟩

theorem tracks_start : Tracks [] [] [] {} where
  once := List.Perm.refl _
  taken := rfl
  pending := rfl
  sorted := List.Pairwise.nil
  turn := List.Pairwise.nil
  released i member := by cases member
  known i member := by cases member
  holds := rfl
  free still := by cases still
  plain caller member := by cases member

/-- Nothing stops the dispatcher from firing the batch it has in hand. -/
theorem fires_batch (s : Dispatcher) (now : Int) :
    (Runs.run step (List.replicate s.dispatcher.batch.length (.dispatcher now)) s).fired =
      s.fired ++ s.dispatcher.batch := by
  generalize batch : s.dispatcher.batch = ready
  induction ready generalizing s with
  | nil => exact (List.append_nil _).symm
  | cons ev ready ih =>
    have firing : s.dispatcher = .firing (ev :: ready) := by
      unfold DispatcherAt.batch at batch
      split at batch
      · next at_ => rw [at_, batch]
      · cases batch
    have stepped : step (.dispatcher now) s =
        { s with fired := s.fired ++ [ev], dispatcher := .firing ready } := by
      simp [step, eventDispatcherThreadMain, firing]
    have later := ih { s with fired := s.fired ++ [ev], dispatcher := .firing ready } rfl
    rw [List.length_cons, List.replicate_succ, Runs.run_cons, stepped, later, List.append_assoc]
    rfl

theorem Tracks.deliveries (tracks : Tracks log out queue s) :
    Deliveries log (out.take s.fired.length) (out.drop s.fired.length) queue s := by
  have split := List.take_append_drop s.fired.length out
  have firedNow : (out.take s.fired.length).map (eventOf log) = s.fired := by
    rw [List.map_take, tracks.taken]
    exact List.take_left
  have inHand : (out.drop s.fired.length).map (eventOf log) = s.dispatcher.batch := by
    rw [List.map_drop, tracks.taken]
    exact List.drop_left
  constructor
  case once =>
    rw [split]
    exact tracks.once
  case fired => exact firedNow
  case batch => exact inHand
  case pending => exact tracks.pending
  case held =>
    intro i member thread held
    exact tracks.released i (List.mem_of_mem_take member) thread held
  case order =>
    intro i j earlier sooner member
    have turn := tracks.turn
    rw [← split, List.append_assoc] at turn
    refine turn.ahead earlier sooner ?_ member
    rw [← List.append_assoc, split]
    refine tracks.once.symm.subset (List.mem_range.mpr ?_)
    have bound := tracks.known_number (List.mem_append_left queue (List.mem_of_mem_take member))
    omega

/-- In every run of ScheduleEvent, holds and the dispatcher, with any clock. -/
theorem dispatcher_deliversAll {actions : List Action}
    (others : .call .termEventDispatcher ∉ actions) :
    DeliversAll (schedulings actions {}) (Runs.run step actions {}) := by
  obtain ⟨out, queue, tracks⟩ := tracks_run tracks_start others
  rw [List.nil_append] at tracks
  exact ⟨⟨_, _, _, tracks.deliveries⟩, fires_batch _⟩

/-- Two events under a hold, the second due first; both are fired after it. -/
def heldRun : List Action :=
  [.call .dispatchHold, .caller 0, .call (.scheduleEvent ⟨1, 10⟩), .caller 1,
    .call (.scheduleEvent ⟨2, 5⟩), .caller 2, .caller 0, .dispatcher 7, .dispatcher 7,
    .dispatcher 7, .dispatcher 7, .dispatcher 7, .dispatcher 7, .dispatcher 12, .dispatcher 12,
    .dispatcher 12, .dispatcher 12, .dispatcher 12]

theorem heldRun_deliversAll : DeliversAll (schedulings heldRun {}) (Runs.run step heldRun {}) :=
  dispatcher_deliversAll (by decide)

example : (Runs.run step heldRun {}).fired = [⟨2, 5⟩, ⟨1, 10⟩] ∧
    schedulings heldRun {} = [⟨⟨1, 10⟩, [0]⟩, ⟨⟨2, 5⟩, [0]⟩] := by
  decide

end Steps

end Matching2Dispatcher
