import ShadNet.KeyedTable
import ShadNet.Slots

/-!
# Reporting trophies

`sceNpTrophyUnlockTrophy` is called by threads of the game and by the reader threads that
merge what the server holds. One flag tells the two apart. The original trophy library is not
part of the repository: what it answers comes with the step that asks it.
-/

namespace NpTrophy

open Runs

def invalidTrophyId : Int := -1

/-- `ORBIS_NP_TROPHY_ERROR_TROPHY_ALREADY_UNLOCKED` as an `s32`. -/
def alreadyUnlocked : Int := 0x8055160C - 0x100000000

def unixEpochTicks : UInt64 := 0xdcbffeff2bc000

structure Owner where
  userId : Int
  serviceLabel : Nat
  deriving DecidableEq, Repr

structure ContextEntry where
  context : Int
  owner : Owner
  deriving DecidableEq, Repr

/-- A call of `ReportTrophyUnlock`. -/
structure Report where
  owner : Owner
  trophyId : Int
  timestamp : UInt64
  deriving DecidableEq, Repr

/-- Where a call of `sceNpTrophyUnlockTrophy` is. -/
inductive Phase where
  | continues
  | reads
  | locks
  | informs (owner : Owner)
  | reports (owner : Owner) (ret : Int) (timestamp : UInt64)
  | reportsPlatinum (owner : Owner) (ret : Int) (timestamp : UInt64)
  | returns (ret : Int)
  deriving DecidableEq, Repr

/-- `owner` is whom the context belongs to when the call is made; it, what the original call
returned and the reports handed over are history. -/
structure Call where
  byServer : Bool
  context : Int
  trophyId : Int
  platinumId : Int
  phase : Phase
  owner : Owner
  original : Option Int
  handed : List Report
  deriving DecidableEq, Repr

/-- The loop of `ApplyServerTrophies`. -/
structure Merge where
  context : Int
  rest : List (Int × UInt64)
  applied : Nat
  deriving DecidableEq, Repr

inductive Thread where
  | idle
  | game (call : Call)
  | loops (m : Merge)
  | unlocks (m : Merge) (call : Call)
  | clears (m : Merge)
  deriving DecidableEq, Repr

/-- The unlock that the thread is in. -/
def Thread.call? : Thread → Option Call
  | .game call | .unlocks _ call => some call
  | .idle | .loops _ | .clears _ => none

structure State where
  threads : List Thread
  contexts : List ContextEntry
  serverApplied : Bool
  lock : Option Nat
  finished : List Call
  deriving DecidableEq, Repr

/-- What the original library answers when it is asked: its result, what it left in
`*platinum_id`, and the ticks of the trophy's data. -/
structure Answer where
  ret : Int
  platinumId : Int
  ticks : UInt64
  deriving DecidableEq, Repr

inductive Op where
  | createContext (ret context : Int) (owner : Owner)
  | destroyContext (ret context : Int)
  | unlockTrophy (t : Nat) (context trophyId platinumId : Int)
  | applyServerTrophies (t : Nat) (handleRet context : Int) (serverTrophies : List (Int × UInt64))
  | next (t : Nat) (answer : Answer)
  deriving DecidableEq, Repr

/-! ## The calls -/

namespace State

/-- `contexts[context]`, which makes an entry where there is none. -/
def ownerOf (context : Int) (s : State) : Owner :=
  ((KeyedTable.lookup ContextEntry.context context s.contexts).map ContextEntry.owner).getD ⟨0, 0⟩

def withOwner (context : Int) (owner : Owner) (s : State) : State :=
  { s with contexts := KeyedTable.store ContextEntry.context ⟨context, owner⟩ s.contexts }

def withThread (t : Nat) (thread : Thread) (s : State) : State :=
  { s with threads := s.threads.set t thread }

end State

def sceNpTrophyCreateContext (ret context : Int) (owner : Owner) (s : State) : State :=
  if ret = 0 ∧ s.lock = none then s.withOwner context owner else s

def sceNpTrophyDestroyContext (ret context : Int) (s : State) : State :=
  if ret = 0 ∧ s.lock = none then
    { s with contexts := KeyedTable.remove ContextEntry.context context s.contexts }
  else s

/-- `np.ReportTrophyUnlock(user_id, service_label, trophy_id, timestamp)`. -/
def Call.report (owner : Owner) (trophyId : Int) (timestamp : UInt64) (call : Call) : Call :=
  { call with handed := call.handed ++ [⟨owner, trophyId, timestamp⟩] }

/-- Seconds since the epoch of unix. -/
def timestampOf (answer : Answer) : UInt64 :=
  if answer.ret = 0 then (answer.ticks - unixEpochTicks) / 1000000 else 0

/-- The next step of a call of `sceNpTrophyUnlockTrophy` by the thread `t`. -/
def advance (t : Nat) (answer : Answer) (call : Call) (s : State) : Call × State :=
  match call.phase with
  | .continues =>
    ({ call with
        original := some answer.ret
        platinumId := answer.platinumId
        phase := if answer.ret = 0 then .reads else .returns answer.ret }, s)
  | .reads => ({ call with phase := if s.serverApplied then .returns 0 else .locks }, s)
  | .locks =>
    if s.lock = none then
      ({ call with phase := .informs (s.ownerOf call.context) },
        { s.withOwner call.context (s.ownerOf call.context) with lock := some t })
    else (call, s)
  | .informs owner =>
    -- `ret` is the result of this call from here on
    ({ call with phase := .reports owner answer.ret (timestampOf answer) }, s)
  | .reports owner ret timestamp =>
    if call.platinumId ≠ invalidTrophyId then
      ({ call.report owner call.trophyId timestamp with
          phase := .reportsPlatinum owner ret timestamp }, s)
    else
      ({ call.report owner call.trophyId timestamp with phase := .returns ret },
        { s with lock := none })
  | .reportsPlatinum owner ret timestamp =>
    ({ call.report owner call.platinumId timestamp with phase := .returns ret },
      { s with lock := none })
  | .returns _ => (call, s)

def Call.isOver (call : Call) : Option Int :=
  match call.phase with
  | .returns ret => some ret
  | _ => none

def calling (byServer : Bool) (context trophyId platinumId : Int) (s : State) : Call where
  byServer := byServer
  context := context
  trophyId := trophyId
  platinumId := platinumId
  phase := .continues
  owner := s.ownerOf context
  original := none
  handed := []

/-- Whether `ApplyServerTrophies` counts a result as applied. -/
def appliedBy (ret : Int) : Nat :=
  if ret ≠ 0 ∧ ret ≠ alreadyUnlocked then 0 else 1

def nextOf (t : Nat) (answer : Answer) (thread : Thread) (s : State) : State :=
  match thread with
  | .idle => s
  | .game call =>
    match call.isOver with
    | some _ => { s.withThread t .idle with finished := s.finished ++ [call] }
    | none => (advance t answer call s).2.withThread t (.game (advance t answer call s).1)
  | .loops m =>
    match m.rest with
    | [] => s.withThread t .idle
    | trophy :: rest =>
      { s.withThread t (.unlocks { m with rest := rest }
          (calling true m.context trophy.1 invalidTrophyId s)) with serverApplied := true }
  | .unlocks m call =>
    match call.isOver with
    | some ret =>
      { s.withThread t (.clears { m with applied := m.applied + appliedBy ret }) with
        finished := s.finished ++ [call] }
    | none => (advance t answer call s).2.withThread t (.unlocks m (advance t answer call s).1)
  | .clears m => { s.withThread t (.loops m) with serverApplied := false }

def step : Op → State → State
  | .createContext ret context owner, s => sceNpTrophyCreateContext ret context owner s
  | .destroyContext ret context, s => sceNpTrophyDestroyContext ret context s
  | .unlockTrophy t context trophyId platinumId, s =>
    if s.threads[t]? = some .idle then
      s.withThread t (.game (calling false context trophyId platinumId s))
    else s
  | .applyServerTrophies t handleRet context serverTrophies, s =>
    if s.threads[t]? = some .idle ∧ serverTrophies ≠ [] ∧ handleRet = 0 then
      s.withThread t (.loops ⟨context, serverTrophies, 0⟩)
    else s
  | .next t answer, s =>
    match s.threads[t]? with
    | some thread => nextOf t answer thread s
    | none => s

/-! ## What is owed to the game -/

/-- What is handed over for an unlock that `owner` is named for. -/
def unlocked (owner : Owner) (call : Call) : List (Owner × Int) :=
  (owner, call.trophyId) ::
    if call.platinumId ≠ invalidTrophyId then [(owner, call.platinumId)] else []

def Call.due (call : Call) : List (Owner × Int) :=
  if call.byServer = false ∧ call.original = some 0 then unlocked call.owner call else []

def Call.told (call : Call) : List (Owner × Int) :=
  call.handed.map fun report => (report.owner, report.trophyId)

/-- The call returns what the original call did, and has handed over what is due. -/
def Call.Right (call : Call) : Prop := call.isOver = call.original ∧ call.told = call.due

def Thread.Each (P : Call → Prop) (thread : Thread) : Prop := ∀ call ∈ thread.call?, P call

/-- Calls of the game that have returned are right, and no unlock of the server is handed over. -/
structure Reported (s : State) : Prop where
  right : ∀ call ∈ s.finished, call.byServer = false → call.Right
  finished : ∀ call ∈ s.finished, call.byServer = true → call.handed = []
  running : ∀ thread ∈ s.threads,
    thread.Each fun call => call.byServer = true → call.handed = []

/-- The flag says who calls, the context is still whose it was, and the details of the trophy
are there. -/
def Admits (answer : Answer) (s : State) (call : Call) : Prop :=
  match call.phase with
  | .reads => s.serverApplied = call.byServer
  | .locks => s.lock = none → s.ownerOf call.context = call.owner
  | .informs _ => answer.ret = 0
  | _ => True

def Ok : Op → State → Prop
  | .next t answer, s => ∀ thread, s.threads[t]? = some thread → thread.Each (Admits answer s)
  | _, _ => True

/-- No call is under way and none has been made. -/
def start (threads : Nat) (contexts : List ContextEntry) : State where
  threads := List.replicate threads .idle
  contexts := contexts
  serverApplied := false
  lock := none
  finished := []

/-- Every call has returned. -/
def Quiet (s : State) : Prop := ∀ thread ∈ s.threads, thread = .idle

/-! ## One call -/

/-- What is left to hand over and to return is what is due. -/
def OnTrack (call : Call) : Prop :=
  match call.phase with
  | .continues | .reads => True
  | .locks => call.byServer = false
  | .informs owner => call.byServer = false ∧ owner = call.owner
  | .reports owner ret _ | .reportsPlatinum owner ret _ =>
    call.byServer = false ∧ owner = call.owner ∧ ret = 0
  | .returns _ => call.Right

/-- What has been handed over so far, and that only a report follows an accepted call. -/
def Formed (call : Call) : Prop :=
  match call.phase with
  | .continues => call.handed = []
  | .reads | .locks | .informs _ | .reports .. => call.original = some 0 ∧ call.handed = []
  | .reportsPlatinum owner _ _ =>
    call.original = some 0 ∧ call.platinumId ≠ invalidTrophyId ∧
      call.told = [(owner, call.trophyId)]
  | .returns ret => call.handed = [] → call.original = some ret

theorem told_report {owner : Owner} {trophyId : Int} {timestamp : UInt64} {call : Call} :
    (call.report owner trophyId timestamp).told = call.told ++ [(owner, trophyId)] := by
  rw [Call.told, Call.report, List.map_append]
  rfl

theorem told_eq_nil {call : Call} (nothing : call.handed = []) : call.told = [] := by
  rw [Call.told, nothing, List.map_nil]

/-- A call that hands over all of an unlock hands over what is due where it is the game's, the
owner is the context's and the details were there. -/
theorem right_iff {call : Call} {owner : Owner} {ret : Int} (settled : call.isOver = some ret)
    (accepted : call.original = some 0) (told : call.told = unlocked owner call) :
    call.Right ↔ call.byServer = false ∧ owner = call.owner ∧ ret = 0 := by
  rw [Call.Right, settled, accepted, told, Call.due, accepted, Option.some.injEq]
  constructor
  · rintro ⟨rfl, due⟩
    by_cases game : call.byServer = false
    · rw [if_pos ⟨game, rfl⟩] at due
      obtain ⟨same, -⟩ := List.cons.inj due
      exact ⟨game, (Prod.mk.inj same).1, rfl⟩
    · rw [if_neg (fun h => game h.1)] at due
      cases due
  · rintro ⟨game, rfl, rfl⟩
    exact ⟨rfl, by rw [if_pos ⟨game, rfl⟩]⟩

/-- A call that was accepted and hands over nothing is right where it is the server's. -/
theorem right_nothing_iff {call : Call} (settled : call.isOver = some 0)
    (accepted : call.original = some 0) (nothing : call.handed = []) :
    call.Right ↔ call.byServer = true := by
  rw [Call.Right, settled, accepted, told_eq_nil nothing, Call.due, accepted]
  by_cases game : call.byServer = false
  · rw [if_pos ⟨game, rfl⟩, game]
    exact ⟨fun right => absurd right.2.symm (List.cons_ne_nil _ _), fun server => by cases server⟩
  · rw [if_neg (fun h => game h.1)]
    exact ⟨fun _ => by simpa using game, fun _ => ⟨rfl, rfl⟩⟩

section Advance

variable {t : Nat} {answer : Answer} {call : Call} {s : State}

theorem formed_advance (formed : Formed call) : Formed (advance t answer call s).1 := by
  unfold advance
  cases phase : call.phase with
  | continues =>
    rw [Formed, phase] at formed
    by_cases accepted : answer.ret = 0
    · simp only [accepted, if_true]
      exact ⟨rfl, formed⟩
    · simp only [accepted, if_false]
      exact fun _ => rfl
  | reads =>
    rw [Formed, phase] at formed
    by_cases flag : s.serverApplied = true
    · simp only [flag, if_true]
      exact fun _ => formed.1
    · simp only [flag, Bool.false_eq_true, if_false]
      exact formed
  | locks =>
    rw [Formed, phase] at formed
    by_cases free : s.lock = none
    · simp only [free, if_true]
      exact formed
    · simp only [free, if_false]
      rw [Formed, phase]
      exact formed
  | informs owner =>
    rw [Formed, phase] at formed
    exact formed
  | reports owner ret timestamp =>
    rw [Formed, phase] at formed
    by_cases platinum : call.platinumId ≠ invalidTrophyId
    · dsimp only
      rw [if_pos platinum]
      refine ⟨formed.1, platinum, ?_⟩
      exact told_report.trans (congrArg (· ++ _) (told_eq_nil formed.2))
    · dsimp only
      rw [if_neg platinum]
      exact fun nothing => absurd nothing (by simp [Call.report])
  | reportsPlatinum owner ret timestamp =>
    exact fun nothing => absurd nothing (by simp [Call.report])
  | returns ret =>
    simp only
    exact formed

/-- A step keeps a call on its track exactly where it is admitted. -/
theorem onTrack_advance (formed : Formed call) :
    OnTrack (advance t answer call s).1 ↔ OnTrack call ∧ Admits answer s call := by
  unfold advance OnTrack Admits
  cases phase : call.phase with
  | continues =>
    rw [Formed, phase] at formed
    by_cases accepted : answer.ret = 0
    · simp [accepted]
    · simp [accepted, Call.Right, Call.isOver, Call.due, told_eq_nil, formed]
  | reads =>
    rw [Formed, phase] at formed
    obtain ⟨accepted, nothing⟩ := formed
    rw [true_and]
    by_cases flag : s.serverApplied = true
    · simp only [flag, if_true]
      rw [eq_comm]
      exact right_nothing_iff rfl accepted nothing
    · have off : s.serverApplied = false := by simpa using flag
      simp only [off, Bool.false_eq_true, if_false]
      exact eq_comm
  | locks =>
    by_cases free : s.lock = none
    · simp [free]
    · simp [free, phase]
  | informs owner => simp [and_assoc]
  | reports owner ret timestamp =>
    rw [Formed, phase] at formed
    by_cases platinum : call.platinumId ≠ invalidTrophyId
    · simp [platinum, Call.report]
    · dsimp only
      rw [if_neg platinum, and_true]
      refine right_iff rfl formed.1 (told_report.trans ?_)
      have told := congrArg (· ++ [(owner, call.trophyId)]) (told_eq_nil formed.2)
      exact told.trans (congrArg (List.cons _) (if_neg platinum).symm)
  | reportsPlatinum owner ret timestamp =>
    rw [Formed, phase] at formed
    obtain ⟨accepted, platinum, told⟩ := formed
    rw [and_true]
    refine right_iff rfl accepted (told_report.trans ?_)
    have both := congrArg (· ++ [(owner, call.platinumId)]) told
    exact both.trans (congrArg (List.cons _) (if_pos platinum).symm)
  | returns ret => simp [phase]

theorem threads_advance : (advance t answer call s).2.threads = s.threads := by
  unfold advance
  repeat' split
  all_goals rfl

theorem finished_advance : (advance t answer call s).2.finished = s.finished := by
  unfold advance
  repeat' split
  all_goals rfl

end Advance

/-! ## Whole runs -/

structure AllFormed (s : State) : Prop where
  running : ∀ thread ∈ s.threads, thread.Each Formed
  finished : ∀ call ∈ s.finished, Formed call ∧ call.isOver ≠ none

structure AllOnTrack (s : State) : Prop where
  running : ∀ thread ∈ s.threads, thread.Each OnTrack
  finished : ∀ call ∈ s.finished, OnTrack call

theorem allOnTrack_iff {s : State} : AllOnTrack s ↔
    (∀ thread ∈ s.threads, thread.Each OnTrack) ∧ ∀ call ∈ s.finished, OnTrack call :=
  ⟨fun h => ⟨h.running, h.finished⟩, fun h => ⟨h.1, h.2⟩⟩

theorem admits_of_isOver {answer : Answer} {s : State} {call : Call} {ret : Int}
    (settled : call.isOver = some ret) : Admits answer s call := by
  unfold Call.isOver at settled
  unfold Admits
  cases phase : call.phase with
  | returns ret => trivial
  | continues | reads | locks | informs | reports | reportsPlatinum => simp [phase] at settled

section Step

variable {s : State} {t : Nat} {answer : Answer} {thread : Thread}

theorem each_of_call {P : Call → Prop} {call : Call} (known : thread.call? = some call) :
    thread.Each P ↔ P call := by
  rw [Thread.Each, known]
  exact ⟨fun each => each call rfl, fun own other same => Option.some.inj same ▸ own⟩

theorem each_of_none {P : Call → Prop} (none_ : thread.call? = none) : thread.Each P := by
  rw [Thread.Each, none_]
  exact fun call same => by cases same

structure Begins (s : State) (call : Call) : Prop where
  continues : call.phase = .continues
  nothing : call.handed = []
  owned : call.owner = s.ownerOf call.context

/-- A thread goes on with its unlock, comes back from it, or is at no unlock and begins one at
most. -/
theorem nextOf_cases (answer : Answer) (current : s.threads[t]? = some thread) :
    ∃ new, (nextOf t answer thread s).threads = s.threads.set t new ∧
      ((∃ call, thread.call? = some call ∧ new.call? = some (advance t answer call s).1 ∧
          (nextOf t answer thread s).finished = s.finished) ∨
        (∃ call ret, thread.call? = some call ∧ call.isOver = some ret ∧ new.call? = none ∧
          (nextOf t answer thread s).finished = s.finished ++ [call]) ∨
        (thread.call? = none ∧ new.Each (Begins s) ∧
          (nextOf t answer thread s).finished = s.finished)) := by
  cases thread with
  | idle =>
    obtain ⟨inside, found⟩ := List.getElem?_eq_some_iff.mp current
    refine ⟨.idle, ?_, .inr (.inr ⟨rfl, each_of_none rfl, rfl⟩)⟩
    exact (found ▸ List.set_getElem_self inside).symm
  | game call =>
    cases settled : call.isOver with
    | none =>
      refine ⟨.game (advance t answer call s).1, ?_, .inl ⟨call, rfl, rfl, ?_⟩⟩
      · simp only [nextOf, settled, State.withThread, threads_advance]
      · simp only [nextOf, settled, State.withThread, finished_advance]
    | some ret =>
      refine ⟨.idle, ?_, .inr (.inl ⟨call, ret, rfl, settled, rfl, ?_⟩)⟩
      · simp only [nextOf, settled, State.withThread]
      · simp only [nextOf, settled]
  | loops m =>
    cases rest : m.rest with
    | nil =>
      refine ⟨.idle, ?_, .inr (.inr ⟨rfl, each_of_none rfl, ?_⟩)⟩
      · simp only [nextOf, rest, State.withThread]
      · simp only [nextOf, rest, State.withThread]
    | cons trophy later =>
      refine ⟨.unlocks { m with rest := later }
        (calling true m.context trophy.1 invalidTrophyId s), ?_, .inr (.inr ⟨rfl, ?_, ?_⟩)⟩
      · simp only [nextOf, rest, State.withThread]
      · exact (each_of_call rfl).mpr ⟨rfl, rfl, rfl⟩
      · simp only [nextOf, rest, State.withThread]
  | unlocks m call =>
    cases settled : call.isOver with
    | none =>
      refine ⟨.unlocks m (advance t answer call s).1, ?_, .inl ⟨call, rfl, rfl, ?_⟩⟩
      · simp only [nextOf, settled, State.withThread, threads_advance]
      · simp only [nextOf, settled, State.withThread, finished_advance]
    | some ret =>
      refine ⟨.clears { m with applied := m.applied + appliedBy ret }, ?_,
        .inr (.inl ⟨call, ret, rfl, settled, rfl, ?_⟩)⟩
      · simp only [nextOf, settled, State.withThread]
      · simp only [nextOf, settled]
  | clears m => exact ⟨.loops m, rfl, .inr (.inr ⟨rfl, each_of_none rfl, rfl⟩)⟩

theorem Begins.formed {call : Call} (begins : Begins s call) : Formed call := by
  rw [Formed, begins.continues]
  exact begins.nothing

theorem Begins.onTrack {call : Call} (begins : Begins s call) : OnTrack call := by
  rw [OnTrack, begins.continues]
  trivial

theorem begins_calling (byServer : Bool) (context trophyId platinumId : Int) :
    Begins s (calling byServer context trophyId platinumId s) := ⟨rfl, rfl, rfl⟩

theorem formed_nextOf (current : s.threads[t]? = some thread) (formed : AllFormed s) :
    AllFormed (nextOf t answer thread s) := by
  obtain ⟨own, others⟩ := (Slots.forall_slot current).mp formed.running
  obtain ⟨new, threads, moved⟩ := nextOf_cases answer current
  rcases moved with ⟨call, known, later, finished⟩ | ⟨call, ret, known, settled, later, finished⟩ |
    ⟨known, fresh, finished⟩
  · have own_ := (each_of_call later).mpr (formed_advance ((each_of_call known).mp own))
    exact ⟨threads ▸ (Slots.forall_set current).mpr ⟨own_, others⟩, finished ▸ formed.finished⟩
  · refine ⟨threads ▸ (Slots.forall_set current).mpr ⟨each_of_none later, others⟩, ?_⟩
    have ended : call.isOver ≠ none := by simp [settled]
    rw [finished, List.forall_mem_append, List.forall_mem_singleton]
    exact ⟨formed.finished, (each_of_call known).mp own, ended⟩
  · have own_ : new.Each Formed := fun call member => (fresh call member).formed
    exact ⟨threads ▸ (Slots.forall_set current).mpr ⟨own_, others⟩, finished ▸ formed.finished⟩

theorem onTrack_nextOf (current : s.threads[t]? = some thread) (formed : AllFormed s) :
    AllOnTrack (nextOf t answer thread s) ↔ AllOnTrack s ∧ thread.Each (Admits answer s) := by
  have own := formed.running thread (List.mem_of_getElem? current)
  obtain ⟨new, threads, moved⟩ := nextOf_cases answer current
  rw [allOnTrack_iff, allOnTrack_iff, threads]
  rcases moved with ⟨call, known, later, finished⟩ | ⟨call, ret, known, settled, later, finished⟩ |
    ⟨known, fresh, finished⟩
  · have meets : new.Each OnTrack ↔ thread.Each OnTrack ∧ thread.Each (Admits answer s) := by
      rw [each_of_call later, each_of_call known, each_of_call known]
      exact onTrack_advance ((each_of_call known).mp own)
    rw [Slots.forall_set_iff current meets, finished, and_right_comm]
  · rw [Slots.forall_set current, Slots.forall_slot current, finished, List.forall_mem_append,
      List.forall_mem_singleton, each_of_call known, each_of_call known]
    have admits : Admits answer s call := admits_of_isOver settled
    constructor
    · rintro ⟨⟨-, others⟩, finished, onTrack⟩
      exact ⟨⟨⟨onTrack, others⟩, finished⟩, admits⟩
    · rintro ⟨⟨⟨onTrack, others⟩, finished⟩, -⟩
      exact ⟨⟨each_of_none later, others⟩, finished, onTrack⟩
  · have begun : new.Each OnTrack := fun call member => (fresh call member).onTrack
    have meets : new.Each OnTrack ↔ thread.Each OnTrack :=
      ⟨fun _ => each_of_none known, fun _ => begun⟩
    have admits : thread.Each (Admits answer s) := each_of_none known
    rw [Slots.forall_set_same current meets, finished, and_iff_left admits]

end Step

theorem formed_step {s : State} (op : Op) (formed : AllFormed s) : AllFormed (step op s) := by
  cases op with
  | createContext ret context owner =>
    simp only [step, sceNpTrophyCreateContext]
    split
    · exact ⟨formed.running, formed.finished⟩
    · exact formed
  | destroyContext ret context =>
    simp only [step, sceNpTrophyDestroyContext]
    split
    · exact ⟨formed.running, formed.finished⟩
    · exact formed
  | unlockTrophy t context trophyId platinumId =>
    simp only [step]
    split
    · next current =>
      have others := ((Slots.forall_slot current).mp formed.running).2
      refine ⟨(Slots.forall_set current).mpr ⟨?_, others⟩, formed.finished⟩
      exact (each_of_call rfl).mpr (begins_calling ..).formed
    · exact formed
  | applyServerTrophies t handleRet context serverTrophies =>
    simp only [step]
    split
    · next current =>
      have others := ((Slots.forall_slot current.1).mp formed.running).2
      exact ⟨(Slots.forall_set current.1).mpr ⟨each_of_none rfl, others⟩, formed.finished⟩
    · exact formed
  | next t answer =>
    simp only [step]
    cases current : s.threads[t]? with
    | none => exact formed
    | some thread => exact formed_nextOf current formed

theorem onTrack_step {s : State} (op : Op) (formed : AllFormed s) :
    AllOnTrack (step op s) ↔ AllOnTrack s ∧ Ok op s := by
  cases op with
  | createContext ret context owner =>
    simp only [step, sceNpTrophyCreateContext, Ok, and_true]
    split
    · rw [allOnTrack_iff, allOnTrack_iff]
      rfl
    · rfl
  | destroyContext ret context =>
    simp only [step, sceNpTrophyDestroyContext, Ok, and_true]
    split
    · rw [allOnTrack_iff, allOnTrack_iff]
    · rfl
  | unlockTrophy t context trophyId platinumId =>
    simp only [step, Ok, and_true]
    split
    · next current =>
      rw [allOnTrack_iff, allOnTrack_iff]
      refine and_congr_left' (Slots.forall_set_same current ?_)
      have begun := (begins_calling (s := s) false context trophyId platinumId).onTrack
      exact ⟨fun _ => each_of_none rfl, fun _ => (each_of_call rfl).mpr begun⟩
    · rfl
  | applyServerTrophies t handleRet context serverTrophies =>
    simp only [step, Ok, and_true]
    split
    · next current =>
      rw [allOnTrack_iff, allOnTrack_iff]
      refine and_congr_left' (Slots.forall_set_same current.1 ?_)
      exact ⟨fun _ => each_of_none rfl, fun _ => each_of_none rfl⟩
    · rfl
  | next t answer =>
    simp only [step, Ok]
    cases current : s.threads[t]? with
    | none => exact ⟨fun onTrack => ⟨onTrack, fun thread same => by cases same⟩, And.left⟩
    | some thread =>
      rw [onTrack_nextOf current formed]
      refine and_congr_right fun _ => ⟨?_, fun admits => admits thread rfl⟩
      exact fun admits other same => Option.some.inj same ▸ admits

theorem nothing_of_onTrack {call : Call} (formed : Formed call) (onTrack : OnTrack call)
    (server : call.byServer = true) : call.handed = [] := by
  unfold Formed at formed
  unfold OnTrack at onTrack
  cases phase : call.phase with
  | continues =>
    rw [phase] at formed
    exact formed
  | reads | locks | informs | reports =>
    rw [phase] at formed
    exact formed.2
  | reportsPlatinum =>
    rw [phase] at onTrack
    rw [onTrack.1] at server
    cases server
  | returns ret =>
    rw [phase] at onTrack
    have told := onTrack.2
    rw [Call.due, server, if_neg (fun h => Bool.noConfusion h.1), Call.told] at told
    exact List.map_eq_nil_iff.mp told

theorem onTrack_of_isOver {call : Call} (settled : call.isOver ≠ none) :
    OnTrack call ↔ call.Right := by
  unfold OnTrack
  cases phase : call.phase with
  | returns ret => rfl
  | continues | reads | locks | informs | reports | reportsPlatinum =>
    simp [Call.isOver, phase] at settled

/-- An unlock of the server that has handed over nothing is right. -/
theorem right_of_nothing {call : Call} (formed : Formed call) (settled : call.isOver ≠ none)
    (server : call.byServer = true) (nothing : call.handed = []) : call.Right := by
  unfold Formed at formed
  rw [Call.Right, Call.isOver, told_eq_nil nothing, Call.due, server,
    if_neg (fun h => Bool.noConfusion h.1)]
  cases phase : call.phase with
  | returns ret =>
    rw [phase] at formed
    exact ⟨(formed nothing).symm, rfl⟩
  | continues | reads | locks | informs | reports | reportsPlatinum =>
    simp [Call.isOver, phase] at settled

theorem reported_of_onTrack {s : State} (formed : AllFormed s) (onTrack : AllOnTrack s) :
    Reported s where
  right := fun call member _ =>
    (onTrack_of_isOver (formed.finished call member).2).mp (onTrack.finished call member)
  finished := fun call member =>
    nothing_of_onTrack (formed.finished call member).1 (onTrack.finished call member)
  running := fun thread member call own =>
    nothing_of_onTrack (formed.running thread member call own)
      (onTrack.running thread member call own)

theorem onTrack_of_reported {s : State} (quiet : Quiet s) (formed : AllFormed s)
    (reported : Reported s) : AllOnTrack s where
  running := fun thread member => each_of_none (quiet thread member ▸ rfl)
  finished := by
    intro call member
    obtain ⟨formed, settled⟩ := formed.finished call member
    refine (onTrack_of_isOver settled).mpr ?_
    cases server : call.byServer with
    | false => exact reported.right call member server
    | true => exact right_of_nothing formed settled server (reported.finished call member server)

theorem formed_start (threads : Nat) (contexts : List ContextEntry) :
    AllFormed (start threads contexts) where
  running := fun _ member => each_of_none (List.eq_of_mem_replicate member ▸ rfl)
  finished := fun _ member => absurd member List.not_mem_nil

theorem onTrack_start (threads : Nat) (contexts : List ContextEntry) :
    AllOnTrack (start threads contexts) where
  running := fun _ member => each_of_none (List.eq_of_mem_replicate member ▸ rfl)
  finished := fun _ member => absurd member List.not_mem_nil

/-- In every run whose steps are admitted the trophies are reported right, and a run after which
every call has returned has reported them right only where each of its steps was admitted. -/
theorem trophies_reported_iff (threads : Nat) (contexts : List ContextEntry) (ops : List Op) :
    (Admitted step Ok ops (start threads contexts) →
      Throughout step Reported (fun _ _ _ => True) ops (start threads contexts)) ∧
    (Quiet (run step ops (start threads contexts)) →
      (Reported (run step ops (start threads contexts)) ↔
        Admitted step Ok ops (start threads contexts))) := by
  have formed := formed_start threads contexts
  have onTrack := onTrack_start threads contexts
  constructor
  · have both : AllFormed (start threads contexts) ∧ AllOnTrack (start threads contexts) :=
      ⟨formed, onTrack⟩
    refine throughout_of_admitted
      (fun s (kept : AllFormed s ∧ AllOnTrack s) => reported_of_onTrack kept.1 kept.2) ?_ both
    intro op s kept admitted
    exact ⟨⟨formed_step op kept.1, (onTrack_step op kept.1).mpr ⟨kept.2, admitted⟩⟩, trivial⟩
  · intro quiet
    have last : AllFormed (run step ops (start threads contexts)) :=
      invariant_of_run (fun op _ formed _ => formed_step op formed) formed
        (admitted_always (fun _ _ => trivial) ops _)
    have exactly : AllOnTrack (run step ops (start threads contexts)) ↔
        AllOnTrack (start threads contexts) ∧ Admitted step Ok ops (start threads contexts) :=
      run_iff_admitted (fun op _ => formed_step op) (fun op _ => onTrack_step op) formed
    constructor
    · intro reported
      exact (exactly.mp (onTrack_of_reported quiet last reported)).2
    · intro admitted
      exact reported_of_onTrack last (exactly.mpr ⟨onTrack, admitted⟩)

def accepts : Answer := ⟨0, invalidTrophyId, 0⟩

/-- The game unlocks a trophy while one that the server holds is being applied. -/
def unlockDuringMerge : List Op :=
  [.applyServerTrophies 0 0 1 [(5, 0)], .next 0 accepts, .unlockTrophy 1 1 7 invalidTrophyId,
    .next 1 accepts, .next 1 accepts, .next 1 accepts]

theorem unlock_during_merge_not_reported : ¬∀ (contexts : List ContextEntry) (ops : List Op),
    Reported (run step ops (start 2 contexts)) := by
  intro always
  have reported := always [⟨1, ⟨1000, 0⟩⟩] unlockDuringMerge
  have right := reported.right ⟨false, 1, 7, invalidTrophyId, .returns 0, ⟨1000, 0⟩, some 0, []⟩
    (by decide) rfl
  exact absurd right.2 (by decide)

end NpTrophy
