import Mathlib.Data.List.Dedup
import Mathlib.Data.List.Perm.Subperm
import ShadNet.Duties
import ShadNet.Handler.Worker

/-!
# Sign-in events

ConnectUser and DisconnectUser change the table of clients under its mutex and
queue the SignedIn or SignedOut event later, under another one. The worker's
programs are read here with the queueing of the event as a section of its own.
-/

namespace NpWorker

open LockProgram LockProgram.Prog KeyedTable

inductive OrbisNpState where
  | signedIn
  | signedOut
  deriving DecidableEq, Repr

structure PendingNpStateEvent where
  userId : Int
  state : OrbisNpState
  deriving DecidableEq, Repr

/-- A connected client in the table, by its number among all that were connected. -/
structure Registered where
  userId : Int
  serial : Nat
  deriving DecidableEq, Repr

/-- A client that a call of DisconnectUser has taken out and will stop. -/
structure Leaving where
  call : Nat
  userId : Int
  serial : Nat
  deriving DecidableEq, Repr

/-- The tables with the event queue and the lives of the connected clients. -/
structure SignIns where
  presence : Presence
  /-- All events ever queued. -/
  npStateEvents : List PendingNpStateEvent := []
  /-- Registrations and removals, in the order of the table's mutex. -/
  changes : List PendingNpStateEvent := []
  connected : Nat := 0
  registered : List Registered := []
  leaving : List Leaving := []
  stopped : List Nat := []
  deriving Repr

inductive SignInSection where
  | table (label : Section)
  | queueEvent (userId : Int) (state : OrbisNpState)
  deriving DecidableEq, Repr

namespace SignIns

def isRegistered (userId : Int) (s : SignIns) : Prop :=
  (lookup Client.userId userId s.presence.clients).isSome

instance (userId : Int) (s : SignIns) : Decidable (s.isRegistered userId) :=
  inferInstanceAs (Decidable (_ = _))

def serialOf (userId : Int) (s : SignIns) : List Nat :=
  (s.registered.filter (fun r => decide (r.userId = userId))).map Registered.serial

def registerClient (userId : Int) (s : SignIns) : SignIns :=
  { s with
    registered := store Registered.userId ⟨userId, s.connected⟩ s.registered
    connected := s.connected + 1
    changes := s.changes ++ [⟨userId, .signedIn⟩] }

def takeClient (call : Nat) (userId : Int) (s : SignIns) : SignIns :=
  { s with
    registered := remove Registered.userId userId s.registered
    leaving := s.leaving ++ (s.serialOf userId).map (Leaving.mk call userId)
    changes := s.changes ++ [⟨userId, .signedOut⟩] }

def inCall (call : Nat) (userId : Int) (client : Leaving) : Bool :=
  decide (client.call = call ∧ client.userId = userId)

def endClient (call : Nat) (userId : Int) (s : SignIns) : SignIns :=
  { s with
    leaving := s.leaving.filter (fun client => !inCall call userId client)
    stopped := s.stopped ++ (s.leaving.filter (inCall call userId)).map Leaving.serial }

/-- What a section of the table does to the clients' lives. -/
def follow (label : Section) (s : SignIns) : SignIns :=
  match label with
  | .store _ userId => s.registerClient userId
  | .remove call userId => if s.isRegistered userId then s.takeClient call userId else s
  | .stop call userId => s.endClient call userId
  | _ => s

def table (label : Section) (update : Presence → Presence) (s : SignIns) : SignIns :=
  { s.follow label with presence := update s.presence }

def queueNpStateEvent (userId : Int) (state : OrbisNpState) (s : SignIns) : SignIns :=
  { s with npStateEvents := s.npStateEvents ++ [⟨userId, state⟩] }

end SignIns

/-- The event that ConnectUser and DisconnectUser fire after a section. -/
def firedAfter : Section → Option (Int × OrbisNpState)
  | .store _ userId => some (userId, .signedIn)
  | .stop _ userId => some (userId, .signedOut)
  | _ => none

def withEvents {α : Type} : Worker α → Prog SignIns SignInSection α
  | .done result => .done result
  | .atomic label update next =>
    .atomic (.table label) (SignIns.table label update) (fun s =>
      match firedAfter label with
      | none => withEvents (next s.presence)
      | some (userId, state) =>
        .atomic (.queueEvent userId state) (SignIns.queueNpStateEvent userId state)
          (fun _ => withEvents (next s.presence)))

def Op.withEvents (op : Op) : Prog SignIns SignInSection Unit := NpWorker.withEvents op.program

/-! ### The property -/

def statesOf (userId : Int) (events : List PendingNpStateEvent) : List OrbisNpState :=
  (events.filter (fun event => decide (event.userId = userId))).map PendingNpStateEvent.state

def OrbisNpState.other : OrbisNpState → OrbisNpState
  | .signedIn => .signedOut
  | .signedOut => .signedIn

/-- The states alternate, the first one being `first`. -/
def Alternates (first : OrbisNpState) : List OrbisNpState → Prop
  | [] => True
  | state :: rest => state = first ∧ Alternates first.other rest

instance Alternates.decidable : ∀ (first : OrbisNpState) (states : List OrbisNpState),
    Decidable (Alternates first states)
  | _, [] => isTrue trivial
  | first, _ :: rest =>
    @instDecidableAnd _ _ _ (Alternates.decidable first.other rest)

structure EventsMatch (pool : Pool SignIns SignInSection) : Prop where
  alternate : ∀ userId, Alternates .signedIn (statesOf userId pool.state.npStateEvents)
  single : Distinct Client.userId pool.state.presence.clients
  /-- A client that is no longer registered is stopped, at the latest when its call returns. -/
  stopped : ∀ serial < pool.state.connected,
    serial ∈ pool.state.registered.map Registered.serial ∨
      serial ∈ pool.state.leaving.map Leaving.serial ∨ serial ∈ pool.state.stopped
  settled : pool.Finished → pool.state.leaving = [] ∧
    ∀ userId, (statesOf userId pool.state.npStateEvents).getLast? = some .signedIn ↔
      pool.state.isRegistered userId

/-- No registered client is replaced, and the events of a user are queued in the order of the
changes that they announce. -/
def InOrder : SignInSection → SignIns → Prop
  | .table (.store _ userId), s => ¬s.isRegistered userId
  | .queueEvent userId state, s =>
    statesOf userId s.npStateEvents ++ [state] <+: statesOf userId s.changes
  | _, _ => True

instance (label : SignInSection) (s : SignIns) : Decidable (InOrder label s) :=
  match label with
  | .table (.store _ userId) => inferInstanceAs (Decidable (¬s.isRegistered userId))
  | .queueEvent userId state =>
    inferInstanceAs (Decidable
      (statesOf userId s.npStateEvents ++ [state] <+: statesOf userId s.changes))
  | .table (.isSignedIn ..) | .table (.create ..) | .table (.abandon ..) | .table (.login ..)
  | .table .startWorker | .table (.eraseReconnect ..) | .table (.remove ..) | .table (.stop ..)
  | .table (.returned ..) | .table .collectDropped | .table .isActive | .table (.mark ..)
  | .table .collectDue | .table .isRunning | .table (.forget ..) | .table (.settle ..)
  | .table (.drop ..) | .table .tick => isTrue trivial

/-- The handler after Initialize, with the users it has connected. -/
def afterInitialize (active : Bool) (users : List Int) : Pool SignIns SignInSection :=
  let connected := users.dedup
  ⟨{ presence :=
      { initialized := active
        workerRunning := active
        clients := connected.map (fun userId => ⟨userId, true, true⟩) }
     npStateEvents := connected.map (fun userId => ⟨userId, .signedIn⟩)
     changes := connected.map (fun userId => ⟨userId, .signedIn⟩)
     connected := connected.length
     registered := connected.zipIdx.map (fun entry => ⟨entry.1, entry.2⟩) }, []⟩

/-! ### Alternation -/

def nextState (first : OrbisNpState) : List OrbisNpState → OrbisNpState
  | [] => first
  | _ :: rest => nextState first.other rest

theorem alternates_concat {first state : OrbisNpState} {states : List OrbisNpState} :
    Alternates first (states ++ [state]) ↔
      Alternates first states ∧ state = nextState first states := by
  induction states generalizing first with
  | nil => simp [Alternates, nextState]
  | cons head rest ih => simp only [List.cons_append, Alternates, nextState, ih, and_assoc]

theorem Alternates.left {first : OrbisNpState} {states rest : List OrbisNpState}
    (alternates : Alternates first (states ++ rest)) : Alternates first states := by
  induction states generalizing first with
  | nil => trivial
  | cons head tail ih => exact ⟨alternates.1, ih alternates.2⟩

/-- Two alternating sequences differ in their lengths only. -/
theorem Alternates.prefix_of_le {first : OrbisNpState} {states more : List OrbisNpState}
    (alternates : Alternates first states) (longer : Alternates first more)
    (shorter : states.length ≤ more.length) : states <+: more := by
  induction states generalizing first more with
  | nil => exact List.nil_prefix
  | cons head rest ih =>
    cases more with
    | nil => exact absurd shorter (Nat.not_succ_le_zero _)
    | cons head' rest' =>
      rw [alternates.1, longer.1]
      exact List.prefix_cons_inj first |>.mpr
        (ih alternates.2 longer.2 (Nat.le_of_succ_le_succ shorter))

theorem Alternates.nextState_eq {first : OrbisNpState} {states : List OrbisNpState}
    (alternates : Alternates first states) :
    nextState first states = (states.getLast?).elim first OrbisNpState.other := by
  induction states generalizing first with
  | nil => rfl
  | cons head rest ih =>
    obtain ⟨rfl, later⟩ := alternates
    rw [nextState, ih later]
    cases rest with
    | nil => rfl
    | cons next more => rfl

/-- The next state is SignedIn after everything but SignedIn. -/
theorem Alternates.next_signedIn {states : List OrbisNpState}
    (alternates : Alternates .signedIn states) :
    nextState .signedIn states = .signedIn ↔ states.getLast? ≠ some .signedIn := by
  rw [alternates.nextState_eq]
  cases states.getLast? with
  | none => simp
  | some state => cases state <;> simp [OrbisNpState.other]

theorem statesOf_append (userId : Int) (first second : List PendingNpStateEvent) :
    statesOf userId (first ++ second) = statesOf userId first ++ statesOf userId second := by
  rw [statesOf, statesOf, statesOf, List.filter_append, List.map_append]

theorem statesOf_own (userId : Int) (state : OrbisNpState) :
    statesOf userId [⟨userId, state⟩] = [state] := by
  simp [statesOf]

theorem statesOf_foreign {userId other : Int} (differ : other ≠ userId) (state : OrbisNpState) :
    statesOf userId [⟨other, state⟩] = [] := by
  simp [statesOf, differ]

/-! ### What a call still has to do -/

inductive Duty where
  | stop (call : Nat) (userId : Int)
  | queue (userId : Int) (state : OrbisNpState)
  deriving DecidableEq, Repr

/-- The event that is queued when the duty is done. -/
def Duty.event : Duty → PendingNpStateEvent
  | .stop _ userId => ⟨userId, .signedOut⟩
  | .queue userId state => ⟨userId, state⟩

def stopDuty : Section → Option Duty
  | .stop call userId => some (.stop call userId)
  | _ => none

def takenOut : Section → Presence → Option Duty
  | .remove call userId, s =>
    if (lookup Client.userId userId s.clients).isSome then some (.stop call userId) else none
  | _, _ => none

def signInDuty : SignInSection → Option Duty
  | .table label => stopDuty label
  | .queueEvent userId state => some (.queue userId state)

def signInIncurs : SignInSection → SignIns → Option Duty
  | .table label, s =>
    match firedAfter label with
    | some (userId, state) => some (.queue userId state)
    | none => takenOut label s.presence
  | .queueEvent .., _ => none

theorem removeClient_found (call : Nat) (userId : Int) (s : Presence) :
    (removeClient call userId s).1 = (lookup Client.userId userId s.clients).isSome := by
  rw [removeClient]
  cases lookup Client.userId userId s.clients <;> rfl

/-- The client that was taken out is stopped next. -/
theorem clean_disconnectUser (call : Nat) (userId : Int) (note : Presence → Presence) :
    (disconnectUser call userId note).Clean stopDuty takenOut := by
  have stop : (update (.stop call userId) (stopClient call userId) :
      Worker Unit).Dutiful stopDuty takenOut := fun _ => ⟨rfl, trivial⟩
  refine ⟨rfl, fun s => ?_⟩
  change (when ((removeClient call userId s).1 = true)
      (update (.stop call userId) (stopClient call userId) : Worker Unit)).due stopDuty = _ ∧
    (when ((removeClient call userId s).1 = true)
      (update (.stop call userId) (stopClient call userId))).Dutiful stopDuty takenOut
  rw [removeClient_found, takenOut]
  by_cases found : (lookup Client.userId userId s.clients).isSome = true
  · rw [when, if_pos found, if_pos found]
    exact ⟨rfl, stop⟩
  · rw [when, if_neg found, if_neg found]
    exact ⟨rfl, trivial⟩

theorem clean_connectUserById (call : Nat) (userId : Int) (outcome : Outcome) :
    (connectUserById call userId outcome).Clean stopDuty takenOut := by
  refine (clean_locked rfl (fun _ => rfl)).bind (fun _ => ?_)
  refine clean_ite (clean_pure true) (clean_ite (clean_pure false) ?_)
  refine (clean_update rfl (fun _ => rfl)).bind (fun _ => clean_ite ?_ ?_)
  · exact (clean_update rfl (fun _ => rfl)).bind (fun _ => clean_pure true)
  · exact (clean_update rfl (fun _ => rfl)).bind (fun _ => clean_pure false)

theorem clean_tryUser (call : Nat) (userId : Int) (outcome : Outcome) :
    (tryUser call userId outcome).Clean stopDuty takenOut := by
  refine (clean_locked rfl (fun _ => rfl)).bind (fun _ => clean_ite ?_ ?_)
  · exact (clean_connectUserById call userId outcome).bind
      (fun _ => clean_update rfl (fun _ => rfl))
  · exact clean_update rfl (fun _ => rfl)

theorem clean_tryEach (call : Nat) (outcome : Int → Outcome) (due : List Int) :
    (tryEach call outcome due).Clean stopDuty takenOut := by
  induction due with
  | nil => exact clean_pure ()
  | cons userId rest ih =>
    refine (clean_locked rfl (fun _ => rfl)).bind (fun _ => clean_when ?_)
    exact (clean_tryUser call userId (outcome userId)).bind (fun _ => ih)

theorem clean_program (op : Op) : op.program.Clean stopDuty takenOut := by
  cases op with
  | login call userId outcome =>
    refine (clean_update rfl (fun _ => rfl)).bind (fun _ => ?_)
    exact (clean_connectUserById call userId outcome).bind
      (fun _ => clean_when (clean_update rfl (fun _ => rfl)))
  | logout call userId =>
    refine (clean_update rfl (fun _ => rfl)).bind (fun _ => ?_)
    refine (clean_disconnectUser call userId (noteRemoved call userId)).bind (fun _ => ?_)
    exact clean_update rfl (fun _ => rfl)
  | round call outcome =>
    refine (clean_locked rfl (fun _ => rfl)).bind (fun _ => clean_when ?_)
    refine (clean_locked rfl (fun _ => rfl)).bind (fun _ => ?_)
    refine (clean_forEach (fun userId => ?_)).bind (fun _ => ?_)
    · refine (clean_disconnectUser call userId id).bind (fun _ => ?_)
      refine (clean_locked rfl (fun _ => rfl)).bind (fun _ => ?_)
      exact clean_when (clean_update rfl (fun _ => rfl))
    · exact (clean_locked rfl (fun _ => rfl)).bind (fun _ => clean_tryEach call outcome _)
  | connectionLost userId => exact clean_update rfl (fun _ => rfl)
  | elapse time => exact clean_update rfl (fun _ => rfl)

/-- The sections of a program that also queues the events. -/
inductive SignInStep : SignInSection → (SignIns → SignIns) → Prop where
  | table {label : Section} {update : Presence → Presence} (step : Step label update) :
    SignInStep (.table label) (SignIns.table label update)
  | queueEvent (userId : Int) (state : OrbisNpState) :
    SignInStep (.queueEvent userId state) (SignIns.queueNpStateEvent userId state)

theorem withEvents_due {α : Type} (p : Worker α) :
    (withEvents p).due signInDuty = p.due stopDuty := by
  cases p <;> rfl

theorem firedAfter_taken {label : Section} {fired : Int × OrbisNpState}
    (fires : firedAfter label = some fired) (s : Presence) : takenOut label s = none := by
  cases label with
  | remove call userId => simp [firedAfter] at fires
  | _ => rfl

theorem uses_withEvents {α : Type} {p : Worker α} (uses : p.Uses Step) :
    (withEvents p).Uses SignInStep := by
  induction p with
  | done result => trivial
  | atomic label update next ih =>
    refine ⟨.table uses.1, fun s => ?_⟩
    have later := ih s.presence (uses.2 s.presence)
    cases fires : firedAfter label with
    | none => simpa only [fires] using later
    | some fired => simpa only [fires] using ⟨.queueEvent fired.1 fired.2, fun _ => later⟩

theorem dutiful_withEvents {α : Type} {p : Worker α} (dutiful : p.Dutiful stopDuty takenOut) :
    (withEvents p).Dutiful signInDuty signInIncurs := by
  induction p with
  | done result => trivial
  | atomic label update next ih =>
    intro s
    obtain ⟨follows, rest⟩ := dutiful s.presence
    have later := ih s.presence rest
    have free := withEvents_due (next s.presence)
    cases fires : firedAfter label with
    | none =>
      simp only [fires, signInIncurs]
      exact ⟨free.trans follows, later⟩
    | some fired =>
      simp only [fires, signInIncurs]
      refine ⟨rfl, fun _ => ⟨?_, later⟩⟩
      rw [free, follows, firedAfter_taken fires]
      rfl

theorem uses_opWithEvents (op : Op) : op.withEvents.Uses SignInStep :=
  uses_withEvents (uses_program op)

theorem clean_opWithEvents (op : Op) : op.withEvents.Clean signInDuty signInIncurs := by
  refine ⟨?_, dutiful_withEvents (clean_program op).dutiful⟩
  rw [Op.withEvents, withEvents_due]
  exact (clean_program op).free

/-! ### The order of changes and events -/

/-- What holds of the tables and of the duties of all threads. -/
structure Ordered (s : SignIns) (dues : List Duty) : Prop where
  /-- A change is announced already or some thread has to. -/
  announced : s.changes.Perm (s.npStateEvents ++ dues.map Duty.event)
  serials : (s.registered.map Registered.serial ++
    (s.leaving.map Leaving.serial ++ s.stopped)).Perm (List.range s.connected)
  leaving : ∀ client ∈ s.leaving, Duty.stop client.call client.userId ∈ dues
  single : Distinct Registered.userId s.registered
  users : s.presence.clients.map Client.userId = s.registered.map Registered.userId
  alternate : ∀ userId, Alternates .signedIn (statesOf userId s.changes)
  standing : ∀ userId, (statesOf userId s.changes).getLast? = some .signedIn ↔
    s.isRegistered userId
  inTurn : ∀ userId, statesOf userId s.npStateEvents <+: statesOf userId s.changes

theorem isRegistered_iff (userId : Int) (s : SignIns) :
    s.isRegistered userId ↔ userId ∈ s.presence.clients.map Client.userId := by
  rw [SignIns.isRegistered, lookup, List.find?_isSome]
  simp

theorem Ordered.registered_iff {s : SignIns} {dues : List Duty} (ordered : Ordered s dues)
    (userId : Int) :
    s.isRegistered userId ↔ ∃ client ∈ s.registered, client.userId = userId := by
  rw [isRegistered_iff, ordered.users, List.mem_map]

theorem statesOf_perm {first second : List PendingNpStateEvent} (perm : first.Perm second)
    (userId : Int) : (statesOf userId first).length = (statesOf userId second).length :=
  ((perm.filter _).map _).length_eq

/-- A section that changes neither the users of the table nor a duty. -/
theorem ordered_quiet {label : Section} {update : Presence → Presence} {s : SignIns}
    {dues : List Duty} (ordered : Ordered s dues) (follows : s.follow label = s)
    (users : (update s.presence).clients.map Client.userId =
      s.presence.clients.map Client.userId) :
    Ordered (s.table label update) dues := by
  have same : s.table label update = { s with presence := update s.presence } := by
    rw [SignIns.table, follows]
  rw [same]
  refine { ordered with users := users.trans ordered.users, standing := ?_ }
  intro userId
  rw [ordered.standing userId, isRegistered_iff, isRegistered_iff]
  exact Eq.to_iff (congrArg (userId ∈ ·) users.symm)

theorem users_remove (userId : Int) {s : SignIns} {dues : List Duty} (ordered : Ordered s dues) :
    (remove Client.userId userId s.presence.clients).map Client.userId =
      (remove Registered.userId userId s.registered).map Registered.userId := by
  have key {α : Type} (key : α → Int) (items : List α) :
      (remove key userId items).map key =
        (items.map key).filter (fun user => decide (user ≠ userId)) := by
    rw [remove, List.filter_map]
    rfl
  rw [key, key, ordered.users]

/-- The states of a user after one more change of some user. -/
theorem standing_concat {s : SignIns} {dues : List Duty} (ordered : Ordered s dues)
    (s' : SignIns) (userId : Int) (state : OrbisNpState)
    (changes : s'.changes = s.changes ++ [⟨userId, state⟩])
    (before : s.isRegistered userId ↔ state = .signedOut)
    (after : s'.isRegistered userId ↔ state = .signedIn)
    (others : ∀ user, user ≠ userId → (s'.isRegistered user ↔ s.isRegistered user)) (user : Int) :
    Alternates .signedIn (statesOf user s'.changes) ∧
      ((statesOf user s'.changes).getLast? = some .signedIn ↔ s'.isRegistered user) := by
  rw [changes, statesOf_append]
  by_cases same : user = userId
  · subst same
    have alternates := ordered.alternate user
    have next := alternates.next_signedIn
    rw [Ne, ordered.standing user, before] at next
    rw [statesOf_own, alternates_concat, List.getLast?_concat, after, Option.some_inj]
    refine ⟨⟨alternates, ?_⟩, Iff.rfl⟩
    cases state with
    | signedIn => exact (next.mpr OrbisNpState.noConfusion).symm
    | signedOut =>
      cases last : nextState .signedIn (statesOf user s.changes) with
      | signedIn => exact absurd rfl (next.mp last)
      | signedOut => rfl
  · rw [statesOf_foreign (Ne.symm same), List.append_nil, others user same]
    exact ⟨ordered.alternate user, ordered.standing user⟩

theorem ordered_register {call : Nat} {userId : Int} {s : SignIns} {before after : List Duty}
    (ordered : Ordered s (before ++ after)) (free : ¬s.isRegistered userId) :
    Ordered (s.table (.store call userId) (storeClient call userId))
      (before ++ [.queue userId .signedIn] ++ after) := by
  have absent : ∀ client ∈ s.registered, client.userId ≠ userId :=
    fun client member same => free ((ordered.registered_iff userId).mpr ⟨client, member, same⟩)
  have kept : remove Registered.userId userId s.registered = s.registered :=
    remove_of_lookup_none (lookup_none.mpr absent)
  let s' := s.table (.store call userId) (storeClient call userId)
  have registered : s'.registered = s.registered ++ [⟨userId, s.connected⟩] := by
    change remove Registered.userId userId s.registered ++ _ = _
    rw [kept]
  have users : s'.presence.clients.map Client.userId =
      s'.registered.map Registered.userId := by
    change (remove Client.userId userId s.presence.clients ++ _).map Client.userId = _
    rw [List.map_append, users_remove userId ordered, kept, registered, List.map_append]
    rfl
  have listed : ∀ user, s'.isRegistered user ↔ s.isRegistered user ∨ user = userId := by
    intro user
    rw [isRegistered_iff, users, registered, isRegistered_iff, ordered.users, List.map_append,
      List.mem_append]
    exact or_congr Iff.rfl List.mem_singleton
  have states := standing_concat ordered s' userId .signedIn rfl
    (iff_of_false free OrbisNpState.noConfusion)
    (iff_of_true ((listed userId).mpr (Or.inr rfl)) rfl)
    (fun user other => (listed user).trans (or_iff_left other))
  refine ⟨?_, ?_, ?_, ?_, users, fun user => (states user).1, fun user => (states user).2, ?_⟩
  · change (s.changes ++ [PendingNpStateEvent.mk userId .signedIn]).Perm _
    refine (ordered.announced.append_right _).trans ?_
    simp only [List.map_append, List.map_cons, List.map_nil, Duty.event, List.append_assoc]
    exact (List.perm_append_comm.append_left _).append_left _
  · change (s'.registered.map Registered.serial ++ _).Perm (List.range (s.connected + 1))
    rw [registered, List.map_append, List.range_succ, List.append_assoc]
    refine (List.perm_append_comm.append_left _).trans ?_
    rw [← List.append_assoc]
    exact ordered.serials.append_right _
  · intro client member
    have there := ordered.leaving client member
    simp only [List.mem_append] at there ⊢
    exact there.imp_left Or.inl
  · exact ordered.single.store
  · intro user
    change _ <+: statesOf user (s.changes ++ _)
    rw [statesOf_append]
    exact (ordered.inTurn user).trans (List.prefix_append _ _)

theorem follow_remove {call : Nat} {userId : Int} {s : SignIns} (found : s.isRegistered userId) :
    s.follow (.remove call userId) = s.takeClient call userId :=
  if_pos found

theorem ordered_take {call : Nat} {userId : Int} {update : Presence → Presence} {s : SignIns}
    {before after : List Duty} (ordered : Ordered s (before ++ after))
    (found : s.isRegistered userId)
    (takes : (update s.presence).clients = remove Client.userId userId s.presence.clients) :
    Ordered (s.table (.remove call userId) update)
      (before ++ [.stop call userId] ++ after) := by
  let s' : SignIns := { s.takeClient call userId with presence := update s.presence }
  have taken : s.table (.remove call userId) update = s' := by
    rw [SignIns.table, follow_remove found]
  rw [taken]
  have users : s'.presence.clients.map Client.userId = s'.registered.map Registered.userId := by
    change (update s.presence).clients.map Client.userId = _
    rw [takes]
    exact users_remove userId ordered
  have listed : ∀ user, s'.isRegistered user ↔ s.isRegistered user ∧ user ≠ userId := by
    intro user
    rw [isRegistered_iff, isRegistered_iff]
    change user ∈ (update s.presence).clients.map Client.userId ↔ _
    rw [takes]
    simp only [List.mem_map, mem_remove]
    constructor
    · rintro ⟨client, ⟨member, other⟩, rfl⟩
      exact ⟨⟨client, member, rfl⟩, other⟩
    · rintro ⟨⟨client, member, rfl⟩, other⟩
      exact ⟨client, ⟨member, other⟩, rfl⟩
  have states := standing_concat ordered s' userId .signedOut rfl
    (iff_of_true found rfl)
    (iff_of_false (fun still => ((listed userId).mp still).2 rfl) OrbisNpState.noConfusion)
    (fun user other => (listed user).trans (and_iff_left other))
  refine ⟨?_, ?_, ?_, ?_, users, fun user => (states user).1, fun user => (states user).2, ?_⟩
  · change (s.changes ++ [PendingNpStateEvent.mk userId .signedOut]).Perm _
    refine (ordered.announced.append_right _).trans ?_
    simp only [List.map_append, List.map_cons, List.map_nil, Duty.event, List.append_assoc]
    exact (List.perm_append_comm.append_left _).append_left _
  · refine List.Perm.trans ?_ ordered.serials
    change ((remove Registered.userId userId s.registered).map Registered.serial ++
      ((s.leaving ++ (s.serialOf userId).map (Leaving.mk call userId)).map Leaving.serial ++
        s.stopped)).Perm _
    have serials : ((s.serialOf userId).map (Leaving.mk call userId)).map Leaving.serial =
        s.serialOf userId := by
      rw [List.map_map]
      exact List.map_id _
    have parts : (s.serialOf userId ++
        (remove Registered.userId userId s.registered).map Registered.serial).Perm
          (s.registered.map Registered.serial) := by
      rw [SignIns.serialOf, ← List.map_append]
      refine List.Perm.map _ ?_
      simpa only [remove, decide_not] using
        List.filter_append_perm (fun r => decide (r.userId = userId)) s.registered
    rw [List.map_append, serials, List.append_assoc]
    have moved : (s.leaving.map Leaving.serial ++ (s.serialOf userId ++ s.stopped)).Perm
        (s.serialOf userId ++ (s.leaving.map Leaving.serial ++ s.stopped)) := by
      rw [← List.append_assoc, ← List.append_assoc]
      exact List.perm_append_comm.append_right _
    refine (moved.append_left _).trans ?_
    rw [← List.append_assoc]
    exact (List.perm_append_comm.trans parts).append_right _
  · intro client member
    rcases List.mem_append.mp member with old | new
    · have there := ordered.leaving client old
      simp only [List.mem_append] at there ⊢
      exact there.imp_left Or.inl
    · obtain ⟨serial, -, rfl⟩ := List.mem_map.mp new
      simp
  · exact ordered.single.remove
  · intro user
    change _ <+: statesOf user (s.changes ++ _)
    rw [statesOf_append]
    exact (ordered.inTurn user).trans (List.prefix_append _ _)

theorem ordered_end {call : Nat} {userId : Int} {s : SignIns} {before after : List Duty}
    (ordered : Ordered s (before ++ [.stop call userId] ++ after)) :
    Ordered (s.table (.stop call userId) (stopClient call userId))
      (before ++ [.queue userId .signedOut] ++ after) := by
  refine { ordered with announced := ?_, serials := ?_, leaving := ?_ }
  · have announced := ordered.announced
    simp only [List.map_append, List.map_cons, List.map_nil] at announced ⊢
    exact announced
  · refine List.Perm.trans ?_ ordered.serials
    refine List.Perm.append_left _ ?_
    change ((s.leaving.filter (fun client => !SignIns.inCall call userId client)).map
        Leaving.serial ++ (s.stopped ++
          (s.leaving.filter (SignIns.inCall call userId)).map Leaving.serial)).Perm _
    refine (List.perm_append_comm.append_left _).trans ?_
    rw [← List.append_assoc, ← List.map_append]
    refine List.Perm.append_right _ (List.Perm.map _ ?_)
    exact List.perm_append_comm.trans
      (List.filter_append_perm (SignIns.inCall call userId) s.leaving)
  · intro client member
    obtain ⟨there, other⟩ := List.mem_filter.mp member
    have kept := ordered.leaving client there
    have differ : Duty.stop client.call client.userId ≠ .stop call userId := by
      intro same
      obtain ⟨sameCall, sameUser⟩ := Duty.stop.inj same
      simp [SignIns.inCall, sameCall, sameUser] at other
    simp only [List.mem_append, List.mem_singleton] at kept ⊢
    exact kept.imp_left (fun left => Or.inl (left.resolve_right differ))

theorem ordered_queue {userId : Int} {state : OrbisNpState} {s : SignIns}
    {before after : List Duty}
    (ordered : Ordered s (before ++ [.queue userId state] ++ after))
    (next : statesOf userId s.npStateEvents ++ [state] <+: statesOf userId s.changes) :
    Ordered (s.queueNpStateEvent userId state) (before ++ after) := by
  refine { ordered with announced := ?_, leaving := ?_, inTurn := ?_ }
  · refine ordered.announced.trans ?_
    change List.Perm _ ((s.npStateEvents ++ [PendingNpStateEvent.mk userId state]) ++ _)
    simp only [List.map_append, List.map_cons, List.map_nil, Duty.event, List.append_assoc]
    refine List.Perm.append_left _ ?_
    rw [← List.append_assoc, ← List.append_assoc]
    exact List.perm_append_comm.append_right _
  · intro client member
    have kept := ordered.leaving client member
    simp only [List.mem_append, List.mem_singleton] at kept ⊢
    exact kept.imp_left (fun left => left.resolve_right Duty.noConfusion)
  · intro user
    change statesOf user (s.npStateEvents ++ _) <+: _
    rw [statesOf_append]
    by_cases same : user = userId
    · rw [same, statesOf_own]
      exact next
    · rw [statesOf_foreign (Ne.symm same), List.append_nil]
      exact ordered.inTurn user

theorem clients_removeClient (call : Nat) (userId : Int) {s : Presence}
    (found : (lookup Client.userId userId s.clients).isSome) :
    (removeClient call userId s).2.clients = remove Client.userId userId s.clients := by
  obtain ⟨client, there⟩ := Option.isSome_iff_exists.mp found
  rw [removeClient, there]

theorem clients_noteRemoved (call : Nat) (userId : Int) (s : Presence) :
    (noteRemoved call userId s).clients = s.clients := by
  rw [noteRemoved]
  split <;> rfl

/-- Every section, with the duty that it discharges replaced by the one that it incurs. -/
theorem ordered_step {label : SignInSection} {update : SignIns → SignIns}
    (step : SignInStep label update) {s : SignIns} {before after : List Duty}
    (ordered : Ordered s (before ++ (signInDuty label).toList ++ after))
    (inOrder : InOrder label s) :
    Ordered (update s) (before ++ (signInIncurs label s).toList ++ after) := by
  have removing {call : Nat} {userId : Int} {update : Presence → Presence}
      (ordered : Ordered s (before ++ [] ++ after))
      (takes : s.isRegistered userId →
        (update s.presence).clients = remove Client.userId userId s.presence.clients)
      (stays : ¬s.isRegistered userId → (update s.presence).clients = s.presence.clients) :
      Ordered (s.table (.remove call userId) update)
        (before ++ (signInIncurs (.table (.remove call userId)) s).toList ++ after) := by
    by_cases found : s.isRegistered userId
    · have duty : signInIncurs (.table (.remove call userId)) s = some (.stop call userId) :=
        if_pos found
      rw [duty]
      rw [List.append_nil] at ordered
      exact ordered_take ordered found (takes found)
    · have duty : signInIncurs (.table (.remove call userId)) s = none := if_neg found
      rw [duty]
      exact ordered_quiet ordered (if_neg found) (by rw [stays found])
  cases step with
  | queueEvent userId state =>
    change Ordered _ (before ++ [] ++ after)
    rw [List.append_nil]
    exact ordered_queue ordered inOrder
  | table step =>
    cases step with
    | store call userId =>
      have same : before ++ [] ++ after = before ++ after := by rw [List.append_nil]
      exact ordered_register (same ▸ ordered) inOrder
    | stop call userId => exact ordered_end ordered
    | disconnect call userId =>
      refine removing ordered (clients_removeClient call userId) (fun absent => ?_)
      rw [removeClient, Option.not_isSome_iff_eq_none.mp absent]
    | logOff call userId =>
      refine removing ordered (fun found => ?_) (fun absent => ?_)
      · rw [clients_noteRemoved, clients_removeClient call userId found]
      · rw [clients_noteRemoved, removeClient, Option.not_isSome_iff_eq_none.mp absent]
    | drop userId =>
      have keeps (client : Client) : Client.userId
          { client with connected := false, authenticated := false } = client.userId := rfl
      exact ordered_quiet ordered rfl (map_key_adjust keeps _)
    | settle userId ok =>
      refine ordered_quiet ordered rfl ?_
      rw [settle]
      split <;> rfl
    | returned call userId =>
      refine ordered_quiet ordered rfl ?_
      rw [noteReturned]
      split <;> rfl
    | _ => exact ordered_quiet ordered rfl rfl

theorem Ordered.matches {pool : Pool SignIns SignInSection}
    (ordered : Ordered pool.state (pool.dues signInDuty)) : EventsMatch pool := by
  have alternate (userId : Int) :
      Alternates .signedIn (statesOf userId pool.state.npStateEvents) := by
    obtain ⟨rest, whole⟩ := ordered.inTurn userId
    exact (whole ▸ ordered.alternate userId : Alternates .signedIn (_ ++ rest)).left
  refine ⟨alternate, ?_, ?_, ?_⟩
  · rw [Distinct, ordered.users]
    exact ordered.single
  · intro serial made
    have listed := ordered.serials.mem_iff.mpr (List.mem_range.mpr made)
    simpa only [List.mem_append] using listed
  · intro finished
    have free : pool.dues signInDuty = [] := finished.dues
    constructor
    · refine List.eq_nil_iff_forall_not_mem.mpr (fun client member => ?_)
      have owed := ordered.leaving client member
      rw [free] at owed
      exact List.not_mem_nil owed
    · intro userId
      have announced := ordered.announced
      rw [free, List.map_nil, List.append_nil] at announced
      have same := (ordered.inTurn userId).eq_of_length (statesOf_perm announced userId).symm
      rw [same]
      exact ordered.standing userId

/-- A client that is replaced is never stopped. -/
theorem replaced_lost (call : Nat) {userId : Int} (update : Presence → Presence) {s : SignIns}
    {dues : List Duty} (ordered : Ordered s dues) (found : s.isRegistered userId) :
    ∃ serial < (s.table (.store call userId) update).connected,
      serial ∉ (s.table (.store call userId) update).registered.map Registered.serial ++
        ((s.table (.store call userId) update).leaving.map Leaving.serial ++
          (s.table (.store call userId) update).stopped) := by
  let kept := remove Registered.userId userId s.registered
  let all := (kept ++ [Registered.mk userId s.connected]).map Registered.serial ++
    (s.leaving.map Leaving.serial ++ s.stopped)
  obtain ⟨client, member, own⟩ := (ordered.registered_iff userId).mp found
  have fewer : kept.length < s.registered.length := by
    refine List.length_filter_lt_length_iff_exists.mpr ⟨client, member, ?_⟩
    simp [own]
  have count : s.registered.length + (s.leaving.length + s.stopped.length) = s.connected := by
    simpa using ordered.serials.length_eq
  by_contra none_
  have covered : List.range (s.connected + 1) ⊆ all := by
    intro serial made
    by_contra missing
    exact none_ ⟨serial, List.mem_range.mp made, missing⟩
  have enough := (List.subperm_of_subset List.nodup_range covered).length_le
  simp only [all, List.length_range, List.length_append, List.length_map,
    List.length_singleton] at enough
  omega

/-- A section that is not in order shows in the state after it. -/
theorem inOrder_of_matches {label : SignInSection} {update : SignIns → SignIns}
    (step : SignInStep label update) {s : SignIns} {before after : List Duty}
    (ordered : Ordered s (before ++ (signInDuty label).toList ++ after))
    {pool : Pool SignIns SignInSection} (state : pool.state = update s)
    (holds : EventsMatch pool) : InOrder label s := by
  cases step with
  | queueEvent userId event =>
    have alternates := holds.alternate userId
    have queued : statesOf userId (s.queueNpStateEvent userId event).npStateEvents =
        statesOf userId s.npStateEvents ++ [event] := by
      change statesOf userId (s.npStateEvents ++ _) = _
      rw [statesOf_append, statesOf_own]
    rw [state, queued] at alternates
    have counted := statesOf_perm ordered.announced userId
    have owed : (statesOf userId ((before ++ [Duty.queue userId event] ++ after).map
        Duty.event)).length ≠ 0 := by
      simp [statesOf, Duty.event]
    refine alternates.prefix_of_le (ordered.alternate userId) ?_
    rw [statesOf_append, List.length_append] at counted
    rw [List.length_append, List.length_singleton, counted]
    exact Nat.add_le_add_left (Nat.pos_of_ne_zero owed) _
  | @table label update step =>
    cases label with
    | store call userId =>
      intro found
      obtain ⟨serial, made, lost⟩ := replaced_lost call update ordered found
      have held := holds.stopped serial
      rw [state] at held
      have there := held made
      simp only [List.mem_append, not_or] at lost
      rcases there with registered | leaving | stopped
      · exact lost.1 registered
      · exact lost.2.1 leaving
      · exact lost.2.2 stopped
    | _ => trivial

/-! ### Every interleaving -/

theorem statesOf_connected {users : List Int} (once : users.Nodup) (userId : Int) :
    statesOf userId (users.map (fun user => ⟨user, .signedIn⟩)) =
      if userId ∈ users then [.signedIn] else [] := by
  induction users with
  | nil => rfl
  | cons user rest ih =>
    obtain ⟨fresh, later⟩ := List.nodup_cons.mp once
    have split := statesOf_append userId [⟨user, .signedIn⟩]
      (rest.map (fun user => ⟨user, .signedIn⟩))
    rw [List.map_cons, ← List.singleton_append, split, ih later]
    by_cases same : user = userId
    · rw [same] at fresh ⊢
      rw [statesOf_own, if_neg fresh, if_pos (List.mem_cons_self ..)]
      rfl
    · rw [statesOf_foreign same, List.nil_append]
      simp only [List.mem_cons, Ne.symm same, false_or]

theorem ordered_afterInitialize (active : Bool) (users : List Int) :
    Ordered (afterInitialize active users).state [] := by
  have once := users.nodup_dedup
  have listed (userId : Int) :
      (afterInitialize active users).state.isRegistered userId ↔ userId ∈ users.dedup := by
    rw [isRegistered_iff, afterInitialize, List.map_map]
    exact Eq.to_iff (congrArg (userId ∈ ·) (List.map_id _))
  have names : (afterInitialize active users).state.registered.map Registered.userId =
      users.dedup := by
    rw [afterInitialize, List.map_map]
    exact List.zipIdx_map_fst 0 _
  refine ⟨?_, ?_, ?_, ?_, ?_, ?_, ?_, fun _ => List.prefix_rfl⟩
  · exact List.Perm.of_eq (List.append_nil _).symm
  · change ((users.dedup.zipIdx.map _).map Registered.serial ++ []).Perm
      (List.range users.dedup.length)
    rw [List.append_nil, List.map_map, List.range_eq_range']
    exact List.Perm.of_eq (List.zipIdx_map_snd 0 _)
  · intro client member
    cases member
  · rw [Distinct, names]
    exact once
  · rw [names, afterInitialize, List.map_map]
    exact List.map_id _
  · intro userId
    rw [afterInitialize, statesOf_connected once]
    split
    · exact ⟨rfl, trivial⟩
    · trivial
  · intro userId
    rw [listed userId, afterInitialize, statesOf_connected once]
    split <;> simp [*]

def runSignIns (actions : List (Action Op)) (pool : Pool SignIns SignInSection) :
    Pool SignIns SignInSection :=
  Runs.run (Pool.step Op.withEvents) actions pool

/-- Every section of the run that registers a client or queues an event is in order. -/
def SignInsInOrder (actions : List (Action Op)) (pool : Pool SignIns SignInSection) : Prop :=
  Runs.Admitted (Pool.step Op.withEvents) (Pool.Permitted InOrder) actions pool

instance (actions : List (Action Op)) (pool : Pool SignIns SignInSection) :
    Decidable (SignInsInOrder actions pool) :=
  inferInstanceAs (Decidable (Runs.Admitted _ _ _ _))

/-- What is kept as long as all is in order. -/
structure InLine (pool : Pool SignIns SignInSection) : Prop where
  obedient : Pool.Obedient SignInStep signInDuty signInIncurs pool
  ordered : Ordered pool.state (pool.dues signInDuty)

theorem inLine_step {action : Action Op} {pool : Pool SignIns SignInSection}
    (inLine : InLine pool) (permitted : Pool.Permitted InOrder action pool) :
    InLine (Pool.step Op.withEvents action pool) := by
  obtain ⟨obedient, ⟨-, state, dues⟩ | ⟨label, update, before, after, step, taken, state, was,
    now⟩⟩ := Pool.step_dues uses_opWithEvents clean_opWithEvents inLine.obedient action
  · refine ⟨obedient, ?_⟩
    rw [state, dues]
    exact inLine.ordered
  · refine ⟨obedient, ?_⟩
    rw [state, now]
    exact ordered_step step (was ▸ inLine.ordered) (permitted label taken)

theorem permitted_of_matches {action : Action Op} {pool : Pool SignIns SignInSection}
    (inLine : InLine pool) (holds : EventsMatch (Pool.step Op.withEvents action pool)) :
    Pool.Permitted InOrder action pool := by
  intro label taken
  obtain ⟨-, ⟨free, -⟩ | ⟨label', update, before, after, step, taken', state, was, -⟩⟩ :=
    Pool.step_dues uses_opWithEvents clean_opWithEvents inLine.obedient action
  · rw [free] at taken
    cases taken
  · have same : label' = label := Option.some.inj (taken'.symm.trans taken)
    exact same ▸ inOrder_of_matches step (was ▸ inLine.ordered) state holds

theorem inLine_afterInitialize (active : Bool) (users : List Int) :
    InLine (afterInitialize active users) := by
  refine ⟨⟨?_, ?_⟩, ordered_afterInitialize active users⟩ <;>
  · intro p member
    cases member

example : SignInsInOrder restored (afterInitialize true [ali]) := by decide +kernel

/-- The user logs in again while the worker restores the lost connection. -/
def loginMeetsReconnect : List (Action Op) :=
  Action.serial 12 [.connectionLost ali, .round 0 (fun _ => .fails), .elapse 5000] ++
    [.spawn (.round 1 (fun _ => .succeeds))] ++ List.replicate 7 (.take 3) ++
    [.spawn (.login 2 ali .succeeds)] ++ List.replicate 5 (.take 4) ++ List.replicate 3 (.take 3)

end NpWorker
