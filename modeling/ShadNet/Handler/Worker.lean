import ShadNet.LockProgram
import ShadNet.KeyedTable

/-!
# Logins, logouts and the worker thread

The tables `m_clients` and `m_reconnects` under their mutex, with the worker
thread that looks for lost connections and tries to restore them. A thread that
is between two sections may hold a client that is not in the table: one it is
connecting, or one it has taken out and not yet stopped.
-/

namespace NpWorker

open LockProgram LockProgram.Prog KeyedTable

structure Client where
  userId : Int
  connected : Bool
  authenticated : Bool
  deriving DecidableEq, Repr

structure ReconnectState where
  userId : Int
  nextAttempt : Nat
  backoff : Nat
  deriving DecidableEq, Repr

/-- A client on its way from the table to its end. -/
structure Stopping where
  call : Nat
  client : Client
  deriving DecidableEq, Repr

structure Presence where
  initialized : Bool := true
  workerRunning : Bool := false
  clock : Nat := 0
  clients : List Client := []
  reconnects : List ReconnectState := []
  /-- Clients that ConnectUser has started, by call and user. -/
  connecting : List (Nat × Int) := []
  stopping : List Stopping := []
  /-- Logouts that have erased the reconnect entry, then taken the client out, and the users whose
  logout has returned; a login of the user clears them. -/
  erasedBy : List (Nat × Int) := []
  removedBy : List (Nat × Int) := []
  loggedOut : List Int := []
  deriving DecidableEq, Repr

inductive Section where
  | isSignedIn (userId : Int)
  | create (call : Nat) (userId : Int)
  | store (call : Nat) (userId : Int)
  | abandon (call : Nat) (userId : Int)
  | login (userId : Int)
  | startWorker
  | eraseReconnect (call : Nat) (userId : Int)
  | remove (call : Nat) (userId : Int)
  | stop (call : Nat) (userId : Int)
  | returned (call : Nat) (userId : Int)
  | collectDropped
  | isActive
  | mark (userId : Int)
  | collectDue
  | isRunning
  | forget (userId : Int)
  | settle (userId : Int)
  | drop (userId : Int)
  | tick
  deriving DecidableEq, Repr

abbrev Worker (α : Type) := Prog Presence Section α

/-! ### Sections -/

def ofUser (userId : Int) (items : List (Nat × Int)) : Prop := ∃ item ∈ items, item.2 = userId

instance (userId : Int) (items : List (Nat × Int)) : Decidable (ofUser userId items) :=
  inferInstanceAs (Decidable (∃ item ∈ items, item.2 = userId))

def signedIn (userId : Int) (s : Presence) : Bool :=
  (lookup Client.userId userId s.clients).elim false
    (fun client => s.initialized && client.authenticated)

/-- The client a call has connected goes into the table; one that was there is replaced. -/
def storeClient (call : Nat) (userId : Int) (s : Presence) : Presence :=
  { s with
    clients := store Client.userId ⟨userId, true, true⟩ s.clients
    connecting := s.connecting.erase (call, userId) }

def clearMarks (userId : Int) (s : Presence) : Presence :=
  { s with
    erasedBy := s.erasedBy.filter (fun item => decide (item.2 ≠ userId))
    removedBy := s.removedBy.filter (fun item => decide (item.2 ≠ userId))
    loggedOut := s.loggedOut.filter (fun user => decide (user ≠ userId)) }

def eraseReconnect (userId : Int) (s : Presence) : Presence :=
  { s with reconnects := remove ReconnectState.userId userId s.reconnects }

/-- The client is moved out of the table; it is the caller that stops it. -/
def removeClient (call : Nat) (userId : Int) (s : Presence) : Bool × Presence :=
  match lookup Client.userId userId s.clients with
  | none => (false, s)
  | some client =>
    (true,
      { s with
        clients := remove Client.userId userId s.clients
        stopping := s.stopping ++ [⟨call, client⟩] })

def stopClient (call : Nat) (userId : Int) (s : Presence) : Presence :=
  { s with
    stopping := s.stopping.filter
      (fun held => decide (¬(held.call = call ∧ held.client.userId = userId))) }

def noteErased (call : Nat) (userId : Int) (s : Presence) : Presence :=
  { s with erasedBy := s.erasedBy ++ [(call, userId)] }

/-- The logout counts while no login of the user has begun since it did. -/
def noteRemoved (call : Nat) (userId : Int) (s : Presence) : Presence :=
  if (call, userId) ∈ s.erasedBy then { s with removedBy := s.removedBy ++ [(call, userId)] }
  else s

def noteReturned (call : Nat) (userId : Int) (s : Presence) : Presence :=
  if (call, userId) ∈ s.removedBy then { s with loggedOut := s.loggedOut ++ [userId] } else s

def droppedUsers (s : Presence) : List Int :=
  (s.clients.filter (fun client => !client.connected)).map Client.userId

def markForReconnect (userId : Int) (s : Presence) : Presence :=
  { s with
    reconnects := store ReconnectState.userId ⟨userId, s.clock + 2000, 2000⟩ s.reconnects }

def dueUsers (s : Presence) : List Int :=
  (s.reconnects.filter (fun entry =>
    (lookup Client.userId entry.userId s.clients).isSome || decide (entry.nextAttempt ≤ s.clock))).map
      ReconnectState.userId

def backOff (clock : Nat) (entry : ReconnectState) : ReconnectState :=
  let backoff := min (entry.backoff * 2) 30000
  { entry with backoff := backoff, nextAttempt := clock + backoff }

def settle (userId : Int) (ok : Bool) (s : Presence) : Presence :=
  if ok || (lookup Client.userId userId s.clients).isSome then eraseReconnect userId s
  else
    { s with
      reconnects := adjust ReconnectState.userId userId (backOff s.clock) s.reconnects }

def dropConnection (userId : Int) (s : Presence) : Presence :=
  { s with
    clients := adjust Client.userId userId
      (fun client => { client with connected := false, authenticated := false }) s.clients }

/-! ### Programs -/

/-- How an attempt of ConnectUserById ends, when the user is not signed in. -/
inductive Outcome where
  | disabled
  | fails
  | succeeds
  deriving DecidableEq, Repr

def connectUser (call : Nat) (userId : Int) (succeeds : Bool) : Worker Bool := do
  update (.create call userId)
    (fun s => { s with connecting := s.connecting ++ [(call, userId)] })
  if succeeds then
    update (.store call userId) (storeClient call userId)
    return true
  else
    update (.abandon call userId)
      (fun s => { s with connecting := s.connecting.erase (call, userId) })
    return false

def connectUserById (call : Nat) (userId : Int) (outcome : Outcome) : Worker Bool := do
  let already ← locked (.isSignedIn userId) (fun s => (signedIn userId s, s))
  if already then return true
  else if outcome = .disabled then return false
  else connectUser call userId (outcome = .succeeds)

def disconnectUser (call : Nat) (userId : Int) (note : Presence → Presence) : Worker Unit := do
  let found ← locked (.remove call userId)
    (fun s => ((removeClient call userId s).1, note (removeClient call userId s).2))
  when (found = true) (update (.stop call userId) (stopClient call userId))

def onUserLoggedIn (call : Nat) (userId : Int) (outcome : Outcome) : Worker Unit := do
  update (.login userId) (clearMarks userId)
  let connected ← connectUserById call userId outcome
  when (connected = true) (update .startWorker (fun s => { s with workerRunning := true }))

def onUserLoggedOut (call : Nat) (userId : Int) : Worker Unit := do
  update (.eraseReconnect call userId)
    (fun s => noteErased call userId (eraseReconnect userId s))
  disconnectUser call userId (noteRemoved call userId)
  update (.returned call userId) (noteReturned call userId)

def reconnectLater (userId : Int) : Worker Unit := do
  let active ← locked .isActive (fun s => (s.initialized, s))
  when (active = true) (update (.mark userId) (markForReconnect userId))

def tryUser (call : Nat) (userId : Int) (outcome : Outcome) : Worker Unit := do
  let active ← locked .isActive (fun s => (s.initialized, s))
  if active = true then do
    let ok ← connectUserById call userId outcome
    update (.settle userId) (settle userId ok)
  else update (.forget userId) (eraseReconnect userId)

/-- The loop over the due users returns as soon as the worker is to stop. -/
def tryEach (call : Nat) (outcome : Int → Outcome) : List Int → Worker Unit
  | [] => pure ()
  | userId :: rest => do
    let running ← locked .isRunning (fun s => (s.workerRunning, s))
    when (running = true) (do
      tryUser call userId (outcome userId)
      tryEach call outcome rest)

def tryReconnect (call : Nat) (outcome : Int → Outcome) : Worker Unit := do
  let due ← locked .collectDue (fun s => (dueUsers s, s))
  tryEach call outcome due

/-- One round of the worker thread's loop. -/
def workerRound (call : Nat) (outcome : Int → Outcome) : Worker Unit := do
  let running ← locked .isRunning (fun s => (s.workerRunning, s))
  when (running = true) (do
    let dropped ← locked .collectDropped (fun s => (droppedUsers s, s))
    forEach dropped (fun userId => do
      disconnectUser call userId id
      reconnectLater userId)
    tryReconnect call outcome)

inductive Op where
  | login (call : Nat) (userId : Int) (outcome : Outcome)
  | logout (call : Nat) (userId : Int)
  | round (call : Nat) (outcome : Int → Outcome)
  | connectionLost (userId : Int)
  | elapse (time : Nat)

def Op.program : Op → Worker Unit
  | .login call userId outcome => onUserLoggedIn call userId outcome
  | .logout call userId => onUserLoggedOut call userId
  | .round call outcome => workerRound call outcome
  | .connectionLost userId => update (.drop userId) (dropConnection userId)
  | .elapse time => update .tick (fun s => { s with clock := s.clock + time })

/-! ### What a section may do -/

/-- The sections of all programs, by label. -/
inductive Step : Section → (Presence → Presence) → Prop where
  | isSignedIn (userId : Int) : Step (.isSignedIn userId) id
  | create (call : Nat) (userId : Int) :
    Step (.create call userId) (fun s => { s with connecting := s.connecting ++ [(call, userId)] })
  | store (call : Nat) (userId : Int) : Step (.store call userId) (storeClient call userId)
  | abandon (call : Nat) (userId : Int) :
    Step (.abandon call userId)
      (fun s => { s with connecting := s.connecting.erase (call, userId) })
  | login (userId : Int) : Step (.login userId) (clearMarks userId)
  | startWorker : Step .startWorker (fun s => { s with workerRunning := true })
  | eraseReconnect (call : Nat) (userId : Int) :
    Step (.eraseReconnect call userId) (fun s => noteErased call userId (eraseReconnect userId s))
  | disconnect (call : Nat) (userId : Int) :
    Step (.remove call userId) (fun s => (removeClient call userId s).2)
  | logOff (call : Nat) (userId : Int) :
    Step (.remove call userId) (fun s => noteRemoved call userId (removeClient call userId s).2)
  | stop (call : Nat) (userId : Int) : Step (.stop call userId) (stopClient call userId)
  | returned (call : Nat) (userId : Int) :
    Step (.returned call userId) (noteReturned call userId)
  | collectDropped : Step .collectDropped id
  | isActive : Step .isActive id
  | mark (userId : Int) : Step (.mark userId) (markForReconnect userId)
  | collectDue : Step .collectDue id
  | isRunning : Step .isRunning id
  | forget (userId : Int) : Step (.forget userId) (eraseReconnect userId)
  | settle (userId : Int) (ok : Bool) : Step (.settle userId) (settle userId ok)
  | drop (userId : Int) : Step (.drop userId) (dropConnection userId)
  | tick (time : Nat) : Step .tick (fun s => { s with clock := s.clock + time })

theorem uses_connectUserById (call : Nat) (userId : Int) (outcome : Outcome) :
    (connectUserById call userId outcome).Uses Step := by
  refine uses_locked_bind (.isSignedIn userId) (fun s => ?_)
  refine uses_ite (fun _ => uses_pure true) (fun _ => ?_)
  refine uses_ite (fun _ => uses_pure false) (fun _ => ?_)
  refine (uses_update (.create call userId)).bind (fun _ => ?_)
  refine uses_ite (fun _ => ?_) (fun _ => ?_)
  · exact (uses_update (.store call userId)).bind (fun _ => uses_pure true)
  · exact (uses_update (.abandon call userId)).bind (fun _ => uses_pure false)

theorem uses_disconnectUser (call : Nat) (userId : Int) {note : Presence → Presence}
    (noted : Step (.remove call userId) (fun s => note (removeClient call userId s).2)) :
    (disconnectUser call userId note).Uses Step :=
  uses_locked_bind noted (fun _ => uses_when (uses_update (.stop call userId)))

theorem uses_tryUser (call : Nat) (userId : Int) (outcome : Outcome) :
    (tryUser call userId outcome).Uses Step := by
  refine uses_locked_bind .isActive (fun _ => ?_)
  refine uses_ite (fun _ => ?_) (fun _ => uses_update (.forget userId))
  exact (uses_connectUserById call userId outcome).bind
    (fun ok => uses_update (.settle userId ok))

theorem uses_tryEach (call : Nat) (outcome : Int → Outcome) (due : List Int) :
    (tryEach call outcome due).Uses Step := by
  induction due with
  | nil => exact uses_pure ()
  | cons userId rest ih =>
    refine uses_locked_bind .isRunning (fun _ => uses_when ?_)
    exact (uses_tryUser call userId (outcome userId)).bind (fun _ => ih)

theorem uses_program (op : Op) : op.program.Uses Step := by
  cases op with
  | login call userId outcome =>
    refine (uses_update (.login userId)).bind (fun _ => ?_)
    exact (uses_connectUserById call userId outcome).bind
      (fun _ => uses_when (uses_update .startWorker))
  | logout call userId =>
    refine (uses_update (.eraseReconnect call userId)).bind (fun _ => ?_)
    refine (uses_disconnectUser call userId (.logOff call userId)).bind (fun _ => ?_)
    exact uses_update (.returned call userId)
  | round call outcome =>
    refine uses_locked_bind .isRunning (fun _ => uses_when ?_)
    refine uses_locked_bind .collectDropped (fun _ => ?_)
    refine (uses_forEach (fun userId => ?_)).bind (fun _ => ?_)
    · refine (uses_disconnectUser call userId (.disconnect call userId)).bind (fun _ => ?_)
      exact uses_locked_bind .isActive (fun _ => uses_when (uses_update (.mark userId)))
    · exact uses_locked_bind .collectDue (fun _ => uses_tryEach call outcome _)
  | connectionLost userId => exact uses_update (.drop userId)
  | elapse time => exact uses_update (.tick time)

/-! ### Logout is final -/

/-- Nothing is left of a user whose logout has returned. -/
def Gone (userId : Int) (s : Presence) : Prop :=
  (∀ client ∈ s.clients, client.userId ≠ userId) ∧
    (∀ item ∈ s.connecting, item.2 ≠ userId) ∧
    (∀ held ∈ s.stopping, held.client.userId = userId → held.client.connected = false) ∧
    ∀ entry ∈ s.reconnects, entry.userId ≠ userId

def LogoutFinal (s : Presence) : Prop := ∀ userId ∈ s.loggedOut, Gone userId s

instance (s : Presence) : Decidable (LogoutFinal s) := by
  unfold LogoutFinal Gone
  infer_instance

/-- No thread acts on a user behind the back of its logout. -/
def LogoutUndisturbed : Section → Presence → Prop
  | .mark userId, s => ¬ofUser userId s.erasedBy
  | .create _ userId, s => ¬ofUser userId s.removedBy
  | .store _ userId, s => ¬ofUser userId s.removedBy
  | .returned call userId, s => (call, userId) ∈ s.removedBy →
    ¬ofUser userId s.connecting ∧
      ∀ held ∈ s.stopping, held.client.userId = userId → held.client.connected = false
  | _, _ => True

instance : ∀ (label : Section) (s : Presence), Decidable (LogoutUndisturbed label s) := by
  intro label s
  cases label <;> unfold LogoutUndisturbed <;> infer_instance

structure Departed (s : Presence) : Prop where
  removed : ∀ item ∈ s.removedBy, ofUser item.2 s.erasedBy
  erased : ∀ item ∈ s.erasedBy, ∀ entry ∈ s.reconnects, entry.userId ≠ item.2
  absent : ∀ item ∈ s.removedBy, ∀ client ∈ s.clients, client.userId ≠ item.2
  out : ∀ userId ∈ s.loggedOut, ofUser userId s.removedBy
  unconnected : ∀ userId ∈ s.loggedOut, ∀ item ∈ s.connecting, item.2 ≠ userId
  stopped : ∀ userId ∈ s.loggedOut, ∀ held ∈ s.stopping, held.client.userId = userId →
    held.client.connected = false

theorem Departed.final {s : Presence} (departed : Departed s) : LogoutFinal s := by
  intro userId member
  obtain ⟨item, removed, rfl⟩ := departed.out userId member
  obtain ⟨other, erased, same⟩ := departed.removed item removed
  refine ⟨departed.absent item removed, departed.unconnected _ member, departed.stopped _ member,
    ?_⟩
  intro entry listed
  rw [← same]
  exact departed.erased other erased entry listed

/-- Sections that bring in no user anew, whatever else they change. -/
structure Dwindles (s t : Presence) : Prop where
  clients : ∀ client ∈ t.clients, ∃ old ∈ s.clients, old.userId = client.userId
  reconnects : ∀ entry ∈ t.reconnects, ∃ old ∈ s.reconnects, old.userId = entry.userId
  connecting : ∀ item ∈ t.connecting, item ∈ s.connecting
  stopping : ∀ held ∈ t.stopping, held ∈ s.stopping ∨ held.client ∈ s.clients

theorem Dwindles.refl (s : Presence) : Dwindles s s where
  clients client member := ⟨client, member, rfl⟩
  reconnects entry member := ⟨entry, member, rfl⟩
  connecting _ member := member
  stopping _ member := Or.inl member

/-- The marks stay, and what they speak of can only have gone. -/
theorem Departed.dwindles {s t : Presence} (departed : Departed s) (dwindles : Dwindles s t)
    (erasedBy : t.erasedBy = s.erasedBy) (removedBy : t.removedBy = s.removedBy)
    (loggedOut : t.loggedOut = s.loggedOut) : Departed t := by
  constructor
  · rw [erasedBy, removedBy]
    exact departed.removed
  · rw [erasedBy]
    intro item member entry listed
    obtain ⟨old, there, same⟩ := dwindles.reconnects entry listed
    rw [← same]
    exact departed.erased item member old there
  · rw [removedBy]
    intro item member client listed
    obtain ⟨old, there, same⟩ := dwindles.clients client listed
    rw [← same]
    exact departed.absent item member old there
  · rw [removedBy, loggedOut]
    exact departed.out
  · rw [loggedOut]
    exact fun user member item listed =>
      departed.unconnected user member item (dwindles.connecting item listed)
  · rw [loggedOut]
    intro user member held listed ours
    rcases dwindles.stopping held listed with old | fresh
    · exact departed.stopped user member held old ours
    · obtain ⟨item, removed, same⟩ := departed.out user member
      have gone := departed.absent item removed held.client fresh
      rw [same] at gone
      exact absurd ours gone

theorem dwindles_removeClient (call : Nat) (userId : Int) (s : Presence) :
    Dwindles s (removeClient call userId s).2 := by
  rw [removeClient]
  split
  · exact Dwindles.refl s
  · rename_i client found
    refine { Dwindles.refl s with clients := ?_, stopping := ?_ }
    · intro other member
      exact ⟨other, (mem_remove.mp member).1, rfl⟩
    · intro held member
      rcases List.mem_append.mp member with old | new
      · exact Or.inl old
      · rw [List.mem_singleton.mp new]
        exact Or.inr (lookup_some found).1

theorem removeClient_marks (call : Nat) (userId : Int) (s : Presence) :
    (removeClient call userId s).2.erasedBy = s.erasedBy ∧
      (removeClient call userId s).2.removedBy = s.removedBy ∧
      (removeClient call userId s).2.loggedOut = s.loggedOut := by
  rw [removeClient]
  split <;> exact ⟨rfl, rfl, rfl⟩

theorem absent_removeClient (call : Nat) (userId : Int) (s : Presence) :
    ∀ client ∈ (removeClient call userId s).2.clients, client.userId ≠ userId := by
  rw [removeClient]
  split
  · rename_i none_
    exact lookup_none.mp none_
  · intro client member
    exact (mem_remove.mp member).2

theorem departed_removeClient (call : Nat) (userId : Int) {s : Presence} (departed : Departed s) :
    Departed (removeClient call userId s).2 := by
  obtain ⟨erasedBy, removedBy, loggedOut⟩ := removeClient_marks call userId s
  exact departed.dwindles (dwindles_removeClient call userId s) erasedBy removedBy loggedOut

theorem departed_noteRemoved {call : Nat} {userId : Int} {s : Presence} (departed : Departed s)
    (absent : ∀ client ∈ s.clients, client.userId ≠ userId) :
    Departed (noteRemoved call userId s) := by
  rw [noteRemoved]
  split
  · rename_i erased
    refine { departed with removed := ?_, absent := ?_, out := ?_ }
    · intro item member
      rcases List.mem_append.mp member with old | new
      · exact departed.removed item old
      · rw [List.mem_singleton.mp new]
        exact ⟨_, erased, rfl⟩
    · intro item member
      rcases List.mem_append.mp member with old | new
      · exact departed.absent item old
      · rw [List.mem_singleton.mp new]
        exact absent
    · intro user member
      obtain ⟨item, there, same⟩ := departed.out user member
      exact ⟨item, List.mem_append_left _ there, same⟩
  · exact departed

theorem dwindles_eraseReconnect (userId : Int) (s : Presence) :
    Dwindles s (eraseReconnect userId s) := by
  refine { Dwindles.refl s with reconnects := ?_ }
  intro entry member
  exact ⟨entry, (mem_remove.mp member).1, rfl⟩

theorem departed_noteErased {call : Nat} {userId : Int} {s : Presence} (departed : Departed s)
    (erased : ∀ entry ∈ s.reconnects, entry.userId ≠ userId) :
    Departed (noteErased call userId s) := by
  refine { departed with removed := ?_, erased := ?_ }
  · intro item member
    obtain ⟨other, there, same⟩ := departed.removed item member
    exact ⟨other, List.mem_append_left _ there, same⟩
  · intro item member
    rcases List.mem_append.mp member with old | new
    · exact departed.erased item old
    · rw [List.mem_singleton.mp new]
      exact erased

theorem departed_clearMarks (userId : Int) {s : Presence} (departed : Departed s) :
    Departed (clearMarks userId s) := by
  constructor
  · intro item member
    obtain ⟨there, other⟩ := List.mem_filter.mp member
    obtain ⟨erased, listed, same⟩ := departed.removed item there
    refine ⟨erased, List.mem_filter.mpr ⟨listed, ?_⟩, same⟩
    rw [same]
    exact other
  · intro item member
    exact departed.erased item (List.mem_of_mem_filter member)
  · intro item member
    exact departed.absent item (List.mem_of_mem_filter member)
  · intro user member
    obtain ⟨there, other⟩ := List.mem_filter.mp member
    obtain ⟨removed, listed, same⟩ := departed.out user there
    refine ⟨removed, List.mem_filter.mpr ⟨listed, ?_⟩, same⟩
    rw [same]
    exact other
  · intro user member
    exact departed.unconnected user (List.mem_of_mem_filter member)
  · intro user member
    exact departed.stopped user (List.mem_of_mem_filter member)

/-- One case for each section. -/
theorem departed_step {label : Section} {update : Presence → Presence} (step : Step label update)
    {s : Presence} (departed : Departed s) (permitted : LogoutUndisturbed label s) :
    Departed (update s) := by
  cases step with
  | create call userId =>
    refine { departed with unconnected := ?_ }
    intro user member item listed
    rcases List.mem_append.mp listed with old | new
    · exact departed.unconnected user member item old
    · rw [List.mem_singleton.mp new]
      rintro rfl
      exact permitted (departed.out _ member)
  | store call userId =>
    refine { departed with absent := ?_, unconnected := ?_ }
    · intro item member client listed
      rcases mem_store.mp listed with ⟨old, -⟩ | rfl
      · exact departed.absent item member client old
      · intro same
        exact permitted ⟨item, member, same.symm⟩
    · intro user member item listed
      exact departed.unconnected user member item (List.mem_of_mem_erase listed)
  | abandon call userId =>
    have fewer : Dwindles s { s with connecting := s.connecting.erase (call, userId) } :=
      { Dwindles.refl s with connecting := fun _ member => List.mem_of_mem_erase member }
    exact departed.dwindles fewer rfl rfl rfl
  | login userId => exact departed_clearMarks userId departed
  | eraseReconnect call userId =>
    have erased : Departed (eraseReconnect userId s) :=
      departed.dwindles (dwindles_eraseReconnect userId s) rfl rfl rfl
    exact departed_noteErased erased (fun entry member => (mem_remove.mp member).2)
  | disconnect call userId => exact departed_removeClient call userId departed
  | logOff call userId =>
    exact departed_noteRemoved (departed_removeClient call userId departed)
      (absent_removeClient call userId s)
  | stop call userId =>
    have fewer : Dwindles s (stopClient call userId s) :=
      { Dwindles.refl s with stopping := fun _ member => Or.inl (List.mem_of_mem_filter member) }
    exact departed.dwindles fewer rfl rfl rfl
  | returned call userId =>
    rw [noteReturned]
    split
    · rename_i removed
      obtain ⟨unconnected, stopped⟩ := permitted removed
      refine { departed with out := ?_, unconnected := ?_, stopped := ?_ }
      · intro user member
        rcases List.mem_append.mp member with old | new
        · exact departed.out user old
        · rw [List.mem_singleton.mp new]
          exact ⟨_, removed, rfl⟩
      · intro user member item listed
        rcases List.mem_append.mp member with old | new
        · exact departed.unconnected user old item listed
        · rw [List.mem_singleton.mp new]
          exact fun same => unconnected ⟨item, listed, same⟩
      · intro user member
        rcases List.mem_append.mp member with old | new
        · exact departed.stopped user old
        · rw [List.mem_singleton.mp new]
          exact stopped
    · exact departed
  | mark userId =>
    refine { departed with erased := ?_ }
    intro item member entry listed
    rcases mem_store.mp listed with ⟨old, -⟩ | rfl
    · exact departed.erased item member entry old
    · intro same
      exact permitted ⟨item, member, same.symm⟩
  | forget userId => exact departed.dwindles (dwindles_eraseReconnect userId s) rfl rfl rfl
  | settle userId ok =>
    rw [settle]
    split
    · exact departed.dwindles (dwindles_eraseReconnect userId s) rfl rfl rfl
    · refine departed.dwindles { Dwindles.refl s with reconnects := ?_ } rfl rfl rfl
      intro entry member
      obtain ⟨old, there, rfl⟩ := mem_adjust.mp member
      refine ⟨old, there, ?_⟩
      split <;> rfl
  | drop userId =>
    refine departed.dwindles { Dwindles.refl s with clients := ?_ } rfl rfl rfl
    intro client member
    obtain ⟨old, there, rfl⟩ := mem_adjust.mp member
    refine ⟨old, there, ?_⟩
    split <;> rfl
  | startWorker => exact { departed with }
  | tick time => exact { departed with }
  | _ => exact departed

/-! ### Every interleaving -/

/-- The handler before the first notification, with whoever is signed in. -/
def started (clients : List Client) (reconnects : List ReconnectState) : Pool Presence Section :=
  ⟨{ workerRunning := true, clients := clients, reconnects := reconnects }, []⟩

def runPool (actions : List (Action Op)) (pool : Pool Presence Section) :
    Pool Presence Section :=
  Runs.run (Pool.step Op.program) actions pool

/-- No action of the run disturbs a logout. -/
def Undisturbed (actions : List (Action Op)) (pool : Pool Presence Section) : Prop :=
  Runs.Admitted (Pool.step Op.program) (Pool.Permitted LogoutUndisturbed) actions pool

instance (actions : List (Action Op)) (pool : Pool Presence Section) :
    Decidable (Undisturbed actions pool) :=
  inferInstanceAs (Decidable (Runs.Admitted _ _ _ _))

def ali : Int := 1

/-- The connection is lost and restored, and the user logs out after that. -/
def restored : List (Action Op) :=
  Action.serial 12
    [.connectionLost ali, .round 0 (fun _ => .fails), .elapse 2000, .round 1 (fun _ => .succeeds),
      .logout 2 ali]

/-- The worker has found the connection lost, and goes on when the logout has returned. -/
def markedAfterLogout : List (Action Op) :=
  [.spawn (.connectionLost ali), .take 0, .spawn (.round 1 (fun _ => .fails)), .take 1, .take 1,
    .spawn (.logout 2 ali), .take 2, .take 2, .take 2, .take 2, .take 1, .take 1, .take 1]

end NpWorker
