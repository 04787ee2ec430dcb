import ShadNet.Client.Login

/-!
# The two semaphores of a client

Start, Stop, the reader thread and any number of waiting threads, one atomic
access at a time. `WaitFor...` looks at its flag first and blocks only when it
is not set. Releasing a binary semaphore whose count is one is undefined; the
counts go on past one here, so that the release shows.
-/

namespace ShadNetClient

open Runs (run Admitted Throughout)

/-- How far the connect thread is; Start waits for it. -/
inductive ConnectAt where
  | idle
  | attempting
  | failed
  | halfReported
  | connected
  | spawned
  | reported
  deriving DecidableEq, Repr

/-- How far the reader thread is; it is there until Stop has joined it. -/
inductive ReaderAt where
  | absent
  | looping
  | holding (packet : Packet)
  | leaving
  | reported
  | cleared
  | ended
  deriving DecidableEq, Repr

structure Lifecycle where
  client : State := {}
  connect : ConnectAt := .idle
  reader : ReaderAt := .absent
  /-- Threads that found the flag unset and are blocked. -/
  connectedWaiters : Nat := 0
  authenticatedWaiters : Nat := 0
  /-- Calls of Stop before their first release, between the two, and after both. -/
  stopping : Nat := 0
  halfStopped : Nat := 0
  disconnecting : Nat := 0
  joining : Nat := 0
  /-- How often the outcome was reported, and how often a blocked thread has taken it. -/
  connectedReports : Nat := 0
  connectedTaken : Nat := 0
  authenticatedReports : Nat := 0
  authenticatedTaken : Nat := 0
  deriving DecidableEq, Repr

inductive Event where
  | start
  | connectFails (state : ShadNetState)
  | connectSucceeds
  | giveUp
  | reportFailure
  | reportUnauthenticated
  | spawnReader
  | reportConnected
  | sendLogin (sent : Bool)
  | receive (packet : Packet)
  | dispatch
  | leave (corrupt : Bool)
  | reportExit
  | clearConnected
  | clearAuthenticated
  | waitForConnection
  | passConnection
  | waitForAuthenticated
  | passAuthenticated
  | stop
  | stopConnected
  | stopAuthenticated
  | disconnect
  | join
  deriving DecidableEq, Repr

def releaseConnected (c : State) : State := { c with semConnected := c.semConnected + 1 }

/-! ### The threads -/

def Lifecycle.connectThread (l : Lifecycle) : Event → Lifecycle
  | .start =>
    -- a connect or reader thread that was not joined makes the assignment of a new one fail
    if l.connect = .idle ∧ l.reader = .absent then
      { l with connect := .attempting, client := { l.client with terminate := false } }
    else l
  | .connectFails state =>
    if l.connect = .attempting then { l with client := { l.client with state := state } } else l
  | .connectSucceeds =>
    if l.connect = .attempting then
      { l with
        connect := .connected
        client := { l.client with state := .ok, sock := some [], connected := true } }
    else l
  | .giveUp => if l.connect = .attempting then { l with connect := .failed } else l
  | .reportFailure =>
    if l.connect = .failed then
      { l with connect := .halfReported, client := releaseConnected l.client }
    else l
  | .reportUnauthenticated =>
    if l.connect = .halfReported then
      { l with connect := .idle, client := releaseAuthenticated l.client }
    else l
  | .spawnReader =>
    if l.connect = .connected then { l with connect := .spawned, reader := .looping } else l
  | .reportConnected =>
    if l.connect = .spawned then
      { l with connect := .reported, client := releaseConnected l.client }
    else l
  | .sendLogin sent =>
    if l.connect = .reported then
      { l with
        connect := .idle
        client := if sent then l.client else { l.client with state := .failureOther } }
    else l
  | _ => l

def Lifecycle.readerThread (pb : Proto) (l : Lifecycle) : Event → Lifecycle
  | .receive packet =>
    if l.reader = .looping ∧ Reads l.client then { l with reader := .holding packet } else l
  | .dispatch =>
    match l.reader with
    | .holding packet =>
      { l with
        -- once it has closed the socket itself, the next receive fails
        reader := if packet.closes pb then .leaving else .looping
        client := dispatchPacket pb packet l.client }
    | _ => l
  | .leave corrupt =>
    if l.reader = .looping then
      { l with
        reader := .leaving
        client := if corrupt then { l.client with state := .failureProtocol } else l.client }
    else l
  | .reportExit =>
    if l.reader = .leaving then
      { l with
        reader := .reported
        client :=
          if l.client.authenticated then l.client
          else
            releaseAuthenticated
              (if l.client.state = .ok then { l.client with state := .failureOther }
              else l.client) }
    else l
  | .clearConnected =>
    if l.reader = .reported then
      { l with reader := .cleared, client := { l.client with connected := false } }
    else l
  | .clearAuthenticated =>
    if l.reader = .cleared then
      { l with reader := .ended, client := { l.client with authenticated := false } }
    else l
  | _ => l

def Lifecycle.waits (l : Lifecycle) : Event → Lifecycle
  | .waitForConnection =>
    if l.client.connected = false then { l with connectedWaiters := l.connectedWaiters + 1 }
    else l
  | .passConnection =>
    if 0 < l.connectedWaiters ∧ 0 < l.client.semConnected then
      { l with
        connectedWaiters := l.connectedWaiters - 1
        connectedTaken := l.connectedTaken + 1
        client := { l.client with semConnected := l.client.semConnected - 1 } }
    else l
  | .waitForAuthenticated =>
    if l.client.authenticated = false then
      { l with authenticatedWaiters := l.authenticatedWaiters + 1 }
    else l
  | .passAuthenticated =>
    if 0 < l.authenticatedWaiters ∧ 0 < l.client.semAuthenticated then
      { l with
        authenticatedWaiters := l.authenticatedWaiters - 1
        authenticatedTaken := l.authenticatedTaken + 1
        client := { l.client with semAuthenticated := l.client.semAuthenticated - 1 } }
    else l
  | _ => l

def Lifecycle.stops (l : Lifecycle) : Event → Lifecycle
  | .stop =>
    { l with stopping := l.stopping + 1, client := { l.client with terminate := true } }
  | .stopConnected =>
    if 0 < l.stopping then
      { l with
        stopping := l.stopping - 1
        halfStopped := l.halfStopped + 1
        client := releaseConnected l.client }
    else l
  | .stopAuthenticated =>
    if 0 < l.halfStopped then
      { l with
        halfStopped := l.halfStopped - 1
        disconnecting := l.disconnecting + 1
        client := releaseAuthenticated l.client }
    else l
  | .disconnect =>
    if 0 < l.disconnecting then
      { l with
        disconnecting := l.disconnecting - 1
        joining := l.joining + 1
        client := doDisconnect l.client }
    else l
  | .join =>
    if 0 < l.joining ∧ l.connect = .idle ∧ (l.reader = .absent ∨ l.reader = .ended) then
      { l with joining := l.joining - 1, reader := .absent }
    else l
  | _ => l

/-! ### What is reported -/

/-- The Login handler fails, or the features have been stored. -/
def Packet.reports (pb : Proto) (packet : Packet) : Bool :=
  packet.closes pb ||
    (packet.type == PacketType.reply.code &&
      packet.command == CommandType.getServerFeatures.code && !packet.replyOverruns pb)

/-- The connect thread is done with its attempts, or Stop was called. -/
def Lifecycle.reportsConnected (l : Lifecycle) : Event → Bool
  | .reportFailure => l.connect == .failed
  | .reportConnected => l.connect == .spawned
  | .stopConnected => 0 < l.stopping
  | _ => false

/-- The login failed or the chain is complete, the reader leaves before the login was accepted,
no connection came about, or Stop was called. -/
def Lifecycle.reportsAuthenticated (pb : Proto) (l : Lifecycle) : Event → Bool
  | .reportUnauthenticated => l.connect == .halfReported
  | .dispatch =>
    match l.reader with
    | .holding packet => packet.reports pb
    | _ => false
  | .reportExit => l.reader == .leaving && !l.client.authenticated
  | .stopAuthenticated => 0 < l.halfStopped
  | _ => false

/-- One access of one thread. -/
def Lifecycle.access (pb : Proto) (l : Lifecycle) (event : Event) : Lifecycle :=
  (((l.connectThread event).readerThread pb event).waits event).stops event

/-- A run does not go on behind an access outside a payload. -/
def lifecycle (pb : Proto) (event : Event) (l : Lifecycle) : Lifecycle :=
  if l.client.overrun then l
  else
    { l.access pb event with
      connectedReports :=
        l.connectedReports + (if l.reportsConnected event then 1 else 0)
      authenticatedReports :=
        l.authenticatedReports + (if l.reportsAuthenticated pb event then 1 else 0) }

/-! ### Releases -/

theorem semaphores_dispatchPacket (pb : Proto) (packet : Packet) (c : State) :
    (dispatchPacket pb packet c).semConnected = c.semConnected ∧
      (dispatchPacket pb packet c).semAuthenticated =
        c.semAuthenticated + (if packet.reports pb then 1 else 0) := by
  by_cases reply : packet.type = PacketType.reply.code
  · simp only [dispatchPacket, dispatchReply, Packet.reports, Packet.closes,
      Packet.replyOverruns, reply, beq_self_eq_true, Bool.true_and]
    by_cases login : packet.command = CommandType.login.code
    · have other : (CommandType.login.code == CommandType.getServerFeatures.code) = false := by
        decide
      cases found : readReply pb.loginReply packet.payload <;>
        simp [handleLoginReply, login, found, other, Reading.fails, call, failLogin, doDisconnect,
          releaseAuthenticated, acceptLogin, submitRequest]
    · by_cases token : packet.command = CommandType.getToken.code
      · have other : (CommandType.getToken.code == CommandType.login.code) = false := by decide
        have another : (CommandType.getToken.code == CommandType.getServerFeatures.code) = false := by
          decide
        have different : CommandType.getToken.code ≠ CommandType.login.code := by decide
        cases found : readReply pb.getTokenReply packet.payload <;>
          simp [handleGetTokenReply, token, found, other, another, different,
            requestServerFeatures, submitRequest]
      · by_cases features : packet.command = CommandType.getServerFeatures.code
        · have different : CommandType.getServerFeatures.code ≠ CommandType.login.code := by decide
          have another : CommandType.getServerFeatures.code ≠ CommandType.getToken.code := by
            decide
          cases found : readReply pb.serverFeaturesReply packet.payload <;>
            simp [handleServerFeaturesReply, features, found, different, another,
              Reading.overruns, storeFeatures, releaseAuthenticated, reportClientVersion,
              submitRequest]
        · simp [login, token, features, asyncReply, call]
  · have silent : packet.reports pb = false := by
      simp [Packet.reports, Packet.closes, reply]
    rw [silent, dispatchPacket, if_neg reply]
    split
    · simp only [handleNotification]
      split
      · exact ⟨rfl, rfl⟩
      · split <;> exact ⟨rfl, rfl⟩
    · exact ⟨rfl, rfl⟩

/-- An access either reports and releases, or leaves what is there to be taken. -/
structure Accounts (reports : Bool) (count taken count' taken' : Nat) : Prop where
  released : reports = true → count' = count + 1 ∧ taken' = taken
  kept : reports = false → count' ≤ count ∧ count' + taken' = count + taken

theorem Accounts.same (count taken : Nat) : Accounts false count taken count taken where
  released impossible := absurd impossible (by decide)
  kept _ := ⟨Nat.le_refl _, rfl⟩

theorem Accounts.release (count taken : Nat) : Accounts true count taken (count + 1) taken where
  released _ := ⟨rfl, rfl⟩
  kept impossible := absurd impossible (by decide)

theorem Accounts.take {count : Nat} (there : 0 < count) (taken : Nat) :
    Accounts false count taken (count - 1) (taken + 1) where
  released impossible := absurd impossible (by decide)
  kept _ := by omega

def AccountsConnected (reports : Bool) (l l' : Lifecycle) : Prop :=
  Accounts reports l.client.semConnected l.connectedTaken l'.client.semConnected l'.connectedTaken

def AccountsAuthenticated (reports : Bool) (l l' : Lifecycle) : Prop :=
  Accounts reports l.client.semAuthenticated l.authenticatedTaken l'.client.semAuthenticated
    l'.authenticatedTaken

/-- A guarded release is a report exactly where the guard holds. -/
theorem accountsConnected_guarded {c : Prop} [Decidable c] {reports : Bool} {l released : Lifecycle}
    (reported : reports = decide c) (count : released.client.semConnected = l.client.semConnected + 1)
    (taken : released.connectedTaken = l.connectedTaken) :
    AccountsConnected reports l (if c then released else l) := by
  rw [reported, AccountsConnected]
  by_cases holds : c
  · rw [if_pos holds, decide_eq_true holds, count, taken]
    exact .release _ _
  · rw [if_neg holds, decide_eq_false holds]
    exact .same _ _

theorem accountsConnected_silent {c : Prop} [Decidable c] {l other : Lifecycle}
    (count : other.client.semConnected = l.client.semConnected)
    (taken : other.connectedTaken = l.connectedTaken) :
    AccountsConnected false l (if c then other else l) := by
  rw [AccountsConnected]
  by_cases holds : c
  · rw [if_pos holds, count, taken]
    exact .same _ _
  · rw [if_neg holds]
    exact .same _ _

theorem accountsAuthenticated_guarded {c : Prop} [Decidable c] {reports : Bool}
    {l released : Lifecycle} (reported : reports = decide c)
    (count : released.client.semAuthenticated = l.client.semAuthenticated + 1)
    (taken : released.authenticatedTaken = l.authenticatedTaken) :
    AccountsAuthenticated reports l (if c then released else l) := by
  rw [reported, AccountsAuthenticated]
  by_cases holds : c
  · rw [if_pos holds, decide_eq_true holds, count, taken]
    exact .release _ _
  · rw [if_neg holds, decide_eq_false holds]
    exact .same _ _

theorem accountsAuthenticated_silent {c : Prop} [Decidable c] {l other : Lifecycle}
    (count : other.client.semAuthenticated = l.client.semAuthenticated)
    (taken : other.authenticatedTaken = l.authenticatedTaken) :
    AccountsAuthenticated false l (if c then other else l) := by
  rw [AccountsAuthenticated]
  by_cases holds : c
  · rw [if_pos holds, count, taken]
    exact .same _ _
  · rw [if_neg holds]
    exact .same _ _

/-- What the reader's exit does to the semaphores. -/
theorem semaphores_exit (c : State) :
    (releaseAuthenticated (if c.state = .ok then { c with state := .failureOther } else c)).semConnected
        = c.semConnected ∧
      (releaseAuthenticated
        (if c.state = .ok then { c with state := .failureOther } else c)).semAuthenticated
        = c.semAuthenticated + 1 := by
  split <;> exact ⟨rfl, rfl⟩

theorem accounts_connected (pb : Proto) (l : Lifecycle) (event : Event) :
    AccountsConnected (l.reportsConnected event) l (l.access pb event) := by
  cases event with
  | reportFailure => exact accountsConnected_guarded rfl rfl rfl
  | reportConnected => exact accountsConnected_guarded rfl rfl rfl
  | stopConnected => exact accountsConnected_guarded rfl rfl rfl
  | passConnection =>
    by_cases waiting : 0 < l.connectedWaiters ∧ 0 < l.client.semConnected
    · have passed : l.access pb .passConnection = _ := if_pos waiting
      rw [passed]
      exact .take waiting.2 _
    · have blocked : l.access pb .passConnection = _ := if_neg waiting
      rw [blocked]
      exact .same _ _
  | dispatch =>
    cases reader : l.reader with
    | holding packet =>
      have counts := (semaphores_dispatchPacket pb packet l.client).1
      simp only [AccountsConnected, Lifecycle.reportsConnected, Lifecycle.access,
        Lifecycle.connectThread, Lifecycle.readerThread, Lifecycle.waits, Lifecycle.stops, reader,
        counts]
      exact .same _ _
    | _ =>
      simp only [AccountsConnected, Lifecycle.reportsConnected, Lifecycle.access,
        Lifecycle.connectThread, Lifecycle.readerThread, Lifecycle.waits, Lifecycle.stops, reader]
      exact .same _ _
  | sendLogin sent => cases sent <;> exact accountsConnected_silent rfl rfl
  | leave corrupt => cases corrupt <;> exact accountsConnected_silent rfl rfl
  | reportExit =>
    refine accountsConnected_silent ?_ rfl
    dsimp only
    split
    · rfl
    · exact (semaphores_exit l.client).1
  | stop => exact .same _ _
  | _ => exact accountsConnected_silent rfl rfl

theorem accounts_authenticated (pb : Proto) (l : Lifecycle) (event : Event) :
    AccountsAuthenticated (l.reportsAuthenticated pb event) l (l.access pb event) := by
  cases event with
  | reportUnauthenticated => exact accountsAuthenticated_guarded rfl rfl rfl
  | stopAuthenticated => exact accountsAuthenticated_guarded rfl rfl rfl
  | passAuthenticated =>
    by_cases waiting : 0 < l.authenticatedWaiters ∧ 0 < l.client.semAuthenticated
    · have passed : l.access pb .passAuthenticated = _ := if_pos waiting
      rw [passed]
      exact .take waiting.2 _
    · have blocked : l.access pb .passAuthenticated = _ := if_neg waiting
      rw [blocked]
      exact .same _ _
  | dispatch =>
    cases reader : l.reader with
    | holding packet =>
      have counts := (semaphores_dispatchPacket pb packet l.client).2
      simp only [AccountsAuthenticated, Lifecycle.reportsAuthenticated, Lifecycle.access,
        Lifecycle.connectThread, Lifecycle.readerThread, Lifecycle.waits, Lifecycle.stops, reader,
        counts]
      cases packet.reports pb
      · exact .same _ _
      · exact .release _ _
    | _ =>
      simp only [AccountsAuthenticated, Lifecycle.reportsAuthenticated, Lifecycle.access,
        Lifecycle.connectThread, Lifecycle.readerThread, Lifecycle.waits, Lifecycle.stops, reader]
      exact .same _ _
  | sendLogin sent => cases sent <;> exact accountsAuthenticated_silent rfl rfl
  | leave corrupt => cases corrupt <;> exact accountsAuthenticated_silent rfl rfl
  | reportExit =>
    cases known : l.client.authenticated with
    | true =>
      have nothing : l.reportsAuthenticated pb .reportExit = false := by
        simp [Lifecycle.reportsAuthenticated, known]
      rw [nothing]
      exact accountsAuthenticated_silent (congrArg State.semAuthenticated (if_pos known)) rfl
    | false =>
      refine accountsAuthenticated_guarded ?_ ?_ rfl
      · simp [Lifecycle.reportsAuthenticated, known]
        rfl
      · have unknown : ¬l.client.authenticated = true := by
          rw [known]
          decide
        exact (congrArg State.semAuthenticated (if_neg unknown)).trans (semaphores_exit l.client).2
  | stop => exact .same _ _
  | _ => exact accountsAuthenticated_silent rfl rfl

/-! ### Every run -/

/-- Neither semaphore is released while its count is one. -/
def NoOverRelease (_ : Event) (l l' : Lifecycle) : Prop :=
  (l.client.semConnected < l'.client.semConnected → l.client.semConnected = 0) ∧
    (l.client.semAuthenticated < l'.client.semAuthenticated → l.client.semAuthenticated = 0)

instance (event : Event) (l l' : Lifecycle) : Decidable (NoOverRelease event l l') :=
  inferInstanceAs (Decidable (_ ∧ _))

/-- Every earlier outcome has been taken by a thread that was blocked on it. -/
def EarlierTaken (pb : Proto) (event : Event) (l : Lifecycle) : Prop :=
  l.client.overrun = false →
    (l.reportsConnected event = true → l.connectedReports ≤ l.connectedTaken) ∧
      (l.reportsAuthenticated pb event = true → l.authenticatedReports ≤ l.authenticatedTaken)

instance (pb : Proto) (event : Event) (l : Lifecycle) : Decidable (EarlierTaken pb event l) :=
  inferInstanceAs (Decidable (_ → _))

/-- What was reported was taken or is still there. -/
structure Booked (l : Lifecycle) : Prop where
  connected : l.client.semConnected + l.connectedTaken = l.connectedReports
  authenticated : l.client.semAuthenticated + l.authenticatedTaken = l.authenticatedReports

theorem Accounts.booked {reports : Bool} {count taken count' taken' reported : Nat}
    (accounts : Accounts reports count taken count' taken') (booked : count + taken = reported) :
    count' + taken' = reported + (if reports then 1 else 0) := by
  cases reports with
  | true =>
    have released := accounts.released rfl
    simp only [if_true]
    omega
  | false =>
    have kept := accounts.kept rfl
    simp only [Bool.false_eq_true, if_false]
    omega

/-- A release finds the count at zero when all that was reported has been taken. -/
theorem Accounts.released_once {reports : Bool} {count taken count' taken' reported : Nat}
    (accounts : Accounts reports count taken count' taken') (booked : count + taken = reported) :
    (count < count' → count = 0) ↔ (reports = true → reported ≤ taken) := by
  cases reports with
  | true =>
    have released := accounts.released rfl
    simp only [forall_const]
    omega
  | false =>
    have kept := accounts.kept rfl
    simp only [Bool.false_eq_true, false_implies, iff_true]
    omega

theorem booked_lifecycle (pb : Proto) (event : Event) {l : Lifecycle} (booked : Booked l) :
    Booked (lifecycle pb event l) := by
  rw [lifecycle]
  split
  · exact booked
  · exact ⟨(accounts_connected pb l event).booked booked.connected,
      (accounts_authenticated pb l event).booked booked.authenticated⟩

theorem noOverRelease_iff (pb : Proto) (event : Event) {l : Lifecycle} (booked : Booked l) :
    NoOverRelease event l (lifecycle pb event l) ↔ EarlierTaken pb event l := by
  rw [lifecycle, EarlierTaken, NoOverRelease]
  by_cases overrun : l.client.overrun
  · simp [overrun]
  · rw [if_neg overrun, Bool.not_eq_true] at *
    rw [imp_iff_right overrun]
    exact and_congr ((accounts_connected pb l event).released_once booked.connected)
      ((accounts_authenticated pb l event).released_once booked.authenticated)

def SemaphoreDiscipline (pb : Proto) (events : List Event) : Prop :=
  Throughout (lifecycle pb) (fun _ => True) NoOverRelease events {}

/-- The client connects, nobody has waited for it, and it is stopped. -/
def connectedAndStopped : List Event :=
  [.start, .connectSucceeds, .spawnReader, .reportConnected, .sendLogin true, .stop,
    .stopConnected]

end ShadNetClient
