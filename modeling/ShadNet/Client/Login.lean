import ShadNet.LockProgram
import ShadNet.Client.Framing

/-!
# The login chain

Login, GetToken and GetServerFeatures are answered one after the other; the
thread that waits for the login is released at the end of the chain or where it
breaks. The packets are taken as the reader thread takes them: once the socket
is closed, no further one is read.
-/

namespace ShadNetClient

open Runs (run Admitted Throughout)

/-- The reader thread is in its loop and the connection is open. -/
def Reads (c : State) : Prop := c.sock ≠ none ∧ c.terminate = false ∧ c.overrun = false

instance (c : State) : Decidable (Reads c) := inferInstanceAs (Decidable (_ ∧ _ ∧ _))

def receivePacket (pb : Proto) (packet : Packet) (c : State) : State :=
  if Reads c then dispatchPacket pb packet c else c

/-- A request with no payload has been put into the send queue. -/
def NextQueued (cmd : CommandType) (c d : State) : Prop :=
  d.sendQueue = c.sendQueue ++ [buildPacket cmd.code c.pktCounter []]

def WaiterReleased (c d : State) : Prop := d.semAuthenticated = c.semAuthenticated + 1

/-- Handling the packet continued the chain or told the waiter how it ended. -/
def OutcomeReported (packet : Packet) (c d : State) : Prop :=
  Reads c → packet.type = PacketType.reply.code →
    (packet.command = CommandType.login.code →
      NextQueued .getToken c d ∨ (d.state ≠ .ok ∧ WaiterReleased c d)) ∧
    (packet.command = CommandType.getToken.code → NextQueued .getServerFeatures c d) ∧
    (packet.command = CommandType.getServerFeatures.code → WaiterReleased c d)

instance (packet : Packet) (c d : State) : Decidable (OutcomeReported packet c d) := by
  unfold OutcomeReported NextQueued WaiterReleased
  infer_instance

/-- A Login reply has an error byte, and no reply of the chain announces a blob so long that
the signed comparison lets it pass. -/
def WellFormed (pb : Proto) (packet : Packet) : Prop :=
  packet.type = PacketType.reply.code →
    (packet.command = CommandType.login.code → packet.payload ≠ []) ∧
      packet.replyOverruns pb = false

instance (pb : Proto) (packet : Packet) : Decidable (WellFormed pb packet) := by
  unfold WellFormed
  infer_instance

theorem readReply_empty {α : Type} (parse : List UInt8 → Option α) (payload : List UInt8) :
    readReply parse payload = .empty ↔ payload = [] := by
  cases payload with
  | nil => simp [readReply]
  | cons code rest =>
    simp only [readReply, List.cons_ne_nil, iff_false]
    split
    · simp
    · split
      · simp
      · split
        · simp
        · split <;> simp

/-! ### One reply -/

section Reply

variable (pb : Proto) (payload : List UInt8) (c : State)

/-- Every way out of the Login handler but two reports. -/
theorem handleLoginReply_reports (ok : c.state = .ok) :
    (NextQueued .getToken c (handleLoginReply pb payload c) ∨
        ((handleLoginReply pb payload c).state ≠ .ok ∧
          WaiterReleased c (handleLoginReply pb payload c))) ↔
      payload ≠ [] ∧ readReply pb.loginReply payload ≠ .overrun := by
  rw [ne_eq payload, ← readReply_empty pb.loginReply payload]
  cases found : readReply pb.loginReply payload with
  | empty =>
    simp [handleLoginReply, found, NextQueued, WaiterReleased, call, ok]
  | refused error =>
    have failed : loginFailure error ≠ .ok := by cases error <;> simp [loginFailure]
    simp [handleLoginReply, found, NextQueued, WaiterReleased, call, failLogin, doDisconnect,
      releaseAuthenticated, failed]
  | overrun => simp [handleLoginReply, found, NextQueued, WaiterReleased, ok]
  | unparsable =>
    simp [handleLoginReply, found, WaiterReleased, call, failLogin, doDisconnect,
      releaseAuthenticated]
  | parsed reply => simp [handleLoginReply, found, NextQueued, call, acceptLogin, submitRequest]

theorem handleGetTokenReply_queues :
    NextQueued .getServerFeatures c (handleGetTokenReply pb payload c) ↔
      readReply pb.getTokenReply payload ≠ .overrun := by
  cases found : readReply pb.getTokenReply payload <;>
    simp [handleGetTokenReply, found, NextQueued, requestServerFeatures, submitRequest]

theorem handleServerFeaturesReply_releases :
    WaiterReleased c (handleServerFeaturesReply pb payload c) ↔
      readReply pb.serverFeaturesReply payload ≠ .overrun := by
  cases found : readReply pb.serverFeaturesReply payload <;>
    simp [handleServerFeaturesReply, found, WaiterReleased, storeFeatures, reportClientVersion,
      releaseAuthenticated, submitRequest]

end Reply

theorem login_ne_getToken : CommandType.login.code ≠ CommandType.getToken.code := by decide

theorem login_ne_features : CommandType.login.code ≠ CommandType.getServerFeatures.code := by
  decide

theorem getToken_ne_features :
    CommandType.getToken.code ≠ CommandType.getServerFeatures.code := by decide

/-- A handled packet is reported exactly when it is well formed. -/
theorem outcomeReported_dispatchPacket (pb : Proto) (packet : Packet) {c : State} (reads : Reads c)
    (ok : c.state = .ok) :
    OutcomeReported packet c (dispatchPacket pb packet c) ↔ WellFormed pb packet := by
  have start : OutcomeReported packet c (dispatchPacket pb packet c) ↔
      OutcomeReported packet { c with dispatched := c.dispatched ++ [packet] }
        (dispatchPacket pb packet c) := Iff.rfl
  rw [start, OutcomeReported, WellFormed]
  refine (imp_iff_right (show Reads _ from reads)).trans (imp_congr_right fun reply => ?_)
  rw [dispatchPacket, if_pos reply, dispatchReply, Packet.replyOverruns]
  by_cases login : packet.command = CommandType.login.code
  · have reports := handleLoginReply_reports pb packet.payload
      { c with dispatched := c.dispatched ++ [packet] } ok
    simp only [login, login_ne_getToken, login_ne_features, if_true, forall_const, reports,
      false_implies, and_true, Reading.overruns_eq_false]
  · by_cases token : packet.command = CommandType.getToken.code
    · have queues := handleGetTokenReply_queues pb packet.payload
        { c with dispatched := c.dispatched ++ [packet] }
      simp only [token, login_ne_getToken.symm, getToken_ne_features, if_true, if_false,
        forall_const, queues, false_implies, true_and, and_true, Reading.overruns_eq_false]
    · by_cases features : packet.command = CommandType.getServerFeatures.code
      · have releases := handleServerFeaturesReply_releases pb packet.payload
          { c with dispatched := c.dispatched ++ [packet] }
        simp only [features, login_ne_features.symm, getToken_ne_features.symm, if_true, if_false,
          forall_const, releases, false_implies, true_and, Reading.overruns_eq_false]
      · simp [login, token, features]

/-- Only a login that fails changes the state, and it closes the socket. -/
theorem state_dispatchPacket (pb : Proto) {packet : Packet} {c : State}
    (stays : packet.closes pb = false) : (dispatchPacket pb packet c).state = c.state := by
  simp only [dispatchPacket]
  split
  · rename_i reply
    simp only [dispatchReply]
    split
    · rename_i login
      simp only [Packet.closes, reply, login, beq_self_eq_true, Bool.true_and] at stays
      cases found : readReply pb.loginReply packet.payload <;> rw [found] at stays
      · simp [handleLoginReply, found, call]
      · cases stays
      · simp [handleLoginReply, found]
      · cases stays
      · simp [handleLoginReply, found, call, acceptLogin, submitRequest]
    · split
      · cases found : readReply pb.getTokenReply packet.payload <;>
          simp [handleGetTokenReply, found, requestServerFeatures, submitRequest]
      · split
        · cases found : readReply pb.serverFeaturesReply packet.payload <;>
            simp [handleServerFeaturesReply, found, storeFeatures, releaseAuthenticated,
              reportClientVersion, submitRequest]
        · rfl
  · split
    · simp only [handleNotification]
      split
      · rfl
      · split <;> rfl
    · rfl

/-! ### Every sequence of packets -/

/-- While the reader is in its loop, no login has failed. -/
def NotFailed (c : State) : Prop := Reads c → c.state = .ok

/-- A reply the reader gets to is well formed. -/
def HandledWellFormed (pb : Proto) (packet : Packet) (c : State) : Prop :=
  Reads c → WellFormed pb packet

instance (pb : Proto) (packet : Packet) (c : State) : Decidable (HandledWellFormed pb packet c) :=
  inferInstanceAs (Decidable (_ → _))

theorem notFailed_receivePacket (pb : Proto) (packet : Packet) {c : State}
    (notFailed : NotFailed c) : NotFailed (receivePacket pb packet c) := by
  by_cases reads : Reads c
  · rw [receivePacket, if_pos reads]
    intro still
    have handled := handled_dispatchPacket pb packet c
    have stays : packet.closes pb = false := by
      by_contra closes
      rw [Bool.not_eq_false] at closes
      exact still.1 (handled.sock.trans (if_pos closes))
    exact (state_dispatchPacket pb stays).trans (notFailed reads)
  · rw [receivePacket, if_neg reads]
    exact notFailed

theorem outcomeReported_receivePacket (pb : Proto) (packet : Packet) {c : State}
    (notFailed : NotFailed c) :
    OutcomeReported packet c (receivePacket pb packet c) ↔ HandledWellFormed pb packet c := by
  by_cases reads : Reads c
  · rw [receivePacket, if_pos reads,
      outcomeReported_dispatchPacket pb packet reads (notFailed reads), HandledWellFormed,
      imp_iff_right reads]
  · rw [HandledWellFormed, OutcomeReported]
    simp [reads]

/-- Every reply of a sequence is reported. -/
def EveryOutcomeReported (pb : Proto) (packets : List Packet) (c : State) : Prop :=
  Throughout (receivePacket pb) (fun _ => True) OutcomeReported packets c

/-- The login has been sent, and its outcome is open. -/
structure LoginSent (c : State) : Prop where
  reads : Reads c
  ok : c.state = .ok

theorem every_outcome_reported_iff (pb : Proto) (packets : List Packet) (c : State)
    (sent : LoginSent c) :
    EveryOutcomeReported pb packets c ↔
      Admitted (receivePacket pb) (HandledWellFormed pb) packets c := by
  have start : NotFailed c := fun _ => sent.ok
  refine Runs.throughout_iff_admitted (fun _ _ => trivial) ?_ ?_ start
  · intro packet s notFailed formed
    exact ⟨notFailed_receivePacket pb packet notFailed,
      (outcomeReported_receivePacket pb packet notFailed).mpr formed⟩
  · intro packet s notFailed reported
    exact (outcomeReported_receivePacket pb packet notFailed).mp reported

/-- A client whose Login packet is out, at the start of the reader's loop. -/
def loginSent : State := { sock := some [], connected := true, pktCounter := 2 }

/-- A proto whose messages are always read. -/
def lenientProto : Proto where
  loginReply _ := some {}
  getTokenReply _ := some "token"
  serverFeaturesReply _ := some (true, true)
  clientVersion := []

def replyTo (cmd : CommandType) (payload : List UInt8) : Packet where
  type := PacketType.reply.code
  command := cmd.code
  id := 1
  payload := payload

/-- The login is accepted, the token refused and the features reply empty. -/
def acceptedLogin : List Packet :=
  [replyTo .login [0, 1, 0, 0, 0, 8], replyTo .getToken [23], replyTo .getServerFeatures []]

theorem acceptedLogin_reported : EveryOutcomeReported lenientProto acceptedLogin loginSent :=
  (every_outcome_reported_iff lenientProto acceptedLogin loginSent ⟨by decide, rfl⟩).mpr
    (by decide)

theorem emptyLogin_unreported :
    ¬∀ (packets : List Packet) (c : State), LoginSent c →
      EveryOutcomeReported lenientProto packets c := by
  intro all
  have reported := all [replyTo .login []] loginSent ⟨by decide, rfl⟩
  exact absurd reported.2.1 (by decide)

end ShadNetClient
