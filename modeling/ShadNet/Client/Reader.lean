import ShadNet.Client.State

/-!
# The reader thread

One round of the loop reads a header, checks the size it announces and reads
the rest of the packet; the handlers then see one packet each. The reader runs
without Stop here, so the terminate flag is what it was.
-/

namespace ShadNetClient

/-! ### Replies -/

/-- What a reply handler finds in its payload. -/
inductive Reading (α : Type) where
  | empty
  | refused (error : ErrorType)
  | overrun
  | unparsable
  | parsed (message : α)
  deriving DecidableEq, Repr

def readReply {α : Type} (parse : List UInt8 → Option α) : List UInt8 → Reading α
  | [] => .empty
  | code :: rest =>
    if ErrorType.ofCode code ≠ .noError then .refused (ErrorType.ofCode code)
    else
      match extractBlob (code :: rest) 1 with
      | none => .overrun
      | some blob =>
        if blob = [] then .unparsable
        else
          match parse blob with
          | none => .unparsable
          | some message => .parsed message

/-- The handler reads outside the payload. -/
def Reading.overruns {α : Type} : Reading α → Bool
  | .overrun => true
  | _ => false

/-- The Login handler takes the reply for a refusal or cannot read it. -/
def Reading.fails {α : Type} : Reading α → Bool
  | .refused _ => true
  | .unparsable => true
  | _ => false

theorem Reading.overruns_eq_false {α : Type} (reading : Reading α) :
    reading.overruns = false ↔ reading ≠ .overrun := by
  cases reading <;> simp [Reading.overruns]

def loginFailure : ErrorType → ShadNetState
  | .loginAlreadyLoggedIn => .failureAlreadyIn
  | .loginInvalidUsername => .failureUsername
  | .loginInvalidPassword => .failurePassword
  | .loginInvalidToken => .failureToken
  | _ => .failureAuth

/-- The state is set, the waiter released and the socket closed. -/
def failLogin (state : ShadNetState) (c : State) : State :=
  doDisconnect (releaseAuthenticated { c with state := state })

def acceptLogin (reply : LoginReply) (c : State) : State :=
  submitRequest .getToken []
    { c with
      avatarUrl := reply.avatarUrl
      userId := reply.userId
      friends := reply.friends
      authenticated := true }

def handleLoginReply (pb : Proto) (payload : List UInt8) (c : State) : State :=
  match readReply pb.loginReply payload with
  | .empty => call (.loginResult {}) c
  | .overrun => { c with overrun := true }
  | .parsed reply => call (.loginResult { reply with error := .noError }) (acceptLogin reply c)
  | .unparsable => call (.loginResult {}) (failLogin .failureProtocol c)
  | .refused error =>
    call (.loginResult { error := error }) (failLogin (loginFailure error) c)

def handleGetTokenReply (pb : Proto) (payload : List UInt8) (c : State) : State :=
  match readReply pb.getTokenReply payload with
  | .overrun => { c with overrun := true }
  | .parsed token => requestServerFeatures { c with bearerToken := token }
  | _ => requestServerFeatures c

def storeFeatures (pb : Proto) (matching2 trophies parsed : Bool) (c : State) : State :=
  releaseAuthenticated (reportClientVersion pb
    { c with
      matching2Enabled := matching2
      trophiesEnabled := trophies
      serverFeaturesReceived := parsed })

def handleServerFeaturesReply (pb : Proto) (payload : List UInt8) (c : State) : State :=
  match readReply pb.serverFeaturesReply payload with
  | .overrun => { c with overrun := true }
  | .parsed (matching2, trophies) => storeFeatures pb matching2 trophies true c
  | _ => storeFeatures pb false false false c

/-- A reply no handler of the client's own takes goes to the owner's hook. -/
def asyncReply (packet : Packet) (c : State) : State :=
  let error := packet.payload.headD 1
  call (.asyncReply packet.command packet.id error packet.payload.tail) c

def dispatchReply (pb : Proto) (packet : Packet) (c : State) : State :=
  if packet.command = CommandType.login.code then handleLoginReply pb packet.payload c
  else if packet.command = CommandType.getToken.code then handleGetTokenReply pb packet.payload c
  else if packet.command = CommandType.getServerFeatures.code then
    handleServerFeaturesReply pb packet.payload c
  else asyncReply packet c

/-- The hook of its type gets what the parser makes of the blob. -/
def handleNotification (command : UInt16) (payload : List UInt8) (c : State) : State :=
  match extractBlob payload 0 with
  | none => { c with overrun := true }
  | some blob =>
    if blob = [] ∧ command ≠ webApiPushEvent then c else call (.notification command blob) c

def dispatchPacket (pb : Proto) (packet : Packet) (c : State) : State :=
  let c := { c with dispatched := c.dispatched ++ [packet] }
  if packet.type = PacketType.reply.code then dispatchReply pb packet c
  else if packet.type = PacketType.notification.code then
    handleNotification packet.command packet.payload c
  else c

/-! ### What a packet does to the reader -/

/-- The handling of the packet closes the socket. -/
def Packet.closes (pb : Proto) (packet : Packet) : Bool :=
  packet.type == PacketType.reply.code && packet.command == CommandType.login.code &&
    (readReply pb.loginReply packet.payload).fails

/-- The handling of a reply of the login chain reads outside the payload. -/
def Packet.replyOverruns (pb : Proto) (packet : Packet) : Bool :=
  if packet.command = CommandType.login.code then
    (readReply pb.loginReply packet.payload).overruns
  else if packet.command = CommandType.getToken.code then
    (readReply pb.getTokenReply packet.payload).overruns
  else if packet.command = CommandType.getServerFeatures.code then
    (readReply pb.serverFeaturesReply packet.payload).overruns
  else false

/-- The handling of the packet reads outside the payload. -/
def Packet.overruns (pb : Proto) (packet : Packet) : Bool :=
  if packet.type = PacketType.reply.code then packet.replyOverruns pb
  else packet.type == PacketType.notification.code && (extractBlob packet.payload 0).isNone

/-- All that the loop depends on, before and after a packet. -/
structure Handled (pb : Proto) (packet : Packet) (c d : State) : Prop where
  sock : d.sock = if packet.closes pb then none else c.sock
  terminate : d.terminate = c.terminate
  overrun : d.overrun = (c.overrun || packet.overruns pb)
  dispatched : d.dispatched = c.dispatched ++ [packet]

theorem handled_dispatchReply {pb : Proto} {packet : Packet} (c : State)
    (reply : packet.type = PacketType.reply.code) :
    Handled pb packet c
      (dispatchReply pb packet { c with dispatched := c.dispatched ++ [packet] }) := by
  by_cases login : packet.command = CommandType.login.code
  · cases found : readReply pb.loginReply packet.payload <;>
      constructor <;>
      simp [dispatchReply, handleLoginReply, Packet.closes, Packet.overruns, Packet.replyOverruns,
        Reading.fails, Reading.overruns, reply, login, found, call, failLogin, acceptLogin,
        submitRequest, doDisconnect, releaseAuthenticated]
  · by_cases token : packet.command = CommandType.getToken.code
    · have other : CommandType.getToken.code ≠ CommandType.login.code := by decide
      cases found : readReply pb.getTokenReply packet.payload <;>
        constructor <;>
        simp [dispatchReply, handleGetTokenReply, Packet.closes, Packet.overruns,
          Packet.replyOverruns, Reading.overruns, reply, token, other, found,
          requestServerFeatures, submitRequest]
    · by_cases features : packet.command = CommandType.getServerFeatures.code
      · have other : CommandType.getServerFeatures.code ≠ CommandType.login.code := by decide
        have another : CommandType.getServerFeatures.code ≠ CommandType.getToken.code := by
          decide
        cases found : readReply pb.serverFeaturesReply packet.payload <;>
          constructor <;>
          simp [dispatchReply, handleServerFeaturesReply, Packet.closes, Packet.overruns,
            Packet.replyOverruns, Reading.overruns, reply, features, other, another, found,
            storeFeatures, releaseAuthenticated, reportClientVersion, submitRequest]
      · constructor <;>
          simp [dispatchReply, asyncReply, Packet.closes, Packet.overruns, Packet.replyOverruns,
            reply, login, token, features, call]

theorem handled_dispatchPacket (pb : Proto) (packet : Packet) (c : State) :
    Handled pb packet c (dispatchPacket pb packet c) := by
  by_cases reply : packet.type = PacketType.reply.code
  · rw [dispatchPacket, if_pos reply]
    exact handled_dispatchReply c reply
  · have stays : packet.closes pb = false := by
      rw [Packet.closes, beq_eq_false_iff_ne.mpr reply, Bool.false_and, Bool.false_and]
    have kind : packet.overruns pb =
        (packet.type == PacketType.notification.code && (extractBlob packet.payload 0).isNone) :=
      if_neg reply
    by_cases notification : packet.type = PacketType.notification.code
    · rw [dispatchPacket, if_neg reply, if_pos notification, handleNotification]
      cases found : extractBlob packet.payload 0 with
      | none => constructor <;> simp [stays, kind, notification, found]
      | some blob =>
        dsimp only
        split <;>
          constructor <;> simp [stays, kind, notification, found, call]
    · rw [dispatchPacket, if_neg reply, if_neg notification]
      constructor <;> simp [stays, kind, notification]

/-! ### The loop -/

/-- The bytes the loop of receives gets together, and what is left to hand over. -/
def received (n : Nat) (c : State) : Option (List UInt8) × Option (List (Arrivals.Chunk UInt8)) :=
  if n = 0 then (some [], c.sock)
  else if c.terminate then (none, c.sock)
  else
    match c.sock with
    | none => (none, none)
    | some chunks => ((Arrivals.recvN n chunks).1, some (Arrivals.recvN n chunks).2)

def recvN (n : Nat) (c : State) : Option (List UInt8) × State :=
  ((received n c).1, { c with sock := (received n c).2 })

/-- The packet one round of the loop reads, `none` where it leaves the loop. -/
def readPacket (c : State) : Option Packet × State :=
  let header := recvN shadHeaderSize c
  match header.1 with
  | none => (none, header.2)
  | some hdr =>
    let totalSz := (getLE32 hdr 3).toNat
    if totalSz < shadHeaderSize ∨ shadMaxPacketSize < totalSz then
      (none, { header.2 with state := .failureProtocol })
    else
      let body := recvN (totalSz - shadHeaderSize) header.2
      match body.1 with
      | none => (none, body.2)
      | some payload => (some ⟨hdr.headD 0, getLE16 hdr 1, getLE64 hdr 7, payload⟩, body.2)

def State.incoming (c : State) : List UInt8 := c.sock.elim [] Arrivals.content

@[simp] theorem incoming_closed {c : State} (closed : c.sock = none) : c.incoming = [] := by
  rw [State.incoming, closed]
  rfl

theorem incoming_open {c : State} {chunks : List (Arrivals.Chunk UInt8)}
    (opened : c.sock = some chunks) : c.incoming = Arrivals.content chunks := by
  rw [State.incoming, opened]
  rfl

theorem received_enough {n : Nat} {c : State} (going : c.terminate = false)
    (enough : n ≤ c.incoming.length) :
    (received n c).1 = some (c.incoming.take n) ∧
      (received n c).2.elim [] Arrivals.content = c.incoming.drop n ∧
      ((received n c).2 = none ↔ c.sock = none) := by
  by_cases nothing : n = 0
  · subst nothing
    exact ⟨rfl, rfl, Iff.rfl⟩
  · cases sock : c.sock with
    | none =>
      rw [incoming_closed sock, List.length_nil] at enough
      omega
    | some chunks =>
      have content := incoming_open sock
      rw [content] at enough
      obtain ⟨taken, left⟩ := Arrivals.recvN_enough enough
      simp [received, nothing, going, sock, taken, left, content]

theorem received_short {n : Nat} {c : State} (short : c.incoming.length < n) :
    (received n c).1 = none := by
  have more : n ≠ 0 := by omega
  by_cases stopped : c.terminate
  · simp [received, more, stopped]
  · cases sock : c.sock with
    | none => simp [received, more, stopped, sock]
    | some chunks =>
      rw [incoming_open sock] at short
      simp [received, more, stopped, sock, Arrivals.recvN_short short]

theorem length_received {n : Nat} {c : State} {bytes : List UInt8}
    (found : (received n c).1 = some bytes) :
    n + ((received n c).2.elim [] Arrivals.content).length = c.incoming.length := by
  by_cases nothing : n = 0
  · subst nothing
    rw [Nat.zero_add]
    rfl
  · by_cases enough : n ≤ c.incoming.length
    · by_cases stopped : c.terminate
      · simp [received, nothing, stopped] at found
      · rw [Bool.not_eq_true] at stopped
        rw [(received_enough stopped enough).2.1, List.length_drop]
        omega
    · rw [received_short (by omega)] at found
      cases found

@[simp] theorem terminate_recvN (n : Nat) (c : State) :
    (recvN n c).2.terminate = c.terminate := rfl

@[simp] theorem incoming_recvN (n : Nat) (c : State) :
    (recvN n c).2.incoming = (received n c).2.elim [] Arrivals.content := rfl

/-- A packet that was read used up its bytes. -/
theorem length_readPacket {c : State} {packet : Packet} (found : (readPacket c).1 = some packet) :
    (readPacket c).2.incoming.length + shadHeaderSize ≤ c.incoming.length := by
  cases header : (recvN shadHeaderSize c).1 with
  | none => simp [readPacket, header] at found
  | some hdr =>
    have first := length_received header
    simp only [readPacket, header] at found ⊢
    split at found
    · cases found
    · rename_i size
      rw [if_neg size]
      cases body : (recvN ((getLE32 hdr 3).toNat - shadHeaderSize) (recvN shadHeaderSize c).2).1 with
      | none => simp [body] at found
      | some payload =>
        have second := length_received body
        dsimp only
        rw [incoming_recvN] at second ⊢
        omega

theorem incoming_dispatchPacket (pb : Proto) (packet : Packet) (c : State) :
    (dispatchPacket pb packet c).incoming.length ≤ c.incoming.length := by
  have handled := handled_dispatchPacket pb packet c
  rw [State.incoming, State.incoming, handled.sock]
  split
  · exact Nat.zero_le _
  · exact Nat.le_refl _

/-- The while loop, up to the break that ends it. -/
def readerLoop (pb : Proto) (c : State) : State :=
  if c.terminate ∨ c.overrun then c
  else
    match _read : (readPacket c).1 with
    | none => (readPacket c).2
    | some packet => readerLoop pb (dispatchPacket pb packet (readPacket c).2)
termination_by c.incoming.length
decreasing_by
  have consumed := length_readPacket _read
  have handled := incoming_dispatchPacket pb packet (readPacket c).2
  rw [shadHeaderSize] at consumed
  omega

theorem readerLoop_round (pb : Proto) {c d : State} {packet : Packet}
    (going : c.terminate = false) (safe : c.overrun = false)
    (read : readPacket c = (some packet, d)) :
    readerLoop pb c = readerLoop pb (dispatchPacket pb packet d) := by
  rw [readerLoop, if_neg (by simp [going, safe])]
  split
  · rename_i none_
    rw [read] at none_
    cases none_
  · rename_i found
    rw [read] at found ⊢
    cases found
    rfl

theorem readerLoop_break (pb : Proto) {c : State} (read : (readPacket c).1 = none) :
    readerLoop pb c = c ∨ readerLoop pb c = (readPacket c).2 := by
  rw [readerLoop]
  split
  · exact Or.inl rfl
  · right
    split
    · rfl
    · rename_i found
      rw [read] at found
      cases found

def readerExit (c : State) : State :=
  let c :=
    if c.authenticated then c
    else
      releaseAuthenticated
        (if c.state = .ok then { c with state := .failureOther } else c)
  { c with connected := false, authenticated := false }

def readerThread (pb : Proto) (c : State) : State :=
  let c := readerLoop pb c
  if c.overrun then c else readerExit c

end ShadNetClient
