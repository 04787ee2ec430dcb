import ShadNet.Client.Framing

/-!
# The greeting of the server

A server begins with a ServerInfo packet. DoConnect and ProbeServer read it from the socket they
have just connected, each with its own code, and the reader thread reads what comes after it with
a third copy.
-/

namespace ShadNetClient

def shadProtocolVersion : UInt32 := 1

/-- A client with the version its server announced last. -/
structure Connecting extends State where
  serverProtocolVersion : UInt32 := 0

inductive ProbeResult where
  | ok
  | unreachable
  | versionMismatch
  | protocolError
  deriving DecidableEq, Repr

structure ProbeInfo where
  result : ProbeResult := .unreachable
  serverVersion : UInt32 := 0
  deriving DecidableEq, Repr

/-- RecvN for lengths from 2^31 on, which `recv` gets as negative numbers. -/
abbrev WideRecv :=
  Nat → List (Arrivals.Chunk UInt8) → Option (List UInt8) × List (Arrivals.Chunk UInt8)

section DoConnect

variable (wide : WideRecv)

/-- RecvN of an announced length. -/
def recvAnnounced (n : Nat) (c : State) : Option (List UInt8) × State :=
  if n < 2 ^ 31 then recvN n c
  else if c.terminate then (none, c)
  else
    match c.sock with
    | none => (none, c)
    | some chunks => ((wide n chunks).1, { c with sock := some (wide n chunks).2 })

def failConnect (state : ShadNetState) (c : Connecting) : Bool × Connecting :=
  (false, { c with toState := { doDisconnect c.toState with state } })

/-- DoConnect from the connected socket on. -/
def doConnect (chunks : List (Arrivals.Chunk UInt8)) (c : Connecting) : Bool × Connecting :=
  let header := recvN shadHeaderSize { c.toState with sock := some chunks }
  let c := { c with toState := header.2 }
  match header.1 with
  | none => failConnect .failureServerInfo c
  | some hdr =>
    if hdr.headD 0 ≠ PacketType.serverInfo.code then failConnect .failureServerInfo c
    else
      let totalSz := (getLE32 hdr 3).toNat
      let payloadSz := if totalSz > shadHeaderSize then totalSz - shadHeaderSize else 0
      let body := recvAnnounced wide payloadSz c.toState
      let c := { c with toState := body.2 }
      match body.1 with
      | none => failConnect .failureServerInfo c
      | some siPayload =>
        if payloadSz ≥ 4 then
          let serverVer := getLE32 siPayload 0
          let c := { c with serverProtocolVersion := serverVer }
          if serverVer ≠ shadProtocolVersion then failConnect .failureProtocol c
          else (true, { c with connected := true })
        else (true, { c with connected := true })

end DoConnect

/-- ProbeServer from the outcome of its connect on. -/
def probeServer : Option (List (Arrivals.Chunk UInt8)) → ProbeInfo
  | none => {}
  | some chunks =>
    let info : ProbeInfo := { result := .protocolError }
    let header := Arrivals.recvN shadHeaderSize chunks
    match header.1 with
    | none => info
    | some hdr =>
      if hdr.headD 0 ≠ PacketType.serverInfo.code then info
      else
        let totalSz := (getLE32 hdr 3).toNat
        if totalSz < shadHeaderSize ∨ totalSz > shadMaxPacketSize then info
        else
          let payloadSz := totalSz - shadHeaderSize
          match (Arrivals.recvN payloadSz header.2).1 with
          | none => info
          | some payload =>
            if payloadSz < 4 then { info with result := .ok }
            else
              let info := { info with serverVersion := getLE32 payload 0 }
              if info.serverVersion ≠ shadProtocolVersion then
                { info with result := .versionMismatch }
              else { info with result := .ok }

/-- A greeting as it should be: one packet for the reader, of type ServerInfo, with the protocol
version in front of its payload if there is room for it. -/
structure Greeting (stream : List UInt8) : Prop where
  framed : ¬Broken stream
  type : stream.headD 0 = PacketType.serverInfo.code
  version : shadHeaderSize + 4 ≤ announced stream →
    getLE32 (stream.drop shadHeaderSize) 0 = shadProtocolVersion

/-- The reader thread would take the greeting for a packet. -/
def ReaderTakes (chunks : List (Arrivals.Chunk UInt8)) : Prop :=
  ∃ packet, (readPacket { sock := some chunks }).1 = some packet ∧
    packet.type = PacketType.serverInfo.code

/-- Both accept the same streams, and only greetings. -/
structure GreetingChecked (wide : WideRecv) (chunks : List (Arrivals.Chunk UInt8))
    (c : Connecting) : Prop where
  agree : (doConnect wide chunks c).1 = true ↔ (probeServer (some chunks)).result = .ok
  greeting : (doConnect wide chunks c).1 = true ∨ (probeServer (some chunks)).result = .ok →
    Greeting (Arrivals.content chunks) ∧ ReaderTakes chunks

/-- DoConnect does not look whether the announced size is a packet's. -/
structure Unchecked (wide : WideRecv) (chunks : List (Arrivals.Chunk UInt8))
    (stream : List UInt8) : Prop where
  header : shadHeaderSize ≤ stream.length
  type : stream.headD 0 = PacketType.serverInfo.code
  size : announced stream < shadHeaderSize ∨
    shadMaxPacketSize < announced stream ∧
      (announced stream < shadHeaderSize + 2 ^ 31 ∧ announced stream ≤ stream.length ∧
          getLE32 (stream.drop shadHeaderSize) 0 = shadProtocolVersion ∨
        shadHeaderSize + 2 ^ 31 ≤ announced stream ∧ ∃ payload,
          (wide (announced stream - shadHeaderSize)
            (Arrivals.recvN shadHeaderSize chunks).2).1 = some payload ∧
            getLE32 payload 0 = shadProtocolVersion)

variable {wide : WideRecv} {chunks : List (Arrivals.Chunk UInt8)} {c : Connecting}

/-! ### The header -/

theorem recvN_header (enough : shadHeaderSize ≤ (Arrivals.content chunks).length) :
    (Arrivals.recvN shadHeaderSize chunks).1 =
        some ((Arrivals.content chunks).take shadHeaderSize) ∧
      Arrivals.content (Arrivals.recvN shadHeaderSize chunks).2 =
        (Arrivals.content chunks).drop shadHeaderSize :=
  Arrivals.recvN_enough enough

theorem recvN_opened {n : Nat} {c : State} (going : c.terminate = false) (more : n ≠ 0) :
    recvN n { c with sock := some chunks } =
      ((Arrivals.recvN n chunks).1, { c with sock := some (Arrivals.recvN n chunks).2 }) := by
  rw [recvN, received, if_neg more]
  simp only [going, Bool.false_eq_true, if_false]

/-- What the payload receive of DoConnect makes of the stream behind the header. -/
def payloadOf (wide : WideRecv) (n : Nat) (rest : List (Arrivals.Chunk UInt8)) :
    Option (List UInt8) :=
  if n < 2 ^ 31 then (Arrivals.recvN n rest).1 else (wide n rest).1

theorem recvAnnounced_opened {n : Nat} {c : State} (going : c.terminate = false) :
    (recvAnnounced wide n { c with sock := some chunks }).1 = payloadOf wide n chunks := by
  unfold recvAnnounced payloadOf
  split
  · by_cases nothing : n = 0
    · subst nothing
      rw [Arrivals.recvN]
      rfl
    · rw [recvN_opened going nothing]
  · simp only [going, Bool.false_eq_true, if_false]

theorem getLE32_take {n : Nat} {bytes : List UInt8} (four : 4 ≤ n) :
    getLE32 (bytes.take n) 0 = getLE32 bytes 0 := by
  unfold getLE32
  congr 1
  exact LittleEndian.get_congr fun i inside => by
    rw [Nat.zero_add, getD_take (by omega)]

theorem doConnect_iff (going : c.terminate = false) :
    (doConnect wide chunks c).1 = true ↔
      shadHeaderSize ≤ (Arrivals.content chunks).length ∧
      (Arrivals.content chunks).headD 0 = PacketType.serverInfo.code ∧
      ∃ payload, payloadOf wide (announced (Arrivals.content chunks) - shadHeaderSize)
          (Arrivals.recvN shadHeaderSize chunks).2 = some payload ∧
        (shadHeaderSize + 4 ≤ announced (Arrivals.content chunks) →
          getLE32 payload 0 = shadProtocolVersion) := by
  by_cases enough : shadHeaderSize ≤ (Arrivals.content chunks).length
  · obtain ⟨taken, -⟩ := recvN_header enough
    have same := sameHeader_take (Arrivals.content chunks)
    have size : (if announced (Arrivals.content chunks) > shadHeaderSize then
        announced (Arrivals.content chunks) - shadHeaderSize else 0) =
          announced (Arrivals.content chunks) - shadHeaderSize := by
      split <;> omega
    unfold doConnect
    simp only [recvN_opened going (show shadHeaderSize ≠ 0 by decide), taken, same.type, same.size]
    rw [← announced, size]
    by_cases type : (Arrivals.content chunks).headD 0 = PacketType.serverInfo.code
    · rw [if_neg (not_not.mpr type), recvAnnounced_opened going]
      cases payloadOf wide (announced (Arrivals.content chunks) - shadHeaderSize)
        (Arrivals.recvN shadHeaderSize chunks).2 with
      | none => simp [failConnect]
      | some payload =>
        have four : announced (Arrivals.content chunks) - shadHeaderSize ≥ 4 ↔
            shadHeaderSize + 4 ≤ announced (Arrivals.content chunks) := by
          omega
        dsimp only
        by_cases long : shadHeaderSize + 4 ≤ announced (Arrivals.content chunks)
        · rw [if_pos (four.mpr long)]
          by_cases version : getLE32 payload 0 = shadProtocolVersion
          · simp [version, enough, type, -List.headD_eq_head?_getD]
          · simp [version, long, failConnect]
        · rw [if_neg (fun more => long (four.mp more))]
          simp [long, enough, type, -List.headD_eq_head?_getD]
    · rw [if_pos type]
      simp [failConnect, type, -List.headD_eq_head?_getD]
  · have short := Arrivals.recvN_short (not_le.mp enough)
    unfold doConnect
    simp only [recvN_opened going (show shadHeaderSize ≠ 0 by decide), short]
    simp [failConnect, enough]

theorem probeServer_iff :
    (probeServer (some chunks)).result = .ok ↔ Greeting (Arrivals.content chunks) := by
  by_cases enough : shadHeaderSize ≤ (Arrivals.content chunks).length
  · obtain ⟨taken, left⟩ := recvN_header enough
    have same := sameHeader_take (Arrivals.content chunks)
    unfold probeServer
    simp only [taken, same.type, same.size]
    rw [← announced]
    by_cases type : (Arrivals.content chunks).headD 0 = PacketType.serverInfo.code
    · rw [if_neg (not_not.mpr type)]
      by_cases sized : announced (Arrivals.content chunks) < shadHeaderSize ∨
          announced (Arrivals.content chunks) > shadMaxPacketSize
      · rw [if_pos sized]
        constructor
        · rintro ⟨⟩
        · intro greeting
          exact absurd (Or.inr (sized.imp id Or.inl)) greeting.framed
      · rw [if_neg sized]
        obtain ⟨least, most⟩ := not_or.mp sized
        by_cases whole : announced (Arrivals.content chunks) ≤ (Arrivals.content chunks).length
        · have framed : ¬Broken (Arrivals.content chunks) := by
            rintro (short | small | big | partial_) <;> omega
          have body : announced (Arrivals.content chunks) - shadHeaderSize ≤
              (Arrivals.content (Arrivals.recvN shadHeaderSize chunks).2).length := by
            rw [left, List.length_drop]
            omega
          rw [(Arrivals.recvN_enough body).1, left]
          dsimp only
          by_cases four : announced (Arrivals.content chunks) - shadHeaderSize < 4
          · rw [if_pos four]
            exact ⟨fun _ => ⟨framed, type, fun more => by omega⟩, fun _ => rfl⟩
          · rw [if_neg four, getLE32_take (by omega)]
            by_cases version :
              getLE32 ((Arrivals.content chunks).drop shadHeaderSize) 0 = shadProtocolVersion
            · rw [if_neg (not_not.mpr version)]
              exact ⟨fun _ => ⟨framed, type, fun _ => version⟩, fun _ => rfl⟩
            · rw [if_pos version]
              constructor
              · rintro ⟨⟩
              · intro greeting
                exact absurd (greeting.version (by omega)) version
        · have body : (Arrivals.content (Arrivals.recvN shadHeaderSize chunks).2).length <
              announced (Arrivals.content chunks) - shadHeaderSize := by
            rw [left, List.length_drop]
            omega
          rw [Arrivals.recvN_short body]
          constructor
          · rintro ⟨⟩
          · intro greeting
            exact absurd (Or.inr (Or.inr (Or.inr (not_le.mp whole)))) greeting.framed
    · rw [if_pos type]
      constructor
      · rintro ⟨⟩
      · intro greeting
        exact absurd greeting.type type
  · have short := Arrivals.recvN_short (not_le.mp enough)
    unfold probeServer
    simp only [short]
    constructor
    · rintro ⟨⟩
    · intro greeting
      exact absurd (Or.inl (not_le.mp enough)) greeting.framed

/-! ### Greetings -/

theorem greeting_readerTakes (greeting : Greeting (Arrivals.content chunks)) :
    ReaderTakes chunks := by
  obtain ⟨frames, rest, broken, stream⟩ := exists_frames (Arrivals.content chunks)
  cases frames with
  | nil =>
    have whole : Arrivals.content chunks = rest := stream
    exact absurd broken (whole ▸ greeting.framed)
  | cons frame frames =>
    have split : (Arrivals.content chunks) = frame.val ++ (frames.flatMap Subtype.val ++ rest) := by
      rw [stream, List.flatMap_cons, List.append_assoc]
    have going : ({ sock := some chunks } : State).terminate = false := rfl
    obtain ⟨sock, read, -⟩ := readPacket_frame going split
    refine ⟨frame.packet, by rw [read], ?_⟩
    have type := greeting.type
    rw [split, (sameHeader_append frame.property.1 _).type] at type
    exact type

theorem shadMaxPacketSize_lt : shadMaxPacketSize < 2 ^ 31 := by
  unfold shadMaxPacketSize
  omega

theorem payloadOf_small {n : Nat} {rest : List (Arrivals.Chunk UInt8)} {payload : List UInt8}
    (small : n < 2 ^ 31) : payloadOf wide n rest = some payload ↔
      n ≤ (Arrivals.content rest).length ∧ (Arrivals.content rest).take n = payload := by
  rw [payloadOf, if_pos small]
  by_cases enough : n ≤ (Arrivals.content rest).length
  · rw [(Arrivals.recvN_enough enough).1]
    simp [enough]
  · rw [Arrivals.recvN_short (not_le.mp enough)]
    simp [enough]

theorem doConnect_of_unchecked (going : c.terminate = false)
    (unchecked : Unchecked wide chunks (Arrivals.content chunks)) :
    (doConnect wide chunks c).1 = true := by
  obtain ⟨-, left⟩ := recvN_header unchecked.header
  refine (doConnect_iff going).mpr ⟨unchecked.header, unchecked.type, ?_⟩
  rcases unchecked.size with small |
    ⟨large, ⟨fits, whole, version⟩ | ⟨wide_, payload, got, version⟩⟩
  · refine ⟨[], (payloadOf_small (by omega)).mpr ⟨by omega, ?_⟩, fun more => by omega⟩
    have nothing : announced (Arrivals.content chunks) - shadHeaderSize = 0 := by omega
    rw [nothing, List.take_zero]
  · refine ⟨_, (payloadOf_small (by omega)).mpr ⟨?_, rfl⟩, fun more => ?_⟩
    · rw [left, List.length_drop]
      omega
    · rw [getLE32_take (by omega), left, version]
  · refine ⟨payload, ?_, fun _ => version⟩
    rw [payloadOf, if_neg (by omega), got]

theorem not_greeting_of_unchecked (unchecked : Unchecked wide chunks (Arrivals.content chunks)) :
    ¬Greeting (Arrivals.content chunks) := by
  intro greeting
  apply greeting.framed
  rcases unchecked.size with small | ⟨large, -⟩
  · exact Or.inr (Or.inl small)
  · exact Or.inr (Or.inr (Or.inl large))

theorem doConnect_of_greeting (going : c.terminate = false)
    (greeting : Greeting (Arrivals.content chunks)) : (doConnect wide chunks c).1 = true := by
  have framed := greeting.framed
  unfold Broken at framed
  have bound := shadMaxPacketSize_lt
  have header : shadHeaderSize ≤ (Arrivals.content chunks).length := by omega
  obtain ⟨-, left⟩ := recvN_header header
  refine (doConnect_iff going).mpr ⟨by omega, greeting.type, _,
    (payloadOf_small (by omega)).mpr ⟨?_, rfl⟩, fun more => ?_⟩
  · rw [left, List.length_drop]
    omega
  · rw [getLE32_take (by omega), left, greeting.version more]

theorem greeting_of_doConnect (going : c.terminate = false)
    (checked : ¬Unchecked wide chunks (Arrivals.content chunks))
    (accepts : (doConnect wide chunks c).1 = true) : Greeting (Arrivals.content chunks) := by
  obtain ⟨header, type, payload, got, version⟩ := (doConnect_iff going).mp accepts
  obtain ⟨-, left⟩ := recvN_header header
  have least : shadHeaderSize ≤ announced (Arrivals.content chunks) := by
    by_contra small
    exact checked ⟨header, type, Or.inl (not_le.mp small)⟩
  have most : announced (Arrivals.content chunks) ≤ shadMaxPacketSize := by
    by_contra large
    have four : shadHeaderSize + 4 ≤ announced (Arrivals.content chunks) := by
      unfold shadMaxPacketSize at large
      unfold shadHeaderSize
      omega
    refine checked ⟨header, type, Or.inr ⟨not_le.mp large, ?_⟩⟩
    by_cases fits : announced (Arrivals.content chunks) - shadHeaderSize < 2 ^ 31
    · obtain ⟨whole, rfl⟩ := (payloadOf_small fits).mp got
      rw [left, List.length_drop] at whole
      have first := version four
      rw [getLE32_take (by omega), left] at first
      exact Or.inl ⟨by omega, by omega, first⟩
    · have wide_ : shadHeaderSize + 2 ^ 31 ≤ announced (Arrivals.content chunks) :=
        Nat.add_comm .. ▸ Nat.add_le_of_le_sub least (not_lt.mp fits)
      rw [payloadOf, if_neg fits] at got
      exact Or.inr ⟨wide_, payload, got, version four⟩
  have bound := shadMaxPacketSize_lt
  obtain ⟨whole, rfl⟩ := (payloadOf_small (by omega)).mp got
  rw [left, List.length_drop] at whole
  refine ⟨?_, type, fun more => ?_⟩
  · rintro (short | small | big | partial_) <;> omega
  · have first := version more
    rwa [getLE32_take (by omega), left] at first

/-- The two checks agree, and with the reader, on the streams whose announced size DoConnect does
not have to check. -/
theorem greetingChecked_iff (going : c.terminate = false) :
    GreetingChecked wide chunks c ↔ ¬Unchecked wide chunks (Arrivals.content chunks) := by
  constructor
  · intro checked unchecked
    have accepts := doConnect_of_unchecked going unchecked
    exact not_greeting_of_unchecked unchecked (checked.greeting (Or.inl accepts)).1
  · intro checked
    have connects : (doConnect wide chunks c).1 = true ↔ Greeting (Arrivals.content chunks) :=
      ⟨greeting_of_doConnect going checked, doConnect_of_greeting going⟩
    refine ⟨connects.trans probeServer_iff.symm, fun either => ?_⟩
    have greeting : Greeting (Arrivals.content chunks) :=
      either.elim connects.mp probeServer_iff.mp
    exact ⟨greeting, greeting_readerTakes greeting⟩

/-- A server that closes at once. -/
theorem greetingChecked_iff_empty :
    ¬Unchecked (fun _ chunks => (none, chunks)) [] (Arrivals.content []) ∧
      GreetingChecked (fun _ chunks => (none, chunks)) [] {} :=
  have short : ¬Unchecked (fun _ chunks => (none, chunks)) [] (Arrivals.content []) :=
    fun unchecked => absurd unchecked.header (by decide)
  ⟨short, (greetingChecked_iff rfl).mpr short⟩

def zeroSized : List (Arrivals.Chunk UInt8) :=
  [⟨[3, 0, 0, 0, 0, 0, 0, 0, 0, 0, 0, 0, 0, 0, 0], by decide⟩]

/-- DoConnect takes the header of a ServerInfo packet with its size left zero. -/
theorem greetingChecked_zeroSized :
    ¬∀ (wide : WideRecv) (chunks : List (Arrivals.Chunk UInt8)),
      GreetingChecked wide chunks {} := by
  intro all
  have unchecked : Unchecked (fun _ chunks => (none, chunks)) zeroSized
      (Arrivals.content zeroSized) :=
    ⟨by decide, by decide, Or.inl (by decide)⟩
  have accepts : (doConnect _ zeroSized {}).1 = true := doConnect_of_unchecked rfl unchecked
  have agrees := (all (fun _ chunks => (none, chunks)) zeroSized).greeting (Or.inl accepts)
  exact not_greeting_of_unchecked unchecked agrees.1

end ShadNetClient
