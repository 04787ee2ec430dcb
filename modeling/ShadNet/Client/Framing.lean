import ShadNet.Client.Reader

/-!
# Framing

A stream is a sequence of frames and a rest the reader cannot take: every
stream is of this shape. The loop dispatches the packets of the frames, however
the stream is cut into chunks, and the frames `buildPacket` writes carry the
packets they were written from.
-/

namespace ShadNetClient

/-- The size the header at the start of the bytes announces. -/
def announced (bytes : List UInt8) : Nat := (getLE32 bytes 3).toNat

/-- A packet as it stands in the stream. -/
abbrev Frame :=
  {bytes : List UInt8 //
    shadHeaderSize ≤ bytes.length ∧ announced bytes = bytes.length ∧
      bytes.length ≤ shadMaxPacketSize}

def Frame.packet (frame : Frame) : Packet where
  type := frame.val.headD 0
  command := getLE16 frame.val 1
  id := getLE64 frame.val 7
  payload := frame.val.drop shadHeaderSize

/-- The stream ends inside a packet, or its next header announces a size that is no packet's. -/
def Broken (rest : List UInt8) : Prop :=
  rest.length < shadHeaderSize ∨ announced rest < shadHeaderSize ∨
    shadMaxPacketSize < announced rest ∨ rest.length < announced rest

instance (rest : List UInt8) : Decidable (Broken rest) :=
  inferInstanceAs (Decidable (_ ∨ _ ∨ _ ∨ _))

theorem broken_nil : Broken [] := Or.inl (by decide)

/-! ### Headers -/

theorem getD_take {α : Type} {n i : Nat} (inside : i < n) (bytes : List α) (d : α) :
    (bytes.take n).getD i d = bytes.getD i d := by
  rw [List.getD_eq_getElem?_getD, List.getD_eq_getElem?_getD, List.getElem?_take_of_lt inside]

theorem getD_append_left {α : Type} {bytes rest : List α} {i : Nat} (inside : i < bytes.length)
    (d : α) : (bytes ++ rest).getD i d = bytes.getD i d := by
  rw [List.getD_eq_getElem?_getD, List.getD_eq_getElem?_getD, List.getElem?_append_left inside]

/-- The fields of a header are those of the bytes it starts. -/
structure SameHeader (hdr bytes : List UInt8) : Prop where
  type : hdr.headD 0 = bytes.headD 0
  command : getLE16 hdr 1 = getLE16 bytes 1
  size : getLE32 hdr 3 = getLE32 bytes 3
  id : getLE64 hdr 7 = getLE64 bytes 7

theorem sameHeader_of_getD {hdr bytes : List UInt8}
    (same : ∀ i < shadHeaderSize, hdr.getD i 0 = bytes.getD i 0) : SameHeader hdr bytes := by
  rw [shadHeaderSize] at same
  constructor
  · have first := same 0 (by omega)
    rwa [List.headD_eq_head?_getD, List.headD_eq_head?_getD, List.head?_eq_getElem?,
      List.head?_eq_getElem?, ← List.getD_eq_getElem?_getD, ← List.getD_eq_getElem?_getD]
  · rw [getLE16, getLE16, LittleEndian.get_congr (fun i _ => same (1 + i) (by omega))]
  · rw [getLE32, getLE32, LittleEndian.get_congr (fun i _ => same (3 + i) (by omega))]
  · rw [getLE64, getLE64, LittleEndian.get_congr (fun i _ => same (7 + i) (by omega))]

theorem sameHeader_take (bytes : List UInt8) : SameHeader (bytes.take shadHeaderSize) bytes :=
  sameHeader_of_getD (fun _ inside => getD_take inside bytes 0)

theorem sameHeader_append {bytes : List UInt8} (long : shadHeaderSize ≤ bytes.length)
    (rest : List UInt8) : SameHeader (bytes ++ rest) bytes :=
  sameHeader_of_getD (fun _ inside => getD_append_left (by omega) 0)

/-- Every stream is a sequence of frames before a rest that cannot be taken. -/
theorem exists_frames (bytes : List UInt8) :
    ∃ (frames : List Frame) (rest : List UInt8),
      Broken rest ∧ bytes = frames.flatMap Subtype.val ++ rest := by
  induction size : bytes.length using Nat.strong_induction_on generalizing bytes with
  | _ n ih =>
    by_cases broken : Broken bytes
    · exact ⟨[], bytes, broken, rfl⟩
    · simp only [Broken, not_or, Nat.not_lt] at broken
      obtain ⟨header, least, most, whole⟩ := broken
      have length : (bytes.take (announced bytes)).length = announced bytes := by
        rw [List.length_take]
        omega
      have parts := List.take_append_drop (announced bytes) bytes
      have same : announced (bytes.take (announced bytes)) = announced bytes := by
        have header' := sameHeader_append (length.symm ▸ least) (bytes.drop (announced bytes))
        rw [parts] at header'
        rw [announced, ← header'.size, announced]
      let frame : Frame := ⟨bytes.take (announced bytes), by omega, by omega, by omega⟩
      have shorter : (bytes.drop (announced bytes)).length < n := by
        rw [List.length_drop]
        rw [shadHeaderSize] at least
        omega
      obtain ⟨frames, rest, broken, split⟩ := ih _ shorter _ rfl
      refine ⟨frame :: frames, rest, broken, ?_⟩
      rw [List.flatMap_cons, List.append_assoc, ← split]
      exact parts.symm

/-! ### One round -/

theorem readPacket_frame {c : State} (going : c.terminate = false) {frame : Frame}
    {rest : List UInt8} (stream : c.incoming = frame.val ++ rest) :
    ∃ sock, readPacket c = (some frame.packet, { c with sock := sock }) ∧
      sock.elim [] Arrivals.content = rest ∧ sock ≠ none := by
  obtain ⟨bytes, long, size, small⟩ := frame
  dsimp only at stream
  have enough : shadHeaderSize ≤ c.incoming.length := by
    rw [stream, List.length_append]
    omega
  obtain ⟨header, left, opened⟩ := received_enough going enough
  rw [stream, List.take_append_of_le_length long] at header
  rw [stream, List.drop_append_of_le_length long] at left
  have same := sameHeader_take bytes
  have length : (getLE32 (bytes.take shadHeaderSize) 3).toNat = bytes.length := by
    rw [same.size, ← size, announced]
  let d := (recvN shadHeaderSize c).2
  have more : d.incoming = bytes.drop shadHeaderSize ++ rest := left
  have payload : (bytes.drop shadHeaderSize).length = bytes.length - shadHeaderSize :=
    List.length_drop
  have enough' : bytes.length - shadHeaderSize ≤ d.incoming.length := by
    rw [more, List.length_append]
    omega
  have going' : d.terminate = false := going
  obtain ⟨body, left', opened'⟩ := received_enough going' enough'
  rw [more, List.take_left' payload] at body
  rw [more, List.drop_left' payload] at left'
  refine ⟨(received (bytes.length - shadHeaderSize) d).2, ?_, left', ?_⟩
  · have good : ¬(bytes.length < shadHeaderSize ∨ shadMaxPacketSize < bytes.length) := by omega
    simp only [readPacket, recvN, header, length, if_neg good]
    simp only [d, recvN] at body
    simp only [body, d, recvN]
    rw [same.type, same.command, same.id]
    rfl
  · intro closed
    have closed' := opened.mp (opened'.mp closed)
    have empty := incoming_closed closed'
    rw [stream] at empty
    have nothing := congrArg List.length empty
    rw [List.length_append, List.length_nil] at nothing
    rw [shadHeaderSize] at long
    omega

theorem readPacket_broken {c : State} (broken : Broken c.incoming) : (readPacket c).1 = none := by
  cases header : (received shadHeaderSize c).1 with
  | none => simp only [readPacket, recvN, header]
  | some hdr =>
    have used := length_received header
    have going : c.terminate = false := by
      by_contra stopped
      rw [Bool.not_eq_false] at stopped
      rw [received, if_neg (by decide), if_pos stopped] at header
      cases header
    obtain ⟨taken, left, -⟩ := received_enough going (Nat.le_of_add_right_le used.le)
    obtain rfl : c.incoming.take shadHeaderSize = hdr := by
      rw [taken] at header
      exact Option.some.inj header
    have same := sameHeader_take c.incoming
    simp only [readPacket, recvN, header, same.size]
    rw [← announced]
    rcases broken with short | small | big | partial_
    · omega
    · rw [if_pos (Or.inl small)]
    · rw [if_pos (Or.inr big)]
    · by_cases good : announced c.incoming < shadHeaderSize ∨ shadMaxPacketSize < announced c.incoming
      · rw [if_pos good]
      · rw [if_neg good]
        have missing : (received (announced c.incoming - shadHeaderSize)
            { c with sock := (received shadHeaderSize c).2 }).1 = none := by
          apply received_short
          rw [State.incoming, left, List.length_drop]
          omega
        simp only [missing]

/-- A round changes nothing but what is left in the socket and, at its end, the state. -/
theorem readPacket_rest (c : State) :
    ∃ sock state, (readPacket c).2 = { c with sock := sock, state := state } := by
  simp only [readPacket, recvN]
  split
  · exact ⟨_, _, rfl⟩
  · split
    · exact ⟨_, _, rfl⟩
    · split <;> exact ⟨_, _, rfl⟩

/-! ### The loop -/

/-- The packets up to the first one whose handling closes the socket. -/
def upToClosing (pb : Proto) : List Packet → List Packet
  | [] => []
  | packet :: rest => if packet.closes pb then [packet] else packet :: upToClosing pb rest

theorem upToClosing_of_open {pb : Proto} {packets : List Packet}
    (opened : ∀ packet ∈ packets, packet.closes pb = false) : upToClosing pb packets = packets := by
  induction packets with
  | nil => rfl
  | cons packet rest ih =>
    rw [upToClosing, opened packet (List.mem_cons_self ..), if_neg Bool.false_ne_true,
      ih (fun other member => opened other (List.mem_cons_of_mem _ member))]

theorem readerLoop_broken (pb : Proto) {c : State} (broken : Broken c.incoming) :
    (readerLoop pb c).dispatched = c.dispatched := by
  rcases readerLoop_break pb (readPacket_broken broken) with same | ended
  · rw [same]
  · obtain ⟨sock, state, rest⟩ := readPacket_rest c
    rw [ended, rest]

/-- The induction over the packets of a stream. -/
theorem readerLoop_frames (pb : Proto) {rest : List UInt8} (broken : Broken rest)
    {frames : List Frame} (inside : ∀ frame ∈ frames, frame.packet.overruns pb = false) {c : State}
    (going : c.terminate = false) (safe : c.overrun = false)
    (stream : c.incoming = frames.flatMap Subtype.val ++ rest) :
    (readerLoop pb c).dispatched =
      c.dispatched ++ upToClosing pb (frames.map Frame.packet) := by
  induction frames generalizing c with
  | nil =>
    rw [List.flatMap_nil, List.nil_append] at stream
    rw [readerLoop_broken pb (stream ▸ broken), List.map_nil, upToClosing, List.append_nil]
  | cons frame frames ih =>
    rw [List.flatMap_cons, List.append_assoc] at stream
    obtain ⟨sock, read, left, opened⟩ := readPacket_frame going stream
    have handled := handled_dispatchPacket pb frame.packet { c with sock := sock }
    have here := inside frame (List.mem_cons_self ..)
    have later : ∀ other ∈ frames, other.packet.overruns pb = false :=
      fun other member => inside other (List.mem_cons_of_mem _ member)
    rw [readerLoop_round pb going safe read, List.map_cons, upToClosing]
    by_cases closes : frame.packet.closes pb
    · have closed := handled.sock
      rw [if_pos closes] at closed
      have ended := readerLoop_broken pb ((incoming_closed closed).symm ▸ broken_nil)
      rw [ended, handled.dispatched, if_pos closes]
    · have still := handled.sock
      rw [if_neg closes] at still
      have stream' : (dispatchPacket pb frame.packet { c with sock := sock }).incoming =
          frames.flatMap Subtype.val ++ rest := by
        rw [State.incoming, still]
        exact left
      have safe' : (dispatchPacket pb frame.packet { c with sock := sock }).overrun = false := by
        rw [handled.overrun, here]
        simp [safe]
      rw [ih later (handled.terminate.trans going) safe' stream', handled.dispatched,
        if_neg closes, List.append_assoc, List.singleton_append]

/-! ### What the client writes -/

structure Request where
  command : UInt16
  id : UInt64
  payload : List UInt8
  small : shadHeaderSize + payload.length ≤ shadMaxPacketSize

def Request.packet (request : Request) : Packet where
  type := PacketType.request.code
  command := request.command
  id := request.id
  payload := request.payload

def Request.bytes (request : Request) : List UInt8 :=
  buildPacket request.command request.id request.payload

theorem getLE16_putLE16 {b : List UInt8} {off : Nat} (room : off + 2 ≤ b.length) (v : UInt16) :
    getLE16 (putLE16 b off v) off = v :=
  congrArg UInt16.ofBitVec (LittleEndian.get_put rfl room)

theorem getLE32_putLE32 {b : List UInt8} {off : Nat} (room : off + 4 ≤ b.length) (v : UInt32) :
    getLE32 (putLE32 b off v) off = v :=
  congrArg UInt32.ofBitVec (LittleEndian.get_put rfl room)

theorem getLE64_putLE64 {b : List UInt8} {off : Nat} (room : off + 8 ≤ b.length) (v : UInt64) :
    getLE64 (putLE64 b off v) off = v :=
  congrArg UInt64.ofBitVec (LittleEndian.get_put rfl room)

/-- The header `buildPacket` writes in front of the payload. -/
def header (cmd : UInt16) (id : UInt64) (total : UInt32) : List UInt8 :=
  putLE64 (putLE32 (putLE16 ((List.replicate shadHeaderSize 0).set 0 PacketType.request.code) 1 cmd)
    3 total) 7 id

theorem length_header (cmd : UInt16) (id : UInt64) (total : UInt32) :
    (header cmd id total).length = shadHeaderSize := by
  simp [header, putLE16, putLE32, putLE64]

/-- Each field is read back: the fields written later lie behind it. -/
theorem header_fields (cmd : UInt16) (id : UInt64) (total : UInt32) :
    (header cmd id total).headD 0 = PacketType.request.code ∧
      getLE16 (header cmd id total) 1 = cmd ∧ getLE32 (header cmd id total) 3 = total ∧
      getLE64 (header cmd id total) 7 = id := by
  refine ⟨?_, ?_, ?_, ?_⟩
  · rw [List.headD_eq_head?_getD, List.head?_eq_getElem?, ← List.getD_eq_getElem?_getD, header,
      putLE64, LittleEndian.getD_put_before (by omega), putLE32,
      LittleEndian.getD_put_before (by omega), putLE16, LittleEndian.getD_put_before (by omega)]
    rfl
  · have same : ∀ i < 2, (header cmd id total).getD (1 + i) 0 =
        (putLE16 ((List.replicate shadHeaderSize 0).set 0 PacketType.request.code) 1 cmd).getD
          (1 + i) 0 := by
      intro i inside
      rw [header, putLE64, LittleEndian.getD_put_before (by omega), putLE32,
        LittleEndian.getD_put_before (by omega)]
    rw [getLE16, LittleEndian.get_congr same, ← getLE16, getLE16_putLE16 (by simp [shadHeaderSize])]
  · have same : ∀ i < 4, (header cmd id total).getD (3 + i) 0 =
        (putLE32 (putLE16 ((List.replicate shadHeaderSize 0).set 0 PacketType.request.code) 1 cmd)
          3 total).getD (3 + i) 0 := by
      intro i inside
      rw [header, putLE64, LittleEndian.getD_put_before (by omega)]
    rw [getLE32, LittleEndian.get_congr same, ← getLE32,
      getLE32_putLE32 (by simp [putLE16, shadHeaderSize])]
  · rw [header, getLE64_putLE64 (by simp [putLE16, putLE32, shadHeaderSize])]

theorem Request.bytes_eq (request : Request) :
    request.bytes =
      header request.command request.id (UInt32.ofNat (shadHeaderSize + request.payload.length)) ++
        request.payload := rfl

/-- A packet the client builds stands in the stream as a frame. -/
def Request.frame (request : Request) : Frame :=
  ⟨request.bytes, by
    have small := request.small
    have length := length_header request.command request.id
      (UInt32.ofNat (shadHeaderSize + request.payload.length))
    have fields := sameHeader_append length.ge request.payload
    have size := (header_fields request.command request.id
      (UInt32.ofNat (shadHeaderSize + request.payload.length))).2.2.1
    rw [← Request.bytes_eq] at fields
    have total : request.bytes.length = shadHeaderSize + request.payload.length := by
      rw [Request.bytes_eq, List.length_append, length]
    refine ⟨by omega, ?_, by omega⟩
    rw [announced, fields.size, size, total, UInt32.toNat_ofNat']
    rw [shadMaxPacketSize] at small
    omega⟩

theorem Request.packet_frame (request : Request) : request.frame.packet = request.packet := by
  have length := length_header request.command request.id
    (UInt32.ofNat (shadHeaderSize + request.payload.length))
  have fields := sameHeader_append length.ge request.payload
  rw [← Request.bytes_eq] at fields
  obtain ⟨type, command, -, id⟩ := header_fields request.command request.id
    (UInt32.ofNat (shadHeaderSize + request.payload.length))
  have payload : request.bytes.drop shadHeaderSize = request.payload := by
    rw [Request.bytes_eq, List.drop_left' length]
  simp only [Frame.packet, Request.frame, Request.packet, fields.type, fields.command, fields.id,
    type, command, id, payload]

/-- A request coming back leaves the reader alone. -/
theorem Request.harmless (pb : Proto) (request : Request) :
    request.packet.closes pb = false ∧ request.packet.overruns pb = false := ⟨rfl, rfl⟩

/-! ### The round trip -/

/-- The reader is at the start of its loop, with the whole stream before it. -/
structure Starts (stream : List UInt8) (c : State) : Prop where
  going : c.terminate = false
  safe : c.overrun = false
  fresh : c.dispatched = []
  arriving : c.incoming = stream

theorem dispatched_readerThread (pb : Proto) (c : State) :
    (readerThread pb c).dispatched = (readerLoop pb c).dispatched := by
  simp only [readerThread, readerExit]
  split
  · rfl
  · dsimp only
    split
    · rfl
    · split <;> rfl

/-- What was built is dispatched, and of any stream the packets before the place where it breaks. -/
def FramingRoundTrip (pb : Proto) : Prop :=
  (∀ (requests : List Request) (c : State), Starts (requests.flatMap Request.bytes) c →
    (readerThread pb c).dispatched = requests.map Request.packet) ∧
  ∀ (frames : List Frame) (rest : List UInt8) (c : State), Broken rest →
    Starts (frames.flatMap Subtype.val ++ rest) c →
    (readerThread pb c).dispatched = frames.map Frame.packet

/-- The same, up to the packet at which the client itself hangs up. -/
def FramingUpToClosing (pb : Proto) : Prop :=
  (∀ (requests : List Request) (c : State), Starts (requests.flatMap Request.bytes) c →
    (readerThread pb c).dispatched = requests.map Request.packet) ∧
  ∀ (frames : List Frame) (rest : List UInt8) (c : State), Broken rest →
    (∀ frame ∈ frames, frame.packet.overruns pb = false) →
    Starts (frames.flatMap Subtype.val ++ rest) c →
    (readerThread pb c).dispatched = upToClosing pb (frames.map Frame.packet)

theorem dispatched_of_starts (pb : Proto) {frames : List Frame} {rest : List UInt8} {c : State}
    (broken : Broken rest) (inside : ∀ frame ∈ frames, frame.packet.overruns pb = false)
    (starts : Starts (frames.flatMap Subtype.val ++ rest) c) :
    (readerThread pb c).dispatched = upToClosing pb (frames.map Frame.packet) := by
  rw [dispatched_readerThread,
    readerLoop_frames pb broken inside starts.going starts.safe starts.arriving, starts.fresh,
    List.nil_append]

/-- A Login reply that refuses the login, and a packet of no type behind it. -/
def refusal : Frame := ⟨[1, 0, 0, 16, 0, 0, 0, 1, 0, 0, 0, 0, 0, 0, 0, 8], by decide⟩
def straggler : Frame := ⟨[9, 0, 0, 15, 0, 0, 0, 0, 0, 0, 0, 0, 0, 0, 0], by decide⟩

def noProto : Proto where
  loginReply _ := none
  getTokenReply _ := none
  serverFeaturesReply _ := none
  clientVersion := []

end ShadNetClient
