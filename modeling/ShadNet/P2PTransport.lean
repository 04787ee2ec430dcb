import ShadNet.LockProgram

/-!
# The P2P transport

One UDP socket is shared by three channels. Whoever receives first moves what
the socket holds into the queues of all channels, under the transport's mutex,
so a call of RecvFrom is one step; a datagram that comes in during the call is
one that came in before it or one that came in after it. The transport is
followed between a start and the next stop.
-/

namespace P2PTransport

open Runs (run)

def channelQueueBytes : Nat := 40 * 1024
def recvBufferSize : Nat := 2048

inductive Channel where
  | signaling
  | control
  | matching2
  deriving DecidableEq, Repr

structure Packet where
  data : List UInt8
  fromAddr : UInt32
  fromPort : UInt16
  deriving DecidableEq, Repr

/-- "SHAD" -/
def magic : List UInt8 := [0x53, 0x48, 0x41, 0x44]

def classify (packet : List UInt8) : Channel :=
  if packet.length < 5 ∨ packet.take 4 ≠ magic then .signaling
  else if packet.getD 4 0 = 0x10 then .control
  else if packet.getD 4 0 = 0x21 then .matching2
  else .signaling

/-- What RecvFrom hands back; its return value is the number of bytes. -/
structure Received where
  bytes : List UInt8
  fromAddr : UInt32
  fromPort : UInt16
  deriving DecidableEq, Repr

/-- A datagram that was read from the socket, and the queue of its channel at that moment. -/
structure Drained where
  packet : Packet
  queue : List Packet
  deriving DecidableEq, Repr

/-- A packet that was taken off its queue, for a buffer of so many bytes. -/
structure Delivery where
  packet : Packet
  len : Nat
  received : Received
  deriving DecidableEq, Repr

structure State where
  /-- What the socket holds. -/
  socket : List Packet := []
  queues : Channel → List Packet := fun _ => []
  queueBytes : Channel → Nat := fun _ => 0
  arrived : List Packet := []
  drained : List Drained := []
  deliveries : Channel → List Delivery := fun _ => []

/-! ### The operations -/

/-- What the receive buffer of the drain loop holds of a datagram. -/
def truncate (datagram : Packet) : Packet :=
  { datagram with data := datagram.data.take recvBufferSize }

/-- One datagram of the drain loop. -/
def drainOne (datagram : Packet) (s : State) : State :=
  let packet := truncate datagram
  let channel := classify packet.data
  let s := { s with drained := s.drained ++ [⟨packet, s.queues channel⟩] }
  if channelQueueBytes < s.queueBytes channel + packet.data.length then s
  else
    { s with
      queueBytes :=
        Function.update s.queueBytes channel (s.queueBytes channel + packet.data.length)
      queues := Function.update s.queues channel (s.queues channel ++ [packet]) }

/-- The loop ends at the first error of the socket, after `reads` datagrams. -/
def drainLocked (reads : Nat) (s : State) : State :=
  (s.socket.take reads).foldl (fun s datagram => drainOne datagram s)
    { s with socket := s.socket.drop reads }

def cut (len : Nat) (packet : Packet) : Received where
  bytes := packet.data.take (min len packet.data.length)
  fromAddr := packet.fromAddr
  fromPort := packet.fromPort

def takeFront (channel : Channel) (len : Nat) (s : State) : Option Received × State :=
  match s.queues channel with
  | [] => (none, s)
  | packet :: rest =>
    (some (cut len packet),
      { s with
        queues := Function.update s.queues channel rest
        queueBytes :=
          Function.update s.queueBytes channel (s.queueBytes channel - packet.data.length)
        deliveries :=
          Function.update s.deliveries channel
            (s.deliveries channel ++ [⟨packet, len, cut len packet⟩]) })

def recvFrom (channel : Channel) (len reads : Nat) (s : State) : Option Received × State :=
  takeFront channel len (drainLocked reads s)

inductive Op where
  | arrive (datagram : Packet)
  | recvFrom (channel : Channel) (len reads : Nat)

def step : Op → State → State
  | .arrive datagram, s =>
    { s with socket := s.socket ++ [datagram], arrived := s.arrived ++ [datagram] }
  | .recvFrom channel len reads, s => (recvFrom channel len reads s).2

def Op.arrivals : Op → List Packet
  | .arrive datagram => [datagram]
  | .recvFrom .. => []

/-! ### What the receivers get -/

def size (packets : List Packet) : Nat :=
  packets.foldr (fun packet bytes => packet.data.length + bytes) 0

/-- The byte cap of the channel was not exceeded by the datagram. -/
def Drained.fits (d : Drained) : Bool :=
  size d.queue + d.packet.data.length ≤ channelQueueBytes

/-- The datagrams of a channel that were not dropped, in arrival order. -/
def kept (channel : Channel) (drained : List Drained) : List Packet :=
  (drained.filter (fun d => decide (classify d.packet.data = channel) && d.fits)).map
    Drained.packet

structure Demultiplexed (bound : Nat) (s : State) : Prop where
  order : s.drained.map Drained.packet ++ s.socket = s.arrived
  delivered : ∀ channel,
    (s.deliveries channel).map Delivery.packet ++ s.queues channel = kept channel s.drained
  received : ∀ channel, ∀ delivery ∈ s.deliveries channel,
    delivery.received = cut delivery.len delivery.packet
  counter : ∀ channel, s.queueBytes channel = size (s.queues channel)
  cap : ∀ channel, s.queueBytes channel ≤ channelQueueBytes
  bounded : ∀ channel, (s.queues channel).length ≤ bound

@[simp] theorem size_nil : size [] = 0 := rfl

@[simp] theorem size_cons (packet : Packet) (rest : List Packet) :
    size (packet :: rest) = packet.data.length + size rest := rfl

@[simp] theorem size_concat (packets : List Packet) (packet : Packet) :
    size (packets ++ [packet]) = size packets + packet.data.length := by
  induction packets with
  | nil => simp
  | cons first rest ih => rw [List.cons_append, size_cons, size_cons, ih, Nat.add_assoc]

theorem kept_concat (channel : Channel) (drained : List Drained) (d : Drained) :
    kept channel (drained ++ [d]) =
      kept channel drained ++
        if classify d.packet.data = channel ∧ d.fits = true then [d.packet] else [] := by
  rw [kept, List.filter_append, List.map_append, ← kept]
  congr 1
  by_cases ours : classify d.packet.data = channel <;> cases fits : d.fits <;> simp [ours, fits]

/-- The invariant, in the middle of a drain that still holds the datagrams `rest`. -/
structure Carries (rest : List Packet) (s : State) : Prop where
  order : s.drained.map Drained.packet ++ (rest ++ s.socket) = s.arrived
  delivered : ∀ channel,
    (s.deliveries channel).map Delivery.packet ++ s.queues channel = kept channel s.drained
  received : ∀ channel, ∀ delivery ∈ s.deliveries channel,
    delivery.received = cut delivery.len delivery.packet
  counter : ∀ channel, s.queueBytes channel = size (s.queues channel)
  cap : ∀ channel, s.queueBytes channel ≤ channelQueueBytes
  small : ∀ packet ∈ s.arrived, packet.data.length ≤ recvBufferSize

theorem carries_drainOne {datagram : Packet} {rest : List Packet} {s : State}
    (carries : Carries (datagram :: rest) s) : Carries rest (drainOne datagram s) := by
  have here : datagram ∈ s.arrived := by
    rw [← carries.order]
    simp
  have whole : truncate datagram = datagram := by
    rw [truncate, List.take_of_length_le (carries.small datagram here)]
  have order : (s.drained ++ [Drained.mk datagram (s.queues (classify datagram.data))]).map
      Drained.packet ++ (rest ++ s.socket) = s.arrived := by
    rw [← carries.order]
    simp
  have count := carries.counter (classify datagram.data)
  simp only [drainOne, whole]
  split
  · -- the cap would be exceeded: the datagram is dropped
    rename_i full
    refine { carries with order := order, delivered := ?_ }
    intro channel
    rw [count] at full
    have misfit : (Drained.mk datagram (s.queues (classify datagram.data))).fits = false :=
      decide_eq_false (Nat.not_le.mpr full)
    rw [kept_concat, misfit, if_neg (by simp), List.append_nil]
    exact carries.delivered channel
  · rename_i room
    have fits : (Drained.mk datagram (s.queues (classify datagram.data))).fits = true := by
      rw [count] at room
      exact decide_eq_true (Nat.not_lt.mp room)
    refine { carries with order := order, delivered := ?_, counter := ?_, cap := ?_ }
    · intro channel
      dsimp only
      rw [kept_concat, fits]
      by_cases ours : classify datagram.data = channel
      · subst ours
        rw [Function.update_self, if_pos ⟨rfl, rfl⟩, ← carries.delivered, List.append_assoc]
      · rw [Function.update_of_ne (Ne.symm ours), if_neg (fun both => ours both.1), List.append_nil]
        exact carries.delivered channel
    · intro channel
      dsimp only
      by_cases ours : classify datagram.data = channel
      · subst ours
        rw [Function.update_self, Function.update_self, size_concat, count]
      · rw [Function.update_of_ne (Ne.symm ours), Function.update_of_ne (Ne.symm ours)]
        exact carries.counter channel
    · intro channel
      dsimp only
      by_cases ours : classify datagram.data = channel
      · subst ours
        rw [Function.update_self]
        exact Nat.not_lt.mp room
      · rw [Function.update_of_ne (Ne.symm ours)]
        exact carries.cap channel

theorem carries_foldl {datagrams rest : List Packet} {s : State}
    (carries : Carries (datagrams ++ rest) s) :
    Carries rest (datagrams.foldl (fun s datagram => drainOne datagram s) s) := by
  induction datagrams generalizing s with
  | nil => exact carries
  | cons datagram datagrams ih => exact ih (carries_drainOne carries)

theorem carries_drainLocked (reads : Nat) {s : State} (carries : Carries [] s) :
    Carries [] (drainLocked reads s) := by
  refine carries_foldl ?_
  refine { carries with order := ?_ }
  have order := carries.order
  rw [List.nil_append] at order
  rw [List.append_nil, List.take_append_drop]
  exact order

theorem carries_takeFront (channel : Channel) (len : Nat) {s : State} (carries : Carries [] s) :
    Carries [] (takeFront channel len s).2 := by
  rw [takeFront]
  cases front : s.queues channel with
  | nil => exact carries
  | cons packet rest =>
    have count := carries.counter channel
    rw [front, size_cons] at count
    refine { carries with delivered := ?_, received := ?_, counter := ?_, cap := ?_ }
    · intro other
      by_cases ours : other = channel
      · subst ours
        dsimp only
        rw [Function.update_self, Function.update_self, ← carries.delivered, front]
        simp
      · dsimp only
        rw [Function.update_of_ne ours, Function.update_of_ne ours]
        exact carries.delivered other
    · intro other delivery member
      by_cases ours : other = channel
      · subst ours
        dsimp only at member
        rw [Function.update_self] at member
        rcases List.mem_append.mp member with old | new
        · exact carries.received other delivery old
        · rw [List.mem_singleton.mp new]
      · dsimp only at member
        rw [Function.update_of_ne ours] at member
        exact carries.received other delivery member
    · intro other
      by_cases ours : other = channel
      · subst ours
        dsimp only
        rw [Function.update_self, Function.update_self]
        omega
      · dsimp only
        rw [Function.update_of_ne ours, Function.update_of_ne ours]
        exact carries.counter other
    · intro other
      by_cases ours : other = channel
      · subst ours
        dsimp only
        rw [Function.update_self]
        have capped := carries.cap other
        omega
      · dsimp only
        rw [Function.update_of_ne ours]
        exact carries.cap other

/-- Only such datagrams come in. -/
def Arrives (datagrams : Packet → Prop) (op : Op) : Prop :=
  ∀ packet ∈ op.arrivals, datagrams packet

theorem carries_start : Carries [] {} where
  order := rfl
  delivered _ := rfl
  received _ _ member := absurd member List.not_mem_nil
  counter _ := rfl
  cap _ := Nat.zero_le _
  small _ member := absurd member List.not_mem_nil

theorem carries_step {op : Op} {s : State} (carries : Carries [] s)
    (small : Arrives (fun packet => packet.data.length ≤ recvBufferSize) op) :
    Carries [] (step op s) := by
  cases op with
  | arrive datagram =>
    refine { carries with order := ?_, small := ?_ }
    · have order := carries.order
      rw [List.nil_append] at order ⊢
      dsimp only [step]
      rw [← order, List.append_assoc]
    · intro packet member
      rcases List.mem_append.mp member with old | new
      · exact carries.small packet old
      · exact small packet new
  | recvFrom channel len reads =>
    exact carries_takeFront channel len (carries_drainLocked reads carries)

theorem arrived_drainOne (datagram : Packet) (s : State) :
    (drainOne datagram s).arrived = s.arrived := by
  simp only [drainOne]
  split <;> rfl

theorem arrived_drainLocked (reads : Nat) (s : State) :
    (drainLocked reads s).arrived = s.arrived := by
  rw [drainLocked]
  generalize s.socket.take reads = datagrams
  have start : ({ s with socket := s.socket.drop reads } : State).arrived = s.arrived := rfl
  rw [← start]
  generalize ({ s with socket := s.socket.drop reads } : State) = t
  induction datagrams generalizing t with
  | nil => rfl
  | cons datagram datagrams ih => rw [List.foldl_cons, ih, arrived_drainOne]

theorem arrived_step (op : Op) (s : State) : (step op s).arrived = s.arrived ++ op.arrivals := by
  cases op with
  | arrive datagram => rfl
  | recvFrom channel len reads =>
    have drained := arrived_drainLocked reads s
    rw [Op.arrivals, List.append_nil, ← drained, step, recvFrom, takeFront]
    split <;> rfl

/-- A packet in a queue came in as a datagram that Classify assigns to the channel. -/
theorem Carries.mem_queue {s : State} (carries : Carries [] s) {channel : Channel}
    {packet : Packet} (member : packet ∈ s.queues channel) :
    packet ∈ s.arrived ∧ classify packet.data = channel := by
  have listed : packet ∈ kept channel s.drained := by
    rw [← carries.delivered]
    exact List.mem_append_right _ member
  obtain ⟨d, found, rfl⟩ := List.mem_map.mp listed
  obtain ⟨inDrained, ours⟩ := List.mem_filter.mp found
  rw [Bool.and_eq_true, decide_eq_true_eq] at ours
  refine ⟨?_, ours.1⟩
  rw [← carries.order]
  exact List.mem_append_left _ (List.mem_map_of_mem inDrained)

theorem length_le_size {packets : List Packet} {least : Nat}
    (each : ∀ packet ∈ packets, least ≤ packet.data.length) :
    least * packets.length ≤ size packets := by
  induction packets with
  | nil => simp
  | cons packet rest ih =>
    have first := each packet (List.mem_cons_self ..)
    have later := ih (fun other member => each other (List.mem_cons_of_mem _ member))
    rw [List.length_cons, size_cons, Nat.mul_succ]
    omega

theorem Carries.bounded {s : State} (carries : Carries [] s)
    (filled : ∀ packet ∈ s.arrived, packet.data ≠ []) (channel : Channel) :
    (s.queues channel).length ≤ channelQueueBytes := by
  have each : ∀ packet ∈ s.queues channel, 1 ≤ packet.data.length := by
    intro packet member
    exact List.length_pos_iff.mpr (filled packet (carries.mem_queue member).1)
  calc (s.queues channel).length = 1 * (s.queues channel).length := (Nat.one_mul _).symm
    _ ≤ size (s.queues channel) := length_le_size each
    _ = s.queueBytes channel := (carries.counter channel).symm
    _ ≤ channelQueueBytes := carries.cap channel

/-! ### Every traffic -/

/-- Every run in which only such datagrams come in. -/
def Traffic (datagrams : Packet → Prop) (ops : List Op) : Prop :=
  ∀ op ∈ ops, Arrives datagrams op

theorem mem_arrived_run {datagrams : Packet → Prop} {ops : List Op}
    (traffic : Traffic datagrams ops) {s : State} (start : ∀ packet ∈ s.arrived, datagrams packet) :
    ∀ packet ∈ (run step ops s).arrived, datagrams packet := by
  induction ops generalizing s with
  | nil => exact start
  | cons op ops ih =>
    refine ih (fun other member => traffic other (List.mem_cons_of_mem _ member)) ?_
    intro packet member
    rw [arrived_step] at member
    rcases List.mem_append.mp member with old | new
    · exact start packet old
    · exact traffic op (List.mem_cons_self ..) packet new

theorem carries_run {datagrams : Packet → Prop}
    (small : ∀ packet, datagrams packet → packet.data.length ≤ recvBufferSize) {ops : List Op}
    (traffic : Traffic datagrams ops) {s : State} (carries : Carries [] s) :
    Carries [] (run step ops s) := by
  induction ops generalizing s with
  | nil => exact carries
  | cons op ops ih =>
    refine ih (fun other member => traffic other (List.mem_cons_of_mem _ member)) ?_
    exact carries_step carries
      (fun packet member => small packet (traffic op (List.mem_cons_self ..) packet member))

/-- The channels are kept apart in every run, and no queue outgrows the bound. -/
def DemultiplexedIn (datagrams : Packet → Prop) : Prop :=
  ∃ bound, ∀ ops : List Op, Traffic datagrams ops → Demultiplexed bound (run step ops {})

theorem Carries.demultiplexed {s : State} (carries : Carries [] s) {bound : Nat}
    (bounded : ∀ channel, (s.queues channel).length ≤ bound) : Demultiplexed bound s where
  order := carries.order
  delivered := carries.delivered
  received := carries.received
  counter := carries.counter
  cap := carries.cap
  bounded := bounded

/-! ### Datagrams without a byte -/

theorem drainOne_empty {datagram : Packet} (empty : datagram.data = []) {s : State}
    (cap : s.queueBytes .signaling ≤ channelQueueBytes) :
    ((drainOne datagram s).queues .signaling).length = (s.queues .signaling).length + 1 ∧
      (drainOne datagram s).queueBytes .signaling = s.queueBytes .signaling := by
  have none_ : (truncate datagram).data = [] := by
    rw [truncate, empty]
    rfl
  have channel : classify (truncate datagram).data = .signaling := by
    rw [none_]
    rfl
  have room : ¬channelQueueBytes < s.queueBytes .signaling + (truncate datagram).data.length := by
    rw [none_, List.length_nil]
    omega
  simp only [drainOne, channel, if_neg room, Function.update_self, List.length_append,
    List.length_singleton, true_and]
  rw [none_, List.length_nil, Nat.add_zero]

/-- Nothing stops an empty datagram from being queued. -/
theorem length_foldl_empty {datagram : Packet} (empty : datagram.data = []) (n : Nat) {s : State}
    (cap : s.queueBytes .signaling ≤ channelQueueBytes) :
    (((List.replicate n datagram).foldl (fun s datagram => drainOne datagram s) s).queues
      .signaling).length = (s.queues .signaling).length + n := by
  induction n generalizing s with
  | zero => rfl
  | succ n ih =>
    obtain ⟨length, bytes⟩ := drainOne_empty empty cap
    rw [List.replicate_succ, List.foldl_cons, ih (bytes.symm ▸ cap), length]
    omega

theorem run_arrivals (datagram : Packet) (n : Nat) (s : State) :
    run step (List.replicate n (.arrive datagram)) s =
      { s with
        socket := s.socket ++ List.replicate n datagram
        arrived := s.arrived ++ List.replicate n datagram } := by
  induction n generalizing s with
  | zero => simp
  | succ n ih =>
    rw [List.replicate_succ, Runs.run_cons, ih]
    simp [step, List.replicate_succ]

/-- `n` such datagrams come in, and a receiver of another channel moves them. -/
def flood (datagram : Packet) (n : Nat) : List Op :=
  List.replicate n (.arrive datagram) ++ [.recvFrom .control 0 n]

theorem traffic_flood {datagrams : Packet → Prop} {datagram : Packet} (may : datagrams datagram)
    (n : Nat) : Traffic datagrams (flood datagram n) := by
  intro op member packet arriving
  rcases List.mem_append.mp member with arrival | last
  · rw [List.eq_of_mem_replicate arrival] at arriving
    rw [List.mem_singleton.mp arriving]
    exact may
  · rw [List.mem_singleton.mp last] at arriving
    cases arriving

theorem queues_takeFront_of_ne {channel other : Channel} (different : other ≠ channel) (len : Nat)
    (s : State) : (takeFront channel len s).2.queues other = s.queues other := by
  rw [takeFront]
  split
  · rfl
  · exact Function.update_of_ne different _ _

theorem length_flood {datagram : Packet} (empty : datagram.data = []) (n : Nat) :
    ((run step (flood datagram n) {}).queues .signaling).length = n := by
  have taken : (List.replicate n datagram).take n = List.replicate n datagram :=
    List.take_of_length_le (Nat.le_of_eq List.length_replicate)
  have other : Channel.signaling ≠ Channel.control := by decide
  rw [flood, Runs.run_append, run_arrivals, Runs.run_cons, Runs.run_nil, step, recvFrom,
    queues_takeFront_of_ne other, drainLocked]
  simp only [List.nil_append, taken]
  rw [length_foldl_empty empty n (Nat.zero_le _)]
  exact Nat.zero_add n

/-- For every kind of traffic that fits the receive buffer: the channels are kept apart, with
bounded queues, exactly when no datagram is empty. -/
theorem demultiplexed_iff (datagrams : Packet → Prop)
    (small : ∀ packet, datagrams packet → packet.data.length ≤ recvBufferSize) :
    DemultiplexedIn datagrams ↔ ∀ packet, datagrams packet → packet.data ≠ [] := by
  constructor
  · rintro ⟨bound, all⟩ packet may empty
    have kept := all (flood packet (bound + 1)) (traffic_flood may (bound + 1))
    have bounded := kept.bounded .signaling
    rw [length_flood empty] at bounded
    omega
  · intro filled
    refine ⟨channelQueueBytes, fun ops traffic => ?_⟩
    have carries := carries_run small traffic carries_start
    have start : ∀ packet ∈ ({} : State).arrived, datagrams packet := by simp
    have nonempty := mem_arrived_run traffic start
    exact carries.demultiplexed
      (carries.bounded (fun packet member => filled packet (nonempty packet member)))

/-- Signaling packets of one byte. -/
def oneByte (packet : Packet) : Prop := packet.data.length = 1

theorem oneByte_demultiplexed : DemultiplexedIn oneByte :=
  (demultiplexed_iff oneByte (fun packet one => by rw [oneByte] at one; rw [one]; decide)).mpr
    (fun packet one empty => by rw [oneByte, empty] at one; cases one)

theorem empty_datagrams_unbounded :
    ¬DemultiplexedIn (fun packet => packet.data.length ≤ recvBufferSize) := by
  rintro ⟨bound, all⟩
  let datagram : Packet := ⟨[], 0, 0⟩
  have kept := all (flood datagram (bound + 1)) (traffic_flood (Nat.zero_le _) (bound + 1))
  have bounded := kept.bounded .signaling
  rw [length_flood rfl] at bounded
  omega

end P2PTransport
