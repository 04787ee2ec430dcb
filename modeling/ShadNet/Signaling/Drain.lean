import ShadNet.P2PTransport

/-!
# Draining the signaling channels

DrainSignalingPackets and DrainControlPackets receive until nothing is there. The transport's
mutex is free between two receives: datagrams come in, and the game receives from its own channel.
Each of the two channels has one receiver, the signaling thread.
-/

namespace P2PTransport

open Runs (run)

def kBufSize : Nat := 256

/-- What else can happen while a channel is drained. -/
def Op.Spares (channel : Channel) : Op → Prop
  | .arrive _ => True
  | .recvFrom other _ _ => other ≠ channel

/-- One round of the loop: what happens before the receive, and the datagrams the receive reads. -/
structure Round (channel : Channel) where
  before : List Op
  reads : Nat
  spares : ∀ op ∈ before, op.Spares channel

/-- The packets that are handed to ProcessSignalingPacket, `none` while the loop goes on. -/
def drain (channel : Channel) : List (Round channel) → State → Option (List Received) × State
  | [], s => (none, s)
  | round :: rounds, s =>
    let rc := recvFrom channel kBufSize round.reads (run step round.before s)
    match rc.1 with
    | none => (some [], rc.2)
    | some received =>
      if received.bytes.length = 0 then (some [], rc.2)
      else
        let later := drain channel rounds rc.2
        (later.1.map (received :: ·), later.2)

def drainSignalingPackets : List (Round .signaling) → State → Option (List Received) × State :=
  drain .signaling

def drainControlPackets : List (Round .control) → State → Option (List Received) × State :=
  drain .control

/-- All that the loop can still receive. -/
def waiting (channel : Channel) (rounds : List (Round channel)) (s : State) : Nat :=
  (s.queues channel).length + s.socket.length +
    ((rounds.flatMap Round.before).flatMap Op.arrivals).length

/-! ### What a queue gains -/

/-- A queue is only appended to, by datagrams that are gone from the socket or came in. -/
structure Gains (channel : Channel) (arriving : Nat) (s s' : State) : Prop where
  queue : s.queues channel <+: s'.queues channel
  count : (s'.queues channel).length + s'.socket.length ≤
    (s.queues channel).length + s.socket.length + arriving

variable {channel : Channel} {s s' s'' : State} {n m : Nat}

theorem Gains.trans (first : Gains channel n s s') (second : Gains channel m s' s'') :
    Gains channel (n + m) s s'' where
  queue := first.queue.trans second.queue
  count := by
    have before := first.count
    have after := second.count
    omega

theorem drainOne_queues (channel : Channel) (datagram : Packet) (s : State) :
    s.queues channel <+: (drainOne datagram s).queues channel ∧
      ((drainOne datagram s).queues channel).length ≤ (s.queues channel).length + 1 ∧
      (drainOne datagram s).socket = s.socket := by
  unfold drainOne
  dsimp only
  split
  · exact ⟨List.prefix_rfl, Nat.le_succ _, rfl⟩
  · by_cases ours : channel = classify (truncate datagram).data
    · subst ours
      dsimp only
      rw [Function.update_self]
      exact ⟨List.prefix_append .., by simp, rfl⟩
    · dsimp only
      rw [Function.update_of_ne ours]
      exact ⟨List.prefix_rfl, Nat.le_succ _, rfl⟩

theorem foldl_drainOne_queues (channel : Channel) (datagrams : List Packet) (s : State) :
    s.queues channel <+: (datagrams.foldl (fun s d => drainOne d s) s).queues channel ∧
      ((datagrams.foldl (fun s d => drainOne d s) s).queues channel).length ≤
        (s.queues channel).length + datagrams.length ∧
      (datagrams.foldl (fun s d => drainOne d s) s).socket = s.socket := by
  induction datagrams generalizing s with
  | nil => exact ⟨List.prefix_rfl, Nat.le_refl _, rfl⟩
  | cons datagram datagrams ih =>
    obtain ⟨queue, count, socket⟩ := drainOne_queues channel datagram s
    obtain ⟨queue', count', socket'⟩ := ih (drainOne datagram s)
    refine ⟨queue.trans queue', ?_, socket'.trans socket⟩
    rw [List.foldl_cons, List.length_cons]
    omega

theorem gains_drainLocked (reads : Nat) (s : State) : Gains channel 0 s (drainLocked reads s) := by
  obtain ⟨queue, count, socket⟩ := foldl_drainOne_queues channel (s.socket.take reads)
    { s with socket := s.socket.drop reads }
  have parts := congrArg List.length (List.take_append_drop reads s.socket)
  rw [List.length_append] at parts
  refine ⟨queue, ?_⟩
  rw [drainLocked, socket]
  dsimp only at count ⊢
  omega

theorem gains_step {op : Op} (spares : op.Spares channel) :
    Gains channel op.arrivals.length s (step op s) := by
  cases op with
  | arrive datagram =>
    refine ⟨List.prefix_rfl, ?_⟩
    simp only [step, Op.arrivals, List.length_append, List.length_singleton]
    omega
  | recvFrom other len reads =>
    obtain ⟨queue, count⟩ : Gains channel 0 s (drainLocked reads s) := gains_drainLocked reads s
    have kept := queues_takeFront_of_ne (Ne.symm spares) len (drainLocked reads s)
    have socket : (takeFront other len (drainLocked reads s)).2.socket =
        (drainLocked reads s).socket := by
      rw [takeFront]
      split <;> rfl
    rw [step, recvFrom]
    exact ⟨kept ▸ queue, by rw [kept, socket]; exact count⟩

theorem gains_run {ops : List Op} (spares : ∀ op ∈ ops, op.Spares channel) :
    Gains channel (ops.flatMap Op.arrivals).length s (run step ops s) := by
  induction ops generalizing s with
  | nil => exact ⟨List.prefix_rfl, Nat.le_refl _⟩
  | cons op ops ih =>
    have first := gains_step (s := s) (spares op (List.mem_cons_self ..))
    have later := ih (s := step op s) (fun other member =>
      spares other (List.mem_cons_of_mem _ member))
    rw [List.flatMap_cons, List.length_append]
    exact first.trans later

/-! ### One round -/

theorem takeFront_cons (len : Nat) {packet : Packet} {rest : List Packet}
    (front : s.queues channel = packet :: rest) :
    (takeFront channel len s).1 = some (cut len packet) ∧
      (takeFront channel len s).2.queues channel = rest ∧
      (takeFront channel len s).2.socket = s.socket := by
  rw [takeFront, front]
  exact ⟨rfl, Function.update_self .., rfl⟩

theorem takeFront_nil {len : Nat} (none_ : s.queues channel = []) :
    (takeFront channel len s).1 = none := by
  rw [takeFront, none_]

theorem length_cut (packet : Packet) :
    (cut kBufSize packet).bytes.length = 0 ↔ packet.data = [] := by
  have size : kBufSize = 256 := rfl
  rw [cut, List.length_take, ← List.length_eq_zero_iff]
  omega

/-- What one receive of a round finds: the queue as it was, and what it gained. -/
theorem gains_round (round : Round channel) (s : State) :
    Gains channel (round.before.flatMap Op.arrivals).length s
      (drainLocked round.reads (run step round.before s)) :=
  (gains_run round.spares).trans (gains_drainLocked round.reads _)

/-! ### Whole calls -/

/-- A call that has returned has processed the packets that were queued exactly if none of them
was empty. -/
theorem drain_iff_of_queued {rounds : List (Round channel)} {queued : List Packet}
    {processed : List Received} (queue : queued <+: s.queues channel)
    (returned : (drain channel rounds s).1 = some processed) :
    queued.map (cut kBufSize) <+: processed ↔ ∀ packet ∈ queued, packet.data ≠ [] := by
  induction rounds generalizing s queued processed with
  | nil => cases returned
  | cons round rounds ih =>
    cases queued with
    | nil => simp
    | cons packet queued =>
      have gains := gains_round round s
      obtain ⟨more, same⟩ := queue.trans gains.queue
      obtain ⟨got, left, -⟩ := takeFront_cons kBufSize same.symm
      rw [drain] at returned
      dsimp only at returned
      rw [recvFrom, got] at returned
      dsimp only at returned
      by_cases empty : packet.data = []
      · rw [if_pos ((length_cut packet).mpr empty)] at returned
        obtain rfl : [] = processed := Option.some.inj returned
        constructor
        · intro whole
          exact absurd (List.prefix_nil.mp whole) (List.cons_ne_nil _ _)
        · intro full
          exact absurd empty (full packet (List.mem_cons_self ..))
      · rw [if_neg (fun none_ => empty ((length_cut packet).mp none_))] at returned
        obtain ⟨later, behind, rfl⟩ := Option.map_eq_some_iff.mp returned
        have rest : queued <+: (takeFront channel kBufSize
            (drainLocked round.reads (run step round.before s))).2.queues channel := by
          rw [left]
          exact List.prefix_append ..
        rw [List.map_cons, List.cons_prefix_cons, ih rest behind, List.forall_mem_cons]
        exact ⟨fun both => ⟨empty, both.2⟩, fun both => ⟨rfl, both.2⟩⟩

/-- A call returns once it has received all that was there and came in. -/
theorem drain_returns {rounds : List (Round channel)}
    (enough : waiting channel rounds s < rounds.length) :
    ∃ processed, (drain channel rounds s).1 = some processed := by
  induction rounds generalizing s with
  | nil => exact absurd enough (Nat.not_lt_zero _)
  | cons round rounds ih =>
    have gains := (gains_round round s).count
    rw [drain]
    dsimp only
    rw [recvFrom]
    cases front : (drainLocked round.reads (run step round.before s)).queues channel with
    | nil =>
      rw [takeFront_nil front]
      exact ⟨[], rfl⟩
    | cons packet rest =>
      obtain ⟨got, left, socket⟩ := takeFront_cons kBufSize front
      rw [got]
      dsimp only
      split
      · exact ⟨[], rfl⟩
      · have fewer : waiting channel rounds (takeFront channel kBufSize
            (drainLocked round.reads (run step round.before s))).2 < rounds.length := by
          rw [waiting, List.flatMap_cons, List.flatMap_append, List.length_append,
            List.length_cons] at enough
          rw [front, List.length_cons] at gains
          rw [waiting, left, socket]
          omega
        obtain ⟨processed, returned⟩ := ih fewer
        exact ⟨_, by rw [returned]; rfl⟩

/-- Every call that is not kept busy for ever returns. It has then processed what was queued
before it, in order, exactly if no empty packet was among that. -/
theorem drain_iff (channel : Channel) (s : State) :
    (∀ rounds : List (Round channel), waiting channel rounds s < rounds.length →
      ∃ processed, (drain channel rounds s).1 = some processed) ∧
    ∀ (rounds : List (Round channel)) (processed : List Received),
      (drain channel rounds s).1 = some processed →
        ((s.queues channel).map (cut kBufSize) <+: processed ↔
          ∀ packet ∈ s.queues channel, packet.data ≠ []) :=
  ⟨fun _ enough => drain_returns enough,
    fun _ _ returned => drain_iff_of_queued List.prefix_rfl returned⟩

/-- Classify puts no empty packet on the control channel, so its drain is complete. -/
theorem drainControlPackets_complete {datagrams : Packet → Prop}
    (small : ∀ packet, datagrams packet → packet.data.length ≤ recvBufferSize) {ops : List Op}
    (traffic : Traffic datagrams ops) {rounds : List (Round .control)} {processed : List Received}
    (returned : (drainControlPackets rounds (run step ops {})).1 = some processed) :
    ((run step ops {}).queues .control).map (cut kBufSize) <+: processed := by
  have carries := carries_run small traffic carries_start
  refine (drain_iff_of_queued List.prefix_rfl returned).mpr fun packet member empty => ?_
  have named := (carries.mem_queue member).2
  rw [empty] at named
  cases named

/-- A control packet that the game's receive has put into the queue. -/
theorem drainControlPackets_queued :
    ((run step [.arrive ⟨magic ++ [0x10], 1, 1⟩, .recvFrom .matching2 2048 1] {}).queues
      .control).map (cut kBufSize) <+: [⟨magic ++ [0x10], 1, 1⟩] :=
  @drainControlPackets_complete (fun packet => packet = ⟨magic ++ [0x10], 1, 1⟩)
    (fun packet same => by rw [same]; decide) _ (by simp [Traffic, Arrives, Op.arrivals])
    [⟨[], 0, by simp⟩, ⟨[], 0, by simp⟩] _ (by decide +kernel)

/-- An empty datagram and a packet, in the queue. -/
def emptyFirst : State :=
  run step [.arrive ⟨[], 1, 1⟩, .arrive ⟨[7], 1, 1⟩, .recvFrom .matching2 2048 2] {}

theorem drainSignalingPackets_emptyFirst :
    ¬∀ (s : State) (rounds : List (Round .signaling)) (processed : List Received),
      (drainSignalingPackets rounds s).1 = some processed →
        (s.queues .signaling).map (cut kBufSize) <+: processed := by
  intro complete
  have queued : emptyFirst.queues .signaling = [⟨[], 1, 1⟩, ⟨[7], 1, 1⟩] := by decide +kernel
  have whole := complete emptyFirst [⟨[], 0, by simp⟩] [] (by decide +kernel)
  rw [queued] at whole
  exact absurd (List.prefix_nil.mp whole) (List.cons_ne_nil _ _)

end P2PTransport
