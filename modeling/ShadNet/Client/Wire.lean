import ShadNet.Client.Blobs
import ShadNet.KeyedTable
import ShadNet.LockProgram

/-!
# What a client sends

Threads submit packets to a queue, the writer thread takes the whole queue at a time and sends what
it took, and the connect thread sends the login itself. A submission is cut where it takes its id
and where it enters the queue, and a packet is sent by as many calls of `send` as the socket wants.
-/

namespace ShadNetClient

namespace Wire

open Runs (run)

/-- A packet on its way, submitted by a thread or, without one, by the connect thread. -/
structure Submission where
  thread : Option Nat
  id : UInt64
  cmd : UInt16
  payload : List UInt8
  deriving DecidableEq, Repr

def Submission.bytes (p : Submission) : List UInt8 := buildPacket p.cmd p.id p.payload

/-- `total` of SendAll. -/
def Submission.total (p : Submission) : Int := s32 (BitVec.ofNat 32 p.bytes.length)

/-- What SendAll sends of a packet. -/
def Submission.sentWhole (p : Submission) : List UInt8 := p.bytes.take p.total.toNat

inductive WriterAt where
  | absent
  | waiting
  | looping
  | sending
  | ended
  deriving DecidableEq, Repr

inductive LoginAt where
  | unsent
  | fetched
  | sending
  | sent
  | failed
  deriving DecidableEq, Repr

structure State where
  pktCounter : UInt64 := 1
  connected : Bool := false
  terminate : Bool := false
  /-- Submissions that have their id and are not yet in the queue. -/
  pending : List Submission := []
  sendQueue : List Submission := []
  writer : WriterAt := .absent
  batch : List Submission := []
  login : LoginAt := .unsent
  /-- The packet of the call that holds `m_mutex_send_direct`, and how much of it is sent. -/
  current : Option (Submission × Nat) := none
  wire : List UInt8 := []
  /-- All submissions in the order of their ids, and the calls of SendAll in their order. -/
  submitted : List Submission := []
  begun : List Submission := []
  deriving DecidableEq, Repr

inductive Op where
  | connect
  | fetch (thread : Option Nat) (cmd : UInt16) (payload : List UInt8)
  | push (thread : Nat)
  | beginLogin
  | take
  | next
  /-- `send` returns, with nothing when it fails. -/
  | send (result : Option Nat)
  | finish
  | disconnect
  | terminate
  | endWriter
  deriving DecidableEq, Repr

/-! ### Steps -/

def connect (s : State) : State :=
  if s.writer = .absent then { s with connected := true, writer := .waiting } else s

/-- `fetch_add` and BuildPacket; the connect thread does so once, when it is connected. -/
def fetch (thread : Option Nat) (cmd : UInt16) (payload : List UInt8) (s : State) : State :=
  let p : Submission := ⟨thread, s.pktCounter, cmd, payload⟩
  if s.pending.any (fun q => q.thread = thread) then s
  else if thread = none ∧ (s.writer = .absent ∨ s.login ≠ .unsent) then s
  else { s with
    pktCounter := s.pktCounter + 1
    pending := s.pending ++ [p]
    submitted := s.submitted ++ [p]
    login := if thread = none then .fetched else s.login }

def push (thread : Nat) (s : State) : State :=
  match KeyedTable.lookup Submission.thread (some thread) s.pending with
  | none => s
  | some p => { s with
      pending := KeyedTable.remove Submission.thread (some thread) s.pending
      sendQueue := s.sendQueue ++ [p] }

/-- The connect thread's call of SendAll gets the lock. -/
def beginLogin (s : State) : State :=
  match KeyedTable.lookup Submission.thread none s.pending with
  | none => s
  | some p =>
    if s.login = .fetched ∧ s.current = none then { s with
      pending := KeyedTable.remove Submission.thread none s.pending
      login := .sending
      current := some (p, 0)
      begun := s.begun ++ [p] }
    else s

def take (s : State) : State :=
  if s.writer = .waiting ∧ s.terminate = false ∧ s.sendQueue ≠ [] then
    { s with writer := .looping, batch := s.sendQueue, sendQueue := [] }
  else s

/-- The next packet of the batch, whose call of SendAll gets the lock. -/
def next (s : State) : State :=
  if s.writer = .looping then
    match s.batch with
    | [] => { s with writer := .waiting }
    | p :: rest =>
      if s.connected = false then { s with writer := .waiting, batch := [] }
      else if s.current = none then { s with
        writer := .sending
        batch := rest
        current := some (p, 0)
        begun := s.begun ++ [p] }
      else s
  else s

/-- SendAll returns and gives the lock back; the writer ends when it was not successful. -/
def leave (success : Bool) (s : State) : State :=
  if s.writer = .sending then
    if success then { s with current := none, writer := .looping }
    else { s with current := none, writer := .ended, batch := [] }
  else { s with current := none, login := if success then .sent else .failed }

def send (result : Option Nat) (s : State) : State :=
  match s.current with
  | none => s
  | some (p, sent) =>
    if (sent : Int) < p.total then
      match result with
      | none => leave false s
      | some n =>
        if sent + n ≤ p.total.toNat then { s with
          current := some (p, sent + n)
          wire := s.wire ++ (p.bytes.drop sent).take n }
        else s
    else s

def finish (s : State) : State :=
  match s.current with
  | none => s
  | some (p, sent) => if (sent : Int) < p.total then s else leave true s

def endWriter (s : State) : State :=
  if s.writer = .waiting ∧ s.terminate = true then { s with writer := .ended } else s

def step : Op → State → State
  | .connect => connect
  | .fetch thread cmd payload => fetch thread cmd payload
  | .push thread => push thread
  | .beginLogin => beginLogin
  | .take => take
  | .next => next
  | .send result => send result
  | .finish => finish
  | .disconnect => fun s => { s with connected := false }
  | .terminate => fun s => { s with terminate := true }
  | .endWriter => endWriter

/-! ### Order -/

/-- The submissions of one thread. -/
def of (t : Option Nat) (l : List Submission) : List Submission :=
  l.filter (fun p => p.thread = t)

@[simp] theorem of_append (t : Option Nat) (l l' : List Submission) :
    of t (l ++ l') = of t l ++ of t l' := List.filter_append l l'

theorem of_nil {t : Option Nat} {l : List Submission} :
    of t l = [] ↔ ∀ p ∈ l, p.thread ≠ t := by
  rw [of, List.filter_eq_nil_iff]
  simp only [decide_eq_true_eq, ne_eq]

theorem of_cons_self (p : Submission) (l : List Submission) :
    of p.thread (p :: l) = p :: of p.thread l := List.filter_cons_of_pos (decide_eq_true rfl)

theorem of_cons_other {t : Option Nat} {p : Submission} (other : p.thread ≠ t)
    (l : List Submission) : of t (p :: l) = of t l :=
  List.filter_cons_of_neg (by simpa using other)

theorem of_remove_self (t : Option Nat) (l : List Submission) :
    of t (KeyedTable.remove Submission.thread t l) = [] := by
  rw [of_nil]
  intro p member
  simpa using (List.mem_filter.mp member).2

theorem of_remove_other {t u : Option Nat} (other : u ≠ t) (l : List Submission) :
    of t (KeyedTable.remove Submission.thread u l) = of t l := by
  rw [of, of, KeyedTable.remove, List.filter_filter]
  refine List.filter_congr fun p _ => ?_
  by_cases named : p.thread = t
  · simp [named, Ne.symm other]
  · simp [named]

/-- A thread has at most one submission under way. -/
theorem of_pending {l : List Submission} {t : Option Nat} {p : Submission}
    (distinct : KeyedTable.Distinct Submission.thread l)
    (found : KeyedTable.lookup Submission.thread t l = some p) : of t l = [p] := by
  induction l with
  | nil => cases found
  | cons q l ih =>
    obtain ⟨fresh, rest⟩ := List.nodup_cons.mp distinct
    by_cases named : q.thread = t
    · subst named
      have same : KeyedTable.lookup Submission.thread q.thread (q :: l) = some q :=
        List.find?_cons_of_pos (decide_eq_true rfl)
      obtain rfl : q = p := Option.some.inj (same.symm.trans found)
      rw [of_cons_self, of_nil.mpr]
      intro other member equal
      exact fresh (equal ▸ List.mem_map_of_mem member)
    · rw [of_cons_other named]
      refine ih rest ?_
      have later : KeyedTable.lookup Submission.thread t (q :: l) =
          KeyedTable.lookup Submission.thread t l :=
        List.find?_cons_of_neg (by simpa using named)
      exact later.symm.trans found

/-- Each submission is in one place at most, and those of a thread in their order. -/
structure Flow (s : State) : Prop where
  idle : s.writer = .absent ∨ s.writer = .waiting → s.batch = []
  order : ∀ t, (of t (s.begun ++ s.batch ++ s.sendQueue ++ s.pending)).Sublist (of t s.submitted)
  distinct : KeyedTable.Distinct Submission.thread s.pending
  named : ∀ p ∈ s.batch ++ s.sendQueue, p.thread ≠ none

variable {s : State} {ops : List Op}

theorem flow_fetch {thread : Option Nat} {cmd : UInt16} {payload : List UInt8} (flow : Flow s) :
    Flow (fetch thread cmd payload s) := by
  rw [fetch]
  split
  · exact flow
  · next free =>
    split
    · exact flow
    · refine ⟨flow.idle, fun t => ?_, ?_, flow.named⟩
      · dsimp only
        rw [← List.append_assoc, of_append, of_append t s.submitted]
        exact (flow.order t).append_right _
      · have fresh : ∀ p ∈ s.pending, p.thread ≠ thread := by
          simpa using free
        rw [KeyedTable.Distinct, List.map_append, List.nodup_append]
        refine ⟨flow.distinct, List.nodup_singleton _, ?_⟩
        intro a member b last
        obtain ⟨p, there, rfl⟩ := List.mem_map.mp member
        rw [List.mem_singleton.mp last]
        exact fresh p there

theorem flow_push {thread : Nat} (flow : Flow s) : Flow (push thread s) := by
  rw [push]
  split
  · exact flow
  · next p found =>
    have here := (KeyedTable.lookup_some found).2
    refine ⟨flow.idle, fun t => ?_, ?_, ?_⟩
    · have order := flow.order t
      simp only [of_append] at order ⊢
      by_cases same : some thread = t
      · subst same
        rw [of_pending flow.distinct found] at order
        rw [of_remove_self, List.append_nil, ← here, of_cons_self, here, ← List.append_assoc]
        exact order
      · rw [of_remove_other same, of_cons_other (here ▸ same)]
        have none_ : of t [] = [] := rfl
        rw [none_, List.append_nil]
        exact order
    · exact List.Nodup.sublist (List.Sublist.map _ List.filter_sublist) flow.distinct
    · intro q member
      rw [← List.append_assoc] at member
      rcases List.mem_append.mp member with old | new
      · exact flow.named q old
      · rw [List.mem_singleton.mp new, here]
        exact Option.some_ne_none thread

theorem flow_beginLogin (flow : Flow s) : Flow (beginLogin s) := by
  rw [beginLogin]
  split
  · exact flow
  · next p found =>
    split
    · have here := (KeyedTable.lookup_some found).2
      refine ⟨flow.idle, fun t => ?_, ?_, flow.named⟩
      · have order := flow.order t
        simp only [of_append] at order ⊢
        by_cases same : none = t
        · subst same
          have others := of_nil.mpr flow.named
          rw [of_append, List.append_eq_nil_iff] at others
          rw [of_pending flow.distinct found, others.1, others.2] at order
          have none_ : of none [] = [] := rfl
          rw [of_remove_self, others.1, others.2, ← here, of_cons_self, here, none_]
          simpa using order
        · rw [of_remove_other same, of_cons_other (here ▸ same)]
          have none_ : of t [] = [] := rfl
          rw [none_, List.append_nil]
          exact order
      · exact List.Nodup.sublist (List.Sublist.map _ List.filter_sublist) flow.distinct
    · exact flow

theorem flow_take (flow : Flow s) : Flow (take s) := by
  rw [take]
  split
  · next ready =>
    obtain ⟨idle, order, distinct, named⟩ := flow
    rw [idle (Or.inr ready.1)] at order named
    refine ⟨by simp, fun t => ?_, distinct, ?_⟩
    · simpa using order t
    · simpa using named
  · exact flow

/-- A batch that is given up is not sent. -/
theorem flow_dropped {s' : State} (flow : Flow s) (begun : s'.begun = s.begun)
    (batch : s'.batch = []) (queue : s'.sendQueue = s.sendQueue)
    (pending : s'.pending = s.pending) (submitted : s'.submitted = s.submitted) : Flow s' := by
  refine ⟨fun _ => batch, fun t => ?_, pending ▸ flow.distinct, ?_⟩
  · have order := flow.order t
    rw [begun, batch, queue, pending, submitted]
    simp only [of_append] at order ⊢
    refine List.Sublist.trans ?_ order
    refine List.Sublist.append_right (List.Sublist.append_right ?_ _) _
    exact List.Sublist.append_left (List.nil_sublist _) _
  · intro p member
    rw [batch, queue] at member
    exact flow.named p (List.mem_append_right s.batch member)

theorem flow_next (flow : Flow s) : Flow (next s) := by
  rw [next]
  split
  · split
    · next batch => exact ⟨fun _ => batch, flow.order, flow.distinct, flow.named⟩
    · next p rest batch =>
      split
      · exact flow_dropped flow rfl rfl rfl rfl rfl
      · split
        · refine ⟨by simp, fun t => ?_, flow.distinct, ?_⟩
          · have order := flow.order t
            rw [batch] at order
            simpa using order
          · intro q member
            refine flow.named q ?_
            rw [batch]
            exact List.mem_cons_of_mem p member
        · exact flow
  · exact flow

theorem flow_leave {success : Bool} (flow : Flow s) : Flow (leave success s) := by
  rw [leave]
  split
  · split
    · exact ⟨by simp, flow.order, flow.distinct, flow.named⟩
    · exact flow_dropped flow rfl rfl rfl rfl rfl
  · exact ⟨flow.idle, flow.order, flow.distinct, flow.named⟩

theorem flow_send {result : Option Nat} (flow : Flow s) : Flow (send result s) := by
  rw [send]
  split
  · exact flow
  · split
    · split
      · exact flow_leave flow
      · split
        · exact ⟨flow.idle, flow.order, flow.distinct, flow.named⟩
        · exact flow
    · exact flow

theorem flow_step (op : Op) (flow : Flow s) : Flow (step op s) := by
  cases op with
  | connect =>
    rw [step, connect]
    split
    · next absent =>
      exact ⟨fun _ => flow.idle (Or.inl absent), flow.order, flow.distinct, flow.named⟩
    · exact flow
  | fetch thread cmd payload => exact flow_fetch flow
  | push thread => exact flow_push flow
  | beginLogin => exact flow_beginLogin flow
  | take => exact flow_take flow
  | next => exact flow_next flow
  | send result => exact flow_send flow
  | finish =>
    rw [step, finish]
    split
    · exact flow
    · split
      · exact flow
      · exact flow_leave flow
  | disconnect => exact ⟨flow.idle, flow.order, flow.distinct, flow.named⟩
  | terminate => exact ⟨flow.idle, flow.order, flow.distinct, flow.named⟩
  | endWriter =>
    rw [step, endWriter]
    split
    · exact ⟨by simp, flow.order, flow.distinct, flow.named⟩
    · exact flow

theorem flow_start : Flow {} := by
  refine ⟨fun _ => rfl, fun t => List.Sublist.refl _, List.nodup_nil, ?_⟩
  rintro p (_ | _)

theorem flow_run (ops : List Op) : Flow (run step ops {}) :=
  Runs.invariant_of_run (fun op _ flow _ => flow_step op flow) flow_start
    (Runs.admitted_always (fun _ _ => trivial) ops _)

/-! ### Ids -/

/-- The ids count up from one and wrap. -/
structure Counted (s : State) : Prop where
  counter : s.pktCounter = UInt64.ofNat (s.submitted.length + 1)
  ids : s.submitted.map Submission.id =
    (List.range s.submitted.length).map (fun i => UInt64.ofNat (i + 1))

theorem counted_fetch {thread : Option Nat} {cmd : UInt16} {payload : List UInt8}
    (counted : Counted s) : Counted (fetch thread cmd payload s) := by
  rw [fetch]
  split
  · exact counted
  · split
    · exact counted
    · constructor
      · rw [List.length_append, List.length_singleton, UInt64.ofNat_add, counted.counter]
        rfl
      · rw [List.map_append, counted.ids, List.length_append, List.length_singleton,
          List.range_succ, List.map_append, List.map_singleton, List.map_singleton,
          counted.counter]

/-- Only `fetch` changes what is counted. -/
theorem counted_of_same {s' : State} (counted : Counted s) (counter : s'.pktCounter = s.pktCounter)
    (submitted : s'.submitted = s.submitted) : Counted s' := by
  constructor
  · rw [counter, submitted]
    exact counted.counter
  · rw [submitted]
    exact counted.ids

theorem leave_counts (success : Bool) (s : State) :
    (leave success s).pktCounter = s.pktCounter ∧ (leave success s).submitted = s.submitted := by
  rw [leave]
  split
  · split <;> exact ⟨rfl, rfl⟩
  · exact ⟨rfl, rfl⟩

theorem step_counts {op : Op} (other : ∀ thread cmd payload, op ≠ .fetch thread cmd payload) :
    (step op s).pktCounter = s.pktCounter ∧ (step op s).submitted = s.submitted := by
  cases op with
  | fetch thread cmd payload => exact absurd rfl (other thread cmd payload)
  | connect =>
    rw [step, connect]
    split <;> exact ⟨rfl, rfl⟩
  | push thread =>
    rw [step, push]
    split <;> exact ⟨rfl, rfl⟩
  | beginLogin =>
    rw [step, beginLogin]
    split
    · exact ⟨rfl, rfl⟩
    · split <;> exact ⟨rfl, rfl⟩
  | take =>
    rw [step, take]
    split <;> exact ⟨rfl, rfl⟩
  | next =>
    rw [step, next]
    split
    · split
      · exact ⟨rfl, rfl⟩
      · split
        · exact ⟨rfl, rfl⟩
        · split <;> exact ⟨rfl, rfl⟩
    · exact ⟨rfl, rfl⟩
  | send result =>
    rw [step, send]
    split
    · exact ⟨rfl, rfl⟩
    · split
      · split
        · exact leave_counts false s
        · split <;> exact ⟨rfl, rfl⟩
      · exact ⟨rfl, rfl⟩
  | finish =>
    rw [step, finish]
    split
    · exact ⟨rfl, rfl⟩
    · split
      · exact ⟨rfl, rfl⟩
      · exact leave_counts true s
  | disconnect => exact ⟨rfl, rfl⟩
  | terminate => exact ⟨rfl, rfl⟩
  | endWriter =>
    rw [step, endWriter]
    split <;> exact ⟨rfl, rfl⟩

theorem counted_step (op : Op) (counted : Counted s) : Counted (step op s) := by
  by_cases other : ∀ thread cmd payload, op ≠ .fetch thread cmd payload
  · obtain ⟨counter, submitted⟩ := step_counts (s := s) other
    exact counted_of_same counted counter submitted
  · push Not at other
    obtain ⟨thread, cmd, payload, rfl⟩ := other
    exact counted_fetch counted

theorem counted_run (ops : List Op) : Counted (run step ops {}) :=
  Runs.invariant_of_run (fun op _ counted _ => counted_step op counted) ⟨rfl, rfl⟩
    (Runs.admitted_always (fun _ _ => trivial) ops _)

/-- The counter wraps after `2 ^ 64` submissions. -/
theorem Counted.nodup (counted : Counted s) (few : s.submitted.length ≤ 2 ^ 64) :
    (s.submitted.map Submission.id).Nodup := by
  rw [counted.ids]
  refine List.Nodup.map_on ?_ List.nodup_range
  intro i early j late equal
  rw [List.mem_range] at early late
  have same := congrArg UInt64.toNat equal
  rw [UInt64.toNat_ofNat', UInt64.toNat_ofNat'] at same
  omega

/-! ### Whole packets -/

theorem sentWhole_small {p : Submission} (small : p.bytes.length < 2 ^ 31) :
    p.sentWhole = p.bytes := by
  have length : (BitVec.ofNat 32 p.bytes.length).toNat = p.bytes.length := by
    rw [BitVec.toNat_ofNat]
    omega
  have total : p.total = p.bytes.length := by
    rw [Submission.total, s32_small (by omega), length]
  rw [Submission.sentWhole, total]
  exact List.take_of_length_le (by omega)

/-- The wire carries whole packets and the part that is sent of the last one. -/
def Carries (s : State) (p : Submission) (done : List Submission) (sent : Nat) : Prop :=
  s.begun = done ++ [p] ∧ sent ≤ p.total.toNat ∧
    s.wire = done.flatMap Submission.sentWhole ++ p.bytes.take sent

/-- Where the sending stands: nobody holds `m_mutex_send_direct`, the writer or the connect thread
does, or, where a call of `send` `failed`, the writer has given up when the login was sent. -/
inductive Sent (failed : Prop) (s : State) : Prop where
  | idle (current : s.current = none) (writer : s.writer ≠ .sending) (login : s.login ≠ .sending)
      (wire : s.wire = s.begun.flatMap Submission.sentWhole)
  | sending (p : Submission) (done : List Submission) (sent : Nat)
      (current : s.current = some (p, sent)) (holder : s.writer = .sending ↔ s.login ≠ .sending)
      (carries : Carries s p done sent)
  | broken (p : Submission) (done : List Submission) (sent : Nat) (current : s.current = none)
      (writer : s.writer = .ended) (login : s.login = .sent) (carries : Carries s p done sent)
      (once : failed)

variable {failed : Prop}

/-- A step that sends nothing and takes or leaves no lock. -/
theorem sent_of_same {s' : State} (sent : Sent failed s) (current : s'.current = s.current)
    (begun : s'.begun = s.begun) (wire : s'.wire = s.wire)
    (writer : s'.writer = s.writer ∨
      s.writer ≠ .sending ∧ s.writer ≠ .ended ∧ s'.writer ≠ .sending)
    (login : s'.login = s.login ∨ s.login = .unsent ∧ s'.login = .fetched) : Sent failed s' := by
  have writing : s'.writer = .sending ↔ s.writer = .sending := by
    rcases writer with same | ⟨before, -, after⟩
    · rw [same]
    · exact ⟨fun now => absurd now after, fun was => absurd was before⟩
  have logging : s'.login = .sending ↔ s.login = .sending := by
    rcases login with same | ⟨before, after⟩
    · rw [same]
    · rw [before, after]
      constructor <;> rintro ⟨⟩
  cases sent with
  | idle free noWriter noLogin whole =>
    refine .idle (current.trans free) (writing.not.mpr noWriter) (logging.not.mpr noLogin) ?_
    rw [wire, begun]
    exact whole
  | sending p done sent busy holder carries =>
    refine .sending p done sent (current.trans busy) ?_ ?_
    · rw [writing, Ne, logging]
      exact holder
    · rw [Carries, begun, wire]
      exact carries
  | broken p done sent free ended loggedIn carries once =>
    refine .broken p done sent (current.trans free) ?_ ?_ ?_ once
    · rcases writer with same | ⟨-, going, -⟩
      · exact same.trans ended
      · exact absurd ended going
    · rcases login with same | ⟨before, -⟩
      · exact same.trans loggedIn
      · rw [before] at loggedIn
        cases loggedIn
    · rw [Carries, begun, wire]
      exact carries

/-- A call of SendAll that gets the lock. -/
theorem sent_begin {s' : State} {p : Submission} (sent : Sent failed s) (free : s.current = none)
    (going : s.writer ≠ .ended ∨ s.login ≠ .sent) (current : s'.current = some (p, 0))
    (holder : s.writer ≠ .sending → s.login ≠ .sending →
      (s'.writer = .sending ↔ s'.login ≠ .sending))
    (begun : s'.begun = s.begun ++ [p]) (wire : s'.wire = s.wire) : Sent failed s' := by
  cases sent with
  | idle _ noWriter noLogin whole =>
    refine .sending p s.begun 0 current (holder noWriter noLogin) ⟨begun, Nat.zero_le _, ?_⟩
    rw [wire, whole, List.take_zero, List.append_nil]
  | sending q done sent busy =>
    rw [free] at busy
    cases busy
  | broken q done sent _ ended loggedIn =>
    rcases going with writer | login
    · exact absurd ended writer
    · exact absurd loggedIn login

theorem sent_next (sent : Sent failed s) : Sent failed (next s) := by
  rw [next]
  split
  · next looping =>
    have idle : s.writer ≠ .sending ∧ s.writer ≠ .ended := by
      rw [looping]
      constructor <;> rintro ⟨⟩
    split
    · exact sent_of_same sent rfl rfl rfl (.inr ⟨idle.1, idle.2, by simp⟩) (.inl rfl)
    · split
      · exact sent_of_same sent rfl rfl rfl (.inr ⟨idle.1, idle.2, by simp⟩) (.inl rfl)
      · split
        · next free =>
          refine sent_begin sent free (.inl idle.2) rfl ?_ rfl rfl
          intro _ login
          exact ⟨fun _ => login, fun _ => rfl⟩
        · exact sent
  · exact sent

theorem sent_beginLogin (sent : Sent failed s) : Sent failed (beginLogin s) := by
  rw [beginLogin]
  split
  · exact sent
  · split
    · next ready =>
      have unsent : s.login ≠ .sent := by
        rw [ready.1]
        rintro ⟨⟩
      refine sent_begin sent ready.2 (.inr unsent) rfl ?_ rfl rfl
      intro writer _
      exact ⟨fun now => absurd now writer, fun now => absurd rfl now⟩
    · exact sent

/-- A call of SendAll that has sent all gives the lock back. -/
theorem sent_finish (sent : Sent failed s) : Sent failed (finish s) := by
  rw [finish]
  split
  · exact sent
  · next p n current =>
    split
    · exact sent
    · next all =>
      cases sent with
      | idle free => rw [free] at current; cases current
      | broken q done m free => rw [free] at current; cases current
      | sending q done m busy holder carries =>
        obtain ⟨rfl, rfl⟩ : q = p ∧ m = n := by
          simpa using busy.symm.trans current
        obtain ⟨begun, within, wire⟩ := carries
        have whole : s.wire = s.begun.flatMap Submission.sentWhole := by
          have length : m = q.total.toNat := by omega
          rw [wire, begun, List.flatMap_append, List.flatMap_singleton, Submission.sentWhole,
            length]
        rw [leave]
        split
        · next writing => exact .idle rfl (by simp) (holder.mp writing) whole
        · next notWriting => exact .idle rfl notWriting (by simp) whole

/-- A call of `send` that fails when the login is sent ends the writer. -/
theorem sent_send {result : Option Nat} (sent : Sent failed s)
    (loggedIn : result = none → s.login = .sent) (known : result = none → failed) :
    Sent failed (send result s) := by
  rw [send]
  split
  · exact sent
  · next p n current =>
    split
    · cases sent with
      | idle free => rw [free] at current; cases current
      | broken q done m free => rw [free] at current; cases current
      | sending q done m busy holder carries =>
        obtain ⟨rfl, rfl⟩ : q = p ∧ m = n := by
          simpa using busy.symm.trans current
        split
        · have login := loggedIn rfl
          have writing : s.writer = .sending := holder.mpr (by simp [login])
          rw [leave, if_pos writing, if_neg Bool.false_ne_true]
          exact .broken q done m rfl rfl login carries (known rfl)
        · next count =>
          split
          · next within =>
            refine .sending q done (m + count) rfl holder ⟨carries.1, within, ?_⟩
            dsimp only
            rw [carries.2.2, List.append_assoc, List.take_add]
          · exact .sending q done m busy holder carries
    · exact sent

/-- The packet of a failing call of `send` is the writer's, and the login is sent. -/
def LoginSent (op : Op) (s : State) : Prop := op = .send none → s.login = .sent

theorem sent_step (op : Op) (sent : Sent failed s) (admitted : LoginSent op s)
    (known : op = .send none → failed) : Sent failed (step op s) := by
  cases op with
  | connect =>
    rw [step, connect]
    split
    · next absent =>
      refine sent_of_same sent rfl rfl rfl (.inr ⟨?_, ?_, by simp⟩) (.inl rfl)
      · simp [absent]
      · simp [absent]
    · exact sent
  | fetch thread cmd payload =>
    rw [step, fetch]
    split
    · exact sent
    · split
      · exact sent
      · next begins =>
        refine sent_of_same sent rfl rfl rfl (.inl rfl) ?_
        dsimp only
        split
        · next own =>
          have unsent : s.login = .unsent := by
            by_contra later
            exact begins ⟨own, .inr later⟩
          exact .inr ⟨unsent, rfl⟩
        · exact .inl rfl
  | push thread =>
    rw [step, push]
    split
    · exact sent
    · exact sent_of_same sent rfl rfl rfl (.inl rfl) (.inl rfl)
  | beginLogin => exact sent_beginLogin sent
  | take =>
    rw [step, take]
    split
    · next ready =>
      refine sent_of_same sent rfl rfl rfl (.inr ⟨?_, ?_, by simp⟩) (.inl rfl)
      · simp [ready.1]
      · simp [ready.1]
    · exact sent
  | next => exact sent_next sent
  | send result =>
    refine sent_send sent (fun none_ => admitted ?_) (fun none_ => known ?_)
    · exact congrArg Op.send none_
    · exact congrArg Op.send none_
  | finish => exact sent_finish sent
  | disconnect => exact sent_of_same sent rfl rfl rfl (.inl rfl) (.inl rfl)
  | terminate => exact sent_of_same sent rfl rfl rfl (.inl rfl) (.inl rfl)
  | endWriter =>
    rw [step, endWriter]
    split
    · next ready =>
      refine sent_of_same sent rfl rfl rfl (.inr ⟨?_, ?_, by simp⟩) (.inl rfl)
      · simp [ready.1]
      · simp [ready.1]
    · exact sent

theorem sent_start : Sent failed {} := .idle rfl (by simp) (by simp) rfl

theorem sent_run {ops : List Op} (admitted : Runs.Admitted step LoginSent ops {}) :
    Sent (.send none ∈ ops) (run step ops {}) := by
  have known : Runs.Admitted step
      (fun op s => LoginSent op s ∧ (op = .send none → .send none ∈ ops)) ops {} :=
    admitted.mono fun op member _ loggedIn => ⟨loggedIn, fun named => named ▸ member⟩
  exact Runs.invariant_of_run
    (fun op _ sent admitted => sent_step op sent admitted.1 admitted.2) sent_start known

/-- What is on the wire: whole packets, then what is sent of the packet that is being sent or whose
sending failed. -/
def Whole (s : State) (failed : Prop) : Prop :=
  ∃ (done : List Submission) (part : List UInt8),
    s.wire = done.flatMap Submission.sentWhole ++ part ∧
      (s.begun = done ∧ part = [] ∨
        ∃ (p : Submission) (n : Nat), s.begun = done ++ [p] ∧ part = p.bytes.take n ∧
          (s.current = some (p, n) ∨ failed ∧ s.writer = .ended))

theorem Sent.whole (sent : Sent failed s) : Whole s failed := by
  cases sent with
  | idle _ _ _ wire => exact ⟨s.begun, [], by rw [wire, List.append_nil], .inl ⟨rfl, rfl⟩⟩
  | sending p done n current _ carries =>
    exact ⟨done, p.bytes.take n, carries.2.2, .inr ⟨p, n, carries.1, rfl, .inl current⟩⟩
  | broken p done n _ writer _ carries once =>
    exact ⟨done, p.bytes.take n, carries.2.2, .inr ⟨p, n, carries.1, rfl, .inr ⟨once, writer⟩⟩⟩

/-- A packet is sent at most as often as it was submitted. -/
theorem Flow.count_le (flow : Flow s) (p : Submission) :
    s.begun.count p ≤ s.submitted.count p := by
  have own : ∀ l : List Submission, l.count p = (of p.thread l).count p := by
    intro l
    exact (List.count_filter (by simp)).symm
  have order := (flow.order p.thread).count_le p
  rw [of_append, of_append, of_append] at order
  simp only [List.count_append] at order
  rw [own s.begun, own s.submitted]
  omega

theorem Flow.begun_order (flow : Flow s) (t : Option Nat) :
    (of t s.begun).Sublist (of t s.submitted) := by
  have order := flow.order t
  rw [of_append, of_append, of_append, List.append_assoc, List.append_assoc] at order
  exact (List.sublist_append_left _ _).trans order

/-- What is sent in a run whose failing sends are the writer's, made when the login is sent, and
which packets are sent, and under which ids, in any run. -/
theorem wire_order (ops : List Op) :
    (Runs.Admitted step LoginSent ops {} → Whole (run step ops {}) (.send none ∈ ops)) ∧
    (∀ p : Submission, p.bytes.length < 2 ^ 31 → p.sentWhole = p.bytes) ∧
    (∀ p, (run step ops {}).begun.count p ≤ (run step ops {}).submitted.count p) ∧
    (∀ t, (of t (run step ops {}).begun).Sublist (of t (run step ops {}).submitted)) ∧
    ((run step ops {}).submitted.length ≤ 2 ^ 64 →
      ((run step ops {}).submitted.map Submission.id).Nodup) := by
  have flow := flow_run ops
  refine ⟨fun admitted => (sent_run admitted).whole, fun _ => sentWhole_small, flow.count_le,
    flow.begun_order, (counted_run ops).nodup⟩

theorem header_le_bytes (p : Submission) : shadHeaderSize ≤ p.bytes.length := by
  simp [Submission.bytes, buildPacket, putLE16, putLE32, putLE64]

/-- The connection breaks in the middle of a packet. -/
def brokenSend : List Op :=
  [.connect, .fetch (some 0) 2 [], .push 0, .take, .next, .send (some 5), .send none]

theorem broken_send_part : ¬∀ ops : List Op, (run step ops {}).current = none →
    ∃ packets : List Submission,
      (run step ops {}).wire = packets.flatMap Submission.bytes := by
  intro always
  obtain ⟨packets, whole⟩ := always brokenSend (by decide)
  have five : (run step brokenSend {}).wire.length = 5 := by decide
  rw [whole] at five
  cases packets with
  | nil => cases five
  | cons p rest =>
    have header := header_le_bytes p
    rw [shadHeaderSize] at header
    rw [List.flatMap_cons, List.length_append] at five
    omega

end Wire

end ShadNetClient
