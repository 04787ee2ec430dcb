import ShadNet.Duties
import ShadNet.Matching2.Mm

/-!
# The peer resolver

`RequestSignalingInfos` asks the server for the endpoint of a peer and waits for
the reply, which a reader thread leaves in one table under the packet's number.
Every client numbers its packets from one, so a number names a packet only
together with its client.
-/

namespace Matching2Resolver

open KeyedTable NpMatching2 Matching2State
open NpSignaling (OrbisNpOnlineId setNpOnlineId)

/-- A reply in `sig_replies`. `sender` is the client on which it arrived. -/
structure SigReply where
  pktId : Nat
  error : UInt32
  endpoint : Option (UInt32 × UInt16)
  sender : Nat
  deriving DecidableEq, Repr

/-- The reply a call has taken, with the packet the call had sent. -/
structure Answer where
  clientId : Nat
  pktId : Nat
  reply : SigReply
  deriving DecidableEq, Repr

inductive Phase where
  | called
  | enabled
  | holding (clientId : Nat)
  | cleared (clientId : Nat)
  | waiting (clientId pktId : Nat)
  | returned (answer : Option Answer)
  deriving DecidableEq, Repr

structure Call where
  targetOnlineId : OrbisNpOnlineId
  onReaderThread : Bool
  phase : Phase := .called
  deriving DecidableEq, Repr

namespace Call

def inProgress (call : Call) : Bool :=
  match call.phase with
  | .returned _ => false
  | _ => true

def endpoint (call : Call) : Option (UInt32 × UInt16) :=
  match call.phase with
  | .returned (some answer) => if answer.reply.error = 0 then answer.reply.endpoint else none
  | _ => none

/-- The client and the number of the packet the call waits for. -/
def awaits (call : Call) : Option (Nat × Nat) :=
  match call.phase with
  | .waiting clientId pktId => some (clientId, pktId)
  | _ => none

/-- The packet of a call that waits or was answered. -/
def packet (call : Call) : Option (Nat × Nat) :=
  match call.phase with
  | .waiting clientId pktId => some (clientId, pktId)
  | .returned (some answer) => some (answer.clientId, answer.pktId)
  | _ => none

def holds (clientId : Nat) (call : Call) : Prop :=
  call.phase = .holding clientId ∨ call.phase = .cleared clientId

end Call

structure Resolver where
  mm : Matching2State := {}
  sigReplies : List SigReply := []
  calls : List Call := []
  deriving Repr

namespace Resolver

def waiting (s : Resolver) : List (Nat × Nat) := s.calls.filterMap Call.awaits

def packets (s : Resolver) : List (Nat × Nat) := s.calls.filterMap Call.packet

def sigReply? (pktId : Nat) (s : Resolver) : Option SigReply :=
  lookup SigReply.pktId pktId s.sigReplies

def setPhase (index : Nat) (call : Call) (phase : Phase) (s : Resolver) : Resolver :=
  { s with calls := s.calls.set index { call with phase } }

/-- The number a call is about to give to its packet. -/
def nextPacket (call : Call) (s : Resolver) : Option Nat :=
  match call.phase with
  | .cleared clientId => some (clientSubmitRequest clientId s.mm).1
  | _ => none

/-- The next step of a call: what it reads under one lock, or the submission. -/
def advance (index : Nat) (s : Resolver) : Resolver :=
  match s.calls[index]? with
  | none => s
  | some call =>
    match call.phase with
    | .called =>
      s.setPhase index call (if s.mm.matching2Enabled then .enabled else .returned none)
    | .enabled =>
      s.setPhase index call (s.mm.mmClient.elim (.returned none) .holding)
    | .holding clientId =>
      s.setPhase index call
        (if isAuthenticated clientId s.mm ∧ call.onReaderThread = false then .cleared clientId
          else .returned none)
    | .cleared clientId =>
      let (pktId, mm) := clientSubmitRequest clientId s.mm
      { s with mm }.setPhase index call (.waiting clientId pktId)
    | .waiting clientId pktId =>
      match s.sigReply? pktId with
      | none => s
      | some reply =>
        { s with sigReplies := remove SigReply.pktId pktId s.sigReplies }.setPhase index call
          (.returned (some ⟨clientId, pktId, reply⟩))
    | .returned _ => s

/-- `wait_for` looks at the table once more before it gives up. -/
def timeOut (index : Nat) (s : Resolver) : Resolver :=
  match s.calls[index]? with
  | none => s
  | some call =>
    match call.phase with
    | .waiting _ pktId =>
      if (s.sigReply? pktId).isSome then s else s.setPhase index call (.returned none)
    | _ => s

/-- `OnMatching2Reply` for the resolver's command, on the reader thread of the client. -/
def onMatching2Reply (reply : SigReply) (s : Resolver) : Resolver :=
  { s with sigReplies := store SigReply.pktId reply s.sigReplies }

end Resolver

inductive Op where
  | requestSignalingInfos (targetOnlineId : OrbisNpOnlineId) (onReaderThread : Bool)
  | advance (index : Nat)
  | timeOut (index : Nat)
  | reply (reply : SigReply)
  | setMmShadNetClient (matching2Enabled : Bool)
  | clearMmShadNetClient
  | connectionLost (clientId : Nat)
  | submitOther (clientId : Nat)

def step (op : Op) (s : Resolver) : Resolver :=
  match op with
  | .requestSignalingInfos targetOnlineId onReaderThread =>
    { s with calls := s.calls ++ [{ targetOnlineId, onReaderThread }] }
  | .advance index => s.advance index
  | .timeOut index => s.timeOut index
  | .reply reply => s.onMatching2Reply reply
  | .setMmShadNetClient enabled => { s with mm := NpMatching2.setMmShadNetClient enabled s.mm }
  | .clearMmShadNetClient => { s with mm := NpMatching2.clearMmShadNetClient s.mm }
  | .connectionLost clientId => { s with mm := NpMatching2.connectionLost clientId s.mm }
  | .submitOther clientId => { s with mm := (clientSubmitRequest clientId s.mm).2 }

/-! ### The property -/

structure Fresh (s : Resolver) : Prop where
  /-- An endpoint comes from the reply to the packet of the call that returns it, which is the
  packet of no other call. -/
  own : ∀ call ∈ s.calls, ∀ endpoint, call.endpoint = some endpoint →
    ∃ answer, call.phase = .returned (some answer) ∧ answer.reply.sender = answer.clientId ∧
      answer.reply.pktId = answer.pktId ∧ answer.reply.endpoint = some endpoint
  distinct : s.packets.Nodup
  bounded : s.sigReplies.length ≤ (s.calls.filter Call.inProgress).length

/-- A reply finds the call that sent the packet waiting, and no other call that waits under the
same number; a packet is sent when no reply is stored under its number. -/
def Timely : Op → Resolver → Prop
  | .reply reply, s => (reply.sender, reply.pktId) ∈ s.waiting ∧
      ∀ packet ∈ s.waiting, packet.2 = reply.pktId → packet.1 = reply.sender
  | .advance index, s => ∀ call ∈ s.calls[index]?, ∀ pktId ∈ s.nextPacket call,
      s.sigReply? pktId = none
  | _, _ => True

instance : ∀ (op : Op) (s : Resolver), Decidable (Timely op s)
  | .reply _, _ => inferInstanceAs (Decidable (_ ∧ ∀ packet ∈ _, _))
  | .advance index, s => inferInstanceAs (Decidable (∀ call ∈ s.calls[index]?,
      ∀ pktId ∈ s.nextPacket call, _))
  | .requestSignalingInfos .., _ | .timeOut _, _ | .setMmShadNetClient _, _
  | .clearMmShadNetClient, _ | .connectionLost _, _ | .submitOther _, _ => isTrue trivial

/-! ### Clients -/

/-- Every client stays, and numbers its packets upwards. -/
def Grows (mm mm' : Matching2State) : Prop :=
  ∀ clientId client, mm.client? clientId = some client →
    ∃ client', mm'.client? clientId = some client' ∧ client.pktCounter ≤ client'.pktCounter

theorem grows_adjust (f : ShadNetClient → ShadNetClient) {clientId : Nat}
    {mm mm' : Matching2State} (keeps : ∀ client, (f client).clientId = client.clientId)
    (upwards : ∀ client, client.pktCounter ≤ (f client).pktCounter)
    (clients : mm'.clients = adjust ShadNetClient.clientId clientId f mm.clients) :
    Grows mm mm' := by
  intro other client found
  rw [client?] at found
  rw [client?, clients, lookup_adjust keeps, found]
  refine ⟨_, rfl, ?_⟩
  dsimp only
  split
  · exact upwards client
  · exact Nat.le_refl _

theorem grows_submit (clientId : Nat) (mm : Matching2State) :
    Grows mm (clientSubmitRequest clientId mm).2 := by
  rw [clientSubmitRequest]
  split
  · exact fun _ client found => ⟨client, found, Nat.le_refl _⟩
  · exact grows_adjust (fun client => { client with pktCounter := client.pktCounter + 1 })
      (fun _ => rfl) (fun _ => Nat.le_succ _) rfl

theorem grows_connectionLost (clientId : Nat) (mm : Matching2State) :
    Grows mm (connectionLost clientId mm) :=
  grows_adjust (fun client => { client with authenticated := false }) (fun _ => rfl)
    (fun _ => Nat.le_refl _) rfl

theorem grows_setMmShadNetClient (enabled : Bool) (mm : Matching2State) :
    Grows mm (setMmShadNetClient enabled mm) := by
  intro other client found
  rw [client?] at found
  rw [client?, (clients_setMmShadNetClient enabled mm).1, lookup_append, found]
  exact ⟨client, rfl, Nat.le_refl _⟩

theorem set_client_known (enabled : Bool) (mm : Matching2State) :
    ((setMmShadNetClient enabled mm).client? mm.clients.length).isSome := by
  rw [client?, (clients_setMmShadNetClient enabled mm).1, lookup_append, Option.isSome_or]
  simp [lookup]

/-- A submitted packet has the number its client had reached. -/
theorem submit_number {clientId : Nat} {mm : Matching2State} {client : ShadNetClient}
    (found : mm.client? clientId = some client) :
    (clientSubmitRequest clientId mm).1 = client.pktCounter ∧
      ∃ client', (clientSubmitRequest clientId mm).2.client? clientId = some client' ∧
        client.pktCounter < client'.pktCounter := by
  rw [clientSubmitRequest, found]
  refine ⟨rfl, { client with pktCounter := client.pktCounter + 1 }, ?_, Nat.lt_succ_self _⟩
  have own := (lookup_some found).2
  change lookup ShadNetClient.clientId clientId (adjust _ _ _ mm.clients) = _
  rw [client?] at found
  rw [lookup_adjust, found, Option.map_some, if_pos own]
  exact fun _ => rfl

/-! ### Calls and stored replies -/

/-- Every stored reply is the one its call waits for. -/
structure Tracked (s : Resolver) : Prop where
  keyed : Distinct SigReply.pktId s.sigReplies
  awaited : ∀ reply ∈ s.sigReplies, (reply.sender, reply.pktId) ∈ s.waiting
  alone : ∀ reply ∈ s.sigReplies, ∀ packet ∈ s.waiting, packet.2 = reply.pktId →
    packet.1 = reply.sender
  distinct : s.packets.Nodup
  counted : ∀ packet ∈ s.packets, ∃ client, s.mm.client? packet.1 = some client ∧
    packet.2 < client.pktCounter
  known : ∀ call ∈ s.calls, ∀ clientId, call.holds clientId → (s.mm.client? clientId).isSome
  current : ∀ clientId, s.mm.mmClient = some clientId → (s.mm.client? clientId).isSome
  answers : ∀ call ∈ s.calls, ∀ answer, call.phase = .returned (some answer) →
    answer.reply.sender = answer.clientId ∧ answer.reply.pktId = answer.pktId

theorem Grows.isSome {mm mm' : Matching2State} (grows : Grows mm mm') {clientId : Nat}
    (known : (mm.client? clientId).isSome) : (mm'.client? clientId).isSome := by
  obtain ⟨client, found⟩ := Option.isSome_iff_exists.mp known
  obtain ⟨client', found', -⟩ := grows clientId client found
  rw [found']
  rfl

/-- What the clients do changes nothing for the calls. -/
theorem tracked_mm {s : Resolver} (tracked : Tracked s) {mm : Matching2State}
    (grows : Grows s.mm mm)
    (current : ∀ clientId, mm.mmClient = some clientId → (mm.client? clientId).isSome) :
    Tracked { s with mm } := by
  refine { tracked with counted := ?_, known := ?_, current }
  · intro packet member
    obtain ⟨client, found, below⟩ := tracked.counted packet member
    obtain ⟨client', found', upwards⟩ := grows packet.1 client found
    exact ⟨client', found', Nat.lt_of_lt_of_le below upwards⟩
  · intro call member clientId holds
    exact grows.isSome (tracked.known call member clientId holds)

theorem Tracked.current_of_same {s : Resolver} (tracked : Tracked s) {mm : Matching2State}
    (grows : Grows s.mm mm) (same : mm.mmClient = s.mm.mmClient) (clientId : Nat)
    (current : mm.mmClient = some clientId) : (mm.client? clientId).isSome :=
  grows.isSome (tracked.current clientId (same.symm.trans current))

theorem mem_middle {α : Type} {before after : List α} {a b c : α}
    (member : c ∈ before ++ b :: after) : c ∈ before ++ a :: after ∨ c = b := by
  simp only [List.mem_append, List.mem_cons] at member ⊢
  tauto

/-- A call that neither waits nor was answered, before the step and after it. -/
theorem tracked_quiet {s : Resolver} (tracked : Tracked s) {index : Nat} {call call' : Call}
    (found : s.calls[index]? = some call) (free : call.awaits = none ∧ call.packet = none)
    (free' : call'.awaits = none ∧ call'.packet = none)
    (known : ∀ clientId, call'.holds clientId → (s.mm.client? clientId).isSome) :
    Tracked { s with calls := s.calls.set index call' } := by
  obtain ⟨before, after, split, set⟩ := LockProgram.set_middle found call'
  have waiting : Resolver.waiting { s with calls := s.calls.set index call' } = s.waiting := by
    rw [Resolver.waiting, Resolver.waiting, set, split, LockProgram.filterMap_middle,
      LockProgram.filterMap_middle, free.1, free'.1]
  have packets : Resolver.packets { s with calls := s.calls.set index call' } = s.packets := by
    rw [Resolver.packets, Resolver.packets, set, split, LockProgram.filterMap_middle,
      LockProgram.filterMap_middle, free.2, free'.2]
  have listed {other : Call} (member : other ∈ s.calls.set index call') :
      other ∈ s.calls ∨ other = call' := by
    rw [set] at member
    rw [split]
    exact mem_middle member
  constructor
  · exact tracked.keyed
  · rw [waiting]
    exact tracked.awaited
  · rw [waiting]
    exact tracked.alone
  · rw [packets]
    exact tracked.distinct
  · rw [packets]
    exact tracked.counted
  · intro other member
    rcases listed member with old | rfl
    · exact tracked.known other old
    · exact known
  · exact tracked.current
  · intro other member answer answered
    rcases listed member with old | rfl
    · exact tracked.answers other old answer answered
    · rw [Call.packet, answered] at free'
      exact absurd free'.2 (Option.some_ne_none _)

/-- The packet takes a number under which no reply is stored. -/
theorem tracked_submit {s : Resolver} (tracked : Tracked s) {index clientId : Nat} {call : Call}
    (found : s.calls[index]? = some call) (cleared : call.phase = .cleared clientId)
    (unanswered : s.sigReply? (clientSubmitRequest clientId s.mm).1 = none) :
    Tracked (s.advance index) := by
  have exists_ := tracked.known call (List.mem_of_getElem? found) clientId (Or.inr cleared)
  obtain ⟨client, present⟩ := Option.isSome_iff_exists.mp exists_
  obtain ⟨number, client', present', above⟩ := submit_number present
  let pktId := (clientSubmitRequest clientId s.mm).1
  let call' : Call := { call with phase := .waiting clientId pktId }
  have advanced : s.advance index =
      { s with
        mm := (clientSubmitRequest clientId s.mm).2
        calls := s.calls.set index call' } := by
    rw [Resolver.advance, found]
    simp only [cleared]
    rfl
  have grown := tracked_mm tracked (grows_submit clientId s.mm)
    (tracked.current_of_same (grows_submit clientId s.mm) (by
      rw [clientSubmitRequest]
      split <;> rfl))
  obtain ⟨before, after, split, set⟩ := LockProgram.set_middle found call'
  have free : call.awaits = none ∧ call.packet = none := by
    rw [Call.awaits, Call.packet, cleared]
    exact ⟨rfl, rfl⟩
  have waiting : ∀ packet, packet ∈ (s.advance index).waiting ↔
      packet ∈ s.waiting ∨ packet = (clientId, pktId) := by
    intro packet
    rw [advanced, Resolver.waiting, Resolver.waiting, set, split, LockProgram.filterMap_middle,
      LockProgram.filterMap_middle, free.1]
    simp only [List.mem_append, Call.awaits, call', Option.toList, List.mem_singleton,
      List.not_mem_nil]
    tauto
  have packets : (s.advance index).packets.Perm ((clientId, pktId) :: s.packets) := by
    rw [advanced, Resolver.packets, Resolver.packets, set, split, LockProgram.filterMap_middle,
      LockProgram.filterMap_middle, free.2]
    simp only [Call.packet, call', Option.toList, List.append_nil, List.append_assoc,
      List.singleton_append]
    exact List.perm_middle
  have fresh : (clientId, pktId) ∉ s.packets := by
    intro member
    obtain ⟨other, same, below⟩ := tracked.counted _ member
    rw [present, Option.some_inj] at same
    rw [← same] at below
    exact absurd below (Nat.not_lt_of_le (Nat.le_of_eq number.symm))
  have listed {other : Call} (member : other ∈ (s.advance index).calls) :
      other ∈ s.calls ∨ other = call' := by
    rw [advanced, set] at member
    rw [split]
    exact mem_middle member
  have replies : (s.advance index).sigReplies = s.sigReplies := by rw [advanced]
  have mm : (s.advance index).mm = (clientSubmitRequest clientId s.mm).2 := by rw [advanced]
  constructor
  · rw [replies]
    exact tracked.keyed
  · rw [replies]
    exact fun reply member => (waiting _).mpr (Or.inl (tracked.awaited reply member))
  · rw [replies]
    intro reply member packet waits same
    rcases (waiting packet).mp waits with old | rfl
    · exact tracked.alone reply member packet old same
    · exact absurd same.symm (lookup_none.mp unanswered reply member)
  · rw [packets.nodup_iff, List.nodup_cons]
    exact ⟨fresh, tracked.distinct⟩
  · rw [mm]
    intro packet member
    rcases List.mem_cons.mp (packets.mem_iff.mp member) with rfl | old
    · refine ⟨client', present', ?_⟩
      exact Nat.lt_of_le_of_lt (Nat.le_of_eq number) above
    · exact grown.counted packet old
  · rw [mm]
    intro other member other' holds
    rcases listed member with old | rfl
    · exact grown.known other old other' holds
    · rcases holds with holding | cleared
      · exact absurd holding Phase.noConfusion
      · exact absurd cleared Phase.noConfusion
  · rw [mm]
    exact grown.current
  · intro other member answer answered
    rcases listed member with old | rfl
    · exact tracked.answers other old answer answered
    · exact absurd answered Phase.noConfusion

/-- A call stops to wait: no stored reply is for it any more. -/
theorem tracked_leave {s : Resolver} (tracked : Tracked s) {index clientId pktId : Nat}
    {call call' : Call} (found : s.calls[index]? = some call)
    (waits : call.phase = .waiting clientId pktId) {sigReplies : List SigReply}
    (fewer : List.Sublist sigReplies s.sigReplies)
    (gone : ∀ reply ∈ sigReplies, reply.pktId ≠ pktId) (idle : call'.awaits = none)
    (same : call'.packet = none ∨ call'.packet = some (clientId, pktId))
    (unheld : ∀ clientId, ¬call'.holds clientId)
    (answers : ∀ answer, call'.phase = .returned (some answer) →
      answer.reply.sender = answer.clientId ∧ answer.reply.pktId = answer.pktId) :
    Tracked { s with sigReplies, calls := s.calls.set index call' } := by
  obtain ⟨before, after, split, set⟩ := LockProgram.set_middle found call'
  have own : call.awaits = some (clientId, pktId) ∧ call.packet = some (clientId, pktId) := by
    rw [Call.awaits, Call.packet, waits]
    exact ⟨rfl, rfl⟩
  let s' : Resolver := { s with sigReplies, calls := s.calls.set index call' }
  have calls : s'.calls = before ++ call' :: after := set
  have waiting : ∀ packet, packet ∈ s.waiting ↔
      packet ∈ s'.waiting ∨ packet = (clientId, pktId) := by
    intro packet
    rw [Resolver.waiting, Resolver.waiting, calls, split, LockProgram.filterMap_middle,
      LockProgram.filterMap_middle, own.1, idle]
    simp only [List.mem_append, Option.toList, List.mem_singleton, List.not_mem_nil]
    tauto
  have packets : List.Sublist s'.packets s.packets := by
    rw [Resolver.packets, Resolver.packets, calls, split, LockProgram.filterMap_middle,
      LockProgram.filterMap_middle, own.2]
    refine List.Sublist.append_right (List.Sublist.append_left ?_ _) _
    rcases same with none_ | some_
    · rw [none_]
      exact List.nil_sublist _
    · rw [some_]
  have listed {other : Call} (member : other ∈ s'.calls) : other ∈ s.calls ∨ other = call' := by
    rw [calls] at member
    rw [split]
    exact mem_middle member
  constructor
  · exact List.Nodup.sublist (fewer.map SigReply.pktId) tracked.keyed
  · intro reply member
    have waits := tracked.awaited reply (fewer.subset member)
    refine ((waiting _).mp waits).resolve_right (fun taken => ?_)
    exact gone reply member (Prod.mk.inj taken).2
  · intro reply member packet there
    exact tracked.alone reply (fewer.subset member) packet ((waiting packet).mpr (Or.inl there))
  · exact tracked.distinct.sublist packets
  · exact fun packet member => tracked.counted packet (packets.subset member)
  · intro other member other' holds
    rcases listed member with old | rfl
    · exact tracked.known other old other' holds
    · exact absurd holds (unheld other')
  · exact tracked.current
  · intro other member answer answered
    rcases listed member with old | rfl
    · exact tracked.answers other old answer answered
    · exact answers answer answered

theorem tracked_take {s : Resolver} (tracked : Tracked s) {index clientId pktId : Nat}
    {call : Call} (found : s.calls[index]? = some call)
    (waits : call.phase = .waiting clientId pktId) {reply : SigReply}
    (stored : s.sigReply? pktId = some reply) :
    Tracked (Resolver.setPhase index call (.returned (some ⟨clientId, pktId, reply⟩))
      { s with sigReplies := remove SigReply.pktId pktId s.sigReplies }) := by
  obtain ⟨member, number⟩ := lookup_some stored
  have there : (clientId, pktId) ∈ s.waiting := by
    refine List.mem_filterMap.mpr ⟨call, List.mem_of_getElem? found, ?_⟩
    rw [Call.awaits, waits]
  have sender := tracked.alone reply member _ there number.symm
  refine tracked_leave tracked found waits List.filter_sublist ?_ rfl (Or.inr rfl) ?_ ?_
  · exact fun other listed => (mem_remove.mp listed).2
  · rintro other (holding | cleared)
    · exact Phase.noConfusion holding
    · exact Phase.noConfusion cleared
  · intro answer answered
    obtain rfl := Option.some.inj (Phase.returned.inj answered)
    exact ⟨sender.symm, number⟩

theorem tracked_timeOut {s : Resolver} (tracked : Tracked s) (index : Nat) :
    Tracked (s.timeOut index) := by
  rw [Resolver.timeOut]
  split
  · exact tracked
  · rename_i call found
    split
    · rename_i clientId pktId waits
      split
      · exact tracked
      · rename_i unanswered
        have missing := lookup_none.mp (Option.not_isSome_iff_eq_none.mp unanswered)
        refine tracked_leave tracked found waits (List.Sublist.refl _) missing rfl (Or.inl rfl) ?_ ?_
        · rintro other (holding | cleared)
          · exact Phase.noConfusion holding
          · exact Phase.noConfusion cleared
        · intro answer answered
          exact absurd (Phase.returned.inj answered).symm (Option.some_ne_none _)
    · exact tracked

theorem tracked_reply {s : Resolver} (tracked : Tracked s) {reply : SigReply}
    (awaited : (reply.sender, reply.pktId) ∈ s.waiting)
    (alone : ∀ packet ∈ s.waiting, packet.2 = reply.pktId → packet.1 = reply.sender) :
    Tracked (s.onMatching2Reply reply) := by
  refine { tracked with keyed := tracked.keyed.store, awaited := ?_, alone := ?_ }
  · intro other member
    rcases mem_store.mp member with ⟨old, -⟩ | rfl
    · exact tracked.awaited other old
    · exact awaited
  · intro other member
    rcases mem_store.mp member with ⟨old, -⟩ | rfl
    · exact tracked.alone other old
    · exact alone

theorem tracked_advance {s : Resolver} (tracked : Tracked s) (index : Nat)
    (timely : Timely (.advance index) s) : Tracked (s.advance index) := by
  cases found : s.calls[index]? with
  | none =>
    rw [Resolver.advance, found]
    exact tracked
  | some call =>
    have known := tracked.known call (List.mem_of_getElem? found)
    have quiet (phase : Phase) (free : call.awaits = none ∧ call.packet = none)
        (free' : phase = .enabled ∨ phase = .returned none ∨ (∃ clientId,
          (s.mm.client? clientId).isSome ∧ (phase = .holding clientId ∨
            phase = .cleared clientId))) : Tracked (s.setPhase index call phase) := by
      refine tracked_quiet tracked found free ?_ ?_
      · rcases free' with rfl | rfl | ⟨clientId, -, rfl | rfl⟩ <;> exact ⟨rfl, rfl⟩
      · intro clientId holds
        rcases free' with rfl | rfl | ⟨other, there, rfl | rfl⟩ <;>
          simp only [Call.holds, reduceCtorEq, Phase.holding.injEq, Phase.cleared.injEq, or_false,
            false_or] at holds
        · exact holds ▸ there
        · exact holds ▸ there
    cases phase : call.phase with
    | called =>
      rw [Resolver.advance, found]
      simp only [phase]
      refine quiet _ ?_ ?_
      · rw [Call.awaits, Call.packet, phase]
        exact ⟨rfl, rfl⟩
      · split
        · exact Or.inl rfl
        · exact Or.inr (Or.inl rfl)
    | enabled =>
      rw [Resolver.advance, found]
      simp only [phase]
      refine quiet _ ?_ ?_
      · rw [Call.awaits, Call.packet, phase]
        exact ⟨rfl, rfl⟩
      · cases current : s.mm.mmClient with
        | none => exact Or.inr (Or.inl rfl)
        | some clientId =>
          exact Or.inr (Or.inr ⟨clientId, tracked.current clientId current, Or.inl rfl⟩)
    | holding clientId =>
      rw [Resolver.advance, found]
      simp only [phase]
      refine quiet _ ?_ ?_
      · rw [Call.awaits, Call.packet, phase]
        exact ⟨rfl, rfl⟩
      · split
        · exact Or.inr (Or.inr ⟨clientId, known clientId (Or.inl phase), Or.inr rfl⟩)
        · exact Or.inr (Or.inl rfl)
    | cleared clientId =>
      refine tracked_submit tracked found phase (timely call found _ ?_)
      rw [Resolver.nextPacket, phase]
      rfl
    | waiting clientId pktId =>
      rw [Resolver.advance, found]
      simp only [phase]
      cases stored : s.sigReply? pktId with
      | none => exact tracked
      | some reply => exact tracked_take tracked found phase stored
    | returned answer =>
      rw [Resolver.advance, found]
      simp only [phase]
      exact tracked

theorem tracked_step {op : Op} {s : Resolver} (tracked : Tracked s) (timely : Timely op s) :
    Tracked (step op s) := by
  cases op with
  | requestSignalingInfos targetOnlineId onReaderThread =>
    let call : Call := { targetOnlineId, onReaderThread }
    have waiting : Resolver.waiting { s with calls := s.calls ++ [call] } = s.waiting := by
      rw [Resolver.waiting, Resolver.waiting, List.filterMap_append]
      exact List.append_nil _
    have packets : Resolver.packets { s with calls := s.calls ++ [call] } = s.packets := by
      rw [Resolver.packets, Resolver.packets, List.filterMap_append]
      exact List.append_nil _
    constructor
    · exact tracked.keyed
    · exact fun reply member => waiting ▸ tracked.awaited reply member
    · exact fun reply member => waiting ▸ tracked.alone reply member
    · exact packets ▸ tracked.distinct
    · exact fun packet member => tracked.counted packet (packets ▸ member)
    · intro other member clientId holds
      rcases List.mem_append.mp member with old | new
      · exact tracked.known other old clientId holds
      · rw [List.mem_singleton.mp new] at holds
        rcases holds with holding | cleared
        · exact Phase.noConfusion holding
        · exact Phase.noConfusion cleared
    · exact tracked.current
    · intro other member answer answered
      rcases List.mem_append.mp member with old | new
      · exact tracked.answers other old answer answered
      · rw [List.mem_singleton.mp new] at answered
        exact Phase.noConfusion answered
  | advance index => exact tracked_advance tracked index timely
  | timeOut index => exact tracked_timeOut tracked index
  | reply reply => exact tracked_reply tracked timely.1 timely.2
  | setMmShadNetClient enabled =>
    refine tracked_mm tracked (grows_setMmShadNetClient enabled s.mm) ?_
    intro clientId current
    rw [(clients_setMmShadNetClient enabled s.mm).2.1, Option.some_inj] at current
    exact current ▸ set_client_known enabled s.mm
  | clearMmShadNetClient =>
    exact tracked_mm tracked (fun _ client found => ⟨client, found, Nat.le_refl _⟩)
      (fun _ current => absurd current.symm (Option.some_ne_none _))
  | connectionLost clientId =>
    exact tracked_mm tracked (grows_connectionLost clientId s.mm)
      (tracked.current_of_same (grows_connectionLost clientId s.mm) rfl)
  | submitOther clientId =>
    refine tracked_mm tracked (grows_submit clientId s.mm)
      (tracked.current_of_same (grows_submit clientId s.mm) ?_)
    rw [clientSubmitRequest]
    split <;> rfl

/-- The stored replies are as many as the calls that wait for them. -/
theorem Tracked.bounded {s : Resolver} (tracked : Tracked s) :
    s.sigReplies.length ≤ (s.calls.filter Call.inProgress).length := by
  have covered : s.sigReplies.map SigReply.pktId ⊆ s.waiting.map Prod.snd := by
    intro pktId member
    obtain ⟨reply, stored, rfl⟩ := List.mem_map.mp member
    exact List.mem_map.mpr ⟨_, tracked.awaited reply stored, rfl⟩
  have fewer := (List.subperm_of_subset tracked.keyed covered).length_le
  rw [List.length_map, List.length_map] at fewer
  refine Nat.le_trans fewer ?_
  rw [Resolver.waiting]
  generalize s.calls = calls
  induction calls with
  | nil => exact Nat.le_refl _
  | cons call rest ih =>
    cases phase : call.phase <;>
      simp only [List.filterMap_cons, List.filter_cons, Call.awaits, Call.inProgress, phase,
        if_true, if_false, List.length_cons, Bool.false_eq_true] <;> omega

theorem Tracked.fresh {s : Resolver} (tracked : Tracked s) : Fresh s := by
  refine ⟨?_, tracked.distinct, tracked.bounded⟩
  intro call member endpoint returned
  rw [Call.endpoint] at returned
  split at returned
  · rename_i answer answered
    obtain ⟨sender, number⟩ := tracked.answers call member answer answered
    split at returned
    · exact ⟨answer, answered, sender, number, returned⟩
    · cases returned
  · cases returned

def run (ops : List Op) (s : Resolver) : Resolver := Runs.run step ops s

/-- The replies of the run come in time. -/
def TimelyRun (ops : List Op) (s : Resolver) : Prop := Runs.Admitted step Timely ops s

instance (ops : List Op) (s : Resolver) : Decidable (TimelyRun ops s) :=
  inferInstanceAs (Decidable (Runs.Admitted _ _ _ _))

theorem tracked_initial : Tracked {} := by
  constructor <;> simp [Distinct, Resolver.waiting, Resolver.packets]

theorem resolver_fresh (ops : List Op) (timely : TimelyRun ops {}) : Fresh (run ops {}) := by
  have tracked : Tracked (run ops {}) :=
    Runs.invariant_of_run (fun _ _ tracked timely => tracked_step tracked timely)
      tracked_initial timely
  exact tracked.fresh

def bob : OrbisNpOnlineId :=
  setNpOnlineId ((Vector.replicate 16 0).set! 0 98)

def resolve (index : Nat) : List Op :=
  .requestSignalingInfos bob false :: List.replicate 4 (.advance index)

/-- Two users sign in, and each asks once. -/
def askedInTurn : List Op :=
  .setMmShadNetClient true :: resolve 0 ++ [.reply ⟨1, 0, some (7, 3658), 0⟩, .advance 0] ++
    .setMmShadNetClient true :: resolve 1 ++ [.reply ⟨1, 0, some (9, 3658), 1⟩, .advance 1]

theorem askedInTurn_fresh : Fresh (run askedInTurn {}) :=
  resolver_fresh askedInTurn (by decide +kernel)

/-- The reply to the first call comes late, and the client is another one by then. -/
def answeredLate : List Op :=
  .setMmShadNetClient true :: resolve 0 ++
    [.timeOut 0, .reply ⟨1, 0, some (7, 3658), 0⟩, .connectionLost 0] ++
    .setMmShadNetClient true :: resolve 1 ++ [.advance 1]

theorem answeredLate_not_fresh : ¬∀ ops : List Op, Fresh (run ops {}) := by
  intro all
  have stale (s : Resolver)
      (foreign : ∃ call ∈ s.calls, call.endpoint = some (7, 3658) ∧
        call.phase = .returned (some ⟨1, 1, ⟨1, 0, some (7, 3658), 0⟩⟩)) : ¬Fresh s := by
    intro fresh
    obtain ⟨call, member, endpoint, phase⟩ := foreign
    obtain ⟨answer, answered, sender, -⟩ := fresh.own call member _ endpoint
    obtain rfl := Option.some.inj (Phase.returned.inj (phase.symm.trans answered))
    exact absurd sender (by decide)
  exact stale _ (by decide +kernel) (all answeredLate)

end Matching2Resolver
