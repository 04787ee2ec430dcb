import ShadNet.Auth.Results

/-!
# Packets of authorization requests

The pending map knows packets by their numbers, and every client counts its own.
-/

namespace NpAuth

open NpHandler Runs

/-! ## Packets -/

/-- A packet number of a client stands for one context, and what is pending or was found is the
context of its packet. -/
structure Tidy (s : Wire) : Prop where
  counted : ∀ packet ∈ s.sent,
    ∃ client, s.client? packet.client = some client ∧ packet.pktId < client.pktCounter
  unique : ∀ a ∈ s.sent, ∀ b ∈ s.sent, a.client = b.client → a.pktId = b.pktId → a.ref = b.ref
  registered : ∀ entry ∈ s.pending, ⟨entry.client, entry.pktId, entry.req⟩ ∈ s.sent
  routed : ∀ found ∈ s.routed, found ∈ s.sent

section Packets

variable {s : Wire}

theorem client?_countPacket (clientId other : Nat) : (s.countPacket clientId).client? other =
    (s.client? other).map (fun client =>
      if client.clientId = clientId then { client with pktCounter := client.pktCounter + 1 }
      else client) := by
  have same : ∀ client : AuthClient,
      { client with pktCounter := client.pktCounter + 1 }.clientId = client.clientId :=
    fun _ => rfl
  exact KeyedTable.lookup_adjust same s.clients

theorem counted_countPacket (clientId : Nat) {packet : PacketOf}
    (counted : ∃ client, s.client? packet.client = some client ∧
      packet.pktId < client.pktCounter) :
    ∃ client, (s.countPacket clientId).client? packet.client = some client ∧
      packet.pktId < client.pktCounter := by
  obtain ⟨client, known, below⟩ := counted
  refine ⟨_, by rw [client?_countPacket, known, Option.map_some], ?_⟩
  split
  · exact Nat.lt_succ_of_lt below
  · exact below

theorem tidy_countPacket (tidy : Tidy s) (clientId : Nat) : Tidy (s.countPacket clientId) where
  counted := fun packet member => counted_countPacket clientId (tidy.counted packet member)
  unique := tidy.unique
  registered := tidy.registered
  routed := tidy.routed

theorem tidy_emplace (tidy : Tidy s) {entry : PendingAuthRequest}
    (sent : ⟨entry.client, entry.pktId, entry.req⟩ ∈ s.sent) : Tidy (s.emplace entry) := by
  rw [Wire.emplace]
  split
  · exact tidy
  · exact
      { counted := tidy.counted
        unique := tidy.unique
        registered := by
          intro other member
          rcases List.mem_append.mp member with old | new
          · exact tidy.registered other old
          · exact List.mem_singleton.mp new ▸ sent
        routed := tidy.routed }

theorem tidy_submit (tidy : Tidy s) (clientId : Nat) (userId : Int) (ref : Nat) :
    Tidy (s.submit clientId userId ref) := by
  rw [Wire.submit]
  cases known : s.client? clientId with
  | none => exact tidy
  | some client =>
    have named : client.clientId = clientId := (KeyedTable.lookup_some known).2
    have sent : Tidy { s.countPacket clientId with
        sent := s.sent ++ [⟨clientId, client.pktCounter, ref⟩] } :=
      { counted := by
          intro packet member
          rcases List.mem_append.mp member with old | new
          · exact counted_countPacket clientId (tidy.counted packet old)
          · rw [List.mem_singleton.mp new]
            have found := client?_countPacket (s := s) clientId clientId
            rw [known, Option.map_some, if_pos named] at found
            exact ⟨_, found, Nat.lt_succ_self _⟩
        unique := by
          have apart : ∀ a ∈ s.sent, a.client = clientId → a.pktId ≠ client.pktCounter := by
            intro a member same
            obtain ⟨other, found, below⟩ := tidy.counted a member
            rw [same, known, Option.some.injEq] at found
            exact found ▸ Nat.ne_of_lt below
          intro a first b second client_ pktId
          rcases List.mem_append.mp first with mine | mine
          · rcases List.mem_append.mp second with its | its
            · exact tidy.unique a mine b its client_ pktId
            · rw [List.mem_singleton.mp its] at client_ pktId
              exact absurd pktId (apart a mine client_)
          · rw [List.mem_singleton.mp mine] at client_ pktId ⊢
            rcases List.mem_append.mp second with its | its
            · exact absurd pktId.symm (apart b its client_.symm)
            · rw [List.mem_singleton.mp its]
        registered := fun entry member =>
          List.mem_append_left _ (tidy.registered entry member)
        routed := fun found member => List.mem_append_left _ (tidy.routed found member) }
    exact tidy_emplace sent (List.mem_append_right _ (List.mem_singleton.mpr rfl))

theorem tidy_take (tidy : Tidy s) {client pktId : Nat}
    (own : ∀ entry ∈ s.pending? pktId, entry.client = client) : Tidy (s.take client pktId).2 := by
  rw [Wire.take]
  cases known : s.pending? pktId with
  | none => exact tidy
  | some entry =>
    obtain ⟨member, number⟩ := KeyedTable.lookup_some known
    exact
      { counted := tidy.counted
        unique := tidy.unique
        registered := fun other kept => tidy.registered other (KeyedTable.mem_remove.mp kept).1
        routed := by
          intro found member_
          rcases List.mem_append.mp member_ with old | new
          · exact tidy.routed found old
          · rw [List.mem_singleton.mp new, ← own entry known, ← number]
            exact tidy.registered entry member }

theorem tidy_connect (tidy : Tidy s) (userId : Int) : Tidy (s.connect userId) where
  counted := by
    intro packet member
    obtain ⟨client, known, below⟩ := tidy.counted packet member
    refine ⟨client, ?_, below⟩
    rw [Wire.client?] at known
    rw [Wire.client?, Wire.connect, KeyedTable.lookup_append, known, Option.some_or]
  unique := tidy.unique
  registered := tidy.registered
  routed := tidy.routed

theorem tidy_loseConnection (tidy : Tidy s) (clientId : Nat) :
    Tidy (s.loseConnection clientId) where
  counted := by
    intro packet member
    obtain ⟨client, known, below⟩ := tidy.counted packet member
    have same : ∀ client : AuthClient,
        { client with authenticated := false }.clientId = client.clientId := fun _ => rfl
    have found : (s.loseConnection clientId).client? packet.client = _ :=
      KeyedTable.lookup_adjust same s.clients
    rw [Wire.client?] at known
    rw [known, Option.map_some] at found
    refine ⟨_, found, ?_⟩
    split
    · exact below
    · exact below
  unique := tidy.unique
  registered := tidy.registered
  routed := tidy.routed

theorem tidy_filter (tidy : Tidy s) (kept : PendingAuthRequest → Bool) :
    Tidy { s with pending := s.pending.filter kept } where
  counted := tidy.counted
  unique := tidy.unique
  registered := fun entry member => tidy.registered entry (List.mem_of_mem_filter member)
  routed := tidy.routed

end Packets

theorem tidy_step (pb : ShadNetProto) (enabled : Bool) (op : Op) {s : State} (tidy : Tidy s.wire)
    (own : OwnReply op s) : Tidy (step pb enabled op s).wire := by
  cases op with
  | connect userId => exact tidy_connect tidy userId
  | loseConnection client => exact tidy_loseConnection tidy client
  | otherPacket client => exact tidy_countPacket tidy client
  | begin t request =>
    rw [step]
    cases s.threads[t]? with
    | none => exact tidy
    | some thread =>
      simp only
      split
      · exact tidy
      · exact tidy
  | next t =>
    rw [step]
    rw [OwnReply] at own
    cases current : s.threads[t]? with
    | none => exact tidy
    | some thread =>
      rw [current] at own
      show Tidy (advance pb enabled thread s).2.wire
      cases thread with
      | submits ref async userId client => exact tidy_submit tidy client userId ref
      | takes client pktId reply => exact tidy_take tidy own
      | sweeps userId errorCode => exact tidy_filter tidy _
      | cuts userId errorCode =>
        rw [advance]
        split
        · exact tidy
        · exact ⟨tidy.counted, tidy.unique, tidy.registered, tidy.routed⟩
      | idle | creates | checks | sets | aborts | deletes | completes => exact tidy
      | starts reqId userId outputs =>
        rw [advance]
        rcases s.table.startRequest reqId with ⟨error | ⟨async, ref⟩, table⟩
        · exact tidy
        · exact tidy
      | startsToken reqId =>
        rw [advance]
        rcases s.table.startRequest reqId with ⟨error | ⟨async, ref⟩, table⟩
        · exact tidy
        · exact tidy
      | looksUp ref async userId outputs =>
        rw [advance]
        split
        · exact tidy
        · exact tidy
      | finishes ref async =>
        rw [advance]
        split
        · exact tidy
        · split
          · exact tidy
          · exact tidy
      | finds reqId waiting =>
        rw [advance]
        split
        · exact tidy
        · exact tidy
      | waits ref =>
        rw [advance]
        split
        · exact tidy
        · exact tidy
      | polls ref =>
        rw [advance]
        split
        · exact tidy
        · exact tidy

theorem unaffected_of_tidy {s : State} (tidy : Tidy s.wire) : Unaffected s := by
  intro found routed packet sent client pktId new old newAt oldAt got
  have same := tidy.unique packet sent found (tidy.routed found routed) client pktId
  rw [same, newAt, Option.some.injEq] at oldAt
  exact Nat.lt_irrefl _ (oldAt ▸ got.2.1)

/-! ## Whole runs -/

theorem sound_start_state (threads : Nat) : Sound (start threads).table where
  reported := fun _ member => absurd member List.not_mem_nil
  written := fun _ member => absurd member List.not_mem_nil
  apart := fun _ member => absurd member List.not_mem_nil
  rowSerial := fun _ member => absurd member List.not_mem_nil
  ctxSerial := fun _ _ found => by cases found
  own := fun _ _ found => by cases found
  dead := fun _ _ found => by cases found
  marked := fun _ member => absurd member List.not_mem_nil
  deadSerial := fun _ member => absurd member List.not_mem_nil

theorem tidy_start_state (threads : Nat) : Tidy (start threads).wire where
  counted := fun _ member => absurd member List.not_mem_nil
  unique := fun _ member => absurd member List.not_mem_nil
  registered := fun _ member => absurd member List.not_mem_nil
  routed := fun _ member => absurd member List.not_mem_nil

/-- In every run a request has one result at most, which polls and waits report, and its code is
written with success, in time and within its buffer. In every run whose replies find entries of
their own clients only, no reply to a deleted request finds one that got its id. -/
theorem auth_requests_lawful (pb : ShadNetProto) (enabled : Bool) (threads : Nat)
    (ops : List Op) :
    Throughout (step pb enabled) (fun s => Consistent s.table)
        (fun _ s s' => Lawful s.table s'.table) ops (start threads) ∧
      (Admitted (step pb enabled) OwnReply ops (start threads) →
        Throughout (step pb enabled) Unaffected (fun _ _ _ => True) ops (start threads)) := by
  constructor
  · refine throughout_of_admitted (fun (s : State) (sound : Sound s.table) => sound.toConsistent)
      (fun op (s : State) (sound : Sound s.table) _ => step_kept pb enabled op sound)
      (sound_start_state threads) (admitted_always (fun _ _ => trivial) ops _)
  · refine throughout_of_admitted (fun (s : State) (tidy : Tidy s.wire) => unaffected_of_tidy tidy)
      (fun op (s : State) (tidy : Tidy s.wire) own => ⟨tidy_step pb enabled op tidy own, trivial⟩)
      (tidy_start_state threads)

/-! ### A reply to a deleted request -/

def codeProto : ShadNetProto :=
  { boardInfo := fun _ => none
    getScoreResponse := fun _ => none
    tusVariableResponse := fun _ => none
    tusDataStatusResponse := fun _ => none
    tusGetDataResponse := fun _ => none
    tssGetDataResponse := fun _ => none
    authorizationCode := fun body => if body = [0x0a, 1, 65] then some [65] else none
    syncTrophiesReply := fun _ => none }

def asking (reqId userId : Int) : List Op :=
  [.begin 0 (.getAuthorizationCode reqId userId { authCode := some userId.toNat }),
    .next 0, .next 0, .next 0, .next 0, .next 0]

def replying (client : Nat) : List Op :=
  [.begin 1 (.onAuthReply client 1
      ⟨.getAuthorizationCode, .noError, [3, 0, 0, 0, 0x0a, 1, 65]⟩), .next 1, .next 1]

/-- The first packets of two users have one number, so the second is not registered. Its request
is deleted when the first reply has come, and a third user gets its id and the same number. -/
def deletedAnswered : List Op :=
  [.connect 1, .connect 2, .connect 3, .begin 0 (.createRequest true), .next 0,
    .begin 0 (.createRequest true), .next 0] ++
  asking (requestIdOffset + 1) 1 ++ asking (requestIdOffset + 2) 2 ++ replying 0 ++
  [.begin 0 (.deleteRequest (requestIdOffset + 2)), .next 0,
    .begin 0 (.createRequest true), .next 0] ++
  asking (requestIdOffset + 2) 3 ++ replying 1

/-- The new request is given the code that was meant for the deleted one. -/
theorem deleted_reply_taken_for_new : ¬∀ (pb : ShadNetProto) (enabled : Bool) (threads : Nat)
    (ops : List Op), Unaffected (run (step pb enabled) ops (start threads)) := by
  intro always
  let last := run (step codeProto true) deletedAnswered (start 2)
  have unaffected : Unaffected last := always codeProto true 2 deletedAnswered
  have found : ⟨1, 1, 2⟩ ∈ last.wire.routed := by decide +kernel
  have packet : ⟨1, 1, 1⟩ ∈ last.wire.sent := by decide +kernel
  let new : AuthRequestCtx :=
    ⟨some orbisOk, { authCode := some 3 }, requestIdOffset + 2, 2⟩
  let old : AuthRequestCtx :=
    ⟨some authAborted, { authCode := some 2 }, requestIdOffset + 2, 1⟩
  have newAt : last.table.ctxs[2]? = some new := by decide +kernel
  have oldAt : last.table.ctxs[1]? = some old := by decide +kernel
  have deleted : 1 ∈ last.table.deleted := by decide +kernel
  exact unaffected _ found _ packet rfl rfl new old newAt oldAt ⟨rfl, by decide, deleted⟩

end NpAuth
