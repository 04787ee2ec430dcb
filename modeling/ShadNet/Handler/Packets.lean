import ShadNet.Handler.Aborted

/-!
# Packets, entries and replies

Few sections touch the packets that were sent, the entries that wait for replies
or the replies in hand. `Offstage` says so of all the others at once.
-/

namespace NpHandler

open LockProgram HandlerState

/-! ## Sections that touch no packet -/

/-- No packet, entry or reply is touched, and what has been begun keeps its result. -/
structure Offstage (s t : HandlerState) : Prop where
  sent : t.sent = s.sent
  submitting : t.submitting = s.submitting
  superseded : t.superseded = s.superseded
  pending : t.pending = s.pending
  routed : t.routed = s.routed
  carried : t.carried = s.carried
  answered : t.answered = s.answered
  handled : t.handled = s.handled
  replyStores : t.replyStores = s.replyStores
  completed : t.completed = s.completed
  sweeping : t.sweeping = s.sweeping
  cuts : t.cuts = s.cuts
  begun : s.begun ⊆ t.begun
  result : ∀ ref ∈ s.begun, (s.result? ref).isSome → (t.result? ref).isSome

section Offstage

variable {pb : ShadNetProto} {i ref : Nat} {s t u : HandlerState}

theorem Offstage.refl (s : HandlerState) : Offstage s s := by
  constructor <;> first | rfl | exact fun _ h => h | exact fun _ _ h => h

theorem Offstage.trans (first : Offstage s t) (second : Offstage t u) : Offstage s u where
  sent := second.sent.trans first.sent
  submitting := second.submitting.trans first.submitting
  superseded := second.superseded.trans first.superseded
  pending := second.pending.trans first.pending
  routed := second.routed.trans first.routed
  carried := second.carried.trans first.carried
  answered := second.answered.trans first.answered
  handled := second.handled.trans first.handled
  replyStores := second.replyStores.trans first.replyStores
  completed := second.completed.trans first.completed
  sweeping := second.sweeping.trans first.sweeping
  cuts := second.cuts.trans first.cuts
  begun _ member := second.begun (first.begun member)
  result ref begun held := second.result ref (first.begun begun) (first.result ref begun held)

theorem Offstage.foldl {α : Type} {f : HandlerState → α → HandlerState}
    (each : ∀ s a, Offstage s (f s a)) (items : List α) (s : HandlerState) :
    Offstage s (items.foldl f s) := by
  induction items generalizing s with
  | nil => exact Offstage.refl s
  | cons a rest ih => exact (each s a).trans (ih (f s a))

theorem offstage_setResult (ref : Nat) (r : Outcome) : Offstage s (setResult ref r s) :=
  { Offstage.refl s with result := (calm_setResult ref r).result }

theorem Quiet.offstage (quiet : Quiet s t) : Offstage s t := by
  have same := quiet.same
  have kept := quiet.calm
  constructor
  case begun => exact kept.begun
  case result => exact kept.result
  all_goals rw [same]

theorem offstage_addRequest (sound : Sound s) (titleCtxId : Nat) :
    Offstage s (NpScore.addRequest titleCtxId s).2 := by
  have kept := calm_addRequest sound titleCtxId
  rcases addRequest_cases titleCtxId s with refused | ⟨ctx, -, -, -, added⟩
  · rw [refused]
    exact Offstage.refl s
  · rw [added] at kept ⊢
    exact { Offstage.refl s with result := kept.result }

theorem offstage_markBegun (call ref : Nat) : Offstage s (markBegun call ref s) :=
  { Offstage.refl s with begun := List.subset_append_left _ _ }

theorem offstage_newObject (sound : Sound s) (request : RequestId) :
    Offstage s (newObject i request s).2 :=
  { Offstage.refl s with result := (calm_newObject sound request).result }

theorem offstage_beginTus (sound : Sound s) (reqId : Nat) :
    Offstage s (beginTus i reqId s).2 := by
  have assigned : Offstage s (assign reqId s.nextRef (newObject i ⟨.tus, reqId⟩ s).2) :=
    { offstage_newObject sound ⟨.tus, reqId⟩ with }
  rw [beginTus_eq]
  exact assigned.trans (offstage_markBegun i s.nextRef)

theorem offstage_beginOwn (sound : Sound s) (library : Library) :
    Offstage s (beginOwn i library s).2 :=
  (offstage_newObject sound ⟨library, i⟩).trans (offstage_markBegun i s.nextRef)

theorem offstage_started (call ref : Nat) : Offstage s (started call ref s) :=
  { Offstage.refl s with }

theorem offstage_finish (call ref : Nat) (r : Int) : Offstage s (finish call ref r s) :=
  (offstage_setResult ref ⟨r, some call⟩).trans (offstage_started call ref)

theorem offstage_fakeAsyncComplete (sound : Sound s) (reqId : Nat) :
    Offstage s (fakeAsyncComplete i reqId s).2 := by
  rcases fakeAsyncComplete_cases i reqId s with refused | done
  · rw [refused]
    exact Offstage.refl s
  · rw [done]
    exact (offstage_beginTus sound reqId).trans (offstage_finish i s.nextRef orbisOk)

theorem offstage_kill (request : RequestId) (found : Option Nat) (aborted : Int) :
    Offstage s (kill request found aborted s) := by
  have ended := Offstage.foldl (fun s ref => offstage_setResult (s := s) ref ⟨aborted, none⟩)
    found.toList s
  exact { ended with }

theorem offstage_eraseRequest (request : RequestId) : Offstage s (eraseRequest request s) := by
  rw [eraseRequest]
  split <;> exact { Offstage.refl s with }

theorem offstage_killAndErase (request : RequestId) : Offstage s (killAndErase request s) :=
  (offstage_kill request _ _).trans (offstage_eraseRequest request)

theorem offstage_deleteRequest (request : RequestId) :
    Offstage s (deleteRequest request s).2 := by
  rw [deleteRequest]
  split
  · exact offstage_killAndErase request
  · exact Offstage.refl s

theorem offstage_deleteTitle (library : Library) (titleId : Nat) :
    Offstage s (deleteTitle library titleId s).2 := by
  rw [deleteTitle]
  split
  · have ended := Offstage.foldl (fun s request => offstage_killAndErase (s := s) request)
      (requestsOfTitle library titleId s) s
    refine ended.trans ?_
    cases library <;> exact { Offstage.refl _ with }
  · exact Offstage.refl s

/-- The sections that have to do with packets. -/
def Section.onstage : Section → Bool
  | .begin _ request => request.library = .score
  | .submit .. | .register .. | .take .. | .store .. | .complete .. | .disconnect ..
  | .sweep .. => true
  | _ => false

theorem Step.offstage {label : Section} {update : HandlerState → HandlerState}
    (step : Step pb i s label update) (sound : Sound s) (off : label.onstage = false) :
    Offstage s (update s) := by
  cases step with
  | quiet quiet => exact quiet.offstage
  | connect userId npId accountId => exact { Offstage.refl s with }
  | createScore titleCtxId => exact offstage_addRequest sound titleCtxId
  | beginTus reqId => exact offstage_beginTus sound reqId
  | beginOwn library => exact offstage_beginOwn sound library
  | fake reqId => exact offstage_fakeAsyncComplete sound reqId
  | finish ref r => exact offstage_finish i ref r
  | rejectComment ref => exact offstage_started i ref
  | submitFailed ref => exact offstage_started i ref
  | prepare r => exact { Offstage.refl s with }
  | abort request found => exact offstage_kill request found communityAborted
  | delete request => exact offstage_deleteRequest request
  | deleteTitle library titleId => exact offstage_deleteTitle library titleId
  | _ => cases off

end Offstage

/-! ## Packets on their way -/

/-- What a packet is known by: the client it went out on, and its number there. -/
def Submission.packet (submission : Submission) : Nat × Nat :=
  (submission.client, submission.pktId)

/-- The reply to the packet goes by one of the maps that are watched. -/
def Submission.watched (watched : Family → Bool) (submission : Submission) : Bool :=
  submission.message.cmd.family?.any watched

/-- The server answers packets that were sent, each once, on its client and with its command. -/
def AnsweredOnce : Section → HandlerState → Prop
  | .take _ client family pktId _, s => (client, pktId) ∉ s.answered ∧
    ∃ submission ∈ s.sent, submission.packet = (client, pktId) ∧
      submission.message.cmd.family? = some family
  | _, _ => True

/-- In a watched map every entry finds the number of its packet free; no reply is read before the
entry of its packet is in the map, and none finds the entry of another client. -/
def InTurn (watched : Family → Bool) : Section → HandlerState → Prop
  | .submit _ id family _, s => family = .auth → watched .auth = true →
    ∀ client ∈ s.client? id, s.pending? .auth client.pktCounter = none
  | .register entry, s => watched entry.family = true →
    s.pending? entry.family entry.pktId = none
  | .take _ client family pktId _, s => watched family = true →
    (∀ submission ∈ s.submitting, submission.packet ≠ (client, pktId)) ∧
      ∀ entry ∈ s.pending? family pktId, entry.client = client
  | _, _ => True

/-- The request has a result, or its packet is still to be answered and a reply will find the
entry, or the reply is in hand. -/
def Accounted (submission : Submission) (s : HandlerState) : Prop :=
  (s.result? submission.req).isSome ∨
    (submission.packet ∉ s.answered ∧
      (submission ∈ s.submitting ∨ ∃ entry ∈ s.pending, entry.From submission)) ∨
    submission.packet ∉ s.handled ∧
      ∃ r ∈ s.routed, (r.client, r.pktId) = submission.packet ∧ r.entry.req = submission.req ∧
        (r.call, submission.req) ∈ s.carried

/-- Every packet is accounted for, unless its request was begun again. -/
structure Tracked (watched : Family → Bool) (s : HandlerState) : Prop where
  known : ∀ submission ∈ s.sent, submission.req ∈ s.begun
  counted : ∀ submission ∈ s.sent, ∃ client, s.client? submission.client = some client ∧
    submission.pktId < client.pktCounter
  distinct : KeyedTable.Distinct Submission.packet s.sent
  outstanding : ∀ submission ∈ s.submitting, submission ∈ s.sent ∧
    (submission.watched watched = true → submission.packet ∉ s.answered)
  registered : ∀ entry ∈ s.pending, ∃ submission ∈ s.sent, entry.From submission
  asked : ∀ packet ∈ s.answered, ∃ submission ∈ s.sent, submission.packet = packet
  routed : ∀ r ∈ s.routed, (r.client, r.pktId) ∈ s.answered ∧ r.entry.key = (r.family, r.pktId)
  once : ∀ r ∈ s.routed, ∀ r' ∈ s.routed, (r.client, r.pktId) = (r'.client, r'.pktId) → r = r'
  home : ∀ r ∈ s.routed, watched r.family = true →
    ∃ submission ∈ s.sent, r.entry.From submission ∧ submission.client = r.client
  handled : ∀ packet ∈ s.handled, packet ∈ s.answered
  accounted : ∀ submission ∈ s.sent, submission.watched watched = true →
    submission ∉ s.superseded → Accounted submission s

section Tracked

variable {pb : ShadNetProto} {watched : Family → Bool} {i ref : Nat} {s t : HandlerState}

theorem PendingRequest.From.packet {entry : PendingRequest} {submission : Submission}
    (registers : entry.From submission) : (entry.client, entry.pktId) = submission.packet := by
  rw [Submission.packet, registers.client, registers.pktId]

theorem PendingRequest.From.watches {entry : PendingRequest} {submission : Submission}
    (registers : entry.From submission) :
    submission.watched watched = watched entry.family := by
  rw [Submission.watched, ← registers.cmd, registers.family]
  rfl

theorem Tracked.same (tracked : Tracked watched s) {first second : Submission}
    (member : first ∈ s.sent) (member' : second ∈ s.sent)
    (equal : first.packet = second.packet) : first = second :=
  tracked.distinct.eq_of_key member member' equal

/-- What the accounts go by is the same, and results only come. -/
theorem Accounted.mono {submission : Submission} (accounted : Accounted submission s)
    (submitting : t.submitting = s.submitting) (pending : t.pending = s.pending)
    (routed : t.routed = s.routed) (carried : t.carried = s.carried)
    (answered : t.answered = s.answered) (handled : t.handled = s.handled)
    (result : (s.result? submission.req).isSome → (t.result? submission.req).isSome) :
    Accounted submission t := by
  rw [Accounted, submitting, pending, routed, carried, answered, handled]
  rcases accounted with held | rest
  · exact Or.inl (result held)
  · exact Or.inr rest

theorem Offstage.tracked (offstage : Offstage s t) (grows : Grows s t)
    (tracked : Tracked watched s) : Tracked watched t := by
  constructor
  · rw [offstage.sent]
    exact fun submission member => offstage.begun (tracked.known submission member)
  · rw [offstage.sent]
    intro submission member
    obtain ⟨client, found, below⟩ := tracked.counted submission member
    obtain ⟨later, found', le⟩ := grows.client _ client found
    exact ⟨later, found', by omega⟩
  · rw [offstage.sent]
    exact tracked.distinct
  · rw [offstage.submitting, offstage.sent, offstage.answered]
    exact tracked.outstanding
  · rw [offstage.pending, offstage.sent]
    exact tracked.registered
  · rw [offstage.answered, offstage.sent]
    exact tracked.asked
  · rw [offstage.routed, offstage.answered]
    exact tracked.routed
  · rw [offstage.routed]
    exact tracked.once
  · rw [offstage.routed, offstage.sent]
    exact tracked.home
  · rw [offstage.handled, offstage.answered]
    exact tracked.handled
  · rw [offstage.sent, offstage.superseded]
    intro submission member watching current
    exact (tracked.accounted submission member watching current).mono offstage.submitting
      offstage.pending offstage.routed offstage.carried offstage.answered offstage.handled
      (offstage.result submission.req (tracked.known submission member))

/-! ### Beginning again -/

/-- The packets sent before are superseded; those of other objects are where they were. -/
theorem tracked_rebegin (tracked : Tracked watched s) (call ref : Nat) :
    Tracked watched (rebegin call ref s) := by
  refine { tracked with accounted := ?_ }
  intro submission member watching current
  have listed : submission ∉ s.superseded ∧ submission.req ≠ ref := by
    constructor
    · exact fun old => current (List.mem_append_left _ old)
    · intro same
      exact current (List.mem_append_right _ (List.mem_filter.mpr ⟨member, by simpa using same⟩))
  refine (tracked.accounted submission member watching listed.1).mono rfl rfl rfl rfl rfl rfl ?_
  intro held
  rwa [result?_eq, holding?_rebegin_other listed.2, ← result?_eq]

theorem tracked_beginScore (tracked : Tracked watched s) (reqId : Nat) :
    Tracked watched (beginScore i reqId s).2 := by
  rcases beginScore_cases i reqId s with ⟨error, refused⟩ | ⟨ref, -, -, begun⟩
  · rw [refused]
    exact tracked
  · rw [begun]
    exact (offstage_markBegun i ref).tracked (moves_markBegun (i := i)).2
      (tracked_rebegin tracked i ref)

/-! ### Submission and registration -/

theorem Tracked.fresh (tracked : Tracked watched s) {id : Nat} {client : ShadNetClient}
    (found : s.client? id = some client) :
    ∀ submission ∈ s.sent, submission.packet ≠ (id, client.pktCounter) := by
  intro submission member same
  obtain ⟨known, found', below⟩ := tracked.counted submission member
  obtain ⟨named, number⟩ := Prod.mk.inj same
  rw [named, found] at found'
  obtain rfl := Option.some.inj found'
  omega

theorem tracked_submitRequest (tracked : Tracked watched s) {id : Nat}
    (connected : (s.client? id).isSome) (message : Message) (known : ref ∈ s.begun) :
    Tracked watched (submitRequest i id message ref s).2 := by
  obtain ⟨client, found⟩ := Option.isSome_iff_exists.mp connected
  rw [submitRequest_eq found]
  have fresh := tracked.fresh found
  have unasked : (id, client.pktCounter) ∉ s.answered := by
    intro answered
    obtain ⟨submission, member, same⟩ := tracked.asked _ answered
    exact fresh submission member same
  have later : ∀ submission ∈ s.sent ++ [⟨i, id, message, client.pktCounter, ref⟩],
      submission ∈ s.sent ∨ submission = ⟨i, id, message, client.pktCounter, ref⟩ :=
    fun submission member => by simpa using member
  constructor
  · intro submission member
    rcases later submission member with old | rfl
    · exact tracked.known submission old
    · exact known
  · intro submission member
    have counter : ∀ other, (noted ⟨i, id, message, client.pktCounter, ref⟩
        (counted id s)).client? other = (counted id s).client? other := fun _ => rfl
    rw [counter, client?_counted]
    rcases later submission member with old | rfl
    · obtain ⟨known, found', below⟩ := tracked.counted submission old
      rw [found']
      refine ⟨_, rfl, ?_⟩
      dsimp only
      split
      · exact Nat.lt_succ_of_lt below
      · exact below
    · rw [found]
      refine ⟨_, rfl, ?_⟩
      dsimp only
      rw [if_pos (KeyedTable.lookup_some found).2]
      exact Nat.lt_succ_self _
  · rw [KeyedTable.Distinct, noted]
    simp only [List.map_append, List.map_singleton, List.nodup_append]
    refine ⟨tracked.distinct, by simp, ?_⟩
    rintro packet listed other only equal
    obtain ⟨submission, member, rfl⟩ := List.mem_map.mp listed
    exact fresh submission member (equal.trans (List.mem_singleton.mp only))
  · intro submission member
    rcases List.mem_append.mp member with old | new
    · obtain ⟨sent, unanswered⟩ := tracked.outstanding submission old
      exact ⟨List.mem_append_left _ sent, unanswered⟩
    · obtain rfl := List.mem_singleton.mp new
      exact ⟨List.mem_append_right _ (List.mem_singleton_self _), fun _ => unasked⟩
  · intro entry member
    obtain ⟨submission, sent, registers⟩ := tracked.registered entry member
    exact ⟨submission, List.mem_append_left _ sent, registers⟩
  · intro packet member
    obtain ⟨submission, sent, same⟩ := tracked.asked packet member
    exact ⟨submission, List.mem_append_left _ sent, same⟩
  · exact tracked.routed
  · exact tracked.once
  · intro r member watching
    obtain ⟨submission, sent, own⟩ := tracked.home r member watching
    exact ⟨submission, List.mem_append_left _ sent, own⟩
  · exact tracked.handled
  · intro submission member watching current
    rcases later submission member with old | rfl
    · rcases tracked.accounted submission old watching current with
        held | ⟨unanswered, submitting | entered⟩ | carried
      · exact Or.inl held
      · exact Or.inr (Or.inl ⟨unanswered, Or.inl (List.mem_append_left _ submitting)⟩)
      · exact Or.inr (Or.inl ⟨unanswered, Or.inr entered⟩)
      · exact Or.inr (Or.inr carried)
    · exact Or.inr (Or.inl ⟨unasked, Or.inl (List.mem_append_right _ (List.mem_singleton_self _))⟩)

theorem tracked_register (tracked : Tracked watched s) {entry : PendingRequest}
    {submission : Submission} (outstanding : submission ∈ s.submitting)
    (only : ∀ other ∈ s.submitting, other.call = entry.call → other = submission)
    (registers : entry.From submission)
    (free : watched entry.family = true → s.pending? entry.family entry.pktId = none) :
    Tracked watched (register entry s) := by
  have sent := (tracked.outstanding submission outstanding).1
  have grown : ∀ other ∈ s.pending, other ∈ (entered entry s).pending := by
    intro other member
    rcases pending_entered entry s with ⟨-, same⟩ | ⟨-, added⟩
    · rwa [same]
    · rw [added]
      exact List.mem_append_left _ member
  have entries : ∀ other ∈ (entered entry s).pending, other ∈ s.pending ∨ other = entry := by
    intro other member
    rcases pending_entered entry s with ⟨-, same⟩ | ⟨-, added⟩
    · rw [same] at member
      exact Or.inl member
    · rw [added] at member
      simpa using member
  suffices into : Tracked watched (entered entry s) from
    (offstage_started entry.call entry.req).tracked (moves_started (i := entry.call)).2 into
  refine { tracked with outstanding := ?_, registered := ?_, accounted := ?_ }
  · intro other member
    exact tracked.outstanding other (List.mem_of_mem_filter member)
  · intro other member
    rcases entries other member with old | rfl
    · exact tracked.registered other old
    · exact ⟨submission, sent, registers⟩
  · intro other member watching current
    rcases tracked.accounted other member watching current with
      held | ⟨unanswered, submitting | ⟨old, listed, named⟩⟩ | carried
    · exact Or.inl held
    · refine Or.inr (Or.inl ⟨unanswered, ?_⟩)
      by_cases ours : other = submission
      · subst ours
        -- the number was free, so the entry went in
        have placed : entry ∈ (entered entry s).pending := by
          rcases pending_entered entry s with ⟨taken, -⟩ | ⟨-, added⟩
          · rw [registers.watches] at watching
            rw [free watching] at taken
            cases taken
          · rw [added]
            exact List.mem_append_right _ (List.mem_singleton_self _)
        exact Or.inr ⟨entry, placed, registers⟩
      · left
        refine List.mem_filter.mpr ⟨submitting, ?_⟩
        have apart : other.call ≠ entry.call := fun same => ours (only other submitting same)
        simpa using apart
    · exact Or.inr (Or.inl ⟨unanswered, Or.inr ⟨old, grown old listed, named⟩⟩)
    · exact Or.inr (Or.inr carried)

/-- The submission that a thread has under way is the only one of its number. -/
theorem submitting_of_marks {starting : List (Nat × Nat)} {submission : Submission}
    (marked : marks i s = { starting, submitting := [submission] }) :
    submission ∈ s.submitting ∧
      ∀ other ∈ s.submitting, other.call = i → other = submission := by
  have listed := (marks_of_eq marked).2.1
  constructor
  · have member : submission ∈ s.submitting.filter (fun other => decide (other.call = i)) := by
      rw [listed]
      exact List.mem_singleton_self _
    exact List.mem_of_mem_filter member
  · intro other member own
    have kept : other ∈ s.submitting.filter (fun other => decide (other.call = i)) :=
      List.mem_filter.mpr ⟨member, by simpa using own⟩
    rw [listed] at kept
    exact List.mem_singleton.mp kept

theorem tracked_submitAuth (tracked : Tracked watched s) {id : Nat}
    (begun : Started i ref .auth s) (connected : (s.client? id).isSome) (known : ref ∈ s.begun)
    {message : Message} (routes : message.cmd.family? = some .auth) (userId : Int)
    (outputs : Outputs) (permitted : InTurn watched (.submit i id .auth ref) s) :
    Tracked watched (submitAuth i ref id userId message outputs s) := by
  have sent := tracked_submitRequest (i := i) tracked connected message known
  obtain ⟨client, found⟩ := Option.isSome_iff_exists.mp connected
  simp only [submitAuth]
  rw [submitRequest_eq found] at sent ⊢
  let submission : Submission := ⟨i, id, message, client.pktCounter, ref⟩
  have own : submission.call = i := rfl
  have marked := marks_noted (s := counted id s) own begun.marked
  obtain ⟨outstanding, only⟩ := submitting_of_marks marked
  refine tracked_register sent outstanding only ?_ ?_
  · exact ⟨rfl, rfl, rfl, rfl, rfl, routes⟩
  · intro watching
    exact permitted rfl watching client found

/-! ### Replies -/

/-- The entry of a packet is the one that its reply finds. -/
theorem found_of_registered (sound : Sound s) {entry : PendingRequest}
    {submission : Submission} {family : Family} {pktId : Nat} (member : entry ∈ s.pending)
    (registers : entry.From submission) (number : submission.pktId = pktId)
    (routes : submission.message.cmd.family? = some family) :
    s.pending? family pktId = some entry := by
  have key : entry.key = (family, pktId) := by
    rw [← registers.cmd, registers.family] at routes
    rw [PendingRequest.key, Option.some.inj routes, registers.pktId, number]
  have found := sound.distinct.lookup_of_mem member
  rwa [key] at found

theorem not_mem_concat {α : Type} {a b : α} {items : List α} (before : a ∉ items)
    (other : a ≠ b) : a ∉ items ++ [b] := by
  intro member
  rcases List.mem_append.mp member with old | new
  · exact before old
  · exact other (List.mem_singleton.mp new)

/-- What is known of the packet whose reply is read. -/
structure Asked (asked : Submission) (client : Nat) (family : Family) (pktId : Nat)
    (s : HandlerState) : Prop where
  sent : asked ∈ s.sent
  packet : asked.packet = (client, pktId)
  routes : asked.message.cmd.family? = some family
  once : (client, pktId) ∉ s.answered

section Asked

variable {question : Submission} {client : Nat} {family : Family} {pktId : Nat}
  (ask : Asked question client family pktId s) (tracked : Tracked watched s)

include ask tracked

theorem Asked.unique {submission : Submission} (member : submission ∈ s.sent)
    (same : submission.packet = (client, pktId)) : submission = question :=
  tracked.same member ask.sent (same.trans ask.packet.symm)

theorem Asked.asked : ∀ packet ∈ s.answered ++ [(client, pktId)],
    ∃ submission ∈ s.sent, submission.packet = packet := by
  intro packet member
  rcases List.mem_append.mp member with old | new
  · exact tracked.asked packet old
  · rw [List.mem_singleton.mp new]
    exact ⟨_, ask.sent, ask.packet⟩

theorem Asked.outstanding
    (registered : watched family = true →
      ∀ submission ∈ s.submitting, submission.packet ≠ (client, pktId)) :
    ∀ submission ∈ s.submitting, submission ∈ s.sent ∧ (submission.watched watched = true →
      submission.packet ∉ s.answered ++ [(client, pktId)]) := by
  intro submission member
  obtain ⟨sent, before⟩ := tracked.outstanding submission member
  refine ⟨sent, ?_⟩
  intro watching
  refine not_mem_concat (before watching) ?_
  intro same
  rw [ask.unique tracked sent same, Submission.watched, ask.routes] at watching
  exact registered watching submission member same

theorem Asked.routed {r : Routed} (routed : r ∈ s.routed) :
    (r.client, r.pktId) ≠ (client, pktId) :=
  fun same => ask.once (same ▸ (tracked.routed r routed).1)

theorem Asked.unhandled : (client, pktId) ∉ s.handled :=
  fun done => ask.once (tracked.handled _ done)

/-- A reply that finds nothing was to a packet whose request has a result. -/
theorem tracked_missed (sound : Sound s)
    (registered : watched family = true →
      ∀ submission ∈ s.submitting, submission.packet ≠ (client, pktId))
    (missing : s.pending? family pktId = none) : Tracked watched (missed client pktId s) := by
  have outstanding := ask.outstanding tracked registered
  refine { tracked with
    outstanding := outstanding
    asked := ask.asked tracked
    routed := ?_
    handled := ?_
    accounted := ?_ }
  · intro r member
    obtain ⟨old, key⟩ := tracked.routed r member
    exact ⟨List.mem_append_left _ old, key⟩
  · intro packet member
    rcases List.mem_append.mp member with old | new
    · exact List.mem_append_left _ (tracked.handled packet old)
    · exact List.mem_append_right _ new
  · intro submission member watching current
    rcases tracked.accounted submission member watching current with
      held | ⟨before, waiting⟩ | ⟨unhandled, r, routed, same, rest⟩
    · exact Or.inl held
    · refine Or.inr (Or.inl ⟨not_mem_concat before ?_, waiting⟩)
      intro same
      obtain rfl := ask.unique tracked member same
      rcases waiting with submitting | ⟨entry, listed, registers⟩
      · have after := (outstanding submission submitting).2 watching
        exact after (List.mem_append_right _ (List.mem_singleton.mpr same))
      · have number : submission.pktId = pktId := congrArg Prod.snd same
        rw [found_of_registered sound listed registers number ask.routes] at missing
        cases missing
    · refine Or.inr (Or.inr ⟨not_mem_concat unhandled ?_, r, routed, same, rest⟩)
      rw [← same]
      exact ask.routed tracked routed

/-- The reply now carries the entry of its packet. -/
theorem tracked_taken (sound : Sound s) {call : Nat} {reply : Reply} {entry : PendingRequest}
    (registered : watched family = true →
      ∀ submission ∈ s.submitting, submission.packet ≠ (client, pktId))
    (home : watched family = true → entry.client = client)
    (found : s.pending? family pktId = some entry) :
    Tracked watched (taken call client family pktId reply entry s) := by
  obtain ⟨listed, key⟩ := KeyedTable.lookup_some found
  have outstanding := ask.outstanding tracked registered
  have entryFamily : entry.family = family := congrArg Prod.fst key
  have entryNumber : entry.pktId = pktId := congrArg Prod.snd key
  have routedCases : ∀ r ∈ (taken call client family pktId reply entry s).routed,
      r ∈ s.routed ∨ r = ⟨call, client, family, pktId, reply, entry⟩ := by
    intro r member
    simpa [taken] using member
  refine { tracked with
    outstanding := outstanding
    registered := ?_
    asked := ask.asked tracked
    routed := ?_
    once := ?_
    home := ?_
    handled := fun packet member => List.mem_append_left _ (tracked.handled packet member)
    accounted := ?_ }
  · intro other member
    exact tracked.registered other (KeyedTable.mem_remove.mp member).1
  · intro r member
    rcases routedCases r member with old | rfl
    · obtain ⟨before, named⟩ := tracked.routed r old
      exact ⟨List.mem_append_left _ before, named⟩
    · exact ⟨List.mem_append_right _ (List.mem_singleton_self _), key⟩
  · intro r member r' member' same
    rcases routedCases r member with old | rfl
    · rcases routedCases r' member' with old' | rfl
      · exact tracked.once r old r' old' same
      · exact absurd same (ask.routed tracked old)
    · rcases routedCases r' member' with old' | rfl
      · exact absurd same.symm (ask.routed tracked old')
      · rfl
  · intro r member watching
    rcases routedCases r member with old | rfl
    · exact tracked.home r old watching
    · obtain ⟨submission, sent, registers⟩ := tracked.registered entry listed
      exact ⟨submission, sent, registers, registers.client.symm.trans (home watching)⟩
  · intro submission member watching current
    rcases tracked.accounted submission member watching current with
      held | ⟨before, waiting⟩ | ⟨unhandled, r, routed, same, named, carried⟩
    · exact Or.inl held
    · by_cases ours : submission.packet = (client, pktId)
      · obtain rfl := ask.unique tracked member ours
        rcases waiting with submitting | ⟨other, listed', registers⟩
        · have after := (outstanding submission submitting).2 watching
          exact absurd (List.mem_append_right _ (List.mem_singleton.mpr ours)) after
        · have number : submission.pktId = pktId := congrArg Prod.snd ours
          have same := found_of_registered sound listed' registers number ask.routes
          obtain rfl : entry = other := Option.some.inj (found.symm.trans same)
          have unhandled : submission.packet ∉ s.handled := ours ▸ ask.unhandled tracked
          refine Or.inr (Or.inr ⟨unhandled, _,
            List.mem_append_right _ (List.mem_singleton_self _), ours.symm, registers.req, ?_⟩)
          rw [← registers.req]
          exact List.mem_append_right _ (List.mem_singleton_self _)
      · have after := not_mem_concat before ours
        rcases waiting with submitting | ⟨other, listed', registers⟩
        · exact Or.inr (Or.inl ⟨after, Or.inl submitting⟩)
        · by_cases gone : other.key = (family, pktId)
          · -- the entry that was found is that of its own client
            obtain rfl := sound.distinct.eq_of_key listed listed' (key.trans gone.symm)
            rw [registers.watches, entryFamily] at watching
            refine absurd ?_ ours
            rw [← registers.packet, home watching, entryNumber]
          · exact Or.inr (Or.inl ⟨after, Or.inr
              ⟨other, KeyedTable.mem_remove.mpr ⟨listed', gone⟩, registers⟩⟩)
    · exact Or.inr (Or.inr ⟨unhandled, r, List.mem_append_left _ routed, same, named,
        List.mem_append_left _ carried⟩)

end Asked

theorem tracked_takePending (tracked : Tracked watched s) (sound : Sound s) {client : Nat}
    {family : Family} {pktId : Nat} {reply : Reply}
    (answered : AnsweredOnce (.take i client family pktId reply) s)
    (inTurn : InTurn watched (.take i client family pktId reply) s) :
    Tracked watched (takePending i client family pktId reply s).2 := by
  obtain ⟨once, asked, sent, packet, routes⟩ := answered
  have ask : Asked asked client family pktId s := ⟨sent, packet, routes, once⟩
  have registered := fun watching => (inTurn watching).1
  rcases takePending_cases i client family pktId reply s with
    ⟨missing, none_⟩ | ⟨entry, found, some_⟩
  · rw [none_]
    exact tracked_missed ask tracked sound registered missing
  · rw [some_]
    exact tracked_taken ask tracked sound registered
      (fun watching => (inTurn watching).2 entry found) found

/-- The reply gives its request a result, and its packet is handled. -/
theorem tracked_complete (tracked : Tracked watched s) (sound : Sound s) {r : Routed}
    (routed : r ∈ s.routed) (result : Int) :
    Tracked watched (complete i r.client r.entry result s) := by
  have given := offstage_setResult (s := s) r.entry.req ⟨result, some r.entry.call⟩
  have number : r.entry.pktId = r.pktId := congrArg Prod.snd (tracked.routed r routed).2
  refine { tracked with counted := ?_, handled := ?_, accounted := ?_ }
  · exact tracked.counted
  · intro packet member
    rcases List.mem_append.mp member with old | new
    · exact tracked.handled packet old
    · rw [List.mem_singleton.mp new, number]
      exact (tracked.routed r routed).1
  · intro submission member watching current
    have known := tracked.known submission member
    have same : (complete i r.client r.entry result s).result? submission.req =
        (setResult r.entry.req ⟨result, some r.entry.call⟩ s).result? submission.req := rfl
    rcases tracked.accounted submission member watching current with
      held | waiting | ⟨unhandled, other, routed', packet, named, carried⟩
    · left
      rw [same]
      exact given.result submission.req known held
    · exact Or.inr (Or.inl waiting)
    · by_cases ours : submission.req = r.entry.req
      · left
        rw [same, ours]
        exact result?_setResult_self (ours ▸ sound.begun submission.req known)
      · refine Or.inr (Or.inr ⟨?_, other, routed', packet, named, ?_⟩)
        · intro now
          rcases List.mem_append.mp now with old | new
          · exact unhandled old
          · have equal := packet.trans (List.mem_singleton.mp new)
            rw [number] at equal
            obtain rfl := tracked.once other routed' r routed equal
            exact ours named.symm
        · refine List.mem_filter.mpr ⟨carried, ?_⟩
          simp [ours]

theorem tracked_completeAuth (tracked : Tracked watched s) (sound : Sound s) {r : Routed}
    (routed : r ∈ s.routed) (c : Completion) :
    Tracked watched (completeAuth i r.client r.entry c s) := by
  have stored : Tracked watched (setAuthorizationCode i r.entry.req c.stores s) ∧
      r ∈ (setAuthorizationCode i r.entry.req c.stores s).routed := by
    rw [setAuthorizationCode]
    split
    · exact ⟨tracked, routed⟩
    · exact ⟨{ tracked with }, routed⟩
  exact tracked_complete stored.1 ((shrinks_setAuthorizationCode i r.entry.req c.stores).sound sound)
    stored.2 c.result

/-! ### Disconnects -/

theorem tracked_removeSession (tracked : Tracked watched s) (userId : Int) :
    Tracked watched (removeSession i userId s).2 := by
  rw [removeSession]
  split <;> exact { tracked with }

/-- Entries that go have their requests failed. -/
theorem tracked_sweepPending (tracked : Tracked watched s) (sound : Sound s) (userId : Int)
    (family : Family) (errorCode : Int) :
    Tracked watched (sweepPending i userId family errorCode s) := by
  have failed := Offstage.foldl (fun s entry => offstage_setResult (s := s) entry.req
    ⟨errorCode, some entry.call⟩) (s.pending.filter (PendingRequest.of userId family)) s
  have silent := Silent.foldl (fun s entry => silent_setResult entry.req
    ⟨errorCode, some entry.call⟩ s) (s.pending.filter (PendingRequest.of userId family)) s
  have ended := failed.tracked silent.2 tracked
  have kept : ∀ entry ∈ (sweepPending i userId family errorCode s).pending,
      entry ∈ s.pending := by
    intro entry member
    rw [sweepPending, failed.pending] at member
    exact List.mem_of_mem_filter member
  refine { ended with registered := ?_, accounted := ?_ }
  · intro entry member
    have registered := tracked.registered entry (kept entry member)
    rwa [← failed.sent] at registered
  · intro submission member watching current
    rcases ended.accounted submission member watching current with
      held | ⟨unanswered, submitting | ⟨entry, listed, registers⟩⟩ | carried
    · exact Or.inl held
    · exact Or.inr (Or.inl ⟨unanswered, Or.inl submitting⟩)
    · by_cases ours : PendingRequest.of userId family entry
      · left
        rw [failed.pending] at listed
        have swept : entry ∈ s.pending.filter (PendingRequest.of userId family) :=
          List.mem_filter.mpr ⟨listed, ours⟩
        have known := sound.begun entry.req (sound.pending entry listed)
        rw [← registers.req]
        exact result?_foldl_sets (f := PendingRequest.req)
          (g := fun entry => ⟨errorCode, some entry.call⟩) swept known
      · refine Or.inr (Or.inl ⟨unanswered, Or.inr ⟨entry, ?_, registers⟩⟩)
        refine List.mem_filter.mpr ⟨listed, ?_⟩
        simpa using ours
    · exact Or.inr (Or.inr carried)

end Tracked

/-- A server that answers once, and threads and replies that go in turn. -/
def AnsweredInTurn (watched : Family → Bool) (label : Section) (s : HandlerState) : Prop :=
  AnsweredOnce label s ∧ InTurn watched label s

theorem keeps_tracked (pb : ShadNetProto) (watched : Family → Bool) :
    Keeps pb (Tracked watched) (AnsweredInTurn watched) := by
  rintro i s label update step sound tracked ⟨answered, inTurn⟩
  by_cases on : label.onstage
  · cases step with
    | beginScore reqId => exact tracked_beginScore tracked reqId
    | submit client family ref message begun connected =>
      exact tracked_submitRequest tracked connected message
        (starting_known sound (congrArg Marks.starting begun.marked) (List.mem_singleton_self _))
    | submitAuth client ref userId message outputs begun connected routes =>
      exact tracked_submitAuth tracked begun connected
        (starting_known sound (congrArg Marks.starting begun.marked) (List.mem_singleton_self _))
        routes userId outputs inTurn
    | register entry submission own marked owned registers =>
      obtain ⟨outstanding, only⟩ := submitting_of_marks marked
      rw [← own] at only
      exact tracked_register tracked outstanding only registers inTurn
    | take client family pktId reply => exact tracked_takePending tracked sound answered inTurn
    | store r store last => exact { tracked with }
    | complete r tmpRankOut routed => exact tracked_complete tracked sound routed _
    | completeAuth r routed => exact tracked_completeAuth tracked sound routed _
    | disconnect userId => exact tracked_removeSession tracked userId
    | sweep userId family errorCode =>
      exact tracked_sweepPending tracked sound userId family errorCode
    | beginTus | beginOwn | fake => simp_all [Section.onstage]
    | _ => cases on
  · exact (step.offstage sound (by simpa using on)).tracked step.moves.2 tracked

/-! ## No reply is lost -/

/-- All but the authorization codes, whose packets are sent under the lock of their map. -/
def besidesAuth (family : Family) : Bool := family ≠ .auth

/-- A score, TUS or trophy request whose reply has been handled and whose submission has returned
has a result, unless it was begun again. -/
def NoReplyLost (pool : Pool HandlerState Section) : Prop :=
  ∀ submission ∈ pool.state.sent, submission.watched besidesAuth = true →
    submission ∉ pool.state.superseded → submission.packet ∈ pool.state.handled →
    ¬Running pool submission.call → (pool.state.result? submission.req).isSome

instance (pool : Pool HandlerState Section) : Decidable (NoReplyLost pool) :=
  inferInstanceAs (Decidable (∀ submission ∈ pool.state.sent, _ → _ → _ → _ → _))

instance : ∀ label s, Decidable (AnsweredOnce label s)
  | .take .., s => inferInstanceAs (Decidable (_ ∧ ∃ submission ∈ s.sent, _))
  | .begin .., _ | .submit .., _ | .register .., _ | .finish .., _ | .rejectComment .., _
  | .submitFailed .., _ | .prepare .., _ | .store .., _ | .complete .., _ | .abort .., _
  | .delete .., _ | .deleteTitle .., _ | .disconnect .., _ | .sweep .., _ | .other, _ =>
    isTrue trivial

instance (watched : Family → Bool) : ∀ label s, Decidable (InTurn watched label s)
  | .submit _ id _ _, s => inferInstanceAs (Decidable (_ → _ → ∀ client ∈ s.client? id, _))
  | .register .., _ => inferInstanceAs (Decidable (_ → _))
  | .take _ _ family pktId _, s =>
    inferInstanceAs (Decidable (_ → (∀ submission ∈ s.submitting, _) ∧
      ∀ entry ∈ s.pending? family pktId, _))
  | .begin .., _ | .finish .., _ | .rejectComment .., _ | .submitFailed .., _ | .prepare .., _
  | .store .., _ | .complete .., _ | .abort .., _ | .delete .., _ | .deleteTitle .., _
  | .disconnect .., _ | .sweep .., _ | .other, _ => isTrue trivial

instance (watched : Family → Bool) (label : Section) (s : HandlerState) :
    Decidable (AnsweredInTurn watched label s) :=
  inferInstanceAs (Decidable (_ ∧ _))

/-- In every interleaving that goes in turn, no reply is lost. -/
theorem no_reply_lost (pb : ShadNetProto) (actions : List (Action Op))
    (scheduled : Scheduled pb (AnsweredInTurn besidesAuth) actions) :
    NoReplyLost (runPool pb actions) := by
  have start : Tracked besidesAuth {} := by constructor <;> simp [KeyedTable.Distinct]
  obtain ⟨-, tracked, -⟩ := holds_of_scheduled (keeps_tracked pb besidesAuth) start scheduled
  intro submission member watching current handled _
  rcases tracked.accounted submission member watching current with
    held | ⟨unanswered, -⟩ | ⟨unhandled, -⟩
  · exact held
  · exact absurd (tracked.handled _ handled) unanswered
  · exact absurd handled unhandled

/-- A score and TUS variables are sent, and answered in the other order. -/
def answeredInTurn : List (Action Op) :=
  setUp ++ .spawn (.score 6 1 none true (.recordScore 1 500 [] [] 0 none)) ::
    List.replicate 9 (.take 6) ++
    .spawn (.tus 7 1 none true (.setMultiSlotVariable (.npId []) [1] [5])) ::
    List.replicate 9 (.take 7) ++
    .spawn (.reply 8 0 2 ⟨.tusSetMultiSlotVariable, .noError, []⟩) :: List.replicate 4 (.take 8) ++
    .spawn (.reply 9 0 1 ⟨.recordScore, .noError, []⟩) :: List.replicate 4 (.take 9)

theorem answeredInTurn_no_reply_lost : NoReplyLost (runPool noReplies answeredInTurn) :=
  no_reply_lost noReplies answeredInTurn (by decide +kernel)

/-- The reader thread has the reply before the caller of `SubmitRequest` has got the lock of the
map. -/
def replyOvertakes : List (Action Op) :=
  setUp ++ .spawn (.score 6 1 none true (.recordScore 1 500 [] [] 0 none)) ::
    List.replicate 7 (.take 6) ++
    .spawn (.reply 7 0 1 ⟨.recordScore, .noError, []⟩) :: List.replicate 4 (.take 7) ++
    List.replicate 2 (.take 6)

/-- The reply is dropped, and the entry goes in for nobody. -/
theorem replyOvertakes_lost :
    Scheduled noReplies AnsweredOnce replyOvertakes ∧
      ¬NoReplyLost (runPool noReplies replyOvertakes) := by
  decide +kernel

end NpHandler
