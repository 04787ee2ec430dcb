import ShadNet.Matching2.Membership

/-!
# The stays of a context

Every operation keeps the caches of a context right, but for what they do not follow:
the event that puts a context out of its room, and a join that does not end the stay
in another one.
-/

namespace NpMatching2

open KeyedTable LockProgram NpSignaling Matching2State

variable {moves : Bool} {object : Nat} {history : List Told} {s s' : Matching2State}
  {ctx : ContextObject} {ctxId : Nat}

/-! ## Replies -/

theorem Settled.reply (settled : Settled moves object history s) (inc : Incarnated s.registry)
    {pktId : Nat} {errorCode : UInt32} {body : ReplyBody} {input : StartInput}
    (followed : ∀ told ∈ toldBy object (.reply pktId errorCode body input) s,
      told.followed moves history) :
    Settled moves object
      (history ++ (toldBy object (.reply pktId errorCode body input) s).toList)
      ((Op.reply pktId errorCode body input).complete s) := by
  obtain ⟨silent, tidy⟩ | ⟨pr, ctx, s₁, found, before, kept, told, after⟩ :=
    reply_complete inc object pktId errorCode body input
  · rw [silent]
    exact (List.append_nil history).symm ▸ settled.tidy tidy
  · rw [told] at followed ⊢
    exact ((settled.tidy before).buildRequestData (kept ▸ inc) found followed).tidy after

/-! ## Room events -/

theorem Settled.setCache (settled : Settled moves object history s)
    (inc : Incarnated s.registry) (found : s.context? ctxId = some ctx)
    {cache : Matching2ContextCache} (own : cache.ctxId = ctx.ctxId)
    (sound : Sound moves history ctx.roomId (s.np.cache ctx.ctxId) →
      Sound moves history ctx.roomId cache) :
    Settled moves object history (s.setCache cache) := by
  refine settled.rehoused inc found (rehoused_setCache inc found own) ?_ ?_
  · exact fun mine => sound (settled.of_context found mine)
  · exact fun _ => rfl

theorem Settled.roomEventLocked (settled : Settled moves object history s)
    (inc : Incarnated s.registry) (found : s.context? ctxId = some ctx) (n : NotifyRoomEvent) :
    Settled moves object history (NpMatching2.roomEventLocked ctx.object n s).2 := by
  have named : (s.np.cache ctx.ctxId).ctxId = ctx.ctxId := cache_ctxId ctx.ctxId s.np
  simp only [NpMatching2.roomEventLocked, object?_of_context inc found]
  split
  · rename_i room _ known
    have cached := (lookup_some known).1
    exact settled.setCache inc found named (fun sound => sound.memberJoined cached n.member)
  · rename_i room _ known
    have cached := (lookup_some known).1
    split
    · exact settled
    · -- the peer is told dead before its member goes, in the part that is not cached
      have notified := tidy_event ctx.object n.roomId n.member.memberId false .terminatedByPeer s
      have caches := caches_event ctx.signalingView n.roomId n.member.memberId false
        .terminatedByPeer (s := s.np)
      simp only [NpMatching2.queueMatching2SignalingEvent, object?_of_context inc found]
        at notified ⊢
      have same := cache_of_caches caches ctx.ctxId
      refine (settled.tidy notified).setCache inc found named (fun sound => ?_)
      rw [same] at sound
      exact sound.memberLeft cached n.member.memberId
  all_goals exact settled

/-- The handler leaves the rooms alone, whatever the event heard of them. -/
theorem Settled.roomEvent (settled : Settled moves object history s)
    (inc : Incarnated s.registry) (n : NotifyRoomEvent) (input : StartInput) :
    Settled moves object history ((Op.roomEvent n input).complete s) := by
  simp only [Op.complete, Op.program, handleRoomEvent, Prog.exec_locked_bind]
  cases found : s.context? n.ctxId with
  | none => exact settled
  | some ctx =>
    have handled := settled.roomEventLocked inc found n
    simp only [Prog.exec_locked_bind]
    by_cases known : (NpMatching2.roomEventLocked ctx.object n s).1 = true
    · rw [if_pos known]
      let s₁ := (NpMatching2.roomEventLocked ctx.object n s).2
      let ev : PendingEvent := ⟨ctx.ctxId, ctx.object, .roomEventCb n.roomId n.event⟩
      have scheduled : Tidy s₁ (scheduleEvent ev s₁) := tidy_of_same rfl rfl
      have kept : s₁.registry = s.registry := registry_roomEventLocked ctx.object n s
      have apart := apart_of_incarnated (kept.symm ▸ inc)
      have started : Tidies s₁ (Prog.when (n.event = .memberJoined)
          (startMatching2 ctx.object input)) :=
        Prog.triple_when (fun _ => (onlooker_tidy apart).startMatching2 ctx.object input)
      exact handled.tidy (started _ scheduled)
    · rw [if_neg known]
      exact handled

/-! ## New contexts -/

theorem Settled.contextManagerCreate (settled : Settled moves object history s)
    (onlineId : OrbisNpOnlineId) (aVariant : Bool) :
    Settled moves object history (NpMatching2.contextManagerCreate onlineId aVariant s).2 := by
  unfold NpMatching2.contextManagerCreate
  cases found : freeSlot s with
  | none => exact settled
  | some ctxId =>
    have free : s.context? ctxId = none :=
      Option.isNone_iff_eq_none.mp
        (@List.find?_some _ (fun id => (s.context? id).isNone) ctxId _ found)
    have elsewhere : ∀ d ∈ s.dwellings, d.live → d.ctxId ≠ ctxId := by
      rintro d member live same
      obtain ⟨old, known, rfl⟩ := List.mem_map.mp member
      have passes := List.find?_eq_none.mp free old known
      exact passes (by simp [show old.live = true from live, show old.ctxId = ctxId from same])
    let s' := (NpMatching2.contextManagerCreate onlineId aVariant s).2
    have cached : ∀ id, ((resetCache ctxId s).setCache { ctxId }).np.cache id =
        if id = ctxId then { ctxId } else (resetCache ctxId s).np.cache id :=
      fun id => cache_store _
    refine ⟨?_, ?_⟩
    · intro d member live own
      rw [Matching2State.dwellings, List.map_append] at member
      rcases List.mem_append.mp member with old | new
      · have other := elsewhere d old live
        have kept : (resetCache ctxId s).np.cache d.ctxId = s.np.cache d.ctxId := by
          simp only [NpSignalingState.cache, resetCache, lookup_remove, if_neg other]
        have same := (cached d.ctxId).trans (if_neg other)
        exact (same.trans kept) ▸ settled.sound d old live own
      · -- the object is new, and so has been told of no room
        obtain rfl := List.mem_singleton.mp new
        have unborn : history = [] := settled.unborn (Nat.le_of_eq own)
        have same := (cached ctxId).trans (if_pos rfl)
        rw [unborn]
        exact same ▸ sound_fresh moves ctxId
    · intro absent
      rw [List.length_append] at absent
      exact settled.unborn (Nat.le_of_add_right_le absent)

theorem Settled.createContextWith (settled : Settled moves object history s) (valid : Bool)
    (onlineId : OrbisNpOnlineId) (aVariant : Bool) :
    Settled moves object history
      ((NpMatching2.createContextWith valid onlineId aVariant).exec s).2 := by
  have made := settled.contextManagerCreate onlineId aVariant
  cases initialized : s.initialized with
  | false => simpa [NpMatching2.createContextWith, initialized] using settled
  | true =>
    cases valid with
    | false => simpa [NpMatching2.createContextWith, initialized] using settled
    | true =>
      simp only [NpMatching2.createContextWith, Prog.exec_bind, Prog.exec_locked, initialized,
        if_true]
      generalize NpMatching2.contextManagerCreate onlineId aVariant s = created at made ⊢
      cases created.1 with
      | error error => exact made
      | ok ctxId =>
        have counted : Tidies created.2 (signaling addContextRef) :=
          tidies_signaling (fun _ _ => Bystander.addContextRef (fun _ _ same housed =>
            housed.of_caches same.caches))
        simp only [Prog.exec_bind, Prog.exec_pure]
        exact made.tidy (counted _ (Tidy.refl _))

/-! ## Steps -/

/-- What is known between two operations. -/
structure Lodged (moves : Bool) (object : Nat) (w : Watched) : Prop where
  issued : Issued w.mm
  settled : Settled moves object w.history w.mm

theorem lodged_start (moves : Bool) (object : Nat) : Lodged moves object {} where
  issued := issued_start
  settled :=
    { sound := fun _ member => absurd member List.not_mem_nil
      unborn := fun _ => rfl }

theorem toldBy_of_stays {op : Op} (stays : op.rehouses = false) : toldBy object op s = none := by
  cases op <;> first | rfl | cases stays

theorem occupies_iff : Occupies object ctxId s ↔
    ∃ ctx, s.context? ctxId = some ctx ∧ ctx.object = object :=
  Option.map_eq_some_iff

theorem step_history {w : Watched} {op : Op} {told : Told} (tells : told ∈ toldBy object op w.mm) :
    (w.step object op).history = w.history ++ [told] := by
  rw [Watched.step, Option.mem_def.mp tells]
  rfl

/-- A room event tells only of the end of a stay. -/
theorem toldBy_roomEvent {n : NotifyRoomEvent} {input : StartInput} {told : Told}
    (tells : told ∈ toldBy object (.roomEvent n input) s) :
    Occupies object n.ctxId s ∧ (told.news = .kickedOut ∨ told.news = .destroyed) := by
  simp only [toldBy, Option.mem_def] at tells
  split at tells
  · rename_i occupied
    refine ⟨occupied, ?_⟩
    unfold eventTold at tells
    split at tells
    · obtain rfl := Option.some.inj tells
      exact Or.inl rfl
    · obtain rfl := Option.some.inj tells
      exact Or.inr rfl
    · cases tells
  · cases tells

theorem followed_ended {told : Told} (ended : told.news = .kickedOut ∨ told.news = .destroyed) :
    told.followed moves history ↔ ¬InRoom moves told.roomId history := by
  obtain ⟨roomId, news⟩ := told
  rcases ended with rfl | rfl <;> exact Iff.rfl

theorem not_joined {told : Told} (ended : told.news = .kickedOut ∨ told.news = .destroyed) :
    told.news ≠ .joined := by
  rcases ended with same | same <;> rw [same] <;> exact RoomNews.noConfusion

/-- An operation whose news the caches can follow keeps them right. -/
theorem Lodged.step {w : Watched} (lodged : Lodged moves object w) {op : Op}
    (followed : NewsFollowed moves object op w) : Lodged moves object (w.step object op) := by
  obtain ⟨issued, settled⟩ := lodged
  have inc := issued.incarnated
  refine ⟨issued_step op w.mm issued, ?_⟩
  change Settled moves object (w.history ++ (toldBy object op w.mm).toList) (op.complete w.mm)
  cases rehouses : op.rehouses with
  | false =>
    rw [toldBy_of_stays rehouses]
    have tidy := tidy_complete (apart_of_incarnated inc) rehouses
    exact (List.append_nil w.history).symm ▸ settled.tidy tidy
  | true =>
    cases op with
    | createContext valid onlineId =>
      rw [createContext_complete]
      exact (List.append_nil w.history).symm ▸ settled.createContextWith valid onlineId false
    | createContextA valid onlineId =>
      rw [createContextA_complete]
      exact (List.append_nil w.history).symm ▸ settled.createContextWith valid onlineId true
    | reply pktId errorCode body input => exact settled.reply inc followed
    | roomEvent n input =>
      have handled := settled.roomEvent inc n input
      cases tells : toldBy object (.roomEvent n input) w.mm with
      | none => exact (List.append_nil w.history).symm ▸ handled
      | some told =>
        obtain ⟨occupied, ended⟩ := toldBy_roomEvent tells
        obtain ⟨ctx, found, own⟩ := occupies_iff.mp occupied
        obtain ⟨ctx', found', own', -⟩ := context_kept (roomEvent_turn n input w.mm).1 found
        have kept := (issued_step (.roomEvent n input) w.mm issued).incarnated
        have known := known_of_context kept found'
        refine handled.news (own'.trans own ▸ known) (not_joined ended) ?_
        exact (followed_ended ended).mp (followed told tells)
    | _ => cases rehouses

/-- The end of a stay that the caches do not follow shows in them. -/
theorem followed_of_roomEvent {w : Watched} (lodged : Lodged moves object w)
    {n : NotifyRoomEvent} {input : StartInput}
    (right : RoomsRight moves object (w.step object (.roomEvent n input))) :
    NewsFollowed moves object (.roomEvent n input) w := by
  obtain ⟨issued, settled⟩ := lodged
  intro told tells
  obtain ⟨occupied, ended⟩ := toldBy_roomEvent tells
  obtain ⟨ctx, found, own⟩ := occupies_iff.mp occupied
  obtain ⟨ctx', found', object', slot⟩ := context_kept (roomEvent_turn n input w.mm).1 found
  rw [followed_ended ended]
  intro inRoom
  have sound := (settled.roomEvent issued.incarnated n input).of_context found'
    (object'.trans own)
  have cached := (sound.cached told.roomId).mpr inRoom
  have caches := right n.ctxId ctx' found' (object'.trans own)
  rw [step_history tells] at caches
  rw [(context?_some found').2.2] at cached
  have still := (caches.cached told.roomId).mp cached
  exact ((inRoom_ended moves told.roomId w.history (not_joined ended)).mp still).1 rfl

/-- The room with id 0 stays cached when another one is joined, whatever is tidied after that. -/
theorem zero_stays_cached (inc : Incarnated s.registry) (found : s.context? ctxId = some ctx)
    (details : RoomDetails) (named : ctx.roomId = 0)
    (cached : roomCached 0 (s.np.cache ctx.ctxId) = true)
    (tidy : Tidy (buildCreateJoinRoomPayloadCommon ctx.object details s) s')
    {ctx' : ContextObject} (found' : s'.context? ctxId = some ctx') :
    roomCached 0 (s'.np.cache ctxId) = true := by
  have rehoused := (build_joined inc found details).cached
  obtain rfl : ctx.ctxId = ctxId := (context?_some found).2.2
  obtain ⟨member, live, slot⟩ := dwelling_of_context found'
  let rooms := joinedRooms ctx.roomId details (s.cache ctx.ctxId).rooms
  have housed : Housed ctx'.ctxId rooms
      (buildCreateJoinRoomPayloadCommon ctx.object details s).np := by
    rw [slot]
    refine ⟨congrArg Matching2ContextCache.rooms rehoused, ?_⟩
    rw [rehoused]
    exact joined_members details
  have after := (tidy.housed ctx'.dwelling member live rooms housed).rooms
  have stays := (@roomCached_joinedRooms ctx.roomId (s.cache ctx.ctxId) details 0).mpr
    (Or.inr ⟨cached, fun evicted => evicted.1 named⟩)
  rw [← slot, roomCached]
  exact after ▸ stays

/-- Nor does a join that leaves the context in another room. -/
theorem followed_of_reply {w : Watched} (lodged : Lodged moves object w) {pktId : Nat}
    {errorCode : UInt32} {body : ReplyBody} {input : StartInput}
    (right : RoomsRight moves object (w.step object (.reply pktId errorCode body input))) :
    NewsFollowed moves object (.reply pktId errorCode body input) w := by
  obtain ⟨issued, settled⟩ := lodged
  intro told tells
  obtain ⟨silent, -⟩ | ⟨pr, ctx, s₁, found, before, kept, heard, after⟩ :=
    reply_complete issued.incarnated object pktId errorCode body input
  · rw [silent] at tells
    cases tells
  have own : ctx.object = object := by
    by_contra other
    rw [heard, NpMatching2.tells, if_neg other] at tells
    cases tells
  have replied : replyTold pr.reqEvent errorCode body = some told := by
    rw [heard, NpMatching2.tells, if_pos own] at tells
    exact tells
  let s' := (Op.reply pktId errorCode body input).complete w.mm
  have lives : s'.registry = s₁.registry :=
    (reply_turn pktId errorCode body input w.mm).1.trans kept.symm
  obtain ⟨ctx', found', object', slot'⟩ := context_kept lives found
  have caches := right pr.ctxId ctx' found' (object'.trans own)
  rw [step_history tells] at caches
  obtain ⟨silent, -⟩ | ⟨details, joined, built⟩ | ⟨roomId, left, -⟩ :=
    buildRequestData_cases ctx pr errorCode body s₁
  · rw [silent] at replied
    cases replied
  · obtain rfl := Option.some.inj (joined.symm.trans replied)
    intro room inRoom
    cases moves with
    | false =>
      -- the context is in both rooms, and names one of them
      have stays := (inRoom_joined false room details.roomId w.history).mpr (Or.inr ⟨rfl, inRoom⟩)
      have joins := (inRoom_joined false details.roomId details.roomId w.history).mpr (Or.inl rfl)
      exact Or.inl ((caches.named room stays).symm.trans (caches.named details.roomId joins))
    | true =>
      by_cases zero : room = 0
      · subst zero
        have sound := (settled.tidy before).of_context found own
        have cached := zero_stays_cached (kept ▸ issued.incarnated) found details
          (sound.named 0 inRoom) ((sound.cached 0).mpr inRoom) (built ▸ after) found'
        rcases (inRoom_joined ..).mp ((caches.cached 0).mp cached) with same | ⟨stays, -⟩
        · exact Or.inl same
        · cases stays
      · exact Or.inr ⟨rfl, zero⟩
  · obtain rfl := Option.some.inj (left.symm.trans replied)
    trivial

theorem followed_of_right {w : Watched} (lodged : Lodged moves object w) {op : Op}
    (right : RoomsRight moves object (w.step object op)) : NewsFollowed moves object op w := by
  cases op with
  | reply pktId errorCode body input => exact followed_of_reply lodged right
  | roomEvent n input => exact followed_of_roomEvent lodged right
  | _ => exact nofun

/-! ## Runs -/

/-- In every run of the library the caches of a context are right after each operation, exactly
where nothing puts the context out of the room it is in but a leave of its own, and it joins
another room only where that ends its stay in a room with an id. -/
theorem rooms_right_iff (moves : Bool) (object : Nat) (ops : List Op) :
    Runs.Throughout (Watched.step object) (RoomsRight moves object) (fun _ _ _ => True) ops {} ↔
      Runs.Admitted (Watched.step object) (NewsFollowed moves object) ops {} :=
  Runs.throughout_iff_admitted_next (fun _ lodged => lodged.settled.right)
    (fun _ _ lodged followed => ⟨lodged.step followed, trivial⟩)
    (fun _ _ lodged _ right => followed_of_right lodged right) (lodged_start moves object)

/-- A context creates a room with one other member and is kicked out of it. -/
def kickedOutOfRoom : List Op :=
  [.matching2Initialize true true, .connectUser true, .createContext true ali.handle,
    .request 0 .createJoinRoom 1 true none,
    .reply 1 0 { details := some ⟨5, 1, 1, [⟨1, ali, 0, 0, 0⟩, ⟨2, bob, 0, 7, 3658⟩]⟩ }
      ⟨false, fun _ => none, 0⟩,
    .roomEvent ⟨1, 5, .kickedOut, ⟨1, ali, 0, 0, 0⟩⟩ ⟨false, fun _ => none, 0⟩]

/-- The room, its members and the peer entry stay behind. -/
theorem kickedOut_stays_cached :
    ¬ RoomsRight false 0 (Runs.run (Watched.step 0) kickedOutOfRoom {}) ∧
      ¬ RoomsRight true 0 (Runs.run (Watched.step 0) kickedOutOfRoom {}) := by
  let w := Runs.run (Watched.step 0) kickedOutOfRoom {}
  have occupied : Occupies 0 1 w.mm := by decide +kernel
  have cached : roomCached 5 (w.mm.cache 1) = true := by decide +kernel
  have outside : ∀ moves, ¬InRoom moves 5 w.history := by decide +kernel
  obtain ⟨ctx, found, own⟩ := occupies_iff.mp occupied
  refine ⟨fun right => ?_, fun right => ?_⟩
  · exact outside false (((right 1 ctx found own).cached 5).mp cached)
  · exact outside true (((right 1 ctx found own).cached 5).mp cached)

end NpMatching2
