import ShadNet.Matching2.Onlookers

/-!
# Contexts and the rooms they are in

A context object names its room, and the cache of its slot holds the room. Most of
what happens to the library leaves both alone: the runtime writes peer entries of
members only, and what the context manager frees is gone with its cache.
-/

namespace NpMatching2

open LockProgram NpSignaling Matching2State

/-- No two live objects share a slot. -/
def Apart (s : Matching2State) : Prop :=
  ∀ d ∈ s.dwellings, ∀ d' ∈ s.dwellings, d.live → d'.live → d.ctxId = d'.ctxId → d = d'

/-- Every live object keeps its slot and its room; its cached rooms stay, and the peer entries
stay those of members. -/
structure Tidy (s s' : Matching2State) : Prop where
  made : s'.contexts.length = s.contexts.length
  stays : ∀ d ∈ s'.dwellings, d.live → d ∈ s.dwellings
  housed : ∀ d ∈ s'.dwellings, d.live → ∀ rooms, Housed d.ctxId rooms s.np →
    Housed d.ctxId rooms s'.np

section Tidy

variable {s s' s'' : Matching2State}

theorem Tidy.refl (s : Matching2State) : Tidy s s :=
  ⟨rfl, fun _ member _ => member, fun _ _ _ _ housed => housed⟩

theorem Tidy.trans (first : Tidy s s') (second : Tidy s' s'') : Tidy s s'' where
  made := second.made.trans first.made
  stays d member live := first.stays d (second.stays d member live) live
  housed d member live rooms housed :=
    second.housed d member live rooms
      (first.housed d (second.stays d member live) live rooms housed)

theorem Apart.tidy (apart : Apart s) (tidy : Tidy s s') : Apart s' :=
  fun d member d' member' live live' same =>
    apart d (tidy.stays d member live) d' (tidy.stays d' member' live') live live' same

theorem tidy_of_same (caches : s'.np.caches = s.np.caches)
    (dwellings : s'.dwellings = s.dwellings) : Tidy s s' where
  made := by
    have lengths := congrArg List.length dwellings
    simpa only [Matching2State.dwellings, List.length_map] using lengths
  stays d member _ := dwellings ▸ member
  housed _ _ _ _ housed := housed.of_caches caches

theorem tidy_of_unseen (unseen : Unseen s s') : Tidy s s' :=
  tidy_of_same (congrArg NpSignalingState.caches unseen.np) unseen.dwellings

theorem apart_of_incarnated (inc : Incarnated s.registry) : Apart s := by
  intro d member d' member' live live' same
  obtain ⟨ctx, known, rfl⟩ := List.mem_map.mp member
  obtain ⟨ctx', known', rfl⟩ := List.mem_map.mp member'
  have lives := inc.slots ctx.lifecycle (List.mem_map_of_mem known) ctx'.lifecycle
    (List.mem_map_of_mem known') live live' same
  have distinct : KeyedTable.Distinct ContextObject.object s.contexts := by
    have names := inc.distinct
    simp only [KeyedTable.Distinct, registry, List.map_map] at names
    exact names
  have object : ctx.object = ctx'.object := congrArg Lifecycle.object lives
  rw [distinct.eq_of_key known known' object]

theorem tidy_adjustObject {object : Nat} {f : ContextObject → ContextObject}
    (keeps : ∀ ctx, (f ctx).dwelling = ctx.dwelling) (s : Matching2State) :
    Tidy s (s.adjustObject object f) :=
  tidy_of_unseen (unseen_adjustObject keeps s)

theorem dwelling_of_context {ctxId : Nat} {ctx : ContextObject}
    (found : s.context? ctxId = some ctx) :
    ctx.dwelling ∈ s.dwellings ∧ ctx.dwelling.live ∧ ctx.ctxId = ctxId := by
  obtain ⟨member, live, named⟩ := context?_some found
  exact ⟨List.mem_map_of_mem member, live, named⟩

/-! ### Sections -/

theorem tidy_event (object roomId memberId : Nat) (established : Bool)
    (errorCode : Matching2Error) (s : Matching2State) :
    Tidy s (queueMatching2SignalingEvent object roomId memberId established errorCode s) := by
  unfold NpMatching2.queueMatching2SignalingEvent
  split
  · exact Tidy.refl s
  · exact tidy_of_same (caches_event _ _ _ _ _) rfl

/-- A freed object takes its cache along; the other live objects are in other slots. -/
theorem tidy_freeContext {ctx : ContextObject} (apart : Apart s)
    (member : ctx.dwelling ∈ s.dwellings) (live : ctx.live) : Tidy s (freeContext ctx s) := by
  have origin : ∀ d ∈ (freeContext ctx s).dwellings, d.live →
      d ∈ s.dwellings ∧ d.ctxId ≠ ctx.ctxId := by
    intro d among alive
    obtain ⟨other, marked, rfl⟩ := List.mem_map.mp among
    obtain ⟨old, known, rfl⟩ := List.mem_map.mp marked
    by_cases named : old.object = ctx.object
    · rw [if_pos named] at alive
      cases alive
    · rw [if_neg named] at alive ⊢
      have before : old.dwelling ∈ s.dwellings := List.mem_map_of_mem known
      refine ⟨before, fun same => ?_⟩
      have equal := apart old.dwelling before ctx.dwelling member alive live same
      exact named (congrArg Dwelling.object equal)
  refine ⟨List.length_map _, fun d among alive => (origin d among alive).1, ?_⟩
  intro d among alive rooms housed
  have elsewhere := (origin d among alive).2
  have cached : (freeContext ctx s).np.cache d.ctxId = s.np.cache d.ctxId := by
    simp only [NpSignalingState.cache, freeContext, resetCache, adjustObject,
      KeyedTable.lookup_remove, if_neg elsewhere]
  exact housed.of_cache cached

theorem tidy_contextManagerDestroy (apart : Apart s) (ctxId : Nat) :
    Tidy s (contextManagerDestroy ctxId s).2 := by
  unfold contextManagerDestroy
  split
  · exact Tidy.refl s
  · rename_i ctx found
    obtain ⟨member, live, -⟩ := dwelling_of_context found
    have accepted : Tidy s { s with destroyed := s.destroyed ++ [ctx.object] } :=
      tidy_of_same rfl rfl
    dsimp only
    split
    · refine accepted.trans (tidy_adjustObject ?_ _)
      exact fun _ => rfl
    · exact accepted.trans (tidy_freeContext (apart.tidy accepted) member live)

theorem tidy_contextManagerCompleteStop (apart : Apart s) (ctxId expectedContext : Nat) :
    Tidy s (contextManagerCompleteStop ctxId expectedContext s) := by
  unfold contextManagerCompleteStop
  split
  · exact Tidy.refl s
  · rename_i ctx found
    obtain ⟨member, live, -⟩ := dwelling_of_context found
    split
    · exact Tidy.refl s
    · let settled := s.adjustObject ctx.object (fun ctx => { ctx with stopPending := false })
      have dwellings : settled.dwellings = s.dwellings := by
        refine dwellings_adjustObject ?_ s
        exact fun _ => rfl
      have tidy : Tidy s settled := tidy_of_same rfl dwellings
      dsimp only
      split
      · exact tidy.trans (tidy_freeContext (apart.tidy tidy) (dwellings ▸ member) live)
      · exact tidy

theorem tidy_contextManagerReset (s : Matching2State) : Tidy s (contextManagerReset s) := by
  have gone : ∀ d ∈ (contextManagerReset s).dwellings, ¬d.live := by
    intro d among
    obtain ⟨ctx, marked, rfl⟩ := List.mem_map.mp among
    obtain ⟨old, -, rfl⟩ := List.mem_map.mp marked
    exact Bool.false_ne_true
  exact ⟨List.length_map _, fun d among live => absurd live (gone d among),
    fun d among live => absurd live (gone d among)⟩

/-- The cache keeps its rooms, and its entries stay those of members. -/
theorem housed_setCache {cache : Matching2ContextCache} {ctxId : Nat} {rooms : List RoomCache}
    (kept : cache.rooms = (s.cache cache.ctxId).rooms)
    (members : ∀ peer ∈ cache.peers, (∃ old ∈ (s.cache cache.ctxId).peers,
      old.memberId = peer.memberId) ∨ (s.cache cache.ctxId).HasMember peer.memberId)
    (housed : Housed ctxId rooms s.np) : Housed ctxId rooms (s.setCache cache).np := by
  have cached : (s.setCache cache).np.cache ctxId =
      if ctxId = cache.ctxId then cache else s.np.cache ctxId := cache_store cache
  by_cases same : ctxId = cache.ctxId
  · rw [if_pos same] at cached
    subst same
    refine housed.of_peers ?_ ?_
    · rw [cached]
      exact kept
    · rw [cached]
      exact members
  · rw [if_neg same] at cached
    exact housed.of_cache cached

theorem tidy_deadRoomPeers (object roomId : Nat) (s : Matching2State) :
    Tidy s (deadRoomPeers object roomId s).2 := by
  unfold deadRoomPeers
  split
  · exact Tidy.refl s
  · rename_i ctx _
    dsimp only
    split
    · exact Tidy.refl s
    · have key : (s.cache ctx.ctxId).ctxId = ctx.ctxId := cache_ctxId ctx.ctxId s.np
      refine ⟨rfl, fun d member _ => member, fun d _ _ rooms housed => ?_⟩
      refine housed_setCache ?_ ?_ housed
      · rw [key]
      · rw [key]
        intro peer among
        obtain ⟨old, before, rfl⟩ := List.mem_map.mp among
        refine Or.inl ⟨old, before, ?_⟩
        split <;> rfl

theorem tidy_connectionStatusLocked (ctxId roomId memberId : Nat) (s : Matching2State) :
    Tidy s (connectionStatusLocked ctxId roomId memberId s).2 := by
  unfold connectionStatusLocked
  extract_lets cache
  split
  · exact Tidy.refl s
  · rename_i member found
    dsimp only
    split
    · exact Tidy.refl s
    · have key : (s.cache ctxId).ctxId = ctxId := cache_ctxId ctxId s.np
      obtain ⟨room, inRooms, inMembers⟩ := Option.bind_eq_some_iff.mp found
      have present : cache.HasMember member.memberId :=
        ⟨room, (KeyedTable.lookup_some inRooms).1, member,
          (KeyedTable.lookup_some inMembers).1, rfl⟩
      refine ⟨rfl, fun d among _ => among, fun d _ _ rooms housed => ?_⟩
      refine housed_setCache ?_ ?_ housed
      · exact congrArg (fun id => (s.cache id).rooms) key.symm
      · dsimp only
        rw [key]
        intro peer among
        rcases List.mem_append.mp among with old | new
        · exact Or.inl ⟨peer, old, rfl⟩
        · rw [List.mem_singleton.mp new]
          exact Or.inr present

/-! ### Programs -/

variable {s₀ : Matching2State}

abbrev Tidies {α : Type} (s₀ : Matching2State) (p : Matching2 α) : Prop := Leaves (Tidy s₀) p

theorem tidies_update {label : Section} {body : Matching2State → Matching2State}
    (tidy : ∀ s, Tidy s (body s)) : Tidies s₀ (Prog.update label body) :=
  Prog.triple_update (fun s before => before.trans (tidy s))

theorem tidies_signaling {α : Type} {p : Signaling α}
    (kept : ∀ ctxId rooms, p.Preserves (Housed ctxId rooms)) : Tidies s₀ (signaling p) := by
  intro s before
  obtain ⟨np, only⟩ := exec_signaling p s
  refine before.trans ⟨by rw [only], fun d member _ => ?_, fun d _ _ rooms housed => ?_⟩
  · rw [only] at member
    exact member
  · let Kept (t : Matching2State) : Prop := Housed d.ctxId rooms t.np
    have zoomed : (signaling p).Preserves Kept :=
      (kept d.ctxId rooms).zoom (fun t inv => Housed.of_caches inv rfl) (fun t np _ inv => inv)
    have start : Kept s := housed
    exact zoomed.exec start

theorem onlooker_tidy (apart : Apart s₀) : Onlooker (Tidy s₀) where
  unseen unseen before := before.trans (tidy_of_unseen unseen)
  event object roomId memberId established errorCode s before :=
    before.trans (tidy_event object roomId memberId established errorCode s)
  dead object roomId s before := before.trans (tidy_deadRoomPeers object roomId s)
  status ctxId roomId memberId s before :=
    before.trans (tidy_connectionStatusLocked ctxId roomId memberId s)
  -- the slots are still apart when a stop is completed
  completeStop ctxId expectedContext _ before :=
    before.trans (tidy_contextManagerCompleteStop (apart.tidy before) ctxId expectedContext)
  runtime kept := tidies_signaling (fun _ _ => kept bystander_housed)

theorem tidies_releaseContextRef : Tidies s₀ (signaling releaseContextRef) :=
  tidies_signaling (fun _ _ => Bystander.releaseContextRef (fun _ _ same housed =>
    housed.of_caches same.caches))

/-! ### Operations -/

/-- What may put a context into a slot or move it between rooms. -/
def Op.rehouses : Op → Bool
  | .createContext .. | .createContextA .. | .reply .. | .roomEvent .. => true
  | _ => false

theorem caches_stopRuntime (s : NpSignalingState) : (stopRuntime s).caches = s.caches := by
  unfold stopRuntime
  split <;> rfl

theorem tidies_program (apart : Apart s₀) {op : Op} (stays : op.rehouses = false) :
    Tidies s₀ op.program := by
  cases op with
  | matching2Terminate =>
    refine Prog.triple_seq ?_ (fun _ => leaves_pure _)
    refine Prog.triple_seq (leaves_reads _) (fun initialized => ?_)
    refine Prog.triple_ite (fun _ => ?_) (fun _ => leaves_pure _)
    refine Prog.triple_seq (tidies_update (fun s => tidy_of_same rfl rfl)) (fun _ => ?_)
    refine Prog.triple_seq (tidies_update (fun s => ?_)) (fun _ => ?_)
    · unfold termEventDispatcher
      split
      · exact tidy_of_same rfl rfl
      · exact Tidy.refl s
    · refine Prog.triple_seq (tidies_update tidy_contextManagerReset) (fun _ => ?_)
      refine Prog.triple_seq (tidies_update (fun s => tidy_of_same rfl rfl)) (fun _ => ?_)
      exact Prog.triple_seq tidies_releaseContextRef (fun _ => leaves_pure _)
  | destroyContext ctxId =>
    refine Prog.triple_seq ?_ (fun _ => leaves_pure _)
    refine Prog.triple_seq (leaves_reads _) (fun initialized => ?_)
    refine Prog.triple_ite (fun _ => ?_) (fun _ => leaves_pure _)
    refine Prog.triple_seq (Prog.triple_locked (fun s before => ?_)) (fun found => ?_)
    · exact before.trans (tidy_contextManagerDestroy (apart.tidy before) ctxId)
    · refine Prog.triple_ite (fun _ => ?_) (fun _ => leaves_pure _)
      exact Prog.triple_seq tidies_releaseContextRef (fun _ => leaves_pure _)
  | signaling op =>
    refine Prog.triple_when (fun own => tidies_signaling (fun ctxId rooms => ?_))
    refine bystander_housed.op_of_matching2
      (fun _ _ same housed => housed.of_caches same.caches) ?_
    rintro contextObjects caches rfl
    cases own
  | connectUser matching2Enabled =>
    refine tidies_update (fun s => ?_)
    unfold setMmShadNetClient
    dsimp only
    split
    · exact tidy_of_same rfl rfl
    · exact tidy_of_same (caches_stopRuntime s.np) rfl
  | clearMmShadNetClient =>
    exact tidies_update (fun s => tidy_of_same (caches_stopRuntime s.np) rfl)
  | createContext | createContextA | reply | roomEvent => cases stays
  | _ => exact (onlooker_tidy apart).op rfl

theorem tidy_complete (apart : Apart s) {op : Op} (stays : op.rehouses = false) :
    Tidy s (op.complete s) :=
  tidies_program apart stays s (Tidy.refl s)

end Tidy

end NpMatching2
