import ShadNet.Matching2.Onlookers
import ShadNet.Signaling.ContextRefs

/-!
# Live contexts and the reference count

A context of either library holds one reference from its creation to its end. The
context manager, the calls of the signaling library and the termination of each
library take and release them; the count is right as long as every release is
that of one context.
-/

namespace NpMatching2

open KeyedTable LockProgram NpSignaling Matching2State

/-! ## Lives that count -/

/-- Whether a context counts as live while its destroy waits for its stop is left open. -/
def Lifecycle.counts (deferred : Bool) (a : Lifecycle) : Bool :=
  a.live && (deferred || !a.destroyPending)

def Registry.liveCount (deferred : Bool) (r : Registry) : Nat :=
  r.lives.countP (Lifecycle.counts deferred)

/-- Where a live context is between its start and the reply to its stop. -/
structure Lifecycle.Staged (deferred : Bool) (a : Lifecycle) : Prop where
  stopping : a.stopPending = true → a.started = false
  condemned : a.destroyPending = true → a.stopPending = true ∧ deferred = false

def Registry.Staged (deferred : Bool) (r : Registry) : Prop :=
  ∀ a ∈ r.lives, a.live = true → a.Staged deferred

section Registry

variable {deferred : Bool} {r : Registry} {ctxId : Nat} {a : Lifecycle}

theorem liveCount_mark (inc : Incarnated r) (member : a ∈ r.lives) (f : Lifecycle → Lifecycle) :
    (r.mark a.object f).liveCount deferred + (a.counts deferred).toNat =
      r.liveCount deferred + ((f a).counts deferred).toNat :=
  inc.distinct.countP_adjust member f (Lifecycle.counts deferred)

theorem liveCount_create (ctxId : Nat) :
    (r.create ctxId).liveCount deferred = r.liveCount deferred + 1 := by
  simp [Registry.create, Registry.liveCount, Lifecycle.counts]

theorem liveCount_reset : r.reset.liveCount deferred = 0 := by
  rw [Registry.liveCount, List.countP_eq_zero]
  intro a member
  obtain ⟨old, -, rfl⟩ := List.mem_map.mp member
  exact Bool.false_ne_true

theorem counts_of_live (live : a.live = true) :
    a.counts deferred = (deferred || !a.destroyPending) := by
  rw [Lifecycle.counts, live, Bool.true_and]

theorem counts_le_liveCount (member : a ∈ r.lives) :
    (a.counts deferred).toNat ≤ r.liveCount deferred := by
  cases counts : a.counts deferred with
  | false => exact Nat.zero_le _
  | true => exact List.countP_pos_iff.mpr ⟨a, member, counts⟩

theorem Registry.Staged.mark (staged : r.Staged deferred) (inc : Incarnated r)
    (member : a ∈ r.lives) {f : Lifecycle → Lifecycle}
    (next : (f a).live = true → (f a).Staged deferred) :
    (r.mark a.object f).Staged deferred := by
  intro b among live
  obtain ⟨old, known, rfl⟩ := List.mem_map.mp among
  by_cases same : old.object = a.object
  · obtain rfl := inc.distinct.eq_of_key known member same
    rw [if_pos rfl] at live ⊢
    exact next live
  · rw [if_neg same] at live ⊢
    exact staged old known live

theorem Registry.Staged.create (staged : r.Staged deferred) (ctxId : Nat) :
    (r.create ctxId).Staged deferred := by
  intro a among live
  rcases List.mem_append.mp among with old | new
  · exact staged a old live
  · rw [List.mem_singleton.mp new]
    exact ⟨fun pending => absurd pending Bool.false_ne_true,
      fun pending => absurd pending Bool.false_ne_true⟩

theorem Registry.Staged.reset (deferred : Bool) (r : Registry) : r.reset.Staged deferred := by
  intro a among live
  obtain ⟨old, -, rfl⟩ := List.mem_map.mp among
  exact absurd live Bool.false_ne_true

/-! ### The context manager -/

section Slot

variable (inc : Incarnated r) (slot : r.slot ctxId = some a)
include inc slot

/-- A destroy ends a life, now or when its stop is complete. -/
theorem liveCount_destroy :
    (r.destroy ctxId).liveCount deferred + (a.counts deferred).toNat =
      r.liveCount deferred + (a.stopPending && deferred).toNat := by
  obtain ⟨member, live, -⟩ := Incarnated.slot_some slot
  simp only [Registry.destroy, slot]
  have accepted := inc.accept member
  cases pending : a.stopPending with
  | true =>
    have counted := @liveCount_mark deferred _ _ accepted member Lifecycle.condemn
    have waits : a.condemn.counts deferred = deferred :=
      (@counts_of_live deferred a.condemn live).trans (Bool.or_false deferred)
    rw [waits] at counted
    exact counted
  | false =>
    have counted := @liveCount_mark deferred _ _ accepted member Lifecycle.release
    exact counted

theorem Registry.Staged.destroy (staged : r.Staged deferred)
    (ends : a.stopPending = true → deferred = false) : (r.destroy ctxId).Staged deferred := by
  obtain ⟨member, live, -⟩ := Incarnated.slot_some slot
  simp only [Registry.destroy, slot]
  have accepted := inc.accept member
  have before : Registry.Staged deferred { r with destroyed := r.destroyed ++ [a.object] } := staged
  split
  · rename_i pending
    refine before.mark accepted member (fun _ => ?_)
    exact ⟨(staged a member live).stopping, fun _ => ⟨pending, ends pending⟩⟩
  · exact before.mark accepted member (fun gone => absurd gone Bool.false_ne_true)

theorem liveCount_start (stopped : a.started = false) :
    (r.start ctxId).liveCount deferred + (a.counts deferred).toNat =
      r.liveCount deferred + 1 := by
  obtain ⟨member, live, -⟩ := Incarnated.slot_some slot
  have counted := @liveCount_mark deferred _ _ inc member Lifecycle.begin_
  have begun : a.begin_.counts deferred = true :=
    (@counts_of_live deferred a.begin_ live).trans (Bool.or_true deferred)
  rw [begun] at counted
  simp only [Registry.start, slot, stopped]
  exact counted

theorem Registry.Staged.start (staged : r.Staged deferred) : (r.start ctxId).Staged deferred := by
  obtain ⟨member, live, -⟩ := Incarnated.slot_some slot
  simp only [Registry.start, slot]
  split
  · exact staged
  · refine staged.mark inc member (fun _ => ?_)
    exact ⟨fun pending => absurd pending Bool.false_ne_true,
      fun pending => absurd pending Bool.false_ne_true⟩

theorem liveCount_stop : (r.stop ctxId).liveCount deferred = r.liveCount deferred := by
  obtain ⟨member, live, -⟩ := Incarnated.slot_some slot
  have counted := @liveCount_mark deferred _ _ inc member Lifecycle.halt
  have same : a.halt.counts deferred = a.counts deferred := rfl
  rw [same] at counted
  simp only [Registry.stop, slot]
  split
  · exact Nat.add_right_cancel counted
  · rfl

theorem Registry.Staged.stop (staged : r.Staged deferred) : (r.stop ctxId).Staged deferred := by
  obtain ⟨member, live, -⟩ := Incarnated.slot_some slot
  simp only [Registry.stop, slot]
  split
  · refine staged.mark inc member (fun _ => ?_)
    exact ⟨fun _ => rfl, fun condemned => ⟨rfl, ((staged a member live).condemned condemned).2⟩⟩
  · exact staged

end Slot

/-- What a completed stop frees has not counted since its destroy. -/
theorem liveCount_completeStop (inc : Incarnated r) (staged : r.Staged deferred)
    (ctxId expectedContext : Nat) :
    (r.completeStop ctxId expectedContext).liveCount deferred = r.liveCount deferred ∧
      (r.completeStop ctxId expectedContext).Staged deferred := by
  simp only [Registry.completeStop]
  cases slot : r.slot ctxId with
  | none => exact ⟨rfl, staged⟩
  | some a =>
    obtain ⟨member, live, -⟩ := Incarnated.slot_some slot
    dsimp only
    split
    · exact ⟨rfl, staged⟩
    have settled := @liveCount_mark deferred _ _ inc member Lifecycle.settle
    have same : a.settle.counts deferred = a.counts deferred := rfl
    rw [same] at settled
    have kept := Nat.add_right_cancel settled
    split
    · rename_i condemned
      have unlisted : deferred = false := ((staged a member live).condemned condemned).2
      have ended : a.counts deferred = false := by
        rw [counts_of_live live, unlisted, condemned]
        rfl
      have once : ((r.mark a.object Lifecycle.settle).mark a.object Lifecycle.release).lives =
          (r.mark a.object (fun a => a.settle.release)).lives :=
        adjust_adjust (fun a => (Lifecycle.keeps_settle a).1) Lifecycle.release r.lives
      have freed := @liveCount_mark deferred _ _ inc member
        (fun a => a.settle.release)
      rw [ended] at freed
      have gone := staged.mark inc member (f := fun a => a.settle.release)
        (fun alive => absurd alive Bool.false_ne_true)
      unfold Registry.liveCount at freed ⊢
      unfold Registry.Staged at gone ⊢
      rw [← once] at freed gone
      exact ⟨freed, gone⟩
    · rename_i spared
      refine ⟨kept, staged.mark inc member (fun _ => ?_)⟩
      exact ⟨fun pending => absurd pending Bool.false_ne_true,
        fun condemned => absurd condemned spared⟩

end Registry

/-! ## The tally -/

section Tallied

variable {t : Tally} {s s' : Matching2State}

/-- A program of the signaling library counts here as it does alone. -/
theorem tallies_signaling {α : Type} {p : Signaling α}
    (objects : ∀ objects, p.Preserves (fun s => s.contextObjects = objects))
    (alone : Tallies t (p.exec s.signalingState).2) : Tallies t ((signaling p).exec s).2.np := by
  have ends : signalingState ((signaling p).exec s).2 = (p.exec s.signalingState).2 := by
    refine (objects s.signalingState.contextObjects).exec_zoom rfl ?_ (fun _ _ => rfl)
    intro np same
    cases np
    subst same
    rfl
  rw [← ends] at alone
  exact alone.of_same rfl rfl rfl

theorem onlooker_tallies (t : Tally) : Onlooker (fun s => Tallies t s.np) where
  unseen unseen tallies := unseen.np ▸ tallies
  event object roomId memberId established errorCode s tallies := by
    unfold NpMatching2.queueMatching2SignalingEvent
    split
    · exact tallies
    · exact tallies.only (onlyMatching2_event _ _ _ _ _)
  dead object roomId s tallies := by
    unfold deadRoomPeers
    split
    · exact tallies
    · dsimp only
      split
      · exact tallies
      · exact tallies.of_same rfl rfl rfl
  status ctxId roomId memberId s tallies := by
    unfold connectionStatusLocked
    extract_lets cache
    split
    · exact tallies
    · dsimp only
      split
      · exact tallies
      · exact tallies.of_same rfl rfl rfl
  completeStop ctxId expectedContext s tallies := by
    unfold contextManagerCompleteStop
    split
    · exact tallies
    · split
      · exact tallies
      · dsimp only
        split
        · exact tallies.of_same rfl rfl rfl
        · exact tallies
  runtime kept s tallies := by
    refine tallies_signaling (fun objects => kept (bystander_objects objects)) ?_
    exact (kept (bystander_tallies t)).exec (tallies.of_same rfl rfl rfl)

theorem tallies_complete (op : Op) (follows : op.rules = false) (s : Matching2State) :
    Tallies s.np.tally (op.complete s).np :=
  (onlooker_tallies s.np.tally).op follows s (tallies_tally s.np)

theorem tallied_addContextRef (tallies : Tallies t s.np) :
    Tallies t.retain ((signaling addContextRef).exec s).2.np := by
  refine tallies_signaling (fun objects => Bystander.addContextRef ?_) ?_
  · exact fun _ _ same kept => same.contextObjects.trans kept
  · exact tallies_addContextRef t _ (tallies.of_same rfl rfl rfl)

theorem tallied_releaseContextRef (tallies : Tallies t s.np) :
    Tallies t.release ((signaling releaseContextRef).exec s).2.np := by
  refine tallies_signaling (fun objects => Bystander.releaseContextRef ?_) ?_
  · exact fun _ _ same kept => same.contextObjects.trans kept
  · exact tallies_releaseContextRef t _ (tallies.of_same rfl rfl rfl)

/-! ### Replies and room events -/

theorem tallies_buildRequestData (ctx : ContextObject) (pr : PendingRequest)
    (errorCode : UInt32) (body : ReplyBody) :
    Leaves (fun s => Tallies t s.np) (buildRequestData ctx pr errorCode body) := by
  refine Prog.triple_ite (fun _ => leaves_pure _) (fun _ => Prog.triple_ite (fun _ => ?_)
    (fun _ => Prog.triple_ite (fun _ => ?_) (fun _ => leaves_pure _)))
  · cases body.details with
    | none => exact leaves_pure _
    | some details =>
      refine Prog.triple_seq (Prog.triple_update (fun s tallies => ?_)) (fun _ => leaves_pure _)
      unfold buildCreateJoinRoomPayloadCommon
      split
      · exact tallies
      · exact tallies.of_same rfl rfl rfl
  · cases body.leftRoom with
    | none => exact leaves_pure _
    | some roomId =>
      refine Prog.triple_seq ((onlooker_tallies t).queueMatching2DeadForRoomPeers ctx roomId)
        (fun _ => ?_)
      refine Prog.triple_seq (Prog.triple_update (fun s tallies => ?_)) (fun _ => leaves_pure _)
      unfold buildLeaveRoomPayload
      split
      · exact tallies
      · split
        · exact tallies.of_same rfl rfl rfl
        · exact tallies

theorem tallies_reply (pktId : Nat) (errorCode : UInt32) (body : ReplyBody) (input : StartInput) :
    Leaves (fun s => Tallies t s.np) (Op.reply pktId errorCode body input).program := by
  have onlooker := onlooker_tallies t
  refine Prog.triple_seq (onlooker.locked (fun s => ⟨rfl, rfl⟩)) (fun taken => ?_)
  cases taken with
  | none => exact leaves_pure _
  | some pr =>
    refine Prog.triple_seq (leaves_reads _) (fun found => ?_)
    cases found with
    | none => exact leaves_pure _
    | some ctx =>
      refine Prog.triple_ite (fun _ => onlooker.aside (fun _ => rfl) (fun _ => rfl)) (fun _ => ?_)
      refine Prog.triple_seq (tallies_buildRequestData ctx pr errorCode body) (fun hasData => ?_)
      refine Prog.triple_seq (onlooker.aside (fun _ => rfl) (fun _ => rfl)) (fun _ => ?_)
      exact Prog.triple_when (fun _ => onlooker.startMatching2 ctx.object input)

theorem tallies_roomEventLocked (object : Nat) (n : NotifyRoomEvent)
    (tallies : Tallies t s.np) : Tallies t (roomEventLocked object n s).2.np := by
  unfold roomEventLocked
  split
  · exact tallies
  · extract_lets cache room
    split
    · exact tallies.of_same rfl rfl rfl
    · split
      · exact tallies
      · have told := (onlooker_tallies t).event object n.roomId n.member.memberId false
          .terminatedByPeer tallies
        exact told.of_same rfl rfl rfl
    all_goals exact tallies

theorem tallies_roomEvent (n : NotifyRoomEvent) (input : StartInput) :
    Leaves (fun s => Tallies t s.np) (Op.roomEvent n input).program := by
  have onlooker := onlooker_tallies t
  refine Prog.triple_seq (leaves_reads _) (fun found => ?_)
  cases found with
  | none => exact leaves_pure _
  | some ctx =>
    refine Prog.triple_seq
      (Prog.triple_locked (fun s tallies => tallies_roomEventLocked ctx.object n tallies))
      (fun known => Prog.triple_ite (fun _ => ?_) (fun _ => leaves_pure _))
    refine Prog.triple_seq (onlooker.aside (fun _ => rfl) (fun _ => rfl)) (fun _ => ?_)
    exact Prog.triple_when (fun _ => onlooker.startMatching2 ctx.object input)

/-- Without a reference the threads do not run, and stopping them stops nothing. -/
theorem tallies_stopRuntime {s : NpSignalingState} (proper : t.Proper) (tallies : Tallies t s) :
    Tallies t (stopRuntime s) := by
  unfold stopRuntime
  split
  · exact tallies
  · rename_i unheld
    refine ⟨tallies.refs, ?_, tallies.ids⟩
    cases running : t.running with
    | false => rfl
    | true =>
      have held := proper.mp running
      have refs := tallies.refs
      omega

end Tallied

/-! ## The law -/

/-- The matching2 contexts that live. -/
def Matching2State.countedContexts (deferred : Bool) (s : Matching2State) : Nat :=
  s.contexts.countP (fun ctx => ctx.live && (deferred || !ctx.destroyPending))

/-- The contexts that live, of both libraries. -/
def Matching2State.liveContexts (deferred : Bool) (s : Matching2State) : Nat :=
  s.np.contexts.length + s.countedContexts deferred

/-- Every context holds a reference, and the runtime threads run while there is one. -/
structure RefsCounted (deferred : Bool) (s : Matching2State) : Prop where
  refs : s.np.contextRefs = s.liveContexts deferred
  running : s.np.runtimeRunning = true ↔ 0 < s.liveContexts deferred

/-- What is released is the reference of a context that ends, or there is none to release; and no
context comes back to life. -/
def ReleasesItsOwn (deferred : Bool) (op : Op) (s : Matching2State) : Prop :=
  match op with
  | .matching2Terminate => s.initialized = true →
      s.countedContexts deferred = 1 ∨ s.liveContexts deferred = 0
  | .destroyContext ctxId => s.initialized = true → ∀ ctx, s.context? ctxId = some ctx →
      ctx.stopPending = true →
        deferred = false ∧ (ctx.destroyPending = true → s.liveContexts deferred = 0)
  | .contextStart _ ctxId => s.initialized = true → s.active = true →
      ∀ ctx, s.context? ctxId = some ctx → ctx.destroyPending = true → deferred = true
  | .signaling (.deleteContext ctxId) => s.np.initialized = true →
      (s.np.context? ctxId).isSome = true ∨ s.liveContexts deferred = 0
  | _ => True

theorem liveCount_registry (deferred : Bool) (s : Matching2State) :
    s.registry.liveCount deferred = s.countedContexts deferred := by
  rw [Registry.liveCount, registry, List.countP_map]
  rfl

/-! ## Steps -/

/-- What is known between two operations. -/
structure Accounted (deferred : Bool) (s : Matching2State) : Prop where
  issued : Issued s
  staged : s.registry.Staged deferred
  distinct : (s.np.contexts.map (·.ctxId)).Nodup
  counted : RefsCounted deferred s

theorem counted_iff {deferred : Bool} {t : Tally} {s : Matching2State} (tallies : Tallies t s.np)
    (proper : t.Proper) :
    RefsCounted deferred s ↔ t.refs = t.ids.length + s.registry.liveCount deferred := by
  have length : s.np.contexts.length = t.ids.length := by
    rw [← tallies.ids.length_eq, List.length_map]
  have live : s.liveContexts deferred = t.ids.length + s.registry.liveCount deferred := by
    rw [liveCount_registry, ← length]
    rfl
  rw [← live, ← tallies.refs]
  refine ⟨RefsCounted.refs, fun refs => ⟨refs, ?_⟩⟩
  rw [tallies.running, ← refs, tallies.refs]
  exact proper

/-- One operation against the law. -/
structure Reckoned (deferred : Bool) (op : Op) (s s' : Matching2State) : Prop where
  counted : RefsCounted deferred s' ↔ ReleasesItsOwn deferred op s
  staged : ReleasesItsOwn deferred op s → s'.registry.Staged deferred
  distinct : (s'.np.contexts.map (·.ctxId)).Nodup

section Steps

variable {deferred : Bool} {s s' : Matching2State} {t : Tally} {op : Op}

theorem reckoned_of (tallies : Tallies t s'.np) (proper : t.Proper) (distinct : t.ids.Nodup)
    (staged : ReleasesItsOwn deferred op s → s'.registry.Staged deferred)
    (count : t.refs = t.ids.length + s'.registry.liveCount deferred ↔
      ReleasesItsOwn deferred op s) : Reckoned deferred op s s' where
  counted := (counted_iff tallies proper).trans count
  staged := staged
  distinct := tallies.ids.nodup_iff.mpr distinct

theorem Accounted.proper (acc : Accounted deferred s) : s.np.tally.Proper := by
  have running := acc.counted.running
  rw [← acc.counted.refs] at running
  exact running

theorem Accounted.refs (acc : Accounted deferred s) :
    s.np.tally.refs = s.np.tally.ids.length + s.registry.liveCount deferred :=
  (counted_iff (tallies_tally s.np) acc.proper).mp acc.counted

theorem Accounted.liveContexts (acc : Accounted deferred s) :
    s.liveContexts deferred = s.np.tally.ids.length + s.registry.liveCount deferred :=
  acc.counted.refs.symm.trans acc.refs

/-- Neither the count nor a context changes. -/
theorem Accounted.same (acc : Accounted deferred s) (tallies : Tallies s.np.tally s'.np)
    (staged : s'.registry.Staged deferred)
    (count : s'.registry.liveCount deferred = s.registry.liveCount deferred)
    (own : ReleasesItsOwn deferred op s) : Reckoned deferred op s s' := by
  refine reckoned_of tallies acc.proper acc.distinct (fun _ => staged) ?_
  rw [count]
  exact iff_of_true acc.refs own

theorem Accounted.kept (acc : Accounted deferred s) (tallies : Tallies s.np.tally s'.np)
    (registry : s'.registry = s.registry) (own : ReleasesItsOwn deferred op s) :
    Reckoned deferred op s s' :=
  acc.same tallies (registry ▸ acc.staged) (congrArg (Registry.liveCount deferred) registry) own

/-! ### The context manager -/

theorem contextManagerCreate_cases (onlineId : OrbisNpOnlineId) (aVariant : Bool)
    (s : Matching2State) :
    (∃ error, contextManagerCreate onlineId aVariant s = (.error error, s)) ∨
      ∃ ctxId s', contextManagerCreate onlineId aVariant s = (.ok ctxId, s') ∧
        s'.registry = s.registry.create ctxId ∧ ∀ t, Tallies t s.np → Tallies t s'.np := by
  unfold contextManagerCreate
  cases freeSlot s with
  | none => exact Or.inl ⟨_, rfl⟩
  | some ctxId =>
    refine Or.inr ⟨ctxId, _, rfl, ?_, fun t tallies => tallies.of_same rfl rfl rfl⟩
    simp only [registry, Registry.create, List.map_append, List.length_map]
    rfl

theorem Accounted.createContextWith (acc : Accounted deferred s) (valid : Bool)
    (onlineId : OrbisNpOnlineId) (aVariant : Bool) (own : ReleasesItsOwn deferred op s) :
    Reckoned deferred op s ((createContextWith valid onlineId aVariant).exec s).2 := by
  have idle := acc.kept (tallies_tally s.np) rfl own
  cases initialized : s.initialized with
  | false => simpa [NpMatching2.createContextWith, initialized] using idle
  | true =>
    cases valid with
    | false => simpa [NpMatching2.createContextWith, initialized] using idle
    | true =>
      simp only [NpMatching2.createContextWith, Prog.exec_bind, Prog.exec_locked, initialized,
        if_true]
      obtain ⟨error, refused⟩ | ⟨ctxId, made, accepted, lives, counted⟩ :=
        contextManagerCreate_cases onlineId aVariant s
      · rw [refused]
        exact idle
      · rw [accepted]
        simp only [Prog.exec_bind, Prog.exec_pure]
        have tallies := tallied_addContextRef (counted _ (tallies_tally s.np))
        have registry := (unmoved_beside (beside_signaling addContextRef) made).2.trans lives
        refine reckoned_of tallies (Tally.Proper.retain _) acc.distinct (fun _ => ?_) ?_
        · rw [registry]
          exact acc.staged.create ctxId
        · rw [registry, liveCount_create]
          refine iff_of_true ?_ own
          exact congrArg (· + 1) acc.refs

/-- A release against the end of at most one life. -/
theorem Accounted.released (acc : Accounted deferred s)
    (tallies : Tallies s.np.tally.release s'.np)
    (staged : ReleasesItsOwn deferred op s → s'.registry.Staged deferred)
    (own : ReleasesItsOwn deferred op s ↔
      s'.registry.liveCount deferred + 1 = s.registry.liveCount deferred ∨
        (s'.registry.liveCount deferred = s.registry.liveCount deferred ∧
          s.liveContexts deferred = 0)) : Reckoned deferred op s s' := by
  refine reckoned_of tallies acc.proper.release acc.distinct staged ?_
  have refs := acc.refs
  have live := acc.liveContexts
  have once : s.np.tally.release.refs = s.np.tally.refs - 1 := rfl
  have ids : s.np.tally.release.ids = s.np.tally.ids := rfl
  rw [own, once, ids]
  omega

theorem Accounted.destroyContext (acc : Accounted deferred s) (ctxId : Nat) :
    Reckoned deferred (.destroyContext ctxId) s ((Op.destroyContext ctxId).complete s) := by
  have idle := fun own => @Accounted.kept deferred s s (.destroyContext ctxId) acc
    (tallies_tally s.np) rfl own
  simp only [Op.complete, Op.program, Prog.exec_bind, Prog.exec_pure]
  cases initialized : s.initialized with
  | false =>
    simp only [sceNpMatching2DestroyContext, Prog.exec_bind, Prog.exec_locked, initialized,
      Bool.false_eq_true, if_false, Prog.exec_pure]
    exact idle (fun on => absurd (initialized.symm.trans on) Bool.false_ne_true)
  | true =>
    simp only [sceNpMatching2DestroyContext, Prog.exec_locked_bind, initialized, if_true]
    have lives := registry_contextManagerDestroy ctxId s
    cases found : s.context? ctxId with
    | none =>
      have absent : contextManagerDestroy ctxId s = (false, s) := by
        rw [contextManagerDestroy, found]
      rw [absent]
      exact idle (fun _ ctx known => absurd (known.symm.trans found) (Option.some_ne_none ctx))
    | some ctx =>
      obtain ⟨answer, tallies⟩ : (contextManagerDestroy ctxId s).1 = true ∧
          Tallies s.np.tally (contextManagerDestroy ctxId s).2.np := by
        unfold contextManagerDestroy
        rw [found]
        dsimp only
        split
        · exact ⟨rfl, tallies_tally s.np⟩
        · exact ⟨rfl, (tallies_tally s.np).of_same rfl rfl rfl⟩
      rw [if_pos answer, Prog.exec_bind, Prog.exec_pure]
      have released := tallied_releaseContextRef tallies
      have registry := (unmoved_beside (beside_signaling releaseContextRef)
        (contextManagerDestroy ctxId s).2).2.trans lives
      have slot : s.registry.slot ctxId = some ctx.lifecycle := by
        rw [slot_registry, found]
        rfl
      have inc := acc.issued.incarnated
      obtain ⟨member, live, -⟩ := Incarnated.slot_some slot
      have staged := acc.staged ctx.lifecycle member live
      refine acc.released released (fun own => ?_) ?_
      · rw [registry]
        exact acc.staged.destroy inc slot (fun pending => (own initialized ctx found pending).1)
      · have counted := @liveCount_destroy deferred _ _ _ inc slot
        have among := @counts_le_liveCount deferred _ _ member
        have waiting := staged.condemned
        have live' := acc.liveContexts
        have own : ReleasesItsOwn deferred (.destroyContext ctxId) s ↔
            (ctx.lifecycle.stopPending = true → deferred = false ∧
              (ctx.lifecycle.destroyPending = true → s.liveContexts deferred = 0)) := by
          refine ⟨fun own => own initialized ctx found, fun own _ other known => ?_⟩
          obtain rfl := Option.some.inj (found.symm.trans known)
          exact own
        rw [registry, own]
        rw [counts_of_live live] at counted among
        cases condemned : ctx.lifecycle.destroyPending with
        | true =>
          -- it no longer counts, and its stop frees it
          obtain ⟨pending, unlisted⟩ := waiting condemned
          simp only [condemned, pending, unlisted] at counted ⊢
          simp only [Bool.not_true, Bool.or_false, Bool.and_false, Bool.toNat_false] at counted
          simp only [forall_const, true_and]
          omega
        | false =>
          simp only [condemned, Bool.not_false, Bool.or_true, Bool.toNat_true] at counted among
          cases pending : ctx.lifecycle.stopPending with
          | false =>
            rw [pending] at counted
            exact iff_of_true (fun on => absurd on Bool.false_ne_true) (Or.inl counted)
          | true =>
            rw [pending] at counted
            cases listed : deferred with
            | false =>
              rw [listed] at counted
              exact iff_of_true (fun _ => ⟨rfl, fun on => absurd on Bool.false_ne_true⟩)
                (Or.inl counted)
            | true =>
              -- the context that still waits keeps the count from nothing
              rw [listed] at counted among live'
              simp only [Bool.and_self, Bool.toNat_true] at counted
              refine iff_of_false (fun own => absurd (own rfl).1.symm Bool.false_ne_true) ?_
              omega

theorem Accounted.terminate (acc : Accounted deferred s) :
    Reckoned deferred .matching2Terminate s (Op.matching2Terminate.complete s) := by
  simp only [Op.complete, Op.program, Prog.exec_bind, Prog.exec_pure]
  cases initialized : s.initialized with
  | false =>
    have idle := @Accounted.kept deferred s s .matching2Terminate acc (tallies_tally s.np) rfl
      (fun on => absurd (initialized.symm.trans on) Bool.false_ne_true)
    simpa [sceNpMatching2Terminate, initialized] using idle
  | true =>
    have releases : ∀ ended : Matching2State, Tallies s.np.tally ended.np →
        ended.registry = s.registry.reset →
          Reckoned deferred .matching2Terminate s ((signaling releaseContextRef).exec ended).2 := by
      intro ended tallies lives
      have registry := (unmoved_beside (beside_signaling releaseContextRef) ended).2.trans lives
      refine acc.released (tallied_releaseContextRef tallies) (fun _ => ?_) ?_
      · exact registry ▸ Registry.Staged.reset deferred s.registry
      · have live := acc.liveContexts
        have own : ReleasesItsOwn deferred .matching2Terminate s ↔
            s.registry.liveCount deferred = 1 ∨ s.liveContexts deferred = 0 := by
          rw [liveCount_registry]
          exact ⟨fun own => own initialized, fun own _ => own⟩
        rw [registry, liveCount_reset, own]
        omega
    simp only [sceNpMatching2Terminate, Prog.exec_bind, Prog.exec_locked, initialized, if_true,
      Prog.exec_update, Prog.exec_pure, termEventDispatcher]
    split
    · exact releases _ ((tallies_tally s.np).of_same rfl rfl rfl) (registry_contextManagerReset _)
    · exact releases _ ((tallies_tally s.np).of_same rfl rfl rfl) (registry_contextManagerReset _)

theorem Accounted.contextStart (acc : Accounted deferred s) (call ctxId : Nat) :
    Reckoned deferred (.contextStart call ctxId) s ((Op.contextStart call ctxId).complete s) := by
  have inc := acc.issued.incarnated
  have tallies := tallies_complete (.contextStart call ctxId) rfl s
  rcases contextStart_turn call ctxId s with ⟨none, -, registry⟩ | ⟨a, starting, registry, -⟩
  · refine acc.kept tallies registry (fun initialized active ctx found condemned => ?_)
    have slot : s.registry.slot ctxId = some ctx.lifecycle := by
      rw [slot_registry, found]
      rfl
    obtain ⟨member, live, -⟩ := Incarnated.slot_some slot
    have staged := acc.staged ctx.lifecycle member live
    have stopped := staged.stopping (staged.condemned condemned).1
    exact absurd ⟨initialized, active, slot, stopped⟩ (none ctx.lifecycle)
  · obtain ⟨initialized, active, slot, stopped⟩ := starting
    obtain ⟨-, live, -⟩ := Incarnated.slot_some slot
    have counted := @liveCount_start deferred _ _ _ inc slot stopped
    refine reckoned_of tallies acc.proper acc.distinct (fun _ => ?_) ?_
    · exact registry ▸ acc.staged.start inc slot
    · have refs := acc.refs
      have own : ReleasesItsOwn deferred (.contextStart call ctxId) s ↔
          a.counts deferred = true := by
        rw [slot_registry] at slot
        obtain ⟨ctx, found, rfl⟩ := Option.map_eq_some_iff.mp slot
        rw [counts_of_live live]
        constructor
        · intro own
          have back := own initialized active ctx found
          cases condemned : ctx.destroyPending with
          | false => simp [condemned, ContextObject.lifecycle]
          | true => simp [back condemned]
        · intro counts _ _ other known condemned
          obtain rfl := Option.some.inj (found.symm.trans known)
          simpa [ContextObject.lifecycle, condemned] using counts
      rw [own, registry]
      cases counts : a.counts deferred with
      | false =>
        rw [counts] at counted
        simp only [Bool.toNat_false] at counted
        refine iff_of_false ?_ Bool.false_ne_true
        omega
      | true =>
        rw [counts] at counted
        refine iff_of_true ?_ rfl
        simp only [Bool.toNat_true] at counted
        omega

theorem Accounted.contextStop (acc : Accounted deferred s) (call ctxId : Nat) :
    Reckoned deferred (.contextStop call ctxId) s ((Op.contextStop call ctxId).complete s) := by
  have inc := acc.issued.incarnated
  have tallies := tallies_complete (.contextStop call ctxId) rfl s
  rcases contextStop_turn call ctxId s with
    ⟨-, -, registry⟩ | ⟨a, ⟨-, slot, -⟩, ⟨-, -, registry⟩ | ⟨-, registry, -⟩⟩
  · exact acc.kept tallies registry trivial
  · obtain ⟨count, staged⟩ := liveCount_completeStop (inc.stop ctxId) (acc.staged.stop inc slot)
      ctxId a.object
    rw [← registry] at count staged
    exact acc.same tallies staged (count.trans (liveCount_stop inc slot)) trivial
  · exact acc.same tallies (registry ▸ acc.staged.stop inc slot)
      ((congrArg (Registry.liveCount deferred) registry).trans (liveCount_stop inc slot)) trivial

theorem Accounted.fireEvent (acc : Accounted deferred s) :
    Reckoned deferred .fireEvent s (Op.fireEvent.complete s) := by
  have inc := acc.issued.incarnated
  have tallies := tallies_complete .fireEvent rfl s
  rcases fireEvent_turn s with ⟨-, same⟩ | ⟨ev, rest, -, -, registry⟩
  · exact acc.kept tallies (congrArg registry same) trivial
  · unfold Registry.fire at registry
    split at registry
    · obtain ⟨count, staged⟩ := liveCount_completeStop inc acc.staged ev.ctxId ev.owner
      rw [← registry] at count staged
      exact acc.same tallies staged count trivial
    · exact acc.kept tallies registry trivial

/-! ### The signaling library -/

section Signaling

variable {call : NpSignaling.Op}

/-- What the call does to the tally of its own library decides. -/
theorem Accounted.ofTally (acc : Accounted deferred s) (taken : ofSignaling call = true)
    (tallies : Tallies t (call.complete s.signalingState)) (proper : t.Proper)
    (distinct : t.ids.Nodup)
    (own : t.refs = t.ids.length + s.registry.liveCount deferred ↔
      ReleasesItsOwn deferred (.signaling call) s) :
    Reckoned deferred (.signaling call) s ((Op.signaling call).complete s) := by
  simp only [Op.complete, Op.program, Prog.when, taken, if_true]
  have registry := (unmoved_beside (beside_signaling call.program) s).2
  have objects : ∀ objects, call.program.Preserves (fun s => s.contextObjects = objects) := by
    intro objects
    refine (bystander_objects objects).op_of_matching2
      (fun _ _ same kept => same.contextObjects.trans kept) ?_
    rintro contextObjects caches rfl
    cases taken
  refine reckoned_of (tallies_signaling objects tallies) proper distinct
    (fun _ => registry ▸ acc.staged) ?_
  rw [registry]
  exact own

theorem Accounted.keepsContexts (acc : Accounted deferred s) (taken : ofSignaling call = true)
    (keeps : call.keepsContexts) (own : ReleasesItsOwn deferred (.signaling call) s) :
    Reckoned deferred (.signaling call) s ((Op.signaling call).complete s) := by
  have start : Tallies s.np.tally s.signalingState := (tallies_tally s.np).of_same rfl rfl rfl
  exact acc.ofTally taken (((bystander_tallies _).op keeps).exec start) acc.proper acc.distinct
    (iff_of_true acc.refs own)

theorem Accounted.creates (acc : Accounted deferred s) (taken : ofSignaling call = true)
    (creates : call.creates) (own : ReleasesItsOwn deferred (.signaling call) s) :
    Reckoned deferred (.signaling call) s ((Op.signaling call).complete s) := by
  have start : Tallies s.np.tally s.signalingState := (tallies_tally s.np).of_same rfl rfl rfl
  obtain refused | ⟨ctxId, unknown, made⟩ := tallies_createContext creates _ _ start
  · exact acc.ofTally taken refused acc.proper acc.distinct (iff_of_true acc.refs own)
  · refine acc.ofTally taken made (Tally.Proper.retain _) ?_ (iff_of_true ?_ own)
    · exact acc.distinct.append (List.nodup_singleton ctxId)
        (List.disjoint_singleton.mpr unknown)
    · have refs := acc.refs
      have ids : (s.np.tally.create ctxId).ids.length = s.np.tally.ids.length + 1 :=
        List.length_append
      have once : (s.np.tally.create ctxId).refs = s.np.tally.refs + 1 := rfl
      omega

theorem Accounted.deleteContext (acc : Accounted deferred s) (ctxId : Nat) :
    Reckoned deferred (.signaling (.deleteContext ctxId)) s
      ((Op.signaling (.deleteContext ctxId)).complete s) := by
  have start : Tallies s.np.tally s.signalingState := (tallies_tally s.np).of_same rfl rfl rfl
  have deleted := tallies_deleteContext ctxId start
  by_cases initialized : s.np.initialized = true
  · have running : s.signalingState.initialized = true := initialized
    rw [if_pos running] at deleted
    refine acc.ofTally rfl deleted acc.proper.release (acc.distinct.filter _) ?_
    have refs := acc.refs
    have live := acc.liveContexts
    have own : ReleasesItsOwn deferred (.signaling (.deleteContext ctxId)) s ↔
        ctxId ∈ s.np.tally.ids ∨ s.liveContexts deferred = 0 := by
      rw [← (tallies_tally s.np).context?_isSome]
      exact ⟨fun own => own initialized, fun own _ => own⟩
    have ids := @Tally.delete_ids s.np.tally acc.distinct ctxId
    have once : (s.np.tally.delete ctxId).refs = s.np.tally.refs - 1 := rfl
    rw [own, ids, once]
    by_cases known : ctxId ∈ s.np.tally.ids
    · have length := List.length_erase_of_mem known
      have some := List.length_pos_of_mem known
      refine iff_of_true ?_ (Or.inl known)
      omega
    · rw [List.erase_of_not_mem known, or_iff_right known]
      omega
  · have stopped : ¬s.signalingState.initialized = true := initialized
    rw [if_neg stopped] at deleted
    exact acc.ofTally rfl deleted acc.proper acc.distinct
      (iff_of_true acc.refs (fun on => absurd on initialized))

theorem Accounted.signalingTerminate (acc : Accounted deferred s) :
    Reckoned deferred (.signaling .signalingTerminate) s
      ((Op.signaling .signalingTerminate).complete s) := by
  have start : Tallies s.np.tally s.signalingState := (tallies_tally s.np).of_same rfl rfl rfl
  have ended := tallies_terminate start
  have refs := acc.refs
  by_cases initialized : s.signalingState.initialized = true
  · rw [if_pos initialized] at ended
    obtain ⟨count, ids, proper⟩ :=
      Tally.iterate_release s.np.tally.ids.length { s.np.tally with ids := [] }
    have none : s.np.tally.clear.ids = [] := ids
    have left : s.np.tally.clear.refs = s.np.tally.refs - s.np.tally.ids.length := count
    refine acc.ofTally rfl ended (proper acc.proper) (none ▸ List.nodup_nil)
      (iff_of_true ?_ trivial)
    rw [none, left]
    exact (Nat.sub_eq_of_eq_add (refs.trans (Nat.add_comm _ _))).trans (Nat.zero_add _).symm
  · rw [if_neg initialized] at ended
    exact acc.ofTally rfl ended acc.proper acc.distinct (iff_of_true refs trivial)

theorem Accounted.signaling (acc : Accounted deferred s) (call : NpSignaling.Op) :
    Reckoned deferred (.signaling call) s ((Op.signaling call).complete s) := by
  by_cases taken : ofSignaling call = true
  · cases call with
    | deleteContext ctxId => exact acc.deleteContext ctxId
    | signalingTerminate => exact acc.signalingTerminate
    | createContext => exact acc.creates taken rfl trivial
    | createContextA => exact acc.creates taken rfl trivial
    | matching2Changed => cases taken
    | _ => exact acc.keepsContexts taken rfl trivial
  · simp only [Op.complete, Op.program, Prog.when]
    rw [if_neg taken]
    refine acc.kept (tallies_tally s.np) rfl ?_
    cases call with
    | deleteContext ctxId => exact absurd rfl taken
    | _ => trivial

end Signaling

/-! ### Every operation -/

theorem Accounted.reckoned (acc : Accounted deferred s) (op : Op) :
    Reckoned deferred op s (op.complete s) := by
  have start := tallies_tally s.np
  cases op with
  | matching2Terminate => exact acc.terminate
  | createContext valid onlineId =>
    rw [createContext_complete]
    exact acc.createContextWith valid onlineId false trivial
  | createContextA valid onlineId =>
    rw [createContextA_complete]
    exact acc.createContextWith valid onlineId true trivial
  | destroyContext ctxId => exact acc.destroyContext ctxId
  | contextStart call ctxId => exact acc.contextStart call ctxId
  | contextStop call ctxId => exact acc.contextStop call ctxId
  | fireEvent => exact acc.fireEvent
  | signaling op => exact acc.signaling op
  | reply pktId errorCode body input =>
    exact acc.kept (tallies_reply pktId errorCode body input s start)
      (reply_turn pktId errorCode body input s).1 trivial
  | roomEvent n input =>
    exact acc.kept (tallies_roomEvent n input s start) (roomEvent_turn n input s).1 trivial
  | connectUser matching2Enabled =>
    refine acc.kept ?_ (unmoved_beside (beside_program rfl) s).2 trivial
    cases matching2Enabled with
    | false => exact tallies_stopRuntime acc.proper start
    | true => exact start
  | clearMmShadNetClient =>
    exact acc.kept (tallies_stopRuntime acc.proper start) rfl trivial
  | request call api ctxId valid requestOpt =>
    exact acc.kept (tallies_complete _ rfl s)
      (request_turn call api ctxId valid requestOpt s).1 trivial
  | roomMessage ctxId roomId srcMemberId =>
    exact acc.kept (tallies_complete _ rfl s)
      (roomMessage_turn ctxId roomId srcMemberId s).1 trivial
  | takeReady =>
    exact acc.kept (tallies_complete _ rfl s) (takeReady_turn s).1 trivial
  | _ =>
    exact acc.kept (tallies_complete _ rfl s)
      (unmoved_beside (beside_program rfl) s).2 trivial

theorem Accounted.next (acc : Accounted deferred s) (own : ReleasesItsOwn deferred op s) :
    Accounted deferred (op.complete s) := by
  obtain ⟨counted, staged, distinct⟩ := acc.reckoned op
  exact ⟨issued_step op s acc.issued, staged own, distinct, counted.mpr own⟩

end Steps

/-! ## Runs -/

theorem accounted_start (deferred : Bool) : Accounted deferred {} where
  issued := issued_start
  staged := nofun
  distinct := List.nodup_nil
  counted := ⟨rfl, by decide +revert⟩

/-- In every run of the two libraries the count is that of the live contexts after each
operation, exactly where every release is that of a context which ends, and none revives. -/
theorem refs_counted_iff (deferred : Bool) (ops : List Op) :
    Runs.Throughout Op.complete (RefsCounted deferred) (fun _ _ _ => True) ops {} ↔
      Runs.Admitted Op.complete (ReleasesItsOwn deferred) ops {} :=
  Runs.throughout_iff_admitted_next (fun _ acc => acc.counted)
    (fun _ _ acc own => ⟨acc.next own, trivial⟩)
    (fun op _ acc _ counted => (acc.reckoned op).counted.mp counted) (accounted_start deferred)

/-- A context is created, and one that does not exist is deleted. -/
def unknownDeleted : List Op :=
  [.signaling (.signalingInitialize true true),
    .signaling (.createContext ali true none 0 0 0),
    .signaling (.deleteContext 7)]

/-- Its reference is released, and the runtime threads are stopped under it. -/
theorem unknown_delete_releases :
    ¬RefsCounted false (runOps unknownDeleted {}) ∧
      ¬RefsCounted true (runOps unknownDeleted {}) := by
  have released : (runOps unknownDeleted {}).np.contextRefs = 0 := by decide +kernel
  have lives : ∀ deferred, (runOps unknownDeleted {}).liveContexts deferred = 1 := by
    decide +kernel
  refine ⟨fun counted => ?_, fun counted => ?_⟩
  · exact absurd (released.symm.trans (counted.refs.trans (lives false))) (by decide)
  · exact absurd (released.symm.trans (counted.refs.trans (lives true))) (by decide)

end NpMatching2
