import ShadNet.Matching2.Isolation

/-!
# The life of a context

A context that is being stopped waits for the answer to its stop, and one whose
destruction was accepted meanwhile goes when the answer has been delivered. The
start of such a context, a disconnect and a packet number that comes round again
are what can break this.
-/

namespace NpMatching2

open LockProgram NpSignaling Matching2State

/-- The event that completes the stop of the context. -/
def StoppedEvent (a : Lifecycle) (ev : PendingEvent) : Prop :=
  ev.ctxId = a.ctxId ∧ ev.owner = a.object ∧ ∃ errorCode, ev.body = .contextCb .contextStopped errorCode

def StopRequested (a : Lifecycle) (t : Traffic) : Prop :=
  ∃ pr ∈ t.pending, pr.ctxId = a.ctxId ∧ pr.reqEvent = .contextStopped

def StoppedQueued (a : Lifecycle) (t : Traffic) : Prop :=
  ∃ ev ∈ t.pendingEvents ++ t.ready, StoppedEvent a ev

/-- What will end the stop of the context: the request in the pending map, or the event queued. -/
def StopOnItsWay (a : Lifecycle) (t : Traffic) : Prop := StopRequested a t ∨ StoppedQueued a t

/-- The registry and the traffic of a library whose contexts can all come to an end. -/
structure Lived (r : Registry) (t : Traffic) : Prop where
  incarnated : Incarnated r
  packets : KeyedTable.Distinct PendingRequest.pktId t.pending
  stopping : ∀ a ∈ r.lives, a.live → a.stopPending → a.started = false ∧ StopOnItsWay a t
  destroyed : ∀ a ∈ r.lives, a.live → a.object ∈ r.destroyed → a.stopPending ∧ a.destroyPending
  condemned : ∀ a ∈ r.lives, a.live → a.destroyPending → a.object ∈ r.destroyed

section Traffic

variable {a : Lifecycle} {t : Traffic}

theorem StoppedQueued.queue (queued : StoppedQueued a t) (ev : PendingEvent) :
    StoppedQueued a (t.queue ev) := by
  obtain ⟨other, member, stopped⟩ := queued
  refine ⟨other, ?_, stopped⟩
  rcases List.mem_append.mp member with waiting | ready
  · exact List.mem_append_left _ (List.mem_append_left _ waiting)
  · exact List.mem_append_right _ ready

theorem StopOnItsWay.queue (coming : StopOnItsWay a t) (ev : PendingEvent) :
    StopOnItsWay a (t.queue ev) := by
  rcases coming with requested | queued
  · exact Or.inl requested
  · exact Or.inr (queued.queue ev)

/-- An entry only covers up the one of its own number. -/
theorem StopOnItsWay.register {pr : PendingRequest} (coming : StopOnItsWay a (t.take pr.pktId)) :
    StopOnItsWay a (t.register pr) := by
  rcases coming with ⟨other, member, stop⟩ | queued
  · exact Or.inl ⟨other, KeyedTable.mem_store.mpr (Or.inl (KeyedTable.mem_remove.mp member)), stop⟩
  · exact Or.inr queued

theorem stop_of_register {pr : PendingRequest} (other : pr.reqEvent ≠ .contextStopped ∨
    pr.ctxId ≠ a.ctxId) (coming : StopOnItsWay a (t.register pr)) :
    StopOnItsWay a (t.take pr.pktId) := by
  rcases coming with ⟨entry, member, ctxId, event⟩ | queued
  · rcases KeyedTable.mem_store.mp member with old | rfl
    · exact Or.inl ⟨entry, KeyedTable.mem_remove.mpr old, ctxId, event⟩
    · rcases other with h | h
      · exact absurd event h
      · exact absurd ctxId h
  · exact Or.inr queued

end Traffic

section Registry

variable {r : Registry} {t : Traffic} {a b : Lifecycle}

/-- What is in the registry after a change to one of its objects. -/
theorem mem_mark (inc : Incarnated r) (member : a ∈ r.lives) {f : Lifecycle → Lifecycle}
    (marked : b ∈ (r.mark a.object f).lives) :
    b = f a ∨ (b ∈ r.lives ∧ b.object ≠ a.object) := by
  obtain ⟨c, old, rfl⟩ := List.mem_map.mp marked
  by_cases named : c.object = a.object
  · rw [if_pos named, inc.distinct.eq_of_key old member named]
    exact Or.inl rfl
  · rw [if_neg named]
    exact Or.inr ⟨old, named⟩

/-- A context that is still to be stopped has not been destroyed. -/
theorem Lived.undestroyed (lived : Lived r t) (member : a ∈ r.lives) (live : a.live)
    (started : a.started) : a.stopPending = false ∧ a.object ∉ r.destroyed := by
  have unstopped : a.stopPending = false := by
    cases pending : a.stopPending with
    | false => rfl
    | true =>
      have halted := (lived.stopping a member live pending).1
      rw [started] at halted
      cases halted
  refine ⟨unstopped, ?_⟩
  intro accepted
  have pending := (lived.destroyed a member live accepted).1
  rw [unstopped] at pending
  cases pending

/-- Only the traffic has moved. -/
theorem Lived.retraffic {t' : Traffic} (lived : Lived r t)
    (packets : KeyedTable.Distinct PendingRequest.pktId t'.pending)
    (coming : ∀ a ∈ r.lives, a.live → a.stopPending → StopOnItsWay a t → StopOnItsWay a t') :
    Lived r t' := by
  refine ⟨lived.incarnated, packets, ?_, lived.destroyed, lived.condemned⟩
  intro a member live pending
  obtain ⟨halted, before⟩ := lived.stopping a member live pending
  exact ⟨halted, coming a member live pending before⟩

theorem Lived.create (lived : Lived r t) {ctxId : Nat} (free : r.slot ctxId = none) :
    Lived (r.create ctxId) t := by
  refine ⟨lived.incarnated.create free, lived.packets, ?_, ?_, ?_⟩
  all_goals intro a member live
  all_goals rcases List.mem_append.mp member with old | new
  · exact lived.stopping a old live
  · rw [List.mem_singleton.mp new]
    exact fun condition => absurd condition Bool.false_ne_true
  · exact lived.destroyed a old live
  · rw [List.mem_singleton.mp new]
    intro accepted
    exact absurd (lived.incarnated.known _ (Or.inr accepted)) (Nat.lt_irrefl _)
  · exact lived.condemned a old live
  · rw [List.mem_singleton.mp new]
    exact fun condition => absurd condition Bool.false_ne_true

theorem Lived.destroy (lived : Lived r t) (ctxId : Nat) : Lived (r.destroy ctxId) t := by
  have inc := lived.incarnated.destroy ctxId
  simp only [Registry.destroy] at inc ⊢
  cases found : r.slot ctxId with
  | none => exact lived
  | some a =>
    obtain ⟨member, live, -⟩ := Incarnated.slot_some found
    have accepted := lived.incarnated.accept member
    simp only [found] at inc
    dsimp only
    have elsewhere : ∀ b : Lifecycle, b.object ≠ a.object →
        b.object ∈ r.destroyed ++ [a.object] → b.object ∈ r.destroyed := by
      intro b other gone
      rcases List.mem_append.mp gone with old | new
      · exact old
      · exact absurd (List.mem_singleton.mp new) other
    split
    · rename_i pending
      rw [if_pos pending] at inc
      refine ⟨inc, lived.packets, ?_, ?_, ?_⟩
      all_goals intro b marked alive
      all_goals rcases mem_mark accepted member marked with rfl | ⟨old, other⟩
      · exact fun _ => lived.stopping a member live pending
      · exact lived.stopping b old alive
      · exact fun _ => ⟨pending, rfl⟩
      · exact fun gone => lived.destroyed b old alive (elsewhere b other gone)
      · exact fun _ => List.mem_append_right _ (List.mem_singleton_self _)
      · exact fun condemned => List.mem_append_left _ (lived.condemned b old alive condemned)
    · rename_i unstopped
      rw [if_neg unstopped] at inc
      refine ⟨inc, lived.packets, ?_, ?_, ?_⟩
      all_goals intro b marked alive
      all_goals rcases mem_mark accepted member marked with rfl | ⟨old, other⟩
      · cases alive
      · exact lived.stopping b old alive
      · cases alive
      · exact fun gone => lived.destroyed b old alive (elsewhere b other gone)
      · cases alive
      · exact fun condemned => List.mem_append_left _ (lived.condemned b old alive condemned)

/-- The stop of one object completes; the others still have theirs on its way. -/
theorem Lived.completeStop {t' : Traffic} (lived : Lived r t) (ctxId expectedContext : Nat)
    (packets : KeyedTable.Distinct PendingRequest.pktId t'.pending)
    (coming : ∀ b ∈ r.lives, b.live → b.stopPending →
      ¬(b.ctxId = ctxId ∧ b.object = expectedContext) → StopOnItsWay b t') :
    Lived (r.completeStop ctxId expectedContext) t' := by
  have inc := lived.incarnated.completeStop ctxId expectedContext
  have keep : (∀ b ∈ r.lives, b.live → ¬(b.ctxId = ctxId ∧ b.object = expectedContext)) →
      Lived r t' := by
    intro others
    exact lived.retraffic packets
      (fun b member live pending _ => coming b member live pending (others b member live))
  simp only [Registry.completeStop] at inc ⊢
  cases found : r.slot ctxId with
  | none =>
    refine keep ?_
    rintro b member live ⟨named, -⟩
    exact Incarnated.slot_none found member live named
  | some a =>
    obtain ⟨member, live, named⟩ := Incarnated.slot_some found
    simp only [found] at inc
    dsimp only
    split
    · rename_i other
      refine keep ?_
      rintro b member' live' ⟨named', expected⟩
      have same := lived.incarnated.slots b member' a member live' live (named'.trans named.symm)
      exact other (same ▸ expected)
    · rename_i same
      have expected : a.object = expectedContext := not_not.mp same
      rw [if_neg same] at inc
      have settled : Incarnated (r.mark a.object Lifecycle.settle) :=
        lived.incarnated.mark Lifecycle.keeps_settle
      have others : ∀ b ∈ r.lives, b.object ≠ a.object → b.live → b.stopPending →
          b.started = false ∧ StopOnItsWay b t' := by
        intro b old other alive pending
        refine ⟨(lived.stopping b old alive pending).1, coming b old alive pending ?_⟩
        exact fun here => other (here.2.trans expected.symm)
      have here : a.settle ∈ (r.mark a.object Lifecycle.settle).lives :=
        KeyedTable.mem_adjust_self member rfl
      split
      · rename_i condemned
        rw [if_pos condemned] at inc
        have origin : ∀ b ∈ ((r.mark a.object Lifecycle.settle).free a.object).lives, b.live →
            b ∈ r.lives ∧ b.object ≠ a.object := by
          intro b marked alive
          rcases @mem_mark _ a.settle b settled here Lifecycle.release marked with rfl | ⟨old, other⟩
          · cases alive
          · rcases mem_mark lived.incarnated member old with rfl | known
            · exact absurd rfl other
            · exact known
        refine ⟨inc, packets, ?_, ?_, ?_⟩
        all_goals intro b marked alive
        all_goals obtain ⟨old, other⟩ := origin b marked alive
        · exact others b old other alive
        · exact lived.destroyed b old alive
        · exact lived.condemned b old alive
      · rename_i uncondemned
        rw [if_neg uncondemned] at inc
        refine ⟨inc, packets, ?_, ?_, ?_⟩
        all_goals intro b marked alive
        all_goals rcases mem_mark lived.incarnated member marked with rfl | ⟨old, other⟩
        · exact fun condition => absurd condition Bool.false_ne_true
        · exact others b old other alive
        · intro accepted
          exact absurd (lived.destroyed a member live accepted).2 uncondemned
        · exact lived.destroyed b old alive
        · exact fun condemned => absurd condemned uncondemned
        · exact lived.condemned b old alive

/-- A start is safe on a context whose destruction was not accepted. -/
theorem Lived.start {t' : Traffic} (lived : Lived r t) {ctxId : Nat}
    (slot : r.slot ctxId = some a) (stopped : a.started = false)
    (free : a.destroyPending = false)
    (packets : KeyedTable.Distinct PendingRequest.pktId t'.pending)
    (coming : ∀ b ∈ r.lives, b ≠ a → b.live → b.stopPending → StopOnItsWay b t') :
    Lived (r.start ctxId) t' := by
  obtain ⟨member, live, -⟩ := Incarnated.slot_some slot
  have inc := lived.incarnated.start ctxId
  have form : r.start ctxId = r.mark a.object Lifecycle.begin_ := by
    simp [Registry.start, slot, stopped]
  rw [form] at inc ⊢
  refine ⟨inc, packets, ?_, ?_, ?_⟩
  all_goals intro b marked alive
  all_goals rcases mem_mark lived.incarnated member marked with rfl | ⟨old, other⟩
  · exact fun condition => absurd condition Bool.false_ne_true
  · intro pending
    refine ⟨(lived.stopping b old alive pending).1, coming b old ?_ alive pending⟩
    exact fun same => other (congrArg Lifecycle.object same)
  · intro accepted
    have condemned := (lived.destroyed a member live accepted).2
    rw [free] at condemned
    cases condemned
  · exact lived.destroyed b old alive
  · exact fun condition => absurd condition Bool.false_ne_true
  · exact lived.condemned b old alive

/-- A started context is stopped, and its stop is on its way. -/
theorem Lived.stop {t' : Traffic} (lived : Lived r t) {ctxId : Nat}
    (slot : r.slot ctxId = some a) (started : a.started)
    (packets : KeyedTable.Distinct PendingRequest.pktId t'.pending)
    (coming : StopOnItsWay a t')
    (others : ∀ b ∈ r.lives, b.live → b.stopPending → StopOnItsWay b t') :
    Lived (r.stop ctxId) t' := by
  obtain ⟨member, live, -⟩ := Incarnated.slot_some slot
  obtain ⟨-, unaccepted⟩ := lived.undestroyed member live started
  have inc := lived.incarnated.stop ctxId
  have form : r.stop ctxId = r.mark a.object Lifecycle.halt := by
    simp [Registry.stop, slot, started]
  rw [form] at inc ⊢
  refine ⟨inc, packets, ?_, ?_, ?_⟩
  all_goals intro b marked alive
  all_goals rcases mem_mark lived.incarnated member marked with rfl | ⟨old, other⟩
  · exact fun _ => ⟨rfl, coming⟩
  · intro pending
    exact ⟨(lived.stopping b old alive pending).1, others b old alive pending⟩
  · exact fun accepted => absurd accepted unaccepted
  · exact lived.destroyed b old alive
  · exact fun condemned => lived.condemned a member live condemned
  · exact lived.condemned b old alive

/-- A stop that could not be submitted is completed at once. -/
theorem Lived.stop_failed (lived : Lived r t) {ctxId : Nat} (slot : r.slot ctxId = some a)
    (started : a.started) : Lived ((r.stop ctxId).completeStop ctxId a.object) t := by
  obtain ⟨member, live, named⟩ := Incarnated.slot_some slot
  have inc := lived.incarnated.stop ctxId
  obtain ⟨-, unaccepted⟩ := lived.undestroyed member live started
  have uncondemned : ¬a.destroyPending := fun h => unaccepted (lived.condemned a member live h)
  have form : r.stop ctxId = r.mark a.object Lifecycle.halt := by
    simp [Registry.stop, slot, started]
  rw [form] at inc ⊢
  have here : a.halt ∈ (r.mark a.object Lifecycle.halt).lives :=
    KeyedTable.mem_adjust_self member rfl
  have slot' : (r.mark a.object Lifecycle.halt).slot ctxId = some a.halt := by
    have found := inc.slot_of_live here live
    exact named ▸ found
  have form' : (r.mark a.object Lifecycle.halt).completeStop ctxId a.object =
      (r.mark a.object Lifecycle.halt).mark a.halt.object Lifecycle.settle := by
    have same : a.halt.object = a.object := rfl
    have kept : a.halt.destroyPending = a.destroyPending := rfl
    simp [Registry.completeStop, slot', same, kept, uncondemned]
  have inc' : Incarnated ((r.mark a.object Lifecycle.halt).mark a.halt.object Lifecycle.settle) :=
    inc.mark Lifecycle.keeps_settle
  rw [form']
  refine ⟨inc', lived.packets, ?_, ?_, ?_⟩
  all_goals intro b marked alive
  all_goals rcases mem_mark inc here marked with rfl | ⟨old, other⟩
  · exact fun condition => absurd condition Bool.false_ne_true
  · rcases mem_mark lived.incarnated member old with rfl | ⟨old, -⟩
    · exact absurd rfl other
    · exact lived.stopping b old alive
  · exact fun accepted => absurd accepted unaccepted
  · rcases mem_mark lived.incarnated member old with rfl | ⟨old, -⟩
    · exact absurd rfl other
    · exact lived.destroyed b old alive
  · exact fun condemned => absurd condemned uncondemned
  · rcases mem_mark lived.incarnated member old with rfl | ⟨old, -⟩
    · exact absurd rfl other
    · exact lived.condemned b old alive

theorem Lived.reset {t' : Traffic} (lived : Lived r t)
    (packets : KeyedTable.Distinct PendingRequest.pktId t'.pending) : Lived r.reset t' := by
  refine ⟨lived.incarnated.reset, packets, ?_, ?_, ?_⟩
  all_goals
    intro b member alive
    obtain ⟨c, -, rfl⟩ := List.mem_map.mp member
    cases alive

/-! ## The dispatcher frees what is to go -/

/-- The object is the only one its slot can hold, and it is gone or to go with its stop. -/
structure Leaving (object ctxId : Nat) (r : Registry) : Prop where
  incarnated : Incarnated r
  sole : ∀ b ∈ r.lives, b.live → b.ctxId = ctxId → b.object = object
  condemned : object ∈ r.freed ∨
    ∃ a ∈ r.lives, a.live ∧ a.object = object ∧ a.ctxId = ctxId ∧ a.destroyPending

theorem completeStop_lives (ctxId expectedContext : Nat) :
    ∃ g : Lifecycle → Lifecycle, (r.completeStop ctxId expectedContext).lives = r.lives.map g ∧
      ∀ x, (g x).object = x.object ∧ (g x).ctxId = x.ctxId ∧ ((g x).live → x.live) := by
  let settle (a : Lifecycle) (x : Lifecycle) : Lifecycle :=
    if x.object = a.object then x.settle else x
  let release (a : Lifecycle) (x : Lifecycle) : Lifecycle :=
    if x.object = a.object then x.release else x
  have settle_keeps : ∀ a x, (settle a x).object = x.object ∧ (settle a x).ctxId = x.ctxId ∧
      (settle a x).live = x.live := by
    intro a x
    simp only [settle]
    split <;> exact ⟨rfl, rfl, rfl⟩
  have release_keeps : ∀ a x, (release a x).object = x.object ∧
      (release a x).ctxId = x.ctxId ∧ ((release a x).live → x.live) := by
    intro a x
    simp only [release]
    split
    · exact ⟨rfl, rfl, fun live => absurd live Bool.false_ne_true⟩
    · exact ⟨rfl, rfl, id⟩
  simp only [Registry.completeStop]
  cases r.slot ctxId with
  | none => exact ⟨id, (List.map_id _).symm, fun _ => ⟨rfl, rfl, id⟩⟩
  | some a =>
    dsimp only
    split
    · exact ⟨id, (List.map_id _).symm, fun _ => ⟨rfl, rfl, id⟩⟩
    · split
      · refine ⟨release a ∘ settle a, by rw [← List.map_map]; rfl, ?_⟩
        intro x
        obtain ⟨object, ctxId, live⟩ := release_keeps a (settle a x)
        obtain ⟨object', ctxId', live'⟩ := settle_keeps a x
        exact ⟨object.trans object', ctxId.trans ctxId', fun h => live' ▸ live h⟩
      · refine ⟨settle a, rfl, ?_⟩
        intro x
        obtain ⟨object, ctxId, live⟩ := settle_keeps a x
        exact ⟨object, ctxId, fun h => live ▸ h⟩

theorem freed_completeStop {object : Nat} (ctxId expectedContext : Nat)
    (gone : object ∈ r.freed) : object ∈ (r.completeStop ctxId expectedContext).freed := by
  simp only [Registry.completeStop]
  cases r.slot ctxId with
  | none => exact gone
  | some a =>
    dsimp only
    split
    · exact gone
    · split
      · exact List.mem_append_left _ gone
      · exact gone

/-- A completed stop frees the object it is for and leaves a different one in its slot. -/
theorem Leaving.completeStop {object ctxId : Nat} (leaving : Leaving object ctxId r)
    (stopped expectedContext : Nat) :
    Leaving object ctxId (r.completeStop stopped expectedContext) ∧
      (stopped = ctxId → expectedContext = object →
        object ∈ (r.completeStop stopped expectedContext).freed) := by
  have inc := leaving.incarnated
  have sole : ∀ b ∈ (r.completeStop stopped expectedContext).lives, b.live →
      b.ctxId = ctxId → b.object = object := by
    obtain ⟨g, lives, keeps⟩ := @completeStop_lives r stopped expectedContext
    intro b member live named
    rw [lives] at member
    obtain ⟨x, old, rfl⟩ := List.mem_map.mp member
    obtain ⟨object', ctxId', live'⟩ := keeps x
    exact object'.trans (leaving.sole x old (live' live) (ctxId'.symm.trans named))
  rcases leaving.condemned with gone | ⟨a, member, live, rfl, rfl, condemned⟩
  · have still := freed_completeStop stopped expectedContext gone
    exact ⟨⟨inc.completeStop stopped expectedContext, sole, Or.inl still⟩, fun _ _ => still⟩
  · have slot := inc.slot_of_live member live
    have freed : stopped = a.ctxId → expectedContext = a.object →
        a.object ∈ (r.completeStop stopped expectedContext).freed := by
      rintro rfl rfl
      simp [Registry.completeStop, slot, condemned, Registry.free]
    refine ⟨⟨inc.completeStop stopped expectedContext, sole, ?_⟩, freed⟩
    by_cases here : stopped = a.ctxId ∧ expectedContext = a.object
    · exact Or.inl (freed here.1 here.2)
    · refine Or.inr ⟨a, ?_, live, rfl, rfl, condemned⟩
      simp only [Registry.completeStop]
      cases found : r.slot stopped with
      | none => exact member
      | some b =>
        obtain ⟨member', live', named⟩ := Incarnated.slot_some found
        dsimp only
        split
        · exact member
        · rename_i expected
          have other : a.object ≠ b.object := by
            intro same
            have equal := inc.distinct.eq_of_key member member' same
            exact here ⟨named.symm.trans (congrArg Lifecycle.ctxId equal.symm),
              (not_not.mp expected).symm.trans same.symm⟩
          have kept : a ∈ (r.mark b.object Lifecycle.settle).lives :=
            KeyedTable.mem_adjust_other member other
          split
          · exact KeyedTable.mem_adjust_other kept other
          · exact kept

theorem Leaving.fire {object ctxId : Nat} (leaving : Leaving object ctxId r)
    (ev : PendingEvent) : Leaving object ctxId (r.fire ev) := by
  simp only [Registry.fire]
  split
  · exact (leaving.completeStop ev.ctxId ev.owner).1
  · exact leaving

theorem freed_fire {object : Nat} (ev : PendingEvent) (gone : object ∈ r.freed) :
    object ∈ (r.fire ev).freed := by
  simp only [Registry.fire]
  split
  · exact freed_completeStop ev.ctxId ev.owner gone
  · exact gone

/-- Firing a batch keeps the object leaving, and frees it if its event is in the batch. -/
theorem Leaving.fireAll (leaving : Leaving a.object a.ctxId r) (events : List PendingEvent) :
    Leaving a.object a.ctxId (events.foldl (fun r ev => r.fire ev) r) ∧
      ((a.object ∈ r.freed ∨ ∃ ev ∈ events, StoppedEvent a ev) →
        a.object ∈ (events.foldl (fun r ev => r.fire ev) r).freed) := by
  induction events generalizing r with
  | nil =>
    refine ⟨leaving, ?_⟩
    rintro (gone | ⟨ev, member, -⟩)
    · exact gone
    · cases member
  | cons ev rest ih =>
    obtain ⟨kept, freed⟩ := ih (leaving.fire ev)
    refine ⟨kept, ?_⟩
    rintro (gone | ⟨other, member, stopped⟩)
    · exact freed (Or.inl (freed_fire ev gone))
    · rcases List.mem_cons.mp member with rfl | later
      · obtain ⟨ctxId, owner, errorCode, body⟩ := stopped
        have done := (leaving.completeStop other.ctxId other.owner).2 ctxId owner
        refine freed (Or.inl ?_)
        simpa only [Registry.fire, body] using done
      · exact freed (Or.inr ⟨other, later, stopped⟩)

end Registry

theorem dispatchRunning_completeStop (ctxId expectedContext : Nat) (s : Matching2State) :
    (contextManagerCompleteStop ctxId expectedContext s).dispatchRunning = s.dispatchRunning := by
  simp only [contextManagerCompleteStop]
  split
  · rfl
  · split
    · rfl
    · split <;> rfl

theorem fireEvent_next {s : Matching2State} {ev : PendingEvent} {rest : List PendingEvent}
    (next : s.ready = ev :: rest) :
    (fireEvent s).ready = rest ∧ (fireEvent s).pendingEvents = s.pendingEvents ∧
      (fireEvent s).registry = s.registry.fire ev ∧
      (fireEvent s).dispatchRunning = s.dispatchRunning ∧
      (fireEvent s).dispatchHolds = s.dispatchHolds := by
  have complete : Op.fireEvent.complete s = fireEvent s := rfl
  obtain ⟨empty, -⟩ | ⟨ev', rest', same, traffic, registry⟩ := fireEvent_turn s
  · rw [next] at empty
    cases empty
  · rw [next] at same
    cases same
    rw [complete] at traffic registry
    refine ⟨congrArg Traffic.ready traffic, congrArg Traffic.pendingEvents traffic, registry, ?_⟩
    simp only [fireEvent, next]
    split
    · exact ⟨dispatchRunning_completeStop _ _ _,
        congrArg Queues.dispatchHolds (queues_contextManagerCompleteStop _ _ _)⟩
    · exact ⟨rfl, rfl⟩

/-- The dispatcher fires what it has taken. -/
def fireReady (s : Matching2State) : Matching2State :=
  runOps (List.replicate s.ready.length .fireEvent) s

theorem fireReady_spec (s : Matching2State) :
    (fireReady s).ready = [] ∧ (fireReady s).pendingEvents = s.pendingEvents ∧
      (fireReady s).registry = s.ready.foldl (fun r ev => r.fire ev) s.registry ∧
      (fireReady s).dispatchRunning = s.dispatchRunning ∧
      (fireReady s).dispatchHolds = s.dispatchHolds := by
  suffices general : ∀ n s, s.ready.length = n →
      let s' := runOps (List.replicate n .fireEvent) s
      s'.ready = [] ∧ s'.pendingEvents = s.pendingEvents ∧
        s'.registry = s.ready.foldl (fun r ev => r.fire ev) s.registry ∧
        s'.dispatchRunning = s.dispatchRunning ∧ s'.dispatchHolds = s.dispatchHolds from
    general s.ready.length s rfl
  intro n
  induction n with
  | zero =>
    intro s length
    have empty := List.eq_nil_of_length_eq_zero length
    exact ⟨empty, rfl, by simp [runOps, empty], rfl, rfl⟩
  | succ n ih =>
    intro s length
    obtain ⟨ev, rest, next⟩ := List.exists_cons_of_length_eq_add_one length
    obtain ⟨ready, pendingEvents, registry, running, holds⟩ := fireEvent_next next
    have left : (Op.fireEvent.complete s).ready.length = n := by
      rw [show Op.fireEvent.complete s = fireEvent s from rfl, ready]
      simpa [next] using length
    obtain ⟨empty, later, folded, running', holds'⟩ := ih (Op.fireEvent.complete s) left
    rw [show Op.fireEvent.complete s = fireEvent s from rfl] at empty later folded running' holds'
    rw [ready, registry] at folded
    refine ⟨empty, later.trans pendingEvents, ?_, running'.trans running, holds'.trans holds⟩
    rw [next, List.foldl_cons]
    exact folded

/-- Two rounds of the dispatcher: the batch it has taken, and then the queue. -/
def drain (s : Matching2State) : Matching2State :=
  fireReady (Op.takeReady.complete (fireReady s))

/-- With the dispatcher running and no call holding it, a queued stop frees its slot. -/
theorem drain_frees {s : Matching2State} {a : Lifecycle} (lived : Lived s.registry s.traffic)
    (member : a ∈ s.registry.lives) (live : a.live) (accepted : a.object ∈ s.destroyed)
    (queued : StoppedQueued a s.traffic) (running : s.dispatchRunning)
    (free : s.dispatchHolds = 0) :
    a.object ∈ (drain s).freed ∧ (drain s).context? a.ctxId = none := by
  have leaving : Leaving a.object a.ctxId s.registry := by
    refine ⟨lived.incarnated, ?_, Or.inr ⟨a, member, live, rfl, rfl, ?_⟩⟩
    · intro b known alive named
      exact congrArg Lifecycle.object (lived.incarnated.slots b known a member alive live named)
    · exact (lived.destroyed a member live accepted).2
  obtain ⟨ready₁, waiting₁, registry₁, running₁, free₁⟩ := fireReady_spec s
  obtain ⟨leaving₁, freed₁⟩ := leaving.fireAll s.ready
  rw [← registry₁] at leaving₁ freed₁
  let s₂ := Op.takeReady.complete (fireReady s)
  have taken : s₂ = { fireReady s with ready := s.pendingEvents, pendingEvents := [] } := by
    have due : (fireReady s).dispatchRunning ∧ (fireReady s).dispatchHolds = 0 ∧
        (fireReady s).ready = [] := ⟨running₁.trans running, free₁.trans free, ready₁⟩
    rw [← waiting₁]
    exact if_pos due
  have ready₂ : s₂.ready = s.pendingEvents := by rw [taken]
  have registry₂ : s₂.registry = (fireReady s).registry := by rw [taken]; rfl
  obtain ⟨-, -, registry₃, -, -⟩ := fireReady_spec s₂
  obtain ⟨leaving₃, freed₃⟩ := (registry₂.symm ▸ leaving₁ : Leaving _ _ s₂.registry).fireAll
    s₂.ready
  rw [← registry₃] at leaving₃ freed₃
  have gone : a.object ∈ (drain s).registry.freed := by
    obtain ⟨ev, somewhere, stopped⟩ := queued
    refine freed₃ ?_
    rcases List.mem_append.mp somewhere with waiting | ready
    · exact Or.inr ⟨ev, ready₂.symm ▸ waiting, stopped⟩
    · exact Or.inl (registry₂.symm ▸ freed₁ (Or.inr ⟨ev, ready, stopped⟩))
  refine ⟨gone, ?_⟩
  cases found : (drain s).context? a.ctxId with
  | none => rfl
  | some ctx =>
    obtain ⟨known, alive, named⟩ := lives_of_context found
    have same := leaving₃.sole ctx.lifecycle known alive named
    have dead := (leaving₃.incarnated.freed ctx.lifecycle known).mp (same.symm ▸ gone)
    rw [show ctx.lifecycle.live = ctx.live from rfl, alive] at dead
    cases dead

/-! ## The law -/

/-- What holds of the contexts in every state. -/
structure LifecycleLaw (s : Matching2State) : Prop where
  stopping : ∀ ctx ∈ s.contexts, ctx.live → ctx.stopPending → StopOnItsWay ctx.lifecycle s.traffic
  destroyed : ∀ ctx ∈ s.contexts, ctx.live → ctx.object ∈ s.destroyed → ctx.started = false
  freedOnce : s.freed.Nodup
  reusable : ∀ ctx ∈ s.contexts, ctx.live → ctx.object ∈ s.destroyed →
    StoppedQueued ctx.lifecycle s.traffic → s.dispatchRunning → s.dispatchHolds = 0 →
      ctx.object ∈ (drain s).freed ∧ (drain s).context? ctx.ctxId = none

/-- The answer to a stop queues its event on the context in the slot. -/
def StopAnswered (op : Op) (s s' : Matching2State) : Prop :=
  ∀ pktId errorCode body input, op = .reply pktId errorCode body input →
    ∀ pr, s.pending? pktId = some pr → pr.reqEvent = .contextStopped →
      ∀ ctx, s.context? pr.ctxId = some ctx → StoppedQueued ctx.lifecycle s'.traffic

/-- The entry of the next packet is not all there is of the stop of one of these contexts. -/
def Spares (s : Matching2State) (among : Lifecycle → Prop) : Prop :=
  ∀ b ∈ s.registry.lives, b.live → b.stopPending → among b →
    StopOnItsWay b (s.traffic.take (nextPacket s))

/-- A start is not accepted on a context whose destruction was, a submission does not take the
packet number of the only stop of a context, and the client is not cleared while a stop waits for
its reply. -/
def StopsKept (op : Op) (s : Matching2State) : Prop :=
  match op with
  | .contextStart _ ctxId => ∀ a, Starting ctxId s a →
      a.destroyPending = false ∧ (connected s → Spares s (· ≠ a))
  | .contextStop _ ctxId => ∀ a, Stopping ctxId s a → connected s → Spares s (fun _ => True)
  | .request _ api ctxId valid _ =>
    SubmitsRequest api ctxId valid s → s.matching2Enabled → Spares s (fun _ => True)
  | .clearMmShadNetClient =>
    ∀ b ∈ s.registry.lives, b.live → b.stopPending → StoppedQueued b s.traffic
  | _ => True

theorem lifecycleLaw_of_lived {s : Matching2State} (lived : Lived s.registry s.traffic) :
    LifecycleLaw s := by
  have known : ∀ ctx ∈ s.contexts, ctx.lifecycle ∈ s.registry.lives :=
    fun ctx member => List.mem_map_of_mem member
  constructor
  · intro ctx member live pending
    exact (lived.stopping ctx.lifecycle (known ctx member) live pending).2
  · intro ctx member live accepted
    have pending := (lived.destroyed ctx.lifecycle (known ctx member) live accepted).1
    exact (lived.stopping ctx.lifecycle (known ctx member) live pending).1
  · exact lived.incarnated.freedOnce
  · intro ctx member live accepted queued running free
    exact drain_frees lived (known ctx member) live accepted queued running free

theorem LifecycleLaw.lives {s : Matching2State} (law : LifecycleLaw s) :
    (∀ a ∈ s.registry.lives, a.live → a.stopPending → StopOnItsWay a s.traffic) ∧
      ∀ a ∈ s.registry.lives, a.live → a.object ∈ s.destroyed → a.started = false := by
  constructor
  · intro a member
    obtain ⟨ctx, known, rfl⟩ := List.mem_map.mp member
    exact law.stopping ctx known
  · intro a member
    obtain ⟨ctx, known, rfl⟩ := List.mem_map.mp member
    exact law.destroyed ctx known

theorem lived_start : Lived ({} : Matching2State).registry ({} : Matching2State).traffic := by
  refine ⟨issued_start.incarnated, List.nodup_nil, ?_, ?_, ?_⟩ <;> simp [registry]

section Steps

variable {s s' : Matching2State} {r' : Registry} {t : Traffic}

theorem Lived.at (lived : Lived r' t) (registry : s'.registry = r') (traffic : s'.traffic = t) :
    Lived s'.registry s'.traffic := by
  rw [registry, traffic]
  exact lived

/-- An event more in the queue. -/
theorem Lived.queue (lived : Lived r' t) (ev : PendingEvent) : Lived r' (t.queue ev) :=
  lived.retraffic lived.packets (fun _ _ _ _ coming => coming.queue ev)

/-- What an accepted submission leaves of the stops, if it spares them. -/
theorem Accepted.spares {ctxId object : Nat} {reqEvent : Matching2Event} {after : Traffic}
    {b : Lifecycle} (accepted : Accepted s ctxId object reqEvent after)
    (coming : StopOnItsWay b s.traffic)
    (spared : s.matching2Enabled ∨ isContextLifecycleEvent reqEvent →
      StopOnItsWay b (s.traffic.take (nextPacket s))) : StopOnItsWay b after := by
  cases accepted with
  | answered ev owner request disabled other => exact coming.queue ev
  | registered pr pktId ctx issuer event enabled =>
    have kept := spared enabled
    rw [← pktId] at kept
    exact kept.register

/-- And the other way round: the stops it leaves were spared. -/
theorem Accepted.spared {ctxId object : Nat} {reqEvent : Matching2Event} {after : Traffic}
    {b : Lifecycle} (accepted : Accepted s ctxId object reqEvent after)
    (enabled : s.matching2Enabled ∨ isContextLifecycleEvent reqEvent)
    (other : reqEvent ≠ .contextStopped ∨ ctxId ≠ b.ctxId) (coming : StopOnItsWay b after) :
    StopOnItsWay b (s.traffic.take (nextPacket s)) := by
  cases accepted with
  | answered ev owner request disabled unlike =>
    simp [disabled, unlike] at enabled
  | registered pr pktId ctx issuer event through =>
    subst ctx event
    rw [← pktId]
    exact stop_of_register other coming

theorem Accepted.packets {ctxId object : Nat} {reqEvent : Matching2Event} {after : Traffic}
    (accepted : Accepted s ctxId object reqEvent after)
    (packets : KeyedTable.Distinct PendingRequest.pktId s.traffic.pending) :
    KeyedTable.Distinct PendingRequest.pktId after.pending := by
  cases accepted with
  | answered ev owner request disabled other => exact packets
  | registered pr pktId ctx issuer event enabled => exact packets.store

theorem Accepted.stops {ctxId object : Nat} {after : Traffic} {a : Lifecycle}
    (accepted : Accepted s ctxId object .contextStopped after) (named : a.ctxId = ctxId) :
    StopOnItsWay a after := by
  cases accepted with
  | answered ev owner request disabled other => cases other
  | registered pr pktId ctx issuer event enabled =>
    exact Or.inl ⟨pr, KeyedTable.mem_store.mpr (Or.inr rfl), ctx.trans named.symm, event⟩

/-- The answered stop is on its way as its event, and the others as they were. -/
theorem Lived.reply (lived : Lived s.registry s.traffic) {pktId : Nat} {pr : PendingRequest}
    (found : s.pending? pktId = some pr)
    (turn : (s.registry.slot pr.ctxId = none ∧ t = s.traffic.take pktId) ∨
      ∃ a ev, s.registry.slot pr.ctxId = some a ∧ AnswerEvent pr a ev ∧
        t = (s.traffic.take pktId).queue ev) : Lived s.registry t := by
  have packets : KeyedTable.Distinct PendingRequest.pktId (s.traffic.take pktId).pending :=
    lived.packets.remove
  obtain ⟨entered, number⟩ := KeyedTable.lookup_some found
  -- a stop on its way by another entry or by an event stays so
  have still : ∀ b, StopOnItsWay b s.traffic →
      StopOnItsWay b (s.traffic.take pktId) ∨
        (pr.ctxId = b.ctxId ∧ pr.reqEvent = .contextStopped) := by
    rintro b (⟨other, member, ctxId, event⟩ | queued)
    · by_cases same : other.pktId = pktId
      · have equal : other = pr :=
          lived.packets.eq_of_key member entered (same.trans number.symm)
        exact Or.inr (equal ▸ ⟨ctxId, event⟩)
      · exact Or.inl (Or.inl ⟨other, KeyedTable.mem_remove.mpr ⟨member, same⟩, ctxId, event⟩)
    · exact Or.inl (Or.inr queued)
  rcases turn with ⟨empty, rfl⟩ | ⟨a, ev, slot, answer, rfl⟩
  · refine lived.retraffic packets ?_
    intro b member live _ coming
    rcases still b coming with kept | ⟨named, -⟩
    · exact kept
    · exact absurd named.symm (Incarnated.slot_none empty member live)
  · refine lived.retraffic packets ?_
    intro b member live _ coming
    rcases still b coming with kept | ⟨named, event⟩
    · exact kept.queue ev
    · obtain ⟨member', live', named'⟩ := Incarnated.slot_some slot
      have same : b = a :=
        lived.incarnated.slots b member a member' live live' (named.symm.trans named'.symm)
      obtain ⟨ctxId, owner, stopped, -⟩ := answer
      obtain ⟨errorCode, body⟩ := stopped (by rw [event]; rfl)
      refine Or.inr ⟨ev, ?_, ctxId.trans named, same ▸ owner, errorCode, event ▸ body⟩
      exact List.mem_append_left _ (List.mem_append_right _ (List.mem_singleton_self ev))

theorem Lived.fire (lived : Lived s.registry s.traffic) {ev : PendingEvent}
    {rest : List PendingEvent} (next : s.ready = ev :: rest) :
    Lived (s.registry.fire ev) { s.traffic with ready := rest } := by
  -- a stop that only the fired event would have completed is completed
  have still : ∀ b, StopOnItsWay b s.traffic → ¬StoppedEvent b ev →
      StopOnItsWay b { s.traffic with ready := rest } := by
    rintro b (requested | ⟨other, member, stopped⟩) unlike
    · exact Or.inl requested
    · refine Or.inr ⟨other, ?_, stopped⟩
      rcases List.mem_append.mp member with waiting | ready
      · exact List.mem_append_left _ waiting
      · have ready' : other ∈ ev :: rest := next ▸ ready
        rcases List.mem_cons.mp ready' with rfl | later
        · exact absurd stopped unlike
        · exact List.mem_append_right _ later
  simp only [Registry.fire]
  split
  · rename_i errorCode body
    refine lived.completeStop ev.ctxId ev.owner lived.packets ?_
    intro b member live pending elsewhere
    refine still b (lived.stopping b member live pending).2 ?_
    exact fun stopped => elsewhere ⟨stopped.1.symm, stopped.2.1.symm⟩
  · rename_i other
    refine lived.retraffic lived.packets ?_
    intro b member live _ coming
    refine still b coming ?_
    rintro ⟨-, -, errorCode, body⟩
    exact other errorCode body

theorem lived_createContextWith {valid aVariant : Bool} {onlineId : OrbisNpOnlineId}
    (lived : Lived s.registry s.traffic) :
    let s' := ((createContextWith valid onlineId aVariant).exec s).2
    Lived s'.registry s'.traffic := by
  obtain ⟨traffic, same | ⟨ctxId, free, made⟩⟩ :=
    createContextWith_turn valid onlineId aVariant s
  · exact lived.at same traffic
  · exact (lived.create free).at made traffic

/-- Every operation that keeps the stops keeps the lives of the contexts in order. -/
theorem lived_step (op : Op) (s : Matching2State) (lived : Lived s.registry s.traffic)
    (kept : StopsKept op s) : Lived (op.complete s).registry (op.complete s).traffic := by
  by_cases beside : op.beside
  · obtain ⟨traffic, registry⟩ := unmoved_beside (beside_program beside) s
    exact lived.at registry traffic
  cases op with
  | matching2Terminate =>
    rcases terminate_turn s with ⟨traffic, registry⟩ | ⟨registry, same | cleared⟩
    · exact lived.at registry traffic
    · exact (lived.reset lived.packets).at registry same
    · have reset : Lived s.registry.reset { s.traffic with pendingEvents := [] } :=
        lived.reset lived.packets
      exact reset.at registry cleared
  | createContext valid onlineId =>
    rw [createContext_complete]
    exact lived_createContextWith lived
  | createContextA valid onlineId =>
    rw [createContextA_complete]
    exact lived_createContextWith lived
  | destroyContext ctxId =>
    obtain ⟨traffic, same | gone⟩ := destroyContext_turn ctxId s
    · exact lived.at same traffic
    · exact (lived.destroy ctxId).at gone traffic
  | contextStart call ctxId =>
    rcases contextStart_turn call ctxId s with
      ⟨-, traffic, registry⟩ | ⟨a, starting, registry, ⟨-, same⟩ | ⟨reached, accepted⟩⟩
    · exact lived.at registry traffic
    · have free := (kept a starting).1
      obtain ⟨-, -, slot, stopped⟩ := starting
      have started := lived.start slot stopped free lived.packets
        (fun b member _ live pending => (lived.stopping b member live pending).2)
      exact started.at registry same
    · obtain ⟨free, spares⟩ := kept a starting
      obtain ⟨-, -, slot, stopped⟩ := starting
      have started := lived.start slot stopped free (accepted.packets lived.packets)
        (fun b member other live pending => accepted.spares
          (lived.stopping b member live pending).2
          (fun _ => spares reached b member live pending other))
      exact started.at registry rfl
  | contextStop call ctxId =>
    rcases contextStop_turn call ctxId s with
      ⟨-, traffic, registry⟩ | ⟨a, stopping, ⟨-, traffic, registry⟩ | ⟨reached, registry, accepted⟩⟩
    · exact lived.at registry traffic
    · exact (lived.stop_failed stopping.2.1 stopping.2.2).at registry traffic
    · have spares := kept a stopping reached
      obtain ⟨-, slot, started⟩ := stopping
      have named := (Incarnated.slot_some slot).2.2
      have stopped := lived.stop slot started (accepted.packets lived.packets)
        (accepted.stops named) (fun b member live pending => accepted.spares
          (lived.stopping b member live pending).2
          (fun _ => spares b member live pending trivial))
      exact stopped.at registry rfl
  | request call api ctxId valid requestOpt =>
    obtain ⟨registry, ⟨submits, a, event, slot, other, accepted⟩ |
      ⟨-, same | ⟨a, ev, -, -, -, queued⟩⟩⟩ := request_turn call api ctxId valid requestOpt s
    · refine (lived.retraffic (accepted.packets lived.packets) ?_).at registry rfl
      intro b member live pending coming
      refine accepted.spares coming (fun through => ?_)
      have enabled : s.matching2Enabled := by simpa [other] using through
      exact kept submits enabled b member live pending trivial
    · exact lived.at registry same
    · exact (lived.queue ev).at registry queued
  | reply pktId errorCode body input =>
    obtain ⟨registry, ⟨-, same⟩ | ⟨pr, found, turn⟩⟩ := reply_turn pktId errorCode body input s
    · exact lived.at registry same
    · exact (lived.reply found turn).at registry rfl
  | roomEvent n input =>
    obtain ⟨registry, same | ⟨ev, -, queued⟩⟩ := roomEvent_turn n input s
    · exact lived.at registry same
    · exact (lived.queue ev).at registry queued
  | roomMessage ctxId roomId srcMemberId =>
    obtain ⟨registry, same | ⟨ev, -, queued⟩⟩ := roomMessage_turn ctxId roomId srcMemberId s
    · exact lived.at registry same
    · exact (lived.queue ev).at registry queued
  | takeReady =>
    obtain ⟨registry, same | ⟨empty, taken⟩⟩ := takeReady_turn s
    · exact lived.at registry same
    · refine Lived.at ?_ registry taken
      refine lived.retraffic lived.packets ?_
      rintro b - - - (requested | ⟨ev, member, stopped⟩)
      · exact Or.inl requested
      · refine Or.inr ⟨ev, ?_, stopped⟩
        rcases List.mem_append.mp member with waiting | ready
        · exact List.mem_append_right _ waiting
        · have ready' : ev ∈ s.ready := ready
          simp [empty] at ready'
  | fireEvent =>
    rcases fireEvent_turn s with ⟨-, same⟩ | ⟨ev, rest, next, traffic, registry⟩
    · rw [same]
      exact lived
    · exact (lived.fire next).at registry traffic
  | clearMmShadNetClient =>
    have cleared : Lived s.registry { s.traffic with pending := [] } :=
      lived.retraffic List.nodup_nil
        (fun b member live pending _ => Or.inr (kept b member live pending))
    exact cleared.at rfl rfl
  | _ => simp [Op.beside] at beside

theorem stopAnswered_step (op : Op) (s : Matching2State) : StopAnswered op s (op.complete s) := by
  rintro pktId errorCode body input rfl pr found event ctx live
  have slot : s.registry.slot pr.ctxId = some ctx.lifecycle := by simp [slot_registry, live]
  obtain ⟨-, ⟨absent, -⟩ | ⟨pr', found', ⟨empty, -⟩ | ⟨a, ev, slot', answer, queued⟩⟩⟩ :=
    reply_turn pktId errorCode body input s
  · rw [found] at absent
    cases absent
  · obtain rfl : pr = pr' := Option.some.inj (found.symm.trans found')
    rw [slot] at empty
    cases empty
  · obtain rfl : pr = pr' := Option.some.inj (found.symm.trans found')
    obtain rfl : ctx.lifecycle = a := Option.some.inj (slot.symm.trans slot')
    obtain ⟨ctxId, owner, stopped, -⟩ := answer
    obtain ⟨errorCode', body'⟩ := stopped (by rw [event]; rfl)
    have named := (lives_of_context live).2.2
    rw [queued]
    refine ⟨ev, ?_, ctxId.trans named.symm, owner, errorCode', event ▸ body'⟩
    exact List.mem_append_left _ (List.mem_append_right _ (List.mem_singleton_self ev))

/-- Where the lives stay in order, the operation kept the stops. -/
theorem stopsKept_of_law {op : Op} (lived : Lived s.registry s.traffic)
    (law : LifecycleLaw (op.complete s)) : StopsKept op s := by
  obtain ⟨stopping, destroyed⟩ := law.lives
  cases op with
  | contextStart call ctxId =>
    intro a starting
    obtain ⟨initialized, active, slot, stopped⟩ := starting
    obtain ⟨member, live, -⟩ := Incarnated.slot_some slot
    rcases contextStart_turn call ctxId s with
      ⟨refused, -⟩ | ⟨a', ⟨-, -, slot', -⟩, registry, submitted⟩
    · exact absurd ⟨initialized, active, slot, stopped⟩ (refused a)
    obtain rfl : a = a' := Option.some.inj (slot.symm.trans slot')
    have form : s.registry.start ctxId = s.registry.mark a.object Lifecycle.begin_ := by
      simp [Registry.start, slot, stopped]
    rw [form] at registry
    have begun : a.begin_ ∈ ((Op.contextStart call ctxId).complete s).registry.lives := by
      rw [registry]
      exact KeyedTable.mem_adjust_self member rfl
    constructor
    · cases condemned : a.destroyPending with
      | false => rfl
      | true =>
        have accepted := lived.condemned a member live condemned
        have listed : ((Op.contextStart call ctxId).complete s).destroyed = s.destroyed :=
          congrArg Registry.destroyed registry
        have halted := destroyed a.begin_ begun live (by rw [listed]; exact accepted)
        cases halted
    · intro reached b known alive pending other
      rcases submitted with ⟨offline, -⟩ | ⟨-, accepted⟩
      · rw [reached] at offline
        cases offline
      · have elsewhere : b.object ≠ a.object :=
          fun same => other (lived.incarnated.distinct.eq_of_key known member same)
        have still : b ∈ ((Op.contextStart call ctxId).complete s).registry.lives := by
          rw [registry]
          exact KeyedTable.mem_adjust_other known elsewhere
        have unlike : Matching2Event.contextStarted ≠ .contextStopped := by decide
        exact accepted.spared (Or.inr rfl) (Or.inl unlike) (stopping b still alive pending)
  | contextStop call ctxId =>
    intro a ready reached b known alive pending _
    obtain ⟨initialized, slot, started⟩ := ready
    obtain ⟨member, live, named⟩ := Incarnated.slot_some slot
    rcases contextStop_turn call ctxId s with
      ⟨refused, -⟩ | ⟨a', ⟨-, slot', -⟩, ⟨offline, -, -⟩ | ⟨-, registry, accepted⟩⟩
    · exact absurd ⟨initialized, slot, started⟩ (refused a)
    · rw [reached] at offline
      cases offline
    · obtain rfl : a = a' := Option.some.inj (slot.symm.trans slot')
      have form : s.registry.stop ctxId = s.registry.mark a.object Lifecycle.halt := by
        simp [Registry.stop, slot, started]
      have other : b ≠ a := by
        rintro rfl
        have unstopped := (lived.undestroyed member live started).1
        rw [unstopped] at pending
        cases pending
      have elsewhere : b.object ≠ a.object :=
        fun same => other (lived.incarnated.distinct.eq_of_key known member same)
      have unnamed : ctxId ≠ b.ctxId := fun same =>
        other (lived.incarnated.slots b known a member alive live (same.symm.trans named.symm))
      have still : b ∈ ((Op.contextStop call ctxId).complete s).registry.lives := by
        rw [registry, form]
        exact KeyedTable.mem_adjust_other known elsewhere
      exact accepted.spared (Or.inr rfl) (Or.inr unnamed) (stopping b still alive pending)
  | request call api ctxId valid requestOpt =>
    intro submits enabled b member live pending _
    obtain ⟨registry, ⟨-, a, event, slot, other, accepted⟩ | ⟨refused, -⟩⟩ :=
      request_turn call api ctxId valid requestOpt s
    · have still : b ∈ ((Op.request call api ctxId valid requestOpt).complete s).registry.lives := by
        rw [registry]
        exact member
      have unlike : event ≠ .contextStopped := by
        rintro rfl
        cases other
      exact accepted.spared (Or.inl enabled) (Or.inl unlike) (stopping b still live pending)
    · exact absurd submits refused
  | clearMmShadNetClient =>
    intro b member live pending
    rcases stopping b member live pending with ⟨pr, entered, -⟩ | queued
    · cases entered
    · exact queued
  | _ => trivial

end Steps

/-- In every run: the contexts live as they should, in every state, exactly where every operation
keeps the stops. -/
theorem lifecycleLaw_iff (ops : List Op) :
    Runs.Throughout Op.complete LifecycleLaw StopAnswered ops {} ↔
      Runs.Admitted Op.complete StopsKept ops {} :=
  Runs.throughout_iff_admitted_next (fun _ lived => lifecycleLaw_of_lived lived)
    (fun op s lived kept => ⟨lived_step op s lived kept, stopAnswered_step op s⟩)
    (fun _ _ lived _ law => stopsKept_of_law lived law) lived_start

/-- The context is stopped and destroyed, and started again before the answer to its stop. -/
def restartedContext : List Op :=
  [.matching2Initialize true true, .connectUser true, .activeChanged true,
    .createContext true ali.handle, .contextStart 0 1, .contextStop 1 1, .destroyContext 1,
    .contextStart 2 1]

theorem destroyed_context_started :
    ¬ ∀ ops, Runs.Throughout Op.complete LifecycleLaw StopAnswered ops {} := by
  intro law
  have holds := law (restartedContext ++ [])
  have last := holds.last
  have started : ∃ ctx ∈ (runOps restartedContext {}).contexts, ctx.live ∧
      ctx.object ∈ (runOps restartedContext {}).destroyed ∧ ctx.started := by decide +kernel
  obtain ⟨ctx, member, live, accepted, running⟩ := started
  have stopped := last.destroyed ctx member live accepted
  rw [running] at stopped
  cases stopped

end NpMatching2
