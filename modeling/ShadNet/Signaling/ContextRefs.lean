import Mathlib.Logic.Function.Iterate
import ShadNet.Signaling.Bystanders
import ShadNet.Signaling.Kept

/-!
# The reference count

What the calls of the signaling library do to the count of context references, to the
threads that run while it is positive, and to the contexts themselves. Everything
else leaves the three alone.
-/

namespace NpSignaling

open KeyedTable LockProgram

structure Tally where
  refs : Nat
  running : Bool
  ids : List Nat

namespace Tally

def retain (t : Tally) : Tally := { t with refs := t.refs + 1, running := true }

/-- The count saturates at zero, where the threads are stopped. -/
def release (t : Tally) : Tally :=
  { t with refs := t.refs - 1, running := t.running && decide (t.refs - 1 ≠ 0) }

def create (ctxId : Nat) (t : Tally) : Tally := { t with ids := t.ids ++ [ctxId] }.retain

def delete (ctxId : Nat) (t : Tally) : Tally :=
  { t with ids := t.ids.filter (fun id => decide (id ≠ ctxId)) }.release

/-- All contexts go, each with a release of its own. -/
def clear (t : Tally) : Tally := release^[t.ids.length] { t with ids := [] }

theorem delete_ids {t : Tally} (distinct : t.ids.Nodup) (ctxId : Nat) :
    (t.delete ctxId).ids = t.ids.erase ctxId := by
  rw [distinct.erase_eq_filter]
  refine List.filter_congr (fun known _ => ?_)
  rw [Bool.eq_iff_iff, decide_eq_true_iff, bne_iff_ne]

/-- The threads run exactly while a reference is counted. -/
def Proper (t : Tally) : Prop := t.running = true ↔ 0 < t.refs

section Proper

variable {t : Tally}

theorem Proper.retain (t : Tally) : t.retain.Proper := by
  simp [Tally.retain, Proper]

theorem Proper.release (proper : t.Proper) : t.release.Proper := by
  unfold Proper at proper ⊢
  simp only [Tally.release, Bool.and_eq_true, decide_eq_true_eq, proper]
  omega

theorem iterate_release (n : Nat) (t : Tally) :
    (Tally.release^[n] t).refs = t.refs - n ∧
      (Tally.release^[n] t).ids = t.ids ∧
      (t.Proper → (Tally.release^[n] t).Proper) := by
  induction n generalizing t with
  | zero => exact ⟨rfl, rfl, id⟩
  | succ n ih =>
    obtain ⟨refs, ids, proper⟩ := ih t.release
    refine ⟨?_, ids, fun start => proper start.release⟩
    have once : t.release.refs = t.refs - 1 := rfl
    rw [Function.iterate_succ_apply, refs, once]
    omega

end Proper

end Tally

/-- The order of the contexts is that of a hash map. -/
structure Tallies (t : Tally) (s : NpSignalingState) : Prop where
  refs : s.contextRefs = t.refs
  running : s.runtimeRunning = t.running
  ids : (s.contexts.map (·.ctxId)).Perm t.ids

def NpSignalingState.tally (s : NpSignalingState) : Tally :=
  { refs := s.contextRefs
    running := s.runtimeRunning
    ids := s.contexts.map (·.ctxId) }

section Tallies

variable {t : Tally} {s s' : NpSignalingState}

theorem tallies_tally (s : NpSignalingState) : Tallies s.tally s := ⟨rfl, rfl, List.Perm.refl _⟩

theorem Tallies.of_same (tallies : Tallies t s) (refs : s'.contextRefs = s.contextRefs)
    (running : s'.runtimeRunning = s.runtimeRunning) (contexts : s'.contexts = s.contexts) :
    Tallies t s' :=
  ⟨refs.trans tallies.refs, running.trans tallies.running, contexts ▸ tallies.ids⟩

theorem Tallies.only (tallies : Tallies t s) (only : OnlyMatching2 s s') : Tallies t s' := by
  obtain ⟨caches, events, rfl⟩ := only
  exact tallies.of_same rfl rfl rfl

theorem Tallies.context?_isSome (tallies : Tallies t s) {ctxId : Nat} :
    (s.context? ctxId).isSome = true ↔ ctxId ∈ t.ids := by
  rw [← tallies.ids.mem_iff, List.mem_map]
  cases found : s.context? ctxId with
  | none =>
    refine iff_of_false Bool.false_ne_true ?_
    rintro ⟨ctx, known, named⟩
    exact lookup_none.mp found ctx known named
  | some ctx => exact iff_of_true rfl ⟨ctx, lookup_some found⟩

theorem bystander_tallies (t : Tally) : Bystander (Tallies t) where
  same same tallies :=
    ⟨same.contextRefs.trans tallies.refs, same.runtimeRunning.trans tallies.running,
      same.contexts.trans tallies.ids⟩
  dead transportId errorCode _ tallies := tallies.only (onlyMatching2_dead transportId errorCode)
  peer _ _ _ tallies := tallies.of_same rfl rfl rfl
  event ctx roomId memberId established errorCode _ tallies :=
    tallies.only (onlyMatching2_event ctx roomId memberId established errorCode)

theorem bystander_objects (objects : List ContextObject) :
    Bystander (fun s => s.contextObjects = objects) where
  same same kept := same.contextObjects.trans kept
  dead transportId errorCode s kept := by
    obtain ⟨caches, events, only⟩ := @onlyMatching2_dead s transportId errorCode
    rw [only]
    exact kept
  peer _ _ _ kept := kept
  event ctx roomId memberId established errorCode s kept := by
    obtain ⟨caches, events, only⟩ :=
      @onlyMatching2_event s ctx roomId memberId established errorCode
    rw [only]
    exact kept

/-! ## References -/

theorem tallies_addContextRef (t : Tally) :
    Prog.Triple (Tallies t) addContextRef (fun _ => Tallies t.retain) := by
  intro s tallies
  simp only [addContextRef, Prog.exec_bind, Prog.exec_update]
  unfold startRuntime
  split
  · rename_i running
    exact ⟨congrArg (· + 1) tallies.refs, running, tallies.ids⟩
  · exact ⟨congrArg (· + 1) tallies.refs, rfl, tallies.ids⟩

theorem tallies_releaseContextRef (t : Tally) :
    Prog.Triple (Tallies t) releaseContextRef (fun _ => Tallies t.release) := by
  intro s tallies
  obtain ⟨refs, running, ids⟩ := tallies
  let released : NpSignalingState :=
    if s.contextRefs > 0 then { s with contextRefs := s.contextRefs - 1 } else s
  have counted : released.contextRefs = t.refs - 1 := by
    unfold released
    split
    · exact congrArg (· - 1) refs
    · omega
  have kept : released.runtimeRunning = t.running ∧ released.contexts = s.contexts := by
    unfold released
    split <;> exact ⟨running, rfl⟩
  have left : (releaseContextRef.exec s).2 =
      if released.contextRefs = 0 then stopRuntime released else released := by
    simp only [releaseContextRef, Prog.exec_locked_bind, Prog.when]
    by_cases last : released.contextRefs = 0
    · simp only [released] at last
      simp [released, last]
    · simp only [released] at last
      simp [released, last]
  rw [left]
  by_cases last : released.contextRefs = 0
  · have none : ¬released.contextRefs > 0 := by omega
    rw [if_pos last, stopRuntime, if_neg none]
    refine ⟨counted, ?_, kept.2 ▸ ids⟩
    simp [Tally.release, ← counted, last]
  · rw [if_neg last]
    refine ⟨counted, ?_, kept.2 ▸ ids⟩
    simp [Tally.release, ← counted, last, kept.1]

theorem tallies_releases {β : Type} (items : List β) (t : Tally) :
    Prog.Triple (Tallies t) (Prog.forEach items (fun _ => releaseContextRef))
      (fun _ => Tallies (Tally.release^[items.length] t)) := by
  induction items generalizing t with
  | nil => exact Prog.triple_pure (fun _ tallies => tallies)
  | cons item rest ih => exact (tallies_releaseContextRef t).bind (fun _ => ih t.release)

/-! ## Contexts -/

/-- Both create calls. -/
def Op.creates : Op → Bool
  | .createContext .. | .createContextA .. => true
  | _ => false

theorem tallies_createContextWith (request : ContextRequest) (now : Int) (t : Tally) :
    Prog.Triple (Tallies t) (createContextWith request now) (fun _ s =>
      Tallies t s ∨ ∃ ctxId ∉ t.ids, Tallies (t.create ctxId) s) := by
  intro s tallies
  simp only [createContextWith, Prog.exec_bind, Prog.exec_locked]
  obtain ⟨error, refused⟩ | ⟨ctxId, -, free, -, made⟩ := createContext_cases request now s
  · rw [refused]
    exact Or.inl tallies
  · rw [made]
    have unknown : ctxId ∉ s.contexts.map (·.ctxId) := by
      intro member
      obtain ⟨ctx, known, named⟩ := List.mem_map.mp member
      exact lookup_none.mp free ctx known named
    refine Or.inr ⟨ctxId, fun member => unknown (tallies.ids.mem_iff.mpr member), ?_⟩
    have kept : remove NpSignalingContext.ctxId ctxId s.contexts = s.contexts :=
      remove_of_lookup_none free
    refine tallies_addContextRef { t with ids := t.ids ++ [ctxId] } _
      ⟨tallies.refs, tallies.running, ?_⟩
    have stored : (store NpSignalingContext.ctxId (newContext request ctxId now)
        s.contexts).map (·.ctxId) = s.contexts.map (·.ctxId) ++ [ctxId] := by
      rw [store, List.map_append]
      exact congrArg (fun contexts => contexts.map (·.ctxId) ++ [ctxId]) kept
    exact stored ▸ tallies.ids.append_right [ctxId]

theorem tallies_createContext {op : Op} (creates : op.creates) (t : Tally) :
    Prog.Triple (Tallies t) op.program (fun _ s =>
      Tallies t s ∨ ∃ ctxId ∉ t.ids, Tallies (t.create ctxId) s) := by
  have refused : ∀ {α : Type} (a : α), Prog.Triple (Tallies t) (pure a : Signaling α)
      (fun _ s => Tallies t s ∨ ∃ ctxId ∉ t.ids, Tallies (t.create ctxId) s) :=
    fun _ => Prog.triple_pure (fun _ tallies => Or.inl tallies)
  cases op with
  | createContext npid valid callback callbackArg sdkVersion now =>
    refine Prog.Triple.bind ?_ (fun _ => Prog.triple_pure (fun _ made => made))
    refine Prog.Triple.bind (Prog.triple_locked (Q := fun _ => Tallies t)
      (fun _ tallies => tallies)) (fun running => ?_)
    refine Prog.triple_ite (fun _ => Prog.triple_ite (fun _ => ?_) (fun _ => refused _))
      (fun _ => refused _)
    exact tallies_createContextWith _ now t
  | createContextA account callback callbackArg sdkVersion now =>
    refine Prog.Triple.bind ?_ (fun _ => Prog.triple_pure (fun _ made => made))
    refine Prog.Triple.bind (Prog.triple_locked (Q := fun _ => Tallies t)
      (fun _ tallies => tallies)) (fun running => ?_)
    refine Prog.triple_ite (fun _ => ?_) (fun _ => refused _)
    cases account with
    | none => exact refused _
    | some known =>
      refine Prog.triple_ite (fun _ => refused _) (fun _ => ?_)
      exact tallies_createContextWith _ now t
  | _ => cases creates

/-- The connections of the context go with it, and nothing else that is counted. -/
theorem Tallies.eraseContext (tallies : Tallies t s) (ctxId : Nat) :
    Tallies { t with ids := t.ids.filter (fun id => decide (id ≠ ctxId)) }
      (eraseContextLocked ctxId s) := by
  have same : (removeContextConnectionsLocked ctxId s).ledger = s.ledger :=
    ledger_removeConnections s _
  obtain ⟨refs, running, ids⟩ := (bystander_tallies t).ledger same tallies
  refine ⟨refs, running, ?_⟩
  have removed := ids.filter (fun id => decide (id ≠ ctxId))
  rw [List.filter_map] at removed
  exact removed

theorem tallies_deleteContext (ctxId : Nat) (tallies : Tallies t s) :
    Tallies (if s.initialized then t.delete ctxId else t)
      ((Op.deleteContext ctxId).program.exec s).2 := by
  simp only [Op.program, sceNpSignalingDeleteContext, Prog.exec_bind, Prog.exec_locked,
    Prog.exec_pure]
  cases s.initialized with
  | false => exact tallies
  | true =>
    simp only [if_true, Prog.exec_bind, Prog.exec_update, Prog.exec_pure]
    have terminated : (Prog.forEach (contextConnections ctxId s) terminateSig1).Preserves
        (Tallies t) :=
      Prog.preserves_forEach (fun connId _ => (bystander_tallies t).terminateSig1 connId)
    have ended := terminated.exec tallies
    exact tallies_releaseContextRef _ _ (ended.eraseContext ctxId)

theorem tallies_terminate (tallies : Tallies t s) :
    Tallies (if s.initialized then t.clear else t) (Op.signalingTerminate.program.exec s).2 := by
  have stopped : Tallies t { s with initialized := false } := tallies.of_same rfl rfl rfl
  by_cases initialized : s.initialized = true
  · simp only [Op.program, sceNpSignalingTerminate, Prog.exec_bind, Prog.exec_locked,
      Prog.exec_pure, initialized, if_true, Bool.true_eq_false, if_false, Prog.exec_update,
      joinDispatchThread]
    have count : s.contexts.length = t.ids.length := by
      rw [← tallies.ids.length_eq, List.length_map]
    unfold Tally.clear
    rw [← count]
    exact tallies_releases s.contexts _ _ ⟨tallies.refs, tallies.running, List.Perm.refl _⟩
  · simp only [Op.program, sceNpSignalingTerminate, Prog.exec_bind, Prog.exec_locked,
      Prog.exec_pure, initialized, if_true]
    exact stopped

end Tallies

end NpSignaling
