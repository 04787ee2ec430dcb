import ShadNet.Handler.Packets

/-!
# What a disconnect leaves behind

A disconnect takes the session first and goes over the pending maps later, and a
submission may hold the client it found from before the one until after the
other. `Overdue` says that a disconnect of the user is done with the map of an
entry of a client it should have cut off.
-/

namespace NpHandler

open LockProgram HandlerState

/-- The maps of the score and TUS requests. -/
def Family.OfOperation (family : Family) : Prop := family = .score ∨ family = .tus

/-- A disconnect came after the client of the entry had been made, and has gone over its map. -/
def Overdue (entry : PendingRequest) (s : HandlerState) : Prop :=
  ∃ cut ∈ s.cuts, cut.userId = entry.userId ∧ entry.client < cut.clients ∧
    (⟨cut.call, cut.userId, entry.family⟩ : Sweep) ∉ s.sweeping

def NoneOverdue (s : HandlerState) : Prop :=
  ∀ entry ∈ s.pending, entry.family.OfOperation → Overdue entry s → (s.result? entry.req).isSome

/-- No entry comes into a map that has been gone over for its user, no disconnect that finds the
session gone finds requests of the user waiting, and no request is begun again with an entry left
behind. -/
def InTime : Section → HandlerState → Prop
  | .begin _ request, s => request.library = .score → ∀ ref ∈ s.current? request,
    s.result? ref ≠ some communityAborted → ∀ entry ∈ s.pending, entry.req = ref → ¬Overdue entry s
  | .register entry, s => entry.family.OfOperation →
    s.pending? entry.family entry.pktId = none → Overdue entry s → (s.result? entry.req).isSome
  | .disconnect _ userId, s => KeyedTable.lookup Session.userId userId s.sessions = none →
    ∀ entry ∈ s.pending, entry.userId = userId → entry.family.OfOperation →
      (s.result? entry.req).isSome
  | _, _ => True

/-! ## Every section -/

section Steps

variable {pb : ShadNetProto} {i : Nat} {s t : HandlerState}

theorem Overdue.of_same {entry : PendingRequest} (overdue : Overdue entry t)
    (cuts : t.cuts = s.cuts) (sweeping : t.sweeping = s.sweeping) : Overdue entry s := by
  rwa [Overdue, cuts, sweeping] at overdue

/-- Entries only go, disconnects are where they were, and results stay. -/
theorem NoneOverdue.of_subset (none_ : NoneOverdue s) (sound : Sound s)
    (pending : t.pending ⊆ s.pending) (cuts : t.cuts = s.cuts)
    (sweeping : t.sweeping = s.sweeping)
    (result : ∀ ref ∈ s.begun, (s.result? ref).isSome → (t.result? ref).isSome) :
    NoneOverdue t := by
  intro entry member operation overdue
  have old := pending member
  have held := none_ entry old operation (overdue.of_same cuts sweeping)
  exact result entry.req (sound.pending entry old) held

theorem Offstage.noneOverdue (offstage : Offstage s t) (sound : Sound s)
    (none_ : NoneOverdue s) : NoneOverdue t := by
  refine none_.of_subset sound ?_ offstage.cuts offstage.sweeping offstage.result
  rw [offstage.pending]
  exact fun _ member => member

/-- What was left behind has a result, so it is not the object begun again. -/
theorem noneOverdue_beginScore (none_ : NoneOverdue s) {reqId : Nat}
    (permitted : InTime (.begin i ⟨.score, reqId⟩) s) :
    NoneOverdue (beginScore i reqId s).2 := by
  rcases beginScore_cases i reqId s with ⟨error, refused⟩ | ⟨ref, current, running, begun⟩
  · rw [refused]
    exact none_
  · rw [begun]
    intro entry member operation overdue
    have spared : entry.req ≠ ref := by
      intro same
      exact permitted rfl ref current running entry member same (overdue.of_same rfl rfl)
    have held := none_ entry member operation (overdue.of_same rfl rfl)
    have same : (markBegun i ref (rebegin i ref s)).result? entry.req =
        (rebegin i ref s).result? entry.req := rfl
    rw [same, result?_eq, holding?_rebegin_other spared, ← result?_eq]
    exact held

theorem noneOverdue_submitRequest (none_ : NoneOverdue s) (client : Nat) (message : Message)
    (ref : Nat) : NoneOverdue (submitRequest i client message ref s).2 := by
  rw [submitRequest]
  split <;> exact none_

theorem noneOverdue_register (none_ : NoneOverdue s) {entry : PendingRequest}
    (permitted : InTime (.register entry) s) : NoneOverdue (register entry s) := by
  intro other member operation overdue
  have listed : other ∈ s.pending ∨ s.pending? entry.family entry.pktId = none ∧ other = entry := by
    rcases pending_entered entry s with ⟨-, same⟩ | ⟨free, added⟩
    · left
      rwa [register_eq, started, same] at member
    · rw [register_eq, started, added] at member
      rcases List.mem_append.mp member with old | new
      · exact Or.inl old
      · exact Or.inr ⟨free, List.mem_singleton.mp new⟩
  rcases listed with old | ⟨free, rfl⟩
  · exact none_ other old operation (overdue.of_same rfl rfl)
  · exact permitted operation free (overdue.of_same rfl rfl)

theorem noneOverdue_takePending (none_ : NoneOverdue s) (sound : Sound s) (client : Nat)
    (family : Family) (pktId : Nat) (reply : Reply) :
    NoneOverdue (takePending i client family pktId reply s).2 := by
  rcases takePending_cases i client family pktId reply s with
    ⟨missing, left⟩ | ⟨entry, found, left⟩
  · rw [left]
    exact none_.of_subset sound (fun _ member => member) rfl rfl (fun _ _ held => held)
  · rw [left]
    refine none_.of_subset sound ?_ rfl rfl (fun _ _ held => held)
    exact fun other member => (KeyedTable.mem_remove.mp member).1

theorem noneOverdue_complete (none_ : NoneOverdue s) (sound : Sound s) (client : Nat)
    (entry : PendingRequest) (r : Int) : NoneOverdue (complete i client entry r s) :=
  none_.of_subset sound (fun _ member => member) rfl rfl
    (offstage_setResult entry.req ⟨r, some entry.call⟩).result

theorem noneOverdue_completeAuth (none_ : NoneOverdue s) (sound : Sound s) (client : Nat)
    (entry : PendingRequest) (c : Completion) :
    NoneOverdue (completeAuth i client entry c s) := by
  have stored : NoneOverdue (setAuthorizationCode i entry.req c.stores s) := by
    rw [setAuthorizationCode]
    split <;> exact none_
  exact noneOverdue_complete stored
    ((shrinks_setAuthorizationCode i entry.req c.stores).sound sound) client entry c.result

/-- The disconnect has every map still to sweep, if the session was there. -/
theorem noneOverdue_removeSession (none_ : NoneOverdue s) {userId : Int}
    (permitted : InTime (.disconnect i userId) s) :
    NoneOverdue (removeSession i userId s).2 := by
  intro entry member operation overdue
  rcases removeSession_cases i userId s with ⟨missing, absent⟩ | ⟨session, -, removed⟩
  · rw [absent] at overdue ⊢
    obtain ⟨cut, there, user, before, passed⟩ := overdue
    rw [absent] at member
    rcases List.mem_append.mp there with old | new
    · exact none_ entry member operation ⟨cut, old, user, before, passed⟩
    · rw [List.mem_singleton.mp new] at user
      exact permitted missing entry member user.symm operation
  · rw [removed] at overdue ⊢
    obtain ⟨cut, there, user, before, passed⟩ := overdue
    rw [removed] at member
    have unmarked := fun listed => passed (List.mem_append_left _ listed)
    rcases List.mem_append.mp there with old | new
    · exact none_ entry member operation ⟨cut, old, user, before, unmarked⟩
    · have swept : entry.family ∈ sweptFamilies := by
        rcases operation with score | tus
        · simp [sweptFamilies, score]
        · simp [sweptFamilies, tus]
      rw [List.mem_singleton.mp new] at passed
      exact absurd (List.mem_append_right _ (List.mem_map.mpr ⟨entry.family, swept, rfl⟩)) passed

/-- The entries of the user are gone from the map, and only the mark of that map with them. -/
theorem noneOverdue_sweepPending (none_ : NoneOverdue s) (sound : Sound s) (userId : Int)
    (family : Family) (errorCode : Int) :
    NoneOverdue (sweepPending i userId family errorCode s) := by
  have failed := Offstage.foldl (fun s entry => offstage_setResult (s := s) entry.req
    ⟨errorCode, some entry.call⟩) (s.pending.filter (PendingRequest.of userId family)) s
  intro entry member operation overdue
  rw [sweepPending] at member
  obtain ⟨listed, spared⟩ := List.mem_filter.mp member
  rw [failed.pending] at listed
  have before : Overdue entry s := by
    obtain ⟨cut, there, user, early, passed⟩ := overdue
    rw [sweepPending, failed.cuts] at there
    rw [sweepPending, failed.sweeping] at passed
    refine ⟨cut, there, user, early, fun marked => passed (List.mem_filter.mpr ⟨marked, ?_⟩)⟩
    have apart : (⟨cut.call, cut.userId, entry.family⟩ : Sweep) ≠ ⟨i, userId, family⟩ := by
      intro same
      obtain ⟨-, ofUser, ofFamily⟩ := Sweep.mk.inj same
      simp [PendingRequest.of, ← user, ofUser, ofFamily] at spared
    exact decide_eq_true apart
  exact failed.result entry.req (sound.pending entry listed) (none_ entry listed operation before)

end Steps

theorem keeps_noneOverdue (pb : ShadNetProto) : Keeps pb NoneOverdue InTime := by
  intro i s label update step sound none_ permitted
  by_cases on : label.onstage
  · cases step with
    | beginScore reqId => exact noneOverdue_beginScore none_ permitted
    | submit client family ref message => exact noneOverdue_submitRequest none_ client message ref
    | submitAuth client ref userId message =>
      refine noneOverdue_register (noneOverdue_submitRequest none_ client message ref) ?_
      rintro (score | tus)
      · cases score
      · cases tus
    | register entry => exact noneOverdue_register none_ permitted
    | take client family pktId reply =>
      exact noneOverdue_takePending none_ sound client family pktId reply
    | store r store last => exact none_
    | complete r => exact noneOverdue_complete none_ sound r.client r.entry _
    | completeAuth r =>
      exact noneOverdue_completeAuth none_ sound r.client r.entry _
    | disconnect userId => exact noneOverdue_removeSession none_ permitted
    | sweep userId family errorCode =>
      exact noneOverdue_sweepPending none_ sound userId family errorCode
    | beginTus | beginOwn | fake => simp_all [Section.onstage]
    | _ => cases on
  · exact (step.offstage sound (by simpa using on)).noneOverdue sound none_

/-! ## Every interleaving -/

/-- Once a disconnect and the submissions that found a client before it have returned, no score or
TUS request of its user waits in a pending map without a result. -/
def NothingLeft (pool : Pool HandlerState Section) : Prop :=
  ∀ cut ∈ pool.state.cuts, ¬Running pool cut.call →
    ∀ entry ∈ pool.state.pending, entry.family.OfOperation → entry.userId = cut.userId →
      entry.client < cut.clients → ¬Running pool entry.call →
        (pool.state.result? entry.req).isSome

instance (family : Family) : Decidable family.OfOperation := inferInstanceAs (Decidable (_ ∨ _))

instance (entry : PendingRequest) (s : HandlerState) : Decidable (Overdue entry s) :=
  inferInstanceAs (Decidable (∃ cut ∈ s.cuts, _))

instance : ∀ label s, Decidable (InTime label s)
  | .begin _ request, s => inferInstanceAs (Decidable (_ → ∀ ref ∈ s.current? request,
    _ → ∀ entry ∈ s.pending, _ → ¬Overdue entry s))
  | .register entry, s => inferInstanceAs (Decidable (_ → _ → Overdue entry s → _))
  | .disconnect .., s => inferInstanceAs (Decidable (_ → ∀ entry ∈ s.pending, _))
  | .submit .., _ | .finish .., _ | .rejectComment .., _ | .submitFailed .., _ | .take .., _
  | .prepare .., _ | .store .., _ | .complete .., _ | .abort .., _ | .delete .., _
  | .deleteTitle .., _ | .sweep .., _ | .other, _ => isTrue trivial

instance (pool : Pool HandlerState Section) : Decidable (NothingLeft pool) :=
  inferInstanceAs (Decidable (∀ cut ∈ pool.state.cuts, _ → ∀ entry ∈ pool.state.pending, _))

/-- In every interleaving that is in time, disconnects leave nothing pending. -/
theorem nothing_left (pb : ShadNetProto) (actions : List (Action Op))
    (scheduled : Scheduled pb InTime actions) : NothingLeft (runPool pb actions) := by
  have start : NoneOverdue {} := by simp [NoneOverdue]
  obtain ⟨-, none_, clean⟩ := holds_of_scheduled (keeps_noneOverdue pb) start scheduled
  intro cut there done entry listed operation user before _
  refine none_ entry listed operation ⟨cut, there, user.symm, before, ?_⟩
  exact fun left => done (running_of_sweeping clean left)

/-- Ali is signed out with a score and TUS variables waiting for the server. -/
def cutOffInTime : List (Action Op) :=
  setUp ++ .spawn (.score 6 1 none true (.recordScore 1 500 [] [] 0 none)) ::
    List.replicate 9 (.take 6) ++
    .spawn (.tus 7 1 none true (.setMultiSlotVariable (.npId []) [1] [5])) ::
    List.replicate 9 (.take 7) ++
    .spawn (.disconnectUser 8 1) :: List.replicate 5 (.take 8)

theorem cutOffInTime_nothing_left : NothingLeft (runPool noReplies cutOffInTime) :=
  nothing_left noReplies cutOffInTime (by decide +kernel)

/-- Ali is signed out while a submission has his client and has sent its packet. -/
def cutOffBetween : List (Action Op) :=
  setUp ++ .spawn (.score 6 1 none true (.recordScore 1 500 [] [] 0 none)) ::
    List.replicate 7 (.take 6) ++
    .spawn (.disconnectUser 7 1) :: List.replicate 5 (.take 7) ++
    List.replicate 2 (.take 6)

/-- Both have returned, and the score waits for a server that will not answer. -/
theorem cutOffBetween_left :
    Scheduled noReplies (fun _ _ => True) cutOffBetween ∧
      ¬NothingLeft (runPool noReplies cutOffBetween) := by
  decide +kernel

end NpHandler
