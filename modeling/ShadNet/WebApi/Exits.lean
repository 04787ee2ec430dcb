import ShadNet.WebApi.Keeping

/-!
# The operations with an exit that leaves something behind

`createUserContext` keeps its mark on the library context when no id is left,
`deleteRequest` keeps the lock of the context on three of its exits, and the two
multipart calls take a mark off a request that they never marked. `fail` notes
that one of these exits is taken; on all others the operation is balanced.
-/

namespace NpWebApi

open LockProgram Prog Books

variable {γ : Type} {judge : Access → State → State → γ → γ} {fail : γ → γ} {notes : γ}

/-- The ledger of a call that has just begun. -/
def opened (notes : γ) : CallLedger γ := { notes }

/-- A call that ends with a mark more, or less, on an object that is not its own. -/
theorem not_balanced_of_mark {o : Object} {n : Int} {later : CallLedger γ}
    (same : ((opened notes).mark o n).Same later) (some_ : n ≠ 0) (foreign : ¬later.own o) :
    ¬later.Balanced := by
  intro balanced
  have after := same.counts o foreign
  rw [balanced.counts o foreign] at after
  simp only [Ledger.mark, opened, if_true] at after
  omega

/-- A call that ends with the mutex in its hands. -/
theorem not_balanced_of_hold {m : Mutex} {later : CallLedger γ}
    (same : ((opened notes).hold m 1).Same later) : ¬later.Balanced := by
  intro balanced
  have after := congrFun same.depth m
  rw [balanced.depth m] at after
  simp only [Ledger.hold, opened, if_true] at after
  omega

theorem settled_of_same {later : CallLedger γ} (same : (opened notes).Same later) :
    later.Settled fail notes :=
  Or.inl ⟨same.notes, same.balanced (Ledger.balanced_start notes)⟩

/-- An id is left for the user context. -/
def State.hasUserContextId (context : ContextPtr) (libCtxId : Int) (s : State) : Bool :=
  decide (libCtxId.shiftLeft 0x10 < s.nextUserContextId context libCtxId)

theorem State.createUserContext_isSome (context : ContextPtr) (libCtxId userId : Int) (s : State) :
    (State.createUserContext context libCtxId userId s).1.isSome =
      s.hasUserContextId context libCtxId := by
  simp only [State.createUserContext, State.hasUserContextId]
  split
  · rename_i taken
    simp [Int.not_lt.mpr taken]
  · rename_i free
    simp [Int.not_le.mp free]

section Exits

variable (quiet : ∀ access : Access, access.ordinary → (books judge).Silent access)
  (lookup : ∀ id, (books judge).Silent (.findContext id))
  (test : ∀ c, (books judge).Silent (.terminated c))
include quiet lookup test

/-! ## The multipart calls -/

theorem ends_unmarkedRequest (lookupUser : ∀ c id, (books judge).Silent (.findUserContext c id))
    (finds : ∀ u id s notes, judge (.findRequest u id) s s notes =
      if (s.requestById u id).isSome then fail notes else notes)
    {requestId : Int} {f : Request → Request} (counts : ∀ x, (f x).userCount = x.userCount) :
    (books judge).Ends (withRequest findRequest requestId fun _ _ request => do
      writing (.request request) (State.modifyRequest request f)
      pure orbisOk) (opened notes) (fun _ later => later.Settled fail notes) := by
  have untouched : (opened notes).Settled fail notes := settled_of_same (Ledger.Same.refl _)
  refine ends_withUserContext quiet (lookup _) test (fun c => lookupUser c _) untouched untouched ?_
  intro c u
  rw [Books.Ends, ends_bind]
  apply ends_guarded
  refine ends_reading (Access.not_settles rfl) ?_
  intro s
  rw [books_judge, finds]
  have held := Ledger.Same.refl ((((opened notes).mark (.context c) 1).mark (.userContext u) 1).hold
    (.contextLock u.parentContext) 1)
  cases s.requestById u requestId with
  | none => exact settled_of_same held.unlocked.released.released
  | some r =>
    rw [Option.isSome_some, if_pos rfl, ends_bind]
    refine (still_writing (Access.not_settles rfl) (quiet _ rfl) ?_).andThen ?_
    · exact minor_modifyRequest counts
    intro _
    rw [Books.Ends, ends_pure, ends_bind]
    apply ends_release quiet
    rw [ends_pure]
    refine Or.inr ⟨rfl, ?_⟩
    intro balanced
    have owed := balanced.counts (.request r) (fun own => own)
    simp [Ledger.mark, Ledger.hold, Ledger.note, opened] at owed

/-! ## `createUserContext` -/

theorem ends_createUserContext
    (makes : ∀ c libCtxId userId s t notes, (books judge).watched t = (books judge).watched s →
      judge (.createUserContext c libCtxId userId) s t notes =
        if s.hasUserContextId c libCtxId then notes else fail notes) (libCtxId userId : Int) :
    (books judge).Ends (createUserContext libCtxId userId) (opened notes)
      (fun _ later => later.Settled fail notes) := by
  have untouched : (opened notes).Settled fail notes := settled_of_same (Ledger.Same.refl _)
  rw [createUserContext, Books.Ends, ends_bind]
  refine ends_findAndValidateContext quiet (lookup _) test untouched ?_
  intro c
  rw [ends_bind]
  refine ends_findUserContextByUserId quiet ?_ ?_
  · apply ends_guarded
    rw [Books.Ends, ends_bind]
    have minor : (books judge).Minor (.createUserContext c libCtxId userId)
        (fun s => (State.createUserContext c libCtxId userId s).2) :=
      minor_createUserContext c libCtxId userId
    refine ends_access_same minor.users ?_
    intro s made same owns
    have watched := minor.watched s
    rw [books_judge, makes c libCtxId userId s _ _ watched] at same
    have answer := State.createUserContext_isSome c libCtxId userId s
    cases outcome : (State.createUserContext c libCtxId userId s).1 with
    | none =>
      rw [outcome] at answer
      rw [← answer, Option.isSome_none, if_neg Bool.false_ne_true, Ledger.note_hold,
        Ledger.note_mark] at same
      refine Or.inr ⟨same.notes, not_balanced_of_mark same.unlocked Int.one_ne_zero ?_⟩
      intro own
      exact ((owns _).mp own).elim id id
    | some userCtxId =>
      rw [outcome] at answer
      rw [← answer, Option.isSome_some, if_pos rfl, Ledger.note_self] at same
      rw [ends_bind]
      apply ends_release quiet
      exact settled_of_same same.unlocked.released
  · intro user
    rw [ends_bind]
    apply ends_release quiet
    rw [ends_bind]
    apply ends_release quiet
    exact settled_of_same (Ledger.Same.refl _).released.released

/-! ## `deleteRequest` -/

theorem ends_deleteRequest (sdk : Nat)
    (lookupUser : ∀ c id s notes, judge (.findUserContext c id) s s notes =
      if (s.liveUserContext c id).isSome then notes else fail notes)
    (finds : ∀ u id s notes, judge (.findRequest u id) s s notes =
      if (s.requestById u id).isSome then notes else fail notes)
    (asks : ∀ r s notes, judge (.requestBusy r false) s s notes =
      if s.isRequestBusy r then fail notes else notes) (requestId : Int) :
    (books judge).Ends (deleteRequest sdk requestId) (opened notes)
      (fun _ later => later.Settled fail notes) := by
  rw [deleteRequest, Books.Ends, ends_bind]
  refine ends_findAndValidateContext quiet (lookup _) test ?_ ?_
  · exact settled_of_same (Ledger.Same.refl (opened notes))
  intro c
  rw [ends_bind]
  apply ends_lock
  have kept : ∀ {later : CallLedger γ}, (((opened (fail notes)).hold (.contextLock c) 1).Same later) →
      later.Settled fail notes :=
    fun same => Or.inr ⟨same.notes, not_balanced_of_hold same⟩
  rw [ends_bind]
  refine ends_findAndMark_noted rfl (fun _ => rfl) (fun _ => marks_addUser quiet _)
    (Access.not_settles rfl) ?_ ?_
  · intro s missing
    rw [books_judge, lookupUser, missing, Option.isSome_none, if_neg Bool.false_ne_true, ends_bind]
    apply ends_release quiet
    exact kept (Ledger.Same.refl _).released
  intro s user found
  rw [books_judge, lookupUser, found, Option.isSome_some, if_pos rfl, Ledger.note_self, ends_bind]
  refine ends_findAndMark_noted rfl (fun _ => rfl) (fun _ => marks_addUser quiet _)
    (Access.not_settles rfl) ?_ ?_
  · intro s missing
    rw [books_judge, finds, missing, Option.isSome_none, if_neg Bool.false_ne_true, ends_bind]
    apply ends_release quiet
    rw [ends_bind]
    apply ends_release quiet
    exact kept (Ledger.Same.refl _).released.released
  intro s request found
  rw [books_judge, finds, found, Option.isSome_some, if_pos rfl, Ledger.note_self]
  have asked : ∀ ledger : CallLedger γ, (books judge).Ends
      (if sdk < fw400 then isRequestBusy request false else pure false) ledger
      (fun refused later => (refused = true ∧ later = ledger.note (fail ledger.notes)) ∨
        (refused = false ∧ later = ledger)) := by
    intro ledger
    rw [Books.Ends, ends_ite]
    refine ⟨fun _ => ?_, fun _ => Or.inr ⟨rfl, rfl⟩⟩
    apply ends_guarded
    refine ends_reading (Access.not_settles rfl) ?_
    intro t
    have back := Ledger.hold_hold (.contextLock request.parentContext) 1 ledger
    rw [books_judge, asks]
    cases t.isRequestBusy request with
    | true => exact Or.inl ⟨rfl, congrArg (Ledger.note (fail ledger.notes)) back⟩
    | false => exact Or.inr ⟨rfl, back⟩
  rw [ends_bind]
  refine (asked _).mono ?_
  rintro refused later (⟨rfl, rfl⟩ | ⟨rfl, rfl⟩)
  · rw [if_pos rfl, ends_bind]
    apply ends_release quiet
    rw [ends_bind]
    apply ends_release quiet
    rw [ends_bind]
    apply ends_release quiet
    exact kept (Ledger.Same.refl _).released.released.released
  · rw [if_neg Bool.false_ne_true]
    refine (still_abortRequestInternal quiet c request).andThen ?_
    intro _
    refine (still_isRequestBusy quiet).andThen ?_
    intro busy
    refine still_waitWhile.andThen ?_
    intro _
    rw [Books.Ends, ends_bind]
    apply ends_release quiet
    have erases : (books judge).Keeps (writing (.eraseRequest user request)
        (State.eraseRequest user request) : Call Unit) :=
      keeps_writing (quiet _ rfl) (minor_eraseRequest user request)
    rw [Ledger.mark_mark]
    refine erases.andThen ?_
    intro _ later same
    rw [Books.Ends, ends_bind]
    apply ends_release quiet
    rw [ends_bind]
    apply ends_unlock
    rw [ends_bind]
    apply ends_release quiet
    exact settled_of_same same.released.unlocked.released

end Exits

end NpWebApi
