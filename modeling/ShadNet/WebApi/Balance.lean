import ShadNet.WebApi.Termination

/-!
# References and locks balance

A call is followed alone through every state that the other threads may put in
front of its steps. At its end it owes nothing, unless it took one of the exits
that leave something behind.
-/

namespace NpWebApi

open LockProgram Prog Books

section Registration

variable {γ : Type} {judge : Access → State → State → γ → γ}

theorem userCount_createLibraryContext {s : State} {o : Object}
    (foreign : ¬Access.createLibraryContext.settles s o) :
    State.userCount o (State.createLibraryContext s).2 = State.userCount o s := by
  simp only [State.createLibraryContext]
  split
  · exact userCount_of_maps rfl rfl rfl rfl
  · rw [userCount_modifyContext]
    · exact userCount_of_maps rfl rfl rfl rfl
    · rintro rfl
      exact absurd rfl foreign

theorem keeps_sceNpWebApiInitialize (silent : ∀ access s t notes, judge access s t notes = notes)
    (initializeResult : Int) : (books judge).Keeps (sceNpWebApiInitialize initializeResult) := by
  have counted : ∀ {α : Type} {access : Access} {body : State → α × State},
      (∀ s o, ¬access.settles s o → State.userCount o (body s).2 = State.userCount o s) →
        (books judge).Keeps (Prog.access access body : Call α) := by
    intro α access body same ledger
    refine ends_access_same same ?_
    intro s later kept _
    rw [books_judge, silent] at kept
    exact kept
  refine Keeps.bind (counted (fun s o _ => userCount_of_maps rfl rfl rfl rfl)) (fun first => ?_)
  apply keeps_ite (keeps_pure _)
  refine Keeps.bind (keeps_guarded (counted (fun s o => userCount_createLibraryContext)))
    (fun result => ?_)
  refine Keeps.bind (keeps_when (counted (fun s o _ => userCount_of_maps rfl rfl rfl rfl)))
    (fun _ => keeps_pure _)

end Registration

/-- No exit that leaves something behind is taken with the access. -/
def Sound (sdk : Nat) : Op → Access → State → Bool
  | .createUserContext _ _, .createUserContext c libCtxId _, s => s.hasUserContextId c libCtxId
  | .setMultipartContentType _ _ _, .findRequest u requestId, s => (s.requestById u requestId).isNone
  | .addMultipartPart _ _, .findRequest u requestId, s => (s.requestById u requestId).isNone
  | .deleteRequest _, .findUserContext c userCtxId, s => (s.liveUserContext c userCtxId).isSome
  | .deleteRequest _, .findRequest u requestId, s => (s.requestById u requestId).isSome
  | .deleteRequest _, .requestBusy r false, s => !s.isRequestBusy r
  | .sceTerminate _, access, s => Termination.Closes sdk access s
  | _, _, _ => true

def judgeSound (sdk : Nat) (op : Op) (access : Access) (s _ : State) (notes : Bool) : Bool :=
  notes && Sound sdk op access s

theorem sound_of_modest {sdk : Nat} {op : Op} (modest : op.modest = true) (access : Access)
    (s : State) : Sound sdk op access s = true := by
  cases op <;> first | rfl | exact absurd modest Bool.false_ne_true

theorem judgeSound_true {sdk : Nat} {op : Op} {access : Access} {s : State} (t : State)
    (notes : Bool) (sound : Sound sdk op access s = true) :
    judgeSound sdk op access s t notes = notes := by
  rw [judgeSound, sound, Bool.and_true]

theorem balanced_iff_of_settled {later : CallLedger Bool}
    (settled : later.Settled (fun _ => false) true) : later.Balanced ↔ later.notes = true := by
  rcases settled with ⟨notes, balanced⟩ | ⟨notes, unbalanced⟩
  · exact iff_of_true balanced notes
  · exact iff_of_false unbalanced (by simp [notes])

theorem balanced_iff_of_keeps {sdk : Nat} {op : Op} {p : Call Int}
    (keeps : (books (judgeSound sdk op)).Keeps p) :
    (books (judgeSound sdk op)).Ends p (opened true)
      (fun _ later => later.Balanced ↔ later.notes = true) := by
  refine (keeps (opened true)).mono ?_
  intro _ later same
  exact iff_of_true (same.balanced (Ledger.balanced_start true)) same.notes

/-- The two multipart calls. -/
theorem balanced_iff_of_unmarked {sdk : Nat} {op : Op}
    (sound : ∀ access s, Sound sdk op access s = match access with
      | .findRequest u requestId => (s.requestById u requestId).isNone
      | _ => true) {requestId : Int} {f : Request → Request}
    (counts : ∀ x, (f x).userCount = x.userCount) :
    (books (judgeSound sdk op)).Ends (withRequest findRequest requestId fun _ _ request => do
      writing (.request request) (State.modifyRequest request f)
      pure orbisOk) (opened true) (fun _ later => later.Balanced ↔ later.notes = true) := by
  suffices settles : (books (judgeSound sdk op)).Ends
      (withRequest findRequest requestId fun _ _ request => do
        writing (.request request) (State.modifyRequest request f)
        pure orbisOk) (opened true) (fun _ later => later.Settled (fun _ => false) true) from
    settles.mono (fun _ _ => balanced_iff_of_settled)
  refine ends_unmarkedRequest ?_ ?_ ?_ ?_ ?_ counts
  · intro access ordinary s t notes _
    refine judgeSound_true t notes ?_
    rw [sound]
    cases access <;> first | rfl | exact absurd ordinary Bool.false_ne_true
  · exact fun id s t notes _ => judgeSound_true t notes (sound _ s)
  · exact fun c s t notes _ => judgeSound_true t notes (sound _ s)
  · exact fun c id s t notes _ => judgeSound_true t notes (sound _ s)
  · intro u id s notes
    cases found : s.requestById u id <;> simp [judgeSound, sound, found]

/-- Every call is balanced exactly if it takes none of the exits that leave something behind. The
callbacks of the game are assumed to be balanced themselves. -/
theorem program_balanced_iff (sdk : Nat) (onPush : Int → Call Unit) (op : Op)
    (callbacks : ∀ callbackId, (books (judgeSound sdk op)).Keeps (onPush callbackId)) :
    (books (judgeSound sdk op)).Ends (program sdk onPush op) (opened true)
      (fun _ later => later.Balanced ↔ later.notes = true) := by
  have settles : ∀ {p : Call Int}, (books (judgeSound sdk op)).Ends p (opened true)
      (fun _ later => later.Settled (fun _ => false) true) →
      (books (judgeSound sdk op)).Ends p (opened true)
        (fun _ later => later.Balanced ↔ later.notes = true) :=
    fun ends => ends.mono (fun _ _ => balanced_iff_of_settled)
  cases modest : op.modest with
  | true =>
    apply balanced_iff_of_keeps
    refine keeps_program ?_ callbacks modest
    exact fun access s t notes _ => judgeSound_true t notes (sound_of_modest modest access s)
  | false =>
    cases op with
    | sceInitialize initializeResult =>
      apply balanced_iff_of_keeps
      apply keeps_sceNpWebApiInitialize
      exact fun access s t notes => judgeSound_true t notes rfl
    | sceTerminate libCtxId =>
      have ends : ((books (Termination.enter sdk)).judged
          (judgeSound sdk (.sceTerminate libCtxId))).Ends (sceNpWebApiTerminate sdk libCtxId)
          ((opened {}).map Termination.closes)
          (fun _ later => later.Balanced ↔ later.notes = true) := by
        rw [ends_judged (fun _ _ _ _ => rfl)]
        refine (Termination.ends_sceNpWebApiTerminate sdk libCtxId).mono ?_
        intro _ later both
        exact Ledger.balanced_map.trans both.1
      exact ends
    | createUserContext libCtxId userId =>
      refine settles (ends_createUserContext ?_ ?_ ?_ ?_ libCtxId userId)
      · intro access ordinary s t notes _
        refine judgeSound_true t notes ?_
        cases access <;> first | rfl | exact absurd ordinary Bool.false_ne_true
      · exact fun id s t notes _ => judgeSound_true t notes rfl
      · exact fun c s t notes _ => judgeSound_true t notes rfl
      · intro c libCtxId userId s t notes _
        cases free : s.hasUserContextId c libCtxId <;> simp [judgeSound, Sound, free]
    | setMultipartContentType requestId typeName boundary =>
      exact balanced_iff_of_unmarked (fun access s => by cases access <;> rfl) (fun _ => rfl)
    | addMultipartPart requestId param =>
      cases param with
      | none => exact balanced_iff_of_keeps (keeps_pure invalidArgument)
      | some contentLength =>
        exact balanced_iff_of_unmarked (fun access s => by cases access <;> rfl) (fun _ => rfl)
    | deleteRequest requestId =>
      refine settles (ends_deleteRequest ?_ ?_ ?_ sdk ?_ ?_ ?_ requestId)
      · intro access ordinary s t notes _
        refine judgeSound_true t notes ?_
        cases access with
        | requestBusy r waiting =>
          cases waiting with
          | true => rfl
          | false => exact absurd ordinary Bool.false_ne_true
        | _ => first | rfl | exact absurd ordinary Bool.false_ne_true
      · exact fun id s t notes _ => judgeSound_true t notes rfl
      · exact fun c s t notes _ => judgeSound_true t notes rfl
      · intro c id s notes
        cases found : (s.liveUserContext c id).isSome <;> simp [judgeSound, Sound, found]
      · intro u id s notes
        cases found : (s.requestById u id).isSome <;> simp [judgeSound, Sound, found]
      · intro r s notes
        cases busy : s.isRequestBusy r <;> simp [judgeSound, Sound, busy]
    | _ => exact absurd modest (Bool.false_ne_true ∘ Eq.symm)

theorem program_balanced_iff_drain :
    (books (judgeSound fw400 .drainPushEvents)).Ends
      (program fw400 (fun _ => pure ()) .drainPushEvents) (opened true)
      (fun _ later => later.Balanced ↔ later.notes = true) :=
  program_balanced_iff fw400 (fun _ => pure ()) .drainPushEvents (fun _ => keeps_pure ())

/-! ## A lock that is kept -/

/-- Threads that make one call each, and whose callbacks do nothing. -/
def system (sdk : Nat) : LockProgram.Action Op → Machine State Mutex Access →
    Machine State Mutex Access :=
  Machine.step ready (fun op => program sdk (fun _ => pure ()) op >>= fun _ => pure ())

/-- One call after the other, each in a thread of its own. -/
def inTurn (calls : List (Op × Nat)) : List (LockProgram.Action Op) :=
  calls.zipIdx.flatMap (fun ((op, steps), thread) => .spawn op :: List.replicate steps (.take thread))

/-- The request belongs to a context that has no user contexts. -/
def deletionOfUnknown : List (LockProgram.Action Op) :=
  inTurn [(.sceInitialize 0, 8), (.deleteRequest 0x1000000000000, 20)]

/-- The call has returned, and its thread has kept the lock. -/
theorem deletionOfUnknown_keeps_lock : ¬∀ (actions : List (LockProgram.Action Op)) (thread : Nat),
    ∀ t ∈ (Runs.run (system fw400) actions ⟨{}, []⟩).threads[thread]?, t.next = none →
      t.held = [] := by
  intro released
  have run : ((Runs.run (system fw400) deletionOfUnknown ⟨{}, []⟩).threads[1]?).map
      (fun t => (t.next, t.held)) = some (none, [.contextLock ⟨1, 0⟩]) := by decide +kernel
  obtain ⟨t, there, entry⟩ := Option.map_eq_some_iff.mp run
  obtain ⟨next, held⟩ := Prod.mk.inj entry
  have free := released deletionOfUnknown 1 t there next
  simp [held] at free

end NpWebApi
