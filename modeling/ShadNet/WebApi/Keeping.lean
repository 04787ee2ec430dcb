import ShadNet.WebApi.Ledger

/-!
# The operations that leave nothing behind

Whatever they find, and at whichever test they leave, these operations end with the
ledger they began with.
-/

namespace NpWebApi

open LockProgram Prog Books

variable {γ : Type} {judge : Access → State → State → γ → γ}

/-! ## Updates that keep the user counts -/

theorem Request.userCount_startTimer (now : Nat) (x : Request) :
    (x.startTimer now).userCount = x.userCount := by
  rw [Request.startTimer]
  split <;> rfl

theorem Request.userCount_takePart (partIndex : Int) (dataSize : Nat) (x : Request) :
    (x.takePart partIndex dataSize).2.userCount = x.userCount := by
  rw [Request.takePart]
  split
  · rfl
  · split <;> rfl

theorem minor_createUserContext (context : ContextPtr) (libCtxId userId : Int) :
    (books judge).Minor (.createUserContext context libCtxId userId)
      (fun s => (State.createUserContext context libCtxId userId s).2) := by
  constructor
  · intro s o foreign
    simp only [books, State.createUserContext]
    split
    · exact userCount_of_maps rfl rfl rfl rfl
    · rw [userCount_modifyContext, userCount_modifyUserContext]
      · exact userCount_of_maps rfl rfl rfl rfl
      · rintro rfl
        exact absurd rfl foreign
      · exact fun _ _ => rfl
  · intro s
    simp only [books, State.createUserContext]
    split <;> rfl

theorem userCount_deleteContext (libCtxId : Int) (s : State) (o : Object) :
    State.userCount o (State.deleteContext libCtxId s).2 = State.userCount o s := by
  simp only [State.deleteContext]
  split
  · rfl
  · rw [userCount_modifyContext]
    · exact userCount_of_maps rfl rfl rfl rfl
    · exact fun _ _ => rfl

theorem minor_createRequest (user : UserContextPtr) (userCtxId : Int) (multipart : Bool) :
    (books judge).Minor (.createRequest user)
      (fun s => (State.createRequest user userCtxId multipart s).2) := by
  refine ⟨?_, fun _ => rfl⟩
  intro s o foreign
  simp only [books, State.createRequest]
  rw [userCount_modifyUserContext, userCount_modifyRequest]
  · exact userCount_of_maps rfl rfl rfl rfl
  · rintro rfl
    exact absurd rfl foreign
  · exact fun _ _ => rfl

theorem minor_createHandle (timers : Bool) (context : ContextPtr) :
    (books judge).Minor (.createHandle context)
      (fun s => (State.createHandle timers context s).2) := by
  refine ⟨?_, fun _ => rfl⟩
  intro s o foreign
  simp only [books, State.createHandle]
  rw [userCount_modifyContext, userCount_modifyHandle]
  · exact userCount_of_maps rfl rfl rfl rfl
  · rintro rfl
    exact absurd rfl foreign
  · exact fun _ _ => rfl

theorem minor_createPushEventFilter (kind : PushKind) (context : ContextPtr) {access : Access} :
    (books judge).Minor access (fun s => (State.createPushEventFilter kind context s).2) := by
  refine ⟨?_, fun _ => rfl⟩
  intro s o _
  simp only [books, State.createPushEventFilter]
  rw [userCount_modifyContext]
  · exact userCount_of_maps rfl rfl rfl rfl
  · exact fun _ _ => rfl

theorem minor_registerCallback (kind : PushKind) (user : UserContextPtr) (filterId : Int)
    {access : Access} :
    (books judge).Minor access (fun s => (State.registerCallback kind user filterId s).2) := by
  refine ⟨?_, fun _ => rfl⟩
  intro s o _
  simp only [books, State.registerCallback]
  rw [userCount_modifyUserContext]
  · exact userCount_of_maps rfl rfl rfl rfl
  · exact fun _ _ => rfl

theorem minor_eraseUserContext (user : UserContextPtr) :
    (books judge).Minor (.eraseUserContext user) (State.eraseUserContext user) := by
  refine ⟨?_, fun _ => rfl⟩
  intro s o _
  simp only [books, State.eraseUserContext]
  rw [userCount_modifyContext, userCount_modifyUserContext]
  · exact fun _ _ => rfl
  · exact fun _ _ => rfl

theorem minor_eraseRequest (user : UserContextPtr) (request : RequestPtr) :
    (books judge).Minor (.eraseRequest user request) (State.eraseRequest user request) := by
  refine ⟨?_, fun _ => rfl⟩
  intro s o _
  simp only [books, State.eraseRequest]
  rw [userCount_modifyUserContext, userCount_modifyRequest]
  · exact fun _ _ => rfl
  · exact fun _ _ => rfl

theorem minor_eraseHandle (timers : Bool) (context : ContextPtr) (handleId : Int) :
    (books judge).Minor (.eraseHandle context handleId)
      (State.eraseHandle timers context handleId) := by
  refine ⟨?_, fun _ => rfl⟩
  intro s o _
  simp only [books, State.eraseHandle]
  rw [userCount_modifyContext]
  exact fun _ _ => rfl

/-- Counters, queues and clocks count no users. -/
theorem minor_of_maps {access : Access} {write : State → State}
    (contexts : ∀ s, (write s).contexts = s.contexts)
    (userContexts : ∀ s, (write s).userContexts = s.userContexts)
    (requests : ∀ s, (write s).requests = s.requests) (handles : ∀ s, (write s).handles = s.handles)
    (watched : ∀ s, (books judge).watched (write s) = (books judge).watched s) :
    (books judge).Minor access write :=
  ⟨fun s _ _ => userCount_of_maps (contexts s) (userContexts s) (requests s) (handles s),
    watched⟩

/-- The handles of a context are aborted during its termination, too. -/
theorem keeps_abortHandle_noted {libCtxId : Int}
    (quiet : ∀ access : Access, access.ordinary → (books judge).Silent access)
    (lookup : (books judge).Silent (.findContext libCtxId))
    (test : ∀ c, (books judge).Silent (.terminated c)) (handleId : Int) :
    (books judge).Keeps (abortHandle libCtxId handleId) := by
  refine keeps_withContext quiet lookup test ?_
  intro context ledger
  rw [Books.Ends, ends_bind]
  refine ends_getHandle quiet (Ledger.Same.refl ledger) ?_
  intro handle
  apply ends_guarded
  have aborts : (books judge).Keeps (writing (.handle handle)
      (State.modifyHandle handle (fun x => { x with aborted := true })) : Call Unit) :=
    keeps_writing (quiet _ rfl) (minor_modifyHandle (fun _ => rfl))
  refine aborts.andThen ?_
  intro _ later same
  rw [Books.Ends, ends_bind]
  apply ends_release quiet
  rw [ends_pure]
  exact Ledger.Same.released (Ledger.Same.unlocked same)

/-! ## The deletion of a user context -/

section Deletion

/-- What the deletion of a user context leaves in the ledger; `fail` notes that it came out other
than with `ORBIS_NP_WEBAPI_ERROR_USER_CONTEXT_NOT_FOUND`. -/
structure DeletionEnds (fail : γ → γ) (sdk : Nat) (ledger : CallLedger γ) (result : Int)
    (later : CallLedger γ) : Prop where
  same : (ledger.note later.notes).Same later
  contexts : ∀ c, later.own (.context c) → ledger.own (.context c)
  noted : later.notes = ledger.notes ∨ later.notes = fail ledger.notes
  outcome : fw400 ≤ sdk →
    later.notes = if result = userContextNotFound then ledger.notes else fail ledger.notes

variable {fail : γ → γ} {sdk : Nat}
  (quiet : ∀ access : Access, access.ordinary → (books judge).Silent access)
include quiet

theorem ends_finishDeleteUserContext {context : ContextPtr} {user : UserContextPtr}
    {start ledger : CallLedger γ}
    (held : (((start.mark (.context context) 1).hold (.contextLock context) 1).mark
      (.userContext user) 1).Same ledger) :
    (books judge).Ends (finishDeleteUserContext context user) ledger (fun result later =>
      result = orbisOk ∧ start.Same later ∧
        ∀ c, later.own (.context c) → ledger.own (.context c)) := by
  rw [finishDeleteUserContext, Books.Ends, ends_bind]
  refine ends_access_silent (quiet _ rfl) (minor_eraseUserContext user) ?_
  intro s erased same owns
  rw [ends_bind]
  apply ends_unlock
  rw [ends_bind]
  apply ends_release quiet
  rw [ends_pure]
  have owned : erased.own (.userContext user) := (owns _).mpr (Or.inr rfl)
  refine ⟨rfl, ((held.trans same).disowned owned).unlocked.released, ?_⟩
  intro c own
  exact ((owns _).mp own).resolve_right not_false

theorem ends_leaveUserContext {context : ContextPtr} {user : UserContextPtr} {code : Int}
    {start ledger : CallLedger γ}
    (held : (((start.mark (.context context) 1).hold (.contextLock context) 1).mark
      (.userContext user) 1).Same ledger) :
    (books judge).Ends (leaveUserContext context user code) ledger (fun result later =>
      result = code ∧ start.Same later ∧ ∀ o, later.own o → ledger.own o) := by
  rw [leaveUserContext, Books.Ends, ends_bind]
  apply ends_release quiet
  rw [ends_bind]
  apply ends_unlock
  rw [ends_bind]
  apply ends_release quiet
  rw [ends_pure]
  exact ⟨rfl, held.released.unlocked.released, fun _ own => own⟩

variable (lookupUser : ∀ c id, (books judge).Silent (.findUserContext c id))
  (lookup : ∀ id s notes, judge (.findContext id) s s notes =
    if (State.registered id s).isSome then notes else fail notes)
  (test : ∀ c s notes, judge (.terminated c) s s notes =
    if (s.contexts c).terminated then fail notes else notes)
  (deleted : ∀ u s notes, judge (.userContextDeleted u) s s notes =
    if (s.userContexts u).deleted then notes else fail notes)
include lookupUser lookup test deleted

theorem ends_deleteUserContext (userCtxId : Int) (ledger : CallLedger γ) :
    (books judge).Ends (deleteUserContext sdk userCtxId) ledger
      (DeletionEnds fail sdk ledger) := by
  have unknown : DeletionEnds fail sdk ledger libContextNotFound
      (ledger.note (fail ledger.notes)) :=
    ⟨Ledger.Same.refl _, fun _ own => own, Or.inr rfl, fun _ => rfl⟩
  rw [deleteUserContext, Books.Ends, ends_bind]
  refine ends_findAndValidateContext_noted quiet ?_ ?_
  · intro s missing
    rw [lookup, missing]
    exact unknown
  intro s c found t
  rw [lookup, found, test, Option.isSome_some, if_pos rfl]
  constructor
  · intro terminated
    rw [if_pos terminated]
    exact unknown
  intro live
  rw [if_neg live, ends_bind]
  apply ends_lock
  rw [ends_bind]
  refine ends_findUserContext quiet (lookupUser c userCtxId) ?_ ?_
  · rw [ends_bind]
    apply ends_unlock
    rw [ends_bind]
    apply ends_release quiet
    refine ⟨?_, fun _ own => own, Or.inl rfl, fun _ => rfl⟩
    exact (Ledger.Same.refl _).unlocked.released
  intro user
  have held := Ledger.Same.refl (((ledger.mark (.context c) 1).hold (.contextLock c) 1).mark
    (.userContext user) 1)
  rw [ends_ite]
  constructor
  · intro old
    have outcome : ∀ {p : Prop}, fw400 ≤ sdk → p := fun new => absurd old (Nat.not_lt.mpr new)
    refine (still_isUserContextInUse quiet).andThen ?_
    intro inUse
    rw [Books.Ends, ends_ite]
    constructor
    · intro _
      refine (ends_leaveUserContext quiet held).mono ?_
      rintro result later ⟨_, kept, owns⟩
      exact ⟨kept.renoted, fun d => owns (.context d), Or.inl kept.notes, outcome⟩
    · intro _
      refine (ends_finishDeleteUserContext quiet held).mono ?_
      rintro result later ⟨_, kept, owns⟩
      exact ⟨kept.renoted, owns, Or.inl kept.notes, outcome⟩
  · intro _
    rw [ends_bind]
    refine ends_reading_silent (Access.not_settles rfl) (quiet _ rfl) ?_
    intro r
    refine (still_forEach (fun request => ?_)).andThen ?_
    · exact (still_abortRequestInternal quiet c request).bind (fun _ => still_pure ())
    intro _
    rw [Books.Ends, ends_bind]
    refine ends_reading (Access.not_settles rfl) ?_
    intro r
    rw [books_judge, deleted, ends_ite]
    constructor
    · intro gone
      rw [if_pos gone]
      refine (ends_leaveUserContext quiet held).mono ?_
      rintro result later ⟨rfl, kept, owns⟩
      exact ⟨kept.renoted, fun d => owns (.context d), Or.inl kept.notes, fun _ => kept.notes⟩
    · intro alive
      rw [if_neg alive]
      refine (still_writing (Access.not_settles rfl) (quiet _ rfl) ?_).andThen ?_
      · exact minor_modifyUserContext (fun _ => rfl)
      intro _
      refine (still_isUserContextInUse quiet).andThen ?_
      intro busy
      refine still_waitWhile.andThen ?_
      intro _
      have marked := Ledger.Same.refl ((((ledger.note (fail ledger.notes)).mark (.context c) 1).hold
        (.contextLock c) 1).mark (.userContext user) 1)
      refine (ends_finishDeleteUserContext quiet marked).mono ?_
      rintro result later ⟨rfl, kept, owns⟩
      exact ⟨kept.renoted, owns, Or.inr kept.notes, fun _ => kept.notes⟩

end Deletion

/-- The calls that neither make or erase library contexts, nor have an exit that leaves something
behind. -/
def Op.modest : Op → Bool
  | .sceInitialize _ | .sceTerminate _ | .createUserContext _ _ | .setMultipartContentType _ _ _
  | .addMultipartPart _ _ | .deleteRequest _ => false
  | _ => true

section

variable (quiet : ∀ access : Access, (books judge).Silent access)
include quiet

/-! ## Requests -/

theorem keeps_modifyRequest {request : RequestPtr} {f : Request → Request}
    (counts : ∀ x, (f x).userCount = x.userCount) :
    (books judge).Keeps (writing (.request request) (State.modifyRequest request f) : Call Unit) :=
  keeps_writing (quiet _) (minor_modifyRequest counts)

theorem keeps_setRequestTimeout (requestId : Int) (timeout : Nat) :
    (books judge).Keeps (setRequestTimeout requestId timeout) := by
  apply Keeps.withRequest quiet
  intro context user request
  exact Keeps.bind (keeps_modifyRequest quiet (fun _ => rfl)) (fun _ => keeps_pure orbisOk)

theorem keeps_addHttpRequestHeaderInternal (requestId : Int) (fieldName value : String) :
    (books judge).Keeps (addHttpRequestHeaderInternal requestId fieldName value) := by
  apply Keeps.withRequest quiet
  intro context user request
  exact Keeps.bind (keeps_modifyRequest quiet (fun _ => rfl)) (fun _ => keeps_pure orbisOk)

theorem keeps_getHttpResponseHeaderValueInternal (requestId err : Int) :
    (books judge).Keeps (getHttpResponseHeaderValueInternal requestId err) := by
  apply Keeps.withRequest quiet
  intro context user request
  exact Keeps.bind (keeps_reading (quiet _)) (fun _ => keeps_pure _)

theorem keeps_getHttpStatusCodeInternal (requestId err : Int) :
    (books judge).Keeps (getHttpStatusCodeInternal requestId err) := by
  apply Keeps.withRequest quiet
  intro context user request
  exact Keeps.bind (keeps_reading (quiet _)) (fun _ => keeps_pure _)

theorem keeps_startRequestTimer (now : Nat) (request : RequestPtr) :
    (books judge).Keeps (startRequestTimer now request) :=
  keeps_modifyRequest quiet (Request.userCount_startTimer now)

theorem keeps_setRequestState (state : Nat) (request : RequestPtr) :
    (books judge).Keeps (setRequestState state request) :=
  keeps_modifyRequest quiet (fun _ => rfl)

theorem keeps_takePart (partIndex : Int) (dataSize : Nat) (request : RequestPtr) :
    (books judge).Keeps (takePart partIndex dataSize request) :=
  keeps_access (quiet _) (minor_modifyRequest (Request.userCount_takePart partIndex dataSize))

theorem keeps_createHttpRequest (answers : SendAnswers) (request : RequestPtr) :
    (books judge).Keeps (createHttpRequest answers request) := by
  refine Keeps.bind (keeps_reading (quiet _)) (fun httpRequestId => ?_)
  apply keeps_ite (keeps_pure none)
  apply keeps_ite (keeps_pure _)
  refine Keeps.bind (keeps_modifyRequest quiet (fun _ => rfl)) (fun _ => ?_)
  apply keeps_ite
  · exact Keeps.bind (keeps_modifyRequest quiet (fun _ => rfl)) (fun _ => keeps_pure _)
  · refine Keeps.bind (keeps_modifyRequest quiet (fun _ => rfl)) (fun _ => ?_)
    apply keeps_ite (keeps_pure _)
    apply keeps_ite
    · exact Keeps.bind (keeps_modifyRequest quiet (fun _ => rfl)) (fun _ => keeps_pure _)
    · exact Keeps.bind (keeps_modifyRequest quiet (fun _ => rfl)) (fun _ => keeps_pure none)

theorem keeps_sendRequest (sdk : Nat) (answers : SendAnswers) (requestId partIndex : Int)
    (dataSize : Nat) (flag : Bool) :
    (books judge).Keeps (sendRequest sdk answers requestId partIndex dataSize flag) := by
  apply Keeps.withRequest quiet
  intro context user request
  refine Keeps.bind (keeps_startRequestTimer quiet _ request) (fun _ => ?_)
  refine Keeps.bind (keeps_takePart quiet _ _ request) (fun part => ?_)
  cases part with
  | refused => exact keeps_pure _
  | incomplete => exact keeps_pure _
  | complete =>
    refine Keeps.bind (keeps_when (keeps_modifyRequest quiet (fun _ => rfl))) (fun _ => ?_)
    refine Keeps.bind (keeps_guarded (keeps_reading (quiet _))) (fun stopped => ?_)
    apply keeps_ite (keeps_pure _)
    refine Keeps.bind (keeps_reading (quiet _)) (fun userId => ?_)
    apply keeps_ite (keeps_pure _)
    refine Keeps.bind (keeps_createHttpRequest quiet answers request) (fun failure => ?_)
    cases failure with
    | some code => exact keeps_pure code
    | none => exact Keeps.bind (keeps_setRequestState quiet 4 request) (fun _ => keeps_pure _)

theorem keeps_abortRequestInternal (context : ContextPtr) (request : RequestPtr) :
    (books judge).Keeps (abortRequestInternal context request) :=
  (still_abortRequestInternal (fun access _ => quiet access) context request).keeps

theorem keeps_abortRequest (requestId : Int) : (books judge).Keeps (abortRequest requestId) := by
  apply Keeps.withUserContext quiet
  intro context user
  refine Keeps.bind (keeps_guarded (keeps_reading (quiet _))) (fun found => ?_)
  cases found with
  | none => exact keeps_pure requestNotFound
  | some request => exact keeps_abortRequestInternal quiet context request

theorem keeps_copyRequestData (size : Nat) (request : RequestPtr) :
    (books judge).Keeps (copyRequestData size request) :=
  keeps_access (quiet _)
    (minor_modifyRequest (f := fun x => (Request.copyData size x).2) (fun _ => rfl))

theorem keeps_readRest (answers : ReadAnswers) (context : ContextPtr) (request : RequestPtr)
    (copied remaining : Nat) :
    (books judge).Keeps (readRest answers context request copied remaining) := by
  apply keeps_ite (keeps_pure _)
  refine Keeps.bind (keeps_guarded ?_) (fun stopped => ?_)
  · exact Keeps.bind (keeps_setRequestState quiet 5 request) (fun _ => keeps_reading (quiet _))
  · apply keeps_ite (keeps_pure _)
    exact Keeps.bind (keeps_reading (quiet _)) (fun _ => keeps_pure _)

theorem keeps_readDataInternal (answers : ReadAnswers) (requestId : Int) (size : Nat) :
    (books judge).Keeps (readDataInternal answers requestId size) := by
  apply Keeps.withRequest quiet
  intro context user request
  refine Keeps.bind (keeps_startRequestTimer quiet _ request) (fun _ => ?_)
  refine Keeps.bind (keeps_copyRequestData quiet size request) (fun copied => ?_)
  refine Keeps.bind (keeps_readRest quiet answers context request copied _) (fun offset => ?_)
  refine Keeps.bind (keeps_guarded ?_) (fun result => ?_)
  · exact Keeps.bind (keeps_setRequestState quiet 0 request) (fun _ => keeps_reading (quiet _))
  · exact Keeps.bind (keeps_modifyRequest quiet (fun _ => rfl)) (fun _ => keeps_pure result)

theorem keeps_createRequest (sdk : Nat) (userCtxId : Int) (multipart : Bool) :
    (books judge).Keeps (createRequest sdk userCtxId multipart) := by
  apply Keeps.withUserContext quiet
  intro context user
  refine Keeps.bind (keeps_guarded ?_) (fun created => ?_)
  · refine Keeps.bind ?_ (fun gone => ?_)
    · exact keeps_ite (keeps_reading (quiet _)) (keeps_pure false)
    apply keeps_ite (keeps_pure none)
    exact Keeps.bind (keeps_access (quiet _) (minor_createRequest ..)) (fun _ => keeps_pure _)
  · cases created with
    | none => exact keeps_pure userContextNotFound
    | some request => exact Keeps.bind (keeps_reading (quiet _)) (fun _ => keeps_pure orbisOk)

/-! ## User contexts -/

theorem keeps_registerNotificationCallback (userCtxId : Int) (callback : Option Nat) :
    (books judge).Keeps (registerNotificationCallback userCtxId callback) := by
  apply Keeps.withUserContext quiet
  intro context user
  refine Keeps.bind (keeps_guarded (keeps_writing (quiet _) ?_)) (fun _ => keeps_pure orbisOk)
  exact minor_modifyUserContext (fun _ => rfl)

theorem keeps_deleteUserContext (sdk : Nat) (userCtxId : Int) :
    (books judge).Keeps (deleteUserContext sdk userCtxId) := by
  have noted : ∀ access s notes, judge access s s notes = notes :=
    fun access s notes => quiet access s s notes rfl
  intro ledger
  have ends : (books judge).Ends (deleteUserContext sdk userCtxId) ledger
      (DeletionEnds id sdk ledger) :=
    ends_deleteUserContext (fun access _ => quiet access) (fun _ _ => quiet _)
      (fun _ _ _ => by simp [noted]) (fun _ _ _ => by simp [noted])
      (fun _ _ _ => by simp [noted]) userCtxId ledger
  refine ends.mono ?_
  intro result later deletion
  have notes : later.notes = ledger.notes := by simpa using deletion.noted
  have same := deletion.same
  rw [notes] at same
  exact same

/-! ## Handles -/

theorem keeps_createHandle (sdk : Nat) (libCtxId : Int) :
    (books judge).Keeps (createHandle sdk libCtxId) := by
  apply Keeps.withContext quiet
  intro context
  refine Keeps.bind (keeps_writing (quiet _) ?_) (fun _ => ?_)
  · exact minor_of_maps (fun _ => rfl) (fun _ => rfl) (fun _ => rfl) (fun _ => rfl) (fun _ => rfl)
  · exact keeps_guarded (keeps_access (quiet _) (minor_createHandle _ context))

theorem keeps_setHandleTimeout (libCtxId handleId : Int) (timeout : Nat) :
    (books judge).Keeps (setHandleTimeout libCtxId handleId timeout) := by
  apply Keeps.withContext quiet
  intro context
  apply keeps_guarded
  exact Keeps.bind (keeps_access (quiet _) (minor_modifyContext (fun _ => rfl)))
    (fun _ => keeps_pure _)

theorem keeps_startHandleTimer (now : Nat) (context : ContextPtr) (handleId : Int) :
    (books judge).Keeps (startHandleTimer now context handleId) :=
  keeps_guarded (keeps_writing (quiet _) (minor_modifyContext (fun _ => rfl)))

theorem keeps_abortHandle (libCtxId handleId : Int) :
    (books judge).Keeps (abortHandle libCtxId handleId) :=
  keeps_abortHandle_noted (fun access _ => quiet access) (quiet _) (fun _ => quiet _) handleId

theorem keeps_waitForHandle (context : ContextPtr) (handle : HandlePtr) :
    (books judge).Keeps (waitForHandle context handle) := by
  have adds := marks_addUser (fun access _ => quiet access) (.handle handle)
  have removes := marks_removeUser (fun access _ => quiet access) (.handle handle)
  intro ledger
  rw [waitForHandle, Books.Ends, ends_bind]
  apply adds.ends
  rw [ends_bind]
  apply ends_reading_silent (Access.not_settles rfl) (quiet _)
  intro s
  rw [ends_bind, when, ends_ite]
  constructor
  · intro _
    rw [ends_bind]
    apply removes.ends
    rw [ends_bind]
    apply ends_unlock
    rw [ends_bind]
    apply ends_relock
    apply adds.ends
    apply removes.ends
    rw [Ledger.mark_mark, Ledger.hold_again, Ledger.mark_mark]
    exact Ledger.Same.refl ledger
  · intro _
    apply removes.ends
    rw [Ledger.mark_mark]
    exact Ledger.Same.refl ledger

theorem keeps_deleteHandleInternal (sdk : Nat) (context : ContextPtr) (handleId : Int) :
    (books judge).Keeps (deleteHandleInternal sdk context handleId) := by
  -- the lock of the context is held from the first step to each of the exits
  have locked : ∀ {p : Call Int}, (∀ ledger : CallLedger γ, (books judge).Ends p
      (ledger.hold (.contextLock context) 1) (fun _ later => ledger.Same later)) →
      (books judge).Keeps (lockContext context >>= fun _ => p) := by
    intro p rest ledger
    rw [Books.Ends, ends_bind]
    exact ends_lock (rest ledger)
  have leaves : ∀ (code : Int) (ledger later : CallLedger γ),
      (ledger.hold (.contextLock context) 1).Same later →
      (books judge).Ends (unlockContext context >>= fun _ => pure code) later
        (fun _ last => ledger.Same last) := by
    intro code ledger later same
    rw [Books.Ends, ends_bind]
    apply ends_unlock
    exact same.unlocked
  have finishes : ∀ ledger later : CallLedger γ,
      (ledger.hold (.contextLock context) 1).Same later →
      (books judge).Ends (finishDeleteHandle sdk context handleId) later
        (fun _ last => ledger.Same last) := by
    intro ledger later same
    have erases : (books judge).Keeps (writing (.eraseHandle context handleId)
        (State.eraseHandle (fw300 ≤ sdk) context handleId) : Call Unit) :=
      keeps_writing (quiet _) (minor_eraseHandle _ context handleId)
    refine erases.andThen ?_
    intro _ last erased
    exact leaves orbisOk ledger last (same.trans erased)
  apply locked
  intro ledger
  have stays := Ledger.Same.refl (ledger.hold (.contextLock context) 1)
  rw [Books.Ends, ends_bind]
  apply ends_reading_silent (Access.not_settles rfl) (quiet _)
  intro s
  cases s.handleById context handleId with
  | none => exact leaves _ _ _ stays
  | some handle =>
    rw [ends_ite]
    constructor
    · intro _
      rw [ends_bind]
      apply ends_reading_silent (Access.not_settles rfl) (quiet _)
      intro t
      rw [ends_ite]
      refine ⟨fun _ => leaves _ _ _ stays, fun _ => ?_⟩
      have marks : (books judge).Keeps (writing (.handle handle)
          (State.modifyHandle handle (fun x => { x with deleted := true })) : Call Unit) :=
        keeps_writing (quiet _) (minor_modifyHandle (fun _ => rfl))
      refine marks.andThen ?_
      intro _ marked same
      rw [Books.Ends, ends_bind]
      apply ends_unlock
      refine (keeps_abortHandle quiet _ _).andThen ?_
      intro _ aborted afterAbort
      rw [Books.Ends, ends_bind]
      apply ends_lock
      refine (keeps_waitForHandle quiet context handle).andThen ?_
      intro _ waited afterWait
      refine finishes ledger waited (Ledger.Same.trans ?_ afterWait)
      exact (same.unlocked.trans afterAbort).hold _ 1
    · intro _
      rw [ends_bind]
      apply ends_reading_silent (Access.not_settles rfl) (quiet _)
      intro t
      rw [ends_ite]
      exact ⟨fun _ => leaves _ _ _ stays, fun _ => finishes _ _ stays⟩

theorem keeps_deleteHandle (sdk : Nat) (libCtxId handleId : Int) :
    (books judge).Keeps (deleteHandle sdk libCtxId handleId) :=
  Keeps.withContext quiet (fun context => keeps_deleteHandleInternal quiet sdk context handleId)

/-! ## Filters and callbacks -/

theorem keeps_createPushEventFilter (libCtxId : Int) :
    (books judge).Keeps (createPushEventFilter libCtxId) := by
  apply Keeps.withContext quiet
  intro context
  exact keeps_guarded (keeps_access (quiet _) (minor_createPushEventFilter .basic context))

theorem keeps_createHandleFilter (kind : PushKind) (now : Nat) (libCtxId handleId : Int)
    (refused : Bool) :
    (books judge).Keeps (createHandleFilter kind now libCtxId handleId refused) := by
  apply Keeps.withContext quiet
  intro context
  refine Keeps.bind (keeps_startHandleTimer quiet now context handleId) (fun _ => ?_)
  apply keeps_guarded
  refine Keeps.bind (keeps_reading (quiet _)) (fun found => ?_)
  cases found with
  | none => exact keeps_pure handleNotFound
  | some handle =>
    have adds := marks_addUser (fun access _ => quiet access) (.handle handle)
    have removes := marks_removeUser (fun access _ => quiet access) (.handle handle)
    intro ledger
    rw [Books.Ends, ends_bind]
    apply adds.ends
    rw [ends_ite]
    constructor
    · intro _
      rw [ends_bind]
      apply removes.ends
      rw [ends_pure, Ledger.mark_mark]
      exact Ledger.Same.refl ledger
    · intro _
      have makes : (books judge).Keeps (access (.filters context kind)
          (State.createPushEventFilter kind context) : Call Int) :=
        keeps_access (quiet _) (minor_createPushEventFilter kind context)
      refine makes.andThen ?_
      intro filterId later same
      rw [Books.Ends, ends_bind]
      apply removes.ends
      rw [ends_pure]
      exact same.released

theorem keeps_deleteFilter (kind : PushKind) (missing libCtxId filterId : Int) :
    (books judge).Keeps (deleteFilter kind missing libCtxId filterId) := by
  apply Keeps.withContext quiet
  intro context
  apply keeps_guarded
  exact keeps_access (quiet _) (minor_modifyContext (f := Context.removeFilter kind filterId)
    (fun _ => rfl))

theorem keeps_registerCallback (kind : PushKind) (missing : Int) (checks refused : Bool)
    (userCtxId filterId : Int) :
    (books judge).Keeps (registerCallback kind missing checks refused userCtxId filterId) := by
  apply Keeps.withUserContext quiet
  intro context user
  refine Keeps.bind (keeps_ite (keeps_reading (quiet _)) (keeps_pure true)) (fun known => ?_)
  apply keeps_ite (keeps_pure missing)
  apply keeps_guarded
  apply keeps_ite
  · refine Keeps.bind (keeps_when (keeps_writing (quiet _) ?_)) (fun _ => keeps_pure invalidArgument)
    exact minor_of_maps (fun _ => rfl) (fun _ => rfl) (fun _ => rfl) (fun _ => rfl) (fun _ => rfl)
  · exact keeps_access (quiet _) (minor_registerCallback kind user filterId)

theorem keeps_unregisterCallback (kind : PushKind) (missing userCtxId callbackId : Int) :
    (books judge).Keeps (unregisterCallback kind missing userCtxId callbackId) := by
  apply Keeps.withUserContext quiet
  intro context user
  refine Keeps.bind (keeps_reading (quiet _)) (fun known => ?_)
  apply keeps_ite (keeps_pure missing)
  refine Keeps.bind (keeps_guarded (keeps_writing (quiet _) ?_)) (fun _ => keeps_pure orbisOk)
  exact minor_modifyUserContext (fun _ => rfl)

/-! ## Timeouts and push dispatch -/

theorem keeps_checkRequestTimeout (now : Nat) (request : RequestPtr) :
    (books judge).Keeps (checkRequestTimeout now request) := by
  refine Keeps.bind (keeps_access (quiet _) ?_) (fun expired => ?_)
  · constructor
    · intro s o _
      dsimp only
      split
      · exact userCount_modifyRequest (f := fun x => { x with timedOut := true })
          (fun _ _ => rfl)
      · rfl
    · intro s
      dsimp only
      split <;> rfl
  · apply keeps_when
    exact Keeps.bind (keeps_abortRequest quiet _) (fun _ => keeps_pure ())

theorem keeps_checkUserContextTimeout (now : Nat) (user : UserContextPtr) :
    (books judge).Keeps (checkUserContextTimeout now user) := by
  apply keeps_guarded
  refine Keeps.bind (keeps_reading (quiet _)) (fun requests => ?_)
  exact keeps_forEach (keeps_checkRequestTimeout quiet now)

theorem keeps_checkTimerHandle (now : Nat) (context : ContextPtr) (handleId : Int) :
    (books judge).Keeps (checkTimerHandle now context handleId) := by
  refine Keeps.bind (keeps_access (quiet _) ?_) (fun expired => ?_)
  · exact minor_modifyContext (f := Context.adjustTimer handleId (TimerHandle.check now))
      (fun _ => rfl)
  · apply keeps_when
    exact Keeps.bind (keeps_abortHandle quiet _ _) (fun _ => keeps_pure ())

theorem keeps_checkContextTimeout (now : Nat) (context : ContextPtr) :
    (books judge).Keeps (checkContextTimeout now context) := by
  apply keeps_guarded
  refine Keeps.bind (keeps_reading (quiet _)) (fun users => ?_)
  refine Keeps.bind (keeps_forEach (keeps_checkUserContextTimeout quiet now)) (fun _ => ?_)
  refine Keeps.bind (keeps_reading (quiet _)) (fun timers => ?_)
  exact keeps_forEach (keeps_checkTimerHandle quiet now context)

theorem keeps_sceNpWebApiCheckTimeout (now : Nat) :
    (books judge).Keeps (sceNpWebApiCheckTimeout now) := by
  refine Keeps.bind (keeps_reading (quiet _)) (fun initialized => ?_)
  apply keeps_when
  refine Keeps.bind (keeps_access (quiet _) ?_) (fun due => ?_)
  · constructor
    · intro s o _
      split
      · rfl
      · exact userCount_of_maps rfl rfl rfl rfl
    · intro s
      split <;> rfl
  · apply keeps_when
    apply keeps_guarded
    refine Keeps.bind (keeps_reading (quiet _)) (fun contexts => ?_)
    exact keeps_forEach (keeps_checkContextTimeout quiet now)

theorem keeps_DrainPushEvents {onPush : Int → Call Unit}
    (callbacks : ∀ callbackId, (books judge).Keeps (onPush callbackId)) :
    (books judge).Keeps (DrainPushEvents onPush) := by
  refine Keeps.bind (keeps_access (quiet _) ?_) (fun events => ?_)
  · exact minor_of_maps (fun _ => rfl) (fun _ => rfl) (fun _ => rfl) (fun _ => rfl) (fun _ => rfl)
  apply keeps_forEach
  intro event
  apply keeps_guarded
  refine Keeps.bind (keeps_reading (quiet _)) (fun contexts => ?_)
  apply keeps_forEach
  intro context
  apply keeps_guarded
  refine Keeps.bind (keeps_reading (quiet _)) (fun users => ?_)
  apply keeps_forEach
  intro user
  refine Keeps.bind (keeps_reading (quiet _)) (fun userId => ?_)
  apply keeps_when
  apply keeps_forEach
  intro kind
  refine Keeps.bind (keeps_reading (quiet _)) (fun registered => ?_)
  apply keeps_forEach
  intro callback
  refine Keeps.bind (keeps_reading (quiet _)) (fun accepted => ?_)
  exact keeps_when (callbacks callback.callbackId)

theorem keeps_EnqueuePushEvent (event : PushEventInput) :
    (books judge).Keeps (EnqueuePushEvent event) :=
  keeps_writing (quiet _)
    (minor_of_maps (fun _ => rfl) (fun _ => rfl) (fun _ => rfl) (fun _ => rfl) (fun _ => rfl))

theorem keeps_program {sdk : Nat} {onPush : Int → Call Unit}
    (callbacks : ∀ callbackId, (books judge).Keeps (onPush callbackId)) {op : Op}
    (modest : op.modest = true) : (books judge).Keeps (program sdk onPush op) := by
  cases op with
  | rejected code => exact keeps_pure code
  | sceInitialize | sceTerminate | createUserContext | setMultipartContentType | addMultipartPart
  | deleteRequest => simp [Op.modest] at modest
  | deleteUserContext => apply keeps_deleteUserContext quiet
  | registerNotificationCallback => apply keeps_registerNotificationCallback quiet
  | unregisterNotificationCallback => apply keeps_registerNotificationCallback quiet
  | createRequest => apply keeps_createRequest quiet
  | setRequestTimeout => apply keeps_setRequestTimeout quiet
  | addHttpRequestHeader => apply keeps_addHttpRequestHeaderInternal quiet
  | getHttpResponseHeaderValue => apply keeps_getHttpResponseHeaderValueInternal quiet
  | getHttpStatusCode => apply keeps_getHttpStatusCodeInternal quiet
  | sendRequest => apply keeps_sendRequest quiet
  | readData => apply keeps_readDataInternal quiet
  | abortRequest => apply keeps_abortRequest quiet
  | createHandle => apply keeps_createHandle quiet
  | setHandleTimeout => apply keeps_setHandleTimeout quiet
  | abortHandle => apply keeps_abortHandle quiet
  | deleteHandle => apply keeps_deleteHandle quiet
  | createPushEventFilter => apply keeps_createPushEventFilter quiet
  | createServicePushEventFilter => apply keeps_createHandleFilter quiet
  | createExtendedPushEventFilter => apply keeps_createHandleFilter quiet
  | deletePushEventFilter => apply keeps_deleteFilter quiet
  | deleteServicePushEventFilter => apply keeps_deleteFilter quiet
  | deleteExtendedPushEventFilter => apply keeps_deleteFilter quiet
  | registerPushEventCallback => apply keeps_registerCallback quiet
  | registerServicePushEventCallback => apply keeps_registerCallback quiet
  | registerExtdPushEventCallback => apply keeps_registerCallback quiet
  | unregisterPushEventCallback => apply keeps_unregisterCallback quiet
  | unregisterServicePushEventCallback => apply keeps_unregisterCallback quiet
  | unregisterExtdPushEventCallback => apply keeps_unregisterCallback quiet
  | checkTimeout now =>
    exact (keeps_sceNpWebApiCheckTimeout quiet now).bind (fun _ => keeps_pure orbisOk)
  | drainPushEvents =>
    exact (keeps_DrainPushEvents quiet callbacks).bind (fun _ => keeps_pure orbisOk)
  | enqueuePushEvent event =>
    exact (keeps_EnqueuePushEvent quiet event).bind (fun _ => keeps_pure orbisOk)

end

end NpWebApi
