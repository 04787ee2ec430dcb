import ShadNet.WebApi2.References

/-!
# References balance in the second web API

All calls but two end with the ledger they began with, whatever the other threads do
in between. The two others do so exactly when they take none of the exits that leave
something behind.
-/

namespace NpWebApi2.Internal

open LockProgram Prog Books
open NpWebApi (ContextPtr UserContextPtr RequestPtr HandlePtr Object)

variable {c : ContextPtr} {u : UserContextPtr} {r : RequestPtr}

/-! ## Requests -/

theorem keeps_addHttpRequestHeader (requestId : Int) (fieldName fieldValue : String) :
    books.Keeps (addHttpRequestHeader requestId fieldName fieldValue) := by
  apply keeps_withRequest
  intro c u r
  apply Still.keeps
  refine (still_read rfl).bind (fun _ => still_ite (still_pure _) ?_)
  refine (still_read rfl).bind (fun skips => ?_)
  refine Still.bind ?_ (fun _ => still_pure _)
  exact still_ite (still_guarded (still_request (fun _ => rfl))) (still_pure ())

theorem keeps_setRequestTimeout (requestId : Int) (timeout : Nat) :
    books.Keeps (setRequestTimeout requestId timeout) := by
  apply keeps_withRequest
  intro c u r
  exact Still.keeps (Still.bind (still_request (fun _ => rfl)) (fun _ => still_pure _))

/-- The status of the request: either it is let go with an error, or nothing happened. -/
theorem ends_enterState (state : Nat) (ledger : CallLedger) :
    books.Ends (enterState state r u c) (markRequest c u r ledger) (fun result later =>
      (result ≠ orbisOk ∧ ledger.Same later) ∨
        (result = orbisOk ∧ later = markRequest c u r ledger)) := by
  apply ends_guarded
  refine Still.andThen (still_request (fun _ => rfl)) (fun _ => ?_)
  refine (still_read rfl).andThen (fun status => ?_)
  apply ends_cases
  · intro bad
    rw [releaseRequest]
    apply ends_removeUser_then
    apply ends_removeUser_then
    apply ends_removeUser_then
    refine Or.inl ⟨bad, Ledger.Same.unlocked ?_⟩
    exact (Ledger.Same.refl _).released.released.released
  · intro _
    refine Or.inr ⟨rfl, ?_⟩
    exact Ledger.hold_hold (.contextLock r.parentContext : Mutex) 1 (markRequest c u r ledger)

/-- A call goes on from `enterState` only if the request was not let go. -/
theorem releases_enterState {state : Nat} {rest : Call Int}
    (releases : Releases (markRequest c u r) rest) :
    Releases (markRequest c u r) (enterState state r u c >>= fun result =>
      if result ≠ orbisOk then pure result else rest) := by
  intro ledger
  apply ends_then
  refine (ends_enterState state ledger).mono ?_
  rintro result later (⟨bad, same⟩ | ⟨good, rfl⟩)
  · rw [if_pos bad]
    exact same
  · rw [if_neg (not_not.mpr good)]
    exact releases ledger

theorem still_createHttpRequest (answers : HttpAnswers) (lib : ContextPtr)
    (request : RequestPtr) : books.Still (createHttpRequest answers lib request) := by
  refine still_ite (still_pure _) ?_
  refine Still.bind (still_request (fun _ => rfl)) (fun _ => still_ite (still_pure _) ?_)
  intro ledger
  refine ends_then (ends_getUserContext ends_undefined (fun user => ?_))
  refine (still_read rfl).andThen (fun _ => (still_read rfl).andThen (fun _ => ?_))
  apply ends_removeUser_then
  exact Ledger.mark_mark (.userContext user) 1 ledger

theorem still_sendBody (answers : HttpAnswers) (data : NpWebApi2.SendData)
    (request : RequestPtr) : books.Still (sendBody answers data request) := by
  apply still_act rfl
  intro s o
  dsimp only
  rw [uncounted_modifyRequest]
  exact fun _ => rfl

theorem keeps_sendRequest (answers : HttpAnswers) (requestId partIndex : Int)
    (data : NpWebApi2.SendData) :
    books.Keeps (sendRequest answers requestId partIndex data) := by
  apply keeps_lookupRequest
  intro c u r
  have releases : ∀ result : Int, Releases (markRequest c u r) (releaseRequest c u r result) :=
    releases_releaseRequest
  refine Releases.after (still_request (Request.userCount_setEndTime answers.now)) (fun _ => ?_)
  refine Releases.after (still_read rfl) (fun _ => releases_ite (releases _) ?_)
  refine Releases.after (still_request (fun _ => rfl)) (fun _ => releases_enterState ?_)
  refine Releases.after (still_read rfl) (fun _ => releases_ite (releases _) ?_)
  refine Releases.after (still_read rfl) (fun _ => ?_)
  refine Releases.after (still_ite (still_createHttpRequest answers c r) (still_pure _))
    (fun created => releases_ite (releases _) (releases_enterState ?_))
  refine Releases.after (still_sendBody answers data r) (fun result => releases_enterState ?_)
  exact Releases.after (still_request (fun _ => rfl)) (fun _ => releases _)

theorem keeps_getHttpResponseHeaderData (requestId result : Int) :
    books.Keeps (getHttpResponseHeaderData requestId result) :=
  keeps_withRequest (fun _ _ _ => keeps_pure _)

theorem keeps_readData (now : Nat) (requestId result : Int) :
    books.Keeps (readData now requestId result) := by
  apply keeps_lookupRequest
  intro c u r
  refine Releases.after (still_request (Request.userCount_setEndTime now)) (fun _ => ?_)
  refine releases_enterState (Releases.after (still_read rfl) (fun _ => releases_enterState ?_))
  exact Releases.after (still_request (fun _ => rfl)) (fun _ => releases_releaseRequest result)

theorem still_abort (answer : Int) (request : RequestPtr) : books.Still (abort answer request) :=
  still_guarded (still_act rfl (uncounted_modifyRequest (Request.userCount_abort answer)))

theorem keeps_abortRequest (answer requestId : Int) :
    books.Keeps (abortRequest answer requestId) := by
  apply keeps_lookupRequest
  intro c u r ledger
  apply ends_removeUser_then
  refine (still_abort answer r).andThen (fun result => ?_)
  apply ends_removeUser_then
  apply ends_removeUser_then
  exact (Ledger.Same.refl _).released.released.released

theorem keeps_deletion {access : Access} {write : State → State}
    (sound : ∀ s, access.sound s = true) (uncounted : Uncounted write) :
    books.Keeps (writing access write : Call Unit) :=
  keeps_writing (silent_of_sound sound) (minor_of_uncounted uncounted)

theorem keeps_deleteRequestObject (request : RequestPtr) :
    books.Keeps (deleteRequestObject request) :=
  still_await.keeps.bind (fun _ => keeps_deletion (fun _ => rfl) (uncounted_free _))

/-- The deletion lets the lock and the three objects go, whichever way it ends. -/
theorem keeps_deleteRequest (answer requestId : Int) :
    books.Keeps (deleteRequest answer requestId) := by
  intro ledger
  rw [deleteRequest]
  refine ends_then (ends_getLibraryContext (Ledger.Same.refl ledger) (fun lib => ?_))
  apply ends_lock_then
  refine ends_then (ends_getUserContext ?_ (fun user => ?_))
  · apply ends_unlock_then
    apply ends_removeUser_then
    exact (Ledger.Same.refl _).unlocked.released
  refine ends_then (ends_getRequest ?_ (fun request => ?_))
  · apply ends_removeUser_then
    apply ends_unlock_then
    apply ends_removeUser_then
    exact (Ledger.Same.refl _).released.unlocked.released
  refine Still.andThen (still_read rfl) (fun deleting => ?_)
  apply ends_cases
  · intro _
    apply ends_removeUser_then
    apply ends_removeUser_then
    apply ends_unlock_then
    apply ends_removeUser_then
    exact (Ledger.Same.refl _).released.released.unlocked.released
  · intro _
    refine Still.andThen (still_request (fun _ => rfl)) (fun _ => ?_)
    refine Still.andThen (still_abort answer request) (fun _ => ?_)
    refine Still.andThen (still_isRequestBusy request) (fun busy => ?_)
    refine Still.andThen still_waitWhile (fun _ => ?_)
    refine Still.andThen (still_guarded (still_write rfl (uncounted_removeRequest _ _)))
      (fun _ => ?_)
    apply ends_removeUser_then
    refine (keeps_deleteRequestObject request).andThen (fun _ later same => ?_)
    apply ends_removeUser_then
    apply ends_unlock_then
    apply ends_removeUser_then
    have marked := (Ledger.Same.refl _).released.trans same
    exact marked.released.unlocked.released

theorem still_create {α : Type} {wait access : Access} {body : State → α × State}
    (plain : access.plain = true) (uncounted : Uncounted (fun s => (body s).2)) :
    books.Still (await wait >>= fun _ => Prog.access access body : Call α) :=
  still_await.bind (fun _ => still_act plain uncounted)

theorem keeps_createRequest (userCtxId : Int) (contentLength : BitVec 64)
    (multipart tooLong : Bool) :
    books.Keeps (createRequest userCtxId contentLength multipart tooLong) := by
  apply keeps_withUserContext
  intro c u
  apply Still.keeps
  refine still_ite (still_pure _) (Still.bind (still_guarded ?_) (fun _ => still_pure _))
  exact still_create rfl (uncounted_createRequest u contentLength multipart)

/-! ## User contexts -/

/-- The deletion of a user context lets go the mark of its caller. -/
theorem releases_deleteUserContextObject (user : UserContextPtr) :
    Releases (fun ledger => ledger.mark (.userContext user) 1)
      (deleteUserContextObject user) := by
  intro ledger
  refine Still.andThen (still_guarded (still_write rfl (uncounted_removeUserContext _ _)))
    (fun _ => ?_)
  apply ends_removeUser_then
  refine Still.andThen (still_read rfl) (fun requests => ?_)
  refine (keeps_forEach keeps_deleteRequestObject).andThen (fun _ later same => ?_)
  refine (keeps_deletion (fun _ => rfl) (uncounted_deleteUserContext user) later).mono ?_
  intro _ last rest
  exact ((Ledger.Same.refl _).released.trans same).trans rest

theorem keeps_deleteUserContext (answer userCtxId : Int) :
    books.Keeps (deleteUserContext answer userCtxId) := by
  intro ledger
  rw [deleteUserContext]
  refine ends_then (ends_getLibraryContext (Ledger.Same.refl ledger) (fun lib => ?_))
  apply ends_lock_then
  refine ends_then (ends_getUserContext ?_ (fun user => ?_))
  · apply ends_unlock_then
    apply ends_removeUser_then
    exact (Ledger.Same.refl _).unlocked.released
  have aborts : books.Still (guarded (.contextLock user.parentContext) do
      let requests ← reading (.listRequests user) (fun s => (s.userContexts user).requests)
      forEach requests (fun request => do
        let _ ← abort answer request
        pure ()) : Call Unit) :=
    still_guarded ((still_read rfl).bind (fun requests => still_forEach (fun request =>
      (still_abort answer request).bind (fun _ => still_pure ()))))
  refine Still.andThen aborts (fun _ => ?_)
  refine Still.andThen (still_read rfl) (fun deleting => ?_)
  apply ends_cases
  · intro _
    apply ends_removeUser_then
    apply ends_unlock_then
    apply ends_removeUser_then
    exact (Ledger.Same.refl _).released.unlocked.released
  · intro _
    refine Still.andThen (still_userContext (fun _ => rfl)) (fun _ => ?_)
    refine Still.andThen (still_isUserContextInUse user) (fun busy => ?_)
    refine Still.andThen still_waitWhile (fun _ => ?_)
    refine ends_then ((releases_deleteUserContextObject user _).mono (fun _ later same => ?_))
    apply ends_unlock_then
    apply ends_removeUser_then
    exact same.unlocked.released

/-! ## Callbacks and push contexts -/

theorem keeps_registerCallback (kind : CallbackKind) (userCtxId filterId : Int) :
    books.Keeps (registerCallback kind userCtxId filterId) := by
  apply keeps_withUserContext
  intro c u
  apply Still.keeps
  refine (still_guarded (still_read rfl)).bind (fun known => still_ite (still_pure _) ?_)
  exact still_guarded (still_act rfl (uncounted_createCallback kind u filterId))

theorem keeps_unregisterCallback (kind : CallbackKind) (userCtxId callbackId : Int) :
    books.Keeps (unregisterCallback kind userCtxId callbackId) := by
  apply keeps_withUserContext
  intro c u
  apply Still.keeps
  refine still_guarded ((still_read rfl).bind (fun callback => ?_))
  cases callback with
  | none => exact still_pure _
  | some callback =>
    refine still_waitWhile.bind (fun _ => Still.bind (still_write rfl ?_) (fun _ => still_pure _))
    exact uncounted_removeCallback kind u callbackId

theorem still_claimPushContexts (user : UserContextPtr) :
    books.Still (claimPushContexts user) :=
  (still_read rfl).bind (fun _ => still_waitWhile.bind (fun _ => still_pushContexts (fun _ => rfl)))

theorem keeps_createPushContext (userCtxId : Int) :
    books.Keeps (createPushContext userCtxId) := by
  apply keeps_withUserContext
  intro c u
  apply Still.keeps
  refine Still.bind (still_guarded ?_) (fun _ => still_pure _)
  refine (still_claimPushContexts u).bind (fun _ => ?_)
  exact Still.bind (still_write rfl (uncounted_createPushContext u))
    (fun _ => still_pushContexts (fun _ => rfl))

theorem keeps_startPushContextCallback (userCtxId fakeId : Int) :
    books.Keeps (startPushContextCallback userCtxId fakeId) := by
  apply keeps_withUserContext
  intro c u
  apply Still.keeps
  refine (still_guarded (still_read rfl)).bind (fun found => ?_)
  cases found with
  | none => exact still_pure _
  | some found =>
    exact Still.bind (still_pushContexts (fun _ => rfl)) (fun _ => still_pure _)

theorem keeps_deletePushContext (userCtxId fakeId : Int) :
    books.Keeps (deletePushContext userCtxId fakeId) := by
  apply keeps_withUserContext
  intro c u
  apply Still.keeps
  refine (still_guarded (still_read rfl)).bind (fun found => ?_)
  cases found with
  | none => exact still_pure _
  | some found =>
    refine Still.bind (still_guarded ?_) (fun _ => still_pure _)
    refine (still_claimPushContexts u).bind (fun _ => ?_)
    refine (still_read rfl).bind (fun running => ?_)
    exact still_waitWhile.bind (fun _ => still_pushContexts (fun _ => rfl))

/-! ## Push event handles and filters -/

theorem keeps_getMemoryPoolStats (libCtxId : Int) : books.Keeps (getMemoryPoolStats libCtxId) :=
  keeps_withLibraryContext (fun _ => ((still_read rfl).bind (fun _ => still_pure _)).keeps)

theorem keeps_createPushEventHandle (libCtxId : Int) :
    books.Keeps (createPushEventHandle libCtxId) :=
  keeps_withLibraryContext (fun c =>
    (still_guarded (still_act rfl (uncounted_createPushEventHandle c))).keeps)

theorem keeps_setHandleTimeout (libCtxId handleId : Int) (timeout : Nat) :
    books.Keeps (setHandleTimeout libCtxId handleId timeout) := by
  apply keeps_withHandle
  intro c h ledger
  apply ends_then
  apply ends_guarded
  refine Still.andThen (still_handle (fun _ => rfl)) (fun _ => ?_)
  apply ends_removeUser
  exact (Ledger.Same.refl _).released.unlocked

theorem keeps_abortPushEventHandle (libCtxId handleId : Int) :
    books.Keeps (abortPushEventHandle libCtxId handleId) := by
  apply keeps_withHandle
  intro c h ledger
  refine Still.andThen (still_guarded (still_handle (fun _ => rfl))) (fun _ => ?_)
  apply ends_removeUser_then
  exact (Ledger.Same.refl _).released

theorem still_waitForHandle (lib : ContextPtr) (handle : HandlePtr) :
    books.Still (waitForHandle lib handle) := by
  refine (still_read rfl).bind (fun busy => still_ite ?_ (still_pure ()))
  intro ledger
  apply ends_removeUser_then
  apply ends_unlock_then
  apply ends_then
  apply ends_relock
  apply ends_addUser
  rw [Ledger.hold_again]
  exact Ledger.mark_again (.handle handle) 1 ledger

theorem keeps_deletePushEventFilter (libCtxId filterId : Int) :
    books.Keeps (deletePushEventFilter libCtxId filterId) := by
  apply keeps_withLibraryContext
  intro c
  apply Still.keeps
  refine (still_guarded (still_read rfl)).bind (fun known => still_ite (still_pure _) ?_)
  refine Still.bind (still_guarded (still_write rfl ?_)) (fun _ => still_pure _)
  exact uncounted_removeFilter c filterId

theorem keeps_createPushEventFilter (now : Nat) (libCtxId handleId : Int) :
    books.Keeps (createPushEventFilter now libCtxId handleId) := by
  apply keeps_withLibraryContext
  intro c
  apply Still.keeps
  refine Still.bind (still_guarded ((still_read rfl).bind (fun found => ?_))) (fun _ => ?_)
  · cases found with
    | none => exact still_pure ()
    | some handle => exact still_handle (PushEventHandle.userCount_setEndTime now)
  refine still_guarded ((still_read rfl).bind (fun found => ?_))
  cases found with
  | none => exact still_pure _
  | some handle =>
    intro ledger
    apply ends_addUser_then
    refine Still.andThen (still_act rfl (uncounted_createPushEventFilter c)) (fun filterId => ?_)
    refine Still.andThen (still_read rfl) (fun refusal => ?_)
    apply ends_cases
    · intro _
      refine Still.andThen (still_write rfl (uncounted_removeFilter c filterId)) (fun _ => ?_)
      apply ends_removeUser_then
      exact Ledger.mark_mark (.handle handle) 1 ledger
    · intro _
      apply ends_removeUser_then
      exact Ledger.mark_mark (.handle handle) 1 ledger

/-! ## Library contexts -/

theorem keeps_createLibraryContext (type : LibraryContextType) (poolSize : Nat) :
    books.Keeps (createLibraryContext type poolSize) := by
  apply Still.keeps
  refine still_guarded ((still_read rfl).bind (fun full => still_ite (still_pure _) ?_))
  exact still_create rfl (uncounted_createLibraryContext type poolSize)

theorem keeps_deleteUserContexts (answer : Int) (userCtxIds : List Int) :
    books.Keeps (deleteUserContexts answer userCtxIds) := by
  induction userCtxIds with
  | nil => exact keeps_pure ()
  | cons userCtxId rest ih =>
    refine (keeps_deleteUserContext answer userCtxId).bind (fun result => ?_)
    exact (keeps_when still_await.keeps).bind (fun _ => ih)

theorem keeps_deleteAllUserContexts (answer : Int) (lib : ContextPtr) :
    books.Keeps (deleteAllUserContexts answer lib) := by
  refine keeps_guarded ((still_read rfl).keeps.bind (fun userCtxIds => ?_))
  refine (keeps_deleteUserContexts answer userCtxIds).bind (fun _ => Still.keeps ?_)
  apply still_write rfl
  apply uncounted_modifyLibrary
  exact fun _ => rfl

theorem keeps_abortAllPushEventHandles (lib : ContextPtr) :
    books.Keeps (abortAllPushEventHandles lib) := by
  refine keeps_guarded ((still_read rfl).keeps.bind (fun handles => keeps_forEach (fun h => ?_)))
  exact (keeps_abortPushEventHandle lib.libCtxId h.handleId).bind (fun _ => keeps_pure ())

theorem keeps_terminateLibraryContext (answer libCtxId : Int) :
    books.Keeps (terminateLibraryContext answer libCtxId) := by
  intro ledger
  rw [terminateLibraryContext]
  refine ends_then (ends_getLibraryContext (Ledger.Same.refl ledger) (fun lib => ?_))
  apply ends_lock_then
  refine (keeps_deleteAllUserContexts answer lib).andThen (fun _ cleared deletions => ?_)
  refine (keeps_abortAllPushEventHandles lib).andThen (fun _ quiet aborts => ?_)
  have same := deletions.trans aborts
  refine Still.andThen (still_read rfl) (fun deleting => ?_)
  apply ends_cases
  · intro _
    apply ends_unlock_then
    apply ends_removeUser_then
    exact same.unlocked.released
  · intro _
    refine Still.andThen (still_library (fun _ => rfl)) (fun _ => ?_)
    refine Still.andThen (still_isLibraryInUse lib) (fun busy => ?_)
    refine Still.andThen still_waitWhile (fun _ => ?_)
    apply ends_unlock_then
    apply ends_removeUser_then
    refine Still.andThen (still_guarded (still_write rfl ?_)) (fun _ => ?_)
    · intro s o
      cases o <;> rfl
    refine (keeps_deletion (fun _ => rfl) (uncounted_deleteLibraryContext lib)).andThen ?_
    intro _ last deletion
    exact same.unlocked.released.trans deletion

/-! ## Timeouts -/

theorem still_checkRequestTimeout (answer : Int) (now : Nat) (request : RequestPtr) :
    books.Still (checkRequestTimeout answer now request) := by
  refine Still.bind (still_act rfl ?_) (fun expired => still_ite ?_ (still_pure ()))
  · exact uncounted_modifyRequest (Request.userCount_checkTimeout now)
  · exact (still_abort answer request).bind (fun _ => still_pure ())

theorem still_checkUserContextTimeout (answer : Int) (now : Nat) (user : UserContextPtr) :
    books.Still (checkUserContextTimeout answer now user) :=
  still_guarded ((still_read rfl).bind (fun _ =>
    still_forEach (still_checkRequestTimeout answer now)))

theorem still_checkLibraryTimeout (answer : Int) (now : Nat) (lib : ContextPtr) :
    books.Still (checkLibraryTimeout answer now lib) := by
  refine still_guarded ((still_read rfl).bind (fun users => ?_))
  refine Still.bind (still_forEach (still_checkUserContextTimeout answer now)) (fun _ => ?_)
  refine (still_read rfl).bind (fun handles => still_forEach (fun handle => ?_))
  exact still_handle (PushEventHandle.userCount_checkTimeout now)

theorem still_checkTimeout (answer : Int) (now : Nat) : books.Still (checkTimeout answer now) := by
  refine (still_read rfl).bind (fun late => still_ite (still_guarded ?_) (still_pure ()))
  refine Still.bind (still_write rfl ?_) (fun _ => ?_)
  · intro s o
    cases o <;> rfl
  · exact (still_read rfl).bind (fun _ => still_forEach (still_checkLibraryTimeout answer now))

/-! ## The two calls that can leave something behind -/

/-- What a call owes when it returns is told by its notes. -/
def Accounted (p : Call Int) : Prop :=
  books.Ends p { notes := true } (fun _ later => later.Balanced ↔ later.notes = true)

theorem account_of_same {later : CallLedger} (same : ({ notes := true } : CallLedger).Same later) :
    later.Balanced ↔ later.notes = true :=
  ⟨fun _ => same.notes, fun _ => same.balanced (Ledger.balanced_start true)⟩

theorem accounted_of_keeps {p : Call Int} (keeps : books.Keeps p) : Accounted p :=
  (keeps _).mono (fun _ _ same => account_of_same same)

theorem initialize_noted (user : UserContextPtr) (template result : Int) (ledger : CallLedger) :
    books.Ends (writing (.initializeUserContext user result)
        (State.modifyUserContext user (fun x => { x with httpTemplateId := template })) : Call Unit)
      ledger (fun _ later => later = ledger.note (ledger.notes && decide (0 ≤ result))) := by
  have uncounted : Uncounted (State.modifyUserContext user
      (fun x => { x with httpTemplateId := template })) := by
    apply uncounted_modifyUserContext
    exact fun _ => rfl
  exact ends_writing (fun _ _ => not_false) uncounted (fun _ => rfl)

/-- A user context that could not be set up leaves its library context marked. -/
theorem accounted_createUserContext (template callback libCtxId userId : Int) :
    Accounted (createUserContext template callback libCtxId userId) := by
  rw [Accounted, createUserContext]
  refine ends_then (ends_getLibraryContext (account_of_same (Ledger.Same.refl _)) (fun lib => ?_))
  refine ends_then (ends_getUserContextByUserId ?_ (fun user => ?_))
  case refine_2 =>
    apply ends_removeUser_then
    apply ends_removeUser_then
    exact account_of_same (Ledger.Same.refl _).released.released
  refine Still.andThen (still_guarded ((still_read rfl).bind (fun full =>
    still_ite (still_pure _) (still_create rfl (uncounted_createUserContext lib userId)))))
    (fun userCtxId => ?_)
  apply ends_cases
  · intro _
    apply ends_removeUser_then
    exact account_of_same (Ledger.Same.refl _).released
  intro _
  refine ends_then (ends_getUserContext ends_undefined (fun user => ?_))
  apply ends_removeUser_then
  apply ends_then
  refine (initialize_noted user template _ _).mono ?_
  rintro _ _ rfl
  rw [Ledger.mark_mark]
  apply ends_cases
  · intro failed
    refine Still.andThen (still_guarded (still_write rfl (uncounted_removeUserContext lib _)))
      (fun _ => ?_)
    apply ends_then
    refine ends_access_silent (silent_of_sound (fun _ => rfl))
      (minor_of_uncounted (uncounted_deleteUserContext user)) (fun s later same owns => ?_)
    have noted : decide (0 ≤ if template < 0 then template else callback) = false :=
      decide_eq_false (Int.not_le.mpr failed)
    have foreign : ¬later.own (.context lib) := by
      rw [owns]
      rintro (fresh | deleted)
      · exact fresh
      · exact absurd deleted Object.noConfusion
    have marked := same.counts (.context lib) foreign
    refine iff_of_false (fun balanced => ?_) ?_
    · rw [balanced.counts _ foreign] at marked
      simp [Ledger.mark, Ledger.note] at marked
    · rw [same.notes, noted]
      exact Bool.false_ne_true
  · intro worked
    have noted : decide (0 ≤ if template < 0 then template else callback) = true :=
      decide_eq_true (Int.not_lt.mp worked)
    rw [noted]
    apply ends_removeUser_then
    exact account_of_same (Ledger.Same.refl _).released

/-- What a call notes and still owes when it returns. -/
theorem account_of_debt {later : CallLedger} (noted : later.notes = false)
    (debt : (∃ o, ¬later.own o ∧ later.counts o ≠ 0) ∨ ∃ m, later.depth m ≠ 0) :
    later.Balanced ↔ later.notes = true := by
  refine iff_of_false (fun balanced => ?_) (noted ▸ Bool.false_ne_true)
  obtain ⟨o, foreign, owed⟩ | ⟨m, held⟩ := debt
  · exact owed (balanced.counts o foreign)
  · exact held (balanced.depth m)

/-- A handle that is being deleted already stays marked, and a deletion leaves the lock taken. -/
theorem accounted_deletePushEventHandle (libCtxId handleId : Int) :
    Accounted (deletePushEventHandle libCtxId handleId) := by
  rw [Accounted, deletePushEventHandle, withHandle, withLibraryContext]
  refine ends_then (ends_getLibraryContext (account_of_same (Ledger.Same.refl _)) (fun lib => ?_))
  apply ends_then
  refine ends_then (ends_getPushEventHandle ?_ (fun handle => ?_))
  · apply ends_removeUser_then
    exact account_of_same (Ledger.Same.refl _).released
  apply ends_lock_then
  apply ends_then
  refine ends_reading (fun _ _ => not_false) (fun s => ?_)
  cases deleting : (s.handles handle).deleting with
  | true =>
    apply ends_unlock_then
    apply ends_removeUser_then
    refine account_of_debt ?_ (Or.inl ⟨.handle handle, not_false, ?_⟩)
    · exact (congrArg (fun marked => true && !marked) deleting)
    · simp [Ledger.mark, Ledger.note, Ledger.hold]
  | false =>
    refine Still.andThen (still_handle (fun _ => rfl)) (fun _ => ?_)
    refine Still.andThen (still_waitForHandle lib handle) (fun _ => ?_)
    apply ends_then
    refine ends_access_same (fun s o _ => uncounted_deleteHandle handle s o)
      (fun s later same owns => ?_)
    apply ends_removeUser_then
    refine account_of_debt ?_ (Or.inr ⟨.contextLock lib, ?_⟩)
    · exact same.notes.trans (Bool.and_false _)
    · have held : later.depth (.contextLock lib) = 1 := by
        simp [same.depth, Ledger.mark, Ledger.note, Ledger.hold]
      simp [Ledger.mark, held]

/-- Every call but the creation of a user context and the deletion of a handle gives back what it
took, whichever way it goes and whatever the other threads do. These two do so exactly when they
take none of the exits noted. -/
theorem accounted_program (op : Op) : Accounted (program op) := by
  cases op with
  | createUserContext => exact accounted_createUserContext _ _ _ _
  | deletePushEventHandle => exact accounted_deletePushEventHandle _ _
  | rejected => exact accounted_of_keeps (keeps_pure _)
  | createLibraryContext => exact accounted_of_keeps (keeps_createLibraryContext _ _)
  | terminateLibraryContext => exact accounted_of_keeps (keeps_terminateLibraryContext _ _)
  | getMemoryPoolStats => exact accounted_of_keeps (keeps_getMemoryPoolStats _)
  | deleteUserContext => exact accounted_of_keeps (keeps_deleteUserContext _ _)
  | createRequest => exact accounted_of_keeps (keeps_createRequest _ _ _ _)
  | addHttpRequestHeader => exact accounted_of_keeps (keeps_addHttpRequestHeader _ _ _)
  | setRequestTimeout => exact accounted_of_keeps (keeps_setRequestTimeout _ _)
  | sendRequest => exact accounted_of_keeps (keeps_sendRequest _ _ _ _)
  | getHttpResponseHeaderData => exact accounted_of_keeps (keeps_getHttpResponseHeaderData _ _)
  | readData => exact accounted_of_keeps (keeps_readData _ _ _)
  | abortRequest => exact accounted_of_keeps (keeps_abortRequest _ _)
  | deleteRequest => exact accounted_of_keeps (keeps_deleteRequest _ _)
  | createPushEventHandle => exact accounted_of_keeps (keeps_createPushEventHandle _)
  | setHandleTimeout => exact accounted_of_keeps (keeps_setHandleTimeout _ _ _)
  | abortPushEventHandle => exact accounted_of_keeps (keeps_abortPushEventHandle _ _)
  | createPushEventFilter => exact accounted_of_keeps (keeps_createPushEventFilter _ _ _)
  | deletePushEventFilter => exact accounted_of_keeps (keeps_deletePushEventFilter _ _)
  | registerPushEventCallback | registerPushContextCallback =>
    exact accounted_of_keeps (keeps_registerCallback _ _ _)
  | unregisterPushEventCallback | unregisterPushContextCallback =>
    exact accounted_of_keeps (keeps_unregisterCallback _ _ _)
  | createPushContext => exact accounted_of_keeps (keeps_createPushContext _)
  | startPushContextCallback => exact accounted_of_keeps (keeps_startPushContextCallback _ _)
  | deletePushContext => exact accounted_of_keeps (keeps_deletePushContext _ _)
  | checkTimeout =>
    exact accounted_of_keeps ((still_checkTimeout _ _).bind (fun _ => still_pure _)).keeps

end NpWebApi2.Internal
