import ShadNet.Ledgers
import ShadNet.WebApi2.Operations

/-!
# The books of the second web API

The counted objects are the library contexts, user contexts, requests and handles. A
call notes when it takes an exit that leaves something behind: it makes a user context
that cannot be set up, deletes a handle, or finds that its handle is being deleted.
-/

namespace NpWebApi2.Internal

open LockProgram Prog Books
open NpWebApi (ContextPtr UserContextPtr RequestPtr HandlePtr Object)

/-- The object is deleted by the access. -/
def Access.deletes : Access → State → Object → Prop
  | .deleteLibraryContext c, s, o =>
    o = .context c ∨ ∃ h ∈ (s.libraries c).pushEventHandles, o = .handle h
  | .deleteUserContext u, _, o => o = .userContext u
  | .deleteRequest r, _, o => o = .request r
  | .deleteHandle h, _, o => o = .handle h
  | _, _, _ => False

instance (access : Access) (s : State) (o : Object) : Decidable (access.deletes s o) := by
  cases access <;> dsimp only [Access.deletes] <;> infer_instance

def Access.sound : Access → State → Bool
  | .initializeUserContext _ result, _ => decide (0 ≤ result)
  | .handleDeleted h, s => !(s.handles h).deleting
  | .deleteHandle _, _ => false
  | _, _ => true

def books : Books State Access Object Unit Bool where
  ready := ready
  users := State.userCount
  settles := Access.deletes
  watched _ := ()
  judge access s _ notes := notes && access.sound s

/-- The accesses that delete nothing and of which nothing is noted. -/
def Access.plain : Access → Bool
  | .initializeUserContext _ _ | .handleDeleted _ | .deleteHandle _ | .deleteLibraryContext _
  | .deleteUserContext _ | .deleteRequest _ => false
  | _ => true

theorem Access.not_deletes {access : Access} (plain : access.plain = true) (s : State)
    (o : Object) : ¬books.settles access s o := by
  cases access <;> first | exact not_false | exact absurd plain Bool.false_ne_true

theorem silent_of_sound {access : Access} (sound : ∀ s, access.sound s = true) :
    books.Silent access := by
  intro s t notes _
  simp [books, sound s]

theorem Access.silent {access : Access} (plain : access.plain = true) : books.Silent access := by
  apply silent_of_sound
  intro s
  cases access <;> first | rfl | exact absurd plain Bool.false_ne_true

/-! ## User counts through an update -/

theorem userCount_addUsers (n : Int) (o other : Object) (s : State) :
    State.userCount other (State.addUsers n o s) =
      State.userCount other s + if other = o then n else 0 := by
  by_cases same : other = o
  · subst same
    cases other <;> simp [State.userCount, State.addUsers, State.modifyLibrary,
      State.modifyUserContext, State.modifyRequest, State.modifyHandle]
  · rw [if_neg same, Int.add_zero]
    cases o <;> cases other <;> simp_all [State.userCount, State.addUsers, State.modifyLibrary,
      State.modifyUserContext, State.modifyRequest, State.modifyHandle, Function.update_of_ne]

/-- The update changes no user count. -/
def Uncounted (update : State → State) : Prop :=
  ∀ s o, State.userCount o (update s) = State.userCount o s

theorem uncounted_modifyLibrary {c : ContextPtr} {f : LibraryContext → LibraryContext}
    (keeps : ∀ x, (f x).userCount = x.userCount) : Uncounted (State.modifyLibrary c f) := by
  intro s o
  cases o with
  | context other =>
    by_cases same : other = c
    · subst same
      simp [State.userCount, State.modifyLibrary, keeps]
    · simp [State.userCount, State.modifyLibrary, Function.update_of_ne same]
  | userContext | request | handle => rfl

theorem uncounted_modifyUserContext {u : UserContextPtr} {f : UserContext → UserContext}
    (keeps : ∀ x, (f x).userCount = x.userCount) : Uncounted (State.modifyUserContext u f) := by
  intro s o
  cases o with
  | userContext other =>
    by_cases same : other = u
    · subst same
      simp [State.userCount, State.modifyUserContext, keeps]
    · simp [State.userCount, State.modifyUserContext, Function.update_of_ne same]
  | context | request | handle => rfl

theorem uncounted_modifyRequest {r : RequestPtr} {f : Request → Request}
    (keeps : ∀ x, (f x).userCount = x.userCount) : Uncounted (State.modifyRequest r f) := by
  intro s o
  cases o with
  | request other =>
    by_cases same : other = r
    · subst same
      simp [State.userCount, State.modifyRequest, keeps]
    · simp [State.userCount, State.modifyRequest, Function.update_of_ne same]
  | context | userContext | handle => rfl

theorem uncounted_modifyHandle {h : HandlePtr} {f : PushEventHandle → PushEventHandle}
    (keeps : ∀ x, (f x).userCount = x.userCount) : Uncounted (State.modifyHandle h f) := by
  intro s o
  cases o with
  | handle other =>
    by_cases same : other = h
    · subst same
      simp [State.userCount, State.modifyHandle, keeps]
    · simp [State.userCount, State.modifyHandle, Function.update_of_ne same]
  | context | userContext | request => rfl

theorem uncounted_free (o : Object) : Uncounted (State.free o) := by
  intro s other
  cases other <;> rfl

theorem minor_of_uncounted {access : Access} {update : State → State}
    (uncounted : Uncounted update) : books.Minor access update :=
  ⟨fun s o _ => uncounted s o, fun _ => rfl⟩

/-! ### The updates of the operations -/

theorem uncounted_removeUserContext (c : ContextPtr) (userCtxId : Int) :
    Uncounted (State.removeUserContext c userCtxId) := by
  apply uncounted_modifyLibrary
  exact fun _ => rfl

theorem uncounted_removeRequest (u : UserContextPtr) (requestId : Int) :
    Uncounted (State.removeRequest u requestId) := by
  apply uncounted_modifyUserContext
  exact fun _ => rfl

theorem uncounted_removeFilter (c : ContextPtr) (filterId : Int) :
    Uncounted (State.removeFilter c filterId) := by
  apply uncounted_modifyLibrary
  exact fun _ => rfl

theorem uncounted_removeCallback (kind : CallbackKind) (u : UserContextPtr) (callbackId : Int) :
    Uncounted (State.removeCallback kind u callbackId) := by
  apply uncounted_modifyUserContext
  exact fun _ => rfl

theorem uncounted_createLibraryContext (type : LibraryContextType) (poolSize : Nat) :
    Uncounted (fun s => (State.createLibraryContext type poolSize s).2) := by
  intro s o
  simp only [State.createLibraryContext]
  split
  · rfl
  · dsimp only
    rw [uncounted_modifyLibrary]
    · cases o <;> rfl
    · exact fun _ => rfl

theorem uncounted_createUserContext (c : ContextPtr) (userId : Int) :
    Uncounted (fun s => (State.createUserContext c userId s).2) := by
  intro s o
  simp only [State.createUserContext]
  split
  · rfl
  · dsimp only
    rw [uncounted_modifyLibrary, uncounted_modifyUserContext]
    · cases o <;> rfl
    · exact fun _ => rfl
    · exact fun _ => rfl

theorem uncounted_createRequest (u : UserContextPtr) (contentLength : BitVec 64)
    (multipart : Bool) :
    Uncounted (fun s => (State.createRequest u contentLength multipart s).2) := by
  intro s o
  simp only [State.createRequest]
  split
  · rfl
  · dsimp only
    rw [uncounted_modifyUserContext, uncounted_modifyRequest]
    · cases o <;> rfl
    · exact fun _ => rfl
    · exact fun _ => rfl

theorem uncounted_createPushEventHandle (c : ContextPtr) :
    Uncounted (fun s => (State.createPushEventHandle c s).2) := by
  intro s o
  simp only [State.createPushEventHandle]
  rw [uncounted_modifyLibrary]
  · cases o <;> rfl
  · exact fun _ => rfl

theorem uncounted_createPushEventFilter (c : ContextPtr) :
    Uncounted (fun s => (State.createPushEventFilter c s).2) := by
  intro s o
  simp only [State.createPushEventFilter]
  rw [uncounted_modifyLibrary]
  · cases o <;> rfl
  · exact fun _ => rfl

theorem uncounted_createCallback (kind : CallbackKind) (u : UserContextPtr) (filterId : Int) :
    Uncounted (fun s => (State.createCallback kind u filterId s).2) := by
  intro s o
  simp only [State.createCallback]
  rw [uncounted_modifyUserContext]
  · cases o <;> rfl
  · exact fun _ => rfl

theorem uncounted_createPushContext (u : UserContextPtr) :
    Uncounted (State.createPushContext u) := by
  intro s o
  rw [State.createPushContext, uncounted_modifyUserContext]
  · cases o <;> rfl
  · exact fun _ => rfl

theorem uncounted_deleteUserContext (u : UserContextPtr) :
    Uncounted (State.deleteUserContext u) := by
  intro s o
  rw [State.deleteUserContext, uncounted_free, uncounted_modifyUserContext]
  exact fun _ => rfl

theorem uncounted_deleteHandle (h : HandlePtr) : Uncounted (State.deleteHandle h) := by
  intro s o
  rw [State.deleteHandle, uncounted_free, uncounted_modifyLibrary]
  exact fun _ => rfl

theorem uncounted_deleteLibraryContext (c : ContextPtr) :
    Uncounted (State.deleteLibraryContext c) := by
  intro s o
  have emptied : State.userCount o (s.modifyLibrary c (fun x =>
      { x with pushEventHandles := [], pushEventFilters := [] })) = State.userCount o s := by
    rw [uncounted_modifyLibrary]
    exact fun _ => rfl
  rw [← emptied]
  cases o <;> rfl

theorem Request.userCount_setEndTime (now : Nat) (x : Request) :
    (x.setEndTime now).userCount = x.userCount := by
  rw [Request.setEndTime]
  split <;> rfl

theorem Request.userCount_abort (answer : Int) (x : Request) :
    (x.abort answer).2.userCount = x.userCount := by
  rw [Request.abort]
  split <;> rfl

theorem Request.userCount_checkTimeout (now : Nat) (x : Request) :
    (x.checkTimeout now).2.userCount = x.userCount := by
  rw [Request.checkTimeout]
  split <;> rfl

theorem PushEventHandle.userCount_setEndTime (now : Nat) (x : PushEventHandle) :
    (x.setEndTime now).userCount = x.userCount := by
  rw [PushEventHandle.setEndTime]
  split <;> rfl

theorem PushEventHandle.userCount_checkTimeout (now : Nat) (x : PushEventHandle) :
    (x.checkTimeout now).userCount = x.userCount := by
  rw [PushEventHandle.checkTimeout]
  split <;> rfl

/-! ## The parts of a call -/

variable {α β : Type}

abbrev CallLedger := Ledger Object Mutex Bool

section Parts

variable {ledger : CallLedger} {Q : α → CallLedger → Prop} {access : Access}

theorem still_read {read : State → α} (plain : access.plain = true) :
    books.Still (reading access read : Call α) :=
  still_reading (Access.not_deletes plain) (Access.silent plain)

theorem still_act {body : State → α × State} (plain : access.plain = true)
    (uncounted : Uncounted (fun s => (body s).2)) :
    books.Still (Prog.access access body : Call α) := by
  intro ledger
  rw [Books.Ends, ends_access]
  intro s
  have unnoted := Access.silent plain s (body s).2 ledger.notes rfl
  rw [charge_plain (t := (body s).2) (Access.not_deletes plain s) (uncounted s), unnoted]
  rfl

theorem still_write {write : State → State} (plain : access.plain = true)
    (uncounted : Uncounted write) : books.Still (writing access write : Call Unit) :=
  still_writing (Access.not_deletes plain) (Access.silent plain) (minor_of_uncounted uncounted)

theorem still_library {c : ContextPtr} {f : LibraryContext → LibraryContext}
    (keeps : ∀ x, (f x).userCount = x.userCount) :
    books.Still (writing (.library c) (State.modifyLibrary c f) : Call Unit) :=
  still_write rfl (uncounted_modifyLibrary keeps)

theorem still_userContext {u : UserContextPtr} {f : UserContext → UserContext}
    (keeps : ∀ x, (f x).userCount = x.userCount) :
    books.Still (writing (.userContext u) (State.modifyUserContext u f) : Call Unit) :=
  still_write rfl (uncounted_modifyUserContext keeps)

theorem still_pushContexts {u : UserContextPtr} {f : UserContext → UserContext}
    (keeps : ∀ x, (f x).userCount = x.userCount) :
    books.Still (writing (.pushContexts u) (State.modifyUserContext u f) : Call Unit) :=
  still_write rfl (uncounted_modifyUserContext keeps)

theorem still_request {r : RequestPtr} {f : Request → Request}
    (keeps : ∀ x, (f x).userCount = x.userCount) :
    books.Still (writing (.request r) (State.modifyRequest r f) : Call Unit) :=
  still_write rfl (uncounted_modifyRequest keeps)

theorem still_handle {h : HandlePtr} {f : PushEventHandle → PushEventHandle}
    (keeps : ∀ x, (f x).userCount = x.userCount) :
    books.Still (writing (.handle h) (State.modifyHandle h f) : Call Unit) :=
  still_write rfl (uncounted_modifyHandle keeps)

/-- Nothing follows what is not defined. -/
theorem ends_undefined {k : Unit → Call α} :
    books.Ends ((undefined : Call Unit) >>= k) ledger Q := by
  intro s isReady
  exact absurd isReady Bool.false_ne_true

theorem marks_addUser (o : Object) :
    books.Marks (.addUser o) (State.addUsers 1 o) o 1 :=
  ⟨fun _ _ deletes => deletes, fun s other => userCount_addUsers 1 o other s, fun _ => rfl,
    Access.silent rfl⟩

theorem marks_removeUser (o : Object) :
    books.Marks (.removeUser o) (State.addUsers (-1) o) o (-1) :=
  ⟨fun _ _ deletes => deletes, fun s other => userCount_addUsers (-1) o other s, fun _ => rfl,
    Access.silent rfl⟩

/-- Whether it is done under a lock or not, a mark is entered alone. -/
theorem ends_underLock {o : Object} {n : Int} {write : State → State}
    {Q : Unit → CallLedger → Prop} (marks : books.Marks access write o n)
    (post : Q () (ledger.mark o n)) :
    books.Ends (underLock o (writing access write)) ledger Q := by
  have locked : ∀ m : Mutex, books.Ends (guarded m (writing access write)) ledger Q := by
    intro m
    apply ends_guarded
    apply marks.ends
    rw [Ledger.hold_mark, Ledger.hold_hold]
    exact post
  cases o with
  | handle h => exact marks.ends post
  | context | userContext | request => exact locked _

theorem ends_addUser {o : Object} {Q : Unit → CallLedger → Prop} (post : Q () (ledger.mark o 1)) :
    books.Ends (addUser o) ledger Q :=
  ends_underLock (marks_addUser o) post

theorem ends_removeUser {o : Object} {Q : Unit → CallLedger → Prop}
    (post : Q () (ledger.mark o (-1))) : books.Ends (removeUser o) ledger Q :=
  ends_underLock (marks_removeUser o) post

theorem ends_addUser_then {o : Object} {k : Unit → Call α}
    (rest : books.Ends (k ()) (ledger.mark o 1) Q) : books.Ends (addUser o >>= k) ledger Q :=
  ends_then (ends_addUser rest)

theorem ends_removeUser_then {o : Object} {k : Unit → Call α}
    (rest : books.Ends (k ()) (ledger.mark o (-1)) Q) :
    books.Ends (removeUser o >>= k) ledger Q :=
  ends_then (ends_removeUser rest)

/-! ## Lookups -/

theorem ends_getLibraryContext {libCtxId : Int} {Q : Option ContextPtr → CallLedger → Prop}
    (missing : Q none ledger) (found : ∀ c, Q (some c) (ledger.mark (.context c) 1)) :
    books.Ends (getLibraryContext libCtxId) ledger Q := by
  apply ends_guarded
  apply ends_then
  refine ends_reading_silent (Access.not_deletes rfl) (Access.silent rfl) ?_
  intro s
  rw [← Ledger.hold_hold (.globalMutex : Mutex) 1 ledger] at missing
  cases s.libContext? libCtxId with
  | none => exact missing
  | some c =>
    refine (still_read rfl).andThen ?_
    intro deleting
    refine ends_cases (fun _ => missing) (fun _ => ?_)
    apply ends_addUser_then
    have post := found c
    rw [← Ledger.hold_hold (.globalMutex : Mutex) 1 ledger] at post
    exact post

theorem ends_findAndAdd {c : ContextPtr} {find : State → Option α} {object : α → Object}
    {Q : Option α → CallLedger → Prop} (plain : access.plain = true) (missing : Q none ledger)
    (found : ∀ x, Q (some x) (ledger.mark (object x) 1)) :
    books.Ends (findAndAdd c access find object) ledger Q := by
  apply ends_guarded
  apply ends_then
  refine ends_reading_silent (Access.not_deletes plain) (Access.silent plain) ?_
  intro s
  cases find s with
  | none =>
    rw [← Ledger.hold_hold (.contextLock c : Mutex) 1 ledger] at missing
    exact missing
  | some x =>
    have post := found x
    rw [← Ledger.hold_hold (.contextLock c : Mutex) 1 ledger] at post
    apply ends_addUser_then
    exact post

theorem ends_getUserContext {lib : ContextPtr} {userCtxId : Int}
    {Q : Option UserContextPtr → CallLedger → Prop} (missing : Q none ledger)
    (found : ∀ user, Q (some user) (ledger.mark (.userContext user) 1)) :
    books.Ends (getUserContext lib userCtxId) ledger Q :=
  ends_findAndAdd rfl missing found

theorem ends_getUserContextByUserId {lib : ContextPtr} {userId : Int}
    {Q : Option UserContextPtr → CallLedger → Prop} (missing : Q none ledger)
    (found : ∀ user, Q (some user) (ledger.mark (.userContext user) 1)) :
    books.Ends (getUserContextByUserId lib userId) ledger Q := by
  rw [getUserContextByUserId]
  exact ends_cases (fun _ => missing) (fun _ => ends_findAndAdd rfl missing found)

theorem ends_getRequest {user : UserContextPtr} {requestId : Int}
    {Q : Option RequestPtr → CallLedger → Prop} (missing : Q none ledger)
    (found : ∀ request, Q (some request) (ledger.mark (.request request) 1)) :
    books.Ends (getRequest user requestId) ledger Q :=
  ends_findAndAdd rfl missing found

theorem ends_getPushEventHandle {lib : ContextPtr} {handleId : Int}
    {Q : Option HandlePtr → CallLedger → Prop} (missing : Q none ledger)
    (found : ∀ handle, Q (some handle) (ledger.mark (.handle handle) 1)) :
    books.Ends (getPushEventHandle lib handleId) ledger Q :=
  ends_findAndAdd rfl missing found

theorem still_isLibraryInUse (lib : ContextPtr) : books.Still (isLibraryInUse lib) :=
  (still_guarded (still_read rfl)).bind (fun _ =>
    still_ite (still_pure true) (still_guarded (still_read rfl)))

theorem still_isUserContextInUse (user : UserContextPtr) :
    books.Still (isUserContextInUse user) :=
  (still_guarded (still_read rfl)).bind (fun _ =>
    still_ite (still_pure true) (still_guarded (still_read rfl)))

theorem still_isRequestBusy (request : RequestPtr) : books.Still (isRequestBusy request) :=
  still_guarded (still_read rfl)

/-! ## The frames -/

/-- The call lets go what the ledger has marked besides. -/
def Releases (marked : CallLedger → CallLedger) (p : Call α) : Prop :=
  ∀ ledger, books.Ends p (marked ledger) (fun _ later => ledger.Same later)

theorem keeps_withLibraryContext {libCtxId : Int} {body : ContextPtr → Call Int}
    (keeps : ∀ c, books.Keeps (body c)) : books.Keeps (withLibraryContext libCtxId body) := by
  intro ledger
  rw [withLibraryContext]
  refine ends_then (ends_getLibraryContext (Ledger.Same.refl ledger) ?_)
  intro c
  refine (keeps c).andThen ?_
  intro result later same
  apply ends_removeUser_then
  exact same.released

theorem keeps_withUserContext {libCtxId userCtxId : Int}
    {body : ContextPtr → UserContextPtr → Call Int} (keeps : ∀ c u, books.Keeps (body c u)) :
    books.Keeps (withUserContext libCtxId userCtxId body) := by
  apply keeps_withLibraryContext
  intro c ledger
  refine ends_then (ends_getUserContext (Ledger.Same.refl ledger) ?_)
  intro u
  refine (keeps c u).andThen ?_
  intro result later same
  apply ends_removeUser_then
  exact same.released

theorem keeps_withHandle {libCtxId handleId : Int} {body : ContextPtr → HandlePtr → Call Int}
    (releases : ∀ c h, Releases (fun ledger => ledger.mark (.handle h) 1) (body c h)) :
    books.Keeps (withHandle libCtxId handleId body) := by
  apply keeps_withLibraryContext
  intro c ledger
  apply ends_then
  exact ends_getPushEventHandle (Ledger.Same.refl ledger) (fun h => releases c h ledger)

/-- The three objects of a request are marked. -/
def markRequest (c : ContextPtr) (u : UserContextPtr) (r : RequestPtr) (ledger : CallLedger) :
    CallLedger :=
  ((ledger.mark (.context c) 1).mark (.userContext u) 1).mark (.request r) 1

theorem keeps_lookupRequest {requestId : Int}
    {body : ContextPtr → UserContextPtr → RequestPtr → Call Int}
    (releases : ∀ c u r, Releases (markRequest c u r) (body c u r)) :
    books.Keeps (lookupRequest requestId body) := by
  intro ledger
  rw [lookupRequest]
  refine ends_then (ends_getLibraryContext (Ledger.Same.refl ledger) ?_)
  intro c
  refine ends_then (ends_getUserContext ?_ ?_)
  · apply ends_removeUser_then
    exact (Ledger.Same.refl _).released
  intro u
  refine ends_then (ends_getRequest ?_ ?_)
  · apply ends_removeUser_then
    apply ends_removeUser_then
    exact (Ledger.Same.refl _).released.released
  · exact fun r => releases c u r ledger

section Releasing

variable {c : ContextPtr} {u : UserContextPtr} {r : RequestPtr}

theorem releases_releaseRequest (result : Int) :
    Releases (markRequest c u r) (releaseRequest c u r result) := by
  intro ledger
  rw [releaseRequest]
  apply ends_removeUser_then
  apply ends_removeUser_then
  apply ends_removeUser_then
  exact (Ledger.Same.refl _).released.released.released

/-- What leaves the ledger alone can stand in front of what lets the objects go. -/
theorem Releases.after {p : Call α} {k : α → Call β}
    {marked : CallLedger → CallLedger} (still : books.Still p)
    (rest : ∀ a, Releases marked (k a)) : Releases marked (p >>= k) :=
  fun ledger => still.andThen (fun a => rest a ledger)

theorem keeps_withRequest {requestId : Int}
    {body : ContextPtr → UserContextPtr → RequestPtr → Call Int}
    (keeps : ∀ c u r, books.Keeps (body c u r)) : books.Keeps (withRequest requestId body) := by
  apply keeps_lookupRequest
  intro c u r ledger
  refine (keeps c u r).andThen ?_
  intro result later same
  rw [releaseRequest]
  apply ends_removeUser_then
  apply ends_removeUser_then
  apply ends_removeUser_then
  exact same.released.released.released

theorem releases_ite {cond : Prop} [Decidable cond] {p q : Call α}
    {marked : CallLedger → CallLedger} (yes : Releases marked p) (no : Releases marked q) :
    Releases marked (if cond then p else q) :=
  fun ledger => ends_cases (fun _ => yes ledger) (fun _ => no ledger)

end Releasing

end Parts

end NpWebApi2.Internal
