import ShadNet.Ledgers
import ShadNet.WebApi.Operations

/-!
# The books of the web API library

The counted objects are the library contexts, user contexts, requests and handles.
The lookups, releases and frames of the operations are specified once, by what they
enter in the ledger of the call.
-/

namespace NpWebApi

open LockProgram Prog Books

/-- The object is made or erased by the access. -/
def Access.settles : Access → State → Object → Prop
  | .createLibraryContext, s, .context c => c.serial = s.allocated
  | .createUserContext _ _ _, s, .userContext u => u.serial = s.allocated
  | .createRequest _, s, .request r => r.serial = s.allocated
  | .createHandle _, s, .handle h => h.serial = s.allocated
  | .deleteContext libCtxId, _, .context c => c.libCtxId = libCtxId
  | .eraseUserContext u, _, .userContext v => v = u
  | .eraseRequest _ r, _, .request q => q = r
  | .eraseHandle c handleId, _, .handle h => h.parentContext = c ∧ h.handleId = handleId
  | .inside access, s, o => access.settles s o
  | _, _, _ => False

/-- The access makes and erases nothing. -/
def Access.isPlain : Access → Bool
  | .createLibraryContext | .createUserContext _ _ _ | .createRequest _ | .createHandle _
  | .deleteContext _ | .eraseUserContext _ | .eraseRequest _ _ | .eraseHandle _ _ => false
  | .inside access => access.isPlain
  | _ => true

theorem Access.not_settles {access : Access} (plain : access.isPlain = true) (s : State)
    (o : Object) : ¬access.settles s o := by
  induction access with
  | inside access ih => exact ih plain
  | _ => first | exact fun settles => settles | simp [Access.isPlain] at plain

variable {γ α β : Type}

abbrev CallLedger (γ : Type) := Ledger Object Mutex γ

/-- `judge` is what a result notes of an access and the states before and after it. It looks at
the access, at which contexts are registered, and at how many are counted as active. -/
def books (judge : Access → State → State → γ → γ) :
    Books State Access Object (List ContextPtr × Int) γ where
  ready := ready
  users := State.userCount
  settles := Access.settles
  watched s := (s.libraryContexts, s.activeLibraryContexts)
  judge := judge

theorem books_judge (judge : Access → State → State → γ → γ) : (books judge).judge = judge := rfl

/-! ## User counts through an update -/

theorem userCount_addUsers (n : Int) (o other : Object) (s : State) :
    State.userCount other (State.addUsers n o s) =
      State.userCount other s + if other = o then n else 0 := by
  by_cases same : other = o
  · subst same
    cases other <;> simp [State.userCount, State.addUsers, State.modifyContext,
      State.modifyUserContext, State.modifyRequest, State.modifyHandle]
  · rw [if_neg same, Int.add_zero]
    cases o <;> cases other <;> simp_all [State.userCount, State.addUsers, State.modifyContext,
      State.modifyUserContext, State.modifyRequest, State.modifyHandle, Function.update_of_ne]

section Unchanged

variable {s t : State} {o : Object}

theorem userCount_of_maps (contexts : t.contexts = s.contexts)
    (userContexts : t.userContexts = s.userContexts) (requests : t.requests = s.requests)
    (handles : t.handles = s.handles) : State.userCount o t = State.userCount o s := by
  cases o <;> simp only [State.userCount, contexts, userContexts, requests, handles]

theorem userCount_modifyContext {c : ContextPtr} {f : Context → Context}
    (keeps : Object.context c = o → ∀ x, (f x).userCount = x.userCount) :
    State.userCount o (s.modifyContext c f) = State.userCount o s := by
  cases o with
  | context other =>
    by_cases same : other = c
    · subst same
      simp [State.userCount, State.modifyContext, keeps rfl]
    · simp [State.userCount, State.modifyContext, Function.update_of_ne same]
  | userContext | request | handle => rfl

theorem userCount_modifyUserContext {u : UserContextPtr} {f : UserContext → UserContext}
    (keeps : Object.userContext u = o → ∀ x, (f x).userCount = x.userCount) :
    State.userCount o (s.modifyUserContext u f) = State.userCount o s := by
  cases o with
  | userContext other =>
    by_cases same : other = u
    · subst same
      simp [State.userCount, State.modifyUserContext, keeps rfl]
    · simp [State.userCount, State.modifyUserContext, Function.update_of_ne same]
  | context | request | handle => rfl

theorem userCount_modifyRequest {r : RequestPtr} {f : Request → Request}
    (keeps : Object.request r = o → ∀ x, (f x).userCount = x.userCount) :
    State.userCount o (s.modifyRequest r f) = State.userCount o s := by
  cases o with
  | request other =>
    by_cases same : other = r
    · subst same
      simp [State.userCount, State.modifyRequest, keeps rfl]
    · simp [State.userCount, State.modifyRequest, Function.update_of_ne same]
  | context | userContext | handle => rfl

theorem userCount_modifyHandle {h : HandlePtr} {f : Handle → Handle}
    (keeps : Object.handle h = o → ∀ x, (f x).userCount = x.userCount) :
    State.userCount o (s.modifyHandle h f) = State.userCount o s := by
  cases o with
  | handle other =>
    by_cases same : other = h
    · subst same
      simp [State.userCount, State.modifyHandle, keeps rfl]
    · simp [State.userCount, State.modifyHandle, Function.update_of_ne same]
  | context | userContext | request => rfl

end Unchanged

section Rules

variable {judge : Access → State → State → γ → γ} {ledger : CallLedger γ}
  {Q : α → CallLedger γ → Prop}

/-! ## Updates of one object -/

section Minor

variable {access : Access}

theorem minor_modifyContext {c : ContextPtr} {f : Context → Context}
    (keeps : ∀ x, (f x).userCount = x.userCount) :
    (books judge).Minor access (State.modifyContext c f) :=
  ⟨fun _ _ _ => userCount_modifyContext (fun _ => keeps), fun _ => rfl⟩

theorem minor_modifyUserContext {u : UserContextPtr} {f : UserContext → UserContext}
    (keeps : ∀ x, (f x).userCount = x.userCount) :
    (books judge).Minor access (State.modifyUserContext u f) :=
  ⟨fun _ _ _ => userCount_modifyUserContext (fun _ => keeps), fun _ => rfl⟩

theorem minor_modifyRequest {r : RequestPtr} {f : Request → Request}
    (keeps : ∀ x, (f x).userCount = x.userCount) :
    (books judge).Minor access (State.modifyRequest r f) :=
  ⟨fun _ _ _ => userCount_modifyRequest (fun _ => keeps), fun _ => rfl⟩

theorem minor_modifyHandle {h : HandlePtr} {f : Handle → Handle}
    (keeps : ∀ x, (f x).userCount = x.userCount) :
    (books judge).Minor access (State.modifyHandle h f) :=
  ⟨fun _ _ _ => userCount_modifyHandle (fun _ => keeps), fun _ => rfl⟩

end Minor

/-! ## Lookups and releases -/

/-- The accesses of which no result notes anything. -/
def Access.ordinary : Access → Bool
  | .createLibraryContext | .findContext _ | .terminated _ | .markTerminated _ | .deleteContext _
  | .findUserContext _ _ | .createUserContext _ _ _ | .listUserContexts _ | .userContextDeleted _
  | .findRequest _ _ | .requestBusy _ false | .library | .inside _ => false
  | _ => true

section Lookups

variable (quiet : ∀ access : Access, access.ordinary → (books judge).Silent access)
include quiet

theorem marks_addUser (o : Object) :
    (books judge).Marks (.addUser o) (State.addUsers 1 o) o 1 :=
  ⟨fun _ _ settles => settles, fun s other => userCount_addUsers 1 o other s,
    fun _ => by cases o <;> rfl, quiet _ rfl⟩

theorem marks_removeUser (o : Object) :
    (books judge).Marks (.removeUser o) (State.addUsers (-1) o) o (-1) :=
  ⟨fun _ _ settles => settles, fun s other => userCount_addUsers (-1) o other s,
    fun _ => by cases o <;> rfl, quiet _ rfl⟩

theorem ends_release {m : Mutex} {o : Object} {Q : Unit → CallLedger γ → Prop}
    (post : Q () (ledger.mark o (-1))) :
    (books judge).Ends (guarded m (removeUser o)) ledger Q :=
  Books.ends_release (marks_removeUser quiet o) post

/-- What is noted of the two readings of the lookup is left open. -/
theorem ends_findAndValidateContext_noted {libCtxId : Int}
    {Q : Option ContextPtr → CallLedger γ → Prop}
    (missing : ∀ s, State.registered libCtxId s = none →
      Q none (ledger.note (judge (.findContext libCtxId) s s ledger.notes)))
    (found : ∀ s c, State.registered libCtxId s = some c → ∀ t,
      ((t.contexts c).terminated → Q none (ledger.note (judge (.terminated c) t t
        (judge (.findContext libCtxId) s s ledger.notes)))) ∧
      (¬(t.contexts c).terminated → Q (some c) ((ledger.note (judge (.terminated c) t t
        (judge (.findContext libCtxId) s s ledger.notes))).mark (.context c) 1))) :
    (books judge).Ends (findAndValidateContext libCtxId) ledger Q := by
  rw [findAndValidateContext]
  apply ends_guarded
  rw [Books.Ends, ends_bind]
  refine ends_reading (Access.not_settles rfl) ?_
  intro s
  cases lookup : State.registered libCtxId s with
  | none =>
    have post := missing s lookup
    rw [← Ledger.hold_hold (.globalMutex : Mutex) 1 ledger] at post
    exact post
  | some c =>
    apply ends_guarded
    rw [Books.Ends, ends_bind]
    refine ends_reading (Access.not_settles rfl) ?_
    intro t
    obtain ⟨terminated, live⟩ := found s c lookup t
    rw [ends_ite]
    constructor
    · intro isTerminated
      have post := terminated isTerminated
      rw [← Ledger.hold_hold (.globalMutex : Mutex) 1 ledger,
        ← Ledger.hold_hold (.contextLock c) 1 (ledger.hold .globalMutex 1)] at post
      exact post
    · intro isLive
      have post := live isLive
      rw [← Ledger.hold_hold (.globalMutex : Mutex) 1 ledger,
        ← Ledger.hold_hold (.contextLock c) 1 (ledger.hold .globalMutex 1)] at post
      rw [ends_bind]
      apply (marks_addUser quiet _).ends
      exact post

theorem ends_findAndValidateContext {libCtxId : Int} {Q : Option ContextPtr → CallLedger γ → Prop}
    (lookup : (books judge).Silent (.findContext libCtxId))
    (test : ∀ c, (books judge).Silent (.terminated c)) (missing : Q none ledger)
    (found : ∀ c, Q (some c) (ledger.mark (.context c) 1)) :
    (books judge).Ends (findAndValidateContext libCtxId) ledger Q := by
  have looked : ∀ s notes, judge (.findContext libCtxId) s s notes = notes :=
    fun s notes => lookup s s notes rfl
  have tested : ∀ c s notes, judge (.terminated c) s s notes = notes :=
    fun c s notes => test c s s notes rfl
  refine ends_findAndValidateContext_noted quiet ?_ ?_
  · intro s _
    rw [looked]
    exact missing
  · intro s c _ t
    rw [looked, tested]
    exact ⟨fun _ => missing, fun _ => found c⟩

theorem ends_findUserContext {context : ContextPtr} {userCtxId : Int}
    {Q : Option UserContextPtr → CallLedger γ → Prop}
    (lookup : (books judge).Silent (.findUserContext context userCtxId)) (missing : Q none ledger)
    (found : ∀ user, Q (some user) (ledger.mark (.userContext user) 1)) :
    (books judge).Ends (findUserContext context userCtxId) ledger Q :=
  ends_findAndMark rfl (fun _ => rfl) (fun _ => marks_addUser quiet _) (Access.not_settles rfl)
    lookup missing found

theorem ends_findUserContextByUserId {context : ContextPtr} {userId : Int}
    {Q : Option UserContextPtr → CallLedger γ → Prop} (missing : Q none ledger)
    (found : ∀ user, Q (some user) (ledger.mark (.userContext user) 1)) :
    (books judge).Ends (findUserContextByUserId context userId) ledger Q := by
  rw [findUserContextByUserId, Books.Ends, ends_ite]
  constructor
  · intro _
    exact missing
  · intro _
    exact ends_findAndMark rfl (fun _ => rfl) (fun _ => marks_addUser quiet _)
      (Access.not_settles rfl) (quiet _ rfl) missing found

theorem ends_findRequestAndMarkBusy {user : UserContextPtr} {requestId : Int}
    {Q : Option RequestPtr → CallLedger γ → Prop}
    (lookup : (books judge).Silent (.findRequest user requestId)) (missing : Q none ledger)
    (found : ∀ request, Q (some request) (ledger.mark (.request request) 1)) :
    (books judge).Ends (findRequestAndMarkBusy user requestId) ledger Q :=
  ends_findAndMark rfl (fun _ => rfl) (fun _ => marks_addUser quiet _) (Access.not_settles rfl)
    lookup missing found

theorem ends_getHandle {context : ContextPtr} {handleId : Int}
    {Q : Option HandlePtr → CallLedger γ → Prop} (missing : Q none ledger)
    (found : ∀ handle, Q (some handle) (ledger.mark (.handle handle) 1)) :
    (books judge).Ends (getHandle context handleId) ledger Q :=
  ends_findAndMark rfl (fun _ => rfl) (fun _ => marks_addUser quiet _) (Access.not_settles rfl)
    (quiet _ rfl) missing found

theorem still_isRequestBusy {request : RequestPtr} :
    (books judge).Still (isRequestBusy request true) :=
  still_guarded (still_reading (Access.not_settles rfl) (quiet _ rfl))

theorem still_isUserContextInUse {user : UserContextPtr} :
    (books judge).Still (isUserContextInUse user) := by
  have asked : (books judge).Still (isUserContextBusy user) :=
    still_guarded (still_reading (Access.not_settles rfl) (quiet _ rfl))
  have requestsAsked : (books judge).Still (areUserContextRequestsBusy user) :=
    still_guarded (still_reading (Access.not_settles rfl) (quiet _ rfl))
  exact asked.bind (fun busy => still_ite (still_pure true) requestsAsked)

theorem still_isContextBusy {context : ContextPtr} :
    (books judge).Still (isContextBusy context) :=
  still_guarded (still_reading (Access.not_settles rfl) (quiet _ rfl))

theorem still_isContextInUse {context : ContextPtr} :
    (books judge).Still (isContextInUse context) := by
  have handlesAsked : (books judge).Still (areContextHandlesBusy context) :=
    still_guarded (still_reading (Access.not_settles rfl) (quiet _ rfl))
  exact (still_isContextBusy quiet).bind (fun busy => still_ite (still_pure true) handlesAsked)

theorem still_abortRequestInternal (context : ContextPtr) (request : RequestPtr) :
    (books judge).Still (abortRequestInternal context request) := by
  apply still_guarded
  refine Still.bind (still_writing (Access.not_settles rfl) (quiet _ rfl) ?_)
    (fun _ => still_pure orbisOk)
  exact minor_modifyRequest (fun _ => rfl)

/-! ## The frames -/

theorem ends_withContext {libCtxId : Int} {body : ContextPtr → Call Int}
    {Q : Int → CallLedger γ → Prop} (lookup : (books judge).Silent (.findContext libCtxId))
    (test : ∀ c, (books judge).Silent (.terminated c)) (missing : Q libContextNotFound ledger)
    (found : ∀ c, (books judge).Ends (body c) (ledger.mark (.context c) 1)
      (fun result later => Q result (later.mark (.context c) (-1)))) :
    (books judge).Ends (withContext libCtxId body) ledger Q := by
  rw [withContext, Books.Ends, ends_bind]
  refine ends_findAndValidateContext quiet lookup test missing ?_
  intro c
  rw [ends_bind]
  refine (found c).mono ?_
  intro result later post
  rw [ends_bind]
  exact ends_release quiet post

theorem keeps_withContext {libCtxId : Int} {body : ContextPtr → Call Int}
    (lookup : (books judge).Silent (.findContext libCtxId))
    (test : ∀ c, (books judge).Silent (.terminated c)) (keeps : ∀ c, (books judge).Keeps (body c)) :
    (books judge).Keeps (withContext libCtxId body) := by
  intro ledger
  refine ends_withContext quiet lookup test (Ledger.Same.refl ledger) ?_
  intro c
  exact (keeps c _).mono (fun _ _ same => same.released)

theorem ends_withUserContext {libCtxId userCtxId : Int}
    {body : ContextPtr → UserContextPtr → Call Int} {Q : Int → CallLedger γ → Prop}
    (lookup : (books judge).Silent (.findContext libCtxId))
    (test : ∀ c, (books judge).Silent (.terminated c))
    (lookupUser : ∀ c, (books judge).Silent (.findUserContext c userCtxId))
    (noContext : Q libContextNotFound ledger) (noUser : Q userContextNotFound ledger)
    (found : ∀ c u, (books judge).Ends (body c u)
      ((ledger.mark (.context c) 1).mark (.userContext u) 1) (fun result later =>
        Q result ((later.mark (.userContext u) (-1)).mark (.context c) (-1)))) :
    (books judge).Ends (withUserContext libCtxId userCtxId body) ledger Q := by
  refine ends_withContext quiet lookup test noContext ?_
  intro c
  rw [Books.Ends, ends_bind]
  refine ends_findUserContext quiet (lookupUser c) ?_ ?_
  · rw [ends_pure, Ledger.mark_mark]
    exact noUser
  · intro u
    rw [ends_bind]
    refine (found c u).mono ?_
    intro result later post
    rw [ends_bind]
    exact ends_release quiet post

theorem keeps_withUserContext {libCtxId userCtxId : Int}
    {body : ContextPtr → UserContextPtr → Call Int}
    (lookup : (books judge).Silent (.findContext libCtxId))
    (test : ∀ c, (books judge).Silent (.terminated c))
    (lookupUser : ∀ c, (books judge).Silent (.findUserContext c userCtxId))
    (keeps : ∀ c u, (books judge).Keeps (body c u)) :
    (books judge).Keeps (withUserContext libCtxId userCtxId body) := by
  intro ledger
  refine ends_withUserContext quiet lookup test lookupUser (Ledger.Same.refl ledger)
    (Ledger.Same.refl ledger) ?_
  intro c u
  exact (keeps c u _).mono (fun _ _ same => same.released.released)

end Lookups

/-! ## Calls of which nothing is noted -/

section Quiet

variable (quiet : ∀ access : Access, (books judge).Silent access)
include quiet

theorem Keeps.withContext {libCtxId : Int} {body : ContextPtr → Call Int}
    (keeps : ∀ c, (books judge).Keeps (body c)) :
    (books judge).Keeps (withContext libCtxId body) :=
  keeps_withContext (fun access _ => quiet access) (quiet _) (fun _ => quiet _) keeps

theorem Keeps.withUserContext {libCtxId userCtxId : Int}
    {body : ContextPtr → UserContextPtr → Call Int}
    (keeps : ∀ c u, (books judge).Keeps (body c u)) :
    (books judge).Keeps (withUserContext libCtxId userCtxId body) :=
  keeps_withUserContext (fun access _ => quiet access) (quiet _) (fun _ => quiet _)
    (fun _ => quiet _) keeps

/-- The request is marked between lookup and release. -/
theorem Keeps.withRequest {requestId : Int}
    {body : ContextPtr → UserContextPtr → RequestPtr → Call Int}
    (keeps : ∀ c u r, (books judge).Keeps (body c u r)) :
    (books judge).Keeps (withRequest findRequestAndMarkBusy requestId body) := by
  apply Keeps.withUserContext quiet
  intro c u ledger
  rw [Books.Ends, ends_bind]
  refine ends_findRequestAndMarkBusy (fun access _ => quiet access) (quiet _)
    (Ledger.Same.refl ledger) ?_
  intro r
  rw [ends_bind]
  refine (keeps c u r _).mono ?_
  intro result later same
  rw [ends_bind]
  exact ends_release (fun access _ => quiet access) same.released

end Quiet

end Rules

end NpWebApi
