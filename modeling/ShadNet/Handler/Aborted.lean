import ShadNet.Handler.Finishing

/-!
# Aborted and deleted requests

A reply must leave a request alone that has been aborted or deleted before. A
reply in hand does, when it has nothing left to store for such a request and its
object has a result already, which the reply cannot change.
-/

namespace NpHandler

open LockProgram HandlerState

/-! ## The property -/

/-- No reply has put anything into a buffer of a request that had been aborted or deleted, and none
has changed the result of one. -/
def DeadStayDead (s : HandlerState) : Prop :=
  (∀ store ∈ s.replyStores, store.late = false) ∧ ∀ c ∈ s.completed, c.late = false

/-- No reply is storing for the request, and one that is in hand for it is for the object that is
ended now, or for one that has a result. -/
def AtRest (request : RequestId) (ended : Option Nat) (s : HandlerState) : Prop :=
  (∀ mark ∈ s.writing, s.owner? mark.2 ≠ some request) ∧
    ∀ mark ∈ s.carried, s.owner? mark.2 = some request →
      ended = some mark.2 ∨ (s.result? mark.2).isSome

/-- Requests are at rest when they are aborted or deleted. After that no reply finds an entry of
theirs whose object has no result, or has anything to store for them, and `BeginOp` takes no
result back while a reply is in hand. -/
def SparesTheDead (pb : ShadNetProto) : Section → HandlerState → Prop
  | .begin _ request, s => request.library = .score → ∀ ref ∈ s.current? request,
    isDead ref s = true →
      s.result? ref = some communityAborted ∨ ∀ mark ∈ s.carried, mark.2 ≠ ref
  | .take _ _ family pktId _, s => ∀ entry ∈ s.pending? family pktId,
    isDead entry.req s = true → (s.result? entry.req).isSome
  | .prepare _ reply entry, s => isDead entry.req s = true →
    (completion pb entry.family reply entry.outputs (tmpRankOut? entry.req s)).stores = []
  | .abort request found, s => AtRest request found s
  | .delete request, s => requestExists request s = true → AtRest request (s.current? request) s
  | .deleteTitle library titleId, s => titleExists library titleId s = true →
    ∀ request ∈ requestsOfTitle library titleId s, AtRest request (s.current? request) s
  | _, _ => True

/-- The property, and what it needs of the replies in hand. -/
structure LeftAlone (s : HandlerState) : Prop where
  stores : ∀ store ∈ s.replyStores, store.late = false
  completed : ∀ c ∈ s.completed, c.late = false
  writing : ∀ mark ∈ s.writing, isDead mark.2 s = false
  carried : ∀ mark ∈ s.carried, isDead mark.2 s = true → (s.result? mark.2).isSome

/-! ## Every step keeps it -/

section Steps

variable {pb : ShadNetProto} {i : Nat} {s t u : HandlerState}

/-- Nothing died, no reply did anything, and the results that were there stay. -/
structure Calm (s t : HandlerState) : Prop where
  dead : t.dead = s.dead
  replyStores : t.replyStores = s.replyStores
  completed : t.completed = s.completed
  carried : t.carried ⊆ s.carried
  writing : t.writing ⊆ s.writing
  begun : s.begun ⊆ t.begun
  owner : ∀ ref ∈ s.begun, t.owner? ref = s.owner? ref
  result : ∀ ref ∈ s.begun, (s.result? ref).isSome → (t.result? ref).isSome

theorem Calm.refl (s : HandlerState) : Calm s s :=
  ⟨rfl, rfl, rfl, fun _ h => h, fun _ h => h, fun _ h => h, fun _ _ => rfl, fun _ _ h => h⟩

theorem Calm.trans (first : Calm s t) (second : Calm t u) : Calm s u where
  dead := second.dead.trans first.dead
  replyStores := second.replyStores.trans first.replyStores
  completed := second.completed.trans first.completed
  carried _ member := first.carried (second.carried member)
  writing _ member := first.writing (second.writing member)
  begun _ member := second.begun (first.begun member)
  owner ref begun := (second.owner ref (first.begun begun)).trans (first.owner ref begun)
  result ref begun held := second.result ref (first.begun begun) (first.result ref begun held)

theorem Calm.foldl {α : Type} {f : HandlerState → α → HandlerState}
    (each : ∀ s a, Calm s (f s a)) (items : List α) (s : HandlerState) :
    Calm s (items.foldl f s) := by
  induction items generalizing s with
  | nil => exact Calm.refl s
  | cons a rest ih => exact (each s a).trans (ih (f s a))

theorem isDead_congr {ref : Nat} (owner : t.owner? ref = s.owner? ref) (dead : t.dead = s.dead) :
    isDead ref t = isDead ref s := by
  rw [isDead, owner, dead, isDead]

theorem isDead_iff {ref : Nat} :
    isDead ref s = true ↔ ∃ request, s.owner? ref = some request ∧ request ∈ s.dead := by
  rw [isDead]
  split
  · rename_i request owned
    simp [owned]
  · rename_i unknown
    simp [unknown]

theorem Calm.keeps (calm : Calm s t) (sound : Sound s) (left : LeftAlone s) : LeftAlone t where
  stores := calm.replyStores ▸ left.stores
  completed := calm.completed ▸ left.completed
  writing := by
    intro mark member
    have before := calm.writing member
    rw [isDead_congr (calm.owner mark.2 (sound.writing mark before)) calm.dead]
    exact left.writing mark before
  carried := by
    intro mark member dead
    have before := calm.carried member
    have known := sound.carried mark before
    rw [isDead_congr (calm.owner mark.2 known) calm.dead] at dead
    exact calm.result mark.2 known (left.carried mark before dead)

theorem calm_setResult (ref : Nat) (r : Outcome) : Calm s (setResult ref r s) := by
  refine { Calm.refl s with
    owner := fun other _ => owner?_setResult ref other r s
    result := ?_ }
  intro other _ held
  obtain ⟨result, held⟩ := Option.isSome_iff_exists.mp held
  exact Option.isSome_of_eq_some (result?_setResult_keeps held)

theorem Quiet.calm (quiet : Quiet s t) : Calm s t := by
  have same := quiet.same
  constructor
  · rw [same]
  · rw [same]
  · rw [same]
  · rw [same]
    exact List.Subset.refl _
  · rw [same]
    exact List.Subset.refl _
  · rw [same]
    exact List.Subset.refl _
  · intro ref _
    rw [owner?_eq, quiet.holding, ← owner?_eq]
  · intro ref _ held
    rwa [result?_eq, quiet.holding, ← result?_eq]

/-- The objects that have been begun are what they were. -/
theorem owner_of_holding (holding : ∀ ref ∈ s.begun, t.holding? ref = s.holding? ref) :
    ∀ ref ∈ s.begun, t.owner? ref = s.owner? ref := by
  intro ref begun
  rw [owner?_eq, holding ref begun, owner?_eq]

theorem result_of_holding (holding : ∀ ref ∈ s.begun, t.holding? ref = s.holding? ref) :
    ∀ ref ∈ s.begun, (s.result? ref).isSome → (t.result? ref).isSome := by
  intro ref begun held
  rwa [result?_eq, holding ref begun, ← result?_eq]

theorem calm_addRequest (sound : Sound s) (titleCtxId : Nat) :
    Calm s (NpScore.addRequest titleCtxId s).2 := by
  rcases addRequest_cases titleCtxId s with refused | ⟨ctx, ref, -, -, added⟩
  · rw [refused]
    exact Calm.refl s
  · rw [added]
    have holding : ∀ other ∈ s.begun, ({ s with
        nextScoreReqId := s.nextScoreReqId + 1
        nextRef := s.nextRef + 1
        requests := s.requests ++ [ctx]
        scoreRequests := s.scoreRequests ++ [⟨s.nextScoreReqId, s.nextRef⟩] } :
          HandlerState).holding? other = s.holding? other := by
      intro other begun
      rw [holding?_new rfl (ref ▸ sound.unused), ref, if_neg (sound.old begun)]
    exact { Calm.refl s with
      owner := owner_of_holding holding
      result := result_of_holding holding }

theorem calm_markBegun (call ref : Nat) : Calm s (markBegun call ref s) :=
  { Calm.refl s with begun := List.subset_append_left _ _ }

theorem calm_newObject (sound : Sound s) (request : RequestId) :
    Calm s (newObject i request s).2 := by
  have holding : ∀ ref ∈ s.begun, (newObject i request s).2.holding? ref = s.holding? ref :=
    fun _ begun => holding?_newObject sound begun request
  exact { Calm.refl s with
    owner := owner_of_holding holding
    result := result_of_holding holding }

theorem calm_beginTus (sound : Sound s) (reqId : Nat) : Calm s (beginTus i reqId s).2 := by
  have assigned : Calm s (assign reqId s.nextRef (newObject i ⟨.tus, reqId⟩ s).2) :=
    { calm_newObject sound ⟨.tus, reqId⟩ with }
  rw [beginTus_eq]
  exact assigned.trans (calm_markBegun i s.nextRef)

theorem calm_beginOwn (sound : Sound s) (library : Library) :
    Calm s (beginOwn i library s).2 :=
  (calm_newObject sound ⟨library, i⟩).trans (calm_markBegun i s.nextRef)

theorem calm_started (call ref : Nat) : Calm s (started call ref s) := { Calm.refl s with }

theorem calm_finish (call ref : Nat) (r : Int) : Calm s (finish call ref r s) :=
  (calm_setResult ref ⟨r, some call⟩).trans (calm_started call ref)

theorem calm_fakeAsyncComplete (sound : Sound s) (reqId : Nat) :
    Calm s (fakeAsyncComplete i reqId s).2 := by
  rcases fakeAsyncComplete_cases i reqId s with refused | done
  · rw [refused]
    exact Calm.refl s
  · rw [done]
    exact (calm_beginTus sound reqId).trans (calm_finish i s.nextRef orbisOk)

theorem calm_submitRequest (call id : Nat) (message : Message) (ref : Nat) :
    Calm s (submitRequest call id message ref s).2 := by
  rw [submitRequest]
  split
  · exact Calm.refl s
  · exact { Calm.refl s with }

theorem calm_register (entry : PendingRequest) : Calm s (register entry s) := by
  have into : Calm s (entered entry s) := { Calm.refl s with }
  exact into.trans (calm_started entry.call entry.req)

theorem calm_removeSession (call : Nat) (userId : Int) :
    Calm s (removeSession call userId s).2 := by
  rw [removeSession]
  split <;> exact { Calm.refl s with }

theorem calm_sweepPending (call : Nat) (userId : Int) (family : Family) (errorCode : Int) :
    Calm s (sweepPending call userId family errorCode s) := by
  have ended := Calm.foldl (fun s entry => calm_setResult (s := s) entry.req ⟨errorCode, some entry.call⟩)
    (s.pending.filter (PendingRequest.of userId family)) s
  exact { ended with }

/-! ### Beginning again -/

theorem left_rebegin (left : LeftAlone s) {ref : Nat}
    (free : isDead ref s = true → ∀ mark ∈ s.carried, mark.2 ≠ ref) :
    LeftAlone (rebegin i ref s) := by
  have same : ∀ other, isDead other (rebegin i ref s) = isDead other s :=
    fun other => isDead_congr (owner?_rebegin i ref other s) rfl
  refine { left with writing := ?_, carried := ?_ }
  · intro mark member
    rw [same]
    exact left.writing mark member
  · intro mark member dead
    rw [same] at dead
    have apart : mark.2 ≠ ref := by
      intro named
      rw [named] at dead
      exact free dead mark member named
    rw [result?_eq, holding?_rebegin_other apart, ← result?_eq]
    exact left.carried mark member dead

theorem left_beginScore (left : LeftAlone s) (sound : Sound s) {reqId : Nat}
    (permitted : SparesTheDead pb (.begin i ⟨.score, reqId⟩) s) :
    LeftAlone (beginScore i reqId s).2 := by
  rcases beginScore_cases i reqId s with ⟨error, refused⟩ | ⟨ref, found, fresh, begun⟩
  · rw [refused]
    exact left
  · rw [begun]
    have kept : Shrinks s (rebegin i ref s) :=
      { Shrinks.refl s with owner := fun other => owner?_rebegin i ref other s }
    refine (calm_markBegun i ref).keeps (kept.sound sound) (left_rebegin left ?_)
    intro dead
    rcases permitted rfl ref found dead with aborted | idle
    · exact absurd aborted fresh
    · exact idle

/-! ### Replies -/

theorem left_takePending (left : LeftAlone s) {client : Nat} {family : Family} {pktId : Nat}
    {reply : Reply} (permitted : SparesTheDead pb (.take i client family pktId reply) s) :
    LeftAlone (takePending i client family pktId reply s).2 := by
  rcases takePending_cases i client family pktId reply s with
    ⟨-, none_⟩ | ⟨entry, found, some_⟩
  · rw [none_]
    exact { left with }
  · rw [some_]
    refine { left with carried := ?_ }
    intro mark member dead
    rcases List.mem_append.mp member with old | new
    · exact left.carried mark old dead
    · obtain rfl := List.mem_singleton.mp new
      exact permitted entry found dead

theorem left_prepare (left : LeftAlone s) {reply : Reply} {entry : PendingRequest}
    (permitted : SparesTheDead pb (.prepare i reply entry) s) :
    LeftAlone (prepare pb i reply entry s).2 := by
  refine { left with writing := ?_ }
  intro mark member
  rcases List.mem_append.mp member with old | new
  · exact left.writing mark old
  · obtain ⟨rfl, more⟩ := mem_storing new
    cases dead : isDead entry.req s with
    | false => exact dead
    | true => exact absurd (permitted dead) more

theorem left_replyStore (left : LeftAlone s) {call ref : Nat} (writing : (call, ref) ∈ s.writing)
    (store : Store) (last : Bool) : LeftAlone (replyStore call ref store last s) := by
  refine { left with stores := ?_, writing := ?_ }
  · intro stored member
    rcases List.mem_append.mp member with old | new
    · exact left.stores stored old
    · rw [List.mem_singleton.mp new]
      exact left.writing (call, ref) writing
  · intro mark member
    have before : mark ∈ s.writing := by
      cases last with
      | false => exact member
      | true => exact List.mem_of_mem_filter member
    exact left.writing mark before

theorem left_complete (left : LeftAlone s) (sound : Sound s) {call client : Nat}
    {entry : PendingRequest} (carried : (call, entry.req) ∈ s.carried) (r : Int) :
    LeftAlone (complete call client entry r s) := by
  have unmarked : ∀ t, Calm t (replied call client entry.pktId entry.req t) := by
    intro t
    exact { Calm.refl t with
      carried := List.filter_subset_self _
      writing := List.filter_subset_self _ }
  have ended := (calm_setResult (s := s) entry.req ⟨r, some entry.call⟩).trans (unmarked _)
  refine { ended.keeps sound left with completed := ?_ }
  intro c member
  rcases List.mem_append.mp member with old | new
  · exact left.completed c old
  · obtain rfl := List.mem_singleton.mp new
    cases dead : isDead entry.req s with
    | false => simp
    | true =>
      have held := left.carried (call, entry.req) carried dead
      simp [Option.isNone_eq_false_iff.mpr held]

/-- An object that has no result is not dead while a reply to it is in hand. -/
theorem left_setAuthorizationCode (left : LeftAlone s) {call ref : Nat}
    (carried : (call, ref) ∈ s.carried) (stores : List Store) :
    LeftAlone (setAuthorizationCode call ref stores s) := by
  rw [setAuthorizationCode]
  split
  · exact left
  · rename_i fresh
    refine { left with stores := ?_ }
    intro stored member
    rcases List.mem_append.mp member with old | new
    · exact left.stores stored old
    · obtain ⟨store, -, rfl⟩ := List.mem_map.mp new
      by_contra dead
      exact fresh (left.carried (call, ref) carried (by simpa using dead))

theorem left_completeAuth (left : LeftAlone s) (sound : Sound s) {call client : Nat}
    {entry : PendingRequest} (carried : (call, entry.req) ∈ s.carried) (c : Completion) :
    LeftAlone (completeAuth call client entry c s) := by
  refine left_complete (left_setAuthorizationCode left carried c.stores)
    ((shrinks_setAuthorizationCode call entry.req c.stores).sound sound) ?_ c.result
  rw [setAuthorizationCode]
  split <;> exact carried

theorem carried_of_marks {ref : Nat} {writing : List (Nat × Nat)} {inHand : List Routed}
    (marked : marks i s = { carried := [(i, ref)], writing, inHand }) : (i, ref) ∈ s.carried := by
  have listed : (i, ref) ∈ s.carried.filter (fun mark => decide (mark.1 = i)) := by
    rw [(marks_of_eq marked).2.2.1]
    exact List.mem_singleton_self _
  exact List.mem_of_mem_filter listed

theorem writing_of_marks {ref : Nat} {carried : List (Nat × Nat)} {inHand : List Routed}
    (marked : marks i s = { carried, writing := [(i, ref)], inHand }) : (i, ref) ∈ s.writing := by
  have listed : (i, ref) ∈ s.writing.filter (fun mark => decide (mark.1 = i)) := by
    rw [(marks_of_eq marked).2.2.2.1]
    exact List.mem_singleton_self _
  exact List.mem_of_mem_filter listed

/-! ### Aborts and deletions -/

theorem isDead_kill {request : RequestId} {found : Option Nat} {aborted : Int} {ref : Nat}
    (dead : isDead ref (kill request found aborted s) = true) :
    isDead ref s = true ∨ s.owner? ref = some request := by
  obtain ⟨owner, owned, listed⟩ := isDead_iff.mp dead
  have same : s.owner? ref = some owner := by
    have kept := (shrinks_kill (s := s) request found aborted).owner ref
    rwa [kept] at owned
  have before : (kill request found aborted s).dead = s.dead ++ [request] := by
    cases found <;> rfl
  rw [before] at listed
  rcases List.mem_append.mp listed with old | new
  · exact Or.inl (isDead_iff.mpr ⟨owner, same, old⟩)
  · obtain rfl := List.mem_singleton.mp new
    exact Or.inr same

theorem result?_kill_keeps {request : RequestId} {found : Option Nat} {aborted : Int} {ref : Nat}
    (held : (s.result? ref).isSome) : ((kill request found aborted s).result? ref).isSome := by
  cases found with
  | none => exact held
  | some other =>
    obtain ⟨result, held⟩ := Option.isSome_iff_exists.mp held
    exact Option.isSome_of_eq_some (result?_setResult_keeps held)

theorem result?_kill_sets {request : RequestId} {found : Option Nat} {aborted : Int} {ref : Nat}
    (named : found = some ref) (known : (s.owner? ref).isSome) :
    ((kill request found aborted s).result? ref).isSome := by
  subst named
  exact result?_setResult_self known

theorem left_kill (left : LeftAlone s) {request : RequestId} {found : Option Nat}
    (rest : AtRest request found s) (aborted : Int) :
    LeftAlone (kill request found aborted s) := by
  have fields : (kill request found aborted s).replyStores = s.replyStores ∧
      (kill request found aborted s).completed = s.completed ∧
      (kill request found aborted s).writing = s.writing ∧
      (kill request found aborted s).carried = s.carried := by
    cases found <;> exact ⟨rfl, rfl, rfl, rfl⟩
  obtain ⟨replyStores, completed, writing, carried⟩ := fields
  constructor
  · rw [replyStores]
    exact left.stores
  · rw [completed]
    exact left.completed
  · intro mark member
    rw [writing] at member
    by_contra dead
    rcases isDead_kill (by simpa using dead) with before | owned
    · simp [left.writing mark member] at before
    · exact rest.1 mark member owned
  · intro mark member dead
    rw [carried] at member
    rcases isDead_kill dead with before | owned
    · exact result?_kill_keeps (left.carried mark member before)
    · rcases rest.2 mark member owned with ended | held
      · exact result?_kill_sets ended (Option.isSome_of_eq_some owned)
      · exact result?_kill_keeps held

theorem left_killAndErase (left : LeftAlone s) (sound : Sound s) {request : RequestId}
    (rest : AtRest request (s.current? request) s) : LeftAlone (killAndErase request s) := by
  have killed := left_kill left rest communityAborted
  have erased : Calm (kill request (s.current? request) communityAborted s)
      (killAndErase request s) := by
    rw [killAndErase, eraseRequest]
    split <;> exact { Calm.refl _ with }
  exact erased.keeps ((shrinks_kill request _ _).sound sound) killed

theorem current?_killAndErase (request other : RequestId) :
    (killAndErase request s).current? other =
      if other = request then none else s.current? other := by
  have same : (kill request (s.current? request) communityAborted s).current? other =
      s.current? other := by
    cases found : s.current? request <;> cases other with
    | mk library id => cases library <;> rfl
  rw [killAndErase, current?_eraseRequest, same]

/-- Deleting a request leaves every request at rest that was. -/
theorem rest_killAndErase {request other : RequestId}
    (rest : AtRest other (s.current? other) s) :
    AtRest other ((killAndErase request s).current? other) (killAndErase request s) := by
  have owner := (shrinks_killAndErase (s := s) request).owner
  have writing := (shrinks_killAndErase (s := s) request).writing
  have carried := (shrinks_killAndErase (s := s) request).carried
  have result : ∀ ref, (killAndErase request s).result? ref =
      (kill request (s.current? request) communityAborted s).result? ref := by
    intro ref
    rw [killAndErase, eraseRequest]
    split <;> rfl
  constructor
  · intro mark member
    rw [owner]
    exact rest.1 mark (writing member)
  · intro mark member owned
    rw [owner] at owned
    rw [current?_killAndErase, result]
    rcases rest.2 mark (carried member) owned with ended | held
    · split
      · rename_i same
        right
        rw [same] at ended
        exact result?_kill_sets ended (Option.isSome_of_eq_some owned)
      · exact Or.inl ended
    · exact Or.inr (result?_kill_keeps held)

theorem left_foldl (left : LeftAlone s) (sound : Sound s) (requests : List RequestId)
    (rest : ∀ request ∈ requests, AtRest request (s.current? request) s) :
    LeftAlone (requests.foldl (fun s request => killAndErase request s) s) := by
  induction requests generalizing s with
  | nil => exact left
  | cons request later ih =>
    refine ih (left_killAndErase left sound (rest request (List.mem_cons_self ..)))
      ((shrinks_killAndErase request).sound sound) ?_
    intro other member
    exact rest_killAndErase (rest other (List.mem_cons_of_mem _ member))

theorem left_deleteRequest (left : LeftAlone s) (sound : Sound s) {request : RequestId}
    (permitted : SparesTheDead pb (.delete request) s) :
    LeftAlone (deleteRequest request s).2 := by
  rw [deleteRequest]
  split
  · rename_i present
    exact left_killAndErase left sound (permitted present)
  · exact left

theorem left_deleteTitle (left : LeftAlone s) (sound : Sound s) {library : Library}
    {titleId : Nat} (permitted : SparesTheDead pb (.deleteTitle library titleId) s) :
    LeftAlone (deleteTitle library titleId s).2 := by
  rw [deleteTitle]
  split
  · rename_i present
    have ended := left_foldl left sound _ (permitted present)
    cases library <;> exact { ended with }
  · exact left

end Steps

theorem keeps_leftAlone (pb : ShadNetProto) : Keeps pb LeftAlone (SparesTheDead pb) := by
  intro i s label update step sound left permitted
  cases step with
  | quiet quiet => exact quiet.calm.keeps sound left
  | connect userId npId accountId =>
    have calm : Calm s (addSession userId npId accountId s) := { Calm.refl s with }
    exact calm.keeps sound left
  | createScore titleCtxId => exact (calm_addRequest sound titleCtxId).keeps sound left
  | beginScore reqId => exact left_beginScore left sound permitted
  | beginTus reqId => exact (calm_beginTus sound reqId).keeps sound left
  | beginOwn library => exact (calm_beginOwn sound library).keeps sound left
  | fake reqId => exact (calm_fakeAsyncComplete sound reqId).keeps sound left
  | finish ref r => exact (calm_finish i ref r).keeps sound left
  | rejectComment ref => exact (calm_started i ref).keeps sound left
  | submitFailed ref => exact (calm_started i ref).keeps sound left
  | submit client family ref message =>
    exact (calm_submitRequest i client message ref).keeps sound left
  | submitAuth client ref userId message =>
    exact ((calm_submitRequest i client message ref).trans (calm_register _)).keeps sound left
  | register entry => exact (calm_register entry).keeps sound left
  | take client family pktId reply => exact left_takePending left permitted
  | prepare r => exact left_prepare left permitted
  | store r store last tmpRankOut routed own place marked =>
    exact left_replyStore left (writing_of_marks marked) store last
  | complete r tmpRankOut routed own place marked =>
    exact left_complete left sound (carried_of_marks marked) _
  | completeAuth r routed own auth marked =>
    exact left_completeAuth left sound (carried_of_marks marked) _
  | abort request found => exact left_kill left permitted communityAborted
  | delete request => exact left_deleteRequest left sound permitted
  | deleteTitle library titleId => exact left_deleteTitle left sound permitted
  | disconnect userId => exact (calm_removeSession i userId).keeps sound left
  | sweep userId family errorCode =>
    exact (calm_sweepPending i userId family errorCode).keeps sound left

/-! ## Every interleaving -/

instance (s : HandlerState) : Decidable (DeadStayDead s) := inferInstanceAs (Decidable (_ ∧ _))

instance (request : RequestId) (ended : Option Nat) (s : HandlerState) :
    Decidable (AtRest request ended s) :=
  inferInstanceAs (Decidable (_ ∧ ∀ mark ∈ s.carried, _ → _))

instance (pb : ShadNetProto) : ∀ label s, Decidable (SparesTheDead pb label s)
  | .begin _ request, s =>
    inferInstanceAs (Decidable (_ → ∀ ref ∈ s.current? request, _ → _))
  | .take _ _ family pktId _, s =>
    inferInstanceAs (Decidable (∀ entry ∈ s.pending? family pktId, _ → _))
  | .prepare .., _ => inferInstanceAs (Decidable (_ → _))
  | .abort request found, s => inferInstanceAs (Decidable (AtRest request found s))
  | .delete .., _ => inferInstanceAs (Decidable (_ → _))
  | .deleteTitle library titleId, s =>
    inferInstanceAs (Decidable (_ → ∀ request ∈ requestsOfTitle library titleId s, _))
  | .submit .., _ | .register .., _ | .finish .., _ | .rejectComment .., _ | .submitFailed .., _
  | .store .., _ | .complete .., _ | .disconnect .., _ | .sweep .., _ | .other, _ => isTrue trivial

/-- In every interleaving that spares the dead, no reply stores anything for an aborted or deleted
request or changes its result. -/
theorem dead_stay_dead (pb : ShadNetProto) (actions : List (Action Op))
    (scheduled : Scheduled pb (SparesTheDead pb) actions) :
    DeadStayDead (runPool pb actions).state := by
  have start : LeftAlone {} := by constructor <;> simp
  obtain ⟨-, left, -⟩ := holds_of_scheduled (keeps_leftAlone pb) start scheduled
  exact ⟨left.stores, left.completed⟩

/-- A score is recorded, its rank comes back, and the request is aborted only then; a TUS request
is deleted before the server says that its variables are set. -/
def abortedAtRest : List (Action Op) :=
  setUp ++ .spawn (.score 6 1 none true (.recordScore 1 500 [] [] 0 (some 40))) ::
    List.replicate 9 (.take 6) ++
    .spawn (.reply 7 0 1 ⟨.recordScore, .noError, [3, 0, 0, 0]⟩) :: List.replicate 5 (.take 7) ++
    .spawn (.abortScoreRequest 1) :: List.replicate 2 (.take 8) ++
    .spawn (.tus 9 1 none true (.setMultiSlotVariable (.npId []) [1] [5])) ::
    List.replicate 9 (.take 9) ++
    .spawn (.deleteTusRequest 1) :: List.replicate 2 (.take 10) ++
    .spawn (.reply 11 0 2 ⟨.tusSetMultiSlotVariable, .noError, []⟩) :: List.replicate 5 (.take 11)

theorem abortedAtRest_stay_dead : DeadStayDead (runPool noReplies abortedAtRest).state :=
  dead_stay_dead noReplies abortedAtRest (by decide +kernel)

/-- The request is aborted while its packet is with the server. -/
def rankAfterAbort : List (Action Op) :=
  setUp ++ .spawn (.score 6 1 none true (.recordScore 1 500 [] [] 0 (some 40))) ::
    List.replicate 9 (.take 6) ++
    .spawn (.abortScoreRequest 1) :: List.replicate 2 (.take 7) ++
    .spawn (.reply 8 0 1 ⟨.recordScore, .noError, [3, 0, 0, 0]⟩) :: List.replicate 5 (.take 8)

/-- The reply still writes the rank to where the caller wanted it. -/
theorem rankAfterAbort_written :
    Scheduled noReplies (fun _ _ => True) rankAfterAbort ∧
      ¬DeadStayDead (runPool noReplies rankAfterAbort).state := by
  decide +kernel

end NpHandler
