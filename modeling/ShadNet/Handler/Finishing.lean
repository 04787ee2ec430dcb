import ShadNet.Handler.Programs

/-!
# Begun requests come to an end

A score or TUS request that has been begun must get a result. While it has none,
somebody is responsible for it: the operation that began it, a reply that holds
it, or an entry in a pending map that a reply or a disconnect will find. Two
exits of the operations forget it.
-/

namespace NpHandler

open LockProgram HandlerState

/-! ## The property -/

/-- The requests of the score and TUS operations. -/
def RequestId.OfOperation (request : RequestId) : Prop :=
  request.library = .score ∨ request.library = .tus

/-- A disconnect will come across the entry: that of the session its user has, or one that has
its map still to sweep. -/
def WillBeSwept (entry : PendingRequest) (s : HandlerState) : Prop :=
  (KeyedTable.lookup Session.userId entry.userId s.sessions).isSome ∨
    ∃ sweep ∈ s.sweeping, sweep.userId = entry.userId ∧ sweep.family = entry.family

/-- The request has a result, or somebody is going to give it one. -/
def Finishing (ref : Nat) (s : HandlerState) : Prop :=
  (s.result? ref).isSome ∨ (∃ call, (call, ref) ∈ s.starting) ∨ (∃ call, (call, ref) ∈ s.carried) ∨
    ∃ entry ∈ s.pending, entry.req = ref ∧ WillBeSwept entry s

def AllFinishing (s : HandlerState) : Prop :=
  ∀ ref ∈ s.begun, ∀ request, s.owner? ref = some request → request.OfOperation → Finishing ref s

/-- No exit forgets the request: a comment that is too long is not met after `BeginOp`, no TUS
submission fails after its object has been made, and an entry finds its place in the map free and
its user not yet swept. -/
def NoExitForgets : Section → HandlerState → Prop
  | .rejectComment .., _ => False
  | .submitFailed .., _ => False
  | .register entry, s => entry.family = .score ∨ entry.family = .tus →
    s.pending? entry.family entry.pktId = none ∧ WillBeSwept entry s
  | _, _ => True

/-! ## Every step keeps it -/

section Steps

variable {pb : ShadNetProto} {i : Nat} {s t u : HandlerState}

/-- Nobody who was responsible for a request has let go of it. -/
structure Lasts (s t : HandlerState) : Prop where
  begun : t.begun = s.begun
  owner : ∀ ref, t.owner? ref = s.owner? ref
  result : ∀ ref, (s.result? ref).isSome → (t.result? ref).isSome
  starting : s.starting ⊆ t.starting
  carried : s.carried ⊆ t.carried
  pending : s.pending ⊆ t.pending
  swept : ∀ entry, WillBeSwept entry s → WillBeSwept entry t

theorem Lasts.refl (s : HandlerState) : Lasts s s :=
  ⟨rfl, fun _ => rfl, fun _ h => h, fun _ h => h, fun _ h => h, fun _ h => h, fun _ h => h⟩

theorem Lasts.trans (first : Lasts s t) (second : Lasts t u) : Lasts s u where
  begun := second.begun.trans first.begun
  owner ref := (second.owner ref).trans (first.owner ref)
  result ref held := second.result ref (first.result ref held)
  starting _ member := second.starting (first.starting member)
  carried _ member := second.carried (first.carried member)
  pending _ member := second.pending (first.pending member)
  swept entry will := second.swept entry (first.swept entry will)

theorem Lasts.foldl {α : Type} {f : HandlerState → α → HandlerState}
    (each : ∀ s a, Lasts s (f s a)) (items : List α) (s : HandlerState) :
    Lasts s (items.foldl f s) := by
  induction items generalizing s with
  | nil => exact Lasts.refl s
  | cons a rest ih => exact (each s a).trans (ih (f s a))

theorem Lasts.finishing (lasts : Lasts s t) {ref : Nat} (finishing : Finishing ref s) :
    Finishing ref t := by
  rcases finishing with held | ⟨call, started⟩ | ⟨call, carried⟩ | ⟨entry, member, named, will⟩
  · exact Or.inl (lasts.result ref held)
  · exact Or.inr (Or.inl ⟨call, lasts.starting started⟩)
  · exact Or.inr (Or.inr (Or.inl ⟨call, lasts.carried carried⟩))
  · exact Or.inr (Or.inr (Or.inr ⟨entry, lasts.pending member, named, lasts.swept entry will⟩))

theorem Lasts.all (lasts : Lasts s t) (all : AllFinishing s) : AllFinishing t := by
  intro ref begun request owned operation
  rw [lasts.begun] at begun
  rw [lasts.owner] at owned
  exact lasts.finishing (all ref begun request owned operation)

theorem lasts_setResult (ref : Nat) (r : Outcome) : Lasts s (setResult ref r s) := by
  refine { Lasts.refl s with owner := fun other => owner?_setResult ref other r s, result := ?_ }
  intro other held
  obtain ⟨result, held⟩ := Option.isSome_iff_exists.mp held
  exact Option.isSome_of_eq_some (result?_setResult_keeps held)

theorem Quiet.lasts (quiet : Quiet s t) : Lasts s t := by
  have same := quiet.same
  constructor
  · rw [same]
  · exact quiet.shrinks.owner
  · intro ref held
    rwa [result?_eq, quiet.holding, ← result?_eq]
  · rw [same]
    exact fun _ h => h
  · rw [same]
    exact fun _ h => h
  · rw [same]
    exact fun _ h => h
  · rw [same]
    exact fun _ h => h

theorem lasts_kill (request : RequestId) (found : Option Nat) (aborted : Int) :
    Lasts s (kill request found aborted s) := by
  have ended := Lasts.foldl (fun s ref => lasts_setResult (s := s) ref ⟨aborted, none⟩) found.toList s
  exact { ended with }

theorem lasts_eraseRequest (request : RequestId) : Lasts s (eraseRequest request s) := by
  cases request with
  | mk library id => cases library <;> exact { Lasts.refl s with }

theorem lasts_killAndErase (request : RequestId) : Lasts s (killAndErase request s) :=
  (lasts_kill request _ _).trans (lasts_eraseRequest request)

theorem lasts_deleteRequest (request : RequestId) : Lasts s (deleteRequest request s).2 := by
  rw [deleteRequest]
  split
  · exact lasts_killAndErase request
  · exact Lasts.refl s

theorem lasts_deleteTitle (library : Library) (titleId : Nat) :
    Lasts s (deleteTitle library titleId s).2 := by
  rw [deleteTitle]
  split
  · have ended := Lasts.foldl (fun s request => lasts_killAndErase (s := s) request)
      (requestsOfTitle library titleId s) s
    refine ended.trans ?_
    cases library <;> exact { Lasts.refl _ with }
  · exact Lasts.refl s

theorem lasts_addSession (userId : Int) (npId : Bytes) (accountId : Int) :
    Lasts s (addSession userId npId accountId s) := by
  refine { Lasts.refl s with swept := ?_ }
  rintro entry (connected | left)
  · left
    rw [addSession, KeyedTable.lookup_store]
    split
    · rfl
    · exact connected
  · exact Or.inr left

theorem lasts_submitRequest (call id : Nat) (message : Message) (ref : Nat) :
    Lasts s (submitRequest call id message ref s).2 := by
  rw [submitRequest]
  split
  · exact Lasts.refl s
  · exact { Lasts.refl s with }

theorem lasts_replyStore (call ref : Nat) (store : Store) (last : Bool) :
    Lasts s (replyStore call ref store last s) := { Lasts.refl s with }

theorem lasts_prepare (call : Nat) (reply : Reply) (entry : PendingRequest) :
    Lasts s (prepare pb call reply entry s).2 := { Lasts.refl s with }

/-- One step, request by request. -/
theorem AllFinishing.step (all : AllFinishing s) (sound : Sound s) (grows : Grows s t)
    (begun : ∀ ref ∈ t.begun, ref ∈ s.begun ∨ Finishing ref t)
    (each : ∀ ref ∈ s.begun, ∀ request, s.owner? ref = some request → request.OfOperation →
      Finishing ref s → Finishing ref t) : AllFinishing t := by
  intro ref member request owned operation
  rcases begun ref member with old | finishing
  · obtain ⟨first, owned'⟩ := Option.isSome_iff_exists.mp (sound.begun ref old)
    obtain rfl : first = request := by
      have later := grows.owner ref first owned'
      rw [owned] at later
      exact (Option.some.inj later).symm
    exact each ref old first owned' operation (all ref old first owned' operation)
  · exact finishing

theorem all_started (all : AllFinishing s) (sound : Sound s) {ref : Nat}
    (settled : ∀ request, s.owner? ref = some request → request.OfOperation →
      Finishing ref (started i ref s)) : AllFinishing (started i ref s) := by
  refine all.step sound (moves_started (i := i)).2 (fun _ old => Or.inl old) ?_
  intro other _ request owned operation finishing
  by_cases same : other = ref
  · subst same
    exact settled request owned operation
  · rcases finishing with held | ⟨call, marked⟩ | carried | entered
    · exact Or.inl held
    · refine Or.inr (Or.inl ⟨call, List.mem_filter.mpr ⟨marked, ?_⟩⟩)
      simp [same]
    · exact Or.inr (Or.inr (Or.inl carried))
    · exact Or.inr (Or.inr (Or.inr entered))

theorem all_finish (all : AllFinishing s) (sound : Sound s) (ref : Nat) (r : Int) :
    AllFinishing (finish i ref r s) := by
  refine all_started ((lasts_setResult ref ⟨r, some i⟩).all all)
    ((shrinks_setResult ref ⟨r, some i⟩).sound sound) ?_
  intro request owned _
  rw [owner?_setResult] at owned
  exact Or.inl (result?_setResult_self (Option.isSome_of_eq_some owned))

/-- What is begun has the mark of its operation; the other requests are left as they were. -/
theorem all_begun (all : AllFinishing s) (sound : Sound s) {ref : Nat} (grows : Grows s t)
    (begun : t.begun = s.begun ++ [ref]) (starting : t.starting = s.starting ++ [(i, ref)])
    (holding : ∀ other ∈ s.begun, other ≠ ref → t.holding? other = s.holding? other)
    (carried : t.carried = s.carried) (pending : t.pending = s.pending)
    (sessions : t.sessions = s.sessions) (sweeping : t.sweeping = s.sweeping) :
    AllFinishing t := by
  have marked : Finishing ref t := by
    refine Or.inr (Or.inl ⟨i, ?_⟩)
    rw [starting]
    exact List.mem_append_right _ (List.mem_singleton_self _)
  refine all.step sound grows ?_ ?_
  · intro other member
    rw [begun] at member
    rcases List.mem_append.mp member with old | new
    · exact Or.inl old
    · rw [List.mem_singleton.mp new]
      exact Or.inr marked
  · intro other old _ _ _ finishing
    by_cases same : other = ref
    · rw [same]
      exact marked
    · rcases finishing with held | ⟨call, started⟩ | taken | entered
      · left
        rwa [result?_eq, holding other old same, ← result?_eq]
      · refine Or.inr (Or.inl ⟨call, ?_⟩)
        rw [starting]
        exact List.mem_append_left _ started
      · rw [← carried] at taken
        exact Or.inr (Or.inr (Or.inl taken))
      · simp only [WillBeSwept, ← pending, ← sessions, ← sweeping] at entered
        exact Or.inr (Or.inr (Or.inr entered))

theorem all_beginScore (all : AllFinishing s) (sound : Sound s) (reqId : Nat) :
    AllFinishing (beginScore i reqId s).2 := by
  have grows := (moves_beginScore (i := i) (s := s) reqId).2
  rcases beginScore_cases i reqId s with ⟨error, refused⟩ | ⟨ref, -, -, begun⟩
  · rw [refused]
    exact all
  · rw [begun] at grows ⊢
    exact all_begun all sound grows rfl rfl (fun _ _ apart => holding?_rebegin_other apart) rfl rfl
      rfl rfl

theorem all_beginTus (all : AllFinishing s) (sound : Sound s) (reqId : Nat) :
    AllFinishing (beginTus i reqId s).2 :=
  all_begun all sound (moves_beginTus (i := i) reqId).2 rfl rfl
    (fun _ old _ => holding?_newObject sound old _) rfl rfl rfl rfl

theorem all_beginOwn (all : AllFinishing s) (sound : Sound s) (library : Library) :
    AllFinishing (beginOwn i library s).2 :=
  all_begun all sound (moves_beginOwn (i := i) library).2 rfl rfl
    (fun _ old _ => holding?_newObject sound old _) rfl rfl rfl rfl

theorem all_fakeAsyncComplete (all : AllFinishing s) (sound : Sound s) (reqId : Nat) :
    AllFinishing (fakeAsyncComplete i reqId s).2 := by
  rcases fakeAsyncComplete_cases i reqId s with refused | done
  · rw [refused]
    exact all
  · rw [done]
    exact all_finish (all_beginTus all sound reqId) (sound_beginTus sound reqId) s.nextRef orbisOk

theorem all_addRequest (all : AllFinishing s) (sound : Sound s) (titleCtxId : Nat) :
    AllFinishing (NpScore.addRequest titleCtxId s).2 := by
  have grows := (silent_addRequest (s := s) titleCtxId).2
  rcases addRequest_cases titleCtxId s with refused | ⟨ctx, ref, -, -, added⟩
  · rw [refused]
    exact all
  · rw [added] at grows ⊢
    refine all.step sound grows (fun _ old => Or.inl old) ?_
    intro other old _ _ _ finishing
    have made := holding?_new (s := s) (t := { s with
      nextScoreReqId := s.nextScoreReqId + 1
      nextRef := s.nextRef + 1
      requests := s.requests ++ [ctx]
      scoreRequests := s.scoreRequests ++ [⟨s.nextScoreReqId, s.nextRef⟩] }) rfl
      (ref ▸ sound.unused) other
    rw [ref, if_neg (sound.old old)] at made
    rcases finishing with held | rest
    · left
      rwa [result?_eq, made, ← result?_eq]
    · exact Or.inr rest

/-! ### Entries -/

/-- The entry of a score or TUS request goes in; others had their mark for another reason. -/
theorem all_register (all : AllFinishing s) (sound : Sound s) {entry : PendingRequest}
    (known : entry.req ∈ s.begun)
    (owned : ∃ id, s.owner? entry.req = some ⟨entry.family.library, id⟩)
    (placed : entry.family = .score ∨ entry.family = .tus →
      s.pending? entry.family entry.pktId = none ∧ WillBeSwept entry s) :
    AllFinishing (register entry s) := by
  have grown : s.pending ⊆ (entered entry s).pending := by
    rcases pending_entered entry s with ⟨-, same⟩ | ⟨-, added⟩
    · rw [same]
      exact List.Subset.refl _
    · rw [added]
      exact List.subset_append_left _ _
  have lasts : Lasts s (entered entry s) := { Lasts.refl s with pending := grown }
  refine all_started (lasts.all all) (sound_entered sound known owned) ?_
  intro request named operation
  obtain ⟨id, owned⟩ := owned
  obtain rfl : ⟨entry.family.library, id⟩ = request := Option.some.inj (owned.symm.trans named)
  have ours : entry.family = .score ∨ entry.family = .tus := by
    rcases operation with score | tus
    · left
      cases family : entry.family <;> simp_all [Family.library]
    · right
      cases family : entry.family <;> simp_all [Family.library]
  obtain ⟨free, will⟩ := placed ours
  refine Or.inr (Or.inr (Or.inr ⟨entry, ?_, rfl, will⟩))
  rcases pending_entered entry s with ⟨taken, -⟩ | ⟨-, added⟩
  · rw [free] at taken
    cases taken
  · have member : entry ∈ (entered entry s).pending := by
      rw [added]
      exact List.mem_append_right _ (List.mem_singleton_self _)
    exact member

theorem all_takePending (all : AllFinishing s) (sound : Sound s) (client : Nat) (family : Family)
    (pktId : Nat) (reply : Reply) :
    AllFinishing (takePending i client family pktId reply s).2 := by
  have grows := (moves_takePending (i := i) (s := s) client family pktId reply).2
  rcases takePending_cases i client family pktId reply s with
    ⟨-, none_⟩ | ⟨entry, found, some_⟩
  · rw [none_]
    exact Lasts.all { Lasts.refl s with } all
  · rw [some_] at grows ⊢
    refine all.step sound grows (fun _ old => Or.inl old) ?_
    intro ref _ _ _ _ finishing
    rcases finishing with held | started | ⟨call, carried⟩ | ⟨other, member, named, will⟩
    · exact Or.inl held
    · exact Or.inr (Or.inl started)
    · exact Or.inr (Or.inr (Or.inl ⟨call, List.mem_append_left _ carried⟩))
    · by_cases key : other.key = (family, pktId)
      · -- the reply now carries the request of the entry it took
        obtain ⟨member', key'⟩ := KeyedTable.lookup_some found
        obtain rfl : other = entry := sound.distinct.eq_of_key member member' (key.trans key'.symm)
        rw [← named]
        exact Or.inr (Or.inr (Or.inl ⟨i, List.mem_append_right _ (List.mem_singleton_self _)⟩))
      · exact Or.inr (Or.inr (Or.inr
          ⟨other, KeyedTable.mem_remove.mpr ⟨member, key⟩, named, will⟩))

theorem all_complete (all : AllFinishing s) (sound : Sound s) (client : Nat)
    (entry : PendingRequest) (r : Int) : AllFinishing (complete i client entry r s) := by
  refine all.step sound (moves_complete client entry r).2 (fun _ old => Or.inl old) ?_
  intro other _ request owned _ finishing
  have done : (setResult entry.req ⟨r, some entry.call⟩ s).result? other =
      (complete i client entry r s).result? other := rfl
  by_cases same : other = entry.req
  · left
    rw [← done, same]
    exact result?_setResult_self (Option.isSome_of_eq_some (same ▸ owned))
  · rcases finishing with held | started | ⟨call, carried⟩ | entered
    · left
      rw [← done, result?_setResult_other same]
      exact held
    · exact Or.inr (Or.inl started)
    · refine Or.inr (Or.inr (Or.inl ⟨call, List.mem_filter.mpr ⟨carried, ?_⟩⟩))
      simp [same]
    · exact Or.inr (Or.inr (Or.inr entered))

theorem all_completeAuth (all : AllFinishing s) (sound : Sound s) (client : Nat)
    (entry : PendingRequest) (c : Completion) : AllFinishing (completeAuth i client entry c s) := by
  have lasts : Lasts s (setAuthorizationCode i entry.req c.stores s) := by
    rw [setAuthorizationCode]
    split
    · exact Lasts.refl s
    · exact { Lasts.refl s with }
  exact all_complete (lasts.all all)
    ((shrinks_setAuthorizationCode i entry.req c.stores).sound sound) client entry c.result

/-! ### Disconnects -/

/-- The entries of the user had his session; now they have the sweep of their map. -/
theorem all_removeSession (all : AllFinishing s) (sound : Sound s) (userId : Int) :
    AllFinishing (removeSession i userId s).2 := by
  have grows := (moves_removeSession (i := i) (s := s) userId).2
  rcases removeSession_cases i userId s with ⟨-, absent⟩ | ⟨session, -, removed⟩
  · rw [absent]
    exact all
  · rw [removed] at grows ⊢
    refine all.step sound grows (fun _ old => Or.inl old) ?_
    intro ref _ request owned operation finishing
    rcases finishing with held | started | carried | ⟨entry, member, named, will⟩
    · exact Or.inl held
    · exact Or.inr (Or.inl started)
    · exact Or.inr (Or.inr (Or.inl carried))
    · refine Or.inr (Or.inr (Or.inr ⟨entry, member, named, ?_⟩))
      rcases will with connected | ⟨sweep, left, user, family⟩
      · by_cases same : entry.userId = userId
        · right
          have swept : entry.family ∈ sweptFamilies := by
            obtain ⟨id, owned'⟩ := sound.family entry member
            rw [named, owned] at owned'
            obtain rfl := Option.some.inj owned'
            cases family : entry.family <;>
              simp_all [sweptFamilies, Family.library, RequestId.OfOperation]
          exact ⟨⟨i, userId, entry.family⟩,
            List.mem_append_right _ (List.mem_map.mpr ⟨entry.family, swept, rfl⟩), same.symm, rfl⟩
        · left
          rw [KeyedTable.lookup_remove, if_neg same]
          exact connected
      · exact Or.inr ⟨sweep, List.mem_append_left _ left, user, family⟩

theorem all_sweepPending (all : AllFinishing s) (sound : Sound s) (userId : Int)
    (family : Family) (errorCode : Int) :
    AllFinishing (sweepPending i userId family errorCode s) := by
  refine all.step sound (moves_sweepPending userId family errorCode).2 (fun ref old => ?_) ?_
  · have same := (shrinks_sweepPending (s := s) i userId family errorCode).begun
    rw [same] at old
    exact Or.inl old
  intro ref begun request owned _ finishing
  have ended := Lasts.foldl (fun s entry => lasts_setResult (s := s) entry.req ⟨errorCode, some entry.call⟩)
    (s.pending.filter (PendingRequest.of userId family)) s
  rcases finishing with held | ⟨call, started⟩ | ⟨call, carried⟩ | ⟨entry, member, named, will⟩
  · exact Or.inl (ended.result ref held)
  · exact Or.inr (Or.inl ⟨call, ended.starting started⟩)
  · exact Or.inr (Or.inr (Or.inl ⟨call, ended.carried carried⟩))
  · by_cases ours : PendingRequest.of userId family entry
    · left
      have failed : entry ∈ s.pending.filter (PendingRequest.of userId family) :=
        List.mem_filter.mpr ⟨member, ours⟩
      have known : (s.owner? entry.req).isSome := by
        rw [named]
        exact sound.begun ref begun
      rw [← named]
      exact result?_foldl_sets (f := PendingRequest.req)
        (g := fun entry => ⟨errorCode, some entry.call⟩) failed known
    · refine Or.inr (Or.inr (Or.inr ⟨entry, ?_, named, ?_⟩))
      · refine List.mem_filter.mpr ⟨ended.pending member, ?_⟩
        simpa using ours
      · obtain ⟨requests, same⟩ := foldl_setResult PendingRequest.req
          (fun entry => ⟨errorCode, some entry.call⟩)
          (s.pending.filter (PendingRequest.of userId family)) s
        simp only [WillBeSwept, sweepPending, same]
        rcases will with connected | ⟨sweep, left, user, map⟩
        · exact Or.inl connected
        · refine Or.inr ⟨sweep, List.mem_filter.mpr ⟨left, ?_⟩, user, map⟩
          have other : sweep ≠ ⟨i, userId, family⟩ := by
            rintro rfl
            exact ours (by simp [PendingRequest.of, ← user, ← map])
          simpa using other

end Steps

theorem keeps_allFinishing (pb : ShadNetProto) : Keeps pb AllFinishing NoExitForgets := by
  intro i s label update step sound all permitted
  cases step with
  | quiet quiet => exact quiet.lasts.all all
  | connect userId npId accountId => exact (lasts_addSession userId npId accountId).all all
  | createScore titleCtxId => exact all_addRequest all sound titleCtxId
  | beginScore reqId => exact all_beginScore all sound reqId
  | beginTus reqId => exact all_beginTus all sound reqId
  | beginOwn library => exact all_beginOwn all sound library
  | fake reqId => exact all_fakeAsyncComplete all sound reqId
  | finish ref r => exact all_finish all sound ref r
  | rejectComment ref => exact absurd permitted id
  | submitFailed ref => exact absurd permitted id
  | submit client family ref message => exact (lasts_submitRequest i client message ref).all all
  | submitAuth client ref userId message outputs begun =>
    have known := starting_known sound (congrArg Marks.starting begun.marked)
      (List.mem_singleton_self _)
    have sent := shrinks_submitRequest (s := s) i client message ref
    refine all_register ((lasts_submitRequest i client message ref).all all) (sent.sound sound)
      ?_ ?_ ?_
    · rw [sent.begun]
      exact known
    · rw [sent.owner]
      exact begun.owned
    · rintro (score | tus)
      · cases score
      · cases tus
  | register entry submission own marked owned =>
    exact all_register all sound (starting_known sound (congrArg Marks.starting marked)
      (List.mem_singleton_self _)) owned permitted
  | take client family pktId reply => exact all_takePending all sound client family pktId reply
  | prepare r => exact (lasts_prepare i r.reply r.entry).all all
  | store r store last => exact (lasts_replyStore i r.entry.req store last).all all
  | complete r => exact all_complete all sound r.client r.entry _
  | completeAuth r => exact all_completeAuth all sound r.client r.entry _
  | abort request found => exact (lasts_kill request found communityAborted).all all
  | delete request => exact (lasts_deleteRequest request).all all
  | deleteTitle library titleId => exact (lasts_deleteTitle library titleId).all all
  | disconnect userId => exact all_removeSession all sound userId
  | sweep userId family errorCode => exact all_sweepPending all sound userId family errorCode

/-! ## Every interleaving -/

instance (pool : Pool HandlerState Section) (thread : Nat) : Decidable (Running pool thread) :=
  match found : pool.threads[thread]? with
  | some (.atomic label update next) => isTrue ⟨label, update, next, found⟩
  | some (.done _) => isFalse (by rintro ⟨label, update, next, running⟩; rw [found] at running; cases running)
  | none => isFalse (by rintro ⟨label, update, next, running⟩; rw [found] at running; cases running)

/-- The request has a result; or a thread that is still running began it or carries its reply; or
it is registered, and a reply to its packet, the disconnect of its user, or a disconnect that is
still running will complete it. -/
def CanEnd (pool : Pool HandlerState Section) (ref : Nat) : Prop :=
  (pool.state.result? ref).isSome ∨
    (∃ mark ∈ pool.state.starting ++ pool.state.carried, mark.2 = ref ∧ Running pool mark.1) ∨
    ∃ entry ∈ pool.state.pending, entry.req = ref ∧
      ((KeyedTable.lookup Session.userId entry.userId pool.state.sessions).isSome ∨
        ∃ sweep ∈ pool.state.sweeping, Running pool sweep.call ∧ sweep.userId = entry.userId ∧
          sweep.family = entry.family)

/-- No score or TUS request that was begun is left without anyone to end it. -/
def EveryRequestCanEnd (pool : Pool HandlerState Section) : Prop :=
  ∀ ref ∈ pool.state.begun, ∀ request ∈ pool.state.owner? ref, request.OfOperation →
    CanEnd pool ref

instance (pool : Pool HandlerState Section) (ref : Nat) : Decidable (CanEnd pool ref) :=
  inferInstanceAs (Decidable (_ ∨ _ ∨ _))

instance (request : RequestId) : Decidable request.OfOperation :=
  inferInstanceAs (Decidable (_ ∨ _))

instance (pool : Pool HandlerState Section) : Decidable (EveryRequestCanEnd pool) :=
  inferInstanceAs (Decidable (∀ ref ∈ pool.state.begun, ∀ request ∈ pool.state.owner? ref, _))

instance (entry : PendingRequest) (s : HandlerState) : Decidable (WillBeSwept entry s) :=
  inferInstanceAs (Decidable (_ ∨ _))

instance : ∀ label s, Decidable (NoExitForgets label s)
  | .rejectComment .., _ => isFalse id
  | .submitFailed .., _ => isFalse id
  | .register entry, s => inferInstanceAs (Decidable (_ ∨ _ → _ ∧ WillBeSwept entry s))
  | .begin .., _ | .submit .., _ | .finish .., _ | .take .., _ | .prepare .., _ | .store .., _
  | .complete .., _
  | .abort .., _ | .delete .., _ | .deleteTitle .., _ | .disconnect .., _ | .sweep .., _
  | .other, _ => isTrue trivial

section Running

variable {pool : Pool HandlerState Section}
  (clean : ∀ thread, ¬Running pool thread → Clean thread pool.state)

include clean

/-- A thread that has a mark is running. -/
theorem running_of_starting {thread ref : Nat} (started : (thread, ref) ∈ pool.state.starting) :
    Running pool thread := by
  by_contra done
  have none_ := (marks_of_eq (clean thread done)).1
  have listed : (thread, ref) ∈ pool.state.starting.filter (fun mark => decide (mark.1 = thread)) :=
    List.mem_filter.mpr ⟨started, by simp⟩
  rw [none_] at listed
  cases listed

theorem running_of_carried {thread ref : Nat} (carried : (thread, ref) ∈ pool.state.carried) :
    Running pool thread := by
  by_contra done
  have none_ := (marks_of_eq (clean thread done)).2.2.1
  have listed : (thread, ref) ∈ pool.state.carried.filter (fun mark => decide (mark.1 = thread)) :=
    List.mem_filter.mpr ⟨carried, by simp⟩
  rw [none_] at listed
  cases listed

theorem running_of_sweeping {sweep : Sweep} (left : sweep ∈ pool.state.sweeping) :
    Running pool sweep.call := by
  by_contra done
  have none_ := (marks_of_eq (clean sweep.call done)).2.2.2.2.1
  have listed : sweep ∈ pool.state.sweeping.filter (fun other => decide (other.call = sweep.call)) :=
    List.mem_filter.mpr ⟨left, by simp⟩
  rw [none_] at listed
  cases listed

end Running

/-- In every interleaving whose exits forget no request, every score and TUS request that was
begun has a result or will be given one. -/
theorem every_request_can_end (pb : ShadNetProto) (actions : List (Action Op))
    (scheduled : Scheduled pb NoExitForgets actions) :
    EveryRequestCanEnd (runPool pb actions) := by
  have start : AllFinishing {} := by simp [AllFinishing]
  obtain ⟨-, all, clean⟩ := holds_of_scheduled (keeps_allFinishing pb) start scheduled
  intro ref begun request owned operation
  rcases all ref begun request owned operation with held | ⟨call, started⟩ | ⟨call, carried⟩ |
    ⟨entry, member, named, will⟩
  · exact Or.inl held
  · exact Or.inr (Or.inl ⟨(call, ref), List.mem_append_left _ started, rfl,
      running_of_starting clean started⟩)
  · exact Or.inr (Or.inl ⟨(call, ref), List.mem_append_right _ carried, rfl,
      running_of_carried clean carried⟩)
  · refine Or.inr (Or.inr ⟨entry, member, named, ?_⟩)
    rcases will with connected | ⟨sweep, left, user, family⟩
    · exact Or.inl connected
    · exact Or.inr ⟨sweep, left, running_of_sweeping clean left, user, family⟩

/-- A parser for runs whose replies have nothing to parse. -/
def noReplies : ShadNetProto where
  boardInfo _ := none
  getScoreResponse _ := none
  tusVariableResponse _ := none
  tusDataStatusResponse _ := none
  tusGetDataResponse _ := none
  tssGetDataResponse _ := none
  authorizationCode _ := none
  syncTrophiesReply _ := none

def ali : Bytes := [97, 108, 105]

/-- Ali signs in and gets a title context and a request of each library. -/
def setUp : List (Action Op) :=
  Action.serial 2 [.loadNpCommIds [[78, 80, 87, 82]], .connectUser 1 ali 7,
    .createScoreTitleCtx none 0 ali, .createScoreRequest 1, .createTusTitleCtx none 0 ali,
    .createTusRequest 1]

/-- A score is recorded and answered; then a TUS operation waits while Ali is signed out. -/
def answeredAndSwept : List (Action Op) :=
  setUp ++ .spawn (.score 6 1 none true (.recordScore 1 500 [] [] 0 none)) ::
    List.replicate 9 (.take 6) ++
    .spawn (.reply 7 0 1 ⟨.recordScore, .noError, []⟩) :: List.replicate 4 (.take 7) ++
    .spawn (.tus 8 1 none true (.setMultiSlotVariable (.npId []) [1] [5])) ::
    List.replicate 9 (.take 8) ++
    .spawn (.disconnectUser 9 1) :: List.replicate 5 (.take 9)

theorem answeredAndSwept_can_end : EveryRequestCanEnd (runPool noReplies answeredAndSwept) :=
  every_request_can_end noReplies answeredAndSwept (by decide +kernel)

/-- A comment of 256 characters is refused after `BeginOp`. -/
def overlongComment : List (Action Op) :=
  setUp ++ .spawn (.score 6 1 none true (.censorComment (List.replicate 256 65))) ::
    List.replicate 3 (.take 6)

/-- The refused request has no result, no entry and nobody at work on it: a poll says "running"
for ever. -/
theorem overlongComment_never_ends :
    Scheduled noReplies (fun _ _ => True) overlongComment ∧
      ¬EveryRequestCanEnd (runPool noReplies overlongComment) := by
  decide +kernel

end NpHandler
