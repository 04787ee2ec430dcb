import ShadNet.Handler.Threads

/-!
# The tables, the objects and the marks agree

Rows name objects made for their own request, and whatever has been begun has an
object. Most sections add nothing that could break a link: `Shrinks` says so of
them, and composes.
-/

namespace NpHandler

open LockProgram HandlerState

/-- What links the tables, the objects and the marks, whoever takes the next section. -/
structure Sound (s : HandlerState) : Prop where
  fresh : ∀ ref, (s.owner? ref).isSome → ref < s.nextRef
  current : ∀ request ref, s.current? request = some ref → s.owner? ref = some request
  begun : ∀ ref ∈ s.begun, (s.owner? ref).isSome
  starting : ∀ mark ∈ s.starting, mark.2 ∈ s.begun
  carried : ∀ mark ∈ s.carried, mark.2 ∈ s.begun
  writing : ∀ mark ∈ s.writing, mark.2 ∈ s.begun
  pending : ∀ entry ∈ s.pending, entry.req ∈ s.begun
  family : ∀ entry ∈ s.pending, ∃ id, s.owner? entry.req = some ⟨entry.family.library, id⟩
  distinct : KeyedTable.Distinct PendingRequest.key s.pending

/-- Nothing new: no object, no row, no mark and no entry. -/
structure Shrinks (s t : HandlerState) : Prop where
  owner : ∀ ref, t.owner? ref = s.owner? ref
  nextRef : t.nextRef = s.nextRef
  current : ∀ request ref, t.current? request = some ref → s.current? request = some ref
  begun : t.begun = s.begun
  starting : t.starting ⊆ s.starting
  carried : t.carried ⊆ s.carried
  writing : t.writing ⊆ s.writing
  pending : t.pending.Sublist s.pending

section Shrinks

variable {s t u : HandlerState}

theorem Shrinks.refl (s : HandlerState) : Shrinks s s :=
  ⟨fun _ => rfl, rfl, fun _ _ h => h, rfl, fun _ h => h, fun _ h => h, fun _ h => h,
    List.Sublist.refl _⟩

theorem Shrinks.trans (first : Shrinks s t) (second : Shrinks t u) : Shrinks s u where
  owner ref := (second.owner ref).trans (first.owner ref)
  nextRef := second.nextRef.trans first.nextRef
  current request ref found := first.current request ref (second.current request ref found)
  begun := second.begun.trans first.begun
  starting _ member := first.starting (second.starting member)
  carried _ member := first.carried (second.carried member)
  writing _ member := first.writing (second.writing member)
  pending := second.pending.trans first.pending

theorem Shrinks.foldl {α : Type} {f : HandlerState → α → HandlerState}
    (each : ∀ s a, Shrinks s (f s a)) (items : List α) (s : HandlerState) :
    Shrinks s (items.foldl f s) := by
  induction items generalizing s with
  | nil => exact Shrinks.refl s
  | cons a rest ih => exact (each s a).trans (ih (f s a))

theorem Shrinks.sound (shrinks : Shrinks s t) (sound : Sound s) : Sound t := by
  constructor
  · intro ref owned
    rw [shrinks.owner] at owned
    rw [shrinks.nextRef]
    exact sound.fresh ref owned
  · intro request ref found
    rw [shrinks.owner]
    exact sound.current request ref (shrinks.current request ref found)
  · intro ref member
    rw [shrinks.begun] at member
    rw [shrinks.owner]
    exact sound.begun ref member
  · intro mark member
    rw [shrinks.begun]
    exact sound.starting mark (shrinks.starting member)
  · intro mark member
    rw [shrinks.begun]
    exact sound.carried mark (shrinks.carried member)
  · intro mark member
    rw [shrinks.begun]
    exact sound.writing mark (shrinks.writing member)
  · intro entry member
    rw [shrinks.begun]
    exact sound.pending entry (shrinks.pending.subset member)
  · intro entry member
    rw [shrinks.owner]
    exact sound.family entry (shrinks.pending.subset member)
  · exact List.Nodup.sublist (shrinks.pending.map _) sound.distinct

theorem shrinks_setResult (ref : Nat) (r : Outcome) : Shrinks s (setResult ref r s) :=
  { Shrinks.refl s with owner := fun other => owner?_setResult ref other r s }

theorem Quiet.shrinks (quiet : Quiet s t) : Shrinks s t := by
  have same := quiet.same
  constructor
  · intro ref
    rw [owner?_eq, quiet.holding, ← owner?_eq]
  · rw [same]
  · intro request ref found
    rwa [quiet.current] at found
  · rw [same]
  · rw [same]
    exact fun _ h => h
  · rw [same]
    exact fun _ h => h
  · rw [same]
    exact fun _ h => h
  · rw [same]

theorem shrinks_started (call ref : Nat) : Shrinks s (started call ref s) :=
  { Shrinks.refl s with starting := List.filter_subset_self _ }

theorem shrinks_finish (call ref : Nat) (r : Int) : Shrinks s (finish call ref r s) :=
  (shrinks_setResult ref ⟨r, some call⟩).trans (shrinks_started call ref)

theorem shrinks_kill (request : RequestId) (found : Option Nat) (aborted : Int) :
    Shrinks s (kill request found aborted s) := by
  have ended := Shrinks.foldl (fun s ref => shrinks_setResult (s := s) ref ⟨aborted, none⟩) found.toList s
  exact { ended with }

theorem current?_eraseRequest (request other : RequestId) :
    (eraseRequest request s).current? other =
      if other = request then none else s.current? other := by
  obtain ⟨library, id⟩ := request
  obtain ⟨library', id'⟩ := other
  cases library <;> cases library' <;>
    simp [eraseRequest, current?, tusRequest?, KeyedTable.lookup_remove] <;> split <;> simp

theorem shrinks_eraseRequest (request : RequestId) : Shrinks s (eraseRequest request s) := by
  have current : ∀ other ref, (eraseRequest request s).current? other = some ref →
      s.current? other = some ref := by
    intro other ref found
    rw [current?_eraseRequest] at found
    split at found
    · cases found
    · exact found
  cases request with
  | mk library id => cases library <;> exact { Shrinks.refl s with current }

theorem shrinks_killAndErase (request : RequestId) : Shrinks s (killAndErase request s) :=
  (shrinks_kill request _ _).trans (shrinks_eraseRequest request)

theorem shrinks_deleteRequest (request : RequestId) : Shrinks s (deleteRequest request s).2 := by
  rw [deleteRequest]
  split
  · exact shrinks_killAndErase request
  · exact Shrinks.refl s

theorem shrinks_deleteTitle (library : Library) (titleId : Nat) :
    Shrinks s (deleteTitle library titleId s).2 := by
  rw [deleteTitle]
  split
  · have ended := Shrinks.foldl (fun s request => shrinks_killAndErase (s := s) request)
      (requestsOfTitle library titleId s) s
    refine ended.trans ?_
    cases library <;> exact { Shrinks.refl _ with }
  · exact Shrinks.refl s

theorem shrinks_addSession (userId : Int) (npId : Bytes) (accountId : Int) :
    Shrinks s (addSession userId npId accountId s) := { Shrinks.refl s with }

theorem shrinks_submitRequest (call id : Nat) (message : Message) (ref : Nat) :
    Shrinks s (submitRequest call id message ref s).2 := by
  rw [submitRequest]
  split
  · exact Shrinks.refl s
  · exact { Shrinks.refl s with }

theorem shrinks_replyStore (call ref : Nat) (store : Store) (last : Bool) :
    Shrinks s (replyStore call ref store last s) := by
  cases last with
  | false => exact { Shrinks.refl s with }
  | true => exact { Shrinks.refl s with writing := List.filter_subset_self _ }

theorem shrinks_complete (call client : Nat) (entry : PendingRequest) (r : Int) :
    Shrinks s (complete call client entry r s) :=
  { shrinks_setResult entry.req ⟨r, some entry.call⟩ with
    carried := List.filter_subset_self _
    writing := List.filter_subset_self _ }

theorem shrinks_setAuthorizationCode (call ref : Nat) (stores : List Store) :
    Shrinks s (setAuthorizationCode call ref stores s) := by
  rw [setAuthorizationCode]
  split
  · exact Shrinks.refl s
  · exact { Shrinks.refl s with }

theorem shrinks_completeAuth (call client : Nat) (entry : PendingRequest) (c : Completion) :
    Shrinks s (completeAuth call client entry c s) :=
  (shrinks_setAuthorizationCode call entry.req c.stores).trans
    (shrinks_complete call client entry c.result)

theorem shrinks_removeSession (call : Nat) (userId : Int) :
    Shrinks s (removeSession call userId s).2 := by
  rw [removeSession]
  split <;> exact { Shrinks.refl s with }

theorem shrinks_sweepPending (call : Nat) (userId : Int) (family : Family) (errorCode : Int) :
    Shrinks s (sweepPending call userId family errorCode s) := by
  have ended := Shrinks.foldl (fun s entry => shrinks_setResult (s := s) entry.req ⟨errorCode, some entry.call⟩)
    (s.pending.filter (PendingRequest.of userId family)) s
  refine ended.trans { Shrinks.refl _ with pending := List.filter_sublist }

end Shrinks

section Sound

variable {pb : ShadNetProto} {i ref : Nat} {s t : HandlerState}

theorem holding?_new {ctx : RequestCtx} (requests : t.requests = s.requests ++ [ctx])
    (unused : s.owner? ctx.ref = none) (ref : Nat) :
    t.holding? ref = if ref = ctx.ref then some ctx.holding else s.holding? ref := by
  rw [holding?, request?, requests, KeyedTable.lookup_append]
  split
  · rename_i same
    subst same
    have absent : KeyedTable.lookup RequestCtx.ref ctx.ref s.requests = none := by
      simpa [owner?, request?] using unused
    rw [absent, Option.none_or]
    simp [KeyedTable.lookup]
  · rename_i other
    have differs : KeyedTable.lookup RequestCtx.ref ref [ctx] = none := by
      simp [KeyedTable.lookup, Ne.symm other]
    rw [differs, Option.or_none]
    rfl

theorem Sound.unused (sound : Sound s) : s.owner? s.nextRef = none := by
  cases owned : s.owner? s.nextRef with
  | none => rfl
  | some request => exact absurd (sound.fresh s.nextRef (by simp [owned])) (Nat.lt_irrefl _)

theorem Sound.markBegun (sound : Sound s) (owned : (s.owner? ref).isSome) :
    Sound (markBegun i ref s) where
  fresh := sound.fresh
  current := sound.current
  begun := by
    intro other member
    rcases List.mem_append.mp member with old | new
    · exact sound.begun other old
    · rw [List.mem_singleton.mp new]
      exact owned
  starting := by
    intro mark member
    rcases List.mem_append.mp member with old | new
    · exact List.mem_append_left _ (sound.starting mark old)
    · rw [List.mem_singleton.mp new]
      exact List.mem_append_right _ (List.mem_singleton_self ref)
  carried mark member := List.mem_append_left _ (sound.carried mark member)
  writing mark member := List.mem_append_left _ (sound.writing mark member)
  pending entry member := List.mem_append_left _ (sound.pending entry member)
  family := sound.family
  distinct := sound.distinct

/-- A new object, and rows that may name it for its own request. -/
theorem Sound.made (sound : Sound s) (ctx : RequestCtx) (ref : ctx.ref = s.nextRef)
    (same : t = { s with
      requests := s.requests ++ [ctx]
      nextRef := s.nextRef + 1
      scoreRequests := t.scoreRequests
      nextScoreReqId := t.nextScoreReqId
      tusRequests := t.tusRequests })
    (current : ∀ request ref, t.current? request = some ref →
      s.current? request = some ref ∨ request = ctx.request ∧ ref = ctx.ref) : Sound t := by
  have unused : s.owner? ctx.ref = none := by
    rw [ref]
    exact sound.unused
  have requests : t.requests = s.requests ++ [ctx] := by rw [same]
  have owners : ∀ other, t.owner? other =
      if other = ctx.ref then some ctx.request else s.owner? other := by
    intro other
    rw [owner?_eq, holding?_new requests unused, owner?_eq]
    split <;> rfl
  have begun : t.begun = s.begun := by rw [same]
  constructor
  · intro other owned
    have nextRef : t.nextRef = s.nextRef + 1 := by rw [same]
    rw [owners] at owned
    split at owned
    · omega
    · have := sound.fresh other owned
      omega
  · intro request other found
    rw [owners]
    rcases current request other found with old | ⟨rfl, rfl⟩
    · have owned := sound.current request other old
      split
      · rename_i named
        rw [named, unused] at owned
        cases owned
      · exact owned
    · rw [if_pos rfl]
  · intro other member
    rw [owners]
    rw [begun] at member
    split
    · rfl
    · exact sound.begun other member
  · rw [begun, same]
    exact sound.starting
  · rw [begun, same]
    exact sound.carried
  · rw [begun, same]
    exact sound.writing
  · rw [begun, same]
    exact sound.pending
  · have pending : t.pending = s.pending := by rw [same]
    intro entry member
    rw [pending] at member
    obtain ⟨id, owned⟩ := sound.family entry member
    refine ⟨id, ?_⟩
    rw [owners, if_neg, owned]
    intro named
    rw [named, unused] at owned
    cases owned
  · rw [same]
    exact sound.distinct

theorem sound_addRequest (sound : Sound s) (titleCtxId : Nat) :
    Sound (NpScore.addRequest titleCtxId s).2 := by
  rcases addRequest_cases titleCtxId s with refused | ⟨ctx, ref, request, -, added⟩
  · rw [refused]
    exact sound
  · rw [added]
    refine sound.made ctx ref rfl ?_
    rintro ⟨library, id⟩ other found
    cases library with
    | score =>
      simp only [current?, KeyedTable.lookup_append] at found ⊢
      cases old : KeyedTable.lookup ScoreRequest.reqId id s.scoreRequests with
      | some row =>
        left
        simpa [old] using found
      | none =>
        right
        rw [old, Option.none_or] at found
        obtain ⟨row, looked, rfl⟩ := Option.map_eq_some_iff.mp found
        obtain ⟨member, named⟩ := KeyedTable.lookup_some looked
        obtain rfl := List.mem_singleton.mp member
        rw [request, ref, ← named]
        exact ⟨rfl, rfl⟩
    | tus => exact Or.inl found
    | auth => cases found
    | trophy => cases found

theorem sound_beginScore (sound : Sound s) (reqId : Nat) : Sound (beginScore i reqId s).2 := by
  rcases beginScore_cases i reqId s with ⟨error, refused⟩ | ⟨ref, found, -, begun⟩
  · rw [refused]
    exact sound
  · rw [begun]
    have kept : Shrinks s (rebegin i ref s) :=
      { Shrinks.refl s with owner := fun other => owner?_rebegin i ref other s }
    have owned := sound.current _ ref found
    refine (kept.sound sound).markBegun ?_
    rw [kept.owner, owned]
    rfl

theorem sound_newObject (sound : Sound s) (request : RequestId) :
    Sound (newObject i request s).2 :=
  sound.made { ref := s.nextRef, request, lastCall := i } rfl rfl
    (fun _ _ found => Or.inl found)

theorem owner?_newObject (sound : Sound s) (request : RequestId) :
    (newObject i request s).2.owner? s.nextRef = some request := by
  rw [owner?_eq, holding?_new rfl sound.unused, if_pos rfl]
  rfl

theorem sound_beginOwn (sound : Sound s) (library : Library) :
    Sound (beginOwn i library s).2 := by
  refine (sound_newObject (i := i) sound ⟨library, i⟩).markBegun ?_
  rw [owner?_newObject sound]
  rfl

theorem sound_assign (sound : Sound s) (reqId : Nat) :
    Sound (assign reqId s.nextRef (newObject i ⟨.tus, reqId⟩ s).2) := by
  refine sound.made { ref := s.nextRef, request := ⟨.tus, reqId⟩, lastCall := i } rfl rfl ?_
  intro request ref found
  obtain ⟨library, id⟩ := request
  cases library with
  | score => exact Or.inl found
  | tus =>
    have looked : (assign reqId s.nextRef (newObject i ⟨.tus, reqId⟩ s).2).tusRequest? id =
        (s.tusRequest? id).map (fun row =>
          if row.reqId = reqId then { row with ctx := some s.nextRef } else row) := by
      apply KeyedTable.lookup_adjust
      exact fun _ => rfl
    simp only [current?, looked] at found ⊢
    cases row : s.tusRequest? id with
    | none => simp [row] at found
    | some row =>
      have named := (KeyedTable.lookup_some row).2
      simp only [row, Option.map_some, Option.bind_some] at found ⊢
      split at found
      · right
        simp_all
      · left
        exact found
  | auth => cases found
  | trophy => cases found

theorem sound_beginTus (sound : Sound s) (reqId : Nat) : Sound (beginTus i reqId s).2 := by
  rw [beginTus_eq]
  refine (sound_assign sound reqId).markBegun ?_
  have owned := owner?_newObject (i := i) sound ⟨.tus, reqId⟩
  exact Option.isSome_of_eq_some owned

theorem sound_fakeAsyncComplete (sound : Sound s) (reqId : Nat) :
    Sound (fakeAsyncComplete i reqId s).2 := by
  rcases fakeAsyncComplete_cases i reqId s with refused | done
  · rw [refused]
    exact sound
  · rw [done]
    exact (shrinks_finish i s.nextRef orbisOk).sound (sound_beginTus sound reqId)

/-- The reply finds nothing. -/
def missed (client pktId : Nat) (s : HandlerState) : HandlerState :=
  { s with
    answered := s.answered ++ [(client, pktId)]
    dropped := s.dropped ++ [(client, pktId)]
    handled := s.handled ++ [(client, pktId)] }

/-- The reply has the entry in hand. -/
def taken (call client : Nat) (family : Family) (pktId : Nat) (reply : Reply)
    (entry : PendingRequest) (s : HandlerState) : HandlerState :=
  { s with
    answered := s.answered ++ [(client, pktId)]
    pending := KeyedTable.remove PendingRequest.key (family, pktId) s.pending
    routed := s.routed ++ [⟨call, client, family, pktId, reply, entry⟩]
    carried := s.carried ++ [(call, entry.req)]
    inHand := s.inHand ++ [⟨call, client, family, pktId, reply, entry⟩] }

theorem takePending_cases (call client : Nat) (family : Family) (pktId : Nat) (reply : Reply)
    (s : HandlerState) :
    (s.pending? family pktId = none ∧ takePending call client family pktId reply s =
      (none, missed client pktId s)) ∨
    ∃ entry, s.pending? family pktId = some entry ∧
      takePending call client family pktId reply s =
        (some entry, taken call client family pktId reply entry s) := by
  cases found : s.pending? family pktId with
  | none =>
    left
    refine ⟨rfl, ?_⟩
    simp only [takePending]
    rw [show ({ s with answered := s.answered ++ [(client, pktId)] } : HandlerState).pending? family
      pktId = none from found]
    rfl
  | some entry =>
    right
    refine ⟨entry, rfl, ?_⟩
    simp only [takePending]
    rw [show ({ s with answered := s.answered ++ [(client, pktId)] } : HandlerState).pending? family
      pktId = some entry from found]
    rfl

theorem sound_takePending (sound : Sound s) (client : Nat) (family : Family) (pktId : Nat)
    (reply : Reply) : Sound (takePending i client family pktId reply s).2 := by
  rcases takePending_cases i client family pktId reply s with
    ⟨-, none_⟩ | ⟨entry, found, some_⟩
  · rw [none_]
    exact { sound with }
  · rw [some_]
    have known := sound.pending entry (KeyedTable.lookup_some found).1
    refine { sound with carried := ?_, pending := ?_, family := ?_, distinct := ?_ }
    · intro mark member
      rcases List.mem_append.mp member with old | new
      · exact sound.carried mark old
      · rw [List.mem_singleton.mp new]
        exact known
    · intro other member
      exact sound.pending other (KeyedTable.mem_remove.mp member).1
    · intro other member
      exact sound.family other (KeyedTable.mem_remove.mp member).1
    · exact sound.distinct.remove

theorem mem_storing {call ref : Nat} {stores : List Store} {mark : Nat × Nat}
    (member : mark ∈ storing call ref stores) : mark = (call, ref) ∧ stores ≠ [] := by
  rw [storing] at member
  split at member
  · cases member
  · rename_i more
    exact ⟨List.mem_singleton.mp member, more⟩

theorem sound_prepare (sound : Sound s) (reply : Reply) {entry : PendingRequest}
    (known : entry.req ∈ s.begun) : Sound (prepare pb i reply entry s).2 := by
  refine { sound with writing := ?_ }
  intro mark member
  rcases List.mem_append.mp member with old | new
  · exact sound.writing mark old
  · rw [(mem_storing new).1]
    exact known

/-- A registered entry is in the map, unless its key was taken. -/
theorem pending_entered (entry : PendingRequest) (s : HandlerState) :
    ((s.pending? entry.family entry.pktId).isSome ∧ (entered entry s).pending = s.pending) ∨
      s.pending? entry.family entry.pktId = none ∧
        (entered entry s).pending = s.pending ++ [entry] := by
  cases free : s.pending? entry.family entry.pktId with
  | none => exact Or.inr ⟨rfl, by simp [entered, free]⟩
  | some other => exact Or.inl ⟨rfl, by simp [entered, free]⟩

theorem sound_entered (sound : Sound s) {entry : PendingRequest} (known : entry.req ∈ s.begun)
    (owned : ∃ id, s.owner? entry.req = some ⟨entry.family.library, id⟩) :
    Sound (entered entry s) := by
  have pending : ∀ other ∈ (entered entry s).pending, other.req ∈ s.begun := by
    intro other member
    rcases pending_entered entry s with ⟨-, same⟩ | ⟨-, added⟩
    · rw [same] at member
      exact sound.pending other member
    · rw [added] at member
      rcases List.mem_append.mp member with old | new
      · exact sound.pending other old
      · rw [List.mem_singleton.mp new]
        exact known
  have family : ∀ other ∈ (entered entry s).pending,
      ∃ id, s.owner? other.req = some ⟨other.family.library, id⟩ := by
    intro other member
    rcases pending_entered entry s with ⟨-, same⟩ | ⟨-, added⟩
    · rw [same] at member
      exact sound.family other member
    · rw [added] at member
      rcases List.mem_append.mp member with old | new
      · exact sound.family other old
      · rw [List.mem_singleton.mp new]
        exact owned
  have distinct : KeyedTable.Distinct PendingRequest.key (entered entry s).pending := by
    rcases pending_entered entry s with ⟨-, same⟩ | ⟨free, added⟩
    · rw [same]
      exact sound.distinct
    · rw [added, KeyedTable.Distinct, List.map_append, List.nodup_append]
      refine ⟨sound.distinct, by simp, ?_⟩
      rintro key listed other only equal
      obtain ⟨held, member, rfl⟩ := List.mem_map.mp listed
      rw [List.map_singleton, List.mem_singleton] at only
      exact KeyedTable.lookup_none.mp free held member (equal.trans only)
  exact { sound with pending, family, distinct }

theorem sound_register (sound : Sound s) {entry : PendingRequest} (known : entry.req ∈ s.begun)
    (owned : ∃ id, s.owner? entry.req = some ⟨entry.family.library, id⟩) :
    Sound (register entry s) :=
  (shrinks_started entry.call entry.req).sound (sound_entered sound known owned)

theorem starting_known (sound : Sound s) {starting : List (Nat × Nat)}
    (marked : (marks i s).starting = starting) {mark : Nat × Nat} (member : mark ∈ starting) :
    mark.2 ∈ s.begun := by
  rw [← marked] at member
  exact sound.starting mark (List.mem_of_mem_filter member)

theorem carried_known (sound : Sound s) {carried : List (Nat × Nat)}
    (marked : (marks i s).carried = carried) {mark : Nat × Nat} (member : mark ∈ carried) :
    mark.2 ∈ s.begun := by
  rw [← marked] at member
  exact sound.carried mark (List.mem_of_mem_filter member)

/-- Every section keeps the links. -/
theorem Step.sound {label : Section} {update : HandlerState → HandlerState}
    (step : Step pb i s label update) (sound : Sound s) : Sound (update s) := by
  cases step with
  | quiet quiet => exact quiet.shrinks.sound sound
  | connect userId npId accountId => exact (shrinks_addSession userId npId accountId).sound sound
  | createScore titleCtxId => exact sound_addRequest sound titleCtxId
  | beginScore reqId => exact sound_beginScore sound reqId
  | beginTus reqId => exact sound_beginTus sound reqId
  | beginOwn library => exact sound_beginOwn sound library
  | fake reqId => exact sound_fakeAsyncComplete sound reqId
  | finish ref r => exact (shrinks_finish i ref r).sound sound
  | rejectComment ref => exact (shrinks_started i ref).sound sound
  | submitFailed ref => exact (shrinks_started i ref).sound sound
  | submit client family ref message => exact (shrinks_submitRequest i client message ref).sound sound
  | submitAuth client ref userId message outputs begun =>
    have known := starting_known sound (congrArg Marks.starting begun.marked)
      (List.mem_singleton_self _)
    have sent := shrinks_submitRequest (s := s) i client message ref
    refine sound_register (sent.sound sound) ?_ ?_
    · rw [sent.begun]
      exact known
    · rw [sent.owner]
      exact begun.owned
  | register entry submission own marked owned =>
    exact sound_register sound
      (starting_known sound (congrArg Marks.starting marked) (List.mem_singleton_self _)) owned
  | take client family pktId reply => exact sound_takePending sound client family pktId reply
  | prepare r routed own family marked =>
    exact sound_prepare sound r.reply (carried_known sound (congrArg Marks.carried marked)
      (List.mem_singleton_self _))
  | store r store last => exact (shrinks_replyStore i r.entry.req store last).sound sound
  | complete r => exact (shrinks_complete i r.client r.entry _).sound sound
  | completeAuth r =>
    exact (shrinks_completeAuth i r.client r.entry _).sound sound
  | abort request found => exact (shrinks_kill request found communityAborted).sound sound
  | delete request => exact (shrinks_deleteRequest request).sound sound
  | deleteTitle library titleId => exact (shrinks_deleteTitle library titleId).sound sound
  | disconnect userId => exact (shrinks_removeSession i userId).sound sound
  | sweep userId family errorCode =>
    exact (shrinks_sweepPending i userId family errorCode).sound sound

theorem sound_start : Sound {} := by
  constructor <;> simp [owner?, request?, current?, tusRequest?, KeyedTable.lookup,
    KeyedTable.Distinct]
  rintro ⟨library, id⟩ ref found
  cases library <;> simp at found

/-- A request that has been begun is not the one a new object is for. -/
theorem Sound.old (sound : Sound s) {ref : Nat} (begun : ref ∈ s.begun) : ref ≠ s.nextRef := by
  have below := sound.fresh ref (sound.begun ref begun)
  omega

theorem holding?_newObject (sound : Sound s) {ref : Nat} (begun : ref ∈ s.begun)
    (request : RequestId) : (newObject i request s).2.holding? ref = s.holding? ref := by
  have made := holding?_new (t := (newObject i request s).2) rfl sound.unused ref
  rwa [if_neg (sound.old begun)] at made

def Holding.begin (call : Nat) (h : Holding) : Holding :=
  { h with result := none, resultOf := none, lastCall := call }

theorem holding?_rebegin (call ref other : Nat) :
    (rebegin call ref s).holding? other =
      if other = ref then (s.holding? other).map (Holding.begin call) else s.holding? other := by
  have same : (s.withRequest ref (RequestCtx.begin call)).holding? other =
      if other = ref then (s.holding? other).map (Holding.begin call) else s.holding? other := by
    apply holding?_withRequest <;> exact fun _ => rfl
  exact same

theorem holding?_rebegin_other {call ref other : Nat} (apart : other ≠ ref) :
    (rebegin call ref s).holding? other = s.holding? other := by
  rw [holding?_rebegin, if_neg apart]

end Sound

/-! ## Results -/

section Results

variable {ref other : Nat} {r : Outcome} {x : Int} {s : HandlerState}

theorem result?_setResult_other (apart : other ≠ ref) :
    (setResult ref r s).result? other = s.result? other := by
  rw [result?_eq, holding?_setResult, if_neg apart, result?_eq]

/-- The first result stays. -/
theorem result?_setResult_keeps (held : s.result? other = some x) :
    (setResult ref r s).result? other = some x := by
  by_cases same : other = ref
  · subst same
    rw [result?_eq] at held
    obtain ⟨h, found, result⟩ := Option.bind_eq_some_iff.mp held
    rw [result?_eq, holding?_setResult, if_pos rfl, found]
    simp [Holding.given, result]
  · rw [result?_setResult_other same]
    exact held

theorem result?_setResult_self (known : (s.owner? ref).isSome) :
    ((setResult ref r s).result? ref).isSome := by
  rw [owner?_eq, Option.isSome_map] at known
  obtain ⟨h, found⟩ := Option.isSome_iff_exists.mp known
  rw [result?_eq, holding?_setResult, if_pos rfl, found]
  cases set : h.result <;> simp [Holding.given, set]

section Foldl

variable {α : Type} {f : α → Nat} {g : α → Outcome}

theorem result?_foldl_keeps (items : List α) (held : s.result? other = some x) :
    (items.foldl (fun s item => setResult (f item) (g item) s) s).result? other = some x := by
  induction items generalizing s with
  | nil => exact held
  | cons item rest ih => exact ih (result?_setResult_keeps held)

/-- Every object that was gone through has a result. -/
theorem result?_foldl_sets {items : List α} {item : α} (member : item ∈ items)
    (known : (s.owner? (f item)).isSome) :
    ((items.foldl (fun s item => setResult (f item) (g item) s) s).result? (f item)).isSome := by
  induction items generalizing s with
  | nil => cases member
  | cons first rest ih =>
    rcases List.mem_cons.mp member with same | later
    · subst same
      obtain ⟨result, held⟩ :=
        Option.isSome_iff_exists.mp (result?_setResult_self (r := g item) known)
      exact Option.isSome_of_eq_some (result?_foldl_keeps rest held)
    · refine ih later ?_
      rw [owner?_setResult]
      exact known

theorem foldl_setResult (f : α → Nat) (g : α → Outcome) (items : List α) (s : HandlerState) :
    ∃ requests,
      items.foldl (fun s item => setResult (f item) (g item) s) s = { s with requests } := by
  induction items generalizing s with
  | nil => exact ⟨s.requests, rfl⟩
  | cons item rest ih =>
    obtain ⟨requests, same⟩ := ih (setResult (f item) (g item) s)
    exact ⟨requests, same⟩

end Foldl

end Results

end NpHandler
