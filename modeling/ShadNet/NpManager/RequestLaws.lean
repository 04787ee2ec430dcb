import ShadNet.NpManager.Requests

/-!
# What the request table keeps

The count, the ids and the frame hold in every run. Two runs with the same live requests go on alike
until a call reads the result of an aborted request that no call for it has set: what it finds there
is the result of the request that had the slot before, or zero.
-/

namespace NpManager.Requests

open NpHandler Runs

/-! ## One request -/

def Call.reqId : Call → Option Int
  | .check reqId _ | .abort reqId | .look reqId | .read reqId | .delete reqId => some reqId
  | _ => none

/-- What a call returns for the request it finds, and what it leaves of it. -/
def touch (call : Call) (r : NpRequest) : Output × NpRequest :=
  match call with
  | .check _ signedIn =>
    match r.state with
    | .complete => (⟨errorInvalidArgument, none⟩, r.settle errorInvalidArgument)
    | .aborted => (⟨errorAborted, none⟩, r.settle errorAborted)
    | _ =>
      let done := completeRequest (if signedIn then orbisOk else signedOut) r
      (⟨done.1, none⟩, done.2)
  | .abort _ =>
    (⟨orbisOk, none⟩, if r.state = .complete then r else { r with state := .aborted })
  | .read _ =>
    (if r.async = false ∨ r.state = .ready then ⟨errorInvalidId, none⟩
      else ⟨orbisOk, some r.result⟩, r)
  | .delete _ => (⟨orbisOk, none⟩, { r with state := .none })
  | _ => (⟨orbisOk, none⟩, r)

def touched (call : Call) (index : Nat) (r : NpRequest) (s : State) : State :=
  { activeRequests :=
      if (touch call r).2.live then s.activeRequests else s.activeRequests - 1
    requests := s.requests.set index (touch call r).2 }

def missingCode : Call → Int
  | .check reqId _ => if reqId = 0 then errorInvalidArgument else errorRequestNotFound
  | _ => errorRequestNotFound

section

variable {s t : State} {call : Call} {reqId : Int} {index : Nat} {r : NpRequest}

theorem perform_missing (named : call.reqId = some reqId) (missing : s.find reqId = none) :
    perform call s = (⟨missingCode call, none⟩, s) := by
  cases call with
  | refused code => contradiction
  | create async => contradiction
  | check id signedIn =>
    cases named
    simp only [perform, checkRequest, missing, missingCode]
    split <;> rfl
  | abort id =>
    cases named
    simp only [perform, abortRequest, missing, missingCode]
  | look id =>
    cases named
    simp only [perform, lookAt, missing, missingCode]
  | read id =>
    cases named
    simp only [perform, readResult, missing, missingCode]
  | delete id =>
    cases named
    simp only [perform, deleteRequest, missing, missingCode]

theorem find_some (found : s.find reqId = some (index, r)) :
    reqId = idOf index ∧ s.requests[index]? = some r ∧ r.live = true := by
  simp only [State.find] at found
  split at found
  · contradiction
  · next within =>
    split at found
    · contradiction
    · next old at_index =>
      split at found
      · next live =>
        injection found with found
        injection found with same_index same
        subst same
        subst same_index
        refine ⟨?_, at_index, live⟩
        rw [idOf]
        omega
      · contradiction

theorem set_self (at_index : s.requests[index]? = some r) :
    s.requests.set index r = s.requests := by
  obtain ⟨inside, rfl⟩ := List.getElem?_eq_some_iff.mp at_index
  exact List.set_getElem_self inside

theorem perform_found (named : call.reqId = some reqId)
    (found : s.find reqId = some (index, r)) :
    perform call s = ((touch call r).1, touched call index r s) := by
  obtain ⟨rfl, at_index, live⟩ := find_some found
  have positive : idOf index ≠ 0 := by
    rw [idOf, requestIdOffset]
    omega
  have same := set_self at_index
  cases call with
  | refused code => contradiction
  | create async => contradiction
  | check id signedIn =>
    cases named
    simp only [perform, checkRequest, if_neg positive, found]
    obtain ⟨state, async, result, settled⟩ := r
    cases state with
    | none => simp [NpRequest.live] at live
    | ready => simp [touched, touch, completeRequest, State.put, NpRequest.live]
    | aborted => simp [touched, touch, State.put, NpRequest.live, NpRequest.settle]
    | complete => simp [touched, touch, State.put, NpRequest.live, NpRequest.settle]
  | abort id =>
    cases named
    simp only [perform, abortRequest, found, touched, touch]
    by_cases complete : r.state = .complete
    · simp [complete, live, same]
    · simp [complete, State.put, NpRequest.live]
  | look id =>
    cases named
    simp [perform, lookAt, found, touched, touch, live, same]
  | read id =>
    cases named
    simp only [perform, readResult, found, touched, touch, live, if_true, same]
    split <;> rfl
  | delete id =>
    cases named
    simp [perform, deleteRequest, found, touched, touch, State.put, NpRequest.live]

/-- The three shapes of a call. -/
theorem call_cases (call : Call) :
    (∃ code, call = .refused code) ∨ (∃ async, call = .create async) ∨
      ∃ reqId, call.reqId = some reqId := by
  cases call with
  | refused code => exact Or.inl ⟨code, rfl⟩
  | create async => exact Or.inr (Or.inl ⟨async, rfl⟩)
  | check id signedIn => exact Or.inr (Or.inr ⟨id, rfl⟩)
  | abort id => exact Or.inr (Or.inr ⟨id, rfl⟩)
  | look id => exact Or.inr (Or.inr ⟨id, rfl⟩)
  | read id => exact Or.inr (Or.inr ⟨id, rfl⟩)
  | delete id => exact Or.inr (Or.inr ⟨id, rfl⟩)

theorem new_live (async : Bool) (old : Option NpRequest) :
    (NpRequest.new async old).live = true := by
  cases old <;> rfl

/-- Only a delete takes the request out of its slot. -/
theorem touch_live (live : r.live = true) :
    (touch call r).2.live = true ↔ ∀ id, call ≠ .delete id := by
  cases call with
  | delete id => simp [touch, NpRequest.live]
  | check id signedIn =>
    simp only [touch]
    cases state : r.state <;> simp_all [NpRequest.live, NpRequest.settle, completeRequest]
  | abort id =>
    by_cases complete : r.state = .complete
    · simp [touch, complete, live]
    · simp [touch, complete, NpRequest.live]
  | refused code => simp [touch, live]
  | create async => simp [touch, live]
  | look id => simp [touch, live]
  | read id => simp [touch, live]

/-! ## Views -/

theorem view_isSome :
    (s.view index).isSome = SlotTable.occupied NpRequest.live s.requests index := by
  simp only [State.view, SlotTable.occupied]
  cases s.requests[index]? with
  | none => rfl
  | some r =>
    simp only [NpRequest.view, Option.any_some]
    split
    · next live => simp [live]
    · next dead => simpa using dead

theorem view_of_live (at_index : s.requests[index]? = some r) (live : r.live = true) :
    s.view index = some ⟨r.state, r.async, if r.settled then some r.result else none⟩ := by
  simp only [State.view, at_index, NpRequest.view, live, if_true]

theorem exists_of_view {v : View} (seen : s.view index = some v) :
    ∃ r, s.requests[index]? = some r ∧ r.live = true := by
  have occupied : SlotTable.occupied NpRequest.live s.requests index = true := by
    rw [← view_isSome, seen]
    rfl
  rw [SlotTable.occupied, Option.any_eq_true] at occupied
  exact occupied

/-- The table as a call leaves it, slot by slot. -/
theorem view_touched (at_index : s.requests[index]? = some r) (i : Nat) :
    (touched call index r s).view i =
      if i = index then (touch call r).2.view else s.view i := by
  obtain ⟨inside, -⟩ := List.getElem?_eq_some_iff.mp at_index
  simp only [State.view, touched, List.getElem?_set]
  by_cases own : i = index
  · simp [own, inside]
  · simp [own, Ne.symm own]

theorem view_created (async : Bool) (count : Nat) (i : Nat) :
    (State.view ⟨count, SlotTable.occupy NpRequest.live (NpRequest.new async) s.requests⟩ i) =
      if i = s.freeIndex then some ⟨.ready, async, none⟩ else s.view i := by
  simp only [State.view, SlotTable.getElem?_occupy]
  by_cases own : i = s.freeIndex
  · have new : i = SlotTable.free NpRequest.live s.requests := own
    rw [if_pos own, if_pos new]
    cases s.requests[i]? <;> rfl
  · have other : ¬i = SlotTable.free NpRequest.live s.requests := own
    rw [if_neg own, if_neg other]

theorem created (async : Bool) (room : s.activeRequests ≠ requestLimit) :
    perform (.create async) s =
      (⟨idOf s.freeIndex, none⟩,
        ⟨s.activeRequests + 1,
          SlotTable.occupy NpRequest.live (NpRequest.new async) s.requests⟩) := by
  simp only [perform, createNpRequest, if_neg room]

theorem not_created (async : Bool) (full : s.activeRequests = requestLimit) :
    perform (.create async) s = (⟨errorRequestMax, none⟩, s) := by
  simp only [perform, createNpRequest, if_pos full]

/-! ## The count -/

theorem wellCounted_step (call : Call) (counted : WellCounted s) : WellCounted (step call s) := by
  obtain ⟨count, limit⟩ := counted
  obtain ⟨code, rfl⟩ | ⟨async, rfl⟩ | ⟨reqId, named⟩ := call_cases call
  · exact ⟨count, limit⟩
  · by_cases full : s.activeRequests = requestLimit
    · rw [step, not_created async full]
      exact ⟨count, limit⟩
    · rw [step, created async full]
      refine ⟨?_, by simp only; omega⟩
      simp only [SlotTable.countP_occupy (new_live async), count]
  · cases found : s.find reqId with
    | none =>
      rw [step, perform_missing named found]
      exact ⟨count, limit⟩
    | some slot =>
      obtain ⟨index, r⟩ := slot
      obtain ⟨-, at_index, live⟩ := find_some found
      rw [step, perform_found named found]
      by_cases stays : (touch call r).2.live = true
      · refine ⟨?_, by simpa only [touched, stays, if_true] using limit⟩
        simp only [touched, stays, if_true, count]
        exact (SlotTable.countP_set_used at_index live stays).symm
      · have leaves : (touch call r).2.live = false := by simpa using stays
        refine ⟨?_, ?_⟩
        · simp only [touched, leaves, count]
          exact (SlotTable.countP_set_unused at_index live leaves).symm
        · simp only [touched, leaves]
          exact Nat.le_trans (Nat.sub_le _ _) limit

/-- In a table that is well counted the lookup finds every live request. -/
theorem find_live (counted : WellCounted s) (at_index : s.requests[index]? = some r)
    (live : r.live = true) : s.find (idOf index) = some (index, r) := by
  have some_live : 0 < s.requests.countP NpRequest.live :=
    List.countP_pos_iff.mpr ⟨r, List.mem_of_getElem? at_index, live⟩
  have here : idOf index - requestIdOffset - 1 = (index : Int) := by
    rw [idOf]
    omega
  have active : s.activeRequests ≠ 0 := by
    rw [counted.counted]
    omega
  have within : ¬(s.activeRequests = 0 ∨ (index : Int) < 0) := by omega
  simp only [State.find, here, if_neg within, Int.toNat_natCast, at_index, live, if_true]

/-! ## The frame -/

theorem ownSlotOnly (call : Call) (s : State) : OwnSlotOnly call s := by
  intro i other
  obtain ⟨code, rfl⟩ | ⟨async, rfl⟩ | ⟨reqId, named⟩ := call_cases call
  · rfl
  · by_cases full : s.activeRequests = requestLimit
    · rw [step, not_created async full]
    · have elsewhere : i ≠ SlotTable.free NpRequest.live s.requests := by
        intro same
        exact other (congrArg some same.symm)
      rw [step, created async full]
      simp only [SlotTable.getElem?_occupy, if_neg elsewhere]
  · cases found : s.find reqId with
    | none => rw [step, perform_missing named found]
    | some slot =>
      obtain ⟨index, r⟩ := slot
      obtain ⟨rfl, -, -⟩ := find_some found
      have same : call.index s = some index := by
        have here : idOf index - requestIdOffset - 1 = (index : Int) := by
          rw [idOf]
          omega
        cases call <;> cases named <;> simp [Call.index, here]
      have elsewhere : index ≠ i := by
        rintro rfl
        exact other same
      rw [step, perform_found named found]
      simp only [touched, List.getElem?_set_ne elsewhere]

/-! ## The ids -/

theorem idOf_inj {i j : Nat} : idOf i = idOf j ↔ i = j := by
  rw [idOf, idOf]
  omega

theorem idOf_pos (index : Nat) : 0 < idOf index := by
  rw [idOf, requestIdOffset]
  omega

theorem missingCode_ne (call : Call) : missingCode call ≠ orbisOk := by
  have argument : errorInvalidArgument ≠ orbisOk := by decide
  have notFound : errorRequestNotFound ≠ orbisOk := by decide
  cases call <;> simp only [missingCode]
  case check =>
    split
    · exact argument
    · exact notFound
  all_goals exact notFound

variable {ids : List Int}

theorem distinct_created (known : DistinctIds ids s) (async : Bool) (count : Nat) :
    DistinctIds (ids ++ [idOf s.freeIndex])
      ⟨count, SlotTable.occupy NpRequest.live (NpRequest.new async) s.requests⟩ := by
  have fresh : idOf s.freeIndex ∉ ids := by
    intro member
    have occupied := (known.live s.freeIndex).mp member
    rw [view_isSome, State.freeIndex, SlotTable.free_not_occupied] at occupied
    contradiction
  constructor
  · exact List.nodup_append.mpr ⟨known.distinct, by simp, fun a first b second => by
      rw [List.mem_singleton] at second
      rintro rfl
      exact fresh (second ▸ first)⟩
  · intro i
    rw [List.mem_append, List.mem_singleton, known.live i, view_created, idOf_inj]
    by_cases own : i = s.freeIndex
    · simp [own]
    · simp [own]
  · intro id member
    rcases List.mem_append.mp member with old | new
    · exact known.ofSlot id old
    · exact ⟨s.freeIndex, List.mem_singleton.mp new⟩

theorem distinct_touched (known : DistinctIds ids s) (at_index : s.requests[index]? = some r)
    (live : r.live = true) (stays : (touch call r).2.live = true) :
    DistinctIds ids (touched call index r s) := by
  refine ⟨known.distinct, fun i => ?_, known.ofSlot⟩
  rw [known.live i, view_touched at_index]
  by_cases own : i = index
  · rw [if_pos own, own, view_of_live at_index live, NpRequest.view, if_pos stays]
    simp
  · rw [if_neg own]

theorem distinct_deleted (known : DistinctIds ids s) (at_index : s.requests[index]? = some r)
    (leaves : (touch call r).2.live = false) :
    DistinctIds (ids.erase (idOf index)) (touched call index r s) := by
  refine ⟨known.distinct.erase _, fun i => ?_, fun id member => ?_⟩
  · rw [known.distinct.mem_erase_iff, known.live i, view_touched at_index, ne_eq, idOf_inj]
    by_cases own : i = index
    · rw [if_pos own, NpRequest.view, leaves]
      simp [own]
    · simp [own]
  · exact known.ofSlot id (List.mem_of_mem_erase member)

theorem distinctIds_step (call : Call) (known : DistinctIds ids s) :
    DistinctIds (heldAfter call (output call s) ids) (step call s) := by
  obtain ⟨code, rfl⟩ | ⟨async, rfl⟩ | ⟨reqId, named⟩ := call_cases call
  · exact known
  · by_cases full : s.activeRequests = requestLimit
    · rw [output, step, not_created async full]
      exact known
    · have new := idOf_pos s.freeIndex
      rw [output, step, created async full, heldAfter, if_pos new]
      exact distinct_created known async _
  · cases found : s.find reqId with
    | none =>
      have failed := missingCode_ne call
      rw [output, step, perform_missing named found]
      cases call <;> simp only [heldAfter, if_neg failed, known]
      contradiction
    | some slot =>
      obtain ⟨index, r⟩ := slot
      obtain ⟨rfl, at_index, live⟩ := find_some found
      rw [output, step, perform_found named found]
      by_cases stays : (touch call r).2.live = true
      · have kept : heldAfter call (touch call r).1 ids = ids := by
          have other := (touch_live live).mp stays
          cases call with
          | delete id => exact absurd rfl (other id)
          | create async => contradiction
          | refused code => rfl
          | check id signedIn => rfl
          | abort id => rfl
          | look id => rfl
          | read id => rfl
        rw [kept]
        exact distinct_touched known at_index live stays
      · have leaves : (touch call r).2.live = false := by simpa using stays
        have deletes : call = .delete (idOf index) := by
          have removed := mt (touch_live live).mpr stays
          cases call <;> simp_all [Call.reqId]
        have erased : heldAfter call (touch call r).1 ids = ids.erase (idOf index) := by
          rw [deletes]
          rfl
        rw [erased]
        exact distinct_deleted known at_index leaves

/-! ## Requests that are complete -/

/-- A complete request has its result from a call for it. -/
def CompleteSettled (s : State) : Prop :=
  ∀ r ∈ s.requests, r.state = .complete → r.settled = true

theorem touch_settled (settled : r.state = .complete → r.settled = true) :
    (touch call r).2.state = .complete → (touch call r).2.settled = true := by
  cases call with
  | check id signedIn =>
    obtain ⟨state, async, result, done⟩ := r
    cases state <;> simp [touch, completeRequest, NpRequest.settle]
  | abort id =>
    by_cases complete : r.state = .complete
    · simp [touch, complete, settled complete]
    · simp [touch, complete]
  | delete id => simp [touch]
  | refused code => exact settled
  | create async => exact settled
  | look id => exact settled
  | read id => exact settled

theorem completeSettled_step (call : Call) (settled : CompleteSettled s) :
    CompleteSettled (step call s) := by
  obtain ⟨code, rfl⟩ | ⟨async, rfl⟩ | ⟨reqId, named⟩ := call_cases call
  · exact settled
  · by_cases full : s.activeRequests = requestLimit
    · rw [step, not_created async full]
      exact settled
    · rw [step, created async full]
      intro r member
      obtain ⟨i, at_i⟩ := List.mem_iff_getElem?.mp member
      simp only [SlotTable.getElem?_occupy] at at_i
      split at at_i
      · injection at_i with at_i
        rw [← at_i]
        cases s.requests[i]? <;> simp [NpRequest.new]
      · exact settled r (List.mem_of_getElem? at_i)
  · cases found : s.find reqId with
    | none =>
      rw [step, perform_missing named found]
      exact settled
    | some slot =>
      obtain ⟨index, r⟩ := slot
      obtain ⟨-, at_index, -⟩ := find_some found
      rw [step, perform_found named found]
      intro other member
      rcases List.mem_or_eq_of_mem_set member with old | new
      · exact settled other old
      · rw [new]
        exact touch_settled (settled r (List.mem_of_getElem? at_index))

end

end NpManager.Requests
