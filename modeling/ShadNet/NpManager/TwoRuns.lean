import Mathlib.Data.List.Induction
import ShadNet.NpManager.RequestLaws

/-!
# Runs with the same live requests

A call that does not read a result from before its request returns the same in both. One that does
returns something else in a run that differs in one request: made and checked in the slot before,
and deleted.
-/

namespace NpManager.Requests

open NpHandler Runs

variable {s t : State} {call : Call} {reqId : Int} {index : Nat} {r r' : NpRequest}

/-! ## Sufficiency -/

/-- Requests that look alike differ in a result that nothing has set, at most. -/
theorem view_eq (live : r.live = true) (same : r.view = r'.view) :
    ∃ v, r' = { r with result := v } ∧ (r.settled = true → v = r.result) := by
  have live' : r'.live = true := by
    by_contra dead
    rw [NpRequest.view, NpRequest.view, if_pos live, if_neg dead] at same
    contradiction
  rw [NpRequest.view, NpRequest.view, if_pos live, if_pos live'] at same
  injection same with same
  injection same with state async result
  obtain ⟨state₁, async₁, result₁, settled₁⟩ := r
  obtain ⟨state₂, async₂, result₂, settled₂⟩ := r'
  simp only at state async result
  subst state
  subst async
  refine ⟨result₂, ?_, ?_⟩
  · cases settled₁ <;> cases settled₂ <;> simp_all
  · intro settled
    cases settled₂ <;> simp_all

theorem touch_output (live : r.live = true) (same : r.view = r'.view)
    (complete : r.state = .complete → r.settled = true)
    (own : ∀ id, call = .read id → r.async = true → r.state = .aborted → r.settled = true) :
    (touch call r).1 = (touch call r').1 := by
  obtain ⟨v, rfl, result⟩ := view_eq live same
  cases call with
  | read id =>
    have mine := own id rfl
    obtain ⟨state, async, old, settled⟩ := r
    cases state <;> cases async <;> simp_all [touch, NpRequest.live]
  | check id signedIn =>
    obtain ⟨state, async, old, settled⟩ := r
    cases state <;> rfl
  | refused code => rfl
  | create async => rfl
  | abort id => rfl
  | look id => rfl
  | delete id => rfl

theorem SameLive.occupied (same : SameLive s t) (i : Nat) :
    SlotTable.occupied NpRequest.live s.requests i =
      SlotTable.occupied NpRequest.live t.requests i := by
  rw [← view_isSome, ← view_isSome, same i]

theorem SameLive.freeIndex (same : SameLive s t) : s.freeIndex = t.freeIndex :=
  SlotTable.free_congr same.occupied

theorem SameLive.active (same : SameLive s t) (counted : WellCounted s) (counted' : WellCounted t) :
    s.activeRequests = t.activeRequests := by
  rw [counted.counted, counted'.counted, SlotTable.countP_congr same.occupied]

theorem SameLive.find_some (same : SameLive s t) (counted' : WellCounted t)
    (found : s.find reqId = some (index, r)) :
    ∃ r', t.find reqId = some (index, r') ∧ r.view = r'.view := by
  obtain ⟨rfl, at_index, live⟩ := Requests.find_some found
  have seen := same index
  rw [view_of_live at_index live] at seen
  obtain ⟨r', at_index', live'⟩ := exists_of_view seen.symm
  refine ⟨r', find_live counted' at_index' live', ?_⟩
  rw [view_of_live at_index' live'] at seen
  rw [NpRequest.view, NpRequest.view, if_pos live, if_pos live', seen]

theorem SameLive.symm (same : SameLive s t) : SameLive t s := fun i => (same i).symm

theorem SameLive.find_none (same : SameLive s t) (counted : WellCounted s)
    (missing : s.find reqId = none) : t.find reqId = none := by
  cases found : t.find reqId with
  | none => rfl
  | some slot =>
    obtain ⟨index, r⟩ := slot
    obtain ⟨r', found', -⟩ := same.symm.find_some counted found
    rw [missing] at found'
    contradiction

theorem output_congr (same : SameLive s t) (counted : WellCounted s) (counted' : WellCounted t)
    (settled : CompleteSettled s) (own : OwnResult call s) : output call t = output call s := by
  obtain ⟨code, rfl⟩ | ⟨async, rfl⟩ | ⟨reqId, named⟩ := call_cases call
  · rfl
  · have active := same.active counted counted'
    by_cases full : s.activeRequests = requestLimit
    · rw [output, output, not_created async full, not_created async (active ▸ full)]
    · rw [output, output, created async full, created async (active ▸ full), same.freeIndex]
  · cases found : s.find reqId with
    | none =>
      rw [output, output, perform_missing named found,
        perform_missing named (same.find_none counted found)]
    | some slot =>
      obtain ⟨index, r⟩ := slot
      obtain ⟨r', found', alike⟩ := same.find_some counted' found
      obtain ⟨-, at_index, live⟩ := Requests.find_some found
      rw [output, output, perform_found named found, perform_found named found']
      refine (touch_output live alike (settled r (List.mem_of_getElem? at_index)) ?_).symm
      intro id reads async aborted
      have same_id : id = reqId := by
        rw [reads] at named
        injection named
      exact own id index r reads (same_id ▸ found) async aborted

/-! ## What is left in a slot -/

/-- The same table with another result in a slot. -/
def State.leave (index : Nat) (v : Int) (s : State) : State :=
  { s with requests := s.requests.modify index ({ · with result := v }) }

theorem leave_get (v : Int) (i : Nat) :
    (s.leave index v).requests[i]? =
      (s.requests[i]?).map fun r => if i = index then { r with result := v } else r := by
  rw [State.leave, List.getElem?_modify]
  by_cases own : i = index
  · simp [own]
  · simp [own, Ne.symm own]

theorem leave_find (v : Int) (reqId : Int) :
    (s.leave index v).find reqId =
      (s.find reqId).map fun slot =>
        (slot.1, if slot.1 = index then { slot.2 with result := v } else slot.2) := by
  simp only [State.find, leave_get]
  generalize (reqId - requestIdOffset - 1).toNat = at_id
  by_cases outside : s.activeRequests = 0 ∨ reqId - requestIdOffset - 1 < 0
  · have outside' : (s.leave index v).activeRequests = 0 ∨ reqId - requestIdOffset - 1 < 0 :=
      outside
    rw [if_pos outside, if_pos outside', Option.map_none]
  · have within' : ¬((s.leave index v).activeRequests = 0 ∨ reqId - requestIdOffset - 1 < 0) :=
      outside
    rw [if_neg outside, if_neg within']
    cases s.requests[at_id]? with
    | none => rfl
    | some r =>
      by_cases own : at_id = index
      · simp only [Option.map_some, own, if_true, NpRequest.live]
        split <;> simp
      · simp only [Option.map_some, own, if_false]
        split <;> simp [own]

theorem leave_sameLive (at_index : s.requests[index]? = some r) (unsettled : r.settled = false)
    (v : Int) : SameLive (s.leave index v) s := by
  intro i
  rw [State.view, State.view, leave_get]
  by_cases own : i = index
  · rw [own, at_index]
    simp [NpRequest.view, NpRequest.live, unsettled]
  · simp only [own, if_false, Option.map_id']

/-- A request stays unsettled where the call does not settle it, so the call does not look at the
result either. -/
theorem touch_leave (unsettled : (touch call r).2.settled = false) (v : Int) :
    (touch call { r with result := v }).2 = { (touch call r).2 with result := v } := by
  obtain ⟨state, async, result, settled⟩ := r
  cases call with
  | check id signedIn =>
    cases state <;> simp [touch, NpRequest.settle, completeRequest] at unsettled
  | abort id => cases state <;> rfl
  | refused code => rfl
  | create async => rfl
  | look id => rfl
  | read id => rfl
  | delete id => rfl

theorem touch_unsettled (unsettled : (touch call r).2.settled = false) : r.settled = false := by
  obtain ⟨state, async, result, settled⟩ := r
  cases call with
  | check id signedIn =>
    cases state <;> simp [touch, NpRequest.settle, completeRequest] at unsettled
  | abort id => cases state <;> exact unsettled
  | refused code => exact unsettled
  | create async => exact unsettled
  | look id => exact unsettled
  | read id => exact unsettled
  | delete id => exact unsettled

theorem leave_freeIndex (v : Int) : (s.leave index v).freeIndex = s.freeIndex := by
  apply SlotTable.free_congr
  intro i
  rw [SlotTable.occupied, SlotTable.occupied, leave_get]
  cases s.requests[i]? with
  | none => rfl
  | some r =>
    by_cases own : i = index
    · simp [own, NpRequest.live]
    · simp [own]

theorem get_created (async : Bool) (room : s.activeRequests ≠ requestLimit) (i : Nat) :
    (step (.create async) s).requests[i]? =
      if i = s.freeIndex then some (NpRequest.new async s.requests[i]?) else s.requests[i]? := by
  rw [step, created async room]
  exact SlotTable.getElem?_occupy _ i

theorem get_touched (at_index : s.requests[index]? = some r) (i : Nat) :
    (touched call index r s).requests[i]? =
      if i = index then some (touch call r).2 else s.requests[i]? := by
  obtain ⟨inside, -⟩ := List.getElem?_eq_some_iff.mp at_index
  simp only [touched, List.getElem?_set]
  by_cases own : i = index
  · simp [own, inside]
  · simp [own, Ne.symm own]

theorem state_ext (active : s.activeRequests = t.activeRequests)
    (slots : ∀ i : Nat, s.requests[i]? = t.requests[i]?) : s = t := by
  obtain ⟨count, requests⟩ := s
  obtain ⟨count', requests'⟩ := t
  have same : requests = requests' := List.ext_getElem? slots
  rw [same]
  exact congrArg (State.mk · requests') active

/-- An unsettled request that is there behind a call was there before, or was made by it. -/
theorem unsettled_before (at_index : (step call s).requests[index]? = some r)
    (live : r.live = true) (unsettled : r.settled = false) :
    (∃ r₀, s.requests[index]? = some r₀ ∧ r₀.live = true ∧ r₀.settled = false) ∨
      ∃ async, call = .create async ∧ s.activeRequests ≠ requestLimit ∧ index = s.freeIndex := by
  obtain ⟨code, rfl⟩ | ⟨async, rfl⟩ | ⟨reqId, named⟩ := call_cases call
  · exact Or.inl ⟨r, at_index, live, unsettled⟩
  · by_cases full : s.activeRequests = requestLimit
    · rw [step, not_created async full] at at_index
      exact Or.inl ⟨r, at_index, live, unsettled⟩
    · by_cases own : index = s.freeIndex
      · exact Or.inr ⟨async, rfl, full, own⟩
      · rw [get_created async full, if_neg own] at at_index
        exact Or.inl ⟨r, at_index, live, unsettled⟩
  · left
    cases found : s.find reqId with
    | none =>
      rw [step, perform_missing named found] at at_index
      exact ⟨r, at_index, live, unsettled⟩
    | some slot =>
      obtain ⟨i, r₀⟩ := slot
      obtain ⟨-, at_i, live₀⟩ := Requests.find_some found
      rw [step, perform_found named found] at at_index
      simp only [get_touched at_i] at at_index
      by_cases own : index = i
      · rw [if_pos own] at at_index
        injection at_index with at_index
        exact ⟨r₀, own ▸ at_i, live₀, touch_unsettled (at_index ▸ unsettled)⟩
      · rw [if_neg own] at at_index
        exact ⟨r, at_index, live, unsettled⟩

/-- What was left in a slot stays there as long as no call settles the request. -/
theorem leave_step {r₀ : NpRequest} (before : s.requests[index]? = some r₀)
    (live : r₀.live = true) (at_index : (step call s).requests[index]? = some r)
    (unsettled : r.settled = false) (v : Int) :
    step call (s.leave index v) = (step call s).leave index v := by
  obtain ⟨code, rfl⟩ | ⟨async, rfl⟩ | ⟨reqId, named⟩ := call_cases call
  · rfl
  · by_cases full : s.activeRequests = requestLimit
    · have full' : (s.leave index v).activeRequests = requestLimit := full
      rw [step, step, not_created async full, not_created async full']
    · have other : index ≠ s.freeIndex := by
        apply SlotTable.ne_free_of_occupied
        simp [SlotTable.occupied, before, live]
      have full' : (s.leave index v).activeRequests ≠ requestLimit := full
      apply state_ext
      · rw [step, created async full']
        change s.activeRequests + 1 = (step (.create async) s).activeRequests
        rw [step, created async full]
      · intro i
        simp only [get_created async full', leave_get, get_created async full, leave_freeIndex]
        by_cases new : i = s.freeIndex
        · have elsewhere : s.freeIndex ≠ index := other.symm
          simp [new, elsewhere]
        · simp [new]
  · cases found : s.find reqId with
    | none =>
      have missing : (s.leave index v).find reqId = none := by rw [leave_find, found]; rfl
      rw [step, step, perform_missing named found, perform_missing named missing]
    | some slot =>
      obtain ⟨i, r₁⟩ := slot
      obtain ⟨-, at_i, -⟩ := Requests.find_some found
      rw [step, perform_found named found] at at_index
      simp only [get_touched at_i] at at_index
      by_cases own : i = index
      · subst own
        rw [if_pos rfl] at at_index
        injection at_index with at_index
        have found' : (s.leave i v).find reqId = some (i, { r₁ with result := v }) := by
          rw [leave_find, found]
          simp
        have same := touch_leave (at_index ▸ unsettled : (touch call r₁).2.settled = false) v
        have at_i' := (Requests.find_some found').2.1
        rw [step, step, perform_found named found, perform_found named found']
        apply state_ext
        · simp only [touched, same, NpRequest.live, State.leave]
          rfl
        · intro j
          simp only [leave_get, get_touched at_i, get_touched at_i', same]
          by_cases here : j = i
          · simp [here]
          · simp [here]
      · have found' : (s.leave index v).find reqId = some (i, r₁) := by
          rw [leave_find, found]
          simp [own]
        have at_i' := (Requests.find_some found').2.1
        rw [step, step, perform_found named found, perform_found named found']
        apply state_ext
        · rfl
        · intro j
          simp only [leave_get, get_touched at_i, get_touched at_i']
          by_cases here : j = i
          · simp [here, own]
          · simp [here]

/-! ## The request before -/

theorem after_append (calls more : List Call) :
    after (calls ++ more) = run step more (after calls) := by
  rw [after, after, run_append]

theorem wellCounted_run (calls : List Call) (counted : WellCounted s) :
    WellCounted (run step calls s) := by
  induction calls generalizing s with
  | nil => exact counted
  | cons call rest ih => exact ih (wellCounted_step call counted)

theorem wellCounted_after (calls : List Call) : WellCounted (after calls) :=
  wellCounted_run calls ⟨rfl, Nat.zero_le _⟩

theorem completeSettled_after (calls : List Call) : CompleteSettled (after calls) := by
  have kept : ∀ {s : State}, CompleteSettled s → CompleteSettled (run step calls s) := by
    induction calls with
    | nil => exact fun settled => settled
    | cons call rest ih => exact fun settled => ih (completeSettled_step call settled)
  exact kept fun r member => nomatch member

/-- A request made, checked and deleted in the slot that the next one takes. -/
def used (index : Nat) (signedIn : Bool) : List Call :=
  [.create false, .check (idOf index) signedIn, .delete (idOf index)]

def checkResult (signedIn : Bool) : Int := if signedIn then orbisOk else signedOut

theorem step_live (call : Call) (counted : WellCounted s) (at_index : s.requests[index]? = some r)
    (live : r.live = true) (named : call.reqId = some (idOf index)) :
    step call s = touched call index r s := by
  rw [step, perform_found named (find_live counted at_index live)]

theorem run_used (counted : WellCounted s) (room : s.activeRequests ≠ requestLimit)
    (signedIn : Bool) :
    (run step (used s.freeIndex signedIn) s).activeRequests = s.activeRequests ∧
      ∀ i : Nat, (run step (used s.freeIndex signedIn) s).requests[i]? =
        if i = s.freeIndex then some ⟨.none, false, checkResult signedIn, true⟩
        else s.requests[i]? := by
  have made := get_created false room
  have count : (step (.create false) s).activeRequests = s.activeRequests + 1 := by
    rw [step, created false room]
  have counted₁ := wellCounted_step (.create false) counted
  rw [used, run_cons, run_cons, run_cons, run_nil]
  generalize s.freeIndex = index at made ⊢
  generalize step (.create false) s = s₁ at made count counted₁ ⊢
  obtain ⟨old, at_old⟩ : ∃ old, s₁.requests[index]? = some ⟨.ready, false, old, false⟩ := by
    have here := made index
    rw [if_pos rfl] at here
    cases left : s.requests[index]? with
    | none => exact ⟨0, by rw [here, left]; rfl⟩
    | some r => exact ⟨r.result, by rw [here, left]; rfl⟩
  -- The check completes the request, and the delete frees the slot with the result in it.
  have check := step_live (.check (idOf index) signedIn) counted₁ at_old rfl rfl
  have done : (touch (.check (idOf index) signedIn) ⟨.ready, false, old, false⟩).2 =
      ⟨.complete, false, checkResult signedIn, true⟩ := rfl
  have counted₂ := wellCounted_step (.check (idOf index) signedIn) counted₁
  have checked : ∀ i : Nat, (step (.check (idOf index) signedIn) s₁).requests[i]? =
      if i = index then some ⟨.complete, false, checkResult signedIn, true⟩
      else s₁.requests[i]? := by
    intro i
    rw [check, get_touched at_old, done]
  have count₂ : (step (.check (idOf index) signedIn) s₁).activeRequests = s.activeRequests + 1 := by
    rw [check, ← count]
    simp only [touched, done]
    rfl
  generalize step (.check (idOf index) signedIn) s₁ = s₂ at checked count₂ counted₂ ⊢
  have at_done : s₂.requests[index]? = some ⟨.complete, false, checkResult signedIn, true⟩ := by
    rw [checked, if_pos rfl]
  rw [step_live (.delete (idOf index)) counted₂ at_done rfl rfl]
  constructor
  · simp only [touched, count₂]
    rfl
  · intro i
    rw [get_touched at_done]
    by_cases own : i = index
    · rw [if_pos own, if_pos own]
      rfl
    · rw [if_neg own, if_neg own, checked, if_neg own, made, if_neg own]

/-- Behind a request that was made, checked and deleted in its slot, a new request finds the result
of that one. -/
theorem create_used (counted : WellCounted s) (room : s.activeRequests ≠ requestLimit)
    (signedIn async : Bool) :
    run step (used s.freeIndex signedIn ++ [.create async]) s =
      (step (.create async) s).leave s.freeIndex (checkResult signedIn) := by
  obtain ⟨count, slots⟩ := run_used counted room signedIn
  rw [run_append, run_cons, run_nil]
  generalize run step (used s.freeIndex signedIn) s = s' at count slots ⊢
  have same : s'.freeIndex = s.freeIndex := by
    apply SlotTable.free_congr
    intro i
    rw [SlotTable.occupied, slots]
    by_cases own : i = s.freeIndex
    · rw [if_pos own, own]
      exact SlotTable.free_not_occupied.symm
    · rw [if_neg own]
      rfl
  have room' : s'.activeRequests ≠ requestLimit := count ▸ room
  apply state_ext
  · rw [step, created async room']
    change s'.activeRequests + 1 = (step (.create async) s).activeRequests
    rw [step, created async room, count]
  · intro i
    rw [get_created async room', leave_get, get_created async room, same, slots]
    by_cases own : i = s.freeIndex
    · simp only [own, if_true, Option.map_some]
      cases s.requests[s.freeIndex]? <;> rfl
    · simp [own]

/-- A run that differs only in a deleted request, and leaves another result in the slot of a live
request that has none of its own. -/
theorem exists_other_run (signedIn : Bool) (calls : List Call)
    (at_index : (after calls).requests[index]? = some r) (live : r.live = true)
    (unsettled : r.settled = false) :
    ∃ others, after others = (after calls).leave index (checkResult signedIn) := by
  induction calls using List.reverseRecOn generalizing r with
  | nil => contradiction
  | append_singleton first last ih =>
    rw [after_append, run_cons, run_nil] at at_index ⊢
    obtain ⟨r₀, before, live₀, unsettled₀⟩ | ⟨async, rfl, room, rfl⟩ :=
      unsettled_before at_index live unsettled
    · obtain ⟨others, same⟩ := ih before live₀ unsettled₀
      refine ⟨others ++ [last], ?_⟩
      rw [after_append, run_cons, run_nil, same]
      exact leave_step before live₀ at_index unsettled _
    · refine ⟨first ++ (used (after first).freeIndex signedIn ++ [.create async]), ?_⟩
      rw [after_append]
      exact create_used (wellCounted_after first) room signedIn async

/-- Only a read of one's own result is determined by the live requests. -/
theorem own_of_determined (calls : List Call) (determined : Determined call (after calls)) :
    OwnResult call (after calls) := by
  intro reqId index r reads found async aborted
  by_contra foreign
  have unsettled : r.settled = false := by simpa using foreign
  obtain ⟨rfl, at_index, live⟩ := Requests.find_some found
  obtain ⟨signedIn, differs⟩ : ∃ signedIn, checkResult signedIn ≠ r.result := by
    by_cases zero : r.result = orbisOk
    · exact ⟨false, by rw [zero]; decide⟩
    · exact ⟨true, Ne.symm zero⟩
  obtain ⟨others, left⟩ := exists_other_run signedIn calls at_index live unsettled
  have same := determined others (left ▸ leave_sameLive at_index unsettled _)
  have found' : (after others).find (idOf index) =
      some (index, { r with result := checkResult signedIn }) := by
    rw [left, leave_find, found]
    simp
  rw [reads, output, output, perform_found rfl found, perform_found rfl found'] at same
  simp [touch, async, aborted, differs] at same

/-! ## Whole runs -/

theorem determined_iff (calls : List Call) (call : Call) :
    Determined call (after calls) ↔ OwnResult call (after calls) := by
  constructor
  · exact own_of_determined calls
  · intro own others same
    exact output_congr same.symm (wellCounted_after calls) (wellCounted_after others)
      (completeSettled_after calls) own

structure Known (w : Watched) : Prop where
  reached : ∃ calls, w.table = after calls
  ids : DistinctIds w.held w.table

theorem known_step (call : Call) {w : Watched} (known : Known w) : Known (w.step call) := by
  obtain ⟨⟨calls, reached⟩, ids⟩ := known
  refine ⟨⟨calls ++ [call], ?_⟩, distinctIds_step call ids⟩
  rw [after_append, run_cons, run_nil, ← reached]
  rfl

theorem known_start : Known {} := by
  refine ⟨⟨[], rfl⟩, List.nodup_nil, fun i => ?_, fun id member => nomatch member⟩
  simp [State.view]

theorem admitted_watched (calls : List Call) (w : Watched) :
    Admitted Watched.step (fun call w => OwnResult call w.table) calls w ↔
      Admitted step OwnResult calls w.table := by
  induction calls generalizing w with
  | nil => rfl
  | cons call rest ih => exact and_congr_right fun _ => ih (w.step call)

/-- The table is lawful in a run if and only if no call of the run reads the result of an aborted
request that no call for it has set. -/
theorem requests_lawful_iff (calls : List Call) :
    Lawful calls ↔ Admitted step OwnResult calls {} := by
  rw [Lawful, ← admitted_watched calls {}]
  have sees : ∀ w, Known w → WellCounted w.table ∧ DistinctIds w.held w.table := by
    rintro w ⟨⟨calls, reached⟩, ids⟩
    exact ⟨reached ▸ wellCounted_after calls, ids⟩
  have determined : ∀ call w, Known w → (Determined call w.table ↔ OwnResult call w.table) := by
    intro call w known
    obtain ⟨calls, reached⟩ := known.reached
    rw [reached]
    exact determined_iff calls call
  apply throughout_iff_admitted sees _ _ known_start
  · intro call w known own
    exact ⟨known_step call known, ownSlotOnly call w.table, (determined call w known).mpr own⟩
  · intro call w known moved
    exact (determined call w known).mp moved.2

/-- The first request of a run, aborted before anything was checked for it. -/
def abortedFirst : List Call := [.create true, .abort (idOf 0)]

/-- The same behind a request whose check has found its user signed out. -/
def abortedSecond : List Call :=
  [.create true, .check (idOf 0) false, .delete (idOf 0), .create true, .abort (idOf 0)]

theorem deleted_result_is_returned :
    SameLive (after abortedSecond) (after abortedFirst) ∧
      output (.read (idOf 0)) (after abortedFirst) = ⟨orbisOk, some 0⟩ ∧
      output (.read (idOf 0)) (after abortedSecond) = ⟨orbisOk, some signedOut⟩ ∧
      ¬Lawful (abortedFirst ++ [.read (idOf 0)]) := by
  have first : after abortedFirst = ⟨1, [⟨.aborted, true, 0, false⟩]⟩ := by decide +kernel
  have second : after abortedSecond = ⟨1, [⟨.aborted, true, signedOut, false⟩]⟩ := by
    decide +kernel
  have same : SameLive (after abortedSecond) (after abortedFirst) := by
    rw [first, second]
    intro index
    cases index <;> rfl
  have zero : output (.read (idOf 0)) (after abortedFirst) = ⟨orbisOk, some 0⟩ := by
    decide +kernel
  have other : output (.read (idOf 0)) (after abortedSecond) = ⟨orbisOk, some signedOut⟩ := by
    decide +kernel
  refine ⟨same, zero, other, fun lawful => ?_⟩
  have moved := Throughout.moved lawful
  have table : (run Watched.step abortedFirst {}).table = after abortedFirst := rfl
  have alike := moved.2 abortedSecond (table ▸ same)
  rw [table, zero, other] at alike
  exact absurd alike (by decide)

end NpManager.Requests
