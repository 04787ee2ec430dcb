import ShadNet.WebApi.LiveDispatch
import Mathlib.Data.Finset.Image
import Mathlib.Data.Finset.Prod

/-!
# Which callbacks the dispatch survives

A node that a callback takes away is lost to the iterator that is at it, and a node that is made
later under the same ids is another. So the loops survive as long as no callback takes away the
node that it is called for or waits for a thread that waits for the loops. Callbacks that register
others keep them going, but the ids run out.
-/

namespace NpWebApiPush.Live

open NpWebApi (PushKind fw400)
open SortedTable

/-! ## What the actions leave -/

def userKey (t : Target) : Int ×ₗ Int := toLex (t.libCtxId, t.titleUserCtxId)

/-- The node under its ids, in a user context of the user. -/
def Tables.Has (s : Tables) (t : Target) (serial : Nat) (userId : Int) : Prop :=
  ∃ u, s.users.find? (userKey t) = some u ∧ u.userId = userId ∧
    ∃ node, (u.callbacks t.kind).find? t.callbackId = some node ∧ node.serial = serial

theorem target_of_find {u : User} {t : Target} {node : Node} (user : u.key = userKey t)
    (found : (u.callbacks t.kind).find? t.callbackId = some node) : u.target t.kind node = t := by
  obtain ⟨-, callback⟩ := find?_eq_some.mp found
  obtain ⟨library, context⟩ := Prod.mk.inj (toLex_inj.mp user)
  rw [User.target, library, context, callback]

theorem mem_positions_iff_has {queue : List PushEventInput} {s : Tables} {p : Position} :
    p ∈ positions queue s ↔ ∃ ev, queue[p.event]? = some ev ∧
      p.target.kind ∈ kinds ev ∧ s.Has p.target p.serial ev.targetUserId := by
  rw [mem_positions]
  constructor
  · rintro ⟨ev, event, u, user, here⟩
    obtain ⟨target, kind, listed, node, there, same⟩ := mem_positions_user.mp here
    have place : p.target = u.target kind node := congrArg Position.target same
    have serial : p.serial = node.serial := congrArg Position.serial same
    rw [place, serial]
    refine ⟨ev, event, listed, u, ?_, target, node, ?_, rfl⟩
    · exact find?_eq_some.mpr ⟨user, rfl⟩
    · exact find?_eq_some.mpr ⟨there, rfl⟩
  · rintro ⟨ev, event, listed, u, user, target, node, there, serial⟩
    obtain ⟨member, key⟩ := find?_eq_some.mp user
    have inside := (find?_eq_some.mp there).1
    refine ⟨ev, event, u, member, mem_positions_user.mpr ⟨target, p.target.kind, listed, node,
      inside, ?_⟩⟩
    rw [target_of_find key there, serial]

variable {sdk : Nat} {s s' : Tables} {t : Target} {serial : Nat} {userId : Int}

/-- A user context that is written back. -/
theorem has_put {ctxId : Int32} {u : User} (u' : User) (found : s.user ctxId = some u)
    (key : u'.key = u.key) (same : u'.userId = u.userId) {more : Nat}
    {within : u'.Within (s.made + more)} :
    (s.put u' more within).Has t serial userId ↔
      if keyOf ctxId = userKey t then u.userId = userId ∧
        ∃ node, (u'.callbacks t.kind).find? t.callbackId = some node ∧ node.serial = serial
      else s.Has t serial userId := by
  have here := (s.user_some found).2
  rw [Tables.Has, Tables.put]
  simp only [find?_assign, key, here]
  split
  · simp [same]
  · rfl

theorem has_user {ctxId : Int32} {u : User} (found : s.user ctxId = some u)
    (here : keyOf ctxId = userKey t) :
    s.Has t serial userId ↔ u.userId = userId ∧
      ∃ node, (u.callbacks t.kind).find? t.callbackId = some node ∧ node.serial = serial := by
  obtain ⟨member, key⟩ := s.user_some found
  have user : s.users.find? (userKey t) = some u :=
    find?_eq_some.mpr ⟨member, key.trans here⟩
  rw [Tables.Has, user]
  simp

/-- What a table of callbacks that is written back leaves there. -/
theorem has_setCallbacks {ctxId : Int32} {u : User} (found : s.user ctxId = some u)
    {kind : PushKind} {table : SortedTable Node.key} {more : Nat}
    {within : (u.setCallbacks kind table).Within (s.made + more)}
    (same : kind = t.kind →
      ((∃ node, table.find? t.callbackId = some node ∧ node.serial = serial) ↔
        ∃ node, (u.callbacks kind).find? t.callbackId = some node ∧ node.serial = serial)) :
    (s.put (u.setCallbacks kind table) more within).Has t serial userId ↔
      s.Has t serial userId := by
  refine (has_put (u.setCallbacks kind table) found rfl rfl).trans ?_
  split
  · next here =>
    rw [has_user found here]
    by_cases other : t.kind = kind
    · have unchanged := same other.symm
      rw [← other] at unchanged ⊢
      simpa [User.setCallbacks] using fun _ => unchanged
    · simp [User.setCallbacks, other]
  · rfl

theorem has_within (there : s.Has t serial userId) : serial < s.made := by
  obtain ⟨u, user, -, node, found, rfl⟩ := there
  exact s.within u (find?_eq_some.mp user).1 t.kind node (find?_eq_some.mp found).1

/-- A new node is none of those that there have been. -/
theorem has_register {ctxId : Int32} {kind : PushKind} {id : Int32} {cb : Callback}
    (old : serial < s.made) :
    (register sdk ctxId kind id cb s).Has t serial userId ↔ s.Has t serial userId := by
  rw [register]
  split
  · rfl
  · next u found =>
    split
    · split
      · next node there =>
        refine has_setCallbacks found (fun _ => ?_)
        rw [find?_assign]
        split
        · next here =>
          have id : id.toInt = t.callbackId := (find?_eq_some.mp there).2.symm.trans here
          rw [← id, there]
          simp
        · rfl
      · next absent =>
        refine has_setCallbacks found (fun _ => ?_)
        rw [find?_assign]
        split
        · next here =>
          have id : id.toInt = t.callbackId := here
          have other : s.made ≠ serial := by omega
          rw [← id, absent]
          simp [other]
        · rfl
    · rfl

theorem has_unregister {ctxId : Int32} {kind : PushKind} {id : Int32} :
    (unregister ctxId kind id s).Has t serial userId ↔ s.Has t serial userId ∧
      ¬((s.user ctxId).isSome ∧ keyOf ctxId = userKey t ∧ kind = t.kind ∧ id.toInt = t.callbackId) := by
  rw [unregister]
  split
  · next missing => simp [missing]
  · next u found =>
    by_cases removed : keyOf ctxId = userKey t ∧ kind = t.kind ∧ id.toInt = t.callbackId
    · obtain ⟨here, rfl, callback⟩ := removed
      refine (has_put (u.setCallbacks t.kind _) found rfl rfl).trans ?_
      simp [User.setCallbacks, find?_erase, found, here, callback]
    · simp only [removed, and_false, not_false_eq_true, and_true]
      by_cases here : keyOf ctxId = userKey t
      · refine has_setCallbacks found (fun same => ?_)
        have other : ¬t.callbackId = id.toInt := fun equal => removed ⟨here, same, equal.symm⟩
        rw [find?_erase, if_neg other]
      · refine (has_put (u.setCallbacks kind _) found rfl rfl).trans ?_
        rw [if_neg here]

theorem has_setRequests {requests : List (Int × Bool) → List (Int × Bool)} {ctxId : Int32} :
    (setRequests requests ctxId s).Has t serial userId ↔ s.Has t serial userId := by
  rw [setRequests]
  split
  · rfl
  · next u found =>
    refine (has_put { u with requests := requests u.requests } found rfl rfl).trans ?_
    split
    · next here => rw [has_user found here]
    · rfl

theorem has_createUserContext {libCtxId id : Int32} {user : Int} :
    (createUserContext libCtxId id user s).Has t serial userId ↔ s.Has t serial userId := by
  rw [createUserContext]
  split
  · rfl
  · next new =>
    have free : s.users.find? (toLex (libCtxId.toInt, id.toInt)) = none := by
      cases found : s.users.find? (toLex (libCtxId.toInt, id.toInt)) with
      | none => rfl
      | some u => simp [found] at new
    rw [Tables.Has, Tables.Has]
    simp only [Tables.put, find?_assign]
    split
    · next here =>
      have absent : s.users.find? (userKey t) = none := by
        rw [← here]
        exact free
      simp [absent]
    · rfl

theorem has_drop {key : Int ×ₗ Int} :
    (s.drop key).Has t serial userId ↔ s.Has t serial userId ∧ key ≠ userKey t := by
  rw [Tables.Has, Tables.Has, Tables.drop]
  simp only [find?_erase]
  split
  · next here => simp [here]
  · next other => simp [Ne.symm other]

/-! ## Which actions take a node away -/

def Removes (s : Tables) (t : Target) : Action → Prop
  | .unregister ctxId kind id =>
    (s.user ctxId).isSome ∧ keyOf ctxId = userKey t ∧ kind = t.kind ∧ id.toInt = t.callbackId
  | .deleteUserContext ctxId =>
    (∃ u, s.user ctxId = some u ∧ u.busy = false) ∧ keyOf ctxId = userKey t
  | _ => False

/-- Another thread is in a call that needs the lock which the dispatcher holds. -/
def Waits (sdk : Nat) (s : Tables) : Action → Prop
  | .deleteRequest ctxId id => fw400 ≤ sdk ∧ ∃ u, s.user ctxId = some u ∧ (id, true) ∈ u.requests
  | .deleteUserContext ctxId => fw400 ≤ sdk ∧ ∃ u, s.user ctxId = some u ∧ u.busy = true
  | _ => False

theorem perform_none {action : Action} : perform sdk action s = none ↔ Waits sdk s action := by
  cases action with
  | deleteRequest ctxId id =>
    simp only [perform, deleteRequest, Waits]
    cases found : s.user ctxId with
    | none => simp
    | some u =>
      by_cases used : (id, true) ∈ u.requests
      · by_cases early : sdk < fw400
        · simp [used, early]
        · have waits : fw400 ≤ sdk := by omega
          simp [used, early, waits]
      · simp [used]
  | deleteUserContext ctxId =>
    simp only [perform, deleteUserContext, Waits]
    cases found : s.user ctxId with
    | none => simp
    | some u =>
      by_cases busy : u.busy = true
      · by_cases early : sdk < fw400
        · simp [busy, early]
        · have waits : fw400 ≤ sdk := by omega
          simp [busy, early, waits]
      · simp [busy]
  | _ => simp [perform, Waits]

theorem perform_has {action : Action} (userId : Int) (done : perform sdk action s = some s')
    (old : serial < s.made) :
    s'.Has t serial userId ↔ s.Has t serial userId ∧ ¬Removes s t action := by
  cases action with
  | register ctxId kind id cb =>
    cases done
    simpa [Removes] using has_register old
  | unregister ctxId kind id =>
    cases done
    exact has_unregister
  | createRequest ctxId id =>
    cases done
    simpa [Removes] using has_setRequests
  | createUserContext libCtxId id user =>
    cases done
    simpa [Removes] using has_createUserContext
  | createFilter libCtxId kind id filter =>
    cases done
    simp [Removes, setFilters, Tables.Has]
  | deleteFilter libCtxId kind id =>
    cases done
    simp [Removes, setFilters, Tables.Has]
  | deleteRequest ctxId id =>
    simp only [perform, deleteRequest] at done
    split at done
    · cases done
      simp [Removes]
    · split_ifs at done
      · cases done
        simp [Removes]
      · cases done
        simpa [Removes] using has_setRequests
  | deleteUserContext ctxId =>
    simp only [perform, deleteUserContext] at done
    split at done
    · next missing =>
      cases done
      simp [Removes, missing]
    · next u found =>
      split_ifs at done with used early
      · cases done
        simp [Removes, found, used]
      · cases done
        rw [has_drop, (s.user_some found).2]
        simp [Removes, found, used]

/-- Nodes are made and nothing is called. -/
structure Grows (s s' : Tables) : Prop where
  made : s.made ≤ s'.made
  calls : s'.calls = s.calls

theorem Grows.refl (s : Tables) : Grows s s := ⟨Nat.le_refl _, rfl⟩

theorem Grows.trans {s'' : Tables} (first : Grows s s') (later : Grows s' s'') : Grows s s'' :=
  ⟨first.made.trans later.made, later.calls.trans first.calls⟩

theorem Grows.put {u : User} {more : Nat} {within : u.Within (s.made + more)} :
    Grows s (s.put u more within) :=
  ⟨Nat.le_add_right _ _, rfl⟩

theorem setRequests_grows {requests : List (Int × Bool) → List (Int × Bool)} {ctxId : Int32} :
    Grows s (setRequests requests ctxId s) := by
  rw [setRequests]
  split
  · exact .refl s
  · exact .put

theorem perform_grows {action : Action} (done : perform sdk action s = some s') :
    Grows s s' := by
  cases action with
  | register ctxId kind id cb =>
    cases done
    rw [register]
    split
    · exact .refl s
    · split
      · split
        · exact .put
        · exact .put
      · exact .refl s
  | unregister ctxId kind id =>
    cases done
    rw [unregister]
    split
    · exact .refl s
    · exact .put
  | createRequest ctxId id =>
    cases done
    exact setRequests_grows
  | createUserContext libCtxId id user =>
    cases done
    rw [createUserContext]
    split
    · exact .refl s
    · exact .put
  | createFilter libCtxId kind id filter =>
    cases done
    exact ⟨Nat.le_refl _, rfl⟩
  | deleteFilter libCtxId kind id =>
    cases done
    exact ⟨Nat.le_refl _, rfl⟩
  | deleteRequest ctxId id =>
    simp only [perform, deleteRequest] at done
    split at done
    · cases done
      exact .refl s
    · split_ifs at done
      · cases done
        exact .refl s
      · cases done
        exact setRequests_grows
  | deleteUserContext ctxId =>
    simp only [perform, deleteUserContext] at done
    split at done
    · cases done
      exact .refl s
    · split_ifs at done
      · cases done
        exact .refl s
      · cases done
        exact ⟨Nat.le_refl _, rfl⟩

theorem performAll_grows {actions : List Action} (done : performAll sdk actions s = some s') :
    Grows s s' := by
  induction actions generalizing s with
  | nil =>
    cases done
    exact .refl _
  | cons action rest ih =>
    obtain ⟨middle, first, later⟩ := Option.bind_eq_some_iff.mp done
    exact (perform_grows first).trans (ih later)

/-- A node that is gone stays gone, since a new one is another. -/
theorem has_of_performAll {actions : List Action} (done : performAll sdk actions s = some s')
    (old : serial < s.made) (there : s'.Has t serial userId) : s.Has t serial userId := by
  induction actions generalizing s with
  | nil =>
    cases done
    exact there
  | cons action rest ih =>
    obtain ⟨middle, first, later⟩ := Option.bind_eq_some_iff.mp done
    have more := (perform_grows first).made
    have before := ih later (by omega)
    exact ((perform_has userId first old).mp before).1

/-- None of the actions takes the node away or waits for another thread. -/
def Careful (sdk : Nat) (t : Target) : List Action → Tables → Prop
  | [], _ => True
  | action :: rest, s =>
    ¬Removes s t action ∧ ¬Waits sdk s action ∧
      ∀ s', perform sdk action s = some s' → Careful sdk t rest s'

theorem careful_iff {actions : List Action} (there : s.Has t serial userId) :
    Careful sdk t actions s ↔
      ∃ s', performAll sdk actions s = some s' ∧ s'.Has t serial userId := by
  induction actions generalizing s with
  | nil => simp [Careful, performAll, there]
  | cons action rest ih =>
    have old : serial < s.made := has_within there
    rw [Careful, ← perform_none]
    cases done : perform sdk action s with
    | none => simp [performAll, done]
    | some middle =>
      have kept := perform_has (t := t) userId done old
      have more := (perform_grows done).made
      simp only [performAll, done, Option.bind_some, reduceCtorEq, not_false_eq_true, true_and,
        Option.some.injEq, forall_eq']
      constructor
      · rintro ⟨stays, careful⟩
        exact (ih (kept.mpr ⟨there, stays⟩)).mp careful
      · rintro ⟨s', later, last⟩
        have here := has_of_performAll later (by omega) last
        exact ⟨(kept.mp here).2, (ih here).mpr ⟨s', later, last⟩⟩

/-! ## Whether the dispatcher survives -/

/-- The nodes of one table have their turns one after the other. -/
theorem positions_apart {queue : List PushEventInput} {p q : Position}
    (first : p ∈ positions queue s) (second : q ∈ positions queue s) (same : p.turn = q.turn) :
    p = q := by
  obtain ⟨event, target⟩ := turn_injective same
  obtain ⟨-, -, -, u, user, -, node, found, serial⟩ := mem_positions_iff_has.mp first
  obtain ⟨-, -, -, v, user', -, node', found', serial'⟩ := mem_positions_iff_has.mp second
  rw [← target, user] at user'
  cases user'
  rw [← target, found] at found'
  cases found'
  obtain ⟨_, _, _⟩ := p
  obtain ⟨_, _, _⟩ := q
  cases event
  cases target
  cases serial.symm.trans serial'
  rfl

def ids : Finset Int := (Finset.range (2 ^ 32)).image fun n : Nat => (n : Int) - 2 ^ 31

theorem mem_ids (id : Int32) : id.toInt ∈ ids := by
  have low := id.le_toInt
  have high := id.toInt_lt
  refine Finset.mem_image.mpr ⟨(id.toInt + 2 ^ 31).toNat, ?_, ?_⟩
  · exact Finset.mem_range.mpr (by omega)
  · omega

/-- Every turn that there can be. -/
def turns (queue : List PushEventInput) : Finset Turn :=
  (Finset.range queue.length ×ˢ ids ×ˢ ids ×ˢ Finset.range 3 ×ˢ ids).image fun turn =>
    toLex (turn.1, toLex (turn.2.1, toLex (turn.2.2.1, toLex turn.2.2.2)))

theorem positions_turns {queue : List PushEventInput} {p : Position}
    (member : p ∈ positions queue s) : p.turn ∈ turns queue := by
  obtain ⟨ev, event, u, user, here⟩ := mem_positions.mp member
  obtain ⟨-, kind, -, node, there, same⟩ := mem_positions_user.mp here
  have target : p.target = u.target kind node := congrArg Position.target same
  have inside : p.event < queue.length := (List.getElem?_eq_some_iff.mp event).1
  have three : rank kind < 3 := by
    cases kind
    · decide
    · decide
    · decide
  refine Finset.mem_image.mpr ⟨(p.event, u.libCtxId.toInt, u.userCtxId.toInt, rank kind,
    node.callbackId.toInt), ?_, ?_⟩
  · simp only [Finset.mem_product, Finset.mem_range]
    exact ⟨inside, mem_ids _, mem_ids _, three, mem_ids _⟩
  · rw [Position.turn, target]
    rfl

section Drain

variable (sdk : Nat) (queue : List PushEventInput) (behave : List Call → List Action)

theorem visit_calls {p : Position} (back : visit sdk queue behave p s = some s') :
    s'.calls = s.calls ++ (callAt queue p s).toList := by
  rw [visit] at back
  split at back
  · next silent =>
    cases back
    rw [silent]
    exact (List.append_nil _).symm
  · next call called =>
    rw [called]
    exact (performAll_grows back).calls

/-- A visit comes back to its place exactly when its callback is careful. -/
theorem visit_returns_iff {p : Position} (member : p ∈ positions queue s) :
    (∃ s', visit sdk queue behave p s = some s' ∧ p ∈ positions queue s') ↔
      ∀ call, callAt queue p s = some call →
        Careful sdk p.target (behave (s.calling call).calls) (s.calling call) := by
  obtain ⟨ev, event, listed, there⟩ := mem_positions_iff_has.mp member
  rw [visit]
  cases called : callAt queue p s with
  | none => simp [member]
  | some call =>
    have before : (s.calling call).Has p.target p.serial ev.targetUserId := there
    simp only [Option.some.injEq, forall_eq', careful_iff before, mem_positions_iff_has]
    constructor
    · rintro ⟨s', back, ev', event', -, after⟩
      have same : ev' = ev := by
        rw [event'] at event
        exact Option.some.inj event
      exact ⟨s', back, same ▸ after⟩
    · rintro ⟨s', back, after⟩
      exact ⟨s', back, ev, event, listed, after⟩

/-- The loops survive what the callbacks do, and a visit calls its callback once if it is due. -/
structure Survives (s : Tables) : Prop where
  walk : (walk sdk queue behave).Survives s
  called : ∀ n p, (Live.walk sdk queue behave).Visits s n p →
    ((Live.walk sdk queue behave).after s (n + 1)).state.calls =
      ((Live.walk sdk queue behave).after s n).state.calls ++
        (callAt queue p ((Live.walk sdk queue behave).after s n).state).toList

/-- The dispatch survives exactly when no callback takes away the node that it is called for or
waits for another thread. -/
theorem drain_survives_iff (s : Tables) :
    Survives sdk queue behave s ↔
      ∀ n p call, (walk sdk queue behave).Visits s n p →
        callAt queue p ((walk sdk queue behave).after s n).state = some call →
          let s' := ((walk sdk queue behave).after s n).state.calling call
          Careful sdk p.target (behave s'.calls) s' := by
  have survives := Walk.survives_iff (w := walk sdk queue behave) (s := s) Position.turn
    (turns queue) (fun _ _ => turn_le_of_le)
    (fun _ _ first _ second => positions_apart first second)
    (fun _ _ => positions_turns)
  constructor
  · intro alive n p call visits called
    have member := (Walk.next_some visits.2).1
    have returns := survives.mp alive.walk n p visits
    exact (visit_returns_iff sdk queue behave member).mp returns call called
  · intro careful
    have returns : ∀ n p, (walk sdk queue behave).Visits s n p →
        ∃ s', visit sdk queue behave p ((walk sdk queue behave).after s n).state = some s' ∧
          p ∈ positions queue s' := by
      intro n p visits
      have member := (Walk.next_some visits.2).1
      exact (visit_returns_iff sdk queue behave member).mpr (fun call => careful n p call visits)
    refine ⟨survives.mpr returns, fun n p visits => ?_⟩
    obtain ⟨s', back, inside⟩ := returns n p visits
    have moved : (walk sdk queue behave).after s (n + 1) =
        ⟨s', .on p, ((walk sdk queue behave).after s n).visited ++ [p]⟩ := by
      rw [Walk.after_succ_visits visits]
      exact Walk.go_held back inside
    rw [moved]
    exact visit_calls sdk queue behave back

end Drain

/-! ### A callback that unregisters itself -/

def oneUser : Tables :=
  createUserContext 1 65537 1
    { libraries := [1]
      within := fun _ member => absurd member List.not_mem_nil }

def oneCallback : Tables :=
  register fw400 65537 .basic 1 { filterId := 1, cbFunc := some 1 }
    (setFilters 1 .basic [(1, createFilter .basic oneType)] oneUser)

/-- The iterator is at the node that the callback erases. -/
theorem unregistering_itself_is_lost : ¬∀ (sdk : Nat) (queue : List PushEventInput)
    (behave : List Call → List Action) (s : Tables), Survives sdk queue behave s := by
  intro survives
  have alive := survives fw400 [{ targetUserId := 1 }] (fun _ => [.unregister 65537 .basic 1])
    oneCallback
  have lost : ((walk fw400 [{ targetUserId := 1 }] (fun _ => [.unregister 65537 .basic 1])).after
      oneCallback 1).place = .lost ⟨0, ⟨1, 65537, .basic, 1⟩, 0⟩ := by
    decide +kernel
  exact alive.walk.held 1 _ lost

end NpWebApiPush.Live
