import ShadNet.NpManager.StateEvents

/-!
# Every event to every callback

The tables hold the callbacks that the functions have said to be registered, and the last states are
those of the batches taken under the registration of the moment. A batch is due what the law wants
of it from the moment it is taken.
-/

namespace NpManager.StateEvents

open NpHandler Runs Changes

/-! ## The tables -/

theorem mem_targetsFrom {t : Target} {id : Nat} {entries : List CallbackA} :
    t ∈ targetsFrom id entries ↔
      ∃ i e, entries[i]? = some e ∧ e.inUse = true ∧ e.func ≠ 0 ∧
        t = .a (id + i) ⟨e.func, e.userdata⟩ := by
  induction entries generalizing id with
  | nil => simp [targetsFrom]
  | cons entry rest ih =>
    rw [targetsFrom, List.mem_append, ih]
    constructor
    · rintro (here | ⟨i, e, at_i, used, func, same⟩)
      · split at here
        · next used =>
          simp only [Bool.and_eq_true, decide_eq_true_eq] at used
          rw [List.mem_singleton] at here
          exact ⟨0, entry, rfl, used.1, used.2, by simpa using here⟩
        · contradiction
      · exact ⟨i + 1, e, at_i, used, func, by rw [same, Nat.add_right_comm, Nat.add_assoc]⟩
    · rintro ⟨i, e, at_i, used, func, same⟩
      cases i with
      | zero =>
        injection at_i with at_i
        subst at_i
        left
        simp [used, func, same]
      | succ i => exact Or.inr ⟨i, e, at_i, used, func, by rw [same]; congr 1; omega⟩

theorem nodup_targetsFrom (id : Nat) (entries : List CallbackA) :
    (targetsFrom id entries).Nodup := by
  induction entries generalizing id with
  | nil => exact List.nodup_nil
  | cons entry rest ih =>
    rw [targetsFrom]
    split
    · rw [List.singleton_append, List.nodup_cons]
      refine ⟨fun member => ?_, ih (id + 1)⟩
      obtain ⟨i, e, -, -, -, same⟩ := mem_targetsFrom.mp member
      injection same with same
      omega
    · exact ih (id + 1)

/-- What the tables say about a callback. -/
def Has (s : State) : Target → Prop
  | .legacy cb => s.legacy = cb ∧ cb.func ≠ 0
  | .toolkit cb => s.toolkit = cb ∧ cb.func ≠ 0
  | .a id cb =>
    ∃ i, id = i + 1 ∧ s.callbacks[i]? = some ⟨cb.func, cb.userdata, true⟩ ∧ cb.func ≠ 0

theorem mem_targets {s : State} {t : Target} : t ∈ s.targets ↔ Has s t := by
  simp only [State.targets, List.mem_append, mem_targetsFrom]
  cases t with
  | legacy cb =>
    simp only [Has]
    constructor
    · rintro ((here | ⟨i, e, -, -, -, same⟩) | here)
      · split at here
        · next func =>
          injection List.mem_singleton.mp here with same
          exact ⟨same.symm, same ▸ func⟩
        · contradiction
      · contradiction
      · split at here <;> simp at here
    · rintro ⟨rfl, func⟩
      simp [func]
  | toolkit cb =>
    simp only [Has]
    constructor
    · rintro ((here | ⟨i, e, -, -, -, same⟩) | here)
      · split at here <;> simp at here
      · contradiction
      · split at here
        · next func =>
          injection List.mem_singleton.mp here with same
          exact ⟨same.symm, same ▸ func⟩
        · contradiction
    · rintro ⟨rfl, func⟩
      simp [func]
  | a id cb =>
    simp only [Has]
    constructor
    · rintro ((here | ⟨i, e, at_i, used, func, same⟩) | here)
      · split at here <;> simp at here
      · injection same with same_id same_cb
        subst same_cb
        obtain ⟨f, u, inUse⟩ := e
        cases used
        exact ⟨i, by omega, at_i, func⟩
      · split at here <;> simp at here
    · rintro ⟨i, rfl, at_i, func⟩
      exact Or.inl (Or.inr ⟨i, _, at_i, rfl, func, by rw [Nat.add_comm]⟩)

theorem nodup_targets (s : State) : s.targets.Nodup := by
  have entries := nodup_targetsFrom 1 s.callbacks
  have noLegacy : ∀ cb, Target.legacy cb ∉ targetsFrom 1 s.callbacks := by
    intro cb member
    obtain ⟨i, e, -, -, -, same⟩ := mem_targetsFrom.mp member
    contradiction
  have noToolkit : ∀ t ∈ targetsFrom 1 s.callbacks, ∀ cb, t ≠ .toolkit cb := by
    intro t member cb
    obtain ⟨i, e, -, -, -, same⟩ := mem_targetsFrom.mp member
    rw [same]
    nofun
  simp only [State.targets]
  split <;> split <;> simp_all [List.nodup_append, List.nodup_cons]

/-! ## What is registered -/

/-- The functions have said of every callback what the tables say. -/
structure Tables (s : State) : Prop where
  distinct : s.registered.Nodup
  same : ∀ t, t ∈ s.registered ↔ Has s t
  used : ∀ e ∈ s.callbacks, e.inUse = true → e.func ≠ 0

variable {s s' : State}

theorem Tables.congr (tables : Tables s) (legacy : s'.legacy = s.legacy)
    (toolkit : s'.toolkit = s.toolkit) (callbacks : s'.callbacks = s.callbacks)
    (registered : s'.registered = s.registered) : Tables s' := by
  refine ⟨registered ▸ tables.distinct, fun t => ?_, callbacks ▸ tables.used⟩
  rw [registered, tables.same t]
  cases t <;> simp only [Has, legacy, toolkit, callbacks]

theorem Tables.add {t : Target} (tables : Tables s) (fresh : ¬Has s t)
    (registered : s'.registered = s.registered ++ [t])
    (has : ∀ t', Has s' t' ↔ Has s t' ∨ t' = t)
    (used : ∀ e ∈ s'.callbacks, e.inUse = true → e.func ≠ 0) : Tables s' := by
  refine ⟨?_, fun t' => ?_, used⟩
  · rw [registered, List.nodup_append]
    refine ⟨tables.distinct, by simp, fun a member b new => ?_⟩
    rw [List.mem_singleton] at new
    rintro rfl
    exact fresh (new ▸ (tables.same a).mp member)
  · rw [registered, List.mem_append, List.mem_singleton, tables.same t', has t']

theorem Tables.drop {p : Target → Bool} (tables : Tables s)
    (registered : s'.registered = s.registered.filter p)
    (has : ∀ t, Has s' t ↔ Has s t ∧ p t = true)
    (used : ∀ e ∈ s'.callbacks, e.inUse = true → e.func ≠ 0) : Tables s' := by
  refine ⟨?_, fun t => ?_, used⟩
  · rw [registered]
    exact tables.distinct.filter p
  · rw [registered, List.mem_filter, tables.same t, has t]

theorem mem_set_used {entries : List CallbackA} {i : Nat} {new : CallbackA}
    (used : ∀ e ∈ entries, e.inUse = true → e.func ≠ 0)
    (meets : new.inUse = true → new.func ≠ 0) :
    ∀ e ∈ entries.set i new, e.inUse = true → e.func ≠ 0 := by
  intro e member
  rcases List.mem_or_eq_of_mem_set member with old | rfl
  · exact used e old
  · exact meets

/-- A callback that takes the place of none. -/
theorem held_new {held cb cb' : Callback} (free : held.func = 0) (func : cb.func ≠ 0) :
    cb = cb' ∧ cb'.func ≠ 0 ↔ (held = cb' ∧ cb'.func ≠ 0) ∨ cb' = cb := by
  constructor
  · rintro ⟨rfl, -⟩
    exact Or.inr rfl
  · rintro (⟨rfl, used⟩ | rfl)
    · exact absurd free used
    · exact ⟨rfl, func⟩

theorem held_cleared (cb : Callback) : ¬(({} : Callback) = cb ∧ cb.func ≠ 0) := by
  rintro ⟨rfl, func⟩
  exact func rfl

theorem tables_registerState (cb : Callback) (tables : Tables s) :
    Tables (step (.registerState cb) s) := by
  simp only [step, perform, sceNpRegisterStateCallback, registeredAfter]
  split
  · exact tables.congr rfl rfl rfl rfl
  · next func =>
    split
    · exact tables.congr rfl rfl rfl rfl
    · next free =>
      have none : s.legacy.func = 0 := by simpa using free
      refine tables.add (t := .legacy cb) ?_ rfl ?_ tables.used
      · rintro ⟨rfl, used⟩
        exact used none
      · intro t'
        cases t' with
        | legacy cb' => simpa only [Has, Target.legacy.injEq] using held_new none func
        | toolkit cb' => simp only [Has, reduceCtorEq, or_false]
        | a id cb' => simp only [Has, reduceCtorEq, or_false]

theorem tables_registerToolkit (cb : Callback) (tables : Tables s) :
    Tables (step (.registerToolkit cb) s) := by
  simp only [step, perform, sceNpRegisterStateCallbackForToolkit, registeredAfter]
  split
  · exact tables.congr rfl rfl rfl rfl
  · next func =>
    split
    · exact tables.congr rfl rfl rfl rfl
    · next free =>
      have none : s.toolkit.func = 0 := by simpa using free
      refine tables.add (t := .toolkit cb) ?_ rfl ?_ tables.used
      · rintro ⟨rfl, used⟩
        exact used none
      · intro t'
        cases t' with
        | toolkit cb' => simpa only [Has, Target.toolkit.injEq] using held_new none func
        | legacy cb' => simp only [Has, reduceCtorEq, or_false]
        | a id cb' => simp only [Has, reduceCtorEq, or_false]

theorem tables_unregisterState (tables : Tables s) : Tables (step .unregisterState s) := by
  simp only [step, perform, sceNpUnregisterStateCallback, registeredAfter]
  split
  · exact tables.congr rfl rfl rfl rfl
  · refine tables.drop (p := (!·.isLegacy)) rfl (fun t => ?_) tables.used
    cases t with
    | legacy cb =>
      simp only [Has, Target.isLegacy, Bool.not_true, Bool.false_eq_true, and_false, iff_false]
      exact held_cleared cb
    | toolkit cb => simp [Has, Target.isLegacy]
    | a id cb => simp [Has, Target.isLegacy]

theorem tables_unregisterToolkit (tables : Tables s) : Tables (step .unregisterToolkit s) := by
  simp only [step, perform, sceNpUnregisterStateCallbackForToolkit, registeredAfter]
  split
  · exact tables.congr rfl rfl rfl rfl
  · refine tables.drop (p := (!·.isToolkit)) rfl (fun t => ?_) tables.used
    cases t with
    | toolkit cb =>
      simp only [Has, Target.isToolkit, Bool.not_true, Bool.false_eq_true, and_false, iff_false]
      exact held_cleared cb
    | legacy cb => simp [Has, Target.isToolkit]
    | a id cb => simp [Has, Target.isToolkit]

theorem tables_registerA (cb : Callback) (tables : Tables s) : Tables (step (.registerA cb) s) := by
  simp only [step, perform, sceNpRegisterStateCallbackA, registeredAfter]
  split
  · exact tables.congr rfl rfl rfl rfl
  · next func =>
    split
    · exact tables.congr rfl rfl rfl rfl
    · split
      · next inside =>
        have code : (0 : Int) < ((SlotTable.free CallbackA.inUse s.callbacks + 1 : Nat) : Int) := by
          omega
        have unused := SlotTable.unused_at_free inside
        generalize SlotTable.free CallbackA.inUse s.callbacks = i at inside code unused
        simp only [if_pos code, Int.toNat_natCast]
        refine tables.add (t := .a (i + 1) cb) ?_ rfl ?_
          (mem_set_used tables.used (fun _ => func))
        · rintro ⟨j, same, at_j, -⟩
          have here : j = i := by omega
          subst here
          rw [List.getElem?_eq_getElem inside] at at_j
          injection at_j with at_j
          rw [at_j] at unused
          contradiction
        · intro t'
          cases t' <;> simp only [Has, reduceCtorEq, or_false]
          case a id cb' =>
            constructor
            · rintro ⟨j, rfl, at_j, func'⟩
              by_cases here : i = j
              · subst here
                rw [List.getElem?_set_self inside] at at_j
                injection at_j with at_j
                injection at_j with same_func same_data
                right
                obtain ⟨f, u⟩ := cb
                obtain ⟨f', u'⟩ := cb'
                simp only at same_func same_data
                rw [same_func, same_data]
              · rw [List.getElem?_set_ne here] at at_j
                exact Or.inl ⟨j, rfl, at_j, func'⟩
            · rintro (⟨j, rfl, at_j, func'⟩ | same)
              · have here : i ≠ j := by
                  rintro rfl
                  rw [List.getElem?_eq_getElem inside] at at_j
                  injection at_j with at_j
                  rw [at_j] at unused
                  contradiction
                exact ⟨j, rfl, by rw [List.getElem?_set_ne here, at_j], func'⟩
              · injection same with same_id same_cb
                subst same_cb
                exact ⟨i, same_id, List.getElem?_set_self inside, func⟩
      · exact tables.congr rfl rfl rfl rfl

theorem tables_unregisterA (callbackId : Int) (tables : Tables s) :
    Tables (step (.unregisterA callbackId) s) := by
  simp only [step, perform, sceNpUnregisterStateCallbackA, registeredAfter]
  split
  · exact tables.congr rfl rfl rfl rfl
  · next valid =>
    cases at_id : s.callbacks[(callbackId - 1).toNat]? with
    | none => exact tables.congr rfl rfl rfl rfl
    | some entry =>
      simp only
      by_cases used : entry.inUse = true
      · simp only [used, if_true]
        obtain ⟨inside, -⟩ := List.getElem?_eq_some_iff.mp at_id
        refine tables.drop (p := (!·.hasId callbackId.toNat)) rfl ?_
          (mem_set_used tables.used nofun)
        intro t
        cases t with
        | legacy cb => simp [Has, Target.hasId]
        | toolkit cb => simp [Has, Target.hasId]
        | a id cb =>
          simp only [Has, Target.hasId, Bool.not_eq_true', decide_eq_false_iff_not]
          constructor
          · rintro ⟨j, rfl, at_j, func⟩
            have here : (callbackId - 1).toNat ≠ j := by
              rintro rfl
              rw [List.getElem?_set_self inside] at at_j
              injection at_j with at_j
              injection at_j with _ _ same
              contradiction
            rw [List.getElem?_set_ne here] at at_j
            exact ⟨⟨j, rfl, at_j, func⟩, by omega⟩
          · rintro ⟨⟨j, rfl, at_j, func⟩, other⟩
            have here : (callbackId - 1).toNat ≠ j := by omega
            exact ⟨j, rfl, by rw [List.getElem?_set_ne here, at_j], func⟩
      · simp only [used]
        exact tables.congr rfl rfl rfl rfl

theorem tables_step (op : Op) (tables : Tables s) : Tables (step op s) := by
  cases op with
  | queue userId state npId => exact tables.congr rfl rfl rfl rfl
  | registerReachability cb =>
    simp only [step, perform, sceNpRegisterNpReachabilityStateCallback]
    split
    · exact tables.congr rfl rfl rfl rfl
    · split <;> exact tables.congr rfl rfl rfl rfl
  | unregisterReachability =>
    simp only [step, perform, sceNpUnregisterNpReachabilityStateCallback]
    split <;> exact tables.congr rfl rfl rfl rfl
  | registerToolkit cb => exact tables_registerToolkit cb tables
  | unregisterToolkit => exact tables_unregisterToolkit tables
  | registerState cb => exact tables_registerState cb tables
  | unregisterState => exact tables_unregisterState tables
  | registerA cb => exact tables_registerA cb tables
  | unregisterA callbackId => exact tables_unregisterA callbackId tables
  | dispatch =>
    simp only [step, perform, takeBatch]
    split <;> exact tables.congr rfl rfl rfl rfl
  | call =>
    simp only [step, perform, callNext]
    split <;> exact tables.congr rfl rfl rfl rfl

/-! ## A batch -/

theorem filter_dispatchCalls (s : State) :
    s.dispatchCalls.filter Notice.isState =
      s.queue.flatMap fun event => s.targets.map fun target => .state target event := by
  have states : ∀ notice ∈ s.queue.flatMap (fun event =>
      s.targets.map fun target => Notice.state target event), notice.isState = true := by
    intro notice member
    obtain ⟨event, -, here⟩ := List.mem_flatMap.mp member
    obtain ⟨target, -, rfl⟩ := List.mem_map.mp here
    rfl
  have changes : ∀ notice ∈ s.changes.1.map (fun change =>
      Notice.reach s.registration s.reachability change.1 change.2),
      ¬notice.isState = true := by
    intro notice member
    obtain ⟨change, -, rfl⟩ := List.mem_map.mp member
    simp [Notice.isState]
  rw [State.dispatchCalls, List.filter_append, List.filter_eq_self.mpr states,
    List.filter_eq_nil_iff.mpr changes, List.append_nil]

/-- What the reachability callback is told of by the calls of a dispatch. -/
theorem told_dispatchCalls (s : State) (registration : Nat) :
    s.dispatchCalls.filterMap (Notice.told registration) =
      if s.registration = registration then s.changes.1 else [] := by
  have states : (s.queue.flatMap fun event =>
      s.targets.map fun target => Notice.state target event).filterMap
        (Notice.told registration) = [] := by
    rw [List.filterMap_eq_nil_iff]
    intro notice member
    obtain ⟨event, -, here⟩ := List.mem_flatMap.mp member
    obtain ⟨target, -, rfl⟩ := List.mem_map.mp here
    rfl
  rw [State.dispatchCalls, List.filterMap_append, states, List.nil_append, List.filterMap_map]
  by_cases own : s.registration = registration
  · have told : Notice.told registration ∘ (fun change : Int × Reachability =>
        Notice.reach s.registration s.reachability change.1 change.2) = some := by
      funext change
      simp [Notice.told, own]
    rw [if_pos own, told, List.filterMap_some]
  · have told : Notice.told registration ∘ (fun change : Int × Reachability =>
        Notice.reach s.registration s.reachability change.1 change.2) = fun _ => none := by
      funext change
      simp [Notice.told, own]
    rw [if_neg own, told]
    simp

/-! ## The invariant -/

structure Sound (s : State) : Prop where
  tables : Tables s
  batched : s.batches.flatMap Batch.events ++ s.queue = s.queued
  called : s.called ++ s.toCall = s.batches.flatMap Batch.calls
  exact : ∀ batch ∈ s.batches, batch.Exact
  told : ∀ registration userId,
    toldOf registration userId (s.called ++ s.toCall) =
      changesFrom none (statesOf registration userId s.batches)
  last : s.reachability.func ≠ 0 → ∀ userId,
    s.last userId = lastFrom none (statesOf s.registration userId s.batches)
  known : ∀ batch ∈ s.batches, ∀ n, batch.registration = some n → n ≤ s.registration

theorem statesOf_new {s : State} {n : Nat}
    (known : ∀ batch ∈ s.batches, ∀ m, batch.registration = some m → m ≤ s.registration)
    (later : s.registration < n) (userId : Int) : statesOf n userId s.batches = [] := by
  have noBatch : s.batches.filter (fun batch => batch.registration = some n) = [] := by
    rw [List.filter_eq_nil_iff]
    intro batch member same
    have bound := known batch member n (by simpa using same)
    omega
  rw [statesOf, noBatch, List.flatMap_nil]

theorem statesOf_append (n : Nat) (userId : Int) (batches : List Batch) (batch : Batch) :
    statesOf n userId (batches ++ [batch]) =
      statesOf n userId batches ++
        if batch.registration = some n then valuesOf userId (batch.events.map reach) else [] := by
  rw [statesOf, List.filter_append, List.flatMap_append, statesOf]
  by_cases own : batch.registration = some n
  · simp [own]
  · simp [own]

theorem toldOf_append (n : Nat) (userId : Int) (first second : List Notice) :
    toldOf n userId (first ++ second) = toldOf n userId first ++ toldOf n userId second := by
  rw [toldOf, List.filterMap_append, valuesOf_append, toldOf, toldOf]

/-- Nothing but the state callbacks differs. -/
structure SameEvents (s s' : State) : Prop where
  queue : s'.queue = s.queue
  queued : s'.queued = s.queued
  batches : s'.batches = s.batches
  called : s'.called = s.called
  toCall : s'.toCall = s.toCall
  reachability : s'.reachability = s.reachability
  last : s'.last = s.last
  registration : s'.registration = s.registration

theorem Sound.congr (sound : Sound s) (tables : Tables s') (same : SameEvents s s') :
    Sound s' := by
  refine ⟨tables, ?_, ?_, ?_, ?_, ?_, ?_⟩
  · rw [same.batches, same.queue, same.queued, sound.batched]
  · rw [same.called, same.toCall, same.batches, sound.called]
  · rw [same.batches]
    exact sound.exact
  · intro n userId
    rw [same.called, same.toCall, same.batches, sound.told n userId]
  · rw [same.reachability, same.last, same.registration, same.batches]
    exact sound.last
  · rw [same.batches, same.registration]
    exact sound.known

def Op.isTable : Op → Bool
  | .registerToolkit _ | .unregisterToolkit | .registerState _ | .unregisterState
  | .registerA _ | .unregisterA _ => true
  | _ => false

theorem sameEvents_step {op : Op} (table : op.isTable = true) : SameEvents s (step op s) := by
  cases op with
  | registerToolkit cb =>
    simp only [step, perform, sceNpRegisterStateCallbackForToolkit]
    split
    · constructor <;> rfl
    · split <;> constructor <;> rfl
  | unregisterToolkit =>
    simp only [step, perform, sceNpUnregisterStateCallbackForToolkit]
    split <;> constructor <;> rfl
  | registerState cb =>
    simp only [step, perform, sceNpRegisterStateCallback]
    split
    · constructor <;> rfl
    · split <;> constructor <;> rfl
  | unregisterState =>
    simp only [step, perform, sceNpUnregisterStateCallback]
    split <;> constructor <;> rfl
  | registerA cb =>
    simp only [step, perform, sceNpRegisterStateCallbackA]
    split
    · constructor <;> rfl
    · split
      · constructor <;> rfl
      · split <;> constructor <;> rfl
  | unregisterA callbackId =>
    simp only [step, perform, sceNpUnregisterStateCallbackA]
    split
    · constructor <;> rfl
    · split
      · constructor <;> rfl
      · split <;> constructor <;> rfl
  | queue userId state npId => contradiction
  | registerReachability cb => contradiction
  | unregisterReachability => contradiction
  | dispatch => contradiction
  | call => contradiction

theorem exact_taken (tables : Tables s) (untold : s.reachability.func = 0 → s.changes.1 = []) :
    Batch.Exact
      { events := s.queue
        registered := s.registered
        registration := if s.reachability.func ≠ 0 then some s.registration else none
        calls := s.dispatchCalls } := by
  constructor
  · refine ⟨s.targets, ?_, filter_dispatchCalls s⟩
    rw [List.perm_ext_iff_of_nodup (nodup_targets s) tables.distinct]
    intro t
    rw [mem_targets, tables.same t]
  · intro n cb userId state member
    rcases List.mem_append.mp member with states | changes
    · obtain ⟨event, -, here⟩ := List.mem_flatMap.mp states
      obtain ⟨target, -, same⟩ := List.mem_map.mp here
      contradiction
    · obtain ⟨change, reported, same⟩ := List.mem_map.mp changes
      injection same with same
      have registered : s.reachability.func ≠ 0 := by
        intro none
        rw [untold none] at reported
        contradiction
      simp only [registered, ne_eq, not_false_eq_true, if_true, same]

/-- What a batch reports about a user, and the last state behind it. -/
theorem told_taken (sound : Sound s) (n : Nat) (userId : Int) :
    valuesOf userId (s.dispatchCalls.filterMap (Notice.told n)) =
      changesFrom (lastFrom none (statesOf n userId s.batches))
        (if (if s.reachability.func ≠ 0 then some s.registration else none) = some n then
          valuesOf userId (s.queue.map reach) else []) := by
  rw [told_dispatchCalls]
  by_cases registered : s.reachability.func ≠ 0
  · simp only [if_pos registered, Option.some.injEq]
    by_cases own : s.registration = n
    · subst own
      have reported := (report_eq s.last (s.queue.map reach) userId).1
      simp only [if_true, State.changes, if_pos registered, reported]
      rw [sound.last registered userId]
    · simp only [if_neg own]
      rfl
  · simp only [State.changes, if_neg registered]
    split <;> rfl

theorem sound_takeBatch (sound : Sound s) : Sound (step .dispatch s) := by
  have tables := tables_step .dispatch sound.tables
  by_cases rests : s.toCall ≠ [] ∨ s.queue = []
  · have same : step .dispatch s = s := by simp only [step, perform, takeBatch, if_pos rests]; rfl
    rw [same]
    exact sound
  · have idle : s.toCall = [] := by
      by_contra busy
      exact rests (Or.inl busy)
    have taken : step .dispatch s =
        { s with
          queue := []
          last := s.changes.2
          toCall := s.dispatchCalls
          batches := s.batches ++
            [{ events := s.queue
               registered := s.registered
               registration := if s.reachability.func ≠ 0 then some s.registration else none
               calls := s.dispatchCalls }] } := by
      simp only [step, perform, takeBatch, if_neg rests]
      rfl
    have done : s.called = s.batches.flatMap Batch.calls := by
      have called := sound.called
      rw [idle, List.append_nil] at called
      exact called
    rw [taken] at tables ⊢
    constructor
    · exact tables
    · simp only [List.flatMap_append, List.flatMap_singleton, List.append_nil]
      exact sound.batched
    · simp only [List.flatMap_append, List.flatMap_singleton, done]
    · intro batch member
      rcases List.mem_append.mp member with old | new
      · exact sound.exact batch old
      · rw [List.mem_singleton.mp new]
        refine exact_taken sound.tables fun none => ?_
        simp only [State.changes, none, ne_eq, not_true_eq_false, if_false]
    · intro n userId
      have before := sound.told n userId
      rw [idle, List.append_nil] at before
      simp only [statesOf_append, toldOf_append, before, changesFrom_append]
      rw [toldOf, told_taken sound n userId]
    · intro registered userId
      have kept := (report_eq s.last (s.queue.map reach) userId).2
      simp only [statesOf_append, if_pos registered, State.changes, lastFrom_append, kept]
      rw [sound.last registered userId]
      simp
    · intro batch member n same
      rcases List.mem_append.mp member with old | new
      · exact sound.known batch old n same
      · rw [List.mem_singleton.mp new] at same
        simp only at same
        split at same
        · injection same with same
          exact Nat.le_of_eq same.symm
        · contradiction

theorem sound_registerReachability (cb : Callback) (sound : Sound s) :
    Sound (step (.registerReachability cb) s) := by
  have tables := tables_step (.registerReachability cb) sound.tables
  simp only [step, perform, sceNpRegisterNpReachabilityStateCallback, registeredAfter] at tables ⊢
  by_cases null : cb.func = 0
  · simp only [if_pos null] at tables ⊢
    exact sound
  · by_cases taken : s.reachability.func ≠ 0
    · simp only [if_neg null, if_pos taken] at tables ⊢
      exact sound
    · simp only [if_neg null, if_neg taken] at tables ⊢
      refine ⟨tables, sound.batched, sound.called, sound.exact, sound.told, ?_, ?_⟩
      · intro _ userId
        have fresh := statesOf_new sound.known (Nat.lt_succ_self s.registration) userId
        simp only [fresh]
        rfl
      · intro batch member n same
        exact Nat.le_succ_of_le (sound.known batch member n same)

theorem sound_unregisterReachability (sound : Sound s) :
    Sound (step .unregisterReachability s) := by
  have tables := tables_step .unregisterReachability sound.tables
  simp only [step, perform, sceNpUnregisterNpReachabilityStateCallback, registeredAfter] at tables ⊢
  by_cases null : s.reachability.func = 0
  · simp only [if_pos null] at tables ⊢
    exact sound
  · simp only [if_neg null] at tables ⊢
    exact ⟨tables, sound.batched, sound.called, sound.exact, sound.told,
      fun registered => absurd rfl registered, sound.known⟩

theorem sound_callNext (sound : Sound s) : Sound (step .call s) := by
  have tables := tables_step .call sound.tables
  cases rest : s.toCall with
  | nil =>
    have same : step .call s = s := by
      simp only [step, perform, callNext]
      split
      · rfl
      · next some => simp [rest] at some
    rw [same]
    exact sound
  | cons notice later =>
    have made : step .call s = { s with toCall := later, called := s.called ++ [notice] } := by
      simp only [step, perform, callNext, rest]
      rfl
    have calls : s.called ++ [notice] ++ later = s.called ++ s.toCall := by
      rw [rest, List.append_assoc, List.singleton_append]
    rw [made] at tables ⊢
    refine ⟨tables, sound.batched, ?_, sound.exact, fun n userId => ?_, sound.last, sound.known⟩
    · exact calls.trans sound.called
    · simp only [calls]
      exact sound.told n userId

theorem sound_step (op : Op) (sound : Sound s) : Sound (step op s) := by
  have tables := tables_step op sound.tables
  by_cases table : op.isTable = true
  · exact sound.congr tables (sameEvents_step table)
  · cases op with
    | queue userId state npId =>
      refine ⟨tables, ?_, sound.called, sound.exact, sound.told, sound.last, sound.known⟩
      simp only [step, perform, queueNpStateEvent, ← List.append_assoc, sound.batched]
    | registerReachability cb => exact sound_registerReachability cb sound
    | unregisterReachability => exact sound_unregisterReachability sound
    | dispatch => exact sound_takeBatch sound
    | call => exact sound_callNext sound
    | registerToolkit cb => exact absurd rfl table
    | unregisterToolkit => exact absurd rfl table
    | registerState cb => exact absurd rfl table
    | unregisterState => exact absurd rfl table
    | registerA cb => exact absurd rfl table
    | unregisterA callbackId => exact absurd rfl table

theorem tables_start : Tables {} := by
  have unused : ∀ e ∈ List.replicate 8 ({} : CallbackA), e = {} :=
    fun e member => List.eq_of_mem_replicate member
  refine ⟨List.nodup_nil, fun t => ⟨nofun, fun has => ?_⟩, fun e member used => ?_⟩
  · cases t with
    | legacy cb => exact absurd has (held_cleared cb)
    | toolkit cb => exact absurd has (held_cleared cb)
    | a id cb =>
      obtain ⟨i, -, at_i, func⟩ := has
      have same := unused _ (List.mem_of_getElem? at_i)
      injection same with _ _ used
      contradiction
  · rw [unused e member] at used
    contradiction

theorem sound_start : Sound {} :=
  ⟨tables_start, rfl, rfl, nofun, fun _ _ => rfl, fun registered => absurd rfl registered, nofun⟩

end NpManager.StateEvents
