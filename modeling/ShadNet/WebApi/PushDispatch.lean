import ShadNet.WebApi.PushEvents
import Mathlib.Data.List.TakeWhile

/-!
# What the dispatch of push events delivers

The calls for an event are told apart by their targets. Whoever is called is owed the
event, so the calls are too few or carry too little, never too many; they are exact
where every callback that is owed the event is sound.
-/

namespace NpWebApiPush

open NpWebApi (PushKind)

/-! ## Tables and blocks -/

section Lists

variable {α β γ : Type}

theorem lookup_map_snd (g : β → γ) (l : List (Int × β)) (i : Int) :
    (l.map fun e => (e.1, g e.2)).lookup i = (l.lookup i).map g := by
  induction l with
  | nil => rfl
  | cons e l ih =>
    rw [List.map_cons, List.lookup_cons, List.lookup_cons, ih]
    cases i == e.1 with
    | true => rfl
    | false => rfl

theorem eq_of_distinct {l : List (Int × α)} {i : Int} {a b : α} (distinct : (l.map Prod.fst).Nodup)
    (first : (i, a) ∈ l) (second : (i, b) ∈ l) : a = b :=
  congrArg Prod.snd (List.inj_on_of_nodup_map distinct first second rfl)

/-- The induction stops at the first entry that the test accepts. -/
theorem findIdx?_bind_getElem? (test : α → Bool) (g : α → γ) (l : List α) :
    (l.findIdx? test).bind (fun i => (l.map g)[i]?) = (l.find? test).map g := by
  induction l with
  | nil => rfl
  | cons a l ih =>
    rw [List.findIdx?_cons, List.find?_cons]
    cases test a with
    | true => rfl
    | false =>
      rw [← ih]
      cases l.findIdx? test with
      | none => rfl
      | some i => simp

theorem filter_eq_filter_iff {p q : α → Bool} {l : List α} (weaker : ∀ a ∈ l, p a → q a) :
    l.filter p = l.filter q ↔ ∀ a ∈ l, q a → p a := by
  constructor
  · intro same a member accepted
    have kept : a ∈ l.filter p := same ▸ List.mem_filter.mpr ⟨member, accepted⟩
    exact (List.mem_filter.mp kept).2
  · intro stronger
    refine List.filter_congr (fun a member => ?_)
    exact Bool.eq_iff_iff.mpr ⟨weaker a member, stronger a member⟩

/-- Where no block is shorter than the list it stands for, the blocks are those lists. -/
theorem forall_mem_of_blocks {f : α → List β} {P : α → List β → Prop}
    (short : ∀ a b, P a b → (f a).length ≤ b.length) {l : List α} {blocks : List (List β)}
    (each : List.Forall₂ P l blocks) (same : l.flatMap f = blocks.flatten) :
    ∀ a ∈ l, P a (f a) := by
  have shorter : ∀ {l : List α} {blocks : List (List β)}, List.Forall₂ P l blocks →
      (l.flatMap f).length ≤ blocks.flatten.length := by
    intro l blocks each
    induction each with
    | nil => exact Nat.le_refl 0
    | cons head tail ih =>
      rw [List.flatMap_cons, List.flatten_cons, List.length_append, List.length_append]
      exact Nat.add_le_add (short _ _ head) ih
  induction each with
  | nil => simp
  | @cons a block l blocks head tail ih =>
    rw [List.flatMap_cons, List.flatten_cons] at same
    have total := congrArg List.length same
    rw [List.length_append, List.length_append] at total
    have here := short a block head
    have rest := shorter tail
    obtain ⟨atHead, atTail⟩ := List.append_inj same (by omega)
    intro x member
    rcases List.mem_cons.mp member with rfl | member
    · exact atHead ▸ head
    · exact ih atTail x member

end Lists

theorem snprintf_charArray {size : Nat} (c : CharArray size) : snprintf size c.val = c.val := by
  have whole : c.val.takeWhile (· != 0) = c.val := by
    refine List.takeWhile_eq_self_iff.mpr (fun b member => ?_)
    have nul : b ≠ 0 := fun zero => c.terminated (zero ▸ member)
    simpa using nul
  have fits := c.fits
  rw [snprintf, whole, List.take_of_length_le (by omega)]

/-! ## The calls -/

def push (kind : PushKind) (libId : Int) (context : PushContext Filter) (titleUserCtxId : Int)
    (ev : PushEventInput) (cbId : Int) (cb : Callback) : Option Call :=
  match kind with
  | .basic => if ev.hasService then none else basicPush libId context titleUserCtxId ev cbId cb
  | .service => servicePush libId context titleUserCtxId ev cbId cb
  | .extended => extendedPush libId context titleUserCtxId ev cbId cb

theorem mem_dispatchUser {libId : Int} {context : PushContext Filter} {ev : PushEventInput}
    {ucKey : Int} {uc : PushUserContext} {call : Call} :
    call ∈ dispatchUser libId context ev ucKey uc ↔ uc.userId = ev.targetUserId ∧
      ∃ kind, ∃ cb ∈ uc.callbacks kind, push kind libId context ucKey ev cb.1 cb.2 = some call := by
  rw [dispatchUser]
  by_cases target : uc.userId = ev.targetUserId
  · rw [if_neg (not_not.mpr target), List.mem_append, List.mem_append]
    constructor
    · rintro ((found | found) | found)
      · obtain ⟨cb, member, pushed⟩ := List.mem_filterMap.mp found
        exact ⟨target, .extended, cb, member, pushed⟩
      · obtain ⟨cb, member, pushed⟩ := List.mem_filterMap.mp found
        exact ⟨target, .service, cb, member, pushed⟩
      · by_cases service : ev.hasService = true
        · rw [if_pos service] at found
          exact absurd found List.not_mem_nil
        · rw [if_neg service] at found
          obtain ⟨cb, member, pushed⟩ := List.mem_filterMap.mp found
          refine ⟨target, .basic, cb, member, ?_⟩
          rw [push, if_neg service]
          exact pushed
    · rintro ⟨-, kind, cb, member, pushed⟩
      cases kind with
      | extended => exact .inl (.inl (List.mem_filterMap.mpr ⟨cb, member, pushed⟩))
      | service => exact .inl (.inr (List.mem_filterMap.mpr ⟨cb, member, pushed⟩))
      | basic =>
        rw [push] at pushed
        by_cases service : ev.hasService = true
        · rw [if_pos service] at pushed
          cases pushed
        · rw [if_neg service] at pushed ⊢
          exact .inr (List.mem_filterMap.mpr ⟨cb, member, pushed⟩)
  · rw [if_pos target]
    constructor
    · exact fun found => absurd found List.not_mem_nil
    · exact fun found => absurd found.1 target

/-- The function that the dispatch calls, as what it calls it. -/
def called (kind : PushKind) (cb : Callback) : Option (Signature × Nat) :=
  match kind with
  | .basic => cb.cbFunc.map (Signature.basic, ·)
  | .service => cb.cbFunc.map (Signature.service, ·)
  | .extended => extendedFunction cb

def matched (kind : PushKind) (flt : Filter) (ev : PushEventInput) : Bool :=
  match kind with
  | .basic => !ev.hasService && flt.filterParams.any fun p => ev.dataType == p.val
  | .service => filterMatches flt ev.npServiceName ev.hasService ev.dataType
  | .extended => filterMatches flt ev.npServiceName ev.hasService ev.dataType

section Push

variable {kind : PushKind} {libId : Int} {context : PushContext Filter} {ucKey : Int}
  {ev : PushEventInput} {cbId : Int} {cb : Callback} {call : Call}

/-- What a call found in its parameters, by the signature of the function. -/
def found (kind : PushKind) (signature : Signature) (flt : Filter) (ev : PushEventInput) :
    Option Received :=
  if signature = .extd then none
  else some ⟨snprintf 65 ev.dataType, ev.data, if kind = .extended then exarr flt ev else []⟩

theorem getD_nonempty {α : Type} (l : List α) : (nonempty l).getD [] = l := by
  cases l with
  | nil => rfl
  | cons a l => rfl

theorem push_eq_some (pushed : push kind libId context ucKey ev cbId cb = some call) :
    ∃ f flt, called kind cb = some f ∧ (context.filters kind).lookup cb.filterId = some flt ∧
      matched kind flt ev = true ∧ call.target = ⟨libId, ucKey, kind, cbId⟩ ∧
      call.received = found kind f.1 flt ev := by
  cases kind with
  | basic =>
    rw [push] at pushed
    by_cases service : ev.hasService = true
    · rw [if_pos service] at pushed
      cases pushed
    · rw [if_neg service, basicPush] at pushed
      obtain ⟨raw, present, pushed⟩ := Option.bind_eq_some_iff.mp pushed
      obtain ⟨flt, known, pushed⟩ := Option.bind_eq_some_iff.mp pushed
      obtain ⟨accepted, made⟩ := Option.ite_none_right_eq_some.mp pushed
      cases made
      refine ⟨(.basic, raw), flt, ?_, known, ?_, rfl, ?_⟩
      · rw [called, present, Option.map_some]
      · rw [matched, accepted, Bool.and_true, Bool.not_eq_true']
        exact Bool.not_eq_true _ ▸ service
      · exact congrArg (fun data => some (Received.mk _ data [])) (getD_nonempty ev.data)
  | service =>
    rw [push, servicePush] at pushed
    obtain ⟨raw, present, pushed⟩ := Option.bind_eq_some_iff.mp pushed
    obtain ⟨flt, known, pushed⟩ := Option.bind_eq_some_iff.mp pushed
    obtain ⟨accepted, made⟩ := Option.ite_none_right_eq_some.mp pushed
    cases made
    refine ⟨(.service, raw), flt, ?_, known, accepted, rfl, ?_⟩
    · rw [called, present, Option.map_some]
    · exact congrArg (fun data => some (Received.mk _ data [])) (getD_nonempty ev.data)
  | extended =>
    rw [push, extendedPush] at pushed
    obtain ⟨raw, present, pushed⟩ := Option.bind_eq_some_iff.mp pushed
    obtain ⟨flt, known, pushed⟩ := Option.bind_eq_some_iff.mp pushed
    obtain ⟨accepted, made⟩ := Option.ite_none_right_eq_some.mp pushed
    cases made
    refine ⟨raw, flt, present, known, accepted, rfl, ?_⟩
    rw [extendedFunction] at present
    cases function : cb.cbFuncA with
    | some a =>
      rw [function] at present
      cases present
      exact congrArg₂ (fun data pairs => some (Received.mk _ data pairs)) (getD_nonempty ev.data)
        (getD_nonempty _)
    | none =>
      rw [function] at present
      obtain ⟨f, -, made⟩ := Option.map_eq_some_iff.mp present
      cases made
      rfl

theorem push_isSome {f : Signature × Nat} {flt : Filter} (function : called kind cb = some f)
    (known : (context.filters kind).lookup cb.filterId = some flt)
    (accepted : matched kind flt ev = true) :
    (push kind libId context ucKey ev cbId cb).isSome = true := by
  cases kind with
  | basic =>
    obtain ⟨raw, present, -⟩ := Option.map_eq_some_iff.mp function
    rw [matched, Bool.and_eq_true, Bool.not_eq_true'] at accepted
    have noService : ¬ev.hasService = true := by simp [accepted.1]
    rw [push, if_neg noService, basicPush, present, known]
    simp only [Option.bind_eq_bind, Option.bind_some]
    rw [if_pos accepted.2, Option.isSome_some]
  | service =>
    obtain ⟨raw, present, -⟩ := Option.map_eq_some_iff.mp function
    rw [matched] at accepted
    rw [push, servicePush, present, known]
    simp only [Option.bind_eq_bind, Option.bind_some]
    rw [if_pos accepted, Option.isSome_some]
  | extended =>
    have present : extendedFunction cb = some f := function
    rw [matched] at accepted
    rw [push, extendedPush, present, known]
    simp only [Option.bind_eq_bind, Option.bind_some]
    rw [if_pos accepted, Option.isSome_some]

end Push

/-! ## Filters -/

theorem hasService_iff {ev : PushEventInput} : ev.hasService = true ↔ ev.npServiceName ≠ [] := by
  rw [PushEventInput.hasService, Bool.not_eq_true', List.isEmpty_eq_false_iff]

theorem filterMatches_iff {flt : Filter} {ev : PushEventInput} :
    filterMatches flt ev.npServiceName ev.hasService ev.dataType = true ↔
      (flt.npServiceName = ev.npServiceName ∧
        (flt.npServiceName = [] → flt.npServiceLabel = anyLabel)) ∧
      (flt.filterParams.any fun p => ev.dataType == p.val) = true := by
  rw [filterMatches]
  by_cases unnamed : flt.npServiceName = []
  · by_cases any : flt.npServiceLabel = anyLabel
    · by_cases service : ev.npServiceName = []
      · have without : ev.hasService = false := by simp [PushEventInput.hasService, service]
        simp [unnamed, any, service, without]
      · have named : ev.hasService = true := hasService_iff.mpr service
        simp [unnamed, any, named, Ne.symm service]
    · by_cases service : ev.npServiceName = []
      · have without : ev.hasService = false := by simp [PushEventInput.hasService, service]
        simp [unnamed, any, without]
      · have named : ev.hasService = true := hasService_iff.mpr service
        simp [unnamed, any, named, Ne.symm service]
  · by_cases service : ev.npServiceName = []
    · have without : ev.hasService = false := by simp [PushEventInput.hasService, service]
      simp [unnamed, without, service]
    · have named : ev.hasService = true := hasService_iff.mpr service
      by_cases same : flt.npServiceName = ev.npServiceName
      · simp [named, same, service]
      · simp [unnamed, named, same]

theorem any_dataType_iff {args : FilterArgs} {ev : PushEventInput} :
    ((args.filterParams.map (·.dataType)).any fun p => ev.dataType == p.val) = true ↔
      ∃ p ∈ args.filterParams, p.dataType.val = ev.dataType := by
  rw [List.any_map, List.any_eq_true]
  constructor
  · rintro ⟨p, member, type⟩
    exact ⟨p, member, (beq_iff_eq.mp type).symm⟩
  · rintro ⟨p, member, type⟩
    exact ⟨p, member, beq_iff_eq.mpr type.symm⟩

/-- A filter accepts what it should, but for the label that it is stored with. -/
theorem matched_createFilter {kind : PushKind} {args : FilterArgs} {ev : PushEventInput} :
    matched kind (createFilter kind args) ev = true ↔
      Accepts kind args ev ∧ (kind ≠ .basic → args.npServiceName.getD [] = [] →
        args.npServiceLabel = anyLabel ∨ (kind = .extended ∧ args.npServiceName = none)) := by
  cases kind with
  | basic =>
    have unnamed : args.serviceName .basic = [] := rfl
    have without : (!ev.hasService) = true ↔ [] = ev.npServiceName := by
      rw [Bool.not_eq_true', ← Bool.not_eq_true, hasService_iff, not_not, eq_comm]
    rw [matched, Bool.and_eq_true, createFilter, createPushEventFilterInternal, any_dataType_iff,
      Accepts, unnamed, without]
    simp
  | service =>
    have name : args.serviceName .service = args.npServiceName.getD [] := rfl
    rw [matched, filterMatches_iff, createFilter, createServicePushEventFilterInternal,
      any_dataType_iff, Accepts, name]
    simp only
    tauto
  | extended =>
    have name : args.serviceName .extended = args.npServiceName.getD [] := rfl
    rw [matched, filterMatches_iff, createFilter, createExtendedPushEventFilterInternal,
      any_dataType_iff, Accepts, name]
    cases args.npServiceName with
    | none => simp
    | some text =>
      simp
      tauto

theorem wantedKeys_createFilter {args : FilterArgs} {ev : PushEventInput} :
    wantedKeys (createFilter .extended args) ev =
      (args.filterParams.find? fun p => ev.dataType == p.dataType.val).map fun p =>
        p.extdDataKey.map (·.val) := by
  rw [wantedKeys, createFilter, createExtendedPushEventFilterInternal, List.findIdx?_map]
  exact findIdx?_bind_getElem? _ _ _

theorem keyRequested_createFilter {args : FilterArgs} {ev : PushEventInput} {key : List UInt8} :
    keyRequested (wantedKeys (createFilter .extended args) ev) key = true ↔
      key ∈ firstKeys args ev := by
  rw [wantedKeys_createFilter, keyRequested, firstKeys]
  cases args.filterParams.find? fun p => ev.dataType == p.dataType.val with
  | none => simp
  | some p => simp

theorem exists_key_of_firstKeys {args : FilterArgs} {ev : PushEventInput} {key : List UInt8}
    (member : key ∈ firstKeys args ev) :
    ∃ p ∈ args.filterParams, p.dataType.val = ev.dataType ∧ ∃ k ∈ p.extdDataKey, k.val = key := by
  rw [firstKeys] at member
  cases first : args.filterParams.find? fun p => ev.dataType == p.dataType.val with
  | none =>
    rw [first] at member
    exact absurd member List.not_mem_nil
  | some p =>
    rw [first, Option.map_some, Option.getD_some] at member
    have type := List.find?_some first
    exact ⟨p, List.mem_of_find?_eq_some first, (beq_iff_eq.mp type).symm, List.mem_map.mp member⟩

/-- The keys that are passed on are as long as the arrays that they are written to. -/
theorem exarr_createFilter {args : FilterArgs} {ev : PushEventInput} :
    exarr (createFilter .extended args) ev =
      ev.extdData.filter fun pair => decide (pair.1 ∈ firstKeys args ev) := by
  have same : (ev.extdData.filter fun pair =>
      keyRequested (wantedKeys (createFilter .extended args) ev) pair.1) =
      ev.extdData.filter fun pair => decide (pair.1 ∈ firstKeys args ev) := by
    refine List.filter_congr (fun pair _ => ?_)
    rw [Bool.eq_iff_iff, keyRequested_createFilter, decide_eq_true_iff]
  rw [exarr, same]
  refine (List.map_congr_left (fun pair member => ?_)).trans (List.map_id _)
  have requested := of_decide_eq_true (List.mem_filter.mp member).2
  obtain ⟨p, -, -, k, -, key⟩ := exists_key_of_firstKeys requested
  rw [← key, snprintf_charArray, key]
  rfl

/-! ## One call for each target -/

section Once

variable {libId : Int} {context : PushContext Filter} {ev : PushEventInput} {ucKey : Int}
  {uc : PushUserContext}

theorem target_of_mem_dispatchUser {call : Call}
    (member : call ∈ dispatchUser libId context ev ucKey uc) :
    call.target.libCtxId = libId ∧ call.target.titleUserCtxId = ucKey := by
  obtain ⟨-, kind, cb, -, pushed⟩ := mem_dispatchUser.mp member
  obtain ⟨-, -, -, -, -, target, -⟩ := push_eq_some pushed
  rw [target]
  exact ⟨rfl, rfl⟩

/-- The callbacks of one kind are told apart by their ids. -/
theorem pairwise_filterMap {kind : PushKind} {l : List (Int × Callback)}
    {g : Int × Callback → Option Call} (distinct : (l.map Prod.fst).Nodup)
    (pushes : ∀ cb call, g cb = some call → call.target = ⟨libId, ucKey, kind, cb.1⟩) :
    (l.filterMap g).Pairwise (fun a b => a.target ≠ b.target) ∧
      ∀ call ∈ l.filterMap g, call.target.kind = kind := by
  constructor
  · rw [List.pairwise_filterMap]
    refine (List.pairwise_map.mp distinct).imp ?_
    intro first second other a made b made' same
    rw [pushes first a made, pushes second b made'] at same
    exact other (Target.mk.inj same).2.2.2
  · intro call member
    obtain ⟨cb, -, made⟩ := List.mem_filterMap.mp member
    rw [pushes cb call made]

theorem pairwise_dispatchUser (distinct : ∀ kind, ((uc.callbacks kind).map Prod.fst).Nodup) :
    (dispatchUser libId context ev ucKey uc).Pairwise fun a b => a.target ≠ b.target := by
  have target : ∀ kind, ∀ cb : Int × Callback, ∀ call,
      push kind libId context ucKey ev cb.1 cb.2 = some call →
      call.target = ⟨libId, ucKey, kind, cb.1⟩ := by
    intro kind cb call pushed
    obtain ⟨-, -, -, -, -, target, -⟩ := push_eq_some pushed
    exact target
  obtain ⟨extended, extendedKind⟩ := pairwise_filterMap (distinct .extended) (target .extended)
  obtain ⟨service, serviceKind⟩ := pairwise_filterMap (distinct .service) (target .service)
  obtain ⟨basic, basicKind⟩ := pairwise_filterMap (distinct .basic) (target .basic)
  rw [dispatchUser]
  by_cases user : uc.userId = ev.targetUserId
  · have named : (if ev.hasService then []
        else (uc.callbacks .basic).filterMap fun cb => basicPush libId context ucKey ev cb.1 cb.2) =
        (uc.callbacks .basic).filterMap fun cb => push .basic libId context ucKey ev cb.1 cb.2 := by
      by_cases service : ev.hasService = true
      · simp only [push, if_pos service, List.filterMap_none]
      · simp only [push, if_neg service]
    rw [if_neg (not_not.mpr user), named, List.pairwise_append, List.pairwise_append]
    refine ⟨⟨extended, service, ?_⟩, basic, ?_⟩
    · intro a first b second same
      have kinds := congrArg Target.kind same
      rw [extendedKind a first, serviceKind b second] at kinds
      cases kinds
    · intro a first b second same
      have kinds := congrArg Target.kind same
      rw [basicKind b second] at kinds
      rcases List.mem_append.mp first with first | first
      · rw [extendedKind a first] at kinds
        cases kinds
      · rw [serviceKind a first] at kinds
        cases kinds
  · rw [if_pos user]
    exact List.Pairwise.nil

theorem nodup_dispatch (all : Contexts) (ev : PushEventInput) :
    ((dispatch all.stored ev).map Call.target).Nodup := by
  rw [List.Nodup, List.pairwise_map, dispatch, Contexts.stored, List.flatMap_map,
    List.pairwise_flatMap]
  constructor
  · intro c known
    rw [List.pairwise_flatMap]
    constructor
    · intro uc user
      exact pairwise_dispatchUser (all.distinctCallbacks c known uc user)
    · refine (List.pairwise_map.mp (all.distinctUsers c known)).imp ?_
      intro first second other a atFirst b atSecond same
      rw [← (target_of_mem_dispatchUser atFirst).2, ← (target_of_mem_dispatchUser atSecond).2,
        same] at other
      exact other rfl
  · refine (List.pairwise_map.mp all.distinctContexts).imp ?_
    intro first second other a atFirst b atSecond same
    obtain ⟨uc, -, atFirst⟩ := List.mem_flatMap.mp atFirst
    obtain ⟨uc', -, atSecond⟩ := List.mem_flatMap.mp atSecond
    rw [← (target_of_mem_dispatchUser atFirst).1, ← (target_of_mem_dispatchUser atSecond).1,
      same] at other
    exact other rfl

end Once

/-! ## Exactly what is owed -/

/-- The call that a registered callback gets for the event. -/
def Registration.push (r : Registration) (ev : PushEventInput) : Option Call :=
  NpWebApiPush.push r.kind r.libCtxId r.context.stored r.titleUserCtxId ev r.callbackId r.callback

theorem Registered.eq_of_target {all : Contexts} {r r' : Registration} (first : Registered all r)
    (second : Registered all r') (same : r.target = r'.target) : r = r' := by
  obtain ⟨libCtxId, context, titleUserCtxId, user, kind, callbackId, callback, args⟩ := r
  obtain ⟨libCtxId', context', titleUserCtxId', user', kind', callbackId', callback', args'⟩ := r'
  obtain ⟨rfl, rfl, rfl, rfl⟩ := Target.mk.inj same
  obtain rfl := eq_of_distinct all.distinctContexts first.context second.context
  obtain rfl := eq_of_distinct (all.distinctUsers _ first.context) first.user second.user
  obtain rfl := eq_of_distinct (all.distinctCallbacks _ first.context _ first.user kind)
    first.callback second.callback
  obtain rfl : args = args' := Option.some.inj (first.filter.symm.trans second.filter)
  rfl

theorem lookup_stored {context : PushContext FilterArgs} {kind : PushKind} {id : Int} :
    (context.stored.filters kind).lookup id =
      ((context.filters kind).lookup id).map (createFilter kind) :=
  lookup_map_snd _ _ _

theorem mem_functions_of_called {kind : PushKind} {cb : Callback} {f : Signature × Nat}
    (function : called kind cb = some f) : cb.functions kind ≠ [] := by
  cases kind with
  | basic =>
    obtain ⟨raw, present, -⟩ := Option.map_eq_some_iff.mp function
    simp [Callback.functions, present]
  | service =>
    obtain ⟨raw, present, -⟩ := Option.map_eq_some_iff.mp function
    simp [Callback.functions, present]
  | extended =>
    rw [called, extendedFunction] at function
    cases second : cb.cbFuncA with
    | some a => simp [Callback.functions, second]
    | none =>
      rw [second] at function
      obtain ⟨raw, present, -⟩ := Option.map_eq_some_iff.mp function
      simp [Callback.functions, present]

/-- Whoever is called is owed the event. -/
theorem owed_of_mem_dispatch {all : Contexts} {ev : PushEventInput} {call : Call}
    (member : call ∈ dispatch all.stored ev) :
    ∃ r, Owed all ev r ∧ r.target = call.target ∧ r.push ev = some call := by
  obtain ⟨c, stored, member⟩ := List.mem_flatMap.mp member
  obtain ⟨⟨libId, context⟩, known, rfl⟩ := List.mem_map.mp stored
  obtain ⟨⟨ucKey, uc⟩, user, member⟩ := List.mem_flatMap.mp member
  obtain ⟨target, kind, ⟨cbId, cb⟩, callback, pushed⟩ := mem_dispatchUser.mp member
  obtain ⟨f, flt, function, filter, accepted, callTarget, -⟩ := push_eq_some pushed
  rw [lookup_stored] at filter
  obtain ⟨args, asGiven, rfl⟩ := Option.map_eq_some_iff.mp filter
  refine ⟨⟨libId, context, ucKey, uc, kind, cbId, cb, args⟩, ⟨?_, target, ?_⟩, callTarget.symm,
    pushed⟩
  · exact ⟨known, user, callback, asGiven, mem_functions_of_called function⟩
  · exact (matched_createFilter.mp accepted).1

theorem mem_dispatch_of_push {all : Contexts} {ev : PushEventInput} {call : Call}
    {r : Registration} (owed : Owed all ev r) (pushed : r.push ev = some call) :
    call ∈ dispatch all.stored ev := by
  refine List.mem_flatMap.mpr ⟨(r.libCtxId, r.context.stored), ?_, ?_⟩
  · exact List.mem_map.mpr ⟨(r.libCtxId, r.context), owed.registered.context, rfl⟩
  · refine List.mem_flatMap.mpr ⟨(r.titleUserCtxId, r.user), owed.registered.user, ?_⟩
    exact mem_dispatchUser.mpr
      ⟨owed.target, r.kind, (r.callbackId, r.callback), owed.registered.callback, pushed⟩

theorem push_iff_mem_dispatch {all : Contexts} {ev : PushEventInput} {call : Call}
    {r : Registration} (owed : Owed all ev r) (target : r.target = call.target) :
    r.push ev = some call ↔ call ∈ dispatch all.stored ev := by
  constructor
  · exact mem_dispatch_of_push owed
  · intro member
    obtain ⟨r', owed', target', pushed⟩ := owed_of_mem_dispatch member
    have same := owed.registered.eq_of_target owed'.registered (target.trans target'.symm)
    exact same ▸ pushed

theorem called_iff {kind : PushKind} {cb : Callback} (some_ : cb.functions kind ≠ []) :
    (∃ f, called kind cb = some f ∧ f.1 ≠ .extd) ↔
      (kind = .service → cb.cbFunc ≠ none) ∧ (kind = .extended → cb.cbFuncA ≠ none) := by
  cases kind with
  | basic =>
    cases present : cb.cbFunc with
    | none => simp [Callback.functions, present] at some_
    | some raw => simp [called, present]
  | service =>
    cases present : cb.cbFunc with
    | none => simp [called, present]
    | some raw => simp [called, present]
  | extended =>
    cases second : cb.cbFuncA with
    | some a => simp [called, extendedFunction, second]
    | none =>
      cases present : cb.cbFunc with
      | none => simp [Callback.functions, second, present] at some_
      | some raw => simp [called, extendedFunction, second, present]

theorem exarr_eq_iff {args : FilterArgs} {ev : PushEventInput} :
    exarr (createFilter .extended args) ev =
        ev.extdData.filter (fun pair => decide (Requests args ev pair.1)) ↔
      ∀ pair ∈ ev.extdData, Requests args ev pair.1 → pair.1 ∈ firstKeys args ev := by
  rw [exarr_createFilter, filter_eq_filter_iff]
  · simp only [decide_eq_true_iff]
  · intro pair _ first
    exact decide_eq_true (exists_key_of_firstKeys (of_decide_eq_true first))

/-- A callback that is owed an event gets it as it is due where it is sound. -/
theorem push_due_iff {all : Contexts} {ev : PushEventInput} {r : Registration}
    (owed : Owed all ev r) :
    (∃ call, r.push ev = some call ∧ call.received = some (due r ev)) ↔ Sound r ev := by
  have known : (r.context.stored.filters r.kind).lookup r.callback.filterId =
      some (createFilter r.kind r.args) := by
    rw [lookup_stored, owed.registered.filter, Option.map_some]
  have type : snprintf 65 ev.dataType = ev.dataType := by
    obtain ⟨-, p, -, type⟩ := owed.accepts
    rw [← type, snprintf_charArray]
  have functions := called_iff owed.registered.function
  constructor
  · rintro ⟨call, pushed, received⟩
    obtain ⟨f, flt, function, filter, accepted, -, found_⟩ := push_eq_some pushed
    rw [known, Option.some.injEq] at filter
    rw [found_, found, ← filter] at received
    have declared : f.1 ≠ .extd := by
      intro extd
      rw [if_pos extd] at received
      cases received
    rw [if_neg declared, Option.some.injEq, due, Received.mk.injEq] at received
    obtain ⟨service, extended⟩ := functions.mp ⟨f, function, declared⟩
    rw [← filter] at accepted
    refine ⟨service, extended, (matched_createFilter.mp accepted).2, ?_⟩
    intro kind
    rw [kind, if_pos rfl, if_pos rfl] at received
    exact exarr_eq_iff.mp received.2.2
  · intro sound
    obtain ⟨f, function, declared⟩ := functions.mpr ⟨sound.service, sound.extended⟩
    have accepted := matched_createFilter.mpr ⟨owed.accepts, sound.label⟩
    obtain ⟨call, pushed⟩ := Option.isSome_iff_exists.mp (push_isSome function known accepted)
    refine ⟨call, pushed, ?_⟩
    obtain ⟨f', flt, function', filter, -, -, found_⟩ := push_eq_some pushed
    rw [known, Option.some.injEq] at filter
    rw [function, Option.some.injEq] at function'
    rw [found_, found, ← function', if_neg declared, ← filter, type, due]
    by_cases kind : r.kind = .extended
    · rw [if_pos kind, if_pos kind, kind, exarr_eq_iff.mpr (sound.keys kind)]
    · rw [if_neg kind, if_neg kind]

theorem exact_dispatch_iff {all : Contexts} {ev : PushEventInput} :
    Exact all ev (dispatch all.stored ev) ↔ ∀ r, Owed all ev r → Sound r ev := by
  constructor
  · intro delivered r owed
    obtain ⟨call, member, target⟩ := List.mem_map.mp ((delivered.owed r.target).mpr ⟨r, owed, rfl⟩)
    have pushed := (push_iff_mem_dispatch owed target.symm).mpr member
    exact (push_due_iff owed).mp ⟨call, pushed, delivered.received call member r owed target.symm⟩
  · intro sound
    refine ⟨nodup_dispatch all ev, ?_, ?_⟩
    · intro t
      constructor
      · intro called
        obtain ⟨call, member, rfl⟩ := List.mem_map.mp called
        obtain ⟨r, owed, target, -⟩ := owed_of_mem_dispatch member
        exact ⟨r, owed, target⟩
      · rintro ⟨r, owed, rfl⟩
        obtain ⟨call, pushed, -⟩ := (push_due_iff owed).mpr (sound r owed)
        refine List.mem_map.mpr ⟨call, mem_dispatch_of_push owed pushed, ?_⟩
        obtain ⟨-, -, -, -, -, target, -⟩ := push_eq_some pushed
        exact target
    · intro call member r owed target
      obtain ⟨call', pushed, received⟩ := (push_due_iff owed).mpr (sound r owed)
      have same := (push_iff_mem_dispatch owed target).mpr member
      rw [pushed, Option.some.injEq] at same
      exact same ▸ received

/-- Nobody is called who is not owed the event. -/
theorem length_dispatch_le {all : Contexts} {ev : PushEventInput} {calls : List Call}
    (due : Exact all ev calls) : (dispatch all.stored ev).length ≤ calls.length := by
  have within : ((dispatch all.stored ev).map Call.target).Subset (calls.map Call.target) := by
    intro t called
    obtain ⟨call, member, rfl⟩ := List.mem_map.mp called
    obtain ⟨r, owed, target, -⟩ := owed_of_mem_dispatch member
    exact (due.owed call.target).mpr ⟨r, owed, target⟩
  have shorter := (List.subperm_of_subset (nodup_dispatch all ev) within).length_le
  rw [List.length_map, List.length_map] at shorter
  exact shorter

theorem sound_of_delivers {all : Contexts} {queue : List PushEventInput}
    (delivered : DeliversExactly all queue (drainPushEvents all.stored queue)) :
    ∀ ev ∈ queue, ∀ r, Owed all ev r → Sound r ev := by
  obtain ⟨blocks, same, each⟩ := delivered
  intro ev member
  refine exact_dispatch_iff.mp
    (forall_mem_of_blocks (f := dispatch all.stored) ?_ each same ev member)
  exact fun _ _ exact_ => length_dispatch_le exact_

/-- The queue is delivered exactly where every callback that is owed an event is sound. -/
theorem push_events_delivered_iff (all : Contexts) (queue : List PushEventInput) :
    DeliversExactly all queue (drainPushEvents all.stored queue) ↔
      ∀ ev ∈ queue, ∀ r, Owed all ev r → Sound r ev := by
  constructor
  · exact sound_of_delivers
  · intro sound
    refine ⟨queue.map (dispatch all.stored), ?_, ?_⟩
    · rw [drainPushEvents, List.flatMap_def]
    · rw [List.forall₂_map_right_iff, List.forall₂_same]
      exact fun ev member => exact_dispatch_iff.mpr (sound ev member)

/-! ### A service filter without a service name -/

def oneType : FilterArgs := { filterParams := [{ dataType := ⟨[], by decide, by decide⟩ }] }

def oneServiceCallback : PushUserContext :=
  { userId := 1
    callbacks := fun kind =>
      if kind = .service then [(1, { filterId := 1, cbFunc := some 1 })] else [] }

def oneServiceContext : PushContext FilterArgs :=
  { userContexts := [(65537, oneServiceCallback)], filters := fun _ => [(1, oneType)] }

theorem distinct_oneServiceCallback (kind : PushKind) :
    ((oneServiceCallback.callbacks kind).map Prod.fst).Nodup := by
  cases kind with
  | basic => exact List.nodup_nil
  | service => exact List.nodup_singleton 1
  | extended => exact List.nodup_nil

theorem distinct_oneServiceContext : ∀ c ∈ [((1 : Int), oneServiceContext)],
    ∀ u ∈ c.2.userContexts, ∀ kind, ((u.2.callbacks kind).map Prod.fst).Nodup := by
  intro c known u user
  rw [List.mem_singleton.mp known] at user
  rw [List.mem_singleton.mp user]
  exact distinct_oneServiceCallback

theorem distinct_oneServiceUser : ∀ c ∈ [((1 : Int), oneServiceContext)],
    (c.2.userContexts.map Prod.fst).Nodup := by
  intro c known
  rw [List.mem_singleton.mp known]
  exact List.nodup_singleton 65537

def oneService : Contexts :=
  { contexts := [(1, oneServiceContext)]
    distinctContexts := List.nodup_singleton 1
    distinctUsers := distinct_oneServiceUser
    distinctCallbacks := distinct_oneServiceContext }

/-- Its label is kept, and then it accepts nothing. -/
theorem unnamed_service_filter_accepts_nothing : ¬∀ (all : Contexts) (queue : List PushEventInput),
    DeliversExactly all queue (drainPushEvents all.stored queue) := by
  intro delivers
  have sound := sound_of_delivers (delivers oneService [{ targetUserId := 1 }]) _
    (List.mem_singleton.mpr rfl)
    ⟨1, oneServiceContext, 65537, oneServiceCallback, .service, 1,
      { filterId := 1, cbFunc := some 1 }, oneType⟩
    ⟨⟨List.mem_singleton.mpr rfl, List.mem_singleton.mpr rfl, List.mem_singleton.mpr rfl, rfl,
      by decide⟩, rfl, rfl, _, List.mem_singleton.mpr rfl, rfl⟩
  exact absurd (sound.label (by decide) rfl) (by decide)

end NpWebApiPush
