import ShadNet.Matching2.Turns

/-!
# Replies and reused context ids

A pending request remembers the id of its context, and the ids are reused. The
history variable `issuer` tells which object the request was made on; a reply
finds its way to a later context exactly where the slot has gone to another
object in the meantime.
-/

namespace NpMatching2

open LockProgram NpSignaling Matching2State

/-- Objects stay in the registry, under the id they were made with. -/
def Registry.Grows (r r' : Registry) : Prop :=
  ∀ a ∈ r.lives, ∃ b ∈ r'.lives, b.object = a.object ∧ b.ctxId = a.ctxId

namespace Registry.Grows

variable {r r' r'' : Registry}

theorem refl (r : Registry) : r.Grows r := fun a member => ⟨a, member, rfl, rfl⟩

theorem trans (first : r.Grows r') (second : r'.Grows r'') : r.Grows r'' := by
  intro a member
  obtain ⟨b, member', object, ctxId⟩ := first a member
  obtain ⟨c, member'', object', ctxId'⟩ := second b member'
  exact ⟨c, member'', object'.trans object, ctxId'.trans ctxId⟩

theorem mark {f : Lifecycle → Lifecycle} (same : ∀ a, (f a).object = a.object ∧
    (f a).ctxId = a.ctxId) (object : Nat) : r.Grows (r.mark object f) := by
  intro a member
  by_cases named : a.object = object
  · exact ⟨f a, KeyedTable.mem_adjust_self member named, same a⟩
  · exact ⟨a, KeyedTable.mem_adjust_other member named, rfl, rfl⟩

theorem free (object : Nat) : r.Grows (r.free object) :=
  @mark r Lifecycle.release (fun _ => ⟨rfl, rfl⟩) object

theorem create (ctxId : Nat) : r.Grows (r.create ctxId) :=
  fun a member => ⟨a, List.mem_append_left _ member, rfl, rfl⟩

theorem reset : r.Grows r.reset :=
  fun a member => ⟨a.release, List.mem_map_of_mem member, rfl, rfl⟩

theorem destroy (ctxId : Nat) : r.Grows (r.destroy ctxId) := by
  simp only [Registry.destroy]
  cases r.slot ctxId with
  | none => exact refl r
  | some a =>
    dsimp only
    split
    · exact @mark { r with destroyed := r.destroyed ++ [a.object] } Lifecycle.condemn
        (fun _ => ⟨rfl, rfl⟩) _
    · exact @free { r with destroyed := r.destroyed ++ [a.object] } _

theorem completeStop (ctxId expectedContext : Nat) :
    r.Grows (r.completeStop ctxId expectedContext) := by
  simp only [Registry.completeStop]
  cases r.slot ctxId with
  | none => exact refl r
  | some a =>
    have settled : r.Grows (r.mark a.object Lifecycle.settle) :=
      @mark r Lifecycle.settle (fun _ => ⟨rfl, rfl⟩) _
    dsimp only
    split
    · exact refl r
    · split
      · exact settled.trans (free a.object)
      · exact settled

theorem start (ctxId : Nat) : r.Grows (r.start ctxId) := by
  simp only [Registry.start]
  cases r.slot ctxId with
  | none => exact refl r
  | some a =>
    dsimp only
    split
    · exact refl r
    · exact @mark r Lifecycle.begin_ (fun _ => ⟨rfl, rfl⟩) _

theorem stop (ctxId : Nat) : r.Grows (r.stop ctxId) := by
  simp only [Registry.stop]
  cases r.slot ctxId with
  | none => exact refl r
  | some a =>
    dsimp only
    split
    · exact @mark r Lifecycle.halt (fun _ => ⟨rfl, rfl⟩) _
    · exact refl r

theorem fire (ev : PendingEvent) : r.Grows (r.fire ev) := by
  simp only [Registry.fire]
  split
  · exact completeStop ev.ctxId ev.owner
  · exact refl r

end Registry.Grows

/-- The context objects are kept apart, and each request was made on an object of its id. -/
structure Issued (s : Matching2State) : Prop where
  incarnated : Incarnated s.registry
  issuer : ∀ pr ∈ s.pending, ∃ a ∈ s.registry.lives, a.object = pr.issuer ∧ a.ctxId = pr.ctxId

theorem issued_start : Issued {} := by
  refine ⟨⟨rfl, ?_, ?_, ?_, ?_⟩, ?_⟩ <;> simp [registry]

section Steps

variable {s s' : Matching2State} {r' : Registry} {t : Traffic}

theorem Issued.next (issued : Issued s) (registry : s'.registry = r')
    (incarnated : Incarnated r') (grows : s.registry.Grows r') (traffic : s'.traffic = t)
    (pending : ∀ pr ∈ t.pending, pr ∈ s.pending ∨
      ∃ a ∈ s.registry.lives, a.object = pr.issuer ∧ a.ctxId = pr.ctxId) : Issued s' := by
  subst registry traffic
  refine ⟨incarnated, ?_⟩
  intro pr member
  have before : ∃ a ∈ s.registry.lives, a.object = pr.issuer ∧ a.ctxId = pr.ctxId := by
    rcases pending pr member with old | new
    · exact issued.issuer pr old
    · exact new
  obtain ⟨a, known, object, ctxId⟩ := before
  obtain ⟨b, known', object', ctxId'⟩ := grows a known
  exact ⟨b, known', object'.trans object, ctxId'.trans ctxId⟩

/-- No request is entered, and the registry moves on. -/
theorem Issued.moved (issued : Issued s) (registry : s'.registry = r')
    (incarnated : Incarnated r') (grows : s.registry.Grows r') (traffic : s'.traffic = t)
    (pending : t.pending ⊆ s.pending) : Issued s' :=
  issued.next registry incarnated grows traffic (fun _ member => Or.inl (pending member))

theorem Issued.kept (issued : Issued s) (registry : s'.registry = s.registry)
    (traffic : s'.traffic = t) (pending : t.pending ⊆ s.pending) : Issued s' :=
  issued.moved registry issued.incarnated (.refl s.registry) traffic pending

theorem Accepted.pending {ctxId object : Nat} {reqEvent : Matching2Event}
    (accepted : Accepted s ctxId object reqEvent t) :
    ∀ pr ∈ t.pending, pr ∈ s.pending ∨ (pr.issuer = object ∧ pr.ctxId = ctxId) := by
  cases accepted with
  | answered ev owner request disabled other => exact fun pr member => Or.inl member
  | registered pr pktId ctx issuer event enabled =>
    intro other member
    rcases KeyedTable.mem_store.mp member with ⟨old, -⟩ | rfl
    · exact Or.inl old
    · exact Or.inr ⟨issuer, ctx⟩

/-- A submission on the context in a slot. -/
theorem Issued.accepted (issued : Issued s) {ctxId : Nat} {a : Lifecycle}
    {reqEvent : Matching2Event} (slot : s.registry.slot ctxId = some a)
    (registry : s'.registry = r') (incarnated : Incarnated r') (grows : s.registry.Grows r')
    (accepted : Accepted s ctxId a.object reqEvent s'.traffic) : Issued s' := by
  refine issued.next registry incarnated grows rfl ?_
  intro pr member
  rcases accepted.pending pr member with old | ⟨issuer, ctx⟩
  · exact Or.inl old
  · obtain ⟨known, -, named⟩ := Incarnated.slot_some slot
    exact Or.inr ⟨a, known, issuer.symm, named.trans ctx.symm⟩

theorem take_pending (pktId : Nat) : (s.traffic.take pktId).pending ⊆ s.pending :=
  fun _ member => (KeyedTable.mem_remove.mp member).1

theorem Incarnated.fire {r : Registry} (inc : Incarnated r) (ev : PendingEvent) :
    Incarnated (r.fire ev) := by
  simp only [Registry.fire]
  split
  · exact inc.completeStop ev.ctxId ev.owner
  · exact inc

theorem issued_createContextWith {valid aVariant : Bool} {onlineId : OrbisNpOnlineId}
    (issued : Issued s) : Issued ((createContextWith valid onlineId aVariant).exec s).2 := by
  obtain ⟨traffic, same | ⟨ctxId, free, made⟩⟩ :=
    createContextWith_turn valid onlineId aVariant s
  · exact issued.kept same traffic (List.Subset.refl _)
  · exact issued.moved made (issued.incarnated.create free) (.create ctxId) traffic
      (List.Subset.refl _)

/-- Every operation keeps the requests with their objects. -/
theorem issued_step (op : Op) (s : Matching2State) (issued : Issued s) :
    Issued (op.complete s) := by
  by_cases beside : op.beside
  · obtain ⟨traffic, registry⟩ := unmoved_beside (beside_program beside) s
    exact issued.kept registry traffic (List.Subset.refl _)
  have inc := issued.incarnated
  cases op with
  | matching2Terminate =>
    rcases terminate_turn s with ⟨traffic, registry⟩ | ⟨registry, same | cleared⟩
    · exact issued.kept registry traffic (List.Subset.refl _)
    · exact issued.moved registry inc.reset .reset same (List.Subset.refl _)
    · exact issued.moved registry inc.reset .reset cleared (List.Subset.refl _)
  | createContext valid onlineId =>
    rw [createContext_complete]
    exact issued_createContextWith issued
  | createContextA valid onlineId =>
    rw [createContextA_complete]
    exact issued_createContextWith issued
  | destroyContext ctxId =>
    obtain ⟨traffic, same | gone⟩ := destroyContext_turn ctxId s
    · exact issued.kept same traffic (List.Subset.refl _)
    · exact issued.moved gone (inc.destroy ctxId) (.destroy ctxId) traffic (List.Subset.refl _)
  | contextStart call ctxId =>
    rcases contextStart_turn call ctxId s with
      ⟨-, traffic, registry⟩ | ⟨a, ⟨-, -, slot, -⟩, registry, ⟨-, same⟩ | ⟨-, accepted⟩⟩
    · exact issued.kept registry traffic (List.Subset.refl _)
    · exact issued.moved registry (inc.start ctxId) (.start ctxId) same (List.Subset.refl _)
    · exact issued.accepted slot registry (inc.start ctxId) (.start ctxId) accepted
  | contextStop call ctxId =>
    rcases contextStop_turn call ctxId s with
      ⟨-, traffic, registry⟩ | ⟨a, ⟨-, slot, -⟩, ⟨-, traffic, registry⟩ | ⟨-, registry, accepted⟩⟩
    · exact issued.kept registry traffic (List.Subset.refl _)
    · have stopped : s.registry.Grows (s.registry.stop ctxId) := .stop ctxId
      exact issued.moved registry ((inc.stop ctxId).completeStop ctxId a.object)
        (stopped.trans (.completeStop ctxId a.object)) traffic (List.Subset.refl _)
    · exact issued.accepted slot registry (inc.stop ctxId) (.stop ctxId) accepted
  | request call api ctxId valid requestOpt =>
    obtain ⟨registry, ⟨-, a, event, slot, -, accepted⟩ |
      ⟨-, same | ⟨a, ev, -, -, -, queued⟩⟩⟩ := request_turn call api ctxId valid requestOpt s
    · exact issued.accepted slot registry inc (.refl s.registry) accepted
    · exact issued.kept registry same (List.Subset.refl _)
    · exact issued.kept registry queued (List.Subset.refl _)
  | reply pktId errorCode body input =>
    obtain ⟨registry, ⟨-, same⟩ | ⟨pr, -, ⟨-, taken⟩ | ⟨a, ev, -, -, queued⟩⟩⟩ :=
      reply_turn pktId errorCode body input s
    · exact issued.kept registry same (List.Subset.refl _)
    · exact issued.kept registry taken (take_pending pktId)
    · exact issued.kept registry queued (take_pending pktId)
  | roomEvent n input =>
    obtain ⟨registry, same | ⟨ev, -, queued⟩⟩ := roomEvent_turn n input s
    · exact issued.kept registry same (List.Subset.refl _)
    · exact issued.kept registry queued (List.Subset.refl _)
  | roomMessage ctxId roomId srcMemberId =>
    obtain ⟨registry, same | ⟨ev, -, queued⟩⟩ := roomMessage_turn ctxId roomId srcMemberId s
    · exact issued.kept registry same (List.Subset.refl _)
    · exact issued.kept registry queued (List.Subset.refl _)
  | takeReady =>
    obtain ⟨registry, same | ⟨-, taken⟩⟩ := takeReady_turn s
    · exact issued.kept registry same (List.Subset.refl _)
    · exact issued.kept registry taken (List.Subset.refl _)
  | fireEvent =>
    rcases fireEvent_turn s with ⟨-, same⟩ | ⟨ev, rest, -, traffic, registry⟩
    · exact same.symm ▸ issued
    · exact issued.moved registry (inc.fire ev) (.fire ev) traffic (List.Subset.refl _)
  | clearMmShadNetClient => exact issued.kept rfl rfl (List.nil_subset _)
  | _ => simp [Op.beside] at beside

end Steps

/-! ## The law -/

/-- Nothing was scheduled on the context, and its cache and its own fields are as they were. -/
structure Untouched (ctx : ContextObject) (s s' : Matching2State) : Prop where
  events : s'.scheduled.filter (·.owner = ctx.object) = s.scheduled.filter (·.owner = ctx.object)
  signalingEvents : s'.np.matching2Events.filter (·.ctxId = ctx.ctxId) =
    s.np.matching2Events.filter (·.ctxId = ctx.ctxId)
  cache : s'.cache ctx.ctxId = s.cache ctx.ctxId
  context : s'.context? ctx.ctxId = some ctx

/-- The reply to a request whose context is gone leaves the context that has its id now alone. -/
def RepliesIsolated (op : Op) (s s' : Matching2State) : Prop :=
  ∀ pktId errorCode body input, op = .reply pktId errorCode body input →
    ∀ pr, s.pending? pktId = some pr → pr.issuer ∈ s.freed →
      ∀ ctx, s.context? pr.ctxId = some ctx → Untouched ctx s s'

/-- When a reply is handled, no other context has got the id of the one that asked. -/
def IdNotReused (op : Op) (s : Matching2State) : Prop :=
  ∀ pktId errorCode body input, op = .reply pktId errorCode body input →
    ∀ pr, s.pending? pktId = some pr →
      ∀ ctx, s.context? pr.ctxId = some ctx → ctx.object = pr.issuer

theorem lives_of_context {s : Matching2State} {ctxId : Nat} {ctx : ContextObject}
    (found : s.context? ctxId = some ctx) :
    ctx.lifecycle ∈ s.registry.lives ∧ ctx.live ∧ ctx.ctxId = ctxId := by
  obtain ⟨member, live, named⟩ := context?_some found
  exact ⟨List.mem_map_of_mem member, live, named⟩

theorem isolated_of_not_reused {op : Op} {s : Matching2State} (issued : Issued s)
    (kept : IdNotReused op s) : RepliesIsolated op s (op.complete s) := by
  rintro pktId errorCode body input rfl pr found gone ctx slot
  have same := kept pktId errorCode body input rfl pr found ctx slot
  obtain ⟨member, live, -⟩ := lives_of_context slot
  have freed : ctx.object ∈ s.freed := same.symm ▸ gone
  have dead := (issued.incarnated.freed ctx.lifecycle member).mp freed
  rw [show ctx.lifecycle.live = ctx.live from rfl, live] at dead
  cases dead

/-- The event of the reply goes to whatever context is in the slot. -/
theorem not_reused_of_isolated {op : Op} {s : Matching2State} (issued : Issued s)
    (isolated : RepliesIsolated op s (op.complete s)) : IdNotReused op s := by
  rintro pktId errorCode body input rfl pr found ctx slot
  obtain ⟨member, live, named⟩ := lives_of_context slot
  obtain ⟨a, known, object, ctxId⟩ := issued.issuer pr (KeyedTable.lookup_some found).1
  by_contra other
  have gone : pr.issuer ∈ s.freed := by
    cases alive : a.live with
    | true =>
      have same := issued.incarnated.slots ctx.lifecycle member a known live alive
        (named.trans ctxId.symm)
      exact absurd ((congrArg Lifecycle.object same).trans object) other
    | false => exact object ▸ (issued.incarnated.freed a known).mpr alive
  have untouched := isolated pktId errorCode body input rfl pr found gone ctx slot
  have slot' : s.registry.slot pr.ctxId = some ctx.lifecycle := by simp [slot_registry, slot]
  obtain ⟨-, ⟨absent, -⟩ | ⟨pr', found', ⟨empty, -⟩ | ⟨b, ev, slot'', answer, queued⟩⟩⟩ :=
    reply_turn pktId errorCode body input s
  · rw [found] at absent
    cases absent
  · obtain rfl : pr = pr' := Option.some.inj (found.symm.trans found')
    rw [slot'] at empty
    cases empty
  · obtain rfl : pr = pr' := Option.some.inj (found.symm.trans found')
    obtain rfl : ctx.lifecycle = b := Option.some.inj (slot'.symm.trans slot'')
    have scheduled : ((Op.reply pktId errorCode body input).complete s).scheduled =
        s.scheduled ++ [ev] := congrArg Traffic.scheduled queued
    have owned : ev.owner = ctx.object := answer.2.1
    have events := congrArg List.length untouched.events
    simp [scheduled, List.filter_append, owned] at events

/-- In every run: replies to requests of contexts that are gone leave the later contexts of their
ids alone, exactly where no reply is handled after its id was reused. -/
theorem replies_isolated_iff (ops : List Op) :
    Runs.Throughout Op.complete (fun _ => True) RepliesIsolated ops {} ↔
      Runs.Admitted Op.complete IdNotReused ops {} :=
  Runs.throughout_iff_admitted (fun _ _ => trivial)
    (fun op s issued kept => ⟨issued_step op s issued, isolated_of_not_reused issued kept⟩)
    (fun _ _ issued isolated => not_reused_of_isolated issued isolated) issued_start

/-- A request is made on the first context; the context is destroyed and ten more are made, the
last of them with the id of the first. -/
def reusedId : List Op :=
  [.matching2Initialize true true, .connectUser true, .createContext true ali.handle,
    .request 0 .createJoinRoom 1 true none, .destroyContext 1] ++
  List.replicate 10 (.createContext true ali.handle)

theorem reusedId_reused :
    ((runOps reusedId {}).pending? 1).map (fun pr => (pr.ctxId, pr.issuer)) = some (1, 0) ∧
      ((runOps reusedId {}).context? 1).map (·.object) = some 10 := by
  decide +kernel

/-- The reply that comes then schedules its event on the eleventh context. -/
theorem reply_reaches_later_context :
    ¬ ∀ ops, Runs.Throughout Op.complete (fun _ => True) RepliesIsolated ops {} := by
  intro isolated
  have admitted := (replies_isolated_iff _).mp (isolated
    (reusedId ++ [.reply 1 0 {} ⟨false, fun _ => none, 0⟩]))
  obtain ⟨-, kept, -⟩ := Runs.admitted_append.mp admitted
  obtain ⟨pending, slot⟩ := reusedId_reused
  obtain ⟨pr, found, issued⟩ := Option.map_eq_some_iff.mp pending
  obtain ⟨ctx, found', object⟩ := Option.map_eq_some_iff.mp slot
  obtain ⟨ctxId, issuer⟩ := Prod.mk.inj issued
  have same := kept 1 0 {} ⟨false, fun _ => none, 0⟩ rfl pr found ctx (ctxId.symm ▸ found')
  omega

end NpMatching2
