import ShadNet.Matching2.Frames

/-!
# The registry of context lives

The context manager, without what the contexts carry: ten slots, and the objects
that have come and gone in them. Each function of the manager acts on the
registry as the function of the same name here, and every one of them keeps the
objects of a slot apart.
-/

namespace NpMatching2

open LockProgram NpSignaling Matching2State

namespace Lifecycle

def begin_ (a : Lifecycle) : Lifecycle :=
  { a with started := true, stopPending := false, destroyPending := false }

def halt (a : Lifecycle) : Lifecycle := { a with started := false, stopPending := true }

def condemn (a : Lifecycle) : Lifecycle := { a with destroyPending := true }

def settle (a : Lifecycle) : Lifecycle := { a with stopPending := false }

def release (a : Lifecycle) : Lifecycle := { a with live := false }

/-- A change that leaves the object in its slot. -/
def Keeps (f : Lifecycle → Lifecycle) : Prop :=
  ∀ a, (f a).object = a.object ∧ (f a).ctxId = a.ctxId ∧ (f a).live = a.live

theorem keeps_begin : Keeps begin_ := fun _ => ⟨rfl, rfl, rfl⟩

theorem keeps_halt : Keeps halt := fun _ => ⟨rfl, rfl, rfl⟩

theorem keeps_condemn : Keeps condemn := fun _ => ⟨rfl, rfl, rfl⟩

theorem keeps_settle : Keeps settle := fun _ => ⟨rfl, rfl, rfl⟩

end Lifecycle

namespace Registry

def slot (ctxId : Nat) (r : Registry) : Option Lifecycle :=
  r.lives.find? (fun a => a.live && a.ctxId = ctxId)

def mark (object : Nat) (f : Lifecycle → Lifecycle) (r : Registry) : Registry :=
  { r with lives := KeyedTable.adjust Lifecycle.object object f r.lives }

def create (ctxId : Nat) (r : Registry) : Registry :=
  { r with lives := r.lives ++ [{
      object := r.lives.length
      ctxId
      live := true
      started := false
      stopPending := false
      destroyPending := false }] }

def free (object : Nat) (r : Registry) : Registry :=
  { r.mark object Lifecycle.release with freed := r.freed ++ [object] }

def destroy (ctxId : Nat) (r : Registry) : Registry :=
  match r.slot ctxId with
  | none => r
  | some a =>
    let r := { r with destroyed := r.destroyed ++ [a.object] }
    if a.stopPending then r.mark a.object Lifecycle.condemn else r.free a.object

def completeStop (ctxId expectedContext : Nat) (r : Registry) : Registry :=
  match r.slot ctxId with
  | none => r
  | some a =>
    if a.object ≠ expectedContext then r
    else
      let r := r.mark a.object Lifecycle.settle
      if a.destroyPending then r.free a.object else r

def start (ctxId : Nat) (r : Registry) : Registry :=
  match r.slot ctxId with
  | none => r
  | some a => if a.started then r else r.mark a.object Lifecycle.begin_

def stop (ctxId : Nat) (r : Registry) : Registry :=
  match r.slot ctxId with
  | none => r
  | some a => if a.started then r.mark a.object Lifecycle.halt else r

def reset (r : Registry) : Registry :=
  { r with
    lives := r.lives.map Lifecycle.release
    freed := r.freed ++ (r.lives.filter (·.live)).map (·.object) }

end Registry

/-! ## The manager acts on the registry -/

theorem slot_registry (ctxId : Nat) (s : Matching2State) :
    s.registry.slot ctxId = (s.context? ctxId).map (·.lifecycle) := by
  simp only [Registry.slot, registry, context?, List.find?_map]
  rfl

theorem registry_mark {object : Nat} {f : ContextObject → ContextObject}
    {g : Lifecycle → Lifecycle} (same : ∀ ctx, (f ctx).lifecycle = g ctx.lifecycle)
    (s : Matching2State) : (s.adjustObject object f).registry = s.registry.mark object g := by
  have lives : (s.adjustObject object f).contexts.map (·.lifecycle) =
      KeyedTable.adjust Lifecycle.object object g (s.contexts.map (·.lifecycle)) := by
    simp only [adjustObject, KeyedTable.adjust, List.map_map]
    refine List.map_congr_left (fun ctx _ => ?_)
    simp only [Function.comp]
    by_cases named : ctx.object = object
    · rw [if_pos named, if_pos (show ctx.lifecycle.object = object from named)]
      exact same ctx
    · rw [if_neg named, if_neg (show ¬ctx.lifecycle.object = object from named)]
  simp only [registry, lives, Registry.mark]
  rfl

theorem registry_freeContext (ctx : ContextObject) (s : Matching2State) :
    (freeContext ctx s).registry = s.registry.free ctx.object := by
  have marked := @registry_mark ctx.object (fun ctx => { ctx with live := false })
    Lifecycle.release (fun _ => rfl) (resetCache ctx.ctxId s)
  have lives := congrArg Registry.lives marked
  simp only [registry] at lives
  simp only [freeContext, registry, lives]
  rfl

theorem registry_contextManagerDestroy (ctxId : Nat) (s : Matching2State) :
    (contextManagerDestroy ctxId s).2.registry = s.registry.destroy ctxId := by
  simp only [contextManagerDestroy, Registry.destroy, slot_registry]
  cases s.context? ctxId with
  | none => rfl
  | some ctx =>
    simp only [Option.map_some]
    by_cases pending : ctx.stopPending
    · rw [if_pos pending, if_pos (show ctx.lifecycle.stopPending = true from pending)]
      exact @registry_mark ctx.object (fun ctx => { ctx with destroyPending := true })
        Lifecycle.condemn (fun _ => rfl) _
    · rw [if_neg pending, if_neg (show ¬ctx.lifecycle.stopPending = true from pending)]
      exact registry_freeContext ctx _

theorem registry_contextManagerCompleteStop (ctxId expectedContext : Nat)
    (s : Matching2State) :
    (contextManagerCompleteStop ctxId expectedContext s).registry =
      s.registry.completeStop ctxId expectedContext := by
  simp only [contextManagerCompleteStop, Registry.completeStop, slot_registry]
  cases s.context? ctxId with
  | none => rfl
  | some ctx =>
    simp only [Option.map_some]
    have settled := @registry_mark ctx.object (fun ctx => { ctx with stopPending := false })
      Lifecycle.settle (fun _ => rfl) s
    by_cases named : ctx.object = expectedContext
    · rw [if_neg (not_not.mpr named),
        if_neg (not_not.mpr (show ctx.lifecycle.object = expectedContext from named))]
      by_cases condemned : ctx.destroyPending
      · rw [if_pos condemned, if_pos (show ctx.lifecycle.destroyPending = true from condemned),
          registry_freeContext, settled]
        rfl
      · rw [if_neg condemned,
          if_neg (show ¬ctx.lifecycle.destroyPending = true from condemned), settled]
        rfl
    · rw [if_pos named, if_pos (show ctx.lifecycle.object ≠ expectedContext from named)]

theorem registry_contextManagerStart (ctxId : Nat) (s : Matching2State) :
    (contextManagerStart ctxId s).2.registry = s.registry.start ctxId := by
  simp only [contextManagerStart, Registry.start, slot_registry]
  cases s.context? ctxId with
  | none => rfl
  | some ctx =>
    simp only [Option.map_some]
    by_cases started : ctx.started
    · rw [if_pos started, if_pos (show ctx.lifecycle.started = true from started)]
    · rw [if_neg started, if_neg (show ¬ctx.lifecycle.started = true from started)]
      exact @registry_mark ctx.object _ Lifecycle.begin_ (fun _ => rfl) s

theorem registry_contextManagerStop (ctxId : Nat) (s : Matching2State) :
    (contextManagerStop ctxId s).2.registry = s.registry.stop ctxId := by
  simp only [contextManagerStop, Registry.stop, slot_registry]
  cases s.context? ctxId with
  | none => rfl
  | some ctx =>
    simp only [Option.map_some]
    by_cases started : ctx.started
    · rw [if_pos started, if_pos (show ctx.lifecycle.started = true from started)]
      exact @registry_mark ctx.object _ Lifecycle.halt (fun _ => rfl) s
    · rw [if_neg started, if_neg (show ¬ctx.lifecycle.started = true from started)]

theorem registry_contextManagerReset (s : Matching2State) :
    (contextManagerReset s).registry = s.registry.reset := by
  simp only [contextManagerReset, registry, Registry.reset, List.map_map, List.filter_map]
  rfl

/-- A context is made in a slot that was free. -/
theorem registry_contextManagerCreate (onlineId : OrbisNpOnlineId) (aVariant : Bool)
    (s : Matching2State) :
    (contextManagerCreate onlineId aVariant s).2.registry = s.registry ∨
      ∃ ctxId, s.registry.slot ctxId = none ∧
        (contextManagerCreate onlineId aVariant s).2.registry = s.registry.create ctxId := by
  simp only [contextManagerCreate]
  cases found : freeSlot s with
  | none => exact Or.inl rfl
  | some ctxId =>
    have free : (s.context? ctxId).isNone :=
      @List.find?_some _ (fun id => (s.context? id).isNone) ctxId _ found
    refine Or.inr ⟨ctxId, ?_, ?_⟩
    · rw [slot_registry, Option.isNone_iff_eq_none.mp free]
      rfl
    · simp only [registry, Registry.create, List.map_append, List.length_map]
      rfl

/-! ## Incarnations -/

/-- Objects are numbered in the order they were made, a slot holds one live object at most, and an
object is gone from its slot exactly when it was freed, which happens once. -/
structure Incarnated (r : Registry) : Prop where
  numbered : r.lives.map (·.object) = List.range r.lives.length
  slots : ∀ a ∈ r.lives, ∀ b ∈ r.lives, a.live → b.live → a.ctxId = b.ctxId → a = b
  freed : ∀ a ∈ r.lives, a.object ∈ r.freed ↔ a.live = false
  freedOnce : r.freed.Nodup
  known : ∀ object, object ∈ r.freed ∨ object ∈ r.destroyed → object < r.lives.length

namespace Incarnated

variable {r : Registry}

theorem distinct (inc : Incarnated r) : KeyedTable.Distinct Lifecycle.object r.lives := by
  rw [KeyedTable.Distinct, inc.numbered]
  exact List.nodup_range

theorem object_lt (inc : Incarnated r) {a : Lifecycle} (member : a ∈ r.lives) :
    a.object < r.lives.length := by
  have named : a.object ∈ r.lives.map (·.object) := List.mem_map_of_mem member
  rw [inc.numbered] at named
  exact List.mem_range.mp named

theorem slot_some {ctxId : Nat} {a : Lifecycle} (found : r.slot ctxId = some a) :
    a ∈ r.lives ∧ a.live ∧ a.ctxId = ctxId := by
  have passes := List.find?_some found
  exact ⟨List.mem_of_find?_eq_some found, by simpa using passes⟩

theorem slot_none {ctxId : Nat} (free : r.slot ctxId = none) {a : Lifecycle}
    (member : a ∈ r.lives) (live : a.live) : a.ctxId ≠ ctxId := by
  have fails := List.find?_eq_none.mp free a member
  simpa [live] using fails

theorem slot_of_live (inc : Incarnated r) {a : Lifecycle} (member : a ∈ r.lives)
    (live : a.live) : r.slot a.ctxId = some a := by
  cases found : r.slot a.ctxId with
  | none => exact absurd rfl (slot_none found member live)
  | some b =>
    obtain ⟨other, alive, same⟩ := slot_some found
    rw [inc.slots b other a member alive live same]

/-- A change in place. -/
theorem mark (inc : Incarnated r) {object : Nat} {f : Lifecycle → Lifecycle}
    (keeps : Lifecycle.Keeps f) : Incarnated (r.mark object f) := by
  have names : (KeyedTable.adjust Lifecycle.object object f r.lives).map (·.object) =
      r.lives.map (·.object) := KeyedTable.map_key_adjust (fun a => (keeps a).1) r.lives
  have length : (KeyedTable.adjust Lifecycle.object object f r.lives).length =
      r.lives.length := List.length_map _
  have origin : ∀ b ∈ KeyedTable.adjust Lifecycle.object object f r.lives,
      ∃ a ∈ r.lives, b.object = a.object ∧ b.ctxId = a.ctxId ∧ b.live = a.live ∧
        b = if a.object = object then f a else a := by
    intro b member
    obtain ⟨a, old, rfl⟩ := List.mem_map.mp member
    refine ⟨a, old, ?_⟩
    split
    · exact ⟨(keeps a).1, (keeps a).2.1, (keeps a).2.2, rfl⟩
    · exact ⟨rfl, rfl, rfl, rfl⟩
  constructor
  · simp only [Registry.mark, names, length]
    exact inc.numbered
  · intro b hb b' hb' live live' same
    obtain ⟨a, ha, -, ctxId, alive, form⟩ := origin b hb
    obtain ⟨a', ha', -, ctxId', alive', form'⟩ := origin b' hb'
    have equal := inc.slots a ha a' ha' (alive ▸ live) (alive' ▸ live')
      (by rw [← ctxId, ← ctxId', same])
    rw [form, form', equal]
  · intro b hb
    obtain ⟨a, ha, name, -, alive, -⟩ := origin b hb
    rw [name, alive]
    exact inc.freed a ha
  · exact inc.freedOnce
  · simp only [Registry.mark, length]
    exact inc.known

theorem create (inc : Incarnated r) {ctxId : Nat} (free : r.slot ctxId = none) :
    Incarnated (r.create ctxId) := by
  have unknown : r.lives.length ∉ r.freed :=
    fun member => Nat.lt_irrefl _ (inc.known _ (Or.inl member))
  constructor
  · simp only [Registry.create, List.map_append, List.length_append, List.length_singleton,
      List.range_succ, inc.numbered]
    rfl
  · intro a ha b hb alive alive' same
    rcases List.mem_append.mp ha with old | new
    · rcases List.mem_append.mp hb with old' | new'
      · exact inc.slots a old b old' alive alive' same
      · have other := slot_none free old alive
        rw [List.mem_singleton.mp new'] at same
        exact absurd same other
    · rcases List.mem_append.mp hb with old' | new'
      · have other := slot_none free old' alive'
        rw [List.mem_singleton.mp new] at same
        exact absurd same.symm other
      · rw [List.mem_singleton.mp new, List.mem_singleton.mp new']
  · intro a ha
    rcases List.mem_append.mp ha with old | new
    · exact inc.freed a old
    · rw [List.mem_singleton.mp new]
      simp [Registry.create, unknown]
  · exact inc.freedOnce
  · intro object gone
    have before := inc.known object gone
    simp only [Registry.create, List.length_append, List.length_singleton]
    omega

/-- A live object is let go. -/
theorem free (inc : Incarnated r) {a : Lifecycle} (member : a ∈ r.lives) (live : a.live) :
    Incarnated (r.free a.object) := by
  have held : a.object ∉ r.freed := by
    intro gone
    have dead := (inc.freed a member).mp gone
    rw [live] at dead
    cases dead
  have names : (KeyedTable.adjust Lifecycle.object a.object Lifecycle.release r.lives).map
      (·.object) = r.lives.map (·.object) :=
    KeyedTable.map_key_adjust (fun c => (rfl : c.release.object = c.object)) r.lives
  have length : (KeyedTable.adjust Lifecycle.object a.object Lifecycle.release r.lives).length =
      r.lives.length := List.length_map _
  have origin : ∀ b ∈ KeyedTable.adjust Lifecycle.object a.object Lifecycle.release r.lives,
      (b ∈ r.lives ∧ b.object ≠ a.object) ∨ b = a.release := by
    intro b hb
    obtain ⟨c, old, rfl⟩ := List.mem_map.mp hb
    by_cases named : c.object = a.object
    · rw [if_pos named, inc.distinct.eq_of_key old member named]
      exact Or.inr rfl
    · rw [if_neg named]
      exact Or.inl ⟨old, named⟩
  constructor
  · simp only [Registry.free, Registry.mark, names, length]
    exact inc.numbered
  · intro b hb c hc alive alive' same
    rcases origin b hb with ⟨old, -⟩ | rfl
    · rcases origin c hc with ⟨old', -⟩ | rfl
      · exact inc.slots b old c old' alive alive' same
      · cases alive'
    · cases alive
  · intro b hb
    rcases origin b hb with ⟨old, other⟩ | rfl
    · simp only [Registry.free, List.mem_append, List.mem_singleton, other, or_false]
      exact inc.freed b old
    · simp [Registry.free, Lifecycle.release]
  · simp only [Registry.free]
    exact List.nodup_append.mpr ⟨inc.freedOnce, by simp, by
      rintro x gone y named rfl
      rw [List.mem_singleton.mp named] at gone
      exact held gone⟩
  · intro object gone
    simp only [Registry.free, Registry.mark, length]
    simp only [Registry.free, Registry.mark, List.mem_append, List.mem_singleton] at gone
    rcases gone with (old | rfl) | old
    · exact inc.known object (Or.inl old)
    · exact inc.object_lt member
    · exact inc.known object (Or.inr old)

theorem accept (inc : Incarnated r) {a : Lifecycle} (member : a ∈ r.lives) :
    Incarnated { r with destroyed := r.destroyed ++ [a.object] } := by
  refine ⟨inc.numbered, inc.slots, inc.freed, inc.freedOnce, ?_⟩
  rintro object (gone | accepted)
  · exact inc.known object (Or.inl gone)
  · rcases List.mem_append.mp accepted with old | new
    · exact inc.known object (Or.inr old)
    · rw [List.mem_singleton.mp new]
      exact inc.object_lt member

theorem destroy (inc : Incarnated r) (ctxId : Nat) : Incarnated (r.destroy ctxId) := by
  simp only [Registry.destroy]
  cases found : r.slot ctxId with
  | none => exact inc
  | some a =>
    obtain ⟨member, live, -⟩ := slot_some found
    have accepted := inc.accept member
    dsimp only
    split
    · exact accepted.mark Lifecycle.keeps_condemn
    · exact accepted.free member live

theorem completeStop (inc : Incarnated r) (ctxId expectedContext : Nat) :
    Incarnated (r.completeStop ctxId expectedContext) := by
  simp only [Registry.completeStop]
  cases found : r.slot ctxId with
  | none => exact inc
  | some a =>
    obtain ⟨member, live, -⟩ := slot_some found
    have settled : Incarnated (r.mark a.object Lifecycle.settle) :=
      inc.mark Lifecycle.keeps_settle
    dsimp only
    split
    · exact inc
    · split
      · have here : a.settle ∈ (r.mark a.object Lifecycle.settle).lives :=
          KeyedTable.mem_adjust_self member rfl
        have freed : Incarnated ((r.mark a.object Lifecycle.settle).free a.settle.object) :=
          settled.free here live
        exact freed
      · exact settled

theorem start (inc : Incarnated r) (ctxId : Nat) : Incarnated (r.start ctxId) := by
  simp only [Registry.start]
  cases r.slot ctxId with
  | none => exact inc
  | some a =>
    dsimp only
    split
    · exact inc
    · exact inc.mark Lifecycle.keeps_begin

theorem stop (inc : Incarnated r) (ctxId : Nat) : Incarnated (r.stop ctxId) := by
  simp only [Registry.stop]
  cases r.slot ctxId with
  | none => exact inc
  | some a =>
    dsimp only
    split
    · exact inc.mark Lifecycle.keeps_halt
    · exact inc

theorem reset (inc : Incarnated r) : Incarnated r.reset := by
  have names : (r.lives.map Lifecycle.release).map (·.object) = r.lives.map (·.object) := by
    rw [List.map_map]
    rfl
  have alive : ((r.lives.filter (·.live)).map (·.object)).Nodup :=
    (List.filter_sublist.map _).nodup inc.distinct
  constructor
  · simp only [Registry.reset, names, List.length_map]
    exact inc.numbered
  · intro a ha b _ live
    obtain ⟨c, -, rfl⟩ := List.mem_map.mp ha
    cases live
  · intro a ha
    obtain ⟨c, old, rfl⟩ := List.mem_map.mp ha
    simp only [Registry.reset, Lifecycle.release, List.mem_append, iff_true]
    cases live : c.live with
    | false => exact Or.inl ((inc.freed c old).mpr live)
    | true =>
      exact Or.inr (List.mem_map.mpr ⟨c, List.mem_filter.mpr ⟨old, live⟩, rfl⟩)
  · refine List.nodup_append.mpr ⟨inc.freedOnce, alive, ?_⟩
    rintro x gone y named rfl
    obtain ⟨c, kept, rfl⟩ := List.mem_map.mp named
    obtain ⟨old, live⟩ := List.mem_filter.mp kept
    rw [(inc.freed c old).mp gone] at live
    cases live
  · intro object gone
    simp only [Registry.reset, List.length_map]
    simp only [Registry.reset, List.mem_append] at gone
    rcases gone with (old | named) | old
    · exact inc.known object (Or.inl old)
    · obtain ⟨c, kept, rfl⟩ := List.mem_map.mp named
      exact inc.object_lt (List.mem_filter.mp kept).1
    · exact inc.known object (Or.inr old)

end Incarnated

end NpMatching2
