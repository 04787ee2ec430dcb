import ShadNet.IdSearch
import ShadNet.Signaling.Index

/-!
# The id allocators

A seed is 0 until it is first used, and every allocation leaves it inside its range. From there
the tries are enough for one turn of the range, so an id is found whenever one is free. A seed above
the range would be tried like an id of it.
-/

namespace NpSignaling

open IdSearch LockProgram

/-! ## Contexts -/

def followingContextId (candidate : Nat) : Nat := if candidate = 8 then 1 else candidate + 1

/-- How many tries come before the one at the free id. -/
def contextDistance (free candidate : Nat) : Nat :=
  if candidate ≤ free then free - candidate else 8 - candidate + free

theorem contextDistance_lt {free candidate : Nat} (positive : 1 ≤ candidate)
    (inRange : candidate ≤ 8) (below : free ≤ 8) : contextDistance free candidate < 8 := by
  simp only [contextDistance]
  split <;> omega

theorem contextDistance_following {free candidate : Nat} (inRange : candidate ≤ 8)
    (positive : 1 ≤ free) (below : free ≤ 8) (passed : candidate ≠ free) :
    contextDistance free (followingContextId candidate) + 1 = contextDistance free candidate := by
  simp only [contextDistance, followingContextId]
  split_ifs <;> omega

theorem followingContextId_range {candidate : Nat} (inRange : candidate ≤ 8) :
    1 ≤ followingContextId candidate ∧ followingContextId candidate ≤ 8 := by
  simp only [followingContextId]
  split <;> omega

theorem tryContextIds_range {s : NpSignalingState} {tries candidate ctxId : Nat}
    (positive : 1 ≤ candidate) (inRange : candidate ≤ 8)
    (found : tryContextIds s tries candidate = some ctxId) : 1 ≤ ctxId ∧ ctxId ≤ 8 := by
  induction tries generalizing candidate with
  | zero => simp [tryContextIds] at found
  | succ tries ih =>
    rw [tryContextIds] at found
    by_cases free : (s.context? candidate).isNone
    · rw [if_pos free] at found
      obtain rfl := Option.some.inj found
      exact ⟨positive, inRange⟩
    · rw [if_neg free] at found
      have next := followingContextId_range inRange
      exact ih next.1 next.2 found

/-- The search goes through every id of the range, wherever in it it starts. -/
theorem tryContextIds_finds {s : NpSignalingState} {free : Nat} (positive : 1 ≤ free)
    (below : free ≤ 8) (untaken : s.context? free = none) {tries candidate : Nat}
    (inRange : candidate ≤ 8) (enough : contextDistance free candidate < tries) :
    tryContextIds s tries candidate ≠ none := by
  induction tries generalizing candidate with
  | zero => omega
  | succ tries ih =>
    rw [tryContextIds]
    by_cases found : (s.context? candidate).isNone
    · rw [if_pos found]
      exact Option.some_ne_none candidate
    · rw [if_neg found]
      have passed : candidate ≠ free := by
        rintro rfl
        exact found (by simp [untaken])
      have closer := contextDistance_following inRange positive below passed
      have further : contextDistance free (followingContextId candidate) < tries := by omega
      exact ih (followingContextId_range inRange).2 further

/-! ## The two seeds -/

theorem followingSeed_range (seed : Nat) :
    1 ≤ (if seed + 1 > 0x7fff then 1 else seed + 1) ∧
      (if seed + 1 > 0x7fff then 1 else seed + 1) ≤ 0x7fff := by
  split <;> omega

/-- The seed left behind, wherever the search started. -/
theorem trySeeds_following {taken : Nat → Bool} {tries seed : Nat} (some_ : tries ≠ 0) :
    1 ≤ (trySeeds taken tries seed).2 ∧ (trySeeds taken tries seed).2 ≤ 0x7fff := by
  have next := followingSeed_range seed
  induction tries generalizing seed with
  | zero => exact absurd rfl some_
  | succ tries ih =>
    rw [trySeeds]
    by_cases found : seed ≠ 0 ∧ taken seed = false
    · rw [if_pos found]
      exact next
    · rw [if_neg found]
      by_cases last : tries = 0
      · rw [last, trySeeds]
        exact next
      · exact ih last (followingSeed_range _)

/-! ## What is asked of them -/

/-- The value of the source: an id, or -1. -/
def returned : Option Nat → Int
  | some id => id
  | none => -1

/-- An id of `1..limit` that is not in use is returned if there is one, and -1 if there is none;
the seed is left in range. -/
structure AllocatesId (taken : Nat → Bool) (limit : Nat) (result : Option Nat) (seed : Nat) :
    Prop where
  allocates : Allocates (fun id => taken id.toNat = true) 0 limit (-1)
    (fun _ => some (returned result))
  seedInRange : seed ≤ limit

theorem serves_of {taken : Nat → Bool} {limit seed : Nat} {result : Option Nat}
    (sound : ∀ id ∈ result, 1 ≤ id ∧ id ≤ limit ∧ taken id = false)
    (complete : ∀ id, 1 ≤ id → id ≤ limit → taken id = false → result ≠ none)
    (seedInRange : seed ≤ limit) : AllocatesId taken limit result seed := by
  refine ⟨⟨?_, ?_⟩, seedInRange⟩
  · rintro ⟨free, above, below, unused⟩
    have untaken : taken free.toNat = false := by simpa using unused
    have some_ := complete free.toNat (by omega) (by omega) untaken
    obtain ⟨id, same⟩ := Option.ne_none_iff_exists'.mp some_
    obtain ⟨positive, inRange, free⟩ := sound id same
    refine ⟨id, ?_, by omega, by omega, by simp [free]⟩
    rw [ends_const, same, returned]
  · intro none_
    rw [ends_const]
    cases result with
    | none => rfl
    | some id =>
      obtain ⟨positive, inRange, free⟩ := sound id rfl
      exact absurd ⟨(id : Int), by omega, by omega, by simp [free]⟩ none_

def contextTaken (s : NpSignalingState) (id : Nat) : Bool := (s.context? id).isSome

def connectionTaken (s : NpSignalingState) (id : Nat) : Bool := (s.connection? id).isSome

def transportTaken (s : NpSignalingState) (id : Nat) : Bool := (s.transport? id).isSome

def ServesContext (s : NpSignalingState) : Prop :=
  AllocatesId (contextTaken s) 8 (allocateContextIdLocked s).1
    (allocateContextIdLocked s).2.lastAssignedContextId

def ServesConnection (random : UInt32) (s : NpSignalingState) : Prop :=
  AllocatesId (connectionTaken s) 0x7fff (allocateConnectionIdLocked random s).1
    (allocateConnectionIdLocked random s).2.connectionIdSeed

def ServesTransport (s : NpSignalingState) : Prop :=
  AllocatesId (transportTaken s) 0x7fff (allocateTransportIdLocked s).1
    (allocateTransportIdLocked s).2.transportIdSeed

theorem serves_trySeeds {taken : Nat → Bool} {seed : Nat} (inRange : seed ≤ 0x7fff) :
    AllocatesId taken 0x7fff (trySeeds taken 0x10000 seed).1 (trySeeds taken 0x10000 seed).2 := by
  refine serves_of ?_ ?_ (trySeeds_following (by omega)).2
  · intro id found
    obtain ⟨nonzero, free⟩ := trySeeds_free (Prod.ext found rfl)
    have bounds := trySeeds_range (Prod.ext found rfl)
    exact ⟨by omega, by omega, free⟩
  · intro id positive below free
    exact trySeeds_finds (by omega) below free (seedDistance_lt id seed below)

section Allocators

variable {s : NpSignalingState}

theorem allocateContextId_some {ctxId : Nat}
    (tried : tryContextIds s 8 (followingContextId s.lastAssignedContextId) = some ctxId) :
    allocateContextIdLocked s = (some ctxId, { s with lastAssignedContextId := ctxId }) := by
  rw [followingContextId] at tried
  unfold allocateContextIdLocked
  dsimp only
  rw [tried]

theorem allocateContextId_none
    (tried : tryContextIds s 8 (followingContextId s.lastAssignedContextId) = none) :
    allocateContextIdLocked s = (none, s) := by
  rw [followingContextId] at tried
  unfold allocateContextIdLocked
  dsimp only
  rw [tried]

theorem servesContext (inRange : s.lastAssignedContextId ≤ 8) : ServesContext s := by
  have start := followingContextId_range inRange
  cases tried : tryContextIds s 8 (followingContextId s.lastAssignedContextId) with
  | none =>
    rw [ServesContext, allocateContextId_none tried]
    refine serves_of (by simp) ?_ inRange
    intro id positive below free
    have untaken : s.context? id = none := by simpa [contextTaken] using free
    have near := contextDistance_lt start.1 start.2 below
    exact absurd tried (tryContextIds_finds positive below untaken start.2 near)
  | some ctxId =>
    have bounds := tryContextIds_range start.1 start.2 tried
    have free := tryContextIds_free tried
    rw [ServesContext, allocateContextId_some tried]
    refine serves_of ?_ (by simp) bounds.2
    rintro id same
    obtain rfl := Option.some.inj same
    exact ⟨bounds.1, bounds.2, by simp [contextTaken, free]⟩

theorem servesConnection (random : UInt32) (inRange : s.connectionIdSeed ≤ 0x7fff) :
    ServesConnection random s := by
  unfold ServesConnection
  cases allocated : allocateConnectionIdLocked random s with
  | mk connId s' =>
    simp only [allocateConnectionIdLocked, Prod.mk.injEq] at allocated
    obtain ⟨rfl, rfl⟩ := allocated
    apply serves_trySeeds
    split
    · split <;> omega
    · exact inRange

theorem servesTransport (inRange : s.transportIdSeed ≤ 0x7fff) : ServesTransport s := by
  unfold ServesTransport
  cases allocated : allocateTransportIdLocked s with
  | mk transportId s' =>
    simp only [allocateTransportIdLocked, Prod.mk.injEq] at allocated
    obtain ⟨rfl, rfl⟩ := allocated
    apply serves_trySeeds
    split <;> omega

end Allocators

/-! ## Runs -/

structure SeedsInRange (s : NpSignalingState) : Prop where
  context : s.lastAssignedContextId ≤ 8
  connection : s.connectionIdSeed ≤ 0x7fff
  transport : s.transportIdSeed ≤ 0x7fff

/-- The allocations, the reset that unsets two of the seeds, and `others`: whatever the rest of the
library does, which leaves the seeds alone. -/
inductive IdMove where
  | contextId
  | connectionId (random : UInt32)
  | transportId
  | reset
  | others (rest : NpSignalingState)

def IdMove.apply : IdMove → NpSignalingState → NpSignalingState
  | .contextId, s => (allocateContextIdLocked s).2
  | .connectionId random, s => (allocateConnectionIdLocked random s).2
  | .transportId, s => (allocateTransportIdLocked s).2
  | .reset, s => resetSig1Data s
  | .others rest, s =>
    { rest with
      lastAssignedContextId := s.lastAssignedContextId
      connectionIdSeed := s.connectionIdSeed
      transportIdSeed := s.transportIdSeed }

/-- An allocation of a context id touches the seed of the contexts alone. -/
theorem allocateContextId_seed (s : NpSignalingState) :
    ∃ ctxId, (allocateContextIdLocked s).2 = { s with lastAssignedContextId := ctxId } := by
  cases tried : tryContextIds s 8 (followingContextId s.lastAssignedContextId) with
  | none => exact ⟨s.lastAssignedContextId, by rw [allocateContextId_none tried]⟩
  | some ctxId => exact ⟨ctxId, by rw [allocateContextId_some tried]⟩

theorem SeedsInRange.apply {s : NpSignalingState} (seeds : SeedsInRange s) (move : IdMove) :
    SeedsInRange (move.apply s) := by
  cases move with
  | contextId =>
    have served := (servesContext seeds.context).seedInRange
    obtain ⟨ctxId, only⟩ := allocateContextId_seed s
    rw [only] at served
    rw [IdMove.apply, only]
    exact ⟨served, seeds.connection, seeds.transport⟩
  | connectionId random =>
    exact ⟨seeds.context, (servesConnection random seeds.connection).seedInRange, seeds.transport⟩
  | transportId =>
    exact ⟨seeds.context, seeds.connection, (servesTransport seeds.transport).seedInRange⟩
  | reset => exact ⟨Nat.zero_le _, Nat.zero_le _, seeds.transport⟩
  | others rest => exact ⟨seeds.context, seeds.connection, seeds.transport⟩

def AllocatorsServe (s : NpSignalingState) : Prop :=
  ServesContext s ∧ (∀ random, ServesConnection random s) ∧ ServesTransport s

theorem SeedsInRange.serve {s : NpSignalingState} (seeds : SeedsInRange s) : AllocatorsServe s :=
  ⟨servesContext seeds.context, fun random => servesConnection random seeds.connection,
    servesTransport seeds.transport⟩

end NpSignaling
