import ShadNet.Signaling.Api
import ShadNet.TokenBucket

/-!
# The activation budget

The budget of a context is a token bucket with one token a microsecond, a capacity of
kActivateBudgetMaxUs and a cost of kActivateCooldownUs for each accepted activation. Times are
those of the steady clock, whose microseconds stay far from the ends of an s64.
-/

namespace NpSignaling

open TokenBucket

/-- The outcomes of a sequence of calls at the given times. -/
def activationOutcomes : List Int → NpSignalingContext → List (Int × Bool)
  | [], _ => []
  | now :: times, ctx =>
    (now, (consumeActivationBudgetLocked now ctx).1) ::
      activationOutcomes times (consumeActivationBudgetLocked now ctx).2

/-- The context after a sequence of calls. -/
def afterActivations (times : List Int) (ctx : NpSignalingContext) : NpSignalingContext :=
  times.foldl (fun ctx now => (consumeActivationBudgetLocked now ctx).2) ctx

/-- The budget is in its bounds and was last touched at a time of the clock, zero for never. -/
structure Budgeted (ctx : NpSignalingContext) : Prop where
  bounds : 0 ≤ ctx.activateBudgetUs ∧ ctx.activateBudgetUs ≤ kActivateBudgetMaxUs
  stamped : 0 ≤ ctx.activateLastUpdateUs

/-- What the rate limit says of the calls at the given times. -/
structure RateLimited (times : List Int) (ctx : NpSignalingContext) : Prop where
  bounds : ∀ earlier, earlier <+: times →
    0 ≤ (afterActivations earlier ctx).activateBudgetUs ∧
      (afterActivations earlier ctx).activateBudgetUs ≤ kActivateBudgetMaxUs
  window : ∀ first length : Int, 0 ≤ length →
    (accepted first (first + length) (activationOutcomes times ctx) : Int) ≤
      (kActivateBudgetMaxUs + length) / kActivateCooldownUs
  free : ∀ kept, Thinned (activationOutcomes times ctx) kept →
    activationOutcomes (kept.map Prod.fst) ctx = kept
  freed : activationOutcomes
      (((activationOutcomes times ctx).filter Prod.snd).map Prod.fst) ctx =
    (activationOutcomes times ctx).filter Prod.snd

/-- A context that was never asked has a full budget. -/
def bucketOf (ctx : NpSignalingContext) : Bucket :=
  if ctx.activateLastUpdateUs = 0 then ⟨kActivateBudgetMaxUs, 0⟩
  else ⟨ctx.activateBudgetUs, ctx.activateLastUpdateUs⟩

variable {now : Int} {times : List Int} {ctx : NpSignalingContext}

theorem bucketOf_stamp : (bucketOf ctx).stamp = ctx.activateLastUpdateUs := by
  unfold bucketOf
  split
  · next never => exact never.symm
  · rfl

theorem bucketOf_level (budgeted : Budgeted ctx) :
    0 ≤ (bucketOf ctx).level ∧ (bucketOf ctx).level ≤ kActivateBudgetMaxUs := by
  unfold bucketOf
  split
  · constructor <;> decide
  · exact budgeted.bounds

theorem newContext_budgeted (request : ContextRequest) (ctxId : Nat) (positive : 0 < now) :
    Budgeted (newContext request ctxId now) where
  bounds := by constructor <;> dsimp only [newContext, kActivateBudgetMaxUs] <;> omega
  stamped := by
    dsimp only [newContext]
    omega

/-! ## A call spends from the bucket -/

/-- What a call finds in the budget. -/
theorem refilled (positive : 0 < now) (later : ctx.activateLastUpdateUs ≤ now) :
    (if ctx.activateLastUpdateUs = 0 then kActivateBudgetMaxUs
      else min kActivateBudgetMaxUs
        (ctx.activateBudgetUs + max 0 (now - ctx.activateLastUpdateUs))) =
      levelAt kActivateBudgetMaxUs now (bucketOf ctx) := by
  unfold levelAt bucketOf
  split
  · dsimp only
    omega
  · dsimp only
    omega

theorem consume_short (positive : 0 < now) (later : ctx.activateLastUpdateUs ≤ now)
    (short : levelAt kActivateBudgetMaxUs now (bucketOf ctx) < kActivateCooldownUs) :
    consumeActivationBudgetLocked now ctx = (false, { ctx with
      activateLastUpdateUs := now
      activateBudgetUs := levelAt kActivateBudgetMaxUs now (bucketOf ctx) }) := by
  unfold consumeActivationBudgetLocked
  dsimp only
  rw [refilled positive later, if_pos short]

theorem consume_enough (positive : 0 < now) (later : ctx.activateLastUpdateUs ≤ now)
    (enough : ¬levelAt kActivateBudgetMaxUs now (bucketOf ctx) < kActivateCooldownUs) :
    consumeActivationBudgetLocked now ctx = (true, { ctx with
      activateLastUpdateUs := now
      activateBudgetUs :=
        levelAt kActivateBudgetMaxUs now (bucketOf ctx) - kActivateCooldownUs }) := by
  unfold consumeActivationBudgetLocked
  dsimp only
  rw [refilled positive later, if_neg enough]

/-- A call does to the context what spending does to its bucket. -/
theorem consume_spends (positive : 0 < now) (later : ctx.activateLastUpdateUs ≤ now) :
    spend kActivateBudgetMaxUs kActivateCooldownUs now (bucketOf ctx) =
      ((consumeActivationBudgetLocked now ctx).1,
        bucketOf (consumeActivationBudgetLocked now ctx).2) := by
  have touched : ¬now = 0 := by omega
  by_cases short : levelAt kActivateBudgetMaxUs now (bucketOf ctx) < kActivateCooldownUs
  · rw [spend_short short, consume_short positive later short]
    simp only [bucketOf, touched, if_false]
  · rw [spend_enough short, consume_enough positive later short]
    simp only [bucketOf, touched, if_false]

theorem consume_budgeted (budgeted : Budgeted ctx) (positive : 0 < now)
    (later : ctx.activateLastUpdateUs ≤ now) :
    Budgeted (consumeActivationBudgetLocked now ctx).2 ∧
      (consumeActivationBudgetLocked now ctx).2.activateLastUpdateUs = now := by
  have filled := bucketOf_level budgeted
  have atStamp : (bucketOf ctx).stamp = ctx.activateLastUpdateUs := bucketOf_stamp
  by_cases short : levelAt kActivateBudgetMaxUs now (bucketOf ctx) < kActivateCooldownUs
  · rw [consume_short positive later short]
    refine ⟨⟨?_, by dsimp only; omega⟩, rfl⟩
    dsimp only
    unfold levelAt at short ⊢
    omega
  · rw [consume_enough positive later short]
    refine ⟨⟨?_, by dsimp only; omega⟩, rfl⟩
    have most : levelAt kActivateBudgetMaxUs now (bucketOf ctx) ≤ kActivateBudgetMaxUs ∧ _ :=
      levelAt_le
    dsimp only [kActivateCooldownUs] at short ⊢
    omega

/-! ## Sequences of calls -/

theorem activationOutcomes_eq (positive : ∀ now ∈ times, 0 < now)
    (sorted : (ctx.activateLastUpdateUs :: times).Pairwise (· ≤ ·)) (budgeted : Budgeted ctx) :
    activationOutcomes times ctx =
      outcomes kActivateBudgetMaxUs kActivateCooldownUs times (bucketOf ctx) := by
  induction times generalizing ctx with
  | nil => rfl
  | cons now times ih =>
    obtain ⟨earlier, rest⟩ := List.pairwise_cons.mp sorted
    have now_pos : 0 < now := positive now (List.mem_cons_self ..)
    have later : ctx.activateLastUpdateUs ≤ now := earlier now (List.mem_cons_self ..)
    obtain ⟨stays, stamp⟩ := consume_budgeted budgeted now_pos later
    have tail := ih (fun next member => positive next (List.mem_cons_of_mem _ member))
      (stamp.symm ▸ rest) stays
    rw [activationOutcomes, outcomes, consume_spends now_pos later, tail]

theorem afterActivations_budgeted (positive : ∀ now ∈ times, 0 < now)
    (sorted : (ctx.activateLastUpdateUs :: times).Pairwise (· ≤ ·)) (budgeted : Budgeted ctx) :
    Budgeted (afterActivations times ctx) := by
  induction times generalizing ctx with
  | nil => exact budgeted
  | cons now times ih =>
    obtain ⟨earlier, rest⟩ := List.pairwise_cons.mp sorted
    obtain ⟨stays, stamp⟩ := consume_budgeted budgeted (positive now (List.mem_cons_self ..))
      (earlier now (List.mem_cons_self ..))
    exact ih (fun next member => positive next (List.mem_cons_of_mem _ member))
      (by rw [stamp]; exact rest) stays

/-- Calls at positive nondecreasing times are limited, and refused calls cost nothing. -/
theorem activation_rateLimited (positive : ∀ now ∈ times, 0 < now)
    (sorted : (ctx.activateLastUpdateUs :: times).Pairwise (· ≤ ·)) (budgeted : Budgeted ctx) :
    RateLimited times ctx := by
  have refines := activationOutcomes_eq positive sorted budgeted
  have level := bucketOf_level budgeted
  have stamped : ((bucketOf ctx).stamp :: times).Pairwise (· ≤ ·) := by
    rw [bucketOf_stamp]
    exact sorted
  have free : ∀ kept, Thinned (activationOutcomes times ctx) kept →
      activationOutcomes (kept.map Prod.fst) ctx = kept := by
    intro kept thinned
    have among : (kept.map Prod.fst).Sublist times := by
      rw [refines] at thinned
      exact thinned_times thinned
    have keeps := activationOutcomes_eq
      (fun now member => positive now (among.subset member))
      (sorted.sublist (among.cons_cons _)) budgeted
    rw [keeps]
    exact outcomes_thinned (by decide) (refines ▸ thinned)
  constructor
  case bounds =>
    rintro earlier ⟨rest, rfl⟩
    have shorter : (ctx.activateLastUpdateUs :: earlier).Sublist
        (ctx.activateLastUpdateUs :: (earlier ++ rest)) :=
      (List.sublist_append_left earlier rest).cons_cons _
    exact (afterActivations_budgeted
      (fun now member => positive now (List.mem_append_left _ member))
      (sorted.sublist shorter) budgeted).bounds
  case window =>
    intro first length long
    have counted : kActivateCooldownUs * accepted first (first + length) (outcomes
        kActivateBudgetMaxUs kActivateCooldownUs times (bucketOf ctx)) ≤
          kActivateBudgetMaxUs + (first + length - first) :=
      accepted_window (by decide) (by decide) level.1 stamped (by omega)
    rw [refines, Int.le_ediv_iff_mul_le (by decide), Int.mul_comm]
    omega
  case free => exact free
  case freed => exact free _ (thinned_accepted _)

/-- A new context, asked three times. -/
theorem activation_rateLimited_ali :
    RateLimited [5, 6, 6] (newContext ⟨ali, none, 0, 0, 0, 0⟩ 1 5) :=
  activation_rateLimited (by decide) (by decide) (newContext_budgeted _ 1 (by decide))

end NpSignaling
