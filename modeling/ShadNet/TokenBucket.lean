import Mathlib.Data.List.Basic

/-!
# Token buckets

A bucket fills by one token a tick up to its capacity, and a call is accepted when it can pay its
cost. What a bucket holds is remembered as the level it had at its last call, so two buckets with
the same lead of level over time cannot be told apart.
-/

namespace TokenBucket

/-- `level` is what the bucket held at `stamp`. -/
structure Bucket where
  level : Int
  stamp : Int
  deriving DecidableEq, Repr

section Bucket

variable (capacity cost : Int)

def levelAt (now : Int) (b : Bucket) : Int := min capacity (b.level + (now - b.stamp))

def spend (now : Int) (b : Bucket) : Bool × Bucket :=
  if levelAt capacity now b < cost then (false, ⟨levelAt capacity now b, now⟩)
  else (true, ⟨levelAt capacity now b - cost, now⟩)

/-- The calls with their outcomes, one at each of the times. -/
def outcomes : List Int → Bucket → List (Int × Bool)
  | [], _ => []
  | now :: times, b =>
    (now, (spend capacity cost now b).1) :: outcomes times (spend capacity cost now b).2

end Bucket

/-- The accepted calls from one time to another. -/
def accepted (first last : Int) (calls : List (Int × Bool)) : Nat :=
  calls.countP (fun call => call.2 && decide (first ≤ call.1) && decide (call.1 ≤ last))

/-- Some of the refused calls are left out. -/
inductive Thinned : List (Int × Bool) → List (Int × Bool) → Prop where
  | nil : Thinned [] []
  | keep {calls kept : List (Int × Bool)} (call : Int × Bool) (rest : Thinned calls kept) :
      Thinned (call :: calls) (call :: kept)
  | drop {calls kept : List (Int × Bool)} (now : Int) (rest : Thinned calls kept) :
      Thinned ((now, false) :: calls) kept

theorem Thinned.sublist {calls kept : List (Int × Bool)} (thinned : Thinned calls kept) :
    kept.Sublist calls := by
  induction thinned with
  | nil => exact List.Sublist.slnil
  | keep call rest ih => exact ih.cons_cons call
  | drop now rest ih => exact ih.cons (now, false)

/-- All refused calls may be left out. -/
theorem thinned_accepted (calls : List (Int × Bool)) : Thinned calls (calls.filter Prod.snd) := by
  induction calls with
  | nil => exact .nil
  | cons call calls ih =>
    obtain ⟨now, outcome⟩ := call
    cases outcome with
    | false => exact .drop now ih
    | true => exact .keep (now, true) ih

variable {capacity cost now : Int} {times : List Int} {b b' : Bucket}

theorem spend_stamp : (spend capacity cost now b).2.stamp = now := by
  rw [spend]
  split <;> rfl

theorem levelAt_le : levelAt capacity now b ≤ capacity ∧
    levelAt capacity now b ≤ b.level + (now - b.stamp) := by
  rw [levelAt]
  omega

theorem spend_short (short : levelAt capacity now b < cost) :
    spend capacity cost now b = (false, ⟨levelAt capacity now b, now⟩) := if_pos short

theorem spend_enough (enough : ¬levelAt capacity now b < cost) :
    spend capacity cost now b = (true, ⟨levelAt capacity now b - cost, now⟩) := if_neg enough

/-! ## What a bucket holds -/

theorem spend_level (costs : 0 ≤ cost) (room : 0 ≤ capacity) (filled : 0 ≤ b.level)
    (later : b.stamp ≤ now) : 0 ≤ (spend capacity cost now b).2.level ∧
      (spend capacity cost now b).2.level ≤ capacity := by
  rw [spend, levelAt]
  split
  · constructor <;> dsimp only <;> omega
  · constructor <;> dsimp only <;> omega

/-! ## How many calls are accepted -/

theorem accepted_cons (first last : Int) (call : Int × Bool) (calls : List (Int × Bool)) :
    accepted first last (call :: calls) = accepted first last calls +
      if call.2 ∧ first ≤ call.1 ∧ call.1 ≤ last then 1 else 0 := by
  rw [accepted, List.countP_cons, accepted]
  simp [and_assoc]

/-- Calls after the end of the window are not in it. -/
theorem accepted_late {first last : Int} {calls : List (Int × Bool)}
    (late : ∀ call ∈ calls, last < call.1) : accepted first last calls = 0 := by
  refine List.countP_eq_zero.mpr fun call member inside => ?_
  have beyond := late call member
  simp only [Bool.and_eq_true, decide_eq_true_eq] at inside
  omega

theorem mem_outcomes {call : Int × Bool} (member : call ∈ outcomes capacity cost times b) :
    call.1 ∈ times := by
  induction times generalizing b with
  | nil => cases member
  | cons now times ih =>
    rcases List.mem_cons.mp member with rfl | later
    · exact List.mem_cons_self ..
    · exact List.mem_cons_of_mem _ (ih later)

/-- What is spent up to a time is what there was and what has come in since. -/
theorem accepted_until (first last : Int) (costs : 0 ≤ cost) (room : 0 ≤ capacity)
    (filled : 0 ≤ b.level) (sorted : (b.stamp :: times).Pairwise (· ≤ ·))
    (ongoing : b.stamp ≤ last) :
    cost * accepted first last (outcomes capacity cost times b) ≤
      b.level + (last - b.stamp) := by
  induction times generalizing b with
  | nil =>
    simp only [outcomes, accepted, List.countP_nil]
    omega
  | cons now times ih =>
    obtain ⟨earlier, rest⟩ := List.pairwise_cons.mp sorted
    have later : b.stamp ≤ now := earlier now (List.mem_cons_self ..)
    by_cases inside : now ≤ last
    · have spent := spend_level (b := b) costs room filled later
      have counted := ih spent.1 (by rw [spend_stamp]; exact rest)
        (by rw [spend_stamp]; exact inside)
      rw [spend_stamp] at counted
      rw [outcomes, accepted_cons]
      by_cases short : levelAt capacity now b < cost
      · simp only [spend_short short, Bool.false_eq_true, false_and, if_false, Nat.add_zero]
          at counted ⊢
        have level : levelAt capacity now b ≤ capacity ∧ _ := levelAt_le
        omega
      · rw [spend_enough short] at counted ⊢
        have paid : cost * ((accepted first last (outcomes capacity cost times
              ⟨levelAt capacity now b - cost, now⟩) : Int) + 1) ≤
            b.level + (last - b.stamp) := by
          rw [Int.mul_add]
          have level : levelAt capacity now b ≤ capacity ∧ _ := levelAt_le
          dsimp only at counted
          omega
        have atMost : cost * ((accepted first last (outcomes capacity cost times
              ⟨levelAt capacity now b - cost, now⟩) : Int)) ≤
            b.level + (last - b.stamp) := by
          rw [Int.mul_add] at paid
          omega
        split
        · exact_mod_cast paid
        · exact_mod_cast atMost
    · have all : ∀ call ∈ outcomes capacity cost (now :: times) b, last < call.1 := by
        intro call member
        have among := mem_outcomes member
        rcases List.mem_cons.mp among with same | behind
        · omega
        · have ordered := (List.pairwise_cons.mp rest).1 _ behind
          omega
      rw [accepted_late all]
      omega

/-- In a window of any length the calls spend what a full bucket holds and what comes in. -/
theorem accepted_window {first last : Int} (costs : 0 ≤ cost) (room : 0 ≤ capacity)
    (filled : 0 ≤ b.level) (sorted : (b.stamp :: times).Pairwise (· ≤ ·))
    (window : first ≤ last) :
    cost * accepted first last (outcomes capacity cost times b) ≤ capacity + (last - first) := by
  induction times generalizing b with
  | nil =>
    simp only [outcomes, accepted, List.countP_nil]
    omega
  | cons now times ih =>
    obtain ⟨earlier, rest⟩ := List.pairwise_cons.mp sorted
    have later : b.stamp ≤ now := earlier now (List.mem_cons_self ..)
    have spent := spend_level (b := b) costs room filled later
    have sorted' : ((spend capacity cost now b).2.stamp :: times).Pairwise (· ≤ ·) := by
      rw [spend_stamp]
      exact rest
    rw [outcomes, accepted_cons]
    by_cases inside : first ≤ now ∧ now ≤ last
    · -- the first call of the window: the bucket is not more than full
      have counted := accepted_until first last costs room spent.1 sorted'
        (by rw [spend_stamp]; exact inside.2)
      rw [spend_stamp] at counted
      by_cases short : levelAt capacity now b < cost
      · simp only [spend_short short, Bool.false_eq_true, false_and, if_false, Nat.add_zero]
          at counted ⊢
        have level : levelAt capacity now b ≤ capacity ∧ _ := levelAt_le
        omega
      · rw [spend_enough short] at counted ⊢
        rw [if_pos ⟨rfl, inside⟩]
        have paid : cost * ((accepted first last (outcomes capacity cost times
              ⟨levelAt capacity now b - cost, now⟩) : Int) + 1) ≤ capacity + (last - first) := by
          rw [Int.mul_add]
          have level : levelAt capacity now b ≤ capacity ∧ _ := levelAt_le
          dsimp only at counted
          omega
        exact_mod_cast paid
    · rw [if_neg (fun h => inside h.2), Nat.add_zero]
      exact ih spent.1 sorted'

/-! ## Refused calls are free -/

/-- The buckets hold the same at every time. -/
def Alike (b b' : Bucket) : Prop := b.level - b.stamp = b'.level - b'.stamp

theorem levelAt_alike (alike : Alike b b') : levelAt capacity now b = levelAt capacity now b' := by
  rw [Alike] at alike
  rw [levelAt, levelAt]
  omega

theorem outcomes_alike (alike : Alike b b') :
    outcomes capacity cost times b = outcomes capacity cost times b' := by
  cases times with
  | nil => rfl
  | cons now times =>
    have same : spend capacity cost now b = spend capacity cost now b' := by
      rw [spend, spend, levelAt_alike alike]
    rw [outcomes, outcomes, same]

theorem alike_refused (affordable : cost ≤ capacity)
    (refused : (spend capacity cost now b).1 = false) :
    Alike b (spend capacity cost now b).2 := by
  rw [spend] at refused ⊢
  split at refused
  · next short =>
    rw [if_pos short, Alike]
    rw [levelAt] at short ⊢
    dsimp only
    omega
  · cases refused

theorem outcomes_times : (outcomes capacity cost times b).map Prod.fst = times := by
  induction times generalizing b with
  | nil => rfl
  | cons now times ih => rw [outcomes, List.map_cons, ih]

theorem thinned_times {kept : List (Int × Bool)}
    (thinned : Thinned (outcomes capacity cost times b) kept) :
    (kept.map Prod.fst).Sublist times := by
  have shorter := thinned.sublist.map Prod.fst
  rw [outcomes_times] at shorter
  exact shorter

/-- Leaving out refused calls changes no other outcome. -/
theorem outcomes_thinned {kept : List (Int × Bool)} (affordable : cost ≤ capacity)
    (thinned : Thinned (outcomes capacity cost times b) kept) :
    outcomes capacity cost (kept.map Prod.fst) b = kept := by
  induction times generalizing b kept with
  | nil =>
    cases thinned
    rfl
  | cons now times ih =>
    generalize calls : outcomes capacity cost (now :: times) b = all at thinned
    rw [outcomes] at calls
    cases thinned with
    | nil => cases calls
    | keep call rest =>
      obtain ⟨rfl, rfl⟩ := List.cons.inj calls
      rw [List.map_cons, outcomes, ih rest]
    | drop now' rest =>
      obtain ⟨first, rfl⟩ := List.cons.inj calls
      have refused : (spend capacity cost now b).1 = false := congrArg Prod.snd first
      rw [outcomes_alike (alike_refused affordable refused)]
      exact ih rest

end TokenBucket
