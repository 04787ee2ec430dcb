import Mathlib.Data.List.Basic
import Mathlib.Data.List.Nodup

/-!
# Queues with due times

Items are numbered in the order in which they were put into the queue. What is taken out of it
together keeps its order, and only what is due is taken.
-/

namespace DueQueue

variable {due due' : Nat → Int} {items out queue : List Nat} {i j n : Nat}

/-- An item is ahead of one that was put in earlier only if it is due earlier. -/
def InTurn (due : Nat → Int) (items : List Nat) : Prop :=
  items.Pairwise (fun i j => j < i → due i < due j)

theorem InTurn.congr (turn : InTurn due items) (same : ∀ i ∈ items, due i = due' i) :
    InTurn due' items := by
  refine List.Pairwise.imp_of_mem ?_ turn
  intro i j member member' overtakes earlier
  rw [← same i member, ← same j member']
  exact overtakes earlier

theorem InTurn.concat (turn : InTurn due items) (last : ∀ i ∈ items, i < n) :
    InTurn due (items ++ [n]) := by
  refine List.pairwise_append.mpr ⟨turn, List.pairwise_singleton _ _, ?_⟩
  intro i member j new earlier
  have before := last i member
  rw [List.mem_singleton.mp new] at earlier
  omega

/-- Taking out what is due lets nobody be overtaken. -/
theorem InTurn.extract (turn : InTurn due (out ++ queue)) (sorted : queue.Pairwise (· < ·))
    (now : Int) :
    InTurn due ((out ++ queue.filter (fun i => due i ≤ now)) ++
      queue.filter (fun i => ¬due i ≤ now)) := by
  obtain ⟨taken, -, across⟩ := List.pairwise_append.mp turn
  have ready := sorted.sublist (List.filter_sublist (p := fun i => due i ≤ now))
  have later := sorted.sublist (List.filter_sublist (p := fun i => ¬due i ≤ now))
  rw [List.append_assoc]
  refine List.pairwise_append.mpr ⟨taken, List.pairwise_append.mpr ⟨?_, ?_, ?_⟩, ?_⟩
  · exact ready.imp (fun before after => by omega)
  · exact later.imp (fun before after => by omega)
  · intro i isReady j isLater _
    have early := (List.mem_filter.mp isReady).2
    have late := (List.mem_filter.mp isLater).2
    simp only [decide_eq_true_eq] at early late
    omega
  · intro i member j queued
    refine across i member j ?_
    rcases List.mem_append.mp queued with isReady | isLater
    · exact List.mem_of_mem_filter isReady
    · exact List.mem_of_mem_filter isLater

theorem perm_extract (now : Int) :
    ((out ++ queue.filter (fun i => due i ≤ now)) ++
      queue.filter (fun i => ¬due i ≤ now)).Perm (out ++ queue) := by
  rw [List.append_assoc]
  have split := List.filter_append_perm (fun i => decide (due i ≤ now)) queue
  simp only [← decide_not] at split
  exact split.append_left out

/-- Of two items the one that must be ahead is. -/
theorem InTurn.pair (turn : InTurn due items) (earlier : i < j) (sooner : due i ≤ due j)
    (first : i ∈ items) (second : j ∈ items) : List.Sublist [i, j] items := by
  induction items with
  | nil => cases first
  | cons a items ih =>
    obtain ⟨ahead, rest⟩ := List.pairwise_cons.mp turn
    rcases List.mem_cons.mp first with rfl | firstBehind
    · rcases List.mem_cons.mp second with rfl | secondBehind
      · omega
      · exact (List.singleton_sublist.mpr secondBehind).cons_cons _
    · rcases List.mem_cons.mp second with rfl | secondBehind
      · have overtaken := ahead i firstBehind earlier
        omega
      · exact (ih rest firstBehind secondBehind).cons _

/-- What must be ahead of an item that is out is out before it. -/
theorem InTurn.ahead (turn : InTurn due (out ++ queue)) (earlier : i < j) (sooner : due i ≤ due j)
    (first : i ∈ out ++ queue) (second : j ∈ out) : List.Sublist [i, j] out := by
  obtain ⟨taken, -, across⟩ := List.pairwise_append.mp turn
  rcases List.mem_append.mp first with isOut | behind
  · exact InTurn.pair taken earlier sooner isOut second
  · have overtaken := across j second i behind earlier
    omega

end DueQueue
