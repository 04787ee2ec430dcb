import Mathlib.Data.List.Basic

/-!
# Slots that are used again

A list of slots, some of which are in use. A new entry takes the first slot that is not, and a slot
behind the others when there is none; what it finds in the slot is up to it.
-/

namespace SlotTable

universe u

variable {α : Type u}

/-- The first slot that is not in use. -/
def free (used : α → Bool) (slots : List α) : Nat := slots.findIdx (fun a => !used a)

def occupied (used : α → Bool) (slots : List α) (index : Nat) : Bool := slots[index]?.any used

/-- The entry is made from what is left in the slot, if it is an old one. -/
def occupy (used : α → Bool) (make : Option α → α) (slots : List α) : List α :=
  if free used slots = slots.length then slots ++ [make none]
  else slots.modify (free used slots) (fun old => make (some old))

variable {used : α → Bool} {slots other : List α} {index : Nat}

theorem free_le_length : free used slots ≤ slots.length := List.findIdx_le_length

theorem unused_at_free (inside : free used slots < slots.length) :
    used (slots[free used slots]) = false := by
  have unused := List.findIdx_getElem (w := inside)
  simp only [Bool.not_eq_true'] at unused
  exact unused

theorem free_not_occupied : occupied used slots (free used slots) = false := by
  by_cases inside : free used slots < slots.length
  · simp only [occupied, List.getElem?_eq_getElem inside, Option.any_some]
    exact unused_at_free inside
  · have outside : slots[free used slots]? = none := by
      rw [List.getElem?_eq_none_iff]
      omega
    rw [occupied, outside, Option.any_none]

theorem occupied_of_lt_free (below : index < free used slots) :
    occupied used slots index = true := by
  have inside : index < slots.length := Nat.lt_of_lt_of_le below free_le_length
  have taken : (!used (slots[index])) = false := List.not_of_lt_findIdx below
  simp only [occupied, List.getElem?_eq_getElem inside, Option.any_some]
  simpa using taken

theorem ne_free_of_occupied (taken : occupied used slots index = true) :
    index ≠ free used slots := by
  rintro rfl
  rw [free_not_occupied] at taken
  contradiction

/-- The first slot that is not in use is told by the slots in use. -/
theorem free_congr (same : ∀ i, occupied used slots i = occupied used other i) :
    free used slots = free used other := by
  apply Nat.le_antisymm
  · apply Nat.le_of_not_lt
    intro below
    have taken := occupied_of_lt_free below
    rw [same, free_not_occupied] at taken
    contradiction
  · apply Nat.le_of_not_lt
    intro below
    have taken := occupied_of_lt_free below
    rw [← same, free_not_occupied] at taken
    contradiction

theorem getElem?_occupy (make : Option α → α) (index : Nat) :
    (occupy used make slots)[index]? =
      if index = free used slots then some (make slots[index]?) else slots[index]? := by
  have bound : free used slots ≤ slots.length := free_le_length
  rw [occupy]
  split
  · next full =>
    by_cases new : index = free used slots
    · rw [if_pos new, new, full, List.getElem?_append_right (Nat.le_refl _)]
      simp
    · rw [if_neg new, List.getElem?_append]
      split
      · rfl
      · have outside : slots[index]? = none := by
          rw [List.getElem?_eq_none_iff]
          omega
        rw [outside, List.getElem?_eq_none_iff, List.length_singleton]
        omega
  · next old =>
    rw [List.getElem?_modify]
    by_cases new : index = free used slots
    · have inside : index < slots.length := by omega
      simp [new, List.getElem?_eq_getElem (new ▸ inside : free used slots < slots.length)]
    · rw [if_neg new]
      simp [Ne.symm new]

theorem countP_set_used {a b : α} (at_index : slots[index]? = some a) (was : used a = true)
    (is : used b = true) : (slots.set index b).countP used = slots.countP used := by
  obtain ⟨inside, rfl⟩ := List.getElem?_eq_some_iff.mp at_index
  have some_used : 0 < slots.countP used :=
    List.countP_pos_iff.mpr ⟨_, List.getElem_mem inside, was⟩
  rw [List.countP_set inside, if_pos was, if_pos is]
  omega

theorem countP_set_unused {a b : α} (at_index : slots[index]? = some a) (was : used a = true)
    (is : used b = false) : (slots.set index b).countP used = slots.countP used - 1 := by
  obtain ⟨inside, rfl⟩ := List.getElem?_eq_some_iff.mp at_index
  rw [List.countP_set inside, if_pos was, is]
  simp

theorem countP_occupy {make : Option α → α} (makes : ∀ old, used (make old) = true) :
    (occupy used make slots).countP used = slots.countP used + 1 := by
  have bound : free used slots ≤ slots.length := free_le_length
  rw [occupy]
  split
  · simp [makes]
  · have inside : free used slots < slots.length := by omega
    have unused := unused_at_free inside
    have entry : slots.modify (free used slots) (fun old => make (some old)) =
        slots.set (free used slots) (make (some slots[free used slots])) := by
      rw [List.modify_eq_set_getElem?, List.getElem?_eq_getElem inside]
      rfl
    rw [entry, List.countP_set inside, unused, if_pos (makes _)]
    simp

/-- The number of slots in use is told by the slots in use, however many others there are. -/
theorem countP_congr (same : ∀ i, occupied used slots i = occupied used other i) :
    slots.countP used = other.countP used := by
  induction slots generalizing other with
  | nil =>
    have none_used : ∀ b ∈ other, used b ≠ true := by
      intro b member
      obtain ⟨i, inside, rfl⟩ := List.mem_iff_getElem.mp member
      have here := same i
      simp only [occupied, List.getElem?_nil, Option.any_none, List.getElem?_eq_getElem inside,
        Option.any_some] at here
      simp [← here]
    rw [List.countP_nil, List.countP_eq_zero.mpr none_used]
  | cons a rest ih =>
    have first := same 0
    have later : ∀ i, occupied used rest i = occupied used other.tail i := by
      intro i
      have here := same (i + 1)
      rw [occupied, List.getElem?_cons_succ] at here
      rw [occupied, here, occupied, occupied, List.getElem?_tail]
    cases other with
    | nil =>
      have unused : used a = false := by simpa [occupied] using first
      rw [List.countP_cons, ih later, unused]
      simp
    | cons b others =>
      have same_first : used a = used b := by simpa [occupied] using first
      rw [List.countP_cons, List.countP_cons, ih later, same_first, List.tail_cons]

end SlotTable
