import Mathlib.Data.List.Perm.Basic
import ShadNet.LockProgram

/-!
# Threads as slots of a list

The threads of a machine whose phases are data are the entries of a list, and a step replaces
one of them. What holds of every thread is followed through the replacement.
-/

namespace Slots

universe u

variable {θ : Type u} {Q : θ → Prop} {slots : List θ} {t : Nat} {old new : θ}

theorem forall_slot (current : slots[t]? = some old) :
    (∀ x ∈ slots, Q x) ↔ Q old ∧ ∀ x ∈ slots.eraseIdx t, Q x := by
  obtain ⟨inside, rfl⟩ := List.getElem?_eq_some_iff.mp current
  have perm := List.getElem_cons_eraseIdx_perm inside
  simp only [← perm.mem_iff, List.forall_mem_cons]

theorem forall_set (current : slots[t]? = some old) :
    (∀ x ∈ slots.set t new, Q x) ↔ Q new ∧ ∀ x ∈ slots.eraseIdx t, Q x := by
  obtain ⟨inside, -⟩ := List.getElem?_eq_some_iff.mp current
  have perm := List.set_perm_cons_eraseIdx inside new
  simp only [perm.mem_iff, List.forall_mem_cons]

/-- Replacing a thread costs what the new one has to meet beyond the old one. -/
theorem forall_set_iff {k : Prop} (current : slots[t]? = some old) (meets : Q new ↔ Q old ∧ k) :
    (∀ x ∈ slots.set t new, Q x) ↔ (∀ x ∈ slots, Q x) ∧ k := by
  rw [forall_set current, forall_slot current, meets, and_right_comm]

theorem forall_set_same (current : slots[t]? = some old) (same : Q new ↔ Q old) :
    (∀ x ∈ slots.set t new, Q x) ↔ ∀ x ∈ slots, Q x := by
  rw [forall_set current, forall_slot current, same]

theorem mem_set_of_ne {x : θ} (current : slots[t]? = some old) (member : x ∈ slots)
    (other : x ≠ old) : x ∈ slots.set t new := by
  obtain ⟨i, there⟩ := List.getElem?_of_mem member
  have elsewhere : t ≠ i := by
    rintro rfl
    exact other (Option.some.inj (there.symm.trans current))
  rw [← List.getElem?_set_ne elsewhere] at there
  exact List.mem_of_getElem? there

end Slots

namespace Runs

variable {σ ι : Type} {step : ι → σ → σ} {ok : ι → σ → Prop}

/-- A property that is never regained once a step that is not admitted has lost it. -/
theorem run_iff_admitted {Inv Good : σ → Prop} (keeps : ∀ op s, Inv s → Inv (step op s))
    (loses : ∀ op s, Inv s → (Good (step op s) ↔ Good s ∧ ok op s)) {ops : List ι} {s : σ}
    (start : Inv s) : Good (run step ops s) ↔ Good s ∧ Admitted step ok ops s := by
  induction ops generalizing s with
  | nil => simp only [run_nil, Admitted, and_true]
  | cons op ops ih => rw [run_cons, ih (keeps op s start), loses op s start, Admitted, and_assoc]

end Runs
