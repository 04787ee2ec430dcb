import Mathlib.Algebra.BigOperators.Group.Finset.Basic
import ShadNet.Ledgers

/-!
# The ledgers of all threads of a machine

Whatever a machine does to the user count of an object is entered in the ledger of
the thread that did it, so the count is what the ledgers add up to, as long as nobody
makes or erases the object. When every thread has returned and owes nothing, the
count is as it was.
-/

namespace LockProgram

open Prog Finset

namespace Books

variable {σ μ ℓ ω ρ γ ι : Type} [DecidableEq μ]

/-- Each thread has a ledger from which the rest of its program ends with `Q`. -/
structure Audited (books : Books σ ℓ ω ρ γ) (o : ω) (fine : γ → Prop) (Q : Ledger ω μ γ → Prop)
    (opening : γ) (initial : σ) (machine : Machine σ μ ℓ) (ledgers : Nat → Ledger ω μ γ) :
    Prop where
  ends : ∀ (i : Nat) (t : Thread σ μ ℓ), machine.threads[i]? = some t →
    books.Ends t.code (ledgers i) (fun _ later => Q later)
  foreign : ∀ i : Nat, ¬(ledgers i).own o
  notes : ∀ i : Nat, fine (ledgers i).notes
  unused : ∀ i, machine.threads.length ≤ i → ledgers i = { notes := opening }
  counted : books.users o machine.state =
    books.users o initial + ∑ i ∈ range machine.threads.length, (ledgers i).counts o

/-- The threads can be given such ledgers. -/
def Auditable (books : Books σ ℓ ω ρ γ) (o : ω) (fine : γ → Prop) (Q : Ledger ω μ γ → Prop)
    (opening : γ) (initial : σ) (machine : Machine σ μ ℓ) : Prop :=
  ∃ ledgers, books.Audited o fine Q opening initial machine ledgers

variable {books : Books σ ℓ ω ρ γ} {o : ω} {fine : γ → Prop}
  {Q : Ledger ω μ γ → Prop} {opening : γ} {initial : σ} {machine : Machine σ μ ℓ}
  {ledgers : Nat → Ledger ω μ γ} {program : ι → Prog σ (Atom μ ℓ) Unit}
  {permit : List μ → ℓ → σ → Prop}

theorem audited_start (clean : fine opening) :
    books.Audited o fine Q opening initial (⟨initial, []⟩ : Machine σ μ ℓ)
      (fun _ => { notes := opening }) where
  ends i t found := by simp at found
  foreign i owned := owned.elim
  notes i := clean
  unused i _ := rfl
  counted := by simp

/-- A thread that starts owes nothing yet. -/
theorem Audited.spawn {op : ι} (audited : books.Audited o fine Q opening initial machine ledgers)
    (ends : books.Ends (program op) ({ notes := opening } : Ledger ω μ γ)
      (fun _ later => Q later)) :
    books.Audited o fine Q opening initial
      { machine with threads := machine.threads ++ [{ code := program op }] } ledgers := by
  have cases : ∀ {i : Nat} {t : Thread σ μ ℓ},
      (machine.threads ++ [{ code := program op }])[i]? = some t →
        machine.threads[i]? = some t ∨ i = machine.threads.length ∧ t = { code := program op } := by
    intro i t found
    rcases Nat.lt_or_ge i machine.threads.length with old | new
    · rw [List.getElem?_append_left old] at found
      exact Or.inl found
    · rw [List.getElem?_append_right new, List.getElem?_singleton] at found
      split at found
      · refine Or.inr ⟨?_, (Option.some.inj found).symm⟩
        omega
      · simp at found
  constructor
  · intro i t found
    rcases cases found with old | ⟨rfl, rfl⟩
    · exact audited.ends i t old
    · rw [audited.unused _ le_rfl]
      exact ends
  · exact audited.foreign
  · exact audited.notes
  · intro i beyond
    rw [List.length_append, List.length_singleton] at beyond
    exact audited.unused i (by omega)
  · have opened : ({ notes := opening } : Ledger ω μ γ).counts o = 0 := rfl
    rw [List.length_append, List.length_singleton, sum_range_succ, audited.unused _ le_rfl, opened,
      Int.add_zero]
    exact audited.counted

/-- The atom of a thread is charged to its ledger, and to no other one. -/
theorem Audited.take {i : Nat} {atom : Atom μ ℓ} {update : σ → σ}
    {next : σ → Prog σ (Atom μ ℓ) Unit} {held : List μ}
    (audited : books.Audited o fine Q opening initial machine ledgers)
    (found : machine.threads[i]? = some ⟨.atomic atom update next, held⟩)
    (ready : atom.Ready books.ready machine.state)
    (spares : ∀ access, atom = .act access → ¬books.settles access machine.state o)
    (judged : fine (books.charge atom machine.state (update machine.state) (ledgers i)).notes) :
    books.Audited o fine Q opening initial
      { state := update machine.state
        threads := machine.threads.set i ⟨next machine.state, atom.holding held⟩ }
      (Function.update ledgers i
        (books.charge atom machine.state (update machine.state) (ledgers i))) := by
  have inside : i < machine.threads.length := (List.getElem?_eq_some_iff.mp found).1
  constructor
  · intro j t there
    rcases Machine.set_cases there with ⟨rfl, rfl⟩ | ⟨other, old⟩
    · rw [Function.update_self]
      exact audited.ends j _ found machine.state ready
    · rw [Function.update_of_ne other]
      exact audited.ends j t old
  · intro j
    by_cases same : j = i
    · subst same
      rw [Function.update_self]
      rintro (earlier | settled)
      · exact audited.foreign j earlier
      · cases atom with
        | act access => exact spares access rfl settled
        | lock | unlock | relock | await => exact settled.elim
    · rw [Function.update_of_ne same]
      exact audited.foreign j
  · intro j
    by_cases same : j = i
    · subst same
      rw [Function.update_self]
      exact judged
    · rw [Function.update_of_ne same]
      exact audited.notes j
  · intro j beyond
    rw [List.length_set] at beyond
    rw [Function.update_of_ne (by omega)]
    exact audited.unused j beyond
  · have before := audited.counted
    have member : i ∈ range machine.threads.length := mem_range.mpr inside
    rw [List.length_set, ← add_sum_erase _ _ member, Function.update_self]
    rw [← add_sum_erase _ _ member] at before
    have others : ∑ j ∈ (range machine.threads.length).erase i, (Function.update ledgers i
        (books.charge atom machine.state (update machine.state) (ledgers i)) j).counts o =
        ∑ j ∈ (range machine.threads.length).erase i, (ledgers j).counts o :=
      sum_congr rfl (fun j there => by rw [Function.update_of_ne (ne_of_mem_erase there)])
    rw [others]
    simp only [charge]
    omega

theorem Audited.step (clean : ∀ held access s, permit held access s → ¬books.settles access s o ∧
      ∀ t notes, fine notes → fine (books.judge access s t notes))
    (ends : ∀ op, books.Ends (program op) ({ notes := opening } : Ledger ω μ γ)
      (fun _ later => Q later)) {action : Action ι}
    (audited : books.Audited o fine Q opening initial machine ledgers)
    (permitted : Machine.Permitted permit action machine) :
    books.Auditable o fine Q opening initial
      (Machine.step books.ready program action machine) := by
  cases action with
  | spawn op => exact ⟨ledgers, audited.spawn (ends op)⟩
  | take i =>
    cases found : machine.threads[i]? with
    | none =>
      simp only [Machine.step, found]
      exact ⟨ledgers, audited⟩
    | some t =>
      obtain ⟨code, held⟩ := t
      cases code with
      | done result =>
        simp only [Machine.step, found]
        exact ⟨ledgers, audited⟩
      | atomic atom update next =>
        simp only [Machine.step, found]
        split
        · rename_i enabled
          have allowed := permitted _ found atom rfl
          refine ⟨_, audited.take found enabled.2 ?_ ?_⟩
          · rintro access rfl
            exact (clean held access _ allowed).1
          · cases atom with
            | act access => exact (clean held access _ allowed).2 _ _ (audited.notes i)
            | lock | unlock | relock | await => exact audited.notes i
        · exact ⟨ledgers, audited⟩

theorem Auditable.run (clean : ∀ held access s, permit held access s → ¬books.settles access s o ∧
      ∀ t notes, fine notes → fine (books.judge access s t notes))
    (ends : ∀ op, books.Ends (program op) ({ notes := opening } : Ledger ω μ γ)
      (fun _ later => Q later)) {actions : List (Action ι)}
    (auditable : books.Auditable o fine Q opening initial machine)
    (admitted : Runs.Admitted (Machine.step books.ready program) (Machine.Permitted permit) actions
      machine) :
    books.Auditable o fine Q opening initial
      (Runs.run (Machine.step books.ready program) actions machine) :=
  Runs.invariant_of_run
    (fun _ _ kept permitted => kept.elim fun _ audited => audited.step clean ends permitted)
    auditable admitted

/-- When every thread has returned and owes nothing, the count is as it was at first. -/
theorem Audited.returned (settled : ∀ later, Q later → fine later.notes → later.Balanced)
    (audited : books.Audited o fine Q opening initial machine ledgers)
    (finished : ∀ t ∈ machine.threads, t.code = .done ()) :
    books.users o machine.state = books.users o initial := by
  have nothing : ∀ i ∈ range machine.threads.length, (ledgers i).counts o = 0 := by
    intro i member
    have found := List.getElem?_eq_getElem (mem_range.mp member)
    have ends := audited.ends i _ found
    rw [finished _ (List.getElem_mem _)] at ends
    have balanced := settled _ ends (audited.notes i)
    exact balanced.counts o (audited.foreign i)
  rw [audited.counted, sum_eq_zero nothing, Int.add_zero]

end Books

end LockProgram
