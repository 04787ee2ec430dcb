import ShadNet.LockProgram

/-!
# What a thread still has to do

A section may oblige its thread to a next one: what was taken out of a table has
to be stopped, what was changed has to be announced. The duty of a thread is read
off its next section, and a program is dutiful when every section is followed by
the one it obliges its thread to. The duties of a pool's threads are then a part
of its state that changes at one place in each step.
-/

namespace LockProgram

theorem filterMap_middle {α β : Type} (f : α → Option β) (before after : List α) (a : α) :
    (before ++ a :: after).filterMap f =
      before.filterMap f ++ (f a).toList ++ after.filterMap f := by
  rw [List.filterMap_append, List.filterMap_cons, List.append_assoc]
  cases f a <;> rfl

theorem set_middle {α : Type} {items : List α} {index : Nat} {a : α}
    (found : items[index]? = some a) (b : α) :
    ∃ before after, items = before ++ a :: after ∧ items.set index b = before ++ b :: after := by
  obtain ⟨inside, here⟩ := List.getElem?_eq_some_iff.mp found
  obtain ⟨before, after, split, -, set⟩ := @List.exists_of_set _ index b items inside
  rw [here] at split
  exact ⟨before, after, split, set⟩

namespace Prog

variable {σ ℓ δ α β : Type}

/-- What the next section of the program discharges. -/
def due (duty : ℓ → Option δ) : Prog σ ℓ α → Option δ
  | done _ => none
  | atomic label _ _ => duty label

/-- `incurs` says what a section, run in a state, obliges its thread to do next. -/
def Dutiful (duty : ℓ → Option δ) (incurs : ℓ → σ → Option δ) : Prog σ ℓ α → Prop
  | done _ => True
  | atomic label _ next => ∀ s, (next s).due duty = incurs label s ∧ (next s).Dutiful duty incurs

/-- A dutiful program that starts and ends with no duty. -/
structure Clean (duty : ℓ → Option δ) (incurs : ℓ → σ → Option δ) (p : Prog σ ℓ α) : Prop where
  free : p.due duty = none
  dutiful : p.Dutiful duty incurs

variable {duty : ℓ → Option δ} {incurs : ℓ → σ → Option δ}

theorem due_bind {p : Prog σ ℓ α} {k : α → Prog σ ℓ β} (rest : ∀ a, (k a).due duty = none) :
    (p >>= k).due duty = p.due duty := by
  cases p with
  | done result => exact rest result
  | atomic label update next => rfl

theorem Dutiful.bind {p : Prog σ ℓ α} {k : α → Prog σ ℓ β} (first : p.Dutiful duty incurs)
    (rest : ∀ a, (k a).Clean duty incurs) : (p >>= k).Dutiful duty incurs := by
  induction p with
  | done result => exact (rest result).dutiful
  | atomic label update next ih =>
    intro s
    obtain ⟨follows, later⟩ := first s
    refine ⟨?_, ih s later⟩
    rw [← follows]
    exact due_bind (fun a => (rest a).free)

theorem clean_pure (a : α) : (pure a : Prog σ ℓ α).Clean duty incurs := ⟨rfl, trivial⟩

theorem Clean.bind {p : Prog σ ℓ α} {k : α → Prog σ ℓ β} (first : p.Clean duty incurs)
    (rest : ∀ a, (k a).Clean duty incurs) : (p >>= k).Clean duty incurs := by
  refine ⟨?_, first.dutiful.bind rest⟩
  rw [due_bind (fun a => (rest a).free)]
  exact first.free

/-- A section without duties before or after it. -/
theorem clean_locked {label : ℓ} {body : σ → α × σ} (free : duty label = none)
    (none_ : ∀ s, incurs label s = none) : (locked label body).Clean duty incurs :=
  ⟨free, fun s => ⟨(none_ s).symm, trivial⟩⟩

theorem clean_update {label : ℓ} {body : σ → σ} (free : duty label = none)
    (none_ : ∀ s, incurs label s = none) : (update label body).Clean duty incurs :=
  clean_locked free none_

theorem clean_ite {c : Prop} [Decidable c] {p q : Prog σ ℓ α} (yes : p.Clean duty incurs)
    (no : q.Clean duty incurs) : (if c then p else q).Clean duty incurs := by
  by_cases h : c
  · rw [if_pos h]
    exact yes
  · rw [if_neg h]
    exact no

theorem clean_when {c : Prop} [Decidable c] {p : Prog σ ℓ Unit} (clean : p.Clean duty incurs) :
    (when c p).Clean duty incurs :=
  clean_ite clean (clean_pure ())

theorem clean_forEach {items : List β} {body : β → Prog σ ℓ Unit}
    (round : ∀ item, (body item).Clean duty incurs) : (forEach items body).Clean duty incurs := by
  induction items with
  | nil => exact clean_pure ()
  | cons item rest ih => exact (round item).bind (fun _ => ih)

end Prog

namespace Pool

variable {σ ℓ δ ι : Type} {duty : ℓ → Option δ} {incurs : ℓ → σ → Option δ}
  {allowed : ℓ → (σ → σ) → Prop} {program : ι → Prog σ ℓ Unit}

def dues (duty : ℓ → Option δ) (pool : Pool σ ℓ) : List δ :=
  pool.threads.filterMap (Prog.due duty)

/-- Every thread is done. -/
def Finished (pool : Pool σ ℓ) : Prop := ∀ p ∈ pool.threads, p = .done ()

theorem Finished.dues {pool : Pool σ ℓ} (finished : Finished pool) : pool.dues duty = [] := by
  rw [Pool.dues, List.filterMap_eq_nil_iff]
  intro p member
  rw [finished p member]
  rfl

/-- Every thread has only allowed sections left and does next what it has to. -/
structure Obedient (allowed : ℓ → (σ → σ) → Prop) (duty : ℓ → Option δ)
    (incurs : ℓ → σ → Option δ) (pool : Pool σ ℓ) : Prop where
  uses : ThreadsUse allowed pool
  dutiful : ∀ p ∈ pool.threads, p.Dutiful duty incurs

/-- What one action does to the state and to the duties: a section replaces the duty it
discharges by the one it incurs. -/
theorem step_dues (uses : ∀ op, (program op).Uses allowed)
    (clean : ∀ op, (program op).Clean duty incurs) {pool : Pool σ ℓ}
    (obedient : Obedient allowed duty incurs pool) (action : Action ι) :
    Obedient allowed duty incurs (step program action pool) ∧
      ((pool.label action = none ∧ (step program action pool).state = pool.state ∧
          (step program action pool).dues duty = pool.dues duty) ∨
        ∃ label update before after, allowed label update ∧ pool.label action = some label ∧
          (step program action pool).state = update pool.state ∧
          pool.dues duty = before ++ (duty label).toList ++ after ∧
          (step program action pool).dues duty =
            before ++ (incurs label pool.state).toList ++ after) := by
  have used := (step_cases uses obedient.uses action).1
  cases action with
  | spawn op =>
    refine ⟨⟨used, ?_⟩, Or.inl ⟨rfl, rfl, ?_⟩⟩
    · intro p member
      rcases List.mem_append.mp member with old | new
      · exact obedient.dutiful p old
      · rw [List.mem_singleton.mp new]
        exact (clean op).dutiful
    · have free : [program op].filterMap (Prog.due duty) = [] := by
        simp [(clean op).free]
      rw [dues, dues, step, List.filterMap_append, free, List.append_nil]
  | take thread =>
    cases found : pool.threads[thread]? with
    | none =>
      simp only [step, label, found]
      exact ⟨obedient, Or.inl ⟨trivial, trivial, trivial⟩⟩
    | some p =>
      cases p with
      | done result =>
        simp only [step, label, found]
        exact ⟨obedient, Or.inl ⟨trivial, trivial, trivial⟩⟩
      | atomic label update next =>
        have member : Prog.atomic label update next ∈ pool.threads := List.mem_of_getElem? found
        obtain ⟨before, after, split, set⟩ := set_middle found (next pool.state)
        obtain ⟨follows, later⟩ := obedient.dutiful _ member pool.state
        simp only [step, Pool.label, found] at used ⊢
        refine ⟨⟨used, ?_⟩, Or.inr ⟨label, update, before.filterMap (Prog.due duty),
          after.filterMap (Prog.due duty), (obedient.uses _ member).1, rfl, rfl, ?_, ?_⟩⟩
        · intro q there
          rcases List.mem_or_eq_of_mem_set there with old | new
          · exact obedient.dutiful q old
          · rw [new]
            exact later
        · rw [dues, split, filterMap_middle]
          rfl
        · rw [dues, set, filterMap_middle, follows]

end Pool

end LockProgram
