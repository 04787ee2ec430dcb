import ShadNet.LockProgram

/-!
# Rely and guarantee for interleaved programs

What a thread knows at one of its sections was read at an earlier one, and the
other threads have run since. A discipline says of every thread what the others
may do to it and what it may do to them. A program is checked once, alone,
against its own side; the pool theorem puts the threads together.
-/

namespace LockProgram

/-- The rules the threads of a pool keep, by thread number. -/
structure Discipline (σ ℓ : Type) where
  inv : σ → Prop
  permit : ℓ → σ → Prop
  /-- What the other threads may do between two sections of this one. -/
  rely : Nat → σ → σ → Prop
  /-- What a section of this thread may do. -/
  guar : Nat → σ → σ → Prop
  rely_refl : ∀ i s, rely i s s
  rely_trans : ∀ i s t u, rely i s t → rely i t u → rely i s u
  compatible : ∀ i j s s', i ≠ j → guar i s s' → rely j s s'

variable {σ ℓ ι α β : Type} {D : Discipline σ ℓ} {i : Nat}

namespace Prog

/-- Started in `s`, with the others keeping what the thread relies on, every section keeps the
invariant and the guarantee, and the end finds `Q`. -/
def Secures (D : Discipline σ ℓ) (i : Nat) : Prog σ ℓ α → (α → σ → Prop) → σ → Prop
  | done result, Q, s => Q result s
  | atomic label update next, Q, s => ∀ t, D.rely i s t → D.inv t → D.permit label t →
      D.inv (update t) ∧ D.guar i t (update t) ∧ (next t).Secures D i Q (update t)

def Secured (D : Discipline σ ℓ) (i : Nat) (P : σ → Prop) (p : Prog σ ℓ α)
    (Q : α → σ → Prop) : Prop :=
  ∀ s, P s → p.Secures D i Q s

/-- No other thread can make the assertion false. -/
def Stable (D : Discipline σ ℓ) (i : Nat) (P : σ → Prop) : Prop :=
  ∀ s t, P s → D.rely i s t → P t

variable {P I : σ → Prop} {Q : α → σ → Prop}

theorem Stable.and {R : σ → Prop} (first : Stable D i P) (second : Stable D i R) :
    Stable D i (fun s => P s ∧ R s) := by
  rintro s t ⟨p, r⟩ moved
  exact ⟨first s t p moved, second s t r moved⟩

theorem stable_true : Stable D i (fun _ => True) := fun _ _ _ _ => trivial

theorem Secures.mono {Q' : α → σ → Prop} (weaker : ∀ a s, Q a s → Q' a s) {p : Prog σ ℓ α}
    {s : σ} (secures : p.Secures D i Q s) : p.Secures D i Q' s := by
  induction p generalizing s with
  | done result => exact weaker result s secures
  | atomic label update next ih =>
    intro t moved inv permitted
    obtain ⟨inv', kept, rest⟩ := secures t moved inv permitted
    exact ⟨inv', kept, ih t rest⟩

theorem Secures.bind {p : Prog σ ℓ α} {k : α → Prog σ ℓ β} {R : β → σ → Prop} {s : σ}
    (secures : p.Secures D i (fun a t => (k a).Secures D i R t) s) :
    (p >>= k).Secures D i R s := by
  induction p generalizing s with
  | done result => exact secures
  | atomic label update next ih =>
    intro t moved inv permitted
    obtain ⟨inv', kept, rest⟩ := secures t moved inv permitted
    exact ⟨inv', kept, ih t rest⟩

/-- While the thread has not taken its next section, the others may go on. -/
theorem Secures.moved {p : Prog σ ℓ α} {s t : σ} (stable : ∀ a, Stable D i (Q a))
    (secures : p.Secures D i Q s) (moved : D.rely i s t) : p.Secures D i Q t := by
  cases p with
  | done result => exact stable result s t secures moved
  | atomic label update next =>
    intro u further inv permitted
    exact secures u (D.rely_trans i s t u moved further) inv permitted

theorem Secured.bind {p : Prog σ ℓ α} {k : α → Prog σ ℓ β} {M : α → σ → Prop}
    {R : β → σ → Prop} (first : Secured D i P p M) (second : ∀ a, Secured D i (M a) (k a) R) :
    Secured D i P (p >>= k) R :=
  fun s pre => ((first s pre).mono (fun a t mid => second a t mid)).bind

theorem Secured.weaken {P' : σ → Prop} {Q' : α → σ → Prop} {p : Prog σ ℓ α}
    (secured : Secured D i P p Q) (pre : ∀ s, P' s → P s) (post : ∀ a s, Q a s → Q' a s) :
    Secured D i P' p Q' :=
  fun s h => (secured s (pre s h)).mono post

/-- A fact that is not about the state may be used in the program. -/
theorem secured_fact {F : Prop} {p : Prog σ ℓ α} (secured : F → Secured D i P p Q) :
    Secured D i (fun s => F ∧ P s) p Q :=
  fun s pre => secured pre.1 s pre.2

theorem secured_exists {β : Type} {R : β → σ → Prop} {p : Prog σ ℓ α}
    (each : ∀ b, Secured D i (R b) p Q) : Secured D i (fun s => ∃ b, R b s) p Q := by
  rintro s ⟨b, pre⟩
  exact each b s pre

theorem secured_pure {a : α} (post : ∀ s, P s → Q a s) :
    Secured D i P (pure a : Prog σ ℓ α) Q := post

/-- A section is checked in the state the others have left when it is taken. -/
theorem secured_locked {label : ℓ} {body : σ → α × σ} (stable : Stable D i P)
    (section_ : ∀ s, P s → D.inv s → D.permit label s →
      D.inv (body s).2 ∧ D.guar i s (body s).2 ∧ Q (body s).1 (body s).2) :
    Secured D i P (locked label body) Q :=
  fun s pre t moved inv permitted => section_ t (stable s t pre moved) inv permitted

theorem secured_update {label : ℓ} {body : σ → σ} {Q : Unit → σ → Prop} (stable : Stable D i P)
    (section_ : ∀ s, P s → D.inv s → D.permit label s →
      D.inv (body s) ∧ D.guar i s (body s) ∧ Q () (body s)) :
    Secured D i P (update label body) Q :=
  secured_locked stable section_

theorem secured_ite {c : Prop} [Decidable c] {p q : Prog σ ℓ α} (yes : c → Secured D i P p Q)
    (no : ¬c → Secured D i P q Q) : Secured D i P (if c then p else q) Q := by
  by_cases h : c
  · rw [if_pos h]
    exact yes h
  · rw [if_neg h]
    exact no h

theorem secured_forSome {found : Option β} {body : β → Prog σ ℓ Unit}
    (each : ∀ b, found = some b → Secured D i I (body b) (fun _ => I)) :
    Secured D i I (forSome found body) (fun _ => I) := by
  cases found with
  | none => exact secured_pure (fun _ kept => kept)
  | some b => exact each b rfl

/-- A loop keeps an assertion that may speak of the items left. -/
theorem secured_forEach_left {items : List β} {body : β → Prog σ ℓ Unit}
    {J : List β → σ → Prop}
    (round : ∀ item rest, Secured D i (J (item :: rest)) (body item) (fun _ => J rest)) :
    Secured D i (J items) (forEach items body) (fun _ => J []) := by
  induction items with
  | nil => exact secured_pure (fun _ kept => kept)
  | cons item rest ih => exact (round item rest).bind (fun _ => ih)

/-- Sections that are all harmless secure any stable assertion they keep. -/
theorem Uses.secured {allowed : ℓ → (σ → σ) → Prop} {p : Prog σ ℓ α} (uses : p.Uses allowed)
    (stable : Stable D i I)
    (harmless : ∀ label update, allowed label update → ∀ s, I s → D.inv s → D.permit label s →
      D.inv (update s) ∧ D.guar i s (update s) ∧ I (update s)) :
    Secured D i I p (fun _ => I) := by
  induction p with
  | done result => exact secured_pure (fun _ kept => kept)
  | atomic label update next ih =>
    intro s pre t moved inv permitted
    obtain ⟨inv', kept, post⟩ :=
      harmless label update uses.1 t (stable s t pre moved) inv permitted
    exact ⟨inv', kept, ih t (uses.2 t) (update t) post⟩

end Prog

namespace Pool

/-- What a scheduler may do: take permitted sections, and start programs that suit the number of
their thread. -/
def Obeys (D : Discipline σ ℓ) (starts : Nat → ι → Prop) (action : Action ι)
    (pool : Pool σ ℓ) : Prop :=
  Permitted D.permit action pool ∧
    ∀ op, action = .spawn op → starts pool.threads.length op

/-- Every thread, wherever it stands, keeps to its side of the discipline. -/
structure Disciplined (D : Discipline σ ℓ) (pool : Pool σ ℓ) : Prop where
  inv : D.inv pool.state
  threads : ∀ (i : Nat) (p : Prog σ ℓ Unit), pool.threads[i]? = some p → p.Secures D i (fun _ _ => True) pool.state

/-- The threads end where they began: `Idle` holds of a number before its thread starts and once
it is done. -/
structure Attended (D : Discipline σ ℓ) (Idle : Nat → σ → Prop) (pool : Pool σ ℓ) : Prop where
  inv : D.inv pool.state
  threads : ∀ (i : Nat) (p : Prog σ ℓ Unit), pool.threads[i]? = some p →
    p.Secures D i (fun _ => Idle i) pool.state
  unused : ∀ i, pool.threads.length ≤ i → Idle i pool.state

variable {program : ι → Prog σ ℓ Unit} {starts : Nat → ι → Prop} {Idle : Nat → σ → Prop}

theorem attended_empty {s : σ} (inv : D.inv s) (idle : ∀ i, Idle i s) : Attended D Idle ⟨s, []⟩ := by
  constructor
  · exact inv
  · rintro i p found
    simp at found
  · exact fun i _ => idle i

/-- A number whose thread is done, or was never started, is idle. -/
theorem Attended.idle {pool : Pool σ ℓ} (attended : Attended D Idle pool) {i : Nat}
    (done : ∀ label update next, pool.threads[i]? ≠ some (.atomic label update next)) :
    Idle i pool.state := by
  cases found : pool.threads[i]? with
  | none => exact attended.unused i (List.getElem?_eq_none_iff.mp found)
  | some p =>
    cases p with
    | done result => exact attended.threads i _ found
    | atomic label update next => exact absurd found (done label update next)

theorem Attended.step (stable : ∀ i, Prog.Stable D i (Idle i))
    (secures : ∀ i op, starts i op →
      Prog.Secured D i (fun s => D.inv s ∧ Idle i s) (program op) (fun _ => Idle i))
    {action : Action ι} {pool : Pool σ ℓ} (attended : Attended D Idle pool)
    (obeys : Obeys D starts action pool) : Attended D Idle (Pool.step program action pool) := by
  obtain ⟨inv, threads, unused⟩ := attended
  obtain ⟨permitted, started⟩ := obeys
  cases action with
  | spawn op =>
    refine ⟨inv, ?_, ?_⟩
    · intro i p found
      simp only [Pool.step] at found
      rcases Nat.lt_or_ge i pool.threads.length with old | new
      · rw [List.getElem?_append_left old] at found
        exact threads i p found
      · rw [List.getElem?_append_right new, List.getElem?_singleton] at found
        split at found
        · rename_i last
          obtain rfl : program op = p := Option.some.inj found
          have number : i = pool.threads.length := by omega
          subst number
          exact secures _ op (started op rfl) pool.state ⟨inv, unused _ (Nat.le_refl _)⟩
        · simp at found
    · intro i above
      simp only [Pool.step, List.length_append, List.length_singleton] at above
      exact unused i (by omega)
  | take thread =>
    cases found : pool.threads[thread]? with
    | none =>
      simp only [Pool.step, found]
      exact ⟨inv, threads, unused⟩
    | some p =>
      cases p with
      | done result =>
        simp only [Pool.step, found]
        exact ⟨inv, threads, unused⟩
      | atomic label update next =>
        have taken : label ∈ pool.label (Action.take thread : Action ι) := by
          simp [Pool.label, found]
        have length : thread < pool.threads.length := (List.getElem?_eq_some_iff.mp found).1
        obtain ⟨inv', kept, rest⟩ := threads thread _ found pool.state
          (D.rely_refl thread pool.state) inv (permitted label taken)
        simp only [Pool.step, found]
        refine ⟨inv', ?_, ?_⟩
        · intro j q hq
          by_cases same : thread = j
          · subst same
            rw [List.getElem?_set_self length] at hq
            obtain rfl : next pool.state = q := Option.some.inj hq
            exact rest
          · rw [List.getElem?_set_ne same] at hq
            have moved := D.compatible thread j _ _ same kept
            exact (threads j q hq).moved (fun _ => stable j) moved
        · intro j above
          rw [List.length_set] at above
          have moved := D.compatible thread j _ _ (by omega) kept
          exact stable j _ _ (unused j above) moved

theorem Attended.run (stable : ∀ i, Prog.Stable D i (Idle i))
    (secures : ∀ i op, starts i op →
      Prog.Secured D i (fun s => D.inv s ∧ Idle i s) (program op) (fun _ => Idle i))
    {actions : List (Action ι)} {pool : Pool σ ℓ} (attended : Attended D Idle pool)
    (admitted : Runs.Admitted (Pool.step program) (Obeys D starts) actions pool) :
    Attended D Idle (Runs.run (Pool.step program) actions pool) :=
  Runs.invariant_of_run (fun _ _ kept obeys => kept.step stable secures obeys) attended admitted

theorem disciplined_iff {pool : Pool σ ℓ} :
    Disciplined D pool ↔ Attended D (fun _ _ => True) pool := by
  constructor
  · rintro ⟨inv, threads⟩
    exact ⟨inv, threads, fun _ _ => trivial⟩
  · rintro ⟨inv, threads, -⟩
    exact ⟨inv, threads⟩

theorem disciplined_empty {s : σ} (inv : D.inv s) : Disciplined D ⟨s, []⟩ :=
  disciplined_iff.mpr (attended_empty inv (fun _ => trivial))

theorem Disciplined.step
    (secures : ∀ i op, starts i op → Prog.Secured D i D.inv (program op) (fun _ _ => True))
    {action : Action ι} {pool : Pool σ ℓ} (disciplined : Disciplined D pool)
    (obeys : Obeys D starts action pool) : Disciplined D (Pool.step program action pool) := by
  have attended := disciplined_iff.mp disciplined
  refine disciplined_iff.mpr (attended.step (fun _ => Prog.stable_true) ?_ obeys)
  intro i op suits
  exact (secures i op suits).weaken (fun _ h => h.1) (fun _ _ h => h)

/-- Programs that each keep their side keep the invariant together, in every interleaving. -/
theorem Disciplined.run
    (secures : ∀ i op, starts i op → Prog.Secured D i D.inv (program op) (fun _ _ => True))
    {actions : List (Action ι)} {pool : Pool σ ℓ} (disciplined : Disciplined D pool)
    (admitted : Runs.Admitted (Pool.step program) (Obeys D starts) actions pool) :
    Disciplined D (Runs.run (Pool.step program) actions pool) :=
  Runs.invariant_of_run (fun _ _ kept obeys => kept.step secures obeys) disciplined admitted

end Pool

end LockProgram
