import ShadNet.LockProgram
import Mathlib.Data.Fintype.Basic

/-!
# Parties on a network that promises nothing

Each party keeps a state of its own. What one of them has ever sent stays on the
network: it may reach any party, any number of times and in any order, or never.
An invariant of one party may therefore speak of what is known to have been
sent, as long as it stays true when more is sent.
-/

namespace LossyNetwork

open Runs

/-- What a party does, what it has sent so far, and which of its operations are arrivals. -/
structure Party (σ ι π : Type) where
  step : ι → σ → σ
  sent : σ → List π
  hears : ι → Option π

variable {ν σ ι π : Type} [DecidableEq ν] (party : Party σ ι π)

/-- One party takes a step. -/
def step (event : ν × ι) (s : ν → σ) : ν → σ :=
  Function.update s event.1 (party.step event.2 (s event.1))

/-- The messages on the network. -/
def Known (s : ν → σ) (message : π) : Prop := ∃ node, message ∈ party.sent (s node)

/-- What arrives has been sent. -/
def Delivered (event : ν × ι) (s : ν → σ) : Prop :=
  ∀ message ∈ party.hears event.2, Known party s message

instance [Fintype ν] [DecidableEq π] (s : ν → σ) (message : π) :
    Decidable (Known party s message) :=
  inferInstanceAs (Decidable (∃ node, message ∈ party.sent (s node)))

instance [Fintype ν] [DecidableEq π] (event : ν × ι) (s : ν → σ) :
    Decidable (Delivered party event s) :=
  inferInstanceAs (Decidable (∀ message ∈ party.hears event.2, Known party s message))

/-- A rule for the parties: `Inv` holds of each of them, and what is sent is provoked by what was
known before. -/
structure Rule (Inv : (π → Prop) → σ → Prop) (Provoked : (π → Prop) → π → Prop) : Prop where
  mono : ∀ {known known' : π → Prop} {s}, (∀ message, known message → known' message) →
    Inv known s → Inv known' s
  keeps : ∀ {known : π → Prop} {op s}, Inv known s → (∀ message ∈ party.hears op, known message) →
    Inv known (party.step op s) ∧ ∃ news, party.sent (party.step op s) = party.sent s ++ news ∧
      ∀ message ∈ news, Provoked known message

variable {party} {Inv : (π → Prop) → σ → Prop} {Provoked : (π → Prop) → π → Prop}

/-- The parties satisfy the invariant, each for what is known to all. -/
def Lawful (party : Party σ ι π) (Inv : (π → Prop) → σ → Prop) (s : ν → σ) : Prop :=
  ∀ node, Inv (Known party s) (s node)

/-- What is new on the network was provoked by what was there. -/
def Answers (party : Party σ ι π) (Provoked : (π → Prop) → π → Prop) (s s' : ν → σ) : Prop :=
  ∀ message, Known party s' message → Known party s message ∨ Provoked (Known party s) message

theorem Rule.known_step (rule : Rule party Inv Provoked) {s : ν → σ}
    (lawful : Lawful party Inv s) {event : ν × ι} (delivered : Delivered party event s) :
    (∀ message, Known party s message → Known party (step party event s) message) ∧
      Answers party Provoked s (step party event s) := by
  obtain ⟨node, op⟩ := event
  obtain ⟨-, news, sent, provoked⟩ := rule.keeps (lawful node) delivered
  constructor
  · rintro message ⟨other, member⟩
    refine ⟨other, ?_⟩
    by_cases same : other = node
    · subst same
      rw [step, Function.update_self, sent]
      exact List.mem_append_left _ member
    · rwa [step, Function.update_of_ne same]
  · rintro message ⟨other, member⟩
    by_cases same : other = node
    · subst same
      rw [step, Function.update_self, sent] at member
      rcases List.mem_append.mp member with old | new
      · exact Or.inl ⟨other, old⟩
      · exact Or.inr (provoked message new)
    · rw [step, Function.update_of_ne same] at member
      exact Or.inl ⟨other, member⟩

theorem Rule.lawful_step (rule : Rule party Inv Provoked) {s : ν → σ}
    (lawful : Lawful party Inv s) {event : ν × ι} (delivered : Delivered party event s) :
    Lawful party Inv (step party event s) := by
  obtain ⟨grows, -⟩ := rule.known_step lawful delivered
  obtain ⟨node, op⟩ := event
  intro other
  by_cases same : other = node
  · subst same
    have kept := (rule.keeps (lawful other) delivered).1
    have here : step party (other, op) s other = party.step op (s other) := Function.update_self ..
    rw [here]
    exact rule.mono grows kept
  · have away : step party (node, op) s other = s other := Function.update_of_ne same ..
    rw [away]
    exact rule.mono grows (lawful other)

/-- Whatever the network does, the parties stay lawful and nothing is sent unprovoked. -/
theorem Rule.throughout (rule : Rule party Inv Provoked) {s : ν → σ}
    (start : Lawful party Inv s) {events : List (ν × ι)}
    (delivered : Admitted (step party) (Delivered party) events s) :
    Throughout (step party) (Lawful party Inv) (fun _ => Answers party Provoked) events s :=
  throughout_of_admitted (fun _ lawful => lawful)
    (fun _ _ lawful arrived =>
      ⟨rule.lawful_step lawful arrived, (rule.known_step lawful arrived).2⟩) start delivered

/-- Everything on the network was provoked by something on the network. -/
theorem Rule.accounted (rule : Rule party Inv Provoked)
    (mono : ∀ {known known' : π → Prop} {message}, (∀ message, known message → known' message) →
      Provoked known message → Provoked known' message)
    {s : ν → σ} (lawful : Lawful party Inv s)
    (start : ∀ message, Known party s message → Provoked (Known party s) message)
    {events : List (ν × ι)} (delivered : Admitted (step party) (Delivered party) events s) :
    ∀ message, Known party (run (step party) events s) message →
      Provoked (Known party (run (step party) events s)) message := by
  let Accounted (s : ν → σ) : Prop :=
    Lawful party Inv s ∧ ∀ message, Known party s message → Provoked (Known party s) message
  have kept : ∀ event s, Accounted s → Delivered party event s →
      Accounted (step party event s) := by
    rintro event s ⟨lawful, provoked⟩ arrived
    obtain ⟨grows, answers⟩ := rule.known_step lawful arrived
    refine ⟨rule.lawful_step lawful arrived, fun message known => ?_⟩
    rcases answers message known with old | new
    · exact mono grows (provoked message old)
    · exact mono grows new
  have first : Accounted s := ⟨lawful, start⟩
  exact (invariant_of_run kept first delivered).2

/-- Messages of one kind that are provoked only by messages of the same or of an earlier kind
cannot be the first on the network: an earlier one is there as well. -/
theorem Rule.origin (rule : Rule party Inv Provoked) {Kind Earlier : π → Prop}
    (provoked : ∀ known message, Provoked known message → Kind message →
      ∃ cause, known cause ∧ (Kind cause ∨ Earlier cause))
    {s : ν → σ} (lawful : Lawful party Inv s)
    (start : ∀ message, Known party s message → Kind message →
      ∃ cause, Known party s cause ∧ Earlier cause)
    {events : List (ν × ι)} (delivered : Admitted (step party) (Delivered party) events s)
    {message : π} (known : Known party (run (step party) events s) message)
    (kind : Kind message) :
    ∃ cause, Known party (run (step party) events s) cause ∧ Earlier cause := by
  let Origin (s : ν → σ) : Prop := ∀ message, Known party s message → Kind message →
    ∃ cause, Known party s cause ∧ Earlier cause
  have kept : ∀ event s, Lawful party Inv s ∧ Origin s → Delivered party event s →
      Lawful party Inv (step party event s) ∧ Origin (step party event s) := by
    rintro event s ⟨lawful, origin⟩ arrived
    obtain ⟨grows, answers⟩ := rule.known_step lawful arrived
    refine ⟨rule.lawful_step lawful arrived, ?_⟩
    have earlier : (∃ cause, Known party s cause ∧ Earlier cause) →
        ∃ cause, Known party (step party event s) cause ∧ Earlier cause :=
      fun ⟨cause, there, before⟩ => ⟨cause, grows cause there, before⟩
    intro message known kind
    rcases answers message known with old | new
    · exact earlier (origin message old kind)
    · obtain ⟨cause, there, same | before⟩ := provoked _ message new kind
      · exact earlier (origin cause there same)
      · exact earlier ⟨cause, there, before⟩
  exact (invariant_of_run kept ⟨lawful, start⟩ delivered).2 message known kind

/-! ## Parties that run several programs at a time -/

open LockProgram

variable {ℓ : Type}

/-- Run alone, a program sends what its sections send. -/
theorem exec_answers {α : Type} {allowed : ℓ → (σ → σ) → Prop} {sent : σ → List π}
    {Inv : σ → Prop} {Provoked : π → Prop}
    (keeps : ∀ {label update}, allowed label update → ∀ {s}, Inv s → Inv (update s) ∧
      ∃ news, sent (update s) = sent s ++ news ∧ ∀ message ∈ news, Provoked message)
    {p : Prog σ ℓ α} (uses : p.Uses allowed) {s : σ} (inv : Inv s) :
    Inv (p.exec s).2 ∧
      ∃ news, sent (p.exec s).2 = sent s ++ news ∧ ∀ message ∈ news, Provoked message := by
  induction p generalizing s with
  | done result => exact ⟨inv, [], by simp [Prog.exec], by simp⟩
  | atomic label update next ih =>
    obtain ⟨inv', news, added, provoked⟩ := keeps uses.1 inv
    obtain ⟨inv'', later, added', provoked'⟩ := ih s (uses.2 s) inv'
    refine ⟨inv'', news ++ later, ?_, fun message member => ?_⟩
    · simp only [Prog.exec]
      rw [added', added, List.append_assoc]
    · rcases List.mem_append.mp member with old | new
      · exact provoked message old
      · exact provoked' message new

/-- The party whose operations are threads cut at their lock sections. -/
def pooled (program : ι → Prog σ ℓ Unit) (sent : σ → List π) (hears : ι → Option π) :
    Party (Pool σ ℓ) (Action ι) π where
  step := Pool.step program
  sent pool := sent pool.state
  hears
    | .spawn op => hears op
    | .take _ => none

/-- The state is lawful, and each thread has only sections left that what it heard allows. -/
def PooledInv (allowed : Option π → ℓ → (σ → σ) → Prop) (Inv : (π → Prop) → σ → Prop)
    (known : π → Prop) (pool : Pool σ ℓ) : Prop :=
  Inv known pool.state ∧ ∀ p ∈ pool.threads, ∃ heard : Option π,
    (∀ message ∈ heard, known message) ∧ p.Uses (allowed heard)

theorem rule_pooled {program : ι → Prog σ ℓ Unit} {sent : σ → List π} {hears : ι → Option π}
    {allowed : Option π → ℓ → (σ → σ) → Prop}
    (mono : ∀ {known known' : π → Prop} {s}, (∀ message, known message → known' message) →
      Inv known s → Inv known' s)
    (uses : ∀ op, (program op).Uses (allowed (hears op)))
    (keeps : ∀ {known : π → Prop} {heard : Option π} {label update},
      (∀ message ∈ heard, known message) → allowed heard label update → ∀ {s}, Inv known s →
        Inv known (update s) ∧ ∃ news, sent (update s) = sent s ++ news ∧
          ∀ message ∈ news, Provoked known message) :
    Rule (pooled program sent hears) (PooledInv allowed Inv) Provoked where
  mono := by
    rintro known known' pool grows ⟨inv, threads⟩
    refine ⟨mono grows inv, fun p member => ?_⟩
    obtain ⟨heard, there, left⟩ := threads p member
    exact ⟨heard, fun message among => grows message (there message among), left⟩
  keeps := by
    rintro known action pool ⟨inv, threads⟩ arrived
    have still : ∃ news, sent pool.state = sent pool.state ++ news ∧
        ∀ message ∈ news, Provoked known message := ⟨[], by simp, by simp⟩
    cases action with
    | spawn op =>
      refine ⟨⟨inv, fun p member => ?_⟩, still⟩
      rcases List.mem_append.mp member with old | new
      · exact threads p old
      · obtain rfl := List.mem_singleton.mp new
        exact ⟨hears op, arrived, uses op⟩
    | take thread =>
      cases found : pool.threads[thread]? with
      | none =>
        simp only [pooled, Pool.step, found]
        exact ⟨⟨inv, threads⟩, still⟩
      | some p =>
        cases p with
        | done result =>
          simp only [pooled, Pool.step, found]
          exact ⟨⟨inv, threads⟩, still⟩
        | atomic label update next =>
          obtain ⟨heard, there, permitted, rest⟩ := threads _ (List.mem_of_getElem? found)
          obtain ⟨inv', news⟩ := keeps there permitted inv
          simp only [pooled, Pool.step, found]
          refine ⟨⟨inv', fun q member => ?_⟩, news⟩
          rcases List.mem_or_eq_of_mem_set member with old | new
          · exact threads q old
          · exact ⟨heard, there, new ▸ rest pool.state⟩

end LossyNetwork
