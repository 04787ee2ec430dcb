import Mathlib.Tactic.SplitIfs

/-!
# Timers that operations arm

A timer has a timeout and, once an operation has armed it, the time at which it ends; no time is
the time zero. A check expires what has ended. When the check may be told apart from chance is the
matter of `Honest`: the end lies at least the timeout behind the arming, and an operation that
failed has left nothing armed.
-/

namespace Deadlines

/-- `armedAt` and `failed` are history: when the end was set, and how the last operation ended. -/
structure Timer where
  timeout : Nat := 0
  endTime : Nat := 0
  expired : Bool := false
  armedAt : Option Nat := none
  failed : Bool := false
  deriving DecidableEq, Repr

namespace Timer

/-- With `again`, a timer that is armed is armed anew. -/
def arm (again : Bool) (now : Nat) (t : Timer) : Timer :=
  if t.timeout ≠ 0 ∧ (again = true ∨ t.endTime = 0) then
    { t with endTime := now + t.timeout, armedAt := some now, failed := false }
  else { t with failed := false }

def clear (t : Timer) : Timer := { t with endTime := 0, armedAt := none }

def setTimeout (timeout : Nat) (t : Timer) : Timer := { t with timeout }

def finish (ok : Bool) (t : Timer) : Timer := { t with failed := !ok }

/-- With `unarmed`, it is the timeout that says whether there is anything to check. -/
def Due (unarmed : Bool) (time : Nat) (t : Timer) : Prop :=
  t.expired = false ∧ (if unarmed then t.timeout ≠ 0 else t.endTime ≠ 0) ∧ t.endTime < time

instance (unarmed : Bool) (time : Nat) (t : Timer) : Decidable (t.Due unarmed time) :=
  inferInstanceAs (Decidable (_ ∧ _ ∧ _))

def check (unarmed : Bool) (time : Nat) (t : Timer) : Timer :=
  if t.Due unarmed time then { t with expired := true } else t

section

variable (again ok : Bool) (now timeout : Nat) (t : Timer)

@[simp] theorem arm_expired : (t.arm again now).expired = t.expired := by
  rw [arm]
  split
  · rfl
  · rfl

@[simp] theorem clear_expired : t.clear.expired = t.expired := rfl

@[simp] theorem setTimeout_expired : (t.setTimeout timeout).expired = t.expired := rfl

@[simp] theorem finish_expired : (t.finish ok).expired = t.expired := rfl

end

/-! ## What an expiry asks for -/

/-- The timer was armed for its timeout, and the operations since have neither cleared it nor
failed. -/
structure Earned (now : Nat) (t : Timer) : Prop where
  timeout : t.timeout ≠ 0
  armed : ∃ armed ∈ t.armedAt, armed + t.timeout ≤ now
  failed : t.failed = false

/-- The end of an armed timer lies its timeout behind the arming. -/
structure Honest (unarmed : Bool) (t : Timer) : Prop where
  armed : t.expired = false → t.endTime ≠ 0 →
    (∃ armed ∈ t.armedAt, armed + t.timeout ≤ t.endTime) ∧ (unarmed = false → t.timeout ≠ 0)
  failed : t.expired = false → t.failed = true → t.endTime = 0

/-- A timeout may be set while nothing is armed, or be lowered. -/
def MaySet (unarmed : Bool) (timeout : Nat) (t : Timer) : Prop :=
  t.expired = true ∨ t.endTime = 0 ∨
    (∃ armed ∈ t.armedAt, armed + timeout ≤ t.endTime) ∧ (unarmed = false → timeout ≠ 0)

/-- An operation may fail when it leaves nothing armed. -/
def MayFail (t : Timer) : Prop := t.expired = true ∨ t.endTime = 0

/-- A timer with a timeout may be checked when it is armed. -/
def MayCheck (unarmed : Bool) (t : Timer) : Prop :=
  unarmed = false ∨ t.expired = true ∨ t.timeout = 0 ∨ t.endTime ≠ 0

instance (unarmed : Bool) (timeout : Nat) (t : Timer) : Decidable (t.MaySet unarmed timeout) :=
  inferInstanceAs (Decidable (_ ∨ _ ∨ (∃ armed ∈ t.armedAt, _) ∧ _))

instance (t : Timer) : Decidable t.MayFail := inferInstanceAs (Decidable (_ ∨ _))

instance (unarmed : Bool) (t : Timer) : Decidable (t.MayCheck unarmed) :=
  inferInstanceAs (Decidable (_ ∨ _ ∨ _ ∨ _))

variable {unarmed again ok : Bool} {now time timeout : Nat} {t : Timer}

theorem honest_new : Honest unarmed {} :=
  ⟨fun _ armed => absurd rfl armed, fun _ _ => rfl⟩

theorem Honest.arm (honest : Honest unarmed t) : Honest unarmed (t.arm again now) := by
  rw [Timer.arm]
  split
  · next armed =>
    refine ⟨fun _ _ => ⟨⟨now, rfl, Nat.le_refl _⟩, fun _ => armed.1⟩, ?_⟩
    intro _ failed
    cases failed
  · refine ⟨honest.armed, ?_⟩
    intro _ failed
    cases failed

theorem Honest.clear (t : Timer) : Honest unarmed t.clear :=
  ⟨fun _ armed => absurd rfl armed, fun _ _ => rfl⟩

theorem Honest.setTimeout (honest : Honest unarmed t) (may : t.MaySet unarmed timeout) :
    Honest unarmed (t.setTimeout timeout) := by
  refine ⟨fun running armed => ?_, honest.failed⟩
  rcases may with expired | unset | lowered
  · rw [Timer.setTimeout, expired] at running
    cases running
  · exact absurd unset armed
  · exact lowered

theorem Honest.finish (honest : Honest unarmed t) (may : ok = false → t.MayFail) :
    Honest unarmed (t.finish ok) := by
  refine ⟨honest.armed, fun running failed => ?_⟩
  rw [Timer.finish, Bool.not_eq_true'] at failed
  rcases may failed with expired | unset
  · rw [Timer.finish, expired] at running
    cases running
  · exact unset

theorem Honest.check (honest : Honest unarmed t) : Honest unarmed (t.check unarmed time) := by
  rw [Timer.check]
  split
  · refine ⟨fun running => ?_, fun running => ?_⟩
    · cases running
    · cases running
  · exact honest

/-- What a check of an honest timer finds due has earned it. -/
theorem Honest.earned (honest : Honest unarmed t) (may : t.MayCheck unarmed)
    (due : t.Due unarmed time) (past : time ≤ now) : t.Earned now := by
  obtain ⟨running, some, ended⟩ := due
  have armed : t.endTime ≠ 0 := by
    cases unarmed with
    | false => exact some
    | true =>
      rcases may with impossible | expired | none | armed
      · cases impossible
      · rw [running] at expired
        cases expired
      · exact absurd none some
      · exact armed
  obtain ⟨⟨start, set, within⟩, positive⟩ := honest.armed running armed
  refine ⟨?_, ⟨start, set, by omega⟩, ?_⟩
  · cases unarmed with
    | false => exact positive rfl
    | true => exact some
  · cases failed : t.failed with
    | false => rfl
    | true => exact absurd (honest.failed running failed) armed

end Timer

end Deadlines
