import Mathlib.Data.List.Destutter

/-!
# Changes of keyed values

A loop reports a value only when it differs from the last one of its key, and keeps the last ones
from one batch of values to the next. The batches together report what one pass over all of them
would.
-/

namespace Changes

universe u v

variable {κ : Type u} {α : Type v} [DecidableEq κ]

/-! ## One key -/

/-- The values of one key. -/
def valuesOf (k : κ) (pairs : List (κ × α)) : List α :=
  (pairs.filter (fun pair => decide (pair.1 = k))).map (·.2)

@[simp] theorem valuesOf_nil (k : κ) : valuesOf k ([] : List (κ × α)) = [] := rfl

theorem valuesOf_cons_own (k : κ) (a : α) (rest : List (κ × α)) :
    valuesOf k ((k, a) :: rest) = a :: valuesOf k rest := by
  simp [valuesOf]

theorem valuesOf_cons_other {k k' : κ} (other : k' ≠ k) (a : α) (rest : List (κ × α)) :
    valuesOf k ((k', a) :: rest) = valuesOf k rest := by
  simp [valuesOf, other]

theorem valuesOf_append (k : κ) (first second : List (κ × α)) :
    valuesOf k (first ++ second) = valuesOf k first ++ valuesOf k second := by
  simp [valuesOf]

def lastFrom : Option α → List α → Option α
  | last, [] => last
  | _, a :: rest => lastFrom (some a) rest

theorem lastFrom_append (last : Option α) (first second : List α) :
    lastFrom last (first ++ second) = lastFrom (lastFrom last first) second := by
  induction first generalizing last with
  | nil => rfl
  | cons a rest ih => exact ih (some a)

/-! ## Changes -/

variable [DecidableEq α]

/-- The values that differ from the one before them, the first from `last`. -/
def changesFrom : Option α → List α → List α
  | _, [] => []
  | last, a :: rest =>
    if last = some a then changesFrom last rest else a :: changesFrom (some a) rest

/-- The loop over a batch: what it reports, and the last values behind it. -/
def report (last : κ → Option α) : List (κ × α) → List (κ × α) × (κ → Option α)
  | [] => ([], last)
  | (k, a) :: rest =>
    if last k = some a then report last rest
    else
      let later := report (fun k' => if k' = k then some a else last k') rest
      ((k, a) :: later.1, later.2)

theorem changesFrom_append (last : Option α) (first second : List α) :
    changesFrom last (first ++ second) =
      changesFrom last first ++ changesFrom (lastFrom last first) second := by
  induction first generalizing last with
  | nil => rfl
  | cons a rest ih =>
    rw [List.cons_append, changesFrom, changesFrom, lastFrom]
    split
    · next same => rw [ih, same]
    · rw [ih, List.cons_append]

theorem destutter'_eq (a : α) (rest : List α) :
    rest.destutter' (· ≠ ·) a = a :: changesFrom (some a) rest := by
  induction rest generalizing a with
  | nil => rfl
  | cons b rest ih =>
    rw [List.destutter'_cons, changesFrom]
    by_cases same : a = b
    · simp [same, ih]
    · have differs : ¬some a = some b := fun equal => same (Option.some.inj equal)
      rw [if_pos same, if_neg differs, ih]

/-- From no value on, repetitions are removed. -/
theorem changesFrom_none (values : List α) :
    changesFrom none values = values.destutter (· ≠ ·) := by
  cases values with
  | nil => rfl
  | cons a rest => rw [changesFrom, if_neg nofun, List.destutter_cons', destutter'_eq]

/-- A batch reports, for each key, the changes of that key. -/
theorem report_eq (last : κ → Option α) (pairs : List (κ × α)) (k : κ) :
    valuesOf k (report last pairs).1 = changesFrom (last k) (valuesOf k pairs) ∧
      (report last pairs).2 k = lastFrom (last k) (valuesOf k pairs) := by
  induction pairs generalizing last with
  | nil => exact ⟨rfl, rfl⟩
  | cons pair rest ih =>
    obtain ⟨k', a⟩ := pair
    rw [report]
    by_cases own : k' = k
    · subst own
      rw [valuesOf_cons_own, changesFrom, lastFrom]
      split
      · next same =>
        obtain ⟨reported, kept⟩ := ih last
        exact ⟨reported, same ▸ kept⟩
      · obtain ⟨reported, kept⟩ := ih (fun k'' => if k'' = k' then some a else last k'')
        simp only [if_true] at reported kept
        exact ⟨by rw [valuesOf_cons_own, reported], kept⟩
    · rw [valuesOf_cons_other own]
      split
      · exact ih last
      · obtain ⟨reported, kept⟩ := ih (fun k'' => if k'' = k' then some a else last k'')
        simp only [if_neg (Ne.symm own)] at reported kept
        exact ⟨by rw [valuesOf_cons_other own, reported], kept⟩

end Changes
