import Mathlib.Data.List.Basic

/-!
# Handles and their releases

Every handle that is made gets the next number, and the history keeps how often each was released.
A part of a run settles when it released each handle that it made once.
-/

namespace Handles

universe u

structure Made (κ : Type u) where
  kind : κ
  releases : Nat := 0
  deriving DecidableEq

/-- All handles in the order in which they were made; a handle is its place. -/
abbrev History (κ : Type u) := List (Made κ)

variable {κ : Type u}

def make (kind : κ) (history : History κ) : Nat × History κ :=
  (history.length, history ++ [⟨kind, 0⟩])

def Made.released (made : Made κ) : Made κ := { made with releases := made.releases + 1 }

def release (handle : Nat) (history : History κ) : History κ := history.modify handle Made.released

/-- The handles made from the first history to the second were each released once. -/
def Settled (before after : History κ) : Prop :=
  ∃ added, after = before ++ added ∧ ∀ made ∈ added, made.releases = 1

/-- Of the handles made in between only this one is still there. -/
def OnlyLeft (handle : Nat) (before after : History κ) : Prop :=
  ∃ gone kind, after = before ++ gone ++ [⟨kind, 0⟩] ∧ (∀ made ∈ gone, made.releases = 1) ∧
    handle = (before ++ gone).length

theorem release_at (front back : History κ) (made : Made κ) :
    release front.length (front ++ made :: back) = front ++ made.released :: back := by
  rw [release]
  induction front with
  | nil => rfl
  | cons first rest ih =>
    change first :: (rest ++ made :: back).modify rest.length Made.released = _
    rw [ih]
    rfl

theorem settled_append {history added : History κ} :
    Settled history (history ++ added) ↔ ∀ made ∈ added, made.releases = 1 := by
  constructor
  · rintro ⟨added', same, settled⟩
    rwa [List.append_cancel_left same]
  · intro settled
    exact ⟨added, rfl, settled⟩

end Handles
