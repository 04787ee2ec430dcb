import Mathlib.Data.List.Nodup
import Mathlib.Data.List.Perm.Subperm
import Mathlib.Data.List.Range
import Mathlib.Tactic.SplitIfs

/-!
# Searching for an id that is not in use

A counter that starts again at 1 when it reaches a limit, moved on until it is at an id that is
not taken; and a search downwards from a start, without one.
-/

namespace IdSearch

/-! ## Upwards, with a wrap -/

def following (limit counter : Nat) : Nat := if limit ≤ counter + 1 then 1 else counter + 1

/-- `do { move on } while (taken);` within so many rounds. -/
def searchUp (taken : Nat → Bool) (limit : Nat) : Nat → Nat → Option Nat
  | 0, _ => none
  | rounds + 1, counter =>
    if taken (following limit counter) then
      searchUp taken limit rounds (following limit counter)
    else some (following limit counter)

variable {taken : Nat → Bool} {limit counter id rounds : Nat}

theorem following_range (room : 2 ≤ limit) (counter : Nat) :
    1 ≤ following limit counter ∧ following limit counter < limit := by
  rw [following]
  split
  · omega
  · omega

theorem searchUp_some (room : 2 ≤ limit) (found : searchUp taken limit rounds counter = some id) :
    taken id = false ∧ 1 ≤ id ∧ id < limit := by
  induction rounds generalizing counter with
  | zero => cases found
  | succ rounds ih =>
    rw [searchUp] at found
    by_cases busy : taken (following limit counter) = true
    · rw [if_pos busy] at found
      exact ih found
    · rw [if_neg busy] at found
      cases found
      exact ⟨by simpa using busy, following_range room counter⟩

/-- No number of rounds is enough when every id of the range is taken. -/
theorem searchUp_full (room : 2 ≤ limit)
    (full : ∀ id, 1 ≤ id → id < limit → taken id = true) (rounds counter : Nat) :
    searchUp taken limit rounds counter = none := by
  induction rounds generalizing counter with
  | zero => rfl
  | succ rounds ih =>
    have next := following_range room counter
    rw [searchUp, full _ next.1 next.2, if_pos rfl]
    exact ih _

/-- How many times the counter moves on before it is at the id. -/
def distance (limit counter id : Nat) : Nat :=
  if counter < id then id - counter else limit - 1 - counter + id

/-- The search meets every free id within one turn. -/
theorem searchUp_finds (free : taken id = false) (positive : 1 ≤ id) (below : id < limit)
    (enough : distance limit counter id ≤ rounds) :
    ∃ found, searchUp taken limit rounds counter = some found := by
  induction rounds generalizing counter with
  | zero =>
    rw [distance] at enough
    split at enough
    · omega
    · omega
  | succ rounds ih =>
    by_cases busy : taken (following limit counter) = true
    · have other : following limit counter ≠ id := by
        rintro rfl
        rw [free] at busy
        cases busy
      have closer : distance limit (following limit counter) id ≤ rounds := by
        simp only [distance, following] at enough other ⊢
        split_ifs at enough other ⊢
        all_goals omega
      obtain ⟨found, same⟩ := ih closer
      exact ⟨found, by rw [searchUp, if_pos busy, same]⟩
    · exact ⟨_, by rw [searchUp, if_neg busy]⟩

theorem distance_le (below : id < limit) : distance limit counter id ≤ 2 * limit := by
  rw [distance]
  split
  · omega
  · omega

/-- More rounds do not change what was found. -/
theorem searchUp_add (found : searchUp taken limit rounds counter = some id) (more : Nat) :
    searchUp taken limit (rounds + more) counter = some id := by
  induction rounds generalizing counter with
  | zero => cases found
  | succ rounds ih =>
    rw [searchUp] at found
    rw [Nat.succ_add, searchUp]
    split at found
    · next busy => rw [if_pos busy, ih found]
    · next free => rw [if_neg free, found]

/-- Two turns of the counter are enough, unless every id of the range is taken. -/
theorem searchUp_eq_some (limit counter : Nat) (free : taken id = false) (positive : 1 ≤ id)
    (below : id < limit) :
    ∃ found, taken found = false ∧ 1 ≤ found ∧ found < limit ∧
      ∀ rounds, 2 * limit ≤ rounds → searchUp taken limit rounds counter = some found := by
  have near : distance limit counter id ≤ 2 * limit := distance_le below
  obtain ⟨found, finds⟩ := searchUp_finds free positive below near
  obtain ⟨unused, atLeast, under⟩ := searchUp_some (by omega) finds
  refine ⟨found, unused, atLeast, under, ?_⟩
  intro rounds enough
  obtain ⟨more, rfl⟩ := Nat.exists_eq_add_of_le enough
  exact searchUp_add finds more

/-! ## Downwards -/

/-- `while (used.contains(id)) { id--; }`, which ends after one round for each used id at the
latest. -/
def searchDown (used : List Int) : Nat → Int → Int
  | 0, id => id
  | rounds + 1, id => if id ∈ used then searchDown used rounds (id - 1) else id

variable {used : List Int} {start low : Int}

theorem searchDown_le (used : List Int) (rounds : Nat) (start : Int) :
    searchDown used rounds start ≤ start := by
  induction rounds generalizing start with
  | zero => exact Int.le_refl _
  | succ rounds ih =>
    rw [searchDown]
    split
    · have further := ih (start - 1)
      omega
    · exact Int.le_refl _

/-- Everything that was passed by is in use. -/
theorem searchDown_passed (rounds : Nat) (start : Int)
    (above : searchDown used rounds start < low) (below : low ≤ start) : low ∈ used := by
  induction rounds generalizing start with
  | zero =>
    rw [searchDown] at above
    omega
  | succ rounds ih =>
    rw [searchDown] at above
    split at above
    · next busy =>
      by_cases here : low = start
      · exact here ▸ busy
      · exact ih _ above (by omega)
    · omega

theorem searchDown_stops (used : List Int) (rounds : Nat) (start : Int) :
    searchDown used rounds start ∉ used ∨ searchDown used rounds start = start - rounds := by
  induction rounds generalizing start with
  | zero => exact Or.inr (by simp [searchDown])
  | succ rounds ih =>
    rw [searchDown]
    split
    · rcases ih (start - 1) with free | stopped
      · exact Or.inl free
      · exact Or.inr (by rw [stopped]; omega)
    · next free => exact Or.inl free

/-- As many rounds as there are used ids are enough. -/
theorem searchDown_free (used : List Int) (start : Int) :
    searchDown used used.length start ∉ used := by
  rcases searchDown_stops used used.length start with free | stopped
  · exact free
  · intro busy
    -- all the ids from the start down to this one would be in use, one more than there are
    have passed : (List.range (used.length + 1)).map (fun i : Nat => start - i) ⊆ used := by
      intro id member
      obtain ⟨i, inRange, rfl⟩ := List.mem_map.mp member
      have small : i < used.length + 1 := List.mem_range.mp inRange
      by_cases last : i = used.length
      · rw [last, ← stopped]
        exact busy
      · exact searchDown_passed used.length start (by omega) (by omega)
    have distinct : ((List.range (used.length + 1)).map (fun i : Nat => start - i)).Nodup :=
      List.Nodup.map (fun i j same => by
        have equal : start - (i : Int) = start - (j : Int) := same
        omega) List.nodup_range
    have more := (distinct.subperm passed).length_le
    rw [List.length_map, List.length_range] at more
    omega

/-- The search from a start ends in a range exactly when a part of the range below the start is
free. -/
theorem low_lt_searchDown_iff (used : List Int) (start low : Int) :
    low < searchDown used used.length start ↔ ∃ id, low < id ∧ id ≤ start ∧ id ∉ used := by
  constructor
  · intro above
    exact ⟨_, above, searchDown_le used used.length start, searchDown_free used start⟩
  · rintro ⟨id, above, below, free⟩
    by_contra under
    exact free (searchDown_passed used.length start (by omega) below)

/-! ## What is asked of an allocation -/

/-- The operation ends with the result, however many more rounds its loop is given. -/
def Ends (operation : Nat → Option Int) (result : Int) : Prop :=
  ∃ enough, ∀ rounds, enough ≤ rounds → operation rounds = some result

theorem ends_const (result other : Int) : Ends (fun _ => some result) other ↔ result = other := by
  constructor
  · rintro ⟨n, ends⟩
    exact Option.some.inj (ends n (Nat.le_refl n))
  · rintro rfl
    exact ⟨0, fun _ _ => rfl⟩

/-- Some id above `low`, up to `high`, is not in use. -/
def HasFree (used : Int → Prop) (low high : Int) : Prop := ∃ id, low < id ∧ id ≤ high ∧ ¬used id

/-- The operation ends, with an id of the range that is not in use if there is one and with the
error if there is none. -/
structure Allocates (used : Int → Prop) (low high full : Int) (operation : Nat → Option Int) :
    Prop where
  allocated : HasFree used low high →
    ∃ id, Ends operation id ∧ low < id ∧ id ≤ high ∧ ¬used id
  refused : ¬HasFree used low high → Ends operation full

/-- A search downwards allocates unless the only free ids are above its start. -/
theorem allocates_searchDown_iff {used : List Int} {start low high full : Int}
    (inRange : start ≤ high) (error : full ≤ low) :
    Allocates (· ∈ used) low high full (fun _ => some
      (if searchDown used used.length start ≤ low then full
       else searchDown used used.length start)) ↔
    (HasFree (· ∈ used) low high → HasFree (· ∈ used) low start) := by
  have meets := low_lt_searchDown_iff used start low
  constructor
  · intro allocates free
    obtain ⟨id, ends, above, below, unused⟩ := allocates.allocated free
    rw [ends_const] at ends
    by_contra none
    have passed : ¬low < searchDown used used.length start := fun h => none (meets.mp h)
    rw [if_pos (by omega)] at ends
    omega
  · intro enough
    constructor
    · intro free
      have found := meets.mpr (enough free)
      refine ⟨searchDown used used.length start, ?_, found, ?_, ?_⟩
      · rw [ends_const, if_neg (by omega)]
      · have under := searchDown_le used used.length start
        omega
      · exact searchDown_free used start
    · intro none
      rw [ends_const, if_pos]
      by_contra above
      obtain ⟨id, low_lt, le_start, free⟩ := meets.mp (by omega)
      exact none ⟨id, low_lt, by omega, free⟩

/-- A search upwards allocates exactly when there is a free id: when there is none, it does not
end. -/
theorem allocates_searchUp_iff {used : Int → Prop} {low high full : Int} (room : 2 ≤ limit)
    (last : high = low + limit - 1)
    (same : ∀ n : Nat, 1 ≤ n → n < limit → (used (low + n) ↔ taken n = true)) (counter : Nat) :
    Allocates used low high full
      (fun rounds => (searchUp taken limit rounds counter).map (fun n : Nat => low + n)) ↔
    HasFree used low high := by
  constructor
  · intro allocates
    by_contra none
    have allTaken : ∀ n : Nat, 1 ≤ n → n < limit → taken n = true := by
      intro n positive below
      by_contra free
      exact none ⟨low + n, by omega, by omega, fun busy => free ((same n positive below).mp busy)⟩
    obtain ⟨enough, ends⟩ := allocates.refused none
    have searched := ends enough (Nat.le_refl enough)
    simp only [searchUp_full room allTaken, Option.map_none] at searched
    cases searched
  · intro free
    constructor
    · rintro ⟨id, above, below, unused⟩
      obtain ⟨n, offset⟩ := Int.eq_ofNat_of_zero_le (a := id - low) (by omega)
      have here : low + n = id := by omega
      have freeId : taken n = false := by
        rw [← Bool.not_eq_true, ← same n (by omega) (by omega), here]
        exact unused
      obtain ⟨found, notTaken, positive, under, ends⟩ :=
        searchUp_eq_some limit counter freeId (by omega) (by omega)
      refine ⟨low + found, ⟨2 * limit, ?_⟩, by omega, by omega, ?_⟩
      · intro rounds enough
        simp only [ends rounds enough, Option.map_some]
      · rw [same found positive under, notTaken]
        exact Bool.false_ne_true
    · intro none
      exact absurd free none

/-- Distinct ids of a range are no more than the range has. -/
theorem length_le_of_range {ids : List Nat} {low high : Nat} (distinct : ids.Nodup)
    (inRange : ∀ id ∈ ids, low ≤ id ∧ id < high) : ids.length ≤ high - low := by
  have members : ids ⊆ List.range' low (high - low) := by
    intro id member
    have bounds := inRange id member
    exact List.mem_range'_1.mpr (by omega)
  have fewer := (distinct.subperm members).length_le
  rwa [List.length_range'] at fewer

end IdSearch
