import Mathlib.Data.List.Pairwise
import Mathlib.Data.Finset.Card
import Mathlib.Order.Lattice
import Mathlib.Tactic.ByContra
import Mathlib.Tactic.SplitIfs

/-!
# Walking through a table that changes

A walk visits the keys of a table in their order, and a visit may change the table. The walker
holds on to the key it is at: it is lost when the visit has taken that key away, and it is stuck in
a visit that does not come back.
-/

universe u v

structure Walk (σ : Type u) (κ : Type v) [LinearOrder κ] where
  keys : σ → List κ
  sorted : ∀ s, (keys s).Pairwise (· < ·)
  visit : κ → σ → Option σ

namespace Walk

variable {σ : Type u} {κ : Type v} [LinearOrder κ]

inductive Place (κ : Type v) where
  | before
  | on (k : κ)
  | past
  | lost (k : κ)
  | stuck (k : κ)
  deriving DecidableEq

structure Walker (σ : Type u) (κ : Type v) where
  state : σ
  place : Place κ := .before
  visited : List κ := []

/-- The walker still has the key in front of it. -/
def Place.Ahead : Place κ → κ → Prop
  | .before, _ => True
  | .on k, other => k < other
  | _, _ => False

instance (place : Place κ) (k : κ) : Decidable (place.Ahead k) :=
  match place with
  | .before => isTrue trivial
  | .on _ => inferInstanceAs (Decidable (_ < _))
  | .past | .lost _ | .stuck _ => isFalse id

def Place.Walks : Place κ → Prop
  | .before | .on _ => True
  | _ => False

instance (place : Place κ) : Decidable place.Walks :=
  match place with
  | .before | .on _ => isTrue trivial
  | .past | .lost _ | .stuck _ => isFalse id

variable (w : Walk σ κ)

def next (x : Walker σ κ) : Option κ :=
  (w.keys x.state).find? (fun k => decide (x.place.Ahead k))

/-- The next key is visited. -/
def go (k : κ) (x : Walker σ κ) : Walker σ κ :=
  match w.visit k x.state with
  | none => { x with place := .stuck k, visited := x.visited ++ [k] }
  | some s =>
    { state := s, place := if k ∈ w.keys s then .on k else .lost k, visited := x.visited ++ [k] }

def step (x : Walker σ κ) : Walker σ κ :=
  if x.place.Walks then
    match w.next x with
    | none => { x with place := .past }
    | some k => w.go k x
  else x

/-- The walker after so many steps. -/
def after (s : σ) : Nat → Walker σ κ
  | 0 => { state := s }
  | n + 1 => w.step (after s n)

/-- The key that the step visits. -/
def Visits (s : σ) (n : Nat) (k : κ) : Prop :=
  (w.after s n).place.Walks ∧ w.next (w.after s n) = some k

/-- Whoever is there when its turn comes is visited once, and the walk comes to its end. -/
structure Survives (s : σ) : Prop where
  present : ∀ n k, w.Visits s n k → k ∈ w.keys (w.after s n).state
  held : ∀ n k, (w.after s n).place ≠ .lost k
  once : ∀ n, (w.after s n).visited.Nodup
  turn : ∀ n k, (∀ m, n ≤ m → (w.after s m).place.Ahead k → k ∈ w.keys (w.after s m).state) →
    (w.after s n).place.Ahead k → ∃ m, k ∈ (w.after s m).visited
  ends : ∃ n, (w.after s n).place = .past

variable {w} {s : σ} {x : Walker σ κ} {k : κ} {n m : Nat}

/-! ## One step -/

theorem ahead_walks {place : Place κ} (ahead : place.Ahead k) : place.Walks := by
  cases place with
  | before => trivial
  | on _ => trivial
  | past => exact ahead
  | lost _ => exact ahead
  | stuck _ => exact ahead

theorem next_some (found : w.next x = some k) :
    k ∈ w.keys x.state ∧ x.place.Ahead k ∧
      ∀ other ∈ w.keys x.state, x.place.Ahead other → k ≤ other := by
  refine ⟨List.mem_of_find?_eq_some found, by simpa using List.find?_some found, ?_⟩
  intro other member ahead
  obtain ⟨-, before, rest, split, earlier⟩ := List.find?_eq_some_iff_append.mp found
  have sorted := w.sorted x.state
  rw [split] at sorted member
  rcases List.mem_append.mp member with passed | later
  · have absent := earlier other passed
    simp [ahead] at absent
  · rcases List.mem_cons.mp later with same | beyond
    · exact le_of_eq same.symm
    · have tail := (List.pairwise_append.mp sorted).2.1
      exact le_of_lt ((List.pairwise_cons.mp tail).1 other beyond)

theorem next_none (none : w.next x = none) (member : k ∈ w.keys x.state) : ¬x.place.Ahead k := by
  have absent := List.find?_eq_none.mp none k member
  simpa using absent

theorem step_walks (walks : x.place.Walks) (found : w.next x = some k) : w.step x = w.go k x := by
  rw [step, if_pos walks, found]

theorem step_past (walks : x.place.Walks) (none : w.next x = none) :
    w.step x = { x with place := .past } := by
  rw [step, if_pos walks, none]

theorem step_still (still : ¬x.place.Walks) : w.step x = x := by
  rw [step, if_neg still]

theorem go_visited (k : κ) (x : Walker σ κ) : (w.go k x).visited = x.visited ++ [k] := by
  rw [go]
  split
  · rfl
  · rfl

/-- A visit leaves in front what was in front, up to the key itself. -/
theorem go_ahead {other : κ} (ahead : (w.go k x).place.Ahead other) : k < other := by
  rw [go] at ahead
  split at ahead
  · exact ahead.elim
  · simp only at ahead
    split_ifs at ahead
    · exact ahead
    · exact ahead.elim

/-! ## Whole walks -/

theorem after_still (still : ¬(w.after s n).place.Walks) (later : n ≤ m) :
    w.after s m = w.after s n := by
  induction m with
  | zero =>
    have zero : n = 0 := by omega
    rw [zero]
  | succ m ih =>
    by_cases same : n = m + 1
    · rw [same]
    · have before := ih (by omega)
      rw [after, before, step_still still]

/-- The keys are visited in their order, and what is ahead comes behind all of them. -/
theorem visited_sorted (w : Walk σ κ) (s : σ) (n : Nat) :
    (w.after s n).visited.Pairwise (· < ·) ∧
      ∀ other, (w.after s n).place.Ahead other → ∀ k ∈ (w.after s n).visited, k < other := by
  induction n with
  | zero =>
    refine ⟨List.Pairwise.nil, ?_⟩
    intro _ _ _ member
    cases member
  | succ n ih =>
    obtain ⟨sorted, behind⟩ := ih
    rw [after]
    by_cases walks : (w.after s n).place.Walks
    · cases found : w.next (w.after s n) with
      | none =>
        rw [step_past walks found]
        exact ⟨sorted, fun _ ahead => ahead.elim⟩
      | some k =>
        obtain ⟨-, ahead, -⟩ := next_some found
        have passed := behind k ahead
        rw [step_walks walks found, go_visited]
        refine ⟨List.pairwise_append.mpr ⟨sorted, List.pairwise_singleton _ _, ?_⟩, ?_⟩
        · intro old member new here
          rw [List.mem_singleton.mp here]
          exact passed old member
        · intro other later old member
          have beyond := go_ahead later
          rcases List.mem_append.mp member with earlier | last
          · exact lt_trans (passed old earlier) beyond
          · rw [List.mem_singleton.mp last]
            exact beyond
    · rw [step_still walks]
      exact ⟨sorted, behind⟩

theorem visited_nodup (w : Walk σ κ) (s : σ) (n : Nat) : (w.after s n).visited.Nodup := by
  refine (visited_sorted w s n).1.imp ?_
  rintro a b less rfl
  exact lt_irrefl _ less

/-- As long as the walk goes on, each step is a visit. -/
theorem visited_length (walks : (w.after s n).place.Walks) : (w.after s n).visited.length = n := by
  induction n with
  | zero => rfl
  | succ n ih =>
    rw [after] at walks ⊢
    by_cases before : (w.after s n).place.Walks
    · cases found : w.next (w.after s n) with
      | none =>
        rw [step_past before found] at walks
        exact walks.elim
      | some k =>
        rw [step_walks before found, go_visited, List.length_append, ih before]
        rfl
    · rw [step_still before] at walks
      exact absurd walks before

theorem after_succ_visits (visits : w.Visits s n k) : w.after s (n + 1) = w.go k (w.after s n) :=
  step_walks visits.1 visits.2

theorem go_held {s' : σ} (back : w.visit k x.state = some s') (kept : k ∈ w.keys s') :
    w.go k x = { state := s', place := .on k, visited := x.visited ++ [k] } := by
  simp only [go, back, kept, if_true]

theorem go_lost {s' : σ} (back : w.visit k x.state = some s') (gone : k ∉ w.keys s') :
    (w.go k x).place = .lost k := by
  simp only [go, back, gone, if_false]

theorem go_stuck (stays : w.visit k x.state = none) : (w.go k x).place = .stuck k := by
  simp only [go, stays]

/-- Where a walk stands whose visits come back and leave the key. -/
theorem place_cases
    (returns : ∀ n k, w.Visits s n k →
      ∃ s', w.visit k (w.after s n).state = some s' ∧ k ∈ w.keys s') (n : Nat) :
    (w.after s n).place.Walks ∨ (w.after s n).place = .past := by
  induction n with
  | zero => exact Or.inl trivial
  | succ n ih =>
    rcases ih with walks | past
    · cases found : w.next (w.after s n) with
      | none =>
        rw [after, step_past walks found]
        exact Or.inr rfl
      | some k =>
        obtain ⟨s', back, kept⟩ := returns n k ⟨walks, found⟩
        rw [after, step_walks walks found, go_held back kept]
        exact Or.inl trivial
    · have still : ¬(w.after s n).place.Walks := by
        rw [past]
        exact id
      rw [after, step_still still]
      exact Or.inr past

/-- A walk that is past all keys at the end never stops before. -/
theorem walks_before_end {last : Nat} (ends : (w.after s last).place = .past)
    (here : (w.after s n).place ≠ .past) : (w.after s n).place.Walks := by
  by_contra still
  rcases Nat.le_total n last with sooner | later
  · rw [after_still still sooner] at ends
    exact here ends
  · have stopped : ¬(w.after s last).place.Walks := by
      rw [ends]
      exact id
    rw [after_still stopped later] at here
    exact here ends

theorem visit_returns {last : Nat} (ends : (w.after s last).place = .past)
    (visits : w.Visits s n k) :
    ∃ s', w.visit k (w.after s n).state = some s' ∧ k ∈ w.keys s' := by
  have next : (w.after s (n + 1)) = w.go k (w.after s n) := after_succ_visits visits
  cases back : w.visit k (w.after s n).state with
  | none =>
    have stuck := go_stuck back
    rw [← next] at stuck
    have walks := walks_before_end (n := n + 1) ends (by simp [stuck])
    rw [stuck] at walks
    exact walks.elim
  | some s' =>
    refine ⟨s', rfl, ?_⟩
    by_contra gone
    have lost := go_lost back gone
    rw [← next] at lost
    have walks := walks_before_end (n := n + 1) ends (by simp [lost])
    rw [lost] at walks
    exact walks.elim

/-- A key that stays until its turn comes is not passed over. -/
theorem visited_of_stays {last : Nat} (ends : (w.after s last).place = .past)
    (stays : ∀ m, n ≤ m → (w.after s m).place.Ahead k → k ∈ w.keys (w.after s m).state)
    (ahead : (w.after s n).place.Ahead k) : ∃ m, k ∈ (w.after s m).visited := by
  obtain ⟨distance, within⟩ : ∃ distance, last ≤ n + distance := ⟨last, by omega⟩
  induction distance generalizing n with
  | zero =>
    have stopped : ¬(w.after s last).place.Walks := by
      rw [ends]
      exact id
    have same : w.after s n = w.after s last := after_still stopped within
    rw [same, ends] at ahead
    exact ahead.elim
  | succ distance ih =>
    have walks := ahead_walks ahead
    have member := stays n (Nat.le_refl n) ahead
    cases found : w.next (w.after s n) with
    | none => exact absurd ahead (next_none found member)
    | some k' =>
      have visits : w.Visits s n k' := ⟨walks, found⟩
      have least := (next_some found).2.2 k member ahead
      rcases lt_or_eq_of_le least with before | same
      · obtain ⟨s', back, kept⟩ := visit_returns ends visits
        have place : (w.after s (n + 1)).place = .on k' := by
          rw [after_succ_visits visits, go_held back kept]
        have later : (w.after s (n + 1)).place.Ahead k := by
          rw [place]
          exact before
        exact ih (fun m beyond => stays m (by omega)) later (by omega)
      · refine ⟨n + 1, ?_⟩
        rw [after_succ_visits visits, go_visited, same]
        exact List.mem_append_right _ (List.mem_singleton_self k)

/-! ## When the walk comes to its end -/

theorem visited_ranked {β : Type*} (rank : κ → β) (all : Finset β)
    (known : ∀ s, ∀ k ∈ w.keys s, rank k ∈ all) (n : Nat) :
    ∀ k ∈ (w.after s n).visited, rank k ∈ all := by
  induction n with
  | zero =>
    intro _ member
    cases member
  | succ n ih =>
    rw [after]
    by_cases walks : (w.after s n).place.Walks
    · cases found : w.next (w.after s n) with
      | none =>
        rw [step_past walks found]
        exact ih
      | some k' =>
        rw [step_walks walks found, go_visited]
        intro k member
        rcases List.mem_append.mp member with earlier | last
        · exact ih k earlier
        · rw [List.mem_singleton.mp last]
          exact known _ k' (next_some found).1
    · rw [step_still walks]
      exact ih

section Ranked

-- The ranks tell the keys of one table apart, and there are finitely many of them.
variable {β : Type*} [LinearOrder β] (rank : κ → β) (all : Finset β)

/-- The ranks of what is visited grow, and those of what is ahead are greater still. -/
theorem ranks_sorted (keeps : ∀ a b, a ≤ b → rank a ≤ rank b)
    (apart : ∀ s, ∀ a ∈ w.keys s, ∀ b ∈ w.keys s, rank a = rank b → a = b)
    (returns : ∀ n k, w.Visits s n k →
      ∃ s', w.visit k (w.after s n).state = some s' ∧ k ∈ w.keys s') (n : Nat) :
    ((w.after s n).visited.map rank).Pairwise (· < ·) ∧
      ∀ k ∈ w.keys (w.after s n).state, (w.after s n).place.Ahead k →
        ∀ old ∈ (w.after s n).visited, rank old < rank k := by
  induction n with
  | zero =>
    refine ⟨List.Pairwise.nil, ?_⟩
    intro _ _ _ _ member
    cases member
  | succ n ih =>
    obtain ⟨sorted, behind⟩ := ih
    by_cases walks : (w.after s n).place.Walks
    · cases found : w.next (w.after s n) with
      | none =>
        rw [after, step_past walks found]
        exact ⟨sorted, fun _ _ ahead => ahead.elim⟩
      | some k =>
        obtain ⟨member, ahead, -⟩ := next_some found
        obtain ⟨s', back, kept⟩ := returns n k ⟨walks, found⟩
        have passed := behind k member ahead
        rw [after, step_walks walks found, go_held back kept]
        constructor
        · rw [List.map_append]
          refine List.pairwise_append.mpr ⟨sorted, List.pairwise_singleton _ _, ?_⟩
          intro low earlier high last
          obtain ⟨old, visited, rfl⟩ := List.mem_map.mp earlier
          rw [List.mem_singleton.mp last]
          exact passed old visited
        · intro other there beyond old visited
          have later : k < other := beyond
          have different : rank k ≠ rank other := fun same =>
            ne_of_lt later (apart s' k kept other there same)
          have above : rank k < rank other := lt_of_le_of_ne (keeps k other later.le) different
          rcases List.mem_append.mp visited with earlier | last
          · exact lt_trans (passed old earlier) above
          · rw [List.mem_singleton.mp last]
            exact above
    · rw [after, step_still walks]
      exact ⟨sorted, behind⟩

/-- There are not more visits than ranks. -/
theorem ends_of_returns (keeps : ∀ a b, a ≤ b → rank a ≤ rank b)
    (apart : ∀ s, ∀ a ∈ w.keys s, ∀ b ∈ w.keys s, rank a = rank b → a = b)
    (known : ∀ s, ∀ k ∈ w.keys s, rank k ∈ all)
    (returns : ∀ n k, w.Visits s n k →
      ∃ s', w.visit k (w.after s n).state = some s' ∧ k ∈ w.keys s') :
    ∃ n, (w.after s n).place = .past := by
  refine ⟨all.card + 1, ?_⟩
  rcases place_cases returns (all.card + 1) with walks | past
  · have length := visited_length walks
    obtain ⟨sorted, -⟩ := ranks_sorted rank keeps apart returns (all.card + 1)
    have distinct : ((w.after s (all.card + 1)).visited.map rank).Nodup := sorted.imp ne_of_lt
    have inside : ((w.after s (all.card + 1)).visited.map rank).toFinset ⊆ all := by
      intro r member
      obtain ⟨k, visited, rfl⟩ := List.mem_map.mp (List.mem_toFinset.mp member)
      exact visited_ranked rank all known _ k visited
    have few := Finset.card_le_card inside
    rw [List.toFinset_card_of_nodup distinct, List.length_map] at few
    omega
  · exact past

/-- A walk survives its visits exactly when each comes back and leaves the key it is at. -/
theorem survives_iff (keeps : ∀ a b, a ≤ b → rank a ≤ rank b)
    (apart : ∀ s, ∀ a ∈ w.keys s, ∀ b ∈ w.keys s, rank a = rank b → a = b)
    (known : ∀ s, ∀ k ∈ w.keys s, rank k ∈ all) :
    w.Survives s ↔ ∀ n k, w.Visits s n k →
      ∃ s', w.visit k (w.after s n).state = some s' ∧ k ∈ w.keys s' := by
  constructor
  · intro survives
    obtain ⟨last, ends⟩ := survives.ends
    exact fun n k visits => visit_returns ends visits
  · intro returns
    obtain ⟨last, ends⟩ := ends_of_returns rank all keeps apart known returns
    constructor
    · exact fun n k visits => (next_some visits.2).1
    · intro n k lost
      rcases place_cases returns n with walks | past
      · rw [lost] at walks
        exact walks
      · rw [lost] at past
        cases past
    · exact visited_nodup w s
    · exact fun n k stays ahead => visited_of_stays ends stays ahead
    · exact ⟨last, ends⟩

end Ranked

end Walk
