import Mathlib.Data.List.Basic
import Mathlib.Data.List.Forall2

/-!
# Growing arrays and pointers into them

An array that outgrows its capacity moves its elements to a new place. A pointer to an element says
how often the array had moved when it was taken, and leads nowhere once the array has moved again.
-/

universe u v w

structure GrowArray (α : Type u) where
  moves : Nat := 0
  capacity : Nat := 0
  elems : List α := []

structure Place where
  moves : Nat
  index : Nat
  deriving DecidableEq, Repr

namespace GrowArray

variable {α : Type u} {β : Type v}

/-! ## Operations -/

def clear (v : GrowArray α) : GrowArray α := { v with elems := [] }

/-- A larger capacity is met by moving. -/
def reserve (n : Nat) (v : GrowArray α) : GrowArray α :=
  if n ≤ v.capacity then v else { v with moves := v.moves + 1, capacity := n }

def resize (n : Nat) (blank : α) (v : GrowArray α) : GrowArray α :=
  { reserve n v with elems := (v.elems ++ List.replicate n blank).take n }

/-- `growth` is the capacity that a full array of some length asks for. -/
def push (growth : Nat → Nat) (a : α) (v : GrowArray α) : GrowArray α :=
  if v.elems.length < v.capacity then { v with elems := v.elems ++ [a] }
  else ⟨v.moves + 1, max (v.elems.length + 1) (growth v.elems.length), v.elems ++ [a]⟩

def write (i : Nat) (a : α) (v : GrowArray α) : GrowArray α := { v with elems := v.elems.set i a }

def place (i : Nat) (v : GrowArray α) : Place := ⟨v.moves, i⟩

def back (v : GrowArray α) : Place := v.place (v.elems.length - 1)

def data (v : GrowArray α) : Option Place := if v.elems = [] then none else some (v.place 0)

/-- Writes to the places from `i` on, one after the other. -/
def writeFrom : Nat → List α → GrowArray α → GrowArray α
  | _, [], v => v
  | i, a :: items, v => writeFrom (i + 1) items (v.write i a)

/-- Pushes the elements one by one and points to the first of them. -/
def pushAll (growth : Nat → Nat) (items : List α) (v : GrowArray α) :
    GrowArray α × Option Place :=
  items.foldl (fun (v, first) a => (v.push growth a, first.or (some (v.push growth a).back)))
    (v, none)

section Linked

variable {ρ : Type v} {σ : Type w} (fill : Option Place → ρ → σ → α × σ)

/-- Writes a linked list into an array that has an element for each of the items. What an item is
filled with may take space in some other storage. -/
def fillLinked : List ρ → Nat → GrowArray α → σ → GrowArray α × σ
  | [], _, v, s => (v, s)
  | r :: items, i, v, s =>
    let next := if i + 1 < v.elems.length then some (v.place (i + 1)) else none
    let (a, s) := fill next r s
    fillLinked items (i + 1) (v.write i a) s

end Linked

/-! ## Pointers -/

def read (v : GrowArray α) (p : Place) : Option α :=
  if p.moves = v.moves then v.elems[p.index]? else none

/-- The elements from a place on. -/
def readMany (v : GrowArray α) (p : Option Place) (n : Nat) : Option (List α) :=
  match p with
  | none => if n = 0 then some [] else none
  | some p =>
    if p.moves = v.moves ∧ p.index + n ≤ v.elems.length then some ((v.elems.drop p.index).take n)
    else none

/-- The elements of a linked list, which has no more of them than there is fuel. -/
def follow (next : α → Option Place) (v : GrowArray α) : Nat → Option Place → Option (List α)
  | _, none => some []
  | 0, some _ => none
  | fuel + 1, some p =>
    match v.read p with
    | none => none
    | some a => (follow next v fuel (next a)).map (a :: ·)

/-! ## Arrays that stay where they are -/

/-- Elements were added at the end, and none has moved. -/
structure Stays (v w : GrowArray α) : Prop where
  moves : w.moves = v.moves
  capacity : w.capacity = v.capacity
  elems : v.elems <+: w.elems

/-- Elements added without a move. -/
def plus (items : List α) (v : GrowArray α) : GrowArray α := { v with elems := v.elems ++ items }

variable {v w x : GrowArray α} {p : Place} {a : α} {items : List α} {n : Nat} {growth : Nat → Nat}

theorem Stays.refl (v : GrowArray α) : Stays v v := ⟨rfl, rfl, List.prefix_rfl⟩

theorem Stays.trans (first : Stays v w) (second : Stays w x) : Stays v x :=
  ⟨second.moves.trans first.moves, second.capacity.trans first.capacity,
    first.elems.trans second.elems⟩

theorem stays_plus (items : List α) (v : GrowArray α) : Stays v (v.plus items) :=
  ⟨rfl, rfl, List.prefix_append v.elems items⟩

theorem plus_nil (v : GrowArray α) : v.plus [] = v := by
  rw [plus, List.append_nil]

theorem plus_plus (more : List α) : (v.plus items).plus more = v.plus (items ++ more) := by
  rw [plus, plus, plus, List.append_assoc]

@[simp] theorem length_plus : (v.plus items).elems.length = v.elems.length + items.length :=
  List.length_append

@[simp] theorem capacity_plus : (v.plus items).capacity = v.capacity := rfl

@[simp] theorem moves_plus : (v.plus items).moves = v.moves := rfl

theorem Stays.read (stays : Stays v w) (found : v.read p = some a) : w.read p = some a := by
  rw [GrowArray.read] at found ⊢
  split at found
  · next same =>
    obtain ⟨more, split⟩ := stays.elems
    have inside := (List.getElem?_eq_some_iff.mp found).1
    rw [if_pos (same.trans stays.moves.symm), ← split, List.getElem?_append_left inside]
    exact found
  · cases found

theorem Stays.readMany {p : Option Place} (stays : Stays v w)
    (found : v.readMany p n = some items) : w.readMany p n = some items := by
  cases p with
  | none => exact found
  | some p =>
    rw [GrowArray.readMany] at found ⊢
    split at found
    · next inside =>
      obtain ⟨more, split⟩ := stays.elems
      have longer : v.elems.length ≤ w.elems.length := stays.elems.length_le
      have within : p.moves = w.moves ∧ p.index + n ≤ w.elems.length :=
        ⟨inside.1.trans stays.moves.symm, by omega⟩
      rw [if_pos within, ← found, ← split, List.drop_append_of_le_length (by omega),
        List.take_append_of_le_length (by rw [List.length_drop]; omega)]
    · cases found

/-- The elements that were added, where they were added. -/
theorem readMany_plus (v : GrowArray α) (items : List α) :
    (v.plus items).readMany (if items = [] then none else some (v.place v.elems.length))
      items.length = some items := by
  by_cases none_ : items = []
  · subst none_
    rfl
  · rw [if_neg none_, readMany, place]
    have inside : v.moves = (v.plus items).moves ∧
        v.elems.length + items.length ≤ (v.plus items).elems.length := by
      constructor
      · rfl
      · exact Nat.le_of_eq length_plus.symm
    rw [if_pos inside, plus, List.drop_left, List.take_length]

/-- The whole array, read through the pointer to its data. -/
theorem readMany_data (v : GrowArray α) : v.readMany v.data v.elems.length = some v.elems := by
  rw [data]
  by_cases empty : v.elems = []
  · rw [if_pos empty, readMany, empty]
    rfl
  · rw [if_neg empty, readMany, place]
    have inside : v.moves = v.moves ∧ 0 + v.elems.length ≤ v.elems.length :=
      ⟨rfl, Nat.le_of_eq (Nat.zero_add _)⟩
    rw [if_pos inside, List.drop_zero, List.take_length]

/-! ## Room -/

@[simp] theorem reserve_elems : (v.reserve n).elems = v.elems := by
  rw [reserve]
  split
  · rfl
  · rfl

theorem le_reserve_capacity (n : Nat) (v : GrowArray α) : n ≤ (v.reserve n).capacity := by
  rw [reserve]
  split
  · assumption
  · exact Nat.le_refl n

theorem le_resize_capacity (n : Nat) (blank : α) (v : GrowArray α) :
    n ≤ (v.resize n blank).capacity := le_reserve_capacity n v

@[simp] theorem clear_elems : v.clear.elems = [] := rfl

theorem length_resize_clear (n : Nat) (blank : α) (v : GrowArray α) :
    (v.clear.resize n blank).elems.length = n := by
  simp [resize]

/-! ## Pushing -/

theorem push_elems : (v.push growth a).elems = v.elems ++ [a] := by
  rw [push]
  split
  · rfl
  · rfl

theorem push_plus (room : v.elems.length < v.capacity) : v.push growth a = v.plus [a] :=
  if_pos room

/-- With enough capacity nothing moves while the elements are pushed. -/
theorem pushAll_plus (growth : Nat → Nat) (items : List α) (v : GrowArray α)
    (room : v.elems.length + items.length ≤ v.capacity) :
    v.pushAll growth items =
      (v.plus items, if items = [] then none else some (v.place v.elems.length)) := by
  have run (items : List α) (w : GrowArray α) (first : Option Place)
      (room : w.elems.length + items.length ≤ w.capacity) :
      items.foldl (fun (v, first) a => (v.push growth a, first.or (some (v.push growth a).back)))
          (w, first) =
        (w.plus items, first.or (if items = [] then none else some (w.place w.elems.length))) := by
    induction items generalizing w first with
    | nil => rw [List.foldl_nil, plus_nil, if_pos rfl, Option.or_none]
    | cons a items ih =>
      rw [List.length_cons] at room
      have pushed : w.push growth a = w.plus [a] := push_plus (by omega)
      have room' : (w.plus [a]).elems.length + items.length ≤ (w.plus [a]).capacity := by
        rw [length_plus, capacity_plus, List.length_singleton]
        omega
      have last : (w.plus [a]).back = w.place w.elems.length := by
        rw [back, place, place, length_plus, List.length_singleton, moves_plus,
          Nat.add_sub_cancel]
      rw [List.foldl_cons]
      dsimp only
      rw [pushed, ih _ _ room', plus_plus, last, Option.or_assoc,
        if_neg (List.cons_ne_nil a items), Option.some_or, List.singleton_append]
  rw [pushAll, run items v none room, Option.none_or]

/-! ## Linked lists in an array -/

theorem follow_chain {next : α → Option Place} {i : Nat}
    (chained : ∀ j a, v.elems[j]? = some a →
      next a = if j + 1 < v.elems.length then some (v.place (j + 1)) else none)
    (inside : i < v.elems.length) :
    follow next v (v.elems.length - i) (some (v.place i)) = some (v.elems.drop i) := by
  induction left : v.elems.length - i generalizing i with
  | zero => omega
  | succ fuel ih =>
    have found : v.elems[i]? = some v.elems[i] := List.getElem?_eq_getElem inside
    have here : v.read (v.place i) = some v.elems[i] := (if_pos rfl).trans found
    rw [follow, here]
    dsimp only
    rw [chained i _ found, List.drop_eq_getElem_cons inside]
    by_cases more : i + 1 < v.elems.length
    · rw [if_pos more, ih more (by omega), Option.map_some]
    · rw [if_neg more, follow, List.drop_eq_nil_of_le (by omega)]
      rfl

/-- An array whose elements each point to the one behind is a list of all of them. -/
theorem follow_data {next : α → Option Place}
    (chained : ∀ j a, v.elems[j]? = some a →
      next a = if j + 1 < v.elems.length then some (v.place (j + 1)) else none) :
    follow next v v.elems.length v.data = some v.elems := by
  rw [data]
  by_cases empty : v.elems = []
  · rw [if_pos empty, follow, empty]
  · rw [if_neg empty]
    exact follow_chain chained (List.length_pos_iff.mpr empty)

theorem writeFrom_eq {i : Nat} (inside : i + items.length = v.elems.length) :
    v.writeFrom i items = { v with elems := v.elems.take i ++ items } := by
  induction items generalizing v i with
  | nil =>
    rw [writeFrom, List.append_nil, List.take_of_length_le (by rw [← inside]; simp)]
  | cons a items ih =>
    rw [List.length_cons] at inside
    have length : i + 1 + items.length = (v.write i a).elems.length := by
      rw [write, List.length_set]
      omega
    rw [writeFrom, ih length, write]
    dsimp only
    rw [List.take_add_one, List.take_set_of_le (Nat.le_refl i),
      List.getElem?_set_self (by omega), Option.toList_some, List.append_assoc,
      List.singleton_append]

section Linked

/-- Each item is filled in and linked, and what was filled in lasts while the storage evolves. -/
structure Fills {ρ : Type v} {σ : Type w} (fill : Option Place → ρ → σ → α × σ)
    (nextOf : α → Option Place) (R : σ → σ → Prop) (P : σ → List ρ → Prop)
    (Reads : σ → α → ρ → Prop) : Prop where
  refl : ∀ s, R s s
  trans : ∀ {s t u}, R s t → R t u → R s u
  stable : ∀ {s t a r}, R s t → Reads s a r → Reads t a r
  step : ∀ next r rest s, P s (r :: rest) → nextOf (fill next r s).1 = next ∧
    R s (fill next r s).2 ∧ P (fill next r s).2 rest ∧ Reads (fill next r s).2 (fill next r s).1 r

variable {ρ : Type v} {σ : Type w} {fill : Option Place → ρ → σ → α × σ} {nextOf : α → Option Place}
  {R : σ → σ → Prop} {P : σ → List ρ → Prop} {Reads : σ → α → ρ → Prop} {s : σ} {list : List ρ}

/-- When the items are filled in one after the other, all of them are in the end. -/
theorem fillLinked_spec (fills : Fills fill nextOf R P Reads)
    (v : GrowArray α) (i : Nat) (room : P s list) (inside : i + list.length = v.elems.length) :
    R s (fillLinked fill list i v s).2 ∧ P (fillLinked fill list i v s).2 [] ∧
      (fillLinked fill list i v s).1.moves = v.moves ∧
      (fillLinked fill list i v s).1.elems.length = v.elems.length ∧
      (fillLinked fill list i v s).1.elems.take i = v.elems.take i ∧
      List.Forall₂ (Reads (fillLinked fill list i v s).2)
        ((fillLinked fill list i v s).1.elems.drop i) list ∧
      ∀ j a, i ≤ j → (fillLinked fill list i v s).1.elems[j]? = some a →
        nextOf a = if j + 1 < v.elems.length then some (v.place (j + 1)) else none := by
  induction list generalizing i v s with
  | nil =>
    have all : v.elems.drop i = [] := by
      rw [List.length_nil] at inside
      exact List.drop_eq_nil_of_le (by omega)
    refine ⟨fills.refl s, room, rfl, rfl, rfl, ?_, ?_⟩
    · rw [fillLinked, all]
      exact .nil
    · intro j a behind found
      have within := (List.getElem?_eq_some_iff.mp found).1
      rw [fillLinked, ← inside, List.length_nil] at within
      omega
  | cons r list ih =>
    rw [List.length_cons] at inside
    obtain ⟨named, stays, left, reads⟩ :=
      fills.step (if i + 1 < v.elems.length then some (v.place (i + 1)) else none) r list s room
    generalize filled : fill
      (if i + 1 < v.elems.length then some (v.place (i + 1)) else none) r s = result
      at named stays left reads
    obtain ⟨a, s'⟩ := result
    dsimp only at named stays left reads
    have rest := ih (v.write i a) (i + 1) left (by
      rw [write, List.length_set]
      omega)
    have same : fillLinked fill (r :: list) i v s =
        fillLinked fill list (i + 1) (v.write i a) s' := by
      rw [fillLinked]
      dsimp only
      rw [filled]
    rw [same]
    obtain ⟨later, full, moves, count, front, others, chained⟩ := rest
    have length : (v.write i a).elems.length = v.elems.length := List.length_set
    have within : i < v.elems.length := by omega
    have written : (v.write i a).elems[i]? = some a := List.getElem?_set_self within
    have here : (fillLinked fill list (i + 1) (v.write i a) s').1.elems[i]? = some a := by
      have kept := congrArg (fun l => l[i]?) front
      simp only [List.getElem?_take_of_lt (Nat.lt_succ_self i)] at kept
      exact kept.trans written
    obtain ⟨bound, value⟩ := List.getElem?_eq_some_iff.mp here
    refine ⟨fills.trans stays later, full, moves, count.trans length, ?_, ?_, ?_⟩
    · have shorter := congrArg (List.take i) front
      rw [List.take_take, List.take_take, Nat.min_eq_left (Nat.le_succ i)] at shorter
      rw [shorter, write, List.take_set_of_le (Nat.le_refl i)]
    · rw [List.drop_eq_getElem_cons bound, value]
      exact .cons (fills.stable later reads) others
    · intro j other behind found
      rcases Nat.eq_or_lt_of_le behind with rfl | beyond
      · obtain rfl : a = other := Option.some.inj (here.symm.trans found)
        exact named
      · have next := chained j other beyond found
        rw [length] at next
        exact next

/-- The list from the first element on holds every item. -/
theorem fillLinked_reads (fills : Fills fill nextOf R P Reads)
    (v : GrowArray α) (room : P s list) (inside : v.elems.length = list.length) :
    R s (fillLinked fill list 0 v s).2 ∧ P (fillLinked fill list 0 v s).2 [] ∧
      (fillLinked fill list 0 v s).1.moves = v.moves ∧
      (fillLinked fill list 0 v s).1.elems.length = list.length ∧
      List.Forall₂ (Reads (fillLinked fill list 0 v s).2) (fillLinked fill list 0 v s).1.elems
        list ∧
      follow nextOf (fillLinked fill list 0 v s).1 (fillLinked fill list 0 v s).1.elems.length
        (fillLinked fill list 0 v s).1.data = some (fillLinked fill list 0 v s).1.elems := by
  obtain ⟨stays, full, moves, length, -, reads, chained⟩ :=
    fillLinked_spec fills v 0 room (by rw [inside, Nat.zero_add])
  refine ⟨stays, full, moves, length.trans inside, reads, follow_data ?_⟩
  intro j a found
  rw [chained j a (Nat.zero_le j) found, length, place, place, moves]

end Linked

end GrowArray
