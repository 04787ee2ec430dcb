import ShadNet.KeyedTable
import Mathlib.Order.Lattice
import Mathlib.Data.List.Induction
import Mathlib.Data.List.Pairwise

/-!
# Ordered maps whose values carry their key

The entries are in the order of their keys, so two tables with the same lookups are equal.
-/

universe u v

structure SortedTable {α : Type u} {κ : Type v} [LinearOrder κ] (key : α → κ) where
  entries : List α
  sorted : entries.Pairwise (fun a b => key a < key b)

namespace SortedTable

open KeyedTable

variable {α : Type u} {κ : Type v} [LinearOrder κ] {key : α → κ}

instance instDecidableEq [DecidableEq α] : DecidableEq (SortedTable key) := fun t u =>
  decidable_of_iff (t.entries = u.entries) ⟨fun same => by cases t; cases u; cases same; rfl,
    fun same => same ▸ rfl⟩

theorem enter_sorted {a : α} {table : List α}
    (sorted : table.Pairwise (fun a b => key a < key b)) :
    (enter key a table).Pairwise (fun a b => key a < key b) := by
  induction table with
  | nil => exact List.pairwise_singleton _ _
  | cons b rest ih =>
    obtain ⟨first, later⟩ := List.pairwise_cons.mp sorted
    rw [enter]
    split_ifs with less same
    · refine List.pairwise_cons.mpr ⟨?_, sorted⟩
      rintro c (_ | ⟨_, member⟩)
      · exact less
      · exact lt_trans less (first c member)
    · exact List.pairwise_cons.mpr ⟨fun c member => same ▸ first c member, later⟩
    · refine List.pairwise_cons.mpr ⟨?_, ih later⟩
      intro c member
      rcases mem_of_mem_enter member with rfl | old
      · exact lt_of_le_of_ne (not_lt.mp less) (Ne.symm same)
      · exact first c old

def empty : SortedTable key := ⟨[], List.Pairwise.nil⟩

/-- Assigning to the key of a value. -/
def assign (a : α) (t : SortedTable key) : SortedTable key :=
  ⟨enter key a t.entries, enter_sorted t.sorted⟩

def find? (k : κ) (t : SortedTable key) : Option α := lookup key k t.entries

def erase (k : κ) (t : SortedTable key) : SortedTable key :=
  ⟨remove key k t.entries, t.sorted.filter _⟩

/-- The table filled with these values, one after the other. -/
def collect (values : List α) : SortedTable key := values.foldl (fun t a => t.assign a) empty

variable {t u : SortedTable key} {a b : α} {k : κ} {values : List α}

theorem lookup_enter (table : List α) :
    lookup key k (enter key a table) =
      if key a = k then some a else lookup key k table := by
  induction table with
  | nil => by_cases same : key a = k <;> simp [enter, lookup, same]
  | cons b rest ih =>
    rw [enter]
    by_cases found : key a = k
    · rw [if_pos found] at ih ⊢
      split_ifs with less same
      · simp [lookup, found]
      · simp [lookup, found]
      · have other : ¬key b = k := fun equal => same (found.trans equal.symm)
        simpa [lookup, other] using ih
    · rw [if_neg found] at ih ⊢
      split_ifs with less same
      · simp [lookup, found]
      · have other : ¬key b = k := fun equal => found (same.trans equal)
        simp [lookup, found, other]
      · by_cases other : key b = k
        · simp [lookup, other]
        · simpa [lookup, other] using ih

@[simp] theorem find?_empty : find? k (empty : SortedTable key) = none := rfl

theorem find?_assign : find? k (t.assign a) = if key a = k then some a else find? k t :=
  lookup_enter t.entries

theorem find?_assign_self : find? (key a) (t.assign a) = some a := by
  rw [find?_assign, if_pos rfl]

theorem find?_eq_some : find? k t = some a ↔ a ∈ t.entries ∧ key a = k := by
  have distinct : Distinct key t.entries :=
    List.Pairwise.map key (fun _ _ less => ne_of_lt less) t.sorted
  constructor
  · exact lookup_some
  · rintro ⟨member, rfl⟩
    exact distinct.lookup_of_mem member

theorem mem_assign (member : b ∈ (t.assign a).entries) : b = a ∨ b ∈ t.entries ∧ key b ≠ key a := by
  have found := find?_eq_some.mpr ⟨member, rfl⟩
  rw [find?_assign] at found
  split at found
  · exact Or.inl (Option.some.inj found).symm
  · next other => exact Or.inr ⟨(find?_eq_some.mp found).1, fun same => other same.symm⟩

theorem mem_erase : b ∈ (t.erase k).entries ↔ b ∈ t.entries ∧ key b ≠ k := mem_remove

theorem find?_erase (k k' : κ) :
    (t.erase k).find? k' = if k' = k then none else t.find? k' :=
  lookup_remove k' k t.entries

theorem nodup (t : SortedTable key) : t.entries.Nodup := by
  refine t.sorted.imp ?_
  rintro a b less rfl
  exact lt_irrefl _ less

theorem ext (same : ∀ k, find? k t = find? k u) : t = u := by
  have members (a : α) : a ∈ t.entries ↔ a ∈ u.entries := by
    have here := find?_eq_some (t := t) (a := a) (k := key a)
    have there := find?_eq_some (t := u) (a := a) (k := key a)
    rw [same (key a), there] at here
    simpa using here.symm
  have perm : t.entries.Perm u.entries := by
    exact (List.perm_ext_iff_of_nodup t.nodup u.nodup).mpr members
  have equal : t.entries = u.entries :=
    perm.eq_of_pairwise (fun a b _ _ less more => absurd less (lt_asymm more)) t.sorted u.sorted
  cases t
  cases u
  cases equal
  rfl

/-- The last value with a key is the one that is found. -/
theorem find?_collect :
    find? k (collect values : SortedTable key) = lookup key k values.reverse := by
  have fill (t : SortedTable key) : find? k (values.foldl (fun t a => t.assign a) t) =
      (lookup key k values.reverse).or (find? k t) := by
    induction values generalizing t with
    | nil => rfl
    | cons a values ih =>
      rw [List.foldl_cons, ih, find?_assign, List.reverse_cons, lookup_append, Option.or_assoc]
      congr 1
      by_cases same : key a = k <;> simp [lookup, same]
  rw [collect, fill, find?_empty, Option.or_none]

theorem enter_perm {table : List α} (fresh : ∀ b ∈ table, key b ≠ key a) :
    (enter key a table).Perm (a :: table) := by
  induction table with
  | nil => exact .refl _
  | cons b rest ih =>
    have other : ¬key a = key b := fun same => fresh b List.mem_cons_self same.symm
    rw [enter, if_neg other]
    split_ifs
    · exact .refl _
    · have later := ih fun c member => fresh c (List.mem_cons_of_mem b member)
      exact (later.cons b).trans (.swap a b rest)

theorem collect_append (values : List α) :
    (collect (values ++ [a]) : SortedTable key) = (collect values).assign a := by
  rw [collect, collect, List.foldl_append]
  rfl

theorem key_mem_collect (member : b ∈ (collect values : SortedTable key).entries) :
    b ∈ values := by
  have found : find? (key b) (collect values : SortedTable key) = some b :=
    find?_eq_some.mpr ⟨member, rfl⟩
  rw [find?_collect] at found
  exact List.mem_reverse.mp (lookup_some found).1

/-- A table holds all the values it was filled with exactly when their keys differ. -/
theorem collect_perm :
    (collect values : SortedTable key).entries.Perm values ↔ (values.map key).Nodup := by
  constructor
  · intro perm
    have distinct : ((collect values : SortedTable key).entries.map key).Nodup :=
      List.Pairwise.map key (fun _ _ less => ne_of_lt less) (collect values).sorted
    exact (perm.map key).nodup_iff.mp distinct
  · induction values using List.reverseRecOn with
    | nil => exact fun _ => .refl _
    | append_singleton values a ih =>
      intro distinct
      rw [List.map_append, List.nodup_append] at distinct
      obtain ⟨earlier, -, apart⟩ := distinct
      have fresh : ∀ b ∈ (collect values : SortedTable key).entries, key b ≠ key a := by
        intro b member
        refine apart (key b) (List.mem_map_of_mem (key_mem_collect member)) (key a) ?_
        exact List.mem_singleton_self _
      rw [collect_append]
      refine (enter_perm fresh).trans (((ih earlier).cons a).trans ?_)
      exact (List.perm_append_singleton a values).symm

end SortedTable
