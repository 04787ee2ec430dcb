import Mathlib.Data.List.Nodup
import Mathlib.Data.List.Perm.Basic

/-!
# Tables of records that carry their own key

A table is the list of its records in iteration order. Hash maps and ordered
maps whose values repeat their key are both read this way: the order is part of
the value, so a search that stops at the first match is a function, and a table
whose order is unspecified is one that may be permuted between two operations.
-/

namespace KeyedTable

universe u v
variable {α : Type u} {κ : Type v} [DecidableEq κ] (key : α → κ)

def lookup (k : κ) (table : List α) : Option α :=
  table.find? (fun a => decide (key a = k))

def adjust (k : κ) (f : α → α) (table : List α) : List α :=
  table.map (fun a => if key a = k then f a else a)

def remove (k : κ) (table : List α) : List α :=
  table.filter (fun a => decide (key a ≠ k))

/-- Assigning to a key replaces the record that was stored there. -/
def store (a : α) (table : List α) : List α :=
  remove key (key a) table ++ [a]

def Distinct (table : List α) : Prop := (table.map key).Nodup

variable {key}

theorem lookup_some {k : κ} {table : List α} {a : α}
    (h : lookup key k table = some a) : a ∈ table ∧ key a = k :=
  ⟨List.mem_of_find?_eq_some h, by simpa using List.find?_some h⟩

theorem lookup_append (k : κ) (first second : List α) :
    lookup key k (first ++ second) = (lookup key k first).or (lookup key k second) := by
  rw [lookup, lookup, lookup, List.find?_append]

theorem lookup_none {k : κ} {table : List α} :
    lookup key k table = none ↔ ∀ a ∈ table, key a ≠ k := by
  simp [lookup, List.find?_eq_none]

omit [DecidableEq κ] in
theorem Distinct.eq_of_key {table : List α} (distinct : Distinct key table) {a b : α}
    (ha : a ∈ table) (hb : b ∈ table) (same : key a = key b) : a = b :=
  List.inj_on_of_nodup_map distinct ha hb same

theorem Distinct.lookup_of_mem {table : List α} (distinct : Distinct key table) {a : α}
    (ha : a ∈ table) : lookup key (key a) table = some a := by
  cases found : lookup key (key a) table with
  | none => exact absurd rfl (lookup_none.mp found a ha)
  | some b =>
    obtain ⟨hb, same⟩ := lookup_some found
    rw [distinct.eq_of_key hb ha same]

theorem Distinct.lookup_filter {table : List α} (distinct : Distinct key table) (keep : α → Bool)
    (k : κ) : lookup key k (table.filter keep) = (lookup key k table).filter keep := by
  cases found : lookup key k table with
  | none =>
    rw [Option.filter_none, lookup_none]
    exact fun a member => lookup_none.mp found a (List.mem_of_mem_filter member)
  | some a =>
    obtain ⟨member, same⟩ := lookup_some found
    have filtered : Distinct key (table.filter keep) :=
      List.Nodup.sublist (List.Sublist.map key List.filter_sublist) distinct
    cases kept : keep a with
    | true =>
      rw [Option.filter_some_pos kept, ← same]
      exact filtered.lookup_of_mem (List.mem_filter.mpr ⟨member, kept⟩)
    | false =>
      rw [Option.filter_some_neg (by simp [kept]), lookup_none]
      intro b left equal
      obtain ⟨there, stays⟩ := List.mem_filter.mp left
      rw [distinct.eq_of_key there member (equal.trans same.symm), kept] at stays
      cases stays

@[simp] theorem mem_adjust {k : κ} {f : α → α} {table : List α} {b : α} :
    b ∈ adjust key k f table ↔ ∃ a ∈ table, (if key a = k then f a else a) = b := by
  simp [adjust]

theorem mem_adjust_self {k : κ} {f : α → α} {table : List α} {a : α}
    (ha : a ∈ table) (same : key a = k) : f a ∈ adjust key k f table :=
  mem_adjust.mpr ⟨a, ha, if_pos same⟩

theorem mem_adjust_other {k : κ} {f : α → α} {table : List α} {a : α}
    (ha : a ∈ table) (other : key a ≠ k) : a ∈ adjust key k f table :=
  mem_adjust.mpr ⟨a, ha, if_neg other⟩

omit [DecidableEq κ] in
theorem Distinct.map {f : α → α} (keeps : ∀ a, key (f a) = key a) {table : List α}
    (distinct : Distinct key table) : Distinct key (table.map f) := by
  have same : key ∘ f = key := funext keeps
  rw [Distinct, List.map_map, same]
  exact distinct

theorem map_key_adjust {k : κ} {f : α → α} (keeps : ∀ a, key (f a) = key a)
    (table : List α) : (adjust key k f table).map key = table.map key := by
  rw [adjust, List.map_map]
  apply List.map_congr_left
  intro a _
  by_cases h : key a = k <;> simp [h, keeps]

theorem Distinct.adjust {k : κ} {f : α → α} (keeps : ∀ a, key (f a) = key a)
    {table : List α} (distinct : Distinct key table) :
    Distinct key (KeyedTable.adjust key k f table) := by
  rw [Distinct, map_key_adjust keeps]
  exact distinct

theorem lookup_adjust {k j : κ} {f : α → α} (keeps : ∀ a, key (f a) = key a)
    (table : List α) : lookup key j (adjust key k f table) =
      (lookup key j table).map (fun a => if key a = k then f a else a) := by
  induction table with
  | nil => rfl
  | cons a rest ih =>
    have head : key (if key a = k then f a else a) = key a := by
      by_cases h : key a = k <;> simp [h, keeps]
    rw [lookup, lookup, adjust, List.map_cons, List.find?_cons, List.find?_cons, head]
    by_cases hj : key a = j
    · simp only [hj, decide_true, Option.map_some]
    · simp only [hj, decide_false]
      exact ih

/-- One record changes, and the count by as much as it does. -/
theorem Distinct.countP_adjust {table : List α} (distinct : Distinct key table) {a : α}
    (member : a ∈ table) (f : α → α) (p : α → Bool) :
    (KeyedTable.adjust key (key a) f table).countP p + (p a).toNat =
      table.countP p + (p (f a)).toNat := by
  induction table with
  | nil => cases member
  | cons b rest ih =>
    have names : key b ∉ rest.map key ∧ (rest.map key).Nodup := List.nodup_cons.mp distinct
    have one : ∀ c : α, (if p c = true then 1 else 0) = (p c).toNat := by
      intro c
      cases p c <;> rfl
    rw [KeyedTable.adjust, List.map_cons, List.countP_cons, List.countP_cons, one, one]
    by_cases same : b = a
    · subst same
      have others : rest.map (fun c => if key c = key b then f c else c) = rest := by
        have kept : ∀ c ∈ rest, (if key c = key b then f c else c) = c := by
          intro c known
          have other : key c ≠ key b := fun named => names.1 (named ▸ List.mem_map_of_mem known)
          exact if_neg other
        exact (List.map_congr_left kept).trans (List.map_id' rest)
      rw [others, if_pos rfl]
      omega
    · have known : a ∈ rest := (List.mem_cons.mp member).resolve_left (Ne.symm same)
      have other : key b ≠ key a := fun named => names.1 (named ▸ List.mem_map_of_mem known)
      have counted := ih names.2 known
      rw [KeyedTable.adjust] at counted
      rw [if_neg other]
      omega

theorem adjust_adjust {k : κ} {f : α → α} (keeps : ∀ a, key (f a) = key a) (g : α → α)
    (table : List α) :
    adjust key k g (adjust key k f table) = adjust key k (fun a => g (f a)) table := by
  simp only [adjust, List.map_map]
  refine List.map_congr_left (fun a _ => ?_)
  by_cases same : key a = k
  · simp [same, keeps]
  · simp [same]

@[simp] theorem mem_remove {k : κ} {table : List α} {a : α} :
    a ∈ remove key k table ↔ a ∈ table ∧ key a ≠ k := by
  simp [remove]

theorem remove_adjust {k : κ} {f : α → α} (keeps : ∀ a, key (f a) = key a) (table : List α) :
    remove key k (adjust key k f table) = remove key k table := by
  induction table with
  | nil => rfl
  | cons a rest ih =>
    simp only [remove, adjust, List.map_cons, List.filter_cons] at ih ⊢
    by_cases same : key a = k
    · simpa [same, keeps] using ih
    · simpa [same] using ih

theorem lookup_remove (j k : κ) (table : List α) :
    lookup key j (remove key k table) = if j = k then none else lookup key j table := by
  rw [lookup, remove, List.find?_filter]
  split
  · rename_i same
    subst same
    simp [List.find?_eq_none]
  · rename_i other
    rw [lookup]
    congr 1
    funext a
    by_cases named : key a = j <;> simp [named, other]

theorem Distinct.remove {k : κ} {table : List α} (distinct : Distinct key table) :
    Distinct key (KeyedTable.remove key k table) :=
  List.Nodup.sublist (List.Sublist.map key List.filter_sublist) distinct

@[simp] theorem mem_store {a b : α} {table : List α} :
    b ∈ store key a table ↔ (b ∈ table ∧ key b ≠ key a) ∨ b = a := by
  simp [store]

theorem Distinct.store {a : α} {table : List α} (distinct : Distinct key table) :
    Distinct key (KeyedTable.store key a table) := by
  rw [Distinct, KeyedTable.store, List.map_append, List.nodup_append]
  refine ⟨distinct.remove, by simp, ?_⟩
  intro x hx y hy same
  obtain ⟨b, hb, rfl⟩ := List.mem_map.mp hx
  have hy' : y = key a := by simpa using hy
  exact (mem_remove.mp hb).2 (same.trans hy')

@[simp] theorem remove_of_lookup_none {k : κ} {table : List α}
    (absent : lookup key k table = none) : remove key k table = table := by
  rw [remove, List.filter_eq_self]
  intro a ha
  simpa using lookup_none.mp absent a ha

theorem lookup_store_self {a : α} {table : List α} :
    lookup key (key a) (store key a table) = some a := by
  rw [lookup, store, List.find?_append]
  have gone : List.find? (fun b => decide (key b = key a)) (remove key (key a) table) = none := by
    rw [List.find?_eq_none]
    intro b hb
    simpa using (mem_remove.mp hb).2
  simp [gone]

theorem lookup_store (k : κ) (a : α) (table : List α) :
    lookup key k (store key a table) = if k = key a then some a else lookup key k table := by
  split
  · rename_i same
    rw [same, lookup_store_self]
  · rename_i other
    have absent : lookup key k [a] = none := by simp [lookup, Ne.symm other]
    rw [store, lookup_append, lookup_remove, if_neg other, absent, Option.or_none]

omit [DecidableEq κ] in
theorem Distinct.perm {table other : List α} (distinct : Distinct key table)
    (perm : table.Perm other) : Distinct key other :=
  (perm.map key).nodup_iff.mp distinct

omit [DecidableEq κ] in
theorem Distinct.key_mem_filter {table : List α} (distinct : Distinct key table) {p : α → Bool}
    {a : α} (ha : a ∈ table) : key a ∈ (table.filter p).map key ↔ p a = true := by
  constructor
  · intro listed
    obtain ⟨b, hb, same⟩ := List.mem_map.mp listed
    obtain ⟨member, holds⟩ := List.mem_filter.mp hb
    rwa [distinct.eq_of_key member ha same] at holds
  · exact fun holds => List.mem_map_of_mem (List.mem_filter.mpr ⟨ha, holds⟩)

omit [DecidableEq κ] in
theorem Distinct.filter_keys {table : List α} (distinct : Distinct key table) (p : α → Bool) :
    ((table.filter p).map key).Nodup :=
  List.Nodup.sublist (List.Sublist.map key List.filter_sublist) distinct

omit [DecidableEq κ] in
/-- A property that only one key can have is had by one record at most. -/
theorem Distinct.filter_le_one {table : List α} (distinct : Distinct key table) {p : α → Bool}
    (same : ∀ a ∈ table, ∀ b ∈ table, p a = true → p b = true → key a = key b) :
    (table.filter p).length ≤ 1 := by
  have nodup : (table.filter p).Nodup := (List.Nodup.of_map key distinct).filter p
  cases found : table.filter p with
  | nil => simp
  | cons a rest =>
    cases rest with
    | nil => simp
    | cons b rest =>
      have ha : a ∈ table ∧ p a = true := List.mem_filter.mp (by rw [found]; simp)
      have hb : b ∈ table ∧ p b = true := List.mem_filter.mp (by rw [found]; simp)
      have equal : a = b :=
        distinct.eq_of_key ha.1 hb.1 (same a ha.1 b hb.1 ha.2 hb.2)
      rw [found, equal] at nodup
      simp at nodup

/-! ## Tables in key order -/

section Ordered

variable [LT κ] [DecidableLT κ]

/-- Assigning to a key of an ordered map. -/
def enter (key : α → κ) (a : α) : List α → List α
  | [] => [a]
  | b :: rest =>
    if key a < key b then a :: b :: rest
    else if key a = key b then a :: rest
    else b :: enter key a rest

theorem mem_of_mem_enter {a b : α} {table : List α} (member : b ∈ enter key a table) :
    b = a ∨ b ∈ table := by
  induction table with
  | nil => exact Or.inl (List.mem_singleton.mp member)
  | cons c rest ih =>
    rw [enter] at member
    split at member
    · exact List.mem_cons.mp member
    · split at member
      · rcases List.mem_cons.mp member with same | old
        · exact Or.inl same
        · exact Or.inr (List.mem_cons_of_mem c old)
      · rcases List.mem_cons.mp member with same | old
        · exact Or.inr (same ▸ List.mem_cons_self)
        · exact (ih old).imp_right (List.mem_cons_of_mem c)

/-- The records of the other keys stay. -/
theorem mem_enter_of_ne {a b : α} {table : List α} (member : b ∈ table) (other : key b ≠ key a) :
    b ∈ enter key a table := by
  induction table with
  | nil => cases member
  | cons c rest ih =>
    rw [enter]
    split
    · exact List.mem_cons_of_mem a member
    · split
      · next same =>
        rcases List.mem_cons.mp member with rfl | old
        · exact absurd same.symm other
        · exact List.mem_cons_of_mem a old
      · rcases List.mem_cons.mp member with rfl | old
        · exact List.mem_cons_self
        · exact List.mem_cons_of_mem c (ih old)

end Ordered

/-! ## Updates in place -/

omit [DecidableEq κ] in
/-- Every record keeps its place and its key and changes as `R` allows. -/
def Updated (key : α → κ) (R : α → α → Prop) (old new : List α) : Prop :=
  ∃ f : α → α, new = old.map f ∧ ∀ a ∈ old, key (f a) = key a ∧ R a (f a)

section Updated

omit [DecidableEq κ]
variable {R : α → α → Prop} {old new : List α}

theorem Updated.refl (reflexive : ∀ a, R a a) (table : List α) : Updated key R table table :=
  ⟨id, by simp, fun a _ => ⟨rfl, reflexive a⟩⟩

theorem Updated.trans {newest : List α} (transitive : ∀ a b c, R a b → R b c → R a c)
    (first : Updated key R old new) (second : Updated key R new newest) :
    Updated key R old newest := by
  obtain ⟨f, rfl, hf⟩ := first
  obtain ⟨g, rfl, hg⟩ := second
  refine ⟨g ∘ f, by rw [List.map_map], ?_⟩
  intro a ha
  obtain ⟨sameKey, hR⟩ := hg (f a) (List.mem_map_of_mem ha)
  exact ⟨sameKey.trans (hf a ha).1, transitive _ _ _ (hf a ha).2 hR⟩

theorem Updated.mono {S : α → α → Prop} (weaker : ∀ a b, R a b → S a b)
    (updated : Updated key R old new) : Updated key S old new := by
  obtain ⟨f, rfl, hf⟩ := updated
  exact ⟨f, rfl, fun a ha => ⟨(hf a ha).1, weaker _ _ (hf a ha).2⟩⟩

theorem Updated.map_key (updated : Updated key R old new) : new.map key = old.map key := by
  obtain ⟨f, rfl, hf⟩ := updated
  rw [List.map_map]
  exact List.map_congr_left (fun a ha => (hf a ha).1)

theorem Updated.distinct (updated : Updated key R old new) (distinct : Distinct key old) :
    Distinct key new := by
  rw [Distinct, updated.map_key]
  exact distinct

theorem Updated.mem_new (updated : Updated key R old new) {b : α} (hb : b ∈ new) :
    ∃ a ∈ old, key b = key a ∧ R a b := by
  obtain ⟨f, rfl, hf⟩ := updated
  obtain ⟨a, ha, rfl⟩ := List.mem_map.mp hb
  exact ⟨a, ha, hf a ha⟩

theorem Updated.mem_old (updated : Updated key R old new) {a : α} (ha : a ∈ old) :
    ∃ b ∈ new, key b = key a ∧ R a b := by
  obtain ⟨f, rfl, hf⟩ := updated
  exact ⟨f a, List.mem_map_of_mem ha, hf a ha⟩

theorem updated_map {f : α → α} (keeps : ∀ a ∈ old, key (f a) = key a ∧ R a (f a)) :
    Updated key R old (old.map f) :=
  ⟨f, rfl, keeps⟩

end Updated

theorem updated_adjust {R : α → α → Prop} {k : κ} {f : α → α} {table : List α}
    (reflexive : ∀ a, R a a)
    (keeps : ∀ a ∈ table, key a = k → key (f a) = key a ∧ R a (f a)) :
    Updated key R table (adjust key k f table) := by
  apply updated_map
  intro a ha
  by_cases same : key a = k
  · simpa only [if_pos same] using keeps a ha same
  · simp only [if_neg same]
    exact ⟨trivial, reflexive a⟩

end KeyedTable
