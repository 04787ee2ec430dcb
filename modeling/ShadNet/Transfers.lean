import Mathlib.Algebra.GroupWithZero.Nat
import Mathlib.Data.List.Basic
import Mathlib.Logic.Nontrivial.Basic

/-!
# Transfers in chunks

A transfer gathers chunks until a total is reached, and then hands over what it has. What
it takes of a chunk is a parameter: a chunk that fits into the room that is left is taken
whole, one that does not may be cut.
-/

namespace Transfers

variable {α : Type*}

/-- A transfer under way. -/
structure Transfer (α : Type*) where
  buf : List α := []
  total : Nat

/-- What is handed over while the chunks come in. A chunk that finds nothing under way begins
a transfer of `fresh` elements. -/
def gather (keep : Nat → List α → List α) (fresh : Nat) :
    Option (Transfer α) → List (List α) → List (List α)
  | _, [] => []
  | x, chunk :: chunks =>
    let y := x.getD ⟨[], fresh⟩
    let buf := y.buf ++ keep (y.total - y.buf.length) chunk
    if buf.length < y.total then gather keep fresh (some ⟨buf, y.total⟩) chunks
    else buf :: gather keep fresh none chunks

/-- Everything that fits is taken, and what is taken of the rest fills the room. -/
structure Keeps (keep : Nat → List α → List α) : Prop where
  fits : ∀ room chunk, chunk.length ≤ room → keep room chunk = chunk
  fills : ∀ room chunk, room ≤ chunk.length → room ≤ (keep room chunk).length

theorem keeps_whole : Keeps fun _ (chunk : List α) => chunk where
  fits := fun _ _ _ => rfl
  fills := fun _ _ enough => enough

theorem keeps_take : Keeps (List.take : Nat → List α → List α) where
  fits := fun _ _ short => List.take_of_length_le short
  fills := fun _ _ enough => by rw [List.length_take]; omega

section Gather

variable {keep : Nat → List α → List α} {fresh : Nat} {buf : List α} {total : Nat}
  {chunks : List (List α)}

theorem gather_none :
    gather keep fresh none chunks = gather keep fresh (some ⟨[], fresh⟩) chunks := by
  cases chunks with
  | nil => rfl
  | cons chunk chunks => rfl

theorem gather_getD (x : Option (Transfer α)) :
    gather keep fresh x chunks = gather keep fresh (some (x.getD ⟨[], fresh⟩)) chunks := by
  cases x with
  | none => exact gather_none
  | some x => rfl

variable (keeps : Keeps keep)
include keeps

/-- A chunk that leaves room is only gathered. -/
theorem gather_short {chunk : List α} (short : buf.length + chunk.length < total) :
    gather keep fresh (some ⟨buf, total⟩) (chunk :: chunks) =
      gather keep fresh (some ⟨buf ++ chunk, total⟩) chunks := by
  have whole := keeps.fits (total - buf.length) chunk (by omega)
  rw [gather]
  simp only [Option.getD_some, whole]
  rw [if_pos (by rw [List.length_append]; omega)]

/-- A chunk that reaches the total ends the transfer. -/
theorem gather_last {chunk : List α} (enough : total ≤ buf.length + chunk.length) :
    gather keep fresh (some ⟨buf, total⟩) (chunk :: chunks) =
      (buf ++ keep (total - buf.length) chunk) :: gather keep fresh none chunks := by
  have filled := keeps.fills (total - buf.length) chunk (by omega)
  rw [gather]
  simp only [Option.getD_some]
  rw [if_neg (by rw [List.length_append]; omega)]

/-- The induction is on the chunks before the last one, none of which reaches the total. -/
theorem gather_complete {init : List (List α)} {last : List α}
    (before : init = [] ∨ buf.length + init.flatten.length < total)
    (enough : total ≤ buf.length + init.flatten.length + last.length) :
    gather keep fresh (some ⟨buf, total⟩) (init ++ [last]) =
      [buf ++ init.flatten ++ keep (total - (buf ++ init.flatten).length) last] := by
  induction init generalizing buf with
  | nil =>
    rw [List.nil_append, gather_last keeps (by simpa using enough), gather, List.flatten_nil,
      List.append_nil]
  | cons chunk init ih =>
    have room : buf.length + (chunk.length + init.flatten.length) < total := by
      simpa using before
    rw [List.flatten_cons, List.length_append] at enough
    rw [List.cons_append, gather_short keeps (by omega), ih, List.flatten_cons,
      ← List.append_assoc]
    · rw [List.length_append]
      omega
    · rw [List.length_append]
      omega

/-- What is handed over first is what was there and the chunks up to the one that ends the
transfer. -/
theorem gather_first {first : List α} {rest : List (List α)}
    (handed : gather keep fresh (some ⟨buf, total⟩) chunks = first :: rest) :
    ∃ init chunk later, chunks = init ++ chunk :: later ∧
      first = buf ++ init.flatten ++ keep (total - (buf ++ init.flatten).length) chunk ∧
      total ≤ buf.length + init.flatten.length + chunk.length ∧
      (init = [] ∨ buf.length + init.flatten.length < total) := by
  induction chunks generalizing buf with
  | nil => cases handed
  | cons chunk chunks ih =>
    by_cases short : buf.length + chunk.length < total
    · rw [gather_short keeps short] at handed
      obtain ⟨init, last, later, rfl, made, enough, before⟩ := ih handed
      rw [List.length_append] at enough before
      refine ⟨chunk :: init, last, later, rfl, ?_, ?_, .inr ?_⟩
      · rw [made, List.flatten_cons, ← List.append_assoc]
      · rw [List.flatten_cons, List.length_append]
        omega
      · rw [List.flatten_cons, List.length_append]
        rcases before with rfl | before
        · simpa using short
        · omega
    · rw [gather_last keeps (by omega)] at handed
      obtain ⟨made, -⟩ := List.cons.inj handed
      refine ⟨[], chunk, chunks, rfl, ?_, ?_, .inl rfl⟩
      · rw [← made, List.flatten_nil, List.append_nil]
      · rw [List.flatten_nil, List.length_nil]
        omega

end Gather

/-! ## Exactly one transfer -/

theorem length_flatten_map {chunks : List (List α)} {sizes : List Nat}
    (sized : chunks.map List.length = sizes) : chunks.flatten.length = sizes.sum := by
  rw [List.length_flatten, sized]

theorem flatten_replicate (sizes : List Nat) (a : α) :
    (sizes.map fun n => List.replicate n a).flatten = List.replicate sizes.sum a := by
  induction sizes with
  | nil => rfl
  | cons n sizes ih =>
    rw [List.map_cons, List.flatten_cons, ih, List.sum_cons, List.replicate_add]

/-- Some element is unlike the head of what was there. -/
theorem eq_nil_of_replicate [Nontrivial α] {buf : List α}
    (starts : ∀ a : α, ∃ k more, List.replicate k a = buf ++ more) : buf = [] := by
  cases buf with
  | nil => rfl
  | cons head tail =>
    obtain ⟨a, other⟩ := exists_ne head
    obtain ⟨k, more, same⟩ := starts a
    have member : head ∈ List.replicate k a := by
      rw [same]
      exact List.mem_cons_self
    exact absurd (List.eq_of_mem_replicate member).symm other

/-- Whatever is sent in chunks of these sizes is handed over once and cut to `n` elements where
nothing else was there, the total is reached by the last chunk only, and nothing is left to cut. -/
theorem gather_whole_iff [Nontrivial α] {n last : Nat} {init : List Nat}
    {x : Option (Transfer α)} (before : init.sum < n) (enough : n ≤ init.sum + last) :
    (∀ chunks : List (List α), chunks.map List.length = init ++ [last] →
        gather (fun _ chunk => chunk) n x chunks = [chunks.flatten.take n]) ↔
      init.sum + last = n ∧ (x.getD ⟨[], n⟩).buf = [] ∧ (x.getD ⟨[], n⟩).total ≤ n ∧
        (init = [] ∨ init.sum < (x.getD ⟨[], n⟩).total) := by
  simp only [gather_getD x]
  generalize x.getD ⟨[], n⟩ = start
  obtain ⟨buf, total⟩ := start
  dsimp only
  constructor
  · intro exact_
    have handed : ∀ a : α, ∃ front chunk later,
        (init ++ [last]).map (fun n => List.replicate n a) = front ++ chunk :: later ∧
          List.replicate n a = buf ++ front.flatten ++ chunk ∧
          total ≤ buf.length + front.flatten.length + chunk.length ∧
          (front = [] ∨ buf.length + front.flatten.length < total) := by
      intro a
      have handed := exact_ ((init ++ [last]).map fun n => List.replicate n a)
        (by simp [Function.comp_def])
      rw [flatten_replicate, List.take_replicate, List.sum_append, List.sum_singleton,
        Nat.min_eq_left enough] at handed
      exact gather_first keeps_whole handed
    have nothing : buf = [] := by
      refine eq_nil_of_replicate fun a => ?_
      obtain ⟨front, chunk, later, -, made, -⟩ := handed a
      exact ⟨n, front.flatten ++ chunk, by rw [made, List.append_assoc]⟩
    obtain ⟨a, -⟩ := exists_pair_ne α
    obtain ⟨front, chunk, later, split, made, reached, short⟩ := handed a
    have length := congrArg List.length made
    rw [nothing, List.nil_append, List.length_replicate, List.length_append] at length
    rw [List.map_append, List.map_singleton] at split
    rcases List.eq_nil_or_concat later with rfl | ⟨later, z, rfl⟩
    · obtain ⟨front_, chunk_⟩ := List.append_inj' split rfl
      have sum : front.flatten.length = init.sum := by
        rw [← front_, flatten_replicate, List.length_replicate]
      have size : chunk.length = last := by
        rw [← (List.cons.inj chunk_).1, List.length_replicate]
      rw [nothing, List.length_nil] at reached short
      refine ⟨by omega, nothing, by omega, ?_⟩
      rcases short with empty | short
      · rw [empty, List.map_eq_nil_iff] at front_
        exact .inl front_
      · exact .inr (by omega)
    · -- the chunk would be one of the first, and these are too short
      rw [List.concat_eq_append, ← List.cons_append, ← List.append_assoc] at split
      obtain ⟨front_, -⟩ := List.append_inj' split rfl
      have sum := congrArg (fun l => (List.flatten l).length) front_
      simp only [flatten_replicate, List.length_replicate, List.flatten_append,
        List.flatten_cons, List.length_append] at sum
      omega
  · rintro ⟨whole, rfl, within, short⟩ chunks sized
    obtain ⟨front, chunk, rfl⟩ : ∃ front chunk, chunks = front ++ [chunk] := by
      rcases List.eq_nil_or_concat chunks with rfl | ⟨front, chunk, rfl⟩
      · simp at sized
      · exact ⟨front, chunk, List.concat_eq_append ..⟩
    rw [List.map_append, List.map_singleton] at sized
    obtain ⟨front_, chunk_⟩ := List.append_inj' sized rfl
    have sum := length_flatten_map front_
    have size : chunk.length = last := (List.cons.inj chunk_).1
    rw [gather_complete keeps_whole, List.flatten_append, List.flatten_singleton, List.nil_append,
      List.take_of_length_le]
    · rw [List.length_append]
      omega
    · rcases short with rfl | short
      · exact .inl (List.map_eq_nil_iff.mp front_)
      · exact .inr (by rw [List.length_nil]; omega)
    · rw [List.length_nil]
      omega

/-- Whatever is sent in chunks that make up `n` elements is handed over once where nothing else
was there. -/
theorem gather_take_iff [Nontrivial α] {n : Nat} {x : Option (Transfer α)} (positive : 0 < n) :
    (∀ chunks : List (List α), (∀ chunk ∈ chunks, chunk ≠ []) → chunks.flatten.length = n →
        gather List.take n x chunks = [chunks.flatten]) ↔
      (x.getD ⟨[], n⟩).buf = [] ∧ (x.getD ⟨[], n⟩).total = n := by
  simp only [gather_getD x]
  generalize x.getD ⟨[], n⟩ = start
  obtain ⟨buf, total⟩ := start
  dsimp only
  constructor
  · intro exact_
    have handed : ∀ a : α, ∃ front chunk later,
        [List.replicate n a] = front ++ chunk :: later ∧
          List.replicate n a = buf ++ front.flatten ++
            chunk.take (total - (buf ++ front.flatten).length) ∧
          total ≤ buf.length + front.flatten.length + chunk.length ∧
          (front = [] ∨ buf.length + front.flatten.length < total) := by
      intro a
      have handed := exact_ [List.replicate n a]
        (by simpa using Nat.pos_iff_ne_zero.mp positive) (by simp)
      rw [List.flatten_singleton] at handed
      exact gather_first keeps_take handed
    have nothing : buf = [] := by
      refine eq_nil_of_replicate fun a => ?_
      obtain ⟨front, chunk, later, -, made, -⟩ := handed a
      exact ⟨n, _, by rw [made, List.append_assoc]⟩
    obtain ⟨a, -⟩ := exists_pair_ne α
    obtain ⟨front, chunk, later, split, made, reached, -⟩ := handed a
    cases front with
    | nil =>
      obtain ⟨only, -⟩ := List.cons.inj split
      rw [nothing, ← only] at made
      rw [nothing, ← only, List.length_replicate] at reached
      have length := congrArg List.length made
      simp only [List.nil_append, List.flatten_nil, List.length_nil, List.length_take,
        List.length_replicate] at length reached
      exact ⟨nothing, by omega⟩
    | cons front fronts =>
      have length := congrArg List.length split
      simp at length
  · rintro ⟨rfl, rfl⟩ chunks given whole
    obtain ⟨front, chunk, rfl⟩ : ∃ front chunk, chunks = front ++ [chunk] := by
      rcases List.eq_nil_or_concat chunks with rfl | ⟨front, chunk, rfl⟩
      · rw [List.flatten_nil, List.length_nil] at whole
        omega
      · exact ⟨front, chunk, List.concat_eq_append ..⟩
    have content := List.length_pos_iff.mpr (given chunk (by simp))
    rw [List.flatten_append, List.flatten_singleton, List.length_append] at whole
    rw [gather_complete keeps_take, List.flatten_append, List.flatten_singleton, List.nil_append,
      List.take_of_length_le]
    · omega
    · exact .inr (by rw [List.length_nil]; omega)
    · rw [List.length_nil]
      omega

instance nontrivial_byte : Nontrivial UInt8 := ⟨0, 1, by decide⟩

end Transfers
