import Mathlib.Data.BitVec
import Mathlib.Data.List.Basic
import Mathlib.Tactic.Ring

/-!
# Little-endian fields and streams that arrive in chunks

A fixed-width integer is written into a buffer and read out of it byte by byte,
least significant byte first. A stream is the list of the chunks in which it
will be handed over; a read takes at most what is left of the next chunk, so
every way of splitting a stream is a list of chunks.
-/

namespace LittleEndian

variable {w : Nat}

def byte (v : BitVec w) (i : Nat) : UInt8 := ⟨(v >>> (8 * i)).setWidth 8⟩

/-- Writes the `k` low bytes of `v` from offset `off` on. -/
def put (k : Nat) (b : List UInt8) (off : Nat) (v : BitVec w) : List UInt8 :=
  (List.range k).foldl (fun b i => b.set (off + i) (byte v i)) b

/-- Reads `k` bytes from offset `off` on. -/
def get (w k : Nat) (p : List UInt8) (off : Nat) : BitVec w :=
  (List.range k).foldl
    (fun v i => v ||| ((p.getD (off + i) 0).toBitVec.setWidth w <<< (8 * i))) 0

@[simp] theorem length_put (k : Nat) (b : List UInt8) (off : Nat) (v : BitVec w) :
    (put k b off v).length = b.length := by
  induction k with
  | zero => rfl
  | succ k ih => rw [put, List.range_succ, List.foldl_append] at *; simpa using ih

theorem put_succ (k : Nat) (b : List UInt8) (off : Nat) (v : BitVec w) :
    put (k + 1) b off v = (put k b off v).set (off + k) (byte v k) := by
  rw [put, List.range_succ, List.foldl_append]
  rfl

theorem get_succ (k : Nat) (p : List UInt8) (off : Nat) :
    get w (k + 1) p off =
      get w k p off ||| ((p.getD (off + k) 0).toBitVec.setWidth w <<< (8 * k)) := by
  rw [get, List.range_succ, List.foldl_append]
  rfl

theorem getD_put_before {k off j : Nat} {b : List UInt8} {v : BitVec w} (before : j < off) :
    (put k b off v).getD j 0 = b.getD j 0 := by
  induction k with
  | zero => rfl
  | succ k ih =>
    rw [put_succ, List.getD_eq_getElem?_getD, List.getElem?_set_ne (by omega), ← ih,
      List.getD_eq_getElem?_getD]

theorem getD_put {k off i : Nat} {b : List UInt8} {v : BitVec w} (inside : i < k)
    (room : off + k ≤ b.length) : (put k b off v).getD (off + i) 0 = byte v i := by
  induction k with
  | zero => omega
  | succ k ih =>
    rw [put_succ, List.getD_eq_getElem?_getD]
    by_cases last : i = k
    · subst last
      rw [List.getElem?_set_self (by rw [length_put]; omega), Option.getD_some]
    · rw [List.getElem?_set_ne (by omega), ← List.getD_eq_getElem?_getD]
      exact ih (by omega) (by omega)

/-- Only the bytes it reads matter. -/
theorem get_congr {k off off' : Nat} {p q : List UInt8}
    (same : ∀ i < k, p.getD (off + i) 0 = q.getD (off' + i) 0) :
    get w k p off = get w k q off' := by
  induction k with
  | zero => rfl
  | succ k ih =>
    rw [get_succ, get_succ, same k (by omega), ih (fun i hi => same i (by omega))]

theorem getLsbD_get (k : Nat) (p : List UInt8) (off j : Nat) :
    (get w k p off).getLsbD j =
      (decide (j < w) && decide (j < 8 * k) && (p.getD (off + j / 8) 0).toBitVec.getLsbD (j % 8)) := by
  induction k with
  | zero => simp [get]
  | succ k ih =>
    rw [get_succ, BitVec.getLsbD_or, ih, BitVec.getLsbD_shiftLeft, BitVec.getLsbD_setWidth]
    by_cases low : j < 8 * k
    · have more : j < 8 * (k + 1) := by omega
      simp [low, more]
    · by_cases here : j < 8 * (k + 1)
      · have place : j / 8 = k := by omega
        have bit : j - 8 * k = j % 8 := by omega
        have small : j % 8 < w ∨ w ≤ j := by omega
        rcases small with small | big
        · simp [low, here, place, bit, small]
        · have outside : ¬j < w := by omega
          simp [outside]
      · have high : 8 ≤ j - 8 * k := by omega
        simp [low, here, BitVec.getLsbD_of_ge _ _ high]

theorem getLsbD_byte (v : BitVec w) (i j : Nat) (bit : j < 8) :
    (byte v i).toBitVec.getLsbD j = v.getLsbD (8 * i + j) := by
  simp [byte, bit]

/-- What was put is got back, when all its bytes were. -/
theorem get_put {k off : Nat} {b : List UInt8} {v : BitVec w} (whole : w = 8 * k)
    (room : off + k ≤ b.length) : get w k (put k b off v) off = v := by
  apply BitVec.eq_of_getLsbD_eq
  intro j inside
  have place : j / 8 < k := by omega
  have split : 8 * (j / 8) + j % 8 = j := Nat.div_add_mod j 8
  rw [getLsbD_get, getD_put place room, getLsbD_byte v _ _ (Nat.mod_lt j (by decide)), split]
  simp [inside, ← whole]

end LittleEndian

namespace Arrivals

variable {α : Type}

/-- What one read can hand over at most; a stream that has ended hands over nothing. -/
abbrev Chunk (α : Type) := {bytes : List α // bytes ≠ []}

def content (chunks : List (Chunk α)) : List α := chunks.flatMap Subtype.val

def recv (n : Nat) : List (Chunk α) → List α × List (Chunk α)
  | [] => ([], [])
  | chunk :: rest =>
    (chunk.val.take n,
      if left : chunk.val.drop n = [] then rest else ⟨chunk.val.drop n, left⟩ :: rest)

@[simp] theorem content_nil : content ([] : List (Chunk α)) = [] := rfl

theorem content_cons (chunk : Chunk α) (rest : List (Chunk α)) :
    content (chunk :: rest) = chunk.val ++ content rest := List.flatMap_cons

theorem recv_append (n : Nat) (chunks : List (Chunk α)) :
    (recv n chunks).1 ++ content (recv n chunks).2 = content chunks := by
  cases chunks with
  | nil => rfl
  | cons chunk rest =>
    have parts : chunk.val.take n ++ chunk.val.drop n = chunk.val := List.take_append_drop ..
    simp only [recv]
    split
    · rename_i whole
      rw [whole, List.append_nil] at parts
      rw [parts, content_cons]
    · rw [content_cons, ← List.append_assoc, parts, content_cons]

theorem length_recv_le (n : Nat) (chunks : List (Chunk α)) : (recv n chunks).1.length ≤ n := by
  cases chunks with
  | nil => simp [recv]
  | cons chunk rest => simp [recv]

/-- A read returns nothing only at the end of the stream. -/
theorem recv_eq_nil {n : Nat} {chunks : List (Chunk α)} (some_ : 0 < n) :
    (recv n chunks).1 = [] ↔ content chunks = [] := by
  cases chunks with
  | nil => simp [recv]
  | cons chunk rest =>
    obtain ⟨bytes, nonempty⟩ := chunk
    have positive : n ≠ 0 := by omega
    simp [recv, content_cons, nonempty, positive]

/-- Reads until `n` have come; a read that returns nothing ends the attempt. -/
def recvN (n : Nat) (chunks : List (Chunk α)) : Option (List α) × List (Chunk α) :=
  if n = 0 then (some [], chunks)
  else if _ended : (recv n chunks).1 = [] then (none, (recv n chunks).2)
  else
    let rest := recvN (n - (recv n chunks).1.length) (recv n chunks).2
    (rest.1.map ((recv n chunks).1 ++ ·), rest.2)
termination_by n
decreasing_by
  have received := List.length_pos_iff.mpr _ended
  omega

theorem recvN_enough {n : Nat} {chunks : List (Chunk α)} (enough : n ≤ (content chunks).length) :
    (recvN n chunks).1 = some ((content chunks).take n) ∧
      content (recvN n chunks).2 = (content chunks).drop n := by
  induction n, chunks using recvN.induct with
  | case1 chunks =>
    rw [recvN]
    simp
  | case2 n chunks more ended =>
    rw [recv_eq_nil (by omega)] at ended
    rw [ended] at enough
    simp at enough
    omega
  | case3 n chunks more ended ih =>
    have parts := recv_append n chunks
    have short := length_recv_le n chunks
    have length : (recv n chunks).1.length + (content (recv n chunks).2).length =
        (content chunks).length := by
      rw [← parts, List.length_append]
    obtain ⟨taken, left⟩ := ih (by omega)
    have whole : (recv n chunks).1 ++
        (content (recv n chunks).2).take (n - (recv n chunks).1.length) =
          (content chunks).take n := by
      rw [← parts, List.take_append, List.take_of_length_le short]
    have remains : (content (recv n chunks).2).drop (n - (recv n chunks).1.length) =
        (content chunks).drop n := by
      rw [← parts, List.drop_append, List.drop_of_length_le short, List.nil_append]
    rw [recvN, if_neg more, dif_neg ended]
    simp only [taken, left, Option.map_some, whole, remains, and_self]

theorem recvN_short {n : Nat} {chunks : List (Chunk α)} (short : (content chunks).length < n) :
    (recvN n chunks).1 = none := by
  induction n, chunks using recvN.induct with
  | case1 chunks => omega
  | case2 n chunks more ended => rw [recvN, if_neg more, dif_pos ended]
  | case3 n chunks more ended ih =>
    have parts := recv_append n chunks
    have length : (recv n chunks).1.length + (content (recv n chunks).2).length =
        (content chunks).length := by
      rw [← parts, List.length_append]
    rw [recvN, if_neg more, dif_neg ended]
    simp only [ih (by omega), Option.map_none]

end Arrivals
