import Mathlib.Data.List.Basic

/-!
# Fields of a file image

A loader walks through the bytes of a file with an offset. A read that would leave the bytes is a
fault, and so is an exception; a reader that looks first can find nothing instead. A reader is
exact for a format when it finds, at every offset, just what stands there in the format, and never
faults.
-/

namespace FileFields

universe u v

inductive Fault where
  | outside
  | exception
  deriving DecidableEq, Repr

/-- Bytes of a fixed width. -/
abbrev Field (width : Nat) := {bytes : List UInt8 // bytes.length = width}

def Field.zero (width : Nat) : Field width := ⟨List.replicate width 0, List.length_replicate⟩

/-- All those bytes are there. -/
def Inside (data : List UInt8) (offset width : Nat) : Prop :=
  width = 0 ∨ offset + width ≤ data.length

instance (data : List UInt8) (offset width : Nat) : Decidable (Inside data offset width) :=
  inferInstanceAs (Decidable (_ ∨ _))

theorem Inside.length {data : List UInt8} {offset width : Nat} (inside : Inside data offset width) :
    ((data.drop offset).take width).length = width := by
  rw [List.length_take, List.length_drop]
  rcases inside with none | all <;> omega

/-- Copies `width` bytes from the offset on. -/
def bytesAt (data : List UInt8) (offset width : Nat) : Except Fault (Field width) :=
  if inside : Inside data offset width then .ok ⟨(data.drop offset).take width, inside.length⟩
  else .error .outside

/-- Copies the bytes from the offset on up to the next zero. -/
def stringAt (data : List UInt8) (offset : Nat) : Except Fault (List UInt8) :=
  if 0 ∈ data.drop offset then .ok ((data.drop offset).takeWhile (· ≠ 0)) else .error .outside

def bigEndian (bytes : List UInt8) : Nat :=
  bytes.foldl (fun value byte => value * 256 + byte.toNat) 0

def littleEndian (bytes : List UInt8) : Nat := bigEndian bytes.reverse

/-- A number within the bytes of a structure. -/
def number (bytes : List UInt8) (offset width : Nat) : Nat :=
  littleEndian ((bytes.drop offset).take width)

theorem bytesAt_take {data : List UInt8} {offset width : Nat} (inside : Inside data offset width) :
    ∃ field : Field width, bytesAt data offset width = .ok field ∧
      field.1 = (data.drop offset).take width :=
  ⟨_, dif_pos inside, rfl⟩

theorem bytesAt_outside {data : List UInt8} {offset width : Nat}
    (outside : ¬Inside data offset width) : bytesAt data offset width = .error .outside :=
  dif_neg outside

theorem bytesAt_inside (data : List UInt8) (offset width : Nat)
    (inside : offset + width ≤ data.length) :
    ∃ field : Field width, bytesAt data offset width = .ok field ∧
      data.drop offset = field.1 ++ data.drop (offset + width) := by
  obtain ⟨field, found, front⟩ := bytesAt_take (.inr inside)
  refine ⟨field, found, ?_⟩
  rw [← List.drop_drop, front]
  exact (List.take_append_drop width _).symm

theorem bytesAt_of_drop {data tail : List UInt8} {offset width : Nat} {field : Field width}
    (inside : offset ≤ data.length) (here : data.drop offset = field.1 ++ tail) :
    bytesAt data offset width = .ok field := by
  have lengths := congrArg List.length here
  rw [List.length_drop, List.length_append, field.2] at lengths
  have room : offset + width ≤ data.length := by omega
  obtain ⟨found, read, front⟩ := bytesAt_take (.inr room)
  rw [here, List.take_left' field.2] at front
  rw [read, Subtype.ext front]

/-- What stands behind a prefix of the bytes from an offset on. -/
theorem drop_behind {data bytes tail : List UInt8} {offset : Nat}
    (here : data.drop offset = bytes ++ tail) : data.drop (offset + bytes.length) = tail := by
  rw [← List.drop_drop, here, List.drop_left]

theorem behind_inside {data bytes tail : List UInt8} {offset : Nat} (inside : offset ≤ data.length)
    (here : data.drop offset = bytes ++ tail) : offset + bytes.length ≤ data.length := by
  have lengths := congrArg List.length here
  rw [List.length_drop, List.length_append] at lengths
  omega

/-! ## Readers -/

/-- Reads a value from an offset on, and says where the next one starts. -/
abbrev Reader (α : Type u) := List UInt8 → Nat → Except Fault (Option (α × Nat))

namespace Reader

variable {α : Type u} {β : Type v}

def done (a : α) : Reader α := fun _ offset => .ok (some (a, offset))

/-- Goes on behind what the first reader found. -/
def andThen (first : Reader α) (second : α → Reader β) : Reader β := fun data offset =>
  match first data offset with
  | .error fault => .error fault
  | .ok none => .ok none
  | .ok (some found) => second found.1 data found.2

/-- Finds just what stands at the offset, and never faults. -/
structure Exact (spells : α → List UInt8 → Prop) (reader : Reader α) : Prop where
  quiet : ∀ {data : List UInt8} {offset : Nat}, offset ≤ data.length →
    ∃ found, reader data offset = .ok found
  found_iff : ∀ {data : List UInt8} {offset : Nat} {a : α} {next : Nat}, offset ≤ data.length →
    (reader data offset = .ok (some (a, next)) ↔
      ∃ bytes tail, spells a bytes ∧ data.drop offset = bytes ++ tail ∧
        next = offset + bytes.length)

theorem Exact.done (a : α) : Exact (fun b bytes => b = a ∧ bytes = []) (done a) where
  quiet _ := ⟨_, rfl⟩
  found_iff := by
    intro data offset b next _
    constructor
    · intro found
      cases found
      exact ⟨[], data.drop offset, ⟨rfl, rfl⟩, rfl, rfl⟩
    · rintro ⟨_, tail, ⟨rfl, rfl⟩, -, rfl⟩
      rfl

theorem Exact.andThen {spells : α → List UInt8 → Prop} {follows : α → β → List UInt8 → Prop}
    {first : Reader α} {second : α → Reader β} (exact : Exact spells first)
    (behind : ∀ a, Exact (follows a) (second a)) :
    Exact (fun b bytes => ∃ a front back, spells a front ∧ follows a b back ∧
      bytes = front ++ back) (first.andThen second) where
  quiet := by
    intro data offset inside
    obtain ⟨found, read⟩ := exact.quiet inside
    match found with
    | none => exact ⟨none, by rw [Reader.andThen, read]⟩
    | some (a, next) =>
      obtain ⟨front, tail, -, here, rfl⟩ := (exact.found_iff inside).mp read
      obtain ⟨last, rest⟩ := (behind a).quiet (behind_inside inside here)
      exact ⟨last, by rw [Reader.andThen, read]; exact rest⟩
  found_iff := by
    intro data offset b next inside
    constructor
    · intro read
      obtain ⟨found, start⟩ := exact.quiet inside
      rw [Reader.andThen, start] at read
      match found with
      | none => exact nomatch read
      | some (a, middle) =>
        obtain ⟨front, tail, spelled, here, rfl⟩ := (exact.found_iff inside).mp start
        obtain ⟨back, rest, followed, there, rfl⟩ :=
          ((behind a).found_iff (behind_inside inside here)).mp read
        refine ⟨front ++ back, rest, ⟨a, front, back, spelled, followed, rfl⟩, ?_, ?_⟩
        · rw [here, ← drop_behind here, there, List.append_assoc]
        · rw [List.length_append]; omega
    · rintro ⟨_, rest, ⟨a, front, back, spelled, followed, rfl⟩, here, rfl⟩
      rw [List.append_assoc] at here
      have start := (exact.found_iff inside).mpr ⟨front, back ++ rest, spelled, here, rfl⟩
      rw [Reader.andThen, start]
      refine ((behind a).found_iff (behind_inside inside here)).mpr
        ⟨back, rest, followed, drop_behind here, ?_⟩
      rw [List.length_append]; omega

/-- A format may be put into other words. -/
theorem Exact.congr {spells spells' : α → List UInt8 → Prop} {reader : Reader α}
    (exact : Exact spells reader) (same : ∀ a bytes, spells a bytes ↔ spells' a bytes) :
    Exact spells' reader where
  quiet := exact.quiet
  found_iff inside := by simpa only [same] using exact.found_iff inside

/-- Two values at one place are the same. -/
theorem Exact.unique {spells : α → List UInt8 → Prop} {reader : Reader α}
    (exact : Exact spells reader) {a b : α} {bytes bytes' tail tail' : List UInt8}
    (spelled : spells a bytes) (spelled' : spells b bytes')
    (same : bytes ++ tail = bytes' ++ tail') : a = b ∧ tail = tail' := by
  have start : 0 ≤ (bytes ++ tail).length := Nat.zero_le _
  have one := (exact.found_iff start).mpr ⟨bytes, tail, spelled, List.drop_zero, rfl⟩
  have other := (exact.found_iff start).mpr ⟨bytes', tail', spelled', same, rfl⟩
  rw [one] at other
  obtain ⟨value, next⟩ := Prod.mk.inj (Option.some.inj (Except.ok.inj other))
  have lengths : bytes.length = bytes'.length := by omega
  exact ⟨value, (List.append_inj same lengths).2⟩

end Reader

end FileFields
