import Mathlib.Data.List.Basic

/-!
# Looking up a response header

A block is the memory that `block` and `block_len` name. A read of it, or of the field name with
its NUL, gives `none` when it is outside, and so does a search that needs more rounds than the
block has bytes.
-/

namespace NpWebApi

/-- A C string; its memory has a NUL behind the characters. -/
structure CString where
  chars : List UInt8
  noNul : 0 ∉ chars

namespace CString

def memory (s : CString) : List UInt8 := s.chars ++ [0]

end CString

namespace ResponseHeaders

/-- `std::tolower` in the C locale. -/
def tolower (c : UInt8) : UInt8 := if 65 ≤ c ∧ c ≤ 90 then c + 32 else c

def isBlank (c : UInt8) : Bool := c = 32 || c = 9

def notColon (c : UInt8) : Bool := c ≠ 58

def notLf (c : UInt8) : Bool := c ≠ 10

/-! ## The scanner -/

/-- The loop of `iEquals` from index `i` on, with `a_len - i` characters of the block left; they
start at `a`. -/
def iEqualsFrom (block : List UInt8) (a : Nat) (b : CString) : Nat → Nat → Option Bool
  | 0, i => do
    let last ← b.memory[i]?
    pure (last == 0)
  | left + 1, i => do
    let wanted ← b.memory[i]?
    if wanted = 0 then pure false
    else
      let c ← block[a + i]?
      if tolower c ≠ tolower wanted then pure false else iEqualsFrom block a b left (i + 1)

def iEquals (block : List UInt8) (a aLen : Nat) (b : CString) : Option Bool :=
  iEqualsFrom block a b aLen 0

/-- `while (i < limit && passes(block[i])) ++i;` with `limit - i` bytes left. -/
def skip (passes : UInt8 → Bool) (block : List UInt8) : Nat → Nat → Option Nat
  | 0, i => some i
  | left + 1, i => do
    let c ← block[i]?
    if passes c then skip passes block left (i + 1) else pure i

/-- `out_value.assign(block + start, size)`. -/
def slice (block : List UInt8) (start size : Nat) : Option (List UInt8) :=
  if start + size ≤ block.length then some ((block.drop start).take size) else none

/-- The end of a line without its CR. -/
def trimEnd (block : List UInt8) (lineStart lineEnd : Nat) : Option Nat :=
  if lineStart < lineEnd then do
    let last ← block[lineEnd - 1]?
    pure (if last = 13 then lineEnd - 1 else lineEnd)
  else some lineEnd

/-- The rest of a line, from the first character that is no blank. -/
def valueFrom (block : List UInt8) (start lineEnd : Nat) : Option (List UInt8) := do
  let vs ← skip isBlank block (lineEnd - start) start
  slice block vs (lineEnd - vs)

/-- What a line between two indices holds for the field. -/
def valueAt (block : List UInt8) (field : CString) (lineStart lineEnd : Nat) :
    Option (Option (List UInt8)) := do
  let colon ← skip notColon block (lineEnd - lineStart) lineStart
  if lineEnd ≤ colon then pure none
  else if ← iEquals block lineStart (colon - lineStart) field then
    let value ← valueFrom block (colon + 1) lineEnd
    pure (some value)
  else pure none

/-- The rounds of `findHeaderValue` from index `i` on. -/
def findHeaderFrom (block : List UInt8) (field : CString) : Nat → Nat → Option (Option (List UInt8))
  | 0, i => if i < block.length then none else some none
  | rounds + 1, i =>
    if i < block.length then do
      let stop ← skip notLf block (block.length - i) i
      let lineEnd ← trimEnd block i stop
      match ← valueAt block field i lineEnd with
      | some value => pure (some value)
      | none => findHeaderFrom block field rounds (if stop < block.length then stop + 1 else stop)
    else some none

/-- The value that is found, if the search comes to its end and stays in the block. -/
def findHeaderValue (block : List UInt8) (field : CString) : Option (Option (List UInt8)) :=
  findHeaderFrom block field block.length 0

/-! ## The lines of a block -/

def dropCr (line : List UInt8) : List UInt8 :=
  if line.getLast? = some 13 then line.dropLast else line

/-- Lines are separated by LF. -/
def blockLines (block : List UInt8) : List (List UInt8) := (block.splitOn 10).map dropCr

def EqualsIgnoringCase (name field : List UInt8) : Prop := name.map tolower = field.map tolower

instance decidableEqualsIgnoringCase (name field : List UInt8) :
    Decidable (EqualsIgnoringCase name field) :=
  inferInstanceAs (Decidable (name.map tolower = field.map tolower))

/-- The value of a line whose text before the first colon is the field name. -/
def lineValue (field : CString) (line : List UInt8) : Option (List UInt8) :=
  match line.dropWhile notColon with
  | [] => none
  | _ :: value =>
    if EqualsIgnoringCase (line.takeWhile notColon) field.chars then
      some (value.dropWhile isBlank)
    else none

/-- The reference parser: the first line that has a value for the field. -/
def headerValue (block : List UInt8) (field : CString) : Option (List UInt8) :=
  (blockLines block).findSome? (lineValue field)

variable {line after : List UInt8} {field : CString}

/-! ## The loops stay in the block -/

theorem skip_eq (before line after : List UInt8) (passes : UInt8 → Bool) :
    skip passes (before ++ line ++ after) line.length before.length =
      some (before.length + (line.takeWhile passes).length) := by
  induction line generalizing before with
  | nil => simp [skip]
  | cons c line ih =>
    have here : (before ++ c :: line ++ after)[before.length]? = some c := by simp
    by_cases pass : passes c = true
    · have next := ih (before ++ [c])
      simp only [List.append_assoc, List.cons_append, List.nil_append, List.length_append,
        List.length_cons, List.length_nil] at next here ⊢
      simp only [skip, here, Option.bind_eq_bind, Option.bind_some, pass, if_true, next,
        List.takeWhile_cons_of_pos, List.length_cons]
      congr 1
      omega
    · simp [skip, pass]

theorem iEqualsFrom_eq (before name after done chars : List UInt8) (noNul : 0 ∉ chars)
    (memory : field.chars = done ++ chars) {a : Nat} (start : a + done.length = before.length) :
    iEqualsFrom (before ++ name ++ after) a field name.length done.length =
      some (decide (EqualsIgnoringCase name chars)) := by
  induction name generalizing before done chars with
  | nil =>
    cases chars with
    | nil => simp [iEqualsFrom, CString.memory, memory, EqualsIgnoringCase]
    | cons w chars =>
      have nonzero : w ≠ 0 := fun zero => noNul (zero ▸ List.mem_cons_self ..)
      simp [iEqualsFrom, CString.memory, memory, EqualsIgnoringCase, nonzero]
  | cons c name ih =>
    cases chars with
    | nil => simp [iEqualsFrom, CString.memory, memory, EqualsIgnoringCase]
    | cons w chars =>
      have nonzero : w ≠ 0 := fun zero => noNul (zero ▸ List.mem_cons_self ..)
      have wanted : field.memory[done.length]? = some w := by simp [CString.memory, memory]
      have here : (before ++ c :: name ++ after)[a + done.length]? = some c := by
        simp [start]
      have next := ih (before ++ [c]) (done ++ [w]) chars
        (fun member => noNul (List.mem_cons_of_mem _ member)) (by simp [memory])
        (by simp only [List.length_append, List.length_cons, List.length_nil]; omega)
      simp only [List.append_assoc, List.cons_append, List.nil_append, List.length_append,
        List.length_cons, List.length_nil] at next here ⊢
      simp only [iEqualsFrom, wanted, here, Option.bind_eq_bind, Option.bind_some, nonzero, if_false]
      by_cases same : tolower c = tolower w
      · simp only [same, ne_eq, not_true_eq_false, if_false, Nat.zero_add] at next ⊢
        rw [next]
        exact congrArg some (decide_eq_decide.mpr (by simp [EqualsIgnoringCase, same]))
      · simp [same, EqualsIgnoringCase]

theorem iEquals_eq (before name after : List UInt8) (field : CString) :
    iEquals (before ++ name ++ after) before.length name.length field =
      some (decide (EqualsIgnoringCase name field.chars)) :=
  iEqualsFrom_eq before name after [] field.chars field.noNul rfl rfl

theorem slice_eq (before line after : List UInt8) :
    slice (before ++ line ++ after) before.length line.length = some line := by
  simp [slice]

theorem trimEnd_eq (before line after : List UInt8) :
    trimEnd (before ++ line ++ after) before.length (before.length + line.length) =
      some (before.length + (dropCr line).length) := by
  rcases List.eq_nil_or_concat' line with rfl | ⟨line, c, rfl⟩
  · simp [trimEnd, dropCr]
  · have here : (before ++ (line ++ [c]) ++ after)[before.length + (line ++ [c]).length - 1]? =
        some c := by simp
    simp only [trimEnd, here, dropCr]
    by_cases cr : c = 13
    · simp [cr]
    · simp [cr]

/-! ## What a line holds -/

theorem valueFrom_eq (before line after : List UInt8) :
    valueFrom (before ++ line ++ after) before.length (before.length + line.length) =
      some (line.dropWhile isBlank) := by
  have blanks := skip_eq before line after isBlank
  have split := List.takeWhile_append_dropWhile (p := isBlank) (l := line)
  simp only [valueFrom, Nat.add_sub_cancel_left, blanks, Option.bind_eq_bind, Option.bind_some]
  generalize line.takeWhile isBlank = skipped at split ⊢
  generalize line.dropWhile isBlank = value at split ⊢
  subst split
  have width : before.length + (skipped.length + value.length) -
      (before.length + skipped.length) = value.length := by omega
  have whole := slice_eq (before ++ skipped) value after
  simp only [List.length_append, List.append_assoc] at whole ⊢
  rw [width]
  exact whole

theorem valueAt_eq (before line after : List UInt8) (field : CString) :
    valueAt (before ++ line ++ after) field before.length (before.length + line.length) =
      some (lineValue field line) := by
  have split := List.takeWhile_append_dropWhile (p := notColon) (l := line)
  have colon := skip_eq before line after notColon
  simp only [valueAt, Nat.add_sub_cancel_left, colon, Option.bind_eq_bind, Option.bind_some,
    lineValue]
  generalize line.takeWhile notColon = name at split ⊢
  cases rest : line.dropWhile notColon with
  | nil =>
    have whole : name = line := by simpa only [rest, List.append_nil] using split
    simp [whole]
  | cons c value =>
    rw [rest] at split
    subst split
    have room : ¬before.length + (name ++ c :: value).length ≤ before.length + name.length := by
      simp only [List.length_append, List.length_cons]
      omega
    have named := iEquals_eq before name (c :: value ++ after) field
    have found := valueFrom_eq (before ++ (name ++ [c])) value after
    simp only [List.append_assoc, List.cons_append, List.nil_append, List.length_append,
      List.length_cons, List.length_nil] at named found room ⊢
    simp only [room, if_false, named, Option.bind_some, decide_eq_true_eq]
    by_cases same : EqualsIgnoringCase name field.chars
    · have start : before.length + name.length + 1 = before.length + (name.length + (0 + 1)) := by
        omega
      have stop : before.length + (name.length + (value.length + 1)) =
          before.length + (name.length + (0 + 1)) + value.length := by omega
      simp only [same, if_true, start, stop, found]
      rfl
    · simp only [same, if_false]
      rfl

/-! ## What a block holds -/

theorem headerValue_last (oneLine : 10 ∉ line) :
    headerValue line field = lineValue field (dropCr line) := by
  simp only [headerValue, blockLines, List.splitOn_eq_singleton oneLine, List.map_cons, List.map_nil]
  cases found : lineValue field (dropCr line) with
  | none => simp [found]
  | some value => simp [found]

theorem headerValue_line (oneLine : 10 ∉ line) :
    headerValue (line ++ 10 :: after) field =
      (lineValue field (dropCr line)).or (headerValue after field) := by
  simp only [headerValue, blockLines, List.splitOn_append_cons_self_of_not_mem oneLine,
    List.map_cons, List.findSome?_cons]
  cases lineValue field (dropCr line) with
  | none => simp
  | some value => simp

theorem exists_cr (line : List UInt8) : ∃ cr, line = dropCr line ++ cr := by
  by_cases last : line.getLast? = some 13
  · exact ⟨[13], by simp [dropCr, last, List.dropLast_append_getLast?]⟩
  · exact ⟨[], by simp [dropCr, last]⟩

theorem findHeaderFrom_eq (before text : List UInt8) {rounds : Nat} (enough : text.length ≤ rounds) :
    findHeaderFrom (before ++ text) field rounds before.length =
      some (headerValue text field) := by
  induction rounds generalizing before text with
  | zero =>
    have empty : text = [] := List.length_eq_zero_iff.mp (by omega)
    simp [findHeaderFrom, headerValue, blockLines, empty, lineValue, dropCr]
  | succ rounds ih =>
    by_cases empty : text = []
    · simp [findHeaderFrom, headerValue, blockLines, empty, lineValue, dropCr]
    · have inside : before.length < (before ++ text).length := by
        have := List.length_pos_iff.mpr empty
        simp only [List.length_append]
        omega
      -- the line ends at the first LF or with the block
      have stops := skip_eq before text [] notLf
      have oneLine : 10 ∉ text.takeWhile notLf := fun member =>
        absurd (List.all_eq_true.mp List.all_takeWhile 10 member) (by decide)
      have ends := List.head?_dropWhile_not notLf text
      have split := List.takeWhile_append_dropWhile (p := notLf) (l := text)
      generalize text.takeWhile notLf = line at stops oneLine split
      generalize text.dropWhile notLf = rest at split ends
      subst split
      obtain ⟨cr, whole⟩ := exists_cr line
      have trimmed := trimEnd_eq before line rest
      have value := valueAt_eq before (dropCr line) (cr ++ rest) field
      rw [← List.append_assoc, List.append_assoc before, ← whole] at value
      simp only [List.append_nil, List.append_assoc] at stops trimmed value
      have width : (before ++ (line ++ rest)).length - before.length = (line ++ rest).length := by
        simp only [List.length_append]
        omega
      simp only [findHeaderFrom, inside, if_true, width, stops, Option.bind_eq_bind,
        Option.bind_some, trimmed, value]
      cases rest with
      | nil =>
        have tail := ih (before ++ line) [] (by simp)
        simp only [List.append_nil, List.length_append] at tail ⊢
        rw [headerValue_last oneLine]
        cases lineValue field (dropCr line) with
        | some value => rfl
        | none =>
          simp only [Nat.lt_irrefl, if_false, tail]
          simp [headerValue, blockLines, lineValue, dropCr]
      | cons c more =>
        have lf : c = 10 := by simpa [notLf] using ends
        subst lf
        have tail := ih (before ++ (line ++ [10])) more (by
          simp only [List.length_append, List.length_cons] at enough
          omega)
        simp only [List.append_assoc, List.cons_append, List.nil_append, List.length_append,
          List.length_cons, List.length_nil, Nat.zero_add] at tail ⊢
        have further : before.length + line.length <
            before.length + (line.length + (more.length + 1)) := by omega
        rw [headerValue_line oneLine]
        cases lineValue field (dropCr line) with
        | some value => rfl
        | none =>
          simp only [further, if_true, Nat.add_assoc, tail]
          rfl

/-- The search ends, stays in the block and finds what the reference parser finds. -/
theorem findHeaderValue_eq_headerValue (block : List UInt8) (field : CString) :
    findHeaderValue block field = some (headerValue block field) :=
  findHeaderFrom_eq [] block (Nat.le_refl _)

/-- `"A:1\nLen:\t 2\r\n"` holds `"2"` for `"len"`. -/
example : findHeaderValue [65, 58, 49, 10, 76, 101, 110, 58, 9, 32, 50, 13, 10]
    ⟨[108, 101, 110], by decide⟩ = some (some [50]) := by decide

end ResponseHeaders

end NpWebApi
