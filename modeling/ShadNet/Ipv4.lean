import ShadNet.Decimal
import Mathlib.Algebra.Group.Nat.Defs
import Mathlib.Tactic.SplitIfs

/-!
# IPv4 addresses as text

np_signaling reads dotted quads by hand, np_matching2 by `sscanf`. Strings are lists of bytes, and
`sscanf` sees them up to their first NUL.
-/

namespace Ipv4

open Decimal

/-- Both parsers put the first number in the lowest byte. -/
def packed (a b c d : UInt32) : UInt32 := a ||| (b <<< 8) ||| (c <<< 16) ||| (d <<< 24)

/-! ## ParseIpv4Nbo -/

/-- The octets stored so far, `idx` of them. Numbers stay below 2560. -/
structure Ipv4Scan where
  octets : List Nat := []
  cur : Nat := 0
  anyDigit : Bool := false

def ipv4Step (scan : Ipv4Scan) (c : UInt8) : Option Ipv4Scan :=
  if isDigit c then
    let cur := scan.cur * 10 + digit c
    if cur > 255 then none else some { scan with cur, anyDigit := true }
  else if c = 46 then
    if scan.anyDigit = false ∨ scan.octets.length ≥ 3 then none
    else some ⟨scan.octets ++ [scan.cur], 0, false⟩
  else none

def parseIpv4Nbo (dotted : List UInt8) : UInt32 :=
  match dotted.foldlM ipv4Step {} with
  | none => 0
  | some scan =>
    if scan.anyDigit = false then 0
    else
      match scan.octets with
      | [a, b, c] => packed (.ofNat a) (.ofNat b) (.ofNat c) (.ofNat scan.cur)
      | _ => 0

/-! ## IpStringToAddr -/

def isSpace (c : UInt8) : Bool := c = 32 || (decide (9 ≤ c) && decide (c ≤ 13))

/-- What `%u` read, before it is converted to an unsigned int. -/
structure Scanned where
  negative : Bool
  magnitude : Nat
  deriving DecidableEq, Repr

def scanSign : List UInt8 → Bool × List UInt8
  | 43 :: s => (false, s)
  | 45 :: s => (true, s)
  | s => (false, s)

/-- The `%u` of `sscanf`. -/
def scanUnsigned (s : List UInt8) : Option (Scanned × List UInt8) :=
  let (negative, s) := scanSign (s.dropWhile isSpace)
  let digits := s.takeWhile isDigit
  if digits = [] then none else some (⟨negative, value digits⟩, s.dropWhile isDigit)

def scanDot : List UInt8 → Option (List UInt8)
  | 46 :: s => some s
  | _ => none

/-- `count` more `%u` with a dot before each. -/
def scanMore : Nat → List UInt8 → Option (List Scanned)
  | 0, _ => some []
  | count + 1, s => do
    let s ← scanDot s
    let next ← scanUnsigned s
    let ns ← scanMore count next.2
    pure (next.1 :: ns)

/-- `sscanf(s, "%u.%u.%u.%u", …)`, when it stores all four. -/
def scanAddress (s : List UInt8) : Option (List Scanned) := do
  let next ← scanUnsigned (s.takeWhile (· ≠ 0))
  let ns ← scanMore 3 next.2
  pure (next.1 :: ns)

section Conversion

variable (stored : Scanned → UInt32)

def ipStringToAddr (ip : List UInt8) : UInt32 :=
  match scanAddress ip with
  | some [a, b, c, d] => packed (stored a) (stored b) (stored c) (stored d)
  | _ => 0

end Conversion

/-! ## What the texts are -/

/-- Four numbers of one byte each with single dots between them. -/
structure Quad (s : List UInt8) (a b c d : Nat) : Prop where
  dotted : Dotted s [a, b, c, d]
  bytes : a ≤ 255 ∧ b ≤ 255 ∧ c ≤ 255 ∧ d ≤ 255

/-- A number as `%u` takes it: blanks, a sign or none, digits. -/
def Number (text : List UInt8) (n : Scanned) : Prop :=
  ∃ blanks sign digits, text = blanks ++ (sign ++ digits) ∧
    (∀ c ∈ blanks, isSpace c = true) ∧ Numeral digits ∧ n.magnitude = value digits ∧
    (sign = [] ∧ n.negative = false ∨ sign = [43] ∧ n.negative = false ∨
      sign = [45] ∧ n.negative = true)

/-- The text begins with these numbers, joined by dots. The last ends where its digits end. -/
inductive Begins : List UInt8 → List Scanned → Prop where
  | last {text rest : List UInt8} {n : Scanned} (number : Number text n)
      (ends : rest.head?.all (fun c => !isDigit c)) : Begins (text ++ rest) [n]
  | dot {text rest : List UInt8} {n : Scanned} {ns : List Scanned} (number : Number text n)
      (more : Begins rest ns) : Begins (text ++ 46 :: rest) (n :: ns)

variable {cur : Nat} {any : Bool} {c : UInt8} {s rest : List UInt8} {o ns : List Nat}

/-! ## ParseIpv4Nbo reads quads -/

/-- The text goes on from a number worth `cur` so far and ends with these numbers. -/
inductive Reads : Nat → Bool → List UInt8 → List Nat → Prop where
  | done {cur : Nat} : Reads cur true [] [cur]
  | further {cur : Nat} {any : Bool} {c : UInt8} {s : List UInt8} {ns : List Nat}
      (isDigit : isDigit c = true) (small : cur * 10 + digit c ≤ 255)
      (more : Reads (cur * 10 + digit c) true s ns) : Reads cur any (c :: s) ns
  | dot {cur : Nat} {s : List UInt8} {ns : List Nat} (more : Reads 0 false s ns) :
      Reads cur true (46 :: s) (cur :: ns)

theorem Reads.ne_nil (reads : Reads cur any s ns) : ns ≠ [] := by
  induction reads with
  | done => exact List.cons_ne_nil _ _
  | further isDigit small more ih => exact ih
  | dot more ih => exact List.cons_ne_nil _ _

theorem ipv4Step_digit (digits : isDigit c = true) (small : cur * 10 + digit c ≤ 255) :
    ipv4Step ⟨o, cur, any⟩ c = some ⟨o, cur * 10 + digit c, true⟩ := by
  simp [ipv4Step, digits, small]

theorem ipv4Step_dot (room : o.length < 3) :
    ipv4Step ⟨o, cur, true⟩ 46 = some ⟨o ++ [cur], 0, false⟩ := by
  simp [ipv4Step, isDigit_dot, room]

/-- A byte that is read goes on with the number or ends it. -/
theorem ipv4Step_eq_some {scan : Ipv4Scan} (steps : ipv4Step ⟨o, cur, any⟩ c = some scan) :
    (isDigit c = true ∧ cur * 10 + digit c ≤ 255 ∧ scan = ⟨o, cur * 10 + digit c, true⟩) ∨
      (c = 46 ∧ any = true ∧ o.length < 3 ∧ scan = ⟨o ++ [cur], 0, false⟩) := by
  unfold ipv4Step at steps
  dsimp only at steps
  split_ifs at steps with digits large dot stuck
  · exact Or.inl ⟨digits, by omega, (Option.some.inj steps).symm⟩
  · obtain ⟨started, fits⟩ := not_or.mp stuck
    exact Or.inr ⟨dot, by simpa using started, by simpa using fits, (Option.some.inj steps).symm⟩

/-- The loop ends inside a number exactly on the texts that read so, with room for all octets. -/
theorem loop_iff {octets : List Nat} (room : o.length ≤ 3) :
    (∃ scan, s.foldlM ipv4Step ⟨o, cur, any⟩ = some scan ∧ scan.anyDigit = true ∧
        scan.octets ++ [scan.cur] = octets) ↔
      ∃ ns, octets = o ++ ns ∧ Reads cur any s ns ∧ octets.length ≤ 4 := by
  induction s generalizing o cur any with
  | nil =>
    constructor
    · rintro ⟨scan, ended, digits, rfl⟩
      obtain rfl : (⟨o, cur, any⟩ : Ipv4Scan) = scan := Option.some.inj ended
      dsimp only at digits
      subst digits
      have short : (o ++ [cur]).length ≤ 4 := by
        rw [List.length_append, List.length_singleton]
        omega
      exact ⟨[cur], rfl, .done, short⟩
    · rintro ⟨ns, rfl, reads, -⟩
      cases reads
      exact ⟨_, rfl, rfl, rfl⟩
  | cons c s ih =>
    constructor
    · rintro ⟨scan, ended, digits, stored⟩
      rw [List.foldlM_cons] at ended
      obtain ⟨next, steps, later⟩ := Option.bind_eq_some_iff.mp ended
      rcases ipv4Step_eq_some steps with ⟨isDigit, small, rfl⟩ | ⟨rfl, rfl, fits, rfl⟩
      · obtain ⟨ns, same, reads, short⟩ := (ih room).mp ⟨scan, later, digits, stored⟩
        exact ⟨ns, same, .further isDigit small reads, short⟩
      · have longer : (o ++ [cur]).length ≤ 3 := by
          rw [List.length_append, List.length_singleton]
          omega
        obtain ⟨ns, same, reads, short⟩ := (ih longer).mp ⟨scan, later, digits, stored⟩
        exact ⟨cur :: ns, by rw [same, List.append_assoc, List.singleton_append], .dot reads,
          short⟩
    · rintro ⟨ns, same, reads, short⟩
      cases reads with
      | further isDigit small more =>
        obtain ⟨scan, ended, digits, stored⟩ := (ih room).mpr ⟨ns, same, more, short⟩
        refine ⟨scan, ?_, digits, stored⟩
        rw [List.foldlM_cons, ipv4Step_digit isDigit small]
        exact ended
      | dot more =>
        rename_i ns
        have some_ : 0 < ns.length := List.length_pos_iff.mpr more.ne_nil
        have fits : o.length < 3 := by
          rw [same, List.length_append, List.length_cons] at short
          omega
        have longer : (o ++ [cur]).length ≤ 3 := by
          rw [List.length_append, List.length_singleton]
          omega
        obtain ⟨scan, ended, digits, stored⟩ := (ih longer).mpr
          ⟨ns, by rw [same, List.append_assoc, List.singleton_append], more, short⟩
        refine ⟨scan, ?_, digits, stored⟩
        rw [List.foldlM_cons, ipv4Step_dot fits]
        exact ended

/-- Digits in front of a text that goes on from their value. -/
theorem Reads.digits {text : List UInt8} (digits : ∀ c ∈ text, isDigit c = true)
    (small : valueFrom cur text ≤ 255) (reads : Reads (valueFrom cur text) true rest ns)
    (begun : any = true ∨ text ≠ []) : Reads cur any (text ++ rest) ns := by
  induction text generalizing cur any with
  | nil =>
    obtain rfl | never := begun
    · exact reads
    · exact absurd rfl never
  | cons c text ih =>
    rw [valueFrom_cons] at small reads
    have step : cur * 10 + digit c ≤ valueFrom (cur * 10 + digit c) text := le_valueFrom text
    exact .further (digits c (List.mem_cons_self ..)) (by omega)
      (ih (fun d member => digits d (List.mem_cons_of_mem _ member)) small reads (Or.inl rfl))

/-- A text that reads begins with digits and ends there or goes on behind a dot. -/
theorem Reads.dotted (reads : Reads cur any s ns) (small : cur ≤ 255) :
    ∃ text, (∀ c ∈ text, isDigit c = true) ∧ (any = true ∨ text ≠ []) ∧ valueFrom cur text ≤ 255 ∧
      (s = text ∧ ns = [valueFrom cur text] ∨
        ∃ rest more, s = text ++ 46 :: rest ∧ ns = valueFrom cur text :: more ∧
          Dotted rest more ∧ ∀ n ∈ more, n ≤ 255) := by
  induction reads with
  | done => exact ⟨[], by simp, Or.inl rfl, small, Or.inl ⟨rfl, rfl⟩⟩
  | further isDigit step more ih =>
    rename_i cur any c s ns
    obtain ⟨text, digits, -, fits, ends⟩ := ih step
    refine ⟨c :: text, ?_, Or.inr (List.cons_ne_nil _ _), fits, ?_⟩
    · rintro d (_ | ⟨_, member⟩)
      · exact isDigit
      · exact digits d member
    · rcases ends with ⟨rfl, same⟩ | ⟨rest, others, rfl, same, behind⟩
      · exact Or.inl ⟨rfl, same⟩
      · exact Or.inr ⟨rest, others, rfl, same, behind⟩
  | dot more ih =>
    rename_i cur s ns
    obtain ⟨text, digits, begun, fits, ends⟩ := ih (by omega)
    have numeral : Numeral text := ⟨begun.resolve_left (by decide), digits⟩
    refine ⟨[], by simp, Or.inl rfl, small, Or.inr ⟨s, ns, rfl, rfl, ?_⟩⟩
    rcases ends with ⟨rfl, rfl⟩ | ⟨rest, more, rfl, rfl, dotted, bytes⟩
    · exact ⟨.last numeral, by simpa using fits⟩
    · refine ⟨.dot numeral dotted, ?_⟩
      rintro n (_ | ⟨_, member⟩)
      · exact fits
      · exact bytes n member

theorem reads_iff : Reads 0 false s ns ↔ Dotted s ns ∧ ∀ n ∈ ns, n ≤ 255 := by
  constructor
  · intro reads
    obtain ⟨text, digits, begun, fits, ends⟩ := reads.dotted (by omega)
    have numeral : Numeral text := ⟨begun.resolve_left (by decide), digits⟩
    rcases ends with ⟨rfl, rfl⟩ | ⟨rest, more, rfl, rfl, dotted, bytes⟩
    · exact ⟨.last numeral, by simpa using fits⟩
    · refine ⟨.dot numeral dotted, ?_⟩
      rintro n (_ | ⟨_, member⟩)
      · exact fits
      · exact bytes n member
  · rintro ⟨dotted, bytes⟩
    induction dotted with
    | last numeral =>
      rename_i text
      have small : value text ≤ 255 := bytes _ (List.mem_cons_self ..)
      have reads : Reads 0 false (text ++ []) [value text] :=
        Reads.digits numeral.2 small .done (Or.inr numeral.1)
      rwa [List.append_nil] at reads
    | dot numeral more ih =>
      have small := bytes _ (List.mem_cons_self ..)
      exact Reads.digits numeral.2 small
        (.dot (ih (fun n member => bytes n (List.mem_cons_of_mem _ member)))) (Or.inr numeral.1)

theorem parseIpv4Nbo_quad {a b c d : Nat} (quad : Quad s a b c d) :
    parseIpv4Nbo s = packed (.ofNat a) (.ofNat b) (.ofNat c) (.ofNat d) := by
  have bytes : ∀ n ∈ [a, b, c, d], n ≤ 255 := by simpa using quad.bytes
  obtain ⟨⟨octets, last, any⟩, ended, digits, stored⟩ := (loop_iff (o := []) (by decide)).mpr
    ⟨[a, b, c, d], rfl, reads_iff.mpr ⟨quad.dotted, bytes⟩, Nat.le_refl 4⟩
  have parts : octets = [a, b, c] ∧ last = d := by
    have split : octets ++ [last] = [a, b, c] ++ [d] := stored
    simpa using List.append_inj' split rfl
  obtain ⟨rfl, rfl⟩ := parts
  dsimp only at digits
  subst digits
  rw [parseIpv4Nbo, ended]
  rfl

theorem parseIpv4Nbo_other (other : ∀ a b c d, ¬Quad s a b c d) : parseIpv4Nbo s = 0 := by
  unfold parseIpv4Nbo
  split
  · rfl
  · rename_i scan ended
    split
    · rfl
    · rename_i digits
      split
      · rename_i a b c stored
        have all := (loop_iff (o := []) (by decide)).mp
          ⟨scan, ended, by simpa using digits, rfl⟩
        obtain ⟨ns, same, reads, -⟩ := all
        rw [stored] at same
        obtain rfl : [a, b, c, scan.cur] = ns := same
        obtain ⟨dotted, bytes⟩ := reads_iff.mp reads
        exact absurd ⟨dotted, by simpa using bytes⟩ (other a b c scan.cur)
      · rfl

/-! ## What `sscanf` reads -/

theorem scanSign_append (s : List UInt8) : ∃ sign, s = sign ++ (scanSign s).2 ∧
    (sign = [] ∧ (scanSign s).1 = false ∨ sign = [43] ∧ (scanSign s).1 = false ∨
      sign = [45] ∧ (scanSign s).1 = true) := by
  unfold scanSign
  split
  · exact ⟨[43], rfl, by simp⟩
  · exact ⟨[45], rfl, by simp⟩
  · exact ⟨[], rfl, by simp⟩

theorem scanSign_digits (digits : Numeral s) : scanSign (s ++ rest) = (false, s ++ rest) := by
  obtain ⟨some_, digit⟩ := digits
  cases s with
  | nil => exact absurd rfl some_
  | cons c s =>
    have first := digit c (List.mem_cons_self ..)
    unfold scanSign
    split
    · next same =>
      obtain rfl : c = 43 := (List.cons.inj same).1
      cases first
    · next same =>
      obtain rfl : c = 45 := (List.cons.inj same).1
      cases first
    · rfl

theorem digit_not_space (digit : isDigit c = true) : isSpace c = false := by
  simp only [isDigit, Bool.and_eq_true, decide_eq_true_eq, UInt8.le_iff_toNat_le] at digit
  simp only [isSpace, Bool.or_eq_false_iff, decide_eq_false_iff_not, Bool.and_eq_false_iff,
    UInt8.le_iff_toNat_le, ← UInt8.toNat_inj]
  have least : (48 : UInt8).toNat = 48 := rfl
  have blank : (32 : UInt8).toNat = 32 := rfl
  have last : (13 : UInt8).toNat = 13 := rfl
  constructor
  · omega
  · right
    omega

/-- `%u` takes a number with all its digits, and leaves the rest. -/
theorem scanUnsigned_iff {n : Scanned} : scanUnsigned s = some (n, rest) ↔
    ∃ text, s = text ++ rest ∧ Number text n ∧ rest.head?.all (fun c => !isDigit c) := by
  constructor
  · intro scanned
    unfold scanUnsigned at scanned
    dsimp only at scanned
    split_ifs at scanned with none_
    obtain ⟨rfl, rfl⟩ := Prod.mk.inj (Option.some.inj scanned)
    obtain ⟨sign, split, signs⟩ := scanSign_append (s.dropWhile isSpace)
    refine ⟨s.takeWhile isSpace ++ (sign ++ (scanSign (s.dropWhile isSpace)).2.takeWhile isDigit),
      ?_, ⟨_, sign, _, rfl, fun c => List.mem_takeWhile_imp, ⟨none_, fun c =>
        List.mem_takeWhile_imp⟩, rfl, signs⟩, dropWhile_ends _ _⟩
    rw [List.append_assoc, List.append_assoc, List.takeWhile_append_dropWhile, ← split,
      List.takeWhile_append_dropWhile]
  · rintro ⟨text, rfl, ⟨blanks, sign, digits, rfl, blank, numeral, magnitude, signs⟩, ends⟩
    have begins : (sign ++ (digits ++ rest)).head?.all (fun c => !isSpace c) := by
      rcases signs with ⟨rfl, -⟩ | ⟨rfl, -⟩ | ⟨rfl, -⟩
      · obtain ⟨c, digits, rfl⟩ := List.exists_cons_of_ne_nil numeral.1
        simpa using digit_not_space (numeral.2 c (List.mem_cons_self ..))
      · rfl
      · rfl
    have signed : scanSign (sign ++ (digits ++ rest)) = (n.negative, digits ++ rest) := by
      rcases signs with ⟨rfl, sign⟩ | ⟨rfl, sign⟩ | ⟨rfl, sign⟩
      · rw [List.nil_append, scanSign_digits numeral, sign]
      · rw [sign]
        rfl
      · rw [sign]
        rfl
    obtain ⟨taken, dropped⟩ := takeWhile_run numeral.2 ends
    unfold scanUnsigned
    rw [List.append_assoc, List.append_assoc, (takeWhile_run blank begins).2]
    simp only [signed, taken, dropped, numeral.1, if_false, ← magnitude]

theorem scanDot_eq_some (dot : scanDot s = some rest) : s = 46 :: rest := by
  unfold scanDot at dot
  split at dot
  · rw [Option.some.inj dot]
  · cases dot

/-- Scanning finds the numbers a text begins with. -/
theorem scan_begins {count : Nat} {n : Scanned} {ns : List Scanned} :
    (∃ rest, scanUnsigned s = some (n, rest) ∧ scanMore count rest = some ns) ↔
      Begins s (n :: ns) ∧ ns.length = count := by
  induction count generalizing s n ns with
  | zero =>
    constructor
    · rintro ⟨rest, scanned, more⟩
      obtain rfl : [] = ns := Option.some.inj more
      obtain ⟨text, rfl, number, ends⟩ := scanUnsigned_iff.mp scanned
      exact ⟨.last number ends, rfl⟩
    · rintro ⟨begins, none_⟩
      cases begins with
      | last number ends => exact ⟨_, scanUnsigned_iff.mpr ⟨_, rfl, number, ends⟩, rfl⟩
      | dot number more =>
        obtain rfl := List.length_eq_zero_iff.mp none_
        cases more
  | succ count ih =>
    constructor
    · rintro ⟨rest, scanned, more⟩
      obtain ⟨text, rfl, number, ends⟩ := scanUnsigned_iff.mp scanned
      obtain ⟨behind, dot, after⟩ := Option.bind_eq_some_iff.mp more
      obtain ⟨⟨next, last⟩, second, later⟩ := Option.bind_eq_some_iff.mp after
      obtain ⟨others, found, same⟩ := Option.bind_eq_some_iff.mp later
      obtain rfl : next :: others = ns := Option.some.inj same
      obtain ⟨begins, length⟩ := ih.mp ⟨last, second, found⟩
      rw [scanDot_eq_some dot]
      exact ⟨.dot number begins, by rw [List.length_cons, length]⟩
    · rintro ⟨begins, length⟩
      cases begins with
      | last number ends => cases length
      | dot number more =>
        cases ns with
        | nil => cases more
        | cons next others =>
          obtain ⟨last, scanned, more⟩ := ih.mpr ⟨more, by simpa using length⟩
          refine ⟨_, scanUnsigned_iff.mpr ⟨_, rfl, number, rfl⟩, ?_⟩
          rw [scanMore, scanDot, Option.bind_eq_bind, Option.bind_some, scanned,
            Option.bind_eq_bind, Option.bind_some, more]
          rfl

theorem scanAddress_iff {ns : List Scanned} :
    scanAddress s = some ns ↔ Begins (s.takeWhile (· ≠ 0)) ns ∧ ns.length = 4 := by
  constructor
  · intro scanned
    obtain ⟨⟨n, rest⟩, first, later⟩ := Option.bind_eq_some_iff.mp scanned
    obtain ⟨others, found, same⟩ := Option.bind_eq_some_iff.mp later
    obtain rfl : n :: others = ns := Option.some.inj same
    obtain ⟨begins, length⟩ := scan_begins.mp ⟨rest, first, found⟩
    exact ⟨begins, by rw [List.length_cons, length]⟩
  · rintro ⟨begins, length⟩
    cases ns with
    | nil => cases length
    | cons n others =>
      obtain ⟨rest, scanned, more⟩ := scan_begins.mpr ⟨begins, Nat.succ.inj length⟩
      rw [scanAddress, scanned, Option.bind_eq_bind, Option.bind_some, more]
      rfl

/-! ## Both on a quad -/

theorem Number.of_numeral {text : List UInt8} (numeral : Numeral text) :
    Number text ⟨false, value text⟩ :=
  ⟨[], [], text, rfl, by simp, numeral, rfl, Or.inl ⟨rfl, rfl⟩⟩

theorem begins_of_dotted (dotted : Dotted s ns) : Begins s (ns.map (Scanned.mk false)) := by
  induction dotted with
  | last numeral =>
    rename_i text
    have begins : Begins (text ++ []) [⟨false, value text⟩] := .last (.of_numeral numeral) rfl
    rwa [List.append_nil] at begins
  | dot numeral more ih => exact .dot (.of_numeral numeral) ih

theorem dotted_ne_zero (dotted : Dotted s ns) : ∀ c ∈ s, c ≠ 0 := by
  have digit_ne_zero : ∀ c, isDigit c = true → c ≠ 0 := by
    rintro c digit rfl
    cases digit
  induction dotted with
  | last numeral => exact fun c member => digit_ne_zero c (numeral.2 c member)
  | dot numeral more ih =>
    intro c member
    rcases List.mem_append.mp member with digits | behind
    · exact digit_ne_zero c (numeral.2 c digits)
    · rcases List.mem_cons.mp behind with rfl | later
      · decide
      · exact ih c later

theorem scanAddress_quad {a b c d : Nat} (quad : Quad s a b c d) :
    scanAddress s = some [⟨false, a⟩, ⟨false, b⟩, ⟨false, c⟩, ⟨false, d⟩] := by
  have whole : s.takeWhile (· ≠ 0) = s :=
    List.takeWhile_eq_self_iff.mpr
      (fun c member => by simpa using dotted_ne_zero quad.dotted c member)
  rw [scanAddress_iff, whole]
  exact ⟨begins_of_dotted quad.dotted, rfl⟩

theorem shiftLeft_eq_zero {a : UInt32} {k : UInt32} (inside : k.toNat < 32) :
    a <<< k = 0 ↔ a.toNat % 2 ^ (32 - k.toNat) = 0 := by
  rw [← UInt32.toNat_inj, UInt32.toNat_shiftLeft, Nat.mod_eq_of_lt inside, Nat.shiftLeft_eq]
  have whole : 2 ^ 32 = 2 ^ (32 - k.toNat) * 2 ^ k.toNat := by
    rw [← Nat.pow_add]
    congr 1
    omega
  rw [whole, Nat.mul_mod_mul_right]
  constructor
  · intro none_
    exact (Nat.mul_eq_zero.mp none_).resolve_right (Nat.ne_of_gt (Nat.two_pow_pos _))
  · intro none_
    rw [none_, Nat.zero_mul]
    rfl

theorem packed_eq_zero (a b c d : UInt32) : packed a b c d = 0 ↔
    a = 0 ∧ b.toNat % 2 ^ 24 = 0 ∧ c.toNat % 2 ^ 16 = 0 ∧ d.toNat % 2 ^ 8 = 0 := by
  rw [packed, UInt32.or_eq_zero_iff, UInt32.or_eq_zero_iff, UInt32.or_eq_zero_iff,
    shiftLeft_eq_zero (by decide), shiftLeft_eq_zero (by decide), shiftLeft_eq_zero (by decide),
    and_assoc, and_assoc]
  rfl

/-- The first number is in the lowest byte, the last in the highest. -/
theorem packed_toNat {a b c d : Nat} (bytes : a ≤ 255 ∧ b ≤ 255 ∧ c ≤ 255 ∧ d ≤ 255) :
    (packed (.ofNat a) (.ofNat b) (.ofNat c) (.ofNat d)).toNat =
      a + 2 ^ 8 * b + 2 ^ 16 * c + 2 ^ 24 * d := by
  have low : a ||| b <<< 8 = a + 2 ^ 8 * b := by
    rw [Nat.or_comm, ← Nat.shiftLeft_add_eq_or_of_lt (by omega), Nat.shiftLeft_eq]
    omega
  have middle : (a + 2 ^ 8 * b) ||| c <<< 16 = a + 2 ^ 8 * b + 2 ^ 16 * c := by
    rw [Nat.or_comm, ← Nat.shiftLeft_add_eq_or_of_lt (by omega), Nat.shiftLeft_eq]
    omega
  have high : (a + 2 ^ 8 * b + 2 ^ 16 * c) ||| d <<< 24 =
      a + 2 ^ 8 * b + 2 ^ 16 * c + 2 ^ 24 * d := by
    rw [Nat.or_comm, ← Nat.shiftLeft_add_eq_or_of_lt (by omega), Nat.shiftLeft_eq]
    omega
  have shifted (n k : Nat) (small : n ≤ 255) (inside : k ≤ 24) :
      (UInt32.ofNat n <<< UInt32.ofNat k).toNat = n <<< k := by
    have fits : n * 2 ^ k < 2 ^ 32 := by
      have most : 2 ^ k ≤ 2 ^ 24 := Nat.pow_le_pow_right (by decide) inside
      calc n * 2 ^ k ≤ 255 * 2 ^ 24 := Nat.mul_le_mul small most
        _ < 2 ^ 32 := by decide
    rw [UInt32.toNat_shiftLeft, UInt32.toNat_ofNat', UInt32.toNat_ofNat',
      Nat.mod_eq_of_lt (a := n) (by omega), Nat.mod_eq_of_lt (a := k) (by omega),
      Nat.mod_eq_of_lt (a := k) (by omega), Nat.shiftLeft_eq, Nat.mod_eq_of_lt fits]
  have first : (UInt32.ofNat a).toNat = a := by
    rw [UInt32.toNat_ofNat', Nat.mod_eq_of_lt (by omega)]
  rw [packed, UInt32.toNat_or, UInt32.toNat_or, UInt32.toNat_or, first]
  have second := shifted b 8 (by omega) (by omega)
  have third := shifted c 16 (by omega) (by omega)
  have fourth := shifted d 24 (by omega) (by omega)
  change (UInt32.ofNat b <<< 8).toNat = _ at second
  change (UInt32.ofNat c <<< 16).toNat = _ at third
  change (UInt32.ofNat d <<< 24).toNat = _ at fourth
  rw [second, third, fourth, low, middle, high]

/-! ## The two parsers -/

/-- Packing loses all of four numbers. -/
def PacksToZero (stored : Scanned → UInt32) : List Scanned → Prop
  | [a, b, c, d] => stored a = 0 ∧ (stored b).toNat % 2 ^ 24 = 0 ∧
      (stored c).toNat % 2 ^ 16 = 0 ∧ (stored d).toNat % 2 ^ 8 = 0
  | _ => True

theorem parseIpv4Nbo_iff {v : UInt32} (address : v ≠ 0) : parseIpv4Nbo s = v ↔
    ∃ a b c d, Quad s a b c d ∧ v.toNat = a + 2 ^ 8 * b + 2 ^ 16 * c + 2 ^ 24 * d := by
  constructor
  · rintro rfl
    by_contra none_
    refine address (parseIpv4Nbo_other fun a b c d quad => none_ ⟨a, b, c, d, quad, ?_⟩)
    rw [parseIpv4Nbo_quad quad, packed_toNat quad.bytes]
  · rintro ⟨a, b, c, d, quad, value⟩
    rw [parseIpv4Nbo_quad quad, ← UInt32.toNat_inj, packed_toNat quad.bytes, value]

section Conversion

variable {stored : Scanned → UInt32}

theorem ipStringToAddr_quad {a b c d : Nat}
    (faithful : ∀ n, n < 2 ^ 32 → stored ⟨false, n⟩ = .ofNat n) (quad : Quad s a b c d) :
    ipStringToAddr stored s = parseIpv4Nbo s := by
  obtain ⟨ha, hb, hc, hd⟩ := quad.bytes
  rw [ipStringToAddr, scanAddress_quad quad, parseIpv4Nbo_quad quad]
  simp only [faithful a (by omega), faithful b (by omega), faithful c (by omega),
    faithful d (by omega)]

theorem ipStringToAddr_eq_zero : ipStringToAddr stored s = 0 ↔
    ∀ ns, Begins (s.takeWhile (· ≠ 0)) ns → ns.length = 4 → PacksToZero stored ns := by
  unfold ipStringToAddr
  constructor
  · intro zero ns begins four
    rw [scanAddress_iff.mpr ⟨begins, four⟩] at zero
    obtain ⟨a, b, c, d, rfl⟩ : ∃ a b c d, ns = [a, b, c, d] := by
      rcases ns with _ | ⟨a, _ | ⟨b, _ | ⟨c, _ | ⟨d, _ | ⟨e, ns⟩⟩⟩⟩⟩ <;> simp at four ⊢
    exact (packed_eq_zero _ _ _ _).mp zero
  · intro lost
    split
    · next a b c d scanned =>
      obtain ⟨begins, four⟩ := scanAddress_iff.mp scanned
      exact (packed_eq_zero _ _ _ _).mpr (lost _ begins four)
    · rfl

/-- ParseIpv4Nbo is right on every text. IpStringToAddr agrees with it on the quads and on the
texts that do not begin with four numbers, or with four that packing loses. -/
theorem ipStringToAddr_iff (faithful : ∀ n, n < 2 ^ 32 → stored ⟨false, n⟩ = .ofNat n)
    (s : List UInt8) :
    (∀ v : UInt32, v ≠ 0 → (parseIpv4Nbo s = v ↔
      ∃ a b c d, Quad s a b c d ∧ v.toNat = a + 2 ^ 8 * b + 2 ^ 16 * c + 2 ^ 24 * d)) ∧
    (ipStringToAddr stored s = parseIpv4Nbo s ↔
      (∃ a b c d, Quad s a b c d) ∨
        ∀ ns, Begins (s.takeWhile (· ≠ 0)) ns → ns.length = 4 → PacksToZero stored ns) := by
  refine ⟨fun v address => parseIpv4Nbo_iff address, ?_⟩
  by_cases quad : ∃ a b c d, Quad s a b c d
  · obtain ⟨a, b, c, d, quad⟩ := quad
    exact ⟨fun _ => Or.inl ⟨a, b, c, d, quad⟩, fun _ => ipStringToAddr_quad faithful quad⟩
  · have zero : parseIpv4Nbo s = 0 :=
      parseIpv4Nbo_other fun a b c d is => quad ⟨a, b, c, d, is⟩
    rw [zero, ipStringToAddr_eq_zero]
    exact ⟨Or.inr, fun either => either.resolve_left quad⟩

end Conversion

/-- The conversion of a two's complement machine. -/
def wrapped (n : Scanned) : UInt32 :=
  if n.negative then 0 - .ofNat n.magnitude else .ofNat n.magnitude

theorem wrapped_faithful (n : Nat) : wrapped ⟨false, n⟩ = .ofNat n := rfl

/-- Both read `10.0.0.7`. -/
theorem ipStringToAddr_iff_local :
    ipStringToAddr wrapped [49, 48, 46, 48, 46, 48, 46, 55] =
      parseIpv4Nbo [49, 48, 46, 48, 46, 48, 46, 55] := by
  obtain ⟨reads, agrees⟩ :=
    ipStringToAddr_iff (fun n _ => wrapped_faithful n) [49, 48, 46, 48, 46, 48, 46, 55]
  obtain ⟨a, b, c, d, quad, -⟩ := (reads 117440522 (by decide)).mp (by decide +kernel)
  exact agrees.mpr (Or.inl ⟨a, b, c, d, quad⟩)

/-- The host name `10.0.0.7.lan` is an address for one and not for the other. -/
theorem ipStringToAddr_trailing :
    ¬∀ s : List UInt8, ipStringToAddr wrapped s = parseIpv4Nbo s := by
  intro agree
  have differ := agree [49, 48, 46, 48, 46, 48, 46, 55, 46, 108, 97, 110]
  revert differ
  decide +kernel

end Ipv4
