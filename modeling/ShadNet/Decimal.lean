import Mathlib.Data.List.TakeWhile

/-!
# Decimal numerals

Text is a list of bytes. A numeral is a nonempty run of digits; leading zeros do no harm. A loop
over digits that multiplies and adds in a bounded integer computes their value exactly when the
value fits: each step is no smaller than the one before it, so whatever runs over in the middle
runs over at the end.
-/

namespace Decimal

def isDigit (c : UInt8) : Bool := decide (48 ≤ c) && decide (c ≤ 57)

def digit (c : UInt8) : Nat := c.toNat - 48

/-- Further digits after those worth `cur`. -/
def valueFrom (cur : Nat) (digits : List UInt8) : Nat :=
  digits.foldl (fun cur c => cur * 10 + digit c) cur

def value (digits : List UInt8) : Nat := valueFrom 0 digits

def Numeral (text : List UInt8) : Prop := text ≠ [] ∧ ∀ c ∈ text, isDigit c = true

/-- Numerals with a single dot between each and the next, and their values. -/
inductive Dotted : List UInt8 → List Nat → Prop where
  | last {text : List UInt8} (numeral : Numeral text) : Dotted text [value text]
  | dot {text rest : List UInt8} {ns : List Nat} (numeral : Numeral text) (more : Dotted rest ns) :
      Dotted (text ++ 46 :: rest) (value text :: ns)

variable {cur : Nat} {c : UInt8} {text rest : List UInt8} {ns : List Nat}

theorem isDigit_dot : isDigit 46 = false := by decide

theorem valueFrom_cons : valueFrom cur (c :: text) = valueFrom (cur * 10 + digit c) text := by
  simp only [valueFrom, List.foldl_cons]

theorem le_valueFrom (text : List UInt8) : cur ≤ valueFrom cur text := by
  induction text generalizing cur with
  | nil => exact Nat.le_refl _
  | cons c text ih =>
    rw [valueFrom_cons]
    have step : cur * 10 + digit c ≤ _ := ih
    omega

/-! ## Maximal runs of digits -/

theorem takeWhile_run {p : UInt8 → Bool} (all : ∀ c ∈ text, p c = true)
    (ends : rest.head?.all (fun c => !p c)) :
    (text ++ rest).takeWhile p = text ∧ (text ++ rest).dropWhile p = rest := by
  induction text with
  | nil =>
    cases rest with
    | nil => exact ⟨rfl, rfl⟩
    | cons c rest =>
      have stop : p c = false := by simpa using ends
      simp [stop]
  | cons c text ih =>
    obtain ⟨taken, dropped⟩ := ih (fun d member => all d (List.mem_cons_of_mem _ member))
    have first : p c = true := all c (List.mem_cons_self ..)
    simp [first, taken, dropped]

theorem dropWhile_ends (p : UInt8 → Bool) (text : List UInt8) :
    (text.dropWhile p).head?.all (fun c => !p c) := by
  induction text with
  | nil => rfl
  | cons c text ih =>
    by_cases first : p c = true
    · simpa [first] using ih
    · simp [first]

/-! ## Bounded integers -/

/-- The loop in an integer that holds nothing beyond `limit`; `none` stands for an overflow. -/
def accumulate (limit : Nat) (digits : List UInt8) (v : Nat) : Option Nat :=
  match digits with
  | [] => some v
  | c :: rest =>
    if v * 10 + digit c ≤ limit then accumulate limit rest (v * 10 + digit c) else none

/-- The loop in an integer that stays at `limit` instead. -/
def saturate (limit : Nat) (digits : List UInt8) (v : Nat) : Nat :=
  match digits with
  | [] => v
  | c :: rest => saturate limit rest (min limit (v * 10 + digit c))

variable {limit v : Nat} {digits : List UInt8}

theorem accumulate_eq (within : v ≤ limit) :
    accumulate limit digits v =
      if valueFrom v digits ≤ limit then some (valueFrom v digits) else none := by
  induction digits generalizing v with
  | nil => simp [accumulate, valueFrom, within]
  | cons c rest ih =>
    rw [accumulate, valueFrom_cons]
    split
    · next fits => exact ih fits
    · next large =>
      have more : v * 10 + digit c ≤ valueFrom (v * 10 + digit c) rest := le_valueFrom rest
      rw [if_neg (by omega)]

theorem accumulate_value :
    accumulate limit digits 0 = if value digits ≤ limit then some (value digits) else none :=
  accumulate_eq (Nat.zero_le limit)

theorem saturate_eq (within : v ≤ limit) :
    saturate limit digits v = min limit (valueFrom v digits) := by
  induction digits generalizing v with
  | nil => simp [saturate, valueFrom, within]
  | cons c rest ih =>
    rw [saturate, valueFrom_cons, ih (Nat.min_le_left _ _)]
    by_cases fits : v * 10 + digit c ≤ limit
    · rw [Nat.min_eq_right fits]
    · have top : min limit (v * 10 + digit c) = limit := by omega
      have more : v * 10 + digit c ≤ valueFrom (v * 10 + digit c) rest := le_valueFrom rest
      have full : limit ≤ valueFrom limit rest := le_valueFrom rest
      rw [top]
      omega

theorem saturate_le (within : v ≤ limit) : saturate limit digits v ≤ limit := by
  rw [saturate_eq within]
  omega

/-! ## C's conversions -/

def isSpace (c : UInt8) : Bool := c == 32 || (9 ≤ c && c ≤ 13)

/-- Whether there is a minus sign, and the digits behind it. -/
def scan (text : List UInt8) : Bool × List UInt8 :=
  match text.dropWhile isSpace with
  | [] => (false, [])
  | c :: rest =>
    if c = 45 then (true, rest.takeWhile isDigit)
    else if c = 43 then (false, rest.takeWhile isDigit)
    else (false, (c :: rest).takeWhile isDigit)

abbrev Signed64 := {v : Int // -0x8000000000000000 ≤ v ∧ v < 0x8000000000000000}

def strtoll (text : List UInt8) : Signed64 :=
  if (scan text).1 then
    ⟨-(saturate 0x8000000000000000 (scan text).2 0 : Nat), by
      have within : saturate 0x8000000000000000 (scan text).2 0 ≤ 0x8000000000000000 :=
        saturate_le (Nat.zero_le _)
      omega⟩
  else
    ⟨(saturate 0x7FFFFFFFFFFFFFFF (scan text).2 0 : Nat), by
      have within : saturate 0x7FFFFFFFFFFFFFFF (scan text).2 0 ≤ 0x7FFFFFFFFFFFFFFF :=
        saturate_le (Nat.zero_le _)
      omega⟩

/-- A minus sign negates what fits. -/
def strtoull (text : List UInt8) : UInt64 :=
  match accumulate 0xFFFFFFFFFFFFFFFF (scan text).2 0 with
  | none => 0xFFFFFFFFFFFFFFFF
  | some v => if (scan text).1 then -UInt64.ofNat v else UInt64.ofNat v

example : (strtoll [32, 45, 49, 50, 120]).1 = -12 := by decide

end Decimal
