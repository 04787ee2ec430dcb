import ShadNet.Decimal
import Mathlib.Algebra.Group.Int.Defs
import Mathlib.Algebra.Group.Nat.Defs
import Mathlib.Data.Nat.Notation
import Mathlib.Tactic.ByContra

/-!
# Errors that a server reports

What `sendRequest` makes of a response: the status, the error body, the number behind its code key.
A value that `long long` does not hold is an overflow, and gives `none`.
-/

namespace NpWebApi.ErrorMapping

open Decimal

/-! ## The code of an error body -/

/-- `"code"`, with its quotes. -/
def codeKey : List UInt8 := [34, 99, 111, 100, 101, 34]

/-- What stands behind the first occurrence of the key. -/
def afterKey : List UInt8 → Option (List UInt8)
  | [] => none
  | c :: rest =>
    if codeKey.isPrefixOf (c :: rest) then some ((c :: rest).drop 6) else afterKey rest

def isGap (c : UInt8) : Bool := c = 32 || c = 58 || c = 34

/-- `neg`, and what follows the sign. -/
def afterSign : List UInt8 → Bool × List UInt8
  | [] => (false, [])
  | c :: rest => if c = 45 || c = 43 then (c = 45, rest) else (false, c :: rest)

/-- The sign and the digits behind the code key. -/
def codeText (body : List UInt8) : Option (Bool × List UInt8) :=
  match afterKey body with
  | none => none
  | some text =>
    let (neg, text) := afterSign (text.dropWhile isGap)
    let digits := text.takeWhile isDigit
    if digits = [] then none else some (neg, digits)

/-- The value `v` behind a sign. -/
def signed (neg : Bool) (v : Nat) : Int := if neg then -v else v

def maxLongLong : Nat := 2 ^ 63 - 1

def narrowed (v : Int) : Int := (BitVec.ofInt 32 v).toInt

/-- `parseErrorCode`; the inner `none` is `false`. -/
def parseErrorCode (body : List UInt8) : Option (Option Int) :=
  match codeText body with
  | none => some none
  | some (neg, digits) =>
    match accumulate maxLongLong digits 0 with
    | none => none
    | some v => some (some (narrowed (signed neg v)))

/-- `captureWebApiError`: what it returns, and `g_last_webapi_error` behind it. -/
def captureWebApiError (body : List UInt8) (lastError : Int) : Option (Int × Int) :=
  match parseErrorCode body with
  | none => none
  | some none => some (0, lastError)
  | some (some code) => some (code, code)

/-! ## The response -/

/-- The memory of the error object is null without a list. -/
structure ResponseInfo where
  httpStatus : Int
  errorObject : Option (List UInt8)
  errorObjectSize : Nat
  responseDataSize : Nat
  deriving DecidableEq, Repr

/-- What the HTTP library answers: a read that returns nothing, or an error, is an empty one. -/
structure Response where
  statusRc : Int
  status : Int
  reads : List (List UInt8)
  deriving DecidableEq, Repr

/-- The loop around `sceHttpReadData`. -/
def errBody : List (List UInt8) → List UInt8 → List UInt8
  | [], body => body
  | chunk :: rest, body =>
    if chunk = [] then body
    else if 64 * 1024 < (body ++ chunk).length then body ++ chunk
    else errBody rest (body ++ chunk)

def Response.body (response : Response) : List UInt8 := errBody response.reads []

def ResponseInfo.fill (body : List UInt8) (info : ResponseInfo) : ResponseInfo :=
  let info := { info with responseDataSize := body.length }
  match info.errorObject with
  | none => info
  | some memory =>
    if info.errorObjectSize = 0 then info
    else
      let n := min body.length (info.errorObjectSize - 1)
      { info with errorObject := some (body.take n ++ 0 :: memory.drop (n + 1)) }

def u32 (v : Int) : BitVec 32 := BitVec.ofInt 32 v

/-- `send_result` of a status from 400 on. -/
def errorResult (npErr status : Int) : BitVec 32 :=
  if 0 < npErr ∧ npErr < 0xc00000 then 0x82000000 ||| u32 npErr
  else if 100 ≤ status ∧ status < 600 then 0x82f00000 ||| u32 status
  else 0x82ffffff

structure Outcome where
  result : Int
  info : Option ResponseInfo
  lastError : Int
  deriving DecidableEq, Repr

/-- `sendRequest` behind a `sceHttpSendRequest` that went well. -/
def answered (flag : Int) (response : Response) (info : Option ResponseInfo) (lastError : Int) :
    Option Outcome :=
  if flag = 0 ∨ response.statusRc < 0 then some ⟨0, info, lastError⟩
  else
    let info := info.map ({ · with httpStatus := response.status })
    if response.status < 400 then some ⟨0, info, lastError⟩
    else
      match captureWebApiError response.body lastError with
      | none => none
      | some (npErr, lastError) =>
        some ⟨(errorResult npErr response.status).toInt, info.map (·.fill response.body), lastError⟩

/-! ## What it is for -/

/-- The integer behind the code key, in no particular number of bits. -/
def codeInteger (body : List UInt8) : Option Int :=
  match codeText body with
  | none => none
  | some (neg, digits) => some (signed neg (value digits))

def Fits (n : Int) : Prop := -2 ^ 31 ≤ n ∧ n < 2 ^ 31

def IsServerCode (n : Int) : Prop := 1 ≤ n ∧ n ≤ 0xbfffff

instance decidableIsServerCode (n : Int) : Decidable (IsServerCode n) :=
  inferInstanceAs (Decidable (1 ≤ n ∧ n ≤ 0xbfffff))

def serverCode (body : List UInt8) : Option Int := (codeInteger body).filter IsServerCode

/-- The error code that goes with a status and a body. -/
def expected (status : Int) (body : List UInt8) : Nat :=
  match serverCode body with
  | some n => 0x82000000 + n.toNat
  | none => if status < 600 then 0x82f00000 + status.toNat else 0x82ffffff

structure ParsesExactly (body : List UInt8) : Prop where
  noOverflow : parseErrorCode body ≠ none
  exact : ∀ n, parseErrorCode body = some (some n) → codeInteger body = some n
  large : ∀ n, codeInteger body = some n → ¬Fits n → parseErrorCode body = some none

/-- The call returns, with the negative code that goes with the response. -/
def MapsError (flag : Int) (response : Response) (info : Option ResponseInfo) (lastError : Int) :
    Prop :=
  ∃ outcome, answered flag response info lastError = some outcome ∧ outcome.result < 0 ∧
    outcome.result = (BitVec.ofNat 32 (expected response.status response.body)).toInt

/-- The low half of the number passes for a server code only when the number is one. -/
def SeenAsItIs (n : Int) : Prop :=
  n.natAbs < 2 ^ 63 ∧ (IsServerCode (n % 2 ^ 32) → IsServerCode n)

/-! ## Parsing -/

variable {body : List UInt8}

theorem narrowed_of_fits {n : Int} (fits : Fits n) : narrowed n = n := by
  obtain ⟨low, high⟩ := fits
  rw [narrowed, BitVec.toInt_ofInt]
  exact Int.bmod_eq_of_le (by omega) (by omega)

theorem natAbs_signed (neg : Bool) (v : Nat) : (signed neg v).natAbs = v := by
  rw [signed]
  split <;> omega

/-- The parser against the integer: the loop overflows when the integer does not fit, and only
then. -/
theorem parse_eq (body : List UInt8) :
    parseErrorCode body =
      match codeInteger body with
      | none => some none
      | some n => if n.natAbs < 2 ^ 63 then some (some (narrowed n)) else none := by
  rw [parseErrorCode, codeInteger]
  cases codeText body with
  | none => rfl
  | some found =>
    obtain ⟨neg, digits⟩ := found
    simp only [accumulate_value]
    by_cases fits : value digits ≤ maxLongLong
    · have small : (signed neg (value digits)).natAbs < 2 ^ 63 := by
        rw [maxLongLong] at fits
        rw [natAbs_signed]
        omega
      rw [if_pos fits, if_pos small]
    · have large : ¬(signed neg (value digits)).natAbs < 2 ^ 63 := by
        rw [maxLongLong] at fits
        rw [natAbs_signed]
        omega
      rw [if_neg fits, if_neg large]

theorem parse_some {n : Int} (found : codeInteger body = some n) :
    parseErrorCode body = if n.natAbs < 2 ^ 63 then some (some (narrowed n)) else none := by
  rw [parse_eq, found]

theorem parse_none (missing : codeInteger body = none) : parseErrorCode body = some none := by
  rw [parse_eq, missing]

theorem parsesExactly_iff (body : List UInt8) :
    ParsesExactly body ↔ ∀ n, codeInteger body = some n → Fits n := by
  constructor
  · intro parses n found
    by_contra large
    have refused := parses.large n found large
    rw [parse_some found] at refused
    split at refused <;> simp at refused
  · intro fits
    cases found : codeInteger body with
    | none =>
      have parsed := parse_none found
      exact ⟨by simp [parsed], by simp [parsed], by simp [found]⟩
    | some n =>
      have fit := fits n found
      have small : n.natAbs < 2 ^ 63 := by
        obtain ⟨low, high⟩ := fit
        omega
      have parsed : parseErrorCode body = some (some n) := by
        rw [parse_some found, if_pos small, narrowed_of_fits fit]
      exact ⟨by simp [parsed], by simp [parsed, found], by
        intro m same large
        rw [found] at same
        injection same with same
        exact absurd (same ▸ fit) large⟩

/-! ## The mapping -/

theorem u32_toNat {n : Int} (low : 0 ≤ n) (high : n < 2 ^ 32) : (u32 n).toNat = n.toNat := by
  rw [u32, BitVec.toNat_ofInt]
  have same : n % ((2 ^ 32 : Nat) : Int) = n := Int.emod_eq_of_lt low (by omega)
  rw [same]

/-- A number below the lowest bit of a mask is added to it. -/
theorem or_u32 {i a : Nat} {n : Int} (low : 0 ≤ n) (high : n.toNat < 2 ^ i)
    (within : 2 ^ i * a + n.toNat < 2 ^ 32) :
    BitVec.ofNat 32 (2 ^ i * a) ||| u32 n = BitVec.ofNat 32 (2 ^ i * a + n.toNat) := by
  have small : n < 2 ^ 32 := by
    have : n.toNat < 2 ^ 32 := by omega
    omega
  apply BitVec.eq_of_toNat_eq
  rw [BitVec.toNat_or, BitVec.toNat_ofNat, BitVec.toNat_ofNat, u32_toNat low small,
    Nat.mod_eq_of_lt within, Nat.mod_eq_of_lt (by omega), Nat.two_pow_add_eq_or_of_lt high]

/-- The number of the error code, from the number behind the key, or zero. -/
def resultCode (code status : Int) : Nat :=
  if IsServerCode code then 0x82000000 + code.toNat
  else if status < 600 then 0x82f00000 + status.toNat else 0x82ffffff

theorem errorResult_eq {npErr status : Int} (bad : 400 ≤ status) :
    errorResult npErr status = BitVec.ofNat 32 (resultCode npErr status) := by
  rw [errorResult, resultCode]
  by_cases code : IsServerCode npErr
  · obtain ⟨low, high⟩ := code
    rw [if_pos ⟨by omega, by omega⟩, if_pos ⟨low, high⟩]
    exact or_u32 (i := 25) (a := 65) (by omega) (by omega) (by omega)
  · have other : ¬(0 < npErr ∧ npErr < 0xc00000) := by
      rintro ⟨low, high⟩
      exact code ⟨by omega, by omega⟩
    rw [if_neg other, if_neg code]
    by_cases small : status < 600
    · rw [if_pos ⟨by omega, small⟩, if_pos small]
      exact or_u32 (i := 20) (a := 0x82f) (by omega) (by omega) (by omega)
    · rw [if_neg (by omega), if_neg small]
      rfl

theorem isServerCode_narrowed (n : Int) :
    IsServerCode (narrowed n) ↔ IsServerCode (n % 2 ^ 32) := by
  rw [narrowed, BitVec.toInt_ofInt, Int.bmod_def]
  simp only [IsServerCode]
  split <;> omega

theorem narrowed_of_serverCode {n : Int} (code : IsServerCode n) : narrowed n = n := by
  obtain ⟨low, high⟩ := code
  exact narrowed_of_fits ⟨by omega, by omega⟩

theorem resultCode_of_code {code : Int} (is : IsServerCode code) (status : Int) :
    resultCode code status = 0x82000000 + code.toNat := by rw [resultCode, if_pos is]

theorem resultCode_of_status {code : Int} (other : ¬IsServerCode code) (status : Int) :
    resultCode code status = if status < 600 then 0x82f00000 + status.toNat else 0x82ffffff := by
  rw [resultCode, if_neg other]

theorem resultCode_range {status : Int} (bad : 400 ≤ status) (code : Int) :
    2 ^ 31 ≤ resultCode code status ∧ resultCode code status < 2 ^ 32 := by
  by_cases is : IsServerCode code
  · rw [resultCode_of_code is]
    obtain ⟨low, high⟩ := is
    omega
  · rw [resultCode_of_status is]
    split <;> omega

theorem resultCode_narrowed {status : Int} (bad : 400 ≤ status) (n : Int) :
    resultCode (narrowed n) status = resultCode n status ↔
      (IsServerCode (n % 2 ^ 32) → IsServerCode n) := by
  rw [← isServerCode_narrowed]
  by_cases code : IsServerCode n
  · simp only [narrowed_of_serverCode code, code, implies_true]
  · by_cases other : IsServerCode (narrowed n)
    · rw [resultCode_of_code other, resultCode_of_status code]
      constructor
      · intro same
        obtain ⟨low, high⟩ := other
        split at same <;> omega
      · intro seen
        exact absurd (seen other) code
    · rw [resultCode_of_status other, resultCode_of_status code]
      simp only [other, false_implies]

theorem expected_none (missing : codeInteger body = none) (status : Int) :
    expected status body = resultCode 0 status := by
  simp [expected, serverCode, missing, resultCode, IsServerCode]

theorem expected_some {n : Int} (found : codeInteger body = some n) (status : Int) :
    expected status body = resultCode n status := by
  rw [expected, serverCode, found, resultCode, Option.filter_some]
  by_cases code : IsServerCode n
  · simp [code]
  · simp [code]

theorem toInt_neg {k : Nat} (low : 2 ^ 31 ≤ k) (high : k < 2 ^ 32) :
    (BitVec.ofNat 32 k).toInt < 0 := by
  rw [BitVec.toInt_eq_toNat_bmod, BitVec.toNat_ofNat, Int.bmod_def]
  split <;> omega

theorem toInt_ofNat_inj {j k : Nat} (small : j < 2 ^ 32) (small' : k < 2 ^ 32) :
    (BitVec.ofNat 32 j).toInt = (BitVec.ofNat 32 k).toInt ↔ j = k := by
  rw [BitVec.toInt_inj]
  constructor
  · intro same
    have values : (BitVec.ofNat 32 j).toNat = (BitVec.ofNat 32 k).toNat := by rw [same]
    rw [BitVec.toNat_ofNat, BitVec.toNat_ofNat] at values
    omega
  · rintro rfl
    rfl

variable {flag lastError : Int} {response : Response} {info : Option ResponseInfo}

/-- The answer to an error that the parser took for this code. -/
theorem answered_captured (info : Option ResponseInfo) (asked : flag ≠ 0)
    (known : 0 ≤ response.statusRc) (bad : 400 ≤ response.status) {code last : Int}
    (captured : captureWebApiError response.body lastError = some (code, last)) :
    ∃ outcome, answered flag response info lastError = some outcome ∧
      outcome.result = (BitVec.ofNat 32 (resultCode code response.status)).toInt := by
  have obtained : ¬(flag = 0 ∨ response.statusRc < 0) := by omega
  have high : ¬response.status < 400 := by omega
  rw [← errorResult_eq bad]
  simp only [answered, if_neg obtained, if_neg high, captured]
  exact ⟨_, rfl, rfl⟩

theorem mapsError_of_captured (asked : flag ≠ 0) (known : 0 ≤ response.statusRc)
    (bad : 400 ≤ response.status) {code last : Int}
    (captured : captureWebApiError response.body lastError = some (code, last)) :
    MapsError flag response info lastError ↔
      resultCode code response.status = expected response.status response.body := by
  obtain ⟨outcome, returned, result⟩ := answered_captured info asked known bad captured
  have range := resultCode_range bad code
  have wanted : expected response.status response.body < 2 ^ 32 := by
    cases found : codeInteger response.body with
    | none => exact expected_none found response.status ▸ (resultCode_range bad 0).2
    | some n => exact expected_some found response.status ▸ (resultCode_range bad n).2
  constructor
  · rintro ⟨outcome', returned', negative, same⟩
    rw [returned] at returned'
    injection returned' with returned'
    rw [← returned', result] at same
    exact (toInt_ofNat_inj range.2 wanted).mp same
  · intro same
    refine ⟨outcome, returned, ?_, ?_⟩
    · rw [result]
      exact toInt_neg range.1 range.2
    · rw [result, same]

theorem mapsError_iff (bad : 400 ≤ response.status) :
    MapsError flag response info lastError ↔
      flag ≠ 0 ∧ 0 ≤ response.statusRc ∧
        ∀ n, codeInteger response.body = some n → SeenAsItIs n := by
  by_cases obtained : flag = 0 ∨ response.statusRc < 0
  · have nothing : answered flag response info lastError = some ⟨0, info, lastError⟩ := by
      rw [answered, if_pos obtained]
    constructor
    · rintro ⟨outcome, returned, negative, -⟩
      rw [nothing] at returned
      injection returned with returned
      rw [← returned] at negative
      exact absurd negative (Int.lt_irrefl 0)
    · rintro ⟨asked, known, -⟩
      omega
  · have asked : flag ≠ 0 := by omega
    have known : 0 ≤ response.statusRc := by omega
    simp only [asked, known, ne_eq, not_false_eq_true, true_and]
    cases found : codeInteger response.body with
    | none =>
      have captured : captureWebApiError response.body lastError = some (0, lastError) := by
        rw [captureWebApiError, parse_none found]
      rw [mapsError_of_captured asked known bad captured, expected_none found]
      simp
    | some n =>
      by_cases small : n.natAbs < 2 ^ 63
      · have captured : captureWebApiError response.body lastError =
            some (narrowed n, narrowed n) := by
          rw [captureWebApiError, parse_some found, if_pos small]
        rw [mapsError_of_captured asked known bad captured, expected_some found,
          resultCode_narrowed bad]
        constructor
        · intro code m same
          injection same with same
          exact same ▸ ⟨small, code⟩
        · intro seen
          exact (seen n rfl).2
      · have captured : captureWebApiError response.body lastError = none := by
          rw [captureWebApiError, parse_some found, if_neg small]
        have overflow : answered flag response info lastError = none := by
          simp only [answered, if_neg obtained, captured]
          rw [if_neg (by omega)]
        constructor
        · rintro ⟨outcome, returned, -⟩
          simp [overflow] at returned
        · intro seen
          exact absurd (seen n rfl).1 small

/-! ## Both halves -/

/-- A body is parsed exactly when its integer fits. The mapping needs less: the integer has to fit
`long long`, and its low half may only pass for a server code when the integer is one. -/
theorem errors_exact_iff (body : List UInt8) (flag : Int) (response : Response)
    (info : Option ResponseInfo) (lastError : Int) (bad : 400 ≤ response.status) :
    (ParsesExactly body ↔ ∀ n, codeInteger body = some n → Fits n) ∧
      (MapsError flag response info lastError ↔
        flag ≠ 0 ∧ 0 ≤ response.statusRc ∧
          ∀ n, codeInteger response.body = some n → SeenAsItIs n) := by
  constructor
  · exact parsesExactly_iff body
  · exact mapsError_iff bad

/-- `{"error":{"code":2113537}}`. -/
def presenceError : List UInt8 :=
  [123, 34, 101, 114, 114, 111, 114, 34, 58, 123] ++ codeKey ++
    [58, 50, 49, 49, 51, 53, 51, 55, 125, 125]

theorem presence_error_is_mapped :
    ParsesExactly presenceError ∧ MapsError 1 ⟨0, 404, [presenceError]⟩ none 0 := by
  have integer : codeInteger presenceError = some 2113537 := by decide +kernel
  have read : Response.body ⟨0, 404, [presenceError]⟩ = presenceError := by decide +kernel
  have both := errors_exact_iff presenceError 1 ⟨0, 404, [presenceError]⟩ none 0 (by decide)
  constructor
  · apply both.1.mpr
    intro n found
    rw [integer] at found
    injection found with found
    rw [← found, Fits]
    omega
  · apply both.2.mpr
    refine ⟨by decide, by decide, fun n found => ?_⟩
    rw [read, integer] at found
    injection found with found
    rw [← found, SeenAsItIs]
    exact ⟨by decide, fun _ => ⟨by decide, by decide⟩⟩

/-- `"code":4294967297`. -/
def wideCode : List UInt8 := codeKey ++ [58, 52, 50, 57, 52, 57, 54, 55, 50, 57, 55]

/-- `"code":9999999999999999999`. -/
def overflowingCode : List UInt8 := codeKey ++ 58 :: List.replicate 19 57

/-- The first body passes for the server code 1, the second overflows the loop. -/
theorem wide_codes_are_lost :
    parseErrorCode wideCode = some (some 1) ∧ codeInteger wideCode = some 4294967297 ∧
      ¬ParsesExactly wideCode ∧
      answered 1 ⟨0, 404, [wideCode]⟩ none 0 =
        some ⟨(BitVec.ofNat 32 0x82000001).toInt, none, 1⟩ ∧
      expected 404 wideCode = 0x82f00194 ∧ ¬MapsError 1 ⟨0, 404, [wideCode]⟩ none 0 ∧
      parseErrorCode overflowingCode = none ∧ ¬ParsesExactly overflowingCode := by
  have parsed : parseErrorCode wideCode = some (some 1) := by decide +kernel
  have integer : codeInteger wideCode = some 4294967297 := by decide +kernel
  have overflow : parseErrorCode overflowingCode = none := by decide +kernel
  have returned : answered 1 ⟨0, 404, [wideCode]⟩ none 0 =
      some ⟨(BitVec.ofNat 32 0x82000001).toInt, none, 1⟩ := by decide +kernel
  have wanted : expected 404 wideCode = 0x82f00194 := by decide +kernel
  refine ⟨parsed, integer, ?_, returned, wanted, ?_, overflow, fun parses => ?_⟩
  · intro parses
    have same := parses.exact 1 parsed
    rw [integer] at same
    exact absurd same (by decide)
  · rintro ⟨outcome, found, -, result⟩
    rw [returned] at found
    injection found with found
    have same : (BitVec.ofNat 32 0x82000001).toInt =
        (BitVec.ofNat 32 (expected 404 wideCode)).toInt := by
      rw [← found] at result
      exact result
    rw [wanted] at same
    exact absurd same (by decide)
  · exact parses.noOverflow overflow

end NpWebApi.ErrorMapping
