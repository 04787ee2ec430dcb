import ShadNet.LockProgram
import Mathlib.Algebra.Group.Nat.Defs
import Mathlib.Data.BitVec
import Mathlib.Data.List.Infix
import Mathlib.Tactic.SplitIfs

/-!
# Reading a response

The calls of `sceNpWebApiReadData` on one request that is there. A request may have a few bytes of
its response in a buffer; the HTTP library has the rest. What the library answers is an input, and
so is whether the request is aborted or times out before a call and while the call reads.
-/

namespace NpWebApi.Reading

/-! ## The model -/

/-- `data`, `remaining_data` and `read_offset` of a request. -/
structure Buffer where
  data : List UInt8 := []
  remainingData : Nat := 0
  readOffset : Nat := 0
  inside : readOffset ≤ remainingData := by decide
  stored : remainingData ≤ data.length := by decide
  sized : data.length ≤ 64 := by decide

def Buffer.advance (b : Buffer) (size : Nat) (fits : size ≤ b.remainingData - b.readOffset) :
    Buffer where
  data := b.data
  remainingData := b.remainingData
  readOffset := b.readOffset + size
  inside := by have := b.inside; omega
  stored := b.stored
  sized := b.sized

/-- The bytes that are copied, and the buffer without them. -/
def copyRequestData (size : Nat) (b : Buffer) : List UInt8 × Buffer :=
  let copied := min (b.remainingData - b.readOffset) size
  ((b.data.drop b.readOffset).take copied, b.advance copied (Nat.min_le_left ..))

/-- What `sceHttpReadData` does: it fails with some negative code, or it reads at most so many
bytes besides the first. It reads nothing only at the end of the body. -/
inductive HttpRead where
  | error (code : Nat)
  | bytes (more : Nat)
  deriving DecidableEq, Repr

def HttpRead.fails : HttpRead → Bool
  | error _ => true
  | bytes _ => false

/-- What is read into `wanted` bytes of memory; the length is an `s32`. -/
def HttpRead.read (outcome : HttpRead) (wanted : Nat) (rest : List UInt8) : List UInt8 :=
  match outcome with
  | error _ => []
  | bytes more => rest.take (min (more + 1) (min wanted (2 ^ 31 - 1)))

def HttpRead.returned (outcome : HttpRead) (wanted : Nat) (rest : List UInt8) : Int :=
  match outcome with
  | error code => -(code + 1)
  | bytes _ => (outcome.read wanted rest).length

/-- What other threads do to the request. -/
inductive Interrupt where
  | none
  | abort
  | timeout
  deriving DecidableEq, Repr

structure Request where
  buffer : Buffer := {}
  aborted : Bool := false
  timedOut : Bool := false
  httpBody : List UInt8 := []

/-- A timeout aborts the request as well. -/
def Request.interrupt : Interrupt → Request → Request
  | .none, r => r
  | .abort, r => { r with aborted := true }
  | .timeout, r => { r with aborted := true, timedOut := true }

structure ReadCall where
  before : Interrupt := .none
  given : Bool := true
  size : Nat
  http : HttpRead := .bytes 0
  during : Interrupt := .none

def invalidArgument : Int := (BitVec.ofNat 32 0x80552902).toInt
def abortedOffset : BitVec 32 := 0x80552909
def timeout : Int := (BitVec.ofNat 32 0x8055291F).toInt

/-- What a call returns and has put into the memory of the caller. -/
structure Answer where
  code : Int
  stored : List UInt8 := []
  /-- The HTTP library was asked and failed. -/
  httpFailed : Bool := false

/-- The part between the copy and the final state resolution: the offset, and what is read. -/
def readRest (call : ReadCall) (copied : List UInt8) (r : Request) :
    BitVec 32 × Answer × Request :=
  let offset := BitVec.ofNat 32 copied.length
  let remainingSize := call.size - offset.toNat
  if remainingSize = 0 then (offset, { code := 0, stored := copied }, r)
  else if !r.timedOut && r.aborted then (abortedOffset, { code := 0, stored := copied }, r)
  else
    let httpRead := call.http.returned remainingSize r.httpBody
    let read := call.http.read remainingSize r.httpBody
    (offset + BitVec.ofInt 32 (if httpRead < 0 then 0 else httpRead),
      { code := 0, stored := copied ++ read, httpFailed := call.http.fails },
      { r with httpBody := r.httpBody.drop read.length })

def readDataInternal (call : ReadCall) (r : Request) : Answer × Request :=
  let (copied, buffer) := copyRequestData call.size r.buffer
  let (offset, answer, r) := readRest call copied { r with buffer }
  let r := r.interrupt call.during
  if r.timedOut then ({ answer with code := timeout }, r)
  else if r.aborted then ({ answer with code := abortedOffset.toInt }, r)
  else ({ answer with code := offset.toInt }, r)

def sceNpWebApiReadData (call : ReadCall) (r : Request) : Answer × Request :=
  let r := r.interrupt call.before
  if !call.given || call.size = 0 then ({ code := invalidArgument }, r.interrupt call.during)
  else readDataInternal call r

/-! ## Runs -/

/-- The bytes of the response that are not read yet. -/
def unread (r : Request) : List UInt8 :=
  (r.buffer.data.take r.buffer.remainingData).drop r.buffer.readOffset ++ r.httpBody

/-- A request, and the bytes that successful calls returned. -/
structure Reader where
  request : Request
  returned : List UInt8 := []

/-- The bytes that a call returns. -/
def Answer.bytes (answer : Answer) : List UInt8 := answer.stored.take answer.code.toNat

def readCall (call : ReadCall) (x : Reader) : Reader :=
  let read := sceNpWebApiReadData call x.request
  ⟨read.2, x.returned ++ read.1.bytes⟩

/-- The bytes returned so far are a prefix of the body. -/
def InOrder (body : List UInt8) (x : Reader) : Prop := x.returned <+: body

/-- What is asked of one call. -/
structure Reported (body : List UInt8) (call : ReadCall) (x x' : Reader) : Prop where
  zero : (sceNpWebApiReadData call x.request).1.code = 0 → x'.returned = body
  failed : (sceNpWebApiReadData call x.request).1.httpFailed = true →
    (sceNpWebApiReadData call x.request).1.code < 0
  interrupted : x'.request.aborted = true ∨ x'.request.timedOut = true →
    (sceNpWebApiReadData call x.request).1.code < 0

/-- Somebody aborts the request before the call returns, or has done so. -/
def Interrupted (call : ReadCall) (r : Request) : Prop :=
  r.aborted = true ∨ r.timedOut = true ∨ call.before ≠ .none ∨ call.during ≠ .none

/-- The HTTP library is not needed. -/
def Buffered (call : ReadCall) (r : Request) : Prop :=
  call.given = false ∨ call.size ≤ r.buffer.remainingData - r.buffer.readOffset

/-- A read of the HTTP library does not fail, and the number of bytes is an `s32`. -/
def Readable (call : ReadCall) (x : Reader) : Prop :=
  Interrupted call x.request ∨ Buffered call x.request ∨
    call.http.fails = false ∧
      x.request.buffer.remainingData - x.request.buffer.readOffset +
        (call.http.read (call.size -
          (x.request.buffer.remainingData - x.request.buffer.readOffset))
          x.request.httpBody).length < 2 ^ 31

/-! ## One call -/

section Call

variable {body : List UInt8} {call : ReadCall} {r : Request} {x : Reader}

theorem invalidArgument_neg : invalidArgument < 0 := by decide

theorem aborted_neg : abortedOffset.toInt < 0 := by decide

theorem timeout_neg : timeout < 0 := by decide

theorem copy_append (size : Nat) (b : Buffer) :
    (copyRequestData size b).1 ++
        ((copyRequestData size b).2.data.take (copyRequestData size b).2.remainingData).drop
          (copyRequestData size b).2.readOffset =
      (b.data.take b.remainingData).drop b.readOffset := by
  have inside := b.inside
  simp only [copyRequestData, Buffer.advance, List.drop_take]
  generalize taken : min (b.remainingData - b.readOffset) size = k
  have split : b.remainingData - b.readOffset = k + (b.remainingData - (b.readOffset + k)) := by
    omega
  rw [split, List.take_add, List.drop_drop]

theorem length_copy (size : Nat) (b : Buffer) :
    (copyRequestData size b).1.length = min (b.remainingData - b.readOffset) size := by
  have inside := b.inside
  have stored := b.stored
  simp only [copyRequestData, List.length_take, List.length_drop]
  omega

theorem length_copy_le (size : Nat) (b : Buffer) : (copyRequestData size b).1.length ≤ 64 := by
  have stored := b.stored
  have sized := b.sized
  rw [length_copy]
  omega

theorem length_read_le (outcome : HttpRead) (wanted : Nat) (rest : List UInt8) :
    (outcome.read wanted rest).length ≤ wanted := by
  cases outcome with
  | error code => exact Nat.zero_le _
  | bytes more =>
    simp only [HttpRead.read, List.length_take]
    omega

/-- The library reads nothing only at the end of the body. -/
theorem read_nil {outcome : HttpRead} {wanted : Nat} {rest : List UInt8}
    (good : outcome.fails = false) (positive : 0 < wanted)
    (nothing : outcome.read wanted rest = []) : rest = [] := by
  cases outcome with
  | error code => cases good
  | bytes more =>
    rw [HttpRead.read, List.take_eq_nil_iff] at nothing
    exact nothing.resolve_left (by omega)

theorem drop_read (outcome : HttpRead) (wanted : Nat) (rest : List UInt8) :
    outcome.read wanted rest ++ rest.drop (outcome.read wanted rest).length = rest := by
  cases outcome with
  | error code => rfl
  | bytes more =>
    have whole := List.take_append_drop (min (more + 1) (min wanted (2 ^ 31 - 1))) rest
    simp only [HttpRead.read, List.length_take]
    generalize min (more + 1) (min wanted (2 ^ 31 - 1)) = count at whole ⊢
    by_cases short : count ≤ rest.length
    · rwa [Nat.min_eq_left short]
    · have long : rest.length ≤ count := Nat.le_of_not_le short
      rw [Nat.min_eq_right long, List.drop_length, List.take_of_length_le long, List.append_nil]

/-- An offset that is a number of bytes. -/
theorem toInt_offset {count : Nat} (fits : count < 2 ^ 31) :
    (BitVec.ofNat 32 count).toInt = count := by
  rw [BitVec.toInt_eq_toNat_of_lt (by rw [BitVec.toNat_ofNat]; omega), BitVec.toNat_ofNat]
  omega

theorem offset_add (copied read : Nat) :
    BitVec.ofNat 32 copied + BitVec.ofInt 32 (read : Int) = BitVec.ofNat 32 (copied + read) := by
  rw [BitVec.ofInt_natCast, BitVec.ofNat_add]

/-- What the HTTP library adds to the bytes of the buffer. -/
def rest (call : ReadCall) (r : Request) : List UInt8 :=
  call.http.read (call.size - (copyRequestData call.size r.buffer).1.length) r.httpBody

/-- The request after the bytes of the buffer and of the HTTP library. -/
def advanced (call : ReadCall) (r : Request) : Request :=
  { r with
    buffer := (copyRequestData call.size r.buffer).2
    httpBody := r.httpBody.drop (rest call r).length }

theorem readRest_calm (calm : r.aborted = false)
    (good : call.size ≤ (copyRequestData call.size r.buffer).1.length ∨ call.http.fails = false) :
    readRest call (copyRequestData call.size r.buffer).1
        { r with buffer := (copyRequestData call.size r.buffer).2 } =
      (BitVec.ofNat 32 ((copyRequestData call.size r.buffer).1.length + (rest call r).length),
        { code := 0, stored := (copyRequestData call.size r.buffer).1 ++ rest call r },
        advanced call r) := by
  have short := length_copy_le call.size r.buffer
  have small : (BitVec.ofNat 32 (copyRequestData call.size r.buffer).1.length).toNat =
      (copyRequestData call.size r.buffer).1.length := by
    rw [BitVec.toNat_ofNat]
    omega
  by_cases full : call.size - (copyRequestData call.size r.buffer).1.length = 0
  · have nothing : rest call r = [] := by
      have bound := length_read_le call.http 0 r.httpBody
      rw [rest, full]
      exact List.length_eq_zero_iff.mp (by omega)
    simp only [readRest, small, full, if_true, nothing, List.append_nil, List.length_nil,
      Nat.add_zero, advanced, List.drop_zero]
  · have answers : call.http.fails = false := good.resolve_left (by omega)
    obtain ⟨more, bytes⟩ : ∃ more, call.http = .bytes more := by
      cases http : call.http with
      | error code => rw [http] at answers; cases answers
      | bytes more => exact ⟨more, rfl⟩
    have returned : call.http.returned (call.size -
        (copyRequestData call.size r.buffer).1.length) r.httpBody = ((rest call r).length : Int) := by
      rw [rest, bytes]
      rfl
    have positive : ¬((rest call r).length : Int) < 0 := by omega
    simp only [readRest, small, full, if_false, calm, Bool.and_false, Bool.false_eq_true, returned,
      positive, offset_add, answers]
    simp only [advanced, rest, calm]

/-- A call that nobody interrupts stores what comes next, and counts it. -/
theorem read_calm (calm : ¬Interrupted call r) (given : call.given = true) (size : call.size ≠ 0)
    (good : call.size ≤ (copyRequestData call.size r.buffer).1.length ∨ call.http.fails = false) :
    sceNpWebApiReadData call r =
      ({ code := (BitVec.ofNat 32 ((copyRequestData call.size r.buffer).1.length +
            (rest call r).length)).toInt
         stored := (copyRequestData call.size r.buffer).1 ++ rest call r }, advanced call r) := by
  simp only [Interrupted, not_or, not_not, Bool.not_eq_true] at calm
  obtain ⟨aborted, timedOut, before, during⟩ := calm
  have flags : (advanced call r).timedOut = false ∧ (advanced call r).aborted = false :=
    ⟨timedOut, aborted⟩
  simp only [sceNpWebApiReadData, readDataInternal, before, during, Request.interrupt, given, size,
    Bool.not_true, decide_false, Bool.or_self, Bool.false_eq_true, if_false,
    readRest_calm aborted good, flags]

/-- Somebody has stopped the request. -/
def Stopped (r : Request) : Prop := r.aborted = true ∨ r.timedOut = true

theorem Stopped.interrupt (stopped : Stopped r) (i : Interrupt) : Stopped (r.interrupt i) := by
  cases i with
  | none => exact stopped
  | abort => exact Or.inl rfl
  | timeout => exact Or.inl rfl

theorem stopped_interrupt {i : Interrupt} (some : i ≠ .none) : Stopped (r.interrupt i) := by
  cases i with
  | none => exact absurd rfl some
  | abort => exact Or.inl rfl
  | timeout => exact Or.inl rfl

theorem readRest_flags (call : ReadCall) (copied : List UInt8) (r : Request) :
    (readRest call copied r).2.2.aborted = r.aborted ∧
      (readRest call copied r).2.2.timedOut = r.timedOut := by
  simp only [readRest]
  split_ifs
  all_goals exact ⟨rfl, rfl⟩

/-- The final state resolution tells of a request that is stopped. -/
theorem readDataInternal_stopped
    (stopped : Stopped r ∨ call.during ≠ .none) :
    (readDataInternal call r).1.code < 0 ∧ Stopped (readDataInternal call r).2 := by
  have flags := readRest_flags call (copyRequestData call.size r.buffer).1
    { r with buffer := (copyRequestData call.size r.buffer).2 }
  have ends : Stopped ((readRest call (copyRequestData call.size r.buffer).1
      { r with buffer := (copyRequestData call.size r.buffer).2 }).2.2.interrupt call.during) := by
    rcases stopped with stopped | some
    · refine Stopped.interrupt ?_ _
      rw [Stopped, flags.1, flags.2]
      exact stopped
    · exact stopped_interrupt some
  simp only [readDataInternal]
  split_ifs with timedOut aborted
  · exact ⟨timeout_neg, ends⟩
  · exact ⟨aborted_neg, ends⟩
  · exact absurd ends (by simp [Stopped, timedOut, aborted])

/-- A call that somebody interrupts is an error, and the request stays stopped. -/
theorem read_interrupted (interrupted : Interrupted call r) :
    (sceNpWebApiReadData call r).1.code < 0 ∧ Stopped (sceNpWebApiReadData call r).2 := by
  have stopped : Stopped (r.interrupt call.before) ∨ call.during ≠ .none := by
    rcases interrupted with aborted | timedOut | before | during
    · exact Or.inl (Stopped.interrupt (Or.inl aborted) _)
    · exact Or.inl (Stopped.interrupt (Or.inr timedOut) _)
    · exact Or.inl (stopped_interrupt before)
    · exact Or.inr during
  simp only [sceNpWebApiReadData]
  split_ifs
  · refine ⟨invalidArgument_neg, ?_⟩
    rcases stopped with stopped | some
    · exact stopped.interrupt _
    · exact stopped_interrupt some
  · exact readDataInternal_stopped stopped

/-- A call that is turned down. -/
theorem read_refused (calm : ¬Interrupted call r) (refused : call.given = false ∨ call.size = 0) :
    sceNpWebApiReadData call r = ({ code := invalidArgument }, r) := by
  simp only [Interrupted, not_or, not_not] at calm
  obtain ⟨-, -, before, during⟩ := calm
  have turned : (!call.given || decide (call.size = 0)) = true := by
    rcases refused with null | empty
    · simp [null]
    · simp [empty]
  simp only [sceNpWebApiReadData, before, during, Request.interrupt, turned, if_true]

end Call

/-! ## Runs of calls -/

/-- What a run keeps: until somebody stops the request, nothing of the body is lost. -/
structure Kept (body : List UInt8) (x : Reader) : Prop where
  inOrder : x.returned <+: body
  whole : ¬Stopped x.request → x.returned ++ unread x.request = body

section Runs

variable {body : List UInt8} {call : ReadCall} {x : Reader}

/-- The library is asked only when the buffer is used up. -/
theorem unread_advanced (call : ReadCall) (r : Request) :
    ((copyRequestData call.size r.buffer).1 ++ rest call r) ++ unread (advanced call r) =
      unread r := by
  have buffered := copy_append call.size r.buffer
  have read := drop_read call.http (call.size - (copyRequestData call.size r.buffer).1.length)
    r.httpBody
  have copied := length_copy call.size r.buffer
  have stored := r.buffer.stored
  by_cases full : call.size ≤ (copyRequestData call.size r.buffer).1.length
  · have nothing : rest call r = [] := by
      have bound := length_read_le call.http
        (call.size - (copyRequestData call.size r.buffer).1.length) r.httpBody
      exact List.length_eq_zero_iff.mp (by rw [rest]; omega)
    simp only [unread, advanced, nothing, List.append_nil, List.length_nil, List.drop_zero,
      ← List.append_assoc, buffered]
  · have used : ((copyRequestData call.size r.buffer).2.data.take
        (copyRequestData call.size r.buffer).2.remainingData).drop
        (copyRequestData call.size r.buffer).2.readOffset = [] := by
      apply List.drop_eq_nil_of_le
      rw [List.length_take]
      simp only [copyRequestData, Buffer.advance]
      omega
    rw [used, List.append_nil] at buffered
    simp only [unread, advanced, used, List.nil_append, ← buffered, List.append_assoc, rest, read]

/-- A call that returns nothing finds nothing. -/
theorem unread_nil {r : Request} (size : call.size ≠ 0)
    (good : call.size ≤ (copyRequestData call.size r.buffer).1.length ∨ call.http.fails = false)
    (nothing : (copyRequestData call.size r.buffer).1.length + (rest call r).length = 0) :
    unread r = [] := by
  have copied := length_copy call.size r.buffer
  have stored := r.buffer.stored
  have read : rest call r = [] := List.length_eq_zero_iff.mp (by omega)
  have positive : 0 < call.size - (copyRequestData call.size r.buffer).1.length := by omega
  have empty : r.httpBody = [] := read_nil (good.resolve_left (by omega)) positive read
  rw [unread, empty, List.append_nil]
  apply List.drop_eq_nil_of_le
  rw [List.length_take]
  omega

/-- The number of bytes is an `s32` that the library does not spoil. -/
theorem Readable.fits (readable : Readable call x) (calm : ¬Interrupted call x.request)
    (given : call.given = true) :
    (call.size ≤ (copyRequestData call.size x.request.buffer).1.length ∨
        call.http.fails = false) ∧
      (copyRequestData call.size x.request.buffer).1.length + (rest call x.request).length <
        2 ^ 31 := by
  have copied := length_copy call.size x.request.buffer
  have short := length_copy_le call.size x.request.buffer
  have read := length_read_le call.http
    (call.size - (copyRequestData call.size x.request.buffer).1.length) x.request.httpBody
  rcases readable with interrupted | buffered | ⟨good, fits⟩
  · exact absurd interrupted calm
  · have full : call.size ≤ x.request.buffer.remainingData - x.request.buffer.readOffset :=
      buffered.resolve_left (by simp [given])
    rw [rest]
    omega
  · refine ⟨Or.inr good, ?_⟩
    by_cases full : call.size ≤ x.request.buffer.remainingData - x.request.buffer.readOffset
    · rw [rest]
      omega
    · have same : (copyRequestData call.size x.request.buffer).1.length =
          x.request.buffer.remainingData - x.request.buffer.readOffset := by omega
      rw [rest, same]
      exact fits

theorem readCall_keeps (call : ReadCall) (x : Reader) (kept : Kept body x)
    (readable : Readable call x) :
    Kept body (readCall call x) ∧ Reported body call x (readCall call x) := by
  by_cases interrupted : Interrupted call x.request
  · obtain ⟨error, stopped⟩ := read_interrupted interrupted
    have nothing : (readCall call x).returned = x.returned := by
      simp [readCall, Answer.bytes, Int.toNat_of_nonpos (Int.le_of_lt error)]
    refine ⟨⟨nothing ▸ kept.inOrder, fun going => absurd stopped going⟩, ?_, ?_, ?_⟩
    · intro zero
      exact absurd zero (by omega)
    · exact fun _ => error
    · exact fun _ => error
  · have going : ¬Stopped x.request := fun stopped => interrupted (by
      rcases stopped with aborted | timedOut
      · exact Or.inl aborted
      · exact Or.inr (Or.inl timedOut))
    by_cases asks : call.given = true ∧ call.size ≠ 0
    · obtain ⟨given, size⟩ := asks
      obtain ⟨good, fits⟩ := readable.fits interrupted given
      have same := read_calm interrupted given size good
      rw [toInt_offset fits] at same
      have split := unread_advanced call x.request
      have returned : (readCall call x).returned = x.returned ++
          ((copyRequestData call.size x.request.buffer).1 ++ rest call x.request) := by
        simp only [readCall, same, Answer.bytes, Int.toNat_natCast]
        rw [← List.length_append, List.take_length]
      have whole : (readCall call x).returned ++ unread (readCall call x).request = body := by
        rw [returned, List.append_assoc, readCall, same, split]
        exact kept.whole going
      refine ⟨⟨⟨_, whole⟩, fun _ => whole⟩, ?_, ?_, ?_⟩
      · intro zero
        rw [same] at zero
        have nothing : (copyRequestData call.size x.request.buffer).1.length +
            (rest call x.request).length = 0 := Int.natCast_eq_zero.mp zero
        have empty := unread_nil size good nothing
        rw [empty] at split
        have last : unread (readCall call x).request = [] := by
          rw [readCall, same]
          exact (List.append_eq_nil_iff.mp split).2
        rwa [last, List.append_nil] at whole
      · intro failed
        rw [same] at failed
        cases failed
      · intro stopped
        rw [readCall, same] at stopped
        exact absurd stopped going
    · have refused : call.given = false ∨ call.size = 0 := by
        by_cases given : call.given = true
        · exact Or.inr (by simpa [given] using asks)
        · exact Or.inl (by simpa using given)
      have same := read_refused interrupted refused
      have still : readCall call x = x := by
        simp [readCall, same, Answer.bytes, Int.toNat_of_nonpos (Int.le_of_lt invalidArgument_neg)]
      rw [still]
      refine ⟨kept, ?_, ?_, ?_⟩
      · intro zero
        rw [same] at zero
        exact absurd zero (Int.ne_of_lt invalidArgument_neg)
      · intro failed
        rw [same] at failed
        cases failed
      · exact fun stopped => absurd stopped going

end Runs

/-- The reads of a run whose HTTP reads succeed return the body in order, and every error is
told. -/
theorem reads_in_order (r : Request) (calls : List ReadCall)
    (readable : Runs.Admitted readCall Readable calls { request := r }) :
    Runs.Throughout readCall (InOrder (unread r)) (Reported (unread r)) calls { request := r } :=
  Runs.throughout_of_admitted (fun _ => Kept.inOrder) readCall_keeps
    ⟨List.nil_prefix, fun _ => rfl⟩ readable

/-- One byte from the buffer and one from the library, then the rest, then the end. -/
theorem reads_hello :
    let r : Request :=
      { buffer := { data := [104], remainingData := 1 }, httpBody := [101, 108, 108, 111] }
    Runs.Throughout readCall (InOrder (unread r)) (Reported (unread r))
      [{ size := 2 }, { size := 9, http := .bytes 5 }, { size := 9 }] { request := r } := by
  refine reads_in_order _ _ ⟨?_, ?_, ?_, trivial⟩
  · exact Or.inr (Or.inr (by decide))
  · exact Or.inr (Or.inr (by decide))
  · exact Or.inr (Or.inr (by decide))

/-- A read of the HTTP library that fails passes for the end of the body. -/
theorem failed_read_is_the_end :
    ¬Runs.Throughout readCall (InOrder (unread { httpBody := [1] }))
      (Reported (unread { httpBody := [1] })) [{ size := 4, http := .error 0 }]
      { request := { httpBody := [1] } } := by
  intro holds
  have told := holds.2.1.failed (by decide)
  exact absurd told (by decide)

end NpWebApi.Reading
