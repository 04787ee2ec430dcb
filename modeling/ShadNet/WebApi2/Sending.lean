import ShadNet.LockProgram
import ShadNet.WebApi2.Request
import Mathlib.Algebra.Group.Nat.Defs
import Mathlib.Tactic.SplitIfs

/-!
# Sending a body in chunks

The runs are sequences of calls of `SendHttpRequest` on one request. What a call offers counts
when the call returns no error.
-/

namespace NpWebApi2

open Request

structure SendCall where
  answers : SendAnswers := {}
  data : SendData

/-- A request with the data that was offered to it. -/
structure Exchange where
  request : Request
  offered : List UInt8 := []

def beginExchange (contentLength : BitVec 64) : Exchange := { request := { contentLength } }

def sendCall (call : SendCall) (x : Exchange) : Exchange :=
  let sent := sendHttpRequest call.answers call.data x.request
  ⟨sent.2, if sent.1 < 0 then x.offered else x.offered ++ call.data.bytes⟩

/-! ## What is asked of a run -/

/-- The library took the offered bytes in order, as many as the body has, and never got a null
pointer for bytes. -/
structure Delivered (x : Exchange) : Prop where
  inOrder : x.request.accepted = x.offered.take x.request.contentLength.toNat
  outOfData : x.request.outOfData = true ↔
    x.request.accepted.length = x.request.contentLength.toNat
  pointers : ∀ bytes size, .sendRequest true bytes size ∈ x.request.httpCalls → size = 0

structure Counts (call : SendCall) (x x' : Exchange) : Prop where
  empty : call.data.bytes = [] → x'.request.sentData = x.request.sentData
  failed : (sendHttpRequest call.answers call.data x.request).1 < 0 →
    x'.request.sentData = x.request.sentData ∧ x'.request.accepted = x.request.accepted

/-! ## When it is met -/

/-- The call fails before it comes to the data. -/
def FailsEarly (call : SendCall) (r : Request) : Prop :=
  r.contentLength ≠ 0 ∧ r.sentData = 0 ∧ call.answers.setContentLength < 0 ∨
    (call.data.isNull ∨ call.data.size = 0 ∨ r.contentLength = 0) ∧ call.answers.sendEmpty < 0

/-- A null pointer comes with bytes only when the body is complete, and the bytes of the body stay
below 2^31. -/
structure Sendable (call : SendCall) (x : Exchange) : Prop where
  pointer : call.data.isNull → call.data.size = 0 ∨
    x.request.contentLength.toNat ≤ x.request.accepted.length ∨ FailsEarly call x.request
  count : x.request.accepted.length + min call.data.bytes.length
      (x.request.contentLength.toNat - x.request.accepted.length) < 2 ^ 31 ∨
    FailsEarly call x.request ∨ call.answers.sendData < 0

/-! ## The counter -/

/-- The counter is the number of bytes that were taken. -/
structure Counted (r : Request) : Prop where
  counter : r.sentData = BitVec.ofNat 32 r.accepted.length
  small : r.accepted.length < 2 ^ 31
  room : r.accepted.length ≤ r.contentLength.toNat

section Step

variable {r : Request} {data : SendData} {answer result : Int}

theorem signExtend_ofNat {n : Nat} (small : n < 2 ^ 31) :
    (BitVec.ofNat 32 n).signExtend 64 = BitVec.ofNat 64 n := by
  have positive : (BitVec.ofNat 32 n).msb = false := by
    rw [BitVec.msb_eq_decide]
    simp only [BitVec.toNat_ofNat, decide_eq_false_iff_not, Nat.not_le]
    omega
  rw [BitVec.signExtend_eq_setWidth_of_msb_false positive]
  apply BitVec.eq_of_toNat_eq
  simp only [BitVec.toNat_setWidth, BitVec.toNat_ofNat]
  omega

theorem Counted.sent_toNat (counted : Counted r) :
    (r.sentData.signExtend 64).toNat = r.accepted.length := by
  have small := counted.small
  rw [counted.counter, signExtend_ofNat small, BitVec.toNat_ofNat]
  omega

theorem Counted.outOfData_iff (counted : Counted r) :
    r.outOfData = true ↔ r.accepted.length = r.contentLength.toNat := by
  rw [outOfData, beq_iff_eq, ← BitVec.toNat_inj, counted.sent_toNat]
  exact eq_comm

theorem toNat_size_of_given (given : data.isNull = false) :
    data.size.toNat = data.bytes.length := by
  cases data with
  | null size => cases given
  | buffer bytes fits =>
    simp only [SendData.size, SendData.bytes, BitVec.toNat_ofNat]
    exact Nat.mod_eq_of_lt fits

theorem bytes_of_null (null : data.isNull = true) : data.bytes = [] := by
  cases data with
  | null size => rfl
  | buffer bytes fits => cases null

/-! ## One call -/

/-- The request when the library has got more calls. -/
def after (calls : List HttpCall) (r : Request) : Request :=
  { r with httpCalls := r.httpCalls ++ calls }

/-- No null pointer for bytes. -/
def Harmless (calls : List HttpCall) : Prop :=
  ∀ bytes size, .sendRequest true bytes size ∈ calls → size = 0

theorem harmless_nil : Harmless [] := fun _ _ member => by cases member

theorem Harmless.append {first second : List HttpCall} (left : Harmless first)
    (right : Harmless second) : Harmless (first ++ second) := fun bytes size member =>
  (List.mem_append.mp member).elim (left bytes size) (right bytes size)

theorem harmless_length (contentLength : BitVec 64) :
    Harmless [.setRequestContentLength contentLength] := fun _ _ member => by
  cases List.mem_singleton.mp member

theorem harmless_empty : Harmless [.sendRequest true [] 0] := fun _ _ member => by
  cases List.mem_singleton.mp member
  rfl

theorem sendEmpty_cases (answers : SendAnswers) (data : SendData) {result : Int} (r : Request)
    (good : 0 ≤ result) :
    (((data.isNull ∨ data.size = 0 ∨ r.contentLength = 0) ∧ answers.sendEmpty < 0) ∧
        ∃ calls, Harmless calls ∧
          Request.sendEmpty answers data result r = (answers.sendEmpty, after calls r)) ∨
      (¬((data.isNull ∨ data.size = 0 ∨ r.contentLength = 0) ∧ answers.sendEmpty < 0) ∧
        ∃ calls result', Harmless calls ∧ 0 ≤ result' ∧
          Request.sendEmpty answers data result r =
            sendRest answers.sendData data result' (after calls r)) := by
  by_cases empty : data.isNull ∨ data.size = 0 ∨ r.contentLength = 0
  · by_cases fails : answers.sendEmpty < 0
    · refine Or.inl ⟨⟨empty, fails⟩, _, harmless_empty, ?_⟩
      simp only [Request.sendEmpty, empty, if_true, fails]
      rfl
    · refine Or.inr ⟨fun both => fails both.2, _, _, harmless_empty, Int.not_lt.mp fails, ?_⟩
      simp only [Request.sendEmpty, empty, if_true, fails, if_false]
      rfl
  · refine Or.inr ⟨fun both => empty both.1, _, _, harmless_nil, good, ?_⟩
    simp only [Request.sendEmpty, empty, if_false, after, List.append_nil]

/-- Either the call fails before it comes to the data, or it goes on to the last part. -/
theorem sendHttpRequest_cases (call : SendCall) (r : Request) :
    (FailsEarly call r ∧ ∃ calls result, Harmless calls ∧ result < 0 ∧
        sendHttpRequest call.answers call.data r = (result, after calls r)) ∨
      (¬FailsEarly call r ∧ ∃ calls result, Harmless calls ∧ 0 ≤ result ∧
        sendHttpRequest call.answers call.data r =
          sendRest call.answers.sendData call.data result (after calls r)) := by
  by_cases first : r.contentLength ≠ 0 ∧ r.sentData = 0
  · by_cases fails : call.answers.setContentLength < 0
    · refine Or.inl ⟨Or.inl ⟨first.1, first.2, fails⟩, _, _, harmless_length r.contentLength,
        fails, ?_⟩
      simp only [sendHttpRequest, first, fails, if_true, ne_eq, not_false_eq_true, and_self]
      rfl
    · have start : sendHttpRequest call.answers call.data r =
          Request.sendEmpty call.answers call.data call.answers.setContentLength
            (after [.setRequestContentLength r.contentLength] r) := by
        simp only [sendHttpRequest, first, fails, if_true, if_false, ne_eq, not_false_eq_true,
          and_self]
        rfl
      obtain ⟨early, calls, harmless, same⟩ | ⟨late, calls, result, harmless, good, same⟩ :=
        sendEmpty_cases call.answers call.data (after [.setRequestContentLength r.contentLength] r)
          (Int.not_lt.mp fails)
      · refine Or.inl ⟨Or.inr early, _, _,
          (harmless_length r.contentLength).append harmless, early.2, ?_⟩
        rw [start, same]
        simp only [after, List.append_assoc]
      · refine Or.inr ⟨?_, _, _,
          (harmless_length r.contentLength).append harmless, good, ?_⟩
        · rintro (length | empty)
          · exact fails length.2.2
          · exact late empty
        · rw [start, same]
          simp only [after, List.append_assoc]
  · have start : sendHttpRequest call.answers call.data r =
        Request.sendEmpty call.answers call.data 0 r := by
      rw [sendHttpRequest, if_neg first]
    obtain ⟨early, calls, harmless, same⟩ | ⟨late, calls, result, harmless, good, same⟩ :=
      sendEmpty_cases call.answers call.data r (Int.le_refl 0)
    · exact Or.inl ⟨Or.inr early, calls, _, harmless, early.2, start.trans same⟩
    · refine Or.inr ⟨?_, calls, result, harmless, good, start.trans same⟩
      rintro (length | empty)
      · exact first ⟨length.1, length.2.1⟩
      · exact late empty

/-- The size that is handed over. -/
def share (data : SendData) (r : Request) : Nat :=
  min data.size.toNat (r.contentLength.toNat - r.accepted.length)

theorem sendRest_complete (counted : Counted r)
    (complete : r.contentLength.toNat ≤ r.accepted.length) :
    sendRest answer data result r = (result, r) := by
  have stop : r.contentLength ≤ r.sentData.signExtend 64 := by
    rw [BitVec.le_def, counted.sent_toNat]
    exact complete
  simp only [sendRest, stop, if_true]

theorem sendRest_going (counted : Counted r) (going : r.accepted.length < r.contentLength.toNat) :
    sendRest answer data result r =
      let r' := after [.sendRequest data.isNull (data.bytes.take (share data r))
        (BitVec.ofNat 64 (share data r))] r
      if answer < 0 then (answer, r')
      else (answer, { r' with
        accepted := r.accepted ++ data.bytes.take (share data r)
        sentData := BitVec.ofNat 32 (r.accepted.length + share data r) }) := by
  have goes : ¬r.contentLength ≤ r.sentData.signExtend 64 := by
    rw [BitVec.le_def, counted.sent_toNat]
    omega
  have fits := r.contentLength.isLt
  have sent := counted.sent_toNat
  have left : (r.contentLength - r.sentData.signExtend 64).toNat =
      r.contentLength.toNat - r.accepted.length := by
    rw [BitVec.toNat_sub, sent]
    omega
  have size : (if data.size < r.contentLength - r.sentData.signExtend 64 then data.size
      else r.contentLength - r.sentData.signExtend 64) = BitVec.ofNat 64 (share data r) := by
    apply BitVec.eq_of_toNat_eq
    have bound := data.size.isLt
    by_cases short : data.size < r.contentLength - r.sentData.signExtend 64
    · rw [if_pos short]
      rw [BitVec.lt_def, left] at short
      simp only [share, BitVec.toNat_ofNat]
      omega
    · rw [if_neg short, left]
      rw [BitVec.lt_def, left] at short
      simp only [share, BitVec.toNat_ofNat]
      omega
  have whole : share data r < 2 ^ 64 := by
    have bound := data.size.isLt
    simp only [share]
    omega
  have sum : (r.sentData.signExtend 64 + BitVec.ofNat 64 (share data r)).setWidth 32 =
      BitVec.ofNat 32 (r.accepted.length + share data r) := by
    apply BitVec.eq_of_toNat_eq
    simp only [BitVec.toNat_setWidth, BitVec.toNat_add, sent, BitVec.toNat_ofNat]
    omega
  simp only [sendRest, callHttp, after, goes, if_false, size, sum, BitVec.toNat_ofNat,
    Nat.mod_eq_of_lt whole]

/-- A pointer with as many bytes as it says. -/
def Honest (data : SendData) : Prop := data.isNull → data.size = 0

theorem toNat_size_of_honest (honest : Honest data) : data.size.toNat = data.bytes.length := by
  cases null : data.isNull with
  | true => simp [honest null, bytes_of_null null]
  | false => exact toNat_size_of_given null

theorem take_share (honest : Honest data) {offered : List UInt8}
    (inOrder : r.accepted = offered.take r.contentLength.toNat)
    (going : r.accepted.length < r.contentLength.toNat) :
    r.accepted ++ data.bytes.take (share data r) =
      (offered ++ data.bytes).take r.contentLength.toNat := by
  have whole : r.accepted = offered := by
    have size := congrArg List.length inOrder
    rw [List.length_take] at size
    exact inOrder.trans (List.take_of_length_le (by omega))
  rw [← whole, List.take_append, List.take_of_length_le (Nat.le_of_lt going), share,
    toNat_size_of_honest honest, Nat.min_comm, ← List.take_take, List.take_length]

end Step

/-! ## Runs -/

/-- What a run keeps. -/
structure Kept (x : Exchange) : Prop where
  counted : Counted x.request
  inOrder : x.request.accepted = x.offered.take x.request.contentLength.toNat
  pointers : Harmless x.request.httpCalls

theorem Kept.delivered {x : Exchange} (kept : Kept x) : Delivered x :=
  ⟨kept.inOrder, kept.counted.outOfData_iff, kept.pointers⟩

theorem kept_start (contentLength : BitVec 64) : Kept (beginExchange contentLength) where
  counted := ⟨rfl, Nat.pow_pos (by decide), Nat.zero_le _⟩
  inOrder := by simp [beginExchange]
  pointers := harmless_nil

section Runs

variable {call : SendCall} {x : Exchange} {calls : List HttpCall} {result : Int}

theorem Kept.after (kept : Kept x) (harmless : Harmless calls) :
    Kept ⟨after calls x.request, x.offered⟩ where
  counted := ⟨kept.counted.counter, kept.counted.small, kept.counted.room⟩
  inOrder := kept.inOrder
  pointers := kept.pointers.append harmless

/-- A call that moves nothing. -/
theorem keeps_still (result : Int) (kept : Kept x) (harmless : Harmless calls)
    (same : sendHttpRequest call.answers call.data x.request =
      (result, NpWebApi2.after calls x.request))
    (complete : result < 0 ∨ x.request.contentLength.toNat ≤ x.request.accepted.length) :
    Kept (sendCall call x) ∧ Counts call x (sendCall call x) := by
  have later := kept.after harmless
  constructor
  · by_cases fails : result < 0
    · simpa only [sendCall, same, fails, if_true] using later
    · have full := complete.resolve_left fails
      simp only [sendCall, same, fails, if_false]
      refine ⟨later.counted, ?_, later.pointers⟩
      have size := congrArg List.length kept.inOrder
      rw [List.length_take] at size
      have enough : x.request.contentLength.toNat ≤ x.offered.length := by omega
      exact kept.inOrder.trans (List.take_append_of_le_length enough).symm
  · constructor
    · intro _
      simp only [sendCall, same]
      rfl
    · intro _
      simp only [sendCall, same]
      exact ⟨rfl, rfl⟩

theorem share_after (data : SendData) (r : Request) :
    share data (NpWebApi2.after calls r) = share data r := rfl

theorem share_le (data : SendData) (r : Request) :
    share data r ≤ r.contentLength.toNat - r.accepted.length := Nat.min_le_right ..

theorem length_share {data : SendData} {r : Request} (honest : Honest data) :
    (data.bytes.take (share data r)).length = share data r := by
  have size := toNat_size_of_honest honest
  rw [List.length_take, share]
  omega

theorem harmless_share {data : SendData} {r : Request} (honest : Honest data) :
    Harmless [.sendRequest data.isNull (data.bytes.take (share data r))
      (BitVec.ofNat 64 (share data r))] := by
  intro bytes size member
  cases null : data.isNull with
  | false =>
    rw [null] at member
    cases List.mem_singleton.mp member
  | true =>
    have nothing : share data r = 0 := by simp [share, honest null]
    rw [null, nothing] at member
    cases List.mem_singleton.mp member
    rfl

/-- A call that hands over its share. -/
theorem keeps_moving (kept : Kept x) (honest : Honest call.data) (harmless : Harmless calls)
    (going : x.request.accepted.length < x.request.contentLength.toNat)
    (small : x.request.accepted.length + share call.data x.request < 2 ^ 31) (good : 0 ≤ result)
    (same : sendHttpRequest call.answers call.data x.request =
      (result, { NpWebApi2.after calls x.request with
        accepted := x.request.accepted ++ call.data.bytes.take (share call.data x.request)
        sentData := BitVec.ofNat 32
          (x.request.accepted.length + share call.data x.request) })) :
    Kept (sendCall call x) ∧ Counts call x (sendCall call x) := by
  have length := length_share (r := x.request) honest
  have bound := share_le call.data x.request
  constructor
  · simp only [sendCall, same, Int.not_lt.mpr good, if_false]
    refine ⟨⟨?_, ?_, ?_⟩, take_share honest kept.inOrder going, kept.pointers.append harmless⟩
    · simp only [List.length_append, length]
    · simpa only [List.length_append, length] using small
    · simp only [NpWebApi2.after, List.length_append, length]
      omega
  · constructor
    · intro empty
      have nothing : share call.data x.request = 0 := by
        rw [empty] at length
        simpa using length.symm
      simp only [sendCall, same, nothing, Nat.add_zero]
      exact kept.counted.counter.symm
    · intro fails
      rw [same] at fails
      exact absurd good (Int.not_le.mpr fails)

theorem sendCall_keeps (call : SendCall) (x : Exchange) (kept : Kept x)
    (sendable : Sendable call x) : Kept (sendCall call x) ∧ Counts call x (sendCall call x) := by
  obtain ⟨_, calls, result, harmless, fails, same⟩ | ⟨late, calls, result, harmless, good, same⟩ :=
    sendHttpRequest_cases call x.request
  · exact keeps_still result kept harmless same (Or.inl fails)
  · have later := kept.after harmless
    by_cases going : x.request.accepted.length < x.request.contentLength.toNat
    · have honest : Honest call.data := fun null => (sendable.pointer null).resolve_right (by
        rintro (complete | early)
        · omega
        · exact late early)
      have all := harmless.append (harmless_share (r := x.request) honest)
      rw [sendRest_going later.counted going] at same
      simp only [share_after] at same
      by_cases fails : call.answers.sendData < 0
      · refine keeps_still call.answers.sendData kept all ?_ (Or.inl fails)
        simp only [fails, if_true] at same
        simpa only [NpWebApi2.after, List.append_assoc] using same
      · have small : x.request.accepted.length + share call.data x.request < 2 ^ 31 := by
          have count := sendable.count.resolve_right (by
            rintro (early | refused)
            · exact late early
            · exact fails refused)
          rwa [share, toNat_size_of_honest honest]
        refine keeps_moving kept honest all going small (Int.not_lt.mp fails) ?_
        simp only [fails, if_false] at same
        simpa only [NpWebApi2.after, List.append_assoc] using same
    · rw [sendRest_complete later.counted (Nat.not_lt.mp going)] at same
      exact keeps_still result kept harmless same (Or.inr (Nat.not_lt.mp going))

end Runs

/-- A run whose calls are sendable hands the body over, whatever the library answers. -/
theorem delivered_of_sendable (contentLength : BitVec 64) (calls : List SendCall)
    (sendable : Runs.Admitted sendCall Sendable calls (beginExchange contentLength)) :
    Runs.Throughout sendCall Delivered Counts calls (beginExchange contentLength) :=
  Runs.throughout_of_admitted (fun _ => Kept.delivered)
    (fun call x kept ok => sendCall_keeps call x kept ok) (kept_start contentLength) sendable

/-- Two chunks, the second with more bytes than are left. -/
theorem delivered_in_two :
    Runs.Throughout sendCall Delivered Counts
      [{ data := .buffer [1, 2, 3] (by decide) }, { data := .buffer [4, 5, 6] (by decide) }]
      (beginExchange 5) := by
  refine delivered_of_sendable 5 _ ⟨⟨?_, ?_⟩, ⟨?_, ?_⟩, trivial⟩
  · intro null
    cases null
  · exact Or.inl (by decide)
  · intro null
    cases null
  · exact Or.inl (by decide)

/-- A null pointer for five bytes is handed to the library, and counted. -/
theorem null_data_is_sent :
    ¬Runs.Throughout sendCall Delivered Counts [{ data := .null 5 }] (beginExchange 5) := by
  intro holds
  have given := holds.2.2.pointers [] 5 (by decide)
  exact absurd given (by decide)

end NpWebApi2
