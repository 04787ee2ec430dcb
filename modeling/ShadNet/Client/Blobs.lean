import ShadNet.Client.State

/-!
# Four readers of length-prefixed blobs

A blob stands behind a 32-bit length field. Four places read one, and each checks
in arithmetic of its own that the payload reaches as far as the field says: in
signed 32-bit sums, in unsigned 32-bit sums, in 64-bit sums and by subtraction.
-/

namespace ShadNetClient

/-- What becomes of a blob; `outside` is a range that is not all in the payload. -/
inductive Blob where
  | rejected
  | accepted (bytes : List UInt8)
  | outside
  deriving DecidableEq, Repr

/-- `len` bytes from `start` on are handed over. -/
def handOver (p : List UInt8) (start len : Nat) : Blob :=
  if start + len ≤ p.length then .accepted ((p.drop start).take len) else .outside

/-- The value of the bits as an `s32`. -/
def s32 (n : BitVec 32) : Int := n.toInt

/-- `ParseFromArray` takes its size as an `int`; a negative one is no size. -/
def parseFromArray (p : List UInt8) (start : Nat) (size : Int) : Blob :=
  if size < 0 then .outside else handOver p start size.toNat

/-! ### The readers -/

/-- `ShadNetClient::ExtractBlob`, whose sums are sums of `s32`. -/
def readBlob (p : List UInt8) (pos : Nat) : Blob :=
  if s32 (.ofNat 32 p.length) < s32 (.ofNat 32 pos + 4) then .rejected
  else
    let len := getLE32 p pos
    if s32 (.ofNat 32 p.length) < s32 (.ofNat 32 (pos + 4) + len.toBitVec) then .rejected
    else handOver p (pos + 4) len.toNat

/-- `ExtractProtoBytes` of matching2, whose sums are sums of `u64`. -/
def extractProtoBytes (payload : List UInt8) (offset : Nat) : Blob :=
  if payload.length < offset + 4 then .rejected
  else
    let len := getLE32 payload offset
    if payload.length < offset + 4 + len.toNat then .rejected
    else handOver payload (offset + 4) len.toNat

/-- The blob in `OnTrophyReply`; `4 + blob_sz` is a `u32`. -/
def trophyReplyBlob (body : List UInt8) : Blob :=
  if body.length < 4 then .rejected
  else
    let blobSz := getLE32 body 0
    if body.length < (4 + blobSz).toNat then .rejected
    else parseFromArray body 4 (s32 blobSz.toBitVec)

/-- The blob in `OnAuthReply`. -/
def authReplyBlob (body : List UInt8) : Blob :=
  if body.length < 4 then .rejected
  else
    let blobSz := getLE32 body 0
    if body.length - 4 < blobSz.toNat then .rejected
    else parseFromArray body 4 (s32 blobSz.toBitVec)

/-! ### The exact reader -/

/-- The blob is there when the field and as many bytes as it says remain. -/
def exactBlob (p : List UInt8) (pos : Nat) : Blob :=
  if pos + 4 + (getLE32 p pos).toNat ≤ p.length then
    .accepted ((p.drop (pos + 4)).take (getLE32 p pos).toNat)
  else .rejected

theorem exactBlob_ne_outside (p : List UInt8) (pos : Nat) : exactBlob p pos ≠ .outside := by
  rw [exactBlob]
  split <;> simp

theorem exactBlob_short {p : List UInt8} {pos : Nat} (short : p.length < pos + 4) :
    exactBlob p pos = .rejected := by
  rw [exactBlob, if_neg (by omega)]

theorem handOver_exact {p : List UInt8} {pos : Nat}
    (room : pos + 4 + (getLE32 p pos).toNat ≤ p.length) :
    handOver p (pos + 4) (getLE32 p pos).toNat = exactBlob p pos := by
  rw [handOver, exactBlob, if_pos room, if_pos room]

theorem handOver_outside {p : List UInt8} {start len : Nat} (beyond : p.length < start + len) :
    handOver p start len = .outside := by
  rw [handOver, if_neg (by omega)]

theorem extractProtoBytes_exact (p : List UInt8) (pos : Nat) :
    extractProtoBytes p pos = exactBlob p pos := by
  by_cases short : p.length < pos + 4
  · rw [extractProtoBytes, if_pos short, exactBlob_short short]
  · by_cases room : p.length < pos + 4 + (getLE32 p pos).toNat
    · rw [extractProtoBytes, if_neg short, if_pos room, exactBlob, if_neg (by omega)]
    · rw [extractProtoBytes, if_neg short, if_neg room, handOver_exact (by omega)]

theorem s32_small {n : BitVec 32} (small : n.toNat < 2 ^ 31) : s32 n = n.toNat := by
  rw [s32, BitVec.toInt_eq_toNat_cond]
  omega

theorem s32_large {n : BitVec 32} (large : 2 ^ 31 ≤ n.toNat) : s32 n = n.toNat - 2 ^ 32 := by
  rw [s32, BitVec.toInt_eq_toNat_cond]
  omega

theorem parseFromArray_small {p : List UInt8} {start : Nat} {len : UInt32}
    (small : len.toNat < 2 ^ 31) :
    parseFromArray p start (s32 len.toBitVec) = handOver p start len.toNat := by
  rw [parseFromArray, s32_small small, if_neg (by omega)]
  rfl

theorem parseFromArray_outside {p : List UInt8} {start : Nat} {len : UInt32}
    (beyond : p.length < start + len.toNat) :
    parseFromArray p start (s32 len.toBitVec) = .outside := by
  by_cases small : len.toNat < 2 ^ 31
  · rw [parseFromArray_small small, handOver_outside beyond]
  · have large : 2 ^ 31 ≤ len.toBitVec.toNat := Nat.not_lt.mp small
    have bound := len.toBitVec.isLt
    rw [parseFromArray, s32_large large, if_pos (by omega)]

/-! ### Where the readers go wrong -/

section Bounds

variable {p : List UInt8} (fits : p.length ≤ shadMaxPacketSize)
include fits

theorem authReplyBlob_exact : authReplyBlob p = exactBlob p 0 := by
  rw [shadMaxPacketSize] at fits
  by_cases short : p.length < 4
  · rw [authReplyBlob, if_pos short, exactBlob_short (by omega)]
  · by_cases room : p.length - 4 < (getLE32 p 0).toNat
    · rw [authReplyBlob, if_neg short, if_pos room, exactBlob, if_neg (by omega)]
    · rw [authReplyBlob, if_neg short, if_neg room, parseFromArray_small (by omega)]
      exact handOver_exact (by omega)

/-- `4 + blob_sz` wraps round for the last four sizes. -/
theorem trophyReplyBlob_exact_iff :
    trophyReplyBlob p = exactBlob p 0 ↔ (4 ≤ p.length → (getLE32 p 0).toNat < 2 ^ 32 - 4) := by
  rw [shadMaxPacketSize] at fits
  by_cases short : p.length < 4
  · rw [trophyReplyBlob, if_pos short, exactBlob_short (by omega)]
    exact iff_of_true rfl (fun whole => absurd short (by omega))
  · rw [imp_iff_right (by omega)]
    have sum : (4 + getLE32 p 0).toNat = (4 + (getLE32 p 0).toNat) % 2 ^ 32 := UInt32.toNat_add ..
    have bound := (getLE32 p 0).toNat_lt
    by_cases wraps : (getLE32 p 0).toNat < 2 ^ 32 - 4
    · refine iff_of_true ?_ wraps
      by_cases room : p.length < 4 + (getLE32 p 0).toNat
      · rw [trophyReplyBlob, if_neg short, if_pos (by omega), exactBlob, if_neg (by omega)]
      · rw [trophyReplyBlob, if_neg short, if_neg (by omega), parseFromArray_small (by omega)]
        exact handOver_exact (by omega)
    · refine iff_of_false ?_ wraps
      rw [trophyReplyBlob, if_neg short, if_neg (by omega), parseFromArray_outside (by omega)]
      exact (exactBlob_ne_outside p 0).symm

/-- From 2^31 on the signed sum is negative, whether it wraps round or not, and passes the test. -/
theorem readBlob_eq {pos : Nat} (inside : pos ≤ p.length) :
    readBlob p pos = if p.length < pos + 4 then .rejected
      else if pos + 4 + (getLE32 p pos).toNat < 2 ^ 31 then exactBlob p pos else .outside := by
  rw [shadMaxPacketSize] at fits
  have length : s32 (.ofNat 32 p.length) = p.length := by
    rw [s32_small (by rw [BitVec.toNat_ofNat]; omega), BitVec.toNat_ofNat]
    omega
  have start : s32 (.ofNat 32 pos + 4) = pos + 4 := by
    have sum : (BitVec.ofNat 32 pos + 4).toNat = (pos % 2 ^ 32 + 4) % 2 ^ 32 := by
      rw [BitVec.toNat_add, BitVec.toNat_ofNat]
      rfl
    rw [s32_small (by omega), sum]
    omega
  have sum : (BitVec.ofNat 32 (pos + 4) + (getLE32 p pos).toBitVec).toNat =
      (pos + 4 + (getLE32 p pos).toNat) % 2 ^ 32 := by
    rw [BitVec.toNat_add, BitVec.toNat_ofNat, Nat.mod_add_mod]
    rfl
  have bound := (getLE32 p pos).toNat_lt
  simp only [readBlob, length, start]
  by_cases short : p.length < pos + 4
  · rw [if_pos (by omega), if_pos short]
  · rw [if_neg (by omega), if_neg short]
    by_cases small : pos + 4 + (getLE32 p pos).toNat < 2 ^ 31
    · rw [if_pos small, s32_small (by omega), sum]
      by_cases room : p.length < pos + 4 + (getLE32 p pos).toNat
      · rw [if_pos (by omega), exactBlob, if_neg (by omega)]
      · rw [if_neg (by omega)]
        exact handOver_exact (by omega)
    · have passes : s32 (.ofNat 32 (pos + 4) + (getLE32 p pos).toBitVec) ≤ p.length := by
        by_cases low : (pos + 4 + (getLE32 p pos).toNat) % 2 ^ 32 < 2 ^ 31
        · rw [s32_small (by omega), sum]
          omega
        · rw [s32_large (by omega), sum]
          omega
      rw [if_neg (by omega), if_neg small, handOver_outside (by omega)]

theorem readBlob_exact_iff {pos : Nat} (inside : pos ≤ p.length) :
    readBlob p pos = exactBlob p pos ↔
      (pos + 4 ≤ p.length → pos + 4 + (getLE32 p pos).toNat < 2 ^ 31) := by
  rw [readBlob_eq fits inside]
  by_cases short : p.length < pos + 4
  · rw [if_pos short, exactBlob_short short]
    exact iff_of_true rfl (fun whole => absurd short (by omega))
  · rw [if_neg short, imp_iff_right (by omega)]
    by_cases small : pos + 4 + (getLE32 p pos).toNat < 2 ^ 31
    · rw [if_pos small]
      exact iff_of_true rfl small
    · rw [if_neg small]
      exact iff_of_false (exactBlob_ne_outside p pos).symm small

/-- The four readers are the exact one, where their sums do not wrap round. -/
theorem blob_readers_exact_iff {pos : Nat} (inside : pos ≤ p.length) :
    (readBlob p pos = exactBlob p pos ∧ extractProtoBytes p pos = exactBlob p pos ∧
      trophyReplyBlob p = exactBlob p 0 ∧ authReplyBlob p = exactBlob p 0) ↔
    (pos + 4 ≤ p.length → pos + 4 + (getLE32 p pos).toNat < 2 ^ 31) ∧
      (4 ≤ p.length → (getLE32 p 0).toNat < 2 ^ 32 - 4) := by
  rw [readBlob_exact_iff fits inside, trophyReplyBlob_exact_iff fits]
  have proto := extractProtoBytes_exact p pos
  have auth := authReplyBlob_exact fits
  constructor
  · rintro ⟨blob, -, trophy, -⟩
    exact ⟨blob, trophy⟩
  · rintro ⟨blob, trophy⟩
    exact ⟨blob, proto, trophy, auth⟩

end Bounds

theorem blob_readers_exact_iff_one_byte :
    (readBlob [1, 0, 0, 0, 7] 0 = exactBlob [1, 0, 0, 0, 7] 0 ∧
      extractProtoBytes [1, 0, 0, 0, 7] 0 = exactBlob [1, 0, 0, 0, 7] 0 ∧
      trophyReplyBlob [1, 0, 0, 0, 7] = exactBlob [1, 0, 0, 0, 7] 0 ∧
      authReplyBlob [1, 0, 0, 0, 7] = exactBlob [1, 0, 0, 0, 7] 0) ↔
    (0 + 4 ≤ 5 → 0 + 4 + (getLE32 [1, 0, 0, 0, 7] 0).toNat < 2 ^ 31) ∧
      (4 ≤ 5 → (getLE32 [1, 0, 0, 0, 7] 0).toNat < 2 ^ 32 - 4) :=
  blob_readers_exact_iff (by decide) (by decide)

/-- A length of 2^32 - 1 and nothing behind it: two readers go outside the payload. -/
theorem blob_readers_differ :
    ¬∀ (p : List UInt8) (pos : Nat), p.length ≤ shadMaxPacketSize → pos ≤ p.length →
      readBlob p pos = exactBlob p pos ∧ extractProtoBytes p pos = exactBlob p pos ∧
        trophyReplyBlob p = exactBlob p 0 ∧ authReplyBlob p = exactBlob p 0 := by
  intro exact_
  have readers := exact_ [255, 255, 255, 255] 0 (by decide) (by decide)
  have blob : readBlob [255, 255, 255, 255] 0 = .outside := by decide
  have trophy : trophyReplyBlob [255, 255, 255, 255] = .outside := by decide
  rw [blob, trophy] at readers
  exact exactBlob_ne_outside _ _ readers.1.symm

end ShadNetClient
