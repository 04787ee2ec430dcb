import ShadNet.Client.Framing

/-!
# Web API push events

A push event is a chain of length-prefixed strings, a counted list of pairs of them
and two account ids. The handler decodes it field by field with a cursor that moves on
even where a field is not there.
-/

namespace ShadNetClient

structure NotifyWebApiPushEvent where
  npServiceName : List UInt8 := []
  npServiceLabel : UInt32 := 0
  dataType : List UInt8 := []
  data : List UInt8 := []
  fromNpid : List UInt8 := []
  toNpid : List UInt8 := []
  extdData : List (List UInt8 × List UInt8) := []
  fromAccountId : UInt64 := 0
  toAccountId : UInt64 := 0
  deriving DecidableEq, Repr

/-! ### The layout -/

def field32 (v : UInt32) : List UInt8 := putLE32 (List.replicate 4 0) 0 v

def field64 (v : UInt64) : List UInt8 := putLE64 (List.replicate 8 0) 0 v

def blobField (blob : List UInt8) : List UInt8 := field32 (UInt32.ofNat blob.length) ++ blob

def pairField (pair : List UInt8 × List UInt8) : List UInt8 :=
  blobField pair.1 ++ blobField pair.2

def NotifyWebApiPushEvent.layout (n : NotifyWebApiPushEvent) : List UInt8 :=
  blobField n.npServiceName ++ (field32 n.npServiceLabel ++ (blobField n.dataType ++
    (blobField n.data ++ (blobField n.fromNpid ++ (blobField n.toNpid ++
      (field32 (UInt32.ofNat n.extdData.length) ++ (n.extdData.flatMap pairField ++
        (field64 n.fromAccountId ++ field64 n.toAccountId))))))))

/-! ### The handler -/

/-- A string and the cursor behind it; a string that is rejected is empty, and its length field is
passed over whether it is there or not. -/
def takeBlob (payload : List UInt8) (off : Nat) : Option (List UInt8 × Nat) :=
  (extractBlob payload off).map (fun blob => (blob, off + 4 + blob.length))

/-- The loop over the pairs: whether it came to its end, the pairs, and the cursor. -/
def takePairs (payload : List UInt8) :
    Nat → Nat → Option (Bool × List (List UInt8 × List UInt8) × Nat)
  | 0, off => some (true, [], off)
  | rounds + 1, off =>
    if payload.length < off + 4 then some (false, [], off)
    else do
      let (key, off) ← takeBlob payload off
      if payload.length < off + 4 then some (false, [], off)
      else do
        let (val, off) ← takeBlob payload off
        let (complete, pairs, off) ← takePairs payload rounds off
        some (complete, (key, val) :: pairs, off)

/-- `HandleNotification` for a push event: the event `on_web_api_push_event` is called with;
`none` where a string is read that reaches outside the payload. -/
def decodePushEvent (payload : List UInt8) : Option NotifyWebApiPushEvent := do
  let (npServiceName, off) ← takeBlob payload 0
  let there := off + 4 ≤ payload.length
  let npServiceLabel := if there then getLE32 payload off else 0
  let off := if there then off + 4 else off
  let (dataType, off) ← takeBlob payload off
  let (data, off) ← takeBlob payload off
  let (fromNpid, off) ← takeBlob payload off
  let (toNpid, off) ← takeBlob payload off
  let n : NotifyWebApiPushEvent :=
    { npServiceName, npServiceLabel, dataType, data, fromNpid, toNpid }
  if off + 4 ≤ payload.length then
    let count := (getLE32 payload off).toNat
    let (complete, extdData, off) ← takePairs payload (min count 256) (off + 4)
    if count ≤ 256 ∧ complete ∧ off + 16 ≤ payload.length then
      some { n with
        extdData
        fromAccountId := getLE64 payload off
        toAccountId := getLE64 payload (off + 8) }
    else some { n with extdData }
  else some n

/-- The events that a payload delivers. -/
def deliveredPushEvents (payload : List UInt8) : Option (List NotifyWebApiPushEvent) :=
  (decodePushEvent payload).map (fun n => [n])

/-! ### Fields behind a cursor -/

@[simp] theorem length_field32 (v : UInt32) : (field32 v).length = 4 := by
  simp [field32, putLE32]

@[simp] theorem length_field64 (v : UInt64) : (field64 v).length = 8 := by
  simp [field64, putLE64]

section Cursor

variable {p rest : List UInt8} {off : Nat}

theorem getD_of_drop (behind : p.drop off = rest) (i : Nat) :
    p.getD (off + i) 0 = rest.getD i 0 := by
  rw [← behind, List.getD_eq_getElem?_getD, List.getD_eq_getElem?_getD, List.getElem?_drop]

theorem drop_past {first : List UInt8} (behind : p.drop off = first ++ rest) :
    p.drop (off + first.length) = rest := by
  rw [← List.drop_drop, behind, List.drop_left]

theorem length_past {first : List UInt8} (behind : p.drop off = first ++ rest)
    (some_ : 0 < first.length) : off + first.length + rest.length = p.length := by
  have length := congrArg List.length behind
  rw [List.length_drop, List.length_append] at length
  omega

theorem getLE32_field32 {v : UInt32} (behind : p.drop off = field32 v ++ rest) :
    getLE32 p off = v := by
  have same : LittleEndian.get 32 4 p off = LittleEndian.get 32 4 (field32 v) 0 := by
    apply LittleEndian.get_congr
    intro i inside
    have short : i < (field32 v).length := by rwa [length_field32]
    rw [getD_of_drop behind, Nat.zero_add, getD_append_left short]
  rw [getLE32, same]
  exact getLE32_putLE32 (by decide) v

theorem getLE64_field64 {v : UInt64} (behind : p.drop off = field64 v ++ rest) :
    getLE64 p off = v := by
  have same : LittleEndian.get 64 8 p off = LittleEndian.get 64 8 (field64 v) 0 := by
    apply LittleEndian.get_congr
    intro i inside
    have short : i < (field64 v).length := by rwa [length_field64]
    rw [getD_of_drop behind, Nat.zero_add, getD_append_left short]
  rw [getLE64, same]
  exact getLE64_putLE64 (by decide) v

theorem length_blobField (blob : List UInt8) : (blobField blob).length = 4 + blob.length := by
  rw [blobField, List.length_append, length_field32]

theorem takeBlob_blobField {blob : List UInt8} (fits : p.length ≤ shadMaxPacketSize)
    (behind : p.drop off = blobField blob ++ rest) :
    takeBlob p off = some (blob, off + (blobField blob).length) := by
  have length := length_past behind (by rw [length_blobField]; omega)
  rw [length_blobField] at length ⊢
  rw [shadMaxPacketSize] at fits
  rw [blobField, List.append_assoc] at behind
  have len : (getLE32 p off).toNat = blob.length := by
    rw [getLE32_field32 behind, UInt32.toNat_ofNat']
    omega
  have bytes : (p.drop (off + 4)).take blob.length = blob := by
    have past := drop_past behind
    rw [length_field32] at past
    rw [past, List.take_left]
  rw [takeBlob, extractBlob, if_neg (by omega), len, if_neg (by omega), if_neg (by omega), bytes,
    Option.map_some]
  simp only [Option.some.injEq, Prod.mk.injEq, true_and]
  omega

theorem length_pairField (pair : List UInt8 × List UInt8) :
    (pairField pair).length = (blobField pair.1).length + (blobField pair.2).length :=
  List.length_append

/-- The induction is on the pairs that the cursor still stands in front of. -/
theorem takePairs_pairFields {pairs : List (List UInt8 × List UInt8)}
    (fits : p.length ≤ shadMaxPacketSize) (behind : p.drop off = pairs.flatMap pairField ++ rest) :
    takePairs p pairs.length off = some (true, pairs, off + (pairs.flatMap pairField).length) := by
  induction pairs generalizing off with
  | nil => rfl
  | cons pair pairs ih =>
    rw [List.flatMap_cons, pairField, List.append_assoc, List.append_assoc] at behind
    have pastKey := drop_past behind
    have pastVal := drop_past pastKey
    have keyLength := length_past behind (by rw [length_blobField]; omega)
    have valLength := length_past pastKey (by rw [length_blobField]; omega)
    have keyField := length_blobField pair.1
    have valField := length_blobField pair.2
    rw [List.length_cons, takePairs, if_neg (by omega), takeBlob_blobField fits behind]
    simp only [Option.bind_eq_bind, Option.bind_some]
    rw [if_neg (by omega), takeBlob_blobField fits pastKey]
    simp only [Option.bind_some]
    rw [ih pastVal, Option.bind_some, List.flatMap_cons, List.length_append, length_pairField]
    simp only [Nat.add_assoc]

end Cursor

/-! ### Complete layouts -/

theorem decodePushEvent_layout {p : List UInt8} {n : NotifyWebApiPushEvent}
    (few : n.extdData.length ≤ 256) (fits : p.length ≤ shadMaxPacketSize) (whole : p = n.layout) :
    decodePushEvent p = some n := by
  have atName : p.drop 0 = n.layout := whole
  rw [NotifyWebApiPushEvent.layout] at atName
  have atLabel := drop_past atName
  have atType := drop_past atLabel
  have atData := drop_past atType
  have atFrom := drop_past atData
  have atTo := drop_past atFrom
  have atCount := drop_past atTo
  have atPairs := drop_past atCount
  have atIds := drop_past atPairs
  have toId : p.drop (0 + (blobField n.npServiceName).length + 4 + (blobField n.dataType).length +
      (blobField n.data).length + (blobField n.fromNpid).length + (blobField n.toNpid).length + 4 +
      (n.extdData.flatMap pairField).length + 8) = field64 n.toAccountId ++ [] := by
    have behind := drop_past atIds
    simp only [length_field32, length_field64] at behind
    rw [behind, List.append_nil]
  have labelled := length_past atLabel (by rw [length_field32]; omega)
  have counted := length_past atCount (by rw [length_field32]; omega)
  have identified := length_past atIds (by rw [length_field64]; omega)
  simp only [length_field32, length_field64] at *
  have count : (UInt32.ofNat n.extdData.length).toNat = n.extdData.length := by
    rw [UInt32.toNat_ofNat']
    omega
  rw [decodePushEvent, takeBlob_blobField fits atName]
  simp only [Option.bind_eq_bind, Option.bind_some]
  rw [if_pos (by omega), if_pos (by omega), takeBlob_blobField fits atType, Option.bind_some,
    takeBlob_blobField fits atData, Option.bind_some, takeBlob_blobField fits atFrom,
    Option.bind_some, takeBlob_blobField fits atTo, Option.bind_some, if_pos (by omega),
    getLE32_field32 atCount, count, Nat.min_eq_left few, takePairs_pairFields fits atPairs,
    Option.bind_some]
  dsimp only
  rw [if_pos ⟨few, rfl, by omega⟩, getLE32_field32 atLabel, getLE64_field64 atIds,
    getLE64_field64 toId]

/-! ### What is delivered -/

/-- The payload delivers the event it is the layout of, and nothing if it is not a layout. -/
def DeliversExactly (p : List UInt8) : Prop :=
  (∀ n : NotifyWebApiPushEvent, n.extdData.length ≤ 256 → p = n.layout →
    deliveredPushEvents p = some [n]) ∧
  ((∀ n : NotifyWebApiPushEvent, p ≠ n.layout) → deliveredPushEvents p = some [])

theorem deliveredPushEvents_ne_nil (p : List UInt8) : deliveredPushEvents p ≠ some [] := by
  rw [deliveredPushEvents]
  cases decodePushEvent p with
  | none => simp
  | some n => simp

/-- An event is delivered whatever is missing of the payload. -/
theorem deliversExactly_iff {p : List UInt8} (fits : p.length ≤ shadMaxPacketSize) :
    DeliversExactly p ↔ ∃ n : NotifyWebApiPushEvent, p = n.layout := by
  constructor
  · rintro ⟨-, nothing⟩
    by_contra incomplete
    push Not at incomplete
    exact deliveredPushEvents_ne_nil p (nothing incomplete)
  · rintro ⟨n, whole⟩
    constructor
    · intro event few layout
      rw [deliveredPushEvents, decodePushEvent_layout few fits layout, Option.map_some]
    · intro incomplete
      exact absurd whole (incomplete n)

theorem deliversExactly_iff_one_pair :
    DeliversExactly ({ extdData := [([1], [2])] } : NotifyWebApiPushEvent).layout ↔
      ∃ n : NotifyWebApiPushEvent,
        ({ extdData := [([1], [2])] } : NotifyWebApiPushEvent).layout = n.layout :=
  deliversExactly_iff (by decide)

/-- A payload of nothing at all. -/
theorem empty_payload_delivers : ¬∀ p : List UInt8, p.length ≤ shadMaxPacketSize →
    DeliversExactly p := by
  intro delivers
  have nothing := (delivers [] (by decide)).2
  have event : deliveredPushEvents [] = some [{}] := by decide
  rw [event] at nothing
  refine absurd (nothing ?_) (by decide)
  intro n whole
  have length := congrArg List.length whole
  rw [NotifyWebApiPushEvent.layout, List.length_append, length_blobField] at length
  simp at length

end ShadNetClient
