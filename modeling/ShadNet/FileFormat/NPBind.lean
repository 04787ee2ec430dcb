import ShadNet.FileFields

/-!
# The NPBind file

A header announces a number of bodies. Each body is four entries, every one with its length in
front, and padding behind them that the end of the file may cut short. The last bytes of the file
are a digest.

The bodies are reserved at once from the announced number; `limit` is the largest number that can
be reserved, at most `maxSize`.
-/

namespace NPBind

open FileFields

def NPBIND_MAGIC : Nat := 0xD294A018

/-- The vector's own bound, for bodies of 128 bytes. -/
def maxSize : Nat := 0x7FFFFFFFFFFFFFFF / 128

structure NpBindHeader where
  magic : Field 4
  version : Field 4
  fileSize : Field 8
  entrySize : Field 8
  numEntries : Field 8
  padding : Field 0x60
  deriving DecidableEq

structure NPBindEntryRaw where
  type : Field 2
  size : Field 2
  data : Field (bigEndian size.1)
  deriving DecidableEq

structure NPBindBody where
  npcommid : NPBindEntryRaw
  trophy : NPBindEntryRaw
  unk1 : NPBindEntryRaw
  unk2 : NPBindEntryRaw
  deriving DecidableEq

structure NPBindFile where
  header : NpBindHeader
  bodies : List NPBindBody
  digest : Field 20
  deriving DecidableEq

namespace NpBindHeader

def zero : NpBindHeader :=
  ⟨Field.zero 4, Field.zero 4, Field.zero 8, Field.zero 8, Field.zero 8, Field.zero 0x60⟩

def encode (header : NpBindHeader) : List UInt8 :=
  header.magic.1 ++ (header.version.1 ++ (header.fileSize.1 ++ (header.entrySize.1 ++
    (header.numEntries.1 ++ header.padding.1))))

@[simp] theorem length_encode (header : NpBindHeader) : header.encode.length = 0x80 := by
  simp only [encode, List.length_append, header.magic.2, header.version.2, header.fileSize.2,
    header.entrySize.2, header.numEntries.2, header.padding.2]

end NpBindHeader

def NPBindEntryRaw.encode (entry : NPBindEntryRaw) : List UInt8 :=
  entry.type.1 ++ (entry.size.1 ++ entry.data.1)

theorem NPBindEntryRaw.length_encode (entry : NPBindEntryRaw) :
    entry.encode.length = 4 + bigEndian entry.size.1 := by
  rw [encode, List.length_append, List.length_append, entry.type.2, entry.size.2, entry.data.2]
  omega

def NPBindBody.encode (body : NPBindBody) : List UInt8 :=
  body.npcommid.encode ++ (body.trophy.encode ++ (body.unk1.encode ++ body.unk2.encode))

theorem NPBindBody.length_encode (body : NPBindBody) : 16 ≤ body.encode.length := by
  simp only [encode, List.length_append, NPBindEntryRaw.length_encode]
  omega

namespace NPBindFile

def clear (_ : NPBindFile) : NPBindFile := ⟨NpBindHeader.zero, [], Field.zero 20⟩

def isValid (file : NPBindFile) : Bool := bigEndian file.header.magic.1 == NPBIND_MAGIC

theorem clear_isValid (file : NPBindFile) : file.clear.isValid = false := by
  change (bigEndian NpBindHeader.zero.magic.1 == NPBIND_MAGIC) = false
  decide

def getNpCommIds (file : NPBindFile) : List (List UInt8) :=
  file.bodies.flatMap fun body =>
    if body.npcommid.data.1.isEmpty then [] else [body.npcommid.data.1]

end NPBindFile

/-! ## Loading -/

def readHeader (data : List UInt8) : Except Fault NpBindHeader := do
  let magic ← bytesAt data 0 4
  let version ← bytesAt data 4 4
  let fileSize ← bytesAt data 8 8
  let entrySize ← bytesAt data 16 8
  let numEntries ← bytesAt data 24 8
  let padding ← bytesAt data 32 0x60
  return ⟨magic, version, fileSize, entrySize, numEntries, padding⟩

def readEntry : Reader NPBindEntryRaw := fun data offset =>
  if data.length < offset + 4 then .ok none
  else do
    let type ← bytesAt data offset 2
    let size ← bytesAt data (offset + 2) 2
    if data.length < offset + 4 + bigEndian size.1 then .ok none
    else do
      let value ← bytesAt data (offset + 4) (bigEndian size.1)
      return some (⟨type, size, value⟩, offset + 4 + bigEndian size.1)

def readBody : Reader NPBindBody :=
  readEntry.andThen fun npcommid => readEntry.andThen fun trophy =>
    readEntry.andThen fun unk1 => readEntry.andThen fun unk2 =>
      Reader.done ⟨npcommid, trophy, unk1, unk2⟩

def bodyPadding : Nat := 0x98

def skipPadding (data : List UInt8) (offset : Nat) : Nat :=
  if offset + bodyPadding ≤ data.length then offset + bodyPadding else data.length

/-- The loop: whether it came to its end, and the bodies pushed until then. -/
def readBodies (data : List UInt8) : Nat → Nat → Except Fault (Bool × List NPBindBody)
  | 0, _ => .ok (true, [])
  | left + 1, offset =>
    if data.length < offset + 4 * 4 then .ok (false, [])
    else
      match readBody data offset with
      | .error fault => .error fault
      | .ok none => .ok (false, [])
      | .ok (some found) =>
        match readBodies data left (skipPadding data found.2) with
        | .error fault => .error fault
        | .ok later => .ok (later.1, found.1 :: later.2)

def load (limit : Nat) (data : List UInt8) (file : NPBindFile) :
    Except Fault (Bool × NPBindFile) :=
  if data.length < 0x80 then .ok (false, file.clear)
  else do
    let header ← readHeader data
    if bigEndian header.magic.1 ≠ NPBIND_MAGIC then .ok (false, { file.clear with header })
    else if limit < bigEndian header.numEntries.1 then .error .exception
    else do
      let walked ← readBodies data (bigEndian header.numEntries.1) 0x80
      if walked.1 then do
        -- the header alone is longer than the digest
        let digest ← bytesAt data (data.length - 20) 20
        return (true, ⟨header, walked.2, digest⟩)
      else return (false, { file.clear with header, bodies := walked.2 })

/-! ## What the readers find -/

theorem readHeader_eq (header : NpBindHeader) (rest : List UInt8) :
    readHeader (header.encode ++ rest) = .ok header := by
  have skip : ∀ {width offset : Nat} {tail : List UInt8} (field : Field width),
      (header.encode ++ rest).drop offset = field.1 ++ tail →
      (header.encode ++ rest).drop (offset + width) = tail := by
    intro width offset tail field here
    rw [← drop_behind here, field.2]
  have h0 : (header.encode ++ rest).drop 0 = header.magic.1 ++ (header.version.1 ++
      (header.fileSize.1 ++ (header.entrySize.1 ++ (header.numEntries.1 ++
        (header.padding.1 ++ rest))))) := by
    simp only [NpBindHeader.encode, List.append_assoc, List.drop_zero]
  have h4 := skip _ h0
  have h8 := skip _ h4
  have h16 := skip _ h8
  have h24 := skip _ h16
  have h32 := skip _ h24
  have long : (header.encode ++ rest).length = 0x80 + rest.length := by
    rw [List.length_append, NpBindHeader.length_encode]
  rw [readHeader, bytesAt_of_drop (by omega) h0, bytesAt_of_drop (by omega) h4,
    bytesAt_of_drop (by omega) h8, bytesAt_of_drop (by omega) h16,
    bytesAt_of_drop (by omega) h24, bytesAt_of_drop (by omega) h32]
  rfl

/-- Enough bytes always read as a header. -/
theorem header_of_length (data : List UInt8) (long : 0x80 ≤ data.length) :
    ∃ header : NpBindHeader, data = header.encode ++ data.drop 0x80 := by
  obtain ⟨magic, -, h0⟩ := bytesAt_inside data 0 4 (by omega)
  obtain ⟨version, -, h4⟩ := bytesAt_inside data 4 4 (by omega)
  obtain ⟨fileSize, -, h8⟩ := bytesAt_inside data 8 8 (by omega)
  obtain ⟨entrySize, -, h16⟩ := bytesAt_inside data 16 8 (by omega)
  obtain ⟨numEntries, -, h24⟩ := bytesAt_inside data 24 8 (by omega)
  obtain ⟨padding, -, h32⟩ := bytesAt_inside data 32 0x60 (by omega)
  refine ⟨⟨magic, version, fileSize, entrySize, numEntries, padding⟩, ?_⟩
  simp only [NpBindHeader.encode, List.append_assoc]
  rw [← h32, ← h24, ← h16, ← h8, ← h4, ← h0, List.drop_zero]

/-- The two fields in front of an entry's data. -/
theorem entry_front (data : List UInt8) (offset : Nat) (room : offset + 4 ≤ data.length) :
    ∃ (type size : Field 2), bytesAt data offset 2 = .ok type ∧
      bytesAt data (offset + 2) 2 = .ok size ∧
      data.drop offset = type.1 ++ (size.1 ++ data.drop (offset + 4)) := by
  obtain ⟨type, found, front⟩ := bytesAt_inside data offset 2 (by omega)
  obtain ⟨size, found', middle⟩ := bytesAt_inside data (offset + 2) 2 (by omega)
  refine ⟨type, size, found, found', ?_⟩
  rw [front, middle]

theorem readEntry_long {data : List UInt8} {offset : Nat} {type size : Field 2}
    (room : offset + 4 ≤ data.length) (found : bytesAt data offset 2 = .ok type)
    (found' : bytesAt data (offset + 2) 2 = .ok size)
    (long : data.length < offset + 4 + bigEndian size.1) :
    readEntry data offset = .ok none := by
  rw [readEntry, if_neg (by omega), found, found']
  exact if_pos long

theorem readEntry_whole {data : List UInt8} {offset : Nat} {type size : Field 2}
    {value : Field (bigEndian size.1)} (found : bytesAt data offset 2 = .ok type)
    (found' : bytesAt data (offset + 2) 2 = .ok size)
    (room : offset + 4 + bigEndian size.1 ≤ data.length)
    (found'' : bytesAt data (offset + 4) (bigEndian size.1) = .ok value) :
    readEntry data offset =
      .ok (some (⟨type, size, value⟩, offset + 4 + bigEndian size.1)) := by
  rw [readEntry, if_neg (by omega), found, found']
  refine (if_neg (by omega)).trans ?_
  rw [found'']
  rfl

/-- An entry stands at the offset and is read, or it does not fit and nothing is. -/
theorem readEntry_cases {data : List UInt8} {offset : Nat} :
    readEntry data offset = .ok none ∨
      ∃ entry : NPBindEntryRaw, readEntry data offset =
          .ok (some (entry, offset + entry.encode.length)) ∧
        ∃ tail, data.drop offset = entry.encode ++ tail := by
  by_cases short : data.length < offset + 4
  · left
    rw [readEntry, if_pos short]
  · obtain ⟨type, size, found, found', front⟩ :=
      entry_front data offset (by omega)
    by_cases long : data.length < offset + 4 + bigEndian size.1
    · left
      exact readEntry_long (by omega) found found' long
    · right
      obtain ⟨value, found'', back⟩ :=
        bytesAt_inside data (offset + 4) (bigEndian size.1) (by omega)
      refine ⟨⟨type, size, value⟩, ?_, data.drop (offset + 4 + bigEndian size.1), ?_⟩
      · rw [readEntry_whole found found' (by omega) found'', NPBindEntryRaw.length_encode,
          Nat.add_assoc]
      · rw [front, back, NPBindEntryRaw.encode, List.append_assoc, List.append_assoc]

theorem readEntry_of_drop {data tail : List UInt8} {offset : Nat} {entry : NPBindEntryRaw}
    (inside : offset ≤ data.length) (here : data.drop offset = entry.encode ++ tail) :
    readEntry data offset = .ok (some (entry, offset + entry.encode.length)) := by
  have room := behind_inside inside here
  rw [NPBindEntryRaw.length_encode] at room ⊢
  rw [NPBindEntryRaw.encode, List.append_assoc, List.append_assoc] at here
  have middle := drop_behind here
  rw [entry.type.2] at middle
  have back := drop_behind middle
  rw [entry.size.2] at back
  rw [readEntry_whole (bytesAt_of_drop inside here) (bytesAt_of_drop (by omega) middle) (by omega)
    (bytesAt_of_drop (by omega) back), Nat.add_assoc]

theorem readEntry_exact : Reader.Exact (fun entry bytes => bytes = entry.encode) readEntry where
  quiet := by
    intro data offset _
    rcases readEntry_cases with nothing | ⟨entry, found, -⟩
    · exact ⟨none, nothing⟩
    · exact ⟨_, found⟩
  found_iff := by
    intro data offset entry next inside
    constructor
    · intro found
      rcases readEntry_cases with nothing | ⟨entry', found', tail, here⟩
      · exact nomatch nothing.symm.trans found
      · obtain ⟨rfl, rfl⟩ := Prod.mk.inj (Option.some.inj (Except.ok.inj (found'.symm.trans found)))
        exact ⟨_, tail, rfl, here, rfl⟩
    · rintro ⟨_, tail, rfl, here, rfl⟩
      exact readEntry_of_drop inside here

theorem readBody_exact : Reader.Exact (fun body bytes => bytes = body.encode) readBody := by
  have exact := readEntry_exact.andThen fun npcommid => readEntry_exact.andThen fun trophy =>
    readEntry_exact.andThen fun unk1 => readEntry_exact.andThen fun unk2 =>
      Reader.Exact.done (NPBindBody.mk npcommid trophy unk1 unk2)
  refine exact.congr ?_
  intro body bytes
  constructor
  · rintro ⟨_, _, _, rfl, ⟨_, _, _, rfl, ⟨_, _, _, rfl, ⟨_, _, _, rfl, ⟨rfl, rfl⟩, rfl⟩, rfl⟩, rfl⟩,
      rfl⟩
    simp only [NPBindBody.encode, List.append_nil]
  · rintro rfl
    refine ⟨_, _, _, rfl, ⟨_, _, _, rfl, ⟨_, _, _, rfl, ⟨_, _, _, rfl, ⟨rfl, rfl⟩, rfl⟩, rfl⟩, rfl⟩,
      ?_⟩
    simp only [NPBindBody.encode, List.append_nil]

theorem skipPadding_inside (data : List UInt8) (offset : Nat) :
    skipPadding data offset ≤ data.length := by
  rw [skipPadding]
  split <;> omega

theorem drop_skipPadding (data : List UInt8) (offset : Nat) :
    data.drop (skipPadding data offset) = (data.drop offset).drop bodyPadding := by
  rw [skipPadding, List.drop_drop]
  split
  · rfl
  · rw [List.drop_length, List.drop_eq_nil_of_le (by omega)]

/-! ## The bodies -/

/-- That many bodies stand at the front of the bytes, the padding behind each as far as there is
any. -/
def Present : Nat → List UInt8 → Prop
  | 0, _ => True
  | left + 1, rest => ∃ (body : NPBindBody) (tail : List UInt8), rest = body.encode ++ tail ∧
      Present left (tail.drop bodyPadding)

theorem readBody_of_drop {data tail : List UInt8} {offset : Nat} {body : NPBindBody}
    (inside : offset ≤ data.length) (here : data.drop offset = body.encode ++ tail) :
    readBody data offset = .ok (some (body, offset + body.encode.length)) :=
  (readBody_exact.found_iff inside).mpr ⟨_, tail, rfl, here, rfl⟩

theorem room_of_drop {data tail : List UInt8} {offset : Nat} {body : NPBindBody}
    (inside : offset ≤ data.length) (here : data.drop offset = body.encode ++ tail) :
    ¬data.length < offset + 4 * 4 := by
  have room := behind_inside inside here
  have enough := body.length_encode
  omega

/-- The loop comes to its end just when all the bodies are there. -/
theorem readBodies_present (data : List UInt8) (left : Nat) {offset : Nat}
    (inside : offset ≤ data.length) :
    ∃ walked, readBodies data left offset = .ok walked ∧
      (walked.1 = true ↔ Present left (data.drop offset)) := by
  induction left generalizing offset with
  | zero => exact ⟨_, rfl, by simp [Present]⟩
  | succ left ih =>
    rw [readBodies]
    by_cases short : data.length < offset + 4 * 4
    · refine ⟨_, if_pos short, ?_⟩
      constructor
      · intro impossible
        exact nomatch impossible
      · rintro ⟨body, tail, here, -⟩
        exact absurd short (room_of_drop inside here)
    · rw [if_neg short]
      obtain ⟨found, read⟩ := readBody_exact.quiet inside
      rw [read]
      match found with
      | none =>
        refine ⟨_, rfl, ?_⟩
        constructor
        · intro impossible
          exact nomatch impossible
        · rintro ⟨body, tail, here, -⟩
          exact nomatch read.symm.trans (readBody_of_drop inside here)
      | some (body, next) =>
        obtain ⟨_, tail, rfl, here, rfl⟩ := (readBody_exact.found_iff inside).mp read
        obtain ⟨later, rest, all⟩ := ih (skipPadding_inside data (offset + body.encode.length))
        rw [drop_skipPadding, drop_behind here] at all
        refine ⟨(later.1, body :: later.2), by simp only [rest], ?_⟩
        rw [all]
        constructor
        · intro present
          exact ⟨body, tail, here, present⟩
        · rintro ⟨body', tail', there, present⟩
          obtain ⟨-, rfl⟩ := readBody_exact.unique rfl rfl (here.symm.trans there)
          exact present

/-- A body and the padding behind it. -/
def encodePadded (body : NPBindBody × Field bodyPadding) : List UInt8 :=
  body.1.encode ++ body.2.1

theorem readBodies_image (data : List UInt8) {tail : List UInt8}
    (bodies : List (NPBindBody × Field bodyPadding))
    {offset : Nat} (inside : offset ≤ data.length)
    (here : data.drop offset = bodies.flatMap encodePadded ++ tail) :
    readBodies data bodies.length offset = .ok (true, bodies.map Prod.fst) := by
  induction bodies generalizing offset with
  | nil => rfl
  | cons body rest ih =>
    rw [List.flatMap_cons, encodePadded, List.append_assoc, List.append_assoc] at here
    have behind := drop_behind here
    have padded : data.drop (skipPadding data (offset + body.1.encode.length)) =
        rest.flatMap encodePadded ++ tail := by
      rw [drop_skipPadding, behind, List.drop_left' body.2.2]
    rw [List.length_cons, readBodies, if_neg (room_of_drop inside here),
      readBody_of_drop inside here]
    change (match readBodies data rest.length _ with | .error _ => _ | .ok _ => _) = _
    rw [ih (skipPadding_inside _ _) padded]
    rfl

/-! ## The exits -/

theorem load_short {limit : Nat} {data : List UInt8} {file : NPBindFile}
    (short : data.length < 0x80) : load limit data file = .ok (false, file.clear) :=
  if_pos short

section Headed

variable {limit : Nat} {file : NPBindFile} {header : NpBindHeader} {rest : List UInt8}

theorem length_headed (header : NpBindHeader) (rest : List UInt8) :
    (header.encode ++ rest).length = 0x80 + rest.length := by
  rw [List.length_append, NpBindHeader.length_encode]

theorem drop_headed (header : NpBindHeader) (rest : List UInt8) :
    (header.encode ++ rest).drop 0x80 = rest :=
  List.drop_left' header.length_encode

theorem load_refused (foreign : bigEndian header.magic.1 ≠ NPBIND_MAGIC) :
    load limit (header.encode ++ rest) file = .ok (false, { file.clear with header }) := by
  rw [load, if_neg (by rw [length_headed]; omega), readHeader_eq]
  exact if_pos foreign

theorem load_unreserved (own : bigEndian header.magic.1 = NPBIND_MAGIC)
    (many : limit < bigEndian header.numEntries.1) :
    load limit (header.encode ++ rest) file = .error .exception := by
  rw [load, if_neg (by rw [length_headed]; omega), readHeader_eq]
  exact (if_neg (not_not_intro own)).trans (if_pos many)

theorem load_walked {walked : Bool × List NPBindBody}
    (own : bigEndian header.magic.1 = NPBIND_MAGIC)
    (reserved : bigEndian header.numEntries.1 ≤ limit)
    (walk : readBodies (header.encode ++ rest) (bigEndian header.numEntries.1) 0x80 =
      .ok walked) :
    load limit (header.encode ++ rest) file =
      if walked.1 then
        (bytesAt (header.encode ++ rest) ((header.encode ++ rest).length - 20) 20).map
          fun digest => (true, ⟨header, walked.2, digest⟩)
      else .ok (false, { file.clear with header, bodies := walked.2 }) := by
  rw [load, if_neg (by rw [length_headed]; omega), readHeader_eq]
  refine (if_neg (not_not_intro own)).trans ((if_neg (by omega)).trans ?_)
  rw [walk]
  rfl

theorem load_cut {bodies : List NPBindBody} (own : bigEndian header.magic.1 = NPBIND_MAGIC)
    (reserved : bigEndian header.numEntries.1 ≤ limit)
    (walk : readBodies (header.encode ++ rest) (bigEndian header.numEntries.1) 0x80 =
      .ok (false, bodies)) :
    load limit (header.encode ++ rest) file =
      .ok (false, { file.clear with header, bodies }) :=
  load_walked own reserved walk

theorem load_done (file : NPBindFile) {bodies : List NPBindBody}
    (own : bigEndian header.magic.1 = NPBIND_MAGIC)
    (reserved : bigEndian header.numEntries.1 ≤ limit)
    (walk : readBodies (header.encode ++ rest) (bigEndian header.numEntries.1) 0x80 =
      .ok (true, bodies)) :
    ∃ digest : Field 20, load limit (header.encode ++ rest) file =
        .ok (true, ⟨header, bodies, digest⟩) ∧
      (header.encode ++ rest).drop ((header.encode ++ rest).length - 20) = digest.1 := by
  have long := length_headed header rest
  obtain ⟨digest, found, last⟩ := bytesAt_inside (header.encode ++ rest)
    ((header.encode ++ rest).length - 20) 20 (by omega)
  refine ⟨digest, ?_, ?_⟩
  · rw [load_walked own reserved walk, found]
    rfl
  · rw [last, List.drop_eq_nil_of_le (by omega), List.append_nil]

end Headed

/-! ## File images and arbitrary bytes -/

/-- A file as it should be: the header counts the bodies. -/
structure Image where
  header : NpBindHeader
  bodies : List (NPBindBody × Field bodyPadding)
  digest : Field 20
  own : bigEndian header.magic.1 = NPBIND_MAGIC
  counted : bigEndian header.numEntries.1 = bodies.length

def Image.encode (image : Image) : List UInt8 :=
  image.header.encode ++ (image.bodies.flatMap encodePadded ++ image.digest.1)

def Image.loaded (image : Image) : NPBindFile :=
  ⟨image.header, image.bodies.map Prod.fst, image.digest⟩

/-- Loading gives back the bodies and the digest. -/
def GivesBack (limit : Nat) (image : Image) (file : NPBindFile) : Prop :=
  ∃ loaded, load limit image.encode file = .ok (true, loaded) ∧
    loaded.bodies = image.bodies.map Prod.fst ∧ loaded.digest = image.digest

/-- Loading gives back every body's communication id. -/
def GivesBackIds (limit : Nat) (image : Image) (file : NPBindFile) : Prop :=
  ∃ loaded, load limit image.encode file = .ok (true, loaded) ∧
    loaded.getNpCommIds = image.bodies.map fun body => body.1.npcommid.data.1

/-- Loading returns, and leaves nothing behind when it failed. -/
def Settles (limit : Nat) (data : List UInt8) (file : NPBindFile) : Prop :=
  ∃ outcome, load limit data file = .ok outcome ∧
    (outcome.1 = false → outcome.2.bodies = [] ∧ outcome.2.isValid = false)

/-- The bytes do not start with a header of this format. -/
def Foreign (data : List UInt8) : Prop :=
  ∀ (header : NpBindHeader) (rest : List UInt8), data = header.encode ++ rest →
    bigEndian header.magic.1 ≠ NPBIND_MAGIC

/-- All the bodies that the header announces can be reserved, and are there. -/
def Complete (limit : Nat) (data : List UInt8) : Prop :=
  ∃ (header : NpBindHeader) (rest : List UInt8), data = header.encode ++ rest ∧
    bigEndian header.numEntries.1 ≤ limit ∧ Present (bigEndian header.numEntries.1) rest

theorem load_image {limit : Nat} {image : Image} {file : NPBindFile}
    (reserved : image.bodies.length ≤ limit) :
    load limit image.encode file = .ok (true, image.loaded) := by
  have walk := readBodies_image image.encode image.bodies
    (by rw [Image.encode, length_headed]; omega) (drop_headed _ _)
  rw [← image.counted] at walk reserved
  obtain ⟨digest, found, last⟩ := load_done file image.own reserved walk
  rw [Image.encode, found, Image.loaded]
  have final : image.encode.drop (image.encode.length - 20) = image.digest.1 := by
    rw [Image.encode, ← List.append_assoc, List.length_append, image.digest.2,
      Nat.add_sub_cancel, List.drop_left]
  rw [Subtype.ext (last.symm.trans final)]

theorem load_image_unreserved {limit : Nat} {image : Image} {file : NPBindFile}
    (many : limit < image.bodies.length) :
    load limit image.encode file = .error .exception :=
  load_unreserved image.own (by rw [image.counted]; exact many)

theorem givesBack_iff (limit : Nat) (image : Image) (file : NPBindFile) :
    GivesBack limit image file ↔ image.bodies.length ≤ limit := by
  constructor
  · rintro ⟨loaded, found, -, -⟩
    by_contra many
    rw [load_image_unreserved (by omega)] at found
    exact nomatch found
  · intro reserved
    exact ⟨image.loaded, load_image reserved, rfl, rfl⟩

/-- The ids are those that have any bytes. -/
theorem getNpCommIds_eq (file : NPBindFile) :
    file.getNpCommIds =
      (file.bodies.map fun body => body.npcommid.data.1).filter fun id => !id.isEmpty := by
  rw [NPBindFile.getNpCommIds]
  induction file.bodies with
  | nil => rfl
  | cons body rest ih =>
    rw [List.flatMap_cons, ih, List.map_cons, List.filter_cons]
    cases body.npcommid.data.1.isEmpty <;> rfl

theorem givesBackIds_iff (limit : Nat) (image : Image) (file : NPBindFile) :
    GivesBackIds limit image file ↔
      image.bodies.length ≤ limit ∧ ∀ body ∈ image.bodies, body.1.npcommid.data.1 ≠ [] := by
  have ids : image.loaded.getNpCommIds = (image.bodies.map fun body => body.1.npcommid.data.1) ↔
      ∀ body ∈ image.bodies, body.1.npcommid.data.1 ≠ [] := by
    have both : ((fun body : NPBindBody => body.npcommid.data.1) ∘ Prod.fst) =
        fun body : NPBindBody × Field bodyPadding => body.1.npcommid.data.1 := rfl
    rw [getNpCommIds_eq, Image.loaded, List.map_map, both, List.filter_eq_self,
      List.forall_mem_map]
    simp only [Bool.not_eq_true', List.isEmpty_eq_false_iff]
  constructor
  · rintro ⟨loaded, found, given⟩
    have reserved : image.bodies.length ≤ limit := by
      by_contra many
      rw [load_image_unreserved (by omega)] at found
      exact nomatch found
    rw [load_image reserved] at found
    cases found
    exact ⟨reserved, ids.mp given⟩
  · rintro ⟨reserved, all⟩
    exact ⟨image.loaded, load_image reserved, ids.mpr all⟩

theorem foreign_or_headed (data : List UInt8) :
    Foreign data ∨ ∃ (header : NpBindHeader) (rest : List UInt8), data = header.encode ++ rest ∧
      bigEndian header.magic.1 = NPBIND_MAGIC := by
  by_cases headed : ∃ (header : NpBindHeader) (rest : List UInt8),
      data = header.encode ++ rest ∧ bigEndian header.magic.1 = NPBIND_MAGIC
  · exact .inr headed
  · left
    intro header rest same own
    exact headed ⟨header, rest, same, own⟩

theorem settles_of_foreign {limit : Nat} {data : List UInt8} {file : NPBindFile}
    (foreign : Foreign data) : Settles limit data file := by
  by_cases short : data.length < 0x80
  · exact ⟨_, load_short short, fun _ => ⟨rfl, file.clear_isValid⟩⟩
  · obtain ⟨header, same⟩ := header_of_length data (by omega)
    have wrong := foreign header _ same
    rw [same]
    refine ⟨_, load_refused wrong, fun _ => ⟨rfl, ?_⟩⟩
    exact beq_false_of_ne wrong

theorem headed_unique {header header' : NpBindHeader} {rest rest' : List UInt8}
    (same : header.encode ++ rest = header'.encode ++ rest') :
    header = header' ∧ rest = rest' := by
  constructor
  · have one := readHeader_eq header rest
    rw [same, readHeader_eq header' rest'] at one
    exact (Except.ok.inj one).symm
  · rw [← drop_headed header rest, same, drop_headed]

theorem complete_headed {limit : Nat} {header : NpBindHeader} {rest : List UInt8} :
    Complete limit (header.encode ++ rest) ↔ bigEndian header.numEntries.1 ≤ limit ∧
      Present (bigEndian header.numEntries.1) rest := by
  constructor
  · rintro ⟨header', rest', same, all⟩
    obtain ⟨rfl, rfl⟩ := headed_unique same
    exact all
  · intro all
    exact ⟨header, rest, rfl, all⟩

theorem settles_headed {limit : Nat} {header : NpBindHeader} {rest : List UInt8}
    {file : NPBindFile} (own : bigEndian header.magic.1 = NPBIND_MAGIC) :
    Settles limit (header.encode ++ rest) file ↔ Complete limit (header.encode ++ rest) := by
  rw [complete_headed]
  by_cases reserved : bigEndian header.numEntries.1 ≤ limit
  · have behind : 0x80 ≤ (header.encode ++ rest).length := by
      rw [length_headed]
      omega
    obtain ⟨⟨ended, bodies⟩, walk, all⟩ := readBodies_present (header.encode ++ rest)
      (bigEndian header.numEntries.1) behind
    rw [drop_headed] at all
    cases ended with
    | false =>
      constructor
      · rintro ⟨outcome, found, empty⟩
        rw [load_cut own reserved walk] at found
        cases found
        -- the header that was accepted is still there
        have still : bigEndian header.magic.1 == NPBIND_MAGIC := beq_of_eq own
        exact absurd still (ne_true_of_eq_false (empty rfl).2)
      · rintro ⟨-, present⟩
        exact nomatch all.mpr present
    | true =>
      obtain ⟨digest, found, -⟩ := load_done file own reserved walk
      constructor
      · intro _
        exact ⟨reserved, all.mp rfl⟩
      · intro _
        exact ⟨_, found, fun impossible => nomatch impossible⟩
  · constructor
    · rintro ⟨outcome, found, -⟩
      rw [load_unreserved own (by omega)] at found
      exact nomatch found
    · rintro ⟨within, -⟩
      exact absurd within reserved

/-- An image comes back when its bodies can be reserved, its ids when every body has one as well;
loading arbitrary bytes settles when they are foreign or all that the header announces is there. -/
theorem load_lawful_iff (limit : Nat) :
    (∀ (image : Image) (file : NPBindFile),
      GivesBack limit image file ↔ image.bodies.length ≤ limit) ∧
    (∀ (image : Image) (file : NPBindFile), GivesBackIds limit image file ↔
      image.bodies.length ≤ limit ∧ ∀ body ∈ image.bodies, body.1.npcommid.data.1 ≠ []) ∧
    (∀ (data : List UInt8) (file : NPBindFile),
      Settles limit data file ↔ Foreign data ∨ Complete limit data) := by
  refine ⟨givesBack_iff limit, givesBackIds_iff limit, ?_⟩
  intro data file
  rcases foreign_or_headed data with foreign | ⟨header, rest, rfl, own⟩
  · constructor
    · intro _
      exact .inl foreign
    · intro _
      exact settles_of_foreign foreign
  · rw [settles_headed own]
    constructor
    · exact .inr
    · rintro (foreign | complete)
      · exact absurd own (foreign header rest rfl)
      · exact complete

def announcing (count : Field 8) : NpBindHeader :=
  { NpBindHeader.zero with magic := ⟨[0xD2, 0x94, 0xA0, 0x18], rfl⟩, numEntries := count }

/-- Every byte of the count set: more bodies than any vector can hold. -/
def countless : Field 8 := ⟨[0xFF, 0xFF, 0xFF, 0xFF, 0xFF, 0xFF, 0xFF, 0xFF], rfl⟩

def single : Field 8 := ⟨[0, 0, 0, 0, 0, 0, 0, 1], rfl⟩

def blank : NPBindFile := ⟨NpBindHeader.zero, [], Field.zero 20⟩

/-- A header alone: with every count bit set it throws, and with one body announced it fails and
stays valid. -/
theorem headers_do_not_settle :
    ¬Settles maxSize ((announcing countless).encode ++ []) blank ∧
    ¬Settles maxSize ((announcing single).encode ++ []) blank := by
  constructor
  · rw [settles_headed (by decide), complete_headed]
    rintro ⟨within, -⟩
    exact absurd within (by decide)
  · rw [settles_headed (by decide), complete_headed]
    rintro ⟨-, present⟩
    have one : bigEndian (announcing single).numEntries.1 = 1 := by decide
    rw [one] at present
    obtain ⟨body, tail, empty, -⟩ := present
    have lengths := congrArg List.length empty
    rw [List.length_append, List.length_nil] at lengths
    have enough := body.length_encode
    omega

end NPBind
