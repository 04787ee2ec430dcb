import ShadNet.FileFields

/-!
# PSF files

A header names two tables and the number of index entries. Every entry gives the place of a key in
one table, and type, length and place of a value in the other. Values are kept by entry in one map
for each type; a key stands for the first entry that has it.

An unordered map from entries to values is the function that looks an entry up.
-/

namespace PSFFile

open FileFields

def PSF_MAGIC : Nat := 0x00505346
def PSF_VERSION_1_1 : Nat := 0x00000101
def PSF_VERSION_1_0 : Nat := 0x00000100

structure PSFHeader where
  magic : Nat
  version : Nat
  keyTableOffset : Nat
  dataTableOffset : Nat
  indexTableEntries : Nat

def PSFHeader.of (bytes : List UInt8) : PSFHeader where
  magic := bigEndian (bytes.take 4)
  version := number bytes 4 4
  keyTableOffset := number bytes 8 4
  dataTableOffset := number bytes 12 4
  indexTableEntries := number bytes 16 4

/-- `paramFmt` is the field as it lies in memory. -/
structure PSFRawEntry where
  keyOffset : Nat
  paramFmt : Nat
  paramLen : Nat
  paramMaxLen : Nat
  dataOffset : Nat

def PSFRawEntry.of (bytes : List UInt8) : PSFRawEntry where
  keyOffset := number bytes 0 2
  paramFmt := number bytes 2 2
  paramLen := number bytes 4 4
  paramMaxLen := number bytes 8 4
  dataOffset := number bytes 12 4

inductive PSFEntryFmt where
  | binary
  | text
  | integer
  | unknown (raw : Nat)
  deriving DecidableEq

def PSFEntryFmt.ofRaw (raw : Nat) : PSFEntryFmt :=
  if raw = 0x0004 then .binary
  else if raw = 0x0204 then .text
  else if raw = 0x0404 then .integer
  else .unknown raw

structure Entry where
  key : List UInt8
  paramFmt : PSFEntryFmt
  maxLen : Nat

abbrev IndexMap (ν : Type) := Nat → Option ν

namespace IndexMap

variable {ν : Type}

def emplace (map : IndexMap ν) (index : Nat) (value : ν) : IndexMap ν := fun j =>
  if j = index then (map index).or (some value) else map j

def get (map : IndexMap ν) (index : Nat) : Except Fault ν :=
  match map index with
  | some value => .ok value
  | none => .error .exception

end IndexMap

structure PSF where
  entryList : List Entry := []
  mapBinaries : IndexMap (List UInt8) := fun _ => none
  mapStrings : IndexMap (List UInt8) := fun _ => none
  mapIntegers : IndexMap Int := fun _ => none

def signed (bits : Nat) : Int := (BitVec.ofNat 32 bits).toInt

/-! ## Opening -/

def readValue (data : List UInt8) (place : Nat) (rawEntry : PSFRawEntry) (i : Nat) (psf : PSF) :
    Except Fault PSF :=
  match PSFEntryFmt.ofRaw rawEntry.paramFmt with
  | .binary => do
    let value ← bytesAt data place rawEntry.paramLen
    return { psf with mapBinaries := psf.mapBinaries.emplace i value.1 }
  | .text => do
    let value ← stringAt data place
    return { psf with mapStrings := psf.mapStrings.emplace i value }
  | .integer => do
    let value ← bytesAt data place 4
    return { psf with mapIntegers := psf.mapIntegers.emplace i (signed (littleEndian value.1)) }
  | .unknown _ => return psf

def readEntry (data : List UInt8) (header : PSFHeader) (i : Nat) (psf : PSF) :
    Except Fault PSF := do
  let bytes ← bytesAt data (0x14 + i * 0x10) 0x10
  let rawEntry := PSFRawEntry.of bytes.1
  let key ← stringAt data (header.keyTableOffset + rawEntry.keyOffset)
  let entry := ⟨key, PSFEntryFmt.ofRaw rawEntry.paramFmt, rawEntry.paramMaxLen⟩
  readValue data (header.dataTableOffset + rawEntry.dataOffset) rawEntry i
    { psf with entryList := psf.entryList ++ [entry] }

/-- The loop over the `left` entries from `i` on. -/
def readEntries (data : List UInt8) (header : PSFHeader) :
    Nat → Nat → PSF → Except Fault PSF
  | 0, _, psf => .ok psf
  | left + 1, i, psf =>
    match readEntry data header i psf with
    | .error fault => .error fault
    | .ok psf => readEntries data header left (i + 1) psf

def openBuffer (data : List UInt8) (_ : PSF) : Except Fault (Bool × PSF) := do
  let psf : PSF := {}
  let bytes ← bytesAt data 0 0x14
  let header := PSFHeader.of bytes.1
  if header.magic ≠ PSF_MAGIC then return (false, psf)
  else if header.version ≠ PSF_VERSION_1_1 ∧ header.version ≠ PSF_VERSION_1_0 then
    return (false, psf)
  else do
    let psf ← readEntries data header header.indexTableEntries 0 psf
    return (true, psf)

/-! ## Looking up -/

def findEntry (psf : PSF) (key : List UInt8) : Option Nat :=
  psf.entryList.findIdx? fun entry => entry.key == key

/-- The three getters, each over its own map. -/
def getFrom {ν : Type} (map : IndexMap ν) (psf : PSF) (key : List UInt8) :
    Except Fault (Option ν) :=
  match findEntry psf key with
  | none => .ok none
  | some index => (map.get index).map some

def getBinary (psf : PSF) : List UInt8 → Except Fault (Option (List UInt8)) :=
  getFrom psf.mapBinaries psf

def getString (psf : PSF) : List UInt8 → Except Fault (Option (List UInt8)) :=
  getFrom psf.mapStrings psf

def getInteger (psf : PSF) : List UInt8 → Except Fault (Option Int) :=
  getFrom psf.mapIntegers psf

/-! ## What the bytes say -/

def headerOf (data : List UInt8) : PSFHeader := PSFHeader.of (data.take 0x14)

def count (data : List UInt8) : Nat := (headerOf data).indexTableEntries

def rawEntryOf (data : List UInt8) (i : Nat) : PSFRawEntry :=
  PSFRawEntry.of ((data.drop (0x14 + i * 0x10)).take 0x10)

def fmtOf (data : List UInt8) (i : Nat) : PSFEntryFmt :=
  PSFEntryFmt.ofRaw (rawEntryOf data i).paramFmt

def keyPlace (data : List UInt8) (i : Nat) : Nat :=
  (headerOf data).keyTableOffset + (rawEntryOf data i).keyOffset

def valuePlace (data : List UInt8) (i : Nat) : Nat :=
  (headerOf data).dataTableOffset + (rawEntryOf data i).dataOffset

def keyOf (data : List UInt8) (i : Nat) : List UInt8 :=
  (data.drop (keyPlace data i)).takeWhile (· ≠ 0)

def binaryOf (data : List UInt8) (i : Nat) : List UInt8 :=
  (data.drop (valuePlace data i)).take (rawEntryOf data i).paramLen

def textOf (data : List UInt8) (i : Nat) : List UInt8 :=
  (data.drop (valuePlace data i)).takeWhile (· ≠ 0)

def integerOf (data : List UInt8) (i : Nat) : Int :=
  signed (littleEndian ((data.drop (valuePlace data i)).take 4))

/-- The first entry with the key. -/
def firstEntry (data : List UInt8) (key : List UInt8) : Option Nat :=
  ((List.range (count data)).map (keyOf data)).findIdx? fun k => k == key

/-- The value of the first entry with the key, if it has the type. -/
def wanted {ν : Type} (fmt : PSFEntryFmt) (value : List UInt8 → Nat → ν) (data key : List UInt8) :
    Option ν :=
  match firstEntry data key with
  | none => none
  | some i => if fmtOf data i = fmt then some (value data i) else none

/-- The header can be read, and is not one of this format. -/
def Refused (data : List UInt8) : Prop :=
  Inside data 0 0x14 ∧ ((headerOf data).magic ≠ PSF_MAGIC ∨
    ((headerOf data).version ≠ PSF_VERSION_1_1 ∧ (headerOf data).version ≠ PSF_VERSION_1_0))

/-- What one entry needs: itself, its key and its value with the announced length, a text up to
its zero and an integer as wide as it is. -/
structure EntryFits (data : List UInt8) (i : Nat) : Prop where
  index : Inside data (0x14 + i * 0x10) 0x10
  key : 0 ∈ data.drop (keyPlace data i)
  value : Inside data (valuePlace data i) (rawEntryOf data i).paramLen
  text : fmtOf data i = .text → 0 ∈ data.drop (valuePlace data i)
  integer : fmtOf data i = .integer → Inside data (valuePlace data i) 4

structure Fits (data : List UInt8) : Prop where
  header : Inside data 0 0x14
  entries : ∀ i < count data, EntryFits data i

/-- Opening stays inside the buffer and fails when the contents do not fit; when it does not fail,
the getter returns what the key stands for. -/
def Lawful {ν : Type} (get : PSF → List UInt8 → Except Fault (Option ν)) (fmt : PSFEntryFmt)
    (value : List UInt8 → Nat → ν) (data : List UInt8) (psf : PSF) (key : List UInt8) : Prop :=
  ∃ outcome, openBuffer data psf = .ok outcome ∧
    (outcome.1 = true → Fits data ∧ get outcome.2 key = .ok (wanted fmt value data key))

/-- The key is absent, or its first entry has the type. -/
def Asked (fmt : PSFEntryFmt) (data key : List UInt8) : Prop :=
  ∀ i, firstEntry data key = some i → fmtOf data i = fmt

/-! ## One entry -/

/-- What the code reads of an entry. -/
structure Readable (data : List UInt8) (i : Nat) : Prop where
  index : Inside data (0x14 + i * 0x10) 0x10
  key : 0 ∈ data.drop (keyPlace data i)
  binary : fmtOf data i = .binary → Inside data (valuePlace data i) (rawEntryOf data i).paramLen
  text : fmtOf data i = .text → 0 ∈ data.drop (valuePlace data i)
  integer : fmtOf data i = .integer → Inside data (valuePlace data i) 4

theorem EntryFits.readable {data : List UInt8} {i : Nat} (fits : EntryFits data i) :
    Readable data i :=
  ⟨fits.index, fits.key, fun _ => fits.value, fits.text, fits.integer⟩

/-- The values of one type among the first `n` entries. -/
def valuesOf {ν : Type} (fmt : PSFEntryFmt) (value : List UInt8 → Nat → ν) (data : List UInt8)
    (n : Nat) : IndexMap ν := fun j =>
  if j < n ∧ fmtOf data j = fmt then some (value data j) else none

def entryOf (data : List UInt8) (i : Nat) : Entry :=
  ⟨keyOf data i, fmtOf data i, (rawEntryOf data i).paramMaxLen⟩

/-- The object behind the first `n` entries. -/
def filled (data : List UInt8) (n : Nat) : PSF where
  entryList := (List.range n).map (entryOf data)
  mapBinaries := valuesOf .binary binaryOf data n
  mapStrings := valuesOf .text textOf data n
  mapIntegers := valuesOf .integer integerOf data n

section Values

variable {ν : Type} {fmt : PSFEntryFmt} {value : List UInt8 → Nat → ν} {data : List UInt8} {n : Nat}

theorem valuesOf_other (other : fmtOf data n ≠ fmt) :
    valuesOf fmt value data (n + 1) = valuesOf fmt value data n := by
  funext j
  rw [valuesOf, valuesOf]
  have same : (j < n + 1 ∧ fmtOf data j = fmt) ↔ (j < n ∧ fmtOf data j = fmt) := by
    constructor
    · rintro ⟨early, own⟩
      refine ⟨?_, own⟩
      have different : j ≠ n := by
        rintro rfl
        exact other own
      omega
    · rintro ⟨early, own⟩
      exact ⟨by omega, own⟩
  simp only [same]

theorem valuesOf_own (own : fmtOf data n = fmt) :
    valuesOf fmt value data (n + 1) = (valuesOf fmt value data n).emplace n (value data n) := by
  funext j
  rw [IndexMap.emplace]
  by_cases here : j = n
  · subst here
    simp [valuesOf, own]
  · rw [if_neg here, valuesOf, valuesOf]
    have same : j < n + 1 ↔ j < n := by omega
    simp only [same]

end Values

/-- The object with the key of entry `n` pushed, and its value still to be read. -/
def pushed (data : List UInt8) (n : Nat) : PSF :=
  { filled data n with entryList := (filled data n).entryList ++ [entryOf data n] }

theorem entries_succ (data : List UInt8) (n : Nat) :
    (List.range (n + 1)).map (entryOf data) = (pushed data n).entryList := by
  rw [List.range_succ, List.map_append]
  rfl

theorem readEntry_front {data : List UInt8} {n : Nat}
    (index : Inside data (0x14 + n * 0x10) 0x10) (key : 0 ∈ data.drop (keyPlace data n)) :
    readEntry data (headerOf data) n (filled data n) =
      readValue data (valuePlace data n) (rawEntryOf data n) n (pushed data n) := by
  obtain ⟨bytes, found, same⟩ := bytesAt_take index
  have raw : PSFRawEntry.of bytes.1 = rawEntryOf data n := by rw [same, rawEntryOf]
  have name : stringAt data ((headerOf data).keyTableOffset + (rawEntryOf data n).keyOffset) =
      .ok (keyOf data n) := if_pos key
  rw [readEntry, found]
  change (stringAt data (_ + (PSFRawEntry.of bytes.1).keyOffset)).bind _ = _
  rw [raw, name]
  rfl

theorem readValue_ok {data : List UInt8} {n : Nat} (readable : Readable data n) :
    readValue data (valuePlace data n) (rawEntryOf data n) n (pushed data n) =
      .ok (filled data (n + 1)) := by
  rw [readValue, filled, entries_succ]
  split
  · next own =>
    have binary : fmtOf data n = .binary := own
    obtain ⟨value, found, same⟩ := bytesAt_take (readable.binary binary)
    rw [found, valuesOf_own binary, valuesOf_other (by rw [binary]; decide),
      valuesOf_other (by rw [binary]; decide), binaryOf, ← same]
    rfl
  · next own =>
    have text : fmtOf data n = .text := own
    have found : stringAt data (valuePlace data n) = .ok (textOf data n) :=
      if_pos (readable.text text)
    rw [found, valuesOf_own text, valuesOf_other (by rw [text]; decide),
      valuesOf_other (by rw [text]; decide)]
    rfl
  · next own =>
    have integer : fmtOf data n = .integer := own
    obtain ⟨value, found, same⟩ := bytesAt_take (readable.integer integer)
    rw [found, valuesOf_own integer, valuesOf_other (by rw [integer]; decide),
      valuesOf_other (by rw [integer]; decide), integerOf, ← same]
    rfl
  · next raw own =>
    have unknown : fmtOf data n = .unknown raw := own
    rw [valuesOf_other (by rw [unknown]; exact nofun),
      valuesOf_other (by rw [unknown]; exact nofun),
      valuesOf_other (by rw [unknown]; exact nofun)]
    rfl

theorem readValue_outside {data : List UInt8} {n : Nat} (psf : PSF)
    (index : Inside data (0x14 + n * 0x10) 0x10) (key : 0 ∈ data.drop (keyPlace data n))
    (unreadable : ¬Readable data n) :
    readValue data (valuePlace data n) (rawEntryOf data n) n psf = .error .outside := by
  rw [readValue]
  split
  · next own =>
    have binary : fmtOf data n = .binary := own
    have outside : ¬Inside data (valuePlace data n) (rawEntryOf data n).paramLen := by
      intro inside
      refine unreadable ⟨index, key, fun _ => inside, ?_, ?_⟩ <;> (rw [binary]; exact nofun)
    rw [bytesAt_outside outside]
    rfl
  · next own =>
    have text : fmtOf data n = .text := own
    have endless : ¬0 ∈ data.drop (valuePlace data n) := by
      intro ended
      refine unreadable ⟨index, key, ?_, fun _ => ended, ?_⟩ <;> (rw [text]; exact nofun)
    rw [stringAt, if_neg endless]
    rfl
  · next own =>
    have integer : fmtOf data n = .integer := own
    have outside : ¬Inside data (valuePlace data n) 4 := by
      intro inside
      refine unreadable ⟨index, key, ?_, ?_, fun _ => inside⟩ <;> (rw [integer]; exact nofun)
    rw [bytesAt_outside outside]
    rfl
  · next raw own =>
    have unknown : fmtOf data n = .unknown raw := own
    refine absurd ⟨index, key, ?_, ?_, ?_⟩ unreadable <;> (rw [unknown]; exact nofun)

theorem readEntry_ok {data : List UInt8} {n : Nat} (readable : Readable data n) :
    readEntry data (headerOf data) n (filled data n) = .ok (filled data (n + 1)) := by
  rw [readEntry_front readable.index readable.key, readValue_ok readable]

theorem readEntry_outside {data : List UInt8} {n : Nat} (unreadable : ¬Readable data n) :
    readEntry data (headerOf data) n (filled data n) = .error .outside := by
  by_cases index : Inside data (0x14 + n * 0x10) 0x10
  · by_cases key : 0 ∈ data.drop (keyPlace data n)
    · rw [readEntry_front index key, readValue_outside _ index key unreadable]
    · obtain ⟨bytes, found, same⟩ := bytesAt_take index
      have raw : PSFRawEntry.of bytes.1 = rawEntryOf data n := by rw [same, rawEntryOf]
      have endless : stringAt data ((headerOf data).keyTableOffset +
          (rawEntryOf data n).keyOffset) = .error .outside := if_neg key
      rw [readEntry, found]
      change (stringAt data (_ + (PSFRawEntry.of bytes.1).keyOffset)).bind _ = _
      rw [raw, endless]
      rfl
  · rw [readEntry, bytesAt_outside index]
    rfl

/-! ## All entries -/

theorem readEntries_ok {data : List UInt8} (left : Nat) {n : Nat}
    (readable : ∀ i, n ≤ i → i < n + left → Readable data i) :
    readEntries data (headerOf data) left n (filled data n) = .ok (filled data (n + left)) := by
  induction left generalizing n with
  | zero => rfl
  | succ left ih =>
    rw [readEntries, readEntry_ok (readable n (by omega) (by omega))]
    change readEntries data (headerOf data) left (n + 1) (filled data (n + 1)) = _
    rw [ih (fun i after before => readable i (by omega) (by omega))]
    congr 2
    omega

theorem readEntries_outside {data : List UInt8} (left : Nat) {n i : Nat} (after : n ≤ i)
    (before : i < n + left) (unreadable : ¬Readable data i) :
    readEntries data (headerOf data) left n (filled data n) = .error .outside := by
  induction left generalizing n with
  | zero => omega
  | succ left ih =>
    rw [readEntries]
    by_cases first : Readable data n
    · have later : n ≠ i := by
        rintro rfl
        exact unreadable first
      rw [readEntry_ok first]
      exact ih (by omega) (by omega)
    · rw [readEntry_outside first]

theorem openBuffer_outside {data : List UInt8} {psf : PSF} (short : ¬Inside data 0 0x14) :
    openBuffer data psf = .error .outside := by
  rw [openBuffer, bytesAt_outside short]
  rfl

/-- Behind the header that was read. -/
theorem openBuffer_inside {data : List UInt8} {psf : PSF} (inside : Inside data 0 0x14) :
    openBuffer data psf =
      if (headerOf data).magic ≠ PSF_MAGIC then .ok (false, {})
      else if (headerOf data).version ≠ PSF_VERSION_1_1 ∧
          (headerOf data).version ≠ PSF_VERSION_1_0 then .ok (false, {})
      else (readEntries data (headerOf data) (count data) 0 {}).map fun psf => (true, psf) := by
  obtain ⟨bytes, found, same⟩ := bytesAt_take inside
  have header : PSFHeader.of bytes.1 = headerOf data := by
    rw [same, List.drop_zero, headerOf]
  rw [openBuffer, found]
  change (if (PSFHeader.of bytes.1).magic ≠ PSF_MAGIC then _ else _) = _
  rw [header]
  rfl

theorem filled_zero (data : List UInt8) : filled data 0 = {} := by
  have empty : ∀ {ν : Type} (fmt : PSFEntryFmt) (value : List UInt8 → Nat → ν),
      valuesOf fmt value data 0 = fun _ => none := by
    intro ν fmt value
    funext j
    exact if_neg fun early => absurd early.1 (Nat.not_lt_zero j)
  rw [filled, empty, empty, empty]
  rfl

section Opening

variable {data : List UInt8} {psf : PSF}

theorem openBuffer_refused (refused : Refused data) : openBuffer data psf = .ok (false, {}) := by
  obtain ⟨inside, foreign | unsupported⟩ := refused
  · rw [openBuffer_inside inside, if_pos foreign]
  · rw [openBuffer_inside inside, if_pos unsupported, ite_self]

theorem openBuffer_known (inside : Inside data 0 0x14) (known : ¬Refused data) :
    openBuffer data psf =
      (readEntries data (headerOf data) (count data) 0 {}).map fun psf => (true, psf) := by
  rw [openBuffer_inside inside, if_neg fun foreign => known ⟨inside, .inl foreign⟩,
    if_neg fun unsupported => known ⟨inside, .inr unsupported⟩]

theorem openBuffer_readable (inside : Inside data 0 0x14) (known : ¬Refused data)
    (readable : ∀ i < count data, Readable data i) :
    openBuffer data psf = .ok (true, filled data (count data)) := by
  rw [openBuffer_known inside known, ← filled_zero data,
    readEntries_ok (count data) (fun i _ before => readable i (by omega)), Nat.zero_add]
  rfl

theorem openBuffer_unreadable {i : Nat} (inside : Inside data 0 0x14) (known : ¬Refused data)
    (before : i < count data) (unreadable : ¬Readable data i) :
    openBuffer data psf = .error .outside := by
  rw [openBuffer_known inside known, ← filled_zero data,
    readEntries_outside (count data) (Nat.zero_le i) (by omega) unreadable]
  rfl

end Opening

/-! ## Keys -/

section Keys

variable {ν : Type} {fmt : PSFEntryFmt} {value : List UInt8 → Nat → ν} {data key : List UInt8}

theorem findEntry_filled (data key : List UInt8) :
    findEntry (filled data (count data)) key = firstEntry data key := by
  rw [findEntry, firstEntry, filled, List.findIdx?_map, List.findIdx?_map]
  rfl

theorem firstEntry_lt {i : Nat} (first : firstEntry data key = some i) : i < count data := by
  have early := (List.findIdx?_eq_some_iff_findIdx_eq.mp first).1
  rwa [List.length_map, List.length_range] at early

theorem getFrom_filled (asked : Asked fmt data key) :
    getFrom (valuesOf fmt value data (count data)) (filled data (count data)) key =
      .ok (wanted fmt value data key) := by
  rw [getFrom, findEntry_filled, wanted]
  cases first : firstEntry data key with
  | none => rfl
  | some i =>
    have own := asked i first
    have kept : valuesOf fmt value data (count data) i = some (value data i) :=
      if_pos ⟨firstEntry_lt first, own⟩
    change (IndexMap.get _ i).map some = _
    rw [IndexMap.get, kept]
    change Except.ok (some (value data i)) = .ok (if fmtOf data i = fmt then _ else _)
    rw [if_pos own]

/-- A first entry of another type is in no map of this one. -/
theorem getFrom_other {i : Nat} (first : firstEntry data key = some i)
    (other : fmtOf data i ≠ fmt) :
    getFrom (valuesOf fmt value data (count data)) (filled data (count data)) key =
      .error .exception := by
  have missing : valuesOf fmt value data (count data) i = none :=
    if_neg fun kept => other kept.2
  rw [getFrom, findEntry_filled, first]
  change (IndexMap.get _ i).map some = _
  rw [IndexMap.get, missing]
  rfl

variable {get : PSF → List UInt8 → Except Fault (Option ν)} {psf : PSF}

theorem lawful_iff
    (own : ∀ data, get (filled data (count data)) =
      getFrom (valuesOf fmt value data (count data)) (filled data (count data))) :
    Lawful get fmt value data psf key ↔ Refused data ∨ (Fits data ∧ Asked fmt data key) := by
  constructor
  · rintro ⟨outcome, opened, lawful⟩
    by_cases refused : Refused data
    · exact .inl refused
    · right
      by_cases inside : Inside data 0 0x14
      · have readable : ∀ i < count data, Readable data i := by
          intro i before
          by_contra unreadable
          rw [openBuffer_unreadable inside refused before unreadable] at opened
          exact nomatch opened
        rw [openBuffer_readable inside refused readable] at opened
        cases opened
        obtain ⟨fits, got⟩ := lawful rfl
        refine ⟨fits, ?_⟩
        intro i first
        by_contra other
        rw [own, getFrom_other first other] at got
        exact nomatch got
      · rw [openBuffer_outside inside] at opened
        exact nomatch opened
  · rintro (refused | ⟨fits, asked⟩)
    · exact ⟨_, openBuffer_refused refused, fun impossible => nomatch impossible⟩
    · by_cases refused : Refused data
      · exact ⟨_, openBuffer_refused refused, fun impossible => nomatch impossible⟩
      · have readable : ∀ i < count data, Readable data i :=
          fun i before => (fits.entries i before).readable
        refine ⟨_, openBuffer_readable fits.header refused readable, fun _ => ⟨fits, ?_⟩⟩
        rw [own]
        exact getFrom_filled asked

end Keys

/-- Opening and a getter are right just when the header is refused, or everything fits and the
key's first entry, if any, has the getter's type. -/
theorem getters_lawful_iff (data : List UInt8) (psf : PSF) (key : List UInt8) :
    (Lawful getBinary .binary binaryOf data psf key ↔
      Refused data ∨ (Fits data ∧ Asked .binary data key)) ∧
    (Lawful getString .text textOf data psf key ↔
      Refused data ∨ (Fits data ∧ Asked .text data key)) ∧
    (Lawful getInteger .integer integerOf data psf key ↔
      Refused data ∨ (Fits data ∧ Asked .integer data key)) :=
  ⟨lawful_iff fun _ => rfl, lawful_iff fun _ => rfl, lawful_iff fun _ => rfl⟩

/-- One text entry: key `A`, value `B`. -/
def oneText : List UInt8 :=
  [0x00, 0x50, 0x53, 0x46, 0x01, 0x01, 0, 0, 0x24, 0, 0, 0, 0x26, 0, 0, 0, 1, 0, 0, 0] ++
  [0, 0, 0x04, 0x02, 2, 0, 0, 0, 4, 0, 0, 0, 0, 0, 0, 0] ++ [65, 0, 66, 0]

/-- Three bytes are read as a header; the text is asked for as an integer. -/
theorem buffers_are_not_lawful :
    openBuffer [0x00, 0x50, 0x53] {} = .error .outside ∧
    ¬Lawful getInteger .integer integerOf [0x00, 0x50, 0x53] {} [65] ∧
    ¬Lawful getInteger .integer integerOf oneText {} [65] := by
  refine ⟨?_, ?_, ?_⟩
  · exact openBuffer_outside (by decide)
  · rintro ⟨outcome, opened, -⟩
    rw [openBuffer_outside (by decide)] at opened
    exact nomatch opened
  · rw [lawful_iff fun _ => rfl]
    rintro (⟨-, foreign | ⟨unsupported, -⟩⟩ | ⟨-, asked⟩)
    · exact foreign (by decide)
    · exact unsupported (by decide)
    · exact absurd (asked 0 (by decide)) (by decide)

end PSFFile
