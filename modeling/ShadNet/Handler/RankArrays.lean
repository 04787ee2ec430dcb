import ShadNet.Handler.Types
import Mathlib.Data.BitVec
import Mathlib.Data.List.Basic
import Mathlib.Tactic.SplitIfs

/-!
# The caller's arrays of a ranking reply

The arrays as memory: a write behind the end of an array is no result at all. Ranks, comments and
game infos are written side by side.
-/

namespace NpHandler.RankArrays

/-- `memcpy` of so many bytes to the start of a buffer. -/
def memcpy (dst src : Bytes) (n : Nat) : Bytes := src.take n ++ dst.drop n

structure OnlineId where
  data : Bytes := List.replicate 16 0
  term : UInt8 := 0
  deriving DecidableEq, Repr

structure NpId where
  handle : OnlineId := {}
  opt : Bytes := List.replicate 8 0
  reserved : Bytes := List.replicate 8 0
  deriving DecidableEq, Repr

structure RankData where
  npId : NpId := {}
  pcId : Int := 0
  serialRank : Nat := 0
  rank : Nat := 0
  highestRank : Nat := 0
  hasGameData : Int := 0
  scoreValue : Int := 0
  recordDate : Nat := 0
  deriving DecidableEq, Repr

/-- The name is an online id; `reserved0` stands where the plain variant has the rest of the id. -/
structure RankDataA where
  onlineId : OnlineId := {}
  reserved0 : Bytes := List.replicate 16 0
  pcId : Int := 0
  serialRank : Nat := 0
  rank : Nat := 0
  highestRank : Nat := 0
  hasGameData : Int := 0
  scoreValue : Int := 0
  recordDate : Nat := 0
  accountId : Int := 0
  deriving DecidableEq, Repr

structure PlayerRankData where
  hasData : Int := 0
  rankData : RankData := {}
  deriving DecidableEq, Repr

structure PlayerRankDataA where
  hasData : Int := 0
  rankData : RankDataA := {}
  deriving DecidableEq, Repr

structure GameInfo where
  infoSize : Nat := 0
  data : Bytes := List.replicate 189 0
  deriving DecidableEq, Repr

abbrev Comment := Bytes

/-- The comment and the game info array may be null. -/
structure Arrays (α : Type) where
  ranks : List α
  comments : Option (List Comment) := none
  infos : Option (List GameInfo) := none
  deriving DecidableEq, Repr

/-! ## One entry -/

def copyName (npid : Bytes) (id : OnlineId) : OnlineId :=
  { data := memcpy id.data npid (min npid.length 16), term := 0 }

def sharedOrOwn (r : ScoreRankData) : Nat := if r.sharedRank ≠ 0 then r.sharedRank else r.rank

def RankData.assign (r : ScoreRankData) (out : RankData) : RankData :=
  { out with
    npId := { out.npId with handle := copyName r.npId out.npId.handle }
    pcId := r.pcId
    serialRank := r.rank
    rank := sharedOrOwn r
    highestRank := sharedOrOwn r
    hasGameData := if r.hasGameData then 1 else 0
    scoreValue := r.score
    recordDate := r.recordDate }

def RankDataA.assign (r : ScoreRankData) (out : RankDataA) : RankDataA :=
  { out with
    onlineId := copyName r.npId out.onlineId
    pcId := r.pcId
    serialRank := r.rank
    rank := sharedOrOwn r
    highestRank := sharedOrOwn r
    hasGameData := if r.hasGameData then 1 else 0
    scoreValue := r.score
    recordDate := r.recordDate
    accountId := r.accountId }

def PlayerRankData.assign (r : ScoreRankData) (out : PlayerRankData) : PlayerRankData :=
  { hasData := 1, rankData := out.rankData.assign r }

def PlayerRankDataA.assign (r : ScoreRankData) (out : PlayerRankDataA) : PlayerRankDataA :=
  { hasData := 1, rankData := out.rankData.assign r }

/-- The comment keeps room for its NUL. -/
def copyComment (cmt : Bytes) (cell : Comment) : Comment := memcpy cell cmt (min cmt.length 63)

def copyInfo (gi : Bytes) (cell : GameInfo) : GameInfo :=
  { infoSize := min gi.length 189, data := memcpy cell.data gi (min gi.length 189) }

def writeAt {β : Type} (cells : List β) (i : Nat) (f : β → β) : Option (List β) :=
  if i < cells.length then some (cells.modify i f) else none

/-- The write that is skipped for a null array, and for an entry that the reply does not have. -/
def writeBeside {β : Type} (copy : Bytes → β → β) (array : Option (List β)) (entry : Option Bytes)
    (i : Nat) : Option (Option (List β)) :=
  match array, entry with
  | some cells, some bytes => (writeAt cells i (copy bytes)).map some
  | _, _ => some array

variable {α β : Type}

/-- Entry `i` of the reply is written to place `out` of the arrays. -/
def writeEntry (assign : ScoreRankData → α → α) (resp : GetScoreResponse) (r : ScoreRankData)
    (i out : Nat) (a : Arrays α) : Option (Arrays α) := do
  let ranks ← writeAt a.ranks out (assign r)
  let comments ← writeBeside copyComment a.comments resp.commentArray[i]? out
  let infos ← writeBeside copyInfo a.infos resp.infoArray[i]? out
  return { ranks, comments, infos }

/-! ## The loops -/

/-- `i` is the position in the reply, `out` the next free place. -/
def plainLoop (assign : ScoreRankData → α → α) (resp : GetScoreResponse) (maxSlots : Nat) :
    Nat → Nat → List ScoreRankData → Arrays α → Option (Nat × Arrays α)
  | _, out, [], a => some (out, a)
  | i, out, r :: rest, a =>
    if maxSlots ≤ out then some (out, a)
    else if r.npId = [] then plainLoop assign resp maxSlots (i + 1) out rest a
    else
      (writeEntry assign resp r i out a).bind fun a =>
        plainLoop assign resp maxSlots (i + 1) (out + 1) rest a

def fillPlainRankArrayFromProto (resp : GetScoreResponse) (maxSlots : Nat) (a : Arrays RankData) :
    Option (Nat × Arrays RankData) :=
  plainLoop RankData.assign resp maxSlots 0 0 resp.rankArray a

def fillPlainRankArrayAFromProto (resp : GetScoreResponse) (maxSlots : Nat)
    (a : Arrays RankDataA) : Option (Nat × Arrays RankDataA) :=
  plainLoop RankDataA.assign resp maxSlots 0 0 resp.rankArray a

/-- Every entry goes to the place of its position. -/
def playerLoop (assign : ScoreRankData → α → α) (resp : GetScoreResponse) :
    Nat → Nat → List ScoreRankData → Arrays α → Option (Nat × Arrays α)
  | _, found, [], a => some (found, a)
  | i, found, r :: rest, a =>
    if r.npId = [] then playerLoop assign resp (i + 1) found rest a
    else
      (writeEntry assign resp r i i a).bind fun a =>
        playerLoop assign resp (i + 1) (found + 1) rest a

/-- `std::min(n_resp, n_req)`, where the count of the request is cut to a signed int. -/
def answered (resp : GetScoreResponse) (requestedCount : Nat) : Nat :=
  (min (resp.rankArray.length : Int) (BitVec.ofNat 32 requestedCount).toInt).toNat

def fillPlayerRankArrayAFromProto (resp : GetScoreResponse) (requestedCount : Nat)
    (a : Arrays PlayerRankDataA) : Option (Nat × Arrays PlayerRankDataA) :=
  playerLoop PlayerRankDataA.assign resp 0 0 (resp.rankArray.take (answered resp requestedCount)) a

def fillRankArrayFromProto (resp : GetScoreResponse) (requestedNpIds : List Bytes)
    (a : Arrays PlayerRankData) : Option (Nat × Arrays PlayerRankData) :=
  playerLoop PlayerRankData.assign resp 0 0
    (resp.rankArray.take (answered resp requestedNpIds.length)) a

/-! ## Both variants -/

def Arrays.mapRanks (f : α → β) (a : Arrays α) : Arrays β := { a with ranks := a.ranks.map f }

/-- What both variants tell about a rank. -/
structure Rank where
  name : OnlineId
  pcId : Int
  serialRank : Nat
  rank : Nat
  highestRank : Nat
  hasGameData : Int
  scoreValue : Int
  recordDate : Nat
  deriving DecidableEq, Repr

def Rank.assign (r : ScoreRankData) (out : Rank) : Rank where
  name := copyName r.npId out.name
  pcId := r.pcId
  serialRank := r.rank
  rank := sharedOrOwn r
  highestRank := sharedOrOwn r
  hasGameData := if r.hasGameData then 1 else 0
  scoreValue := r.score
  recordDate := r.recordDate

def RankData.view (out : RankData) : Rank where
  name := out.npId.handle
  pcId := out.pcId
  serialRank := out.serialRank
  rank := out.rank
  highestRank := out.highestRank
  hasGameData := out.hasGameData
  scoreValue := out.scoreValue
  recordDate := out.recordDate

def RankDataA.view (out : RankDataA) : Rank where
  name := out.onlineId
  pcId := out.pcId
  serialRank := out.serialRank
  rank := out.rank
  highestRank := out.highestRank
  hasGameData := out.hasGameData
  scoreValue := out.scoreValue
  recordDate := out.recordDate

theorem RankData.view_assign (r : ScoreRankData) (out : RankData) :
    (out.assign r).view = out.view.assign r := rfl

theorem RankDataA.view_assign (r : ScoreRankData) (out : RankDataA) :
    (out.assign r).view = out.view.assign r := rfl

/-- Of the rank of a player also whether there is one. -/
structure PlayerRank where
  hasData : Int
  rank : Rank
  deriving DecidableEq, Repr

def PlayerRank.assign (r : ScoreRankData) (out : PlayerRank) : PlayerRank :=
  { hasData := 1, rank := out.rank.assign r }

def PlayerRankData.view (out : PlayerRankData) : PlayerRank := ⟨out.hasData, out.rankData.view⟩

def PlayerRankDataA.view (out : PlayerRankDataA) : PlayerRank := ⟨out.hasData, out.rankData.view⟩

theorem PlayerRankData.view_assign (r : ScoreRankData) (out : PlayerRankData) :
    (out.assign r).view = out.view.assign r := rfl

theorem PlayerRankDataA.view_assign (r : ScoreRankData) (out : PlayerRankDataA) :
    (out.assign r).view = out.view.assign r := rfl

section

variable {assign : ScoreRankData → α → α} {assign' : ScoreRankData → β → β} {f : α → β}
  {resp : GetScoreResponse}

theorem map_modify {g : α → α} {g' : β → β} (same : ∀ x, f (g x) = g' (f x)) (cells : List α)
    (i : Nat) : (cells.modify i g).map f = (cells.map f).modify i g' := by
  induction cells generalizing i with
  | nil => simp
  | cons x cells ih =>
    cases i with
    | zero => simp [same]
    | succ i => simp [ih]

theorem writeAt_map {i : Nat} {g : α → α} {g' : β → β} (same : ∀ x, f (g x) = g' (f x))
    (cells : List α) : (writeAt cells i g).map (List.map f) = writeAt (cells.map f) i g' := by
  rw [writeAt, writeAt, List.length_map]
  split_ifs
  · exact congrArg some (map_modify same cells i)
  · rfl

theorem writeEntry_map (same : ∀ r x, f (assign r x) = assign' r (f x)) (r : ScoreRankData)
    (i out : Nat) (a : Arrays α) :
    (writeEntry assign resp r i out a).map (Arrays.mapRanks f) =
      writeEntry assign' resp r i out (a.mapRanks f) := by
  have ranks := writeAt_map (i := out) (same r) a.ranks
  rw [writeEntry, writeEntry, Arrays.mapRanks, ← ranks]
  cases writeAt a.ranks out (assign r) with
  | none => rfl
  | some ranks =>
    cases comments : writeBeside copyComment a.comments resp.commentArray[i]? out with
    | none => simp
    | some comments' =>
      cases infos : writeBeside copyInfo a.infos resp.infoArray[i]? out with
      | none => simp
      | some infos' => simp [Arrays.mapRanks]

/-- The loop does to a view of the ranks what it does to the ranks. -/
theorem plainLoop_map (resp : GetScoreResponse) (same : ∀ r x, f (assign r x) = assign' r (f x))
    (maxSlots i out : Nat) (rest : List ScoreRankData) (a : Arrays α) :
    (plainLoop assign resp maxSlots i out rest a).map (Prod.map id (Arrays.mapRanks f)) =
      plainLoop assign' resp maxSlots i out rest (a.mapRanks f) := by
  induction rest generalizing i out a with
  | nil => rfl
  | cons r rest ih =>
    rw [plainLoop, plainLoop]
    split_ifs
    · rfl
    · exact ih _ _ _
    · rw [← writeEntry_map same]
      cases writeEntry assign resp r i out a with
      | none => rfl
      | some a => exact ih _ _ _

theorem playerLoop_map (resp : GetScoreResponse) (same : ∀ r x, f (assign r x) = assign' r (f x))
    (i found : Nat) (rest : List ScoreRankData) (a : Arrays α) :
    (playerLoop assign resp i found rest a).map (Prod.map id (Arrays.mapRanks f)) =
      playerLoop assign' resp i found rest (a.mapRanks f) := by
  induction rest generalizing i found a with
  | nil => rfl
  | cons r rest ih =>
    rw [playerLoop, playerLoop]
    split_ifs
    · exact ih _ _ _
    · rw [← writeEntry_map same]
      cases writeEntry assign resp r i i a with
      | none => rfl
      | some a => exact ih _ _ _

end

/-! ## Where the entries go -/

/-- Each array that there is has so many places. -/
structure Arrays.Sized (n : Nat) (a : Arrays α) : Prop where
  ranks : a.ranks.length = n
  comments : ∀ cells ∈ a.comments, cells.length = n
  infos : ∀ cells ∈ a.infos, cells.length = n

def cellAt (array : Option (List β)) (s : Nat) : Option β := array.bind (·[s]?)

/-- The cell after the entry was copied to it, if the reply has one. -/
def beside (copy : Bytes → β → β) (entry : Option Bytes) (cell : Option β) : Option β :=
  match entry with
  | some bytes => cell.map (copy bytes)
  | none => cell

/-- A place that an entry is meant for is written with it, and the others are as before. -/
def Put (write : ScoreRankData → Nat → Option β → Option β)
    (placed : Nat → Option (ScoreRankData × Nat)) (cells cells' : Nat → Option β) : Prop :=
  ∀ s, cells' s =
    match placed s with
    | some (r, i) => write r i (cells s)
    | none => cells s

/-- Each entry is in its place with its own comment and its own game info. -/
structure Filled (assign : ScoreRankData → α → α) (resp : GetScoreResponse)
    (placed : Nat → Option (ScoreRankData × Nat)) (a a' : Arrays α) : Prop where
  ranks : Put (fun r _ => Option.map (assign r)) placed (a.ranks[·]?) (a'.ranks[·]?)
  comments : Put (fun _ i => beside copyComment resp.commentArray[i]?) placed
    (cellAt a.comments) (cellAt a'.comments)
  infos : Put (fun _ i => beside copyInfo resp.infoArray[i]?) placed
    (cellAt a.infos) (cellAt a'.infos)

variable {assign : ScoreRankData → α → α} {resp : GetScoreResponse} {n : Nat}
  {placed placed' : Nat → Option (ScoreRankData × Nat)} {a b c : Arrays α}
  {write : ScoreRankData → Nat → Option β → Option β} {u v w : Nat → Option β}

theorem Put.congr (put : Put write placed u v) (same : ∀ s, placed' s = placed s) :
    Put write placed' u v := by
  intro s
  rw [same s]
  exact put s

theorem put_none (u : Nat → Option β) : Put write (fun _ => none) u u := fun _ => rfl

/-- What is written after an entry leaves the place of the entry alone. -/
theorem Put.trans {out : Nat} {entry : ScoreRankData × Nat}
    (first : Put write (fun s => if s = out then some entry else none) u v)
    (later : Put write placed v w) (free : placed out = none) :
    Put write (fun s => if s = out then some entry else placed s) u w := by
  intro s
  rw [later s, first s]
  by_cases here : s = out
  · simp [here, free]
  · simp [here]

theorem Filled.congr (filled : Filled assign resp placed a b) (same : ∀ s, placed' s = placed s) :
    Filled assign resp placed' a b :=
  ⟨filled.ranks.congr same, filled.comments.congr same, filled.infos.congr same⟩

theorem Filled.trans {out : Nat} {entry : ScoreRankData × Nat}
    (first : Filled assign resp (fun s => if s = out then some entry else none) a b)
    (later : Filled assign resp placed b c) (free : placed out = none) :
    Filled assign resp (fun s => if s = out then some entry else placed s) a c :=
  ⟨first.ranks.trans later.ranks free, first.comments.trans later.comments free,
    first.infos.trans later.infos free⟩

theorem filled_none (a : Arrays α) : Filled assign resp (fun _ => none) a a :=
  ⟨put_none _, put_none _, put_none _⟩

theorem put_modify (f : α → α) (cells : List α) (out i : Nat) (r : ScoreRankData)
    {write : ScoreRankData → Nat → Option α → Option α} (same : write r i = Option.map f) :
    Put write (fun s => if s = out then some (r, i) else none) (cells[·]?)
      ((cells.modify out f)[·]?) := by
  intro s
  by_cases here : s = out
  · rw [here]
    simp [same]
  · simp [here, Ne.symm here]

theorem put_same (out i : Nat) (r : ScoreRankData) (same : write r i (u out) = u out) :
    Put write (fun s => if s = out then some (r, i) else none) u u := by
  intro s
  by_cases here : s = out
  · rw [here]
    simp [same]
  · simp [here]

theorem writeAt_inside {cells : List β} {i : Nat} {f : β → β} (inside : i < cells.length) :
    writeAt cells i f = some (cells.modify i f) := if_pos inside

/-- A write beside the ranks stays inside the array and changes one place. -/
theorem writeBeside_inside (copy : Bytes → β → β) {array : Option (List β)} {out : Nat}
    (entries : Nat → Option Bytes) (sized : ∀ cells ∈ array, cells.length = n) (inside : out < n)
    (r : ScoreRankData) (i : Nat) :
    ∃ array', writeBeside copy array (entries i) out = some array' ∧
      (∀ cells ∈ array', cells.length = n) ∧
      Put (fun _ i => beside copy (entries i)) (fun s => if s = out then some (r, i) else none)
        (cellAt array) (cellAt array') := by
  cases array with
  | none =>
    cases entry : entries i with
    | none => exact ⟨none, rfl, sized, put_same out i r (by rw [entry]; rfl)⟩
    | some bytes => exact ⟨none, rfl, sized, put_same out i r (by rw [entry]; rfl)⟩
  | some cells =>
    have length := sized cells rfl
    cases entry : entries i with
    | none => exact ⟨some cells, rfl, sized, put_same out i r (by rw [entry]; rfl)⟩
    | some bytes =>
      refine ⟨some (cells.modify out (copy bytes)), ?_, ?_, ?_⟩
      · rw [writeBeside, writeAt_inside (by omega), Option.map_some]
      · rintro cells' ⟨⟩
        rw [List.length_modify]
        exact length
      · exact put_modify (copy bytes) cells out i r (by rw [entry]; rfl)

theorem writeEntry_inside (assign : ScoreRankData → α → α) (resp : GetScoreResponse) {out : Nat}
    (sized : a.Sized n) (inside : out < n) (r : ScoreRankData) (i : Nat) :
    ∃ b, writeEntry assign resp r i out a = some b ∧ b.Sized n ∧
      Filled assign resp (fun s => if s = out then some (r, i) else none) a b := by
  have length := sized.ranks
  obtain ⟨comments, wroteComments, sizedComments, putComments⟩ :=
    writeBeside_inside copyComment (resp.commentArray[·]?) sized.comments inside r i
  obtain ⟨infos, wroteInfos, sizedInfos, putInfos⟩ :=
    writeBeside_inside copyInfo (resp.infoArray[·]?) sized.infos inside r i
  refine ⟨⟨a.ranks.modify out (assign r), comments, infos⟩, ?_, ?_, ?_⟩
  · rw [writeEntry, writeAt_inside (by omega), wroteComments, wroteInfos]
    rfl
  · exact ⟨by rw [List.length_modify]; exact length, sizedComments, sizedInfos⟩
  · exact ⟨put_modify (assign r) a.ranks out i r rfl, putComments, putInfos⟩

/-! ### Ranges -/

/-- The entries with a name, each with its position. -/
def named (i : Nat) (entries : List ScoreRankData) : List (ScoreRankData × Nat) :=
  (entries.zipIdx i).filter (fun entry => entry.1.npId ≠ [])

/-- The named entries follow each other from place `out` on. -/
def placedFrom (out : Nat) (entries : List (ScoreRankData × Nat)) (s : Nat) :
    Option (ScoreRankData × Nat) := if s < out then none else entries[s - out]?

theorem placedFrom_cons (out : Nat) (entry : ScoreRankData × Nat)
    (entries : List (ScoreRankData × Nat)) (s : Nat) :
    placedFrom out (entry :: entries) s =
      if s = out then some entry else placedFrom (out + 1) entries s := by
  rw [placedFrom, placedFrom]
  by_cases here : s = out
  · simp [here]
  · by_cases before : s < out
    · rw [if_pos before, if_neg here, if_pos (by omega)]
    · obtain ⟨k, rfl⟩ := Nat.exists_eq_add_of_lt (show out < s by omega)
      rw [if_neg before, if_neg here, if_neg (by omega)]
      have first : out + k + 1 - out = k + 1 := by omega
      have later : out + k + 1 - (out + 1) = k := by omega
      rw [first, later, List.getElem?_cons_succ]

theorem named_cons_unnamed {r : ScoreRankData} (empty : r.npId = []) (i : Nat)
    (rest : List ScoreRankData) : named i (r :: rest) = named (i + 1) rest := by
  simp [named, empty]

theorem named_cons {r : ScoreRankData} (name : r.npId ≠ []) (i : Nat)
    (rest : List ScoreRankData) : named i (r :: rest) = (r, i) :: named (i + 1) rest := by
  simp [named, name]

theorem plainLoop_fills (assign : ScoreRankData → α → α) (resp : GetScoreResponse) (i out : Nat)
    (rest : List ScoreRankData) (sized : a.Sized n) (room : out ≤ n) :
    ∃ b, plainLoop assign resp n i out rest a =
        some (out + ((named i rest).take (n - out)).length, b) ∧
      b.Sized n ∧ Filled assign resp (placedFrom out ((named i rest).take (n - out))) a b := by
  induction rest generalizing i out a with
  | nil =>
    refine ⟨a, by simp [plainLoop, named], sized, (filled_none a).congr ?_⟩
    intro s
    simp [placedFrom, named]
  | cons r rest ih =>
    rw [plainLoop]
    by_cases full : n ≤ out
    · have none : n - out = 0 := by omega
      rw [if_pos full, none]
      refine ⟨a, rfl, sized, (filled_none a).congr ?_⟩
      intro s
      simp [placedFrom]
    · rw [if_neg full]
      by_cases empty : r.npId = []
      · rw [if_pos empty, named_cons_unnamed empty]
        exact ih (i + 1) out sized room
      · rw [if_neg empty]
        obtain ⟨b, wrote, sizedB, first⟩ :=
          writeEntry_inside assign resp sized (by omega : out < n) r i
        obtain ⟨c, loop, sizedC, later⟩ := ih (i + 1) (out + 1) sizedB (by omega)
        have left : n - out = n - (out + 1) + 1 := by omega
        rw [wrote, Option.bind_some, loop, named_cons empty, left, List.take_succ_cons,
          List.length_cons]
        refine ⟨c, ?_, sizedC, ?_⟩
        · congr 2
          omega
        · refine (first.trans later ?_).congr (placedFrom_cons out (r, i) _)
          rw [placedFrom, if_pos (by omega)]

/-! ### Players -/

/-- A named entry stands at the place of its position. -/
def placedAt (i : Nat) (entries : List ScoreRankData) (s : Nat) : Option (ScoreRankData × Nat) :=
  if s < i then none
  else (entries[s - i]?).bind (fun r => if r.npId = [] then none else some (r, s))

theorem placedAt_cons (i : Nat) (r : ScoreRankData) (rest : List ScoreRankData) (s : Nat) :
    placedAt i (r :: rest) s =
      if s = i then (if r.npId = [] then none else some (r, i)) else placedAt (i + 1) rest s := by
  rw [placedAt, placedAt]
  by_cases here : s = i
  · simp [here]
  · by_cases before : s < i
    · rw [if_pos before, if_neg here, if_pos (by omega)]
    · obtain ⟨k, rfl⟩ := Nat.exists_eq_add_of_lt (show i < s by omega)
      rw [if_neg before, if_neg here, if_neg (by omega)]
      have first : i + k + 1 - i = k + 1 := by omega
      have later : i + k + 1 - (i + 1) = k := by omega
      rw [first, later, List.getElem?_cons_succ]

theorem placedAt_before {i s : Nat} (before : s < i) (entries : List ScoreRankData) :
    placedAt i entries s = none := if_pos before

theorem playerLoop_fills (assign : ScoreRankData → α → α) (resp : GetScoreResponse)
    (i found : Nat) (rest : List ScoreRankData) (sized : a.Sized n)
    (room : i + rest.length ≤ n) :
    ∃ b, playerLoop assign resp i found rest a =
        some (found + (rest.filter (fun r => r.npId ≠ [])).length, b) ∧
      b.Sized n ∧ Filled assign resp (placedAt i rest) a b := by
  induction rest generalizing i found a with
  | nil =>
    refine ⟨a, rfl, sized, (filled_none a).congr ?_⟩
    intro s
    simp [placedAt]
  | cons r rest ih =>
    rw [List.length_cons] at room
    rw [playerLoop]
    by_cases empty : r.npId = []
    · obtain ⟨b, loop, sizedB, filled⟩ := ih (i + 1) found sized (by omega)
      rw [if_pos empty, loop, List.filter_cons_of_neg (by simp [empty])]
      refine ⟨b, rfl, sizedB, filled.congr ?_⟩
      intro s
      rw [placedAt_cons, if_pos empty]
      by_cases here : s = i
      · rw [if_pos here, placedAt_before (by omega)]
      · rw [if_neg here]
    · obtain ⟨b, wrote, sizedB, first⟩ :=
        writeEntry_inside assign resp sized (by omega : i < n) r i
      obtain ⟨c, loop, sizedC, later⟩ := ih (i + 1) (found + 1) sizedB (by omega)
      rw [if_neg empty, wrote, Option.bind_some, loop, List.filter_cons_of_pos (by simp [empty]),
        List.length_cons]
      refine ⟨c, ?_, sizedC, ?_⟩
      · congr 2
        omega
      · refine (first.trans later (placedAt_before (by omega) rest)).congr ?_
        intro s
        rw [placedAt_cons, if_neg empty]

/-! ## The ranks of a reply -/

/-- The array is filled as planned, with the count of the entries. -/
def FillsAs (fill : Option (Nat × Arrays α)) (assign : ScoreRankData → α → α)
    (resp : GetScoreResponse) (n count : Nat) (placed : Nat → Option (ScoreRankData × Nat))
    (a : Arrays α) : Prop :=
  ∃ b, fill = some (count, b) ∧ b.Sized n ∧ Filled assign resp placed a b

/-- What a fill leaves, seen through a view of the ranks. -/
def seen (view : α → β) (fill : Option (Nat × Arrays α)) : Option (Nat × Arrays β) :=
  fill.map (Prod.map id (Arrays.mapRanks view))

/-- The named entries that the array has room for. -/
def ranged (resp : GetScoreResponse) (n : Nat) : List (ScoreRankData × Nat) :=
  (named 0 resp.rankArray).take n

structure RangeFilled (resp : GetScoreResponse) (n : Nat) (q : Arrays RankData)
    (a : Arrays RankDataA) : Prop where
  plain : FillsAs (fillPlainRankArrayFromProto resp n q) RankData.assign resp n
    (ranged resp n).length ((ranged resp n)[·]?) q
  variantA : FillsAs (fillPlainRankArrayAFromProto resp n a) RankDataA.assign resp n
    (ranged resp n).length ((ranged resp n)[·]?) a
  same : seen RankData.view (fillPlainRankArrayFromProto resp n q) =
    seen RankDataA.view (fillPlainRankArrayAFromProto resp n a)

/-- The answers to the players of the request. -/
def players (resp : GetScoreResponse) (n : Nat) : List ScoreRankData := resp.rankArray.take n

structure PlayersFilled (resp : GetScoreResponse) (npIds : List Bytes) (q : Arrays PlayerRankData)
    (a : Arrays PlayerRankDataA) : Prop where
  plain : FillsAs (fillRankArrayFromProto resp npIds q) PlayerRankData.assign resp npIds.length
    ((players resp npIds.length).filter (fun r => r.npId ≠ [])).length
    (placedAt 0 (players resp npIds.length)) q
  variantA : FillsAs (fillPlayerRankArrayAFromProto resp npIds.length a) PlayerRankDataA.assign
    resp npIds.length ((players resp npIds.length).filter (fun r => r.npId ≠ [])).length
    (placedAt 0 (players resp npIds.length)) a
  same : seen PlayerRankData.view (fillRankArrayFromProto resp npIds q) =
    seen PlayerRankDataA.view (fillPlayerRankArrayAFromProto resp npIds.length a)

theorem plainLoop_fillsAs (resp : GetScoreResponse) (sized : a.Sized n) :
    FillsAs (plainLoop assign resp n 0 0 resp.rankArray a) assign resp n (ranged resp n).length
      ((ranged resp n)[·]?) a := by
  obtain ⟨b, loop, sizedB, filled⟩ :=
    plainLoop_fills assign resp 0 0 resp.rankArray sized (Nat.zero_le n)
  rw [Nat.zero_add] at loop
  exact ⟨b, loop, sizedB, filled⟩

theorem answered_take (resp : GetScoreResponse) (few : n < 2 ^ 31) :
    resp.rankArray.take (answered resp n) = players resp n := by
  have small : (BitVec.ofNat 32 n).toInt = n := by
    rw [BitVec.toInt_eq_toNat_of_lt, BitVec.toNat_ofNat, Nat.mod_eq_of_lt (by omega)]
    rw [BitVec.toNat_ofNat, Nat.mod_eq_of_lt (by omega)]
    omega
  have least : answered resp n = min resp.rankArray.length n := by
    rw [answered, small]
    omega
  rw [least, players, List.take_eq_take_iff]
  omega

theorem playerLoop_fillsAs (resp : GetScoreResponse) (sized : a.Sized n) :
    FillsAs (playerLoop assign resp 0 0 (players resp n) a) assign resp n
      ((players resp n).filter (fun r => r.npId ≠ [])).length (placedAt 0 (players resp n)) a := by
  have fits : (players resp n).length ≤ n := List.length_take_le n _
  obtain ⟨b, loop, sizedB, filled⟩ :=
    playerLoop_fills assign resp 0 0 (players resp n) sized (by omega)
  rw [Nat.zero_add] at loop
  exact ⟨b, loop, sizedB, filled⟩

theorem Arrays.Sized.of_views {γ : Type} {f : α → γ} {g : β → γ} {a : Arrays α} {q : Arrays β}
    (sized : a.Sized n) (same : q.mapRanks g = a.mapRanks f) : q.Sized n := by
  have ranks : (q.ranks.map g).length = (a.ranks.map f).length :=
    congrArg (fun x : Arrays γ => x.ranks.length) same
  have comments : q.comments = a.comments := congrArg Arrays.comments same
  have infos : q.infos = a.infos := congrArg Arrays.infos same
  rw [List.length_map, List.length_map, sized.ranks] at ranks
  exact ⟨ranks, comments ▸ sized.comments, infos ▸ sized.infos⟩

theorem range_filled (resp : GetScoreResponse) {q : Arrays RankData} {a : Arrays RankDataA}
    (sized : a.Sized n) (same : q.mapRanks RankData.view = a.mapRanks RankDataA.view) :
    RangeFilled resp n q a where
  plain := plainLoop_fillsAs resp (sized.of_views same)
  variantA := plainLoop_fillsAs resp sized
  same := by
    have plain : seen RankData.view (fillPlainRankArrayFromProto resp n q) =
        plainLoop Rank.assign resp n 0 0 resp.rankArray (q.mapRanks RankData.view) :=
      plainLoop_map resp RankData.view_assign n 0 0 resp.rankArray q
    have variantA : seen RankDataA.view (fillPlainRankArrayAFromProto resp n a) =
        plainLoop Rank.assign resp n 0 0 resp.rankArray (a.mapRanks RankDataA.view) :=
      plainLoop_map resp RankDataA.view_assign n 0 0 resp.rankArray a
    rw [plain, variantA, same]

theorem players_filled (resp : GetScoreResponse) {npIds : List Bytes} {q : Arrays PlayerRankData}
    {a : Arrays PlayerRankDataA} (few : npIds.length < 2 ^ 31) (sized : a.Sized npIds.length)
    (same : q.mapRanks PlayerRankData.view = a.mapRanks PlayerRankDataA.view) :
    PlayersFilled resp npIds q a := by
  have fillPlain : fillRankArrayFromProto resp npIds q =
      playerLoop PlayerRankData.assign resp 0 0 (players resp npIds.length) q := by
    rw [fillRankArrayFromProto, answered_take resp few]
  have fillA : fillPlayerRankArrayAFromProto resp npIds.length a =
      playerLoop PlayerRankDataA.assign resp 0 0 (players resp npIds.length) a := by
    rw [fillPlayerRankArrayAFromProto, answered_take resp few]
  constructor
  · rw [fillPlain]
    exact playerLoop_fillsAs resp (sized.of_views same)
  · rw [fillA]
    exact playerLoop_fillsAs resp sized
  · have plain : seen PlayerRankData.view (fillRankArrayFromProto resp npIds q) =
        playerLoop PlayerRank.assign resp 0 0 (players resp npIds.length)
          (q.mapRanks PlayerRankData.view) := by
      rw [fillPlain]
      exact playerLoop_map resp PlayerRankData.view_assign 0 0 _ q
    have variantA : seen PlayerRankDataA.view (fillPlayerRankArrayAFromProto resp npIds.length a) =
        playerLoop PlayerRank.assign resp 0 0 (players resp npIds.length)
          (a.mapRanks PlayerRankDataA.view) := by
      rw [fillA]
      exact playerLoop_map resp PlayerRankDataA.view_assign 0 0 _ a
    rw [plain, variantA, same]

/-! ## Names in the replies of title user storage -/

structure VariableOut where
  ownerId : NpId := {}
  hasData : Int := 0
  lastChangedDate : Nat := 0
  lastChangedAuthorId : NpId := {}
  variableValue : Int := 0
  oldVariable : Int := 0
  ownerAccountId : Int := 0
  lastChangedAuthorAccountId : Int := 0
  deriving DecidableEq, Repr

structure VariableOutA where
  ownerId : OnlineId := {}
  hasData : Int := 0
  lastChangedDate : Nat := 0
  lastChangedAuthorId : OnlineId := {}
  variableValue : Int := 0
  oldVariable : Int := 0
  ownerAccountId : Int := 0
  lastChangedAuthorAccountId : Int := 0
  deriving DecidableEq, Repr

structure StatusInfo where
  size : Nat := 0
  data : Bytes := List.replicate 384 0
  deriving DecidableEq, Repr

structure StatusOut where
  ownerId : NpId := {}
  hasData : Int := 0
  lastChangedDate : Nat := 0
  lastChangedAuthorId : NpId := {}
  dataSize : Nat := 0
  info : StatusInfo := {}
  deriving DecidableEq, Repr

structure StatusOutA where
  ownerId : OnlineId := {}
  hasData : Int := 0
  lastChangedDate : Nat := 0
  lastChangedAuthorId : OnlineId := {}
  dataSize : Nat := 0
  info : StatusInfo := {}
  ownerAccountId : Int := 0
  lastChangedAuthorAccountId : Int := 0
  deriving DecidableEq, Repr

/-- The id is cleared first; one character of the name's room is left for a NUL. -/
def copyNpHandle (src : Bytes) : NpId :=
  { handle := { data := memcpy (List.replicate 16 0) src (min src.length 15) } }

/-- The copy into a cleared online id. -/
def copyOnlineId (src : Bytes) : OnlineId :=
  { data := memcpy (List.replicate 16 0) src (min src.length 16) }

def copyStatusInfo (info : Bytes) : StatusInfo where
  size := info.length
  data := memcpy (List.replicate 384 0) info (min info.length 384)

def fillVariableOut (s : TusVariable) : VariableOut where
  ownerId := copyNpHandle s.ownerNpId
  hasData := if s.set then 1 else 0
  lastChangedDate := s.lastChangedDate
  lastChangedAuthorId := copyNpHandle s.lastChangedAuthorNpId
  variableValue := s.variableValue
  oldVariable := s.oldVariable
  ownerAccountId := s.ownerAccountId
  lastChangedAuthorAccountId := s.lastChangedAuthorAccountId

def fillVariableOutA (s : TusVariable) : VariableOutA where
  ownerId := copyOnlineId s.ownerNpId
  hasData := if s.set then 1 else 0
  lastChangedDate := s.lastChangedDate
  lastChangedAuthorId := copyOnlineId s.lastChangedAuthorNpId
  variableValue := s.variableValue
  oldVariable := s.oldVariable
  ownerAccountId := s.ownerAccountId
  lastChangedAuthorAccountId := s.lastChangedAuthorAccountId

def fillStatusOut (s : TusDataStatus) : StatusOut where
  ownerId := copyNpHandle s.ownerNpId
  hasData := if s.set then 1 else 0
  lastChangedDate := s.lastChangedDate
  lastChangedAuthorId := copyNpHandle s.lastChangedAuthorNpId
  dataSize := s.dataSize
  info := copyStatusInfo s.info

def fillStatusOutA (s : TusDataStatus) : StatusOutA where
  ownerId := copyOnlineId s.ownerNpId
  hasData := if s.set then 1 else 0
  lastChangedDate := s.lastChangedDate
  lastChangedAuthorId := copyOnlineId s.lastChangedAuthorNpId
  dataSize := s.dataSize
  info := copyStatusInfo s.info
  ownerAccountId := s.ownerAccountId
  lastChangedAuthorAccountId := s.lastChangedAuthorAccountId

/-- The last character of a name of 16, where there is one, is a NUL. -/
def LeavesRoom (src : Bytes) : Prop := src.length = 16 → src[15]? = some 0

/-- Both variants tell the same id, of a name that is not too long. -/
def SameId (src : Bytes) (plain : NpId) (variantA : OnlineId) : Prop :=
  src.length ≤ 16 → plain.handle = variantA

theorem sameId_iff (src : Bytes) :
    SameId src (copyNpHandle src) (copyOnlineId src) ↔ LeavesRoom src := by
  rcases Nat.lt_trichotomy src.length 16 with short | full | long
  · have plain : min src.length 15 = src.length := by omega
    have variantA : min src.length 16 = src.length := by omega
    constructor
    · intro _ full
      omega
    · intro _ _
      rw [copyNpHandle, copyOnlineId, plain, variantA]
  · have plain : min src.length 15 = 15 := by omega
    have variantA : min src.length 16 = 16 := by omega
    obtain ⟨c, last⟩ : ∃ c, src[15]? = some c :=
      ⟨_, List.getElem?_eq_getElem (by omega : 15 < src.length)⟩
    have whole : src.take 16 = src.take 15 ++ [c] := by
      rw [List.take_add_one, last]
      rfl
    have copies : SameId src (copyNpHandle src) (copyOnlineId src) ↔
        src.take 15 ++ [0] = src.take 15 ++ [c] := by
      rw [SameId, copyNpHandle, copyOnlineId, plain, variantA, memcpy, memcpy, whole]
      simp [full]
    rw [copies, LeavesRoom, last]
    simp [full, eq_comm]
  · constructor
    · intro _ full
      omega
    · intro _ short
      omega

/-- The plain variants of the fillers against the A variants, field by field. -/
structure SameReport (v : TusVariable) (d : TusDataStatus) : Prop where
  owner : SameId v.ownerNpId (fillVariableOut v).ownerId (fillVariableOutA v).ownerId
  author : SameId v.lastChangedAuthorNpId (fillVariableOut v).lastChangedAuthorId
    (fillVariableOutA v).lastChangedAuthorId
  statusOwner : SameId d.ownerNpId (fillStatusOut d).ownerId (fillStatusOutA d).ownerId
  statusAuthor : SameId d.lastChangedAuthorNpId (fillStatusOut d).lastChangedAuthorId
    (fillStatusOutA d).lastChangedAuthorId

theorem sameReport_iff (v : TusVariable) (d : TusDataStatus) :
    SameReport v d ↔
      LeavesRoom v.ownerNpId ∧ LeavesRoom v.lastChangedAuthorNpId ∧ LeavesRoom d.ownerNpId ∧
        LeavesRoom d.lastChangedAuthorNpId := by
  constructor
  · intro report
    exact ⟨(sameId_iff _).mp report.owner, (sameId_iff _).mp report.author,
      (sameId_iff _).mp report.statusOwner, (sameId_iff _).mp report.statusAuthor⟩
  · rintro ⟨owner, author, statusOwner, statusAuthor⟩
    exact ⟨(sameId_iff _).mpr owner, (sameId_iff _).mpr author, (sameId_iff _).mpr statusOwner,
      (sameId_iff _).mpr statusAuthor⟩

/-- The rank arrays are filled alike for every reply, and inside; the names of the storage
replies are alike unless one has sixteen characters. -/
theorem rank_arrays_filled_iff (resp : GetScoreResponse) {q : Arrays RankData}
    {a : Arrays RankDataA} (sized : a.Sized n)
    (same : q.mapRanks RankData.view = a.mapRanks RankDataA.view) {npIds : List Bytes}
    {players : Arrays PlayerRankData} {playersA : Arrays PlayerRankDataA}
    (few : npIds.length < 2 ^ 31) (sizedPlayers : playersA.Sized npIds.length)
    (samePlayers : players.mapRanks PlayerRankData.view = playersA.mapRanks PlayerRankDataA.view)
    (v : TusVariable) (d : TusDataStatus) :
    (RangeFilled resp n q a ∧ PlayersFilled resp npIds players playersA ∧ SameReport v d) ↔
      LeavesRoom v.ownerNpId ∧ LeavesRoom v.lastChangedAuthorNpId ∧ LeavesRoom d.ownerNpId ∧
        LeavesRoom d.lastChangedAuthorNpId := by
  rw [← sameReport_iff]
  constructor
  · intro filled
    exact filled.2.2
  · intro report
    exact ⟨range_filled resp sized same, players_filled resp few sizedPlayers samePlayers, report⟩

/-- The second entry has no name. -/
def threeRanks : GetScoreResponse where
  rankArray := [⟨[0x61], 0, 1, 90, false, 5, 7, 0⟩, ⟨[], 0, 0, 0, false, 0, 0, 0⟩,
    ⟨[0x62, 0x63], 0, 2, 80, true, 6, 8, 0⟩]
  commentArray := [[0x68, 0x69], [], [0x79, 0x6F]]
  infoArray := []
  lastSortDate := 0
  totalRecord := 3

def namedVariable (owner : Bytes) : TusVariable := ⟨owner, true, 3, 2, 0, [0x61], 0, 0⟩

def namedStatus (owner : Bytes) : TusDataStatus := ⟨owner, true, 0, [0x61], 0, [], 0, 0⟩

/-- Arrays without comments and game infos. -/
theorem sized_ranks (ranks : List α) : (⟨ranks, none, none⟩ : Arrays α).Sized ranks.length where
  ranks := rfl
  comments := fun _ none => nomatch none
  infos := fun _ none => nomatch none

theorem three_ranks_filled :
    RangeFilled threeRanks 2 ⟨[{}, {}], none, none⟩ ⟨[{}, {}], none, none⟩ ∧
    PlayersFilled threeRanks [[0x61], [], [0x62]] ⟨[{}, {}, {}], none, none⟩
      ⟨[{}, {}, {}], none, none⟩ ∧
    SameReport (namedVariable [0x61, 0x62]) (namedStatus [0x61, 0x62]) := by
  have few : ([[0x61], [], [0x62]] : List Bytes).length < 2 ^ 31 := by decide
  have same : Arrays.mapRanks RankData.view ⟨[{}, {}], none, none⟩ =
      Arrays.mapRanks RankDataA.view ⟨[{}, {}], none, none⟩ := rfl
  have samePlayers : Arrays.mapRanks PlayerRankData.view ⟨[{}, {}, {}], none, none⟩ =
      Arrays.mapRanks PlayerRankDataA.view ⟨[{}, {}, {}], none, none⟩ := rfl
  have room : LeavesRoom [0x61, 0x62] ∧ LeavesRoom [0x61] := by
    constructor
    · intro full
      cases full
    · intro full
      cases full
  exact (rank_arrays_filled_iff threeRanks (sized_ranks [{}, {}]) same few
    (sized_ranks [{}, {}, {}]) samePlayers (namedVariable [0x61, 0x62])
    (namedStatus [0x61, 0x62])).mpr ⟨room.1, room.2, room.1, room.2⟩

theorem last_character_lost :
    ¬SameReport (namedVariable (List.replicate 16 0x61)) (namedStatus [0x61]) := by
  intro report
  have owner := (sameId_iff _).mp report.owner (by decide)
  revert owner
  decide

end NpHandler.RankArrays
