import ShadNet.Handler.State

/-!
# What a reply does

For each reply the stores into the caller's buffers, in their order, the game
data cache it leaves in the request, and the result the request gets. Nothing
here looks at the request's present result.
-/

namespace NpHandler

/-- The little-endian number in the first four bytes. -/
def le32 (body : Bytes) : Nat :=
  (body.take 4).foldr (fun byte rest => byte.toNat + 256 * rest) 0

/-- The bytes behind a length of four bytes, when there are as many. -/
def sizedBody (body : Bytes) : Option Bytes :=
  if body.length < 4 then none
  else if 4 + le32 body > body.length then none
  else some ((body.drop 4).take (le32 body))

structure Completion where
  stores : List Store := []
  recv : Option (Nat × Bytes) := none
  result : Int
  deriving DecidableEq, Repr

def storeAt (target : Option Pointer) (value : Stored) : List Store :=
  match target with
  | some pointer => [{ target := pointer, value }]
  | none => []

/-- `memcpy` into a buffer; of no bytes, it is no store. -/
def copyTo (target : Option Pointer) (data : Bytes) : List Store :=
  if data = [] then [] else storeAt target (.bytes data)

/-- The bytes that stores put into buffers. -/
def bytesOf (stores : List Store) : Bytes :=
  stores.flatMap fun store =>
    match store.value with
    | .bytes bytes => bytes
    | _ => []

theorem bytesOf_append (first second : List Store) :
    bytesOf (first ++ second) = bytesOf first ++ bytesOf second := List.flatMap_append

theorem bytesOf_number (target : Option Pointer) (n : Nat) :
    bytesOf (storeAt target (.number n)) = [] := by
  cases target with
  | none => rfl
  | some target => rfl

theorem bytesOf_copyTo (target : Option Pointer) (data : Bytes) :
    bytesOf (copyTo target data) = if target.isSome then data else [] := by
  rw [copyTo]
  by_cases empty : data = []
  · rw [if_pos empty, empty, ite_self]
    rfl
  · rw [if_neg empty]
    cases target with
    | none => rfl
    | some target => exact List.flatMap_singleton _ _

/-! ## Rank arrays -/

def rankEntry (withAccount : Bool) (r : ScoreRankData) : RankEntry :=
  let rank := if r.sharedRank ≠ 0 then r.sharedRank else r.rank
  { npId := r.npId.take 16
    pcId := r.pcId
    serialRank := r.rank
    rank
    highestRank := rank
    hasGameData := r.hasGameData
    scoreValue := r.score
    recordDate := r.recordDate
    accountId := if withAccount then some r.accountId else none }

/-- The comment and the game info of the `i`-th entry of the reply go to place `out`. -/
def commentStores (resp : GetScoreResponse) (outputs : Outputs) (i out : Nat) : List Store :=
  (match outputs.commentArray, resp.commentArray[i]? with
    | some target, some comment =>
      if comment = [] then [] else [{ target, index := out, value := .bytes (comment.take 63) }]
    | _, _ => []) ++
  (match outputs.infoArray, resp.infoArray[i]? with
    | some target, some info => [{ target, index := out, value := .bytes (info.take 189) }]
    | _, _ => [])

/-- `FillPlainRankArrayFromProto` and its A variant: entries without a name are skipped and leave
no gap. The count is the second component. -/
def fillPlainRankArray (withAccount : Bool) (target : Pointer) (resp : GetScoreResponse)
    (outputs : Outputs) : Nat → Nat → List ScoreRankData → List Store × Nat
  | _, out, [] => ([], out)
  | i, out, r :: rest =>
    if out ≥ outputs.arrayNum then ([], out)
    else if r.npId = [] then fillPlainRankArray withAccount target resp outputs (i + 1) out rest
    else
      let (later, found) :=
        fillPlainRankArray withAccount target resp outputs (i + 1) (out + 1) rest
      ({ target, index := out, value := .rank (rankEntry withAccount r) } ::
        commentStores resp outputs i out ++ later, found)

/-- `FillRankArrayFromProto` and `FillPlayerRankArrayAFromProto`: every entry goes to the place of
the player it answers. -/
def fillPlayerRankArray (withAccount : Bool) (target : Pointer) (resp : GetScoreResponse)
    (outputs : Outputs) : Nat → List ScoreRankData → List Store × Nat
  | _, [] => ([], 0)
  | i, r :: rest =>
    if r.npId = [] then fillPlayerRankArray withAccount target resp outputs (i + 1) rest
    else
      let (later, found) := fillPlayerRankArray withAccount target resp outputs (i + 1) rest
      ({ target, index := i, value := .playerRank (rankEntry withAccount r) } ::
        commentStores resp outputs i i ++ later, found + 1)

/-- A null array, which only a reply to another kind of request can meet, gets nothing here. -/
def fillRanks (target : Option Pointer) (fill : Pointer → List Store × Nat) : List Store × Nat :=
  match target with
  | some pointer => fill pointer
  | none => ([], 0)

def rankMeta (resp : GetScoreResponse) (outputs : Outputs) : List Store :=
  storeAt outputs.lastSortDate (.number resp.lastSortDate) ++
    storeAt outputs.totalRecord (.number resp.totalRecord)

/-! ## Score replies -/

def CommandType.isGetData (cmd : CommandType) : Bool :=
  cmd = .getScoreData || cmd = .getScoreGameDataByAccId

def scoreError (cmd : CommandType) : ErrorType → Int
  | .scoreNotBest => serverNotBestScore
  | .scoreInvalid => serverInvalidScore
  | .scoreHasData => serverGameDataAlreadyExists
  | .tooLarge => serverTooLargeData
  | .condFail => serverConditionsNotSatisfied
  | .notFound =>
    if cmd.isGetData then serverRankingGameDataMasterNotFound
    else if cmd = .recordScoreData then serverRankingStoreNotFound
    else serverRankingBoardMasterNotFound
  | .unauthorized => serverForbidden
  | .dbFail => serverInternalServerError
  | _ => communityBadResponse

def badResponse : Completion := { result := communityBadResponse }

def gameDataCompletion (body : Bytes) (outputs : Outputs) : Completion :=
  match sizedBody body with
  | none => badResponse
  | some stored =>
    let copied := if outputs.dataOut.isSome then min stored.length outputs.recvSize else 0
    { stores := storeAt outputs.totalSizeOut (.number stored.length) ++
        copyTo outputs.dataOut (stored.take copied)
      recv := some (if copied < outputs.recvSize then (0, []) else (copied, stored))
      result := copied }

def boardInfoCompletion (pb : ShadNetProto) (body : Bytes) (outputs : Outputs) : Completion :=
  match (sizedBody body).bind pb.boardInfo with
  | none => badResponse
  | some info => { stores := storeAt outputs.boardInfo (.boardInfo info), result := orbisOk }

def foundOrNot (found : Nat) : Int := if found ≠ 0 then found else serverGameRankingNotFound

/-- The rank replies differ in how they fill the array and in what an empty answer means. -/
def rankCompletion (pb : ShadNetProto) (body : Bytes) (outputs : Outputs)
    (fill : GetScoreResponse → List Store × Nat) (friends : Bool) : Completion :=
  match (sizedBody body).bind pb.getScoreResponse with
  | none => badResponse
  | some resp =>
    let (stores, found) := fill resp
    { stores := stores ++ (if !friends || found > 0 then rankMeta resp outputs else [])
      result := if friends then found else foundOrNot found }

def getScoreNpIdCompletion (pb : ShadNetProto) (body : Bytes) (outputs : Outputs) : Completion :=
  rankCompletion pb body outputs
    (fun resp => fillRanks outputs.rankArray (fun target =>
      fillPlayerRankArray false target resp outputs 0
        (resp.rankArray.take outputs.requestedNpIds.length)))
    false

def getScoreAccountIdCompletion (pb : ShadNetProto) (body : Bytes) (outputs : Outputs) :
    Completion :=
  rankCompletion pb body outputs
    (fun resp => fillRanks outputs.aPlayerRankArray (fun target =>
      fillPlayerRankArray true target resp outputs 0 (resp.rankArray.take outputs.arrayNum)))
    false

/-- `GetScoreRange` and `GetScoreFriends`. -/
def plainRankCompletion (pb : ShadNetProto) (body : Bytes) (outputs : Outputs) (friends : Bool) :
    Completion :=
  rankCompletion pb body outputs
    (fun resp => match outputs.aRankArray with
      | some target => fillPlainRankArray true target resp outputs 0 0 resp.rankArray
      | none => fillRanks outputs.plainRankArray (fun target =>
          fillPlainRankArray false target resp outputs 0 0 resp.rankArray))
    friends

/-- The end of `OnScoreReply`; `tmpRankOut` is read from the request when the reply is handled. -/
def scoreCompletion (pb : ShadNetProto) (reply : Reply) (outputs : Outputs)
    (tmpRankOut : Option Pointer) : Completion :=
  if reply.error ≠ .noError then { result := scoreError reply.cmd reply.error }
  else match reply.cmd with
    | .recordScore =>
      { stores := if reply.body.length ≥ 4 then storeAt tmpRankOut (.number (le32 reply.body))
          else []
        result := orbisOk }
    | .recordScoreData => { result := orbisOk }
    | .getScoreData => gameDataCompletion reply.body outputs
    | .getScoreGameDataByAccId => gameDataCompletion reply.body outputs
    | .getBoardInfos => boardInfoCompletion pb reply.body outputs
    | .getScoreNpId => getScoreNpIdCompletion pb reply.body outputs
    | .getScoreAccountId => getScoreAccountIdCompletion pb reply.body outputs
    | .getScoreRange => plainRankCompletion pb reply.body outputs false
    | .getScoreFriends => plainRankCompletion pb reply.body outputs true
    | _ => badResponse

/-! ## TUS replies -/

def tusError : ErrorType → Int
  | .unauthorized => serverForbidden
  | .notFound => serverUserProfileNotFound
  | .dbFail => serverInternalServerError
  | .condFail => serverConditionsNotSatisfied
  | _ => communityBadResponse

/-- `fill_variable` and its variants, which keep `cap` characters of a name. -/
def fillVariable (cap : Nat) (v : TusVariable) : VariableEntry :=
  { ownerId := v.ownerNpId.take cap
    hasData := v.set
    lastChangedDate := v.lastChangedDate
    lastChangedAuthorId := v.lastChangedAuthorNpId.take cap
    variableValue := v.variableValue
    oldVariable := v.oldVariable
    ownerAccountId := v.ownerAccountId
    lastChangedAuthorAccountId := v.lastChangedAuthorAccountId }

/-- `fill_status` and its variants. -/
def fillStatus (cap : Nat) (withAccounts : Bool) (d : TusDataStatus) : StatusEntry :=
  { ownerId := d.ownerNpId.take cap
    hasData := d.set
    lastChangedDate := d.lastChangedDate
    lastChangedAuthorId := d.lastChangedAuthorNpId.take cap
    dataSize := d.dataSize
    infoSize := d.info.length
    info := d.info.take 384
    accounts :=
      if withAccounts then some (d.ownerAccountId, d.lastChangedAuthorAccountId) else none }

def storeEach {α : Type} (target : Pointer) (value : α → Stored) (items : List α) : List Store :=
  items.zipIdx.map (fun (item, index) => { target, index, value := value item })

/-- The first array that was given: A, cross save, plain. -/
def variableStores (outputs : Outputs) (variableList : List TusVariable) : List Store × Nat :=
  let given := variableList.take outputs.arrayNum
  let fill (cap : Nat) (target : Pointer) :=
    (storeEach target (fun v => .tusVariable (fillVariable cap v)) given, given.length)
  match outputs.variableArrayA, outputs.variableArrayCs, outputs.variableArray with
  | some target, _, _ => fill 16 target
  | none, some target, _ => fill 15 target
  | none, none, some target => fill 15 target
  | none, none, none => ([], 0)

def totalStores (outputs : Outputs) (total count : Nat) : List Store :=
  storeAt outputs.totalOut (.number (if total ≠ 0 then total else count))

def CommandType.countsVariables (cmd : CommandType) : Bool :=
  cmd = .tusGetMultiSlotVariable || cmd = .tusGetMultiUserVariable || cmd = .tusGetFriendsVariable

def variableCompletion (pb : ShadNetProto) (reply : Reply) (outputs : Outputs) : Completion :=
  match (sizedBody reply.body).bind pb.tusVariableResponse with
  | none => badResponse
  | some resp =>
    let (stores, filled) := variableStores outputs resp.variableList
    { stores := stores ++ totalStores outputs resp.total resp.variableList.length
      result := if reply.cmd.countsVariables then filled else orbisOk }

def tssCompletion (pb : ShadNetProto) (body : Bytes) (outputs : Outputs) : Completion :=
  match (sizedBody body).bind pb.tssGetDataResponse with
  | none => badResponse
  | some resp =>
    { stores := copyTo outputs.dataOut (resp.data.take outputs.dataCap) ++
          storeAt outputs.tssContentLengthOut (.number resp.contentLength) ++
          storeAt outputs.tssStatusOut
            (.tssStatus resp.lastModified resp.statusCodeType resp.contentLength)
      result := orbisOk }

/-- The status of `TusGetData` points to the received bytes, if there are any. -/
def dataStatusStores (outputs : Outputs) (received : Nat) (d : TusDataStatus) : List Store :=
  let fill (cap : Nat) (withAccounts : Bool) : Stored :=
    let entry := fillStatus cap withAccounts d
    .status { entry with data := if received ≠ 0 then outputs.dataOut else none } outputs.statusCap
  match outputs.statusArrayA, outputs.statusArrayCs with
  | some target, _ => [{ target, value := fill 16 true }]
  | none, some target => [{ target, value := fill 15 true }]
  | none, none => storeAt outputs.statusArray (fill 15 false)

def tusGetDataCompletion (pb : ShadNetProto) (body : Bytes) (outputs : Outputs) : Completion :=
  match (sizedBody body).bind pb.tusGetDataResponse with
  | none => badResponse
  | some resp =>
    let available := (resp.data.drop outputs.dataOffset).take outputs.dataCap
    let received := if outputs.dataOut.isSome then available.length else 0
    { stores := copyTo outputs.dataOut available ++ dataStatusStores outputs received resp.status
      result := received }

def statusStores (outputs : Outputs) (statuses : List TusDataStatus) : List Store :=
  let fill (cap : Nat) (withAccounts : Bool) (target : Pointer) :=
    storeEach target (fun d => .status (fillStatus cap withAccounts d) 0)
      (statuses.take outputs.arrayNum)
  match outputs.statusArrayA, outputs.statusArrayCs, outputs.statusArray with
  | some target, _, _ => fill 16 true target
  | none, some target, _ => fill 15 true target
  | none, none, some target => fill 15 false target
  | none, none, none => []

def statusCompletion (pb : ShadNetProto) (body : Bytes) (outputs : Outputs) : Completion :=
  match (sizedBody body).bind pb.tusDataStatusResponse with
  | none => badResponse
  | some resp =>
    { stores := statusStores outputs resp.statuses ++
        totalStores outputs resp.total resp.statuses.length
      result := min outputs.arrayNum resp.statuses.length }

/-- The end of `OnTusReply`. -/
def tusCompletion (pb : ShadNetProto) (reply : Reply) (outputs : Outputs) : Completion :=
  if reply.error ≠ .noError then { result := tusError reply.error }
  else match reply.cmd with
    | .tusGetMultiSlotVariable => variableCompletion pb reply outputs
    | .tusTryAndSetVariable => variableCompletion pb reply outputs
    | .tusGetMultiUserVariable => variableCompletion pb reply outputs
    | .tusGetFriendsVariable => variableCompletion pb reply outputs
    | .tusAddAndGetVariable => variableCompletion pb reply outputs
    | .tssGetData => tssCompletion pb reply.body outputs
    | .tusGetData => tusGetDataCompletion pb reply.body outputs
    | .tusGetMultiSlotDataStatus => statusCompletion pb reply.body outputs
    | .tusGetMultiUserDataStatus => statusCompletion pb reply.body outputs
    | .tusGetFriendsDataStatus => statusCompletion pb reply.body outputs
    | _ => { result := orbisOk }

/-! ## Authorization codes and trophies -/

def npAuthIssuerId : Nat := 0x100

def authErrorFromReply : ErrorType → Int
  | .invalidInput => authInvalidArgument
  | .unauthorized => signedOut
  | .tooSoon => authServiceBusy
  | _ => authServiceDown

/-- The end of `OnAuthReply`; the buffer of a code has room for 128 characters and a NUL. -/
def authCompletion (pb : ShadNetProto) (reply : Reply) (outputs : Outputs) : Completion :=
  if reply.error ≠ .noError then { result := authErrorFromReply reply.error }
  else match (sizedBody reply.body).bind pb.authorizationCode with
    | none => { result := authNoTokenReceived }
    | some code =>
      if code = [] ∨ code.length ≥ 129 then { result := authNoTokenReceived }
      else
        { stores := storeAt outputs.authCode (.bytes code) ++
            storeAt outputs.issuerId (.number npAuthIssuerId)
          result := orbisOk }

/-- The end of `OnTrophyReply`: `on_merged` is called only after a good reply. -/
def trophyCompletion (pb : ShadNetProto) (reply : Reply) : Completion :=
  if reply.error ≠ .noError then { result := communityBadResponse }
  else match (sizedBody reply.body).bind pb.syncTrophiesReply with
    | none => { result := communityBadResponse }
    | some _ => { result := orbisOk }

def completion (pb : ShadNetProto) (family : Family) (reply : Reply) (outputs : Outputs)
    (tmpRankOut : Option Pointer) : Completion :=
  match family with
  | .score => scoreCompletion pb reply outputs tmpRankOut
  | .tus => tusCompletion pb reply outputs
  | .auth => authCompletion pb reply outputs
  | .trophy => trophyCompletion pb reply

end NpHandler
