import ShadNet.Handler.Submission

/-!
# The score library

The calls of `np_score`. What a call checks before it looks its request up reads
only its own arguments and enters as the error it gives, if any. A call that
goes on to wait for the result of its request returns nothing here: waiting
takes no step.
-/

namespace NpScore

open LockProgram NpHandler HandlerState

/-- What a call returns; `none` while it is left waiting. -/
abbrev Returned := Option Int

/-! ## Title contexts and requests -/

def maxCtxNum : Nat := 32

/-- `GetUserIdByOnlineId`: with one known user, every name is his. -/
def getUserIdByOnlineId (npId : Bytes) (s : HandlerState) : Int :=
  match s.npIds.find? (fun row => decide (row.npId = npId.take 16)) with
  | some row => row.userId
  | none =>
    match s.npIds with
    | [row] => row.userId
    | _ => -1

def addTitleCtx (serviceLabel userId : Int) (s : HandlerState) : Int × HandlerState :=
  if s.scoreTitleCtxs.length ≥ maxCtxNum then (communityTooManyObjects, s)
  else
    (s.nextScoreCtxId,
      { s with
        nextScoreCtxId := s.nextScoreCtxId + 1
        scoreTitleCtxs := s.scoreTitleCtxs ++ [{ id := s.nextScoreCtxId, serviceLabel, userId }] })

def createNpTitleCtx (rejected : Option Int) (serviceLabel : Int) (selfNpId : Bytes) :
    Handler Returned :=
  match rejected with
  | some error => pure (some error)
  | none => do
    let id ← Prog.locked .other
      (fun s => addTitleCtx serviceLabel (getUserIdByOnlineId selfNpId s) s)
    pure (some id)

def isPsnSignedIn (userId : Int) (s : HandlerState) : Bool :=
  match s.sessionClient? userId with
  | some client => client.authenticated
  | none => false

def createNpTitleCtxA (rejected : Option Int) (serviceLabel selfId : Int) : Handler Returned := do
  if ← reads (isPsnSignedIn selfId) then
    match rejected with
    | some error => pure (some error)
    | none =>
      let id ← Prog.locked .other (addTitleCtx serviceLabel selfId)
      pure (some id)
  else pure (some signedOut)

def addRequest (titleCtxId : Nat) (s : HandlerState) : Int × HandlerState :=
  match s.scoreTitle? titleCtxId with
  | none => (communityInvalidId, s)
  | some title =>
    if s.scoreRequests.length ≥ maxCtxNum then (communityTooManyObjects, s)
    else
      let reqId := s.nextScoreReqId
      (reqId,
        { s with
          nextScoreReqId := reqId + 1
          nextRef := s.nextRef + 1
          requests := s.requests ++
            [{ ref := s.nextRef, request := ⟨.score, reqId⟩, titleCtxId, userId := title.userId,
               pcId := title.pcId }]
          scoreRequests := s.scoreRequests ++ [⟨reqId, s.nextRef⟩] })

def createRequest (titleCtxId : Nat) : Handler Returned := do
  let id ← Prog.locked .other (addRequest titleCtxId)
  pure (some id)

def deleteNpTitleCtx (titleCtxId : Nat) : Handler Returned := do
  let ret ← Prog.locked (.deleteTitle .score titleCtxId) (deleteTitle .score titleCtxId)
  pure (some ret)

def deleteRequest (reqId : Nat) : Handler Returned := do
  let ret ← Prog.locked (.delete ⟨.score, reqId⟩) (NpHandler.deleteRequest ⟨.score, reqId⟩)
  pure (some ret)

/-- The result is set after the lock of the table has been released. -/
def abortRequest (reqId : Nat) : Handler Returned := do
  match ← reads (·.current? ⟨.score, reqId⟩) with
  | none => pure (some communityInvalidId)
  | some ref =>
    Prog.update (.abort ⟨.score, reqId⟩ (some ref))
      (kill ⟨.score, reqId⟩ (some ref) communityAborted)
    pure (some orbisOk)

def setPlayerCharacterId (ctxId : Nat) (pcId : Int) (s : HandlerState) : Int × HandlerState :=
  if pcId < 0 then (communityInvalidArgument, s)
  else
    match s.scoreTitle? ctxId with
    | some _ =>
      (orbisOk, { s with
        scoreTitleCtxs := KeyedTable.adjust ScoreTitleCtx.id ctxId
          (fun title => { title with pcId }) s.scoreTitleCtxs })
    | none =>
      match s.current? ⟨.score, ctxId⟩ with
      | some ref => (orbisOk, s.withRequest ref (fun ctx => { ctx with pcId }))
      | none => (communityInvalidId, s)

/-- What `PollAsync` sees: an unknown id, a request still running (1), or its result (0). -/
def pollAsync (reqId : Nat) (s : HandlerState) : Int × Option Int :=
  match s.current? ⟨.score, reqId⟩ with
  | none => (communityInvalidId, none)
  | some ref =>
    match s.result? ref with
    | none => (1, none)
    | some result => (0, some result)

/-! ## Operations -/

/-- `LookupRequestUnlocked` and `BeginOp`, and what the operation does with the request. -/
def withRequest (call reqId : Nat) (rejected : Option Int) (body : Nat → Handler Returned) :
    Handler Returned :=
  match rejected with
  | some error => pure (some error)
  | none => do
    match ← Prog.locked (.begin call ⟨.score, reqId⟩) (beginScore call reqId) with
    | .error error => pure (some error)
    | .ok ref => body ref

def finishWith (call ref : Nat) (result : Int) : Handler Unit :=
  Prog.update (.finish call ref) (finish call ref result)

/-- A failed dispatch is the result of the request; after a good one the call returns or waits. -/
def endDispatch (call ref : Nat) (isAsync : Bool) (dispatchErr : Int) : Handler Returned :=
  if dispatchErr ≠ orbisOk then do
    finishWith call ref dispatchErr
    pure (some dispatchErr)
  else pure (if isAsync then some orbisOk else none)

def serviceLabelOf (ref : Nat) (s : HandlerState) : Int :=
  match (s.request? ref).bind (fun ctx => s.scoreTitle? ctx.titleCtxId) with
  | some title => title.serviceLabel
  | none => 0

/-- The user, the service label and the player character an operation is dispatched with. -/
structure ScoreCaller where
  userId : Int
  serviceLabel : Int
  pcId : Int

def callerOf (ref : Nat) (s : HandlerState) : ScoreCaller :=
  { userId := ((s.request? ref).map (·.userId)).getD (-1)
    serviceLabel := serviceLabelOf ref s
    pcId := ((s.request? ref).map (·.pcId)).getD 0 }

def dispatch (call ref : Nat) (isAsync : Bool) (submit : ScoreCaller → Handler Int) :
    Handler Returned := do
  let caller ← reads (callerOf ref)
  let dispatchErr ← submit caller
  endDispatch call ref isAsync dispatchErr

/-- The call itself puts something into a buffer. -/
def callStore (target : Pointer) (value : Stored) (s : HandlerState) : HandlerState :=
  { s with stores := s.stores ++ [{ target, value }] }

section Operations

variable (call reqId : Nat) (rejected : Option Int) (isAsync : Bool) (boardId : Nat)

def recordScore (score : Int) (comment gameInfo : Bytes) (compareDate : Nat)
    (tmpRank : Option Pointer) : Handler Returned :=
  withRequest call reqId rejected (fun ref => do
    updates (·.withRequest ref (fun ctx => { ctx with tmpRankOut := tmpRank }))
    dispatch call ref isAsync (fun caller =>
      NpHandler.recordScore call ref caller.userId caller.serviceLabel boardId caller.pcId score
        (comment.take 63) gameInfo compareDate))

def getRankingByRange (startSerialRank arrayNum : Nat) (rankArray : PlainRankArray)
    (out : RankingOutputs) : Handler Returned :=
  withRequest call reqId rejected (fun ref =>
    dispatch call ref isAsync (fun caller =>
      NpHandler.getRankingByRange call ref caller.userId caller.serviceLabel boardId
        startSerialRank arrayNum rankArray out))

/-- With the player characters of the requested ids, or with none. -/
def getRankingByNpId (npIds : List Bytes) (pcIds : List Int) (rankArray : Pointer)
    (out : RankingOutputs) : Handler Returned :=
  withRequest call reqId rejected (fun ref =>
    dispatch call ref isAsync (fun caller =>
      NpHandler.getRankingByNpId call ref caller.userId caller.serviceLabel boardId npIds pcIds
        rankArray out))

def getRankingByAccountId (accountIds pcIds : List Int) (rankArray : Pointer)
    (out : RankingOutputs) : Handler Returned :=
  withRequest call reqId rejected (fun ref =>
    dispatch call ref isAsync (fun caller =>
      NpHandler.getRankingByAccountId call ref caller.userId caller.serviceLabel boardId
        accountIds pcIds rankArray out))

def getFriendsRanking (includeSelf : Bool) (startSerialRank arrayNum : Nat)
    (rankArray : PlainRankArray) (out : RankingOutputs) : Handler Returned :=
  withRequest call reqId rejected (fun ref =>
    dispatch call ref isAsync (fun caller =>
      NpHandler.getFriendsRanking call ref caller.userId caller.serviceLabel boardId includeSelf
        startSerialRank arrayNum rankArray out))

/-- Old games may leave the board info out; then there is nothing to ask for. -/
def getBoardInfo (boardInfo : Option Pointer) : Handler Returned :=
  withRequest call reqId rejected (fun ref =>
    match boardInfo with
    | none => do
      finishWith call ref orbisOk
      pure (some orbisOk)
    | some target => do
      updates (callStore target (.bytes (List.replicate 24 0)))
      dispatch call ref isAsync (fun caller =>
        NpHandler.getBoardInfo call ref caller.userId caller.serviceLabel boardId target))

/-- Where a piece of game data goes. -/
structure GameDataOutputs where
  totalSize : Option Pointer
  recvSize : Nat
  data : Option Pointer

/-- `ServeGameDataFromCache`; the number of bytes served, unless the server has to be asked. -/
def serveGameDataFromCache (ref : Nat) (key : GameDataKey) (out : GameDataOutputs)
    (s : HandlerState) : Option Nat × HandlerState :=
  match s.request? ref with
  | none => (none, s)
  | some ctx =>
    if ctx.recv.offset = 0 ∨ ctx.recv.key ≠ some key then
      (none, s.withRequest ref (fun ctx => { ctx with recv := { key := some key } }))
    else
      let cache := ctx.recv.cache
      let start := min ctx.recv.offset cache.length
      let n := if out.data.isSome then min (cache.length - start) out.recvSize else 0
      let recv : RecvCache :=
        if n < out.recvSize then { ctx.recv with offset := 0, cache := [] }
        else { ctx.recv with offset := start + n }
      (some n,
        { s with
          stores := s.stores ++ copyTo out.data ((cache.drop start).take n) ++
            storeAt out.totalSize (.number cache.length) }.withRequest ref
          (fun ctx => { ctx with recv }))

/-- `GetGameDataImpl` and `GetGameDataByAccountIdImpl`, after the target is known. -/
def getGameDataFor (ref : Nat) (key : GameDataKey) (out : GameDataOutputs)
    (submit : ScoreCaller → Handler Int) : Handler Returned := do
  match ← Prog.locked .other (serveGameDataFromCache ref key out) with
  | some n =>
    finishWith call ref n
    pure (some (if isAsync then orbisOk else n))
  | none => dispatch call ref isAsync submit

def getGameData (npId : Bytes) (out : GameDataOutputs) : Handler Returned :=
  withRequest call reqId rejected (fun ref =>
    if npId = [] then do
      finishWith call ref communityInvalidArgument
      pure (some communityInvalidArgument)
    else
      getGameDataFor call isAsync ref (.npId boardId npId) out (fun caller =>
        NpHandler.getGameData call ref caller.userId caller.serviceLabel boardId npId caller.pcId
          out.data out.recvSize out.totalSize))

def getGameDataByAccountId (accountId : Int) (out : GameDataOutputs) : Handler Returned :=
  withRequest call reqId rejected (fun ref =>
    getGameDataFor call isAsync ref (.account boardId accountId) out (fun caller =>
      NpHandler.getGameDataByAccountId call ref caller.userId caller.serviceLabel boardId
        accountId caller.pcId out.data out.recvSize out.totalSize))

/-- One chunk of an upload; the whole blob once it is there. -/
def bufferGameData (ref totalSize : Nat) (data : Bytes) (s : HandlerState) :
    Option Bytes × HandlerState :=
  match s.request? ref with
  | none => (none, s)
  | some ctx =>
    let total := if ctx.sendBuf = [] then totalSize else ctx.sendTotal
    let buf := ctx.sendBuf ++ data.take (total - ctx.sendBuf.length)
    if buf.length < total then
      (none, s.withRequest ref (fun ctx => { ctx with sendBuf := buf, sendTotal := total }))
    else (some buf, s.withRequest ref (fun ctx => { ctx with sendBuf := [], sendTotal := 0 }))

def recordGameData (score : Int) (totalSize : Nat) (data : Bytes) : Handler Returned :=
  withRequest call reqId rejected (fun ref => do
    match ← Prog.locked .other (bufferGameData ref totalSize data) with
    | none =>
      finishWith call ref orbisOk
      pure (some orbisOk)
    | some blob =>
      dispatch call ref isAsync (fun caller =>
        NpHandler.recordGameData call ref caller.userId caller.serviceLabel boardId caller.pcId
          score blob))

def commentMaxlen : Nat := 255

/-- A comment that is too long is refused after `BeginOp`, and the request is left as it is. -/
def checkComment (comment : Bytes) (sanitized : Option Pointer) : Handler Returned :=
  withRequest call reqId rejected (fun ref =>
    if comment.length > commentMaxlen then do
      Prog.update (.rejectComment call ref) (started call ref)
      pure (some communityInvalidArgument)
    else do
      Prog.forSome sanitized (fun target => updates (callStore target (.bytes (comment ++ [0]))))
      finishWith call ref orbisOk
      pure (if isAsync then some orbisOk else none))

def censorComment (comment : Bytes) : Handler Returned :=
  checkComment call reqId rejected isAsync comment none

def sanitizeComment (comment : Bytes) (sanitized : Pointer) : Handler Returned :=
  checkComment call reqId rejected isAsync comment (some sanitized)

end Operations

end NpScore
