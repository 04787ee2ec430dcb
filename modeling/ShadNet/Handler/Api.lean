import ShadNet.Handler.Tus

/-!
# Everything that can happen to the handler

The operations of the score and TUS libraries as data, the other calls, the
replies and what becomes of the connections. An operation, a reply and a
disconnect run over several sections and carry the number of their thread.
-/

namespace NpHandler

open LockProgram HandlerState NpScore NpTus

/-! ## Operations of the libraries -/

inductive ScoreOperation where
  | recordScore (boardId : Nat) (score : Int) (comment gameInfo : Bytes) (compareDate : Nat)
      (tmpRank : Option Pointer)
  | recordGameData (boardId : Nat) (score : Int) (totalSize : Nat) (data : Bytes)
  | getGameData (boardId : Nat) (npId : Bytes) (out : GameDataOutputs)
  | getGameDataByAccountId (boardId : Nat) (accountId : Int) (out : GameDataOutputs)
  | getBoardInfo (boardId : Nat) (boardInfo : Option Pointer)
  | getRankingByNpId (boardId : Nat) (npIds : List Bytes) (pcIds : List Int) (rankArray : Pointer)
      (out : RankingOutputs)
  | getRankingByAccountId (boardId : Nat) (accountIds pcIds : List Int) (rankArray : Pointer)
      (out : RankingOutputs)
  | getRankingByRange (boardId startSerialRank arrayNum : Nat) (rankArray : PlainRankArray)
      (out : RankingOutputs)
  | getFriendsRanking (boardId : Nat) (includeSelf : Bool) (startSerialRank arrayNum : Nat)
      (rankArray : PlainRankArray) (out : RankingOutputs)
  | censorComment (comment : Bytes)
  | sanitizeComment (comment : Bytes) (sanitized : Pointer)

inductive TusOperation where
  | setData (owner : Owner) (slotId : Int) (chunk : UploadChunk) (guard : TusGuard)
  | getData (owner : Owner) (slotId : Int) (variant : Variant) (out : DataOutputs)
  | setMultiSlotVariable (owner : Owner) (slotIds values : List Int)
  | getMultiSlotVariable (owner : Owner) (slotIds : List Int) (variant : Variant)
      (target : Pointer)
  | addAndGetVariable (owner : Owner) (slotId inValue : Int) (guard : TusGuard)
      (variant : Variant) (target : Pointer)
  | tryAndSetVariable (owner : Owner) (slotId opeType value : Int) (compare : Option Int)
      (guard : TusGuard) (variant : Variant) (target : Pointer)
  | deleteMultiSlotVariable (owner : Owner) (slotIds : List Int)
  | getMultiSlotDataStatus (owner : Owner) (slotIds : List Int) (variant : Variant)
      (target : Pointer)
  | deleteMultiSlotData (owner : Owner) (slotIds : List Int)
  | getMultiUserVariable (owners : Owners) (slotId : Int) (variant : Variant) (target : Pointer)
  | getMultiUserDataStatus (owners : Owners) (slotId : Int) (variant : Variant)
      (target : Pointer)
  | getFriendsVariable (query : FriendsQuery) (variant : Variant) (target : Pointer)
  | getFriendsDataStatus (query : FriendsQuery) (variant : Variant) (target : Pointer)
  | tssGetData (query : TssQuery) (out : DataOutputs)
  | tssGetSmallStorage (data : Option Pointer) (maxSize : Nat) (contentLength : Option Pointer)
  | tssGetStorage

section Programs

variable (call reqId : Nat) (rejected : Option Int) (isAsync : Bool)

def ScoreOperation.program : ScoreOperation → Handler Returned
  | recordScore boardId score comment gameInfo compareDate tmpRank =>
    NpScore.recordScore call reqId rejected isAsync boardId score comment gameInfo compareDate
      tmpRank
  | recordGameData boardId score totalSize data =>
    NpScore.recordGameData call reqId rejected isAsync boardId score totalSize data
  | getGameData boardId npId out =>
    NpScore.getGameData call reqId rejected isAsync boardId npId out
  | getGameDataByAccountId boardId accountId out =>
    NpScore.getGameDataByAccountId call reqId rejected isAsync boardId accountId out
  | getBoardInfo boardId boardInfo =>
    NpScore.getBoardInfo call reqId rejected isAsync boardId boardInfo
  | getRankingByNpId boardId npIds pcIds rankArray out =>
    NpScore.getRankingByNpId call reqId rejected isAsync boardId npIds pcIds rankArray out
  | getRankingByAccountId boardId accountIds pcIds rankArray out =>
    NpScore.getRankingByAccountId call reqId rejected isAsync boardId accountIds pcIds rankArray
      out
  | getRankingByRange boardId startSerialRank arrayNum rankArray out =>
    NpScore.getRankingByRange call reqId rejected isAsync boardId startSerialRank arrayNum
      rankArray out
  | getFriendsRanking boardId includeSelf startSerialRank arrayNum rankArray out =>
    NpScore.getFriendsRanking call reqId rejected isAsync boardId includeSelf startSerialRank
      arrayNum rankArray out
  | censorComment comment => NpScore.censorComment call reqId rejected isAsync comment
  | sanitizeComment comment sanitized =>
    NpScore.sanitizeComment call reqId rejected isAsync comment sanitized

def TusOperation.program : TusOperation → Handler Returned
  | setData owner slotId chunk guard =>
    NpTus.setData call reqId rejected isAsync owner slotId chunk guard
  | getData owner slotId variant out =>
    NpTus.getData call reqId rejected isAsync owner slotId variant out
  | setMultiSlotVariable owner slotIds values =>
    NpTus.setMultiSlotVariable call reqId rejected isAsync owner slotIds values
  | getMultiSlotVariable owner slotIds variant target =>
    NpTus.getMultiSlotVariable call reqId rejected isAsync owner slotIds variant target
  | addAndGetVariable owner slotId inValue guard variant target =>
    NpTus.addAndGetVariable call reqId rejected isAsync owner slotId inValue guard variant target
  | tryAndSetVariable owner slotId opeType value compare guard variant target =>
    NpTus.tryAndSetVariable call reqId rejected isAsync owner slotId opeType value compare guard
      variant target
  | deleteMultiSlotVariable owner slotIds =>
    NpTus.deleteMultiSlotVariable call reqId rejected isAsync owner slotIds
  | getMultiSlotDataStatus owner slotIds variant target =>
    NpTus.getMultiSlotDataStatus call reqId rejected isAsync owner slotIds variant target
  | deleteMultiSlotData owner slotIds =>
    NpTus.deleteMultiSlotData call reqId rejected isAsync owner slotIds
  | getMultiUserVariable owners slotId variant target =>
    NpTus.getMultiUserVariable call reqId rejected isAsync owners slotId variant target
  | getMultiUserDataStatus owners slotId variant target =>
    NpTus.getMultiUserDataStatus call reqId rejected isAsync owners slotId variant target
  | getFriendsVariable query variant target =>
    NpTus.getFriendsVariable call reqId rejected isAsync query variant target
  | getFriendsDataStatus query variant target =>
    NpTus.getFriendsDataStatus call reqId rejected isAsync query variant target
  | tssGetData query out => NpTus.tssGetData call reqId rejected isAsync query out
  | tssGetSmallStorage data maxSize contentLength =>
    NpTus.tssGetSmallStorage call reqId rejected isAsync data maxSize contentLength
  | tssGetStorage => NpTus.tssGetStorage call reqId

end Programs

/-- `NpAuth::GetAuthorizationCode`, once its request has been started. -/
def getAuthorizationCode (call : Nat) (userId : Int) (clientId scope : Bytes)
    (outputs : Outputs) : Handler Unit := do
  let ref ← Prog.locked (.begin call ⟨.auth, call⟩) (beginOwn call .auth)
  let submit ← requestAuthorizationCode call ref userId clientId scope outputs
  Prog.when (submit < 0) (finishWith call ref submit)

/-! ## The operations of the system -/

inductive Op where
  | loadNpCommIds (npCommIds : List Bytes)
  | connectUser (userId : Int) (npId : Bytes) (accountId : Int)
  | loseConnection (clientId : Nat)
  | disconnectUser (call : Nat) (userId : Int)
  | otherRequest (clientId : Nat)
  | createScoreTitleCtx (rejected : Option Int) (serviceLabel : Int) (selfNpId : Bytes)
  | createScoreTitleCtxA (rejected : Option Int) (serviceLabel selfId : Int)
  | createScoreRequest (titleCtxId : Nat)
  | setPlayerCharacterId (ctxId : Nat) (pcId : Int)
  | deleteScoreTitleCtx (titleCtxId : Nat)
  | deleteScoreRequest (reqId : Nat)
  | abortScoreRequest (reqId : Nat)
  | score (call reqId : Nat) (rejected : Option Int) (isAsync : Bool) (operation : ScoreOperation)
  | createTusTitleCtx (rejected : Option Int) (serviceLabel : Int) (npId : Bytes)
  | createTusRequest (titleCtxId : Nat)
  | deleteTusTitleCtx (titleCtxId : Nat)
  | deleteTusRequest (reqId : Nat)
  | abortTusRequest (reqId : Nat)
  | tus (call reqId : Nat) (rejected : Option Int) (isAsync : Bool) (operation : TusOperation)
  | getAuthorizationCode (call : Nat) (userId : Int) (clientId scope : Bytes)
      (authCode : Pointer) (issuerId : Option Pointer)
  | syncTrophies (call : Nat) (userId serviceLabel : Int) (localTrophies : List (Int × Nat))
      (onMerged : Bool)
  | reply (call client pktId : Nat) (received : Reply)

def Op.program (pb : ShadNetProto) : Op → Handler Unit
  | .loadNpCommIds npCommIds => updates (fun s => { s with npCommIds })
  | .connectUser userId npId accountId => NpHandler.connectUser userId npId accountId
  | .loseConnection clientId => updates (NpHandler.loseConnection clientId)
  | .disconnectUser call userId => NpHandler.disconnectUser call userId
  | .otherRequest clientId => updates (submitUnanswered clientId)
  | .createScoreTitleCtx rejected serviceLabel selfNpId => do
    let _ ← NpScore.createNpTitleCtx rejected serviceLabel selfNpId
  | .createScoreTitleCtxA rejected serviceLabel selfId => do
    let _ ← NpScore.createNpTitleCtxA rejected serviceLabel selfId
  | .createScoreRequest titleCtxId => do let _ ← NpScore.createRequest titleCtxId
  | .setPlayerCharacterId ctxId pcId => do
    let _ ← Prog.locked .other (NpScore.setPlayerCharacterId ctxId pcId)
  | .deleteScoreTitleCtx titleCtxId => do let _ ← NpScore.deleteNpTitleCtx titleCtxId
  | .deleteScoreRequest reqId => do let _ ← NpScore.deleteRequest reqId
  | .abortScoreRequest reqId => do let _ ← NpScore.abortRequest reqId
  | .score call reqId rejected isAsync operation => do
    let _ ← operation.program call reqId rejected isAsync
  | .createTusTitleCtx rejected serviceLabel npId => do
    let _ ← NpTus.createNpTitleCtx rejected serviceLabel npId
  | .createTusRequest titleCtxId => do let _ ← NpTus.createRequest titleCtxId
  | .deleteTusTitleCtx titleCtxId => do let _ ← NpTus.deleteNpTitleCtx titleCtxId
  | .deleteTusRequest reqId => do let _ ← NpTus.deleteRequest reqId
  | .abortTusRequest reqId => do let _ ← NpTus.abortRequest reqId
  | .tus call reqId rejected isAsync operation => do
    let _ ← operation.program call reqId rejected isAsync
  | .getAuthorizationCode call userId clientId scope authCode issuerId =>
    NpHandler.getAuthorizationCode call userId clientId scope
      { authCode := some authCode, issuerId }
  | .syncTrophies call userId serviceLabel localTrophies onMerged =>
    NpHandler.syncTrophies call userId serviceLabel localTrophies onMerged
  | .reply call client pktId received => onAsyncReply pb call client pktId received

/-- The thread an operation says it is. -/
def Op.call? : Op → Option Nat
  | .disconnectUser call _ | .score call .. | .tus call .. | .getAuthorizationCode call ..
  | .syncTrophies call .. | .reply call .. => some call
  | _ => none

/-- Every operation that names its thread is started under that number. -/
def Numbered : Action Op → Pool HandlerState Section → Prop
  | .spawn op, pool => ∀ call ∈ op.call?, call = pool.threads.length
  | .take _, _ => True

instance : ∀ action pool, Decidable (Numbered action pool)
  | .spawn op, pool => inferInstanceAs (Decidable (∀ call ∈ op.call?, call = pool.threads.length))
  | .take _, _ => isTrue trivial

/-- The schedules in which threads are numbered and every section is permitted where it runs. -/
abbrev Scheduled (pb : ShadNetProto) (permit : Section → HandlerState → Prop)
    (actions : List (Action Op)) : Prop :=
  Runs.Admitted (Pool.step (Op.program pb))
    (fun action pool => Pool.Permitted permit action pool ∧ Numbered action pool) actions ⟨{}, []⟩

abbrev runPool (pb : ShadNetProto) (actions : List (Action Op)) : Pool HandlerState Section :=
  Runs.run (Pool.step (Op.program pb)) actions ⟨{}, []⟩

/-- The thread has sections left. -/
def Running (pool : Pool HandlerState Section) (thread : Nat) : Prop :=
  ∃ label update next, pool.threads[thread]? = some (.atomic label update next)

end NpHandler
