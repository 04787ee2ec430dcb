import ShadNet.LockProgram

/-!
# Commands, messages and buffers of the NP handler

A buffer of the caller is an address; what the library puts into it is a store,
with the place in the array where it goes. The protobuf messages are records of
their fields, and the generated parsers are the parameter `ShadNetProto`.
-/

namespace NpHandler

abbrev Bytes := List UInt8
abbrev Pointer := Nat

/-! ## Codes -/

/-- The commands whose replies the handler routes; any other is known by its number. -/
inductive CommandType where
  | getBoardInfos
  | recordScore
  | recordScoreData
  | getScoreData
  | getScoreRange
  | getScoreFriends
  | getScoreNpId
  | getScoreAccountId
  | getScoreGameDataByAccId
  | getAuthorizationCode
  | tusSetData
  | tusGetData
  | tusSetMultiSlotVariable
  | tusGetMultiSlotVariable
  | tusAddAndGetVariable
  | tusGetMultiSlotDataStatus
  | tusGetMultiUserDataStatus
  | tusGetFriendsDataStatus
  | tusDeleteMultiSlotData
  | tusGetMultiUserVariable
  | tusTryAndSetVariable
  | tusGetFriendsVariable
  | tusDeleteMultiSlotVariable
  | tssGetData
  | unlockTrophy
  | syncTrophies
  | other (code : Nat)
  deriving DecidableEq, Repr

def CommandType.code : CommandType → Nat
  | getBoardInfos => 30
  | recordScore => 31
  | recordScoreData => 32
  | getScoreData => 33
  | getScoreRange => 34
  | getScoreFriends => 35
  | getScoreNpId => 36
  | getScoreAccountId => 37
  | getScoreGameDataByAccId => 38
  | getAuthorizationCode => 42
  | tusSetData => 201
  | tusGetData => 202
  | tusSetMultiSlotVariable => 203
  | tusGetMultiSlotVariable => 204
  | tusAddAndGetVariable => 205
  | tusGetMultiSlotDataStatus => 206
  | tusGetMultiUserDataStatus => 207
  | tusGetFriendsDataStatus => 208
  | tusDeleteMultiSlotData => 209
  | tusGetMultiUserVariable => 210
  | tusTryAndSetVariable => 211
  | tusGetFriendsVariable => 212
  | tusDeleteMultiSlotVariable => 213
  | tssGetData => 214
  | unlockTrophy => 301
  | syncTrophies => 302
  | other code => code

/-- The pending maps of the handler. -/
inductive Family where
  | score
  | tus
  | auth
  | trophy
  deriving DecidableEq, Repr

inductive ErrorType where
  | noError
  | malformed
  | invalid
  | invalidInput
  | tooSoon
  | unauthorized
  | dbFail
  | notFound
  | scoreNotBest
  | scoreInvalid
  | scoreHasData
  | condFail
  | tooLarge
  | other (code : Nat)
  deriving DecidableEq, Repr

/-- An error constant read as `s32`. -/
def orbisError (code : Nat) : Int := (code : Int) - 0x100000000

def orbisOk : Int := 0
def signedOut : Int := orbisError 0x80550006

def communityInvalidArgument : Int := orbisError 0x80550704
def communityNoLogin : Int := orbisError 0x80550705
def communityTooManyObjects : Int := orbisError 0x80550706
def communityAborted : Int := orbisError 0x80550707
def communityBadResponse : Int := orbisError 0x80550708
def communityInsufficientArgument : Int := orbisError 0x8055070C
def communityInvalidId : Int := orbisError 0x8055070E

def serverForbidden : Int := orbisError 0x80550806
def serverInternalServerError : Int := orbisError 0x80550807
def serverUserProfileNotFound : Int := orbisError 0x8055080D
def serverGameRankingNotFound : Int := orbisError 0x80550812
def serverRankingStoreNotFound : Int := orbisError 0x80550814
def serverNotBestScore : Int := orbisError 0x80550815
def serverRankingBoardMasterNotFound : Int := orbisError 0x80550817
def serverRankingGameDataMasterNotFound : Int := orbisError 0x80550818
def serverTooLargeData : Int := orbisError 0x8055081A
def serverInvalidScore : Int := orbisError 0x80550823
def serverGameDataAlreadyExists : Int := orbisError 0x8055082C
def serverConditionsNotSatisfied : Int := orbisError 0x80550873

def authInvalidArgument : Int := orbisError 0x80550301
def authNoTokenReceived : Int := orbisError 0x80550308
def authServiceDown : Int := orbisError 0x80550401
def authServiceBusy : Int := orbisError 0x80550402

/-! ## Messages -/

structure BoardInfo where
  rankLimit : Nat
  updateMode : Nat
  sortMode : Nat
  uploadNumLimit : Nat
  uploadSizeLimit : Nat
  deriving DecidableEq, Repr

structure ScoreRankData where
  npId : Bytes
  pcId : Int
  rank : Nat
  score : Int
  hasGameData : Bool
  recordDate : Nat
  accountId : Int
  sharedRank : Nat
  deriving DecidableEq, Repr

structure GetScoreResponse where
  rankArray : List ScoreRankData
  commentArray : List Bytes
  infoArray : List Bytes
  lastSortDate : Nat
  totalRecord : Nat
  deriving DecidableEq, Repr

structure TusVariable where
  ownerNpId : Bytes
  set : Bool
  variableValue : Int
  oldVariable : Int
  lastChangedDate : Nat
  lastChangedAuthorNpId : Bytes
  ownerAccountId : Int
  lastChangedAuthorAccountId : Int
  deriving DecidableEq, Repr

structure TusVariableResponse where
  variableList : List TusVariable
  total : Nat
  deriving DecidableEq, Repr

structure TusDataStatus where
  ownerNpId : Bytes
  set : Bool
  lastChangedDate : Nat
  lastChangedAuthorNpId : Bytes
  dataSize : Nat
  info : Bytes
  ownerAccountId : Int
  lastChangedAuthorAccountId : Int
  deriving DecidableEq, Repr

structure TusDataStatusResponse where
  statuses : List TusDataStatus
  total : Nat
  deriving DecidableEq, Repr

structure TusGetDataResponse where
  status : TusDataStatus
  data : Bytes
  deriving DecidableEq, Repr

structure TssGetDataResponse where
  statusCodeType : Int
  lastModified : Nat
  contentLength : Nat
  data : Bytes
  deriving DecidableEq, Repr

/-! ### Requests -/

/-- Whose storage a TUS request is about, as the message says it. -/
structure TusTarget where
  ownerNpId : Bytes := []
  virtualUser : Bytes := []
  ownerAccountId : Int := 0
  deriving DecidableEq, Repr

/-- The checks of the last author and of the last change. -/
structure TusGuard where
  author : Option (Int × Bytes) := none
  date : Option Nat := none
  deriving DecidableEq, Repr

/-- A request the handler sends, with the fields of its message. -/
inductive Message where
  | recordScore (boardId : Nat) (pcId score : Int) (comment data : Bytes) (compareDate : Nat)
  | recordScoreData (boardId : Nat) (pcId score : Int) (data : Bytes)
  | getScoreData (boardId : Nat) (npId : Bytes) (pcId : Int)
  | getScoreGameDataByAccId (boardId : Nat) (accountId pcId : Int)
  | getBoardInfos (boardId : Nat)
  | getScoreNpId (boardId : Nat) (players : List (Bytes × Int)) (withComment withGameInfo : Bool)
  | getScoreAccountId (boardId : Nat) (players : List (Int × Int))
      (withComment withGameInfo : Bool)
  | getScoreRange (boardId startRank numRanks : Nat) (withComment withGameInfo : Bool)
  | getScoreFriends (boardId : Nat) (includeSelf : Bool) (startRank max : Nat)
      (withComment withGameInfo : Bool)
  | getAuthorizationCode (clientId scope : Bytes)
  | tusSetData (target : TusTarget) (slotId : Int) (data info : Bytes) (guard : TusGuard)
  | tusGetData (target : TusTarget) (slotId : Int)
  | tusSetMultiSlotVariable (target : TusTarget) (slotIds values : List Int)
  | tusGetMultiSlotVariable (target : TusTarget) (slotIds : List Int)
  | tusAddAndGetVariable (target : TusTarget) (slotId inValue : Int) (guard : TusGuard)
  | tusGetMultiSlotDataStatus (target : TusTarget) (slotIds : List Int)
  | tusGetMultiUserDataStatus (slotId : Int) (ownerNpIds virtualUsers : List Bytes)
      (ownerAccountIds : List Int)
  | tusGetFriendsDataStatus (slotId : Int) (includeSelf : Bool) (sortType : Int)
      (max startOffset : Nat)
  | tusDeleteMultiSlotData (target : TusTarget) (slotIds : List Int)
  | tusGetMultiUserVariable (slotId : Int) (ownerNpIds virtualUsers : List Bytes)
      (ownerAccountIds : List Int)
  | tusTryAndSetVariable (target : TusTarget) (slotId opeType value : Int) (compare : Option Int)
      (guard : TusGuard)
  | tusGetFriendsVariable (slotId : Int) (includeSelf : Bool) (sortType : Int)
      (max startOffset : Nat)
  | tusDeleteMultiSlotVariable (target : TusTarget) (slotIds : List Int)
  | tssGetData (slotId : Int) (offset lastByte : Option Nat) (ifParam : Option (Int × Nat))
  | syncTrophies (trophies : List (Int × Nat))
  deriving DecidableEq, Repr

def Message.cmd : Message → CommandType
  | recordScore .. => .recordScore
  | recordScoreData .. => .recordScoreData
  | getScoreData .. => .getScoreData
  | getScoreGameDataByAccId .. => .getScoreGameDataByAccId
  | getBoardInfos .. => .getBoardInfos
  | getScoreNpId .. => .getScoreNpId
  | getScoreAccountId .. => .getScoreAccountId
  | getScoreRange .. => .getScoreRange
  | getScoreFriends .. => .getScoreFriends
  | getAuthorizationCode .. => .getAuthorizationCode
  | tusSetData .. => .tusSetData
  | tusGetData .. => .tusGetData
  | tusSetMultiSlotVariable .. => .tusSetMultiSlotVariable
  | tusGetMultiSlotVariable .. => .tusGetMultiSlotVariable
  | tusAddAndGetVariable .. => .tusAddAndGetVariable
  | tusGetMultiSlotDataStatus .. => .tusGetMultiSlotDataStatus
  | tusGetMultiUserDataStatus .. => .tusGetMultiUserDataStatus
  | tusGetFriendsDataStatus .. => .tusGetFriendsDataStatus
  | tusDeleteMultiSlotData .. => .tusDeleteMultiSlotData
  | tusGetMultiUserVariable .. => .tusGetMultiUserVariable
  | tusTryAndSetVariable .. => .tusTryAndSetVariable
  | tusGetFriendsVariable .. => .tusGetFriendsVariable
  | tusDeleteMultiSlotVariable .. => .tusDeleteMultiSlotVariable
  | tssGetData .. => .tssGetData
  | syncTrophies .. => .syncTrophies

/-- `OnAsyncReply`: the map the reply of a command is looked up in. -/
def CommandType.family? (cmd : CommandType) : Option Family :=
  let code := cmd.code
  if 30 ≤ code ∧ code < 39 then some .score
  else if 201 ≤ code ∧ code ≤ 300 then some .tus
  else if cmd = .syncTrophies then some .trophy
  else if cmd = .getAuthorizationCode then some .auth
  else none

/-! ### Replies -/

/-- `ParseFromArray` of the generated message classes; `none` is a failed parse. -/
structure ShadNetProto where
  boardInfo : Bytes → Option BoardInfo
  getScoreResponse : Bytes → Option GetScoreResponse
  tusVariableResponse : Bytes → Option TusVariableResponse
  tusDataStatusResponse : Bytes → Option TusDataStatusResponse
  tusGetDataResponse : Bytes → Option TusGetDataResponse
  tssGetDataResponse : Bytes → Option TssGetDataResponse
  authorizationCode : Bytes → Option Bytes
  syncTrophiesReply : Bytes → Option (List (Int × Nat))

/-- A reply packet, without its number. -/
structure Reply where
  cmd : CommandType
  error : ErrorType
  body : Bytes
  deriving DecidableEq, Repr

/-! ## What is put into the buffers -/

/-- An entry of a rank array. `accountId` is in the A variants only. -/
structure RankEntry where
  npId : Bytes
  pcId : Int
  serialRank : Nat
  rank : Nat
  highestRank : Nat
  hasGameData : Bool
  scoreValue : Int
  recordDate : Nat
  accountId : Option Int
  deriving DecidableEq, Repr

structure VariableEntry where
  ownerId : Bytes
  hasData : Bool
  lastChangedDate : Nat
  lastChangedAuthorId : Bytes
  variableValue : Int
  oldVariable : Int
  ownerAccountId : Int
  lastChangedAuthorAccountId : Int
  deriving DecidableEq, Repr

/-- `data` points to the received bytes; `accounts` is left out of the plain variant. -/
structure StatusEntry where
  ownerId : Bytes
  hasData : Bool
  lastChangedDate : Nat
  lastChangedAuthorId : Bytes
  dataSize : Nat
  infoSize : Nat
  info : Bytes
  data : Option Pointer := none
  accounts : Option (Int × Int)
  deriving DecidableEq, Repr

inductive Stored where
  | number (n : Nat)
  | bytes (b : Bytes)
  | boardInfo (info : BoardInfo)
  | rank (entry : RankEntry)
  | playerRank (entry : RankEntry)
  | tusVariable (entry : VariableEntry)
  | status (entry : StatusEntry) (cap : Nat)
  | tssStatus (modified : Nat) (status : Int) (contentLength : Nat)
  deriving DecidableEq, Repr

structure Store where
  target : Pointer
  index : Nat := 0
  value : Stored
  deriving DecidableEq, Repr

/-- The output pointers and the sizes a pending entry keeps. `PendingScoreRequest` and
`PendingTusRequest` share the record; what one of them lacks stays empty. -/
structure Outputs where
  requestedNpIds : List Bytes := []
  rankArray : Option Pointer := none
  plainRankArray : Option Pointer := none
  aRankArray : Option Pointer := none
  aPlayerRankArray : Option Pointer := none
  commentArray : Option Pointer := none
  infoArray : Option Pointer := none
  boardInfo : Option Pointer := none
  recvSize : Nat := 0
  totalSizeOut : Option Pointer := none
  lastSortDate : Option Pointer := none
  totalRecord : Option Pointer := none
  variableArray : Option Pointer := none
  variableArrayA : Option Pointer := none
  variableArrayCs : Option Pointer := none
  statusArray : Option Pointer := none
  statusArrayA : Option Pointer := none
  statusArrayCs : Option Pointer := none
  dataCap : Nat := 0
  dataOffset : Nat := 0
  statusCap : Nat := 0
  tssStatusOut : Option Pointer := none
  tssContentLengthOut : Option Pointer := none
  totalOut : Option Pointer := none
  dataOut : Option Pointer := none
  arrayNum : Nat := 0
  authCode : Option Pointer := none
  issuerId : Option Pointer := none
  deriving DecidableEq, Repr

end NpHandler
