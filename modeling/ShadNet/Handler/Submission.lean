import ShadNet.Handler.Sections

/-!
# Requests of the handler

What `NpHandler` does for the score, TUS, authorization and trophy libraries:
the session of the user is looked up, the packet is given to its client, and the
pending entry is put into the map in a section of its own. The authorization
request holds the lock of its map over both.
-/

namespace NpHandler

open LockProgram HandlerState

/-! ## Communication ids -/

/-- `GetNpCommId`: twelve characters of the id for the service label. -/
def getNpCommId (serviceLabel : Int) (s : HandlerState) : Bytes :=
  let inRange := 0 ≤ serviceLabel ∧ serviceLabel < s.npCommIds.length
  let index := if inRange then serviceLabel.toNat else 0
  ((s.npCommIds[index]?).getD [] ++ List.replicate 12 0).take 12

def isValidNpCommId (id : Bytes) : Bool := id.any (· ≠ 0)

def hasNpCommId (serviceLabel : Int) (s : HandlerState) : Bool :=
  isValidNpCommId (getNpCommId serviceLabel s)

def isAuthenticated (clientId : Nat) (s : HandlerState) : Bool :=
  match s.client? clientId with
  | some client => client.authenticated
  | none => false

/-! ## Submission and registration -/

/-- The packet goes out, then the entry goes in. -/
def submitAndRegister (call ref clientId : Nat) (family : Family) (userId : Int)
    (message : Message) (outputs : Outputs) : Handler Int := do
  let pktId ← Prog.locked (.submit call clientId family ref)
    (submitRequest call clientId message ref)
  let entry : PendingRequest :=
    { family, pktId, req := ref, cmd := message.cmd, userId, outputs, client := clientId, call }
  Prog.update (.register entry) (register entry)
  pure orbisOk

/-! ### Scores -/

def submitScore (call ref : Nat) (userId serviceLabel : Int) (message : Message)
    (outputs : Outputs) : Handler Int := do
  match ← reads (·.sessionClient? userId) with
  | none => pure signedOut
  | some client =>
    if ← reads (isAuthenticated client.clientId) then
      if ← reads (hasNpCommId serviceLabel) then
        submitAndRegister call ref client.clientId .score userId message outputs
      else pure communityInvalidArgument
    else pure communityNoLogin

section Score

variable (call ref : Nat) (userId serviceLabel : Int) (boardId : Nat)

def recordScore (pcId score : Int) (comment gameInfo : Bytes) (compareDate : Nat) : Handler Int :=
  submitScore call ref userId serviceLabel
    (.recordScore boardId pcId score comment gameInfo compareDate) {}

def recordGameData (pcId score : Int) (data : Bytes) : Handler Int :=
  submitScore call ref userId serviceLabel (.recordScoreData boardId pcId score data) {}

def getGameData (npId : Bytes) (pcId : Int) (dataOut : Option Pointer) (recvSize : Nat)
    (totalSizeOut : Option Pointer) : Handler Int :=
  submitScore call ref userId serviceLabel (.getScoreData boardId npId pcId)
    { dataOut, recvSize, totalSizeOut }

def getGameDataByAccountId (accountId pcId : Int) (dataOut : Option Pointer) (recvSize : Nat)
    (totalSizeOut : Option Pointer) : Handler Int :=
  submitScore call ref userId serviceLabel (.getScoreGameDataByAccId boardId accountId pcId)
    { dataOut, recvSize, totalSizeOut }

def getBoardInfo (boardInfo : Pointer) : Handler Int :=
  submitScore call ref userId serviceLabel (.getBoardInfos boardId) { boardInfo := some boardInfo }

/-- The arrays and counters a ranking request may fill besides its rank array. -/
structure RankingOutputs where
  commentArray : Option Pointer := none
  infoArray : Option Pointer := none
  lastSortDate : Option Pointer := none
  totalRecord : Option Pointer := none
  deriving DecidableEq, Repr

def RankingOutputs.toOutputs (out : RankingOutputs) (arrayNum : Nat) : Outputs :=
  { commentArray := out.commentArray
    infoArray := out.infoArray
    lastSortDate := out.lastSortDate
    totalRecord := out.totalRecord
    arrayNum }

/-- The player characters are all given or all left out. -/
def getRankingByNpId (npIds : List Bytes) (pcIds : List Int) (rankArray : Pointer)
    (out : RankingOutputs) : Handler Int :=
  if pcIds ≠ [] ∧ pcIds.length ≠ npIds.length then pure communityInvalidArgument
  else
    submitScore call ref userId serviceLabel
      (.getScoreNpId boardId
        (npIds.zipIdx.map (fun (npId, i) => (npId, (pcIds[i]?).getD 0)))
        out.commentArray.isSome out.infoArray.isSome)
      { out.toOutputs npIds.length with
        requestedNpIds := npIds
        rankArray := some rankArray }

def getRankingByAccountId (accountIds pcIds : List Int) (rankArray : Pointer)
    (out : RankingOutputs) : Handler Int :=
  submitScore call ref userId serviceLabel
    (.getScoreAccountId boardId
      (accountIds.zipIdx.map (fun (accountId, i) => (accountId, (pcIds[i]?).getD 0)))
      out.commentArray.isSome out.infoArray.isSome)
    { out.toOutputs accountIds.length with aPlayerRankArray := some rankArray }

/-- The rank array of a range or friends request, of one of two kinds. -/
inductive PlainRankArray where
  | plain (rankArray : Pointer)
  | a (rankArray : Pointer)
  deriving DecidableEq, Repr

def PlainRankArray.addTo (array : PlainRankArray) (outputs : Outputs) : Outputs :=
  match array with
  | plain rankArray => { outputs with plainRankArray := some rankArray }
  | a rankArray => { outputs with aRankArray := some rankArray }

/-- `GetRankingByRange` and `GetRankingByRangeA`. -/
def getRankingByRange (startSerialRank arrayNum : Nat) (rankArray : PlainRankArray)
    (out : RankingOutputs) : Handler Int :=
  submitScore call ref userId serviceLabel
    (.getScoreRange boardId startSerialRank arrayNum out.commentArray.isSome
      out.infoArray.isSome)
    (rankArray.addTo (out.toOutputs arrayNum))

/-- `GetFriendsRanking` and `GetFriendsRankingA`. -/
def getFriendsRanking (includeSelf : Bool) (startSerialRank arrayNum : Nat)
    (rankArray : PlainRankArray) (out : RankingOutputs) : Handler Int :=
  submitScore call ref userId serviceLabel
    (.getScoreFriends boardId includeSelf startSerialRank arrayNum out.commentArray.isSome
      out.infoArray.isSome)
    (rankArray.addTo (out.toOutputs arrayNum))

end Score

/-! ### Title user storage -/

/-- The TUS requests are sent without asking whether the client is authenticated. -/
def submitTus (call ref : Nat) (userId serviceLabel : Int) (message : ShadNetClient → Message)
    (outputs : Outputs) : Handler Int := do
  match ← reads (·.sessionClient? userId) with
  | none => pure signedOut
  | some client =>
    if ← reads (hasNpCommId serviceLabel) then
      submitAndRegister call ref client.clientId .tus userId (message client) outputs
    else pure communityInvalidArgument

def lower (name : Bytes) : Bytes :=
  name.map (fun c => if 65 ≤ c.toNat ∧ c.toNat ≤ 90 then c + 32 else c)

/-- A virtual user, an account, or the user of the client when the name is his or empty. -/
def tusTarget (ownerNpId virtualUser : Bytes) (ownerAccountId : Int) (client : ShadNetClient) :
    TusTarget :=
  if virtualUser ≠ [] then { ownerNpId, virtualUser }
  else if ownerAccountId ≠ 0 then { ownerNpId, ownerAccountId }
  else if ownerNpId = [] ∨ lower ownerNpId = lower client.npId then
    { ownerNpId, ownerAccountId := client.accountId }
  else { ownerNpId }

/-! ### Authorization codes -/

/-- Both steps are under the lock of the map. -/
def submitAuth (call ref clientId : Nat) (userId : Int) (message : Message) (outputs : Outputs)
    (s : HandlerState) : HandlerState :=
  let (pktId, s) := submitRequest call clientId message ref s
  register
    { family := .auth, pktId, req := ref, cmd := message.cmd, userId, outputs, client := clientId,
      call } s

def requestAuthorizationCode (call ref : Nat) (userId : Int) (clientId scope : Bytes)
    (outputs : Outputs) : Handler Int := do
  match ← reads (·.sessionClient? userId) with
  | none => pure signedOut
  | some client =>
    if ← reads (isAuthenticated client.clientId) then
      Prog.update (.submit call client.clientId .auth ref)
        (submitAuth call ref client.clientId userId (.getAuthorizationCode clientId scope) outputs)
      pure orbisOk
    else pure signedOut

/-! ### Trophies -/

/-- Without `on_merged` nothing is registered. The entry of a trophy sync keeps no user. -/
def syncTrophies (call : Nat) (userId serviceLabel : Int) (localTrophies : List (Int × Nat))
    (onMerged : Bool) : Handler Unit := do
  match ← reads (·.sessionClient? userId) with
  | none => pure ()
  | some client =>
    if ← reads (fun s => isAuthenticated client.clientId s && client.trophiesEnabled) then
      if ← reads (hasNpCommId serviceLabel) then
        if onMerged then
          let ref ← Prog.locked (.begin call ⟨.trophy, call⟩) (beginOwn call .trophy)
          let _ ← submitAndRegister call ref client.clientId .trophy (-1)
            (.syncTrophies localTrophies) {}
          pure ()
        else updates (submitUnanswered client.clientId)
      else pure ()
    else pure ()

/-! ## Replies -/

def storeAll (call ref : Nat) : List Store → Handler Unit
  | [] => pure ()
  | store :: rest => do
    Prog.update (.store call ref) (replyStore call ref store rest.isEmpty)
    storeAll call ref rest

/-- The end of `OnScoreReply` and `OnTusReply`, once the entry is taken. -/
def answer (pb : ShadNetProto) (call client : Nat) (reply : Reply) (entry : PendingRequest) :
    Handler Unit := do
  let c ← Prog.locked (.prepare call reply entry) (prepare pb call reply entry)
  storeAll call entry.req c.stores
  Prog.forSome c.recv (fun recv => updates (keepRecv entry.req (some recv)))
  Prog.update (.complete call entry.req) (complete call client entry c.result)

def answerAuth (pb : ShadNetProto) (call client : Nat) (reply : Reply) (entry : PendingRequest) :
    Handler Unit :=
  Prog.update (.complete call entry.req)
    (completeAuth call client entry (authCompletion pb reply entry.outputs))

/-- `OnScoreReply`, `OnTusReply`, `OnAuthReply` and `OnTrophyReply`. -/
def onReply (pb : ShadNetProto) (call client : Nat) (family : Family) (pktId : Nat)
    (reply : Reply) : Handler Unit := do
  match ← Prog.locked (.take call client family pktId reply)
      (takePending call client family pktId reply) with
  | none => pure ()
  | some entry =>
    match family with
    | .auth => answerAuth pb call client reply entry
    | _ => answer pb call client reply entry

def onAsyncReply (pb : ShadNetProto) (call client pktId : Nat) (reply : Reply) : Handler Unit :=
  match reply.cmd.family? with
  | some family => onReply pb call client family pktId reply
  | none => pure ()

/-! ## Users -/

/-- The end of `ConnectUser`, once the client is authenticated. -/
def connectUser (userId : Int) (npId : Bytes) (accountId : Int) : Handler Unit :=
  updates (addSession userId npId accountId)

/-- The threads of the client exit: it is no longer connected nor authenticated. -/
def loseConnection (clientId : Nat) (s : HandlerState) : HandlerState :=
  { s with
    clients := KeyedTable.adjust ShadNetClient.clientId clientId
      (fun client => { client with authenticated := false }) s.clients }

def failPendingRequests (call : Nat) (userId errorCode : Int) : Handler Unit :=
  Prog.forEach sweptFamilies (fun family =>
    Prog.update (.sweep call userId family) (sweepPending call userId family errorCode))

def disconnectUser (call : Nat) (userId : Int) : Handler Unit := do
  let found ← Prog.locked (.disconnect call userId) (removeSession call userId)
  Prog.forSome found (fun clientId => do
    updates (loseConnection clientId)
    failPendingRequests call userId signedOut)

end NpHandler
