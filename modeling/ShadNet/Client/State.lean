import ShadNet.Bytes

/-!
# The state of a shadNet client

The connection is what the socket will still hand over: `none` is a closed
socket. The two semaphores are their counts. The protobuf messages are read and
written by generated code, which is the parameter `Proto`; the hooks the owner
installs are listed as they are called.
-/

namespace ShadNetClient

def shadHeaderSize : Nat := 15
def shadMaxPacketSize : Nat := 0x800000

/-- The first byte of a packet; a byte above three is no type. -/
inductive PacketType where
  | request
  | reply
  | notification
  | serverInfo
  deriving DecidableEq, Repr

def PacketType.code : PacketType → UInt8
  | .request => 0
  | .reply => 1
  | .notification => 2
  | .serverInfo => 3

/-- The commands the client itself sends or reads the replies of. -/
inductive CommandType where
  | login
  | getServerFeatures
  | setClientVersion
  | getToken
  deriving DecidableEq, Repr

def CommandType.code : CommandType → UInt16
  | .login => 0
  | .getServerFeatures => 12
  | .setClientVersion => 13
  | .getToken => 39

/-- The one notification that is read even when its blob is empty. -/
def webApiPushEvent : UInt16 := 17

/-- Error bytes the client tells apart. -/
inductive ErrorType where
  | noError
  | malformed
  | loginAlreadyLoggedIn
  | loginInvalidUsername
  | loginInvalidPassword
  | loginInvalidToken
  | other (code : UInt8)
  deriving DecidableEq, Repr

def ErrorType.ofCode (code : UInt8) : ErrorType :=
  if code = 0 then .noError
  else if code = 1 then .malformed
  else if code = 6 then .loginAlreadyLoggedIn
  else if code = 7 then .loginInvalidUsername
  else if code = 8 then .loginInvalidPassword
  else if code = 9 then .loginInvalidToken
  else .other code

inductive ShadNetState where
  | ok
  | failureConnect
  | failureServerInfo
  | failureAuth
  | failureAlreadyIn
  | failureUsername
  | failurePassword
  | failureToken
  | failureProtocol
  | failureOther
  deriving DecidableEq, Repr

structure FriendEntry where
  npid : String
  online : Bool
  deriving DecidableEq, Repr

structure LoginReply where
  avatarUrl : String := ""
  userId : UInt64 := 0
  friends : List FriendEntry := []
  requestsSent : List String := []
  requestsReceived : List String := []
  blocked : List String := []
  deriving DecidableEq, Repr

structure LoginResult extends LoginReply where
  error : ErrorType := .malformed
  deriving DecidableEq, Repr

/-- What the parsers of the generated code make of a blob, `none` where they refuse it, and the
bytes it makes of the version report. -/
structure Proto where
  loginReply : List UInt8 → Option LoginReply
  getTokenReply : List UInt8 → Option String
  serverFeaturesReply : List UInt8 → Option (Bool × Bool)
  clientVersion : List UInt8

/-- The arguments of one call of DispatchPacket. -/
structure Packet where
  type : UInt8
  command : UInt16
  id : UInt64
  payload : List UInt8
  deriving DecidableEq, Repr

inductive Hook where
  | asyncReply (command : UInt16) (id : UInt64) (error : UInt8) (body : List UInt8)
  | loginResult (result : LoginResult)
  | notification (command : UInt16) (blob : List UInt8)
  deriving DecidableEq, Repr

structure State where
  sock : Option (List (Arrivals.Chunk UInt8)) := none
  terminate : Bool := false
  connected : Bool := false
  authenticated : Bool := false
  state : ShadNetState := .ok
  semConnected : Nat := 0
  semAuthenticated : Nat := 0
  sendQueue : List (List UInt8) := []
  pktCounter : UInt64 := 1
  avatarUrl : String := ""
  userId : UInt64 := 0
  friends : List FriendEntry := []
  bearerToken : String := ""
  matching2Enabled : Bool := false
  trophiesEnabled : Bool := false
  serverFeaturesReceived : Bool := false
  hooks : List Hook := []
  /-- A reply made the reader thread read outside its payload. -/
  overrun : Bool := false
  /-- The packets DispatchPacket was called for. -/
  dispatched : List Packet := []
  deriving DecidableEq, Repr

/-! ### The wire -/

def putLE16 (b : List UInt8) (off : Nat) (v : UInt16) : List UInt8 :=
  LittleEndian.put 2 b off v.toBitVec

def putLE32 (b : List UInt8) (off : Nat) (v : UInt32) : List UInt8 :=
  LittleEndian.put 4 b off v.toBitVec

def putLE64 (b : List UInt8) (off : Nat) (v : UInt64) : List UInt8 :=
  LittleEndian.put 8 b off v.toBitVec

def getLE16 (p : List UInt8) (off : Nat) : UInt16 := ⟨LittleEndian.get 16 2 p off⟩
def getLE32 (p : List UInt8) (off : Nat) : UInt32 := ⟨LittleEndian.get 32 4 p off⟩
def getLE64 (p : List UInt8) (off : Nat) : UInt64 := ⟨LittleEndian.get 64 8 p off⟩

def buildPacket (cmd : UInt16) (id : UInt64) (payload : List UInt8) : List UInt8 :=
  let total := UInt32.ofNat (shadHeaderSize + payload.length)
  let out := List.replicate shadHeaderSize (0 : UInt8)
  let out := out.set 0 PacketType.request.code
  let out := putLE16 out 1 cmd
  let out := putLE32 out 3 total
  let out := putLE64 out 7 id
  out ++ payload

/-- The blob behind a length field, or nothing where the payload ends before it does; `none`
where the signed comparison lets a length pass that reaches outside the payload. -/
def extractBlob (p : List UInt8) (pos : Nat) : Option (List UInt8) :=
  if p.length < pos + 4 then some []
  else
    let len := (getLE32 p pos).toNat
    -- `pos + static_cast<s32>(len)` is negative, or overflows, from 2^31 on
    if 2 ^ 31 ≤ pos + 4 + len then none
    else if p.length < pos + 4 + len then some []
    else some ((p.drop (pos + 4)).take len)

/-! ### Sections of the client's functions -/

def submitRequest (cmd : CommandType) (payload : List UInt8) (c : State) : State :=
  { c with
    pktCounter := c.pktCounter + 1
    sendQueue := c.sendQueue ++ [buildPacket cmd.code c.pktCounter payload] }

def requestServerFeatures (c : State) : State := submitRequest .getServerFeatures [] c

def reportClientVersion (pb : Proto) (c : State) : State :=
  let sz := UInt32.ofNat pb.clientVersion.length
  submitRequest .setClientVersion
    (putLE32 (List.replicate 4 0) 0 sz ++ pb.clientVersion) c

def doDisconnect (c : State) : State := { c with sock := none }

def releaseAuthenticated (c : State) : State :=
  { c with semAuthenticated := c.semAuthenticated + 1 }

def call (hook : Hook) (c : State) : State := { c with hooks := c.hooks ++ [hook] }

end ShadNetClient
