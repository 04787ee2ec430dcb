import ShadNet.Signaling.Types
import ShadNet.LockProgram

/-!
# The signaling state and its primitive operations

`NpSignalingState` also holds what the signaling functions reach outside of it:
the matching2 context slots and caches, and the datagrams handed to the
transport hooks. `staged` records every dispatch ever put into
`dispatch_queue`, in order, and `taken` how many of them have left it.
-/

namespace NpSignaling

open LockProgram

def kActivateCooldownUs : Int := 6000000

def kActivateBudgetMaxUs : Int := 600000000

def fw170 : UInt32 := 0x1700000

def kPeerNetInfoRequestIdPrefix : UInt32 := 0x21000000

/-- Dispatches are named by their position in `staged`: `inHand` is the one the dispatch thread
has taken and not called back yet, `invoked` lists those it has. -/
structure NpSignalingState where
  contexts : List NpSignalingContext := []
  connections : List ConnectionInfo := []
  peerTransports : List PeerTransport := []
  npidToConn : List NpidEntry := []
  pendingActivations : List PendingActivation := []
  lastAssignedContextId : Nat := 0
  connectionIdSeed : Nat := 0
  transportIdSeed : Nat := 0
  initialized : Bool := false
  dispatchStop : Bool := false
  staged : List QueuedDispatch := []
  contextRefs : Nat := 0
  runtimeRunning : Bool := false
  externalIp : UInt32 := 0
  contextObjects : List ContextObject := []
  caches : List Matching2ContextCache := []
  matching2Events : List Matching2SignalingEvent := []
  matching2Initialized : Bool := false
  matching2NextId : Nat := 1
  objectsMade : Nat := 0
  sent : List Datagram := []
  connectionsMade : Nat := 0
  peerNetinfoResults : List PeerNetInfoResult := []
  peerNetinfoNextId : UInt32 := 1
  peakConnectionCount : Nat := 0
  taken : Nat := 0
  inHand : Option Nat := none
  invoked : List Nat := []
  deriving DecidableEq, Repr

namespace NpSignalingState

def context? (s : NpSignalingState) (ctxId : Nat) : Option NpSignalingContext :=
  KeyedTable.lookup NpSignalingContext.ctxId ctxId s.contexts

def connection? (s : NpSignalingState) (connId : Nat) : Option ConnectionInfo :=
  KeyedTable.lookup ConnectionInfo.connId connId s.connections

def transport? (s : NpSignalingState) (transportId : Nat) : Option PeerTransport :=
  KeyedTable.lookup PeerTransport.transportId transportId s.peerTransports

def indexed? (s : NpSignalingState) (key : CtxNpIdKey) : Option NpidEntry :=
  KeyedTable.lookup NpidEntry.key key s.npidToConn

def contextObject? (s : NpSignalingState) (ctxId : Nat) : Option ContextObject :=
  KeyedTable.lookup ContextObject.ctxId ctxId s.contextObjects

def adjustConnection (connId : Nat) (f : ConnectionInfo → ConnectionInfo)
    (s : NpSignalingState) : NpSignalingState :=
  { s with connections := KeyedTable.adjust ConnectionInfo.connId connId f s.connections }

def adjustTransport (transportId : Nat) (f : PeerTransport → PeerTransport)
    (s : NpSignalingState) : NpSignalingState :=
  { s with
    peerTransports := KeyedTable.adjust PeerTransport.transportId transportId f s.peerTransports }

def send (datagram : Datagram) (s : NpSignalingState) : NpSignalingState :=
  { s with sent := s.sent ++ [datagram] }

end NpSignalingState

def isContextValidLocked (ctxId : Nat) (s : NpSignalingState) : Bool :=
  match s.context? ctxId with
  | some ctx => ctx.active
  | none => false

/-! ## Identifiers -/

def tryContextIds (s : NpSignalingState) : Nat → Nat → Option Nat
  | 0, _ => none
  | tries + 1, candidate =>
    if (s.context? candidate).isNone then some candidate
    else tryContextIds s tries (if candidate = 8 then 1 else candidate + 1)

def allocateContextIdLocked (s : NpSignalingState) : Option Nat × NpSignalingState :=
  let candidate := if s.lastAssignedContextId = 8 then 1 else s.lastAssignedContextId + 1
  match tryContextIds s 8 candidate with
  | none => (none, s)
  | some ctxId => (some ctxId, { s with lastAssignedContextId := ctxId })

/-- The search both id seeds go through: the id found and the seed left behind. -/
def trySeeds (taken : Nat → Bool) : Nat → Nat → Option Nat × Nat
  | 0, seed => (none, seed)
  | tries + 1, seed =>
    let following := if seed + 1 > 0x7fff then 1 else seed + 1
    if seed ≠ 0 ∧ taken seed = false then (some seed, following)
    else trySeeds taken tries following

/-- `random` is the value of `std::random_device`, read only for an unset seed. -/
def allocateConnectionIdLocked (random : UInt32) (s : NpSignalingState) :
    Option Nat × NpSignalingState :=
  let drawn := (random.toNat / 0x4001) % 0x8000
  let seed :=
    if s.connectionIdSeed = 0 then (if drawn = 0 then 1 else drawn) else s.connectionIdSeed
  let (connId, following) := trySeeds (fun id => (s.connection? id).isSome) 0x10000 seed
  (connId, { s with connectionIdSeed := following })

def allocateTransportIdLocked (s : NpSignalingState) : Option Nat × NpSignalingState :=
  let seed := if s.transportIdSeed = 0 then 1 else s.transportIdSeed
  let (transportId, following) := trySeeds (fun id => (s.transport? id).isSome) 0x10000 seed
  (transportId, { s with transportIdSeed := following })

theorem tryContextIds_free {s : NpSignalingState} {tries candidate ctxId : Nat}
    (h : tryContextIds s tries candidate = some ctxId) : s.context? ctxId = none := by
  induction tries generalizing candidate with
  | zero => simp [tryContextIds] at h
  | succ tries ih =>
    rw [tryContextIds] at h
    by_cases free : (s.context? candidate).isNone
    · rw [if_pos free] at h
      obtain rfl := Option.some.inj h
      simpa using free
    · rw [if_neg free] at h
      exact ih h

theorem trySeeds_free {taken : Nat → Bool} {tries seed id following : Nat}
    (h : trySeeds taken tries seed = (some id, following)) : id ≠ 0 ∧ taken id = false := by
  induction tries generalizing seed with
  | zero => simp [trySeeds] at h
  | succ tries ih =>
    rw [trySeeds] at h
    by_cases free : seed ≠ 0 ∧ taken seed = false
    · rw [if_pos free] at h
      obtain ⟨rfl, -⟩ := by simpa using h
      exact free
    · rw [if_neg free] at h
      exact ih h

/-- How far the search is from a free id: it climbs to it, or wraps around first. -/
def seedDistance (free seed : Nat) : Nat :=
  if seed ≤ free then free - seed else (0x8000 - seed) + free

/-- The search goes through every id of the range, wherever it starts. -/
theorem trySeeds_finds {taken : Nat → Bool} {free : Nat} (positive : free ≠ 0)
    (inRange : free ≤ 0x7fff) (untaken : taken free = false) {tries seed : Nat}
    (enough : seedDistance free seed < tries) : (trySeeds taken tries seed).1 ≠ none := by
  induction tries generalizing seed with
  | zero => omega
  | succ tries ih =>
    rw [trySeeds]
    by_cases found : seed ≠ 0 ∧ taken seed = false
    · simp [found]
    · rw [if_neg found]
      have passed : seed ≠ free := by
        rintro rfl
        exact found ⟨positive, untaken⟩
      apply ih
      simp only [seedDistance] at enough ⊢
      split at enough <;> split <;> split <;> omega

theorem seedDistance_lt (free seed : Nat) (inRange : free ≤ 0x7fff) :
    seedDistance free seed < 0x10000 := by
  simp only [seedDistance]
  split <;> omega

theorem allocateConnectionIdLocked_some (random : UInt32) {s : NpSignalingState} {free : Nat}
    (positive : free ≠ 0) (inRange : free ≤ 0x7fff) (untaken : s.connection? free = none) :
    (allocateConnectionIdLocked random s).1 ≠ none := by
  simp only [allocateConnectionIdLocked]
  have untaken' : (fun id => (s.connection? id).isSome) free = false := by simp [untaken]
  exact trySeeds_finds positive inRange untaken' (seedDistance_lt free _ inRange)

theorem allocateTransportIdLocked_some {s : NpSignalingState} {free : Nat}
    (positive : free ≠ 0) (inRange : free ≤ 0x7fff) (untaken : s.transport? free = none) :
    (allocateTransportIdLocked s).1 ≠ none := by
  simp only [allocateTransportIdLocked]
  have untaken' : (fun id => (s.transport? id).isSome) free = false := by simp [untaken]
  exact trySeeds_finds positive inRange untaken' (seedDistance_lt free _ inRange)

theorem allocateConnectionIdLocked_free {random : UInt32} {s s' : NpSignalingState}
    {connId : Nat} (h : allocateConnectionIdLocked random s = (some connId, s')) :
    connId ≠ 0 ∧ s.connection? connId = none := by
  simp only [allocateConnectionIdLocked, Prod.mk.injEq] at h
  obtain ⟨nonzero, free⟩ := trySeeds_free (Prod.ext h.1 rfl)
  exact ⟨nonzero, by simpa using free⟩

theorem allocateConnectionIdLocked_state {random : UInt32} {s s' : NpSignalingState}
    {connId : Option Nat} (h : allocateConnectionIdLocked random s = (connId, s')) :
    ∃ seed, s' = { s with connectionIdSeed := seed } :=
  ⟨_, (congrArg Prod.snd h).symm⟩

theorem allocateTransportIdLocked_free {s s' : NpSignalingState} {transportId : Nat}
    (h : allocateTransportIdLocked s = (some transportId, s')) :
    transportId ≠ 0 ∧ s.transport? transportId = none := by
  simp only [allocateTransportIdLocked, Prod.mk.injEq] at h
  obtain ⟨nonzero, free⟩ := trySeeds_free (Prod.ext h.1 rfl)
  exact ⟨nonzero, by simpa using free⟩

theorem allocateTransportIdLocked_state {s s' : NpSignalingState} {transportId : Option Nat}
    (h : allocateTransportIdLocked s = (transportId, s')) :
    ∃ seed, s' = { s with transportIdSeed := seed } :=
  ⟨_, (congrArg Prod.snd h).symm⟩

/-! ## Removal -/

def removeConnectionLocked (connId : Nat) (s : NpSignalingState) : NpSignalingState :=
  match s.connection? connId with
  | none => s
  | some ci =>
    let mapKey : CtxNpIdKey := ⟨ci.ctxId, ci.npid⟩
    let npidToConn :=
      match s.indexed? mapKey with
      | some entry =>
        if entry.connId = connId then KeyedTable.remove NpidEntry.key mapKey s.npidToConn
        else s.npidToConn
      | none => s.npidToConn
    { s with
      npidToConn
      connections := KeyedTable.remove ConnectionInfo.connId connId s.connections }

def removeContextConnectionsLocked (ctxId : Nat) (s : NpSignalingState) : NpSignalingState :=
  let toRemove := (s.connections.filter (fun ci => ci.ctxId = ctxId)).map (·.connId)
  toRemove.foldl (fun s connId => removeConnectionLocked connId s) s

/-! ## Activation budget -/

def consumeActivationBudgetLocked (now : Int) (ctx : NpSignalingContext) :
    Bool × NpSignalingContext :=
  let budget :=
    if ctx.activateLastUpdateUs = 0 then kActivateBudgetMaxUs
    else
      let elapsed := max 0 (now - ctx.activateLastUpdateUs)
      min kActivateBudgetMaxUs (ctx.activateBudgetUs + elapsed)
  let ctx := { ctx with activateLastUpdateUs := now, activateBudgetUs := budget }
  if budget < kActivateCooldownUs then (false, ctx)
  else (true, { ctx with activateBudgetUs := budget - kActivateCooldownUs })

def consumeActivationBudgetGatedLocked (now : Int) (ctx : NpSignalingContext) :
    Bool × NpSignalingContext :=
  if ctx.compiledSdkVersion < fw170 then (true, ctx) else consumeActivationBudgetLocked now ctx

/-! ## Events -/

def stageBasicCallbackLocked (ctx : NpSignalingContext) (connId : Nat) (eventType : SignalingEvent)
    (errorCode : Option SignalingError) (serial : Nat) (s : NpSignalingState) :
    NpSignalingState :=
  match ctx.callback with
  | none => s
  | some callback =>
    if s.dispatchStop then s
    else
      { s with
        staged := s.staged ++
          [⟨ctx.ctxId, connId, eventType, errorCode, callback, ctx.callbackArg, serial⟩] }

def dispatchConnectionEvent (connId : Nat) (eventType : SignalingEvent)
    (errorCode : Option SignalingError) (s : NpSignalingState) : NpSignalingState :=
  match s.connection? connId with
  | none => s
  | some ci =>
    match s.context? ci.ctxId with
    | none => s
    | some ctx =>
      if ctx.active then stageBasicCallbackLocked ctx connId eventType errorCode ci.serial s else s

/-- The owner of the context, or the zero id for a context that is gone. -/
def localNpidOf (ctxId : Nat) (s : NpSignalingState) : OrbisNpId :=
  match s.context? ctxId with
  | some owner => owner.ownerNpid
  | none => npIdFromOnlineId .zero

def dispatchPeerActivatedEvent (connId : Nat) (s : NpSignalingState) : NpSignalingState :=
  match s.connection? connId with
  | none => s
  | some ci =>
    let localNpid := localNpidOf ci.ctxId s
    s.contexts.foldl
      (fun s ctx =>
        if ctx.ctxId = ci.ctxId ∨ ctx.active = false then s
        else if ctx.ownerNpid = localNpid then
          stageBasicCallbackLocked ctx connId .peerActivated none ci.serial s
        else s) s

/-! ## The dispatch thread -/

def NpSignalingState.dispatchQueue (s : NpSignalingState) : List QueuedDispatch :=
  s.staged.drop s.taken

/-- One round of `DispatchThreadMain` under the dispatch mutex. There is one dispatch thread, so
nothing is taken while it is in a callback. -/
def takeDispatchLocked (s : NpSignalingState) : Bool × NpSignalingState :=
  if s.dispatchStop ∨ s.inHand.isSome ∨ s.dispatchQueue = [] then (false, s)
  else (true, { s with taken := s.taken + 1, inHand := some s.taken })

/-- The callback is called without a lock, with what the dispatch holds. -/
def invokeCallback (s : NpSignalingState) : NpSignalingState :=
  match s.inHand with
  | none => s
  | some position => { s with inHand := none, invoked := s.invoked ++ [position] }

/-- `StopDispatchThread`, up to the join. -/
def stopDispatchLocked (s : NpSignalingState) : NpSignalingState :=
  { s with dispatchStop := true, taken := s.staged.length }

/-! ## Peer information and statistics -/

/-- `externalIpv4` and `natRouteKind` are the answer of `sceNetCtlGetNatInfo`. -/
def stagePeerNetInfoResultLocked (ctxId : Nat) (externalIpv4 natRouteKind : UInt32)
    (s : NpSignalingState) : UInt32 × NpSignalingState :=
  let reqId := kPeerNetInfoRequestIdPrefix ||| s.peerNetinfoNextId
  (reqId, { s with
    peerNetinfoNextId := s.peerNetinfoNextId + 1
    peerNetinfoResults :=
      KeyedTable.store PeerNetInfoResult.connId
        { ctxId, connId := reqId, externalIpv4, natRouteKind } s.peerNetinfoResults })

def takePeerNetInfoResultLocked (ctxId : Nat) (reqOrConnId : UInt32) (s : NpSignalingState) :
    Option PeerNetInfoResult × NpSignalingState :=
  match KeyedTable.lookup PeerNetInfoResult.connId reqOrConnId s.peerNetinfoResults with
  | none => (none, s)
  | some result =>
    if result.ctxId = ctxId then
      (some result, { s with
        peerNetinfoResults :=
          KeyedTable.remove PeerNetInfoResult.connId reqOrConnId s.peerNetinfoResults })
    else (none, s)

structure ConnectionStatistics where
  peak : Nat
  active : Nat
  transient : Nat
  established : Nat
  deriving DecidableEq, Repr

def snapshotConnectionStatisticsLocked (s : NpSignalingState) :
    ConnectionStatistics × NpSignalingState :=
  let established := s.connections.countP (fun ci => ci.status = .active)
  let transient := s.connections.countP (fun ci => ci.status = .pending)
  let active := transient + established
  let peak := max s.peakConnectionCount active
  (⟨peak, active, transient, established⟩, { s with peakConnectionCount := peak })

end NpSignaling
