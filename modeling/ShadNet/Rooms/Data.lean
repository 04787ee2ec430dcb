import ShadNet.Rooms.Members

/-!
# The cached room

A create or join reply is delivered to the game and kept in the context's cache. Events about room
data change the cache, and the game's later questions about the room are answered from it.

Pointers are followed: a payload holds what its pointers lead to, and a binary attribute the
`data_size` bytes of its buffer.
-/

namespace Matching2Rooms

open NpSignaling (OrbisNpId OrbisNpOnlineId npIdNamed)

/-! ## Messages -/

structure MatchingRoomGroup where
  groupId : UInt32 := 0
  hasPasswd : Bool := false
  hasLabel : Bool := false
  label : List UInt8 := []
  slotCount : UInt32 := 0
  numMembers : UInt32 := 0

structure MatchingRoomDataInternal where
  publicSlots : UInt32 := 0
  privateSlots : UInt32 := 0
  openPublicSlots : UInt32 := 0
  openPrivateSlots : UInt32 := 0
  maxSlot : UInt32 := 0
  serverId : UInt32 := 0
  worldId : UInt32 := 0
  lobbyId : UInt32 := 0
  roomId : UInt64 := 0
  passwdSlotMask : UInt64 := 0
  joinedSlotMask : UInt32 := 0
  groups : List MatchingRoomGroup := []
  flags : UInt32 := 0
  binAttrsInternal : List MatchingBinAttr := []

structure CreateJoinRoomResponse where
  roomData : MatchingRoomDataInternal := {}
  members : List MatchingRoomMemberData := []
  meMemberId : UInt32 := 0
  ownerMemberId : UInt32 := 0

/-- What an event about updated room data carries. -/
structure UpdatedRoomData where
  roomId : UInt64 := 0
  flags : UInt32 := 0
  hasPasswdMask : Bool := false
  passwdSlotMask : UInt64 := 0
  binAttrs : List MatchingBinAttr := []

/-! ## Payloads -/

structure RoomGroup where
  id : UInt8
  hasPasswd : Bool
  hasLabel : Bool
  label : List UInt8
  slots : UInt32
  groupMembers : UInt32
  deriving DecidableEq, Repr

structure BinAttr where
  id : UInt16
  data : List UInt8
  deriving DecidableEq, Repr

structure RoomBinAttrInternal where
  lastUpdate : UInt64
  memberId : UInt16
  binAttr : BinAttr
  deriving DecidableEq, Repr

structure RoomMemberBinAttrInternal where
  lastUpdate : UInt64
  binAttr : BinAttr
  deriving DecidableEq, Repr

structure RoomDataInternal where
  publicSlots : UInt16
  privateSlots : UInt16
  openPublicSlots : UInt16
  openPrivateSlots : UInt16
  maxSlot : UInt16
  serverId : UInt16
  worldId : UInt32
  lobbyId : UInt64
  roomId : UInt64
  passwdSlotMask : UInt64
  joinedSlotMask : UInt64
  roomGroup : List RoomGroup
  flags : UInt32
  internalBinAttr : List RoomBinAttrInternal
  deriving DecidableEq, Repr

structure RoomMemberDataInternal where
  joinDate : UInt64
  npId : OrbisNpId
  memberId : UInt16
  teamId : UInt8
  natType : UInt8
  flagAttr : UInt32
  roomGroup : Option RoomGroup := none
  roomMemberBinAttrInternal : List RoomMemberBinAttrInternal := []
  deriving DecidableEq, Repr

structure RoomMemberDataInternalA where
  joinDateTicks : UInt64
  accountId : UInt64
  platform : UInt32
  onlineId : OrbisNpOnlineId
  memberId : UInt16
  teamId : UInt8
  natType : UInt8
  flags : UInt32
  roomGroup : Option RoomGroup := none
  roomMemberInternalBinAttr : List RoomMemberBinAttrInternal := []
  deriving DecidableEq, Repr

/-- The response struct of either variant. -/
structure RoomResponse (μ : Type) where
  roomData : RoomDataInternal
  members : List μ
  me : Option μ
  owner : Option μ

inductive RoomPayload where
  | plain (response : RoomResponse RoomMemberDataInternal)
  | a (response : RoomResponse RoomMemberDataInternalA)

inductive MemberPayload where
  | plain (member : RoomMemberDataInternal)
  | a (member : RoomMemberDataInternalA)

/-! ## The cache -/

def RoomGroup.key (g : RoomGroup) : Nat := g.id.toNat

def MemberCache.key (mc : MemberCache) : Nat := mc.memberId.toNat

structure RoomCache where
  numSlots : UInt32 := 0
  maskPassword : UInt64 := 0
  signalingMainMember : UInt16 := 0
  serverId : UInt16 := 0
  worldId : UInt32 := 0
  lobbyId : UInt64 := 0
  roomId : UInt64 := 0
  maxSlot : UInt16 := 0
  publicSlots : UInt16 := 0
  privateSlots : UInt16 := 0
  openPublicSlots : UInt16 := 0
  openPrivateSlots : UInt16 := 0
  passwdSlotMask : UInt64 := 0
  joinedSlotMask : UInt64 := 0
  flags : UInt32 := 0
  binAttrsInternal : List RoomBinAttrInternal := []
  groups : SortedTable RoomGroup.key := .empty
  members : SortedTable MemberCache.key := .empty
  owner : Bool := false

def RoomCache.key (rc : RoomCache) : Nat := rc.roomId.toNat

/-- A context and the rooms of its cache. -/
structure RoomContext where
  roomId : UInt64 := 0
  myMemberId : UInt16 := 0
  isRoomOwner : Bool := false
  aVariant : Bool := false
  rooms : SortedTable RoomCache.key := .empty

/-- `ORBIS_NP_MATCHING2_ROOMMEMBER_FLAG_ATTR_OWNER`. -/
def flagAttrOwner : UInt32 := 0x80000000

/-- What a pointer is left at that a loop sets to every element that fits. -/
def lastWhere {μ : Type} (fits : μ → Bool) (members : List μ) : Option μ :=
  members.foldl (fun found m => if fits m then some m else found) none

theorem lastWhere_eq {μ : Type} {fits : μ → Bool} {members : List μ} :
    lastWhere fits members = members.reverse.find? fits := by
  have run (found : Option μ) :
      members.foldl (fun found m => if fits m then some m else found) found =
        (members.reverse.find? fits).or found := by
    induction members generalizing found with
    | nil => rfl
    | cons m members ih =>
      rw [List.foldl_cons, ih, List.reverse_cons, List.find?_append, Option.or_assoc]
      congr 1
      cases fit : fits m with
      | true => simp [fit]
      | false => simp [fit]
  rw [lastWhere, run, Option.or_none]

theorem lastWhere_map {μ ν : Type} {f : ν → μ} {fits : μ → Bool} {members : List ν} :
    lastWhere fits (members.map f) = (lastWhere (fun m => fits (f m)) members).map f := by
  rw [lastWhere_eq, lastWhere_eq, ← List.map_reverse, List.find?_map]
  rfl

/-! ## Replies -/

def roomGroupOf (g : MatchingRoomGroup) : RoomGroup where
  id := g.groupId.toUInt8
  hasPasswd := g.hasPasswd
  hasLabel := g.hasLabel
  label := (g.label ++ List.replicate 8 0).take 8
  slots := g.slotCount
  groupMembers := g.numMembers

def roomBinAttrOf (a : MatchingBinAttr) : RoomBinAttrInternal where
  lastUpdate := a.updateDate
  memberId := a.updateMemberId.toUInt16
  binAttr := ⟨a.attrId.toUInt16, a.data⟩

def roomDataOf (rd : MatchingRoomDataInternal) : RoomDataInternal where
  publicSlots := rd.publicSlots.toUInt16
  privateSlots := rd.privateSlots.toUInt16
  openPublicSlots := rd.openPublicSlots.toUInt16
  openPrivateSlots := rd.openPrivateSlots.toUInt16
  maxSlot := rd.maxSlot.toUInt16
  serverId := rd.serverId.toUInt16
  worldId := rd.worldId
  lobbyId := rd.lobbyId.toUInt64
  roomId := rd.roomId
  passwdSlotMask := rd.passwdSlotMask
  joinedSlotMask := rd.joinedSlotMask.toUInt64
  roomGroup := rd.groups.map roomGroupOf
  flags := rd.flags
  internalBinAttr := rd.binAttrsInternal.map roomBinAttrOf

section Replies

variable (stored : Ipv4.Scanned → UInt32)

def roomCacheOf (room : RoomDataInternal) (resp : CreateJoinRoomResponse) : RoomCache where
  numSlots := room.maxSlot.toUInt32
  maskPassword := room.passwdSlotMask
  serverId := room.serverId
  worldId := room.worldId
  lobbyId := room.lobbyId
  roomId := room.roomId
  maxSlot := room.maxSlot
  publicSlots := room.publicSlots
  privateSlots := room.privateSlots
  openPublicSlots := room.openPublicSlots
  openPrivateSlots := room.openPrivateSlots
  passwdSlotMask := room.passwdSlotMask
  joinedSlotMask := room.joinedSlotMask
  flags := room.flags
  owner := resp.meMemberId == resp.ownerMemberId
  signalingMainMember := resp.ownerMemberId.toUInt16
  binAttrsInternal := room.internalBinAttr
  groups := .collect room.roomGroup
  members := .collect (resp.members.map (cacheMember stored))

/-- The room data of the payload, and the context with the room cached. -/
def buildCreateJoinRoomPayloadCommon (ctx : RoomContext) (resp : CreateJoinRoomResponse) :
    RoomDataInternal × RoomContext :=
  let room := roomDataOf resp.roomData
  let rooms := if ctx.roomId ≠ 0 ∧ ctx.roomId ≠ room.roomId then ctx.rooms.erase ctx.roomId.toNat
    else ctx.rooms
  let rc := roomCacheOf stored room resp
  (room, { ctx with
    rooms := rooms.assign rc
    roomId := room.roomId
    myMemberId := resp.meMemberId.toUInt16
    isRoomOwner := rc.owner })

def findPayloadGroup (groups : List RoomGroup) (id : UInt8) : Option RoomGroup :=
  groups.find? (fun group => group.id = id)

def appendMemberBinAttrs (m : MatchingRoomMemberData) : List RoomMemberBinAttrInternal :=
  m.binAttrsInternal.map (fun a => ⟨a.updateDate, a.attrId.toUInt16, a.data⟩)

/-- The flags of a member, which show who is the owner. -/
def memberFlags (m : MatchingRoomMemberData) : UInt32 :=
  if m.isOwner then m.flagAttr ||| flagAttrOwner else m.flagAttr

def memberDataOf (groups : List RoomGroup) (m : MatchingRoomMemberData) :
    RoomMemberDataInternal where
  joinDate := m.joinDate
  npId := npIdNamed m.npid
  memberId := m.memberId.toUInt16
  teamId := m.teamId.toUInt8
  natType := m.natType.toUInt8
  flagAttr := memberFlags m
  roomGroup := findPayloadGroup groups m.groupId.toUInt8
  roomMemberBinAttrInternal := appendMemberBinAttrs m

def memberDataAOf (groups : List RoomGroup) (m : MatchingRoomMemberData) :
    RoomMemberDataInternalA where
  joinDateTicks := m.joinDate
  accountId := m.accountId
  platform := m.platform
  onlineId := (npIdNamed m.npid).handle
  memberId := m.memberId.toUInt16
  teamId := m.teamId.toUInt8
  natType := m.natType.toUInt8
  flags := memberFlags m
  roomGroup := findPayloadGroup groups m.groupId.toUInt8
  roomMemberInternalBinAttr := appendMemberBinAttrs m

def buildCreateJoinRoomPayload (ctx : RoomContext) (resp : CreateJoinRoomResponse) :
    RoomResponse RoomMemberDataInternal × RoomContext :=
  let (room, ctx) := buildCreateJoinRoomPayloadCommon stored ctx resp
  let members := resp.members.map (memberDataOf room.roomGroup)
  ({ roomData := room
     members := members
     me := lastWhere (fun md => md.memberId = resp.meMemberId.toUInt16) members
     owner := lastWhere (fun md => md.memberId = resp.ownerMemberId.toUInt16) members }, ctx)

def buildCreateJoinRoomPayloadA (ctx : RoomContext) (resp : CreateJoinRoomResponse) :
    RoomResponse RoomMemberDataInternalA × RoomContext :=
  let (room, ctx) := buildCreateJoinRoomPayloadCommon stored ctx resp
  let members := resp.members.map (memberDataAOf room.roomGroup)
  ({ roomData := room
     members := members
     me := lastWhere (fun md => md.memberId = resp.meMemberId.toUInt16) members
     owner := lastWhere (fun md => md.memberId = resp.ownerMemberId.toUInt16) members }, ctx)

/-- What a reply delivers to the game, in the variant of its request, and the context after it. -/
def createJoinReply (aVariant : Bool) (ctx : RoomContext) (resp : CreateJoinRoomResponse) :
    RoomPayload × RoomContext :=
  if aVariant then
    let (payload, ctx) := buildCreateJoinRoomPayloadA stored ctx resp
    (.a payload, ctx)
  else
    let (payload, ctx) := buildCreateJoinRoomPayload stored ctx resp
    (.plain payload, ctx)

end Replies

/-! ## Updated room data -/

/-- The first attribute with the id is replaced, or the attribute is added at the end. -/
def replaceAttr (updated : RoomBinAttrInternal) : List RoomBinAttrInternal →
    List RoomBinAttrInternal
  | [] => [updated]
  | existing :: rest =>
    if existing.binAttr.id = updated.binAttr.id then updated :: rest
    else existing :: replaceAttr updated rest

def replaceAttrs (binAttrs : List MatchingBinAttr) (attrs : List RoomBinAttrInternal) :
    List RoomBinAttrInternal :=
  binAttrs.foldl (fun attrs a => replaceAttr (roomBinAttrOf a) attrs) attrs

def updatedRoomDataInternal (ctx : RoomContext) (n : UpdatedRoomData) : RoomContext :=
  match ctx.rooms.find? n.roomId.toNat with
  | none => ctx
  | some rc =>
    { ctx with rooms := ctx.rooms.assign { rc with
        flags := n.flags
        passwdSlotMask := if n.hasPasswdMask then n.passwdSlotMask else rc.passwdSlotMask
        binAttrsInternal := replaceAttrs n.binAttrs rc.binAttrsInternal } }

/-! ## Questions -/

/-- The copy leaves out who updated the attribute. -/
def copiedAttr (src : RoomBinAttrInternal) : RoomBinAttrInternal :=
  ⟨src.lastUpdate, 0, src.binAttr⟩

def memberFromCache (mc : MemberCache) : RoomMemberDataInternal where
  joinDate := mc.joinDate
  npId := mc.npId
  memberId := mc.memberId
  teamId := mc.teamId
  natType := mc.natType
  flagAttr := mc.flagAttr

def roomFromCache (rc : RoomCache) : RoomDataInternal where
  publicSlots := rc.publicSlots
  privateSlots := rc.privateSlots
  openPublicSlots := rc.openPublicSlots
  openPrivateSlots := rc.openPrivateSlots
  maxSlot := rc.maxSlot
  serverId := rc.serverId
  worldId := rc.worldId
  lobbyId := rc.lobbyId
  roomId := rc.roomId
  passwdSlotMask := rc.passwdSlotMask
  joinedSlotMask := rc.joinedSlotMask
  roomGroup := rc.groups.entries
  flags := rc.flags
  internalBinAttr := rc.binAttrsInternal.map copiedAttr

def buildGetRoomDataInternalPayload (ctx : RoomContext) (roomId : UInt64) :
    Option (RoomResponse RoomMemberDataInternal) :=
  match ctx.rooms.find? roomId.toNat with
  | none => none
  | some rc =>
    let members := rc.members.entries.map memberFromCache
    some {
      roomData := roomFromCache rc
      members := members
      me := lastWhere (fun md => md.memberId = ctx.myMemberId) members
      owner := lastWhere (fun md => md.flagAttr &&& flagAttrOwner ≠ 0) members }

/-- An attribute that is asked for, with no data when the member has none with that id. -/
def askedAttr (bins : SortedTable MemberBinCache.key) (id : UInt16) : RoomMemberBinAttrInternal :=
  match bins.find? id.toNat with
  | none => ⟨0, id, []⟩
  | some b => ⟨b.updateDate, id, b.data⟩

/-- `attrIds` are the attributes asked for, all of them when it is empty. -/
def buildGetRoomMemberDataInternalPayload (ctx : RoomContext) (roomId : UInt64)
    (memberId : UInt16) (attrIds : List UInt16) : Option MemberPayload :=
  match ctx.rooms.find? roomId.toNat with
  | none => none
  | some room =>
    match room.members.find? memberId.toNat with
    | none => none
    | some member =>
      let group := if member.groupId ≠ 0 then room.groups.find? member.groupId.toNat else none
      let ids := if attrIds = [] then member.bins.entries.map MemberBinCache.id else attrIds
      let attrs := ids.map (askedAttr member.bins)
      if ctx.aVariant then
        some (.a {
          joinDateTicks := member.joinDate
          accountId := member.accountId
          platform := member.platform
          onlineId := member.npId.handle
          memberId := member.memberId
          teamId := member.teamId
          natType := member.natType
          flags := member.flagAttr
          roomGroup := group
          roomMemberInternalBinAttr := attrs })
      else
        some (.plain { memberFromCache member with
          roomGroup := group
          roomMemberBinAttrInternal := attrs })

end Matching2Rooms
