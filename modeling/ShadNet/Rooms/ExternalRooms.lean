import ShadNet.GrowArray
import ShadNet.Rooms.Data
import Mathlib.Algebra.BigOperators.Group.List.Basic
import Mathlib.Algebra.GroupWithZero.Nat

/-!
# Payloads of room searches

A reply with rooms is turned into structs that point into arrays of the payload: each room to the
next one, to its owner, its groups and its attributes, and each binary attribute to the bytes of
its buffer. The bytes of a buffer are in a block of their own, which stays where it is when the
array of buffers moves, so a pointer to them is the number of the buffer.
-/

namespace Matching2Payload

open NpSignaling (OrbisNpId OrbisNpOnlineId npIdNamed)
open Matching2Rooms (MatchingBinAttr MatchingRoomGroup)

/-! ## Messages -/

structure MatchingIntAttr where
  attrId : UInt32 := 0
  attrValue : UInt32 := 0

structure MatchingRoomDataExternal where
  maxSlot : UInt32 := 0
  curMembers : UInt32 := 0
  flags : UInt32 := 0
  serverId : UInt32 := 0
  worldId : UInt32 := 0
  lobbyId : UInt64 := 0
  roomId : UInt64 := 0
  passwdSlotMask : UInt64 := 0
  joinedSlotMask : UInt64 := 0
  publicSlots : UInt32 := 0
  privateSlots : UInt32 := 0
  openPublicSlots : UInt32 := 0
  openPrivateSlots : UInt32 := 0
  groups : List MatchingRoomGroup := []
  externalSearchIntAttrs : List MatchingIntAttr := []
  externalSearchBinAttrs : List MatchingBinAttr := []
  externalBinAttrs : List MatchingBinAttr := []
  ownerNpid : List UInt8 := []
  ownerAccountId : UInt64 := 0
  ownerPlatform : UInt32 := 0

structure SearchRoomReply where
  rooms : List MatchingRoomDataExternal := []
  rangeStart : UInt32 := 0
  rangeTotal : UInt32 := 0
  rangeResult : UInt32 := 0

structure GetRoomDataExternalListReply where
  rooms : List MatchingRoomDataExternal := []

/-! ## Structs -/

structure RoomGroupInfo where
  id : UInt8
  hasPasswd : Bool
  slots : UInt32
  groupMembers : UInt32
  deriving DecidableEq, Repr

structure IntAttr where
  id : UInt16
  num : UInt32
  deriving DecidableEq, Repr

/-- `data` is the number of the buffer. -/
structure BinAttr where
  id : UInt16
  data : Option Nat
  dataSize : Nat
  deriving DecidableEq, Repr

/-- The fields of a room without pointers. -/
structure ExternalFields where
  maxSlot : UInt16
  curMembers : UInt16
  flags : UInt32
  serverId : UInt16
  worldId : UInt32
  lobbyId : UInt64
  roomId : UInt64
  passwdSlotMask : UInt64
  joinedSlotMask : UInt64
  publicSlots : UInt16
  privateSlots : UInt16
  openPublicSlots : UInt16
  openPrivateSlots : UInt16
  deriving DecidableEq, Repr

/-- The variants differ in how they name the owner. -/
structure RoomDataExternal (ω : Type) where
  next : Option Place
  fields : ExternalFields
  owner : ω
  roomGroup : Option Place
  roomGroups : Nat
  externalSearchIntAttr : Option Place
  externalSearchIntAttrs : Nat
  externalSearchBinAttr : Option Place
  externalSearchBinAttrs : Nat
  externalBinAttr : Option Place
  externalBinAttrs : Nat

structure OwnerA where
  accountId : UInt64
  platform : UInt32
  onlineId : OrbisNpOnlineId
  deriving DecidableEq, Repr

/-- What the rooms of a reply point to. -/
structure Storage where
  extOwnerNpids : GrowArray OrbisNpId := {}
  extRoomGroups : GrowArray RoomGroupInfo := {}
  extIntAttrs : GrowArray IntAttr := {}
  extBinAttrs : GrowArray BinAttr := {}
  binBuffers : GrowArray (List UInt8) := {}

structure CallbackPayload where
  roomDataExternal : GrowArray (RoomDataExternal (Option Place)) := {}
  roomDataExternalA : GrowArray (RoomDataExternal OwnerA) := {}
  storage : Storage := {}

structure SearchRoomResponse where
  rangeStart : UInt32
  rangeTotal : UInt32
  rangeResults : UInt32
  roomDataExt : Option Place

structure GetRoomDataExternalListResponse where
  roomDataExternal : Option Place
  roomDataExternalNum : Nat

def Storage.clear (st : Storage) : Storage where
  extOwnerNpids := st.extOwnerNpids.clear
  extRoomGroups := st.extRoomGroups.clear
  extIntAttrs := st.extIntAttrs.clear
  extBinAttrs := st.extBinAttrs.clear
  binBuffers := st.binBuffers.clear

def CallbackPayload.reset (p : CallbackPayload) : CallbackPayload where
  roomDataExternal := p.roomDataExternal.clear
  roomDataExternalA := p.roomDataExternalA.clear
  storage := p.storage.clear

/-! ## Filling -/

def roomGroupInfoOf (g : MatchingRoomGroup) : RoomGroupInfo :=
  ⟨g.groupId.toUInt8, g.hasPasswd, g.slotCount, g.numMembers⟩

def intAttrOf (a : MatchingIntAttr) : IntAttr := ⟨a.attrId.toUInt16, a.attrValue⟩

def externalFieldsOf (r : MatchingRoomDataExternal) : ExternalFields where
  maxSlot := r.maxSlot.toUInt16
  curMembers := r.curMembers.toUInt16
  flags := r.flags
  serverId := r.serverId.toUInt16
  worldId := r.worldId
  lobbyId := r.lobbyId
  roomId := r.roomId
  passwdSlotMask := r.passwdSlotMask
  joinedSlotMask := r.joinedSlotMask
  publicSlots := r.publicSlots.toUInt16
  privateSlots := r.privateSlots.toUInt16
  openPublicSlots := r.openPublicSlots.toUInt16
  openPrivateSlots := r.openPrivateSlots.toUInt16

def binAttrCount (r : MatchingRoomDataExternal) : Nat :=
  r.externalSearchBinAttrs.length + r.externalBinAttrs.length

def ownerCount (r : MatchingRoomDataExternal) : Nat := if r.ownerNpid ≠ [] then 1 else 0

def reserveExternalRoomPayloadStorage (rooms : List MatchingRoomDataExternal) (st : Storage) :
    Storage where
  extRoomGroups := st.extRoomGroups.reserve (rooms.map (fun r => r.groups.length)).sum
  extIntAttrs := st.extIntAttrs.reserve
    (rooms.map (fun r => r.externalSearchIntAttrs.length)).sum
  extBinAttrs := st.extBinAttrs.reserve (rooms.map binAttrCount).sum
  binBuffers := st.binBuffers.reserve (rooms.map binAttrCount).sum
  extOwnerNpids := st.extOwnerNpids.reserve (rooms.map ownerCount).sum

section Filling

variable (growth : Nat → Nat)

/-- An attribute whose bytes are in the last buffer. -/
def binAttrIn (buffers : GrowArray (List UInt8)) (a : MatchingBinAttr) : BinAttr where
  id := a.attrId.toUInt16
  data := if a.data = [] then none else some (buffers.elems.length - 1)
  dataSize := a.data.length

def appendBinAttr (a : MatchingBinAttr) (st : Storage) : Storage :=
  let buffers := st.binBuffers.push growth a.data
  { st with
    binBuffers := buffers
    extBinAttrs := st.extBinAttrs.push growth (binAttrIn buffers a) }

/-- `build_bin`: the storage, a pointer to the first attribute and their number. -/
def buildBin (attrs : List MatchingBinAttr) (st : Storage) : Storage × Option Place × Nat :=
  let done := attrs.foldl
    (fun s a => (appendBinAttr growth a s.1,
      s.2.or (some (appendBinAttr growth a s.1).extBinAttrs.back))) (st, none)
  (done.1, done.2, attrs.length)

/-- How a variant stores the owner of a room. -/
structure OwnerField (ω : Type) where
  blank : ω
  store : (Nat → Nat) → MatchingRoomDataExternal → GrowArray OrbisNpId → ω × GrowArray OrbisNpId

def ownerNpId : OwnerField (Option Place) where
  blank := none
  store growth r npids :=
    if r.ownerNpid ≠ [] then
      let npids := npids.push growth (npIdNamed r.ownerNpid)
      (some npids.back, npids)
    else (none, npids)

def ownerA : OwnerField OwnerA where
  blank := ⟨0, 0, .zero⟩
  store _ r npids :=
    (⟨r.ownerAccountId, r.ownerPlatform,
      if r.ownerNpid ≠ [] then (npIdNamed r.ownerNpid).handle else .zero⟩, npids)

variable {ω : Type} (field : OwnerField ω)

def fillRoom (next : Option Place) (r : MatchingRoomDataExternal) (st : Storage) :
    RoomDataExternal ω × Storage :=
  let (owner, npids) := field.store growth r st.extOwnerNpids
  let (groups, firstGroup) := st.extRoomGroups.pushAll growth (r.groups.map roomGroupInfoOf)
  let (ints, firstInt) :=
    st.extIntAttrs.pushAll growth (r.externalSearchIntAttrs.map intAttrOf)
  let st := { st with extOwnerNpids := npids, extRoomGroups := groups, extIntAttrs := ints }
  let (st, searchBin, searchBins) := buildBin growth r.externalSearchBinAttrs st
  let (st, bin, bins) := buildBin growth r.externalBinAttrs st
  ({ next := next
     fields := externalFieldsOf r
     owner := owner
     roomGroup := firstGroup
     roomGroups := r.groups.length
     externalSearchIntAttr := firstInt
     externalSearchIntAttrs := r.externalSearchIntAttrs.length
     externalSearchBinAttr := searchBin
     externalSearchBinAttrs := searchBins
     externalBinAttr := bin
     externalBinAttrs := bins }, st)

def blankRoom : RoomDataExternal ω where
  next := none
  fields := externalFieldsOf {}
  owner := field.blank
  roomGroup := none
  roomGroups := 0
  externalSearchIntAttr := none
  externalSearchIntAttrs := 0
  externalSearchBinAttr := none
  externalSearchBinAttrs := 0
  externalBinAttr := none
  externalBinAttrs := 0

/-- What the builders of external rooms have in common. -/
def buildExternalRooms (rooms : List MatchingRoomDataExternal)
    (structs : GrowArray (RoomDataExternal ω)) (st : Storage) :
    GrowArray (RoomDataExternal ω) × Storage :=
  GrowArray.fillLinked (fillRoom growth field) rooms 0
    (structs.resize rooms.length (blankRoom field)) (reserveExternalRoomPayloadStorage rooms st)

def buildSearchRoomPayload (p : CallbackPayload) (resp : SearchRoomReply) :
    CallbackPayload × SearchRoomResponse :=
  let p := p.reset
  let (structs, st) := buildExternalRooms growth ownerNpId resp.rooms p.roomDataExternal p.storage
  ({ p with roomDataExternal := structs, storage := st },
    ⟨resp.rangeStart, resp.rangeTotal, resp.rangeResult, structs.data⟩)

def buildSearchRoomPayloadA (p : CallbackPayload) (resp : SearchRoomReply) :
    CallbackPayload × SearchRoomResponse :=
  let p := p.reset
  let (structs, st) := buildExternalRooms growth ownerA resp.rooms p.roomDataExternalA p.storage
  ({ p with roomDataExternalA := structs, storage := st },
    ⟨resp.rangeStart, resp.rangeTotal, resp.rangeResult, structs.data⟩)

def buildGetRoomDataExternalListPayload (p : CallbackPayload)
    (resp : GetRoomDataExternalListReply) : CallbackPayload × GetRoomDataExternalListResponse :=
  let p := p.reset
  let (structs, st) := buildExternalRooms growth ownerNpId resp.rooms p.roomDataExternal p.storage
  ({ p with roomDataExternal := structs, storage := st },
    ⟨structs.data, structs.elems.length⟩)

def buildGetRoomDataExternalListPayloadA (p : CallbackPayload)
    (resp : GetRoomDataExternalListReply) : CallbackPayload × GetRoomDataExternalListResponse :=
  let p := p.reset
  let (structs, st) := buildExternalRooms growth ownerA resp.rooms p.roomDataExternalA p.storage
  ({ p with roomDataExternalA := structs, storage := st },
    ⟨structs.data, structs.elems.length⟩)

end Filling

/-! ## What the game reads -/

/-- A room with what its pointers lead to. -/
structure RoomRead (ν : Type) where
  fields : ExternalFields
  owner : ν
  groups : List RoomGroupInfo
  intAttrs : List IntAttr
  searchBinAttrs : List Matching2Rooms.BinAttr
  binAttrs : List Matching2Rooms.BinAttr
  deriving DecidableEq

def readBinAttr (buffers : GrowArray (List UInt8)) (a : BinAttr) : Option Matching2Rooms.BinAttr :=
  match a.data with
  | none => if a.dataSize = 0 then some ⟨a.id, []⟩ else none
  | some buffer =>
    match buffers.elems[buffer]? with
    | none => none
    | some bytes => if a.dataSize = bytes.length then some ⟨a.id, bytes⟩ else none

def readBinAttrs (st : Storage) (p : Option Place) (n : Nat) :
    Option (List Matching2Rooms.BinAttr) :=
  (st.extBinAttrs.readMany p n).bind (List.mapM (readBinAttr st.binBuffers))

def readOwner (npids : GrowArray OrbisNpId) : Option Place → Option (Option OrbisNpId)
  | none => some none
  | some p => (npids.read p).map some

def readOwnerA (_ : GrowArray OrbisNpId) (owner : OwnerA) : Option OwnerA := some owner

section Reading

variable {ω ν : Type} (ownerOf : GrowArray OrbisNpId → ω → Option ν)

def readRoom (st : Storage) (room : RoomDataExternal ω) : Option (RoomRead ν) := do
  let owner ← ownerOf st.extOwnerNpids room.owner
  let groups ← st.extRoomGroups.readMany room.roomGroup room.roomGroups
  let intAttrs ← st.extIntAttrs.readMany room.externalSearchIntAttr room.externalSearchIntAttrs
  let searchBinAttrs ← readBinAttrs st room.externalSearchBinAttr room.externalSearchBinAttrs
  let binAttrs ← readBinAttrs st room.externalBinAttr room.externalBinAttrs
  return ⟨room.fields, owner, groups, intAttrs, searchBinAttrs, binAttrs⟩

/-- The linked list of rooms from a head on. -/
def readRooms (structs : GrowArray (RoomDataExternal ω)) (st : Storage) (head : Option Place) :
    Option (List (RoomRead ν)) :=
  (structs.follow RoomDataExternal.next structs.elems.length head).bind
    (List.mapM (readRoom ownerOf st))

end Reading

/-! ## What the reply says -/

def binAttrOf (a : MatchingBinAttr) : Matching2Rooms.BinAttr := ⟨a.attrId.toUInt16, a.data⟩

def ownerOfReply (r : MatchingRoomDataExternal) : Option OrbisNpId :=
  if r.ownerNpid ≠ [] then some (npIdNamed r.ownerNpid) else none

def ownerAOfReply (r : MatchingRoomDataExternal) : OwnerA :=
  ⟨r.ownerAccountId, r.ownerPlatform,
    if r.ownerNpid ≠ [] then (npIdNamed r.ownerNpid).handle else .zero⟩

def roomOfReply {ν : Type} (owner : MatchingRoomDataExternal → ν) (r : MatchingRoomDataExternal) :
    RoomRead ν where
  fields := externalFieldsOf r
  owner := owner r
  groups := r.groups.map roomGroupInfoOf
  intAttrs := r.externalSearchIntAttrs.map intAttrOf
  searchBinAttrs := r.externalSearchBinAttrs.map binAttrOf
  binAttrs := r.externalBinAttrs.map binAttrOf

end Matching2Payload
