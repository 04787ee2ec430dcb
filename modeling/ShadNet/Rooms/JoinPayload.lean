import ShadNet.Rooms.ExternalReads

/-!
# Payloads of create and join replies

The same payloads as the builders of the cached room deliver, with their pointers: a room to its
groups and attributes, a member to the next one, to its group and to its attributes, and the
response to the members that are meant.
-/

namespace Matching2Payload

open Matching2Rooms (MatchingBinAttr MatchingRoomDataInternal MatchingRoomMemberData
  CreateJoinRoomResponse RoomGroup RoomResponse lastWhere roomGroupOf)
open GrowArray

/-! ## Structs -/

structure RoomBinAttrInternal where
  lastUpdate : UInt64
  memberId : UInt16
  binAttr : BinAttr
  deriving DecidableEq, Repr

structure RoomMemberBinAttrInternal where
  lastUpdate : UInt64
  binAttr : BinAttr
  deriving DecidableEq, Repr

/-- `fields` is the struct with nothing behind its pointers. -/
structure RoomDataInternal where
  fields : Matching2Rooms.RoomDataInternal
  roomGroup : Option Place
  roomGroups : Nat
  internalBinAttr : Option Place
  internalBinAttrs : Nat

/-- `fields` is the struct of its variant with nothing behind its pointers. -/
structure RoomMemberDataInternal (μ : Type) where
  next : Option Place
  fields : μ
  roomGroup : Option Place
  binAttr : Option Place
  binAttrs : Nat

structure CreateJoinResponse where
  members : Option Place
  membersNum : Nat
  me : Option Place
  owner : Option Place

/-- What the structs point to. -/
structure JoinStorage where
  roomGroups : GrowArray RoomGroup := {}
  roomBinAttrs : GrowArray RoomBinAttrInternal := {}
  memberBinAttrs : GrowArray RoomMemberBinAttrInternal := {}
  binBuffers : GrowArray (List UInt8) := {}

structure JoinPayload (μ : Type) where
  memberData : GrowArray (RoomMemberDataInternal μ) := {}
  storage : JoinStorage := {}

def JoinStorage.clear (st : JoinStorage) : JoinStorage where
  roomGroups := st.roomGroups.clear
  roomBinAttrs := st.roomBinAttrs.clear
  memberBinAttrs := st.memberBinAttrs.clear
  binBuffers := st.binBuffers.clear

/-! ## Filling -/

/-- Pointers to the last or the first element that fits. -/
def lastPlace {α : Type} (fits : α → Bool) (v : GrowArray α) : Option Place :=
  (lastWhere (fun x : α × Nat => fits x.1) v.elems.zipIdx).map (fun x => v.place x.2)

def firstPlace {α : Type} (fits : α → Bool) (v : GrowArray α) : Option Place :=
  (v.elems.zipIdx.find? (fun x => fits x.1)).map (fun x => v.place x.2)

/-- How a variant writes a member, and what its struct is with pointers followed. -/
structure MemberVariant (μ : Type) where
  fieldsOf : MatchingRoomMemberData → μ
  memberId : μ → UInt16
  withPointers : μ → Option RoomGroup → List Matching2Rooms.RoomMemberBinAttrInternal → μ

def memberData : MemberVariant Matching2Rooms.RoomMemberDataInternal where
  fieldsOf m := { Matching2Rooms.memberDataOf [] m with roomMemberBinAttrInternal := [] }
  memberId fields := fields.memberId
  withPointers fields group bins :=
    { fields with roomGroup := group, roomMemberBinAttrInternal := bins }

def memberDataA : MemberVariant Matching2Rooms.RoomMemberDataInternalA where
  fieldsOf m := { Matching2Rooms.memberDataAOf [] m with roomMemberInternalBinAttr := [] }
  memberId fields := fields.memberId
  withPointers fields group bins :=
    { fields with roomGroup := group, roomMemberInternalBinAttr := bins }

def blankGroup : RoomGroup := roomGroupOf {}

def blankRoomBinAttr : RoomBinAttrInternal := ⟨0, 0, ⟨0, none, 0⟩⟩

section Filling

variable (growth : Nat → Nat)

def fillRoomBinAttrs : List MatchingBinAttr → Nat → GrowArray RoomBinAttrInternal →
    GrowArray (List UInt8) → GrowArray RoomBinAttrInternal × GrowArray (List UInt8)
  | [], _, attrs, buffers => (attrs, buffers)
  | a :: rest, i, attrs, buffers =>
    let buffers := buffers.push growth a.data
    fillRoomBinAttrs rest (i + 1)
      (attrs.write i ⟨a.updateDate, a.updateMemberId.toUInt16, binAttrIn buffers a⟩) buffers

def appendMemberBinAttr (a : MatchingBinAttr) (st : JoinStorage) : JoinStorage :=
  let buffers := st.binBuffers.push growth a.data
  { st with
    binBuffers := buffers
    memberBinAttrs := st.memberBinAttrs.push growth ⟨a.updateDate, binAttrIn buffers a⟩ }

def appendMemberBinAttrs (m : MatchingRoomMemberData) (st : JoinStorage) :
    JoinStorage × Option Place × Nat :=
  let first := st.memberBinAttrs.elems.length
  let count := m.binAttrsInternal.length
  let st := m.binAttrsInternal.foldl (fun st a => appendMemberBinAttr growth a st) st
  (st, if count = 0 then none else some (st.memberBinAttrs.place first), count)

variable {μ : Type} (variant : MemberVariant μ)

def fillMember (next : Option Place) (m : MatchingRoomMemberData) (st : JoinStorage) :
    RoomMemberDataInternal μ × JoinStorage :=
  let group := firstPlace (fun group => group.id = m.groupId.toUInt8) st.roomGroups
  let (st, first, count) := appendMemberBinAttrs growth m st
  ({ next := next
     fields := variant.fieldsOf m
     roomGroup := group
     binAttr := first
     binAttrs := count }, st)

def blankMember : RoomMemberDataInternal μ where
  next := none
  fields := variant.fieldsOf {}
  roomGroup := none
  binAttr := none
  binAttrs := 0

def memberBinAttrCount (m : MatchingRoomMemberData) : Nat := m.binAttrsInternal.length

/-- The storage when its arrays have been given their sizes; nothing is reserved for buffers. -/
def reservedJoin (resp : CreateJoinRoomResponse) (st : JoinStorage) : JoinStorage where
  roomGroups := st.roomGroups.resize resp.roomData.groups.length blankGroup
  roomBinAttrs := st.roomBinAttrs.resize resp.roomData.binAttrsInternal.length blankRoomBinAttr
  memberBinAttrs := st.memberBinAttrs.reserve (resp.members.map memberBinAttrCount).sum
  binBuffers := st.binBuffers

/-- The part of the payload that is about the room. -/
def fillRoomData (rd : MatchingRoomDataInternal) (st : JoinStorage) :
    RoomDataInternal × JoinStorage :=
  let groups := st.roomGroups.writeFrom 0 (rd.groups.map roomGroupOf)
  let (attrs, buffers) :=
    fillRoomBinAttrs growth rd.binAttrsInternal 0 st.roomBinAttrs st.binBuffers
  ({ fields := { Matching2Rooms.roomDataOf rd with roomGroup := [], internalBinAttr := [] }
     roomGroup := groups.data
     roomGroups := groups.elems.length
     internalBinAttr := attrs.data
     internalBinAttrs := attrs.elems.length },
    { st with roomGroups := groups, roomBinAttrs := attrs, binBuffers := buffers })

/-- What the builders of the variants have in common. -/
def buildCreateJoin (p : JoinPayload μ) (resp : CreateJoinRoomResponse) :
    JoinPayload μ × RoomDataInternal × CreateJoinResponse :=
  let (roomData, st) := fillRoomData growth resp.roomData (reservedJoin resp p.storage.clear)
  let (structs, st) := fillLinked (fillMember growth variant) resp.members 0
    (p.memberData.clear.resize resp.members.length (blankMember variant)) st
  let named (id : UInt32) := lastPlace (fun md => variant.memberId md.fields = id.toUInt16) structs
  (⟨structs, st⟩, roomData,
    ⟨structs.data, structs.elems.length, named resp.meMemberId, named resp.ownerMemberId⟩)

def buildCreateJoinRoomPayload (p : JoinPayload Matching2Rooms.RoomMemberDataInternal)
    (resp : CreateJoinRoomResponse) := buildCreateJoin growth memberData p resp

def buildCreateJoinRoomPayloadA (p : JoinPayload Matching2Rooms.RoomMemberDataInternalA)
    (resp : CreateJoinRoomResponse) := buildCreateJoin growth memberDataA p resp

end Filling

/-! ## What the game reads -/

/-- An element that may be pointed to. -/
def readOpt {α : Type} (v : GrowArray α) : Option Place → Option (Option α)
  | none => some none
  | some p => (v.read p).map some

def readRoomBinAttr (buffers : GrowArray (List UInt8)) (a : RoomBinAttrInternal) :
    Option Matching2Rooms.RoomBinAttrInternal :=
  (readBinAttr buffers a.binAttr).map (fun b => ⟨a.lastUpdate, a.memberId, b⟩)

def readMemberBinAttr (buffers : GrowArray (List UInt8)) (a : RoomMemberBinAttrInternal) :
    Option Matching2Rooms.RoomMemberBinAttrInternal :=
  (readBinAttr buffers a.binAttr).map (fun b => ⟨a.lastUpdate, b⟩)

def readRoomData (st : JoinStorage) (room : RoomDataInternal) :
    Option Matching2Rooms.RoomDataInternal := do
  let groups ← st.roomGroups.readMany room.roomGroup room.roomGroups
  let attrs ← st.roomBinAttrs.readMany room.internalBinAttr room.internalBinAttrs
  let attrs ← attrs.mapM (readRoomBinAttr st.binBuffers)
  return { room.fields with roomGroup := groups, internalBinAttr := attrs }

section Reading

variable {μ : Type} (variant : MemberVariant μ)

def readMember (st : JoinStorage) (md : RoomMemberDataInternal μ) : Option μ := do
  let group ← readOpt st.roomGroups md.roomGroup
  let attrs ← st.memberBinAttrs.readMany md.binAttr md.binAttrs
  let attrs ← attrs.mapM (readMemberBinAttr st.binBuffers)
  return variant.withPointers md.fields group attrs

/-- One of the members, read through a pointer that may be null. -/
def readNamed (p : JoinPayload μ) (place : Option Place) : Option (Option μ) :=
  match place with
  | none => some none
  | some there =>
    ((p.memberData.read there).bind (readMember variant p.storage)).map some

def readResponse (p : JoinPayload μ) (roomData : RoomDataInternal)
    (response : CreateJoinResponse) : Option (RoomResponse μ) := do
  let room ← readRoomData p.storage roomData
  let structs ← p.memberData.follow RoomMemberDataInternal.next response.membersNum
    response.members
  let members ← structs.mapM (readMember variant p.storage)
  let me ← readNamed variant p response.me
  let owner ← readNamed variant p response.owner
  return ⟨room, members, me, owner⟩

end Reading

end Matching2Payload
