import ShadNet.Ipv4
import ShadNet.Signaling.Types
import ShadNet.SortedTable

/-!
# Cached room members

A member is described by one protobuf message, which comes inside a create or join reply and
inside a member-joined event. Each is turned into the same cache entry by code of its own, for the
event with a record of the client between the message and the entry.
-/

namespace Matching2Rooms

open NpSignaling (OrbisNpId npIdNamed)

/-! ## Messages -/

structure MatchingBinAttr where
  attrId : UInt32 := 0
  data : List UInt8 := []
  updateDate : UInt64 := 0
  updateMemberId : UInt32 := 0
  deriving DecidableEq, Repr

structure MatchingRoomMemberData where
  npid : List UInt8 := []
  memberId : UInt32 := 0
  teamId : UInt32 := 0
  isOwner : Bool := false
  binAttrsInternal : List MatchingBinAttr := []
  joinDate : UInt64 := 0
  natType : UInt32 := 0
  flagAttr : UInt32 := 0
  addr : List UInt8 := []
  port : UInt32 := 0
  groupId : UInt32 := 0
  accountId : UInt64 := 0
  platform : UInt32 := 0
  deriving DecidableEq, Repr

/-- The member of an event, as the client hands it on. -/
structure NotifyRoomEvent where
  memberNpid : List UInt8 := []
  memberAccountId : UInt64 := 0
  memberPlatform : UInt32 := 0
  memberId : UInt32 := 0
  memberTeamId : UInt32 := 0
  memberIsOwner : Bool := false
  memberJoinDate : UInt64 := 0
  memberNatType : UInt32 := 0
  memberFlagAttr : UInt32 := 0
  memberGroupId : UInt32 := 0
  memberAddr : List UInt8 := []
  memberPort : UInt32 := 0
  memberBinAttrs : List MatchingBinAttr := []
  deriving DecidableEq, Repr

/-- HandleNotification, for an event that has a member. -/
def readMember (m : MatchingRoomMemberData) : NotifyRoomEvent where
  memberNpid := m.npid
  memberAccountId := m.accountId
  memberPlatform := m.platform
  memberId := m.memberId
  memberTeamId := m.teamId
  memberIsOwner := m.isOwner
  memberJoinDate := m.joinDate
  memberNatType := m.natType
  memberFlagAttr := m.flagAttr
  memberGroupId := m.groupId
  memberAddr := m.addr
  memberPort := m.port
  memberBinAttrs := m.binAttrsInternal

/-! ## Cache entries -/

structure MemberBinCache where
  id : UInt16 := 0
  updateDate : UInt64 := 0
  data : List UInt8 := []
  deriving DecidableEq, Repr

def MemberBinCache.key (b : MemberBinCache) : Nat := b.id.toNat

structure MemberCache where
  npId : OrbisNpId := npIdNamed []
  accountId : UInt64 := 0
  platform : UInt32 := 0
  joinDate : UInt64 := 0
  memberId : UInt16 := 0
  teamId : UInt8 := 0
  groupId : UInt8 := 0
  natType : UInt8 := 0
  flagAttr : UInt32 := 0
  addr : UInt32 := 0
  port : UInt16 := 0
  bins : SortedTable MemberBinCache.key := .empty
  deriving DecidableEq

def htons (port : UInt16) : UInt16 := (port <<< 8) ||| (port >>> 8)

/-- `bins[attr_id]`, which makes an entry for an id that has none, and what is then stored in it. -/
def withBin (attrId : UInt32) (fill : MemberBinCache → MemberBinCache)
    (bins : SortedTable MemberBinCache.key) : SortedTable MemberBinCache.key :=
  bins.assign { fill ((bins.find? attrId.toUInt16.toNat).getD {}) with id := attrId.toUInt16 }

section Conversion

variable (stored : Ipv4.Scanned → UInt32)

/-- The entry of a member of a create or join reply. -/
def cacheMember (m : MatchingRoomMemberData) : MemberCache where
  memberId := m.memberId.toUInt16
  teamId := m.teamId.toUInt8
  natType := m.natType.toUInt8
  flagAttr := m.flagAttr
  groupId := m.groupId.toUInt8
  joinDate := m.joinDate
  addr := Ipv4.ipStringToAddr stored m.addr
  port := htons m.port.toUInt16
  npId := npIdNamed m.npid
  accountId := m.accountId
  platform := m.platform
  bins := m.binAttrsInternal.foldl
    (fun bins a => withBin a.attrId
      (fun b => { b with updateDate := a.updateDate, data := a.data }) bins) .empty

/-- The entry a member-joined event makes. -/
def memberJoined (n : NotifyRoomEvent) : MemberCache where
  memberId := n.memberId.toUInt16
  teamId := n.memberTeamId.toUInt8
  natType := n.memberNatType.toUInt8
  flagAttr := n.memberFlagAttr
  groupId := n.memberGroupId.toUInt8
  joinDate := n.memberJoinDate
  addr := Ipv4.ipStringToAddr stored n.memberAddr
  port := htons n.memberPort.toUInt16
  npId := npIdNamed n.memberNpid
  accountId := n.memberAccountId
  platform := n.memberPlatform
  bins := n.memberBinAttrs.foldl
    (fun bins a => withBin a.attrId (fun b => { b with data := a.data }) bins) .empty

end Conversion

/-- The attribute an id stands for when it comes more than once. -/
def lastWith (id : UInt16) (attrs : List MatchingBinAttr) : Option MatchingBinAttr :=
  attrs.reverse.find? (fun a => a.attrId.toUInt16 = id)

/-- No attribute that counts was ever updated. -/
def NeverUpdated (attrs : List MatchingBinAttr) : Prop :=
  ∀ id a, lastWith id attrs = some a → a.updateDate = 0

def binOfReply (a : MatchingBinAttr) : MemberBinCache := ⟨a.attrId.toUInt16, a.updateDate, a.data⟩

def binOfEvent (a : MatchingBinAttr) : MemberBinCache := ⟨a.attrId.toUInt16, 0, a.data⟩

variable {attrs : List MatchingBinAttr} {id : UInt16} {t : SortedTable MemberBinCache.key}

/-! ## The tables of attributes -/

theorem bins_of_reply (attrs : List MatchingBinAttr) (t : SortedTable MemberBinCache.key) :
    attrs.foldl (fun bins a => withBin a.attrId
        (fun b => { b with updateDate := a.updateDate, data := a.data }) bins) t =
      (attrs.map binOfReply).foldl (fun bins b => bins.assign b) t := by
  rw [List.foldl_map]
  rfl

/-- An entry the event makes never gets a date, so it has none when it is filled again. -/
theorem bins_of_event (undated : ∀ b ∈ t.entries, b.updateDate = 0) :
    attrs.foldl (fun bins a => withBin a.attrId (fun b => { b with data := a.data }) bins) t =
      (attrs.map binOfEvent).foldl (fun bins b => bins.assign b) t := by
  induction attrs generalizing t with
  | nil => rfl
  | cons a attrs ih =>
    have filled : withBin a.attrId (fun b => { b with data := a.data }) t =
        t.assign (binOfEvent a) := by
      rw [withBin, binOfEvent]
      cases found : t.find? a.attrId.toUInt16.toNat with
      | none => rfl
      | some b =>
        have old := undated b (SortedTable.find?_eq_some.mp found).1
        simp only [Option.getD_some, old]
    rw [List.foldl_cons, List.map_cons, List.foldl_cons, filled]
    refine ih fun b member => ?_
    rcases KeyedTable.mem_of_mem_enter member with rfl | old
    · rfl
    · exact undated b old

theorem find?_bins {f : MatchingBinAttr → MemberBinCache}
    (keyed : ∀ a, (f a).id = a.attrId.toUInt16) :
    (SortedTable.collect (attrs.map f) : SortedTable MemberBinCache.key).find? id.toNat =
      (lastWith id attrs).map f := by
  rw [SortedTable.find?_collect, KeyedTable.lookup, ← List.map_reverse, List.find?_map, lastWith]
  congr 2
  funext a
  simp only [Function.comp, MemberBinCache.key, keyed, UInt16.toNat_inj]

/-- Only ids have entries. -/
theorem find?_bins_none {f : MatchingBinAttr → MemberBinCache} {k : Nat}
    (noId : ∀ id : UInt16, id.toNat ≠ k) :
    (SortedTable.collect (attrs.map f) : SortedTable MemberBinCache.key).find? k = none := by
  rw [SortedTable.find?_collect, KeyedTable.lookup_none]
  exact fun b _ => noId b.id

theorem bins_eq_iff : (SortedTable.collect (attrs.map binOfEvent) :
    SortedTable MemberBinCache.key) = .collect (attrs.map binOfReply) ↔ NeverUpdated attrs := by
  constructor
  · intro same id a last
    have found := congrArg (SortedTable.find? id.toNat) same
    rw [find?_bins (fun _ => rfl), find?_bins (fun _ => rfl), last] at found
    exact (congrArg MemberBinCache.updateDate (Option.some.inj found)).symm
  · intro never
    refine SortedTable.ext fun k => ?_
    by_cases isId : ∃ id : UInt16, id.toNat = k
    · obtain ⟨id, rfl⟩ := isId
      rw [find?_bins (fun _ => rfl), find?_bins (fun _ => rfl)]
      cases last : lastWith id attrs with
      | none => rfl
      | some a =>
        rw [Option.map_some, Option.map_some, binOfEvent, binOfReply, never id a last]
    · have noId : ∀ id : UInt16, id.toNat ≠ k := fun id same => isId ⟨id, same⟩
      rw [find?_bins_none noId, find?_bins_none noId]

/-- The two entries of a member differ in the dates of its attributes at most: the event leaves
them out. -/
theorem memberJoined_iff (stored : Ipv4.Scanned → UInt32) (m : MatchingRoomMemberData) :
    memberJoined stored (readMember m) = cacheMember stored m ↔
      NeverUpdated m.binAttrsInternal := by
  have undated : ∀ b ∈ (SortedTable.empty : SortedTable MemberBinCache.key).entries,
      b.updateDate = 0 := by
    intro b member
    cases member
  rw [memberJoined, cacheMember, readMember, bins_of_reply, bins_of_event undated]
  rw [← bins_eq_iff]
  constructor
  · exact congrArg MemberCache.bins
  · intro same
    rw [SortedTable.collect, SortedTable.collect] at same
    simp only [same]

/-- A member with one attribute, updated at tick 5. -/
def dated : MatchingRoomMemberData := { binAttrsInternal := [{ attrId := 1, updateDate := 5 }] }

theorem memberJoined_dated : ¬∀ (stored : Ipv4.Scanned → UInt32) (m : MatchingRoomMemberData),
    memberJoined stored (readMember m) = cacheMember stored m := by
  intro same
  have bins := congrArg MemberCache.bins (same Ipv4.wrapped dated)
  revert bins
  decide +kernel

end Matching2Rooms
