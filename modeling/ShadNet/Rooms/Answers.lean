import ShadNet.Rooms.Data
import Mathlib.Data.List.Forall2
import Mathlib.Data.Multiset.MapFold
import Mathlib.Tactic.SplitIfs

/-!
# Answers from the cached room

The answer is compared with what the reply delivered, overwritten by what came after it. The order
in which groups, members and a member's attributes are listed does not matter.
-/

namespace Matching2Rooms

open NpSignaling (OrbisNpId OrbisNpOnlineId npIdNamed)

/-! ## What a payload tells -/

structure MemberView where
  joinDate : UInt64
  onlineId : OrbisNpOnlineId
  memberId : UInt16
  teamId : UInt8
  natType : UInt8
  flagAttr : UInt32
  roomGroup : Option RoomGroup
  binAttrs : Multiset RoomMemberBinAttrInternal
  deriving DecidableEq

structure RoomView where
  /-- Without its groups. -/
  roomData : RoomDataInternal
  groups : Multiset RoomGroup
  members : Multiset MemberView
  me : Option MemberView
  owner : Option MemberView
  deriving DecidableEq

def RoomMemberDataInternal.view (md : RoomMemberDataInternal) : MemberView where
  joinDate := md.joinDate
  onlineId := md.npId.handle
  memberId := md.memberId
  teamId := md.teamId
  natType := md.natType
  flagAttr := md.flagAttr
  roomGroup := md.roomGroup
  binAttrs := md.roomMemberBinAttrInternal

def RoomMemberDataInternalA.view (md : RoomMemberDataInternalA) : MemberView where
  joinDate := md.joinDateTicks
  onlineId := md.onlineId
  memberId := md.memberId
  teamId := md.teamId
  natType := md.natType
  flagAttr := md.flags
  roomGroup := md.roomGroup
  binAttrs := md.roomMemberInternalBinAttr

def RoomResponse.view {μ : Type} (member : μ → MemberView) (r : RoomResponse μ) : RoomView where
  roomData := { r.roomData with roomGroup := [] }
  groups := r.roomData.roomGroup
  members := r.members.map member
  me := r.me.map member
  owner := r.owner.map member

def RoomPayload.view : RoomPayload → RoomView
  | .plain response => response.view RoomMemberDataInternal.view
  | .a response => response.view RoomMemberDataInternalA.view

def MemberPayload.view : MemberPayload → MemberView
  | .plain member => member.view
  | .a member => member.view

/-- The attributes of a member in the order in which they were asked for. -/
def MemberPayload.attrs : MemberPayload → List RoomMemberBinAttrInternal
  | .plain member => member.roomMemberBinAttrInternal
  | .a member => member.roomMemberInternalBinAttr

/-! ## What should be answered -/

def overwrite (v : RoomView) (n : UpdatedRoomData) : RoomView :=
  if n.roomId = v.roomData.roomId then
    { v with roomData := { v.roomData with
        flags := n.flags
        passwdSlotMask := if n.hasPasswdMask then n.passwdSlotMask else v.roomData.passwdSlotMask
        internalBinAttr := replaceAttrs n.binAttrs v.roomData.internalBinAttr } }
  else v

/-- An attribute that the member does not have is answered with no data. -/
def MemberView.Asked (m : MemberView) (id : UInt16) (a : RoomMemberBinAttrInternal) : Prop :=
  (a ∈ m.binAttrs ∧ a.binAttr.id = id) ∨
    ((∀ b ∈ m.binAttrs, b.binAttr.id ≠ id) ∧ a = ⟨0, id, []⟩)

section Claims

variable (stored : Ipv4.Scanned → UInt32) (aVariant : Bool) (ctx : RoomContext)
  (resp : CreateJoinRoomResponse) (events : List UpdatedRoomData)

/-- What the game knows of the room when it has seen the reply and all events. -/
def told : RoomView := events.foldl overwrite (createJoinReply stored aVariant ctx resp).1.view

def contextAfter : RoomContext :=
  events.foldl updatedRoomDataInternal (createJoinReply stored aVariant ctx resp).2

structure AnswersLikeServer : Prop where
  room : (buildGetRoomDataInternalPayload (contextAfter stored aVariant ctx resp events)
      resp.roomData.roomId).map (RoomResponse.view RoomMemberDataInternal.view) =
    some (told stored aVariant ctx resp events)
  member : ∀ m ∈ (told stored aVariant ctx resp events).members,
    (buildGetRoomMemberDataInternalPayload (contextAfter stored aVariant ctx resp events)
      resp.roomData.roomId m.memberId []).map MemberPayload.view = some m
  asked : ∀ m ∈ (told stored aVariant ctx resp events).members, ∀ ids, ids ≠ [] →
    ∃ payload, buildGetRoomMemberDataInternalPayload (contextAfter stored aVariant ctx resp events)
      resp.roomData.roomId m.memberId ids = some payload ∧
      List.Forall₂ m.Asked ids payload.attrs

end Claims

/-- No flagged member has a larger id. -/
def LastFlagged (resp : CreateJoinRoomResponse) (m : MatchingRoomMemberData) : Prop :=
  m.flagAttr &&& flagAttrOwner ≠ 0 ∧ ∀ other ∈ resp.members,
    other.flagAttr &&& flagAttrOwner ≠ 0 → other.memberId.toUInt16 ≤ m.memberId.toUInt16

/-- The room's attributes after the reply and the events about this room. -/
def attrsAfter (resp : CreateJoinRoomResponse) (events : List UpdatedRoomData) :
    List RoomBinAttrInternal :=
  (events.filter (fun n => n.roomId = resp.roomData.roomId)).foldl
    (fun attrs n => replaceAttrs n.binAttrs attrs)
    (resp.roomData.binAttrsInternal.map roomBinAttrOf)

/-- Nothing was told that an answer leaves out. -/
structure Unabridged (resp : CreateJoinRoomResponse) (events : List UpdatedRoomData) : Prop where
  updaters : ∀ a ∈ attrsAfter resp events, a.memberId = 0
  groupIds : (resp.roomData.groups.map (fun g => g.groupId.toUInt8)).Nodup
  memberIds : (resp.members.map (fun m => m.memberId.toUInt16)).Nodup
  ungrouped : ∀ m ∈ resp.members, ∀ g ∈ resp.roomData.groups,
    g.groupId.toUInt8 ≠ m.groupId.toUInt8
  bare : ∀ m ∈ resp.members, m.binAttrsInternal = []
  flagged : ∀ m ∈ resp.members, m.isOwner = true → m.flagAttr &&& flagAttrOwner ≠ 0
  owner : ∀ m ∈ resp.members,
    LastFlagged resp m ↔ m.memberId.toUInt16 = resp.ownerMemberId.toUInt16

/-! ## Events -/

/-- The part of a room that events change. -/
structure RoomChanges where
  flags : UInt32
  passwdSlotMask : UInt64
  attrs : List RoomBinAttrInternal

def RoomChanges.next (roomId : UInt64) (s : RoomChanges) (n : UpdatedRoomData) : RoomChanges :=
  if n.roomId = roomId then
    { flags := n.flags
      passwdSlotMask := if n.hasPasswdMask then n.passwdSlotMask else s.passwdSlotMask
      attrs := replaceAttrs n.binAttrs s.attrs }
  else s

def RoomChanges.toCache (s : RoomChanges) (rc : RoomCache) : RoomCache :=
  { rc with flags := s.flags, passwdSlotMask := s.passwdSlotMask, binAttrsInternal := s.attrs }

def RoomChanges.toView (s : RoomChanges) (v : RoomView) : RoomView :=
  { v with roomData := { v.roomData with
      flags := s.flags, passwdSlotMask := s.passwdSlotMask, internalBinAttr := s.attrs } }

def changesOfReply (rd : MatchingRoomDataInternal) : RoomChanges :=
  ⟨rd.flags, rd.passwdSlotMask, rd.binAttrsInternal.map roomBinAttrOf⟩

def changesAfter (resp : CreateJoinRoomResponse) (events : List UpdatedRoomData) : RoomChanges :=
  events.foldl (RoomChanges.next resp.roomData.roomId) (changesOfReply resp.roomData)

variable {stored : Ipv4.Scanned → UInt32} {aVariant : Bool} {ctx : RoomContext}
  {resp : CreateJoinRoomResponse} {events : List UpdatedRoomData} {rc : RoomCache} {v : RoomView}
  {s : RoomChanges} {n : UpdatedRoomData} {roomId : UInt64}

theorem overwrite_toView : overwrite (s.toView v) n = (s.next v.roomData.roomId n).toView v := by
  rw [overwrite, RoomChanges.next]
  by_cases here : n.roomId = v.roomData.roomId
  · rw [if_pos here]
    exact if_pos here
  · rw [if_neg here]
    exact if_neg here

theorem overwrites_toView : events.foldl overwrite (s.toView v) =
    (events.foldl (RoomChanges.next v.roomData.roomId) s).toView v := by
  induction events generalizing s with
  | nil => rfl
  | cons n events ih => rw [List.foldl_cons, List.foldl_cons, overwrite_toView, ih]

theorem updatedRoomDataInternal_toCache (named : rc.roomId = roomId)
    (found : ctx.rooms.find? roomId.toNat = some (s.toCache rc)) :
    (updatedRoomDataInternal ctx n).rooms.find? roomId.toNat =
      some ((s.next roomId n).toCache rc) := by
  rw [updatedRoomDataInternal, RoomChanges.next]
  by_cases here : n.roomId = roomId
  · subst named
    rw [here, found, if_pos rfl]
    exact (SortedTable.find?_assign (t := ctx.rooms)).trans (if_pos rfl)
  · rw [if_neg here]
    cases there : ctx.rooms.find? n.roomId.toNat with
    | none => exact found
    | some other =>
      have apart : ¬other.roomId.toNat = roomId.toNat := by
        intro same
        have key := (SortedTable.find?_eq_some.mp there).2
        exact here (UInt64.toNat_inj.mp (key.symm.trans same))
      rw [← found]
      exact (SortedTable.find?_assign (t := ctx.rooms)).trans (if_neg apart)

theorem updatedRoomDataInternal_keeps (ctx : RoomContext) (n : UpdatedRoomData) :
    (updatedRoomDataInternal ctx n).myMemberId = ctx.myMemberId ∧
      (updatedRoomDataInternal ctx n).aVariant = ctx.aVariant := by
  rw [updatedRoomDataInternal]
  split
  · exact ⟨rfl, rfl⟩
  · exact ⟨rfl, rfl⟩

/-- The cached room through a run of events. -/
theorem updates_toCache (events : List UpdatedRoomData) (named : rc.roomId = roomId)
    (found : ctx.rooms.find? roomId.toNat = some (s.toCache rc)) :
    (events.foldl updatedRoomDataInternal ctx).rooms.find? roomId.toNat =
        some ((events.foldl (RoomChanges.next roomId) s).toCache rc) ∧
      (events.foldl updatedRoomDataInternal ctx).myMemberId = ctx.myMemberId ∧
      (events.foldl updatedRoomDataInternal ctx).aVariant = ctx.aVariant := by
  induction events generalizing ctx s with
  | nil => exact ⟨found, rfl, rfl⟩
  | cons n events ih =>
    obtain ⟨room, me, variant⟩ := ih (updatedRoomDataInternal_toCache (n := n) named found)
    obtain ⟨sameMe, sameVariant⟩ := updatedRoomDataInternal_keeps ctx n
    exact ⟨room, me.trans sameMe, variant.trans sameVariant⟩

theorem changesAfter_attrs : (changesAfter resp events).attrs = attrsAfter resp events := by
  have run (s : RoomChanges) :
      (events.foldl (RoomChanges.next resp.roomData.roomId) s).attrs =
        (events.filter (fun n => n.roomId = resp.roomData.roomId)).foldl
          (fun attrs n => replaceAttrs n.binAttrs attrs) s.attrs := by
    induction events generalizing s with
    | nil => rfl
    | cons n events ih =>
      rw [List.foldl_cons, ih, RoomChanges.next]
      by_cases here : n.roomId = resp.roomData.roomId
      · simp [here]
      · simp [here]
  exact run (changesOfReply resp.roomData)

/-! ## What is delivered and what is cached -/

def groupsOf (resp : CreateJoinRoomResponse) : List RoomGroup :=
  resp.roomData.groups.map roomGroupOf

def deliveredMember (resp : CreateJoinRoomResponse) (m : MatchingRoomMemberData) : MemberView :=
  (memberDataOf (groupsOf resp) m).view

def deliveredRoom (resp : CreateJoinRoomResponse) : RoomView where
  roomData := { roomDataOf resp.roomData with roomGroup := [] }
  groups := groupsOf resp
  members := resp.members.map (deliveredMember resp)
  me := (lastWhere (fun m => m.memberId.toUInt16 = resp.meMemberId.toUInt16)
    resp.members).map (deliveredMember resp)
  owner := (lastWhere (fun m => m.memberId.toUInt16 = resp.ownerMemberId.toUInt16)
    resp.members).map (deliveredMember resp)

theorem createJoinReply_view :
    (createJoinReply stored aVariant ctx resp).1.view = deliveredRoom resp := by
  rw [createJoinReply]
  split
  · simp only [buildCreateJoinRoomPayloadA, buildCreateJoinRoomPayloadCommon, RoomPayload.view,
      RoomResponse.view, lastWhere_map, List.map_map, Option.map_map]
    rfl
  · simp only [buildCreateJoinRoomPayload, buildCreateJoinRoomPayloadCommon, RoomPayload.view,
      RoomResponse.view, lastWhere_map, List.map_map, Option.map_map]
    rfl

/-- The room that a reply caches. -/
def cachedRoom (stored : Ipv4.Scanned → UInt32) (resp : CreateJoinRoomResponse) : RoomCache :=
  roomCacheOf stored (roomDataOf resp.roomData) resp

theorem createJoinReply_context (stored : Ipv4.Scanned → UInt32) (aVariant : Bool)
    (ctx : RoomContext) (resp : CreateJoinRoomResponse) :
    (createJoinReply stored aVariant ctx resp).2.rooms.find? resp.roomData.roomId.toNat =
        some (cachedRoom stored resp) ∧
      (createJoinReply stored aVariant ctx resp).2.myMemberId = resp.meMemberId.toUInt16 ∧
      (createJoinReply stored aVariant ctx resp).2.aVariant = ctx.aVariant := by
  have common : (createJoinReply stored aVariant ctx resp).2 =
      (buildCreateJoinRoomPayloadCommon stored ctx resp).2 := by
    rw [createJoinReply]
    split
    · rfl
    · rfl
  rw [common]
  exact ⟨SortedTable.find?_assign_self (a := cachedRoom stored resp), rfl, rfl⟩

theorem told_eq : told stored aVariant ctx resp events =
    (changesAfter resp events).toView (deliveredRoom resp) := by
  rw [told, createJoinReply_view]
  exact overwrites_toView (v := deliveredRoom resp) (s := changesOfReply resp.roomData)

theorem contextAfter_room (stored : Ipv4.Scanned → UInt32) (aVariant : Bool)
    (ctx : RoomContext) (resp : CreateJoinRoomResponse) (events : List UpdatedRoomData) :
    (contextAfter stored aVariant ctx resp events).rooms.find? resp.roomData.roomId.toNat =
        some ((changesAfter resp events).toCache (cachedRoom stored resp)) ∧
      (contextAfter stored aVariant ctx resp events).myMemberId = resp.meMemberId.toUInt16 := by
  obtain ⟨room, me, -⟩ := createJoinReply_context stored aVariant ctx resp
  have cached :
      (createJoinReply stored aVariant ctx resp).2.rooms.find? resp.roomData.roomId.toNat =
        some ((changesOfReply resp.roomData).toCache (cachedRoom stored resp)) := room
  have named : (cachedRoom stored resp).roomId = resp.roomData.roomId := rfl
  obtain ⟨later, same, -⟩ := updates_toCache events named cached
  exact ⟨later, same.trans me⟩

/-! ## What is answered -/

def viewOfCache (mc : MemberCache) : MemberView := (memberFromCache mc).view

def cachedMembers (stored : Ipv4.Scanned → UInt32) (resp : CreateJoinRoomResponse) :
    SortedTable MemberCache.key :=
  .collect (resp.members.map (cacheMember stored))

def answeredRoom (stored : Ipv4.Scanned → UInt32) (resp : CreateJoinRoomResponse)
    (s : RoomChanges) : RoomView where
  roomData := { roomFromCache (s.toCache (cachedRoom stored resp)) with roomGroup := [] }
  groups := (cachedRoom stored resp).groups.entries
  members := (cachedMembers stored resp).entries.map viewOfCache
  me := (lastWhere (fun mc => mc.memberId = resp.meMemberId.toUInt16)
    (cachedMembers stored resp).entries).map viewOfCache
  owner := (lastWhere (fun mc => mc.flagAttr &&& flagAttrOwner ≠ 0)
    (cachedMembers stored resp).entries).map viewOfCache

theorem buildGetRoomDataInternalPayload_view :
    (buildGetRoomDataInternalPayload (contextAfter stored aVariant ctx resp events)
      resp.roomData.roomId).map (RoomResponse.view RoomMemberDataInternal.view) =
    some (answeredRoom stored resp (changesAfter resp events)) := by
  obtain ⟨room, me⟩ := contextAfter_room stored aVariant ctx resp events
  rw [buildGetRoomDataInternalPayload, room, Option.map_some, me]
  simp only [RoomResponse.view, lastWhere_map, List.map_map, Option.map_map]
  rfl

theorem copiedAttrs_eq {attrs : List RoomBinAttrInternal} :
    attrs.map copiedAttr = attrs ↔ ∀ a ∈ attrs, a.memberId = 0 := by
  have copied (a : RoomBinAttrInternal) : copiedAttr a = a ↔ a.memberId = 0 := by
    cases a
    simp [copiedAttr, eq_comm]
  rw [← forall₂_congr (fun a _ => copied a)]
  constructor
  · intro same a member
    have equal := List.map_inj_left.mp (same.trans (List.map_id attrs).symm) a member
    exact equal
  · intro same
    exact (List.map_congr_left same).trans (List.map_id attrs)

theorem groups_perm : (cachedRoom stored resp).groups.entries.Perm (groupsOf resp) ↔
    (resp.roomData.groups.map (fun g => g.groupId.toUInt8)).Nodup := by
  have keys : (groupsOf resp).map RoomGroup.key =
      (resp.roomData.groups.map (fun g => g.groupId.toUInt8)).map UInt8.toNat := by
    rw [groupsOf, List.map_map, List.map_map]
    rfl
  have collected : (cachedRoom stored resp).groups.entries.Perm (groupsOf resp) ↔
      ((groupsOf resp).map RoomGroup.key).Nodup := SortedTable.collect_perm
  rw [collected, keys]
  exact List.nodup_map_iff (fun a b same => UInt8.toNat_inj.mp same)

theorem cachedMembers_perm (stored : Ipv4.Scanned → UInt32) :
    (cachedMembers stored resp).entries.Perm (resp.members.map (cacheMember stored)) ↔
      (resp.members.map (fun m => m.memberId.toUInt16)).Nodup := by
  have keys : (resp.members.map (cacheMember stored)).map MemberCache.key =
      (resp.members.map (fun m => m.memberId.toUInt16)).map UInt16.toNat := by
    rw [List.map_map, List.map_map]
    rfl
  refine SortedTable.collect_perm.trans ?_
  rw [keys]
  exact List.nodup_map_iff (fun a b same => UInt16.toNat_inj.mp same)

/-- Two images of a list hold the same when the elements can be told apart in them. -/
theorem map_perm_map {α β κ : Type} {l : List α} {f g : α → β} (key : β → κ)
    (same : ∀ a ∈ l, key (f a) = key (g a)) (distinct : (l.map (fun a => key (g a))).Nodup) :
    (l.map f).Perm (l.map g) ↔ ∀ a ∈ l, f a = g a := by
  constructor
  · intro perm a member
    obtain ⟨b, there, equal⟩ := List.mem_map.mp (perm.mem_iff.mp (List.mem_map_of_mem member))
    have keys : key (g b) = key (g a) := by rw [equal, same a member]
    rw [← equal, List.inj_on_of_nodup_map distinct there member keys]
  · intro equal
    rw [List.map_congr_left equal]

/-- A member is answered as it was delivered. -/
structure MemberKept (resp : CreateJoinRoomResponse) (m : MatchingRoomMemberData) : Prop where
  ungrouped : ∀ g ∈ resp.roomData.groups, g.groupId.toUInt8 ≠ m.groupId.toUInt8
  bare : m.binAttrsInternal = []
  flagged : m.isOwner = true → m.flagAttr &&& flagAttrOwner ≠ 0

theorem memberFlags_eq {m : MatchingRoomMemberData} : m.flagAttr = memberFlags m ↔
    (m.isOwner = true → m.flagAttr &&& flagAttrOwner ≠ 0) := by
  have bit (x : BitVec 32) : x = x ||| BitVec.twoPow 32 31 ↔ x &&& BitVec.twoPow 32 31 ≠ 0 := by
    rw [BitVec.and_twoPow]
    constructor
    · intro same
      have set : x.getLsbD 31 = true := by
        rw [same]
        simp
      rw [if_pos set]
      decide
    · intro apart
      have set : x.getLsbD 31 = true := by
        by_contra clear
        exact apart (if_neg clear)
      apply BitVec.eq_of_getLsbD_eq
      intro i inside
      rw [BitVec.getLsbD_or, BitVec.getLsbD_twoPow]
      by_cases here : 31 = i
      · subst here
        simp [set]
      · simp [here]
  rw [memberFlags]
  cases m.isOwner with
  | false => simp
  | true =>
    have twoPow : (2147483648#32 : BitVec 32) = BitVec.twoPow 32 31 := by decide
    have flags := bit m.flagAttr.toBitVec
    rw [← twoPow] at flags
    simpa [← UInt32.toBitVec_inj, flagAttrOwner] using flags

theorem findPayloadGroup_none {m : MatchingRoomMemberData} :
    findPayloadGroup (groupsOf resp) m.groupId.toUInt8 = none ↔
      ∀ g ∈ resp.roomData.groups, g.groupId.toUInt8 ≠ m.groupId.toUInt8 := by
  rw [findPayloadGroup, List.find?_eq_none, groupsOf, List.forall_mem_map]
  simp only [decide_eq_true_eq]
  exact Iff.rfl

theorem viewOfCache_eq (stored : Ipv4.Scanned → UInt32) {m : MatchingRoomMemberData} :
    viewOfCache (cacheMember stored m) = deliveredMember resp m ↔ MemberKept resp m := by
  have parts : viewOfCache (cacheMember stored m) = deliveredMember resp m ↔
      m.flagAttr = memberFlags m ∧ findPayloadGroup (groupsOf resp) m.groupId.toUInt8 = none ∧
        m.binAttrsInternal = [] := by
    rw [eq_comm (a := findPayloadGroup _ _)]
    simp only [viewOfCache, memberFromCache, deliveredMember, memberDataOf, cacheMember,
      RoomMemberDataInternal.view, appendMemberBinAttrs, MemberView.mk.injEq, true_and]
    rw [Multiset.coe_eq_coe, List.nil_perm, List.map_eq_nil_iff]
  rw [parts, memberFlags_eq, findPayloadGroup_none]
  constructor
  · rintro ⟨flagged, ungrouped, bare⟩
    exact ⟨ungrouped, bare, flagged⟩
  · rintro ⟨ungrouped, bare, flagged⟩
    exact ⟨flagged, ungrouped, bare⟩

/-! ## The members -/

theorem mem_cachedMembers (stored : Ipv4.Scanned → UInt32)
    (distinct : (resp.members.map (fun m => m.memberId.toUInt16)).Nodup)
    {mc : MemberCache} : mc ∈ (cachedMembers stored resp).entries ↔
      ∃ m ∈ resp.members, cacheMember stored m = mc := by
  rw [((cachedMembers_perm stored).mpr distinct).mem_iff, List.mem_map]

theorem members_perm :
    ((cachedMembers stored resp).entries.map viewOfCache).Perm
        (resp.members.map (deliveredMember resp)) ↔
      (resp.members.map (fun m => m.memberId.toUInt16)).Nodup ∧
        ∀ m ∈ resp.members, MemberKept resp m := by
  have ids : (resp.members.map (deliveredMember resp)).map MemberView.memberId =
      resp.members.map (fun m => m.memberId.toUInt16) := by
    rw [List.map_map]
    rfl
  have kept (distinct : (resp.members.map (fun m => m.memberId.toUInt16)).Nodup) :
      ((cachedMembers stored resp).entries.map viewOfCache).Perm
          (resp.members.map (deliveredMember resp)) ↔
        ∀ m ∈ resp.members, MemberKept resp m := by
    have perm := ((cachedMembers_perm stored).mpr distinct).map viewOfCache
    rw [List.map_map] at perm
    rw [← forall₂_congr (fun m _ => viewOfCache_eq stored)]
    have images : (resp.members.map (viewOfCache ∘ cacheMember stored)).Perm
        (resp.members.map (deliveredMember resp)) ↔ ∀ m ∈ resp.members,
          viewOfCache (cacheMember stored m) = deliveredMember resp m :=
      map_perm_map MemberView.memberId (fun _ _ => rfl) distinct
    rw [← images]
    exact ⟨perm.symm.trans, perm.trans⟩
  constructor
  · intro perm
    have distinct : (resp.members.map (fun m => m.memberId.toUInt16)).Nodup := by
      rw [← ids]
      refine (perm.map MemberView.memberId).nodup_iff.mp ?_
      rw [List.map_map]
      refine List.Pairwise.map _ ?_ (cachedMembers stored resp).sorted
      intro a b less same
      exact absurd less (not_lt_of_ge (le_of_eq (congrArg UInt16.toNat same.symm)))
    exact ⟨distinct, (kept distinct).mp perm⟩
  · rintro ⟨distinct, all⟩
    exact (kept distinct).mpr all

/-- With ids that differ, the last member with an id is the only one. -/
theorem lastWhere_key {μ : Type} {key : μ → UInt16} {members : List μ} {id : UInt16} {m : μ}
    (distinct : (members.map key).Nodup) :
    lastWhere (fun m => key m = id) members = some m ↔ m ∈ members ∧ key m = id := by
  have reversed : KeyedTable.Distinct key members.reverse := by
    rw [KeyedTable.Distinct, List.map_reverse]
    exact List.nodup_reverse.mpr distinct
  rw [lastWhere_eq, ← List.mem_reverse]
  constructor
  · exact KeyedTable.lookup_some
  · rintro ⟨member, rfl⟩
    exact reversed.lookup_of_mem member

/-- In the order of ids, the last member that fits is the one with the largest id. -/
theorem lastWhere_sorted {t : SortedTable MemberCache.key} {fits : MemberCache → Bool}
    {mc : MemberCache} : lastWhere fits t.entries = some mc ↔
      mc ∈ t.entries ∧ fits mc = true ∧
        ∀ other ∈ t.entries, fits other = true → other.memberId ≤ mc.memberId := by
  rw [lastWhere_eq, List.find?_eq_some_iff_append]
  constructor
  · rintro ⟨fit, later, earlier, split, unfit⟩
    have parts : t.entries = earlier.reverse ++ mc :: later.reverse := by
      rw [← List.reverse_reverse t.entries, split]
      simp
    have sorted := t.sorted
    rw [parts, List.pairwise_append] at sorted
    refine ⟨by simp [parts], fit, ?_⟩
    intro other member good
    rw [parts, List.mem_append, List.mem_cons] at member
    rcases member with before | rfl | after
    · exact UInt16.le_iff_toNat_le.mpr (le_of_lt (sorted.2.2 other before mc List.mem_cons_self))
    · exact UInt16.le_refl _
    · have bad := unfit other (List.mem_reverse.mp after)
      rw [good] at bad
      cases bad
  · rintro ⟨member, fit, largest⟩
    obtain ⟨earlier, later, split⟩ := List.append_of_mem member
    refine ⟨fit, later.reverse, earlier.reverse, by simp [split], ?_⟩
    intro other there
    have after := List.mem_reverse.mp there
    have sorted := t.sorted
    rw [split, List.pairwise_append, List.pairwise_cons] at sorted
    have less := sorted.2.1.1 other after
    cases good : fits other with
    | false => rfl
    | true =>
      have most := largest other (by simp [split, after]) good
      exact absurd less (not_lt_of_ge (UInt16.le_iff_toNat_le.mp most))

theorem me_view (distinct : (resp.members.map (fun m => m.memberId.toUInt16)).Nodup)
    (kept : ∀ m ∈ resp.members, MemberKept resp m) (id : UInt16) :
    (lastWhere (fun mc => mc.memberId = id) (cachedMembers stored resp).entries).map
        viewOfCache =
      (lastWhere (fun m => m.memberId.toUInt16 = id) resp.members).map
        (deliveredMember resp) := by
  have ids : ((cachedMembers stored resp).entries.map MemberCache.memberId).Nodup := by
    refine (((cachedMembers_perm stored).mpr distinct).map MemberCache.memberId).nodup_iff.mpr ?_
    rw [List.map_map]
    exact distinct
  cases found : lastWhere (fun m : MatchingRoomMemberData => m.memberId.toUInt16 = id)
      resp.members with
  | none =>
    cases cached : lastWhere (fun mc => mc.memberId = id)
        (cachedMembers stored resp).entries with
    | none => rfl
    | some mc =>
      obtain ⟨member, named⟩ := (lastWhere_key ids).mp cached
      obtain ⟨m, there, rfl⟩ := (mem_cachedMembers stored distinct).mp member
      have last := (lastWhere_key distinct).mpr ⟨there, named⟩
      rw [found] at last
      cases last
  | some m =>
    obtain ⟨member, named⟩ := (lastWhere_key distinct).mp found
    have there := (mem_cachedMembers stored distinct).mpr ⟨m, member, rfl⟩
    rw [(lastWhere_key ids).mpr ⟨there, named⟩, Option.map_some, Option.map_some,
      (viewOfCache_eq stored).mpr (kept m member)]

/-! ## The owner -/

abbrev Flagged (mc : MemberCache) : Prop := mc.flagAttr &&& flagAttrOwner ≠ 0

theorem lastFlagged_cached (stored : Ipv4.Scanned → UInt32)
    (distinct : (resp.members.map (fun m => m.memberId.toUInt16)).Nodup)
    {m : MatchingRoomMemberData} (member : m ∈ resp.members) :
    lastWhere (fun mc => Flagged mc) (cachedMembers stored resp).entries =
      some (cacheMember stored m) ↔ LastFlagged resp m := by
  have cached (mc : MemberCache) : mc ∈ (cachedMembers stored resp).entries ↔
      ∃ m ∈ resp.members, cacheMember stored m = mc := mem_cachedMembers stored distinct
  rw [lastWhere_sorted, LastFlagged, decide_eq_true_eq]
  constructor
  · rintro ⟨-, flagged, largest⟩
    refine ⟨flagged, fun other there also => ?_⟩
    exact largest _ ((cached _).mpr ⟨other, there, rfl⟩) (decide_eq_true also)
  · rintro ⟨flagged, largest⟩
    refine ⟨(cached _).mpr ⟨m, member, rfl⟩, flagged, ?_⟩
    intro mc there also
    obtain ⟨other, named, rfl⟩ := (cached _).mp there
    exact largest other named (of_decide_eq_true also)

theorem owner_view (distinct : (resp.members.map (fun m => m.memberId.toUInt16)).Nodup)
    (kept : ∀ m ∈ resp.members, MemberKept resp m) (id : UInt16) :
    (lastWhere (fun mc => Flagged mc) (cachedMembers stored resp).entries).map viewOfCache =
        (lastWhere (fun m => m.memberId.toUInt16 = id) resp.members).map
          (deliveredMember resp) ↔
      ∀ m ∈ resp.members, LastFlagged resp m ↔ m.memberId.toUInt16 = id := by
  constructor
  · intro same m member
    rw [← lastFlagged_cached stored distinct member]
    constructor
    · intro last
      rw [last, Option.map_some] at same
      obtain ⟨owner, found, equal⟩ := Option.map_eq_some_iff.mp same.symm
      have ids := congrArg MemberView.memberId equal
      exact ids.symm.trans ((lastWhere_key distinct).mp found).2
    · intro named
      have found := (lastWhere_key distinct).mpr ⟨member, named⟩
      rw [found, Option.map_some] at same
      obtain ⟨mc, last, equal⟩ := Option.map_eq_some_iff.mp same
      obtain ⟨other, there, rfl⟩ :=
        (mem_cachedMembers stored distinct).mp (lastWhere_sorted.mp last).1
      have ids : other.memberId.toUInt16 = m.memberId.toUInt16 :=
        congrArg MemberView.memberId equal
      rw [last, List.inj_on_of_nodup_map distinct there member ids]
  · intro agree
    cases last : lastWhere (fun mc => decide (Flagged mc)) (cachedMembers stored resp).entries with
    | some mc =>
      obtain ⟨m, member, rfl⟩ := (mem_cachedMembers stored distinct).mp (lastWhere_sorted.mp last).1
      have named := (agree m member).mp ((lastFlagged_cached stored distinct member).mp last)
      rw [(lastWhere_key distinct).mpr ⟨member, named⟩, Option.map_some, Option.map_some,
        (viewOfCache_eq stored).mpr (kept m member)]
    | none =>
      cases found : lastWhere (fun m : MatchingRoomMemberData => m.memberId.toUInt16 = id)
          resp.members with
      | none => rfl
      | some m =>
        obtain ⟨member, named⟩ := (lastWhere_key distinct).mp found
        have cached := (lastFlagged_cached stored distinct member).mpr ((agree m member).mpr named)
        rw [last] at cached
        cases cached

theorem answeredRoom_eq (stored : Ipv4.Scanned → UInt32) (aVariant : Bool)
    (ctx : RoomContext) :
    answeredRoom stored resp (changesAfter resp events) = told stored aVariant ctx resp events ↔
      Unabridged resp events := by
  have parts : answeredRoom stored resp (changesAfter resp events) =
        told stored aVariant ctx resp events ↔
      (changesAfter resp events).attrs.map copiedAttr = (changesAfter resp events).attrs ∧
      (cachedRoom stored resp).groups.entries.Perm (groupsOf resp) ∧
      ((cachedMembers stored resp).entries.map viewOfCache).Perm
        (resp.members.map (deliveredMember resp)) ∧
      (answeredRoom stored resp (changesAfter resp events)).me =
        ((changesAfter resp events).toView (deliveredRoom resp)).me ∧
      (answeredRoom stored resp (changesAfter resp events)).owner =
        ((changesAfter resp events).toView (deliveredRoom resp)).owner := by
    rw [told_eq, ← Multiset.coe_eq_coe, ← Multiset.coe_eq_coe]
    constructor
    · intro same
      refine ⟨?_, ?_, ?_, ?_, ?_⟩
      · exact congrArg (fun v => v.roomData.internalBinAttr) same
      · exact congrArg RoomView.groups same
      · exact congrArg RoomView.members same
      · exact congrArg RoomView.me same
      · exact congrArg RoomView.owner same
    · rintro ⟨attrs, groups, members, me, owner⟩
      refine RoomView.mk.injEq .. |>.mpr ⟨?_, groups, members, me, owner⟩
      refine RoomDataInternal.mk.injEq .. |>.mpr ?_
      exact ⟨rfl, rfl, rfl, rfl, rfl, rfl, rfl, rfl, rfl, rfl, rfl, rfl, rfl, attrs⟩
  rw [parts, copiedAttrs_eq, changesAfter_attrs, groups_perm, members_perm]
  constructor
  · rintro ⟨updaters, groupIds, ⟨memberIds, kept⟩, -, owner⟩
    exact {
      updaters := updaters
      groupIds := groupIds
      memberIds := memberIds
      ungrouped := fun m member => (kept m member).ungrouped
      bare := fun m member => (kept m member).bare
      flagged := fun m member => (kept m member).flagged
      owner := (owner_view memberIds kept _).mp owner }
  · rintro ⟨updaters, groupIds, memberIds, ungrouped, bare, flagged, owner⟩
    have kept : ∀ m ∈ resp.members, MemberKept resp m := fun m member =>
      ⟨ungrouped m member, bare m member, flagged m member⟩
    exact ⟨updaters, groupIds, ⟨memberIds, kept⟩, me_view memberIds kept _,
      (owner_view memberIds kept _).mpr owner⟩

/-! ## Single members -/

/-- A member that has nothing to leave out is answered in full, with every attribute asked for
found missing. -/
theorem memberData_unabridged (stored : Ipv4.Scanned → UInt32) (aVariant : Bool)
    (ctx : RoomContext) (told : Unabridged resp events) {m : MatchingRoomMemberData}
    (member : m ∈ resp.members) (ids : List UInt16) :
    ∃ payload, buildGetRoomMemberDataInternalPayload (contextAfter stored aVariant ctx resp events)
        resp.roomData.roomId m.memberId.toUInt16 ids = some payload ∧
      payload.attrs = ids.map (fun id => ⟨0, id, []⟩) ∧
      (ids = [] → payload.view = deliveredMember resp m) := by
  obtain ⟨room, -⟩ := contextAfter_room stored aVariant ctx resp events
  have kept : MemberKept resp m :=
    ⟨told.ungrouped m member, told.bare m member, told.flagged m member⟩
  have found : ((changesAfter resp events).toCache (cachedRoom stored resp)).members.find?
      m.memberId.toUInt16.toNat = some (cacheMember stored m) :=
    SortedTable.find?_eq_some.mpr
      ⟨(mem_cachedMembers stored told.memberIds).mpr ⟨m, member, rfl⟩, rfl⟩
  have group : ((changesAfter resp events).toCache (cachedRoom stored resp)).groups.find?
      (cacheMember stored m).groupId.toNat = none := by
    refine SortedTable.find?_collect.trans (KeyedTable.lookup_none.mpr ?_)
    intro g there same
    obtain ⟨sent, listed, rfl⟩ := List.mem_map.mp (List.mem_reverse.mp there)
    exact kept.ungrouped sent listed (UInt8.toNat_inj.mp same)
  have bins : (cacheMember stored m).bins = .empty := by
    rw [cacheMember, kept.bare]
    rfl
  have view := (viewOfCache_eq stored).mpr kept
  rw [buildGetRoomMemberDataInternalPayload, room]
  simp only [found, group, bins, ite_self]
  have asked : (if ids = [] then (SortedTable.empty : SortedTable MemberBinCache.key).entries.map
      MemberBinCache.id else ids) = ids := by
    split_ifs with all
    · rw [all]
      rfl
    · rfl
  rw [asked]
  split
  · refine ⟨_, rfl, rfl, ?_⟩
    rintro rfl
    exact view
  · refine ⟨_, rfl, rfl, ?_⟩
    rintro rfl
    exact view

/-- After a reply and any events about room data, the questions are answered with what the server
told exactly when there was nothing to leave out. -/
theorem answersLikeServer_iff (stored : Ipv4.Scanned → UInt32) (aVariant : Bool)
    (ctx : RoomContext) (resp : CreateJoinRoomResponse) (events : List UpdatedRoomData) :
    AnswersLikeServer stored aVariant ctx resp events ↔ Unabridged resp events := by
  rw [← answeredRoom_eq stored aVariant ctx]
  constructor
  · intro answers
    have room := answers.room
    rw [buildGetRoomDataInternalPayload_view] at room
    exact Option.some.inj room
  · intro same
    have unabridged := (answeredRoom_eq stored aVariant ctx).mp same
    have members {m : MemberView} (member : m ∈ (told stored aVariant ctx resp events).members) :
        ∃ sent ∈ resp.members, deliveredMember resp sent = m := by
      rw [told_eq] at member
      exact List.mem_map.mp (Multiset.mem_coe.mp member)
    refine ⟨?_, ?_, ?_⟩
    · rw [buildGetRoomDataInternalPayload_view, same]
    · intro m member
      obtain ⟨sent, there, rfl⟩ := members member
      obtain ⟨payload, built, -, view⟩ :=
        memberData_unabridged stored aVariant ctx unabridged there []
      exact (congrArg (Option.map MemberPayload.view) built).trans (congrArg some (view rfl))
    · intro m member ids _
      obtain ⟨sent, there, rfl⟩ := members member
      obtain ⟨payload, built, attrs, -⟩ :=
        memberData_unabridged stored aVariant ctx unabridged there ids
      refine ⟨payload, built, ?_⟩
      rw [attrs, List.forall₂_map_right_iff, List.forall₂_same]
      intro id _
      refine Or.inr ⟨?_, rfl⟩
      intro b attr
      have bare : (deliveredMember resp sent).binAttrs = 0 := by
        rw [deliveredMember, RoomMemberDataInternal.view, memberDataOf, appendMemberBinAttrs,
          unabridged.bare sent there]
        rfl
      rw [bare] at attr
      exact absurd attr (Multiset.notMem_zero b)

/-- A room with one attribute, which member 7 updated. -/
def updatedBySeven : CreateJoinRoomResponse :=
  { roomData := { roomId := 1, binAttrsInternal := [{ attrId := 1, updateMemberId := 7 }] } }

theorem answersLikeServer_updatedBySeven :
    ¬∀ (stored : Ipv4.Scanned → UInt32) (aVariant : Bool) (ctx : RoomContext)
      (resp : CreateJoinRoomResponse) (events : List UpdatedRoomData),
      AnswersLikeServer stored aVariant ctx resp events := by
  intro answers
  have room := (answers Ipv4.wrapped false {} updatedBySeven []).room
  have updaters := congrArg
    (Option.map (fun v : RoomView => v.roomData.internalBinAttr.map RoomBinAttrInternal.memberId))
    room
  revert updaters
  decide +kernel

end Matching2Rooms
