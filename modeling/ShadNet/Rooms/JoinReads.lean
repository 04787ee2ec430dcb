import ShadNet.Rooms.JoinPayload

/-!
# Pointers of create and join replies

Buffers are not reserved for, so their array may move, but only pointers to their bytes are kept.
All other arrays stay where they are, and the payload reads as the one the cached room's builders
deliver.
-/

namespace Matching2Payload

open Matching2Rooms (MatchingBinAttr MatchingRoomDataInternal MatchingRoomMemberData
  CreateJoinRoomResponse RoomGroup RoomResponse lastWhere roomGroupOf)
open GrowArray

structure JoinStorage.Stays (st st' : JoinStorage) : Prop where
  groups : st'.roomGroups = st.roomGroups
  attrs : st'.roomBinAttrs = st.roomBinAttrs
  memberAttrs : st.memberBinAttrs.Stays st'.memberBinAttrs
  buffers : st.binBuffers.elems <+: st'.binBuffers.elems

/-- There is capacity for the attributes of these members. -/
structure JoinStorage.Room (groups : List RoomGroup) (st : JoinStorage)
    (members : List MatchingRoomMemberData) : Prop where
  groups : st.roomGroups.elems = groups
  memberAttrs : st.memberBinAttrs.elems.length + (members.map memberBinAttrCount).sum ≤
    st.memberBinAttrs.capacity

variable {growth : Nat → Nat} {st st' st'' : JoinStorage} {m : MatchingRoomMemberData}
  {members : List MatchingRoomMemberData} {attrs : List MatchingBinAttr}
  {groups : List RoomGroup} {μ : Type} {variant : MemberVariant μ} {next : Option Place}

theorem JoinStorage.Stays.refl (st : JoinStorage) : st.Stays st :=
  ⟨rfl, rfl, .refl _, List.prefix_rfl⟩

theorem JoinStorage.Stays.trans (first : st.Stays st') (second : st'.Stays st'') :
    st.Stays st'' :=
  ⟨second.groups.trans first.groups, second.attrs.trans first.attrs,
    first.memberAttrs.trans second.memberAttrs, first.buffers.trans second.buffers⟩

/-! ## Attributes -/

def pushBuffers (growth : Nat → Nat) (attrs : List MatchingBinAttr)
    (buffers : GrowArray (List UInt8)) : GrowArray (List UInt8) :=
  attrs.foldl (fun v a => v.push growth a.data) buffers

theorem pushBuffers_elems (growth : Nat → Nat) (attrs : List MatchingBinAttr)
    (buffers : GrowArray (List UInt8)) : (pushBuffers growth attrs buffers).elems =
      buffers.elems ++ attrs.map MatchingBinAttr.data := by
  induction attrs generalizing buffers with
  | nil => exact (List.append_nil _).symm
  | cons a attrs ih =>
    rw [pushBuffers, List.foldl_cons, ← pushBuffers, ih, push_elems, List.append_assoc]
    rfl

theorem binAttrIn_push (buffers : GrowArray (List UInt8)) (a : MatchingBinAttr) :
    binAttrIn (buffers.push growth a.data) a = storedAttr buffers.elems.length a := by
  rw [binAttrIn, storedAttr, push_elems, List.length_append, List.length_singleton,
    Nat.add_sub_cancel]

def storedRoomAttr (a : MatchingBinAttr) (b : BinAttr) : RoomBinAttrInternal :=
  ⟨a.updateDate, a.updateMemberId.toUInt16, b⟩

def storedMemberAttr (a : MatchingBinAttr) (b : BinAttr) : RoomMemberBinAttrInternal :=
  ⟨a.updateDate, b⟩

theorem fillRoomBinAttrs_eq (i : Nat) (structs : GrowArray RoomBinAttrInternal)
    (buffers : GrowArray (List UInt8)) : fillRoomBinAttrs growth attrs i structs buffers =
      (structs.writeFrom i (storedAs storedRoomAttr buffers.elems.length attrs),
        pushBuffers growth attrs buffers) := by
  induction attrs generalizing i structs buffers with
  | nil => rfl
  | cons a attrs ih =>
    rw [fillRoomBinAttrs, binAttrIn_push, ih, push_elems, List.length_append,
      List.length_singleton, storedAs, writeFrom]
    rfl

/-- The storage with the attributes of a member. -/
def JoinStorage.withMember (growth : Nat → Nat) (attrs : List MatchingBinAttr)
    (st : JoinStorage) : JoinStorage :=
  { st with
    memberBinAttrs :=
      st.memberBinAttrs.plus (storedAs storedMemberAttr st.binBuffers.elems.length attrs)
    binBuffers := pushBuffers growth attrs st.binBuffers }

theorem appendMemberBinAttr_foldl
    (room : st.memberBinAttrs.elems.length + attrs.length ≤ st.memberBinAttrs.capacity) :
    attrs.foldl (fun st a => appendMemberBinAttr growth a st) st = st.withMember growth attrs := by
  induction attrs generalizing st with
  | nil =>
    rw [JoinStorage.withMember, storedAs, plus_nil]
    rfl
  | cons a attrs ih =>
    rw [List.length_cons] at room
    have pushed : appendMemberBinAttr growth a st = st.withMember growth [a] := by
      rw [appendMemberBinAttr, binAttrIn_push, push_plus (by omega)]
      rfl
    have room' : (st.withMember growth [a]).memberBinAttrs.elems.length + attrs.length ≤
        (st.withMember growth [a]).memberBinAttrs.capacity := by
      simp only [JoinStorage.withMember, length_plus, length_storedAs, capacity_plus,
        List.length_singleton]
      omega
    rw [List.foldl_cons, pushed, ih room']
    simp only [JoinStorage.withMember, plus_plus, pushBuffers_elems, List.length_append,
      List.map_cons, List.map_nil, List.length_singleton]
    rfl

theorem stays_withMember (growth : Nat → Nat) (attrs : List MatchingBinAttr) (st : JoinStorage) :
    st.Stays (st.withMember growth attrs) := by
  refine ⟨rfl, rfl, stays_plus _ _, ?_⟩
  rw [JoinStorage.withMember, pushBuffers_elems]
  exact List.prefix_append _ _

theorem appendMemberBinAttrs_eq
    (room : st.memberBinAttrs.elems.length + memberBinAttrCount m ≤ st.memberBinAttrs.capacity) :
    appendMemberBinAttrs growth m st = (st.withMember growth m.binAttrsInternal,
      firstOf m.binAttrsInternal st.memberBinAttrs, m.binAttrsInternal.length) := by
  rw [appendMemberBinAttrs, appendMemberBinAttr_foldl room, firstOf]
  simp only [List.length_eq_zero_iff]
  rfl

/-! ## Pointers to single elements -/

theorem zipIdx_read {α : Type} {v : GrowArray α} {x : α × Nat} (member : x ∈ v.elems.zipIdx) :
    v.read (v.place x.2) = some x.1 := by
  have found := List.mem_zipIdx_iff_getElem?.mp member
  rw [GrowArray.read, place, if_pos rfl]
  exact found

theorem readOpt_firstPlace {α : Type} (fits : α → Bool) (v : GrowArray α) :
    readOpt v (firstPlace fits v) = some (v.elems.find? fits) := by
  have values : v.elems.find? fits = (v.elems.zipIdx.find? (fun x => fits x.1)).map Prod.fst := by
    have same : (v.elems.zipIdx.map Prod.fst).find? fits = _ := List.find?_map
    rw [List.zipIdx_map_fst] at same
    exact same
  rw [firstPlace, values]
  cases found : v.elems.zipIdx.find? (fun x => fits x.1) with
  | none => rfl
  | some x =>
    rw [Option.map_some, Option.map_some, readOpt,
      zipIdx_read (List.mem_of_find?_eq_some found), Option.map_some]

/-- What the pointer to the last element that fits leads to. -/
theorem lastPlace_cases {α : Type} (fits : α → Bool) (v : GrowArray α) :
    (lastPlace fits v = none ∧ lastWhere fits v.elems = none) ∨
      ∃ p a, lastPlace fits v = some p ∧ v.read p = some a ∧ lastWhere fits v.elems = some a := by
  have values : lastWhere fits v.elems =
      (lastWhere (fun x : α × Nat => fits x.1) v.elems.zipIdx).map Prod.fst := by
    rw [← Matching2Rooms.lastWhere_map, List.zipIdx_map_fst]
  rw [lastPlace, values]
  cases found : lastWhere (fun x : α × Nat => fits x.1) v.elems.zipIdx with
  | none => exact Or.inl ⟨rfl, rfl⟩
  | some x =>
    rw [Matching2Rooms.lastWhere_eq] at found
    have member := List.mem_reverse.mp (List.mem_of_find?_eq_some found)
    exact Or.inr ⟨_, x.1, rfl, zipIdx_read member, rfl⟩

/-! ## Members -/

/-- A member as the reply describes it, with its pointers followed. -/
def memberOfReply (variant : MemberVariant μ) (groups : List RoomGroup)
    (m : MatchingRoomMemberData) : μ :=
  variant.withPointers (variant.fieldsOf m)
    (Matching2Rooms.findPayloadGroup groups m.groupId.toUInt8)
    (Matching2Rooms.appendMemberBinAttrs m)

theorem readMemberBinAttr_stays {v w : GrowArray (List UInt8)} {a : RoomMemberBinAttrInternal}
    {x : Matching2Rooms.RoomMemberBinAttrInternal} (stays : v.elems <+: w.elems)
    (found : readMemberBinAttr v a = some x) : readMemberBinAttr w a = some x := by
  obtain ⟨b, read, same⟩ := Option.map_eq_some_iff.mp found
  exact Option.map_eq_some_iff.mpr ⟨b, readBinAttr_stays stays read, same⟩

theorem readMember_stays {md : RoomMemberDataInternal μ} {x : μ} (stays : st.Stays st')
    (found : readMember variant st md = some x) : readMember variant st' md = some x := by
  obtain ⟨group, here, found⟩ := Option.bind_eq_some_iff.mp found
  obtain ⟨stored, there, found⟩ := Option.bind_eq_some_iff.mp found
  obtain ⟨attrs, read, same⟩ := Option.bind_eq_some_iff.mp found
  refine Option.bind_eq_some_iff.mpr ⟨group, ?_, ?_⟩
  · rw [stays.groups]
    exact here
  refine Option.bind_eq_some_iff.mpr ⟨stored, stays.memberAttrs.readMany there, ?_⟩
  refine Option.bind_eq_some_iff.mpr ⟨attrs, ?_, same⟩
  exact mapM_stays (fun a b => readMemberBinAttr_stays stays.buffers) read

theorem fillMember_spec (growth : Nat → Nat) (variant : MemberVariant μ) (next : Option Place)
    (room : st.Room groups (m :: members)) :
    (fillMember growth variant next m st).1.next = next ∧
      st.Stays (fillMember growth variant next m st).2 ∧
      (fillMember growth variant next m st).2.Room groups members ∧
      readMember variant (fillMember growth variant next m st).2
        (fillMember growth variant next m st).1 = some (memberOfReply variant groups m) ∧
      (fillMember growth variant next m st).1.fields = variant.fieldsOf m := by
  obtain ⟨same, memberAttrs⟩ := room
  rw [List.map_cons, List.sum_cons] at memberAttrs
  have appended : appendMemberBinAttrs growth m st = _ := appendMemberBinAttrs_eq (by omega)
  rw [fillMember, appended]
  have stays := stays_withMember growth m.binAttrsInternal st
  refine ⟨rfl, stays, ⟨same, ?_⟩, ?_, rfl⟩
  · simp only [JoinStorage.withMember, length_plus, length_storedAs, capacity_plus]
    rw [memberBinAttrCount] at memberAttrs
    omega
  · have group := readOpt_firstPlace (fun group => group.id = m.groupId.toUInt8) st.roomGroups
    rw [same] at group
    have stored : (st.withMember growth m.binAttrsInternal).memberBinAttrs.readMany
        (firstOf m.binAttrsInternal st.memberBinAttrs) m.binAttrsInternal.length =
          some (storedAs storedMemberAttr st.binBuffers.elems.length m.binAttrsInternal) := by
      have found := readMany_plus st.memberBinAttrs
        (storedAs storedMemberAttr st.binBuffers.elems.length m.binAttrsInternal)
      rw [length_storedAs] at found
      simp only [storedAs_nil] at found
      exact found
    have attrs : (storedAs storedMemberAttr st.binBuffers.elems.length m.binAttrsInternal).mapM
        (readMemberBinAttr (st.withMember growth m.binAttrsInternal).binBuffers) =
          some (Matching2Rooms.appendMemberBinAttrs m) := by
      have here : st.binBuffers.elems ++ m.binAttrsInternal.map MatchingBinAttr.data <+:
          (st.withMember growth m.binAttrsInternal).binBuffers.elems := by
        refine ⟨[], ?_⟩
        rw [List.append_nil]
        exact (pushBuffers_elems growth m.binAttrsInternal st.binBuffers).symm
      refine mapM_some (List.forall₂_map_right_iff.mpr ((readBinAttr_stored here).imp ?_))
      rintro s a ⟨b, rfl, read⟩
      rw [readMemberBinAttr, storedMemberAttr, read]
      rfl
    rw [readMember]
    dsimp only
    have group' : readOpt (st.withMember growth m.binAttrsInternal).roomGroups
        (firstPlace (fun group => group.id = m.groupId.toUInt8) st.roomGroups) =
          some (Matching2Rooms.findPayloadGroup groups m.groupId.toUInt8) := group
    rw [group', stored]
    dsimp only [Option.bind_eq_bind, Option.bind_some]
    rw [attrs]
    rfl

theorem fills_members (growth : Nat → Nat) (variant : MemberVariant μ)
    (groups : List RoomGroup) :
    Fills (fillMember growth variant) RoomMemberDataInternal.next JoinStorage.Stays
      (JoinStorage.Room groups)
      (fun st md m => readMember variant st md = some (memberOfReply variant groups m) ∧
        md.fields = variant.fieldsOf m) where
  refl := .refl
  trans := .trans
  stable stays reads := ⟨readMember_stays stays reads.1, reads.2⟩
  step next _ _ _ room := fillMember_spec growth variant next room

/-! ## Whole replies -/

/-- The id of a member is among its fields. -/
structure MemberVariant.Sound (variant : MemberVariant μ) : Prop where
  named : ∀ m, variant.memberId (variant.fieldsOf m) = m.memberId.toUInt16
  kept : ∀ fields group attrs,
    variant.memberId (variant.withPointers fields group attrs) = variant.memberId fields

theorem memberData_sound : memberData.Sound := ⟨fun _ => rfl, fun _ _ _ => rfl⟩

theorem memberDataA_sound : memberDataA.Sound := ⟨fun _ => rfl, fun _ _ _ => rfl⟩

/-- The response as it is with its pointers followed. -/
def responseOfReply (variant : MemberVariant μ) (resp : CreateJoinRoomResponse) :
    RoomResponse μ :=
  let room := Matching2Rooms.roomDataOf resp.roomData
  let members := resp.members.map (memberOfReply variant room.roomGroup)
  { roomData := room
    members := members
    me := lastWhere (fun md => variant.memberId md = resp.meMemberId.toUInt16) members
    owner := lastWhere (fun md => variant.memberId md = resp.ownerMemberId.toUInt16) members }

theorem lastWhere_forall₂ {α β : Type} {R : α → β → Prop} {f : α → Bool} {g : β → Bool}
    {l : List α} {l' : List β} (related : List.Forall₂ R l l')
    (agree : ∀ a b, R a b → f a = g b) :
    (lastWhere f l = none ∧ lastWhere g l' = none) ∨
      ∃ a b, lastWhere f l = some a ∧ lastWhere g l' = some b ∧ R a b := by
  rw [Matching2Rooms.lastWhere_eq, Matching2Rooms.lastWhere_eq]
  have reversed := List.forall₂_reverse_iff.mpr related
  generalize l.reverse = first at reversed ⊢
  generalize l'.reverse = second at reversed ⊢
  induction reversed with
  | nil => exact Or.inl ⟨rfl, rfl⟩
  | @cons a b l l' head tail ih =>
    rw [List.find?_cons, List.find?_cons, ← agree a b head]
    cases f a with
    | true => exact Or.inr ⟨a, b, rfl, rfl, head⟩
    | false => exact ih

theorem readNamed_lastPlace {p : JoinPayload μ} (sound : variant.Sound)
    (reads : List.Forall₂ (fun md m =>
        readMember variant p.storage md = some (memberOfReply variant groups m) ∧
          md.fields = variant.fieldsOf m) p.memberData.elems members) (id : UInt16) :
    readNamed variant p
        (lastPlace (fun md => variant.memberId md.fields = id) p.memberData) =
      some (lastWhere (fun md => variant.memberId md = id)
        (members.map (memberOfReply variant groups))) := by
  have agree : ∀ (md : RoomMemberDataInternal μ) (m : MatchingRoomMemberData),
      (readMember variant p.storage md = some (memberOfReply variant groups m) ∧
        md.fields = variant.fieldsOf m) → decide (variant.memberId md.fields = id) =
          decide (variant.memberId (memberOfReply variant groups m) = id) := by
    rintro md m ⟨-, fields⟩
    rw [fields, memberOfReply, sound.kept]
  rw [Matching2Rooms.lastWhere_map]
  rcases lastPlace_cases (fun md => decide (variant.memberId md.fields = id)) p.memberData with
    ⟨null, missing⟩ | ⟨place, md, pointer, there, last⟩
  · rcases lastWhere_forall₂ reads agree with ⟨-, other⟩ | ⟨_, _, found, -⟩
    · rw [null, other]
      rfl
    · rw [missing] at found
      cases found
  · rcases lastWhere_forall₂ reads agree with ⟨missing, -⟩ | ⟨md', m, found, other, read, -⟩
    · rw [last] at missing
      cases missing
    · obtain rfl : md = md' := Option.some.inj (last.symm.trans found)
      rw [pointer, readNamed, there, Option.bind_some, read, other]
      rfl

theorem fillRoomData_spec (growth : Nat → Nat) (rd : MatchingRoomDataInternal) (st : JoinStorage)
    (groupRoom : st.roomGroups.elems.length = rd.groups.length)
    (attrRoom : st.roomBinAttrs.elems.length = rd.binAttrsInternal.length) :
    (fillRoomData growth rd st).2.roomGroups =
        { st.roomGroups with elems := rd.groups.map roomGroupOf } ∧
      (fillRoomData growth rd st).2.roomBinAttrs.moves = st.roomBinAttrs.moves ∧
      (fillRoomData growth rd st).2.roomBinAttrs.elems.length = rd.binAttrsInternal.length ∧
      (fillRoomData growth rd st).2.memberBinAttrs = st.memberBinAttrs ∧
      ∀ later, (fillRoomData growth rd st).2.Stays later →
        readRoomData later (fillRoomData growth rd st).1 = some (Matching2Rooms.roomDataOf rd) := by
  have groups : st.roomGroups.writeFrom 0 (rd.groups.map roomGroupOf) =
      { st.roomGroups with elems := rd.groups.map roomGroupOf } := by
    refine (writeFrom_eq ?_).trans ?_
    · rw [List.length_map, groupRoom, Nat.zero_add]
    · rw [List.take_zero, List.nil_append]
  have attrs : st.roomBinAttrs.writeFrom 0
      (storedAs storedRoomAttr st.binBuffers.elems.length rd.binAttrsInternal) =
        { st.roomBinAttrs with
          elems := storedAs storedRoomAttr st.binBuffers.elems.length rd.binAttrsInternal } := by
    refine (writeFrom_eq ?_).trans ?_
    · rw [length_storedAs, attrRoom, Nat.zero_add]
    · rw [List.take_zero, List.nil_append]
  rw [fillRoomData, fillRoomBinAttrs_eq, groups, attrs]
  refine ⟨rfl, rfl, length_storedAs _, rfl, ?_⟩
  intro later stays
  obtain ⟨sameGroups, sameAttrs, -, buffers⟩ := stays
  dsimp only at sameGroups sameAttrs buffers
  have readGroups := readMany_data later.roomGroups
  have readAttrs := readMany_data later.roomBinAttrs
  rw [sameGroups] at readGroups
  rw [sameAttrs] at readAttrs
  rw [pushBuffers_elems] at buffers
  have contents : (storedAs storedRoomAttr st.binBuffers.elems.length rd.binAttrsInternal).mapM
      (readRoomBinAttr later.binBuffers) =
        some (rd.binAttrsInternal.map Matching2Rooms.roomBinAttrOf) := by
    refine mapM_some (List.forall₂_map_right_iff.mpr ((readBinAttr_stored buffers).imp ?_))
    rintro s a ⟨b, rfl, read⟩
    rw [readRoomBinAttr, storedRoomAttr, read]
    rfl
  rw [readRoomData, sameGroups, sameAttrs, readGroups]
  dsimp only [Option.bind_eq_bind, Option.bind_some]
  rw [readAttrs]
  dsimp only [Option.bind_some]
  rw [contents]
  rfl

/-- The arrays that pointers lead into. -/
structure JoinStorage.Unmoved (before after : JoinStorage) : Prop where
  groups : Matching2Payload.Unmoved before.roomGroups after.roomGroups
  attrs : Matching2Payload.Unmoved before.roomBinAttrs after.roomBinAttrs
  memberAttrs : Matching2Payload.Unmoved before.memberBinAttrs after.memberBinAttrs

structure JoinSafe (growth : Nat → Nat) (variant : MemberVariant μ) (p : JoinPayload μ)
    (resp : CreateJoinRoomResponse) : Prop where
  storage : (reservedJoin resp p.storage.clear).Unmoved
    (buildCreateJoin growth variant p resp).1.storage
  members : Unmoved (p.memberData.clear.resize resp.members.length (blankMember variant))
    (buildCreateJoin growth variant p resp).1.memberData
  reads : readResponse variant (buildCreateJoin growth variant p resp).1
    (buildCreateJoin growth variant p resp).2.1 (buildCreateJoin growth variant p resp).2.2 =
      some (responseOfReply variant resp)

theorem buildCreateJoin_safe (growth : Nat → Nat) (sound : variant.Sound) (p : JoinPayload μ)
    (resp : CreateJoinRoomResponse) : JoinSafe growth variant p resp := by
  obtain ⟨groups, attrMoves, attrCount, memberAttrs, room⟩ := fillRoomData_spec growth
    resp.roomData (reservedJoin resp p.storage.clear) (length_resize_clear _ _ _)
    (length_resize_clear _ _ _)
  generalize filled : fillRoomData growth resp.roomData (reservedJoin resp p.storage.clear) =
    result at groups attrMoves attrCount memberAttrs room
  obtain ⟨roomData, st⟩ := result
  dsimp only at groups attrMoves attrCount memberAttrs room
  have enough : st.Room (resp.roomData.groups.map roomGroupOf) resp.members := by
    constructor
    · rw [groups]
    · rw [memberAttrs, reservedJoin, reserve_elems, JoinStorage.clear, clear_elems,
        List.length_nil, Nat.zero_add]
      exact le_reserve_capacity _ _
  have count := length_resize_clear resp.members.length (blankMember variant) p.memberData
  obtain ⟨stays, full, moves, length, reads, list⟩ := fillLinked_reads
    (fills_members growth variant (resp.roomData.groups.map roomGroupOf))
    (p.memberData.clear.resize resp.members.length (blankMember variant)) enough count
  generalize members : fillLinked (fillMember growth variant) resp.members 0
    (p.memberData.clear.resize resp.members.length (blankMember variant)) st = result
    at stays full moves length reads list
  obtain ⟨structs, st'⟩ := result
  dsimp only at stays full moves length reads list
  have built : buildCreateJoin growth variant p resp = (⟨structs, st'⟩, roomData,
      ⟨structs.data, structs.elems.length,
        lastPlace (fun md => variant.memberId md.fields = resp.meMemberId.toUInt16) structs,
        lastPlace (fun md => variant.memberId md.fields = resp.ownerMemberId.toUInt16)
          structs⟩) := by
    rw [buildCreateJoin, filled]
    dsimp only
    rw [members]
  refine ⟨?_, ?_, ?_⟩
  · rw [built]
    refine ⟨⟨?_, ?_⟩, ⟨?_, ?_⟩, ⟨?_, ?_⟩⟩
    · rw [stays.groups, groups]
    · rw [stays.groups, groups, List.length_map]
      exact le_resize_capacity _ _ _
    · rw [stays.attrs, attrMoves]
    · rw [stays.attrs, attrCount]
      exact le_resize_capacity _ _ _
    · rw [stays.memberAttrs.moves, memberAttrs]
    · rw [← memberAttrs, ← stays.memberAttrs.capacity]
      exact full.memberAttrs
  · rw [built]
    refine ⟨moves, ?_⟩
    rw [length]
    exact le_resize_capacity _ _ _
  · rw [built, readResponse]
    dsimp only
    have each : structs.elems.mapM (readMember variant st') = some
        (resp.members.map (memberOfReply variant (resp.roomData.groups.map roomGroupOf))) :=
      mapM_some (List.forall₂_map_right_iff.mpr (reads.imp fun _ _ read => read.1))
    have named := readNamed_lastPlace (p := ⟨structs, st'⟩) sound reads
    rw [room st' stays, list]
    dsimp only [Option.bind_eq_bind, Option.bind_some]
    rw [each]
    dsimp only [Option.bind_some]
    rw [named, named]
    rfl

/-! ## The builders -/

structure RoomsSafe {ω ν : Type} (ownerOf : GrowArray NpSignaling.OrbisNpId → ω → Option ν)
    (owner : MatchingRoomDataExternal → ν) (rooms : List MatchingRoomDataExternal)
    (before : GrowArray (RoomDataExternal ω)) (reserved : Storage)
    (after : GrowArray (RoomDataExternal ω)) (st : Storage) (head : Option Place) : Prop where
  structs : Unmoved before after
  storage : reserved.Unmoved st
  reads : readRooms ownerOf after st head = some (rooms.map (roomOfReply owner))

/-- The payloads of room searches, in both variants, and of lists of rooms. -/
structure SearchesSafe (growth : Nat → Nat) (p : CallbackPayload)
    (rooms : List MatchingRoomDataExternal) : Prop where
  search : ∀ resp : SearchRoomReply, resp.rooms = rooms →
    RoomsSafe readOwner ownerOfReply rooms
      (p.roomDataExternal.clear.resize rooms.length (blankRoom ownerNpId))
      (reserveExternalRoomPayloadStorage rooms p.storage.clear)
      (buildSearchRoomPayload growth p resp).1.roomDataExternal
      (buildSearchRoomPayload growth p resp).1.storage
      (buildSearchRoomPayload growth p resp).2.roomDataExt
  searchA : ∀ resp : SearchRoomReply, resp.rooms = rooms →
    RoomsSafe readOwnerA ownerAOfReply rooms
      (p.roomDataExternalA.clear.resize rooms.length (blankRoom ownerA))
      (reserveExternalRoomPayloadStorage rooms p.storage.clear)
      (buildSearchRoomPayloadA growth p resp).1.roomDataExternalA
      (buildSearchRoomPayloadA growth p resp).1.storage
      (buildSearchRoomPayloadA growth p resp).2.roomDataExt
  list : RoomsSafe readOwner ownerOfReply rooms
    (p.roomDataExternal.clear.resize rooms.length (blankRoom ownerNpId))
    (reserveExternalRoomPayloadStorage rooms p.storage.clear)
    (buildGetRoomDataExternalListPayload growth p ⟨rooms⟩).1.roomDataExternal
    (buildGetRoomDataExternalListPayload growth p ⟨rooms⟩).1.storage
    (buildGetRoomDataExternalListPayload growth p ⟨rooms⟩).2.roomDataExternal
  listA : RoomsSafe readOwnerA ownerAOfReply rooms
    (p.roomDataExternalA.clear.resize rooms.length (blankRoom ownerA))
    (reserveExternalRoomPayloadStorage rooms p.storage.clear)
    (buildGetRoomDataExternalListPayloadA growth p ⟨rooms⟩).1.roomDataExternalA
    (buildGetRoomDataExternalListPayloadA growth p ⟨rooms⟩).1.storage
    (buildGetRoomDataExternalListPayloadA growth p ⟨rooms⟩).2.roomDataExternal

theorem buildExternalRooms_safe {ω ν : Type} {field : OwnerField ω}
    {ownerOf : GrowArray NpSignaling.OrbisNpId → ω → Option ν}
    {owner : MatchingRoomDataExternal → ν} (growth : Nat → Nat)
    (sound : field.Sound ownerOf owner) (rooms : List MatchingRoomDataExternal)
    (structs : GrowArray (RoomDataExternal ω)) (st : Storage) :
    RoomsSafe ownerOf owner rooms (structs.clear.resize rooms.length (blankRoom field))
      (reserveExternalRoomPayloadStorage rooms st.clear)
      (buildExternalRooms growth field rooms structs.clear st.clear).1
      (buildExternalRooms growth field rooms structs.clear st.clear).2
      (buildExternalRooms growth field rooms structs.clear st.clear).1.data := by
  obtain ⟨storage, moves, length, reads⟩ := buildExternalRooms_spec growth sound rooms structs st
  refine ⟨⟨moves, ?_⟩, storage, reads⟩
  rw [length]
  exact le_resize_capacity _ _ _

theorem searches_safe (growth : Nat → Nat) (p : CallbackPayload)
    (rooms : List MatchingRoomDataExternal) : SearchesSafe growth p rooms where
  search := by
    rintro resp rfl
    exact buildExternalRooms_safe growth ownerNpId_sound _ _ _
  searchA := by
    rintro resp rfl
    exact buildExternalRooms_safe growth ownerA_sound _ _ _
  list := buildExternalRooms_safe growth ownerNpId_sound _ _ _
  listA := buildExternalRooms_safe growth ownerA_sound _ _ _

/-- In every payload of a search, create or join reply the arrays with elements that are pointed to
stay where they are, and the pointers lead to the items of the reply in their order. -/
theorem payloads_safe (growth : Nat → Nat) :
    (∀ p rooms, SearchesSafe growth p rooms) ∧
      (∀ p resp, JoinSafe growth memberData p resp) ∧
      ∀ p resp, JoinSafe growth memberDataA p resp :=
  ⟨searches_safe growth, buildCreateJoin_safe growth memberData_sound,
    buildCreateJoin_safe growth memberDataA_sound⟩

/-- A reply about a room with one attribute of one byte. -/
def oneAttribute : CreateJoinRoomResponse :=
  { roomData := { binAttrsInternal := [{ attrId := 1, data := [7] }] } }

/-- No capacity is reserved for buffers. -/
theorem payloads_buffersMove : ¬∀ (growth : Nat → Nat)
    (p : JoinPayload Matching2Rooms.RoomMemberDataInternal) (resp : CreateJoinRoomResponse),
    JoinSafe growth memberData p resp ∧ Unmoved (reservedJoin resp p.storage.clear).binBuffers
      (buildCreateJoinRoomPayload growth p resp).1.storage.binBuffers := by
  intro safe
  have moves := (safe (fun n => 2 * n) {} oneAttribute).2.moves
  revert moves
  decide +kernel

end Matching2Payload
