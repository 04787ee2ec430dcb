import ShadNet.Rooms.ExternalRooms
import Mathlib.Data.List.Forall2
import Mathlib.Tactic.SplitIfs

/-!
# Pointers of external rooms

The reservation counts what the loop appends, so nothing moves while the rooms are filled, and what
each pointer led to when it was taken is still there at the end.
-/

namespace Matching2Payload

open NpSignaling (OrbisNpId OrbisNpOnlineId npIdNamed)
open Matching2Rooms (MatchingBinAttr MatchingRoomGroup)
open GrowArray

structure Storage.Stays (st st' : Storage) : Prop where
  owners : st.extOwnerNpids.Stays st'.extOwnerNpids
  groups : st.extRoomGroups.Stays st'.extRoomGroups
  ints : st.extIntAttrs.Stays st'.extIntAttrs
  bins : st.extBinAttrs.Stays st'.extBinAttrs
  buffers : st.binBuffers.Stays st'.binBuffers

/-- The storage has capacity for these rooms. -/
structure Storage.Room (st : Storage) (rooms : List MatchingRoomDataExternal) : Prop where
  owners : st.extOwnerNpids.elems.length + (rooms.map ownerCount).sum ≤ st.extOwnerNpids.capacity
  groups : st.extRoomGroups.elems.length + (rooms.map (fun r => r.groups.length)).sum ≤
    st.extRoomGroups.capacity
  ints : st.extIntAttrs.elems.length +
    (rooms.map (fun r => r.externalSearchIntAttrs.length)).sum ≤ st.extIntAttrs.capacity
  bins : st.extBinAttrs.elems.length + (rooms.map binAttrCount).sum ≤ st.extBinAttrs.capacity
  buffers : st.binBuffers.elems.length + (rooms.map binAttrCount).sum ≤ st.binBuffers.capacity

/-- A variant stores at most one name for an owner, and reads it back. -/
structure OwnerField.Sound {ω ν : Type} (field : OwnerField ω)
    (ownerOf : GrowArray OrbisNpId → ω → Option ν) (owner : MatchingRoomDataExternal → ν) :
    Prop where
  stores : ∀ growth r npids, npids.elems.length + ownerCount r ≤ npids.capacity →
    npids.Stays (field.store growth r npids).2 ∧
      (field.store growth r npids).2.elems.length ≤ npids.elems.length + ownerCount r ∧
      ownerOf (field.store growth r npids).2 (field.store growth r npids).1 = some (owner r)
  stable : ∀ {npids later o x}, npids.Stays later → ownerOf npids o = some x →
    ownerOf later o = some x

variable {growth : Nat → Nat} {st st' st'' : Storage} {r : MatchingRoomDataExternal}
  {rooms : List MatchingRoomDataExternal} {attrs : List MatchingBinAttr} {ω ν : Type}
  {field : OwnerField ω} {ownerOf : GrowArray OrbisNpId → ω → Option ν}
  {owner : MatchingRoomDataExternal → ν} {next : Option Place}

theorem Storage.Stays.refl (st : Storage) : st.Stays st :=
  ⟨.refl _, .refl _, .refl _, .refl _, .refl _⟩

theorem Storage.Stays.trans (first : st.Stays st') (second : st'.Stays st'') : st.Stays st'' :=
  ⟨first.owners.trans second.owners, first.groups.trans second.groups,
    first.ints.trans second.ints, first.bins.trans second.bins,
    first.buffers.trans second.buffers⟩

/-! ## Owners -/

theorem ownerNpId_sound : ownerNpId.Sound readOwner ownerOfReply where
  stores growth r npids room := by
    rw [ownerNpId, ownerOfReply]
    by_cases named : r.ownerNpid ≠ []
    · rw [ownerCount, if_pos named] at room
      have pushed : npids.push growth (npIdNamed r.ownerNpid) =
          npids.plus [npIdNamed r.ownerNpid] := push_plus (by omega)
      simp only [if_pos named, pushed, readOwner]
      refine ⟨stays_plus _ _, ?_, ?_⟩
      · rw [length_plus, ownerCount, if_pos named, List.length_singleton]
      · rw [back, place, GrowArray.read, if_pos rfl, length_plus, List.length_singleton,
          Nat.add_sub_cancel, plus, List.getElem?_concat_length, Option.map_some]
    · simp only [if_neg named, readOwner]
      exact ⟨.refl _, Nat.le_add_right _ _, trivial⟩
  stable stays found := by
    rename_i npids later o x
    cases o with
    | none => exact found
    | some p =>
      obtain ⟨name, there, rfl⟩ := Option.map_eq_some_iff.mp found
      exact Option.map_eq_some_iff.mpr ⟨name, stays.read there, rfl⟩

theorem ownerA_sound : ownerA.Sound readOwnerA ownerAOfReply where
  stores _ _ _ _ := ⟨.refl _, Nat.le_add_right _ _, rfl⟩
  stable _ found := found

/-! ## Binary attributes -/

def storedAttr (n : Nat) (a : MatchingBinAttr) : BinAttr :=
  ⟨a.attrId.toUInt16, if a.data = [] then none else some n, a.data.length⟩

/-- The attributes as they are stored, each in some struct, when the next buffer has number `n`. -/
def storedAs {τ : Type} (wrap : MatchingBinAttr → BinAttr → τ) (n : Nat) :
    List MatchingBinAttr → List τ
  | [] => []
  | a :: attrs => wrap a (storedAttr n a) :: storedAs wrap (n + 1) attrs

abbrev storedBinAttrs (n : Nat) (attrs : List MatchingBinAttr) : List BinAttr :=
  storedAs (fun _ b => b) n attrs

section Stored

variable {τ : Type} {wrap : MatchingBinAttr → BinAttr → τ}

theorem length_storedAs (n : Nat) : (storedAs wrap n attrs).length = attrs.length := by
  induction attrs generalizing n with
  | nil => rfl
  | cons a attrs ih => rw [storedAs, List.length_cons, List.length_cons, ih]

theorem storedAs_nil {n : Nat} : storedAs wrap n attrs = [] ↔ attrs = [] := by
  rw [← List.length_eq_zero_iff, length_storedAs, List.length_eq_zero_iff]

theorem storedAs_append (n : Nat) (more : List MatchingBinAttr) :
    storedAs wrap n attrs ++ storedAs wrap (n + attrs.length) more =
      storedAs wrap n (attrs ++ more) := by
  induction attrs generalizing n with
  | nil => rfl
  | cons a attrs ih =>
    rw [storedAs, List.cons_append, List.cons_append, storedAs, List.length_cons,
      Nat.add_comm attrs.length 1, ← Nat.add_assoc, ih]

/-- Stored attributes are read back wherever their buffers are. -/
theorem readBinAttr_stored {buffers : List (List UInt8)} {w : GrowArray (List UInt8)}
    (stays : buffers ++ attrs.map MatchingBinAttr.data <+: w.elems) :
    List.Forall₂ (fun s a => ∃ b, s = wrap a b ∧ readBinAttr w b = some (binAttrOf a))
      (storedAs wrap buffers.length attrs) attrs := by
  induction attrs generalizing buffers with
  | nil => exact .nil
  | cons a attrs ih =>
    have front : buffers ++ [a.data] <+: w.elems := by
      refine (List.prefix_append (buffers ++ [a.data]) (attrs.map MatchingBinAttr.data)).trans ?_
      rw [List.append_assoc]
      exact stays
    refine .cons ⟨_, rfl, ?_⟩ ?_
    · rw [readBinAttr, storedAttr]
      by_cases bare : a.data = []
      · simp only [bare, List.length_nil, if_pos, binAttrOf]
      · obtain ⟨more, split⟩ := front
        have found : w.elems[buffers.length]? = some a.data := by
          rw [← split, List.append_assoc, List.getElem?_append_right (Nat.le_refl _),
            Nat.sub_self]
          rfl
        simp only [if_neg bare, found, if_pos, binAttrOf]
    · have later : (buffers ++ [a.data]) ++ attrs.map MatchingBinAttr.data <+: w.elems := by
        rw [List.append_assoc]
        exact stays
      have rest := ih later
      rw [List.length_append, List.length_singleton] at rest
      exact rest

end Stored

/-- The storage with the attributes appended and nothing moved. -/
def Storage.withBins (attrs : List MatchingBinAttr) (st : Storage) : Storage :=
  { st with
    binBuffers := st.binBuffers.plus (attrs.map MatchingBinAttr.data)
    extBinAttrs := st.extBinAttrs.plus (storedBinAttrs st.binBuffers.elems.length attrs) }

theorem withBins_nil : st.withBins [] = st := by
  rw [Storage.withBins, List.map_nil, plus_nil, storedBinAttrs, storedAs, plus_nil]

theorem stays_withBins (attrs : List MatchingBinAttr) (st : Storage) :
    st.Stays (st.withBins attrs) :=
  ⟨.refl _, .refl _, .refl _, stays_plus _ _, stays_plus _ _⟩

theorem appendBinAttr_withBins {a : MatchingBinAttr}
    (bins : st.extBinAttrs.elems.length < st.extBinAttrs.capacity)
    (buffers : st.binBuffers.elems.length < st.binBuffers.capacity) :
    appendBinAttr growth a st = st.withBins [a] := by
  rw [appendBinAttr, push_plus buffers, push_plus bins, Storage.withBins, binAttrIn, length_plus,
    List.length_singleton, Nat.add_sub_cancel]
  rfl

theorem withBins_withBins (more : List MatchingBinAttr) :
    (st.withBins attrs).withBins more = st.withBins (attrs ++ more) := by
  simp only [Storage.withBins, plus_plus, ← List.map_append, length_plus, List.length_map,
    storedAs_append]

theorem buildBin_withBins
    (bins : st.extBinAttrs.elems.length + attrs.length ≤ st.extBinAttrs.capacity)
    (buffers : st.binBuffers.elems.length + attrs.length ≤ st.binBuffers.capacity) :
    buildBin growth attrs st = (st.withBins attrs,
      if attrs = [] then none else some (st.extBinAttrs.place st.extBinAttrs.elems.length),
      attrs.length) := by
  have run (attrs : List MatchingBinAttr) (st : Storage) (first : Option Place)
      (bins : st.extBinAttrs.elems.length + attrs.length ≤ st.extBinAttrs.capacity)
      (buffers : st.binBuffers.elems.length + attrs.length ≤ st.binBuffers.capacity) :
      attrs.foldl (fun s a => (appendBinAttr growth a s.1,
          s.2.or (some (appendBinAttr growth a s.1).extBinAttrs.back))) (st, first) =
        (st.withBins attrs, first.or (if attrs = [] then none
          else some (st.extBinAttrs.place st.extBinAttrs.elems.length))) := by
    induction attrs generalizing st first with
    | nil => rw [List.foldl_nil, withBins_nil, if_pos rfl, Option.or_none]
    | cons a attrs ih =>
      rw [List.length_cons] at bins buffers
      have appended : appendBinAttr growth a st = st.withBins [a] :=
        appendBinAttr_withBins (by omega) (by omega)
      have last : (st.withBins [a]).extBinAttrs.back =
          st.extBinAttrs.place st.extBinAttrs.elems.length := by
        rw [Storage.withBins, back, place, place, length_plus, length_storedAs,
          List.length_singleton, moves_plus, Nat.add_sub_cancel]
      rw [List.foldl_cons]
      dsimp only
      have more := ih (st.withBins [a]) (first.or (some (st.withBins [a]).extBinAttrs.back))
        (by simp only [Storage.withBins, length_plus, length_storedAs, capacity_plus,
              List.length_singleton]; omega)
        (by simp only [Storage.withBins, length_plus, List.length_map, capacity_plus,
              List.length_singleton]; omega)
      rw [appended, more, withBins_withBins, last, Option.or_assoc,
        if_neg (List.cons_ne_nil a attrs), Option.some_or, List.singleton_append]
  rw [buildBin, run attrs st none bins buffers, Option.none_or]

theorem readBinAttr_stays {v w : GrowArray (List UInt8)} {a : BinAttr}
    {x : Matching2Rooms.BinAttr} (stays : v.elems <+: w.elems)
    (found : readBinAttr v a = some x) : readBinAttr w a = some x := by
  rw [readBinAttr] at found ⊢
  cases data : a.data with
  | none => simpa only [data] using found
  | some buffer =>
    rw [data] at found
    dsimp only at found ⊢
    cases bytes : v.elems[buffer]? with
    | none =>
      rw [bytes] at found
      cases found
    | some bytes' =>
      obtain ⟨more, split⟩ := stays
      have inside := (List.getElem?_eq_some_iff.mp bytes).1
      rw [← split, List.getElem?_append_left inside]
      exact found

theorem mapM_some {α β : Type} {f : α → Option β} {l : List α} {l' : List β}
    (each : List.Forall₂ (fun a b => f a = some b) l l') : l.mapM f = some l' := by
  induction each with
  | nil => rfl
  | cons head tail ih =>
    rw [List.mapM_cons, head, ih]
    rfl

theorem mapM_stays {α β : Type} {f g : α → Option β} {l : List α} {x : List β}
    (stays : ∀ a b, f a = some b → g a = some b) (found : l.mapM f = some x) :
    l.mapM g = some x := by
  induction l generalizing x with
  | nil => exact found
  | cons a l ih =>
    rw [List.mapM_cons] at found ⊢
    obtain ⟨y, first, found⟩ := Option.bind_eq_some_iff.mp found
    obtain ⟨ys, rest, same⟩ := Option.bind_eq_some_iff.mp found
    rw [stays a y first, ih rest]
    exact same

theorem readBinAttrs_stays {p : Option Place} {n : Nat} {x : List Matching2Rooms.BinAttr}
    (stays : st.Stays st') (found : readBinAttrs st p n = some x) :
    readBinAttrs st' p n = some x := by
  obtain ⟨attrs, there, read⟩ := Option.bind_eq_some_iff.mp found
  refine Option.bind_eq_some_iff.mpr ⟨attrs, stays.bins.readMany there, ?_⟩
  exact mapM_stays (fun a b => readBinAttr_stays stays.buffers.elems) read

theorem readBinAttrs_withBins (st : Storage) (attrs : List MatchingBinAttr) :
    readBinAttrs (st.withBins attrs)
      (if attrs = [] then none else some (st.extBinAttrs.place st.extBinAttrs.elems.length))
      attrs.length = some (attrs.map binAttrOf) := by
  refine Option.bind_eq_some_iff.mpr
    ⟨storedBinAttrs st.binBuffers.elems.length attrs, ?_, ?_⟩
  · have found := readMany_plus st.extBinAttrs
      (storedBinAttrs st.binBuffers.elems.length attrs)
    rw [length_storedAs] at found
    simp only [storedAs_nil] at found
    exact found
  · have here : st.binBuffers.elems ++ attrs.map MatchingBinAttr.data <+:
        (st.withBins attrs).binBuffers.elems := List.prefix_refl _
    refine mapM_some (List.forall₂_map_right_iff.mpr ((readBinAttr_stored here).imp ?_))
    rintro s a ⟨b, rfl, read⟩
    exact read

/-! ## Rooms -/

/-- What a room was given, in the storage it was filled into. -/
theorem readRoom_stays {room : RoomDataExternal ω} {x : RoomRead ν}
    (sound : field.Sound ownerOf owner) (stays : st.Stays st')
    (found : readRoom ownerOf st room = some x) : readRoom ownerOf st' room = some x := by
  obtain ⟨a, owner, found⟩ := Option.bind_eq_some_iff.mp found
  obtain ⟨b, groups, found⟩ := Option.bind_eq_some_iff.mp found
  obtain ⟨c, ints, found⟩ := Option.bind_eq_some_iff.mp found
  obtain ⟨d, search, found⟩ := Option.bind_eq_some_iff.mp found
  obtain ⟨e, bins, same⟩ := Option.bind_eq_some_iff.mp found
  refine Option.bind_eq_some_iff.mpr ⟨a, sound.stable stays.owners owner, ?_⟩
  refine Option.bind_eq_some_iff.mpr ⟨b, stays.groups.readMany groups, ?_⟩
  refine Option.bind_eq_some_iff.mpr ⟨c, stays.ints.readMany ints, ?_⟩
  refine Option.bind_eq_some_iff.mpr ⟨d, readBinAttrs_stays stays search, ?_⟩
  exact Option.bind_eq_some_iff.mpr ⟨e, readBinAttrs_stays stays bins, same⟩

/-- The storage with all but the binary attributes of a room. -/
def Storage.withLists (r : MatchingRoomDataExternal) (npids : GrowArray OrbisNpId)
    (st : Storage) : Storage :=
  { st with
    extOwnerNpids := npids
    extRoomGroups := st.extRoomGroups.plus (r.groups.map roomGroupInfoOf)
    extIntAttrs := st.extIntAttrs.plus (r.externalSearchIntAttrs.map intAttrOf) }

/-- The storage with a whole room. -/
def Storage.withRoom (r : MatchingRoomDataExternal) (npids : GrowArray OrbisNpId) (st : Storage) :
    Storage :=
  ((st.withLists r npids).withBins r.externalSearchBinAttrs).withBins r.externalBinAttrs

/-- Where the elements of a list begin that are appended to an array. -/
def firstOf {α β : Type} (items : List α) (v : GrowArray β) : Option Place :=
  if items = [] then none else some (v.place v.elems.length)

theorem readMany_firstOf {α β : Type} {f : α → β} {items : List α} {v w : GrowArray β}
    (stays : (v.plus (items.map f)).Stays w) :
    w.readMany (firstOf items v) items.length = some (items.map f) := by
  have found := stays.readMany (readMany_plus v (items.map f))
  rw [List.length_map] at found
  simp only [List.map_eq_nil_iff] at found
  exact found

/-- With its capacity reserved, the result of filling a room is known outright. -/
theorem fillRoom_eq (room : st.Room (r :: rooms)) : fillRoom growth field next r st =
    ({ next := next
       fields := externalFieldsOf r
       owner := (field.store growth r st.extOwnerNpids).1
       roomGroup := firstOf r.groups st.extRoomGroups
       roomGroups := r.groups.length
       externalSearchIntAttr := firstOf r.externalSearchIntAttrs st.extIntAttrs
       externalSearchIntAttrs := r.externalSearchIntAttrs.length
       externalSearchBinAttr := firstOf r.externalSearchBinAttrs st.extBinAttrs
       externalSearchBinAttrs := r.externalSearchBinAttrs.length
       externalBinAttr :=
        firstOf r.externalBinAttrs (st.withBins r.externalSearchBinAttrs).extBinAttrs
       externalBinAttrs := r.externalBinAttrs.length },
      st.withRoom r (field.store growth r st.extOwnerNpids).2) := by
  obtain ⟨-, groups, ints, bins, buffers⟩ := room
  simp only [List.map_cons, List.sum_cons, binAttrCount] at groups ints bins buffers
  have groups' : st.extRoomGroups.elems.length + (r.groups.map roomGroupInfoOf).length ≤
      st.extRoomGroups.capacity := by
    rw [List.length_map]
    omega
  have ints' : st.extIntAttrs.elems.length + (r.externalSearchIntAttrs.map intAttrOf).length ≤
      st.extIntAttrs.capacity := by
    rw [List.length_map]
    omega
  generalize lists : st.withLists r (field.store growth r st.extOwnerNpids).2 = u
  have sameBins : u.extBinAttrs = st.extBinAttrs := by
    rw [← lists]
    rfl
  have sameBuffers : u.binBuffers = st.binBuffers := by
    rw [← lists]
    rfl
  have search : buildBin growth r.externalSearchBinAttrs u = (u.withBins r.externalSearchBinAttrs,
      firstOf r.externalSearchBinAttrs u.extBinAttrs, r.externalSearchBinAttrs.length) :=
    buildBin_withBins (by rw [sameBins]; omega) (by rw [sameBuffers]; omega)
  have ext : buildBin growth r.externalBinAttrs (u.withBins r.externalSearchBinAttrs) =
      ((u.withBins r.externalSearchBinAttrs).withBins r.externalBinAttrs,
        firstOf r.externalBinAttrs (u.withBins r.externalSearchBinAttrs).extBinAttrs,
        r.externalBinAttrs.length) := by
    refine buildBin_withBins ?_ ?_
    · simp only [Storage.withBins, length_plus, length_storedAs, capacity_plus, sameBins]
      omega
    · simp only [Storage.withBins, length_plus, List.length_map, capacity_plus, sameBuffers]
      omega
  have filled : fillRoom growth field next r st =
      ({ next := next
         fields := externalFieldsOf r
         owner := (field.store growth r st.extOwnerNpids).1
         roomGroup := firstOf (r.groups.map roomGroupInfoOf) st.extRoomGroups
         roomGroups := r.groups.length
         externalSearchIntAttr := firstOf (r.externalSearchIntAttrs.map intAttrOf) st.extIntAttrs
         externalSearchIntAttrs := r.externalSearchIntAttrs.length
         externalSearchBinAttr := (buildBin growth r.externalSearchBinAttrs u).2.1
         externalSearchBinAttrs := (buildBin growth r.externalSearchBinAttrs u).2.2
         externalBinAttr := (buildBin growth r.externalBinAttrs
          (buildBin growth r.externalSearchBinAttrs u).1).2.1
         externalBinAttrs := (buildBin growth r.externalBinAttrs
          (buildBin growth r.externalSearchBinAttrs u).1).2.2 },
        (buildBin growth r.externalBinAttrs (buildBin growth r.externalSearchBinAttrs u).1).1) := by
    rw [← lists, fillRoom, pushAll_plus growth _ _ groups', pushAll_plus growth _ _ ints']
    rfl
  rw [filled, search]
  dsimp only
  rw [ext, Storage.withRoom, lists]
  simp only [firstOf, List.map_eq_nil_iff, sameBins, sameBuffers, Storage.withBins]

theorem stays_withLists {npids : GrowArray OrbisNpId} (stays : st.extOwnerNpids.Stays npids) :
    st.Stays (st.withLists r npids) :=
  ⟨stays, stays_plus _ _, stays_plus _ _, .refl _, .refl _⟩

theorem stays_withRoom {npids : GrowArray OrbisNpId} (stays : st.extOwnerNpids.Stays npids) :
    st.Stays (st.withRoom r npids) :=
  ((stays_withLists stays).trans (stays_withBins _ _)).trans (stays_withBins _ _)

theorem room_withRoom {npids : GrowArray OrbisNpId} (room : st.Room (r :: rooms))
    (stays : st.extOwnerNpids.Stays npids)
    (count : npids.elems.length ≤ st.extOwnerNpids.elems.length + ownerCount r) :
    (st.withRoom r npids).Room rooms := by
  obtain ⟨owners, groups, ints, bins, buffers⟩ := room
  simp only [List.map_cons, List.sum_cons] at owners groups ints bins buffers
  have capacity := stays.capacity
  constructor
  · simp only [Storage.withRoom, Storage.withBins, Storage.withLists]
    omega
  · simp only [Storage.withRoom, Storage.withBins, Storage.withLists, length_plus,
      List.length_map, capacity_plus]
    omega
  · simp only [Storage.withRoom, Storage.withBins, Storage.withLists, length_plus,
      List.length_map, capacity_plus]
    omega
  · rw [binAttrCount] at bins
    simp only [Storage.withRoom, Storage.withBins, Storage.withLists, length_plus,
      length_storedAs, capacity_plus]
    omega
  · rw [binAttrCount] at buffers
    simp only [Storage.withRoom, Storage.withBins, Storage.withLists, length_plus,
      List.length_map, capacity_plus]
    omega

/-- A room reads as the reply says once it is filled. -/
theorem fillRoom_spec (growth : Nat → Nat) (next : Option Place)
    (sound : field.Sound ownerOf owner) (room : st.Room (r :: rooms)) :
    (fillRoom growth field next r st).1.next = next ∧
      st.Stays (fillRoom growth field next r st).2 ∧
      (fillRoom growth field next r st).2.Room rooms ∧
      readRoom ownerOf (fillRoom growth field next r st).2 (fillRoom growth field next r st).1 =
        some (roomOfReply owner r) := by
  have owners := room.owners
  rw [List.map_cons, List.sum_cons] at owners
  obtain ⟨stays, count, named⟩ := sound.stores growth r st.extOwnerNpids (by omega)
  rw [fillRoom_eq room]
  refine ⟨rfl, stays_withRoom stays, room_withRoom room stays count, ?_⟩
  generalize (field.store growth r st.extOwnerNpids).2 = npids at stays count named ⊢
  have filled : (st.withLists r npids).Stays (st.withRoom r npids) :=
    (stays_withBins _ _).trans (stays_withBins _ _)
  have searched : ((st.withLists r npids).withBins r.externalSearchBinAttrs).Stays
      (st.withRoom r npids) := stays_withBins _ _
  have search : readBinAttrs (st.withRoom r npids)
      (firstOf r.externalSearchBinAttrs st.extBinAttrs) r.externalSearchBinAttrs.length =
        some (r.externalSearchBinAttrs.map binAttrOf) :=
    readBinAttrs_stays searched (readBinAttrs_withBins (st.withLists r npids) _)
  have bins : readBinAttrs (st.withRoom r npids)
      (firstOf r.externalBinAttrs (st.withBins r.externalSearchBinAttrs).extBinAttrs)
      r.externalBinAttrs.length = some (r.externalBinAttrs.map binAttrOf) :=
    readBinAttrs_withBins ((st.withLists r npids).withBins r.externalSearchBinAttrs) _
  have groups := readMany_firstOf filled.groups
  have ints := readMany_firstOf filled.ints
  rw [readRoom]
  dsimp only
  have owner' : ownerOf (st.withRoom r npids).extOwnerNpids
      (field.store growth r st.extOwnerNpids).1 = some (owner r) := named
  rw [owner', groups, ints, search, bins]
  rfl

/-! ## Whole replies -/

/-- All that was appended fits in what was reserved, and nothing has moved. -/
structure Unmoved {α : Type} (before after : GrowArray α) : Prop where
  moves : after.moves = before.moves
  enough : after.elems.length ≤ before.capacity

structure Storage.Unmoved (before after : Storage) : Prop where
  owners : Matching2Payload.Unmoved before.extOwnerNpids after.extOwnerNpids
  groups : Matching2Payload.Unmoved before.extRoomGroups after.extRoomGroups
  ints : Matching2Payload.Unmoved before.extIntAttrs after.extIntAttrs
  bins : Matching2Payload.Unmoved before.extBinAttrs after.extBinAttrs
  buffers : Matching2Payload.Unmoved before.binBuffers after.binBuffers

theorem room_reserve (rooms : List MatchingRoomDataExternal) (st : Storage) :
    (reserveExternalRoomPayloadStorage rooms st.clear).Room rooms := by
  constructor
  all_goals
    simp only [reserveExternalRoomPayloadStorage, Storage.clear, reserve_elems, clear_elems,
      List.length_nil, Nat.zero_add]
    exact le_reserve_capacity _ _

theorem stays_unmoved (stays : st.Stays st') (room : st'.Room []) : st.Unmoved st' where
  owners := ⟨stays.owners.moves, stays.owners.capacity ▸ room.owners⟩
  groups := ⟨stays.groups.moves, stays.groups.capacity ▸ room.groups⟩
  ints := ⟨stays.ints.moves, stays.ints.capacity ▸ room.ints⟩
  bins := ⟨stays.bins.moves, stays.bins.capacity ▸ room.bins⟩
  buffers := ⟨stays.buffers.moves, stays.buffers.capacity ▸ room.buffers⟩

theorem fills_rooms (growth : Nat → Nat) (sound : field.Sound ownerOf owner) :
    Fills (fillRoom growth field) RoomDataExternal.next Storage.Stays Storage.Room
      (fun st dst r => readRoom ownerOf st dst = some (roomOfReply owner r)) where
  refl := .refl
  trans := .trans
  stable := readRoom_stays sound
  step next _ _ _ room := fillRoom_spec growth next sound room

/-- The rooms of a reply are read from the payload as they are in the reply. -/
theorem buildExternalRooms_spec (growth : Nat → Nat) (sound : field.Sound ownerOf owner)
    (rooms : List MatchingRoomDataExternal) (structs : GrowArray (RoomDataExternal ω))
    (st : Storage) :
    (reserveExternalRoomPayloadStorage rooms st.clear).Unmoved
        (buildExternalRooms growth field rooms structs.clear st.clear).2 ∧
      (buildExternalRooms growth field rooms structs.clear st.clear).1.moves =
        (structs.clear.resize rooms.length (blankRoom field)).moves ∧
      (buildExternalRooms growth field rooms structs.clear st.clear).1.elems.length =
        rooms.length ∧
      readRooms ownerOf (buildExternalRooms growth field rooms structs.clear st.clear).1
          (buildExternalRooms growth field rooms structs.clear st.clear).2
          (buildExternalRooms growth field rooms structs.clear st.clear).1.data =
        some (rooms.map (roomOfReply owner)) := by
  have count := length_resize_clear rooms.length (blankRoom field) structs
  have filled := fillLinked_reads (fills_rooms growth sound)
    (structs.clear.resize rooms.length (blankRoom field)) (room_reserve rooms st) count
  rw [← buildExternalRooms] at filled
  obtain ⟨stays, full, moves, length, reads, list⟩ := filled
  refine ⟨stays_unmoved stays full, moves, length, ?_⟩
  rw [readRooms, list, Option.bind_some]
  exact mapM_some (List.forall₂_map_right_iff.mpr reads)

end Matching2Payload
