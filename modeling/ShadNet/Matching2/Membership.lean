import ShadNet.Matching2.Dwellings

/-!
# The rooms a context is in

A context is told of its rooms by the replies to its requests and by the room
events. Its caches are to hold the room it was last told it is in. The handlers of
the replies keep to this; the events that put a context out of its room reach the
game and leave the caches as they are.
-/

namespace NpMatching2

open KeyedTable LockProgram NpSignaling Matching2State

/-! ## What a context is told -/

inductive RoomNews where
  | joined
  | left
  | kickedOut
  | destroyed
  deriving DecidableEq, Repr

structure Told where
  roomId : Nat
  news : RoomNews
  deriving DecidableEq, Repr

/-- The join of another room is an end of the stay where `moves` says so. -/
def Told.concerns (moves : Bool) (roomId : Nat) (told : Told) : Bool :=
  told.roomId = roomId || (moves && told.news = .joined)

/-- The last of what concerns the room is that it was joined. -/
def InRoom (moves : Bool) (roomId : Nat) (history : List Told) : Prop :=
  (history.filter (Told.concerns moves roomId)).getLast? = some ⟨roomId, .joined⟩

instance (moves : Bool) (roomId : Nat) (history : List Told) :
    Decidable (InRoom moves roomId history) :=
  inferInstanceAs (Decidable (_ = _))

def replyTold (reqEvent : Matching2Event) (errorCode : UInt32) (body : ReplyBody) : Option Told :=
  if errorCode ≠ 0 then none
  else if isJoinEvent reqEvent then body.details.map (fun details => ⟨details.roomId, .joined⟩)
  else if reqEvent = .leaveRoom then body.leftRoom.map (fun roomId => ⟨roomId, .left⟩)
  else none

def eventTold (n : NotifyRoomEvent) : Option Told :=
  match n.event with
  | .kickedOut => some ⟨n.roomId, .kickedOut⟩
  | .roomDestroyed => some ⟨n.roomId, .destroyed⟩
  | _ => none

/-- The context in the slot is the object. -/
def Occupies (object ctxId : Nat) (s : Matching2State) : Prop :=
  (s.context? ctxId).map (·.object) = some object

instance (object ctxId : Nat) (s : Matching2State) : Decidable (Occupies object ctxId s) :=
  inferInstanceAs (Decidable (_ = _))

/-- What an operation tells the context behind the object. -/
def toldBy (object : Nat) (op : Op) (s : Matching2State) : Option Told :=
  match op with
  | .reply pktId errorCode body _ =>
    (s.pending? pktId).bind (fun pr =>
      if Occupies object pr.ctxId s then replyTold pr.reqEvent errorCode body else none)
  | .roomEvent n _ => if Occupies object n.ctxId s then eventTold n else none
  | _ => none

/-- The library, and what one context object has been told so far. -/
structure Watched where
  mm : Matching2State := {}
  history : List Told := []

def Watched.step (object : Nat) (op : Op) (w : Watched) : Watched :=
  { mm := op.complete w.mm
    history := w.history ++ (toldBy object op w.mm).toList }

/-- The cached rooms are those the context is in, the context names the room it is in and no other,
and every peer entry is of a member of one. -/
structure CachesRooms (moves : Bool) (history : List Told) (roomId : Nat)
    (cache : Matching2ContextCache) : Prop where
  cached : ∀ room, roomCached room cache = true ↔ InRoom moves room history
  named : ∀ room, InRoom moves room history → roomId = room
  names : roomId ≠ 0 → InRoom moves roomId history
  peers : ∀ peer ∈ cache.peers, ∃ room ∈ cache.rooms, InRoom moves room.roomId history ∧
    ∃ member ∈ room.members, member.memberId = peer.memberId

/-- As long as the object is in a slot, its caches are right. -/
def RoomsRight (moves : Bool) (object : Nat) (w : Watched) : Prop :=
  ∀ ctxId ctx, w.mm.context? ctxId = some ctx → ctx.object = object →
    CachesRooms moves w.history ctx.roomId (w.mm.cache ctxId)

/-- What the caches can follow: a context is not put out of the room it is in, and joins another
one only where that ends its stay in a room with an id. -/
def Told.followed (moves : Bool) (history : List Told) (told : Told) : Prop :=
  match told.news with
  | .joined => ∀ room, InRoom moves room history → room = told.roomId ∨ (moves = true ∧ room ≠ 0)
  | .left => True
  | .kickedOut | .destroyed => ¬InRoom moves told.roomId history

def NewsFollowed (moves : Bool) (object : Nat) (op : Op) (w : Watched) : Prop :=
  ∀ told ∈ toldBy object op w.mm, told.followed moves w.history

/-! ## The history -/

theorem inRoom_nil (moves : Bool) (roomId : Nat) : ¬InRoom moves roomId [] := by
  simp [InRoom]

theorem inRoom_concat (moves : Bool) (roomId : Nat) (history : List Told) (told : Told) :
    InRoom moves roomId (history ++ [told]) ↔
      if told.concerns moves roomId then told = ⟨roomId, .joined⟩
      else InRoom moves roomId history := by
  unfold InRoom
  rw [List.filter_append]
  by_cases concerned : told.concerns moves roomId
  · simp [concerned]
  · simp [concerned]

/-- The join of a room. -/
theorem inRoom_joined (moves : Bool) (roomId joined : Nat) (history : List Told) :
    InRoom moves roomId (history ++ [⟨joined, .joined⟩]) ↔
      roomId = joined ∨ (moves = false ∧ InRoom moves roomId history) := by
  rw [inRoom_concat]
  by_cases same : joined = roomId
  · simp [Told.concerns, same]
  · cases moves <;> simp [Told.concerns, same, Ne.symm same, eq_comm]

/-- The end of a stay. -/
theorem inRoom_ended (moves : Bool) (roomId : Nat) (history : List Told) {told : Told}
    (ended : told.news ≠ .joined) :
    InRoom moves roomId (history ++ [told]) ↔
      told.roomId ≠ roomId ∧ InRoom moves roomId history := by
  rw [inRoom_concat]
  by_cases same : told.roomId = roomId
  · have other : told ≠ ⟨roomId, .joined⟩ := fun equal => ended (congrArg Told.news equal)
    simp [Told.concerns, same, other]
  · simp [Told.concerns, same, ended]

/-! ## Right caches -/

/-- `CachesRooms`, and a room is cached once. -/
structure Sound (moves : Bool) (history : List Told) (roomId : Nat)
    (cache : Matching2ContextCache) : Prop extends CachesRooms moves history roomId cache where
  distinct : Distinct RoomCache.roomId cache.rooms

section Sound

variable {moves : Bool} {history history' : List Told} {roomId : Nat}
  {cache cache' : Matching2ContextCache}

theorem roomCached_of_mem {room : RoomCache} (member : room ∈ cache.rooms) :
    roomCached room.roomId cache = true := by
  unfold roomCached
  cases found : lookup RoomCache.roomId room.roomId cache.rooms with
  | none => exact absurd rfl (lookup_none.mp found room member)
  | some other => rfl

/-- The peer entries are of members of rooms the context is in once they are of cached ones. -/
theorem sound_of_members (distinct : Distinct RoomCache.roomId cache.rooms)
    (cached : ∀ room, roomCached room cache = true ↔ InRoom moves room history)
    (named : ∀ room, InRoom moves room history → roomId = room)
    (names : roomId ≠ 0 → InRoom moves roomId history)
    (members : ∀ peer ∈ cache.peers, cache.HasMember peer.memberId) :
    Sound moves history roomId cache where
  cached := cached
  named := named
  names := names
  peers := by
    intro peer among
    obtain ⟨room, ofRooms, member⟩ := members peer among
    exact ⟨room, ofRooms, (cached room.roomId).mp (roomCached_of_mem ofRooms), member⟩
  distinct := distinct

theorem Sound.members (sound : Sound moves history roomId cache) :
    ∀ peer ∈ cache.peers, cache.HasMember peer.memberId := by
  intro peer among
  obtain ⟨room, ofRooms, -, member⟩ := sound.peers peer among
  exact ⟨room, ofRooms, member⟩

theorem Sound.housed {ctxId : Nat} {s : NpSignalingState}
    (sound : Sound moves history roomId (s.cache ctxId)) : Housed ctxId (s.cache ctxId).rooms s :=
  ⟨rfl, sound.members⟩

theorem Sound.of_housed {ctxId : Nat} {s : NpSignalingState}
    (sound : Sound moves history roomId cache) (housed : Housed ctxId cache.rooms s) :
    Sound moves history roomId (s.cache ctxId) := by
  have rooms := housed.rooms
  refine sound_of_members (by rw [rooms]; exact sound.distinct) ?_ sound.named sound.names
    housed.peers
  intro room
  rw [← sound.cached room, roomCached, roomCached, rooms]

theorem Sound.congr (sound : Sound moves history roomId cache)
    (same : ∀ room, InRoom moves room history' ↔ InRoom moves room history) :
    Sound moves history' roomId cache := by
  refine sound_of_members sound.distinct ?_ ?_ ?_ sound.members
  · exact fun room => (sound.cached room).trans (same room).symm
  · exact fun room inRoom => sound.named room ((same room).mp inRoom)
  · exact fun named => (same roomId).mpr (sound.names named)

theorem sound_fresh (moves : Bool) (ctxId : Nat) : Sound moves [] 0 { ctxId } := by
  refine sound_of_members List.nodup_nil ?_ ?_ (absurd rfl) ?_
  · exact fun room => iff_of_false Bool.false_ne_true (inRoom_nil moves room)
  · exact fun room inRoom => absurd inRoom (inRoom_nil moves room)
  · exact fun peer among => absurd among List.not_mem_nil

/-! ### Joins -/

theorem mem_storeMembers {id : Nat} (members table : List MemberCache) :
    (∃ member ∈ members.foldl
        (fun table member => store MemberCache.memberId member table) table,
      member.memberId = id) ↔
      (∃ member ∈ table, member.memberId = id) ∨ ∃ member ∈ members, member.memberId = id := by
  induction members generalizing table with
  | nil => simp
  | cons member rest ih =>
    rw [List.foldl_cons, ih]
    constructor
    · rintro (⟨old, among, named⟩ | ⟨later, among, named⟩)
      · rcases mem_store.mp among with ⟨before, -⟩ | rfl
        · exact Or.inl ⟨old, before, named⟩
        · exact Or.inr ⟨old, List.mem_cons_self .., named⟩
      · exact Or.inr ⟨later, List.mem_cons_of_mem _ among, named⟩
    · rintro (⟨old, before, named⟩ | ⟨later, among, named⟩)
      · by_cases replaced : old.memberId = member.memberId
        · exact Or.inl ⟨member, mem_store.mpr (Or.inr rfl), replaced.symm.trans named⟩
        · exact Or.inl ⟨old, mem_store.mpr (Or.inl ⟨before, replaced⟩), named⟩
      · rcases List.mem_cons.mp among with rfl | among
        · exact Or.inl ⟨later, mem_store.mpr (Or.inr rfl), named⟩
        · exact Or.inr ⟨later, among, named⟩

theorem mem_storePeers (self : Nat) (members : List MemberCache) {table : List PeerInfo}
    {peer : PeerInfo} (among : peer ∈ members.foldl (fun table member =>
      if member.memberId ≠ self then store PeerInfo.memberId (newPeer member) table
      else table) table) :
    peer ∈ table ∨ ∃ member ∈ members, member.memberId = peer.memberId := by
  induction members generalizing table with
  | nil => exact Or.inl among
  | cons member rest ih =>
    rcases ih among with stored | ⟨later, known, named⟩
    · dsimp only at stored
      split at stored
      · rcases mem_store.mp stored with ⟨before, -⟩ | rfl
        · exact Or.inl before
        · exact Or.inr ⟨member, List.mem_cons_self .., rfl⟩
      · exact Or.inl stored
    · exact Or.inr ⟨later, List.mem_cons_of_mem _ known, named⟩

theorem joinedPeers_members {self : Nat} {members : List MemberCache} {peer : PeerInfo}
    (among : peer ∈ joinedPeers self members) :
    ∃ member ∈ joinedMembers members, member.memberId = peer.memberId := by
  rcases mem_storePeers self members among with before | known
  · cases before
  · exact (mem_storeMembers members []).mpr (Or.inr known)

theorem roomCached_joinedRooms (details : RoomDetails) (room : Nat) :
    roomCached room { cache with rooms := joinedRooms roomId details cache.rooms } = true ↔
      room = details.roomId ∨ (roomCached room cache = true ∧
        ¬(roomId ≠ 0 ∧ roomId ≠ details.roomId ∧ room = roomId)) := by
  unfold roomCached joinedRooms
  dsimp only
  rw [lookup_store]
  by_cases joined : room = details.roomId
  · simp [joined]
  · rw [if_neg joined]
    have elsewhere : ∀ {p : Prop}, room = details.roomId ∨ p ↔ p := by
      intro p
      exact ⟨fun h => h.resolve_left joined, Or.inr⟩
    rw [elsewhere]
    split
    · rename_i moved
      rw [lookup_remove]
      by_cases same : room = roomId
      · rw [if_pos same]
        refine iff_of_false Bool.false_ne_true ?_
        exact fun kept => kept.2 ⟨moved.1, moved.2, same⟩
      · rw [if_neg same]
        exact ⟨fun found => ⟨found, fun evicted => same evicted.2.2⟩, And.left⟩
    · rename_i stayed
      exact ⟨fun found => ⟨found, fun evicted => stayed ⟨evicted.1, evicted.2.1⟩⟩, And.left⟩

/-- The peer entries of a join are of members of its room. -/
theorem joined_members (details : RoomDetails) :
    ∀ peer ∈ joinedPeers details.meMemberId details.members,
      ({ cache with
          rooms := joinedRooms roomId details cache.rooms
          peers := joinedPeers details.meMemberId details.members } :
        Matching2ContextCache).HasMember peer.memberId := by
  intro peer among
  refine ⟨_, mem_store.mpr (Or.inr rfl), ?_⟩
  exact joinedPeers_members among

/-- A join that the caches can follow leaves them right. -/
theorem Sound.joined (sound : Sound moves history roomId cache) (details : RoomDetails)
    (followed : Told.followed moves history ⟨details.roomId, .joined⟩) :
    Sound moves (history ++ [⟨details.roomId, .joined⟩]) details.roomId
      { cache with
        rooms := joinedRooms roomId details cache.rooms
        peers := joinedPeers details.meMemberId details.members } := by
  refine sound_of_members ?_ ?_ ?_ (fun _ => (inRoom_joined ..).mpr (Or.inl rfl))
    (joined_members details)
  · unfold joinedRooms
    dsimp only
    split
    · exact sound.distinct.remove.store
    · exact sound.distinct.store
  · intro room
    rw [inRoom_joined]
    refine (roomCached_joinedRooms details room).trans ?_
    by_cases same : room = details.roomId
    · exact iff_of_true (Or.inl same) (Or.inl same)
    · -- no other room can be left over: the context was in none, or in one that is evicted
      refine iff_of_false ?_ ?_
      · rintro (here | ⟨cached, kept⟩)
        · exact same here
        · have inRoom := (sound.cached room).mp cached
          have name := sound.named room inRoom
          rcases followed room inRoom with here | ⟨-, nonzero⟩
          · exact same here
          · exact kept ⟨name ▸ nonzero, fun here => same (name.symm.trans here), name.symm⟩
      · rintro (here | ⟨stays, inRoom⟩)
        · exact same here
        · rcases followed room inRoom with here | ⟨moved, -⟩
          · exact same here
          · exact Bool.false_ne_true (stays.symm.trans moved)
  · intro room inRoom
    rcases (inRoom_joined ..).mp inRoom with same | ⟨stays, before⟩
    · exact same.symm
    · rcases followed room before with same | ⟨moved, -⟩
      · exact same.symm
      · exact absurd (stays.symm.trans moved) Bool.false_ne_true

/-! ### Ends -/

/-- The reply to a leave of the room the context names clears its caches. -/
theorem Sound.left (sound : Sound moves history roomId cache) :
    Sound moves (history ++ [⟨roomId, .left⟩]) 0
      { cache with rooms := remove RoomCache.roomId roomId cache.rooms, peers := [] } := by
  have ended : ∀ room, InRoom moves room (history ++ [⟨roomId, .left⟩]) ↔
      roomId ≠ room ∧ InRoom moves room history :=
    fun room => inRoom_ended moves room history RoomNews.noConfusion
  refine sound_of_members sound.distinct.remove ?_ ?_ (absurd rfl) ?_
  · intro room
    rw [ended, ← sound.cached room]
    unfold roomCached
    dsimp only
    rw [lookup_remove]
    by_cases same : room = roomId
    · simp [same]
    · simp [same, Ne.symm same]
  · intro room inRoom
    obtain ⟨other, before⟩ := (ended room).mp inRoom
    exact absurd (sound.named room before) other
  · exact fun peer among => absurd among List.not_mem_nil

/-- News of a room the context is not in changes nothing. -/
theorem Sound.unaffected (sound : Sound moves history roomId cache) {told : Told}
    (ended : told.news ≠ .joined) (outside : ¬InRoom moves told.roomId history) :
    Sound moves (history ++ [told]) roomId cache := by
  refine sound.congr (fun room => ?_)
  rw [inRoom_ended moves room history ended]
  refine and_iff_right_of_imp ?_
  rintro inRoom rfl
  exact outside inRoom

/-! ### Members that come and go -/

/-- The room is stored in the place of the cached one of its id. -/
theorem setRoom_rooms (room : RoomCache) (cache : Matching2ContextCache) :
    (setRoom room cache).rooms =
      adjust RoomCache.roomId room.roomId
        (fun old => if old.roomId = room.roomId then room else old) cache.rooms := by
  simp only [setRoom, adjust]
  refine List.map_congr_left (fun old _ => ?_)
  split <;> rfl

theorem setRoom_keeps (room old : RoomCache) :
    (if old.roomId = room.roomId then room else old).roomId = old.roomId := by
  split
  · rename_i same
    exact same.symm
  · rfl

theorem roomCached_setRoom (room : RoomCache) (id : Nat) (peers : List PeerInfo) :
    roomCached id { setRoom room cache with peers } = roomCached id cache := by
  unfold roomCached
  dsimp only
  rw [setRoom_rooms, lookup_adjust (setRoom_keeps room), Option.isSome_map]

/-- The members of a cached room change, and the peer entries with them. -/
theorem Sound.setMembers (sound : Sound moves history roomId cache) {room room' : RoomCache}
    {peers : List PeerInfo} (member : room ∈ cache.rooms) (same : room'.roomId = room.roomId)
    (members : ∀ peer ∈ peers, (∃ m ∈ room'.members, m.memberId = peer.memberId) ∨
      (peer ∈ cache.peers ∧ ((∃ m ∈ room.members, m.memberId = peer.memberId) →
        ∃ m ∈ room'.members, m.memberId = peer.memberId))) :
    Sound moves history roomId { setRoom room' cache with peers } := by
  have stored : room' ∈ (setRoom room' cache).rooms :=
    mem_adjust.mpr ⟨room, member, if_pos same.symm⟩
  refine sound_of_members ?_ ?_ sound.named sound.names ?_
  · dsimp only
    rw [setRoom_rooms]
    exact sound.distinct.adjust (setRoom_keeps room')
  · intro id
    rw [roomCached_setRoom]
    exact sound.cached id
  · intro peer among
    rcases members peer among with here | ⟨old, stays⟩
    · exact ⟨room', stored, here⟩
    · obtain ⟨home, known, known'⟩ := sound.members peer old
      by_cases here : home.roomId = room.roomId
      · obtain rfl := sound.distinct.eq_of_key known member here
        exact ⟨room', stored, stays known'⟩
      · refine ⟨home, ?_, known'⟩
        dsimp only
        rw [setRoom_rooms]
        exact mem_adjust_other known (by rw [same]; exact here)

theorem Sound.memberJoined (sound : Sound moves history roomId cache) {room : RoomCache}
    (found : room ∈ cache.rooms) (member : MemberCache) :
    Sound moves history roomId (memberJoinedCache member room cache) := by
  refine sound.setMembers found rfl ?_
  intro peer among
  rcases mem_store.mp among with ⟨old, -⟩ | rfl
  · refine Or.inr ⟨old, ?_⟩
    rintro ⟨m, known, named⟩
    by_cases replaced : m.memberId = member.memberId
    · exact ⟨member, mem_store.mpr (Or.inr rfl), replaced.symm.trans named⟩
    · exact ⟨m, mem_store.mpr (Or.inl ⟨known, replaced⟩), named⟩
  · exact Or.inl ⟨member, mem_store.mpr (Or.inr rfl), rfl⟩

theorem Sound.memberLeft (sound : Sound moves history roomId cache) {room : RoomCache}
    (found : room ∈ cache.rooms) (memberId : Nat) :
    Sound moves history roomId (memberLeftCache memberId room cache) := by
  refine sound.setMembers found rfl ?_
  intro peer among
  obtain ⟨old, other⟩ := mem_remove.mp among
  refine Or.inr ⟨old, ?_⟩
  rintro ⟨m, known, named⟩
  exact ⟨m, mem_remove.mpr ⟨known, named ▸ other⟩, named⟩

end Sound

/-! ## The handlers -/

/-- One context has a new cache and names a room; the others are where they were. -/
structure Rehoused (ctx : ContextObject) (roomId : Nat) (cache : Matching2ContextCache)
    (s s' : Matching2State) : Prop where
  made : s'.contexts.length = s.contexts.length
  dwellings : ∀ d ∈ s'.dwellings, d.live →
    (d.object ≠ ctx.object ∧ d ∈ s.dwellings ∧ s'.np.cache d.ctxId = s.np.cache d.ctxId) ∨
      (d.object = ctx.object ∧ d.ctxId = ctx.ctxId ∧ d.roomId = roomId)
  cached : s'.np.cache ctx.ctxId = cache

section Rehoused

variable {s s' : Matching2State} {ctx : ContextObject} {ctxId roomId : Nat}
  {cache : Matching2ContextCache}

theorem objects_distinct (inc : Incarnated s.registry) :
    Distinct ContextObject.object s.contexts := by
  have names := inc.distinct
  simp only [Distinct, registry, List.map_map] at names
  exact names

theorem object?_of_context (inc : Incarnated s.registry) (found : s.context? ctxId = some ctx) :
    s.object? ctx.object = some ctx :=
  (objects_distinct inc).lookup_of_mem (context?_some found).1

theorem rehoused_set (inc : Incarnated s.registry) (found : s.context? ctxId = some ctx)
    (roomId : Nat) (own : cache.ctxId = ctx.ctxId) {f : ContextObject → ContextObject}
    (moves : ∀ c, (f c).dwelling = { c.dwelling with roomId }) :
    Rehoused ctx roomId cache s ((s.setCache cache).adjustObject ctx.object f) := by
  have apart := apart_of_incarnated inc
  obtain ⟨here, live, -⟩ := dwelling_of_context found
  have cached : ∀ id, ((s.setCache cache).adjustObject ctx.object f).np.cache id =
      if id = cache.ctxId then cache else s.np.cache id := fun id => cache_store cache
  refine ⟨List.length_map _, ?_, by rw [cached, if_pos own.symm]⟩
  intro d among alive
  obtain ⟨other, marked, rfl⟩ := List.mem_map.mp among
  obtain ⟨old, known, rfl⟩ := List.mem_map.mp marked
  by_cases named : old.object = ctx.object
  · rw [if_pos named, moves]
    obtain rfl := (objects_distinct inc).eq_of_key known (context?_some found).1 named
    exact Or.inr ⟨rfl, rfl, rfl⟩
  · rw [if_neg named] at alive ⊢
    have before : old.dwelling ∈ s.dwellings := List.mem_map_of_mem known
    refine Or.inl ⟨named, before, ?_⟩
    have elsewhere : old.ctxId ≠ cache.ctxId := by
      intro same
      have equal := apart old.dwelling before ctx.dwelling here alive live (same.trans own)
      exact named (congrArg Dwelling.object equal)
    rw [cached]
    exact if_neg elsewhere

/-- Only the cache changes. -/
theorem rehoused_setCache (inc : Incarnated s.registry) (found : s.context? ctxId = some ctx)
    (own : cache.ctxId = ctx.ctxId) : Rehoused ctx ctx.roomId cache s (s.setCache cache) := by
  have apart := apart_of_incarnated inc
  obtain ⟨here, live, -⟩ := dwelling_of_context found
  have cached : ∀ id, (s.setCache cache).np.cache id =
      if id = cache.ctxId then cache else s.np.cache id := fun id => cache_store cache
  refine ⟨rfl, ?_, by rw [cached, if_pos own.symm]⟩
  intro d among alive
  have before : d ∈ s.dwellings := among
  by_cases same : d.ctxId = ctx.ctxId
  · obtain rfl := apart d before ctx.dwelling here alive live same
    exact Or.inr ⟨rfl, rfl, rfl⟩
  · refine Or.inl ⟨fun named => ?_, before, by rw [cached, own, if_neg same]⟩
    obtain ⟨old, known, rfl⟩ := List.mem_map.mp before
    obtain rfl := (objects_distinct inc).eq_of_key known (context?_some found).1 named
    exact same rfl

end Rehoused

/-- What is known of the object between two operations, whether it is in its slot or not. -/
structure Settled (moves : Bool) (object : Nat) (history : List Told) (s : Matching2State) :
    Prop where
  sound : ∀ d ∈ s.dwellings, d.live → d.object = object →
    Sound moves history d.roomId (s.np.cache d.ctxId)
  unborn : s.contexts.length ≤ object → history = []

section Settled

variable {moves : Bool} {object : Nat} {history history' : List Told} {s s' : Matching2State}
  {ctx : ContextObject} {ctxId roomId : Nat} {cache : Matching2ContextCache}

theorem Settled.right (settled : Settled moves object history s) :
    RoomsRight moves object ⟨s, history⟩ := by
  rintro ctxId ctx found same
  obtain ⟨member, live, named⟩ := dwelling_of_context found
  have sound := settled.sound ctx.dwelling member live same
  rw [← named]
  exact sound.toCachesRooms

theorem Settled.of_context (settled : Settled moves object history s)
    (found : s.context? ctxId = some ctx) (own : ctx.object = object) :
    Sound moves history ctx.roomId (s.np.cache ctx.ctxId) := by
  obtain ⟨member, live, -⟩ := dwelling_of_context found
  exact settled.sound ctx.dwelling member live own

theorem Settled.tidy (settled : Settled moves object history s) (tidy : Tidy s s') :
    Settled moves object history s' where
  sound d member live own := by
    have sound := settled.sound d (tidy.stays d member live) live own
    exact sound.of_housed (tidy.housed d member live _ sound.housed)
  unborn absent := settled.unborn (tidy.made ▸ absent)

theorem known_of_context (inc : Incarnated s.registry) (found : s.context? ctxId = some ctx) :
    ctx.object < s.contexts.length := by
  have bound := inc.object_lt (lives_of_context found).1
  simp only [registry, List.length_map] at bound
  exact bound

theorem Settled.rehoused (settled : Settled moves object history s)
    (inc : Incarnated s.registry) (found : s.context? ctxId = some ctx)
    (rehoused : Rehoused ctx roomId cache s s')
    (own : ctx.object = object → Sound moves history' roomId cache)
    (other : ctx.object ≠ object → history' = history) : Settled moves object history' s' where
  sound d member live mine := by
    rcases rehoused.dwellings d member live with ⟨elsewhere, before, same⟩ | ⟨here, slot, named⟩
    · rw [same, other (fun equal => elsewhere (mine.trans equal.symm))]
      exact settled.sound d before live mine
    · rw [slot, named, rehoused.cached]
      exact own (here.symm.trans mine)
  unborn absent := by
    have known := known_of_context inc found
    rw [rehoused.made] at absent
    have another : ctx.object ≠ object := by omega
    rw [other another]
    exact settled.unborn absent

/-- The news is of a room the context is not in. -/
theorem Settled.news (settled : Settled moves object history s) (known : object < s.contexts.length)
    {told : Told} (ended : told.news ≠ .joined) (outside : ¬InRoom moves told.roomId history) :
    Settled moves object (history ++ [told]) s where
  sound d member live own := (settled.sound d member live own).unaffected ended outside
  unborn absent := absurd known (by omega)

/-- What the handler of something that came in for a context tells the object. -/
def tells (object : Nat) (ctx : ContextObject) (told : Option Told) : Option Told :=
  if ctx.object = object then told else none

/-! ### Replies -/

theorem build_joined (inc : Incarnated s.registry) (found : s.context? ctxId = some ctx)
    (details : RoomDetails) :
    Rehoused ctx details.roomId
      { s.cache ctx.ctxId with
        rooms := joinedRooms ctx.roomId details (s.cache ctx.ctxId).rooms
        peers := joinedPeers details.meMemberId details.members }
      s (buildCreateJoinRoomPayloadCommon ctx.object details s) := by
  unfold buildCreateJoinRoomPayloadCommon
  rw [object?_of_context inc found]
  refine rehoused_set inc found details.roomId ?_ ?_
  · exact cache_ctxId ctx.ctxId s.np
  · exact fun _ => rfl

theorem Settled.joined (settled : Settled moves object history s)
    (inc : Incarnated s.registry) (found : s.context? ctxId = some ctx) {details : RoomDetails}
    (followed : ∀ told ∈ tells object ctx (some ⟨details.roomId, .joined⟩),
      told.followed moves history) :
    Settled moves object
      (history ++ (tells object ctx (some ⟨details.roomId, .joined⟩)).toList)
      (buildCreateJoinRoomPayloadCommon ctx.object details s) := by
  refine settled.rehoused inc found (build_joined inc found details) ?_ ?_
  · intro own
    have told : tells object ctx (some ⟨details.roomId, .joined⟩) =
        some ⟨details.roomId, .joined⟩ := if_pos own
    rw [told] at followed ⊢
    exact (settled.of_context found own).joined details (followed _ rfl)
  · intro other
    rw [tells, if_neg other]
    exact List.append_nil history

theorem Settled.left (settled : Settled moves object history s)
    (inc : Incarnated s.registry) (found : s.context? ctxId = some ctx) (roomId : Nat) :
    Settled moves object (history ++ (tells object ctx (some ⟨roomId, .left⟩)).toList)
      (buildLeaveRoomPayload ctx.object roomId s) := by
  unfold buildLeaveRoomPayload
  rw [object?_of_context inc found]
  dsimp only
  by_cases here : ctx.roomId = roomId
  · rw [if_pos here]
    refine settled.rehoused inc found (rehoused_set inc found 0 ?_ ?_) ?_ ?_
    · exact cache_ctxId ctx.ctxId s.np
    · exact fun _ => rfl
    · intro own
      rw [tells, if_pos own, ← here]
      exact (settled.of_context found own).left
    · intro other
      rw [tells, if_neg other]
      exact List.append_nil history
  · rw [if_neg here]
    unfold tells
    by_cases own : ctx.object = object
    · rw [if_pos own]
      refine settled.news (own ▸ known_of_context inc found) RoomNews.noConfusion ?_
      exact fun inRoom => here ((settled.of_context found own).named roomId inRoom)
    · rw [if_neg own]
      exact (List.append_nil history).symm ▸ settled

/-- What `buildRequestData` does to the library is what the reply tells. -/
theorem buildRequestData_cases (ctx : ContextObject) (pr : PendingRequest) (errorCode : UInt32)
    (body : ReplyBody) (s : Matching2State) :
    let s' := ((buildRequestData ctx pr errorCode body).exec s).2
    (replyTold pr.reqEvent errorCode body = none ∧ s' = s) ∨
      (∃ details, replyTold pr.reqEvent errorCode body = some ⟨details.roomId, .joined⟩ ∧
        s' = buildCreateJoinRoomPayloadCommon ctx.object details s) ∨
      ∃ roomId, replyTold pr.reqEvent errorCode body = some ⟨roomId, .left⟩ ∧
        s' = buildLeaveRoomPayload ctx.object roomId
          ((queueMatching2DeadForRoomPeers ctx roomId).exec s).2 := by
  dsimp only
  unfold buildRequestData replyTold
  by_cases failed : errorCode ≠ 0
  · simp only [if_pos failed]
    exact Or.inl ⟨trivial, rfl⟩
  · simp only [if_neg failed]
    cases joins : isJoinEvent pr.reqEvent with
    | true =>
      simp only [if_true]
      cases body.details with
      | none => exact Or.inl ⟨rfl, rfl⟩
      | some details => exact Or.inr (Or.inl ⟨details, rfl, rfl⟩)
    | false =>
      simp only [Bool.false_eq_true, if_false]
      by_cases leaves : pr.reqEvent = .leaveRoom
      · simp only [if_pos leaves]
        cases body.leftRoom with
        | none => exact Or.inl ⟨rfl, rfl⟩
        | some roomId =>
          refine Or.inr (Or.inr ⟨roomId, rfl, ?_⟩)
          simp only [Prog.exec_bind, Prog.exec_update, Prog.exec_pure]
      · simp only [if_neg leaves]
        exact Or.inl ⟨trivial, rfl⟩

/-- The context is still in its slot after a program that leaves the lives alone. -/
theorem context_kept (kept : s'.registry = s.registry) (found : s.context? ctxId = some ctx) :
    ∃ ctx', s'.context? ctxId = some ctx' ∧ ctx'.object = ctx.object ∧ ctx'.ctxId = ctx.ctxId := by
  have slots := slot_registry ctxId s'
  rw [kept, slot_registry, found] at slots
  obtain ⟨ctx', found', same⟩ := Option.map_eq_some_iff.mp slots.symm
  exact ⟨ctx', found', congrArg Lifecycle.object same, congrArg Lifecycle.ctxId same⟩

theorem Settled.buildRequestData (settled : Settled moves object history s)
    (inc : Incarnated s.registry) (found : s.context? ctxId = some ctx) {pr : PendingRequest}
    {errorCode : UInt32} {body : ReplyBody}
    (followed : ∀ told ∈ tells object ctx (replyTold pr.reqEvent errorCode body),
      told.followed moves history) :
    Settled moves object
      (history ++ (tells object ctx (replyTold pr.reqEvent errorCode body)).toList)
      ((buildRequestData ctx pr errorCode body).exec s).2 := by
  obtain ⟨silent, same⟩ | ⟨details, told, joined⟩ | ⟨roomId, told, left⟩ :=
    buildRequestData_cases ctx pr errorCode body s
  · have nothing : tells object ctx none = none := ite_self none
    rw [silent, same, nothing]
    exact (List.append_nil history).symm ▸ settled
  · rw [told] at followed ⊢
    rw [joined]
    exact settled.joined inc found followed
  · let s₁ := ((queueMatching2DeadForRoomPeers ctx roomId).exec s).2
    have onlooker := onlooker_tidy (apart_of_incarnated inc)
    have tidy : Tidy s s₁ := onlooker.queueMatching2DeadForRoomPeers ctx roomId s (Tidy.refl s)
    have kept : s₁.registry = s.registry :=
      (exec_beside (beside_queueMatching2DeadForRoomPeers ctx roomId) s).2
    obtain ⟨ctx', found', object', -⟩ := context_kept kept found
    have after := (settled.tidy tidy).left (kept ▸ inc) found' roomId
    rw [told, left]
    unfold tells at after ⊢
    rw [object'] at after
    exact after

theorem replyTold_lifecycle {reqEvent : Matching2Event}
    (lifecycle : isContextLifecycleEvent reqEvent) (errorCode : UInt32) (body : ReplyBody) :
    replyTold reqEvent errorCode body = none := by
  have other : isJoinEvent reqEvent = false ∧ reqEvent ≠ .leaveRoom := by
    cases reqEvent <;> first | decide | cases lifecycle
  simp only [replyTold, other.1, Bool.false_eq_true, if_false, if_neg other.2, ite_self]

/-- What a reply does after its data is built is tidy. -/
theorem dispatchRequestComplete_exec (inc : Incarnated s.registry) (pr : PendingRequest)
    (errorCode : UInt32) (body : ReplyBody) (input : StartInput) :
    let s' := ((dispatchRequestComplete pr errorCode body input).exec s).2
    (s.context? pr.ctxId = none ∧ s' = s) ∨
      ∃ ctx, s.context? pr.ctxId = some ctx ∧
        Tidy ((NpMatching2.buildRequestData ctx pr errorCode body).exec s).2 s' := by
  dsimp only
  simp only [dispatchRequestComplete, Prog.exec_bind, Prog.exec_locked]
  cases found : s.context? pr.ctxId with
  | none => exact Or.inl ⟨rfl, rfl⟩
  | some ctx =>
    refine Or.inr ⟨ctx, rfl, ?_⟩
    cases lifecycle : isContextLifecycleEvent pr.reqEvent with
    | true =>
      have silent := replyTold_lifecycle lifecycle errorCode body
      obtain ⟨-, same⟩ | ⟨details, told, -⟩ | ⟨roomId, told, -⟩ :=
        buildRequestData_cases ctx pr errorCode body s
      · rw [same]
        exact tidy_of_same rfl rfl
      · rw [silent] at told
        cases told
      · rw [silent] at told
        cases told
    | false =>
      simp only [Bool.false_eq_true, if_false, Prog.exec_bind, Prog.exec_update]
      let built := (NpMatching2.buildRequestData ctx pr errorCode body).exec s
      let ev : PendingEvent := ⟨pr.ctxId, ctx.object,
        .requestCb pr.reqId pr.reqEvent errorCode pr.request built.1 pr.call⟩
      have scheduled : Tidy built.2 (scheduleEvent ev built.2) := tidy_of_same rfl rfl
      have kept := (exec_beside (beside_buildRequestData ctx pr errorCode body) s).2
      have apart := apart_of_incarnated (kept.symm ▸ inc)
      have started : Tidies built.2 (Prog.when (errorCode = 0 ∧ isJoinEvent pr.reqEvent)
          (startMatching2 ctx.object input)) :=
        Prog.triple_when (fun _ => (onlooker_tidy apart).startMatching2 ctx.object input)
      exact started _ scheduled

/-- News reaches the object that is in the slot. -/
theorem tells_of_context (found : s.context? ctxId = some ctx) (told : Option Told) :
    (if Occupies object ctxId s then told else none) = tells object ctx told := by
  have occupied : Occupies object ctxId s ↔ ctx.object = object := by
    unfold Occupies
    rw [found, Option.map_some, Option.some.injEq]
  unfold tells
  by_cases own : ctx.object = object
  · rw [if_pos own, if_pos (occupied.mpr own)]
  · rw [if_neg own, if_neg (fun same => own (occupied.mp same))]

theorem told_empty (empty : s.context? ctxId = none) (told : Option Told) :
    (if Occupies object ctxId s then told else none) = none := by
  refine if_neg ?_
  unfold Occupies
  rw [empty]
  exact nofun

/-- A reply is handled in two parts: what it tells, and what is tidy. -/
theorem reply_complete (inc : Incarnated s.registry) (object pktId : Nat) (errorCode : UInt32)
    (body : ReplyBody) (input : StartInput) :
    let s' := (Op.reply pktId errorCode body input).complete s
    let told := toldBy object (.reply pktId errorCode body input) s
    (told = none ∧ Tidy s s') ∨
      ∃ pr ctx s₁, s₁.context? pr.ctxId = some ctx ∧ Tidy s s₁ ∧ s₁.registry = s.registry ∧
        told = tells object ctx (replyTold pr.reqEvent errorCode body) ∧
        Tidy ((NpMatching2.buildRequestData ctx pr errorCode body).exec s₁).2 s' := by
  dsimp only
  simp only [Op.complete, Op.program, onMatching2Reply, Prog.exec_bind, Prog.exec_locked,
    takePending, toldBy]
  cases pending : s.pending? pktId with
  | none => exact Or.inl ⟨rfl, tidy_of_same rfl rfl⟩
  | some pr =>
    let s₁ : Matching2State := { s with
      pending := KeyedTable.remove PendingRequest.pktId pktId s.pending }
    have taken : Tidy s s₁ := tidy_of_same rfl rfl
    rw [Option.bind_some]
    obtain ⟨empty, same⟩ | ⟨ctx, found, tidy⟩ :=
      @dispatchRequestComplete_exec s₁ inc pr errorCode body input
    · refine Or.inl ⟨told_empty empty _, ?_⟩
      exact same ▸ taken
    · exact Or.inr ⟨pr, ctx, s₁, found, taken, rfl, tells_of_context found _, tidy⟩

end Settled

end NpMatching2
