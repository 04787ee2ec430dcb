import ShadNet.LiveWalk
import ShadNet.SortedTable
import ShadNet.WebApi.Calls
import ShadNet.WebApi.PushDispatch
import Mathlib.Data.Prod.Lex
import Mathlib.Order.Hom.Basic

/-!
# Callbacks that change the tables

`DrainPushEvents` iterates over the maps of the library, and the callbacks that it calls may use
the library, since the locks are recursive. Between two callbacks the loops change nothing, so
they are one walk over the places of the registered callbacks.
-/

namespace NpWebApiPush.Live

open NpWebApi (PushKind fw250 fw400 invalidUserId)
open SortedTable

/-! ## Tables -/

/-- `serial` tells the node of the map from every other node that there has been. -/
structure Node where
  callbackId : Int32
  serial : Nat
  callback : Callback

def Node.key (node : Node) : Int := node.callbackId.toInt

/-- `hidden`: its context is terminated, or another thread is deleting it. `inUse`: a call of
another thread is in flight, as with the flag of each request; such a call cannot end before the
callback returns. -/
structure User where
  libCtxId : Int32
  userCtxId : Int32
  userId : Int
  hidden : Bool := false
  inUse : Bool := false
  requests : List (Int × Bool) := []
  callbacks : PushKind → SortedTable Node.key := fun _ => .empty

def User.key (u : User) : Int ×ₗ Int := toLex (u.libCtxId.toInt, u.userCtxId.toInt)

def User.target (kind : PushKind) (node : Node) (u : User) : Target :=
  ⟨u.libCtxId.toInt, u.userCtxId.toInt, kind, node.key⟩

def User.setCallbacks (kind : PushKind) (table : SortedTable Node.key) (u : User) : User :=
  { u with callbacks := Function.update u.callbacks kind table }

def User.busy (u : User) : Bool := u.inUse || u.requests.any (·.2)

/-- All its nodes are among the first so many. -/
def User.Within (made : Nat) (u : User) : Prop :=
  ∀ kind, ∀ node ∈ (u.callbacks kind).entries, node.serial < made

theorem User.Within.more {made made' : Nat} {u : User} (within : u.Within made)
    (more : made ≤ made') : u.Within made' := fun kind node member =>
  Nat.lt_of_lt_of_le (within kind node member) more

/-- The user contexts of all library contexts are one map, in the order of both ids. `made` counts
the nodes that there have been, and `calls` lists what was called. -/
structure Tables where
  libraries : List Int32
  users : SortedTable User.key := .empty
  filters : Int32 → PushKind → List (Int × Filter) := fun _ _ => []
  made : Nat := 0
  within : ∀ u ∈ users.entries, u.Within made
  calls : List Call := []

def keyOf (ctxId : Int32) : Int ×ₗ Int := toLex (ctxId.toInt.shiftRight 0x10, ctxId.toInt)

/-- `findAndValidateContext` and `findUserContext`. -/
def Tables.user (ctxId : Int32) (s : Tables) : Option User :=
  (s.users.find? (keyOf ctxId)).filter (fun u => !u.hidden)

theorem Tables.user_some {ctxId : Int32} {s : Tables} {u : User} (found : s.user ctxId = some u) :
    u ∈ s.users.entries ∧ u.key = keyOf ctxId := by
  obtain ⟨found, -⟩ := Option.filter_eq_some_iff.mp found
  exact find?_eq_some.mp found

theorem Tables.user_within {ctxId : Int32} {s : Tables} {u : User}
    (found : s.user ctxId = some u) : u.Within s.made :=
  s.within u (s.user_some found).1

/-- The user context under its key, with so many nodes made for it. -/
def Tables.put (u : User) (more : Nat) (s : Tables) (within : u.Within (s.made + more)) : Tables :=
  { s with
    users := s.users.assign u
    made := s.made + more
    within := by
      intro other member
      rcases mem_assign member with rfl | ⟨old, -⟩
      · exact within
      · exact (s.within other old).more (Nat.le_add_right _ _) }

def Tables.drop (key : Int ×ₗ Int) (s : Tables) : Tables :=
  { s with
    users := s.users.erase key
    within := fun other member => s.within other (mem_erase.mp member).1 }

theorem User.Within.setCallbacks {made : Nat} {u : User} {kind : PushKind}
    {table : SortedTable Node.key} (within : u.Within made)
    (new : ∀ node ∈ table.entries, node.serial < made) :
    (u.setCallbacks kind table).Within made := by
  intro other node member
  by_cases same : other = kind
  · subst same
    exact new node (by simpa [User.setCallbacks] using member)
  · exact within other node (by simpa [User.setCallbacks, same] using member)

/-! ## What a callback can do -/

inductive Action where
  | register (ctxId : Int32) (kind : PushKind) (id : Int32) (cb : Callback)
  | unregister (ctxId : Int32) (kind : PushKind) (id : Int32)
  | createFilter (libCtxId : Int32) (kind : PushKind) (id : Int) (filter : Filter)
  | deleteFilter (libCtxId : Int32) (kind : PushKind) (id : Int)
  | createRequest (ctxId : Int32) (id : Int)
  | deleteRequest (ctxId : Int32) (id : Int)
  | createUserContext (libCtxId id : Int32) (userId : Int)
  | deleteUserContext (ctxId : Int32)

/-- The extended callbacks need their filter with every firmware, and one of their functions. -/
def mayRegister (sdk : Nat) (kind : PushKind) (cb : Callback) (filters : List (Int × Filter)) :
    Bool :=
  ((filters.lookup cb.filterId).isSome || (kind != .extended && decide (sdk < fw250))) &&
    (kind != .extended || cb.cbFunc.isSome || cb.cbFuncA.isSome)

/-- The map assigns to the id: a node that is there keeps its place and gets the new callback. The
id is what the counter gives. -/
def register (sdk : Nat) (ctxId : Int32) (kind : PushKind) (id : Int32) (cb : Callback)
    (s : Tables) : Tables :=
  match found : s.user ctxId with
  | none => s
  | some u =>
    if mayRegister sdk kind cb (s.filters u.libCtxId kind) then
      match there : (u.callbacks kind).find? id.toInt with
      | some node =>
        s.put (u.setCallbacks kind ((u.callbacks kind).assign { node with callback := cb })) 0 <| by
          refine (s.user_within found).setCallbacks (fun new member => ?_)
          rcases mem_assign member with rfl | ⟨old, -⟩
          · exact s.user_within found kind node (find?_eq_some.mp there).1
          · exact s.user_within found kind new old
      | none =>
        s.put (u.setCallbacks kind ((u.callbacks kind).assign ⟨id, s.made, cb⟩)) 1 <| by
          refine ((s.user_within found).more (by omega)).setCallbacks (fun new member => ?_)
          rcases mem_assign member with rfl | ⟨old, -⟩
          · exact Nat.lt_succ_self s.made
          · exact (s.user_within found kind new old).trans (Nat.lt_succ_self s.made)
    else s

def unregister (ctxId : Int32) (kind : PushKind) (id : Int32) (s : Tables) : Tables :=
  match found : s.user ctxId with
  | none => s
  | some u =>
    s.put (u.setCallbacks kind ((u.callbacks kind).erase id.toInt)) 0 <|
      (s.user_within found).setCallbacks fun node member =>
        s.user_within found kind node (mem_erase.mp member).1

def setFilters (libCtxId : Int32) (kind : PushKind) (filters : List (Int × Filter)) (s : Tables) :
    Tables :=
  { s with
    filters := Function.update s.filters libCtxId
      (Function.update (s.filters libCtxId) kind filters) }

def setRequests (requests : List (Int × Bool) → List (Int × Bool)) (ctxId : Int32) (s : Tables) :
    Tables :=
  match found : s.user ctxId with
  | none => s
  | some u =>
    s.put { u with requests := requests u.requests } 0 fun kind => s.user_within found kind

/-- A request that another thread uses is waited for from FW 4.00 on, which has no end. -/
def deleteRequest (sdk : Nat) (ctxId : Int32) (id : Int) (s : Tables) : Option Tables :=
  match s.user ctxId with
  | none => some s
  | some u =>
    if (id, true) ∈ u.requests then if sdk < fw400 then some s else none
    else some (setRequests (·.filter (fun r => r.1 != id)) ctxId s)

/-- `findUserContextByUserId`. -/
def Tables.hasUserId (libCtxId : Int32) (userId : Int) (s : Tables) : Bool :=
  userId != invalidUserId &&
    s.users.entries.any (fun u => u.libCtxId == libCtxId && u.userId == userId)

def createUserContext (libCtxId id : Int32) (userId : Int) (s : Tables) : Tables :=
  if libCtxId ∉ s.libraries ∨ (s.users.find? (toLex (libCtxId.toInt, id.toInt))).isSome ∨
      s.hasUserId libCtxId userId then s
  else
    s.put { libCtxId := libCtxId, userCtxId := id, userId := userId } 0 fun _ _ member =>
      absurd member List.not_mem_nil

/-- So is a user context. Its callbacks go with it. -/
def deleteUserContext (sdk : Nat) (ctxId : Int32) (s : Tables) : Option Tables :=
  match s.user ctxId with
  | none => some s
  | some u =>
    if u.busy then if sdk < fw400 then some s else none
    else some (s.drop u.key)

/-- `none`: the call of the library does not return. -/
def perform (sdk : Nat) : Action → Tables → Option Tables
  | .register ctxId kind id cb, s => some (register sdk ctxId kind id cb s)
  | .unregister ctxId kind id, s => some (unregister ctxId kind id s)
  | .createFilter libCtxId kind id filter, s =>
    some (setFilters libCtxId kind
      ((s.filters libCtxId kind).filter (fun f => f.1 != id) ++ [(id, filter)]) s)
  | .deleteFilter libCtxId kind id, s =>
    some (setFilters libCtxId kind ((s.filters libCtxId kind).filter (fun f => f.1 != id)) s)
  | .createRequest ctxId id, s => some (setRequests (· ++ [(id, false)]) ctxId s)
  | .deleteRequest ctxId id, s => deleteRequest sdk ctxId id s
  | .createUserContext libCtxId id userId, s => some (createUserContext libCtxId id userId s)
  | .deleteUserContext ctxId, s => deleteUserContext sdk ctxId s

def performAll (sdk : Nat) : List Action → Tables → Option Tables
  | [], s => some s
  | action :: rest, s => (perform sdk action s).bind (performAll sdk rest)

/-! ## The dispatcher -/

/-- The place of a node in the loops over the queue, the contexts, the kinds and the callbacks. -/
structure Position where
  event : Nat
  target : Target
  serial : Nat
  deriving DecidableEq

/-- The kinds in the order of the loops. -/
def rank : PushKind → Nat
  | .extended => 0
  | .service => 1
  | .basic => 2

abbrev Turn := Nat ×ₗ Int ×ₗ Int ×ₗ Nat ×ₗ Int

def Position.turn (p : Position) : Turn :=
  toLex (p.event, toLex (p.target.libCtxId, toLex (p.target.titleUserCtxId,
    toLex (rank p.target.kind, p.target.callbackId))))

def Position.order (p : Position) : Turn ×ₗ Nat := toLex (p.turn, p.serial)

theorem rank_injective : Function.Injective rank := by
  intro a b same
  cases a <;> cases b <;> first | rfl | cases same

theorem turn_injective {p q : Position} (same : p.turn = q.turn) :
    p.event = q.event ∧ p.target = q.target := by
  obtain ⟨e, ⟨l, u, k, c⟩, n⟩ := p
  obtain ⟨e', ⟨l', u', k', c'⟩, n'⟩ := q
  simp only [Position.turn, toLex_inj, Prod.mk.injEq] at same
  obtain ⟨rfl, rfl, rfl, kind, rfl⟩ := same
  rw [rank_injective kind]
  exact ⟨rfl, rfl⟩

theorem order_injective : Function.Injective Position.order := by
  rintro ⟨e, t, n⟩ ⟨e', t', n'⟩ same
  obtain ⟨turn, serial⟩ := Prod.mk.inj (toLex_inj.mp same)
  obtain ⟨event, target⟩ := turn_injective turn
  cases event
  cases target
  cases serial
  rfl

instance Position.linearOrder : LinearOrder Position :=
  LinearOrder.lift' Position.order order_injective

/-- Basic callbacks get no event that names a service. -/
def kinds (ev : PushEventInput) : List PushKind :=
  if ev.hasService then [.extended, .service] else [.extended, .service, .basic]

def User.positions (event : Nat) (ev : PushEventInput) (u : User) : List Position :=
  if u.userId ≠ ev.targetUserId then []
  else (kinds ev).flatMap fun kind => (u.callbacks kind).entries.map fun node =>
    ⟨event, u.target kind node, node.serial⟩

/-- What the loops run over, if nothing changes. -/
def positions (queue : List PushEventInput) (s : Tables) : List Position :=
  queue.zipIdx.flatMap fun e => s.users.entries.flatMap (User.positions e.2 e.1)

/-- The call that a node is due when the loops come to it. -/
def callAt (queue : List PushEventInput) (p : Position) (s : Tables) : Option Call := do
  let ev ← queue[p.event]?
  let u ← s.users.find? (toLex (p.target.libCtxId, p.target.titleUserCtxId))
  let node ← (u.callbacks p.target.kind).find? p.target.callbackId
  push p.target.kind u.libCtxId.toInt { userContexts := [], filters := s.filters u.libCtxId }
    u.userCtxId.toInt ev node.key node.callback

def Tables.calling (call : Call) (s : Tables) : Tables := { s with calls := s.calls ++ [call] }

/-- What a callback does may depend on all calls so far, the last of which is its own. -/
def visit (sdk : Nat) (queue : List PushEventInput) (behave : List Call → List Action)
    (p : Position) (s : Tables) : Option Tables :=
  match callAt queue p s with
  | none => some s
  | some call => performAll sdk (behave (s.calling call).calls) (s.calling call)

/-! ## The order of the loops -/

theorem lt_of_turn {p q : Position} (less : p.turn < q.turn) : p < q :=
  Prod.Lex.toLex_lt_toLex.mpr (Or.inl less)

theorem turn_le_of_le {p q : Position} (before : p ≤ q) : p.turn ≤ q.turn := by
  rcases Prod.Lex.toLex_le_toLex.mp before with less | ⟨same, -⟩
  · exact less.le
  · exact same.le

theorem lt_of_event {p q : Position} (less : p.event < q.event) : p < q :=
  lt_of_turn (Prod.Lex.toLex_lt_toLex.mpr (Or.inl less))

theorem lt_of_user {p q : Position} (event : p.event = q.event)
    (less : toLex (p.target.libCtxId, p.target.titleUserCtxId) <
      toLex (q.target.libCtxId, q.target.titleUserCtxId)) : p < q := by
  refine lt_of_turn (Prod.Lex.toLex_lt_toLex.mpr (Or.inr ⟨event, ?_⟩))
  rcases Prod.Lex.toLex_lt_toLex.mp less with library | ⟨library, user⟩
  · exact Prod.Lex.toLex_lt_toLex.mpr (Or.inl library)
  · refine Prod.Lex.toLex_lt_toLex.mpr (Or.inr ⟨library, ?_⟩)
    exact Prod.Lex.toLex_lt_toLex.mpr (Or.inl user)

theorem lt_of_rank {p q : Position} (event : p.event = q.event)
    (library : p.target.libCtxId = q.target.libCtxId)
    (user : p.target.titleUserCtxId = q.target.titleUserCtxId)
    (less : toLex (rank p.target.kind, p.target.callbackId) <
      toLex (rank q.target.kind, q.target.callbackId)) : p < q := by
  refine lt_of_turn (Prod.Lex.toLex_lt_toLex.mpr (Or.inr ⟨event, ?_⟩))
  refine Prod.Lex.toLex_lt_toLex.mpr (Or.inr ⟨library, ?_⟩)
  exact Prod.Lex.toLex_lt_toLex.mpr (Or.inr ⟨user, less⟩)

theorem kinds_sorted (ev : PushEventInput) :
    (kinds ev).Pairwise (fun a b => rank a < rank b) := by
  rw [kinds]
  split
  · decide
  · decide

theorem mem_positions_user {event : Nat} {ev : PushEventInput} {u : User} {p : Position} :
    p ∈ u.positions event ev ↔ u.userId = ev.targetUserId ∧ ∃ kind ∈ kinds ev,
      ∃ node ∈ (u.callbacks kind).entries, p = ⟨event, u.target kind node, node.serial⟩ := by
  rw [User.positions]
  by_cases target : u.userId = ev.targetUserId
  · simp [target, eq_comm]
  · simp [target]

theorem positions_user_sorted (event : Nat) (ev : PushEventInput) (u : User) :
    (u.positions event ev).Pairwise (· < ·) := by
  rw [User.positions]
  split
  · exact List.Pairwise.nil
  · refine List.pairwise_flatMap.mpr ⟨?_, ?_⟩
    · intro kind _
      refine List.Pairwise.map _ ?_ (u.callbacks kind).sorted
      intro a b less
      exact lt_of_rank rfl rfl rfl (Prod.Lex.toLex_lt_toLex.mpr (Or.inr ⟨rfl, less⟩))
    · refine (kinds_sorted ev).imp ?_
      intro a b less p first q second
      obtain ⟨node, -, rfl⟩ := List.mem_map.mp first
      obtain ⟨other, -, rfl⟩ := List.mem_map.mp second
      exact lt_of_rank rfl rfl rfl (Prod.Lex.toLex_lt_toLex.mpr (Or.inl less))

theorem positions_sorted (queue : List PushEventInput) (s : Tables) :
    (positions queue s).Pairwise (· < ·) := by
  refine List.pairwise_flatMap.mpr ⟨?_, ?_⟩
  · intro e _
    refine List.pairwise_flatMap.mpr ⟨fun u _ => positions_user_sorted _ _ u, ?_⟩
    refine s.users.sorted.imp ?_
    intro u v less p first q second
    obtain ⟨-, kind, -, node, -, rfl⟩ := mem_positions_user.mp first
    obtain ⟨-, kind', -, node', -, rfl⟩ := mem_positions_user.mp second
    exact lt_of_user rfl less
  · have indices : queue.zipIdx.Pairwise (fun a b => a.2 < b.2) := by
      refine List.pairwise_map.mp ?_
      rw [List.zipIdx_map_snd]
      exact List.pairwise_lt_range'
    refine indices.imp ?_
    intro a b less p first q second
    obtain ⟨u, -, first⟩ := List.mem_flatMap.mp first
    obtain ⟨v, -, second⟩ := List.mem_flatMap.mp second
    obtain ⟨-, kind, -, node, -, rfl⟩ := mem_positions_user.mp first
    obtain ⟨-, kind', -, node', -, rfl⟩ := mem_positions_user.mp second
    exact lt_of_event less

def walk (sdk : Nat) (queue : List PushEventInput) (behave : List Call → List Action) :
    Walk Tables Position where
  keys := positions queue
  sorted := positions_sorted queue
  visit := visit sdk queue behave

theorem mem_positions {queue : List PushEventInput} {s : Tables} {p : Position} :
    p ∈ positions queue s ↔ ∃ ev, queue[p.event]? = some ev ∧ ∃ u ∈ s.users.entries,
      p ∈ u.positions p.event ev := by
  rw [positions, List.mem_flatMap]
  constructor
  · rintro ⟨e, member, inside⟩
    obtain ⟨u, user, here⟩ := List.mem_flatMap.mp inside
    obtain ⟨-, kind, -, node, -, rfl⟩ := mem_positions_user.mp here
    exact ⟨e.1, List.mem_zipIdx_iff_getElem?.mp member, u, user, here⟩
  · rintro ⟨ev, event, u, user, here⟩
    exact ⟨(ev, p.event), List.mem_zipIdx_iff_getElem?.mpr event,
      List.mem_flatMap.mpr ⟨u, user, here⟩⟩

end NpWebApiPush.Live
