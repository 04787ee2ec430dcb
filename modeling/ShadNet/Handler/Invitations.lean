import Mathlib.Data.List.TakeWhile
import ShadNet.Client.PushEvents
import ShadNet.Decimal
import ShadNet.KeyedTable
import ShadNet.LockProgram
import ShadNet.WebApi.PushEvents

/-!
# Pending session invitations

A push event of the invitation service is kept for its user until it is accepted or declined, one
for each invitation id. Expired invitations stay in the list and are only left out where it is
read. `arrived` and `accepted` are histories: an entry carries the number of the event it is of,
which the code does not keep.
-/

namespace SessionInvitations

open ShadNetClient (NotifyWebApiPushEvent)
open NpWebApiPush (PushEventInput)
open Decimal (Signed64 strtoll strtoull)

/-- `sessionInvitation` -/
def serviceSessionInvitation : List UInt8 :=
  [115, 101, 115, 115, 105, 111, 110, 73, 110, 118, 105, 116, 97, 116, 105, 111, 110]

/-- `sessionId` -/
def keySessionId : List UInt8 := [115, 101, 115, 115, 105, 111, 110, 73, 100]

/-- `invitationId` -/
def keyInvitationId : List UInt8 := [105, 110, 118, 105, 116, 97, 116, 105, 111, 110, 73, 100]

/-- `validUntil` -/
def keyValidUntil : List UInt8 := [118, 97, 108, 105, 100, 85, 110, 116, 105, 108]

/-- `fromAccountId` -/
def keyFromAccountId : List UInt8 := [102, 114, 111, 109, 65, 99, 99, 111, 117, 110, 116, 73, 100]

structure PendingInvitation where
  sessionId : List UInt8
  invitationId : List UInt8
  fromNpid : List UInt8
  toNpid : List UInt8
  validUntil : Signed64
  fromAccountId : UInt64
  event : Nat
  deriving DecidableEq

/-- The strings of the posted event, up to their terminators. -/
structure OrbisNpSessionInvitationEventParam where
  sessionId : List UInt8
  invitationId : List UInt8
  flag : Int
  onlineId : List UInt8
  userId : Int
  referralOnlineId : List UInt8
  referralAccountId : UInt64
  deriving DecidableEq

structure NpHandler where
  accountIds : Int → UInt64 := fun _ => 0
  npIds : Int → Option (List UInt8) := fun _ => none
  pendingInvites : Int → List PendingInvitation := fun _ => []
  enqueued : List PushEventInput := []
  posted : List OrbisNpSessionInvitationEventParam := []
  arrived : List (Int × NotifyWebApiPushEvent) := []
  accepted : List Nat := []

/-! ## Events -/

/-- What the loop over the pairs gets together. -/
structure ExtdFields where
  sessionId : List UInt8 := []
  invitationId : List UInt8 := []
  validUntil : Signed64 := ⟨0, by omega⟩

def ExtdFields.read (fields : ExtdFields) (kv : List UInt8 × List UInt8) : ExtdFields :=
  if kv.1 = keySessionId then { fields with sessionId := kv.2 }
  else if kv.1 = keyInvitationId then { fields with invitationId := kv.2 }
  else if kv.1 = keyValidUntil then { fields with validUntil := strtoll kv.2 }
  else fields

def fromAccountId (n : NotifyWebApiPushEvent) : UInt64 :=
  if n.fromAccountId = 0 then
    match n.extdData.find? fun kv => decide (kv.1 = keyFromAccountId) with
    | some kv => strtoull kv.2
    | none => 0
  else n.fromAccountId

def onlineId (npid : List UInt8) : List UInt8 := npid.take 16

/-- The event as it goes to the web API library. -/
def pushEventInput (s : NpHandler) (userId : Int) (n : NotifyWebApiPushEvent) : PushEventInput :=
  let toAccountId := if n.toAccountId ≠ 0 then n.toAccountId else s.accountIds userId
  { targetUserId := userId
    npServiceName := n.npServiceName
    npServiceLabel := n.npServiceLabel
    dataType := n.dataType
    data := n.data
    fromOnlineId := if n.fromNpid = [] then none else some (onlineId n.fromNpid)
    toOnlineId :=
      if n.toNpid ≠ [] then some (onlineId n.toNpid)
      else if toAccountId ≠ 0 then some ((s.npIds userId).getD [])
      else none
    fromAccountId := fromAccountId n
    toAccountId
    extdData := n.extdData }

def setPending (userId : Int) (v : List PendingInvitation) (s : NpHandler) : NpHandler :=
  { s with pendingInvites := fun other => if other = userId then v else s.pendingInvites other }

def onWebApiPushEvent (userId : Int) (n : NotifyWebApiPushEvent) (s : NpHandler) : NpHandler :=
  let event := s.arrived.length
  let s := { s with
    enqueued := s.enqueued ++ [pushEventInput s userId n], arrived := s.arrived ++ [(userId, n)] }
  if n.npServiceName = serviceSessionInvitation then
    let fields := n.extdData.foldl ExtdFields.read {}
    if fields.sessionId ≠ [] then
      let inv : PendingInvitation :=
        { sessionId := fields.sessionId
          invitationId := fields.invitationId
          fromNpid := n.fromNpid
          toNpid := n.toNpid
          validUntil := fields.validUntil
          fromAccountId := fromAccountId n
          event }
      -- entries with the id are erased, and the new one is pushed back
      setPending userId
        (KeyedTable.store PendingInvitation.invitationId inv (s.pendingInvites userId)) s
    else s
  else s

/-! ## Listing, accepting and declining -/

/-- The test of the list, at the time of the system clock. -/
def Current (now : Int) (p : PendingInvitation) : Prop :=
  p.validUntil.1 = 0 ∨ now ≤ p.validUntil.1

instance (now : Int) (p : PendingInvitation) : Decidable (Current now p) :=
  inferInstanceAs (Decidable (_ ∨ _))

def getPendingInvitations (userId now : Int) (s : NpHandler) : List PendingInvitation :=
  (s.pendingInvites userId).filter fun p => decide (Current now p)

/-- What stays of a string in a zeroed array. -/
def strncpy (count : Nat) (text : List UInt8) : List UInt8 := (text.takeWhile (· ≠ 0)).take count

def sessionIdMaxSize : Nat := 45
def invitationIdSize : Nat := 60
def eventFlagInvitation : Int := 1

def postSessionInvitationEvent (userId : Int) (sessionId invitationId accepterOnlineId
    inviterOnlineId : List UInt8) (inviterAccountId : UInt64) (s : NpHandler) : NpHandler :=
  let event : OrbisNpSessionInvitationEventParam :=
    { sessionId := strncpy (sessionIdMaxSize - 1) sessionId
      invitationId :=
        if invitationId ≠ [] then strncpy (invitationIdSize - 1) invitationId else []
      flag := if invitationId ≠ [] then eventFlagInvitation else 0
      onlineId := strncpy 16 accepterOnlineId
      userId
      referralOnlineId := strncpy 16 inviterOnlineId
      referralAccountId := inviterAccountId }
  { s with posted := s.posted ++ [event] }

/-- The loop stops at the first entry with the id. -/
def acceptSessionInvitation (userId : Int) (invitationId : List UInt8) (s : NpHandler) :
    Bool × NpHandler :=
  match KeyedTable.lookup PendingInvitation.invitationId invitationId (s.pendingInvites userId) with
  | none => (false, s)
  | some inv =>
    let s := setPending userId
      ((s.pendingInvites userId).eraseP fun p => decide (p.invitationId = invitationId)) s
    (true, postSessionInvitationEvent userId inv.sessionId invitationId inv.toNpid inv.fromNpid
      inv.fromAccountId { s with accepted := s.accepted ++ [inv.event] })

def declineSessionInvitation (userId : Int) (invitationId : List UInt8) (s : NpHandler) :
    NpHandler :=
  setPending userId
    (KeyedTable.remove PendingInvitation.invitationId invitationId (s.pendingInvites userId)) s

/-! ## Runs -/

/-- The calls with the time at which they are made. -/
inductive Op where
  | push (userId : Int) (n : NotifyWebApiPushEvent)
  | accept (userId : Int) (invitationId : List UInt8) (now : Int)
  | decline (userId : Int) (invitationId : List UInt8)
  | list (userId now : Int)

def step : Op → NpHandler → NpHandler
  | .push userId n, s => onWebApiPushEvent userId n s
  | .accept userId invitationId _, s => (acceptSessionInvitation userId invitationId s).2
  | .decline userId invitationId, s => declineSessionInvitation userId invitationId s
  | .list _ _, s => s

/-! ## What is to hold -/

/-- The value of the last pair with the key. -/
def lastValue (key : List UInt8) (extd : List (List UInt8 × List UInt8)) : Option (List UInt8) :=
  (extd.reverse.find? fun kv => decide (kv.1 = key)).map Prod.snd

/-- The data of an event. -/
def invitationOf (n : NotifyWebApiPushEvent) (event : Nat) : PendingInvitation where
  sessionId := (lastValue keySessionId n.extdData).getD []
  invitationId := (lastValue keyInvitationId n.extdData).getD []
  fromNpid := n.fromNpid
  toNpid := n.toNpid
  validUntil := strtoll ((lastValue keyValidUntil n.extdData).getD [])
  fromAccountId := fromAccountId n
  event

/-- An event of the service that names a session. -/
def IsInvitation (n : NotifyWebApiPushEvent) : Prop :=
  n.npServiceName = serviceSessionInvitation ∧ (invitationOf n 0).sessionId ≠ []

/-- The entry is the data of the latest of the user's events with its id. -/
def IsLatest (arrived : List (Int × NotifyWebApiPushEvent)) (userId : Int)
    (p : PendingInvitation) : Prop :=
  ∃ n, arrived[p.event]? = some (userId, n) ∧ IsInvitation n ∧ p = invitationOf n p.event ∧
    ∀ later m, p.event < later → arrived[later]? = some (userId, m) → IsInvitation m →
      (invitationOf m later).invitationId ≠ p.invitationId

structure Consistent (s : NpHandler) : Prop where
  single : ∀ userId, KeyedTable.Distinct PendingInvitation.invitationId (s.pendingInvites userId)
  latest : ∀ userId, ∀ p ∈ s.pendingInvites userId, IsLatest s.arrived userId p
  once : s.accepted.Nodup

/-- Accepting succeeds when the list shows the invitation, and then posts its session. -/
structure AcceptLawful (userId : Int) (invitationId : List UInt8) (now : Int) (s : NpHandler) :
    Prop where
  listed : (acceptSessionInvitation userId invitationId s).1 = true ↔
    ∃ p ∈ getPendingInvitations userId now s, p.invitationId = invitationId
  posts : (acceptSessionInvitation userId invitationId s).1 = true →
    ∃ p ∈ s.pendingInvites userId, p.invitationId = invitationId ∧
      (acceptSessionInvitation userId invitationId s).2.accepted = s.accepted ++ [p.event] ∧
      ∃ event, (acceptSessionInvitation userId invitationId s).2.posted = s.posted ++ [event] ∧
        event.userId = userId ∧ event.sessionId = p.sessionId
  silent : (acceptSessionInvitation userId invitationId s).1 = false →
    (acceptSessionInvitation userId invitationId s).2.posted = s.posted

/-- Only accepting posts anything. -/
def Lawful (op : Op) (s s' : NpHandler) : Prop :=
  match op with
  | .accept userId invitationId now => AcceptLawful userId invitationId now s
  | _ => s'.posted = s.posted

/-- The session id has room in the event's array. -/
def FitsEvent (sessionId : List UInt8) : Prop :=
  0 ∉ sessionId ∧ sessionId.length ≤ sessionIdMaxSize - 1

/-- The invitation that is accepted has not expired, and its session id fits. -/
def Ready (op : Op) (s : NpHandler) : Prop :=
  match op with
  | .accept userId invitationId now => ∀ p ∈ s.pendingInvites userId,
      p.invitationId = invitationId → Current now p ∧ FitsEvent p.sessionId
  | _ => True

/-! ## The data of an event -/

theorem lastValue_append (key : List UInt8) (extd : List (List UInt8 × List UInt8))
    (kv : List UInt8 × List UInt8) :
    lastValue key (extd ++ [kv]) = if kv.1 = key then some kv.2 else lastValue key extd := by
  rw [lastValue, List.reverse_append, List.reverse_singleton, List.singleton_append,
    List.find?_cons]
  by_cases named : kv.1 = key
  · simp [named]
  · simp [named, lastValue]

/-- The loop ends with the last value of each key. -/
theorem foldl_read (extd : List (List UInt8 × List UInt8)) :
    extd.foldl ExtdFields.read {} =
      { sessionId := (lastValue keySessionId extd).getD []
        invitationId := (lastValue keyInvitationId extd).getD []
        validUntil := strtoll ((lastValue keyValidUntil extd).getD []) } := by
  induction extd using List.reverseRecOn with
  | nil => rfl
  | append_singleton extd kv ih =>
    rw [List.foldl_append, ih, List.foldl_cons, List.foldl_nil, ExtdFields.read]
    simp only [lastValue_append]
    by_cases session : kv.1 = keySessionId
    · have invitation : kv.1 ≠ keyInvitationId := by rw [session]; decide
      have valid : kv.1 ≠ keyValidUntil := by rw [session]; decide
      simp only [if_pos session, if_neg invitation, if_neg valid, Option.getD_some]
    · rw [if_neg session, if_neg session]
      by_cases invitation : kv.1 = keyInvitationId
      · have valid : kv.1 ≠ keyValidUntil := by rw [invitation]; decide
        simp only [if_pos invitation, if_neg valid, Option.getD_some]
      · rw [if_neg invitation, if_neg invitation]
        by_cases valid : kv.1 = keyValidUntil
        · simp only [if_pos valid, Option.getD_some]
        · rw [if_neg valid, if_neg valid]

/-- Either the event is stored, or nothing changes but the histories. -/
theorem push_cases (userId : Int) (n : NotifyWebApiPushEvent) (s : NpHandler) :
    (IsInvitation n ∧ (onWebApiPushEvent userId n s).pendingInvites = fun other =>
      if other = userId then
        KeyedTable.store PendingInvitation.invitationId (invitationOf n s.arrived.length)
          (s.pendingInvites userId)
      else s.pendingInvites other) ∨
    (¬IsInvitation n ∧ (onWebApiPushEvent userId n s).pendingInvites = s.pendingInvites) := by
  rw [onWebApiPushEvent]
  dsimp only
  rw [foldl_read]
  by_cases service : n.npServiceName = serviceSessionInvitation
  · rw [if_pos service]
    split
    · next session =>
      left
      exact ⟨⟨service, session⟩, rfl⟩
    · next unnamed =>
      right
      exact ⟨fun named => unnamed named.2, rfl⟩
  · right
    rw [if_neg service]
    exact ⟨fun named => service named.1, rfl⟩

section Frames

variable (userId : Int) (n : NotifyWebApiPushEvent) (s : NpHandler)

theorem push_histories :
    (onWebApiPushEvent userId n s).arrived = s.arrived ++ [(userId, n)] ∧
      (onWebApiPushEvent userId n s).posted = s.posted ∧
      (onWebApiPushEvent userId n s).accepted = s.accepted := by
  rw [onWebApiPushEvent]
  dsimp only
  split
  · split
    · exact ⟨rfl, rfl, rfl⟩
    · exact ⟨rfl, rfl, rfl⟩
  · exact ⟨rfl, rfl, rfl⟩

end Frames

theorem accept_missing {userId : Int} {invitationId : List UInt8} {s : NpHandler}
    (missing : ∀ p ∈ s.pendingInvites userId, p.invitationId ≠ invitationId) :
    acceptSessionInvitation userId invitationId s = (false, s) := by
  rw [acceptSessionInvitation, KeyedTable.lookup_none.mpr missing]

/-- With one entry for each id the loop erases just that entry. -/
theorem eraseP_distinct {invitationId : List UInt8} {v : List PendingInvitation}
    (distinct : KeyedTable.Distinct PendingInvitation.invitationId v) :
    v.eraseP (fun p => decide (p.invitationId = invitationId)) =
      KeyedTable.remove PendingInvitation.invitationId invitationId v := by
  induction v with
  | nil => rfl
  | cons p rest ih =>
    obtain ⟨fresh, distinct⟩ := List.nodup_cons.mp distinct
    rw [List.eraseP_cons, KeyedTable.remove, List.filter_cons]
    by_cases here : p.invitationId = invitationId
    · have others : rest.filter (fun q => !decide (q.invitationId = invitationId)) = rest := by
        rw [List.filter_eq_self]
        intro q among
        have other : q.invitationId ≠ invitationId := by
          intro same
          exact fresh (List.mem_map.mpr ⟨q, among, same.trans here.symm⟩)
        simp [other]
      simp [here, others]
    · rw [KeyedTable.remove] at ih
      simp [here, ih distinct]

theorem accept_found {userId : Int} {invitationId : List UInt8} {s : NpHandler}
    {p : PendingInvitation}
    (distinct : KeyedTable.Distinct PendingInvitation.invitationId (s.pendingInvites userId))
    (pending : p ∈ s.pendingInvites userId) (named : p.invitationId = invitationId) :
    acceptSessionInvitation userId invitationId s =
      (true, postSessionInvitationEvent userId p.sessionId invitationId p.toNpid p.fromNpid
        p.fromAccountId { declineSessionInvitation userId invitationId s with
          accepted := s.accepted ++ [p.event] }) := by
  subst named
  rw [acceptSessionInvitation, distinct.lookup_of_mem pending]
  dsimp only
  rw [eraseP_distinct distinct]
  rfl

/-! ## The invariant -/

/-- Besides, no accepted event is still pending, and all of them have arrived. -/
structure Inv (s : NpHandler) : Prop where
  consistent : Consistent s
  arrived : ∀ event ∈ s.accepted, event < s.arrived.length
  gone : ∀ userId, ∀ p ∈ s.pendingInvites userId, p.event ∉ s.accepted

theorem IsLatest.lt {arrived : List (Int × NotifyWebApiPushEvent)} {userId : Int}
    {p : PendingInvitation} (latest : IsLatest arrived userId p) : p.event < arrived.length := by
  obtain ⟨n, found, -⟩ := latest
  exact (List.getElem?_eq_some_iff.mp found).1

/-- Entries of one event are the same entry. -/
theorem IsLatest.unique {arrived : List (Int × NotifyWebApiPushEvent)} {userId userId' : Int}
    {p q : PendingInvitation} (latest : IsLatest arrived userId p)
    (latest' : IsLatest arrived userId' q) (same : p.event = q.event) :
    userId = userId' ∧ p = q := by
  obtain ⟨n, found, -, data, -⟩ := latest
  obtain ⟨n', found', -, data', -⟩ := latest'
  rw [same, found'] at found
  obtain ⟨rfl, rfl⟩ := Prod.mk.inj (Option.some.inj found)
  exact ⟨rfl, by rw [data, data', same]⟩

/-- Fewer entries and the same events. -/
theorem Inv.fewer {s : NpHandler} (inv : Inv s) (userId : Int) (invitationId : List UInt8) :
    Inv (declineSessionInvitation userId invitationId s) := by
  have shown : ∀ other, (declineSessionInvitation userId invitationId s).pendingInvites other =
      if other = userId then
        KeyedTable.remove PendingInvitation.invitationId invitationId (s.pendingInvites userId)
      else s.pendingInvites other := fun _ => rfl
  have subset : ∀ other,
      ∀ p ∈ (declineSessionInvitation userId invitationId s).pendingInvites other,
        p ∈ s.pendingInvites other := by
    intro other p pending
    rw [shown] at pending
    split at pending
    · next same => exact same ▸ (KeyedTable.mem_remove.mp pending).1
    · exact pending
  refine ⟨⟨?_, ?_, inv.consistent.once⟩, inv.arrived, ?_⟩
  · intro other
    rw [shown]
    split
    · exact (inv.consistent.single userId).remove
    · exact inv.consistent.single other
  · intro other p pending
    exact inv.consistent.latest other p (subset other p pending)
  · intro other p pending
    exact inv.gone other p (subset other p pending)

theorem IsLatest.append {arrived : List (Int × NotifyWebApiPushEvent)} {userId userId' : Int}
    {n : NotifyWebApiPushEvent} {p : PendingInvitation} (latest : IsLatest arrived userId p)
    (other : userId' = userId → IsInvitation n →
      (invitationOf n arrived.length).invitationId ≠ p.invitationId) :
    IsLatest (arrived ++ [(userId', n)]) userId p := by
  have inside := latest.lt
  obtain ⟨m, found, named, data, last⟩ := latest
  refine ⟨m, ?_, named, data, ?_⟩
  · rw [List.getElem?_append_left inside, found]
  · intro later n' after found' named'
    by_cases early : later < arrived.length
    · rw [List.getElem?_append_left early] at found'
      exact last later n' after found' named'
    · have bound := (List.getElem?_eq_some_iff.mp found').1
      rw [List.length_append, List.length_singleton] at bound
      have here : later = arrived.length := by omega
      subst here
      rw [List.getElem?_concat_length] at found'
      obtain ⟨rfl, rfl⟩ := Prod.mk.inj (Option.some.inj found')
      exact other rfl named'

theorem isLatest_new (arrived : List (Int × NotifyWebApiPushEvent)) (userId : Int)
    {n : NotifyWebApiPushEvent} (named : IsInvitation n) :
    IsLatest (arrived ++ [(userId, n)]) userId (invitationOf n arrived.length) := by
  refine ⟨n, ?_, named, rfl, ?_⟩
  · exact List.getElem?_concat_length
  · intro later m after found
    have bound := (List.getElem?_eq_some_iff.mp found).1
    rw [List.length_append, List.length_singleton] at bound
    change arrived.length < later at after
    omega

theorem Inv.push {s : NpHandler} (inv : Inv s) (userId : Int) (n : NotifyWebApiPushEvent) :
    Inv (onWebApiPushEvent userId n s) := by
  obtain ⟨arrived, -, accepted⟩ := push_histories userId n s
  have early : ∀ event ∈ s.accepted, event < s.arrived.length := inv.arrived
  have within : ∀ event ∈ (onWebApiPushEvent userId n s).accepted,
      event < (onWebApiPushEvent userId n s).arrived.length := by
    intro event among
    rw [accepted] at among
    rw [arrived, List.length_append]
    have before := early event among
    omega
  rcases push_cases userId n s with ⟨named, pending⟩ | ⟨unnamed, pending⟩
  · refine ⟨⟨?_, ?_, ?_⟩, within, ?_⟩
    · intro other
      rw [pending]
      dsimp only
      split
      · exact (inv.consistent.single userId).store
      · exact inv.consistent.single other
    · intro other p among
      rw [pending] at among
      rw [arrived]
      dsimp only at among
      split at among
      · next same =>
        subst same
        rcases KeyedTable.mem_store.mp among with ⟨old, different⟩ | new
        · exact (inv.consistent.latest other p old).append fun _ _ => Ne.symm different
        · rw [new]
          exact isLatest_new s.arrived other named
      · next different =>
        exact (inv.consistent.latest other p among).append fun same => absurd same.symm different
    · rw [accepted]
      exact inv.consistent.once
    · intro other p among
      rw [pending] at among
      rw [accepted]
      dsimp only at among
      split at among
      · next same =>
        rcases KeyedTable.mem_store.mp among with ⟨old, -⟩ | new
        · exact inv.gone userId p old
        · rw [new]
          intro again
          exact absurd (early _ again) (Nat.lt_irrefl _)
      · exact inv.gone other p among
  · refine ⟨⟨?_, ?_, ?_⟩, within, ?_⟩
    · intro other
      rw [pending]
      exact inv.consistent.single other
    · intro other p among
      rw [pending] at among
      rw [arrived]
      exact (inv.consistent.latest other p among).append fun _ named => absurd named unnamed
    · rw [accepted]
      exact inv.consistent.once
    · intro other p among
      rw [pending] at among
      rw [accepted]
      exact inv.gone other p among

theorem Inv.accept {s : NpHandler} (inv : Inv s) (userId : Int) (invitationId : List UInt8) :
    Inv (acceptSessionInvitation userId invitationId s).2 := by
  by_cases found : ∃ p ∈ s.pendingInvites userId, p.invitationId = invitationId
  · obtain ⟨p, pending, named⟩ := found
    have latest := inv.consistent.latest userId p pending
    have fewer := inv.fewer userId invitationId
    rw [accept_found (inv.consistent.single userId) pending named]
    refine ⟨⟨fewer.consistent.single, fewer.consistent.latest, ?_⟩, ?_, ?_⟩
    · change (s.accepted ++ [p.event]).Nodup
      rw [List.nodup_append]
      refine ⟨inv.consistent.once, List.nodup_singleton _, ?_⟩
      intro event among event' last same
      rw [List.mem_singleton.mp last] at same
      exact inv.gone userId p pending (same ▸ among)
    · intro event among
      rcases List.mem_append.mp among with old | new
      · exact inv.arrived event old
      · rw [List.mem_singleton.mp new]
        exact latest.lt
    · intro other q left among
      rcases List.mem_append.mp among with old | new
      · exact fewer.gone other q left old
      · -- the entry of the accepted event is the one that was erased
        have same := List.mem_singleton.mp new
        obtain ⟨rfl, rfl⟩ := (fewer.consistent.latest other q left).unique latest same
        have shown : (declineSessionInvitation other invitationId s).pendingInvites other =
            KeyedTable.remove PendingInvitation.invitationId invitationId
              (s.pendingInvites other) := if_pos rfl
        have kept : q ∈ (declineSessionInvitation other invitationId s).pendingInvites other := left
        rw [shown] at kept
        exact (KeyedTable.mem_remove.mp kept).2 named
  · have missing : ∀ p ∈ s.pendingInvites userId, p.invitationId ≠ invitationId := by
      intro p pending named
      exact found ⟨p, pending, named⟩
    rw [accept_missing missing]
    exact inv

theorem Inv.step {s : NpHandler} (inv : Inv s) (op : Op) : Inv (step op s) := by
  cases op with
  | push userId n => exact inv.push userId n
  | accept userId invitationId now => exact inv.accept userId invitationId
  | decline userId invitationId => exact inv.fewer userId invitationId
  | list userId now => exact inv

/-! ## Accepting -/

theorem strncpy_eq_iff {count : Nat} {text : List UInt8} :
    strncpy count text = text ↔ 0 ∉ text ∧ text.length ≤ count := by
  constructor
  · intro same
    have short : (strncpy count text).length ≤ count := by
      rw [strncpy, List.length_take]
      omega
    have clean : 0 ∉ strncpy count text := by
      intro among
      have passed := List.mem_takeWhile_imp (List.mem_of_mem_take among)
      exact absurd passed (by decide)
    rw [same] at short clean
    exact ⟨clean, short⟩
  · rintro ⟨clean, short⟩
    have whole : text.takeWhile (· ≠ 0) = text := by
      rw [List.takeWhile_eq_self_iff]
      intro c among
      simp only [decide_eq_true_eq]
      rintro rfl
      exact clean among
    rw [strncpy, whole, List.take_of_length_le short]

theorem getPendingInvitations_iff {userId now : Int} {s : NpHandler} {p : PendingInvitation} :
    p ∈ getPendingInvitations userId now s ↔ p ∈ s.pendingInvites userId ∧ Current now p := by
  rw [getPendingInvitations, List.mem_filter, decide_eq_true_eq]

theorem acceptLawful_iff {s : NpHandler} (inv : Inv s) (userId : Int) (invitationId : List UInt8)
    (now : Int) :
    AcceptLawful userId invitationId now s ↔ ∀ p ∈ s.pendingInvites userId,
      p.invitationId = invitationId → Current now p ∧ FitsEvent p.sessionId := by
  by_cases found : ∃ p ∈ s.pendingInvites userId, p.invitationId = invitationId
  · obtain ⟨p, pending, named⟩ := found
    have distinct := inv.consistent.single userId
    have only : ∀ q ∈ s.pendingInvites userId, q.invitationId = invitationId → q = p := by
      intro q pending' named'
      exact distinct.eq_of_key pending' pending (named'.trans named.symm)
    have done := accept_found distinct pending named
    constructor
    · intro lawful q pending' named'
      obtain rfl := only q pending' named'
      have succeeds : (acceptSessionInvitation userId invitationId s).1 = true := by
        rw [done]
      constructor
      · obtain ⟨r, shown, same⟩ := lawful.listed.mp succeeds
        obtain ⟨pending'', current⟩ := getPendingInvitations_iff.mp shown
        exact only r pending'' same ▸ current
      · obtain ⟨r, pending'', same, -, event, posted, -, session⟩ := lawful.posts succeeds
        obtain rfl := only r pending'' same
        rw [done] at posted
        have last := List.append_cancel_left posted
        rw [← (List.cons.inj last).1] at session
        exact strncpy_eq_iff.mp session
    · intro ready
      obtain ⟨current, fits⟩ := ready p pending named
      refine ⟨?_, ?_, ?_⟩
      · rw [done]
        exact ⟨fun _ => ⟨p, getPendingInvitations_iff.mpr ⟨pending, current⟩, named⟩, fun _ => rfl⟩
      · intro _
        rw [done]
        exact ⟨p, pending, named, rfl, _, rfl, rfl, strncpy_eq_iff.mpr fits⟩
      · intro failed
        rw [done] at failed
        exact nomatch failed
  · have missing : ∀ p ∈ s.pendingInvites userId, p.invitationId ≠ invitationId := by
      intro p pending named
      exact found ⟨p, pending, named⟩
    have failed := accept_missing missing
    constructor
    · intro _ p pending named
      exact absurd named (missing p pending)
    · intro _
      refine ⟨?_, ?_, ?_⟩
      · rw [failed]
        constructor
        · intro impossible
          exact nomatch impossible
        · rintro ⟨p, shown, named⟩
          exact absurd named (missing p (getPendingInvitations_iff.mp shown).1)
      · intro succeeds
        rw [failed] at succeeds
        exact nomatch succeeds
      · intro _
        rw [failed]

theorem lawful_iff_ready {s : NpHandler} (inv : Inv s) (op : Op) :
    Lawful op s (step op s) ↔ Ready op s := by
  cases op with
  | push userId n =>
    obtain ⟨-, posted, -⟩ := push_histories userId n s
    exact ⟨fun _ => trivial, fun _ => posted⟩
  | accept userId invitationId now => exact acceptLawful_iff inv userId invitationId now
  | decline userId invitationId => exact ⟨fun _ => trivial, fun _ => rfl⟩
  | list userId now => exact ⟨fun _ => trivial, fun _ => rfl⟩

theorem inv_start : Inv {} where
  consistent :=
    ⟨fun _ => List.nodup_nil, fun _ _ pending => (nomatch pending), List.nodup_nil⟩
  arrived _ among := nomatch among
  gone _ _ pending := nomatch pending

/-- The lists are consistent in every state of every run; the calls are lawful just when every
invitation that is accepted is ready for it. -/
theorem invitations_lawful_iff (ops : List Op) :
    Runs.Throughout step Consistent (fun _ _ _ => True) ops {} ∧
    (Runs.Throughout step Consistent Lawful ops {} ↔ Runs.Admitted step Ready ops {}) := by
  constructor
  · have always : Runs.Admitted step (fun _ _ => True) ops {} :=
      Runs.admitted_always (fun _ _ => trivial) ops _
    exact Runs.throughout_of_admitted (fun s (inv : Inv s) => inv.consistent)
      (fun op s inv _ => ⟨Inv.step inv op, trivial⟩) inv_start always
  · exact Runs.throughout_iff_admitted (fun s (inv : Inv s) => inv.consistent)
      (fun op _ inv ready => ⟨Inv.step inv op, (lawful_iff_ready inv op).mpr ready⟩)
      (fun op _ inv lawful => (lawful_iff_ready inv op).mp lawful) inv_start

/-- An invitation to session `s` with id `i` that expires at time 1. -/
def shortInvitation : NotifyWebApiPushEvent :=
  { npServiceName := serviceSessionInvitation
    extdData := [(keySessionId, [115]), (keyInvitationId, [105]), (keyValidUntil, [49])] }

/-- An invitation is accepted after it has expired. -/
theorem expired_invitation_is_accepted :
    ¬Runs.Throughout step Consistent Lawful [.push 1 shortInvitation, .accept 1 [105] 2] {} := by
  rintro ⟨-, -, -, lawful, -⟩
  have shown : getPendingInvitations 1 2 (step (.push 1 shortInvitation) {}) = [] := by
    decide
  have accepted :
      (acceptSessionInvitation 1 [105] (step (.push 1 shortInvitation) {})).1 = true := by
    decide
  obtain ⟨p, among, -⟩ := lawful.listed.mp accepted
  rw [shown] at among
  exact nomatch among

end SessionInvitations
