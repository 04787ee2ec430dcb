import ShadNet.Client.Greeting
import ShadNet.Handles

/-!
# Pools, resolvers and sockets of a connection

DoConnect and ProbeServer make a net pool, a resolver and a socket one after the other, each in its
own copy of the code, and ConnectThread repeats DoConnect. What the network calls return is an
input; what the calls that release a handle return is only logged. The greeting on the connected
socket is the one of `ShadNetClient.doConnect` and `ShadNetClient.probeServer`.
-/

namespace ShadNetClient.Connections

open Handles

inductive Resource where
  | netPool
  | resolver
  | socket
  deriving DecidableEq

/-- What the network calls of one attempt return, in the order in which they are made. -/
structure NetCalls where
  netPoolCreate : Int
  resolverCreate : Int
  resolverStartNtoa : Int
  socket : Int
  nonBlocking : Int
  connect : Int
  /-- errno is EINPROGRESS behind the connect. -/
  inProgress : Bool
  select : Int
  soError : Int
  blocking : Int
  rcvTimeout : Int
  chunks : List (Arrivals.Chunk UInt8)

/-- The connect and the select that waits for it. -/
def NetCalls.connected (calls : NetCalls) : Bool :=
  (calls.connect == 0 || (decide (calls.connect < 0) && calls.inProgress)) &&
    decide (0 < calls.select) && calls.soError == 0

/-- A client with its open socket and all the handles made so far. -/
structure Client where
  client : Connecting := {}
  mSock : Option Nat := none
  handles : History Resource := []

namespace Client

def enter (state : ShadNetState) (c : Client) : Client :=
  { c with client := { c.client with toState := { c.client.toState with state } } }

def seeing (terminate : Bool) (c : Client) : Client :=
  { c with client := { c.client with toState := { c.client.toState with terminate } } }

/-- Nothing has arrived on a new socket. -/
def setSock (mSock : Option Nat) (c : Client) : Client :=
  { c with
    mSock
    client := { c.client with
      toState := { c.client.toState with sock := mSock.map fun _ => [] } } }

end Client

/-- The look-up of the host, the same in both. -/
def resolve (calls : NetCalls) (history : History Resource) : Bool × History Resource :=
  if calls.netPoolCreate < 0 then (false, history)
  else
    let netPool := make .netPool history
    if calls.resolverCreate < 0 then (false, netPool.2)
    else
      let resolver := make .resolver netPool.2
      if calls.resolverStartNtoa ≠ 0 then (false, resolver.2)
      else (true, release netPool.1 (release resolver.1 resolver.2))

def doDisconnect (c : Client) : Client :=
  match c.mSock with
  | none => c
  | some sock =>
    { c with
      mSock := none
      handles := release sock c.handles
      client := { c.client with toState := ShadNetClient.doDisconnect c.client.toState } }

section DoConnect

variable (wide : WideRecv)

def doConnect (calls : NetCalls) (c : Client) : Bool × Client :=
  let c := c.enter .ok
  let resolved := resolve calls c.handles
  let c := { c with handles := resolved.2 }
  if resolved.1 = false then (false, c.enter .failureConnect)
  else if calls.socket = -1 then (false, (c.setSock none).enter .failureConnect)
  else
    let sock := make .socket c.handles
    let c := ({ c with handles := sock.2 }).setSock (some sock.1)
    -- the socket stays open, and in m_sock
    if calls.nonBlocking ≠ 0 then (false, c.enter .failureConnect)
    else if calls.connected = false then
      (false, (({ c with handles := release sock.1 c.handles }).setSock none).enter .failureConnect)
    else
      let greeted := ShadNetClient.doConnect wide calls.chunks c.client
      -- the greeting's own DoDisconnect has closed the socket, or it is still open
      let closed := if greeted.2.sock.isNone then doDisconnect c else c
      (greeted.1, { closed with client := greeted.2 })

/-- One round of ConnectThread's loop: what its attempt gets, and m_terminate as it is seen on the
way. -/
structure Attempt where
  calls : NetCalls
  terminateBefore : Bool
  terminateDuring : Bool
  terminateAfter : Bool

/-- The loop with that many attempts left. -/
def connectLoop (attempts : Nat → Attempt) : Nat → Nat → Client → Bool × Client
  | 0, _, c => (false, c)
  | left + 1, n, c =>
    if (attempts n).terminateBefore then (false, c)
    else
      let done := doConnect wide (attempts n).calls (c.seeing (attempts n).terminateDuring)
      if done.1 then (true, done.2)
      else if done.2.client.state = .failureProtocol then (false, done.2)
      else if (attempts n).terminateAfter ∨ left = 0 then (false, done.2)
      else connectLoop attempts left (n + 1) done.2

def shadConnectMaxAttempts : Nat := 4

/-- ConnectThread up to the start of the other threads. -/
def connectThread (attempts : Nat → Attempt) (c : Client) : Bool × Client :=
  connectLoop wide attempts shadConnectMaxAttempts 1 c

/-- The attempts that the loop makes. -/
def attemptsMade (attempts : Nat → Attempt) : Nat → Nat → Client → List NetCalls
  | 0, _, _ => []
  | left + 1, n, c =>
    if (attempts n).terminateBefore then []
    else
      let done := doConnect wide (attempts n).calls (c.seeing (attempts n).terminateDuring)
      if done.1 then [(attempts n).calls]
      else if done.2.client.state = .failureProtocol then [(attempts n).calls]
      else if (attempts n).terminateAfter ∨ left = 0 then [(attempts n).calls]
      else (attempts n).calls :: attemptsMade attempts left (n + 1) done.2

end DoConnect

section ProbeServer

variable (notConnected : Int)

structure ProbeCalls extends NetCalls where
  getInfo : Int
  link : Int

/-- `notConnected` is the code of sceNetCtlGetInfo for a console without a network. -/
def ProbeCalls.offline (calls : ProbeCalls) : Prop :=
  calls.getInfo = notConnected ∨ (calls.getInfo = 0 ∧ calls.link = 0)

instance (calls : ProbeCalls) : Decidable (calls.offline notConnected) :=
  inferInstanceAs (Decidable (_ ∨ _))

/-- ProbeServer behind the receive timeout, with the close of each exit. -/
def probeGreeting (chunks : List (Arrivals.Chunk UInt8)) (sock : Nat)
    (history : History Resource) : ProbeInfo × History Resource :=
  let info : ProbeInfo := { result := .protocolError }
  let header := Arrivals.recvN shadHeaderSize chunks
  match header.1 with
  | none => (info, release sock history)
  | some hdr =>
    if hdr.headD 0 ≠ PacketType.serverInfo.code then (info, release sock history)
    else
      let totalSz := (getLE32 hdr 3).toNat
      if totalSz < shadHeaderSize ∨ totalSz > shadMaxPacketSize then (info, release sock history)
      else
        let payloadSz := totalSz - shadHeaderSize
        match (Arrivals.recvN payloadSz header.2).1 with
        | none => (info, release sock history)
        | some payload =>
          let history := release sock history
          if payloadSz < 4 then ({ info with result := .ok }, history)
          else
            let info := { info with serverVersion := getLE32 payload 0 }
            if info.serverVersion ≠ shadProtocolVersion then
              ({ info with result := .versionMismatch }, history)
            else ({ info with result := .ok }, history)

def probeServer (host : String) (calls : ProbeCalls) (history : History Resource) :
    ProbeInfo × History Resource :=
  if host.isEmpty then ({}, history)
  else if calls.offline notConnected then ({}, history)
  else
    let resolved := resolve calls.toNetCalls history
    if resolved.1 = false then ({}, resolved.2)
    else if calls.socket = -1 then ({}, resolved.2)
    else
      let sock := make .socket resolved.2
      if calls.nonBlocking ≠ 0 then ({}, sock.2)
      else if calls.connected = false then ({}, release sock.1 sock.2)
      else if calls.blocking ≠ 0 then ({}, sock.2)
      else if calls.rcvTimeout ≠ 0 then ({}, sock.2)
      else probeGreeting calls.chunks sock.1 sock.2

end ProbeServer

/-! ## What is to hold -/

/-- A failed attempt leaves nothing, and a successful one its socket, for DoDisconnect to release
once. -/
structure Settles (wide : WideRecv) (calls : NetCalls) (c : Client) : Prop where
  failed : (doConnect wide calls c).1 = false →
    Settled c.handles (doConnect wide calls c).2.handles
  connected : (doConnect wide calls c).1 = true → ∃ sock,
    (doConnect wide calls c).2.mSock = some sock ∧
    OnlyLeft sock c.handles (doConnect wide calls c).2.handles ∧
    Settled c.handles (doDisconnect (doConnect wide calls c).2).handles ∧
    (doDisconnect (doDisconnect (doConnect wide calls c).2)).handles =
      (doDisconnect (doConnect wide calls c).2).handles

/-- All the attempts of one thread together leave at most the socket of the last. -/
structure ThreadSettles (wide : WideRecv) (attempts : Nat → Attempt) (left n : Nat) (c : Client) :
    Prop where
  failed : (connectLoop wide attempts left n c).1 = false →
    Settled c.handles (connectLoop wide attempts left n c).2.handles
  connected : (connectLoop wide attempts left n c).1 = true → ∃ sock,
    (connectLoop wide attempts left n c).2.mSock = some sock ∧
    OnlyLeft sock c.handles (connectLoop wide attempts left n c).2.handles

/-- The look-up succeeds, or fails at its first call. -/
def CleanLookup (calls : NetCalls) : Prop :=
  calls.netPoolCreate < 0 ∨ (0 ≤ calls.resolverCreate ∧ calls.resolverStartNtoa = 0)

/-- The attempt does not reach the step that makes the socket. -/
def NoSocket (calls : NetCalls) : Prop :=
  calls.netPoolCreate < 0 ∨ calls.socket = -1

def Clean (calls : NetCalls) : Prop :=
  CleanLookup calls ∧ (NoSocket calls ∨ calls.nonBlocking = 0)

/-- The probe asks for nothing, or all its options can be set as far as it comes to them. -/
def ProbeClean (notConnected : Int) (host : String) (calls : ProbeCalls) : Prop :=
  host.isEmpty ∨ calls.offline notConnected ∨
    (CleanLookup calls.toNetCalls ∧
      (NoSocket calls.toNetCalls ∨
        (calls.nonBlocking = 0 ∧
          (calls.connected = false ∨ (calls.blocking = 0 ∧ calls.rcvTimeout = 0)))))

/-! ## The look-up -/

theorem resolve_cases (calls : NetCalls) (history : History Resource) :
    (¬CleanLookup calls ∧ ∃ held, resolve calls history = (false, history ++ held) ∧
      ∃ made ∈ held, made.releases = 0) ∨
    (calls.netPoolCreate < 0 ∧ resolve calls history = (false, history)) ∨
    (0 ≤ calls.netPoolCreate ∧ CleanLookup calls ∧
      resolve calls history = (true, history ++ [⟨.netPool, 1⟩, ⟨.resolver, 1⟩])) := by
  rw [resolve, CleanLookup]
  by_cases noPool : calls.netPoolCreate < 0
  · exact .inr (.inl ⟨noPool, if_pos noPool⟩)
  · rw [if_neg noPool]
    by_cases noResolver : calls.resolverCreate < 0
    · left
      refine ⟨by omega, [⟨.netPool, 0⟩], if_pos noResolver, ⟨.netPool, 0⟩, ?_, rfl⟩
      exact List.mem_singleton_self _
    · rw [if_neg noResolver]
      by_cases unresolved : calls.resolverStartNtoa ≠ 0
      · left
        refine ⟨by omega, [⟨.netPool, 0⟩, ⟨.resolver, 0⟩], ?_, ⟨.netPool, 0⟩, ?_, rfl⟩
        · rw [if_pos unresolved]
          simp only [make, List.append_assoc, List.cons_append, List.nil_append]
        · exact List.mem_cons_self
      · right
        right
        refine ⟨by omega, by omega, ?_⟩
        rw [if_neg unresolved]
        have resolver : release (history ++ [(⟨.netPool, 0⟩ : Made Resource)]).length
            (history ++ [⟨.netPool, 0⟩] ++ [⟨.resolver, 0⟩]) =
              history ++ [⟨.netPool, 0⟩] ++ [⟨.resolver, 1⟩] :=
          release_at _ [] _
        simp only [make, resolver]
        rw [List.append_assoc]
        exact congrArg _ (release_at history [⟨.resolver, 1⟩] ⟨.netPool, 0⟩)

/-! ## One attempt -/

theorem received_open (n : Nat) {chunks : List (Arrivals.Chunk UInt8)} {c : State}
    (opened : c.sock = some chunks) : ∃ rest, (received n c).2 = some rest := by
  rw [received, opened]
  split
  · exact ⟨chunks, rfl⟩
  · split
    · exact ⟨chunks, rfl⟩
    · exact ⟨_, rfl⟩

theorem recvAnnounced_open (wide : WideRecv) (n : Nat) {chunks : List (Arrivals.Chunk UInt8)}
    {c : State} (opened : c.sock = some chunks) :
    ∃ rest, (recvAnnounced wide n c).2.sock = some rest := by
  rw [recvAnnounced]
  split
  · exact received_open n opened
  · split
    · exact ⟨chunks, opened⟩
    · rw [opened]
      exact ⟨_, rfl⟩

/-- The greeting closes the socket just when it fails. -/
theorem greeted_sock (wide : WideRecv) (chunks : List (Arrivals.Chunk UInt8)) (c : Connecting) :
    (ShadNetClient.doConnect wide chunks c).2.sock.isNone =
      !(ShadNetClient.doConnect wide chunks c).1 := by
  obtain ⟨rest, first⟩ := received_open shadHeaderSize
    (show ({ c.toState with sock := some chunks } : State).sock = some chunks from rfl)
  have opened : ∀ n, (recvAnnounced wide n
      (recvN shadHeaderSize { c.toState with sock := some chunks }).2).2.sock.isNone = false := by
    intro n
    have read : (recvN shadHeaderSize { c.toState with sock := some chunks }).2.sock =
      some rest := first
    obtain ⟨later, still⟩ := recvAnnounced_open wide n read
    rw [still]
    rfl
  rw [ShadNetClient.doConnect]
  dsimp only
  split
  · rfl
  · next hdr _ =>
    generalize (if (getLE32 hdr 3).toNat > shadHeaderSize then
      (getLE32 hdr 3).toNat - shadHeaderSize else 0) = payloadSz
    split
    · rfl
    · split
      · rfl
      · split
        · split
          · rfl
          · exact opened _
        · exact opened _

theorem settled_socket (history : History Resource) {gone : History Resource}
    (settled : ∀ made ∈ gone, made.releases = 1) :
    release (history ++ gone).length (history ++ gone ++ [⟨.socket, 0⟩]) =
        history ++ (gone ++ [⟨.socket, 1⟩]) ∧
      ∀ made ∈ gone ++ [(⟨.socket, 1⟩ : Made Resource)], made.releases = 1 := by
  constructor
  · rw [release_at (history ++ gone) [] ⟨.socket, 0⟩, List.append_assoc]
    rfl
  · intro made among
    rcases List.mem_append.mp among with early | last
    · exact settled made early
    · rw [List.mem_singleton.mp last]

/-- An attempt that is not clean leaves a handle behind; a clean one fails and leaves none, or
succeeds and leaves the socket. -/
theorem doConnect_cases (wide : WideRecv) (calls : NetCalls) (c : Client) :
    (¬Clean calls ∧ (doConnect wide calls c).1 = false ∧ ∃ held,
      (doConnect wide calls c).2.handles = c.handles ++ held ∧ ∃ made ∈ held, made.releases = 0) ∨
    (Clean calls ∧ (doConnect wide calls c).1 = false ∧ ∃ gone,
      (doConnect wide calls c).2.handles = c.handles ++ gone ∧
        ∀ made ∈ gone, made.releases = 1) ∨
    (Clean calls ∧ (doConnect wide calls c).1 = true ∧ ∃ gone,
      (doConnect wide calls c).2.handles = c.handles ++ gone ++ [⟨.socket, 0⟩] ∧
        (∀ made ∈ gone, made.releases = 1) ∧
        (doConnect wide calls c).2.mSock = some (c.handles ++ gone).length) := by
  rw [doConnect]
  dsimp only
  rcases resolve_cases calls (c.enter .ok).handles with
    ⟨unclean, held, resolved, made, among, left⟩ | ⟨noPool, resolved⟩ |
      ⟨pool, lookup, resolved⟩
  · left
    rw [resolved]
    exact ⟨fun clean => unclean clean.1, rfl, held, rfl, made, among, left⟩
  · right
    left
    rw [resolved]
    exact ⟨⟨.inl noPool, .inl (.inl noPool)⟩, rfl, [], (List.append_nil _).symm,
      fun _ none => nomatch none⟩
  · rw [resolved, if_neg (show ¬true = false by decide)]
    have both : ∀ made ∈ [(⟨.netPool, 1⟩ : Made Resource), ⟨.resolver, 1⟩],
        made.releases = 1 := by
      decide
    by_cases noSocket : calls.socket = -1
    · right
      left
      rw [if_pos noSocket]
      exact ⟨⟨lookup, .inl (.inr noSocket)⟩, rfl, _, rfl, both⟩
    · rw [if_neg noSocket]
      by_cases blocks : calls.nonBlocking ≠ 0
      · left
        rw [if_pos blocks]
        refine ⟨?_, rfl, [⟨.netPool, 1⟩, ⟨.resolver, 1⟩, ⟨.socket, 0⟩], ?_, ⟨.socket, 0⟩, ?_, rfl⟩
        · rintro ⟨-, (noPool | none) | option⟩
          · omega
          · exact noSocket none
          · exact blocks option
        · exact List.append_assoc _ _ _
        · exact List.mem_cons_of_mem _ (List.mem_cons_of_mem _ List.mem_cons_self)
      · have clean : Clean calls := ⟨lookup, .inr (not_not.mp blocks)⟩
        obtain ⟨same, settled⟩ := settled_socket c.handles both
        rw [if_neg blocks]
        by_cases unconnected : calls.connected = false
        · right
          left
          rw [if_pos unconnected]
          exact ⟨clean, rfl, _, same, settled⟩
        · right
          rw [if_neg unconnected, greeted_sock]
          generalize ShadNetClient.doConnect wide calls.chunks _ = greeted
          cases accepted : greeted.1 with
          | false =>
            left
            exact ⟨clean, rfl, _, same, settled⟩
          | true =>
            right
            exact ⟨clean, rfl, _, rfl, both, rfl⟩

/-! ## Any number of attempts -/

/-- The socket of an attempt that succeeded. -/
def remaining (connected : Bool) : History Resource := if connected then [⟨.socket, 0⟩] else []

/-- What one attempt, or a sequence of them, leaves of the handles it made. -/
def Leaves (before : History Resource) (outcome : Bool × Client) (clean : Prop) : Prop :=
  ∃ gone, outcome.2.handles = before ++ gone ++ remaining outcome.1 ∧
    ((∀ made ∈ gone, made.releases = 1) ↔ clean) ∧
    (outcome.1 = true → outcome.2.mSock = some (before ++ gone).length)

theorem doConnect_leaves (wide : WideRecv) (calls : NetCalls) (c : Client) :
    Leaves c.handles (doConnect wide calls c) (Clean calls) := by
  rcases doConnect_cases wide calls c with ⟨unclean, failed, held, kept, made, among, left⟩ |
      ⟨clean, failed, gone, kept, settled⟩ | ⟨clean, connected, gone, kept, settled, sock⟩
  · refine ⟨held, ?_, ?_, fun connected => nomatch failed.symm.trans connected⟩
    · rw [kept, failed]
      exact (List.append_nil _).symm
    · constructor
      · intro settled
        exact nomatch left.symm.trans (settled made among)
      · intro clean
        exact absurd clean unclean
  · refine ⟨gone, ?_, ⟨fun _ => clean, fun _ => settled⟩,
      fun connected => nomatch failed.symm.trans connected⟩
    rw [kept, failed]
    exact (List.append_nil _).symm
  · refine ⟨gone, ?_, ⟨fun _ => clean, fun _ => settled⟩, fun _ => sock⟩
    rw [kept, connected]
    rfl

/-- A failed attempt and what comes behind it. -/
theorem Leaves.behind {before : History Resource} {failed later : Bool × Client}
    {clean clean' : Prop} (first : Leaves before failed clean) (unconnected : failed.1 = false)
    (second : Leaves failed.2.handles later clean') :
    Leaves before later (clean ∧ clean') := by
  obtain ⟨gone, kept, settled, -⟩ := first
  obtain ⟨gone', kept', settled', sock⟩ := second
  have base : failed.2.handles = before ++ gone := by
    rw [kept, unconnected]
    exact List.append_nil _
  rw [base, List.append_assoc before gone gone'] at kept' sock
  refine ⟨gone ++ gone', kept', ?_, sock⟩
  rw [← settled, ← settled']
  exact List.forall_mem_append

theorem Leaves.of_iff {before : History Resource} {outcome : Bool × Client} {clean clean' : Prop}
    (leaves : Leaves before outcome clean) (same : clean ↔ clean') :
    Leaves before outcome clean' := by
  obtain ⟨gone, kept, settled, sock⟩ := leaves
  exact ⟨gone, kept, settled.trans same, sock⟩

theorem connectLoop_leaves (wide : WideRecv) (attempts : Nat → Attempt) (left n : Nat)
    (c : Client) :
    Leaves c.handles (connectLoop wide attempts left n c)
      (∀ calls ∈ attemptsMade wide attempts left n c, Clean calls) := by
  have none : ∀ c : Client, Leaves c.handles (false, c) (∀ calls ∈ [], Clean calls) := by
    intro c
    refine ⟨[], ?_, ?_, fun connected => nomatch connected⟩
    · rw [List.append_nil]
      exact (List.append_nil _).symm
    · constructor <;> (intro _ _ among; exact nomatch among)
  induction left generalizing n c with
  | zero => exact none c
  | succ left ih =>
    rw [connectLoop, attemptsMade]
    by_cases stopped : (attempts n).terminateBefore
    · rw [if_pos stopped, if_pos stopped]
      exact none c
    · rw [if_neg stopped, if_neg stopped]
      have one := doConnect_leaves wide (attempts n).calls (c.seeing (attempts n).terminateDuring)
      dsimp only
      generalize doConnect wide (attempts n).calls _ = done at one ⊢
      have alone : Leaves c.handles done (∀ calls ∈ [(attempts n).calls], Clean calls) :=
        one.of_iff List.forall_mem_singleton.symm
      by_cases connected : done.1
      · rw [if_pos connected, if_pos connected]
        have same : (true, done.2) = done := Prod.ext connected.symm rfl
        rw [same]
        exact alone
      · have same : (false, done.2) = done := Prod.ext (by simpa using connected) rfl
        rw [if_neg connected, if_neg connected, same]
        by_cases protocol : done.2.client.state = .failureProtocol
        · rw [if_pos protocol, if_pos protocol]
          exact alone
        · rw [if_neg protocol, if_neg protocol]
          by_cases last : (attempts n).terminateAfter ∨ left = 0
          · rw [if_pos last, if_pos last]
            exact alone
          · rw [if_neg last, if_neg last]
            exact (one.behind (by simpa using connected) (ih (n + 1) done.2)).of_iff
              List.forall_mem_cons.symm

/-- Nothing but the socket of a connection is left just when it was clean. -/
theorem Leaves.settled_iff {before : History Resource} {outcome : Bool × Client} {clean : Prop}
    (leaves : Leaves before outcome clean) :
    ((outcome.1 = false → Settled before outcome.2.handles) ∧
      (outcome.1 = true → ∃ sock, outcome.2.mSock = some sock ∧
        OnlyLeft sock before outcome.2.handles)) ↔ clean := by
  obtain ⟨gone, kept, settled, sock⟩ := leaves
  rw [kept, ← settled]
  cases result : outcome.1 with
  | false =>
    change ((false = false → Settled before (before ++ gone ++ [])) ∧ _) ↔ _
    rw [List.append_nil, settled_append]
    constructor
    · rintro ⟨failed, -⟩
      exact failed rfl
    · intro all
      exact ⟨fun _ => all, fun connected => nomatch connected⟩
  | true =>
    constructor
    · rintro ⟨-, connected⟩
      obtain ⟨handle, -, gone', kind, same, all, -⟩ := connected rfl
      have front := List.append_inj_left' same rfl
      rwa [List.append_cancel_left front]
    · intro all
      exact ⟨fun failed => (nomatch failed),
        fun _ => ⟨_, sock result, gone, .socket, rfl, all, rfl⟩⟩

theorem doDisconnect_only {c : Client} {before : History Resource} {sock : Nat}
    (held : c.mSock = some sock) (only : OnlyLeft sock before c.handles) :
    Settled before (doDisconnect c).handles ∧
      (doDisconnect (doDisconnect c)).handles = (doDisconnect c).handles := by
  obtain ⟨gone, kind, kept, settled, rfl⟩ := only
  rw [doDisconnect, held]
  refine ⟨?_, rfl⟩
  change Settled before (release (before ++ gone).length c.handles)
  rw [kept, release_at, List.append_assoc, settled_append]
  intro made among
  rcases List.mem_append.mp among with early | last
  · exact settled made early
  · rw [List.mem_singleton.mp last]
    rfl

theorem settles_iff (wide : WideRecv) (calls : NetCalls) (c : Client) :
    Settles wide calls c ↔ Clean calls := by
  rw [← (doConnect_leaves wide calls c).settled_iff]
  constructor
  · rintro ⟨failed, connected⟩
    refine ⟨failed, ?_⟩
    intro result
    obtain ⟨sock, held, only, -⟩ := connected result
    exact ⟨sock, held, only⟩
  · rintro ⟨failed, connected⟩
    refine ⟨failed, ?_⟩
    intro result
    obtain ⟨sock, held, only⟩ := connected result
    exact ⟨sock, held, only, doDisconnect_only held only⟩

theorem threadSettles_iff (wide : WideRecv) (attempts : Nat → Attempt) (left n : Nat)
    (c : Client) :
    ThreadSettles wide attempts left n c ↔
      ∀ calls ∈ attemptsMade wide attempts left n c, Clean calls := by
  rw [← (connectLoop_leaves wide attempts left n c).settled_iff]
  constructor
  · rintro ⟨failed, connected⟩
    exact ⟨failed, connected⟩
  · rintro ⟨failed, connected⟩
    exact ⟨failed, connected⟩

/-! ## The probe -/

theorem probeGreeting_eq (chunks : List (Arrivals.Chunk UInt8)) (sock : Nat)
    (history : History Resource) :
    probeGreeting chunks sock history =
      (ShadNetClient.probeServer (some chunks), release sock history) := by
  rw [probeGreeting, ShadNetClient.probeServer]
  dsimp only
  cases (Arrivals.recvN shadHeaderSize chunks).1 with
  | none => rfl
  | some hdr =>
    dsimp only
    by_cases foreign : hdr.headD 0 ≠ PacketType.serverInfo.code
    · rw [if_pos foreign, if_pos foreign]
    · rw [if_neg foreign, if_neg foreign]
      split
      · rfl
      · cases (Arrivals.recvN ((getLE32 hdr 3).toNat - shadHeaderSize)
          (Arrivals.recvN shadHeaderSize chunks).2).1 with
        | none => rfl
        | some payload =>
          dsimp only
          split
          · rfl
          · split <;> rfl

theorem probeServer_leaves (notConnected : Int) (host : String) (calls : ProbeCalls)
    (history : History Resource) :
    ∃ added, (probeServer notConnected host calls history).2 = history ++ added ∧
      ((∀ made ∈ added, made.releases = 1) ↔ ProbeClean notConnected host calls) := by
  have nothing : ∀ {clean : Prop}, clean →
      ((∀ made ∈ ([] : History Resource), made.releases = 1) ↔ clean) := by
    intro clean holds
    constructor
    · intro _
      exact holds
    · intro _ made none
      exact nomatch none
  rw [probeServer]
  by_cases unnamed : host.isEmpty
  · rw [if_pos unnamed]
    exact ⟨[], (List.append_nil _).symm, nothing (.inl unnamed)⟩
  · rw [if_neg unnamed]
    by_cases offline : calls.offline notConnected
    · rw [if_pos offline]
      exact ⟨[], (List.append_nil _).symm, nothing (.inr (.inl offline))⟩
    · rw [if_neg offline]
      have online : ProbeClean notConnected host calls ↔ CleanLookup calls.toNetCalls ∧
          (NoSocket calls.toNetCalls ∨ (calls.nonBlocking = 0 ∧
            (calls.connected = false ∨ (calls.blocking = 0 ∧ calls.rcvTimeout = 0)))) := by
        rw [ProbeClean, or_iff_right unnamed, or_iff_right offline]
      rw [online]
      dsimp only
      rcases resolve_cases calls.toNetCalls history with
        ⟨unclean, held, resolved, made, among, left⟩ | ⟨noPool, resolved⟩ |
          ⟨pool, lookup, resolved⟩
      · rw [resolved]
        refine ⟨held, rfl, ?_⟩
        constructor
        · intro settled
          exact nomatch left.symm.trans (settled made among)
        · rintro ⟨clean, -⟩
          exact absurd clean unclean
      · rw [resolved]
        exact ⟨[], (List.append_nil _).symm, nothing ⟨.inl noPool, .inl (.inl noPool)⟩⟩
      · rw [resolved, if_neg (show ¬true = false by decide)]
        have both : ∀ made ∈ [(⟨.netPool, 1⟩ : Made Resource), ⟨.resolver, 1⟩],
            made.releases = 1 := by
          decide
        by_cases noSocket : calls.socket = -1
        · rw [if_pos noSocket]
          exact ⟨_, rfl, fun _ => ⟨lookup, .inl (.inr noSocket)⟩, fun _ => both⟩
        · rw [if_neg noSocket]
          obtain ⟨same, settled⟩ := settled_socket history both
          have socket : ¬NoSocket calls.toNetCalls := by
            rintro (noPool | none)
            · omega
            · exact noSocket none
          rw [and_iff_right lookup, or_iff_right socket]
          -- every exit that skips the close leaves the socket
          have leaks : ∀ {clean : Prop}, ¬clean →
              ∃ added, history ++ [⟨.netPool, 1⟩, ⟨.resolver, 1⟩] ++ [⟨.socket, 0⟩] =
                  history ++ added ∧
                ((∀ made ∈ (added : History Resource), made.releases = 1) ↔ clean) := by
            intro clean unclean
            refine ⟨_, List.append_assoc _ _ _, ?_⟩
            constructor
            · intro all
              have last := all ⟨.socket, 0⟩ (List.mem_append_right _ List.mem_cons_self)
              exact nomatch last
            · intro holds
              exact absurd holds unclean
          by_cases blocks : calls.nonBlocking ≠ 0
          · rw [if_pos blocks]
            exact leaks fun clean => blocks clean.1
          · rw [if_neg blocks, and_iff_right (not_not.mp blocks)]
            by_cases unconnected : calls.connected = false
            · rw [if_pos unconnected]
              exact ⟨_, same, fun _ => .inl unconnected, fun _ => settled⟩
            · rw [if_neg unconnected, or_iff_right unconnected]
              by_cases stays : calls.blocking ≠ 0
              · rw [if_pos stays]
                exact leaks fun clean => stays clean.1
              · rw [if_neg stays, and_iff_right (not_not.mp stays)]
                by_cases endless : calls.rcvTimeout ≠ 0
                · rw [if_pos endless]
                  exact leaks endless
                · rw [if_neg endless, probeGreeting_eq]
                  exact ⟨_, same, fun _ => not_not.mp endless, fun _ => settled⟩

/-- An attempt, a probe and a thread with any number of attempts each settle just when their steps
are clean. -/
theorem connections_settle_iff (wide : WideRecv) (notConnected : Int) :
    (∀ (calls : NetCalls) (c : Client), Settles wide calls c ↔ Clean calls) ∧
    (∀ (host : String) (calls : ProbeCalls) (history : History Resource),
      Settled history (probeServer notConnected host calls history).2 ↔
        ProbeClean notConnected host calls) ∧
    (∀ (attempts : Nat → Attempt) (left n : Nat) (c : Client),
      ThreadSettles wide attempts left n c ↔
        ∀ calls ∈ attemptsMade wide attempts left n c, Clean calls) := by
  refine ⟨settles_iff wide, ?_, threadSettles_iff wide⟩
  intro host calls history
  obtain ⟨added, kept, clean⟩ := probeServer_leaves notConnected host calls history
  rw [kept, settled_append, clean]

/-- No resolver can be made. -/
def noResolver : NetCalls where
  netPoolCreate := 1
  resolverCreate := -1
  resolverStartNtoa := 0
  socket := 0
  nonBlocking := 0
  connect := 0
  inProgress := false
  select := 1
  soError := 0
  blocking := 0
  rcvTimeout := 0
  chunks := []

/-- DoConnect keeps the pool of a resolver that could not be made, and ProbeServer the socket whose
receive timeout could not be set. -/
theorem attempts_leave_handles :
    ¬Settles (fun _ chunks => (none, chunks)) noResolver {} ∧
    ¬Settled [] (probeServer (-1) "shadnet"
      { noResolver with resolverCreate := 2, rcvTimeout := -1, getInfo := 0, link := 1 } []).2 := by
  constructor
  · rw [settles_iff]
    rintro ⟨noPool | ⟨resolver, -⟩, -⟩
    · exact absurd noPool (by decide)
    · exact absurd resolver (by decide)
  · obtain ⟨added, kept, clean⟩ := probeServer_leaves (-1) "shadnet"
      { noResolver with resolverCreate := 2, rcvTimeout := -1, getInfo := 0, link := 1 } []
    rw [kept, settled_append, clean]
    rintro (unnamed | offline | ⟨-, (noPool | noSocket) | ⟨-, unconnected | ⟨-, option⟩⟩⟩)
    · exact absurd unnamed (by decide)
    · exact absurd offline (by decide)
    · exact absurd noPool (by decide)
    · exact absurd noSocket (by decide)
    · exact absurd unconnected (by decide)
    · exact absurd option (by decide)

end ShadNetClient.Connections
