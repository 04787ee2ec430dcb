import ShadNet.Matching2.Submission

/-!
# Whose client a context speaks on

NpHandler keeps one shadNet client for each signed-in user, and a context knows
the online id of its owner. Matching2 itself remembers only the client that
signed in last.
-/

namespace Matching2Users

open KeyedTable LockProgram NpMatching2 Matching2State
open NpSignaling (OrbisNpOnlineId)

/-- An entry of `m_clients`. -/
structure UserClient where
  userId : Int
  clientId : Nat
  deriving DecidableEq, Repr

structure Users where
  mm : Matching2State := {}
  clients : List UserClient := []
  deriving Repr

inductive Op where
  | connectUser (userId : Int) (matching2Enabled : Bool)
  | disconnectUser (userId : Int)
  | connectionLost (clientId : Nat)
  | createContext (onlineId : OrbisNpOnlineId) (aVariant : Bool)
  | destroyContext (ctxId : Nat)
  | request (call ctxId : Nat) (reqId : UInt32) (event : Matching2Event) (aVariant : Bool)

def submit (call ctxId : Nat) (reqId : UInt32) (event : Matching2Event) (aVariant : Bool)
    (s : Matching2State) : Except ApiError Unit × Matching2State :=
  (mmSubmitRequest call ctxId reqId event aVariant).exec s

def connectUser (userId : Int) (matching2Enabled : Bool) (s : Users) : Users :=
  { mm := setMmShadNetClient matching2Enabled s.mm
    clients := store UserClient.userId ⟨userId, s.mm.clients.length⟩ s.clients }

def disconnectUser (userId : Int) (s : Users) : Users :=
  match lookup UserClient.userId userId s.clients with
  | none => s
  | some client =>
    { mm := connectionLost client.clientId s.mm
      clients := remove UserClient.userId userId s.clients }

def step (op : Op) (s : Users) : Users :=
  match op with
  | .connectUser userId enabled => connectUser userId enabled s
  | .disconnectUser userId => disconnectUser userId s
  | .connectionLost clientId => { s with mm := NpMatching2.connectionLost clientId s.mm }
  | .createContext onlineId aVariant =>
    { s with mm := (contextManagerCreate onlineId aVariant s.mm).2 }
  | .destroyContext ctxId => { s with mm := (contextManagerDestroy ctxId s.mm).2 }
  | .request call ctxId reqId event aVariant =>
    { s with mm := (submit call ctxId reqId event aVariant s.mm).2 }

/-! ### What becomes of a request -/

inductive Outcome where
  | refused
  | completed
  | submitted (clientId : Nat)
  deriving DecidableEq, Repr

/-- A request was submitted on the client that has given out a number. -/
def outcome (s : Matching2State) (result : Except ApiError Unit × Matching2State) : Outcome :=
  match result.1 with
  | .error _ => .refused
  | .ok _ =>
    (s.clients.find? (fun client =>
        result.2.client? client.clientId ≠ s.client? client.clientId)).elim .completed
      (fun client => .submitted client.clientId)

/-- What a client makes of a request; a server without matching2 gets only the start and the stop
of contexts. -/
def answerOf (client : Option ShadNetClient) (event : Matching2Event) : Outcome :=
  match client with
  | none => .refused
  | some client =>
    if client.authenticated then
      if client.matching2Enabled || isContextLifecycleEvent event then .submitted client.clientId
      else .completed
    else .refused

def currentClient (s : Users) : Option ShadNetClient := s.mm.mmClient.bind s.mm.client?

section Owner

-- the online id in the settings of each user
variable (npId : Int → OrbisNpOnlineId)

/-- The client of the signed-in user with the online id. -/
def ownerClient (onlineId : OrbisNpOnlineId) (s : Users) : Option ShadNetClient :=
  (s.clients.find? (fun client => npId client.userId = onlineId)).bind
    (fun client => s.mm.client? client.clientId)

/-- A request of a context goes where its owner's client takes it. -/
def SpeaksForOwner (op : Op) (s : Users) : Prop :=
  match op with
  | .request call ctxId reqId event aVariant => ∀ ctx ∈ s.mm.context? ctxId,
      outcome s.mm (submit call ctxId reqId event aVariant s.mm) =
        answerOf (ownerClient npId ctx.onlineId s) event
  | _ => True

/-- When a context makes a request, the client that signed in last is the authenticated client of
the owner, or neither is authenticated, or the servers of both take no such request. -/
def OwnerIsCurrent (op : Op) (s : Users) : Prop :=
  match op with
  | .request _ ctxId _ event _ => ∀ ctx ∈ s.mm.context? ctxId,
      let current := (currentClient s).filter (·.authenticated)
      let owner := (ownerClient npId ctx.onlineId s).filter (·.authenticated)
      current.map (·.clientId) = owner.map (·.clientId) ∨
        isContextLifecycleEvent event = false ∧ current.map (·.matching2Enabled) = some false ∧
          owner.map (·.matching2Enabled) = some false
  | _ => True

instance : ∀ (op : Op) (s : Users), Decidable (OwnerIsCurrent npId op s)
  | .request _ ctxId _ _ _, s =>
    inferInstanceAs (Decidable (∀ ctx ∈ s.mm.context? ctxId, _ ∨ _))
  | .connectUser .., _ | .disconnectUser _, _ | .connectionLost _, _ | .createContext .., _
  | .destroyContext _, _ => isTrue trivial

end Owner

/-! ### Submissions on the current client -/

theorem client?_submitted {clientId : Nat} {s : Matching2State} {client : ShadNetClient}
    (found : s.client? clientId = some client) (other : Nat) :
    (clientSubmitRequest clientId s).2.client? other =
      (s.client? other).map (fun client =>
        if client.clientId = clientId then { client with pktCounter := client.pktCounter + 1 }
        else client) := by
  have keeps (client : ShadNetClient) : ShadNetClient.clientId
      { client with pktCounter := client.pktCounter + 1 } = client.clientId := rfl
  rw [clientSubmitRequest_some found]
  exact lookup_adjust keeps s.clients

/-- The number of the packet shows on which client it was submitted. -/
theorem moved_submitted {clientId : Nat} {s : Matching2State} {client : ShadNetClient}
    (found : s.client? clientId = some client) (other : Nat) :
    (clientSubmitRequest clientId s).2.client? other ≠ s.client? other ↔ other = clientId := by
  rw [client?_submitted found]
  constructor
  · intro moved
    by_contra different
    refine moved ?_
    cases there : s.client? other with
    | none => rfl
    | some found' =>
      have own := (lookup_some there).2
      rw [Option.map_some, if_neg (fun same => different (own.symm.trans same))]
  · rintro rfl same
    rw [found, Option.map_some, if_pos (lookup_some found).2] at same
    have counter := congrArg ShadNetClient.pktCounter (Option.some.inj same)
    exact Nat.succ_ne_self _ counter

theorem submitted_beside (clientId : Nat) (s : Matching2State) :
    ∃ clients, (clientSubmitRequest clientId s).2 = { s with clients } := by
  rw [clientSubmitRequest]
  split
  · exact ⟨s.clients, rfl⟩
  · exact ⟨_, rfl⟩

theorem submitted_clients (clientId : Nat) {s t : Matching2State} (same : t.clients = s.clients) :
    (clientSubmitRequest clientId t).2.clients = (clientSubmitRequest clientId s).2.clients := by
  simp only [clientSubmitRequest, client?, same]
  split
  · exact same
  · rfl

/-- What the end of a submission does to the clients. -/
theorem submitOrComplete_clients (call clientId ctxId : Nat) (reqId : UInt32)
    (event : Matching2Event) (aVariant : Bool) (ctx : ContextObject)
    (request : RequestCallbackInfo) (enabled : Bool) (s : Matching2State) :
    let result := (submitOrComplete call clientId ctxId reqId event aVariant ctx request
      enabled).exec s
    result.1 = .ok () ∧ result.2.mmClient = s.mmClient ∧
      result.2.matching2Enabled = s.matching2Enabled ∧
      result.2.clients =
        if enabled || isContextLifecycleEvent event then
          (clientSubmitRequest clientId s).2.clients
        else s.clients := by
  obtain ⟨clients, submitted⟩ := submitted_beside clientId s
  rw [submitOrComplete]
  cases enabled <;> cases isContextLifecycleEvent event
  · simp [scheduleEvent]
  all_goals
    simp only [Bool.true_eq_false, false_and, and_false, if_false, Prog.exec_bind,
      Prog.exec_locked, Prog.exec_update, Prog.exec_pure, registerPending]
    rw [submitted]
    exact ⟨trivial, rfl, rfl, rfl⟩

/-- What a submission does to the clients, when there is a context for it. -/
theorem submit_cases (call : Nat) {ctxId : Nat} (reqId : UInt32) (event : Matching2Event)
    (aVariant : Bool) {s : Matching2State} {ctx : ContextObject}
    (live : s.context? ctxId = some ctx) {clientId : Nat}
    (current : s.mmClient = some clientId) (authenticated : isAuthenticated clientId s = true) :
    let result := submit call ctxId reqId event aVariant s
    result.1 = .ok () ∧ result.2.mmClient = s.mmClient ∧
      result.2.matching2Enabled = s.matching2Enabled ∧
      result.2.clients =
        if s.matching2Enabled || isContextLifecycleEvent event then
          (clientSubmitRequest clientId s).2.clients
        else s.clients := by
  obtain ⟨contexts, consumed⟩ := consumeRequestCallback_state ctx.object s
  have ends := submitOrComplete_clients call clientId ctxId reqId event aVariant ctx
    (consumeRequestCallback ctx.object s).1 s.matching2Enabled { s with contexts }
  have same : (clientSubmitRequest clientId { s with contexts }).2.clients =
      (clientSubmitRequest clientId s).2.clients := submitted_clients clientId rfl
  rw [same] at ends
  have unfolded : submit call ctxId reqId event aVariant s =
      (submitOrComplete call clientId ctxId reqId event aVariant ctx
        (consumeRequestCallback ctx.object s).1 s.matching2Enabled).exec { s with contexts } := by
    simp only [submit, mmSubmitRequest, Prog.exec_bind, Prog.exec_locked, current, authenticated,
      live, if_true, consumed]
  rw [unfolded]
  exact ends

theorem outcome_submit (call : Nat) {ctxId : Nat} (reqId : UInt32) (event : Matching2Event)
    (aVariant : Bool) {s : Matching2State} {ctx : ContextObject}
    (flag : ∀ clientId client, s.mmClient = some clientId → s.client? clientId = some client →
      s.matching2Enabled = client.matching2Enabled)
    (live : s.context? ctxId = some ctx) :
    outcome s (submit call ctxId reqId event aVariant s) =
      answerOf (s.mmClient.bind (fun clientId => s.client? clientId)) event := by
  by_cases ok : connected s = true
  · obtain ⟨clientId, client, current, found, authenticated⟩ := connected_client ok
    obtain ⟨accepted, -, -, clients⟩ :=
      submit_cases call reqId event aVariant live current authenticated
    rw [flag clientId client current found] at clients
    rw [isAuthenticated, found] at authenticated
    obtain ⟨member, number⟩ := lookup_some found
    rw [current, Option.bind_some, found, answerOf, if_pos authenticated, outcome, accepted]
    by_cases takes : (client.matching2Enabled || isContextLifecycleEvent event) = true
    · rw [if_pos takes] at clients
      have moved (other : Nat) :
          (submit call ctxId reqId event aVariant s).2.client? other ≠ s.client? other ↔
            other = clientId := by
        rw [client?, clients]
        exact moved_submitted found other
      simp only [moved, if_pos takes]
      cases first : s.clients.find? (fun other => decide (other.clientId = clientId)) with
      | none => exact absurd (decide_eq_true number) (List.find?_eq_none.mp first client member)
      | some other =>
        have same := List.find?_some first
        simp only [decide_eq_true_eq] at same
        rw [Option.elim_some, same, number]
    · rw [if_neg takes] at clients
      have still (other : Nat) :
          (submit call ctxId reqId event aVariant s).2.client? other = s.client? other := by
        rw [client?, clients, client?]
      have none_ : s.clients.find? (fun _ => false) = none :=
        List.find?_eq_none.mpr (fun _ _ => Bool.false_ne_true)
      simp only [still, ne_eq, not_true_eq_false, decide_false, none_, if_neg takes]
      rfl
  · rw [outcome, submit, mmSubmitRequest_refused (Bool.not_eq_true _ ▸ ok)]
    rw [connected] at ok
    cases current : s.mmClient with
    | none => rfl
    | some clientId =>
      rw [current] at ok
      simp only [isAuthenticated] at ok
      rw [Option.bind_some]
      cases found : s.client? clientId with
      | none => rfl
      | some client =>
        rw [found] at ok
        rw [answerOf, if_neg ok]

/-! ### Runs -/

/-- What is kept of the clients by everything but a sign-in. -/
structure Beside (s s' : Matching2State) : Prop where
  mmClient : s'.mmClient = s.mmClient
  matching2Enabled : s'.matching2Enabled = s.matching2Enabled
  length : s'.clients.length = s.clients.length
  flags : ∀ clientId, (s'.client? clientId).map ShadNetClient.matching2Enabled =
    (s.client? clientId).map ShadNetClient.matching2Enabled

theorem beside_of_clients {s s' : Matching2State} (mmClient : s'.mmClient = s.mmClient)
    (enabled : s'.matching2Enabled = s.matching2Enabled) (clients : s'.clients = s.clients) :
    Beside s s' := by
  refine ⟨mmClient, enabled, congrArg List.length clients, fun clientId => ?_⟩
  rw [client?, client?, clients]

theorem beside_adjust (f : ShadNetClient → ShadNetClient) {clientId : Nat} {s s' : Matching2State}
    (keeps : ∀ client, (f client).clientId = client.clientId)
    (flag : ∀ client, (f client).matching2Enabled = client.matching2Enabled)
    (mmClient : s'.mmClient = s.mmClient) (enabled : s'.matching2Enabled = s.matching2Enabled)
    (clients : s'.clients = adjust ShadNetClient.clientId clientId f s.clients) :
    Beside s s' := by
  refine ⟨mmClient, enabled, ?_, fun other => ?_⟩
  · rw [clients, adjust, List.length_map]
  · rw [client?, client?, clients, lookup_adjust keeps, Option.map_map]
    congr 1
    funext client
    rw [Function.comp_apply]
    split
    · exact flag client
    · rfl

theorem beside_connectionLost (clientId : Nat) (s : Matching2State) :
    Beside s (connectionLost clientId s) :=
  beside_adjust (fun client => { client with authenticated := false }) (fun _ => rfl)
    (fun _ => rfl) rfl rfl rfl

theorem beside_create (onlineId : OrbisNpOnlineId) (aVariant : Bool) (s : Matching2State) :
    Beside s (contextManagerCreate onlineId aVariant s).2 := by
  rw [contextManagerCreate]
  split <;> exact beside_of_clients rfl rfl rfl

theorem beside_destroy (ctxId : Nat) (s : Matching2State) :
    Beside s (contextManagerDestroy ctxId s).2 := by
  rw [contextManagerDestroy]
  split
  · exact beside_of_clients rfl rfl rfl
  · dsimp only
    split <;> exact beside_of_clients rfl rfl rfl

theorem beside_submit (call ctxId : Nat) (reqId : UInt32) (event : Matching2Event)
    (aVariant : Bool) (s : Matching2State) :
    Beside s (submit call ctxId reqId event aVariant s).2 := by
  by_cases ok : connected s = true
  · obtain ⟨clientId, client, current, found, authenticated⟩ := connected_client ok
    cases live : s.context? ctxId with
    | none =>
      have same : (submit call ctxId reqId event aVariant s).2 = s := by
        simp only [submit, mmSubmitRequest, Prog.exec_bind, Prog.exec_locked, current,
          authenticated, live, if_true, Prog.exec_pure]
      rw [same]
      exact beside_of_clients rfl rfl rfl
    | some ctx =>
      obtain ⟨-, mmClient, enabled, clients⟩ :=
        submit_cases call reqId event aVariant live current authenticated
      split at clients
      · rw [clientSubmitRequest_some found] at clients
        exact beside_adjust (fun client => { client with pktCounter := client.pktCounter + 1 })
          (fun _ => rfl) (fun _ => rfl) mmClient enabled clients
      · exact beside_of_clients mmClient enabled clients
  · rw [submit, mmSubmitRequest_refused (Bool.not_eq_true _ ▸ ok)]
    exact beside_of_clients rfl rfl rfl

/-- The users' clients are their own, and the flag of the library is its client's. -/
structure Consistent (s : Users) : Prop where
  flag : ∀ clientId client, s.mm.mmClient = some clientId → s.mm.client? clientId = some client →
    s.mm.matching2Enabled = client.matching2Enabled
  below : ∀ clientId, (s.mm.client? clientId).isSome → clientId < s.mm.clients.length
  present : ∀ client ∈ s.clients, (s.mm.client? client.clientId).isSome
  distinct : (s.clients.map UserClient.clientId).Nodup

theorem Consistent.beside {s : Users} (consistent : Consistent s) {mm : Matching2State}
    (beside : Beside s.mm mm) : Consistent { s with mm } := by
  have known (clientId : Nat) : (mm.client? clientId).isSome =
      (s.mm.client? clientId).isSome := by
    have flags := congrArg Option.isSome (beside.flags clientId)
    simpa using flags
  refine ⟨?_, ?_, ?_, consistent.distinct⟩
  · intro clientId client current found
    have flags := beside.flags clientId
    rw [found, Option.map_some] at flags
    obtain ⟨client', found', same⟩ := Option.map_eq_some_iff.mp flags.symm
    change mm.matching2Enabled = _
    rw [beside.matching2Enabled, ← same]
    exact consistent.flag clientId client' (beside.mmClient.symm.trans current) found'
  · intro clientId there
    change clientId < mm.clients.length
    rw [beside.length]
    exact consistent.below clientId (known clientId ▸ there)
  · intro client member
    change (mm.client? client.clientId).isSome
    rw [known]
    exact consistent.present client member

/-- A new client is found under its own number, the others as before. -/
theorem client?_set {s : Users} (consistent : Consistent s) (enabled : Bool) (clientId : Nat) :
    (setMmShadNetClient enabled s.mm).client? clientId =
      if clientId = s.mm.clients.length then
        some { clientId := s.mm.clients.length, matching2Enabled := enabled }
      else s.mm.client? clientId := by
  rw [client?, (clients_setMmShadNetClient enabled s.mm).1, lookup_append]
  split
  · rename_i new
    have absent : lookup ShadNetClient.clientId clientId s.mm.clients = none := by
      cases found : lookup ShadNetClient.clientId clientId s.mm.clients with
      | none => rfl
      | some client =>
        have below := consistent.below clientId (by rw [client?, found]; rfl)
        exact absurd new (Nat.ne_of_lt below)
    rw [absent, Option.none_or, new]
    exact List.find?_cons_of_pos (decide_eq_true rfl)
  · rename_i other
    have last : lookup ShadNetClient.clientId clientId
        [{ clientId := s.mm.clients.length, matching2Enabled := enabled }] = none := by
      rw [lookup_none]
      intro client member
      rw [List.mem_singleton.mp member]
      exact Ne.symm other
    rw [last, Option.or_none]
    rfl

theorem consistent_connectUser (userId : Int) (enabled : Bool) {s : Users}
    (consistent : Consistent s) : Consistent (connectUser userId enabled s) := by
  obtain ⟨clients, current, flag⟩ := clients_setMmShadNetClient enabled s.mm
  have added := client?_set consistent enabled
  refine ⟨?_, ?_, ?_, ?_⟩
  · intro clientId client isCurrent found
    have same : s.mm.clients.length = clientId := Option.some.inj (current.symm.trans isCurrent)
    change (setMmShadNetClient enabled s.mm).client? clientId = _ at found
    rw [added, if_pos same.symm, Option.some_inj] at found
    rw [← found]
    exact flag
  · intro clientId there
    change (setMmShadNetClient enabled s.mm).client? clientId |>.isSome at there
    change clientId < (setMmShadNetClient enabled s.mm).clients.length
    rw [clients, List.length_append, List.length_singleton]
    rw [added] at there
    split at there
    · omega
    · exact Nat.lt_succ_of_lt (consistent.below clientId there)
  · intro client member
    change ((setMmShadNetClient enabled s.mm).client? client.clientId).isSome
    rw [added]
    split
    · rfl
    · rename_i other
      rcases mem_store.mp member with ⟨old, -⟩ | rfl
      · exact consistent.present client old
      · exact absurd rfl other
  · change ((remove UserClient.userId userId s.clients ++ [_]).map UserClient.clientId).Nodup
    rw [List.map_append, List.nodup_append]
    refine ⟨?_, List.nodup_singleton _, ?_⟩
    · exact consistent.distinct.sublist (List.filter_sublist.map _)
    · intro clientId member other new
      obtain ⟨client, there, rfl⟩ := List.mem_map.mp member
      rw [List.mem_singleton.mp new]
      exact Nat.ne_of_lt (consistent.below _ (consistent.present client (mem_remove.mp there).1))

theorem consistent_disconnectUser (userId : Int) {s : Users} (consistent : Consistent s) :
    Consistent (disconnectUser userId s) := by
  rw [disconnectUser]
  split
  · exact consistent
  · rename_i client found
    have lost := consistent.beside (beside_connectionLost client.clientId s.mm)
    refine { lost with present := ?_, distinct := ?_ }
    · exact fun other member => lost.present other (mem_remove.mp member).1
    · exact lost.distinct.sublist (List.filter_sublist.map _)

theorem consistent_step (op : Op) {s : Users} (consistent : Consistent s) :
    Consistent (step op s) := by
  cases op with
  | connectUser userId enabled => exact consistent_connectUser userId enabled consistent
  | disconnectUser userId => exact consistent_disconnectUser userId consistent
  | connectionLost clientId => exact consistent.beside (beside_connectionLost clientId s.mm)
  | createContext onlineId aVariant => exact consistent.beside (beside_create onlineId aVariant s.mm)
  | destroyContext ctxId => exact consistent.beside (beside_destroy ctxId s.mm)
  | request call ctxId reqId event aVariant =>
    exact consistent.beside (beside_submit call ctxId reqId event aVariant s.mm)

theorem consistent_initial : Consistent {} := by
  refine ⟨fun _ _ current => absurd current.symm (Option.some_ne_none _), ?_, ?_, List.nodup_nil⟩
  · exact fun clientId there => absurd there Bool.false_ne_true
  · exact fun client member => absurd member List.not_mem_nil

/-! ### Requests of a context -/

/-- Only an authenticated client counts. -/
theorem answerOf_filter (client : Option ShadNetClient) (event : Matching2Event) :
    answerOf (client.filter (·.authenticated)) event = answerOf client event := by
  cases client with
  | none => rfl
  | some client =>
    cases ready : client.authenticated <;> simp [Option.filter, answerOf, ready]

theorem answerOf_ready {client : ShadNetClient} (ready : client.authenticated = true)
    (event : Matching2Event) :
    answerOf (some client) event =
      if client.matching2Enabled || isContextLifecycleEvent event then .submitted client.clientId
      else .completed :=
  if_pos ready

theorem answerOf_eq_iff {first second : Option ShadNetClient}
    (ready : ∀ client ∈ first, client.authenticated = true)
    (ready' : ∀ client ∈ second, client.authenticated = true)
    (same : ∀ client ∈ first, ∀ client' ∈ second, client.clientId = client'.clientId →
      client.matching2Enabled = client'.matching2Enabled) (event : Matching2Event) :
    answerOf first event = answerOf second event ↔
      first.map (·.clientId) = second.map (·.clientId) ∨
        isContextLifecycleEvent event = false ∧ first.map (·.matching2Enabled) = some false ∧
          second.map (·.matching2Enabled) = some false := by
  cases first with
  | none =>
    cases second with
    | none => simp
    | some client' =>
      rw [answerOf_ready (ready' client' rfl)]
      cases client'.matching2Enabled || isContextLifecycleEvent event <;> simp [answerOf]
  | some client =>
    rw [answerOf_ready (ready client rfl)]
    cases second with
    | none => cases client.matching2Enabled || isContextLifecycleEvent event <;> simp [answerOf]
    | some client' =>
      have flags := same client rfl client' rfl
      rw [answerOf_ready (ready' client' rfl)]
      cases on : client.matching2Enabled <;> cases on' : client'.matching2Enabled <;>
        cases isContextLifecycleEvent event <;> simp_all

theorem filter_ready (client : Option ShadNetClient) :
    ∀ found ∈ client.filter (·.authenticated), found.authenticated = true :=
  fun _ there => (Option.mem_filter_iff.mp there).2

section Owner

variable (npId : Int → OrbisNpOnlineId)

/-- Two clients with one number are one client. -/
theorem same_client (s : Users) (onlineId : OrbisNpOnlineId) {client client' : ShadNetClient}
    (current : client ∈ currentClient s) (owner : client' ∈ ownerClient npId onlineId s)
    (same : client.clientId = client'.clientId) : client = client' := by
  obtain ⟨clientId, -, found⟩ := Option.bind_eq_some_iff.mp current
  obtain ⟨entry, -, found'⟩ := Option.bind_eq_some_iff.mp owner
  have number := (lookup_some found).2
  have number' := (lookup_some found').2
  rw [← number, same, number'] at found
  exact Option.some.inj (found.symm.trans found')

theorem speaksForOwner_iff {op : Op} {s : Users} (consistent : Consistent s) :
    SpeaksForOwner npId op s ↔ OwnerIsCurrent npId op s := by
  cases op with
  | request call ctxId reqId event aVariant =>
    refine forall₂_congr (fun ctx live => ?_)
    rw [outcome_submit call reqId event aVariant consistent.flag live]
    change answerOf (currentClient s) event = _ ↔ _
    rw [← answerOf_filter (currentClient s), ← answerOf_filter (ownerClient npId ctx.onlineId s)]
    refine answerOf_eq_iff (filter_ready _) (filter_ready _) ?_ event
    intro client current client' owner same
    rw [same_client npId s ctx.onlineId (Option.mem_filter_iff.mp current).1
      (Option.mem_filter_iff.mp owner).1 same]
  | connectUser _ _ => exact Iff.rfl
  | disconnectUser _ => exact Iff.rfl
  | connectionLost _ => exact Iff.rfl
  | createContext _ _ => exact Iff.rfl
  | destroyContext _ => exact Iff.rfl

def run (ops : List Op) (s : Users) : Users := Runs.run step ops s

theorem consistent_run (ops : List Op) : Consistent (run ops {}) :=
  Runs.invariant_of_run (fun op _ consistent _ => consistent_step op consistent)
    consistent_initial (Runs.admitted_always (fun _ _ => trivial) ops _)

theorem find?_remove_other {onlineId : OrbisNpOnlineId} {userId : Int}
    (other : npId userId ≠ onlineId) (clients : List UserClient) :
    (remove UserClient.userId userId clients).find?
        (fun client => npId client.userId = onlineId) =
      clients.find? (fun client => npId client.userId = onlineId) := by
  rw [remove, List.find?_filter]
  congr 1
  funext client
  by_cases own : npId client.userId = onlineId
  · have differ : client.userId ≠ userId := fun same => other (same ▸ own)
    simp [own, differ]
  · simp [own]

theorem find?_store_other {onlineId : OrbisNpOnlineId} {userId : Int}
    (other : npId userId ≠ onlineId) (clientId : Nat) (clients : List UserClient) :
    (store UserClient.userId ⟨userId, clientId⟩ clients).find?
        (fun client => npId client.userId = onlineId) =
      clients.find? (fun client => npId client.userId = onlineId) := by
  rw [store, List.find?_append, find?_remove_other npId other]
  simp [other]

/-- Signing in or out moves no other user's client. -/
theorem ownerClient_other {onlineId : OrbisNpOnlineId} {userId : Int}
    (other : npId userId ≠ onlineId) {s : Users} (consistent : Consistent s) (enabled : Bool) :
    ownerClient npId onlineId (connectUser userId enabled s) = ownerClient npId onlineId s ∧
      ownerClient npId onlineId (disconnectUser userId s) = ownerClient npId onlineId s := by
  constructor
  · rw [ownerClient, connectUser, find?_store_other npId other, ownerClient]
    cases found : s.clients.find? (fun client => npId client.userId = onlineId) with
    | none => rfl
    | some entry =>
      have below := consistent.below entry.clientId
        (consistent.present entry (List.mem_of_find?_eq_some found))
      rw [Option.bind_some, Option.bind_some, client?_set consistent,
        if_neg (Nat.ne_of_lt below)]
  · rw [disconnectUser]
    split
    · rfl
    · rename_i client registered
      obtain ⟨member, own⟩ := lookup_some registered
      rw [ownerClient, find?_remove_other npId other, ownerClient]
      cases found : s.clients.find? (fun client => npId client.userId = onlineId) with
      | none => rfl
      | some entry =>
        have owner : npId entry.userId = onlineId := by simpa using List.find?_some found
        have differ : entry.clientId ≠ client.clientId := by
          intro same
          have one := List.inj_on_of_nodup_map consistent.distinct
            (List.mem_of_find?_eq_some found) member same
          rw [one, own] at owner
          exact other owner
        have keeps (client : ShadNetClient) : ShadNetClient.clientId
            { client with authenticated := false } = client.clientId := rfl
        rw [Option.bind_some, Option.bind_some]
        change lookup ShadNetClient.clientId entry.clientId
          (adjust ShadNetClient.clientId client.clientId _ s.mm.clients) = _
        rw [lookup_adjust keeps, client?]
        cases there : lookup ShadNetClient.clientId entry.clientId s.mm.clients with
        | none => rfl
        | some current =>
          have number := (lookup_some there).2
          rw [Option.map_some, if_neg (fun same => differ (number.symm.trans same))]

/-- The run's requests go where their owners' clients take them, exactly if the owners' clients
are the current ones; and which client is an owner's is not touched by the sign-ins and sign-outs of
the others. -/
theorem matching2_speaks_for_owner (ops : List Op) :
    (Runs.Throughout step (fun _ => True) (fun op s _ => SpeaksForOwner npId op s) ops {} ↔
        Runs.Admitted step (OwnerIsCurrent npId) ops {}) ∧
      ∀ userId onlineId, npId userId ≠ onlineId → ∀ enabled,
        ownerClient npId onlineId (connectUser userId enabled (run ops {})) =
            ownerClient npId onlineId (run ops {}) ∧
          ownerClient npId onlineId (disconnectUser userId (run ops {})) =
            ownerClient npId onlineId (run ops {}) := by
  constructor
  · exact Runs.throughout_iff_admitted (fun _ _ => trivial)
      (fun op _ consistent current =>
        ⟨consistent_step op consistent, (speaksForOwner_iff npId consistent).mpr current⟩)
      (fun _ _ consistent speaks => (speaksForOwner_iff npId consistent).mp speaks)
      consistent_initial
  · intro userId onlineId other enabled
    exact ownerClient_other npId other (consistent_run ops) enabled

end Owner

/-- The settings of two users, by the first letter of their ids. -/
def npIdOf (userId : Int) : OrbisNpOnlineId :=
  NpSignaling.setNpOnlineId
    ((Vector.replicate 16 0).set! 0 (if userId = 1 then 97 else 98))

instance (npId : Int → OrbisNpOnlineId) (ops : List Op) (s : Users) :
    Decidable (Runs.Admitted step (OwnerIsCurrent npId) ops s) :=
  Runs.Admitted.decidable ops s

example : Runs.Admitted step (OwnerIsCurrent npIdOf)
    [.connectUser 1 true, .createContext (npIdOf 1) false, .request 0 1 1 .searchRoom false,
      .disconnectUser 1, .request 1 1 2 .searchRoom false] {} := by
  decide +kernel

/-- The second user signs in while the first one has a context. -/
def secondSignsIn : List Op :=
  [.connectUser 1 true, .createContext (npIdOf 1) false, .connectUser 2 true,
    .request 0 1 1 .searchRoom false]

theorem secondSignsIn_other_client :
    ¬∀ (npId : Int → OrbisNpOnlineId) (ops : List Op),
      Runs.Throughout step (fun _ => True) (fun op s _ => SpeaksForOwner npId op s) ops {} := by
  intro all
  have spoken := (all npIdOf secondSignsIn).2.2.2.2.2.2.2.1
  have foreign : ∃ ctx, (run (secondSignsIn.take 3) {}).mm.context? 1 = some ctx ∧
      outcome (run (secondSignsIn.take 3) {}).mm
          (submit 0 1 1 .searchRoom false (run (secondSignsIn.take 3) {}).mm) ≠
        answerOf (ownerClient npIdOf ctx.onlineId (run (secondSignsIn.take 3) {}))
          .searchRoom := by
    refine ⟨_, rfl, ?_⟩
    decide +kernel
  obtain ⟨ctx, live, differ⟩ := foreign
  exact differ (spoken ctx live)

end Matching2Users
