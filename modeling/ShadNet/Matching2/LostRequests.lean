import ShadNet.Duties
import ShadNet.Matching2.Ownership

/-!
# Requests whose connection ends

The pending map is one table for all clients, keyed by the packet's number. A
connection ends when its user signs out, when the user signs in again on a new
client, and when matching2 lets go of its client; only the last one touches the
map.
-/

namespace Matching2Requests

open KeyedTable NpMatching2 Matching2State Matching2Users

/-- Where a call of `MmSubmitRequest` stands, and after it its request. -/
inductive Phase where
  | called
  | holding (clientId : Nat)
  | authenticated (clientId : Nat)
  | prepared (clientId object : Nat) (request : RequestCallbackInfo)
  | enabled (clientId object : Nat) (request : RequestCallbackInfo)
  | sent (clientId pktId object : Nat) (request : RequestCallbackInfo)
  | registered (clientId pktId : Nat)
  | ended
  deriving DecidableEq, Repr

structure Call where
  ctxId : Nat
  reqId : UInt32
  event : Matching2Event
  aVariant : Bool
  phase : Phase := .called
  deriving DecidableEq, Repr

/-- The request was sent on the client and is not completed. -/
def Call.pendingOn (clientId : Nat) (call : Call) : Bool :=
  match call.phase with
  | .sent client _ _ _ => client = clientId
  | .registered client _ => client = clientId
  | _ => false

/-- A completion event; `sender` is the client whose reply caused it. -/
structure Completion where
  call : Nat
  errorCode : UInt32
  sender : Option Nat
  deriving DecidableEq, Repr

/-- `completions` are the completion events ever queued, `lost` the requests that were pending on a
connection when it ended, with its client. -/
structure Requests where
  users : Users := {}
  calls : List Call := []
  completions : List Completion := []
  lost : List (Nat × Nat) := []
  deriving Repr

namespace Requests

def mm (s : Requests) : Matching2State := s.users.mm

def withMm (mm : Matching2State) (s : Requests) : Requests :=
  { s with users := { s.users with mm } }

def setPhase (index : Nat) (call : Call) (phase : Phase) (s : Requests) : Requests :=
  { s with calls := s.calls.set index { call with phase } }

def complete (completion : Completion) (s : Requests) : Requests :=
  { s with completions := s.completions ++ [completion] }

/-- The next step of `MmSubmitRequest`. -/
def advance (index : Nat) (s : Requests) : Requests :=
  match s.calls[index]? with
  | none => s
  | some call =>
    match call.phase with
    | .called => s.setPhase index call (s.mm.mmClient.elim .ended .holding)
    | .holding clientId =>
      s.setPhase index call (if isAuthenticated clientId s.mm then .authenticated clientId else .ended)
    | .authenticated clientId =>
      match s.mm.context? call.ctxId with
      | none => s.setPhase index call .ended
      | some ctx =>
        let (request, mm) := consumeRequestCallback ctx.object s.mm
        (s.withMm mm).setPhase index call (.prepared clientId ctx.object request)
    | .prepared clientId object request =>
      if s.mm.matching2Enabled = false ∧ isContextLifecycleEvent call.event = false then
        (s.setPhase index call .ended).complete
          ⟨index, if call.event = .getWorldInfoList then 0 else kServerNotAvailable, none⟩
      else s.setPhase index call (.enabled clientId object request)
    | .enabled clientId object request =>
      let (pktId, mm) := clientSubmitRequest clientId s.mm
      (s.withMm mm).setPhase index call (.sent clientId pktId object request)
    | .sent clientId pktId object request =>
      let mm := registerPending
        { pktId, ctxId := call.ctxId, reqId := call.reqId, reqEvent := call.event
          aVariant := call.aVariant, request, call := index, issuer := object } s.mm
      (s.withMm mm).setPhase index call (.registered clientId pktId)
    | .registered .. | .ended => s

/-- `OnMatching2Reply`; a request of a context that is gone is completed by no event. -/
def onMatching2Reply (clientId pktId : Nat) (errorCode : UInt32) (s : Requests) : Requests :=
  match takePending pktId s.mm with
  | (none, _) => s
  | (some pr, mm) =>
    match s.calls[pr.call]? with
    | none => s.withMm mm
    | some call =>
      let s := (s.withMm mm).setPhase pr.call call .ended
      if (mm.context? pr.ctxId).isSome then s.complete ⟨pr.call, errorCode, some clientId⟩ else s

def pendingOn (clientId : Nat) (s : Requests) : List Nat :=
  (List.range s.calls.length).filter (fun index =>
    (s.calls[index]?).any (Call.pendingOn clientId))

/-- The requests that are pending on the client lose their connection. -/
def lose (clientId : Option Nat) (s : Requests) : Requests :=
  { s with lost := s.lost ++ clientId.toList.flatMap (fun clientId =>
      (s.pendingOn clientId).map (fun index => (index, clientId))) }

end Requests

inductive Op where
  | mmSubmitRequest (ctxId : Nat) (reqId : UInt32) (event : Matching2Event) (aVariant : Bool)
  | advance (index : Nat)
  | reply (clientId pktId : Nat) (errorCode : UInt32)
  | connectUser (userId : Int) (matching2Enabled : Bool)
  | disconnectUser (userId : Int)
  | connectionLost (clientId : Nat)
  | clearMmShadNetClient
  | createContext (onlineId : NpSignaling.OrbisNpOnlineId) (aVariant : Bool)
  | destroyContext (ctxId : Nat)

/-- The client whose connection an operation ends. -/
def Op.ends (op : Op) (s : Requests) : Option Nat :=
  match op with
  | .connectUser userId _ | .disconnectUser userId =>
    (lookup UserClient.userId userId s.users.clients).map UserClient.clientId
  | .clearMmShadNetClient => s.mm.mmClient
  | _ => none

def act (op : Op) (s : Requests) : Requests :=
  match op with
  | .mmSubmitRequest ctxId reqId event aVariant =>
    { s with calls := s.calls ++ [{ ctxId, reqId, event, aVariant }] }
  | .advance index => s.advance index
  | .reply clientId pktId errorCode => s.onMatching2Reply clientId pktId errorCode
  | .connectUser userId enabled => { s with users := connectUser userId enabled s.users }
  | .disconnectUser userId => { s with users := disconnectUser userId s.users }
  | .connectionLost clientId => s.withMm (connectionLost clientId s.mm)
  | .clearMmShadNetClient => s.withMm (clearMmShadNetClient s.mm)
  | .createContext onlineId aVariant =>
    s.withMm (contextManagerCreate onlineId aVariant s.mm).2
  | .destroyContext ctxId => s.withMm (contextManagerDestroy ctxId s.mm).2

def step (op : Op) (s : Requests) : Requests := act op (s.lose (op.ends s))

/-! ### The property -/

/-- The request has failed with its connection: it is completed once, with an error and by no reply
of another connection, and has no entry in the pending map. -/
def Failed (s : Requests) (index clientId : Nat) : Prop :=
  (∃ errorCode sender, s.completions.filter (fun completion => completion.call = index) =
      [⟨index, errorCode, sender⟩] ∧ errorCode ≠ 0 ∧ ∀ other ∈ sender, other = clientId) ∧
    ∀ pr ∈ s.mm.pending, pr.call ≠ index

def LostFail (s : Requests) : Prop := ∀ request ∈ s.lost, Failed s request.1 request.2

/-- No request is pending on a connection that ends. -/
def NothingPending (op : Op) (s : Requests) : Prop :=
  ∀ clientId ∈ op.ends s, s.pendingOn clientId = []

instance (op : Op) (s : Requests) : Decidable (NothingPending op s) :=
  inferInstanceAs (Decidable (∀ clientId ∈ op.ends s, _))

/-! ### Runs -/

/-- Nothing is lost yet, and what is completed is ended. -/
structure Sound (s : Requests) : Prop where
  lost : s.lost = []
  completed : ∀ completion ∈ s.completions,
    ∃ call, s.calls[completion.call]? = some call ∧ call.phase = .ended

/-- A call whose request is not completed yet goes on, or its request is completed. -/
theorem sound_set {s : Requests} (sound : Sound s) {index : Nat} {call : Call} (call' : Call)
    (found : s.calls[index]? = some call) (goes : call.phase ≠ .ended ∨ call'.phase = .ended)
    (users : Users) : Sound { s with users, calls := s.calls.set index call' } := by
  refine ⟨sound.lost, fun completion member => ?_⟩
  obtain ⟨other, there, ended⟩ := sound.completed completion member
  by_cases same : index = completion.call
  · subst same
    obtain rfl := Option.some.inj (found.symm.trans there)
    have inside := (List.getElem?_eq_some_iff.mp there).1
    refine ⟨call', ?_, goes.resolve_left (fun going => going ended)⟩
    exact List.getElem?_set_self inside
  · exact ⟨other, (List.getElem?_set_ne same).trans there, ended⟩

theorem sound_complete {s : Requests} (sound : Sound s) {index : Nat} {call : Call}
    (found : s.calls[index]? = some call) (users : Users) (errorCode : UInt32)
    (sender : Option Nat) :
    Sound { s with
      users
      calls := s.calls.set index { call with phase := .ended }
      completions := s.completions ++ [⟨index, errorCode, sender⟩] } := by
  have set := sound_set sound { call with phase := .ended } found (Or.inr rfl) users
  refine ⟨set.lost, fun completion member => ?_⟩
  rcases List.mem_append.mp member with old | new
  · exact set.completed completion old
  · have inside := (List.getElem?_eq_some_iff.mp found).1
    rw [List.mem_singleton.mp new]
    exact ⟨_, List.getElem?_set_self inside, rfl⟩

theorem sound_advance {s : Requests} (sound : Sound s) (index : Nat) :
    Sound (s.advance index) := by
  cases found : s.calls[index]? with
  | none =>
    rw [Requests.advance, found]
    exact sound
  | some call =>
    have goes (call' : Call) (users : Users) (going : call.phase ≠ .ended) :
        Sound { s with users, calls := s.calls.set index call' } :=
      sound_set sound call' found (Or.inl going) users
    rw [Requests.advance, found]
    cases phase : call.phase <;> rw [phase] at goes <;> simp only [phase]
    case called => exact goes _ s.users Phase.noConfusion
    case holding => exact goes _ s.users Phase.noConfusion
    case authenticated =>
      split
      · exact goes _ s.users Phase.noConfusion
      · exact goes _ _ Phase.noConfusion
    case prepared =>
      split
      · exact sound_complete sound found s.users _ none
      · exact goes _ s.users Phase.noConfusion
    case enabled => exact goes _ _ Phase.noConfusion
    case sent => exact goes _ _ Phase.noConfusion
    case registered => exact sound
    case ended => exact sound

theorem sound_reply {s : Requests} (sound : Sound s) (clientId pktId : Nat) (errorCode : UInt32) :
    Sound (s.onMatching2Reply clientId pktId errorCode) := by
  rw [Requests.onMatching2Reply]
  split
  · exact sound
  · rename_i pr mm taken
    split
    · exact ⟨sound.lost, sound.completed⟩
    · rename_i call found
      dsimp only
      split
      · exact sound_complete sound found _ errorCode (some clientId)
      · exact sound_set sound _ found (Or.inr rfl) _

theorem lose_nothing {s : Requests} {clientId : Option Nat}
    (none_ : ∀ client ∈ clientId, s.pendingOn client = []) : s.lose clientId = s := by
  have empty : clientId.toList.flatMap (fun client =>
      (s.pendingOn client).map (fun index => (index, client))) = [] := by
    rw [List.flatMap_eq_nil_iff]
    intro client member
    rw [none_ client (Option.mem_toList.mp member), List.map_nil]
  rw [Requests.lose, empty, List.append_nil]

theorem sound_step {op : Op} {s : Requests} (sound : Sound s) (nothing : NothingPending op s) :
    Sound (step op s) := by
  have same := lose_nothing nothing
  rw [step, same]
  cases op with
  | mmSubmitRequest ctxId reqId event aVariant =>
    refine ⟨sound.lost, fun completion member => ?_⟩
    obtain ⟨call, there, ended⟩ := sound.completed completion member
    have inside := (List.getElem?_eq_some_iff.mp there).1
    exact ⟨call, (List.getElem?_append_left inside).trans there, ended⟩
  | advance index => exact sound_advance sound index
  | reply clientId pktId errorCode => exact sound_reply sound clientId pktId errorCode
  | _ => exact ⟨sound.lost, sound.completed⟩

theorem completions_ending {op : Op} {s : Requests} {clientId : Nat}
    (ends : clientId ∈ op.ends s) : (step op s).completions = s.completions := by
  cases op with
  | connectUser _ _ => rfl
  | disconnectUser _ => rfl
  | clearMmShadNetClient => rfl
  | _ => exact absurd ends (Option.not_mem_none _)

/-- A request that is pending when its connection ends is lost in that step, and completed by
nothing before it. -/
theorem nothingPending_of_lostFail {op : Op} {s : Requests} (sound : Sound s)
    (fail : LostFail (step op s)) : NothingPending op s := by
  intro clientId ends
  refine List.eq_nil_iff_forall_not_mem.mpr (fun index pending => ?_)
  have lost : (index, clientId) ∈ (step op s).lost := by
    have listed : (index, clientId) ∈ (s.lose (op.ends s)).lost := by
      rw [Requests.lose, Option.mem_def.mp ends]
      refine List.mem_append_right _ (List.mem_flatMap.mpr ⟨clientId, List.mem_singleton_self _, ?_⟩)
      exact List.mem_map.mpr ⟨index, pending, rfl⟩
    cases op with
    | connectUser _ _ => exact listed
    | disconnectUser _ => exact listed
    | clearMmShadNetClient => exact listed
    | _ => exact absurd ends (Option.not_mem_none _)
  obtain ⟨⟨errorCode, sender, once, -⟩, -⟩ := fail _ lost
  have member : (⟨index, errorCode, sender⟩ : Completion) ∈ s.completions := by
    rw [completions_ending ends] at once
    exact (List.mem_filter.mp (once ▸ List.mem_singleton_self _)).1
  obtain ⟨call, found, ended⟩ := sound.completed _ member
  have waits := (List.mem_filter.mp pending).2
  rw [found, Option.any_some, Call.pendingOn, ended] at waits
  exact Bool.false_ne_true waits

def run (ops : List Op) (s : Requests) : Requests := Runs.run step ops s

def alice : NpSignaling.OrbisNpOnlineId :=
  NpSignaling.setNpOnlineId ((Vector.replicate 16 0).set! 0 97)

/-- A request is pending when the user is signed out and in again. The reply to the first request
on the new client takes the old request's entry. -/
def signedOutWhilePending : List Op :=
  [.connectUser 1 true, .createContext alice false, .mmSubmitRequest 1 7 .searchRoom false] ++
    List.replicate 6 (.advance 0) ++ [.connectionLost 0, .disconnectUser 1, .connectUser 1 true,
      .mmSubmitRequest 1 8 .leaveRoom false] ++
    List.replicate 5 (.advance 1) ++ [.reply 1 1 0]

/-- The old request is completed without an error, by a reply on the new connection. -/
example : (run signedOutWhilePending {}).completions = [⟨0, 0, some 1⟩] := by decide +kernel

end Matching2Requests
