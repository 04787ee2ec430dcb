import ShadNet.LockProgram
import ShadNet.WebApi.Sending
import Mathlib.Data.List.Count
import Mathlib.Tactic.SplitIfs

/-!
# The HTTP objects of a request

One thread sends, others read and delete. A send is taken in the stages between the calls of the
HTTP library, so that a deletion can come between any two of them.
-/

namespace NpWebApi.Sending

/-! ## The objects that a request names -/

/-- In the order in which they are deleted. -/
def Request.held (r : Request) : List HttpObject :=
  (if r.httpRequestId = 0 then [] else [.request r.httpRequestId]) ++
  (if r.httpConnectionId = 0 then [] else [.connection r.httpConnectionId]) ++
  (if r.httpTemplateId = 0 then [] else [.template r.httpTemplateId])

def deleteObjects (s : State) : State :=
  { s with request := { s.request with
    httpRequestId := 0
    httpConnectionId := 0
    httpTemplateId := 0 } }.note (s.request.held.map .deleted)

namespace Lifetime

/-! ## Threads on one request -/

/-- How far a send has got. -/
inductive Phase where
  | checking (body : List UInt8)
  | makesTemplate (body : List UInt8)
  | makesConnection (tmplId : Int) (body : List UInt8)
  | makesRequest (tmplId connId : Int) (body : List UInt8)
  | sends (body : List UInt8)

/-- `present`: the request is in the table of its user context. `readers` and `deleters` are the
calls in flight besides the send. `lowered` counts the calls that gave back a user they had not
entered. -/
structure Session where
  state : State
  users : Int := 0
  present : Bool := true
  contextDeleted : Bool := false
  sending : Option (Call × Phase) := none
  readers : Nat := 0
  deleters : Nat := 0
  lowered : Nat := 0

/-- The calls that use the request find it. -/
def Session.found (x : Session) : Bool := x.present && !x.contextDeleted

def Session.idle (x : Session) : Bool := x.sending.isNone && x.readers == 0

def Session.advance {α : Type} (call : Call) (next : α → Phase) (stage : Outcome α × State)
    (x : Session) : Session :=
  match stage with
  | (.returns _, s) => { x with state := s, sending := none, users := x.users - 1 }
  | (.goesOn a, s) => { x with state := s, sending := some (call, next a) }

inductive Op where
  | send (call : Call)
  | goOn
  | read
  | readEnds
  | addMultipartPart (param : PartParameter)
  | setMultipartContentType (type boundary : List UInt8)
  | abort
  | timeOut
  | deleteRequest
  | requestDeleted
  | deleteUserContext (busy : Bool)
  | userContextDeleted (busy : Bool)
  | deleteContext

def send (call : Call) (x : Session) : Session :=
  if x.found ∧ x.sending = none then
    { x with users := x.users + 1 }.advance call .checking
      (collect call.partIndex call.data x.state)
  else x

/-- The send runs up to its next call of the HTTP library. -/
def goOn (sdk : Nat) (x : Session) : Session :=
  match x.sending with
  | none => x
  | some (call, .checking body) =>
    let s := markSent sdk x.state
    x.advance call
      (fun _ => if s.request.httpRequestId = 0 then .makesTemplate body else .sends body)
      (checkCall call.signedIn s)
  | some (call, .makesTemplate body) =>
    x.advance call (fun tmplId => .makesConnection tmplId body)
      (createTemplate call.template x.state)
  | some (call, .makesConnection tmplId body) =>
    x.advance call (fun connId => .makesRequest tmplId connId body)
      (createConnection tmplId call.connection x.state)
  | some (call, .makesRequest tmplId connId body) =>
    x.advance call (fun _ => .sends body) (createHttpRequest tmplId connId call.request x.state)
  | some (call, .sends body) =>
    { x with
      state := (sendBody body call.sendErr call.status x.state).2
      sending := none
      users := x.users - 1 }

/-- These two find the request without entering as its users, and release it all the same. -/
def Session.lower (update : Request → Request) (x : Session) : Session :=
  if x.found then
    { x with
      state := { x.state with request := update x.state.request }
      users := x.users - 1
      lowered := x.lowered + 1 }
  else x

/-- `deleteRequest` up to the loop in which it waits for the other users. -/
def deleteRequest (sdk : Nat) (x : Session) : Session :=
  if x.found then
    if sdk < fw400 ∧ x.users + 1 > 1 then x
    else { x with
      state := abortRequest x.state
      users := x.users + 1
      deleters := x.deleters + 1 }
  else x

/-- The rest of it. -/
def requestDeleted (x : Session) : Session :=
  if x.deleters ≠ 0 ∧ ¬x.users > 1 then
    { x with
      state := deleteObjects x.state
      users := x.users - 1
      deleters := x.deleters - 1
      present := false }
  else x

/-- `busy` is what `isUserContextBusy` answers. The requests are dropped as they are. -/
def deleteUserContext (sdk : Nat) (busy : Bool) (x : Session) : Session :=
  if x.found then
    if sdk < fw400 then
      if busy = true ∨ x.users + 1 > 1 then x else { x with present := false }
    else { x with state := abortRequest x.state, contextDeleted := true }
  else x

def userContextDeleted (busy : Bool) (x : Session) : Session :=
  if x.contextDeleted ∧ ¬(busy = true ∨ x.users + 1 > 1) then { x with present := false } else x

def step (sdk : Nat) : Op → Session → Session
  | .send call, x => send call x
  | .goOn, x => goOn sdk x
  | .read, x => if x.found then { x with users := x.users + 1, readers := x.readers + 1 } else x
  | .readEnds, x =>
    if x.readers = 0 then x else { x with users := x.users - 1, readers := x.readers - 1 }
  | .addMultipartPart param, x => x.lower (fun r => Sending.addMultipartPart r param)
  | .setMultipartContentType type boundary, x =>
    x.lower (fun r => { r with multipartContentType := type, multipartBoundary := boundary })
  | .abort, x => if x.found then { x with state := abortRequest x.state } else x
  | .timeOut, x => if x.present then { x with state := Sending.timeOut x.state } else x
  | .deleteRequest, x => deleteRequest sdk x
  | .requestDeleted, x => requestDeleted x
  | .deleteUserContext busy, x => deleteUserContext sdk busy x
  | .userContextDeleted busy, x => userContextDeleted busy x
  | .deleteContext, x => { x with present := false }

/-! ### A send with nothing in between -/

/-- The send has returned. -/
def Session.done (s : State) (x : Session) : Session :=
  { x with state := s, sending := none, users := x.users - 1 }

def Session.at (call : Call) (phase : Phase) (s : State) (x : Session) : Session :=
  { x with state := s, sending := some (call, phase) }

def goesOn (sdk n : Nat) (x : Session) : Session := Runs.run (step sdk) (List.replicate n .goOn) x

theorem goesOn_done (sdk n : Nat) (s : State) (x : Session) :
    goesOn sdk n (x.done s) = x.done s := by
  induction n with
  | zero => rfl
  | succ n ih => exact ih

/-- A stage that goes on is left to the stages behind it. -/
theorem goesOn_advance {α : Type} {sdk n : Nat} {call : Call} {next : α → Phase}
    {later : α → State → Int × State} {x : Session} (stage : Outcome α × State)
    (behind : ∀ a, goesOn sdk n (x.at call (next a) stage.2) = x.done (later a stage.2).2) :
    goesOn sdk n (x.advance call next stage) = x.done (andThen stage later).2 := by
  match stage, behind with
  | (.returns _, s), _ => exact goesOn_done sdk n s x
  | (.goesOn a, s), behind => exact behind a

theorem goesOn_sends (sdk n : Nat) (call : Call) (body : List UInt8) (s : State) (x : Session) :
    goesOn sdk (n + 1) (x.at call (.sends body) s) =
      x.done (sendBody body call.sendErr call.status s).2 :=
  goesOn_done sdk n _ x

theorem goesOn_makesTemplate (sdk n : Nat) (call : Call) (body : List UInt8) (s : State)
    (x : Session) :
    goesOn sdk (n + 4) (x.at call (.makesTemplate body) s) =
      x.done (andThen (createTemplate call.template s) fun tmplId s =>
        andThen (createConnection tmplId call.connection s) fun connId s =>
          andThen (createHttpRequest tmplId connId call.request s) fun _ s =>
            sendBody body call.sendErr call.status s).2 := by
  refine goesOn_advance _ fun tmplId => ?_
  refine goesOn_advance _ fun connId => ?_
  refine goesOn_advance _ fun _ => ?_
  exact goesOn_sends sdk n call body _ x

theorem checkCall_state (signedIn : Bool) (s : State) : (checkCall signedIn s).2 = s := by
  rw [checkCall]
  split_ifs
  · rfl
  · rfl
  · rfl

theorem goesOn_checking (sdk : Nat) (call : Call) (body : List UInt8) (s : State) (x : Session) :
    goesOn sdk 5 (x.at call (.checking body) s) =
      x.done (andThen (checkCall call.signedIn (markSent sdk s)) fun _ s =>
        transmit call body s).2 := by
  refine goesOn_advance _ fun _ => ?_
  rw [checkCall_state]
  change goesOn sdk 4 (x.at call (if (markSent sdk s).request.httpRequestId = 0
    then .makesTemplate body else .sends body) (markSent sdk s)) = _
  rw [transmit]
  by_cases new : (markSent sdk s).request.httpRequestId = 0
  · rw [if_pos new, goesOn_makesTemplate sdk 0]
    exact congrArg (fun answer : Int × State => x.done answer.2) (if_pos new).symm
  · rw [if_neg new, goesOn_sends sdk 3]
    exact congrArg (fun answer : Int × State => x.done answer.2) (if_neg new).symm

/-- The stages together are `sendRequest`. -/
theorem send_alone {x : Session} (sdk : Nat) (call : Call) (found : x.found = true)
    (free : x.sending = none) :
    Runs.run (step sdk) (.send call :: List.replicate 5 .goOn) x =
      { x with state := (sendRequest sdk call x.state).2 } := by
  have back : ({ x with users := x.users + 1 } : Session).done (sendRequest sdk call x.state).2 =
      { x with state := (sendRequest sdk call x.state).2 } := by
    rw [Session.done]
    congr 1
    · exact Int.add_sub_cancel ..
    · exact free.symm
  rw [Runs.run_cons, ← back, step, send, if_pos ⟨found, free⟩]
  exact goesOn_advance _ fun body => goesOn_checking sdk call body _ _

/-! ## What is asked of a run -/

/-- No object is deleted more often than it was obtained, and none is left when the request is
gone. -/
structure Accounted (x : Session) : Prop where
  once : ∀ o, x.state.http.count (.deleted o) ≤ x.state.http.count (.obtained o)
  gone : x.present = false →
    ∀ o, x.state.http.count (.deleted o) = x.state.http.count (.obtained o)

/-- What is deleted is not in use: no call is in flight, or the send clears away what it has made
itself, before there is an HTTP request. -/
def DeletesUnused (op : Op) (x x' : Session) : Prop :=
  ∀ o, x.state.http.count (.deleted o) < x'.state.http.count (.deleted o) →
    x.idle = true ∨ op = .goOn ∧ x.state.request.httpRequestId = 0

/-- The send does not make a template for a request that is gone or that has one. -/
def MakesFirst (x : Session) : Prop :=
  match x.sending with
  | some (call, .makesTemplate _) =>
    call.template.isMade = true → x.present = true ∧ x.state.request.httpTemplateId = 0
  | _ => True

/-- The user context and the context go when the request names no object, and a deletion that
cannot rely on the count of users deletes objects when there is no call in flight. -/
def Orderly (sdk : Nat) (op : Op) (x : Session) : Prop :=
  match op with
  | .goOn => MakesFirst x
  | .requestDeleted => x.state.request.held = [] ∨ x.lowered = 0 ∨ x.idle = true
  | .deleteUserContext busy =>
    x.state.request.held = [] ∨ fw400 ≤ sdk ∨ busy = true ∨ 0 < x.users
  | .userContextDeleted busy =>
    x.state.request.held = [] ∨ x.contextDeleted = false ∨ busy = true ∨ 0 < x.users
  | .deleteContext => x.state.request.held = []
  | _ => True

instance MakesFirst.decidable (x : Session) : Decidable (MakesFirst x) :=
  match sending : x.sending with
  | some (call, .makesTemplate _) =>
    decidable_of_iff (call.template.isMade = true →
      x.present = true ∧ x.state.request.httpTemplateId = 0) (by rw [MakesFirst, sending])
  | none => isTrue (by rw [MakesFirst, sending]; trivial)
  | some (_, .checking _) => isTrue (by rw [MakesFirst, sending]; trivial)
  | some (_, .makesConnection _ _) => isTrue (by rw [MakesFirst, sending]; trivial)
  | some (_, .makesRequest _ _ _) => isTrue (by rw [MakesFirst, sending]; trivial)
  | some (_, .sends _) => isTrue (by rw [MakesFirst, sending]; trivial)

instance Orderly.decidable (sdk : Nat) (op : Op) (x : Session) : Decidable (Orderly sdk op x) :=
  match op with
  | .goOn => inferInstanceAs (Decidable (MakesFirst x))
  | .requestDeleted => inferInstanceAs (Decidable (_ = _ ∨ _ = _ ∨ _ = _))
  | .deleteUserContext _ => inferInstanceAs (Decidable (_ = _ ∨ _ ≤ _ ∨ _ = _ ∨ _ < _))
  | .userContextDeleted _ => inferInstanceAs (Decidable (_ = _ ∨ _ = _ ∨ _ = _ ∨ _ < _))
  | .deleteContext => inferInstanceAs (Decidable (_ = _))
  | .send _ | .read | .readEnds | .addMultipartPart _ | .setMultipartContentType _ _ | .abort
  | .timeOut | .deleteRequest => isTrue trivial

/-! ## Accounts -/

/-- What was obtained and is not deleted is held. -/
def Owed (held : List HttpObject) (http : List HttpEvent) : Prop :=
  ∀ o, http.count (.obtained o) = http.count (.deleted o) + held.count o

variable {held : List HttpObject} {http : List HttpEvent} {o : HttpObject}

theorem Owed.obtain (owed : Owed held http) (o : HttpObject) :
    Owed (o :: held) (http ++ [.obtained o]) := by
  intro other
  have before := owed other
  by_cases same : o = other
  · subst same
    simp [List.count_append, before]
    omega
  · simp [List.count_append, before, same]

theorem Owed.delete (owed : Owed (o :: held) http) : Owed held (http ++ [.deleted o]) := by
  intro other
  have before := owed other
  by_cases same : o = other
  · subst same
    simp [List.count_append] at before ⊢
    omega
  · simp [List.count_append, same] at before ⊢
    omega

theorem Owed.delete_all (owed : Owed held http) : Owed [] (http ++ held.map .deleted) := by
  induction held generalizing http with
  | nil => simpa using owed
  | cons o held ih => simpa using ih owed.delete

theorem Owed.sent (owed : Owed held http) (id : Int) (announced : Nat) (body : List UInt8) :
    Owed held (http ++ [.sent id announced body]) := by
  intro other
  have before := owed other
  simp [List.count_append, before]

/-! ## What a run keeps -/

/-- The ids in the request are those that the send in flight works with. -/
def Names (sending : Option (Call × Phase)) (r : Request) : Prop :=
  match sending with
  | some (_, .makesTemplate _) => r.httpRequestId = 0
  | some (_, .makesConnection tmplId _) =>
    r.httpRequestId = 0 ∧ r.httpConnectionId = 0 ∧ r.httpTemplateId = tmplId ∧ tmplId ≠ 0
  | some (_, .makesRequest tmplId connId _) =>
    r.httpRequestId = 0 ∧ r.httpConnectionId = connId ∧ connId ≠ 0 ∧
      r.httpTemplateId = tmplId ∧ tmplId ≠ 0
  | _ => True

def inFlight (sending : Option (Call × Phase)) : Nat := if sending.isSome then 1 else 0

@[simp] theorem inFlight_none : inFlight none = 0 := rfl

@[simp] theorem inFlight_some (send : Call × Phase) : inFlight (some send) = 1 := rfl

structure Kept (x : Session) : Prop where
  owed : Owed x.state.request.held x.state.http
  gone : x.present = false → x.state.request.held = []
  names : Names x.sending x.state.request
  nested : x.state.request.httpTemplateId = 0 → x.state.request.held = []
  users : x.users + x.lowered = inFlight x.sending + x.readers + x.deleters

variable {x x' : Session} {s s' : State} {call : Call} {sdk : Nat}

theorem Kept.counted (kept : Kept x) (one : x.sending.isSome = true) :
    x.users + x.lowered = 1 + x.readers + x.deleters := by
  have users := kept.users
  rwa [inFlight, if_pos one] at users

theorem Kept.accounted (kept : Kept x) : Accounted x := by
  constructor
  · intro o
    have owed := kept.owed o
    omega
  · intro gone o
    have owed := kept.owed o
    rw [kept.gone gone] at owed
    simpa using owed.symm

theorem held_eq_nil {r : Request} (request : r.httpRequestId = 0)
    (connection : r.httpConnectionId = 0) (template : r.httpTemplateId = 0) : r.held = [] := by
  simp [Request.held, request, connection, template]

/-- A step that touches neither the ids nor the HTTP library. -/
structure Untouched (s s' : State) : Prop where
  http : s'.http = s.http
  requestId : s'.request.httpRequestId = s.request.httpRequestId
  connectionId : s'.request.httpConnectionId = s.request.httpConnectionId
  templateId : s'.request.httpTemplateId = s.request.httpTemplateId

theorem Untouched.refl (s : State) : Untouched s s := ⟨rfl, rfl, rfl, rfl⟩

theorem Untouched.held_eq (same : Untouched s s') : s'.request.held = s.request.held := by
  rw [Request.held, same.requestId, same.connectionId, same.templateId]
  rfl

theorem Untouched.names {sending : Option (Call × Phase)} (same : Untouched s s')
    (names : Names sending s.request) : Names sending s'.request := by
  match sending with
  | none => trivial
  | some (_, .checking _) => trivial
  | some (_, .makesTemplate _) => exact same.requestId.trans names
  | some (_, .makesConnection _ _) =>
    obtain ⟨request, connection, template, positive⟩ := names
    exact ⟨same.requestId.trans request, same.connectionId.trans connection,
      same.templateId.trans template, positive⟩
  | some (_, .makesRequest _ _ _) =>
    obtain ⟨request, connection, some, template, positive⟩ := names
    exact ⟨same.requestId.trans request, same.connectionId.trans connection, some,
      same.templateId.trans template, positive⟩
  | some (_, .sends _) => trivial

/-- What a step that touches no object has to show. -/
theorem Kept.untouched (kept : Kept x) (same : Untouched x.state x'.state)
    (gone : x'.present = false → x.present = false ∨ x.state.request.held = [])
    (names : Names x'.sending x'.state.request)
    (users : x'.users + x'.lowered = inFlight x'.sending + x'.readers + x'.deleters) : Kept x' where
  owed := by
    rw [same.held_eq, same.http]
    exact kept.owed
  gone away := by
    rw [same.held_eq]
    rcases gone away with before | nothing
    · exact kept.gone before
    · exact nothing
  names := names
  nested none := by
    rw [same.held_eq]
    rw [same.templateId] at none
    exact kept.nested none
  users := users

theorem collect_untouched (partIndex : Int) (data : List UInt8) (s : State) :
    Untouched s (collect partIndex data s).2 := by
  simp only [collect]
  split_ifs
  · exact .refl s
  · exact .refl s
  · exact ⟨rfl, rfl, rfl, rfl⟩
  · exact ⟨rfl, rfl, rfl, rfl⟩

theorem markSent_untouched (sdk : Nat) (s : State) : Untouched s (markSent sdk s) := by
  rw [markSent]
  split
  · exact ⟨rfl, rfl, rfl, rfl⟩
  · exact .refl s

theorem checkCall_untouched (signedIn : Bool) (s : State) :
    Untouched s (checkCall signedIn s).2 := by
  rw [checkCall_state]
  exact .refl s

@[simp] theorem advance_state {α : Type} (call : Call) (next : α → Phase)
    (stage : Outcome α × State) (x : Session) : (x.advance call next stage).state = stage.2 := by
  match stage with
  | (.returns _, s) => rfl
  | (.goesOn _, s) => rfl

/-- A stage of the send that touches no object. -/
theorem Kept.advance {α : Type} {stage : Outcome α × State} {next : α → Phase} (kept : Kept x)
    (one : x.sending.isSome = true) (same : Untouched x.state stage.2)
    (names : ∀ a, stage.1 = .goesOn a → Names (some (call, next a)) stage.2.request) :
    Kept (x.advance call next stage) := by
  have users := kept.counted one
  match stage, same, names with
  | (.returns _, s), same, names =>
    refine kept.untouched same (fun away => Or.inl away) trivial ?_
    simp only [Session.advance, inFlight_none]
    omega
  | (.goesOn a, s), same, names =>
    refine kept.untouched same (fun away => Or.inl away) (names a rfl) ?_
    simp only [Session.advance, inFlight_some]
    omega

theorem returned_ne_zero (number : Nat) : (HttpAnswer.made number).returned ≠ 0 := by
  rw [HttpAnswer.returned]
  omega

/-- The template is made for a request that is there and has none. -/
theorem kept_template {body : List UInt8} (kept : Kept x)
    (sending : x.sending = some (call, .makesTemplate body))
    (orderly : call.template.isMade = true →
      x.present = true ∧ x.state.request.httpTemplateId = 0) : Kept (goOn sdk x) := by
  have one : x.sending.isSome = true := by simp [sending]
  simp only [goOn, sending]
  cases answer : call.template with
  | failed code =>
    refine kept.advance one ?_ ?_
    · simp only [createTemplate, returned_failed, if_true]
      exact .refl _
    · intro tmplId goes
      simp [createTemplate, returned_failed] at goes
  | made number =>
    obtain ⟨present, none⟩ := orderly (by rw [answer]; rfl)
    have nothing := kept.nested none
    have owed := kept.owed
    rw [nothing] at owed
    have users := kept.counted one
    have positive := returned_ne_zero number
    have unnamed : x.state.request.httpRequestId = 0 ∧ x.state.request.httpConnectionId = 0 := by
      simpa [Request.held, none] using nothing
    obtain ⟨request, connection⟩ := unnamed
    simp only [createTemplate, returned_made, if_false, Session.advance, State.note]
    constructor
    · simpa [Request.held, request, connection, positive] using owed.obtain _
    · intro away
      rw [present] at away
      cases away
    · exact ⟨request, connection, rfl, positive⟩
    · exact fun zero => absurd zero positive
    · simp only [inFlight_some]
      omega

theorem kept_connection {tmplId : Int} {body : List UInt8} (kept : Kept x)
    (sending : x.sending = some (call, .makesConnection tmplId body)) : Kept (goOn sdk x) := by
  have one : x.sending.isSome = true := by simp [sending]
  have names := kept.names
  rw [sending] at names
  obtain ⟨request, connection, template, some⟩ := names
  have owed := kept.owed
  have users := kept.counted one
  have held : x.state.request.held = [.template tmplId] := by
    simp [Request.held, request, connection, template, some]
  rw [held] at owed
  simp only [goOn, sending]
  cases answer : call.connection with
  | failed code =>
    simp only [createConnection, returned_failed, if_true, Session.advance, State.note]
    constructor
    · simpa [Request.held, request, connection] using owed.delete
    · intro _
      simp [Request.held, request, connection]
    · trivial
    · intro _
      simp [Request.held, request, connection]
    · simp only [inFlight_none]
      omega
  | made number =>
    have positive := returned_ne_zero number
    simp only [createConnection, returned_made, if_false, Session.advance, State.note]
    constructor
    · simpa [Request.held, request, template, some, positive] using owed.obtain _
    · intro away
      have nothing := kept.gone away
      rw [held] at nothing
      cases nothing
    · exact ⟨request, rfl, positive, template, some⟩
    · exact fun zero => absurd (template.symm.trans zero) some
    · simp only [inFlight_some]
      omega

theorem kept_request {tmplId connId : Int} {body : List UInt8} (kept : Kept x)
    (sending : x.sending = some (call, .makesRequest tmplId connId body)) :
    Kept (goOn sdk x) := by
  have one : x.sending.isSome = true := by simp [sending]
  have names := kept.names
  rw [sending] at names
  obtain ⟨request, connection, there, template, some⟩ := names
  have owed := kept.owed
  have users := kept.counted one
  have held : x.state.request.held = [.connection connId, .template tmplId] := by
    simp [Request.held, request, connection, there, template, some]
  rw [held] at owed
  simp only [goOn, sending]
  cases method : x.state.request.userMethod.sceMethod with
  | none =>
    refine kept.advance one ?_ ?_
    · simp only [createHttpRequest, method]
      exact .refl _
    · intro _ goes
      simp [createHttpRequest, method] at goes
  | some sceMethod =>
    cases answer : call.request with
    | failed code =>
      simp only [createHttpRequest, method, returned_failed, if_true, Session.advance, State.note]
      constructor
      · simpa [Request.held, request] using owed.delete.delete
      · intro _
        simp [Request.held, request]
      · trivial
      · intro _
        simp [Request.held, request]
      · simp only [inFlight_none]
        omega
    | made number =>
      have positive := returned_ne_zero number
      simp only [createHttpRequest, method, returned_made, if_false, Session.advance, State.note]
      constructor
      · simpa [Request.held, connection, there, template, some, positive] using owed.obtain _
      · intro away
        have nothing := kept.gone away
        rw [held] at nothing
        cases nothing
      · trivial
      · exact fun zero => absurd (template.symm.trans zero) some
      · simp only [inFlight_some]
        omega

theorem kept_goOn (kept : Kept x) (orderly : Orderly sdk .goOn x) : Kept (goOn sdk x) := by
  match sending : x.sending with
  | none =>
    rw [goOn, sending]
    exact kept
  | some (call, .checking body) =>
    have one : x.sending.isSome = true := by simp [sending]
    have marked := markSent_untouched sdk x.state
    have checked := checkCall_untouched call.signedIn (markSent sdk x.state)
    simp only [goOn, sending]
    refine kept.advance one ⟨checked.http.trans marked.http, checked.requestId.trans
      marked.requestId, checked.connectionId.trans marked.connectionId,
      checked.templateId.trans marked.templateId⟩ ?_
    intro _ _
    by_cases new : (markSent sdk x.state).request.httpRequestId = 0
    · rw [if_pos new]
      exact checked.requestId.trans new
    · rw [if_neg new]
      trivial
  | some (call, .makesTemplate body) =>
    rw [Orderly, MakesFirst, sending] at orderly
    exact kept_template kept sending orderly
  | some (call, .makesConnection tmplId body) => exact kept_connection kept sending
  | some (call, .makesRequest tmplId connId body) => exact kept_request kept sending
  | some (call, .sends body) =>
    have users := kept.counted (by simp [sending])
    have owed := kept.owed
    have gone := kept.gone
    have nested := kept.nested
    simp only [goOn, sending, sendBody]
    have counted : x.users - 1 + x.lowered = inFlight none + x.readers + x.deleters := by
      simp only [inFlight_none]
      omega
    by_cases negative : call.sendErr < 0
    · rw [if_pos negative]
      exact ⟨owed, gone, trivial, nested, counted⟩
    · rw [if_neg negative]
      exact ⟨owed.sent _ _ _, gone, trivial, nested, counted⟩

theorem kept_send (call : Call) (kept : Kept x) : Kept (send call x) := by
  rw [send]
  split
  · next free =>
    obtain ⟨_, idle⟩ := free
    have users := kept.users
    rw [idle] at users
    have same := collect_untouched call.partIndex call.data x.state
    match collect call.partIndex call.data x.state, same with
    | (.returns _, s), same =>
      refine kept.untouched same (fun away => Or.inl away) trivial ?_
      simp only [Session.advance, inFlight_none] at users ⊢
      omega
    | (.goesOn body, s), same =>
      refine kept.untouched same (fun away => Or.inl away) trivial ?_
      simp only [Session.advance, inFlight_none, inFlight_some] at users ⊢
      omega
  · exact kept

theorem kept_lower (update : Request → Request) (kept : Kept x)
    (same : Untouched x.state { x.state with request := update x.state.request }) :
    Kept (x.lower update) := by
  have users := kept.users
  rw [Session.lower]
  split
  · refine kept.untouched same (fun away => Or.inl away) (same.names kept.names) ?_
    push_cast
    omega
  · exact kept

/-- The deletion waits until there is no other user. -/
theorem users_alone (kept : Kept x) (right : x.lowered = 0) (deleter : x.deleters ≠ 0)
    (alone : ¬x.users > 1) : x.sending = none ∧ x.readers = 0 := by
  have users := kept.users
  have none : inFlight x.sending = 0 := by omega
  refine ⟨?_, by omega⟩
  by_contra some
  rw [inFlight, if_pos (Option.isSome_iff_ne_none.mpr some)] at none
  cases none

theorem idle_iff : x.idle = true ↔ x.sending = none ∧ x.readers = 0 := by
  simp [Session.idle]

/-- Whoever deletes objects does it with no call in flight. -/
theorem deletes_idle (kept : Kept x) (orderly : Orderly sdk .requestDeleted x)
    (deleter : x.deleters ≠ 0) (alone : ¬x.users > 1) :
    x.state.request.held = [] ∨ x.idle = true := by
  rcases orderly with nothing | right | idle
  · exact Or.inl nothing
  · exact Or.inr (idle_iff.mpr (users_alone kept right deleter alone))
  · exact Or.inr idle

theorem names_nothing {sending : Option (Call × Phase)} {r r' : Request}
    (names : Names sending r) (nothing : r.held = []) (request : r'.httpRequestId = 0) :
    Names sending r' := by
  match sending with
  | none => trivial
  | some (_, .checking _) => trivial
  | some (_, .makesTemplate _) => exact request
  | some (_, .makesConnection _ _) =>
    obtain ⟨_, _, template, some⟩ := names
    simp [Request.held, template, some] at nothing
  | some (_, .makesRequest _ _ _) =>
    obtain ⟨_, _, _, template, some⟩ := names
    simp [Request.held, template, some] at nothing
  | some (_, .sends _) => trivial

theorem kept_requestDeleted (kept : Kept x) (orderly : Orderly sdk .requestDeleted x) :
    Kept (requestDeleted x) := by
  rw [requestDeleted]
  split
  · next free =>
    obtain ⟨deleter, alone⟩ := free
    have users := kept.users
    have zero : (deleteObjects x.state).request.held = [] := held_eq_nil rfl rfl rfl
    constructor
    · rw [zero]
      exact kept.owed.delete_all
    · exact fun _ => zero
    · rcases deletes_idle kept orderly deleter alone with nothing | idle
      · exact names_nothing kept.names nothing rfl
      · show Names x.sending (deleteObjects x.state).request
        rw [(idle_iff.mp idle).1]
        trivial
    · exact fun _ => zero
    · simp only
      omega
  · exact kept

/-- The user context or the context goes, with all its requests. -/
theorem kept_dropped (kept : Kept x) (nothing : x.state.request.held = []) :
    Kept { x with present := false } :=
  kept.untouched (.refl _) (fun _ => Or.inr nothing) kept.names kept.users

theorem step_keeps (sdk : Nat) (op : Op) (x : Session) (kept : Kept x) (orderly : Orderly sdk op x) :
    Kept (step sdk op x) := by
  have users := kept.users
  cases op with
  | send call => exact kept_send call kept
  | goOn => exact kept_goOn kept orderly
  | read =>
    simp only [step]
    split
    · refine kept.untouched (.refl _) (fun away => Or.inl away) kept.names ?_
      push_cast
      omega
    · exact kept
  | readEnds =>
    simp only [step]
    split
    · exact kept
    · refine kept.untouched (.refl _) (fun away => Or.inl away) kept.names ?_
      simp only
      omega
  | addMultipartPart param =>
    rw [step]
    exact kept_lower _ kept ⟨rfl, rfl, rfl, rfl⟩
  | setMultipartContentType type boundary =>
    rw [step]
    exact kept_lower _ kept ⟨rfl, rfl, rfl, rfl⟩
  | abort =>
    simp only [step]
    split
    · exact ⟨kept.owed, kept.gone, kept.names, kept.nested, users⟩
    · exact kept
  | timeOut =>
    simp only [step]
    split
    · exact ⟨kept.owed, kept.gone, kept.names, kept.nested, users⟩
    · exact kept
  | deleteRequest =>
    simp only [step, deleteRequest]
    split_ifs
    · exact kept
    · refine kept.untouched ⟨rfl, rfl, rfl, rfl⟩ (fun away => Or.inl away) kept.names ?_
      push_cast
      omega
    · exact kept
  | requestDeleted => exact kept_requestDeleted kept orderly
  | deleteUserContext busy =>
    simp only [step, deleteUserContext]
    split_ifs with found old stays
    · exact kept
    · refine kept_dropped kept ?_
      simp only [Orderly] at orderly
      rcases orderly with nothing | recent | waits | used
      · exact nothing
      · omega
      · exact absurd (Or.inl waits) stays
      · exact absurd (Or.inr (by omega)) stays
    · exact ⟨kept.owed, kept.gone, kept.names, kept.nested, users⟩
    · exact kept
  | userContextDeleted busy =>
    simp only [step, userContextDeleted]
    split
    · next leaves =>
      obtain ⟨marked, free⟩ := leaves
      refine kept_dropped kept ?_
      simp only [Orderly] at orderly
      rcases orderly with nothing | unmarked | waits | used
      · exact nothing
      · rw [marked] at unmarked
        cases unmarked
      · exact absurd (Or.inl waits) free
      · exact absurd (Or.inr (by omega)) free
    · exact kept
  | deleteContext => exact kept_dropped kept orderly

/-! ## Deletions -/

/-- Only the send and the end of a deletion call the HTTP library. -/
theorem http_same (op : Op) (x : Session) (notSend : op ≠ .goOn)
    (notDelete : op ≠ .requestDeleted) :
    (step sdk op x).state.http = x.state.http := by
  cases op with
  | send call =>
    simp only [step, send]
    split
    · rw [advance_state]
      exact (collect_untouched call.partIndex call.data x.state).http
    · rfl
  | goOn => exact absurd rfl notSend
  | requestDeleted => exact absurd rfl notDelete
  | read =>
    simp only [step]
    split <;> rfl
  | readEnds =>
    simp only [step]
    split <;> rfl
  | addMultipartPart param =>
    simp only [step, Session.lower]
    split <;> rfl
  | setMultipartContentType type boundary =>
    simp only [step, Session.lower]
    split <;> rfl
  | abort =>
    simp only [step]
    split <;> rfl
  | timeOut =>
    simp only [step]
    split <;> rfl
  | deleteRequest =>
    simp only [step, deleteRequest]
    split_ifs <;> rfl
  | deleteUserContext busy =>
    simp only [step, deleteUserContext]
    split_ifs <;> rfl
  | userContextDeleted busy =>
    simp only [step, userContextDeleted]
    split <;> rfl
  | deleteContext => rfl

theorem goOn_deletes (kept : Kept x) (o : HttpObject)
    (deletes : x.state.http.count (.deleted o) < (goOn sdk x).state.http.count (.deleted o)) :
    x.state.request.httpRequestId = 0 := by
  match sending : x.sending with
  | none =>
    simp only [goOn, sending] at deletes
    omega
  | some (call, .checking body) =>
    have marked := markSent_untouched sdk x.state
    have checked := checkCall_untouched call.signedIn (markSent sdk x.state)
    simp only [goOn, sending, advance_state, checked.http, marked.http] at deletes
    omega
  | some (call, .makesTemplate body) =>
    have names := kept.names
    rw [sending] at names
    exact names
  | some (call, .makesConnection tmplId body) =>
    have names := kept.names
    rw [sending] at names
    exact names.1
  | some (call, .makesRequest tmplId connId body) =>
    have names := kept.names
    rw [sending] at names
    exact names.1
  | some (call, .sends body) =>
    simp only [goOn, sending, sendBody] at deletes
    split at deletes
    · simp at deletes
    · simp [State.note, List.count_append] at deletes

theorem step_deletes (op : Op) (x : Session) (kept : Kept x) (orderly : Orderly sdk op x) :
    DeletesUnused op x (step sdk op x) := by
  intro o deletes
  by_cases send : op = .goOn
  · rw [send] at deletes
    exact Or.inr ⟨send, goOn_deletes kept o deletes⟩
  · by_cases delete : op = .requestDeleted
    · rw [delete] at deletes orderly
      simp only [step, requestDeleted] at deletes
      split at deletes
      · next free =>
        rcases deletes_idle kept orderly free.1 free.2 with nothing | idle
        · simp [deleteObjects, nothing, State.note] at deletes
        · exact Or.inl idle
      · omega
    · rw [http_same op x send delete] at deletes
      omega

/-! ## Whole runs -/

theorem kept_new (r : Request) (new : r.held = []) : Kept { state := { request := r } } := by
  refine ⟨fun o => ?_, fun _ => new, trivial, fun _ => new, rfl⟩
  rw [new]
  rfl

/-- All objects of a request are deleted once, and none while it is in use. -/
theorem objects_deleted_once (sdk : Nat) (r : Request) (new : r.held = []) (ops : List Op)
    (orderly : Runs.Admitted (step sdk) (Orderly sdk) ops { state := { request := r } }) :
    Runs.Throughout (step sdk) Accounted DeletesUnused ops { state := { request := r } } :=
  Runs.throughout_of_admitted (fun _ => Kept.accounted)
    (fun op x kept orderly => ⟨step_keeps sdk op x kept orderly, step_deletes op x kept orderly⟩)
    (kept_new r new) orderly

def postRequest : Request := { requestId := 0x8001, userMethod := .post, multipart := false }

def post : Call where
  data := [1]
  template := .made 0
  connection := .made 1
  request := .made 2

/-- A send that fails and one that does not, then the deletion of the request. -/
theorem post_released :
    Runs.Throughout (step fw400) Accounted DeletesUnused
      (.send { post with request := .failed 0 } :: List.replicate 4 .goOn ++
        .send post :: List.replicate 5 .goOn ++ [.deleteRequest, .requestDeleted])
      { state := { request := postRequest } } := by
  exact objects_deleted_once fw400 postRequest (by decide) _ (by decide +kernel)

theorem post_sent_alone :
    Runs.run (step fw400) (.send post :: List.replicate 5 .goOn)
      { state := { request := postRequest } } =
        { state := (sendRequest fw400 post { request := postRequest }).2 } :=
  send_alone fw400 post rfl rfl

/-- The objects of a request stay when its user context is deleted. -/
theorem user_context_leaks :
    ¬Runs.Throughout (step fw400) Accounted DeletesUnused
      (.send post :: List.replicate 5 .goOn ++
        [.deleteUserContext false, .userContextDeleted false])
      { state := { request := postRequest } } := by
  intro holds
  rw [← List.append_nil (_ ++ _)] at holds
  exact absurd (holds.last.gone (by decide) (.template 1)) (by decide)

end Lifetime

end NpWebApi.Sending
