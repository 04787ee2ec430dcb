import ShadNet.LockProgram
import ShadNet.WebApi.Sending
import Mathlib.Data.List.Forall2

/-!
# Multipart bodies

The parts of a request are described first. Then the game hands over their bytes in chunks, and
hands a chunk over again when the call has failed.
-/

namespace NpWebApi.Sending

/-! ## What is asked of a run -/

/-- A request with the bytes of each part that the game has handed over with success. -/
structure Exchange where
  state : State
  delivered : List (List UInt8)

inductive Op where
  | send (call : Call)
  | abort
  | timeOut

def Call.part (call : Call) : Nat := (call.partIndex - 1).toNat

def step (sdk : Nat) : Op → Exchange → Exchange
  | .send call, x =>
    let answer := sendRequest sdk call x.state
    ⟨answer.2, if answer.1 = orbisOk then x.delivered.modify call.part (· ++ call.data)
      else x.delivered⟩
  | .abort, x => { x with state := abortRequest x.state }
  | .timeOut, x => { x with state := timeOut x.state }

/-- The parts are added to a new request. -/
def begin (r : Request) (params : List PartParameter) : Exchange where
  state := { request := params.foldl addMultipartPart r }
  delivered := params.map (fun _ => [])

structure Fresh (r : Request) : Prop where
  multipart : r.multipart = true
  parts : r.multipartParts = []
  http : r.httpRequestId = 0

/-- The chunks are the bytes of the parts: none is empty, and none goes beyond the length of its
part. -/
def Splits (params : List PartParameter) (op : Op) (x : Exchange) : Prop :=
  match op with
  | .send call => call.data ≠ [] ∧ 1 ≤ call.partIndex ∧
      ∀ param ∈ params[call.part]?, ∀ bytes ∈ x.delivered[call.part]?,
        bytes.length + call.data.length ≤ param.contentLength
  | _ => True

instance Splits.decidable (params : List PartParameter) (op : Op) (x : Exchange) :
    Decidable (Splits params op x) :=
  match op with
  | .send call => inferInstanceAs (Decidable (call.data ≠ [] ∧ 1 ≤ call.partIndex ∧
      ∀ param ∈ params[call.part]?, ∀ bytes ∈ x.delivered[call.part]?,
        bytes.length + call.data.length ≤ param.contentLength))
  | .abort => isTrue trivial
  | .timeOut => isTrue trivial

def Full (params : List PartParameter) (delivered : List (List UInt8)) : Prop :=
  List.Forall₂ (fun param bytes => bytes.length = param.contentLength) params delivered

/-- The parts in their order, each behind its headers, between boundaries. -/
def framed (boundary : List UInt8) (params : List PartParameter) (delivered : List (List UInt8)) :
    List UInt8 :=
  (List.zipWith (fun param bytes =>
    dashes ++ boundary ++ crlf ++ param.rawHeaders ++ bytes ++ crlf) params delivered).flatten ++
    dashes ++ boundary ++ dashes ++ crlf

/-- The bodies that were sent, with the lengths that were announced. -/
def bodies (http : List HttpEvent) : List (Nat × List UInt8) :=
  http.filterMap fun event =>
    match event with
    | .sent _ announced body => some (announced, body)
    | _ => none

/-- One body was sent when the game has handed over everything, and none before. -/
structure SentOnce (boundary : List UInt8) (params : List PartParameter) (x : Exchange) :
    Prop where
  full : Full params x.delivered → bodies x.state.http =
    [((framed boundary params x.delivered).length, framed boundary params x.delivered)]
  before : ¬Full params x.delivered → bodies x.state.http = []

/-- A call that returns an error leaves the parts as they were. -/
def Undone (sdk : Nat) (op : Op) (x x' : Exchange) : Prop :=
  match op with
  | .send call => (sendRequest sdk call x.state).1 ≠ orbisOk →
      x'.state.request.multipartParts = x.state.request.multipartParts
  | _ => True

/-! ## When it is met -/

/-- The call names a part, and its chunk is the last that was missing. -/
def Completes (call : Call) (r : Request) : Prop :=
  1 ≤ call.partIndex ∧ call.partIndex ≤ r.multipartParts.length ∧
    (r.multipartParts.modify call.part (Part.append call.data)).all Part.complete = true

/-- What the HTTP library has to do for a call that has got past the checks. -/
structure Served (call : Call) (r : Request) : Prop where
  method : r.userMethod.sceMethod ≠ none
  template : call.template.isMade = true
  connection : call.connection.isMade = true
  request : call.request.isMade = true
  send : 0 ≤ call.sendErr
  status : call.status = orbisOk

/-- Nothing fails between the check of the parts and the return of the call. -/
structure GoesThrough (call : Call) (r : Request) : Prop where
  notAborted : r.timedOut = true ∨ r.aborted = false
  signedIn : call.signedIn = true
  served : Served call r

def Succeeds (op : Op) (x : Exchange) : Prop :=
  match op with
  | .send call => Completes call x.state.request → GoesThrough call x.state.request
  | _ => True

/-! ## One call -/

/-- The part of a request that a call does not change once it has taken the chunk. -/
structure SameParts (s s' : State) : Prop where
  multipart : s'.request.multipart = s.request.multipart
  parts : s'.request.multipartParts = s.request.multipartParts
  boundary : s'.request.boundary = s.request.boundary

variable {s s' t : State} {call : Call} {body : List UInt8}

theorem ne_orbisOk_of_neg {result : Int} (negative : result < 0) : result ≠ orbisOk := by
  intro ok
  rw [ok] at negative
  exact absurd negative (by decide)

/-- A request that has no HTTP request yet gets one and is sent, or the call fails. -/
theorem transmit_new (call : Call) (body : List UInt8) (new : s.request.httpRequestId = 0) :
    SameParts s (transmit call body s).2 ∧
    (Served call s.request ∧ (transmit call body s).1 = orbisOk ∧
        bodies (transmit call body s).2.http =
          bodies s.http ++ [(s.request.userContentLength, body)] ∨
      ¬Served call s.request ∧ (transmit call body s).1 ≠ orbisOk) := by
  rw [transmit, if_pos new]
  cases template : call.template with
  | failed code =>
    have negative := returned_failed code
    simp only [createTemplate, negative, if_true, andThen]
    refine ⟨⟨rfl, rfl, rfl⟩, Or.inr ⟨?_, ne_orbisOk_of_neg negative⟩⟩
    intro served
    have made := served.template
    rw [template] at made
    cases made
  | made number =>
    simp only [createTemplate, returned_made number, if_false, andThen]
    cases connection : call.connection with
    | failed code =>
      have negative := returned_failed code
      simp only [createConnection, negative, if_true]
      refine ⟨⟨rfl, rfl, rfl⟩, Or.inr ⟨?_, ne_orbisOk_of_neg negative⟩⟩
      intro served
      have made := served.connection
      rw [connection] at made
      cases made
    | made connNumber =>
      simp only [createConnection, returned_made connNumber, if_false, createHttpRequest,
        State.note]
      cases method : s.request.userMethod.sceMethod with
      | none =>
        have error : invalidArgument ≠ orbisOk := by decide
        refine ⟨⟨rfl, rfl, rfl⟩, Or.inr ⟨?_, error⟩⟩
        intro served
        exact served.method method
      | some sceMethod =>
        cases request : call.request with
        | failed code =>
          have negative := returned_failed code
          simp only [negative, if_true]
          refine ⟨⟨rfl, rfl, rfl⟩, Or.inr ⟨?_, ne_orbisOk_of_neg negative⟩⟩
          intro served
          have made := served.request
          rw [request] at made
          cases made
        | made reqNumber =>
          simp only [returned_made reqNumber, if_false, sendBody, State.note]
          by_cases negative : call.sendErr < 0
          · rw [if_pos negative]
            refine ⟨⟨rfl, rfl, rfl⟩, Or.inr ⟨?_, ne_orbisOk_of_neg negative⟩⟩
            intro served
            have positive := served.send
            omega
          · rw [if_neg negative]
            refine ⟨⟨rfl, rfl, rfl⟩, ?_⟩
            by_cases ok : call.status = orbisOk
            · refine Or.inl ⟨⟨?_, ?_, ?_, ?_, by omega, ok⟩, ok, ?_⟩
              · rw [method]
                exact Option.some_ne_none _
              · rw [template]; rfl
              · rw [connection]; rfl
              · rw [request]; rfl
              · simp [bodies]
            · exact Or.inr ⟨fun served => ok served.status, ok⟩

/-- The rest of a call that has collected a body. -/
def finish (sdk : Nat) (call : Call) (body : List UInt8) (s : State) : Int × State :=
  andThen (checkCall call.signedIn (markSent sdk s)) fun _ s => transmit call body s

theorem finish_new (sdk : Nat) (call : Call) (body : List UInt8)
    (new : s.request.httpRequestId = 0) :
    SameParts s (finish sdk call body s).2 ∧
    (GoesThrough call s.request ∧ (finish sdk call body s).1 = orbisOk ∧
        bodies (finish sdk call body s).2.http =
          bodies s.http ++ [(s.request.userContentLength, body)] ∨
      ¬GoesThrough call s.request ∧ (finish sdk call body s).1 ≠ orbisOk) := by
  have marked : ∃ r, markSent sdk s = { s with request := { s.request with sent := r } } := by
    rw [markSent]
    split
    · exact ⟨true, rfl⟩
    · exact ⟨s.request.sent, rfl⟩
  obtain ⟨r, marked⟩ := marked
  rw [finish, marked, checkCall]
  by_cases stopped : s.request.timedOut = false ∧ s.request.aborted = true
  · have error : NpWebApi.aborted ≠ orbisOk := by decide
    simp only [stopped, and_self, if_true, andThen]
    refine ⟨⟨rfl, rfl, rfl⟩, Or.inr ⟨?_, error⟩⟩
    intro through
    rcases through.notAborted with timedOut | running
    · rw [stopped.1] at timedOut
      cases timedOut
    · rw [stopped.2] at running
      cases running
  · simp only [stopped, if_false]
    by_cases signedOut : call.signedIn = false
    · have error : notSignedIn ≠ orbisOk := by decide
      simp only [signedOut, if_true, andThen]
      refine ⟨⟨rfl, rfl, rfl⟩, Or.inr ⟨?_, error⟩⟩
      intro through
      have signedIn := through.signedIn
      rw [signedOut] at signedIn
      cases signedIn
    · simp only [signedOut, andThen]
      have new : ({ s.request with sent := r } : Request).httpRequestId = 0 := new
      obtain ⟨same, served | failed⟩ := transmit_new (s := ⟨_, s.http⟩) call body new
      · obtain ⟨good, result, sent⟩ := served
        refine ⟨⟨same.multipart, same.parts, same.boundary⟩, Or.inl ⟨⟨?_, ?_, ?_⟩, result, sent⟩⟩
        · by_cases timedOut : s.request.timedOut = true
          · exact Or.inl timedOut
          · refine Or.inr ?_
            by_contra abort
            exact stopped ⟨by simpa using timedOut, by simpa using abort⟩
        · simpa using signedOut
        · exact ⟨good.method, good.template, good.connection, good.request, good.send, good.status⟩
      · obtain ⟨bad, result⟩ := failed
        refine ⟨⟨same.multipart, same.parts, same.boundary⟩, Or.inr ⟨?_, result⟩⟩
        intro through
        have good := through.served
        exact bad ⟨good.method, good.template, good.connection, good.request, good.send,
          good.status⟩

/-! ## Collecting -/

/-- A part with the bytes that were handed over for it. -/
def collected (param : PartParameter) (bytes : List UInt8) : Part where
  contentLength := param.contentLength
  rawHeaders := param.rawHeaders
  data := bytes
  sentSize := bytes.length

variable {params : List PartParameter} {delivered : List (List UInt8)}

theorem collected_append (param : PartParameter) (bytes chunk : List UInt8) :
    collected param (bytes ++ chunk) = (collected param bytes).append chunk := by
  simp [collected, Part.append]

theorem zipWith_collected_modify (params : List PartParameter) (delivered : List (List UInt8))
    (i : Nat) (chunk : List UInt8) :
    List.zipWith collected params (delivered.modify i (· ++ chunk)) =
      (List.zipWith collected params delivered).modify i (Part.append chunk) := by
  induction params generalizing delivered i with
  | nil => simp
  | cons param params ih =>
    cases delivered with
    | nil => simp
    | cons bytes delivered =>
      cases i with
      | zero => simp [collected_append]
      | succ i => simp [ih]

theorem multipartBody_collected (boundary : List UInt8) (params : List PartParameter)
    (delivered : List (List UInt8)) :
    multipartBody boundary (List.zipWith collected params delivered) =
      framed boundary params delivered := by
  have gathered : ∀ (parts : List Part) (body : List UInt8),
      parts.foldl (fun body p =>
        body ++ dashes ++ boundary ++ crlf ++ p.rawHeaders ++ p.data ++ crlf) body =
      body ++ (parts.map (fun p =>
        dashes ++ boundary ++ crlf ++ p.rawHeaders ++ p.data ++ crlf)).flatten := by
    intro parts
    induction parts with
    | nil => simp
    | cons p parts ih =>
      intro body
      rw [List.foldl_cons, ih]
      simp
  rw [multipartBody, gathered, framed, List.map_zipWith]
  rfl

/-- No part has more bytes than it was to have. -/
def Fits (params : List PartParameter) (delivered : List (List UInt8)) : Prop :=
  List.Forall₂ (fun param bytes => bytes.length ≤ param.contentLength) params delivered

theorem all_complete_iff (fits : Fits params delivered) :
    (List.zipWith collected params delivered).all Part.complete = true ↔
      Full params delivered := by
  induction fits with
  | nil => simp [Full]
  | @cons param bytes params delivered within fits ih =>
    have here : (collected param bytes).complete = true ↔ bytes.length = param.contentLength := by
      change decide (param.contentLength ≤ bytes.length) = true ↔ _
      rw [decide_eq_true_iff]
      omega
    rw [List.zipWith_cons_cons, List.all_cons, Bool.and_eq_true, ih, here]
    simp only [Full, List.forall₂_cons]

theorem Fits.modify {i : Nat} {chunk : List UInt8} (fits : Fits params delivered)
    (room : ∀ param ∈ params[i]?, ∀ bytes ∈ delivered[i]?,
      bytes.length + chunk.length ≤ param.contentLength) :
    Fits params (delivered.modify i (· ++ chunk)) := by
  induction fits generalizing i with
  | nil => simp [Fits]
  | @cons param bytes params delivered within fits ih =>
    cases i with
    | zero =>
      have longer := room param rfl bytes rfl
      simp only [Fits, List.modify_zero_cons, List.forall₂_cons, List.length_append]
      exact ⟨longer, fits⟩
    | succ i =>
      simp only [Fits, List.modify_succ_cons, List.forall₂_cons]
      exact ⟨within, ih room⟩

/-- There is no more room in full parts. -/
theorem Full.no_room {i : Nat} {chunk : List UInt8} (full : Full params delivered)
    (inside : i < params.length) (some : chunk ≠ []) :
    ¬∀ param ∈ params[i]?, ∀ bytes ∈ delivered[i]?,
      bytes.length + chunk.length ≤ param.contentLength := by
  intro room
  obtain ⟨same, each⟩ := List.forall₂_iff_get.mp full
  have equal := each i inside (same ▸ inside)
  have within := room _ (List.getElem?_eq_getElem inside) _
    (List.getElem?_eq_getElem (same ▸ inside))
  have positive := List.length_pos_iff.mpr some
  simp only [List.get_eq_getElem] at equal
  omega

theorem modify_append_ne {parts : List Part} {i : Nat} {chunk : List UInt8}
    (inside : i < parts.length) (some : chunk ≠ []) :
    parts.modify i (Part.append chunk) ≠ parts := by
  intro same
  have there := congrArg (fun parts : List Part => (parts[i]?).map (fun p => p.data.length)) same
  have positive := List.length_pos_iff.mpr some
  simp only [List.getElem?_modify_eq, List.getElem?_eq_getElem inside, Option.map_eq_map,
    Option.map_some, Part.append, List.length_append, Option.some.injEq] at there
  omega

/-! ## What a run keeps -/

structure Kept (boundary : List UInt8) (params : List PartParameter) (x : Exchange) : Prop where
  multipart : x.state.request.multipart = true
  framing : x.state.request.boundary = boundary
  parts : x.state.request.multipartParts = List.zipWith collected params x.delivered
  fits : Fits params x.delivered
  before : ¬Full params x.delivered →
    bodies x.state.http = [] ∧ x.state.request.httpRequestId = 0
  full : Full params x.delivered → bodies x.state.http =
    [((framed boundary params x.delivered).length, framed boundary params x.delivered)]

variable {boundary : List UInt8} {x : Exchange} {op : Op} {sdk : Nat}

theorem Kept.sentOnce (kept : Kept boundary params x) : SentOnce boundary params x :=
  ⟨kept.full, fun missing => (kept.before missing).1⟩

theorem Kept.length_parts (kept : Kept boundary params x) :
    x.state.request.multipartParts.length = params.length := by
  have same := kept.fits.length_eq
  rw [kept.parts, List.length_zipWith]
  omega

/-- The index names no part. -/
theorem sendRequest_outside (sdk : Nat) (kept : Kept boundary params x)
    (outside : (params.length : Int) < call.partIndex) :
    sendRequest sdk call x.state = (invalidArgument, x.state) := by
  have length := kept.length_parts
  have wrong : call.partIndex < 1 ∨ call.partIndex > x.state.request.multipartParts.length := by
    omega
  rw [sendRequest, collect]
  simp only [kept.multipart, wrong, if_true, Bool.true_eq_false, if_false, andThen]

/-- The request when all its parts are there. -/
def gathered (boundary : List UInt8) (params : List PartParameter) (delivered : List (List UInt8))
    (s : State) : State :=
  { s with request := { s.request with
    multipartParts := List.zipWith collected params delivered
    userContentType := s.request.typeName ++ text "; boundary=" ++ boundary
    userContentLength := (framed boundary params delivered).length } }

/-- The call takes the chunk into its part, and goes on when all parts are complete. -/
theorem sendRequest_inside (sdk : Nat) (kept : Kept boundary params x)
    (positive : 1 ≤ call.partIndex) (inside : call.partIndex ≤ params.length) :
    sendRequest sdk call x.state =
      let delivered := x.delivered.modify call.part (· ++ call.data)
      let parts := List.zipWith collected params delivered
      if parts.all Part.complete = false then
        (orbisOk, { x.state with request := { x.state.request with multipartParts := parts } })
      else
        finish sdk call (framed boundary params delivered)
          (gathered boundary params delivered x.state) := by
  have length := kept.length_parts
  have right : ¬(call.partIndex < 1 ∨ call.partIndex > x.state.request.multipartParts.length) := by
    omega
  have taken := zipWith_collected_modify params x.delivered call.part call.data
  rw [← kept.parts] at taken
  simp only [gathered, taken, ← multipartBody_collected]
  rw [sendRequest, collect]
  simp only [kept.multipart, right, Bool.true_eq_false, if_false, kept.framing, Call.part]
  split
  · rfl
  · rfl

theorem GoesThrough.congr {r r' : Request} (through : GoesThrough call r)
    (method : r'.userMethod = r.userMethod) (timedOut : r'.timedOut = r.timedOut)
    (aborted : r'.aborted = r.aborted) : GoesThrough call r' where
  notAborted := by
    rw [timedOut, aborted]
    exact through.notAborted
  signedIn := through.signedIn
  served := {
    method := by
      rw [method]
      exact through.served.method
    template := through.served.template
    connection := through.served.connection
    request := through.served.request
    send := through.served.send
    status := through.served.status }

theorem Kept.completes_iff (kept : Kept boundary params x) (positive : 1 ≤ call.partIndex)
    (inside : call.partIndex ≤ params.length)
    (fits : Fits params (x.delivered.modify call.part (· ++ call.data))) :
    Completes call x.state.request ↔
      Full params (x.delivered.modify call.part (· ++ call.data)) := by
  have length := kept.length_parts
  have taken := zipWith_collected_modify params x.delivered call.part call.data
  rw [← kept.parts] at taken
  rw [Completes, ← taken, all_complete_iff fits, length]
  exact ⟨fun completes => completes.2.2, fun full => ⟨positive, inside, full⟩⟩

/-- The last chunk has been taken, and nothing was sent before. -/
theorem finish_gathered {later : List (List UInt8)} (sdk : Nat) (call : Call)
    (kept : Kept boundary params x) (none : bodies x.state.http = [])
    (new : x.state.request.httpRequestId = 0) (fits : Fits params later)
    (full : Full params later) :
    let answer := finish sdk call (framed boundary params later)
      (gathered boundary params later x.state)
    GoesThrough call x.state.request ∧ answer.1 = orbisOk ∧
        Kept boundary params ⟨answer.2, later⟩ ∨
      ¬GoesThrough call x.state.request ∧ answer.1 ≠ orbisOk ∧
        answer.2.request.multipartParts = List.zipWith collected params later := by
  have start : (gathered boundary params later x.state).request.httpRequestId = 0 := new
  obtain ⟨same, ⟨through, ok, one⟩ | ⟨stuck, error⟩⟩ :=
    finish_new sdk call (framed boundary params later) start
  · refine Or.inl ⟨through.congr rfl rfl rfl, ok, ?_⟩
    constructor
    · exact same.multipart.trans kept.multipart
    · exact same.boundary.trans kept.framing
    · exact same.parts
    · exact fits
    · exact fun missing => absurd full missing
    · intro _
      have before : bodies (gathered boundary params later x.state).http = [] := none
      rw [one, before]
      rfl
  · refine Or.inr ⟨?_, error, same.parts⟩
    intro through
    exact stuck (through.congr rfl rfl rfl)

theorem invalidArgument_ne_orbisOk : invalidArgument ≠ orbisOk := by decide

/-- A call that gives in a chunk. A failure leaves the chunk in the parts. -/
theorem send_keeps (kept : Kept boundary params x) (splits : Splits params (.send call) x) :
    (Undone sdk (.send call) x (step sdk (.send call) x) ↔ Succeeds (.send call) x) ∧
      (Succeeds (.send call) x → Kept boundary params (step sdk (.send call) x)) := by
  obtain ⟨some, positive, room⟩ := splits
  have length := kept.length_parts
  by_cases inside : call.partIndex ≤ params.length
  · have there : call.part < params.length := by
      rw [Call.part]
      omega
    have missing : ¬Full params x.delivered := fun full => full.no_room there some room
    have fits := kept.fits.modify room
    have completes := kept.completes_iff positive inside fits
    obtain ⟨none, new⟩ := kept.before missing
    have sent := sendRequest_inside sdk kept positive inside
    simp only at sent
    by_cases full : Full params (x.delivered.modify call.part (· ++ call.data))
    · have complete := (all_complete_iff fits).mpr full
      simp only [complete, Bool.true_eq_false, if_false] at sent
      simp only [Undone, Succeeds, step, sent, completes, full, true_imp_iff]
      rcases finish_gathered sdk call kept none new fits full with
        ⟨through, ok, later⟩ | ⟨stuck, error, parts⟩
      · rw [if_pos ok]
        exact ⟨⟨fun _ => through, fun _ wrong => absurd ok wrong⟩, fun _ => later⟩
      · have inside : call.part < x.state.request.multipartParts.length := by omega
        have changed := modify_append_ne inside some
        refine ⟨⟨fun undone => ?_, fun through => absurd through stuck⟩,
          fun through => absurd through stuck⟩
        have taken := zipWith_collected_modify params x.delivered call.part call.data
        rw [← kept.parts] at taken
        exact absurd (taken.symm.trans (parts.symm.trans (undone error))) changed
    · have incomplete := mt (all_complete_iff fits).mp full
      rw [Bool.not_eq_true] at incomplete
      simp only [incomplete, if_true] at sent
      simp only [Undone, Succeeds, step, sent, completes, full, if_true]
      refine ⟨by simp, fun _ => ?_⟩
      exact ⟨kept.multipart, kept.framing, rfl, fits, fun _ => ⟨none, new⟩, fun h => absurd h full⟩
  · have outside : (params.length : Int) < call.partIndex := by omega
    have sent := sendRequest_outside sdk kept outside
    have incomplete : ¬Completes call x.state.request := by
      intro completes
      have within := completes.2.1
      omega
    simp only [Undone, Succeeds, step, sent, incomplete, invalidArgument_ne_orbisOk, if_false]
    exact ⟨by simp, fun _ => kept⟩

theorem step_keeps (op : Op) (kept : Kept boundary params x) (splits : Splits params op x) :
    (Undone sdk op x (step sdk op x) ↔ Succeeds op x) ∧
      (Succeeds op x → Kept boundary params (step sdk op x)) := by
  cases op with
  | send call => exact send_keeps kept splits
  | abort =>
    refine ⟨Iff.rfl, fun _ => ?_⟩
    exact ⟨kept.multipart, kept.framing, kept.parts, kept.fits, kept.before, kept.full⟩
  | timeOut =>
    refine ⟨Iff.rfl, fun _ => ?_⟩
    exact ⟨kept.multipart, kept.framing, kept.parts, kept.fits, kept.before, kept.full⟩

/-! ## Whole runs -/

theorem foldl_addMultipartPart (params : List PartParameter) (r : Request) :
    params.foldl addMultipartPart r =
      { r with multipartParts := r.multipartParts ++ params.map (collected · []) } := by
  induction params generalizing r with
  | nil => simp
  | cons param params ih =>
    rw [List.foldl_cons, ih]
    simp [addMultipartPart, collected]

theorem full_nothing_iff (params : List PartParameter) :
    Full params (params.map fun _ => []) ↔ ∀ param ∈ params, param.contentLength = 0 := by
  induction params with
  | nil => simp [Full]
  | cons param params ih =>
    rw [Full] at ih
    simp only [Full, List.map_cons, List.forall₂_cons, List.forall_mem_cons, ih, List.length_nil]
    exact and_congr eq_comm Iff.rfl

/-- Nothing has been handed over. -/
theorem begin_kept {r : Request} (fresh : Fresh r) (some : ∃ p ∈ params, 0 < p.contentLength) :
    Kept r.boundary params (begin r params) := by
  have missing : ¬Full params (params.map fun _ => []) := by
    rw [full_nothing_iff]
    intro zero
    obtain ⟨param, member, positive⟩ := some
    have nothing := zero param member
    omega
  rw [begin, foldl_addMultipartPart]
  constructor
  · exact fresh.multipart
  · rfl
  · simp only [fresh.parts, List.nil_append, List.zipWith_map_right, List.zipWith_self]
  · simp only [Fits, List.forall₂_map_right_iff, List.forall₂_same, List.length_nil]
    exact fun _ _ => Nat.zero_le _
  · exact fun _ => ⟨rfl, fresh.http⟩
  · exact fun full => absurd full missing

/-- One request is sent, with the parts in their order, and errors leave the parts alone, as long
as every call with the last chunk goes through. -/
theorem body_sent_once_iff (sdk : Nat) (r : Request) (fresh : Fresh r)
    (params : List PartParameter) (ops : List Op)
    (splits : Runs.Admitted (step sdk) (Splits params) ops (begin r params)) :
    Runs.Throughout (step sdk) (SentOnce r.boundary params) (Undone sdk) ops (begin r params) ↔
      (∃ p ∈ params, 0 < p.contentLength) ∧
        Runs.Admitted (step sdk) Succeeds ops (begin r params) := by
  by_cases some : ∃ p ∈ params, 0 < p.contentLength
  · have moves : ∀ op x, Kept r.boundary params x → Splits params op x →
        (Undone sdk op x (step sdk op x) ↔ Succeeds op x) :=
      fun op x kept splits => (step_keeps op kept splits).1
    have keeps : ∀ op x, Kept r.boundary params x → Splits params op x → Succeeds op x →
        Kept r.boundary params (step sdk op x) :=
      fun op x kept splits => (step_keeps op kept splits).2
    rw [and_iff_right some]
    exact Runs.throughout_iff_admitted_within (fun _ => Kept.sentOnce) moves keeps
      (begin_kept fresh some) splits
  · have zero : Full params (params.map fun _ => []) := by
      rw [full_nothing_iff]
      intro param member
      by_contra positive
      exact some ⟨param, member, by omega⟩
    refine ⟨fun holds => ?_, fun met => absurd met.1 some⟩
    have sent := holds.first.full zero
    have none : bodies (begin r params).state.http = [] := rfl
    rw [none] at sent
    cases sent

/-- Two parts in three chunks, the second part first. -/
def twoParts : List PartParameter :=
  [{ headers := [(some (text "a"), some (text "b"))], contentLength := 2 }, { contentLength := 1 }]

def multipartRequest : Request := { requestId := 0x8001, userMethod := .post, multipart := true }

def chunk (part : Int) (data : List UInt8) : Call where
  partIndex := part
  data := data
  template := .made 0
  connection := .made 1
  request := .made 2

theorem two_parts_sent :
    Runs.Throughout (step fw250) (SentOnce multipartRequest.boundary twoParts) (Undone fw250)
      [.send (chunk 2 [9]), .send (chunk 1 [7]), .send (chunk 1 [8])]
      (begin multipartRequest twoParts) := by
  have through : ∀ part data r, r.userMethod = .post → r.aborted = false →
      GoesThrough (chunk part data) r := by
    intro part data r method running
    refine ⟨Or.inr running, rfl, ?_⟩
    refine ⟨?_, rfl, rfl, rfl, Int.le_refl 0, rfl⟩
    rw [method]
    decide
  refine (body_sent_once_iff fw250 multipartRequest ⟨rfl, rfl, rfl⟩ twoParts _ ?_).mpr ⟨?_, ?_⟩
  · exact ⟨by decide +kernel, by decide +kernel, by decide +kernel, trivial⟩
  · exact ⟨{ contentLength := 1 }, by decide, by decide⟩
  · exact ⟨fun _ => through _ _ _ rfl rfl, fun _ => through _ _ _ rfl rfl,
      fun _ => through _ _ _ rfl rfl, trivial⟩

/-- The last chunk is handed over while the user is not signed in, and stays in its part. -/
theorem chunk_kept_after_error :
    ¬Runs.Throughout (step fw250) (SentOnce multipartRequest.boundary [{ contentLength := 1 }])
      (Undone fw250) [.send { chunk 1 [7] with signedIn := false }, .send (chunk 1 [7])]
      (begin multipartRequest [{ contentLength := 1 }]) := by
  intro holds
  have undone := holds.2.1 (by decide)
  exact absurd undone (by decide)

end NpWebApi.Sending
