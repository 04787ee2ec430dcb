import ShadNet.WebApi.State
import Mathlib.Algebra.Group.Nat.Defs
import Mathlib.Data.List.Basic
import Mathlib.Tactic.SplitIfs

/-!
# Sending a request

`sendRequest` on a request that is there, cut where it calls the HTTP library. What the library
answers is an input: the ids that it gives are positive, and an error is negative.
-/

namespace NpWebApi.Sending

/-! ## Requests -/

def text (s : String) : List UInt8 := s.toList.map (fun c => UInt8.ofNat c.toNat)

def crlf : List UInt8 := [0x0D, 0x0A]
def dashes : List UInt8 := [0x2D, 0x2D]

inductive HttpMethod where
  | get
  | post
  | put
  | delete
  | patch
  | other (method : Nat)
  deriving DecidableEq, Repr

def HttpMethod.sceMethod : HttpMethod → Option Int
  | get => some 0
  | post => some 1
  | put => some 4
  | delete => some 5
  | patch => some 8
  | other _ => none

/-- The name or the value of a header may be null. -/
structure PartParameter where
  headers : List (Option (List UInt8) × Option (List UInt8)) := []
  contentLength : Nat
  deriving DecidableEq, Repr

structure Part where
  contentLength : Nat
  rawHeaders : List UInt8
  data : List UInt8 := []
  sentSize : Nat := 0
  deriving DecidableEq, Repr

/-- `announced` is the content length that the HTTP request was made with. -/
structure Request where
  requestId : Nat
  userMethod : HttpMethod
  multipart : Bool
  userContentLength : Nat := 0
  userContentType : List UInt8 := []
  multipartContentType : List UInt8 := []
  multipartBoundary : List UInt8 := []
  multipartParts : List Part := []
  aborted : Bool := false
  timedOut : Bool := false
  sent : Bool := false
  requestState : Nat := 0
  httpTemplateId : Int := 0
  httpConnectionId : Int := 0
  httpRequestId : Int := 0
  announced : Nat := 0
  deriving DecidableEq, Repr

/-! ### Parts -/

def lower (c : UInt8) : UInt8 := if 0x41 ≤ c ∧ c ≤ 0x5A then c + 0x20 else c

def isContentLength (name : List UInt8) : Bool := name.map lower == text "content-length"

def headerLine (header : Option (List UInt8) × Option (List UInt8)) : List UInt8 :=
  match header with
  | (some name, some value) =>
    if isContentLength name then [] else name ++ text ": " ++ value ++ crlf
  | _ => []

def decimal (n : Nat) : List UInt8 := (Nat.toDigits 10 n).map (fun c => UInt8.ofNat c.toNat)

def PartParameter.rawHeaders (param : PartParameter) : List UInt8 :=
  param.headers.foldl (fun headers header => headers ++ headerLine header) [] ++
    text "Content-Length: " ++ decimal param.contentLength ++ crlf ++ crlf

def addMultipartPart (r : Request) (param : PartParameter) : Request :=
  { r with
    multipartParts := r.multipartParts ++ [{
      contentLength := param.contentLength
      rawHeaders := param.rawHeaders }] }

def Part.append (bytes : List UInt8) (p : Part) : Part :=
  { p with data := p.data ++ bytes, sentSize := p.sentSize + bytes.length }

def Part.complete (p : Part) : Bool := p.contentLength ≤ p.sentSize

/-! ### The body -/

def hexDigit (n : Nat) : UInt8 := (text "0123456789abcdef").getD n 0

/-- The sixteen digits of the id, from the highest on. -/
def hexId (id : Nat) : List UInt8 :=
  (List.range 16).map (fun i => hexDigit (id / 16 ^ (15 - i) % 16))

def Request.boundary (r : Request) : List UInt8 :=
  if r.multipartBoundary = [] then text "----shadPS4Boundary" ++ hexId r.requestId
  else r.multipartBoundary

def Request.typeName (r : Request) : List UInt8 :=
  if r.multipartContentType = [] then text "multipart/mixed" else r.multipartContentType

def multipartBody (boundary : List UInt8) (parts : List Part) : List UInt8 :=
  parts.foldl (fun body p => body ++ dashes ++ boundary ++ crlf ++ p.rawHeaders ++ p.data ++ crlf)
    [] ++ dashes ++ boundary ++ dashes ++ crlf

/-! ## The HTTP library -/

inductive HttpObject where
  | template (id : Int)
  | connection (id : Int)
  | request (id : Int)
  deriving DecidableEq, Repr

/-- What was made and deleted, and what was sent with which announced length. -/
inductive HttpEvent where
  | obtained (o : HttpObject)
  | deleted (o : HttpObject)
  | sent (id : Int) (announced : Nat) (body : List UInt8)
  deriving DecidableEq, Repr

inductive HttpAnswer where
  | failed (code : Nat)
  | made (number : Nat)
  deriving DecidableEq, Repr

def HttpAnswer.returned : HttpAnswer → Int
  | failed code => -(code + 1)
  | made number => number + 1

def HttpAnswer.isMade : HttpAnswer → Bool
  | failed _ => false
  | made _ => true

theorem returned_failed (code : Nat) : (HttpAnswer.failed code).returned < 0 := by
  rw [HttpAnswer.returned]
  omega

theorem returned_made (number : Nat) : ¬(HttpAnswer.made number).returned < 0 := by
  rw [HttpAnswer.returned]
  omega

/-- A request, and all that the HTTP library did for it. -/
structure State where
  request : Request
  http : List HttpEvent := []
  deriving DecidableEq, Repr

def State.note (events : List HttpEvent) (s : State) : State := { s with http := s.http ++ events }

/-! ## The steps of a call -/

/-- Either the call returns, or it goes on. -/
inductive Outcome (α : Type) where
  | returns (result : Int)
  | goesOn (a : α)

/-- What is sent, once all parts of a multipart request are complete. -/
def collect (partIndex : Int) (data : List UInt8) (s : State) : Outcome (List UInt8) × State :=
  let r := s.request
  if r.multipart = false then (.goesOn data, s)
  else if partIndex < 1 ∨ partIndex > r.multipartParts.length then (.returns invalidArgument, s)
  else
    let parts := r.multipartParts.modify (partIndex - 1).toNat (Part.append data)
    if parts.all Part.complete = false then
      (.returns orbisOk, { s with request := { r with multipartParts := parts } })
    else
      let body := multipartBody r.boundary parts
      (.goesOn body, { s with request := { r with
        multipartParts := parts
        userContentType := r.typeName ++ text "; boundary=" ++ r.boundary
        userContentLength := body.length } })

def markSent (sdk : Nat) (s : State) : State :=
  if fw250 ≤ sdk then { s with request := { s.request with sent := true } } else s

def checkCall (signedIn : Bool) (s : State) : Outcome Unit × State :=
  if s.request.timedOut = false ∧ s.request.aborted = true then (.returns NpWebApi.aborted, s)
  else if signedIn = false then (.returns notSignedIn, s)
  else (.goesOn (), s)

def createTemplate (answer : HttpAnswer) (s : State) : Outcome Int × State :=
  let tmplId := answer.returned
  if tmplId < 0 then (.returns tmplId, s)
  else
    (.goesOn tmplId, { s with request := { s.request with httpTemplateId := tmplId } }.note
      [.obtained (.template tmplId)])

def createConnection (tmplId : Int) (answer : HttpAnswer) (s : State) : Outcome Int × State :=
  let connId := answer.returned
  if connId < 0 then
    (.returns connId, { s with request := { s.request with httpTemplateId := 0 } }.note
      [.deleted (.template tmplId)])
  else
    (.goesOn connId, { s with request := { s.request with httpConnectionId := connId } }.note
      [.obtained (.connection connId)])

/-- An unknown method is noticed when the connection is there. -/
def createHttpRequest (tmplId connId : Int) (answer : HttpAnswer) (s : State) :
    Outcome Unit × State :=
  match s.request.userMethod.sceMethod with
  | none => (.returns invalidArgument, s)
  | some _ =>
    let reqId := answer.returned
    if reqId < 0 then
      (.returns reqId,
        { s with request := { s.request with httpConnectionId := 0, httpTemplateId := 0 } }.note
          [.deleted (.connection connId), .deleted (.template tmplId)])
    else
      (.goesOn (), { s with request := { s.request with
          httpRequestId := reqId
          announced := s.request.userContentLength } }.note [.obtained (.request reqId)])

/-- `status` is what the call makes of the status of the response, when it is asked for it. -/
def sendBody (body : List UInt8) (sendErr status : Int) (s : State) : Int × State :=
  let s := { s with request := { s.request with requestState := 4 } }
  if sendErr < 0 then (sendErr, s)
  else (status, s.note [.sent s.request.httpRequestId s.request.announced body])

/-! ## The call -/

structure Call where
  partIndex : Int := 0
  data : List UInt8
  signedIn : Bool := true
  template : HttpAnswer
  connection : HttpAnswer
  request : HttpAnswer
  sendErr : Int := 0
  status : Int := 0
  deriving DecidableEq, Repr

def andThen {α : Type} (step : Outcome α × State) (next : α → State → Int × State) : Int × State :=
  match step with
  | (.returns result, s) => (result, s)
  | (.goesOn a, s) => next a s

/-- The part behind the checks. -/
def transmit (call : Call) (body : List UInt8) (s : State) : Int × State :=
  if s.request.httpRequestId = 0 then
    andThen (createTemplate call.template s) fun tmplId s =>
      andThen (createConnection tmplId call.connection s) fun connId s =>
        andThen (createHttpRequest tmplId connId call.request s) fun _ s =>
          sendBody body call.sendErr call.status s
  else sendBody body call.sendErr call.status s

def sendRequest (sdk : Nat) (call : Call) (s : State) : Int × State :=
  andThen (collect call.partIndex call.data s) fun body s =>
    andThen (checkCall call.signedIn (markSent sdk s)) fun _ s => transmit call body s

def abortRequest (s : State) : State := { s with request := { s.request with aborted := true } }

/-- `checkRequestTimeout`, when the time is up. -/
def timeOut (s : State) : State :=
  { s with request := { s.request with timedOut := true, aborted := true } }

end NpWebApi.Sending
