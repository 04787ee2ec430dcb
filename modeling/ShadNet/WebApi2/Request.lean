import Mathlib.Data.BitVec
import Mathlib.Data.List.Basic

/-!
# Requests of the second web API

A request hands its body to the HTTP library piece by piece. Every call of the library is listed
with the request, and its answers are inputs: a negative one is a failure, and any other takes all
the bytes that it was given.
-/

namespace NpWebApi2

/-- What the game passes as `data` and `data_size`. -/
inductive SendData where
  | null (size : BitVec 64)
  | buffer (bytes : List UInt8) (fits : bytes.length < 2 ^ 64)

namespace SendData

def isNull : SendData → Bool
  | null _ => true
  | buffer _ _ => false

def size : SendData → BitVec 64
  | null size => size
  | buffer bytes _ => BitVec.ofNat 64 bytes.length

/-- The bytes that the game offers. -/
def bytes : SendData → List UInt8
  | null _ => []
  | buffer bytes _ => bytes

end SendData

inductive HttpCall where
  | setRequestContentLength (contentLength : BitVec 64)
  | sendRequest (null : Bool) (bytes : List UInt8) (size : BitVec 64)
  deriving DecidableEq, Repr

/-- `httpCalls` lists what the HTTP library was given, `accepted` the bytes it took. -/
structure Request where
  contentLength : BitVec 64
  sentData : BitVec 32 := 0
  httpCalls : List HttpCall := []
  accepted : List UInt8 := []

/-- What the HTTP library answers to the calls that a call of `SendHttpRequest` makes. -/
structure SendAnswers where
  setContentLength : Int := 0
  sendEmpty : Int := 0
  sendData : Int := 0

namespace Request

/-- The signed counter is widened for the comparison. -/
def outOfData (r : Request) : Bool := r.contentLength == r.sentData.signExtend 64

def callHttp (call : HttpCall) (r : Request) : Request :=
  { r with httpCalls := r.httpCalls ++ [call] }

/-- The last part of `SendHttpRequest`. -/
def sendRest (answer : Int) (data : SendData) (result : Int) (r : Request) : Int × Request :=
  let remaining := r.contentLength - r.sentData.signExtend 64
  let actualSize := if data.size < remaining then data.size else remaining
  if r.contentLength ≤ r.sentData.signExtend 64 then (result, r)
  else
    let given := data.bytes.take actualSize.toNat
    let r := r.callHttp (.sendRequest data.isNull given actualSize)
    if answer < 0 then (answer, r)
    else
      (answer, { r with
        accepted := r.accepted ++ given
        sentData := (r.sentData.signExtend 64 + actualSize).setWidth 32 })

/-- The empty send, after which the function goes on. -/
def sendEmpty (answers : SendAnswers) (data : SendData) (result : Int) (r : Request) :
    Int × Request :=
  if data.isNull ∨ data.size = 0 ∨ r.contentLength = 0 then
    let r := r.callHttp (.sendRequest true [] 0)
    if answers.sendEmpty < 0 then (answers.sendEmpty, r)
    else sendRest answers.sendData data answers.sendEmpty r
  else sendRest answers.sendData data result r

def sendHttpRequest (answers : SendAnswers) (data : SendData) (r : Request) : Int × Request :=
  if r.contentLength ≠ 0 ∧ r.sentData = 0 then
    let r := r.callHttp (.setRequestContentLength r.contentLength)
    if answers.setContentLength < 0 then (answers.setContentLength, r)
    else sendEmpty answers data answers.setContentLength r
  else sendEmpty answers data 0 r

end Request

end NpWebApi2
