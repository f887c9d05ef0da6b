import ClipRelay.Service.Cors
import ClipRelay.Service.Jobs
import ClipRelay.Service.MediaType
import ClipRelay.Service.Route

/-!
# Answering requests

`Service.answer` is the service: it finds the route of a request, reads its body, performs the
operation and writes the answer. A body has to be announced as JSON, fit the limit and hold a value
of the right shape, and is checked in that order; text behind the value is ignored. Every answer
carries the id of its request, given or made up, and the headers for other origins.
-/

namespace ClipRelay

open Text

/-- A request as it arrives. -/
structure Incoming where
  method : String
  /-- Path and query. -/
  target : String
  /-- Names and values in the order in which they arrive. -/
  headers : List (String × Bytes)
  body : Bytes

namespace Incoming

/-- The first value of a header, whose name is given in lower case. -/
def header? (r : Incoming) (name : String) : Option Bytes :=
  (r.headers.find? (asciiLower ·.1 == name)).map Prod.snd

/-- The first value of a header if it is plain ASCII. -/
def plainHeader? (r : Incoming) (name : String) : Option String := do
  let bs ← r.header? name
  if bs.all fun b => (0x20 ≤ b && b < 0x7F) || b = 0x09 then return lossy bs else none

def path (r : Incoming) : String :=
  String.ofList (r.target.toList.takeWhile fun c => c != '?' && c != '#')

end Incoming

/-- The body of an answer. -/
inductive AnswerBody
  | none
  | json (v : Json)
  | events (es : List Event)

def AnswerBody.text : AnswerBody → String
  | .none => ""
  | .json v => v.compact
  | .events es => String.join (es.map Event.frame)

structure Outgoing where
  status : Nat
  headers : List (String × String)
  body : AnswerBody

/-! ## Reading bodies -/

/-- Why the body of a request is not read. -/
inductive BodyFault
  | notJson
  | tooLong
  | malformed
  | mistyped
  deriving DecidableEq

namespace BodyFault

def status : BodyFault → Nat
  | notJson => 415
  | tooLong => 413
  | malformed => 400
  | mistyped => 422

def reason : BodyFault → String
  | notJson => "Expected request with `Content-Type: application/json`"
  | tooLong => "Failed to buffer the request body"
  | malformed => "Failed to parse the request body as JSON"
  | mistyped => "Failed to deserialize the JSON body into the target type"

def message (f : BodyFault) : String := "Invalid JSON body: " ++ f.reason

def ofRead : Json.Read.Fault → BodyFault
  | .malformed => malformed
  | .mistyped => mistyped

end BodyFault

/-- The body of a request as a value of a type. -/
def Incoming.read (α : Type) [Wire α] (r : Incoming) (maxSize : Nat) : Except BodyFault α :=
  if !((r.plainHeader? "content-type").bind MediaType.ofText?).any MediaType.isJson then
    .error .notJson
  else if maxSize < r.body.length then .error .tooLong
  else match Wire.decodeFront (glyphs r.body) with
    | .ok v => .ok v
    | .error f => .error (.ofRead f)

namespace Service

/-! ## Answers -/

def json (status : Nat) (v : Json) : Outgoing := ⟨status, [("content-type", "application/json")], .json v⟩

/-- The answer to a request that is refused. -/
def refusal (status : Nat) (message : String) : Outgoing :=
  json status (.object
    [("error", .string ErrorCode.invalidRequest.name), ("message", .string message)])

/-- A value of the wire, or a refusal. -/
def ofResult {α : Type} [Wire α] : Except String α → Outgoing
  | .ok v => json 200 (Wire.toJson v)
  | .error message => refusal 400 message

/-- Events, or a refusal. -/
def ofEvents : Except String (List Event) → Outgoing
  | .ok es => ⟨200, [("content-type", "text/event-stream"), ("cache-control", "no-cache")], .events es⟩
  | .error message => refusal 400 message

/-- The version of the service. -/
def version : String := "0.1.0"

/-- The answer that the service is alive. -/
def alive (now : String) (encoderAvailable : Bool) : Outgoing :=
  json 200 (.object
    [("status", .string "ok"), ("version", .string version), ("timestamp", .string now),
      ("encoder_available", .bool encoderAvailable)])

/-- Performs an operation on the body of a request. -/
def onBody {α : Type} [Wire α] (settings : ServiceSettings) (r : Incoming)
    (operation : α → Action Outgoing) : Action Outgoing :=
  match r.read α settings.maxBodySize with
  | .ok v => operation v
  | .error f => return refusal f.status f.message

/-- Answers a request on a route. -/
def perform (settings : ServiceSettings) (encoder : Encoder) (now : String) (route : Route)
    (r : Incoming) : Action Outgoing :=
  match route with
  | .alive => return alive now (← get).tools.encoder.isSome
  | .ping => onBody settings r fun v => return json 200 (Wire.toJson (ping v))
  | .health => onBody settings r fun v => return ofResult (← health settings v)
  | .start => onBody settings r fun v => return ofResult (← start settings encoder v)
  | .progress => onBody settings r fun v => return ofResult (← progress settings v)
  | .process => onBody settings r fun v => return ofResult (← process settings encoder v)
  | .stream => onBody settings r fun v => return ofEvents (← stream settings encoder v)

/-- Answers a request that is no question about what may be sent. -/
def dispatch (settings : ServiceSettings) (encoder : Encoder) (now : String) (r : Incoming) :
    Action Outgoing :=
  match Route.ofPath? r.path with
  | none => return ⟨404, [], .none⟩
  | some route =>
    if !route.methods.contains r.method then return ⟨405, [route.allowHeader], .none⟩
    else do
      let answer ← perform settings encoder now route r
      return if r.method = "HEAD" then { answer with body := .none } else answer

/-! ## The service -/

/-- The header of the id of a request. -/
def idHeader : String := "x-request-id"

/-- The id of a request, made up if it brings none. -/
def requestId (r : Incoming) : Action String :=
  match r.plainHeader? idHeader with
  | some id => return id
  | none => World.draw

/-- The origin of the page that sends a request. -/
def originOf (r : Incoming) : Option String := (r.header? Cors.originHeader).map lossy

/-- The answer to the question what may be sent. -/
def preflight (settings : ServiceSettings) (r : Incoming) : Outgoing :=
  ⟨200, Cors.preflightHeaders settings.corsOrigins (originOf r)
    ++ ((Route.ofPath? r.path).map Route.allowHeader).toList, .none⟩

/-- Answers a request. -/
def answer (settings : ServiceSettings) (encoder : Encoder) (now : String) (r : Incoming) :
    Action Outgoing := do
  if r.method = "OPTIONS" then return preflight settings r
  else
    let id ← requestId r
    let out ← dispatch settings encoder now r
    return { out with
      headers := out.headers ++ (idHeader, id) :: Cors.headers settings.corsOrigins (originOf r) }

end Service

end ClipRelay
