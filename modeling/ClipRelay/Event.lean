import ClipRelay.Excerpt
import ClipRelay.ErrorCode
import ClipRelay.Json.Printer

/-!
# Events of the outbound stream

An event is a JSON object. Events of the worker are passed on as they are; the library adds one that
says that the download has begun, one for the artifact on disk, and its own errors. A stream ends
with the first event that is terminal.
-/

namespace ClipRelay

inductive Event
  /-- An event of the worker, unchanged. -/
  | relay (payload : Json)
  /-- The job is done and its artifact is being downloaded. -/
  | downloading (message : String)
  /-- The artifact is on disk. -/
  | complete (outputPath filename : String) (size : Nat) (message : String)
  /-- A failure on this side. -/
  | error (code : ErrorCode) (message : String) (details : Option String)

namespace Event

/-- An error with details, which are cut. -/
def failure (code : ErrorCode) (message : String) (details : Option String) : Event :=
  .error code message (details.map excerpt)

/-- The `stage` of an event as it stands on the wire. -/
def stage? : Event → Option String
  | relay payload => (payload.get? "stage").bind Json.asText?
  | downloading _ => some "downloading"
  | complete .. => some "complete"
  | error .. => some "error"

/-- The stream ends after this event. -/
def isTerminal : Event → Bool
  | relay payload => (relay payload).stage? == some "error"
  | downloading _ => false
  | complete .. => true
  | error .. => true

/-- The object that is sent. -/
def toJson : Event → Json
  | relay payload => payload
  | downloading message => Json.ofMembers
    [("stage", .string "downloading"), ("status", .string "processing"), ("progress", .ofInt 100),
      ("message", .string message)]
  | complete outputPath filename size message => Json.ofMembers
    [("stage", .string "complete"), ("status", .string "complete"), ("progress", .ofInt 100),
      ("message", .string message), ("output_path", .string outputPath),
      ("filename", .string filename), ("size_bytes", .ofInt size)]
  | error code message details => Json.ofMembers <|
    [("stage", .string "error"), ("status", .string "error"), ("error", .string code.name),
      ("message", .string message)]
    ++ match details with
      | some d => [("details", .string d)]
      | none => []

/-- An event as it is sent: one line of data and an empty line. -/
def frame (e : Event) : String := "data: " ++ e.toJson.compact ++ "\n\n"

end Event

end ClipRelay
