import ClipRelay.Event
import ClipRelay.Text.Search
import ClipRelay.Worker.WarningPage

/-!
# Failures of the work with the worker

Everything that can go wrong between a request of the client and the artifact on disk, with the code,
the message and the details that the client sees. A body that is not the JSON that was expected is a
warning page or quoted in the message (`WorkerFault.ofBody`).
-/

namespace ClipRelay

inductive WorkerFault
  | fileNotFound (path : String)
  | fileAccess (path reason : String)
  | invalidRequest (reason : String)
  /-- The worker could not be reached. -/
  | network (reason : String)
  /-- The worker refused a job. -/
  | server (status : Nat) (body : String)
  /-- The worker refused to tell the progress. -/
  | progressCheck (status : Nat) (body : String)
  | warningPage (body : String)
  | invalidResponse (quote : String)
  | noJobId
  | download (reason : String)
  | stream (reason : String)
  | timeout (seconds : Nat)
  deriving DecidableEq

namespace WorkerFault

def code : WorkerFault → ErrorCode
  | fileNotFound _ => .fileNotFound
  | fileAccess .. => .fileAccess
  | invalidRequest _ => .invalidRequest
  | network _ => .network
  | server .. => .workerServer
  | progressCheck .. => .progressCheck
  | warningPage _ => .warningPage
  | invalidResponse _ => .invalidResponse
  | noJobId => .noJobId
  | download _ => .downloadFailed
  | stream _ => .stream
  | timeout _ => .timeout

def message : WorkerFault → String
  | fileNotFound path => "File not found: " ++ path
  | fileAccess path reason => "Cannot read file " ++ path ++ ": " ++ reason
  | invalidRequest reason => "Invalid request: " ++ reason
  | network reason => "Failed to connect to Colab server: " ++ reason
  | server status _ => "Colab server error: " ++ toString status
  | progressCheck status _ => "Failed to get progress: " ++ toString status
  | warningPage _ =>
    "ngrok warning page detected - received HTML instead of JSON. "
      ++ "Open the Colab URL in a browser once to accept the warning, then retry."
  | invalidResponse quote => "Invalid response from Colab server: " ++ quote
  | noJobId => "No job ID returned from Colab server"
  | download reason => "Download failed: " ++ reason
  | stream reason => "Event stream failed: " ++ reason
  | timeout seconds => "Job did not finish within " ++ toString seconds ++ " seconds"

/-- The body of the worker's answer, where it is kept. -/
def body? : WorkerFault → Option String
  | server _ body | progressCheck _ body | warningPage body => some body
  | _ => none

/-- What is shown of a body that is not empty. -/
def details (f : WorkerFault) : Option String := (f.body?.filter (· ≠ "")).map excerpt

/-- The event that tells of a failure. -/
def event (f : WorkerFault) : Event := .failure f.code f.message f.details

/-- The most characters that are quoted of an answer. -/
def maxQuote : Nat := 200

/-- What a body that is not the expected JSON means. -/
def ofBody (body : String) : WorkerFault :=
  if WarningPage.recognizes body then .warningPage (excerpt body)
  else .invalidResponse (Text.firstChars maxQuote body)

end WorkerFault

end ClipRelay
