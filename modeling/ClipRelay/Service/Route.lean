/-!
# Routes

The paths of the service and the methods that each of them answers.
-/

namespace ClipRelay

inductive Route
  /-- The service is alive. -/
  | alive
  | ping
  | health
  | start
  | progress
  | process
  | stream
  deriving DecidableEq

namespace Route

/-- The route of a path. -/
def ofPath? : String → Option Route
  | "/health" | "/healthz" => some alive
  | "/api/ping" => some ping
  | "/api/colab/health" => some health
  | "/api/colab/start" => some start
  | "/api/colab/progress" => some progress
  | "/api/colab/process" => some process
  | "/api/colab/process-stream" => some stream
  | _ => none

/-- The methods that a route answers. -/
def methods : Route → List String
  | alive => ["GET", "HEAD"]
  | _ => ["POST"]

/-- The header that names the methods of a route. -/
def allowHeader (r : Route) : String × String := ("allow", ",".intercalate r.methods)

end Route

end ClipRelay
