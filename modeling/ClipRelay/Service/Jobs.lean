import ClipRelay.Clip.Cache
import ClipRelay.Relay.Run
import ClipRelay.Service.Settings
import ClipRelay.Wire.Requests
import ClipRelay.Worker.Follow

/-!
# The operations of the service

Every operation that starts a job prepares it first: the request is checked, the worker's URL is
read, and the clip is trimmed if a window was asked for. A job that is not prepared never reaches the
worker. A request that makes no sense is refused; any other failure is told in the operation's own
answer.
-/

namespace ClipRelay

/-- Why a job never reached the worker. -/
structure Rejection where
  code : ErrorCode
  message : String
  details : Option String
  deriving DecidableEq

namespace Rejection

def ofWorker (f : WorkerFault) : Rejection := ⟨f.code, f.message, f.details⟩

def ofMedia (f : MediaFault) : Rejection :=
  ⟨f.code, "Failed to trim video: " ++ f.message, f.diagnostic⟩

/-- A request that makes no sense is refused with a message; else the rejection is an answer. -/
def respond {α : Type} (r : Rejection) (answer : Rejection → α) : Except String α :=
  if r.code = .invalidRequest then .error r.message else .ok (answer r)

def toStart (r : Rejection) : StartAnswer :=
  (StartAnswer.failed r.code r.message).withDetails r.details

def toProgress (r : Rejection) : ProgressAnswer :=
  (ProgressAnswer.failed r.code r.message).withDetails r.details

def toEvents (r : Rejection) : List Event := [.failure r.code r.message r.details]

end Rejection

/-- A job that can be given to the worker. -/
structure Prepared where
  endpoint : Endpoint
  submission : Submission
  deriving DecidableEq

namespace Service

/-- The checks of a request that need no encoder. -/
def checkRequest (d : Disk) (r : StartRequest) : Except WorkerFault Prepared := do
  let submission ← Submission.prepare d r.filePath r.prompt r.trimStart r.trimEnd
  let endpoint ← Endpoint.ofText r.workerUrl
  return ⟨endpoint, submission⟩

/-- Prepares a job: checks the request and trims the clip. -/
def prepare (settings : ServiceSettings) (encoder : Encoder) (r : StartRequest) :
    Action (Except Rejection Prepared) := do
  match checkRequest (← get).disk r with
  | .error f => return .error (.ofWorker f)
  | .ok job =>
    match job.submission.window with
    | none => return .ok job
    | some window =>
      match ← Trim.run settings.cacheDir encoder job.submission.source window with
      | .error f => return .error (.ofMedia f)
      | .ok clip => return .ok { job with submission := job.submission.withUpload clip }

/-- The answer to a job that the worker has or has not taken on. -/
def startAnswer : Except WorkerFault StartedJob → StartAnswer
  | .ok job => .started job.id job.message
  | .error f => (StartAnswer.failed f.code f.message).withDetails f.details

/-- Starts a job. -/
def start (settings : ServiceSettings) (encoder : Encoder) (r : StartRequest) :
    Action (Except String StartAnswer) := do
  match ← prepare settings encoder r with
  | .error rejection => return rejection.respond Rejection.toStart
  | .ok job => return .ok (startAnswer (← Client.start settings.worker job.endpoint job.submission))

/-- Starts a job and follows it to its end. -/
def process (settings : ServiceSettings) (encoder : Encoder) (r : StartRequest) :
    Action (Except String ProgressAnswer) := do
  match ← prepare settings encoder r with
  | .error rejection => return rejection.respond Rejection.toProgress
  | .ok job => return .ok (← Job.process settings.worker job.endpoint job.submission)

/-- Starts a job and relays its events. -/
def stream (settings : ServiceSettings) (encoder : Encoder) (r : StartRequest) :
    Action (Except String (List Event)) := do
  match ← prepare settings encoder r with
  | .error rejection => return rejection.respond Rejection.toEvents
  | .ok job => return .ok (← Relay.run settings.worker job.endpoint job.submission)

/-- Asks for the progress of a job. -/
def progress (settings : ServiceSettings) (r : ProgressRequest) :
    Action (Except String ProgressAnswer) := do
  match Text.nonBlank? r.jobId with
  | none => return .error "job_id is required"
  | some job =>
    match Endpoint.ofText r.workerUrl with
    | .error f => return .error f.message
    | .ok e => return .ok (← Job.check settings.worker e job r.sourceName)

/-- Asks for the health of the worker. -/
def health (settings : ServiceSettings) (r : HealthRequest) :
    Action (Except String HealthAnswer) := do
  match Endpoint.ofText r.workerUrl with
  | .error f => return .error f.message
  | .ok e => return .ok (← Client.health settings.worker e)

/-- Answers a ping. -/
def ping (r : PingRequest) : PingAnswer := ⟨"ok", r.message⟩

end Service

end ClipRelay
