import ClipRelay.Wire.Answers
import ClipRelay.Worker.Endpoint
import ClipRelay.Worker.Payload
import ClipRelay.Worker.Settings
import ClipRelay.Worker.Submission
import ClipRelay.World

/-!
# Talking to the worker

The worker is asked for its health, given a job, and asked for the progress of a job. A refusal keeps
the status and the body of the answer; a body that is not the expected JSON is named for what it is.
-/

namespace ClipRelay

open Text

/-- A job that the worker has taken on. -/
structure StartedJob where
  id : String
  message : String
  deriving DecidableEq

namespace Client

/-- The client for an endpoint. -/
def make (settings : WorkerSettings) (e : Endpoint) : Except HttpFault HttpClient :=
  HttpClient.make settings.userAgent e.headers e.verifiesTls

/-- A failed exchange as a failure of the work. -/
def networkFault (f : HttpFault) : WorkerFault := .network f.message

/-- The body of a reply as JSON of a type. -/
def readBody (α : Type) [Wire α] (r : Reply) : Except WorkerFault α :=
  match r.text with
  | .error f => .error (networkFault f)
  | .ok body =>
    match Wire.decode body with
    | .ok v => .ok v
    | .error _ => .error (.ofBody body)

/-- The report in the body of a reply, which has to be an object. -/
def readReport (r : Reply) : Except WorkerFault Report :=
  match r.text with
  | .error f => .error (networkFault f)
  | .ok body =>
    match Json.Read.ofText body with
    | .error _ => .error (.ofBody body)
    | .ok v =>
      match Report.ofJson? v with
      | some report => .ok report
      | none => .error (.ofBody v.compact)

/-! ## Health -/

/-- What a reply to a health check says. -/
def healthOf (r : Reply) : HealthAnswer :=
  if !r.isSuccess then .unhealthy ("Health check returned " ++ toString r.status)
  else match readBody HealthPayload r with
    | .ok payload => .ofGpu (some (payload.gpuName.getD "unknown"))
    | .error f => .unhealthy f.message

/-- Whether the worker can be reached. -/
def health (settings : WorkerSettings) (e : Endpoint) : Action HealthAnswer := do
  match make settings e with
  | .error f => return .unhealthy (networkFault f).message
  | .ok client =>
    match ← World.ask client (e.address "/health") settings.healthTimeout with
    | .error f => return .unhealthy ("Failed to connect: " ++ f.message)
    | .ok reply => return healthOf reply

/-! ## Starting a job -/

/-- The form of a submission. A file that is there and is no regular file gives no content. -/
def formOf (d : Disk) (s : Submission) : Except WorkerFault (Option Upload) :=
  match d.status s.upload with
  | .error e => .error (Submission.refusal s.upload e)
  | .ok (_, .file bs) => .ok (some ⟨s.uploadName, videoType s.upload, bs, s.prompt⟩)
  | .ok _ => .ok none

/-- Sends a submission to a path of the worker. -/
def send (settings : WorkerSettings) (e : Endpoint) (s : Submission) (path accept : String)
    (patience : Nat) : Action (Except WorkerFault Reply) := do
  match make settings e with
  | .error f => return .error (networkFault f)
  | .ok client =>
    match formOf (← get).disk s with
    | .error f => return .error f
    | .ok form =>
      match ← World.submit client (e.address path) accept form patience with
      | .error f => return .error (networkFault f)
      | .ok reply => return .ok reply

/-- What a reply to a new job says. -/
def startedOf (s : Submission) (r : Reply) : Except WorkerFault StartedJob :=
  if !r.isSuccess then .error (.server r.status r.textOrEmpty)
  else do
    let payload ← readBody StartPayload r
    let some id := payload.id? | .error .noJobId
    let message := (payload.message.filter (· ≠ "")).getD ("Processing started for " ++ s.uploadName)
    return ⟨id, message⟩

/-- Gives the worker a job. -/
def start (settings : WorkerSettings) (e : Endpoint) (s : Submission) :
    Action (Except WorkerFault StartedJob) := do
  match ← send settings e s "/start-job" "application/json" settings.startTimeout with
  | .error f => return .error f
  | .ok reply => return startedOf s reply

/-! ## Progress -/

/-- What a reply to a poll says. -/
def reportOf (r : Reply) : Except WorkerFault Report :=
  if !r.isSuccess then .error (.progressCheck r.status r.textOrEmpty) else readReport r

/-- Asks for the progress of a job. -/
def poll (settings : WorkerSettings) (e : Endpoint) (job : String) :
    Action (Except WorkerFault Report) := do
  match nonBlank? job with
  | none => return .error (.invalidRequest "job_id is required")
  | some job =>
    match make settings e with
    | .error f => return .error (networkFault f)
    | .ok client =>
      match ← World.ask client (e.address ("/progress/" ++ job)) settings.pollTimeout with
      | .error f => return .error (networkFault f)
      | .ok reply => return reportOf reply

/-- A poll that cannot be made fails in every world and changes nothing; any other takes time. -/
theorem poll_fails_or_advances (settings : WorkerSettings) (e : Endpoint) (job : String) :
    (∃ f, ∀ w, (poll settings e job).run w = (.error f, w)) ∨
      ∀ w : World, w.clock < ((poll settings e job).run w).2.clock := by
  unfold poll
  cases nonBlank? job with
  | none => exact .inl ⟨_, fun _ => rfl⟩
  | some job =>
    cases make settings e with
    | error f => exact .inl ⟨_, fun _ => rfl⟩
    | ok client =>
      rcases World.ask_fails_or_advances client (e.address ("/progress/" ++ job))
          settings.pollTimeout with ⟨f, hf⟩ | hlt
      · exact .inl ⟨networkFault f, fun w => by simp only [StateT.run_bind, hf w]; rfl⟩
      · refine .inr fun w => ?_
        have hw := hlt w
        simp only [StateT.run_bind]
        generalize (World.ask client _ settings.pollTimeout).run w = r at hw ⊢
        obtain ⟨f | reply, w'⟩ := r <;> exact hw

end Client

end ClipRelay
