import ClipRelay.Artifact.Download
import ClipRelay.Relay.Bridge

/-!
# Relaying a stream

A job is given to the worker, and the events of its stream are passed on until the job ends; the
artifact of a complete job is fetched before the client hears of the end. All of it has to happen
before the deadline.
-/

namespace ClipRelay

namespace Relay

/-- The reply in which the worker streams, if it is such a reply. -/
def streamOf (r : Reply) : Except WorkerFault Reply :=
  if !r.isSuccess then .error (.server r.status r.textOrEmpty)
  else if r.isHtml then .error (.ofBody r.textOrEmpty)
  else .ok r

/-- Gives the worker a job whose progress it streams. -/
def connect (settings : WorkerSettings) (e : Endpoint) (s : Submission) :
    Action (Except WorkerFault Reply) := do
  match ← Client.send settings e s "/process-stream" acceptAll settings.streamTimeout with
  | .error f => return .error f
  | .ok reply => return streamOf reply

/-- The last event of a stream that takes too long. -/
def lateEvent (settings : WorkerSettings) : Event :=
  .failure .timeout
    ("Stream timed out after " ++ toString (settings.streamTimeout / 1000) ++ " seconds") none

/-- The deadline is over: the library has waited for so long. -/
def isLate (settings : WorkerSettings) (began now : Nat) : Bool :=
  began < now && settings.streamTimeout * World.perMilli ≤ now - began

/-- The last event, unless the deadline is over before it. -/
def unlessLate (settings : WorkerSettings) (began : Nat) (event : Event) : Action Event := do
  return if isLate settings began (← get).clock then lateEvent settings else event

def downloadingEvent : Event := .downloading "Downloading processed video..."

/-- The event that tells of an artifact on disk. -/
def completeEvent (a : Artifact) : Event :=
  .complete a.path ((Path.fileName? a.path).getD "") a.size "Processing complete!"

/-- Fetches the artifact and tells of it. -/
def conclude (settings : WorkerSettings) (e : Endpoint) (s : Submission) (artifact : ArtifactRef)
    (job : Option String) : Action Event := do
  match ← Download.run settings e artifact job s.hint? with
  | .ok a => return completeEvent a
  | .error f => return f.event

/-- The events that the client gets for a submission. -/
def run (settings : WorkerSettings) (e : Endpoint) (s : Submission) : Action (List Event) := do
  let began := (← get).clock
  match ← connect settings e s with
  | .error f => return [← unlessLate settings began f.event]
  | .ok reply =>
    let p := Passage.ofChunks reply.chunks reply.whole
    match p.endingOf with
    | .finish event => return p.sent ++ [← unlessLate settings began event]
    | .fetch artifact job =>
      let last ← conclude settings e s artifact job
      return p.sent ++ [downloadingEvent, ← unlessLate settings began last]

end Relay

end ClipRelay
