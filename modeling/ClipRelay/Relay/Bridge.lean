import ClipRelay.Event
import ClipRelay.Http.Fault
import ClipRelay.Relay.Lines
import ClipRelay.Worker.Progress

/-!
# What becomes of the worker's events

An event of the worker is passed on unless it ends the job. The end of a job that failed is passed on
and is the last event; the end of a complete job is held back until its artifact is on disk. A stream
that ends without such an event gets one. `Passage` is the part of a stream that has been read: what
is passed on, and how it ends.
-/

namespace ClipRelay

open Text

/-- How a job ends, by the words of an event. -/
inductive JobEnd
  | complete
  | failed
  deriving DecidableEq

/-- The end that a label stands for. -/
def JobEnd.ofLabel? (label : String) : Option JobEnd :=
  if label = "complete" then some .complete
  else if failureNames.contains label then some .failed
  else none

/-- The end that an event tells of, by its stage or else by its status. -/
def Report.end? (r : Report) : Option JobEnd :=
  [r.stage?, r.statusLabel?].findSome? fun label => label.bind fun s => JobEnd.ofLabel? (lower s)

/-- What is done about an event. -/
inductive Decision
  /-- The event is passed on. -/
  | forward (event : Event)
  /-- The artifact is fetched, and the stream ends. -/
  | fetch (artifact : ArtifactRef) (job : Option String)
  /-- The event is passed on as the last one. -/
  | finish (event : Event)

/-- What is done about an event of the worker. -/
def Decision.ofEvent (v : Json) : Decision :=
  match Report.ofJson? v with
  | none => .forward (.relay v)
  | some report =>
    match report.end? with
    | some .complete =>
      match report.artifact? with
      | some artifact => .fetch artifact ((v.get? "job_id").bind Json.asText?)
      | none => .finish (.failure .noDownloadUrl noDownloadMessage none)
    | some .failed => .finish (.relay v)
    | none => .forward (.relay v)

/-- The last event of a stream that ends without one. -/
def lostEvent : Event := .failure .noDownloadUrl "Stream ended without a download URL" none

/-- The last event of a stream that breaks off. -/
def interruptedEvent (reason : String) : Event :=
  .failure .stream ("Stream interrupted: " ++ reason) none

/-- The memory of one who reads a stream: whether it has seen the end of the job. -/
structure Bridge where
  finished : Bool
  deriving DecidableEq

namespace Bridge

def start : Bridge := ⟨false⟩

/-- What is done about the next event, and the memory after it. -/
def feed (b : Bridge) (v : Json) : Decision × Bridge :=
  match Decision.ofEvent v with
  | .forward e => (.forward e, b)
  | d => (d, ⟨true⟩)

/-- The event that is added when the stream ends, and the memory after it. -/
def stop (b : Bridge) : Option Event × Bridge :=
  (if b.finished then none else some lostEvent, ⟨true⟩)

end Bridge

/-! ## Streams -/

/-- How a stream ends. -/
inductive Ending
  | fetch (artifact : ArtifactRef) (job : Option String)
  | finish (event : Event)

/-- The part of a stream that has been read. -/
structure Passage where
  decoder : LineDecoder
  /-- The events that are passed on, the first one first. -/
  sent : List Event
  /-- How the stream ends, once that is known. -/
  ending : Option Ending

namespace Passage

def start : Passage := ⟨.empty, [], none⟩

/-- Reads a line; behind the end nothing is read. -/
def readLine (p : Passage) (line : String) : Passage :=
  match p.ending, eventOf? line with
  | none, some v =>
    match Decision.ofEvent v with
    | .forward e => { p with sent := p.sent ++ [e] }
    | .fetch artifact job => { p with ending := some (.fetch artifact job) }
    | .finish e => { p with ending := some (.finish e) }
  | _, _ => p

/-- Reads a piece of the stream. -/
def push (p : Passage) (chunk : Bytes) : Passage :=
  let (lines, decoder) := p.decoder.push chunk
  lines.foldl readLine { p with decoder }

/-- Reads the end of a stream that has arrived whole. -/
def finish (p : Passage) : Passage :=
  match p.decoder.rest? with
  | some line => p.readLine line
  | none => p

/-- How the stream ends, after all of it has been read. -/
def endingOf (p : Passage) : Ending := p.ending.getD (.finish lostEvent)

/-- The stream of these pieces, which arrives whole or breaks off. -/
def ofChunks (chunks : List Bytes) (whole : Bool) : Passage :=
  let p := chunks.foldl push start
  if whole then p.finish
  else { p with ending := p.ending <|> some (.finish (interruptedEvent HttpFault.broken.message)) }

end Passage

end ClipRelay
