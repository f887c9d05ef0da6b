import ClipRelay.Artifact.Name
import ClipRelay.Disk
import ClipRelay.Http.Network
import ClipRelay.Snapshot
import ClipRelay.Worker.Client
import ClipRelay.Worker.Endpoint

/-!
# Downloads of artifacts

An artifact is downloaded once: a file of its name that is not empty is the artifact. Otherwise the
body goes into a file of the download's own, which takes the artifact's name in one step when the
body is complete and is removed when anything fails. `Download.step` is this as one step at a time on
the disk, for runs that interleave; `Download.run` is one run from its start to its end.
-/

namespace ClipRelay

open Text

/-- An artifact on disk. -/
structure Artifact where
  /-- Its absolute path. -/
  path : String
  /-- Its length in bytes. -/
  size : Nat
  deriving DecidableEq

/-- The files of one download. -/
structure DownloadPlan where
  dir : String
  /-- The path of the artifact. -/
  target : String
  /-- The path of the file that takes the body. -/
  working : String
  deriving DecidableEq

/-- What a download has come to. -/
inductive Download
  /-- The artifact may be there. -/
  | looking
  /-- The artifact is not there. -/
  | missing
  /-- The body is arriving. The file at this place is open, and so many bytes are written. -/
  | receiving (file : Place) (written : Nat)
  | done (result : Except WorkerFault Artifact)

/-- What happens next in a download. -/
inductive DownloadEvent
  /-- The download goes on by itself. -/
  | go
  /-- There is no reply, for this reason. -/
  | refused (reason : String)
  /-- A reply with this status, an HTML page or not. -/
  | head (status : Nat) (html : Bool)
  | chunk (bytes : Bytes)
  /-- The body is complete. -/
  | finish
  /-- The body breaks off. -/
  | broken

namespace Download

/-- A download that fails. -/
def failed (reason : String) : Download := .done (.error (.download reason))

def writeFault (e : IoFault) : Download := failed ("Failed to write artifact: " ++ e.message)

/-- The artifact at a path. -/
def found (d : Disk) (path : String) (size : Nat) : Download :=
  match d.canonical path with
  | .ok path => .done (.ok ⟨path, size⟩)
  | .error e => failed ("Failed to resolve artifact path: " ++ e.message)

/-- The length of the file at a path, if there is one and it is not empty. -/
def sizeAt? (d : Disk) (path : String) : Option Nat :=
  match d.content path with
  | .ok bs => if bs.isEmpty then none else some bs.length
  | .error _ => none

/-- One step of a download. -/
def step (p : DownloadPlan) : Download → DownloadEvent → Disk → Download × Disk
  | looking, .go, d =>
    match d.makeDirAll p.dir with
    | .error e => (failed ("Failed to create output directory: " ++ e.message), d)
    | .ok d =>
      match sizeAt? d p.target with
      | some size => (found d p.target size, d)
      | none => (.missing, d)
  | missing, .refused reason, d => (failed reason, d)
  | missing, .head status html, d =>
    if status < 200 || 300 ≤ status then (failed ("Download returned " ++ toString status), d)
    else if html then (failed "Received an HTML page instead of the artifact", d)
    else match d.openFile p.working with
      | .ok (file, d) => (.receiving file 0, d)
      | .error e => (writeFault e, d.discard p.working)
  | receiving file written, .chunk bs, d =>
    (.receiving file (written + bs.length), d.extend file bs)
  | receiving _ _, .broken, d =>
    (failed ("Download interrupted: " ++ HttpFault.broken.message), d.discard p.working)
  | receiving _ written, .finish, d =>
    if written = 0 then (failed "Downloaded artifact is empty", d.discard p.working)
    else match d.rename p.working p.target with
      | .ok d => (found d p.target written, d)
      | .error e => (writeFault e, d.discard p.working)
  | s, _, d => (s, d)

/-- A download after some events. -/
def steps (p : DownloadPlan) (s : Download) (events : List DownloadEvent) (d : Disk) :
    Download × Disk :=
  events.foldl (fun (s, d) e => step p s e d) (s, d)

/-- What happens when a reply arrives. -/
def eventsOf (r : Reply) : List DownloadEvent :=
  .head r.status r.isHtml :: r.chunks.map .chunk ++ [if r.whole then .finish else .broken]

/-- The path of a working file. -/
def workingPath (dir name token : String) : String :=
  Path.join dir ("." ++ name ++ "." ++ token ++ ".part")

/-- The files of a download of an artifact of this name. -/
def planOf (dir name token : String) : DownloadPlan :=
  ⟨dir, Path.join dir name, workingPath dir name token⟩

/-- Goes on with a download in a world. -/
def act (p : DownloadPlan) (s : Download) (events : List DownloadEvent) : Action Download :=
  modifyGet fun w =>
    let (s, disk) := steps p s events w.disk
    (s, { w with disk })

/-- What the worker answers to the request for an artifact. -/
def request (settings : WorkerSettings) (e : Endpoint) (url : String) :
    Action (List DownloadEvent) := do
  match Client.make settings e with
  | .error f => return [.refused (WorkerFault.network f.message).message]
  | .ok client =>
    match ← World.ask client (e.locate url) settings.downloadTimeout with
    | .error f => return [.refused ("Failed to connect: " ++ f.message)]
    | .ok reply => return eventsOf reply

/-- Fetches the artifact of a job, unless it is on disk already. -/
def run (settings : WorkerSettings) (e : Endpoint) (artifact : ArtifactRef) (job hint : Option String) :
    Action (Except WorkerFault Artifact) := do
  let name := artifactName settings.outputPrefix hint artifact.filename job (← World.draw)
  let p := planOf settings.outputDir name (← World.draw)
  let s ← match ← act p .looking [.go] with
    | .missing => act p .missing (← request settings e artifact.downloadUrl)
    | s => pure s
  match s with
  | .done result => return result
  | _ => return .error (.download HttpFault.broken.message)

end Download

end ClipRelay
