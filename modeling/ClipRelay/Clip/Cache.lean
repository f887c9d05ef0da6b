import ClipRelay.Clip.CacheName
import ClipRelay.Clip.Encoder

/-!
# The cache of trimmed clips

A clip is encoded once for its source and window and lies in one flat directory under the name of
both. An encode writes to a file of its own beside it, made under a random name that nothing bears. It
takes the clip's name in one step when it is complete and is removed when the encode fails, so a file
under a clip's name is always a whole clip. `Trim.step` is this as one step at a time on the disk, for
runs that interleave; `Trim.run` is one run from its start to its end.
-/

namespace ClipRelay

open Text

/-- The files of one trim. -/
structure TrimPlan where
  dir : String
  /-- The path of the clip. -/
  target : String
  deriving DecidableEq

/-- What a trim has come to. -/
inductive Trim
  /-- The clip may be there. -/
  | looking
  /-- The clip is not there. -/
  | missing
  /-- The directory is there. -/
  | ready
  /-- The encoder is at work on the file at this path. -/
  | encoding (working : String)
  | done (result : Except MediaFault String)

/-- What happens next in a trim. -/
inductive TrimEvent
  /-- The trim goes on by itself. -/
  | go
  /-- A path for the working file has been made up. -/
  | named (working : String)
  /-- The encoder writes some of its output. -/
  | wrote (bytes : Bytes)
  /-- The encoder is done. -/
  | encoded (result : Except MediaFault Unit)

namespace Trim

/-- A trim that ends because the disk refuses. -/
def refused (e : IoFault) : Trim := .done (.error (.system e.message))

/-- One step of a trim. A working file is made where nothing stands; when something does, the trim
waits for another path. -/
def step (p : TrimPlan) : Trim → TrimEvent → Disk → Trim × Disk
  | looking, .go, d => if d.isFile p.target then (.done (.ok p.target), d) else (.missing, d)
  | missing, .go, d =>
    match d.makeDirAll p.dir with
    | .ok d => (.ready, d)
    | .error e => (refused e, d)
  | ready, .named working, d =>
    match d.create working with
    | .ok d => (.encoding working, d)
    | .error .exists => (.ready, d)
    | .error e => (refused e, d)
  | encoding working, .wrote bs, d =>
    match d.append working bs with
    | .ok d => (.encoding working, d)
    | .error _ => (.encoding working, d)
  | encoding working, .encoded (.ok ()), d =>
    match d.rename working p.target with
    | .ok d => (.done (.ok p.target), d)
    | .error e => (refused e, d.discard working)
  | encoding working, .encoded (.error f), d => (.done (.error f), d.discard working)
  | t, _, d => (t, d)

/-- A step in a world. -/
def act (p : TrimPlan) (t : Trim) (e : TrimEvent) : Action Trim :=
  modifyGet fun w =>
    let (t, disk) := t.step p e w.disk
    (t, { w with disk })

/-- How many characters of a random name the working file has. -/
def workingLength : Nat := 6

/-- The path of a working file. -/
def workingPath (dir source token : String) : String :=
  Path.join dir (".trim-" ++ String.ofList (token.toList.drop (World.tokenLength - workingLength))
    ++ "." ++ CacheName.extensionOf source)

/-- The files of a trim of a source, which is given by its absolute path. -/
def planOf (dir source : String) (w : TrimWindow) : TrimPlan :=
  ⟨dir, Path.join dir (cacheName source w)⟩

/-- How many names are tried for a working file. -/
def maxTries : Nat := 65536

/-- Makes a working file under the first of so many random names that nothing bears. -/
def openWorking (p : TrimPlan) (source : String) : Nat → Action Trim
  | 0 => return refused .exists
  | tries + 1 => do
    match ← act p .ready (.named (workingPath p.dir source (← World.draw))) with
    | .ready => openWorking p source tries
    | t => return t

/-- Runs a trim that has found no clip. -/
def produce (encoder : Encoder) (p : TrimPlan) (source : String) (window : TrimWindow) :
    Action Trim := do
  match ← act p .missing .go with
  | .ready =>
    let fps := (← encoder.frameRate source).getD FrameRate.fallback
    match ← openWorking p source maxTries with
    | .encoding working =>
      let result ← encoder.encode ⟨source, working, window, fps⟩
      act p (.encoding working) (.encoded result)
    | t => return t
  | t => return t

/-- The path of the clip that a window cuts out of a source. -/
def run (dir : String) (encoder : Encoder) (source : String) (window : TrimWindow) :
    Action (Except MediaFault String) := do
  match (← get).disk.canonical source with
  | .error .notFound => return .error (.fileNotFound source)
  | .error e => return .error (.system e.message)
  | .ok source =>
    let p := planOf dir source window
    let t ← match ← act p .looking .go with
      | .missing => produce encoder p source window
      | t => pure t
    match t with
    | .done result => return result
    | _ => return .error (.system IoFault.notFound.message)

end Trim

end ClipRelay
