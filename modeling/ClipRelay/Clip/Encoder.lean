import ClipRelay.Clip.FrameRate
import ClipRelay.World

/-!
# Encoders

An encoder finds the frame rate of a source and cuts clips out of it. One kind runs the media tools,
the encoder with a time limit; another rehearses: it notes every call and writes down what it would
have cut. Any other encoder is given by what it does.
-/

namespace ClipRelay

open Text

namespace Toolbox

/-- Runs a tool: the call is noted and what the tool writes is on disk. -/
def run (name : String) (tool : Tool) (args : List String) : Action Unit := do
  modify fun w => { w with tools := { w.tools with calls := w.tools.calls ++ [name :: args] } }
  match tool.writes, args.getLast? with
  | some bs, some path =>
    modify fun w => match w.disk.write path bs with
      | .ok disk => { w with disk }
      | .error _ => w
  | _, _ => return

/-- A program gets no argument with a NUL in it. -/
def takes (args : List String) : Bool := !args.any (·.toList.contains '\x00')

/-- What is said of an argument that no program gets. -/
def nulMessage : String := "nul byte found in provided data"

/-- The arguments that make the prober report on the streams of a file. -/
def probeArgs (path : String) : List String :=
  ["-v", "quiet", "-print_format", "json", "-select_streams", "v:0", "-show_streams", path]

/-- The frame rate of a file, as the prober reports it. A prober that never ends is taken for one
that fails. -/
def probe (path : String) : Action (Except MediaFault Double) := do
  let w ← get
  match w.disk.status path with
  | .error _ => return .error (.fileNotFound path)
  | .ok _ =>
    match w.tools.prober with
    | none => return .error .proberMissing
    | some tool =>
      run proberName tool (probeArgs path)
      if tool.ending = .exit 0 then return FrameRate.ofReport tool.output
      else return .error (.proberFailed "FFprobe failed" (some (lossy tool.errors)))

/-- Runs an encoder command, at most for so many milliseconds. -/
def encode (timeout : Nat) (c : Command) : Action (Except MediaFault Unit) := do
  match (← get).tools.encoder with
  | none => return .error .encoderMissing
  | some tool =>
    if !takes c.args then return .error (.system nulMessage)
    run encoderName tool c.args
    match tool.ending with
    | .exit 0 => return .ok ()
    | .never =>
      World.wait (timeout * World.perMilli)
      return .error (.timeout (timeout / 1000))
    | ending =>
      return .error
        (.ofEncoder "FFmpeg exited with non-zero status" (some (lossy tool.errors)) ending.code?)

end Toolbox

inductive Encoder
  /-- The media tools; a call of the encoder takes at most so many milliseconds. -/
  | tools (timeout : Nat)
  /-- A rehearsal with a given frame rate, which fails with a given output. -/
  | rehearsal (fps : Option Double) (failure : Option String)
  /-- Any encoder, by what it does to probe a source and to cut a clip. -/
  | custom (probe : String → Action (Option Double))
    (cut : ClipTask → Action (Except MediaFault Unit))

namespace Encoder

/-- Notes a call of a rehearsal. -/
def note (call : EncoderCall) : Action Unit :=
  modify fun w => { w with rehearsed := w.rehearsed ++ [call] }

/-- The frame rate of a source, if it can be found. -/
def frameRate (e : Encoder) (source : String) : Action (Option Double) := do
  match e with
  | tools _ =>
    match ← Toolbox.probe source with
    | .ok fps => return some fps
    | .error _ => return none
  | rehearsal fps _ =>
    note (.frameRate source)
    return fps
  | custom probe _ => probe source

/-- What a rehearsal writes in place of a clip. -/
def rehearsalText (t : ClipTask) : String :=
  t.window.display ++ " gop=" ++ toString t.keyInterval

/-- Writes the clip of a task. -/
def encode (e : Encoder) (t : ClipTask) : Action (Except MediaFault Unit) := do
  match e with
  | tools timeout => Toolbox.encode timeout t.command
  | rehearsal _ failure =>
    note (.encode t.command.args)
    match failure with
    | some errors =>
      return .error (.ofEncoder "FFmpeg exited with non-zero status" (some errors) (some 1))
    | none =>
      match (← get).disk.write t.output (bytesOf (rehearsalText t)) with
      | .ok disk =>
        modify fun w => { w with disk }
        return .ok ()
      | .error e => return .error (.system e.message)
  | custom _ cut => cut t

end Encoder

end ClipRelay
