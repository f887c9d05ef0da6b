import ClipRelay.TrimWindow

/-!
# Encoder commands

`Command` collects the arguments of an encoder call: those before the input, the input, those after
it, the output. `ClipTask.command` is the call that cuts a clip out of a source: constant frame rate,
one key frame a second, no B-frames, audio at 48 kHz.
-/

namespace ClipRelay

/-- A call of the encoder under construction. -/
structure Command where
  input : String
  output : String
  /-- Arguments before the input. -/
  before : List String
  /-- Arguments between input and output. -/
  after : List String
  deriving DecidableEq

namespace Command

def new (input output : String) : Command := ⟨input, output, [], []⟩

def inputArg (c : Command) (arg : String) : Command := { c with before := c.before ++ [arg] }

def outputArgs (c : Command) (args : List String) : Command := { c with after := c.after ++ args }

def outputArg (c : Command) (arg : String) : Command := c.outputArgs [arg]

/-- Starts at a time of the input. -/
def seek (c : Command) (seconds : Double) : Command :=
  (c.inputArg "-ss").inputArg (seconds.fixed 3)

/-- Limits the length of the output. -/
def duration (c : Command) (seconds : Double) : Command := c.outputArgs ["-t", seconds.fixed 3]

def videoCodec (c : Command) (codec : String) : Command := c.outputArgs ["-c:v", codec]

def audioCodec (c : Command) (codec : String) : Command := c.outputArgs ["-c:a", codec]

/-- Sets the quality. -/
def quality (c : Command) (crf : Nat) : Command := c.outputArgs ["-crf", toString crf]

def preset (c : Command) (preset : String) : Command := c.outputArgs ["-preset", preset]

def audioBitrate (c : Command) (rate : String) : Command := c.outputArgs ["-b:a", rate]

/-- The arguments of the call. The output is overwritten and only errors are reported. -/
def args (c : Command) : List String :=
  ["-y", "-v", "error"] ++ c.before ++ ["-i", c.input] ++ c.after ++ [c.output]

end Command

/-- A clip to be cut out of a source. -/
structure ClipTask where
  source : String
  output : String
  window : TrimWindow
  /-- The frame rate of the source and of the clip. -/
  fps : Double
  deriving DecidableEq

namespace ClipTask

/-- The frames between key frames, which stand a second apart. -/
def keyInterval (j : ClipTask) : Nat := max j.fps.round.toUInt32 1

def command (j : ClipTask) : Command :=
  let interval := toString j.keyInterval
  (Command.new j.source j.output).seek j.window.start
    |>.duration j.window.duration
    |>.videoCodec "libx264"
    |>.preset "veryfast"
    |>.quality 18
    |>.outputArgs ["-pix_fmt", "yuv420p", "-profile:v", "high", "-level", "4.1"]
    |>.outputArgs ["-r", j.fps.fixed 3]
    |>.outputArgs ["-g", interval, "-keyint_min", interval]
    |>.outputArgs ["-bf", "0", "-sc_threshold", "0", "-vsync", "cfr"]
    |>.outputArgs ["-video_track_timescale", "90000"]
    |>.audioCodec "aac"
    |>.audioBitrate "192k"
    |>.outputArgs ["-ar", "48000"]
    |>.outputArgs ["-movflags", "+faststart"]

end ClipTask

end ClipRelay
