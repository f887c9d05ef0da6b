import ClipRelay.Clip.Command
import ClipRelay.Text.Utf8

/-!
# Media tools

The encoder and the prober are programs that may or may not be installed. A call gives a program its
arguments and ends, if it ends, with an exit code or a signal and with what the program has written.
-/

namespace ClipRelay

open Text

inductive ToolEnding
  | exit (code : Int)
  | killed
  | never
  deriving DecidableEq

/-- A program, by what each of its calls does. -/
structure Tool where
  output : Bytes
  errors : Bytes
  ending : ToolEnding
  /-- What it writes to the path in its last argument, if anything. -/
  writes : Option Bytes
  deriving DecidableEq

/-- The code of an ending, if there is one. -/
def ToolEnding.code? : ToolEnding → Option Int
  | exit code => some code
  | _ => none

structure Toolbox where
  encoder : Option Tool
  prober : Option Tool
  /-- The calls so far, name and arguments, the first one first. -/
  calls : List (List String)

namespace Toolbox

def encoderName : String := "ffmpeg"

def proberName : String := "ffprobe"

/-- A box without tools. -/
def empty : Toolbox := ⟨none, none, []⟩

end Toolbox

/-- A call of an encoder. -/
inductive EncoderCall
  | frameRate (source : String)
  | encode (args : List String)
  deriving DecidableEq

end ClipRelay
