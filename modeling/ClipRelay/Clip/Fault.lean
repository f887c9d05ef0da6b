import ClipRelay.Excerpt
import ClipRelay.ErrorCode
import ClipRelay.Text.Blank

/-!
# Failures of local media work

What can go wrong while a clip is probed or trimmed, with the message, the code that the client sees
and the tool output that goes with it. The output of the encoder is trimmed and cut when the failure
is made (`MediaFault.ofEncoder`).
-/

namespace ClipRelay

inductive MediaFault
  | encoderMissing
  | proberMissing
  | encoderFailed (message : String) (output : Option String) (exit : Option Int)
  | proberFailed (message : String) (output : Option String)
  | fileNotFound (path : String)
  | timeout (seconds : Nat)
  /-- A refusal of the operating system, in its words. -/
  | system (message : String)
  /-- The output of the prober is not what was expected. -/
  | unreadableProbe
  | invalidVideo (reason : String)
  deriving DecidableEq

namespace MediaFault

/-- A failure of the encoder; what it wrote is trimmed and cut. -/
def ofEncoder (message : String) (output : Option String) (exit : Option Int) : MediaFault :=
  .encoderFailed message (output.map fun s => excerpt (Text.trim s)) exit

def message : MediaFault → String
  | encoderMissing => "FFmpeg not found in PATH"
  | proberMissing => "FFprobe not found in PATH"
  | encoderFailed message _ _ => "FFmpeg command failed: " ++ message
  | proberFailed message _ => "FFprobe command failed: " ++ message
  | fileNotFound path => "File not found: " ++ path
  | timeout seconds => "Operation timed out after " ++ toString seconds ++ " seconds"
  | system message => "IO error: " ++ message
  | unreadableProbe => "JSON parse error"
  | invalidVideo reason => "Invalid video file: " ++ reason

/-- The tool output that may be shown. -/
def diagnostic : MediaFault → Option String
  | encoderFailed _ output _ => output.map excerpt
  | proberFailed _ output => output.map excerpt
  | _ => none

def code : MediaFault → ErrorCode
  | fileNotFound _ => .fileNotFound
  | _ => .trim

end MediaFault

end ClipRelay
