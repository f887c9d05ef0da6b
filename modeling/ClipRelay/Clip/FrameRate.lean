import ClipRelay.Clip.Fault
import ClipRelay.Json.Reader
import ClipRelay.Text.Search
import ClipRelay.Wire.Codec

/-!
# Frame rates

A frame rate is written as a number or as a quotient, and is usable when it is finite and positive.
`FrameRate.ofReport` finds it in the report of the prober: the first video stream's average rate,
else its real base rate.
-/

namespace ClipRelay.FrameRate

open Json

/-- The frame rate that is assumed when the source cannot be probed. -/
def fallback : Double := 30

def readNumber? (cs : List Char) : Option Double :=
  Double.ofText? (String.ofList (Text.trimChars cs))

/-- A rate as text, a number or a quotient with a positive denominator. -/
def parse? (s : String) : Option Double := do
  let fps ← match Text.cutAt? '/' s.toList with
    | some (n, d) => do
      let n ← readNumber? n
      let d ← readNumber? d
      if d.le 0 then none else some (n.div d)
    | none => readNumber? s.toList
  if fps.isFinite && Double.zero.lt fps then some fps else none

/-- A stream in the report of the prober. -/
structure Stream where
  kind : Option String
  baseRate : Option String
  averageRate : Option String

def readStream : Read.Reader := Read.record
  [.nullable "codec_type" Read.text, .nullable "r_frame_rate" Read.text,
    .nullable "avg_frame_rate" Read.text]

def asStream? : Json → Option Stream
  | .array [k, b, a] => do
    return ⟨← orNull asText? k, ← orNull asText? b, ← orNull asText? a⟩
  | _ => none

def readReport : Read.Reader := Read.record
  [.defaulted "streams" (Read.listOf readStream) (.array [])]

def asStreams? : Json → Option (List Stream)
  | .array [.array streams] => streams.mapM asStream?
  | _ => none

/-- The stream is a video, or does not say what it is. -/
def Stream.isVideo (s : Stream) : Bool := s.kind.getD "video" == "video"

/-- The first usable rate of a stream, the average one before the base one. -/
def Stream.rate? (s : Stream) : Option Double :=
  [s.averageRate, s.baseRate].findSome? (·.bind parse?)

/-- The frame rate in a report of the prober. -/
def ofReport (report : Text.Bytes) : Except MediaFault Double :=
  match Read.readAll readReport (Text.glyphs report) with
  | .error _ => .error .unreadableProbe
  | .ok v =>
    match asStreams? v with
    | none => .error .unreadableProbe
    | some streams =>
      match streams.find? Stream.isVideo with
      | none => .error (.invalidVideo "No video stream found")
      | some s =>
        match s.rate? with
        | none => .error (.invalidVideo "No usable frame rate")
        | some fps => .ok fps

end ClipRelay.FrameRate
