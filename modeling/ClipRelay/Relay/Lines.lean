import ClipRelay.Json.Reader
import ClipRelay.Text.Blank
import ClipRelay.Text.Search
import ClipRelay.Text.Utf8

/-!
# The lines of an event stream

The bytes of a stream arrive in pieces that do not keep to its lines. A `LineDecoder` holds back what
is no whole line yet; however the bytes are cut, the lines are those of the whole
(`cutLines_append`). A line carries an event when it is a JSON object, with or without the
mark of a data line in front.
-/

namespace ClipRelay

open Text

/-- The byte that ends a line. -/
def lineEnd : UInt8 := 0x0A

/-- The whole lines of bytes, each with its end, and the rest. -/
def cutLines : Bytes → List Bytes × Bytes
  | [] => ([], [])
  | b :: bs =>
    let (lines, rest) := cutLines bs
    if b = lineEnd then ([b] :: lines, rest)
    else match lines with
      | line :: lines => ((b :: line) :: lines, rest)
      | [] => ([], b :: rest)

/-- Bytes can be cut anywhere: what is left of the first piece goes in front of the second. -/
theorem cutLines_append (as bs : Bytes) :
    cutLines (as ++ bs) =
      ((cutLines as).1 ++ (cutLines ((cutLines as).2 ++ bs)).1,
        (cutLines ((cutLines as).2 ++ bs)).2) := by
  induction as with
  | nil => simp [cutLines]
  | cons a as ih =>
    by_cases ha : a = lineEnd
    · simp [cutLines, ha, ih]
    · cases h : (cutLines as).1 with
      | nil => simp [cutLines, ha, ih, h]
      | cons line lines => simp [cutLines, ha, ih, h]

/-- A line as text, without its end. -/
def lineText (line : Bytes) : String :=
  String.ofList (dropEndWhile (fun c => c = '\n' || c = '\r') (lossyChars line))

structure LineDecoder where
  /-- What has arrived behind the last whole line. -/
  held : Bytes
  deriving DecidableEq

namespace LineDecoder

def empty : LineDecoder := ⟨[]⟩

/-- The lines that a piece completes, and the decoder after it. -/
def push (d : LineDecoder) (chunk : Bytes) : List String × LineDecoder :=
  let (lines, rest) := cutLines (d.held ++ chunk)
  (lines.map lineText, ⟨rest⟩)

/-- What is left when the stream has ended, unless it is blank. -/
def rest? (d : LineDecoder) : Option String := nonBlank? (lossy d.held)

end LineDecoder

/-- The mark of a data line. -/
def dataMark : String := "data:"

/-- The text in a line that may be an event. -/
def payloadOf? (line : String) : Option String :=
  let line := trim line
  if startsWith line dataMark then
    some (String.ofList (trimStartChars (line.toList.drop dataMark.length)))
  else if startsWith line "\x7b" then some line
  else none

/-- The event in a line. -/
def eventOf? (line : String) : Option Json := do
  match Json.Read.ofText (← payloadOf? line) with
  | .ok v => if v.isObject then some v else none
  | .error _ => none

end ClipRelay
