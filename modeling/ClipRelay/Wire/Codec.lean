import ClipRelay.Json.Printer
import ClipRelay.Json.Reader

/-!
# Types with a wire form

A type with a wire form has a JSON value that is written for it (`Wire.toJson`), a reader for text
(`Wire.read`) and the way back from what that reader gives (`Wire.ofRead?`). `encode` and `decode`
are the two directions between values and text.
-/

namespace ClipRelay

open Json.Read (Reader Field Fault)

class Wire (α : Type) where
  toJson : α → Json
  read : Reader
  ofRead? : Json → Option α

namespace Wire

variable {α : Type} [Wire α]

/-- The compact text of a value. -/
def encode (x : α) : String := (toJson x).compact

/-- The value of what the reader gave. -/
def accept (v : Json) : Except Fault α :=
  match ofRead? v with
  | some x => .ok x
  | none => .error .mistyped

/-- Reads a whole text. -/
def decodeGlyphs (g : List Text.Glyph) : Except Fault α := do
  accept (← Json.Read.readAll (read α) g)

def decode (s : String) : Except Fault α := decodeGlyphs (Text.glyphsOf s)

/-- Reads a value in front and ignores what follows it. -/
def decodeFront (g : List Text.Glyph) : Except Fault α := do
  let (v, _) ← read α Json.Read.maxDepth g
  accept v

end Wire

namespace Json

/-! ## Values that a reader has given -/

def asReal? : Json → Option Double
  | .number (.real x) => some x
  | _ => none

def asFlag? : Json → Option Bool
  | .bool b => some b
  | _ => none

/-- `null`, or a value of the given kind. -/
def orNull {α : Type} (kind : Json → Option α) : Json → Option (Option α)
  | .null => some none
  | v => (kind v).map some

/-- A free value; `null` counts as absent. -/
def orAbsent : Json → Option Json
  | .null => none
  | v => some v

/-- A number, or `null`. -/
def ofDouble? : Option Double → Json
  | some x => .ofDouble x
  | none => .null

/-- A member that is left out when there is nothing to write. -/
def memberIf (key : String) : Option Json → List (String × Json)
  | some v => [(key, v)]
  | none => []

end Json

end ClipRelay
