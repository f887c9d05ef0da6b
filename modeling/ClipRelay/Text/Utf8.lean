/-!
# Bytes as text

`glyphs` reads bytes as UTF-8 and keeps what cannot be read: each longest run of bytes that starts a
character and never finishes it is one `none`. Replacing these by U+FFFD is the lossy text of the
bytes; having none of them is being valid UTF-8.
-/

namespace ClipRelay.Text

abbrev Bytes := List UInt8

/-- A character, or a run of bytes that is none. -/
abbrev Glyph := Option Char

/-- A character under way: the bytes still missing, the range of the next one, the bits so far. -/
structure Pending where
  missing : Nat
  low : UInt8
  high : UInt8
  bits : Nat

/-- What a byte at the start of a character does. -/
def startGlyph (b : UInt8) : Option Pending × List Glyph :=
  if b < 0x80 then (none, [some (Char.ofNat b.toNat)])
  else if b < 0xC2 then (none, [none])
  else if b < 0xE0 then (some ⟨1, 0x80, 0xBF, b.toNat % 0x20⟩, [])
  else if b < 0xF0 then
    (some ⟨2, if b = 0xE0 then 0xA0 else 0x80, if b = 0xED then 0x9F else 0xBF,
      b.toNat % 0x10⟩, [])
  else if b < 0xF5 then
    (some ⟨3, if b = 0xF0 then 0x90 else 0x80, if b = 0xF4 then 0x8F else 0xBF,
      b.toNat % 0x08⟩, [])
  else (none, [none])

/-- What the next byte does to a character under way. A byte out of range starts anew. -/
def stepGlyph (p : Pending) (b : UInt8) : Option Pending × List Glyph :=
  if p.low ≤ b && b ≤ p.high then
    let bits := p.bits * 0x40 + b.toNat % 0x40
    if p.missing = 1 then (none, [some (Char.ofNat bits)])
    else (some ⟨p.missing - 1, 0x80, 0xBF, bits⟩, [])
  else
    let (next, out) := startGlyph b
    (next, none :: out)

/-- The glyphs of bytes that follow a character under way. -/
def glyphsFrom : Option Pending → Bytes → List Glyph
  | none, [] => []
  | some _, [] => [none]
  | none, b :: bs =>
    let (next, out) := startGlyph b
    out ++ glyphsFrom next bs
  | some p, b :: bs =>
    let (next, out) := stepGlyph p b
    out ++ glyphsFrom next bs

def glyphs (bs : Bytes) : List Glyph := glyphsFrom none bs

/-- The characters, U+FFFD for what is none. -/
def lossyChars (bs : Bytes) : List Char := (glyphs bs).map (·.getD '\uFFFD')

def lossy (bs : Bytes) : String := String.ofList (lossyChars bs)

/-- The glyphs of a text, which are all characters. -/
def glyphsOf (s : String) : List Glyph := s.toList.map some

def bytesOf (s : String) : Bytes := s.toUTF8.toList

end ClipRelay.Text
