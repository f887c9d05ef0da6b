import ClipRelay.Text.Case
import ClipRelay.Text.Utf8

/-!
# Percent encoding

Each part of a URL has a set of characters that may not stand there as they are. Such a character is
written as the bytes of its UTF-8 form, each as a percent sign and two digits; a percent sign itself
is kept. `decodePercent` is the way back, for hosts.
-/

namespace ClipRelay.Url

open Text

/-- Controls and everything beyond ASCII. -/
def isControl (c : Char) : Bool := c.toNat < 0x20 || 0x7E < c.toNat

def inText (s : String) (c : Char) : Bool := s.toList.contains c

/-- Characters that a fragment cannot hold. -/
def fragmentSet (c : Char) : Bool := isControl c || inText " \x22<>\x60" c

/-- Characters that a query cannot hold. -/
def querySet (c : Char) : Bool := isControl c || inText " \x22#<>'" c

/-- Characters that a path cannot hold. -/
def pathSet (c : Char) : Bool := isControl c || inText " \x22#<>?^\x60\x7b\x7d" c

def percentByte (b : UInt8) : List Char :=
  ['%', (Nat.digitChar (b.toNat / 16)).toUpper, (Nat.digitChar (b.toNat % 16)).toUpper]

/-- The characters, those of the set encoded. -/
def encodeChars (inSet : Char → Bool) (cs : List Char) : List Char :=
  cs.flatMap fun c => if inSet c then (bytesOf (String.singleton c)).flatMap percentByte else [c]

/-- A text without characters of the set is its own encoding. -/
theorem encodeChars_eq_self {inSet : Char → Bool} {cs : List Char} (h : ∀ c ∈ cs, inSet c = false) :
    encodeChars inSet cs = cs := by
  induction cs with
  | nil => rfl
  | cons c cs ih =>
    have hc := h c (by simp)
    have ih := ih fun d hd => h d (by simp [hd])
    simp only [encodeChars, List.flatMap_cons, hc] at ih ⊢
    simp [ih]

def hexByte? (b : UInt8) : Option UInt8 :=
  if 0x30 ≤ b && b ≤ 0x39 then some (b - 0x30)
  else if 0x41 ≤ b && b ≤ 0x46 then some (b - 0x37)
  else if 0x61 ≤ b && b ≤ 0x66 then some (b - 0x57)
  else none

/-- The bytes with each percent sign and two digits replaced by the byte they stand for. -/
def decodePercent : Bytes → Bytes
  | 0x25 :: a :: b :: bs =>
    match hexByte? a, hexByte? b with
    | some h, some l => (h * 16 + l) :: decodePercent bs
    | _, _ => 0x25 :: decodePercent (a :: b :: bs)
  | b :: bs => b :: decodePercent bs
  | [] => []

end ClipRelay.Url
