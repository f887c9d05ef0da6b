import ClipRelay.Text.Case
import ClipRelay.Text.NormalTable
import ClipRelay.Text.RunTable

/-!
# The composed normal form

`compose` brings a text into Unicode's normal form C: every character is decomposed, marks behind a
character are put into the order of their classes, and what can be composed is composed again.
-/

namespace ClipRelay.Text

def decompositions : RunTable := .ofLines decompositionLines

def combiningClasses : RunTable := .ofLines combiningLines

/-- The combining class of a character, 0 for those that start a cluster, as all of ASCII does. -/
def combiningClass (c : Char) : Nat :=
  if isAscii c then 0
  else match combiningClasses.run? c with
    | some r => r.image.headD 0
    | none => 0

/-! ## Hangul -/

def hangulBase : Nat := 0xAC00
def leadBase : Nat := 0x1100
def vowelBase : Nat := 0x1161
def tailBase : Nat := 0x11A7
def leadCount : Nat := 19
def vowelCount : Nat := 21
def tailCount : Nat := 28

/-- The letters of a Hangul syllable. -/
def hangulLetters? (c : Char) : Option (List Char) :=
  let i := c.toNat - hangulBase
  if c.toNat < hangulBase || leadCount * vowelCount * tailCount ≤ i then none
  else
    let lead := Char.ofNat (leadBase + i / (vowelCount * tailCount))
    let vowel := Char.ofNat (vowelBase + i % (vowelCount * tailCount) / tailCount)
    if i % tailCount = 0 then some [lead, vowel]
    else some [lead, vowel, Char.ofNat (tailBase + i % tailCount)]

/-- The syllable of a lead and a vowel, or of a syllable without a tail and a tail. -/
def hangulPair? (a b : Char) : Option Char :=
  let lead := a.toNat - leadBase
  let vowel := b.toNat - vowelBase
  let i := a.toNat - hangulBase
  if leadBase ≤ a.toNat && lead < leadCount && vowelBase ≤ b.toNat && vowel < vowelCount then
    some (Char.ofNat (hangulBase + (lead * vowelCount + vowel) * tailCount))
  else if hangulBase ≤ a.toNat && i < leadCount * vowelCount * tailCount && i % tailCount = 0
      && tailBase < b.toNat && b.toNat < tailBase + tailCount then
    some (Char.ofNat (a.toNat + (b.toNat - tailBase)))
  else none

/-! ## Decomposition -/

/-- The full canonical decomposition of a character. -/
def decomposeChar (c : Char) : List Char :=
  if isAscii c then [c]
  else match hangulLetters? c with
    | some letters => letters
    | none =>
      match decompositions.startingAt? c with
      | some r => r.image.map Char.ofNat
      | none => [c]

/-- Puts a character in front, behind the marks whose class is lower than its own. -/
def placeMark (c : Char) : List Char → List Char
  | [] => [c]
  | d :: ds =>
    if 0 < combiningClass d && combiningClass d < combiningClass c then d :: placeMark c ds
    else c :: d :: ds

/-- The decomposed text with its marks in order. -/
def decompose (cs : List Char) : List Char :=
  (cs.flatMap decomposeChar).foldr placeMark []

/-! ## Composition -/

/-- The character that two characters compose to; nothing composes with an ASCII character behind
it. -/
def composePair? (a b : Char) : Option Char :=
  if isAscii b then none
  else match hangulPair? a b with
    | some c => some c
    | none =>
      let image := (decomposeChar a).map Char.toNat ++ [b.toNat]
      (decompositions.find? fun r => r.kind == 'C' && r.image == image).map (Char.ofNat ·.first)

/-- Composes what follows a starting character and the marks behind it that did not compose, which
are in reverse. A mark is blocked by one of its own or a higher class. -/
def composeAfter (start : Char) (marks : List Char) : List Char → List Char
  | [] => start :: marks.reverse
  | c :: cs =>
    let blocked := match marks with
      | m :: _ => decide (combiningClass c ≤ combiningClass m)
      | [] => false
    match if blocked then none else composePair? start c with
    | some d => composeAfter d marks cs
    | none =>
      if combiningClass c = 0 then start :: marks.reverse ++ composeAfter c [] cs
      else composeAfter start (c :: marks) cs

/-- Composes a decomposed text. -/
def recompose : List Char → List Char
  | [] => []
  | c :: cs => if combiningClass c = 0 then composeAfter c [] cs else c :: recompose cs

/-- The normal form of a text. -/
def compose (cs : List Char) : List Char :=
  if cs.all isAscii then cs else recompose (decompose cs)

end ClipRelay.Text
