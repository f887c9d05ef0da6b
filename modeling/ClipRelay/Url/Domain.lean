import ClipRelay.Text.Normal
import ClipRelay.Url.LabelTable
import ClipRelay.Url.MappingTable
import ClipRelay.Url.Punycode

/-!
# Domain names

A domain name is compared in one ASCII form: its characters are mapped (to lower case, among other
things), the text is brought into the composed normal form and cut into labels at the dots, each
label is checked, and a label beyond ASCII is written with the mark `xn--` in front. A name of ASCII
characters without that mark is only put into lower case.
-/

namespace ClipRelay.Url

open Text

def mapping : RunTable := .ofLines mappingLines
def marks : RunTable := .ofLines markLines
def directions : RunTable := .ofLines directionLines
def joinings : RunTable := .ofLines joiningLines

/-- What becomes of a character of a domain name. -/
def mapChar? (c : Char) : Option (List Char) :=
  if isAscii c then some [c.toLower]
  else match mapping.run? c with
    | some r =>
      if r.kind = 'V' then some [c]
      else if r.kind = 'M' then some (r.image.map Char.ofNat)
      else none
    | none => none

/-- A label may hold this character as it is. -/
def isKept (c : Char) : Bool := mapChar? c == some [c]

/-! ## Joiners -/

/-- The class of a virama, which binds the consonant behind it. -/
def viramaClass : Nat := 9

def followsVirama (before : List Char) : Bool :=
  before.head?.any (combiningClass · == viramaClass)

/-- Behind transparent characters stands one that joins on the given side or on both. -/
def joins (side : Char) (cs : List Char) : Bool :=
  match cs.dropWhile (joinings.isKind 'T') with
  | c :: _ => joinings.isKind side c || joinings.isKind 'D' c
  | [] => false

/-- A joiner stands only behind a virama; one that separates also stands between letters that would
join. The characters before the rest of the label are in reverse. -/
def joinersFit (before : List Char) : List Char → Bool
  | [] => true
  | c :: cs =>
    (if c = '\u200D' then followsVirama before
      else if c = '\u200C' then followsVirama before || (joins 'L' before && joins 'R' cs)
      else true)
    && joinersFit (c :: before) cs

/-! ## Directions -/

/-- The direction class of a character. -/
def directionOf (c : Char) : Char := ((directions.run? c).map Run.kind).getD 'L'

/-- The name holds characters that run from right to left, which none of ASCII does. -/
def hasRightToLeft (label : List Char) : Bool :=
  label.any fun c => !isAscii c && (directionOf c == 'R' || directionOf c == 'A')

/-- In a name with both directions: a label starts with a letter, keeps to its direction, and ends
with a letter or a digit of it before any marks. -/
def directionFits (label : List Char) : Bool :=
  let classes := label.map directionOf
  let last? := (classes.reverse.dropWhile (· == 'M')).head?
  match classes.head? with
  | none => true
  | some 'R' =>
    classes.all (inClasses "RAENM") && last?.any (inClasses "REA")
      && !(classes.contains 'E' && classes.contains 'A')
  | some 'L' => classes.all (inClasses "LENM") && last?.any (inClasses "LE")
  | some _ => false
where
  inClasses (s : String) (c : Char) : Bool := s.toList.contains c

/-! ## Labels -/

/-- The mark of a label that stands for characters beyond ASCII. -/
def asciiMark : List Char := "xn--".toList

def isMarked (label : List Char) : Bool := asciiMark.isPrefixOf label

/-- The characters of a label are fit to stand together. -/
def labelFits (label : List Char) : Bool :=
  !label.head?.any (marks.isKind 'M') && joinersFit [] label

/-- The characters that a mapped label stands for, if it is fit. -/
def readLabel? (label : List Char) : Option (List Char) :=
  if isMarked label then
    match Punycode.decode? (label.drop asciiMark.length) with
    | some cs =>
      if cs.all isAscii || isMarked cs || !cs.all isKept || compose cs != cs then none
      else if labelFits cs then some cs else none
    | none => none
  else if label.all isAscii || labelFits label then some label
  else none

/-- The ASCII form of a label. -/
def writeLabel (label : List Char) : List Char :=
  if label.all isAscii then label else asciiMark ++ Punycode.encode label

/-- Characters that no host may hold. -/
def isForbidden (c : Char) : Bool :=
  c.toNat ≤ 0x20 || c.toNat == 0x7F || "#/:<>?@[\\]^|%".toList.contains c

def joinDots (labels : List (List Char)) : List Char := (labels.intersperse ['.']).flatten

/-- The ASCII form of a domain name. -/
def domainToAscii? (name : List Char) : Option (List Char) := do
  let mapped ← name.mapM mapChar?
  let labels := splitOnChar '.' (compose mapped.flatten)
  let read ← labels.mapM readLabel?
  let ascii := joinDots (labels.map writeLabel)
  if read.any hasRightToLeft && !read.all directionFits then none
  else if ascii.any isForbidden then none
  else return ascii

end ClipRelay.Url
