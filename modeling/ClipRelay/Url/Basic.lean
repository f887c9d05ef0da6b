import ClipRelay.Text.Blank
import ClipRelay.Url.Host

/-!
# Web addresses

Reads the addresses of HTTP requests as browsers do: blanks and controls around the text and line
breaks inside it are dropped, backslashes count as slashes, the host is brought into its one form,
dot segments are removed from the path, and what a part cannot hold is percent-encoded. User name
and password are read over, since they are not part of what is requested. `Url.text` is the address
written again, `Url.target` the part of it that is sent to the host.
-/

namespace ClipRelay

open Text

inductive Scheme
  | http
  | https
  deriving DecidableEq

namespace Scheme

def name : Scheme → String
  | http => "http"
  | https => "https"

/-- The port that need not be written. -/
def defaultPort : Scheme → Nat
  | http => 80
  | https => 443

end Scheme

structure Url where
  scheme : Scheme
  host : Host
  /-- The port, unless it is the default one. -/
  port : Option Nat
  /-- The segments behind the slashes of the path, one at least. -/
  path : List (List Char)
  query : Option (List Char)
  fragment : Option (List Char)
  deriving DecidableEq

namespace Url

/-! ## Reading -/

/-- Controls and the space, which do not count at the ends of an address. -/
def isEdge (c : Char) : Bool := c.toNat ≤ 0x20

/-- Tabs and line breaks, which do not count anywhere. -/
def isBreak (c : Char) : Bool := c = '\t' || c = '\n' || c = '\r'

/-- The characters of an address that count. -/
def clean (cs : List Char) : List Char :=
  (dropEndWhile isEdge (cs.dropWhile isEdge)).filter (!isBreak ·)

def isSlash (c : Char) : Bool := c = '/' || c = '\\'

/-- The scheme in front, in any case, and what follows its colon. -/
def splitScheme? (cs : List Char) : Option (Scheme × List Char) := do
  let (name, rest) ← cutAt? ':' cs
  let name := String.ofList (name.map Char.toLower)
  if name = Scheme.https.name then return (.https, rest)
  else if name = Scheme.http.name then return (.http, rest)
  else none

/-- The authority ends here. -/
def endsAuthority (c : Char) : Bool := isSlash c || c = '?' || c = '#'

/-- What stands behind the last at sign; a user name with no host behind it is refused by the
host. -/
def dropUser (authority : List Char) : List Char :=
  (authority.reverse.takeWhile (· != '@')).reverse

/-- Host and port are split at the first colon outside of brackets. -/
def splitPort (inside : Bool) : List Char → List Char × Option (List Char)
  | [] => ([], none)
  | c :: cs =>
    if c = ':' && !inside then ([], some cs)
    else
      let (host, port) := splitPort (c = '[' || (inside && c != ']')) cs
      (c :: host, port)

/-- The largest port. -/
def maxPort : Nat := 65535

/-- The port behind the colon, if any digits stand there. -/
def readPort? (cs : List Char) : Option (Option Nat) :=
  if cs.all Char.isDigit then
    let port := Host.ofDigits 10 cs
    if maxPort < port then none else some (if cs.isEmpty then none else some port)
  else none

/-- The port of an authority, unless it is the default one. -/
def portOf? (scheme : Scheme) : Option (List Char) → Option (Option Nat)
  | none => some none
  | some cs => (readPort? cs).map (·.filter (· != scheme.defaultPort))

def isDot (segment : List Char) : Bool :=
  [".", "%2e"].contains (String.ofList (segment.map Char.toLower))

def isDoubleDot (segment : List Char) : Bool :=
  ["..", ".%2e", "%2e.", "%2e%2e"].contains (String.ofList (segment.map Char.toLower))

/-- A letter with a colon or a bar, which names a drive. -/
def isDrive : List Char → Bool
  | [letter, mark] => letter.isAlpha && (mark = ':' || mark = '|')
  | _ => false

/-- The segments above the last one, in reverse; nothing stands above a drive. -/
def above : List (List Char) → List (List Char)
  | [] => []
  | s :: before => if isDrive s then s :: before else before

/-- Adds segments to those before them, which are in reverse. A dot stands for its directory, two
dots for the one above; at the end they leave an empty segment. -/
def addSegments (before : List (List Char)) : List (List Char) → List (List Char)
  | [] => before.reverse
  | s :: rest =>
    let atEnd := rest.isEmpty
    if isDoubleDot s then
      addSegments (if atEnd then [] :: above before else above before) rest
    else if isDot s then addSegments (if atEnd then [] :: before else before) rest
    else addSegments (encodeChars pathSet s :: before) rest

/-- The pieces between slashes of either kind. -/
def splitOnSlash (cs : List Char) : List (List Char) :=
  splitOnChar '/' (cs.map fun c => if isSlash c then '/' else c)

/-- The segments of a path, given from its first slash on. -/
def segmentsOf (path : List Char) : List (List Char) := addSegments [] (splitOnSlash path.tail)

/-- What stands before the first separator, and what stands behind it, if it is there. -/
def cutOff (separator : Char) (cs : List Char) : List Char × Option (List Char) :=
  match cutAt? separator cs with
  | some (before, after) => (before, some after)
  | none => (cs, none)

/-- The address that a text stands for. -/
def read? (cs : List Char) : Option Url := do
  let (scheme, rest) ← splitScheme? (clean cs)
  let rest := rest.dropWhile isSlash
  let (host, port) := splitPort false (dropUser (rest.takeWhile (!endsAuthority ·)))
  let host ← Host.read? host
  let port ← portOf? scheme port
  let (rest, fragment) := cutOff '#' (rest.dropWhile (!endsAuthority ·))
  let (path, query) := cutOff '?' rest
  return ⟨scheme, host, port, segmentsOf path, query.map (encodeChars querySet),
    fragment.map (encodeChars fragmentSet)⟩

def ofText? (s : String) : Option Url := read? s.toList

/-! ## Writing -/

def pathChars (u : Url) : List Char := u.path.flatMap ('/' :: ·)

/-- A part with its separator, if it is there. -/
def partChars (separator : Char) : Option (List Char) → List Char
  | some cs => separator :: cs
  | none => []

/-- Path and query, which are sent to the host. -/
def targetChars (u : Url) : List Char := u.pathChars ++ partChars '?' u.query

def target (u : Url) : String := String.ofList u.targetChars

/-- Host and port. -/
def authorityChars (u : Url) : List Char :=
  u.host.chars ++ partChars ':' (u.port.map Host.digitsOf)

def authority (u : Url) : String := String.ofList u.authorityChars

/-- The whole address. -/
def text (u : Url) : String :=
  u.scheme.name ++ "://"
    ++ String.ofList (u.authorityChars ++ u.targetChars ++ partChars '#' u.fragment)

/-! ## Requests -/

/-- The longest address that can be requested, in bytes. -/
def maxLength : Nat := 65534

/-- An address can be requested when its host has no quotes or braces and it is not too long. -/
def isRequestable (u : Url) : Bool :=
  u.host.chars.all (!inText "\x22\x60\x7b\x7d" ·) && u.text.utf8ByteSize ≤ maxLength

end Url

end ClipRelay
