import ClipRelay.Url.Domain
import ClipRelay.Url.Percent

/-!
# Hosts

A host is an IPv6 address in brackets, an IPv4 address, or a domain name. A name whose last label
looks like a number is an IPv4 address or nothing: its parts may be decimal, octal or hexadecimal,
and the last part fills the bytes that are left.
-/

namespace ClipRelay

open Text

inductive Host
  | domain (name : List Char)
  | ipv4 (address : Nat)
  | ipv6 (pieces : List Nat)
  deriving DecidableEq

namespace Host

/-! ## Numbers in addresses -/

def isOctal (c : Char) : Bool := '0' ≤ c && c ≤ '7'

def isHex (c : Char) : Bool := c.isDigit || ('a' ≤ c && c ≤ 'f') || ('A' ≤ c && c ≤ 'F')

def hexValue (c : Char) : Nat :=
  if c.isDigit then c.toNat - '0'.toNat else c.toLower.toNat - 'a'.toNat + 10

/-- The number that digits of a base stand for. -/
def ofDigits (base : Nat) (cs : List Char) : Nat := cs.foldl (fun n c => base * n + hexValue c) 0

/-- A number as it stands in an IPv4 address: hexadecimal behind `0x`, octal behind `0`. -/
def readNumber? (cs : List Char) : Option Nat :=
  match cs with
  | [] => none
  | '0' :: 'x' :: ds | '0' :: 'X' :: ds => if ds.all isHex then some (ofDigits 16 ds) else none
  | '0' :: d :: ds => if (d :: ds).all isOctal then some (ofDigits 8 (d :: ds)) else none
  | ds => if ds.all Char.isDigit then some (ofDigits 10 ds) else none

/-! ## IPv4 -/

/-- The parts of a name, without an empty one behind a dot at the end. -/
def parts (name : List Char) : List (List Char) :=
  let ps := splitOnChar '.' name
  if ps.length > 1 && ps.getLast? == some [] then ps.dropLast else ps

/-- The last part of the name is a number. -/
def endsInNumber (name : List Char) : Bool :=
  match (parts name).getLast? with
  | some p => (!p.isEmpty && p.all Char.isDigit) || (readNumber? p).isSome
  | none => false

/-- The address of at most four numbers: all but the last are bytes, and the last one fills up. -/
def ofNumbers? (numbers : List Nat) : Option Nat :=
  match numbers.reverse with
  | last :: bytes =>
    let room := Nat.pow 256 (4 - bytes.length)
    if numbers.length ≤ 4 && bytes.all (· < 256) && last < room then
      some (bytes.reverse.foldl (fun n b => 256 * n + b) 0 * room + last)
    else none
  | [] => none

def readIpv4? (name : List Char) : Option Nat := do
  ofNumbers? (← (parts name).mapM readNumber?)

def digitsOf (n : Nat) : List Char := Nat.toDigits 10 n

/-- An IPv4 address as four bytes with dots between them. -/
def ipv4Chars (n : Nat) : List Char :=
  Url.joinDots ([24, 16, 8, 0].map fun place => digitsOf (n >>> place % 256))

/-! ## IPv6 -/

/-- A byte of the address at the end, without a zero in front. -/
def readByte? (cs : List Char) : Option Nat :=
  if cs.isEmpty || !cs.all Char.isDigit || (cs.length > 1 && cs.head? == some '0') then none
  else
    let n := ofDigits 10 cs
    if n < 256 then some n else none

/-- An IPv4 address as two pieces. -/
def readTail? (cs : List Char) : Option (List Nat) := do
  match ← (splitOnChar '.' cs).mapM readByte? with
  | [a, b, c, d] => return [256 * a + b, 256 * c + d]
  | _ => none

def readPiece? (cs : List Char) : Option Nat :=
  if cs.isEmpty || 4 < cs.length || !cs.all isHex then none else some (ofDigits 16 cs)

/-- Pieces with colons between them; at the end there may be an IPv4 address if `tail`. -/
def readPieces? (tail : Bool) (cs : List Char) : Option (List Nat) :=
  if cs.isEmpty then some []
  else
    let ps := splitOnChar ':' cs
    match ps.getLast? with
    | some last =>
      if tail && last.contains '.' then do
        return (← ps.dropLast.mapM readPiece?) ++ (← readTail? last)
      else ps.mapM readPiece?
    | none => none

/-- What stands before and after the first two colons in a row. -/
def cutGap? : List Char → Option (List Char × List Char)
  | ':' :: ':' :: cs => some ([], cs)
  | c :: cs => (cutGap? cs).map fun (before, after) => (c :: before, after)
  | [] => none

def readIpv6? (cs : List Char) : Option (List Nat) := do
  match cutGap? cs with
  | some (before, after) =>
    let front ← readPieces? false before
    let back ← readPieces? true after
    let count := front.length + back.length
    if count < 8 then return front ++ List.replicate (8 - count) 0 ++ back else none
  | none =>
    let ps ← readPieces? true cs
    if ps.length = 8 then return ps else none

/-- The length of the run of zeros in front. -/
def zeroRun (ps : List Nat) : Nat := (ps.takeWhile (· == 0)).length

/-- The longest run of zeros in the pieces. -/
def longestRun : List Nat → Nat
  | [] => 0
  | p :: ps => max (zeroRun (p :: ps)) (longestRun ps)

def hexChars (n : Nat) : List Char := Nat.toDigits 16 n

/-- The pieces up to the first run of `run` zeros, and those behind it. -/
def cutRun (run : Nat) : List Nat → List Nat × List Nat
  | [] => ([], [])
  | p :: ps =>
    if zeroRun (p :: ps) = run then ([], (p :: ps).drop run)
    else
      let (before, after) := cutRun run ps
      (p :: before, after)

def colonChars (ps : List Nat) : List Char := ((ps.map hexChars).intersperse [':']).flatten

/-- An IPv6 address; the first of its longest runs of at least two zeros is left out. -/
def ipv6Chars (ps : List Nat) : List Char :=
  let run := longestRun ps
  if run < 2 then colonChars ps
  else
    let (before, after) := cutRun run ps
    colonChars before ++ [':', ':'] ++ colonChars after

/-! ## Reading and writing -/

/-- The host that a text stands for. -/
def read? (cs : List Char) : Option Host :=
  match cs with
  | '[' :: inner =>
    match inner.reverse with
    | ']' :: address => (readIpv6? address.reverse).map .ipv6
    | _ => none
  | cs => do
    let name ← Url.domainToAscii? (lossyChars (Url.decodePercent (bytesOf (String.ofList cs))))
    if name.isEmpty then none
    else if endsInNumber name then (readIpv4? name).map .ipv4
    else return .domain name

/-- A host as it stands in a URL. -/
def chars : Host → List Char
  | domain name => name
  | ipv4 address => ipv4Chars address
  | ipv6 pieces => '[' :: ipv6Chars pieces ++ [']']

end Host

end ClipRelay
