import ClipRelay.Json.Basic

/-!
# The compact text of a JSON value

`Json.compact` writes a value without blanks, members in their order. Quotes, backslashes and
control characters are escaped and nothing else. A double is written by the fewest digits that have
no nearer double: positionally when its leading digit stands between `10 ^ -5` and `10 ^ 15`, with an
exponent otherwise; a double that is not finite is `null`.
-/

namespace ClipRelay

open Number

namespace Json

/-! ## Numbers -/

/-- The least exponent of ten that is written positionally. -/
def leastPositional : Int := -5

/-- The greatest exponent of ten that is written positionally. -/
def greatestPositional : Int := 15

/-- The digits `ds` with the leading one at `10 ^ lead`, written positionally with at least one
digit on either side of the point. -/
def positional (ds : List Char) (lead : Int) : List Char :=
  if lead < 0 then pointed ['0'] (zeros (lead.natAbs - 1) ++ ds)
  else
    let count := lead.natAbs + 1
    let fraction := ds.drop count
    pointed (ds.take count ++ zeros (count - ds.length)) (if fraction.isEmpty then ['0'] else fraction)

/-- The digits `ds` with the leading one at `10 ^ lead`, written with an exponent. -/
def scientific (ds : List Char) (lead : Int) : List Char :=
  let mantissa := match ds with
    | [d] => [d]
    | d :: fraction => pointed [d] fraction
    | [] => []
  mantissa ++ 'e' :: (if lead < 0 then '-' else '+') :: digits lead.natAbs

def doubleChars : Double → List Char
  | .finite s u _ =>
    let (c, e) := shortest u
    let ds := digits c
    let lead := e + ds.length - 1
    Double.signChars s ++
      if leastPositional ≤ lead ∧ lead ≤ greatestPositional then positional ds lead
      else scientific ds lead
  | _ => "null".toList

def intChars (n : Int) : List Char :=
  Double.signChars (n < 0) ++ digits n.natAbs

def numberChars : JsonNumber → List Char
  | .whole n => intChars n
  | .real x => doubleChars x

/-! ## Texts -/

def hexDigit (n : Nat) : Char := Nat.digitChar n

/-- How a character stands between quotes. -/
def quotedChar (c : Char) : List Char :=
  if c = '"' then ['\\', '"']
  else if c = '\\' then ['\\', '\\']
  else if c = '\n' then ['\\', 'n']
  else if c = '\r' then ['\\', 'r']
  else if c = '\t' then ['\\', 't']
  else if c = '\x08' then ['\\', 'b']
  else if c = '\x0c' then ['\\', 'f']
  else if c.toNat < 0x20 then
    ['\\', 'u', '0', '0', hexDigit (c.toNat / 16), hexDigit (c.toNat % 16)]
  else [c]

def quoted (s : String) : List Char :=
  '"' :: s.toList.flatMap quotedChar ++ ['"']

/-! ## Values -/

mutual

def chars : Json → List Char
  | .null => "null".toList
  | .bool true => "true".toList
  | .bool false => "false".toList
  | .number n => numberChars n
  | .string s => quoted s
  | .array items => '[' :: itemChars items ++ [']']
  | .object members => '\x7b' :: memberChars members ++ ['\x7d']

/-- Items with commas between them. -/
def itemChars : List Json → List Char
  | [] => []
  | [v] => chars v
  | v :: w :: rest => chars v ++ ',' :: itemChars (w :: rest)

/-- Members with commas between them. -/
def memberChars : List (String × Json) → List Char
  | [] => []
  | [(k, v)] => quoted k ++ ':' :: chars v
  | (k, v) :: m :: rest => quoted k ++ ':' :: chars v ++ ',' :: memberChars (m :: rest)

end

/-- The compact text of a value. -/
def compact (v : Json) : String := String.ofList v.chars

end Json

end ClipRelay
