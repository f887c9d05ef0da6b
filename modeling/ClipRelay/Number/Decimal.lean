import ClipRelay.Number.Double

/-!
# Decimal texts of doubles

`Double.shortest` is the shortest decimal that rounds to a given double: the grids of one, two,
… seventeen significant digits are tried in turn, on each grid only the two neighbours of the value
can lie in the interval of numbers that round to it (`Interval`), and the nearer of the two wins.
`Double.fixed` writes the exact value rounded to a number of places, ties to even. `Double.ofText?`
reads a decimal, an infinity or a NaN.
-/

namespace ClipRelay

namespace Number

/-- The decimal digits of a natural number. -/
def digits (n : Nat) : List Char := Nat.toDigits 10 n

/-- The number that decimal digits stand for. -/
def ofDigits (cs : List Char) : Nat :=
  cs.foldl (fun n c => 10 * n + (c.toNat - '0'.toNat)) 0

/-- The exponent of ten of the leading digit of `u` units, `u` being positive. -/
def leadingExponent (u : Nat) : Int :=
  if unitsPerOne ≤ u then ((digits (u / unitsPerOne)).length : Int) - 1
  else -((digits ((unitsPerOne + u - 1) / u - 1)).length : Int)

/-- The numbers that round to a double, in quarters of a unit; the ends belong to it when the
double's last bit is even. -/
structure Interval where
  low : Nat
  high : Nat
  closed : Bool

/-- The interval of the double of `u` units. Below a power of two the neighbour is half as far. -/
def Interval.around (u : Nat) : Interval :=
  let gap := Nat.pow 2 (u.log2 - 52)
  let below := if u = Nat.pow 2 u.log2 ∧ 1 < gap then gap else 2 * gap
  ⟨4 * u - below, 4 * u + 2 * gap, u / gap % 2 == 0⟩

/-- A decimal `c * 10 ^ e`, in quarters of a unit, as a quotient of two naturals. -/
def quarters (c : Nat) (e : Int) : Nat × Nat :=
  if e < 0 then (c * (4 * unitsPerOne), Nat.pow 10 e.natAbs)
  else (c * (4 * unitsPerOne) * Nat.pow 10 e.natAbs, 1)

/-- The decimal `c * 10 ^ e` rounds to the double of this interval. -/
def Interval.has (i : Interval) (c : Nat) (e : Int) : Bool :=
  let (n, d) := quarters c e
  if i.closed then i.low * d ≤ n && n ≤ i.high * d else i.low * d < n && n < i.high * d

/-- On the grid `10 ^ e`, the neighbour of `u` units that rounds to it and lies nearest. -/
def onGrid? (u : Nat) (e : Int) : Option Nat :=
  let i := Interval.around u
  let scale := Nat.pow 10 e.natAbs
  let (n, d) := if e < 0 then (u * scale, unitsPerOne) else (u, unitsPerOne * scale)
  let below := n / d
  let nearer := roundDiv n d
  if i.has nearer e then some nearer
  else if i.has below e then some below
  else if i.has (below + 1) e then some (below + 1)
  else none

/-- Drops trailing zeros of a positive number into the exponent; `fuel` bounds their count. -/
def dropZeros : Nat → Nat → Int → Nat × Int
  | 0, c, e => (c, e)
  | fuel + 1, c, e => if c % 10 = 0 then dropZeros fuel (c / 10) (e + 1) else (c, e)

/-- The first grid with a hit, from `places` digits on; `fuel` counts the grids still to try. -/
def firstGrid (u : Nat) (lead : Int) : Nat → Nat → Nat × Int
  | 0, _ => (u, 0)
  | fuel + 1, places =>
    let e := lead + 1 - places
    match onGrid? u e with
    | some c => dropZeros 20 c e
    | none => firstGrid u lead fuel (places + 1)

/-- The digits and the exponent of ten of the shortest decimal that rounds to `u` units; seventeen
digits always do. -/
def shortest (u : Nat) : Nat × Int :=
  if u = 0 then (0, 0) else firstGrid u (leadingExponent u) 17 1

/-- `n` zeros. -/
def zeros (n : Nat) : List Char := List.replicate n '0'

/-- A decimal point with what stands before and behind it. -/
def pointed (whole fraction : List Char) : List Char :=
  whole ++ '.' :: fraction

end Number

open Number

namespace Double

/-- The sign in front of a written number. -/
def signChars (negative : Bool) : List Char := if negative then ['-'] else []

/-! ## Fixed places -/

/-- The value with a fixed number of places, ties to even; a negative zero keeps its sign. -/
def fixed (places : Nat) : Double → String
  | .nan => "NaN"
  | .infinite s => String.ofList (signChars s ++ "inf".toList)
  | .finite s u _ =>
    let scale := Nat.pow 10 places
    let scaled := roundDiv (u * scale) unitsPerOne
    let fraction := digits (scaled % scale)
    String.ofList (signChars s ++ pointed (digits (scaled / scale))
      (zeros (places - fraction.length) ++ fraction))

/-! ## Reading -/

/-- `n * 10 ^ e`, with exponents so large that only the digit count matters cut off early. -/
def ofDecimal (negative : Bool) (n : Nat) (e : Int) : Double :=
  let size := (digits n).length + e
  if n = 0 then .finite negative 0 holds_zero
  else if 400 < size then .infinite negative
  else if size < -400 then .finite negative 0 holds_zero
  else if e < 0 then ofUnits negative (n * unitsPerOne) (Nat.pow 10 e.natAbs)
  else ofUnits negative (n * Nat.pow 10 e.natAbs * unitsPerOne) 1

/-- An optional sign in front. -/
def splitSign : List Char → Bool × List Char
  | '-' :: cs => (true, cs)
  | '+' :: cs => (false, cs)
  | cs => (false, cs)

/-- The exponent part of a decimal: nothing, or `e` with an optional sign and digits. -/
def readExponent? : List Char → Option Int
  | [] => some 0
  | c :: cs =>
    let (negative, ds) := splitSign cs
    if (c == 'e' || c == 'E') && !ds.isEmpty && ds.all Char.isDigit then
      some (if negative then -(ofDigits ds : Int) else ofDigits ds)
    else none

/-- Digits, a point, digits, an exponent: a digit is needed on one side of the point. -/
def readDecimal? (negative : Bool) (cs : List Char) : Option Double :=
  let whole := cs.takeWhile Char.isDigit
  let rest := cs.dropWhile Char.isDigit
  let (fraction, rest) := match rest with
    | '.' :: ds => (ds.takeWhile Char.isDigit, ds.dropWhile Char.isDigit)
    | _ => ([], rest)
  if whole.isEmpty && fraction.isEmpty then none
  else (readExponent? rest).map fun e =>
    ofDecimal negative (ofDigits (whole ++ fraction)) (e - fraction.length)

/-- A number as text: a decimal, or `inf`, `infinity`, `nan` in any case, with an optional sign. -/
def ofText? (text : String) : Option Double :=
  let (negative, cs) := splitSign text.toList
  match readDecimal? negative cs with
  | some x => some x
  | none =>
    let word := String.ofList (cs.map Char.toLower)
    if word = "inf" || word = "infinity" then some (.infinite negative)
    else if word = "nan" then some .nan
    else none

end Double

/-- An unsigned whole number below `limit`, with an optional plus sign. -/
def readNat? (limit : Nat) (text : String) : Option Nat :=
  let ds := match text.toList with
    | '+' :: ds => ds
    | ds => ds
  if !ds.isEmpty && ds.all Char.isDigit && ofDigits ds < limit then some (ofDigits ds) else none

end ClipRelay
