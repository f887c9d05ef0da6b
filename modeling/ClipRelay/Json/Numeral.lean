import ClipRelay.Json.Basic

/-!
# Numerals

The number that a numeral of a JSON text stands for. A whole number of 64 bits is kept as it is. Any
other number is a double, and not always the nearest one: the digits that fit into 64 bits make the
significand (`significand_lt`), which is rounded to a double, and its product or quotient with a
power of ten is rounded again. So the text of a double may stand for a neighbour of it. A number
beyond the largest double stands for nothing.
-/

namespace ClipRelay.Json

open Number

/-- A number as it is written. -/
structure Numeral where
  negative : Bool
  whole : List Char
  fraction : List Char
  exponent : Option Int

namespace Numeral

/-! ## Significands -/

/-- What a significand stays below. -/
def significandLimit : Nat := 0x10000000000000000

/-- The number with digits behind it as long as they fit, and the digits from the first one on that
does not. -/
def takeDigits (n : Nat) : List Char → Nat × List Char
  | [] => (n, [])
  | d :: ds =>
    let next := 10 * n + (d.toNat - '0'.toNat)
    if next < significandLimit then takeDigits next ds else (n, d :: ds)

theorem takeDigits_lt {n : Nat} (h : n < significandLimit) (ds : List Char) :
    (takeDigits n ds).1 < significandLimit := by
  induction ds generalizing n with
  | nil => exact h
  | cons d ds ih =>
    unfold takeDigits
    dsimp only
    split
    · next hn => exact ih hn
    · exact h

/-- The significand of a numeral and its exponent of ten. A digit of the whole part that does not
fit counts as a zero, one of the fraction is dropped, and so are those behind it in the same part. -/
def significand (n : Numeral) : Nat × Int :=
  let (s, beyond) := takeDigits 0 n.whole
  let (s, rest) := takeDigits s n.fraction
  (s, beyond.length + rest.length - n.fraction.length + n.exponent.getD 0)

theorem significand_lt (n : Numeral) : n.significand.1 < significandLimit :=
  takeDigits_lt (takeDigits_lt (by decide) _) _

/-! ## Powers of ten -/

/-- The exponent of the largest power of ten that a double reaches. -/
def maxPower : Nat := 308

/-- The double nearest to a power of ten. -/
def powerOfTen (k : Nat) : Double := .ofNat (Nat.pow 10 k)

/-- The double nearest to the product with a power of ten, unless it is infinite. -/
def scaleUp? (x : Double) (k : Nat) : Option Double :=
  if k ≤ maxPower then (some (x.mul (powerOfTen k))).filter Double.isFinite
  else if x.eq 0 then some x
  else none

/-- The quotient with a power of ten. Powers that a double does not reach are divided by in two
steps, and two of the largest power leave zero of any significand. -/
def scaleDown (x : Double) (k : Nat) : Double :=
  if k ≤ maxPower then x.div (powerOfTen k)
  else (x.div (powerOfTen maxPower)).div (powerOfTen (min (k - maxPower) maxPower))

/-! ## Values -/

/-- The double that a numeral stands for, unless it is too large. -/
def real? (n : Numeral) : Option Double :=
  let (s, e) := n.significand
  let x := Double.ofNat s
  (if e < 0 then some (scaleDown x e.natAbs) else scaleUp? x e.natAbs).map fun y =>
    if n.negative then y.neg else y

/-- The whole number that a numeral without fraction and exponent stands for, if it has 64 bits; a
zero with a sign is none. -/
def whole? (n : Numeral) : Option Int :=
  let w := ofDigits n.whole
  let i : Int := if n.negative then -(w : Int) else w
  if n.fraction.isEmpty ∧ n.exponent = none ∧ JsonNumber.FitsWhole i ∧ ¬(n.negative ∧ w = 0) then
    some i
  else none

/-- The number that a numeral stands for, unless it is too large for a double. -/
def number? (n : Numeral) : Option JsonNumber :=
  match n.whole? with
  | some i => some (.whole i)
  | none => n.real?.map .real

end Numeral

end ClipRelay.Json
