import ClipRelay.Number.Rounding

/-!
# Doubles as whole numbers of units

Seconds, percentages and frame rates are IEEE 754 doubles. Every finite double is a whole number of
*units*, a unit being the least positive double `2 ^ -1074`, so a finite `Double` is a sign and a
natural number of units with at most 53 significant bits. Order and equality are those of integers,
and an arithmetic operation is exact arithmetic on naturals followed by one rounding
(`roundUnits`), which always lands on a number that a double can hold (`holds_roundUnits`).
-/

namespace ClipRelay

namespace Number

/-- The place of the bit of the value one, counted from the unit. -/
def onePlace : Nat := 1074

/-- The place of the first bit that is too high for a double. -/
def limitPlace : Nat := 2098

/-- The number of units of the value one. -/
def unitsPerOne : Nat := Nat.pow 2 onePlace

/-- The units of the first power of two that is too large for a double. -/
def unitsLimit : Nat := Nat.pow 2 limitPlace

/-- A double holds `u` units: they have at most 53 significant bits and stay below the limit. -/
def Holds (u : Nat) : Prop :=
  u < unitsLimit ∧ Nat.pow 2 (u.log2 - 52) ∣ u

instance (u : Nat) : Decidable (Holds u) :=
  inferInstanceAs (Decidable (_ ∧ _))

/-- `n / d` units rounded to 53 significant bits, ties to even. -/
def roundUnits (n d : Nat) : Nat :=
  let shift := (n / d).log2 - 52
  roundDiv n (d * Nat.pow 2 shift) * Nat.pow 2 shift

theorem dvd_of_le_mul {r s : Nat} (hr : r ≤ Nat.pow 2 53) :
    Nat.pow 2 ((r * Nat.pow 2 s).log2 - 52) ∣ r * Nat.pow 2 s := by
  simp only [Nat.pow_eq] at hr ⊢
  by_cases h0 : r = 0
  · simp [h0]
  have hpos : r * 2 ^ s ≠ 0 := Nat.mul_ne_zero h0 (by simp)
  by_cases h : r < 2 ^ 53
  · have hlt : r * 2 ^ s < 2 ^ (53 + s) := by
      rw [Nat.pow_add]
      exact (Nat.mul_lt_mul_right (Nat.two_pow_pos s)).2 h
    have hlog := (Nat.log2_lt hpos).2 hlt
    exact Nat.dvd_trans (Nat.pow_dvd_pow 2 (by omega)) (Nat.dvd_mul_left _ _)
  · have hr' : r = 2 ^ 53 := by omega
    subst hr'
    rw [← Nat.pow_add, Nat.log2_two_pow]
    exact Nat.pow_dvd_pow 2 (by omega)

/-- A rounded number has at most 53 significant bits. -/
theorem dvd_roundUnits (n : Nat) {d : Nat} (hd : 0 < d) :
    Nat.pow 2 ((roundUnits n d).log2 - 52) ∣ roundUnits n d := by
  unfold roundUnits
  apply dvd_of_le_mul
  apply roundDiv_le (Nat.mul_pos hd (Nat.two_pow_pos _))
  simp only [Nat.pow_eq]
  by_cases hq : n / d = 0
  · rw [hq]
    have hlt : n < d := by
      rcases (Nat.div_eq_zero_iff).1 hq with h | h
      · omega
      · exact h
    calc n < d := hlt
      _ ≤ 2 ^ 53 * (d * 2 ^ (Nat.log2 0 - 52)) := by simp; omega
  · have h2 : n / d < 2 ^ ((n / d).log2 + 1) := Nat.lt_log2_self
    have h3 : n < 2 ^ ((n / d).log2 + 1) * d := (Nat.div_lt_iff_lt_mul hd).1 h2
    calc n < 2 ^ ((n / d).log2 + 1) * d := h3
      _ ≤ 2 ^ (53 + ((n / d).log2 - 52)) * d := by
          apply Nat.mul_le_mul_right
          exact Nat.pow_le_pow_right (by omega) (by omega)
      _ = 2 ^ 53 * (d * 2 ^ ((n / d).log2 - 52)) := by
          rw [Nat.pow_add, Nat.mul_assoc, Nat.mul_comm d]

theorem holds_roundUnits {n d : Nat} (hd : 0 < d) (h : roundUnits n d < unitsLimit) :
    Holds (roundUnits n d) :=
  ⟨h, dvd_roundUnits n hd⟩

theorem powTwo_pos (n : Nat) : 0 < Nat.pow 2 n := Nat.two_pow_pos n

theorem unitsPerOne_pos : 0 < unitsPerOne := by
  unfold unitsPerOne
  apply powTwo_pos

theorem unitsLimit_pos : 0 < unitsLimit := by
  unfold unitsLimit
  apply powTwo_pos

theorem holds_zero : Holds 0 :=
  ⟨unitsLimit_pos, Nat.dvd_zero _⟩

end Number

open Number

/-- An IEEE 754 double; all NaNs are one. -/
inductive Double
  | nan
  | infinite (negative : Bool)
  | finite (negative : Bool) (units : Nat) (holds : Holds units)
  deriving DecidableEq

namespace Double

/-- The double nearest to `n / d` units, infinite beyond the largest double. -/
def ofUnits (negative : Bool) (n d : Nat) : Double :=
  if hd : 0 < d then
    if h : roundUnits n d < unitsLimit then .finite negative (roundUnits n d) (holds_roundUnits hd h)
    else .infinite negative
  else .nan

def zero : Double := .finite false 0 holds_zero

/-- The double nearest to a whole number. -/
def ofInt (n : Int) : Double :=
  ofUnits (n < 0) (n.natAbs * unitsPerOne) 1

def ofNat (n : Nat) : Double := ofInt n

instance (n : Nat) : OfNat Double n := ⟨ofNat n⟩

/-- The double nearest to `n / 10 ^ places`, for constants. -/
def ofPlaces (n places : Nat) : Double :=
  ofUnits false (n * unitsPerOne) (Nat.pow 10 places)

instance : Inhabited Double := ⟨zero⟩

/-! ## Order -/

/-- A number of units with its sign. -/
def signed (negative : Bool) (units : Nat) : Int :=
  if negative then -(units : Int) else units

def isNaN : Double → Bool
  | .nan => true
  | _ => false

def isFinite : Double → Bool
  | .finite .. => true
  | _ => false

/-- `x < y`, false when either is NaN. -/
def lt : Double → Double → Bool
  | .nan, _ | _, .nan => false
  | .infinite s, .infinite t => s && !t
  | .infinite s, .finite .. => s
  | .finite .., .infinite t => !t
  | .finite s u _, .finite t v _ => signed s u < signed t v

/-- `x = y` as numbers: the zeros are equal, NaN equals nothing. -/
def eq : Double → Double → Bool
  | .infinite s, .infinite t => s == t
  | .finite s u _, .finite t v _ => signed s u == signed t v
  | _, _ => false

/-- `x ≤ y`, false when either is NaN. -/
def le (x y : Double) : Bool := x.lt y || x.eq y

/-! ## Arithmetic -/

def neg : Double → Double
  | .nan => .nan
  | .infinite s => .infinite !s
  | .finite s u h => .finite (!s) u h

/-- The double nearest to a sum; a sum that vanishes is positive unless both zeros are negative. -/
def add : Double → Double → Double
  | .nan, _ | _, .nan => .nan
  | .infinite s, .infinite t => if s = t then .infinite s else .nan
  | .infinite s, .finite .. => .infinite s
  | .finite .., .infinite t => .infinite t
  | .finite s u _, .finite t v _ =>
    let sum := signed s u + signed t v
    ofUnits (if sum = 0 then s && t else sum < 0) sum.natAbs 1

def sub (x y : Double) : Double := x.add y.neg

def mul : Double → Double → Double
  | .nan, _ | _, .nan => .nan
  | .infinite s, .infinite t => .infinite (s != t)
  | .infinite s, .finite t v _ => if v = 0 then .nan else .infinite (s != t)
  | .finite s u _, .infinite t => if u = 0 then .nan else .infinite (s != t)
  | .finite s u _, .finite t v _ => ofUnits (s != t) (u * v) unitsPerOne

def div : Double → Double → Double
  | .nan, _ | _, .nan => .nan
  | .infinite _, .infinite _ => .nan
  | .infinite s, .finite t _ _ => .infinite (s != t)
  | .finite s _ _, .infinite t => .finite (s != t) 0 holds_zero
  | .finite s u _, .finite t v _ =>
    if v = 0 then if u = 0 then .nan else .infinite (s != t)
    else ofUnits (s != t) (u * unitsPerOne) v

/-- The nearest whole number, a half going away from zero. -/
def round : Double → Double
  | .nan => .nan
  | .infinite s => .infinite s
  | .finite s u _ => ofUnits s ((2 * u + unitsPerOne) / (2 * unitsPerOne) * unitsPerOne) 1

/-- The whole part as a 32-bit number: NaN and negative numbers give 0, large ones the largest. -/
def toUInt32 : Double → Nat
  | .nan => 0
  | .infinite s => if s then 0 else 0xFFFFFFFF
  | .finite s u _ => if s then 0 else min (u / unitsPerOne) 0xFFFFFFFF

/-- `x` moved into `[low, high]`; NaN stays NaN. -/
def clamp (x low high : Double) : Double :=
  if x.lt low then low else if high.lt x then high else x

end Double

end ClipRelay
