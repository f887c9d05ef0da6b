import ClipRelay.Json.Numeral

/-!
# Numbers that stay finite

A quotient is rounded to less than twice itself (`roundUnits_le`), so a whole number of 64 bits and
what is left of it after divisions by powers of ten are far from the largest double (`Double.Below`).
A numeral that stands for a number stands for a finite one (`Json.Numeral.isFinite_of_number?`).
-/

namespace ClipRelay

open Number

namespace Number

theorem powTwo_le_unitsLimit {k : Nat} (h : k ≤ limitPlace) : Nat.pow 2 k ≤ unitsLimit := by
  unfold unitsLimit
  generalize limitPlace = place at h ⊢
  exact Nat.pow_le_pow_right (by decide) h

theorem powTwo_mul_unitsPerOne (j : Nat) : Nat.pow 2 j * unitsPerOne = Nat.pow 2 (j + onePlace) := by
  unfold unitsPerOne
  generalize onePlace = place
  exact (Nat.pow_add 2 j place).symm

/-- A rounded number stays below twice the number. -/
theorem roundUnits_le (n d : Nat) : roundUnits n d ≤ 2 * (n / d) + 1 := by
  unfold roundUnits
  generalize hshift : (n / d).log2 - 52 = shift
  have hround := roundDiv_le_div_add_one n (d * Nat.pow 2 shift)
  rw [← Nat.div_div_eq_div_mul] at hround
  have hquotient : n / d / Nat.pow 2 shift * Nat.pow 2 shift ≤ n / d := Nat.div_mul_le_self _ _
  have hpower : Nat.pow 2 shift ≤ n / d + 1 := by
    by_cases hq : n / d = 0
    · rw [hq] at hshift ⊢
      subst hshift
      decide
    · calc 2 ^ shift ≤ 2 ^ (n / d).log2 := Nat.pow_le_pow_right (by decide) (by omega)
        _ ≤ n / d := Nat.log2_self_le hq
        _ ≤ n / d + 1 := Nat.le_succ _
  calc roundDiv n (d * Nat.pow 2 shift) * Nat.pow 2 shift
      ≤ (n / d / Nat.pow 2 shift + 1) * Nat.pow 2 shift := Nat.mul_le_mul_right _ hround
    _ = n / d / Nat.pow 2 shift * Nat.pow 2 shift + Nat.pow 2 shift := by rw [Nat.add_mul, Nat.one_mul]
    _ ≤ 2 * (n / d) + 1 := by omega

/-- A whole number of units does not fall below a power of two in being rounded. -/
theorem powTwo_le_roundUnits {n k : Nat} (h : Nat.pow 2 k ≤ n) : Nat.pow 2 k ≤ roundUnits n 1 := by
  have hn : n ≠ 0 := by have := powTwo_pos k; omega
  have hlog : k ≤ n.log2 := (Nat.le_log2 hn).2 h
  simp only [roundUnits, Nat.div_one, Nat.one_mul]
  generalize hshift : n.log2 - 52 = shift
  have hround := div_le_roundDiv n (Nat.pow 2 shift)
  rcases Nat.eq_zero_or_pos shift with rfl | hpos
  · simp only [Nat.pow_eq, Nat.pow_zero, Nat.div_one, Nat.mul_one] at hround ⊢
    exact Nat.le_trans h hround
  · calc Nat.pow 2 k ≤ 2 ^ (52 + shift) := Nat.pow_le_pow_right (by decide) (by omega)
      _ = 2 ^ 52 * Nat.pow 2 shift := Nat.pow_add _ _ _
      _ ≤ n / Nat.pow 2 shift * Nat.pow 2 shift := by
          apply Nat.mul_le_mul_right
          rw [Nat.le_div_iff_mul_le (powTwo_pos shift)]
          calc 2 ^ 52 * 2 ^ shift = 2 ^ n.log2 := by rw [← Nat.pow_add]; congr 1; omega
            _ ≤ n := Nat.log2_self_le hn
      _ ≤ roundDiv n (Nat.pow 2 shift) * Nat.pow 2 shift := Nat.mul_le_mul_right _ hround

theorem unitsPerOne_le_roundUnits {n : Nat} (h : unitsPerOne ≤ n) : unitsPerOne ≤ roundUnits n 1 := by
  unfold unitsPerOne at h ⊢
  generalize onePlace = place at h ⊢
  exact powTwo_le_roundUnits h

end Number

namespace Double

variable {x y : Double} {k : Nat}

/-- A finite double of fewer than `2 ^ k` units. -/
inductive Below (k : Nat) : Double → Prop
  | finite {s : Bool} {u : Nat} {hu : Holds u} (h : u < Nat.pow 2 k) : Below k (.finite s u hu)

theorem Below.isFinite (h : x.Below k) : x.isFinite = true := by
  cases h
  rfl

theorem below_ofUnits {n d : Nat} (negative : Bool) (hd : 0 < d) (h : n / d < Nat.pow 2 k)
    (hk : k + 1 ≤ limitPlace) : (ofUnits negative n d).Below (k + 1) := by
  have hround : roundUnits n d < Nat.pow 2 (k + 1) := by
    have hle := roundUnits_le n d
    have hpow : Nat.pow 2 (k + 1) = Nat.pow 2 k * 2 := rfl
    omega
  have hlimit : roundUnits n d < unitsLimit := Nat.lt_of_lt_of_le hround (powTwo_le_unitsLimit hk)
  rw [ofUnits, dif_pos hd, dif_pos hlimit]
  exact .finite hround

theorem below_ofInt {i : Int} {j : Nat} (h : i.natAbs < Nat.pow 2 j)
    (hj : j + onePlace + 1 ≤ limitPlace) : (ofInt i).Below (j + onePlace + 1) := by
  have hunits : i.natAbs * unitsPerOne / 1 < Nat.pow 2 (j + onePlace) := by
    rw [Nat.div_one, ← powTwo_mul_unitsPerOne]
    exact Nat.mul_lt_mul_of_pos_right h unitsPerOne_pos
  exact below_ofUnits _ Nat.one_pos hunits hj

/-- A number that is at least one, infinite perhaps. -/
inductive AtLeastOne : Double → Prop
  | infinite (s : Bool) : AtLeastOne (.infinite s)
  | finite {s : Bool} {u : Nat} {hu : Holds u} (h : unitsPerOne ≤ u) : AtLeastOne (.finite s u hu)

theorem atLeastOne_ofNat {n : Nat} (h : 0 < n) : (ofNat n).AtLeastOne := by
  have hunits : unitsPerOne ≤ roundUnits (n * unitsPerOne) 1 :=
    unitsPerOne_le_roundUnits (Nat.le_mul_of_pos_left _ h)
  rw [ofNat, ofInt, Int.natAbs_natCast, ofUnits, dif_pos Nat.one_pos]
  split
  · exact .finite hunits
  · exact .infinite _

/-- A quotient by a number that is at least one is hardly greater than what is divided. -/
theorem Below.div (hx : x.Below k) (hy : y.AtLeastOne) (hk : k + 1 ≤ limitPlace) :
    (x.div y).Below (k + 1) := by
  cases hx with
  | @finite s u _ hu =>
    cases hy with
    | infinite => exact .finite (powTwo_pos (k + 1))
    | @finite t v _ hv =>
      have hpos : 0 < v := Nat.lt_of_lt_of_le unitsPerOne_pos hv
      rw [Double.div, if_neg (Nat.ne_of_gt hpos)]
      refine below_ofUnits _ hpos (Nat.lt_of_le_of_lt ?_ hu) hk
      calc u * unitsPerOne / v ≤ u * v / v := Nat.div_le_div_right (Nat.mul_le_mul_left _ hv)
        _ = u := Nat.mul_div_cancel _ hpos

theorem isFinite_neg (x : Double) : x.neg.isFinite = x.isFinite := by
  cases x <;> rfl

end Double

namespace Json

open Double

theorem Numeral.atLeastOne_powerOfTen (k : Nat) : (powerOfTen k).AtLeastOne :=
  atLeastOne_ofNat (Nat.pow_pos (by decide))

theorem Numeral.isFinite_of_real? {n : Numeral} {x : Double} (h : n.real? = some x) :
    x.isFinite = true := by
  have hsignificand : (Double.ofNat n.significand.1).Below (64 + onePlace + 1) := by
    rw [ofNat]
    refine below_ofInt ?_ (by decide)
    rw [Int.natAbs_natCast]
    exact n.significand_lt
  simp only [real?, Option.map_eq_some_iff] at h
  obtain ⟨y, hy, rfl⟩ := h
  have hfinite : y.isFinite = true := by
    split at hy
    · cases hy
      unfold scaleDown
      split
      · exact (hsignificand.div (atLeastOne_powerOfTen _) (by decide)).isFinite
      · exact ((hsignificand.div (atLeastOne_powerOfTen _) (by decide)).div
          (atLeastOne_powerOfTen _) (by decide)).isFinite
    · unfold scaleUp? at hy
      split at hy
      · exact (Option.filter_eq_some_iff.1 hy).2
      · split at hy
        · rw [← Option.some.inj hy]
          exact hsignificand.isFinite
        · simp only [reduceCtorEq] at hy
  split
  · rw [isFinite_neg, hfinite]
  · exact hfinite

/-- A numeral stands for a finite number. -/
theorem Numeral.isFinite_of_number? {n : Numeral} {x : JsonNumber} (h : n.number? = some x) :
    x.toDouble.isFinite = true := by
  unfold number? at h
  split at h
  · rename_i i hi
    cases h
    have hfits : JsonNumber.FitsWhole i := by
      simp only [whole?, Option.ite_none_right_eq_some, Option.some.injEq] at hi
      obtain ⟨⟨-, -, hfits, -⟩, rfl⟩ := hi
      exact hfits
    obtain ⟨hlow, hhigh⟩ := hfits
    have hbound : i.natAbs < Nat.pow 2 65 := by
      have : Nat.pow 2 65 = 0x20000000000000000 := by decide
      omega
    rw [JsonNumber.toDouble]
    exact (below_ofInt hbound (by decide)).isFinite
  · obtain ⟨y, hy, rfl⟩ := Option.map_eq_some_iff.1 h
    exact isFinite_of_real? hy

end Json

end ClipRelay
