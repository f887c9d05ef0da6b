import ClipRelay.Proofs.Number.Finite

/-!
# The nearest double

What `roundUnits` does where its result is known exactly.

* `roundUnits_mul_right`: it depends on the quotient alone.
* `roundUnits_lt_powTwo_iff`: a whole number is rounded up to a power of two from half a gap below it
  on, so one is too large for a double from half a gap below the limit on.
* `Holds.add_gap_le`: the largest double lies one gap below the limit.
-/

namespace ClipRelay.Number

variable {n d c k p u : Nat}

/-! ## Quotients -/

theorem roundDiv_mul_right (n d : Nat) (hc : 0 < c) : roundDiv (n * c) (d * c) = roundDiv n d := by
  have hquotient : n * c / (d * c) = n / d := Nat.mul_div_mul_right n d hc
  have hremainder : n * c % (d * c) = n % d * c := Nat.mul_mod_mul_right c n d
  unfold roundDiv
  rw [hquotient, hremainder, ← Nat.mul_assoc]
  simp only [Nat.mul_lt_mul_right hc]

/-- A quotient with an even divisor is rounded to less than an even number if half the divisor more
is not enough for that number. The tie below it is the one that goes up. -/
theorem roundDiv_lt_iff (hd : 0 < d) (hk : k % 2 = 0) :
    roundDiv n (2 * d) < k ↔ n + d < k * (2 * d) := by
  have hsplit : 2 * d * (n / (2 * d)) + n % (2 * d) = n := Nat.div_add_mod n (2 * d)
  have hrest : n % (2 * d) < 2 * d := Nat.mod_lt n (by omega)
  rw [← Nat.div_lt_iff_lt_mul (by omega)]
  unfold roundDiv
  generalize n / (2 * d) = q at hsplit ⊢
  generalize n % (2 * d) = r at hsplit hrest ⊢
  have hhalf : (n + d) / (2 * d) = q + (r + d) / (2 * d) := by
    rw [← hsplit, Nat.add_assoc, Nat.mul_add_div (by omega)]
  rw [hhalf]
  by_cases hr : r < d
  · rw [if_pos (by omega), Nat.div_eq_of_lt (by omega), Nat.add_zero]
  · have hone : (r + d) / (2 * d) = 1 := Nat.div_eq_of_lt_le (by omega) (by omega)
    rw [if_neg (by omega), hone]
    split
    · exact Iff.rfl
    · omega

/-! ## Units -/

/-- Rounding depends on the quotient alone. -/
theorem roundUnits_mul_right (n d : Nat) (hc : 0 < c) : roundUnits (n * c) (d * c) = roundUnits n d := by
  simp only [roundUnits, Nat.mul_div_mul_right n d hc]
  rw [Nat.mul_right_comm d c, roundDiv_mul_right n _ hc]

theorem roundUnits_mul_self (k : Nat) (hc : 0 < c) : roundUnits (k * c) c = roundUnits k 1 := by
  have h := roundUnits_mul_right k 1 hc
  rwa [Nat.one_mul] at h

theorem roundUnits_pos (h : 0 < n) : 0 < roundUnits n 1 := powTwo_le_roundUnits (k := 0) h

/-- A whole number is rounded up to a power of two from half a gap below it on. -/
theorem roundUnits_lt_powTwo_iff :
    roundUnits n 1 < Nat.pow 2 (p + 54) ↔ n + Nat.pow 2 p < Nat.pow 2 (p + 54) := by
  have hdouble : Nat.pow 2 (p + 54) = 2 * Nat.pow 2 (p + 53) := Nat.pow_succ'
  have hgap : Nat.pow 2 p ≤ Nat.pow 2 (p + 53) := Nat.pow_le_pow_right (by decide) (by omega)
  by_cases hhigh : Nat.pow 2 (p + 54) ≤ n
  · have hround := powTwo_le_roundUnits hhigh
    omega
  by_cases hlow : n < Nat.pow 2 (p + 53)
  · have hround := roundUnits_le n 1
    rw [Nat.div_one] at hround
    omega
  -- Here the numbers that doubles hold are the multiples of two gaps.
  have hlog : n.log2 = p + 53 := by
    have hne : n ≠ 0 := by have := powTwo_pos (p + 53); omega
    exact (Nat.log2_eq_iff hne).2 ⟨Nat.le_of_not_lt hlow, Nat.lt_of_not_le hhigh⟩
  have hshift : Nat.pow 2 (p + 53 - 52) = 2 * Nat.pow 2 p := Nat.pow_succ'
  have hlimit : Nat.pow 2 (p + 54) = Nat.pow 2 53 * (2 * Nat.pow 2 p) := by
    rw [← hshift]
    exact (Nat.pow_add 2 53 (p + 1)).symm ▸ congrArg (Nat.pow 2) (by omega)
  simp only [roundUnits, Nat.div_one, Nat.one_mul, hlog]
  rw [hshift, hlimit, Nat.mul_lt_mul_right (by have := powTwo_pos p; omega)]
  exact roundDiv_lt_iff (powTwo_pos p) (by decide)

/-- A number with at most 53 significant bits that is below a power of two is a gap below it. -/
theorem add_gap_le_of_dvd (h : Nat.pow 2 (u.log2 - 52) ∣ u) (hlt : u < Nat.pow 2 (p + 54)) :
    u + 2 * Nat.pow 2 p ≤ Nat.pow 2 (p + 54) := by
  have hdouble : Nat.pow 2 (p + 54) = 2 * Nat.pow 2 (p + 53) := Nat.pow_succ'
  have hgap : Nat.pow 2 (p + 1) ≤ Nat.pow 2 (p + 53) := Nat.pow_le_pow_right (by decide) (by omega)
  have hsucc : Nat.pow 2 (p + 1) = 2 * Nat.pow 2 p := Nat.pow_succ'
  by_cases hlow : u < Nat.pow 2 (p + 53)
  · omega
  have hlog : u.log2 = p + 53 := by
    have hne : u ≠ 0 := by have := powTwo_pos (p + 53); omega
    exact (Nat.log2_eq_iff hne).2 ⟨Nat.le_of_not_lt hlow, hlt⟩
  rw [hlog, show p + 53 - 52 = p + 1 by omega] at h
  have hlimit : Nat.pow 2 (p + 1) ∣ Nat.pow 2 (p + 54) := Nat.pow_dvd_pow 2 (by omega)
  rw [← hsucc]
  obtain ⟨k, rfl⟩ := h
  obtain ⟨m, hm⟩ := hlimit
  rw [hm] at hlt ⊢
  have hkm : k + 1 ≤ m := Nat.lt_of_mul_lt_mul_left hlt
  exact Nat.mul_le_mul_left _ hkm

/-! ## Doubles -/

/-- Half the gap between the largest double and the limit. -/
def halfGap : Nat := Nat.pow 2 (limitPlace - 54)

theorem halfGap_pos : 0 < halfGap := by
  unfold halfGap
  apply powTwo_pos

theorem limitPlace_eq : limitPlace = limitPlace - 54 + 54 := (Nat.sub_add_cancel (by decide)).symm

theorem roundUnits_lt_unitsLimit_iff : roundUnits n 1 < unitsLimit ↔ n + halfGap < unitsLimit := by
  have hplace := limitPlace_eq
  unfold unitsLimit halfGap
  generalize limitPlace - 54 = place at hplace ⊢
  rw [hplace]
  exact roundUnits_lt_powTwo_iff

/-- The largest double lies one gap below the limit. -/
theorem Holds.add_gap_le (h : Holds u) : u + 2 * halfGap ≤ unitsLimit := by
  obtain ⟨hlt, hdvd⟩ := h
  have hplace := limitPlace_eq
  unfold unitsLimit at hlt ⊢
  unfold halfGap
  generalize limitPlace - 54 = place at hplace ⊢
  rw [hplace] at hlt ⊢
  exact add_gap_le_of_dvd hdvd hlt

end ClipRelay.Number
