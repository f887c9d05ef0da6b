/-!
# Rounding a quotient to the nearest natural number

`roundDiv n d` is the natural number nearest to `n / d`; a quotient half way between two neighbours
goes to the even one. The lemmas `roundDiv_le` and `div_le_roundDiv` bound it from both sides.
-/

namespace ClipRelay.Number

/-- The natural number nearest to `n / d`, a tie going to the even neighbour. -/
def roundDiv (n d : Nat) : Nat :=
  if 2 * (n % d) < d then n / d
  else if d < 2 * (n % d) then n / d + 1
  else n / d + n / d % 2

theorem div_le_roundDiv (n d : Nat) : n / d ≤ roundDiv n d := by
  unfold roundDiv
  split
  · exact Nat.le_refl _
  · split <;> omega

theorem roundDiv_le_div_add_one (n d : Nat) : roundDiv n d ≤ n / d + 1 := by
  unfold roundDiv
  split
  · omega
  · split <;> omega

/-- A quotient below `k` rounds to at most `k`. -/
theorem roundDiv_le {n d k : Nat} (hd : 0 < d) (h : n < k * d) : roundDiv n d ≤ k := by
  have h1 : n / d < k := (Nat.div_lt_iff_lt_mul hd).2 h
  have h2 := roundDiv_le_div_add_one n d
  omega

end ClipRelay.Number
