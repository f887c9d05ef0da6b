import ClipRelay.Snapshot

/-!
# Percentages

A percentage is a double from 0 to 100. It is finite, so percentages are ordered like their units
(`Double.le_iff_amount`), and a number that is not NaN is moved among them by a maximum and a
minimum (`Double.amount_clampPercent_notBelow`).
-/

namespace ClipRelay.Double

open Number

theorem le_of_not_lt {x y : Double} (h : x.lt y = false) (hx : x.isNaN = false)
    (hy : y.isNaN = false) : y.le x = true := by
  cases x with
  | nan => cases hx
  | infinite s =>
    cases y with
    | nan => cases hy
    | infinite t => cases s <;> cases t <;> simp_all [le, lt, eq]
    | finite t v _ => simp_all [le, lt, eq]
  | finite s u _ =>
    cases y with
    | nan => cases hy
    | infinite t => simp_all [le, lt, eq]
    | finite t v _ =>
      simp only [lt, decide_eq_false_iff_not, Int.not_lt] at h
      simp only [le, lt, eq, Bool.or_eq_true, decide_eq_true_eq, beq_iff_eq]
      omega

/-- A percentage. -/
def IsPercent (x : Double) : Prop := Double.le 0 x = true ∧ x.le 100 = true

instance (x : Double) : Decidable x.IsPercent := inferInstanceAs (Decidable (_ ∧ _))

theorem isPercent_zero : IsPercent 0 := by decide +kernel

theorem isPercent_hundred : IsPercent 100 := by decide +kernel

theorem isPercent_clampPercent (x : Double) : IsPercent (clampPercent x) := by
  unfold clampPercent
  split
  · exact isPercent_zero
  · rename_i hx
    have hx : x.isNaN = false := Bool.eq_false_iff.2 hx
    unfold clamp
    split
    · exact isPercent_zero
    · rename_i hlow
      split
      · exact isPercent_hundred
      · rename_i hhigh
        exact ⟨le_of_not_lt (Bool.eq_false_iff.2 hlow) hx (by decide +kernel),
          le_of_not_lt (Bool.eq_false_iff.2 hhigh) (by decide +kernel) hx⟩

/-! ## The order of percentages -/

/-- The units of a finite double, with their sign. -/
def amount : Double → Int
  | .finite s u _ => signed s u
  | _ => 0

variable {x y p : Double}

theorem amount_zero : amount 0 = 0 := by decide +kernel

theorem amount_hundred_pos : 0 < amount 100 := by decide +kernel

theorem lt_iff_amount (hx : x.isFinite = true) (hy : y.isFinite = true) :
    x.lt y = true ↔ x.amount < y.amount := by
  cases x <;> cases y <;> simp_all [isFinite, lt, amount]

theorem le_iff_amount (hx : x.isFinite = true) (hy : y.isFinite = true) :
    x.le y = true ↔ x.amount ≤ y.amount := by
  rw [le, Bool.or_eq_true, lt_iff_amount hx hy, Int.le_iff_lt_or_eq]
  cases x <;> cases y <;> simp_all [isFinite, eq, amount]

theorem isNaN_of_isFinite (h : x.isFinite = true) : x.isNaN = false := by
  cases x <;> first | rfl | cases h

theorem IsPercent.isFinite (h : x.IsPercent) : x.isFinite = true := by
  obtain ⟨hlow, hhigh⟩ := h
  cases x with
  | nan => cases hhigh
  | infinite s =>
    cases s with
    | false => exact absurd hhigh (by decide +kernel)
    | true => exact absurd hlow (by decide +kernel)
  | finite => rfl

theorem isPercent_iff_amount (h : x.isFinite = true) :
    x.IsPercent ↔ 0 ≤ x.amount ∧ x.amount ≤ amount 100 := by
  rw [IsPercent, le_iff_amount (by decide +kernel) h, le_iff_amount h (by decide +kernel), amount_zero]

theorem amount_clampPercent (h : x.isFinite = true) :
    (clampPercent x).amount = max 0 (min x.amount (amount 100)) := by
  have hpos := amount_hundred_pos
  have hlow : x.lt 0 = true ↔ x.amount < 0 := by
    rw [lt_iff_amount h (by decide +kernel), amount_zero]
  have hhigh : Double.lt 100 x = true ↔ amount 100 < x.amount :=
    lt_iff_amount (by decide +kernel) h
  rw [clampPercent, isNaN_of_isFinite h, if_neg Bool.false_ne_true, clamp]
  split
  · rename_i hlt
    rw [hlow] at hlt
    rw [amount_zero]
    omega
  · rename_i hlt
    rw [hlow] at hlt
    split
    · rename_i hgt
      rw [hhigh] at hgt
      omega
    · rename_i hgt
      rw [hhigh] at hgt
      omega

/-- A number that is not to fall below a percentage. -/
theorem amount_clampPercent_notBelow (hp : p.IsPercent) (hx : x.isNaN = false) :
    (clampPercent (if x.lt p then p else x)).amount = max p.amount (clampPercent x).amount := by
  have hfin := hp.isFinite
  obtain ⟨hlow, hhigh⟩ := (isPercent_iff_amount hfin).1 hp
  have hself : (clampPercent p).amount = p.amount := by
    rw [amount_clampPercent hfin]
    omega
  cases x with
  | nan => cases hx
  | infinite s =>
    cases s with
    | true =>
      have hlt : (infinite true).lt p = true := by cases p <;> first | rfl | cases hfin
      have hclamp : (clampPercent (infinite true)).amount = 0 := by decide +kernel
      rw [if_pos hlt, hself, hclamp]
      omega
    | false =>
      have hlt : (infinite false).lt p = false := by cases p <;> rfl
      have hclamp : (clampPercent (infinite false)).amount = amount 100 := by decide +kernel
      rw [hlt, if_neg Bool.false_ne_true, hclamp]
      omega
  | finite s u hu =>
    have hxfin : (finite s u hu).isFinite = true := rfl
    have hlt := lt_iff_amount hxfin hfin
    rw [amount_clampPercent hxfin]
    split
    · rename_i h
      rw [hlt] at h
      rw [hself]
      omega
    · rename_i h
      rw [hlt] at h
      rw [amount_clampPercent hxfin]
      omega

end ClipRelay.Double
