import ClipRelay.Clip.CacheName
import ClipRelay.Clip.Command
import ClipRelay.Proofs.Number.Fixed
import ClipRelay.Proofs.Number.Nearest
import ClipRelay.Proofs.Number.Percent

/-!
# Windows that are accepted

A bound that is finite is rounded to hundredths with its sign, and stays finite unless its hundredfold
is too large for a double (`Double.toHundredths_finite`). So a window that is accepted starts at a
finite number, and ends at one or never (`TrimWindow.made_of_make`).

* `TrimWindow.proper_unless_late`: an accepted window is proper exactly when the end that was asked
  for has a hundredfold, and then all that is written of it is a decimal.
* `TrimWindow.late_window`: a window without end that is accepted.
-/

namespace ClipRelay

open Number

/-! ## Hundredths -/

namespace Double

variable {s : Bool} {u n d : Nat} {hu : Holds u} {x : Double}

theorem zero_eq : (0 : Double) = .finite false 0 holds_zero := by decide +kernel

theorem holds_hundred : Holds (100 * unitsPerOne) := by decide +kernel

theorem hundred_eq : (100 : Double) = .finite false (100 * unitsPerOne) holds_hundred := by
  decide +kernel

theorem ofUnits_of_lt (s : Bool) (hd : 0 < d) (h : roundUnits n d < unitsLimit) :
    ofUnits s n d = .finite s (roundUnits n d) (holds_roundUnits hd h) := by
  rw [ofUnits, dif_pos hd, dif_pos h]

theorem ofUnits_of_not_lt (s : Bool) (hd : 0 < d) (h : ¬ roundUnits n d < unitsLimit) :
    ofUnits s n d = .infinite s := by
  rw [ofUnits, dif_pos hd, dif_neg h]

/-- A zero is the same with both signs. -/
theorem signed_of_zero (h : s = true → u = 0) : signed s u = u := by
  cases s with
  | false => rfl
  | true => rw [h rfl]; rfl

theorem signed_eq_of_eq {t : Bool} {v : Nat} {hv : Holds v}
    (h : (Double.finite s u hu).eq (.finite t v hv) = true) : signed s u = signed t v :=
  eq_of_beq h

/-- A number that is not below zero is no negative one, but for the zero with a minus. -/
theorem zero_of_not_lt (h : (Double.finite s u hu).lt 0 = false) (hs : s = true) : u = 0 := by
  subst hs
  rw [zero_eq] at h
  have hnonneg : ¬ signed true u < signed false 0 := of_decide_eq_false h
  simp only [signed, if_true, Bool.false_eq_true, if_false] at hnonneg
  omega

theorem lt_of_not_le {t : Bool} {v : Nat} {hv : Holds v} (hzero : s = true → u = 0)
    (h : (Double.finite t v hv).le (.finite s u hu) = false) : t = false ∧ u < v := by
  obtain ⟨hlt, hne⟩ := Bool.or_eq_false_iff.1 h
  have hge : ¬ signed t v < signed s u := of_decide_eq_false hlt
  have hne' : signed t v ≠ signed s u := beq_eq_false_iff_ne.1 hne
  rw [signed_of_zero hzero] at hge hne'
  cases t with
  | true =>
    simp only [signed, if_true] at hge hne'
    omega
  | false =>
    simp only [signed, Bool.false_eq_true, if_false] at hge hne'
    exact ⟨rfl, by omega⟩

theorem mul_hundred : (Double.finite s u hu).mul 100 = ofUnits s (100 * u) 1 := by
  have hround : roundUnits (u * (100 * unitsPerOne)) unitsPerOne = roundUnits (100 * u) 1 := by
    rw [Nat.mul_left_comm, ← Nat.mul_assoc, roundUnits_mul_self _ unitsPerOne_pos]
  rw [hundred_eq, mul, Bool.bne_false]
  unfold ofUnits
  simp only [hround, unitsPerOne_pos, Nat.one_pos, dite_true]

/-- The nearest whole number lies within half of one, which is less than half the last gap. -/
theorem exists_round_eq : ∃ v hv, (Double.finite s u hu).round = .finite s v hv := by
  have hnear : (2 * u + unitsPerOne) / (2 * unitsPerOne) * (2 * unitsPerOne) ≤ 2 * u + unitsPerOne :=
    Nat.div_mul_le_self _ _
  have hgap : unitsPerOne < 2 * halfGap := by decide +kernel
  have hle := hu.add_gap_le
  rw [Nat.mul_left_comm] at hnear
  generalize hm : (2 * u + unitsPerOne) / (2 * unitsPerOne) * unitsPerOne = m at hnear
  have hlt : roundUnits m 1 < unitsLimit := roundUnits_lt_unitsLimit_iff.2 (by omega)
  refine ⟨_, holds_roundUnits Nat.one_pos hlt, ?_⟩
  rw [round, hm, ofUnits_of_lt s Nat.one_pos hlt]

theorem exists_div_hundred_eq : ∃ v hv, (Double.finite s u hu).div 100 = .finite s v hv := by
  have hpos : 0 < 100 * unitsPerOne := Nat.mul_pos (by decide) unitsPerOne_pos
  have hquotient : u * unitsPerOne / (100 * unitsPerOne) = u / 100 :=
    Nat.mul_div_mul_right u 100 unitsPerOne_pos
  have hlt : roundUnits (u * unitsPerOne) (100 * unitsPerOne) < unitsLimit := by
    have hround := roundUnits_le (u * unitsPerOne) (100 * unitsPerOne)
    have hlimit : 1 < unitsLimit := by decide +kernel
    have hu := hu.1
    omega
  refine ⟨_, holds_roundUnits hpos hlt, ?_⟩
  rw [hundred_eq, div, if_neg (Nat.ne_of_gt hpos), Bool.bne_false, ofUnits_of_lt s hpos hlt]

/-- Rounding to hundredths keeps the sign, and gives a finite number unless the hundredfold is too
large for a double. -/
theorem toHundredths_finite (s : Bool) (hu : Holds u) :
    (100 * u + halfGap < unitsLimit ∧ ∃ v hv, toHundredths (.finite s u hu) = .finite s v hv) ∨
      (unitsLimit ≤ 100 * u + halfGap ∧ toHundredths (.finite s u hu) = .infinite s) := by
  unfold toHundredths
  rw [mul_hundred]
  by_cases hfits : 100 * u + halfGap < unitsLimit
  · refine .inl ⟨hfits, ?_⟩
    rw [ofUnits_of_lt s Nat.one_pos (roundUnits_lt_unitsLimit_iff.2 hfits)]
    obtain ⟨v, hv, hround⟩ := exists_round_eq
    rw [hround]
    exact exists_div_hundred_eq
  · refine .inr ⟨Nat.le_of_not_lt hfits, ?_⟩
    rw [ofUnits_of_not_lt s Nat.one_pos (mt roundUnits_lt_unitsLimit_iff.1 hfits), round, hundred_eq,
      div, Bool.bne_false]

end Double

/-! ## Accepted windows -/

namespace TrimWindow

open Double

/-- A window from zero, of either sign, or from a positive number on. If it is not late, it ends at a
later number. -/
inductive Made (negative : Bool) : Bool → TrimWindow → Prop
  | ends {u v : Nat} {hu : Holds u} {hv : Holds v} (hzero : negative = true → u = 0) (hlt : u < v) :
    Made negative false ⟨.finite negative u hu, .finite false v hv⟩
  | endless {u : Nat} {hu : Holds u} (hzero : negative = true → u = 0) :
    Made negative true ⟨.finite negative u hu, .infinite false⟩

variable {start stop : Double} {start? stop? : Option Double} {v w : TrimWindow}
  {negative late : Bool}

theorem of_make_eq_ok (h : make start stop = .ok w) :
    start.isFinite = true ∧ stop.isFinite = true ∧ (toHundredths start).lt 0 = false ∧
      (toHundredths stop).le (toHundredths start) = false ∧
      w = ⟨toHundredths start, toHundredths stop⟩ := by
  unfold make at h
  split at h
  · cases h
  · rename_i hfinite
    simp only [Bool.or_eq_true, Bool.not_eq_true', not_or, Bool.not_eq_false] at hfinite
    simp only at h
    split at h
    · cases h
    · rename_i hlow
      split at h
      · cases h
      · rename_i horder
        cases h
        exact ⟨hfinite.1, hfinite.2, Bool.eq_false_iff.2 hlow, Bool.eq_false_iff.2 horder, rfl⟩

/-- The hundredfold of a number is too large for a double. -/
def isLate (stop : Double) : Bool := (unitsLimit : Int) ≤ 100 * stop.amount + halfGap

theorem isLate_finite {n : Nat} {hn : Holds n} :
    isLate (.finite false n hn) = decide (unitsLimit ≤ 100 * n + halfGap) := by
  simp only [isLate, amount, signed, Bool.false_eq_true, if_false]
  exact decide_eq_decide.2 (by omega)

theorem made_of_make (h : make start stop = .ok w) : Made start.isNegative (isLate stop) w := by
  obtain ⟨hstart, hstop, hlow, horder, rfl⟩ := of_make_eq_ok h
  cases start with
  | nan => cases hstart
  | infinite => cases hstart
  | finite s u hu =>
  cases stop with
  | nan => cases hstop
  | infinite => cases hstop
  | finite t v hv =>
  have hstarts := toHundredths_finite s hu
  have hstops := toHundredths_finite t hv
  generalize toHundredths (.finite s u hu) = a at *
  generalize toHundredths (.finite t v hv) = b at *
  rcases hstarts with ⟨-, u', hu', rfl⟩ | ⟨-, rfl⟩
  · have hzero : s = true → u' = 0 := zero_of_not_lt hlow
    rcases hstops with ⟨hfits, v', hv', rfl⟩ | ⟨hover, rfl⟩
    · obtain ⟨rfl, hlt⟩ := lt_of_not_le hzero horder
      rw [isLate_finite, decide_eq_false (Nat.not_le_of_lt hfits)]
      exact .ends hzero hlt
    · cases t with
      | true => cases horder
      | false =>
        rw [isLate_finite, decide_eq_true hover]
        exact .endless hzero
  · -- Nothing is greater than an infinite number.
    cases s with
    | true =>
      rw [zero_eq] at hlow
      cases hlow
    | false => rcases hstops with ⟨-, v', hv', rfl⟩ | ⟨-, rfl⟩ <;> cases t <;> cases horder

/-! ## Proper windows -/

/-- Both bounds are finite, in order and not negative, and so is the time between them. -/
structure IsProper (w : TrimWindow) : Prop where
  start_finite : w.start.isFinite = true
  stop_finite : w.stop.isFinite = true
  start_nonneg : Double.le 0 w.start = true
  start_lt_stop : w.start.lt w.stop = true
  duration_finite : w.duration.isFinite = true
  duration_pos : Double.lt 0 w.duration = true

theorem Made.start_spec (h : Made negative late w) :
    ∃ u hu, w.start = .finite negative u hu ∧ (negative = true → u = 0) := by
  cases h with
  | ends hzero => exact ⟨_, _, rfl, hzero⟩
  | endless hzero => exact ⟨_, _, rfl, hzero⟩

theorem Made.start_nonneg (h : Made negative late w) : Double.le 0 w.start = true := by
  obtain ⟨u, hu, hstart, hzero⟩ := h.start_spec
  rw [hstart, le_iff_amount (by decide +kernel) rfl, amount_zero, amount, signed_of_zero hzero]
  exact Int.natCast_nonneg u

theorem Made.start_lt_stop (h : Made negative late w) : w.start.lt w.stop = true := by
  cases h with
  | ends hzero hlt =>
    rw [lt_iff_amount rfl rfl, amount, signed_of_zero hzero]
    exact Int.ofNat_lt.2 hlt
  | endless => rfl

/-- The time between two numbers is at most the later one, so it is no larger than a double. -/
theorem duration_of_lt {u v : Nat} {hu : Holds u} {hv : Holds v} (hzero : negative = true → u = 0)
    (hlt : u < v) : ∃ n hn, 0 < n ∧
      duration ⟨.finite negative u hu, .finite false v hv⟩ = .finite false n hn := by
  have hfits : roundUnits (v - u) 1 < unitsLimit := by
    rw [roundUnits_lt_unitsLimit_iff]
    have hgap := hv.add_gap_le
    have hpos := halfGap_pos
    omega
  refine ⟨_, holds_roundUnits Nat.one_pos hfits, roundUnits_pos (by omega), ?_⟩
  have hneg : signed (!negative) u = -(u : Int) := by
    cases negative with
    | false => rfl
    | true => rw [hzero rfl]; rfl
  have hsum : signed false v + signed (!negative) u = ((v - u : Nat) : Int) := by
    rw [hneg]
    simp only [signed, Bool.false_eq_true, if_false]
    omega
  have hne : ((v - u : Nat) : Int) ≠ 0 := by omega
  have hpos : ¬ ((v - u : Nat) : Int) < 0 := by omega
  simp only [duration, sub, neg, add, hsum, hne, hpos, if_false, decide_false, Int.natAbs_natCast]
  exact ofUnits_of_lt false Nat.one_pos hfits

theorem Made.isProper_iff (h : Made negative late w) : w.IsProper ↔ late = false := by
  have hnonneg := h.start_nonneg
  have horder := h.start_lt_stop
  cases h with
  | ends hzero hlt =>
    obtain ⟨n, hn, hpos, hduration⟩ := duration_of_lt hzero hlt
    refine ⟨fun _ => rfl, fun _ => ⟨rfl, rfl, hnonneg, horder, ?_, ?_⟩⟩
    · rw [hduration]
      rfl
    · rw [hduration, lt_iff_amount (by decide +kernel) rfl, amount_zero]
      exact Int.ofNat_lt.2 hpos
  | endless =>
    constructor
    · intro hproper
      cases hproper.stop_finite
    · intro hlate
      cases hlate

theorem Made.endless_of_late (h : Made negative true w) :
    w.stop = .infinite false ∧ w.duration = .infinite false := by
  cases h
  exact ⟨rfl, rfl⟩

/-- All that is written of a window is a decimal: the times in the call of an encoder and the bounds
in the name of a clip. The minus is that of a negative zero. -/
structure IsWritten (w : TrimWindow) : Prop where
  command : ∀ source output fps, ∃ seek length rest,
    (ClipTask.command ⟨source, output, w, fps⟩).before = ["-ss", seek] ∧
    (ClipTask.command ⟨source, output, w, fps⟩).after = "-t" :: length :: rest ∧
    IsDecimal w.start.isNegative 3 seek ∧ IsDecimal false 3 length
  name : ∀ source, ∃ first last,
    cacheName source w = CacheName.stemOf source ++ "_" ++ CacheName.hashOf source ++ "_" ++ first ++
      "_" ++ last ++ "." ++ CacheName.extensionOf source ∧
    IsDecimal w.start.isNegative 2 first ∧ IsDecimal false 2 last

theorem Made.isWritten (h : Made negative false w) : w.IsWritten := by
  cases h with
  | ends hzero hlt =>
    obtain ⟨n, hn, -, hduration⟩ := duration_of_lt hzero hlt
    constructor
    · intro source output fps
      refine ⟨_, _, _, rfl, rfl, isDecimal_fixed rfl (by decide), ?_⟩
      rw [hduration]
      exact isDecimal_fixed rfl (by decide)
    · intro source
      exact ⟨_, _, rfl, isDecimal_fixed rfl (by decide), isDecimal_fixed rfl (by decide)⟩

/-! ## The windows of requests -/

theorem resolve_eq_some_iff : resolve start? stop? = .ok (some w) ↔
    ∃ stop, stop? = some stop ∧ make (start?.getD 0) stop = .ok w := by
  have hmap : ∀ made : Except WindowFault TrimWindow, made.map some = .ok (some w) ↔ made = .ok w := by
    intro made
    cases made <;> simp [Except.map]
  cases start? <;> cases stop? <;> simp [resolve, hmap]

/-- A request gets the window that its bounds make, a missing start being zero. The window starts at
a finite number that is not negative and ends behind it. It is proper unless a hundred times the end
that was asked for is too large for a double, which takes an end of more than 1.79e306; otherwise it
never ends. What is written of a proper window is a decimal. -/
theorem proper_unless_late (start? stop? : Option Double) (start stop : Double) (w : TrimWindow) :
    (resolve start? stop? = .ok (some w) ↔
      ∃ b, stop? = some b ∧ make (start?.getD 0) b = .ok w) ∧
    (make start stop = .ok w →
      w.start.isFinite = true ∧ Double.le 0 w.start = true ∧ w.start.lt w.stop = true ∧
      (w.IsProper ↔ 100 * stop.amount + halfGap < unitsLimit) ∧ (w.IsProper → w.IsWritten) ∧
      (¬ w.IsProper → w.stop = .infinite false ∧ w.duration = .infinite false)) := by
  refine ⟨resolve_eq_some_iff, fun h => ?_⟩
  have hmade := made_of_make h
  have hlate : isLate stop = false ↔ 100 * stop.amount + halfGap < unitsLimit := by
    rw [isLate, decide_eq_false_iff_not, Int.not_le]
  refine ⟨?_, hmade.start_nonneg, hmade.start_lt_stop, hmade.isProper_iff.trans hlate, fun hproper => ?_,
    fun hproper => ?_⟩
  · obtain ⟨u, hu, hstart, -⟩ := hmade.start_spec
    rw [hstart]
    rfl
  · rw [hmade.isProper_iff.1 hproper] at hmade
    exact hmade.isWritten
  · have hends : isLate stop = true := by simpa using mt hmade.isProper_iff.2 hproper
    rw [hends] at hmade
    exact hmade.endless_of_late

/-- Half a second to a second and a quarter. -/
def shortWindow : TrimWindow := ⟨.ofPlaces 5 1, .ofPlaces 125 2⟩

theorem proper_unless_late_sample :
    make (.ofPlaces 504 3) (.ofPlaces 1251 3) = .ok shortWindow ∧ shortWindow.IsProper ∧
      shortWindow.IsWritten := by
  have hmake : make (.ofPlaces 504 3) (.ofPlaces 1251 3) = .ok shortWindow := by decide +kernel
  obtain ⟨-, -, -, hproper, hwritten, -⟩ :=
    (proper_unless_late none none (.ofPlaces 504 3) (.ofPlaces 1251 3) shortWindow).2 hmake
  have h := hproper.2 (by decide +kernel)
  exact ⟨hmake, h, hwritten h⟩

/-- A window that is accepted and never ends. -/
theorem late_window :
    ¬ ∀ (start stop : Double) (w : TrimWindow), make start stop = .ok w → w.IsProper := by
  intro h
  have hmake : make 0 (.ofNat (Nat.pow 10 308)) = .ok ⟨0, .infinite false⟩ := by decide +kernel
  cases (h _ _ _ hmake).stop_finite

end TrimWindow

end ClipRelay
