import ClipRelay.Json.Printer
import ClipRelay.Json.Reader
import ClipRelay.Proofs.Number.Fixed
import ClipRelay.Proofs.Number.Percent
import Mathlib.Tactic.IntervalCases

/-!
# Numbers in JSON texts

A number ends where the text goes on with something that is no part of a number (`Ends`), so a
number that is read alone is read in any such place (`number_append`). Whole numbers of 64 bits are
read as they are written (`readsBack_whole`). The printed digits of a double may be read as one of
its neighbours, so `ReadsBack` is a property of a number.
-/

namespace ClipRelay.Json.Read

open Text Number

/-- Nothing follows that a number could go on with. -/
def Ends : List Glyph → Prop
  | some c :: _ => c.isDigit = false ∧ c ≠ '.' ∧ c ≠ 'e' ∧ c ≠ 'E'
  | _ => True

theorem ends_nil : Ends [] := trivial

/-! ## Readings in steps -/

section

variable {α β : Type}

theorem bind_eq_ok {x : Except Fault α} {f : α → Except Fault β} {b : β} :
    x >>= f = .ok b ↔ ∃ a, x = .ok a ∧ f a = .ok b := by
  cases x <;> simp [bind, Except.bind]

@[simp]
theorem pure_eq_ok (a : α) : (pure a : Except Fault α) = .ok a := rfl

@[simp]
theorem ok_bind (a : α) (f : α → Except Fault β) : Except.ok a >>= f = f a := rfl

end

/-! ## Numbers and what follows them -/

variable {g r rest : List Glyph} {ds : List Char}

theorem spanDigits_of_ends (h : Ends g) : spanDigits g = ([], g) := by
  cases g with
  | nil => rfl
  | cons x g =>
    cases x with
    | none => rfl
    | some c => simp [spanDigits, h.1]

theorem spanDigits_append (g : List Glyph) (h : Ends rest) :
    spanDigits (g ++ rest) = ((spanDigits g).1, (spanDigits g).2 ++ rest) := by
  induction g with
  | nil => exact spanDigits_of_ends h
  | cons x g ih =>
    cases x with
    | none => rfl
    | some c =>
      cases hc : c.isDigit with
      | false => simp [spanDigits, hc]
      | true => simp [spanDigits, hc, ih]

/-- A whole part is a zero alone, or digits that start with another one. -/
theorem wholePart_eq_ok_iff : wholePart g = .ok (ds, r) ↔
    spanDigits g = (ds, r) ∧ ds ≠ [] ∧ ∀ c cs, ds ≠ '0' :: c :: cs := by
  unfold wholePart
  split
  · rename_i heq
    simp only [reduceCtorEq, heq, Prod.mk.injEq, false_iff]
    rintro ⟨⟨rfl, -⟩, hne, -⟩
    exact hne rfl
  · rename_i heq
    simp only [reduceCtorEq, heq, Prod.mk.injEq, false_iff]
    rintro ⟨⟨rfl, -⟩, -, hzero⟩
    exact hzero _ _ rfl
  · rename_i hnil hzero
    rw [Except.ok.injEq]
    refine ⟨fun h => ⟨h, ?_, ?_⟩, And.left⟩
    · rintro rfl
      exact hnil _ h
    · rintro c cs rfl
      exact hzero _ _ _ h

theorem wholePart_append (h : Ends rest) (hg : wholePart g = .ok (ds, r)) :
    wholePart (g ++ rest) = .ok (ds, r ++ rest) := by
  rw [wholePart_eq_ok_iff] at hg ⊢
  refine ⟨?_, hg.2⟩
  rw [spanDigits_append g h, hg.1]

theorem fractionPart_of_ends (h : Ends g) : fractionPart g = .ok ([], g) := by
  unfold fractionPart
  split
  · exact absurd rfl h.2.1
  · rfl

theorem fractionPart_append (h : Ends rest) (hg : fractionPart g = .ok (ds, r)) :
    fractionPart (g ++ rest) = .ok (ds, r ++ rest) := by
  unfold fractionPart at hg
  split at hg
  · rename_i g
    simp only [List.cons_append, fractionPart, spanDigits_append g h]
    generalize spanDigits g = span at hg ⊢
    obtain ⟨_ | ⟨d, ds'⟩, r'⟩ := span
    · cases hg
    · cases hg
      rfl
  · rename_i hpoint
    cases hg
    cases g with
    | nil => exact fractionPart_of_ends h
    | cons x g =>
      unfold fractionPart
      split
      · rename_i heq
        cases heq
        exact absurd rfl (hpoint g)
      · rfl

theorem exponentDigits_append {negative : Bool} {e : Option Int} (h : Ends rest)
    (hg : exponentDigits negative g = .ok (e, r)) :
    exponentDigits negative (g ++ rest) = .ok (e, r ++ rest) := by
  unfold exponentDigits at hg ⊢
  rw [spanDigits_append g h]
  generalize spanDigits g = span at hg ⊢
  obtain ⟨_ | ⟨d, ds⟩, r'⟩ := span
  · cases hg
  · cases hg
    rfl

theorem exponentPart_of_ends (h : Ends g) : exponentPart g = .ok (none, g) := by
  unfold exponentPart
  split
  · simp [h.2.2.1, h.2.2.2]
  · rfl

theorem exponentPart_append {e : Option Int} (h : Ends rest) (hg : exponentPart g = .ok (e, r)) :
    exponentPart (g ++ rest) = .ok (e, r ++ rest) := by
  cases g with
  | nil =>
    cases hg
    exact exponentPart_of_ends h
  | cons x g =>
    cases x with
    | none =>
      cases hg
      rfl
    | some c =>
      simp only [exponentPart, List.cons_append] at hg ⊢
      split at hg
      · rename_i hc
        rw [if_pos hc]
        split at hg
        · exact exponentDigits_append h hg
        · exact exponentDigits_append h hg
        · rename_i hminus hplus
          cases g with
          | nil => cases hg
          | cons y g =>
            have := exponentDigits_append h hg
            rw [List.cons_append] at this ⊢
            split
            · rename_i heq
              cases heq
              exact absurd rfl (hminus g)
            · rename_i heq
              cases heq
              exact absurd rfl (hplus g)
            · exact this
      · rename_i hc
        cases hg
        rw [if_neg hc, List.cons_append]

/-- A numeral behind its sign. -/
def unsigned (negative : Bool) (g : List Glyph) : Except Fault (Numeral × List Glyph) := do
  let (whole, g) ← wholePart g
  let (fraction, g) ← fractionPart g
  let (exponent, g) ← exponentPart g
  return (⟨negative, whole, fraction, exponent⟩, g)

variable {negative : Bool} {n : Numeral}

theorem unsigned_eq_ok_iff : unsigned negative g = .ok (n, r) ↔
    n.negative = negative ∧ ∃ g₁ g₂, wholePart g = .ok (n.whole, g₁) ∧
      fractionPart g₁ = .ok (n.fraction, g₂) ∧ exponentPart g₂ = .ok (n.exponent, r) := by
  obtain ⟨negative', whole', fraction', exponent'⟩ := n
  simp only [unsigned, bind_eq_ok, Prod.exists]
  constructor
  · rintro ⟨whole, g₁, hwhole, fraction, g₂, hfraction, exponent, r', hexponent, h⟩
    cases h
    exact ⟨rfl, g₁, g₂, hwhole, hfraction, hexponent⟩
  · rintro ⟨rfl, g₁, g₂, hwhole, hfraction, hexponent⟩
    exact ⟨_, g₁, hwhole, _, g₂, hfraction, _, r, hexponent, rfl⟩

theorem unsigned_append (h : Ends rest) (hg : unsigned negative g = .ok (n, r)) :
    unsigned negative (g ++ rest) = .ok (n, r ++ rest) := by
  rw [unsigned_eq_ok_iff] at hg ⊢
  obtain ⟨hsign, g₁, g₂, hwhole, hfraction, hexponent⟩ := hg
  exact ⟨hsign, g₁ ++ rest, g₂ ++ rest, wholePart_append h hwhole, fractionPart_append h hfraction,
    exponentPart_append h hexponent⟩

theorem numeral_of_minus (g : List Glyph) : numeral (some '-' :: g) = unsigned true g := rfl

theorem numeral_of_ne_minus (h : ∀ g', g ≠ some '-' :: g') : numeral g = unsigned false g := by
  unfold numeral
  split
  rename_i heq
  split at heq
  · rename_i g'
    exact absurd rfl (h g')
  · cases heq
    rfl

theorem numeral_append (h : Ends rest) (hg : numeral g = .ok (n, r)) :
    numeral (g ++ rest) = .ok (n, r ++ rest) := by
  by_cases hminus : ∃ g', g = some '-' :: g'
  · obtain ⟨g', rfl⟩ := hminus
    exact unsigned_append h hg
  · rw [numeral_of_ne_minus (fun g' hg' => hminus ⟨g', hg'⟩)] at hg
    have hg' := unsigned_append h hg
    rwa [← numeral_of_ne_minus] at hg'
    rintro g' heq
    cases g with
    | nil => cases hg
    | cons x g =>
      cases heq
      exact hminus ⟨g, rfl⟩

theorem number_append {n : JsonNumber} (h : Ends rest) (hg : number g = .ok (n, r)) :
    number (g ++ rest) = .ok (n, r ++ rest) := by
  simp only [number, bind_eq_ok, Prod.exists] at hg ⊢
  obtain ⟨m, r', hm, hn⟩ := hg
  refine ⟨m, r' ++ rest, numeral_append h hm, ?_⟩
  split at hn
  · cases hn
    rfl
  · cases hn

/-! ## Numbers that are read as they are written -/

/-- The text of a number is read as that number. -/
def ReadsBack (n : JsonNumber) : Prop :=
  number ((numberChars n).map some) = .ok (n, [])

instance (n : JsonNumber) : Decidable (ReadsBack n) :=
  inferInstanceAs (Decidable (_ = _))

theorem ReadsBack.number_append {n : JsonNumber} (hn : ReadsBack n) (h : Ends rest) :
    number ((numberChars n).map some ++ rest) = .ok (n, rest) :=
  Read.number_append h hn

theorem ofDigits_digits (k : Nat) : ofDigits (digits k) = k :=
  Nat.ofDigitChars_toDigits (by decide) (by decide)

/-- A number that is not zero has no zero in front. -/
theorem digits_ne_zero_cons {k : Nat} (h : 0 < k) (cs : List Char) : digits k ≠ '0' :: cs := by
  induction k using Nat.strongRecOn generalizing cs with
  | ind k ih =>
    rw [digits, Nat.toDigits_eq_if (by decide)]
    split
    · rename_i hlt
      intro heq
      have hdigit : k.digitChar = '0' := (List.cons.inj heq).1
      interval_cases k <;> revert hdigit <;> decide
    · rename_i hge
      cases hdigits : digits (k / 10) with
      | nil => exact absurd hdigits Nat.toDigits_ne_nil
      | cons d ds =>
        rw [digits] at hdigits
        rw [hdigits]
        intro heq
        cases heq
        exact ih (k / 10) (by omega) (by omega) ds hdigits

theorem spanDigits_map (hds : ∀ d ∈ ds, d.isDigit = true) :
    spanDigits (ds.map some) = (ds, []) := by
  induction ds with
  | nil => rfl
  | cons d ds ih =>
    simp [spanDigits, hds d List.mem_cons_self, ih fun d hd => hds d (List.mem_cons_of_mem _ hd)]

theorem wholePart_digits (k : Nat) : wholePart ((digits k).map some) = .ok (digits k, []) := by
  rw [wholePart_eq_ok_iff]
  refine ⟨spanDigits_map fun d => isDigit_of_mem_digits, Nat.toDigits_ne_nil, fun c cs heq => ?_⟩
  rcases Nat.eq_zero_or_pos k with rfl | hk
  · cases heq
  · exact digits_ne_zero_cons hk _ heq

theorem numeral_intChars (i : Int) :
    numeral ((intChars i).map some) = .ok (⟨i < 0, digits i.natAbs, [], none⟩, []) := by
  have hunsigned : ∀ negative, unsigned negative ((digits i.natAbs).map some) =
      .ok (⟨negative, digits i.natAbs, [], none⟩, []) := fun negative =>
    unsigned_eq_ok_iff.2 ⟨rfl, [], [], wholePart_digits _, rfl, rfl⟩
  unfold intChars Double.signChars
  by_cases hi : i < 0
  · simp [hi, numeral_of_minus, hunsigned]
  · simp only [hi, decide_false, Bool.false_eq_true, if_false, List.nil_append]
    rw [numeral_of_ne_minus, hunsigned]
    intro g heq
    have hmem : '-' ∈ digits i.natAbs := by
      have : some '-' ∈ (digits i.natAbs).map some := heq ▸ List.mem_cons_self
      simpa using this
    exact absurd (isDigit_of_mem_digits hmem) (by decide)

/-- A whole number of 64 bits is read as it is written. -/
theorem readsBack_whole {i : Int} (h : JsonNumber.FitsWhole i) : ReadsBack (.whole i) := by
  have hvalue : (if i < 0 then -(i.natAbs : Int) else i.natAbs) = i := by split <;> omega
  have hzero : ¬ (i < 0 ∧ i.natAbs = 0) := by omega
  have hwhole : Numeral.whole? ⟨i < 0, digits i.natAbs, [], none⟩ = some i := by
    simp only [Numeral.whole?, ofDigits_digits, decide_eq_true_eq, hvalue]
    rw [if_pos ⟨rfl, trivial, h, hzero⟩]
  unfold ReadsBack number numberChars
  rw [numeral_intChars, ok_bind]
  simp only [Numeral.number?, hwhole]
  rfl

end ClipRelay.Json.Read
