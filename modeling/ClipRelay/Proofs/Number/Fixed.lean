import ClipRelay.Number.Decimal
import Mathlib.Data.Nat.Digits.Defs

/-!
# Numbers with fixed places

* `Double.isDecimal_fixed`: a finite double is written as digits, a point and as many digits as there
  are places, with a minus in front when its sign is negative, that of a zero as well.
* `IsDecimal.isNegative_unique`: so the text tells the sign.
* `Double.notMem_fixed`: what stands neither in a decimal nor in one of the words for the other doubles
  stands in no text of a double.
-/

namespace ClipRelay

open Number

theorem Number.isDigit_of_mem_digits {n : Nat} {c : Char} (h : c ∈ digits n) : c.isDigit = true :=
  Nat.isDigit_of_mem_toDigits (by decide) (by decide) h

/-- A decimal with so many places: digits, a point, digits, and a minus in front if it is negative. -/
def IsDecimal (negative : Bool) (places : Nat) (text : String) : Prop :=
  ∃ whole fraction, text.toList = Double.signChars negative ++ pointed whole fraction ∧
    whole ≠ [] ∧ fraction.length = places ∧ ∀ c ∈ whole ++ fraction, c.isDigit = true

/-- A minus is no digit. -/
theorem IsDecimal.isNegative_unique {negative negative' : Bool} {places places' : Nat} {text : String}
    (h : IsDecimal negative places text) (h' : IsDecimal negative' places' text) :
    negative = negative' := by
  have hminus : ∀ {whole fraction rest : List Char}, whole ≠ [] →
      (∀ c ∈ whole ++ fraction, c.isDigit = true) → '-' :: rest ≠ pointed whole fraction := by
    intro whole fraction rest hne hdigits heq
    cases whole with
    | nil => exact hne rfl
    | cons c whole =>
      obtain ⟨rfl, -⟩ := List.cons.inj heq
      exact absurd (hdigits '-' (by simp)) (by decide)
  obtain ⟨whole, fraction, htext, hne, -, hdigits⟩ := h
  obtain ⟨whole', fraction', htext', hne', -, hdigits'⟩ := h'
  rw [htext] at htext'
  cases negative <;> cases negative'
  · rfl
  · exact absurd htext'.symm (hminus hne hdigits)
  · exact absurd htext' (hminus hne' hdigits')
  · rfl

namespace Double

/-- The sign, which a zero has as well. -/
def isNegative : Double → Bool
  | .nan => false
  | .infinite s => s
  | .finite s _ _ => s

variable {x : Double} {places : Nat} {c : Char}

/-- A finite double is written as a decimal. -/
theorem isDecimal_fixed (h : x.isFinite = true) (hplaces : 0 < places) :
    IsDecimal x.isNegative places (x.fixed places) := by
  cases x with
  | nan => cases h
  | infinite => cases h
  | finite s u hu =>
    refine ⟨_, _, String.toList_ofList, Nat.toDigits_ne_nil, ?_, fun c hc => ?_⟩
    · generalize roundDiv (u * Nat.pow 10 places) unitsPerOne = scaled
      have hrest : scaled % Nat.pow 10 places < Nat.pow 10 places :=
        Nat.mod_lt _ (Nat.pow_pos (by decide))
      have hlen : (digits (scaled % Nat.pow 10 places)).length ≤ places :=
        Nat.toDigits_length 10 _ places hplaces hrest
      rw [List.length_append, zeros, List.length_replicate, Nat.sub_add_cancel hlen]
    · rcases List.mem_append.1 hc with hc | hc
      · exact isDigit_of_mem_digits hc
      · rcases List.mem_append.1 hc with hc | hc
        · rw [List.eq_of_mem_replicate hc]
          rfl
        · exact isDigit_of_mem_digits hc

/-- A character that is no digit, and in no sign, point or word, is not written. -/
theorem notMem_fixed (x : Double) (places : Nat) (hdigit : c.isDigit = false)
    (hmark : c ∉ "-.NaNinf".toList) : c ∉ (x.fixed places).toList := by
  have hwords : "NaN".toList ⊆ "-.NaNinf".toList ∧ "inf".toList ⊆ "-.NaNinf".toList ∧
      '.' ∈ "-.NaNinf".toList ∧ ∀ s, signChars s ⊆ "-.NaNinf".toList := by decide
  obtain ⟨hnan, hinf, hpoint, hsigns⟩ := hwords
  have hsign : ∀ s, c ∉ signChars s := fun s hc => hmark (hsigns s hc)
  cases x with
  | nan => exact fun hc => hmark (hnan hc)
  | infinite s =>
    have hword : c ∉ "inf".toList := fun hc => hmark (hinf hc)
    simpa [fixed, hsign] using hword
  | finite s u hu =>
    have hdigits : ∀ n, c ∉ digits n := fun n hc => by
      rw [isDigit_of_mem_digits hc] at hdigit
      cases hdigit
    have hzeros : ∀ n, c ∉ zeros n := fun n hc => by
      rw [List.eq_of_mem_replicate hc] at hdigit
      cases hdigit
    have hdot : c ≠ '.' := fun hc => hmark (hc ▸ hpoint)
    simp [fixed, pointed, hsign, hdigits, hzeros, hdot]

end Double

end ClipRelay
