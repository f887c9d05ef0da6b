import ClipRelay.Json.Printer
import ClipRelay.Json.Reader
import ClipRelay.Proofs.Json.Numbers
import Mathlib.Tactic.SplitIfs

/-!
# Texts between quotes

A text is read as it is written, whatever stands behind its closing quote
(`textBody_quoted`).
-/

namespace ClipRelay.Json.Read

open Text

variable {g : List Glyph}

theorem hexValue?_hexDigit {n : Nat} (h : n < 16) : hexValue? (some (hexDigit n)) = some n := by
  interval_cases n <;> decide

theorem codeUnit?_hexDigit {n : Nat} (h : n < 0x20) :
    codeUnit? (some '0') (some '0') (some (hexDigit (n / 16))) (some (hexDigit (n % 16))) =
      some n := by
  have hzero : hexValue? (some '0') = some 0 := by decide
  simp only [codeUnit?, hzero, hexValue?_hexDigit (show n / 16 < 16 by omega),
    hexValue?_hexDigit (show n % 16 < 16 by omega)]
  simp
  omega

/-- A text that starts with an escape of one letter. -/
theorem textBody_escape {e c : Char} (h : escaped? e = some c) (g : List Glyph) :
    textBody (some '\\' :: some e :: g) = do
      let (cs, rest) ← textBody g
      return (c :: cs, rest) := by
  have hu : e ≠ 'u' := by
    rintro rfl
    cases h
  rw [textBody]
  · rw [h]
  · intro _ _ _ _ _ _ he
    exact hu he

/-- A character is escaped by a letter or by its number, or stands as it is. -/
theorem quotedChar_cases (c : Char) :
    (∃ e, quotedChar c = ['\\', e] ∧ escaped? e = some c) ∨
    (c.toNat < 0x20 ∧ quotedChar c =
      ['\\', 'u', '0', '0', hexDigit (c.toNat / 16), hexDigit (c.toNat % 16)]) ∨
    (c ≠ '"' ∧ c ≠ '\\' ∧ ¬ c.toNat < 0x20 ∧ quotedChar c = [c]) := by
  unfold quotedChar
  split_ifs with hquote hbackslash hline hreturn htab hback hpage hcontrol
  · exact .inl ⟨_, rfl, by rw [hquote]; rfl⟩
  · exact .inl ⟨_, rfl, by rw [hbackslash]; rfl⟩
  · exact .inl ⟨_, rfl, by rw [hline]; rfl⟩
  · exact .inl ⟨_, rfl, by rw [hreturn]; rfl⟩
  · exact .inl ⟨_, rfl, by rw [htab]; rfl⟩
  · exact .inl ⟨_, rfl, by rw [hback]; rfl⟩
  · exact .inl ⟨_, rfl, by rw [hpage]; rfl⟩
  · exact .inr (.inl ⟨hcontrol, rfl⟩)
  · exact .inr (.inr ⟨hquote, hbackslash, hcontrol, rfl⟩)

/-- Each character is read as it is written. -/
theorem textBody_quotedChar (c : Char) (g : List Glyph) :
    textBody ((quotedChar c).map some ++ g) = do
      let (cs, rest) ← textBody g
      return (c :: cs, rest) := by
  rcases quotedChar_cases c with ⟨e, hquoted, he⟩ | ⟨hcontrol, hquoted⟩ |
    ⟨hquote, hbackslash, hcontrol, hquoted⟩ <;> rw [hquoted]
  · exact textBody_escape he g
  · simp only [List.map_cons, List.map_nil, List.cons_append, List.nil_append, textBody,
      codeUnit?_hexDigit hcontrol, Char.ofNat_toNat]
    rw [if_neg (by omega), if_neg (by omega)]
  · rw [List.map_cons, List.map_nil, List.cons_append, List.nil_append, textBody]
    · simp [hcontrol, hbackslash]
    · exact hquote
    · intro _ _ _ _ _ _ heq
      exact hbackslash heq
    · intro _ _ _ heq
      exact hbackslash heq

theorem textBody_quoted (s : String) (rest : List Glyph) :
    textBody ((s.toList.flatMap quotedChar).map some ++ some '"' :: rest) = .ok (s.toList, rest) := by
  induction s.toList with
  | nil => rfl
  | cons c cs ih =>
    rw [List.flatMap_cons, List.map_append, List.append_assoc, textBody_quotedChar, ih]
    rfl

end ClipRelay.Json.Read
