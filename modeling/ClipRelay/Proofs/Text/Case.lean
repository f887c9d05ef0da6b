import ClipRelay.Text.Case
import ClipRelay.Text.Search
import Mathlib.Data.List.Infix

/-!
# Marks in lower case

A text holds another one when that is a run of its characters (`holds_iff`). What stands around an
ASCII letter has no say in its lower case, so a run of ASCII characters is found again in the lower
case of every text around it (`isInfix_lowerChars`). At the start of a text it is found in the lower case
only if it is there, unless it holds one of two letters (`prefix_lowerChars_iff`).
-/

namespace ClipRelay.Text

theorem holdsChars_iff (part cs : List Char) : holdsChars part cs = true ↔ part <:+: cs := by
  induction cs with
  | nil => simp [holdsChars]
  | cons c cs ih =>
    rw [holdsChars, Bool.or_eq_true, ih, List.isPrefixOf_iff_prefix, List.infix_cons_iff]

theorem holds_iff (text part : String) : holds text part = true ↔ part.toList <:+: text.toList :=
  holdsChars_iff _ _

/-! ## Lower case -/

/-- A character in lower case is one of ASCII only if it was one. -/
theorem isAscii_of_toLower {c : Char} (h : isAscii c.toLower = true) : isAscii c = true := by
  unfold Char.toLower at h
  split at h
  · rename_i hupper
    rw [isAscii, decide_eq_true_eq]
    have hle : c.toNat ≤ 'Z'.toNat := hupper.2
    exact Nat.lt_of_le_of_lt hle (by decide)
  · exact h

/-- The lower case of what stands behind depends on what stands before, but is not moved by it. -/
theorem lowerAfter_append (before cs rest : List Char) :
    ∃ image, lowerAfter before (cs ++ rest) = image ++ lowerAfter (cs.reverse ++ before) rest := by
  induction cs generalizing before with
  | nil => exact ⟨[], rfl⟩
  | cons c cs ih =>
    obtain ⟨image, himage⟩ := ih (c :: before)
    rw [List.cons_append, lowerAfter, himage, ← List.append_assoc, List.reverse_cons,
      List.append_assoc cs.reverse]
    exact ⟨_, rfl⟩

theorem lowerAfter_ascii {run : List Char} (h : ∀ c ∈ run, isAscii c = true)
    (before rest : List Char) :
    lowerAfter before (run ++ rest) =
      run.map Char.toLower ++ lowerAfter (run.reverse ++ before) rest := by
  induction run generalizing before with
  | nil => rfl
  | cons c run ih =>
    obtain ⟨hc, hrun⟩ := List.forall_mem_cons.1 h
    have hsigma : c ≠ 'Σ' := by
      rintro rfl
      exact absurd hc (by decide)
    rw [List.cons_append, lowerAfter, if_neg hsigma, lowerChar_ascii hc, ih hrun]
    simp

/-- A run of ASCII characters stands in the lower case of a text, in lower case. -/
theorem isInfix_lowerChars {run : List Char} (h : ∀ c ∈ run, isAscii c = true)
    (before after : List Char) :
    run.map Char.toLower <:+: lowerChars (before ++ run ++ after) := by
  obtain ⟨image, himage⟩ := lowerAfter_append [] before (run ++ after)
  rw [lowerAfter_ascii h] at himage
  refine ⟨image, lowerAfter (run.reverse ++ (before.reverse ++ [])) after, ?_⟩
  rw [lowerChars, List.append_assoc before, himage, List.append_assoc]

/-! ## Back from lower case -/

/-- The run is one of ASCII, or of characters whose images are not in ASCII, or it is the Kelvin
sign. -/
def CaseRun.keepsAscii (r : CaseRun) : Bool :=
  r.last < 0x80 || (r.first == 0x212A && r.last == 0x212A) ||
    (0x80 ≤ r.first + r.shift && r.last + r.shift < 0xD800) ||
    (0xDFFF < r.first + r.shift && r.last + r.shift < 0x110000)

theorem keepsAscii_of_mem {r : CaseRun} (h : r ∈ lowerRuns) : r.keepsAscii = true := by
  have hall : lowerRuns.all CaseRun.keepsAscii = true := by decide +kernel
  exact List.all_eq_true.1 hall r h

theorem toNat_ofNat_of_valid {n : Nat} (h : n.isValidChar) : (Char.ofNat n).toNat = n := by
  rw [Char.ofNat, dif_pos h]
  rfl

theorem isAscii_of_shiftBy {c : Char} (h : isAscii (shiftBy lowerRuns c) = true) :
    isAscii c = true ∨ c = '\u212A' := by
  unfold shiftBy at h
  cases hfind : lowerRuns.find? (·.covers c.toNat) with
  | none =>
    rw [hfind] at h
    exact .inl h
  | some r =>
    have hkeeps := keepsAscii_of_mem (List.mem_of_find?_eq_some hfind)
    have hcovers := List.find?_some hfind
    simp only [CaseRun.keepsAscii, CaseRun.covers, Bool.or_eq_true, Bool.and_eq_true,
      decide_eq_true_eq, beq_iff_eq] at hkeeps hcovers
    simp only [hfind, isAscii, decide_eq_true_eq] at h ⊢
    by_cases hkelvin : c.toNat = 0x212A
    · right
      rw [← Char.ofNat_toNat c, hkelvin]
    · left
      apply Classical.byContradiction
      intro hbeyond
      rw [toNat_ofNat_of_valid] at h
      · omega
      · unfold Nat.isValidChar
        omega

/-- An ASCII character stands in the lower case of a character of ASCII, or of one of two others: the
capital I with a dot above, and the Kelvin sign. -/
theorem eq_toLower_of_mem_lowerChar {a c : Char} (ha : isAscii a = true) (h : a ∈ lowerChar c) :
    (isAscii c = true ∧ a = c.toLower) ∨ (c = '\u0130' ∧ a = 'i') ∨ (c = '\u212A' ∧ a = 'k') := by
  by_cases hc : isAscii c = true
  · left
    rw [lowerChar_ascii hc] at h
    exact ⟨hc, List.mem_singleton.1 h⟩
  right
  rw [lowerChar, if_neg hc] at h
  by_cases hdotted : c = '\u0130'
  · left
    refine ⟨hdotted, ?_⟩
    rw [if_pos hdotted] at h
    rcases List.mem_pair.1 h with rfl | rfl
    · rfl
    · exact absurd ha (by decide)
  · right
    rw [if_neg hdotted] at h
    obtain rfl := List.mem_singleton.1 h
    have hkelvin : c = '\u212A' := (isAscii_of_shiftBy ha).resolve_left hc
    refine ⟨hkelvin, ?_⟩
    rw [hkelvin]
    decide +kernel

/-- ASCII characters at the start of a text in lower case come from ASCII characters at the start of
the text. The letters i and k are the two that other characters have for their lower case. -/
theorem exists_front_of_lowerAfter {run : List Char}
    (hrun : ∀ a ∈ run, isAscii a = true ∧ a ≠ 'i' ∧ a ≠ 'k') {before cs : List Char}
    (h : run <+: lowerAfter before cs) :
    ∃ front rest, cs = front ++ rest ∧ front.map Char.toLower = run ∧
      ∀ c ∈ front, isAscii c = true := by
  induction run generalizing before cs with
  | nil => exact ⟨[], cs, rfl, rfl, List.forall_mem_nil _⟩
  | cons a run ih =>
    obtain ⟨⟨ha, hi, hk⟩, hrun⟩ := List.forall_mem_cons.1 hrun
    cases cs with
    | nil => exact absurd (List.prefix_nil.1 h) (List.cons_ne_nil _ _)
    | cons c cs =>
      rw [lowerAfter] at h
      split at h
      · -- Neither form of the small sigma is in ASCII.
        have hsigma := (List.cons_prefix_cons.1 h).1
        rw [hsigma] at ha
        split at ha <;> exact absurd ha (by decide)
      · obtain ⟨b, image, hb⟩ : ∃ b image, lowerChar c = b :: image := by
          unfold lowerChar
          split_ifs <;> exact ⟨_, _, rfl⟩
        rw [hb, List.cons_append] at h
        obtain ⟨rfl, hbehind⟩ := List.cons_prefix_cons.1 h
        obtain ⟨hc, hlower⟩ | ⟨-, rfl⟩ | ⟨-, rfl⟩ :=
          eq_toLower_of_mem_lowerChar ha (hb ▸ List.mem_cons_self)
        · rw [lowerChar_ascii hc] at hb
          obtain rfl := (List.cons.inj hb).2
          obtain ⟨front, rest, rfl, rfl, hfront⟩ := ih hrun hbehind
          refine ⟨c :: front, rest, rfl, ?_, List.forall_mem_cons.2 ⟨hc, hfront⟩⟩
          rw [List.map_cons, hlower]
        · exact absurd rfl hi
        · exact absurd rfl hk

/-- A text in lower case begins with ASCII characters other than i and k just when the text begins with
them, in any case. -/
theorem prefix_lowerChars_iff {run cs : List Char}
    (hrun : ∀ a ∈ run, isAscii a = true ∧ a ≠ 'i' ∧ a ≠ 'k') :
    run <+: lowerChars cs ↔
      ∃ front rest, cs = front ++ rest ∧ front.map Char.toLower = run ∧
        ∀ c ∈ front, isAscii c = true := by
  constructor
  · exact exists_front_of_lowerAfter hrun
  · rintro ⟨front, rest, rfl, rfl, hfront⟩
    rw [lowerChars, lowerAfter_ascii hfront]
    exact List.prefix_append _ _

end ClipRelay.Text
