import ClipRelay.Text.Blank
import Mathlib.Data.List.DropRight

/-!
# Trimming

* `dropEndWhile_append_cons`: nothing in front of a character that is kept is dropped from the end.
* `trimChars_append`: blanks behind a text do not change what is left of it.
* `trim_trim`: a trimmed text has nothing left to trim.
* `trim_ne_empty`: a character that is not blank is not trimmed.
* `trim_eq_self`: nothing is trimmed from a text without blanks.
* `isBlank_of_isAlphanum`: letters and digits are not blank.
-/

namespace ClipRelay.Text

theorem dropEndWhile_append {p : Char → Bool} (cs ds : List Char) (h : ∀ d ∈ ds, p d = true) :
    dropEndWhile p (cs ++ ds) = dropEndWhile p cs := by
  simp only [dropEndWhile, List.reverse_append]
  rw [List.dropWhile_append_of_pos fun d hd => h d (List.mem_reverse.1 hd)]

/-- What is dropped from the end stands behind what is left. -/
theorem exists_append_dropEndWhile (p : Char → Bool) (cs : List Char) :
    ∃ ds, cs = dropEndWhile p cs ++ ds ∧ ∀ d ∈ ds, p d = true := by
  refine ⟨(cs.reverse.takeWhile p).reverse, ?_, fun d hd => ?_⟩
  · rw [dropEndWhile, ← List.reverse_append, List.takeWhile_append_dropWhile, List.reverse_reverse]
  · exact List.all_eq_true.1 List.all_takeWhile d (List.mem_reverse.1 hd)

theorem dropEndWhile_append_cons {p : Char → Bool} {c : Char} (h : p c = false) (cs ds : List Char) :
    dropEndWhile p (cs ++ c :: ds) = cs ++ c :: dropEndWhile p ds := by
  have hkept : ∀ es : List Char, (es ++ c :: cs.reverse).dropWhile p =
      es.dropWhile p ++ c :: cs.reverse := by
    intro es
    rw [List.dropWhile_append]
    split
    · rename_i hnil
      rw [List.isEmpty_iff.1 hnil, List.dropWhile_cons_of_neg (by simp [h]), List.nil_append]
    · rfl
  simp only [dropEndWhile, List.reverse_append, List.reverse_cons, List.append_assoc,
    List.singleton_append, hkept]
  simp

theorem dropEndWhile_concat (p : Char → Bool) (cs : List Char) (c : Char) :
    dropEndWhile p (cs ++ [c]) = if p c then dropEndWhile p cs else cs ++ [c] := by
  cases hc : p c <;> simp [dropEndWhile, hc]

/-- What is left does not end with a character that is dropped. -/
theorem apply_of_dropEndWhile {p : Char → Bool} {cs before : List Char} {c : Char}
    (h : dropEndWhile p cs = before ++ [c]) : p c = false := by
  have hfirst := List.head?_dropWhile_not p cs.reverse
  have hreverse : cs.reverse.dropWhile p = c :: before.reverse := by
    rw [← List.reverse_inj, ← dropEndWhile, h]
    simp
  rwa [hreverse] at hfirst

theorem trimChars_append (cs ds : List Char) (h : ∀ d ∈ ds, isBlank d = true) :
    trimChars (cs ++ ds) = trimChars cs := by
  simp only [trimChars, trimStartChars, List.dropWhile_append]
  split
  · rename_i hc
    have hd : ds.dropWhile isBlank = [] := List.dropWhile_eq_nil_iff.2 h
    rw [hd, List.isEmpty_iff.1 hc]
  · exact dropEndWhile_append _ _ h

theorem trimChars_dropEndWhile {p : Char → Bool} (hp : ∀ c, p c = true → isBlank c = true)
    (cs : List Char) : trimChars (dropEndWhile p cs) = trimChars cs := by
  obtain ⟨ds, hcs, hds⟩ := exists_append_dropEndWhile p cs
  have h := trimChars_append (dropEndWhile p cs) ds fun d hd => hp d (hds d hd)
  rw [← h, ← hcs]

theorem trimChars_trimChars (cs : List Char) : trimChars (trimChars cs) = trimChars cs := by
  have h := trimChars_dropEndWhile (p := isBlank) (fun _ hc => hc) (trimStartChars cs)
  simp only [trimChars, trimStartChars, List.dropWhile_idempotent] at h ⊢
  exact h

theorem trim_trim (s : String) : trim (trim s) = trim s := by
  simp only [trim, String.toList_ofList, trimChars_trimChars]

theorem isBlank_of_trimChars_eq_nil {cs : List Char} (h : trimChars cs = []) {c : Char}
    (hc : c ∈ cs) : isBlank c = true := by
  obtain ⟨ds, hds, hblank⟩ := exists_append_dropEndWhile isBlank (trimStartChars cs)
  rw [show dropEndWhile isBlank (trimStartChars cs) = [] from h, List.nil_append] at hds
  rw [← List.takeWhile_append_dropWhile (p := isBlank) (l := cs)] at hc
  rcases List.mem_append.1 hc with hc | hc
  · exact List.all_eq_true.1 List.all_takeWhile c hc
  · exact hblank c (hds ▸ hc)

theorem trim_ne_empty {s : String} {c : Char} (hc : c ∈ s.toList) (h : isBlank c = false) :
    trim s ≠ "" := by
  intro he
  have hnil : trimChars s.toList = [] := by simpa [trim] using congrArg String.toList he
  rw [isBlank_of_trimChars_eq_nil hnil hc] at h
  cases h

/-- Nothing is trimmed from a text without blanks. -/
theorem trim_eq_self {s : String} (h : ∀ c ∈ s.toList, isBlank c = false) : trim s = s := by
  have hkept : ∀ {cs : List Char}, (∀ c ∈ cs, isBlank c = false) → cs.dropWhile isBlank = cs := by
    intro cs hcs
    cases cs with
    | nil => rfl
    | cons c cs => exact List.dropWhile_cons_of_neg (by simp [hcs c List.mem_cons_self])
  rw [trim, trimChars, trimStartChars, hkept h, dropEndWhile,
    hkept fun c hc => h c (List.mem_reverse.1 hc), List.reverse_reverse, String.ofList_toList]

/-- What is left of a text that is not blank is not blank. -/
theorem trim_of_nonBlank? {s t : String} (h : nonBlank? s = some t) : t = trim s ∧ trim t ≠ "" := by
  unfold nonBlank? at h
  simp only at h
  split at h
  · cases h
  · rename_i hne
    cases h
    exact ⟨rfl, by rwa [trim_trim]⟩

/-! ## Letters and digits -/

/-- The letters and digits stand between the first digit and the last letter. -/
theorem bounds_of_isAlphanum {c : Char} (h : c.isAlphanum = true) :
    '0'.toNat ≤ c.toNat ∧ c.toNat ≤ 'z'.toNat := by
  have hval : ∀ {low high : Char}, low.val ≤ c.val ∧ c.val ≤ high.val →
      low.toNat ≤ c.toNat ∧ c.toNat ≤ high.toNat :=
    fun hc => hc.imp UInt32.le_iff_toNat_le.1 UInt32.le_iff_toNat_le.1
  have hkind : (c.isUpper = true ∨ c.isLower = true) ∨ c.isDigit = true :=
    (Bool.or_eq_true_iff.1 h).imp_left Bool.or_eq_true_iff.1
  have hmarks : '0'.toNat ≤ 'A'.toNat ∧ '0'.toNat ≤ 'a'.toNat ∧ 'Z'.toNat ≤ 'z'.toNat ∧
      '9'.toNat ≤ 'z'.toNat := by
    decide
  rcases hkind with (hupper | hlower) | hdigit
  · have hbounds : 'A'.toNat ≤ c.toNat ∧ c.toNat ≤ 'Z'.toNat := hval (of_decide_eq_true hupper)
    omega
  · have hbounds : 'a'.toNat ≤ c.toNat ∧ c.toNat ≤ 'z'.toNat :=
      hval ((Bool.and_eq_true_iff.1 hlower).imp of_decide_eq_true of_decide_eq_true)
    omega
  · have hbounds : '0'.toNat ≤ c.toNat ∧ c.toNat ≤ '9'.toNat :=
      hval ((Bool.and_eq_true_iff.1 hdigit).imp of_decide_eq_true of_decide_eq_true)
    omega

theorem lt_of_isAlphanum {c : Char} (h : c.isAlphanum = true) : 0x20 < c.toNat ∧ c.toNat < 0x7F := by
  obtain ⟨hlow, hhigh⟩ := bounds_of_isAlphanum h
  exact ⟨Nat.lt_of_lt_of_le (by decide) hlow, Nat.lt_of_le_of_lt hhigh (by decide)⟩

theorem isBlank_of_isAlphanum {c : Char} (h : c.isAlphanum = true) : isBlank c = false := by
  have hlt := lt_of_isAlphanum h
  simp only [isBlank, Bool.or_eq_false_iff, Bool.and_eq_false_iff, decide_eq_false_iff_not,
    beq_eq_false_iff_ne]
  omega

theorem isBlank_of_isDigit {c : Char} (h : c.isDigit = true) : isBlank c = false :=
  isBlank_of_isAlphanum (Bool.or_eq_true_iff.2 (.inr h))

end ClipRelay.Text
