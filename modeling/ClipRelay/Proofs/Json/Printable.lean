import ClipRelay.Proofs.Json.Texts

/-!
# Texts on one line

The compact text of a value holds no control character (`printable_chars`), so it stands on one line
(`line_notMem_compact`), whatever the texts in it hold.
-/

namespace ClipRelay.Json

open Read Number

/-- A character that is no control character. -/
def Printable (c : Char) : Prop := 0x20 ≤ c.toNat

instance (c : Char) : Decidable (Printable c) := inferInstanceAs (Decidable (_ ≤ _))

theorem printable_word {word : List Char} (h : word.all (fun c => decide (Printable c)) = true) :
    ∀ c ∈ word, Printable c := fun c hc =>
  of_decide_eq_true (List.all_eq_true.1 h c hc)

theorem printable_of_isDigit {c : Char} (h : c.isDigit = true) : Printable c := by
  simp only [Char.isDigit, Bool.and_eq_true, decide_eq_true_eq, ge_iff_le, UInt32.le_iff_toNat_le] at h
  have h48 : 48 ≤ c.toNat := h.1
  exact Nat.le_trans (by decide) h48

theorem printable_digits {k : Nat} {c : Char} (h : c ∈ digits k) : Printable c :=
  printable_of_isDigit (isDigit_of_mem_digits h)

theorem printable_zeros {k : Nat} {c : Char} (h : c ∈ zeros k) : Printable c := by
  rw [List.eq_of_mem_replicate h]
  decide

theorem printable_signChars {negative : Bool} {c : Char} (h : c ∈ Double.signChars negative) :
    Printable c := by
  cases negative with
  | false => exact absurd h List.not_mem_nil
  | true =>
    rw [List.mem_singleton.1 h]
    decide

theorem printable_pointed {whole fraction : List Char} (hwhole : ∀ c ∈ whole, Printable c)
    (hfraction : ∀ c ∈ fraction, Printable c) : ∀ c ∈ pointed whole fraction, Printable c := by
  intro c hc
  rcases List.mem_append.1 hc with hc | hc
  · exact hwhole c hc
  · rcases List.mem_cons.1 hc with rfl | hc
    · decide
    · exact hfraction c hc

theorem printable_singleton {d : Char} (hd : Printable d) : ∀ c ∈ [d], Printable c := by
  intro c hc
  rwa [List.mem_singleton.1 hc]

theorem printable_positional {ds : List Char} (lead : Int) (h : ∀ c ∈ ds, Printable c) :
    ∀ c ∈ positional ds lead, Printable c := by
  unfold positional
  split
  · refine printable_pointed (printable_singleton (by decide)) fun c hc => ?_
    rcases List.mem_append.1 hc with hc | hc
    · exact printable_zeros hc
    · exact h c hc
  · refine printable_pointed (fun c hc => ?_) fun c hc => ?_
    · rcases List.mem_append.1 hc with hc | hc
      · exact h c (List.mem_of_mem_take hc)
      · exact printable_zeros hc
    · split at hc
      · exact printable_singleton (by decide) c hc
      · exact h c (List.mem_of_mem_drop hc)

theorem printable_scientific {ds : List Char} (lead : Int) (h : ∀ c ∈ ds, Printable c) :
    ∀ c ∈ scientific ds lead, Printable c := by
  intro c hc
  simp only [scientific, List.mem_append, List.mem_cons] at hc
  rcases hc with hc | rfl | rfl | hc
  · split at hc
    · exact h c hc
    · rename_i d fraction _
      exact printable_pointed (printable_singleton (h d List.mem_cons_self))
        (fun c hc => h c (List.mem_cons_of_mem _ hc)) c hc
    · exact absurd hc List.not_mem_nil
  · decide
  · split <;> decide
  · exact printable_digits hc

/-! ## Numbers and texts -/

theorem printable_numberChars (n : JsonNumber) : ∀ c ∈ numberChars n, Printable c := by
  intro c hc
  cases n with
  | whole i =>
    rcases List.mem_append.1 hc with hc | hc
    · exact printable_signChars hc
    · exact printable_digits hc
  | real x =>
    have hnull : ∀ c ∈ "null".toList, Printable c := printable_word (by decide)
    cases x with
    | nan => exact hnull c hc
    | infinite => exact hnull c hc
    | finite s u _ =>
      rcases List.mem_append.1 hc with hc | hc
      · exact printable_signChars hc
      · split at hc
        · exact printable_positional _ (fun _ => printable_digits) c hc
        · exact printable_scientific _ (fun _ => printable_digits) c hc

theorem printable_hexDigit {n : Nat} (h : n < 16) : Printable (hexDigit n) := by
  interval_cases n <;> decide

theorem printable_quotedChar (c : Char) : ∀ d ∈ quotedChar c, Printable d := by
  rcases quotedChar_cases c with ⟨e, hquoted, he⟩ | ⟨hcontrol, hquoted⟩ | ⟨-, -, hcontrol, hquoted⟩
  · have hletter : Printable e := by
      unfold escaped? at he
      split at he
      all_goals first
        | decide
        | cases he
    simp only [hquoted, List.mem_cons, List.not_mem_nil, or_false]
    rintro d (rfl | rfl)
    · decide
    · exact hletter
  · simp only [hquoted, List.mem_cons, List.not_mem_nil, or_false]
    rintro d (rfl | rfl | rfl | rfl | rfl | rfl)
    · decide
    · decide
    · decide
    · decide
    · exact printable_hexDigit (by omega)
    · exact printable_hexDigit (by omega)
  · rw [hquoted]
    exact printable_singleton (Nat.le_of_not_lt hcontrol)

theorem printable_quoted (s : String) : ∀ c ∈ quoted s, Printable c := by
  intro c hc
  simp only [quoted, List.cons_append, List.mem_cons, List.mem_append, List.mem_flatMap,
    List.not_mem_nil, or_false] at hc
  rcases hc with rfl | ⟨d, -, hc⟩ | rfl
  · decide
  · exact printable_quotedChar d c hc
  · decide

mutual

/-- No control character stands in the text of a value. -/
theorem printable_chars : ∀ (v : Json), ∀ c ∈ chars v, Printable c
  | .null => printable_word (by decide)
  | .bool true => printable_word (by decide)
  | .bool false => printable_word (by decide)
  | .number n => printable_numberChars n
  | .string s => printable_quoted s
  | .array items => by
    intro c hc
    simp only [chars, List.cons_append, List.mem_cons, List.mem_append, List.not_mem_nil,
      or_false] at hc
    rcases hc with rfl | hc | rfl
    · decide
    · exact printable_itemChars items c hc
    · decide
  | .object members => by
    intro c hc
    simp only [chars, List.cons_append, List.mem_cons, List.mem_append, List.not_mem_nil,
      or_false] at hc
    rcases hc with rfl | hc | rfl
    · decide
    · exact printable_memberChars members c hc
    · decide

theorem printable_itemChars : ∀ (items : List Json), ∀ c ∈ itemChars items, Printable c
  | [] => fun c hc => absurd hc List.not_mem_nil
  | [v] => printable_chars v
  | v :: w :: rest => by
    intro c hc
    simp only [itemChars, List.mem_append, List.mem_cons] at hc
    rcases hc with hc | rfl | hc
    · exact printable_chars v c hc
    · decide
    · exact printable_itemChars (w :: rest) c hc

theorem printable_memberChars : ∀ (members : List (String × Json)),
    ∀ c ∈ memberChars members, Printable c
  | [] => fun c hc => absurd hc List.not_mem_nil
  | [(k, v)] => by
    intro c hc
    simp only [memberChars, List.mem_append, List.mem_cons] at hc
    rcases hc with hc | rfl | hc
    · exact printable_quoted k c hc
    · decide
    · exact printable_chars v c hc
  | (k, v) :: m :: rest => by
    intro c hc
    simp only [memberChars, List.mem_append, List.mem_cons] at hc
    rcases hc with (hc | rfl | hc) | rfl | hc
    · exact printable_quoted k c hc
    · decide
    · exact printable_chars v c hc
    · decide
    · exact printable_memberChars (m :: rest) c hc

end

theorem line_notMem_compact (v : Json) : '\n' ∉ v.compact.toList := by
  rw [compact, String.toList_ofList]
  intro h
  exact absurd (printable_chars v '\n' h) (by decide)

end ClipRelay.Json
