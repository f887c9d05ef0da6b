import ClipRelay.Proofs.Json.Texts

/-!
# What a reader takes

A reader takes characters for a value when it reads that value from them wherever they stand and
leaves what follows them (`Takes`). Items that are taken one by one are taken with commas between
them (`sequence_joined`).
-/

namespace ClipRelay.Json.Read

open Text

/-- With this many brackets to open, a reader takes the characters for a value, whatever follows. -/
def Takes (read : Reader) (height : Nat) (cs : List Char) (v : Json) : Prop :=
  ∀ depth rest, height ≤ depth → Ends rest → read depth (cs.map some ++ rest) = .ok (v, rest)

/-! ## Blanks -/

@[simp]
theorem skipBlanks_cons {c : Char} (h : isJsonBlank c = false) (g : List Glyph) :
    skipBlanks (some c :: g) = some c :: g := by
  simp [skipBlanks, h]

/-- A value may start here, and nothing ends. -/
def Opens (c : Char) : Prop := isJsonBlank c = false ∧ c ≠ ']' ∧ c ≠ '\x7d'

instance (c : Char) : Decidable (Opens c) := inferInstanceAs (Decidable (_ ∧ _))

theorem opens_of_startsNumber {c : Char} (h : startsNumber c = true) : Opens c := by
  by_contra hc
  simp only [Opens, isJsonBlank, not_and_or, ne_eq, not_not, Bool.not_eq_false, Bool.or_eq_true,
    decide_eq_true_eq] at hc
  rcases hc with (((rfl | rfl) | rfl) | rfl) | rfl | rfl <;> revert h <;> decide

/-! ## Items with commas between them -/

/-- Characters with commas between them. -/
def joined : List (List Char) → List Char
  | [] => []
  | cs :: css => cs ++ css.flatMap (',' :: ·)

/-- There are as many commas as items behind the first one. -/
theorem length_le_length_commas (css : List (List Char)) :
    css.length ≤ (css.flatMap (',' :: ·)).length := by
  induction css with
  | nil => exact Nat.zero_le _
  | cons cs css ih =>
    simp only [List.flatMap_cons, List.length_append, List.length_cons]
    omega

variable {σ : Type} {item : σ → List Glyph → Except Fault (σ × List Glyph)} {s s' : σ}
  {css : List (List Char)} {close : Char}

/-- A reader of items takes these one after the other. -/
inductive Goes (item : σ → List Glyph → Except Fault (σ × List Glyph)) :
    σ → List (List Char) → σ → Prop
  | done (s : σ) : Goes item s [] s
  | next {s s' s'' : σ} {cs : List Char} {css : List (List Char)}
    (h : ∀ rest, Ends rest → item s (cs.map some ++ rest) = .ok (s', rest))
    (more : Goes item s' css s'') : Goes item s (cs :: css) s''

theorem ends_cons {c : Char} (h : c = ',' ∨ c = ']' ∨ c = '\x7d') (g : List Glyph) :
    Ends (some c :: g) := by
  rcases h with rfl | rfl | rfl <;> exact ⟨by decide, by decide, by decide, by decide⟩

/-- What follows an item is a comma or the closing bracket. -/
theorem ends_joined (hclose : close = ']' ∨ close = '\x7d') (css : List (List Char))
    (rest : List Glyph) :
    Ends ((css.flatMap (',' :: ·)).map some ++ some close :: rest) := by
  cases css with
  | nil => exact ends_cons (.inr hclose) rest
  | cons cs css => exact ends_cons (.inl rfl) _

theorem further_joined (h : Goes item s css s') (hclose : close = ']' ∨ close = '\x7d')
    (rest : List Glyph) {bound : Nat} (hbound : css.length < bound) : further close item bound s
      ((css.flatMap (',' :: ·)).map some ++ some close :: rest) = .ok (s', rest) := by
  have hblank : isJsonBlank close = false := by rcases hclose with rfl | rfl <;> decide
  have hcomma : ',' ≠ close := by rcases hclose with rfl | rfl <;> decide
  induction h generalizing bound with
  | done s =>
    obtain ⟨bound, rfl⟩ := Nat.exists_eq_succ_of_ne_zero (Nat.ne_of_gt hbound)
    simp [further, hblank]
  | @next s s' s'' cs css h more ih =>
    obtain ⟨bound, rfl⟩ := Nat.exists_eq_succ_of_ne_zero (Nat.ne_of_gt (Nat.zero_lt_of_lt hbound))
    have hitem := h _ (ends_joined hclose css rest)
    have hmore := @ih bound (Nat.lt_of_succ_lt_succ hbound)
    simp only [List.flatMap_cons, List.map_append, List.map_cons, List.cons_append,
      List.append_assoc, further]
    rw [skipBlanks_cons (by decide)]
    simp only [hcomma, if_false, if_true, hitem, ok_bind, hmore]

/-- Items are read with commas between them up to the closing bracket. -/
theorem sequence_joined (h : Goes item s css s') (hopens : ∀ cs ∈ css, ∃ c ∈ cs.head?, Opens c)
    (hclose : close = ']' ∨ close = '\x7d') (rest : List Glyph) :
    sequence close item s ((joined css).map some ++ some close :: rest) = .ok (s', rest) := by
  cases h with
  | done =>
    have hblank : isJsonBlank close = false := by rcases hclose with rfl | rfl <;> decide
    simp [sequence, joined, hblank]
  | @next _ s₁ _ cs css h more =>
    obtain ⟨c, hc, hopen⟩ := hopens cs List.mem_cons_self
    obtain ⟨cs, rfl⟩ := List.head?_eq_some_iff.1 hc
    have hne : c ≠ close := by
      rcases hclose with rfl | rfl
      · exact hopen.2.1
      · exact hopen.2.2
    have hitem := h _ (ends_joined hclose css rest)
    have hlength := length_le_length_commas css
    simp only [joined, List.map_append, List.map_cons, List.cons_append, List.append_assoc,
      sequence] at hitem ⊢
    rw [skipBlanks_cons hopen.1]
    simp only [hne, if_false, hitem, ok_bind]
    apply further_joined more hclose
    simp only [List.length_cons, List.length_append, List.length_map]
    omega

end ClipRelay.Json.Read
