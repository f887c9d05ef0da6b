import ClipRelay.Text.Normal

/-!
# ASCII at the end of a text

An ASCII character is decomposed into itself, has no class and composes with nothing before it, so the
normal form keeps it where a text ends (`compose_concat`).
-/

namespace ClipRelay.Text

variable {e : Char}

theorem combiningClass_ascii (h : isAscii e = true) : combiningClass e = 0 := if_pos h

theorem decomposeChar_ascii (h : isAscii e = true) : decomposeChar e = [e] := if_pos h

theorem composePair?_ascii (a : Char) (h : isAscii e = true) : composePair? a e = none := if_pos h

section

variable (h : combiningClass e = 0)
include h

/-- A mark does not go behind a character that starts a cluster. -/
theorem placeMark_append (c : Char) (ds after : List Char) :
    placeMark c (ds ++ e :: after) = placeMark c ds ++ e :: after := by
  induction ds with
  | nil => simp [placeMark, h]
  | cons d ds ih =>
    simp only [List.cons_append, placeMark]
    split
    · rw [ih, List.cons_append]
    · rfl

theorem foldr_placeMark_append (cs after : List Char) :
    (cs.foldr placeMark (e :: after)) = cs.foldr placeMark [] ++ e :: after := by
  induction cs with
  | nil => rfl
  | cons c cs ih => rw [List.foldr_cons, ih, placeMark_append h, List.foldr_cons]

end

section

variable (h : isAscii e = true)
include h

theorem decompose_concat (cs : List Char) : decompose (cs ++ [e]) = decompose cs ++ [e] := by
  have hclass := combiningClass_ascii h
  rw [decompose, List.flatMap_append, List.foldr_append]
  simp only [List.flatMap_cons, List.flatMap_nil, decomposeChar_ascii h, List.append_nil,
    List.foldr_cons, List.foldr_nil, placeMark]
  exact foldr_placeMark_append hclass _ []

theorem composeAfter_concat (start : Char) (marks cs : List Char) :
    composeAfter start marks (cs ++ [e]) = composeAfter start marks cs ++ [e] := by
  induction cs generalizing start marks with
  | nil =>
    cases marks <;>
      simp [composeAfter, composePair?_ascii start h, combiningClass_ascii h]
  | cons c cs ih =>
    rw [List.cons_append]
    cases marks with
    | nil =>
      simp only [composeAfter]
      split
      · exact ih ..
      · split
        · simp only [ih, List.append_assoc, List.cons_append]
        · exact ih ..
    | cons m marks =>
      simp only [composeAfter]
      split
      · exact ih ..
      · split
        · simp only [ih, List.append_assoc, List.cons_append]
        · exact ih ..

theorem recompose_concat (cs : List Char) : recompose (cs ++ [e]) = recompose cs ++ [e] := by
  induction cs with
  | nil => simp [recompose, combiningClass_ascii h, composeAfter]
  | cons c cs ih =>
    rw [List.cons_append, recompose, recompose]
    split
    · exact composeAfter_concat h ..
    · rw [ih, List.cons_append]

/-- An ASCII character that a text ends with stays where it is. -/
theorem compose_concat (cs : List Char) : ∃ init, compose (cs ++ [e]) = init ++ [e] := by
  unfold compose
  split
  · exact ⟨cs, rfl⟩
  · exact ⟨_, by rw [decompose_concat h, recompose_concat h]⟩

end

end ClipRelay.Text
