import ClipRelay.Excerpt
import ClipRelay.Proofs.Text.Bytes

/-!
# What is left of a text that is cut

A text of more than 500 characters is cut behind the 500th and gets three dots. So a text that was cut
is longer than 500 characters again, but its first 500 are those of the text before: cutting it again
changes nothing.

* `excerpt_cases`: a text is shown as it is, or cut at a boundary between two characters.
* `excerpt_excerpt`, `length_excerpt_le`: cutting once is enough, and leaves 503 characters at most.
* `excerpt_eq_of_offset`: the cut in the bytes of the text falls between two characters.
-/

namespace ClipRelay

open Text

/-- What a long text keeps in front of the dots. -/
def excerptFront (s : String) : String := String.ofList (s.toList.take maxExcerpt)

theorem toList_excerptFront (s : String) : (excerptFront s).toList = s.toList.take maxExcerpt :=
  String.toList_ofList

theorem length_excerptFront {s : String} (h : maxExcerpt < s.length) :
    (excerptFront s).length = maxExcerpt := by
  rw [← String.length_toList, toList_excerptFront, List.length_take, String.length_toList]
  omega

theorem excerpt_of_le {s : String} (h : s.length ≤ maxExcerpt) : excerpt s = s := if_pos h

theorem excerpt_of_lt {s : String} (h : maxExcerpt < s.length) :
    excerpt s = excerptFront s ++ "..." :=
  if_neg (Nat.not_le.2 h)

theorem excerptFront_append {s : String} (h : s.length = maxExcerpt) (t : String) :
    excerptFront (s ++ t) = s := by
  have hchars : s.toList.length = maxExcerpt := String.length_toList.trans h
  rw [← String.toList_inj, toList_excerptFront, String.toList_append, ← hchars, List.take_left]

theorem excerpt_append {front rest : String} (hfront : front.length = maxExcerpt) (hrest : rest ≠ "") :
    excerpt (front ++ rest) = front ++ "..." := by
  have hlonger : maxExcerpt < (front ++ rest).length := by
    have hpos : 0 < rest.length :=
      Nat.pos_of_ne_zero fun h => hrest (String.length_eq_zero_iff.1 h)
    rw [String.length_append]
    omega
  rw [excerpt_of_lt hlonger, excerptFront_append hfront]

/-- A text is shown as it is, or its first characters are, with three dots. -/
theorem excerpt_cases (s : String) :
    (s.length ≤ maxExcerpt ∧ excerpt s = s) ∨
      ∃ front rest, s = front ++ rest ∧ front.length = maxExcerpt ∧ rest ≠ "" ∧
        excerpt s = front ++ "..." := by
  rcases Nat.lt_or_ge maxExcerpt s.length with h | h
  · refine .inr ⟨excerptFront s, String.ofList (s.toList.drop maxExcerpt), ?_, length_excerptFront h, ?_,
      excerpt_of_lt h⟩
    · rw [← String.toList_inj, String.toList_append, toList_excerptFront, String.toList_ofList,
        List.take_append_drop]
    · intro hrest
      have hdrop := congrArg String.length hrest
      rw [String.length_ofList, List.length_drop, String.length_toList] at hdrop
      exact absurd hdrop (Nat.ne_of_gt (Nat.sub_pos_of_lt h))
  · exact .inl ⟨h, excerpt_of_le h⟩

/-- What was cut is not cut again, dots included. -/
theorem excerpt_excerpt (s : String) : excerpt (excerpt s) = excerpt s := by
  rcases excerpt_cases s with ⟨-, h⟩ | ⟨front, rest, -, hfront, -, h⟩
  · rw [h, h]
  · have hlong : maxExcerpt < (front ++ "...").length := by
      rw [String.length_append, hfront]
      exact Nat.lt_add_of_pos_right (by decide)
    rw [h, excerpt_of_lt hlong, excerptFront_append hfront]

theorem length_excerpt_le (s : String) : (excerpt s).length ≤ 503 := by
  rcases excerpt_cases s with ⟨hle, h⟩ | ⟨front, rest, -, hfront, -, h⟩
  · rw [h]
    exact Nat.le_trans hle (by decide)
  · rw [h, String.length_append, hfront]
    decide

theorem excerpt_ne_empty {s : String} (h : s ≠ "") : excerpt s ≠ "" := by
  rcases excerpt_cases s with ⟨-, heq⟩ | ⟨front, rest, -, hfront, -, heq⟩
  · rwa [heq]
  · intro hempty
    have hlength := congrArg String.length (heq.symm.trans hempty)
    rw [String.length_append, hfront] at hlength
    exact absurd hlength (by decide)

/-! ## The cut in the bytes -/

/-- Where the character with an index starts in the bytes of a text, if there is such a character. -/
def charOffset? (s : String) (n : Nat) : Option Nat :=
  if n < s.length then some (String.ofList (s.toList.take n)).utf8ByteSize else none

/-- Cutting the bytes of a text where its 501st character starts cuts it between two characters, and is
cutting its characters; if there is no such character, nothing is cut. -/
theorem excerpt_eq_of_offset (s : String) :
    (charOffset? s maxExcerpt = none ∧ excerpt s = s) ∨
      ∃ i, charOffset? s maxExcerpt = some i ∧ (⟨i⟩ : String.Pos.Raw).IsValid s ∧
        bytesOf (excerpt s) = (bytesOf s).take i ++ bytesOf "..." := by
  rcases excerpt_cases s with ⟨hle, h⟩ | ⟨front, rest, rfl, hfront, hrest, h⟩
  · exact .inl ⟨if_neg (Nat.not_lt.2 hle), h⟩
  · have hlong : maxExcerpt < (front ++ rest).length := by
      rw [String.length_append, hfront]
      exact Nat.lt_add_of_pos_right (Nat.pos_of_ne_zero (mt String.length_eq_zero_iff.1 hrest))
    refine .inr ⟨front.utf8ByteSize, ?_, String.Pos.Raw.isValid_iff_exists_append.2 ⟨_, _, rfl, rfl⟩, ?_⟩
    · rw [charOffset?, if_pos hlong]
      exact congrArg (fun t => some t.utf8ByteSize) (excerptFront_append hfront rest)
    · rw [h, bytesOf_append, bytesOf_append, ← length_bytesOf, List.take_left]

end ClipRelay
