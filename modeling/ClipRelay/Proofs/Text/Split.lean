import ClipRelay.Text.Search
import Mathlib.Data.List.Basic

/-!
# Pieces between separators

Pieces hold no separator (`notMem_of_mem_splitOnChar`), and a separator between two texts cuts there
(`splitOnChar_append`, `splitOnChar_intercalate`). A text is cut in one way at its first separator
(`cutAt?_eq_some_iff`), and in one way at its last (`append_cons_inj_of_notMem`).
-/

namespace ClipRelay.Text

/-- A list is cut in one way at a last element. -/
theorem append_cons_inj_of_notMem {α : Type} {a : α} {xs xs' zs zs' : List α} (hz : a ∉ zs)
    (hz' : a ∉ zs') (h : xs ++ a :: zs = xs' ++ a :: zs') : xs = xs' ∧ zs = zs' := by
  have hrev : zs.reverse ++ a :: xs.reverse = zs'.reverse ++ a :: xs'.reverse := by
    simpa using congrArg List.reverse h
  rcases List.append_eq_append_iff.1 hrev with ⟨ys, h₁, h₂⟩ | ⟨ys, h₁, h₂⟩
  · cases ys with
    | nil => simp_all
    | cons y ys =>
      obtain ⟨rfl, -⟩ := List.cons.inj h₂
      exact absurd (by rw [← List.mem_reverse, h₁]; simp) hz'
  · cases ys with
    | nil => simp_all
    | cons y ys =>
      obtain ⟨rfl, -⟩ := List.cons.inj h₂
      exact absurd (by rw [← List.mem_reverse, h₁]; simp) hz

variable {separator : Char}

theorem splitOnChar_ne_nil (cs : List Char) : splitOnChar separator cs ≠ [] := by
  cases cs with
  | nil => simp [splitOnChar]
  | cons c cs =>
    rw [splitOnChar]
    split
    · simp
    · split <;> simp

theorem splitOnChar_append (before after : List Char) :
    splitOnChar separator (before ++ separator :: after) =
      splitOnChar separator before ++ splitOnChar separator after := by
  induction before with
  | nil => simp [splitOnChar]
  | cons c before ih =>
    simp only [List.cons_append, splitOnChar]
    by_cases hc : c = separator
    · simp [hc, ih]
    · simp only [hc, if_false, ih]
      cases hs : splitOnChar separator before with
      | nil => exact absurd hs (splitOnChar_ne_nil before)
      | cons piece pieces => rfl

theorem splitOnChar_of_notMem {cs : List Char} (h : separator ∉ cs) :
    splitOnChar separator cs = [cs] := by
  induction cs with
  | nil => rfl
  | cons c cs ih =>
    obtain ⟨hc, hcs⟩ := not_or.1 (mt List.mem_cons.2 h)
    rw [splitOnChar, if_neg (Ne.symm hc), ih hcs]

theorem notMem_of_mem_splitOnChar {cs piece : List Char} (h : piece ∈ splitOnChar separator cs) :
    separator ∉ piece := by
  induction cs generalizing piece with
  | nil =>
    obtain rfl : piece = [] := by simpa [splitOnChar] using h
    simp
  | cons c cs ih =>
    rw [splitOnChar] at h
    by_cases hc : c = separator
    · rw [if_pos hc] at h
      rcases List.mem_cons.1 h with rfl | h
      · simp
      · exact ih h
    · rw [if_neg hc] at h
      cases hs : splitOnChar separator cs with
      | nil => exact absurd hs (splitOnChar_ne_nil cs)
      | cons first pieces =>
        rw [hs] at h ih
        rcases List.mem_cons.1 h with rfl | h
        · have hfirst := ih List.mem_cons_self
          simp [hfirst, Ne.symm hc]
        · exact ih (List.mem_cons_of_mem _ h)

theorem splitOnChar_intercalate {pieces : List (List Char)} (hp : pieces ≠ [])
    (h : ∀ piece ∈ pieces, separator ∉ piece) :
    splitOnChar separator ([separator].intercalate pieces) = pieces := by
  induction pieces with
  | nil => exact absurd rfl hp
  | cons piece pieces ih =>
    have hpiece : splitOnChar separator piece = [piece] :=
      splitOnChar_of_notMem (h piece List.mem_cons_self)
    cases pieces with
    | nil => simpa using hpiece
    | cons next pieces =>
      have hrest := ih (List.cons_ne_nil _ _) fun p hp => h p (List.mem_cons_of_mem _ hp)
      rw [List.intercalate_cons_cons, List.append_assoc, List.singleton_append, splitOnChar_append,
        hpiece, hrest]
      rfl

theorem cutAt?_eq_some_iff {cs before after : List Char} :
    cutAt? separator cs = some (before, after) ↔
      cs = before ++ separator :: after ∧ separator ∉ before := by
  induction cs generalizing before with
  | nil => simp [cutAt?]
  | cons c cs ih =>
    rw [cutAt?]
    split
    · rename_i hc
      subst hc
      cases before <;> simp +contextual [eq_comm]
    · rename_i hc
      rw [Option.map_eq_some_iff]
      constructor
      · rintro ⟨⟨before', after'⟩, hcut, heq⟩
        cases heq
        obtain ⟨rfl, hno⟩ := ih.1 hcut
        exact ⟨rfl, fun hmem => (List.mem_cons.1 hmem).elim (Ne.symm hc) hno⟩
      · rintro ⟨heq, hno⟩
        cases before with
        | nil => exact absurd (List.cons.inj heq).1 hc
        | cons b before =>
          obtain ⟨rfl, rfl⟩ := List.cons.inj heq
          exact ⟨(before, after), ih.2 ⟨rfl, fun hmem => hno (List.mem_cons_of_mem _ hmem)⟩, rfl⟩

end ClipRelay.Text
