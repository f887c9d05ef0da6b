import ClipRelay.Proofs.Json.Sequences
import Mathlib.Data.String.Basic

/-!
# Values survive as text

`Json.Plain` says which values are read back from their compact text: the keys of an object stand in
their order, each once, numbers are read as they are written, and brackets are not nested too deep.

* `takes_value`: a plain value is read wherever its text stands.
* `ofText_compact`: its text is read as the value.
* `plain_ofMembers`: the object of members with plain values is plain.
-/

namespace ClipRelay.Json

open Text Read

/-! ## The text of sequences -/

theorem itemChars_eq_joined (items : List Json) : itemChars items = joined (items.map chars) := by
  induction items with
  | nil => rfl
  | cons v items ih =>
    cases items with
    | nil => simp [itemChars, joined]
    | cons w rest => rw [itemChars, ih]; simp [joined]

/-- A member as it stands in an object. -/
def memberText (m : String × Json) : List Char := quoted m.1 ++ ':' :: chars m.2

theorem memberChars_eq_joined (members : List (String × Json)) :
    memberChars members = joined (members.map memberText) := by
  induction members with
  | nil => rfl
  | cons m members ih =>
    obtain ⟨k, v⟩ := m
    cases members with
    | nil => simp [memberChars, joined, memberText]
    | cons m' rest => rw [memberChars, ih]; simp [joined, memberText]

/-! ## Words, keys and numbers -/

theorem chars_null : chars .null = 'n' :: "ull".toList := by decide

theorem chars_true : chars (.bool true) = 't' :: "rue".toList := by decide

theorem chars_false : chars (.bool false) = 'f' :: "alse".toList := by decide

theorem expect_append (word : String) (g : List Glyph) :
    expect word (word.toList.map some ++ g) = .ok g := by
  simp [expect, glyphsOf, ← String.length_toList]

theorem key_memberText (m : String × Json) (rest : List Glyph) :
    key ((memberText m).map some ++ rest) = .ok (m.1, (chars m.2).map some ++ rest) := by
  have htext := textBody_quoted m.1 (some ':' :: ((chars m.2).map some ++ rest))
  simp only [memberText, quoted, List.map_append, List.map_cons, List.cons_append,
    List.nil_append, List.append_assoc, key]
  rw [skipBlanks_cons (by decide)]
  simp only [htext, ok_bind]
  rw [skipBlanks_cons (by decide)]
  simp

theorem opens_memberText (m : String × Json) : ∃ c ∈ (memberText m).head?, Opens c :=
  ⟨'"', rfl, by decide⟩

/-! ## Any value, by its first character -/

section

variable (depth : Nat) (g : List Glyph)

theorem value_null : value depth (some 'n' :: g) = do return (.null, ← expect "ull" g) := by
  unfold value
  rfl

theorem value_true : value depth (some 't' :: g) = do return (.bool true, ← expect "rue" g) := by
  unfold value
  rfl

theorem value_false : value depth (some 'f' :: g) = do return (.bool false, ← expect "alse" g) := by
  unfold value
  rfl

theorem value_text : value depth (some '"' :: g) = do
    let (cs, rest) ← textBody g
    return (.string (String.ofList cs), rest) := by
  unfold value
  rfl

/-- Reads an item of an array. -/
def readItem (items : List Json) (g : List Glyph) : Except Fault (List Json × List Glyph) := do
  let (v, rest) ← value depth g
  return (v :: items, rest)

theorem value_array : value (depth + 1) (some '[' :: g) = do
    let (items, rest) ← sequence ']' (readItem depth) [] g
    return (.array items.reverse, rest) := by
  unfold value
  rfl

/-- Reads a member of an object. -/
def readMember (members : List (String × Json)) (g : List Glyph) :
    Except Fault (List (String × Json) × List Glyph) := do
  let (k, r) ← key g
  let (v, rest) ← value depth r
  return (put k v members, rest)

theorem value_object : value (depth + 1) (some '\x7b' :: g) = do
    let (members, rest) ← sequence '\x7d' (readMember depth) [] g
    return (.object members, rest) := by
  unfold value
  rfl

end

theorem value_number {c : Char} (hc : startsNumber c = true) (depth : Nat) (g : List Glyph) :
    value depth (some c :: g) = do
      let (n, rest) ← Read.number (some c :: g)
      return (.number n, rest) := by
  unfold value
  rw [skipBlanks_cons (opens_of_startsNumber hc).1]
  split
  case h_1 heq | h_2 heq | h_3 heq | h_4 heq | h_5 heq | h_6 heq =>
    cases heq
    exact absurd hc (by decide)
  case h_7 heq =>
    cases heq
    rw [if_pos hc]
  case h_8 hother => exact absurd rfl (hother c g)

/-- A number that is read starts with a digit or a sign. -/
theorem startsNumber_of_number {n : JsonNumber} {g r : List Glyph} (h : Read.number g = .ok (n, r)) :
    ∃ c g', g = some c :: g' ∧ startsNumber c = true := by
  simp only [Read.number, bind_eq_ok, Prod.exists] at h
  obtain ⟨m, r', hm, -⟩ := h
  by_cases hminus : ∃ g', g = some '-' :: g'
  · obtain ⟨g', rfl⟩ := hminus
    exact ⟨'-', g', rfl, by decide⟩
  · rw [numeral_of_ne_minus fun g' hg' => hminus ⟨g', hg'⟩, unsigned_eq_ok_iff] at hm
    obtain ⟨-, g₁, -, hwhole, -⟩ := hm
    obtain ⟨hspan, hne, -⟩ := wholePart_eq_ok_iff.1 hwhole
    have hfirst : (spanDigits g).1 ≠ [] := by rwa [hspan]
    unfold spanDigits at hfirst
    split at hfirst
    · rename_i c g'
      refine ⟨c, g', rfl, ?_⟩
      split at hfirst
      · rename_i hc
        simp [startsNumber, hc]
      · exact absurd rfl hfirst
    · exact absurd rfl hfirst

theorem exists_startsNumber {n : JsonNumber} (h : ReadsBack n) :
    ∃ c cs, numberChars n = c :: cs ∧ startsNumber c = true := by
  obtain ⟨c, g, hg, hc⟩ := startsNumber_of_number h
  cases hchars : numberChars n with
  | nil =>
    rw [hchars] at hg
    cases hg
  | cons c' cs =>
    rw [hchars] at hg
    cases hg
    exact ⟨c, cs, rfl, hc⟩

/-! ## Plain values -/

/-- A value that is read back, nested at most this deep. -/
inductive Plain : Nat → Json → Prop
  | null {height : Nat} : Plain height .null
  | bool {height : Nat} (b : Bool) : Plain height (.bool b)
  | number {height : Nat} {n : JsonNumber} (h : ReadsBack n) : Plain height (.number n)
  | string {height : Nat} (s : String) : Plain height (.string s)
  | array {height : Nat} {items : List Json} (h : ∀ v ∈ items, Plain height v) :
    Plain (height + 1) (.array items)
  | object {height : Nat} {members : List (String × Json)} (h : ∀ m ∈ members, Plain height m.2)
    (sorted : members.Pairwise fun m m' => m.1 < m'.1) : Plain (height + 1) (.object members)

theorem Plain.opens {height : Nat} {v : Json} (h : Plain height v) :
    ∃ c ∈ (chars v).head?, Opens c := by
  cases h with
  | null => exact ⟨'n', rfl, by decide⟩
  | bool b => cases b <;> exact ⟨_, rfl, by decide⟩
  | @number _ n hn =>
    obtain ⟨c, cs, hcs, hc⟩ := exists_startsNumber hn
    exact ⟨c, by rw [chars, hcs]; rfl, opens_of_startsNumber hc⟩
  | string s => exact ⟨'"', rfl, by decide⟩
  | array => exact ⟨'[', rfl, by decide⟩
  | object => exact ⟨'\x7b', rfl, by decide⟩

/-- A key behind all others is added behind them. -/
theorem put_of_lt {k : String} {members : List (String × Json)} (v : Json)
    (h : ∀ m ∈ members, m.1 < k) : put k v members = members ++ [(k, v)] := by
  induction members with
  | nil => rfl
  | cons m members ih =>
    have hm := h m List.mem_cons_self
    rw [put, if_neg (ne_of_gt hm), if_neg (lt_asymm hm),
      ih fun m' hm' => h m' (List.mem_cons_of_mem _ hm')]
    rfl

section

variable {height depth : Nat}

theorem goes_items (hdepth : height ≤ depth) {items : List Json}
    (h : ∀ v ∈ items, Takes value height (chars v) v) (before : List Json) :
    Goes (readItem depth) before (items.map chars) (items.reverse ++ before) := by
  induction items generalizing before with
  | nil => exact .done before
  | cons v items ih =>
    have hmore := ih (fun w hw => h w (List.mem_cons_of_mem _ hw)) (v :: before)
    rw [List.reverse_cons, List.append_assoc]
    refine .next (fun rest hrest => ?_) hmore
    rw [readItem, h v List.mem_cons_self depth rest hdepth hrest]
    rfl

theorem goes_members (hdepth : height ≤ depth) {members : List (String × Json)}
    (h : ∀ m ∈ members, Takes value height (chars m.2) m.2) (before : List (String × Json))
    (sorted : (before ++ members).Pairwise fun m m' => m.1 < m'.1) :
    Goes (readMember depth) before (members.map memberText) (before ++ members) := by
  induction members generalizing before with
  | nil =>
    rw [List.append_nil]
    exact .done before
  | cons m members ih =>
    rw [← List.singleton_append, ← List.append_assoc] at sorted ⊢
    have hmore := ih (fun m' hm' => h m' (List.mem_cons_of_mem _ hm')) _ sorted
    have hbefore : ∀ m' ∈ before, m'.1 < m.1 := fun m' hm' =>
      (List.pairwise_append.1 (List.pairwise_append.1 sorted).1).2.2 m' hm' m (by simp)
    refine .next (fun rest hrest => ?_) hmore
    rw [readMember, key_memberText, ok_bind]
    simp only [h m List.mem_cons_self depth rest hdepth hrest, ok_bind, put_of_lt _ hbefore]
    rfl

end

/-- A plain value is read wherever its text stands. -/
theorem takes_value {height : Nat} {v : Json} (h : Plain height v) :
    Takes value height (chars v) v := by
  induction h with
  | null =>
    intro depth rest _ _
    rw [chars_null, List.map_cons, List.cons_append, value_null, expect_append]
    rfl
  | bool b =>
    intro depth rest _ _
    cases b with
    | true =>
      rw [chars_true, List.map_cons, List.cons_append, value_true, expect_append]
      rfl
    | false =>
      rw [chars_false, List.map_cons, List.cons_append, value_false, expect_append]
      rfl
  | @number height n hn =>
    intro depth rest _ hrest
    obtain ⟨c, cs, hcs, hc⟩ := exists_startsNumber hn
    have hnumber := hn.number_append hrest
    simp only [chars, hcs, List.map_cons, List.cons_append] at hnumber ⊢
    rw [value_number hc, hnumber]
    rfl
  | string s =>
    intro depth rest _ _
    simp only [chars, quoted, List.map_append, List.map_cons, List.map_nil, List.cons_append,
      List.nil_append, List.append_assoc]
    rw [value_text, textBody_quoted]
    simp
  | @array height items h ih =>
    intro depth rest hdepth _
    obtain ⟨depth, rfl⟩ := Nat.exists_eq_succ_of_ne_zero (Nat.ne_of_gt (Nat.zero_lt_of_lt hdepth))
    have hgoes := goes_items (Nat.le_of_succ_le_succ hdepth) ih []
    have hopens : ∀ cs ∈ items.map chars, ∃ c ∈ cs.head?, Opens c := by
      simp only [List.forall_mem_map]
      exact fun v hv => (h v hv).opens
    simp only [chars, itemChars_eq_joined, List.map_append, List.map_cons, List.map_nil,
      List.cons_append, List.nil_append, List.append_assoc]
    rw [value_array, sequence_joined hgoes hopens (.inl rfl)]
    simp
  | @object height members h sorted ih =>
    intro depth rest hdepth _
    obtain ⟨depth, rfl⟩ := Nat.exists_eq_succ_of_ne_zero (Nat.ne_of_gt (Nat.zero_lt_of_lt hdepth))
    have hgoes := goes_members (Nat.le_of_succ_le_succ hdepth) ih [] sorted
    have hopens : ∀ cs ∈ members.map memberText, ∃ c ∈ cs.head?, Opens c := by
      simp only [List.forall_mem_map]
      exact fun m _ => opens_memberText m
    simp only [chars, memberChars_eq_joined, List.map_append, List.map_cons, List.map_nil,
      List.cons_append, List.nil_append, List.append_assoc]
    rw [value_object, sequence_joined hgoes hopens (.inr rfl)]
    simp

/-- The compact text of a plain value is read as that value. -/
theorem ofText_compact {v : Json} (h : Plain maxDepth v) : ofText v.compact = .ok v := by
  have htakes := takes_value h maxDepth [] (Nat.le_refl _) ends_nil
  rw [List.append_nil] at htakes
  rw [ofText, readAll, glyphsOf, compact, String.toList_ofList, htakes]
  rfl

/-! ## Objects of members -/

section

variable {height : Nat} {members : List (String × Json)}

theorem mem_of_mem_put {k : String} {v : Json} {m : String × Json} (h : m ∈ put k v members) :
    m = (k, v) ∨ m ∈ members := by
  induction members with
  | nil => exact .inl (List.mem_singleton.1 h)
  | cons m' members ih =>
    rw [put] at h
    split_ifs at h
    · rcases List.mem_cons.1 h with h | h
      · exact .inl h
      · exact .inr (List.mem_cons_of_mem _ h)
    · exact List.mem_cons.1 h
    · rcases List.mem_cons.1 h with rfl | h
      · exact .inr List.mem_cons_self
      · exact (ih h).imp_right (List.mem_cons_of_mem _)

/-- Adding a member keeps the keys in their order. -/
theorem sorted_put (k : String) (v : Json) (h : members.Pairwise fun m m' => m.1 < m'.1) :
    (put k v members).Pairwise fun m m' => m.1 < m'.1 := by
  induction members with
  | nil => exact List.pairwise_singleton _ _
  | cons m members ih =>
    obtain ⟨hfirst, hrest⟩ := List.pairwise_cons.1 h
    rw [put]
    split_ifs with heq hlt
    · subst heq
      exact List.pairwise_cons.2 ⟨hfirst, hrest⟩
    · refine List.pairwise_cons.2 ⟨fun m' hm' => ?_, h⟩
      rcases List.mem_cons.1 hm' with rfl | hm'
      · exact hlt
      · exact lt_trans hlt (hfirst m' hm')
    · refine List.pairwise_cons.2 ⟨fun m' hm' => ?_, ih hrest⟩
      rcases mem_of_mem_put hm' with rfl | hm'
      · exact lt_of_le_of_ne (not_lt.1 hlt) (Ne.symm heq)
      · exact hfirst m' hm'

/-- The object of members with plain values is plain, whatever their order. -/
theorem plain_ofMembers (h : ∀ m ∈ members, Plain height m.2) :
    Plain (height + 1) (ofMembers members) := by
  have hfold : ∀ before : List (String × Json), (∀ m ∈ before, Plain height m.2) →
      (before.Pairwise fun m m' => m.1 < m'.1) →
      Plain (height + 1) (.object (members.foldl (fun ms m => put m.1 m.2 ms) before)) := by
    induction members with
    | nil => exact fun before hplain hsorted => .object hplain hsorted
    | cons m members ih =>
      intro before hplain hsorted
      refine ih (fun m' hm' => h m' (List.mem_cons_of_mem _ hm')) _ (fun m' hm' => ?_)
        (sorted_put _ _ hsorted)
      rcases mem_of_mem_put hm' with rfl | hm'
      · exact h m List.mem_cons_self
      · exact hplain m' hm'
  exact hfold [] (fun m hm => absurd hm List.not_mem_nil) List.Pairwise.nil

end

end ClipRelay.Json
