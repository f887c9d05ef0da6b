import ClipRelay.Proofs.Json.Values

/-!
# The grammar of JSON

`IsJson` is the grammar by itself, without limits on sizes and nesting. A reader keeps to it: what it
reads, and what it skips, is JSON (`Sound`). So a text that is no JSON is read by none of them.

* `passes_textBody`, `passes_numeral`: the tokens.
* `passes_sequence`: items between brackets.
* `sound_value`, `passesJson_skip`: any value.
* `sound_record`: the records.
* `isJson_of_readAll`: whole texts.
-/

namespace ClipRelay.Json

open Text Read

/-! ## The grammar -/

def IsBlank (c : Char) : Prop := c = ' ' ∨ c = '\t' ∨ c = '\n' ∨ c = '\r'

def IsDigits (cs : List Char) : Prop := cs ≠ [] ∧ ∀ c ∈ cs, c.isDigit = true

/-- A zero alone, or digits that start with another one. -/
def IsWhole (cs : List Char) : Prop := IsDigits cs ∧ (cs.head? = some '0' → cs = ['0'])

/-- A point with digits behind it, or nothing. -/
def IsFraction (cs : List Char) : Prop := cs = [] ∨ ∃ ds, cs = '.' :: ds ∧ IsDigits ds

/-- An `e` with an optional sign and digits, or nothing. -/
def IsExponent (cs : List Char) : Prop :=
  cs = [] ∨ ∃ c sign ds, cs = c :: (sign ++ ds) ∧ (c = 'e' ∨ c = 'E') ∧
    (sign = [] ∨ sign = ['+'] ∨ sign = ['-']) ∧ IsDigits ds

def IsNumeral (cs : List Char) : Prop :=
  ∃ sign whole fraction exponent, cs = sign ++ whole ++ fraction ++ exponent ∧
    (sign = [] ∨ sign = ['-']) ∧ IsWhole whole ∧ IsFraction fraction ∧ IsExponent exponent

def IsHexDigit (c : Char) : Prop :=
  c.isDigit = true ∨ ('a' ≤ c ∧ c ≤ 'f') ∨ ('A' ≤ c ∧ c ≤ 'F')

/-- The letters of the escapes of one letter. -/
def escapeLetters : List Char := ['"', '\\', '/', 'b', 'f', 'n', 'r', 't']

/-- What stands between the quotes of a text. -/
inductive IsTextBody : List Char → Prop
  | nil : IsTextBody []
  | char {c : Char} {cs : List Char} (hc : 0x20 ≤ c.toNat) (hquote : c ≠ '"') (hslash : c ≠ '\\')
    (h : IsTextBody cs) : IsTextBody (c :: cs)
  | escape {e : Char} {cs : List Char} (he : e ∈ escapeLetters) (h : IsTextBody cs) :
    IsTextBody ('\\' :: e :: cs)
  | unit {a b c d : Char} {cs : List Char} (hdigits : ∀ x ∈ [a, b, c, d], IsHexDigit x)
    (h : IsTextBody cs) : IsTextBody ('\\' :: 'u' :: a :: b :: c :: d :: cs)

/-- The name of a member, with blanks around it. -/
def IsKey (cs : List Char) : Prop :=
  ∃ before body after, cs = before ++ '"' :: (body ++ '"' :: after) ∧ (∀ c ∈ before, IsBlank c) ∧
    IsTextBody body ∧ ∀ c ∈ after, IsBlank c

/-- A name and a value, with the colon between them. -/
def keyed (m : List Char × List Char) : List Char := m.1 ++ ':' :: m.2

/-- The characters are a value, with blanks around it. -/
inductive IsJson : List Char → Prop
  | blankBefore {c : Char} {cs : List Char} (hc : IsBlank c) (h : IsJson cs) : IsJson (c :: cs)
  | blankAfter {c : Char} {cs : List Char} (h : IsJson cs) (hc : IsBlank c) : IsJson (cs ++ [c])
  | null : IsJson "null".toList
  | true : IsJson "true".toList
  | false : IsJson "false".toList
  | text {body : List Char} (h : IsTextBody body) : IsJson ('"' :: (body ++ ['"']))
  | numeral {cs : List Char} (h : IsNumeral cs) : IsJson cs
  | array {blanks : List Char} {items : List (List Char)} (hblanks : ∀ c ∈ blanks, IsBlank c)
    (h : ∀ cs ∈ items, IsJson cs) : IsJson ('[' :: (blanks ++ joined items ++ [']']))
  | object {blanks : List Char} {members : List (List Char × List Char)}
    (hblanks : ∀ c ∈ blanks, IsBlank c) (hkeys : ∀ m ∈ members, IsKey m.1)
    (h : ∀ m ∈ members, IsJson m.2) :
    IsJson ('\x7b' :: (blanks ++ joined (members.map keyed) ++ ['\x7d']))

theorem IsJson.blanksBefore {blanks cs : List Char} (hblanks : ∀ c ∈ blanks, IsBlank c)
    (h : IsJson cs) : IsJson (blanks ++ cs) := by
  induction blanks with
  | nil => exact h
  | cons c blanks ih =>
    exact .blankBefore (hblanks c List.mem_cons_self)
      (ih fun d hd => hblanks d (List.mem_cons_of_mem _ hd))

theorem IsJson.blanksAfter {blanks cs : List Char} (h : IsJson cs)
    (hblanks : ∀ c ∈ blanks, IsBlank c) : IsJson (cs ++ blanks) := by
  induction blanks generalizing cs with
  | nil => rwa [List.append_nil]
  | cons c blanks ih =>
    rw [List.append_cons]
    exact ih (h.blankAfter (hblanks c List.mem_cons_self))
      fun d hd => hblanks d (List.mem_cons_of_mem _ hd)

namespace Read

/-! ## What is passed over -/

/-- The text goes on with these characters up to `rest`. -/
def Passes (g : List Glyph) (cs : List Char) (rest : List Glyph) : Prop :=
  ∃ ds, g = ds ++ rest ∧ ds.map (·.getD '\uFFFD') = cs

variable {g r rest : List Glyph} {cs ds : List Char}

theorem Passes.refl (g : List Glyph) : Passes g [] g := ⟨[], rfl, rfl⟩

theorem Passes.cons (c : Char) (h : Passes g cs rest) : Passes (some c :: g) (c :: cs) rest := by
  obtain ⟨ds, rfl, rfl⟩ := h
  exact ⟨some c :: ds, rfl, rfl⟩

theorem Passes.trans (h : Passes g cs r) (h' : Passes r ds rest) : Passes g (cs ++ ds) rest := by
  obtain ⟨xs, rfl, rfl⟩ := h
  obtain ⟨ys, rfl, rfl⟩ := h'
  exact ⟨xs ++ ys, (List.append_assoc ..).symm, List.map_append⟩

/-- One more character behind what has been passed over. -/
theorem Passes.concat {c : Char} (h : Passes g cs (some c :: rest)) : Passes g (cs ++ [c]) rest :=
  h.trans ((Passes.refl rest).cons c)

theorem passes_map (cs : List Char) (rest : List Glyph) : Passes (cs.map some ++ rest) cs rest :=
  ⟨cs.map some, rfl, by simp⟩

theorem isBlank_of_isJsonBlank {c : Char} (h : isJsonBlank c = true) : IsBlank c := by
  simpa [isJsonBlank, IsBlank, or_assoc] using h

theorem passes_skipBlanks (g : List Glyph) :
    ∃ blanks, (∀ c ∈ blanks, IsBlank c) ∧ Passes g blanks (skipBlanks g) := by
  induction g with
  | nil => exact ⟨[], List.forall_mem_nil _, .refl _⟩
  | cons x g ih =>
    unfold skipBlanks at ih ⊢
    rw [List.dropWhile_cons]
    split
    · rename_i hx
      obtain ⟨c, rfl, hc⟩ := (Option.any_eq_true ..).1 hx
      obtain ⟨blanks, hblanks, hpass⟩ := ih
      exact ⟨c :: blanks, List.forall_mem_cons.2 ⟨isBlank_of_isJsonBlank hc, hblanks⟩, hpass.cons c⟩
    · exact ⟨[], List.forall_mem_nil _, .refl _⟩

/-- Blanks and the character behind them. -/
theorem passes_blanks_cons {c : Char} (h : skipBlanks g = some c :: r) :
    ∃ blanks, (∀ c ∈ blanks, IsBlank c) ∧ Passes g blanks (some c :: r) :=
  h ▸ passes_skipBlanks g

theorem passes_expect {word : String} (h : expect word g = .ok rest) :
    Passes g word.toList rest := by
  unfold expect at h
  split at h
  · rename_i hprefix
    obtain ⟨r, rfl⟩ := List.isPrefixOf_iff_prefix.1 hprefix
    cases h
    rw [← String.length_toList, glyphsOf, List.drop_left' (by simp)]
    exact passes_map _ _
  · cases h

/-! ## Tokens -/

theorem isHexDigit_of_hexValue? {x : Glyph} {n : Nat} (h : hexValue? x = some n) :
    ∃ c, x = some c ∧ IsHexDigit c := by
  unfold hexValue? at h
  split at h
  · rename_i c
    refine ⟨c, rfl, ?_⟩
    split at h
    · exact .inl ‹_›
    · split at h
      · exact .inr (.inl ‹_›)
      · split at h
        · exact .inr (.inr ‹_›)
        · cases h
  · cases h

theorem passes_codeUnit? {a b c d : Glyph} {n : Nat} (h : codeUnit? a b c d = some n) :
    ∃ a' b' c' d', [a, b, c, d] = [some a', some b', some c', some d'] ∧
      ∀ x ∈ [a', b', c', d'], IsHexDigit x := by
  simp only [codeUnit?, Option.bind_eq_bind, Option.bind_eq_some_iff] at h
  obtain ⟨_, ha, _, hb, _, hc, _, hd, -⟩ := h
  obtain ⟨a, rfl, hexA⟩ := isHexDigit_of_hexValue? ha
  obtain ⟨b, rfl, hexB⟩ := isHexDigit_of_hexValue? hb
  obtain ⟨c, rfl, hexC⟩ := isHexDigit_of_hexValue? hc
  obtain ⟨d, rfl, hexD⟩ := isHexDigit_of_hexValue? hd
  exact ⟨a, b, c, d, rfl, by simp [hexA, hexB, hexC, hexD]⟩

theorem mem_escapeLetters {e c : Char} (h : escaped? e = some c) : e ∈ escapeLetters := by
  unfold escaped? at h
  split at h
  all_goals first | decide | cases h

/-- Characters up to a closing quote that is passed over as well. -/
def PassesBody (g rest : List Glyph) : Prop :=
  ∃ body, IsTextBody body ∧ Passes g (body ++ ['"']) rest

theorem PassesBody.nil (g : List Glyph) : PassesBody (some '"' :: g) g :=
  ⟨[], .nil, (Passes.refl g).cons _⟩

theorem PassesBody.char {c : Char} (hc : 0x20 ≤ c.toNat) (hquote : c ≠ '"') (hslash : c ≠ '\\')
    (h : PassesBody g rest) : PassesBody (some c :: g) rest := by
  obtain ⟨body, hbody, hpass⟩ := h
  exact ⟨c :: body, .char hc hquote hslash hbody, hpass.cons c⟩

/-- Bytes that are no characters pass as one. -/
theorem PassesBody.lost (h : PassesBody g rest) : PassesBody (none :: g) rest := by
  obtain ⟨body, hbody, ds, rfl, hds⟩ := h
  exact ⟨'\uFFFD' :: body, .char (by decide) (by decide) (by decide) hbody, none :: ds, rfl,
    congrArg _ hds⟩

theorem PassesBody.escape {e : Char} (he : e ∈ escapeLetters) (h : PassesBody g rest) :
    PassesBody (some '\\' :: some e :: g) rest := by
  obtain ⟨body, hbody, hpass⟩ := h
  exact ⟨'\\' :: e :: body, .escape he hbody, (hpass.cons e).cons '\\'⟩

theorem PassesBody.unit {a b c d : Glyph} {n : Nat} (hunit : codeUnit? a b c d = some n)
    (h : PassesBody g rest) :
    PassesBody (some '\\' :: some 'u' :: a :: b :: c :: d :: g) rest := by
  obtain ⟨a, b, c, d, heq, hdigits⟩ := passes_codeUnit? hunit
  cases heq
  obtain ⟨body, hbody, hpass⟩ := h
  exact ⟨_, .unit hdigits hbody, (((((hpass.cons d).cons c).cons b).cons a).cons 'u').cons '\\'⟩

theorem PassesBody.ofCode {c : Char} (hquote : c ≠ '"')
    (hc : ¬ (decide (c.toNat < 0x20) || decide (c = '\\')) = true) (h : PassesBody g rest) :
    PassesBody (some c :: g) rest := by
  simp only [Bool.or_eq_true, decide_eq_true_eq, not_or, Nat.not_lt] at hc
  exact h.char hc.1 hquote hc.2

theorem passes_textBody (h : textBody g = .ok (cs, rest)) : PassesBody g rest := by
  fun_induction textBody g generalizing cs with
  | case1 =>
    cases h
    exact .nil _
  | case5 _ _ _ _ _ hunit _ _ _ _ _ _ _ _ hunit' _ ih =>
    obtain ⟨⟨ds, r⟩, hbody, heq⟩ := bind_eq_ok.1 h
    cases heq
    exact ((ih hbody).unit hunit').unit hunit
  | case8 _ _ _ _ _ _ hunit _ _ ih =>
    obtain ⟨⟨ds, r⟩, hbody, heq⟩ := bind_eq_ok.1 h
    cases heq
    exact (ih hbody).unit hunit
  | case10 _ _ _ _ hescaped ih =>
    obtain ⟨⟨ds, r⟩, hbody, heq⟩ := bind_eq_ok.1 h
    cases heq
    exact (ih hbody).escape (mem_escapeLetters hescaped)
  | case12 _ _ hquote _ _ hc ih =>
    obtain ⟨⟨ds, r⟩, hbody, heq⟩ := bind_eq_ok.1 h
    cases heq
    exact (ih hbody).ofCode hquote hc
  | _ => cases h

theorem passes_skipTextBody (h : skipTextBody g = .ok rest) : PassesBody g rest := by
  fun_induction skipTextBody g with
  | case1 =>
    cases h
    exact .nil _
  | case2 _ _ _ _ _ hunit ih =>
    obtain ⟨n, hunit⟩ := Option.isSome_iff_exists.1 hunit
    exact (ih h).unit hunit
  | case4 _ _ _ hescaped ih =>
    obtain ⟨c, hescaped⟩ := Option.isSome_iff_exists.1 hescaped
    exact (ih h).escape (mem_escapeLetters hescaped)
  | case7 _ _ hquote _ _ hc ih => exact (ih h).ofCode hquote hc
  | case8 _ ih => exact (ih h).lost
  | _ => cases h

/-! ## Numbers -/

theorem passes_spanDigits (g : List Glyph) :
    (∀ d ∈ (spanDigits g).1, d.isDigit = true) ∧ Passes g (spanDigits g).1 (spanDigits g).2 := by
  induction g with
  | nil => exact ⟨List.forall_mem_nil _, .refl _⟩
  | cons x g ih =>
    cases x with
    | none => exact ⟨List.forall_mem_nil _, .refl _⟩
    | some c =>
      cases hc : c.isDigit with
      | false => simpa [spanDigits, hc] using Passes.refl _
      | true =>
        simp only [spanDigits, hc, if_true]
        exact ⟨List.forall_mem_cons.2 ⟨hc, ih.1⟩, ih.2.cons c⟩

theorem isDigits_of_spanDigits (h : spanDigits g = (ds, rest)) (hne : ds ≠ []) :
    IsDigits ds ∧ Passes g ds rest := by
  obtain ⟨hdigits, hpass⟩ := passes_spanDigits g
  rw [h] at hdigits hpass
  exact ⟨⟨hne, hdigits⟩, hpass⟩

theorem passes_wholePart (h : wholePart g = .ok (ds, rest)) : IsWhole ds ∧ Passes g ds rest := by
  obtain ⟨hspan, hne, hzero⟩ := wholePart_eq_ok_iff.1 h
  obtain ⟨hdigits, hpass⟩ := isDigits_of_spanDigits hspan hne
  refine ⟨⟨hdigits, fun hhead => ?_⟩, hpass⟩
  obtain ⟨cs, rfl⟩ := List.head?_eq_some_iff.1 hhead
  cases cs with
  | nil => rfl
  | cons c cs => exact absurd rfl (hzero c cs)

theorem passes_fractionPart (h : fractionPart g = .ok (ds, rest)) :
    ∃ cs, IsFraction cs ∧ Passes g cs rest := by
  unfold fractionPart at h
  split at h
  · rename_i r
    split at h
    · cases h
    · rename_i hne
      obtain ⟨hdigits, hpass⟩ := isDigits_of_spanDigits (Except.ok.inj h) fun hnil => by
        subst hnil
        exact hne _ (Except.ok.inj h)
      exact ⟨'.' :: ds, .inr ⟨ds, rfl, hdigits⟩, hpass.cons '.'⟩
  · cases h
    exact ⟨[], .inl rfl, .refl _⟩

theorem passes_exponentDigits {negative : Bool} {e : Option Int}
    (h : exponentDigits negative g = .ok (e, rest)) : ∃ ds, IsDigits ds ∧ Passes g ds rest := by
  unfold exponentDigits at h
  split at h
  · cases h
  · rename_i ds r hne hspan
    cases h
    exact ⟨ds, isDigits_of_spanDigits hspan hne⟩

theorem passes_exponentPart {e : Option Int} (h : exponentPart g = .ok (e, rest)) :
    ∃ cs, IsExponent cs ∧ Passes g cs rest := by
  have signed {sign : List Char} {c : Char} {g r : List Glyph} {negative : Bool}
      (hc : (decide (c = 'e') || decide (c = 'E')) = true)
      (hsign : sign = [] ∨ sign = ['+'] ∨ sign = ['-']) (hpass : Passes g sign r)
      (h : exponentDigits negative r = .ok (e, rest)) :
      ∃ cs, IsExponent cs ∧ Passes (some c :: g) cs rest := by
    obtain ⟨ds, hdigits, hdigitsPass⟩ := passes_exponentDigits h
    refine ⟨c :: (sign ++ ds), .inr ⟨c, sign, ds, rfl, ?_, hsign, hdigits⟩,
      (hpass.trans hdigitsPass).cons c⟩
    simpa using hc
  unfold exponentPart at h
  split at h
  · split at h
    · rename_i hc
      split at h
      · exact signed hc (.inr (.inr rfl)) ((Passes.refl _).cons '-') h
      · exact signed hc (.inr (.inl rfl)) ((Passes.refl _).cons '+') h
      · exact signed hc (.inl rfl) (.refl _) h
    · cases h
      exact ⟨[], .inl rfl, .refl _⟩
  · cases h
    exact ⟨[], .inl rfl, .refl _⟩

theorem passes_unsigned {negative : Bool} {n : Numeral} (h : unsigned negative g = .ok (n, rest)) :
    ∃ whole fraction exponent, IsWhole whole ∧ IsFraction fraction ∧ IsExponent exponent ∧
      Passes g (whole ++ fraction ++ exponent) rest := by
  obtain ⟨-, g₁, g₂, hwhole, hfraction, hexponent⟩ := unsigned_eq_ok_iff.1 h
  obtain ⟨isWhole, passWhole⟩ := passes_wholePart hwhole
  obtain ⟨fraction, isFraction, passFraction⟩ := passes_fractionPart hfraction
  obtain ⟨exponent, isExponent, passExponent⟩ := passes_exponentPart hexponent
  exact ⟨_, fraction, exponent, isWhole, isFraction, isExponent,
    (passWhole.trans passFraction).trans passExponent⟩

theorem passes_numeral {n : Numeral} (h : numeral g = .ok (n, rest)) :
    ∃ cs, IsNumeral cs ∧ Passes g cs rest := by
  by_cases hminus : ∃ g', g = some '-' :: g'
  · obtain ⟨g', rfl⟩ := hminus
    obtain ⟨whole, fraction, exponent, isWhole, isFraction, isExponent, hpass⟩ := passes_unsigned h
    refine ⟨['-'] ++ whole ++ fraction ++ exponent, ⟨_, _, _, _, rfl, .inr rfl, isWhole,
      isFraction, isExponent⟩, ?_⟩
    simpa using hpass.cons '-'
  · rw [numeral_of_ne_minus fun g' hg' => hminus ⟨g', hg'⟩] at h
    obtain ⟨whole, fraction, exponent, isWhole, isFraction, isExponent, hpass⟩ := passes_unsigned h
    exact ⟨[] ++ whole ++ fraction ++ exponent, ⟨_, _, _, _, rfl, .inl rfl, isWhole, isFraction,
      isExponent⟩, hpass⟩

/-! ## Items between brackets -/

section

variable {σ : Type} {item : σ → List Glyph → Except Fault (σ × List Glyph)} {s s' : σ}
  {close : Char} {P : List Char → Prop}

section

variable (hpad : ∀ {cs blanks}, P cs → (∀ c ∈ blanks, IsBlank c) → P (cs ++ blanks))
  (hitem : ∀ s g s' r, item s g = .ok (s', r) → ∃ cs, P cs ∧ Passes g cs r)
include hpad hitem

/-- Blanks behind an item are counted with it. -/
theorem passes_further {bound : Nat} (h : further close item bound s g = .ok (s', rest)) :
    ∃ (blanks : List Char) (css : List (List Char)), (∀ c ∈ blanks, IsBlank c) ∧
      (∀ cs ∈ css, P cs) ∧ Passes g (blanks ++ (css.flatMap (',' :: ·) ++ [close])) rest := by
  induction bound generalizing s g with
  | zero => cases h
  | succ bound ih =>
    unfold further at h
    split at h
    · rename_i c r hskip
      obtain ⟨blanks, hblanks, hpass⟩ := passes_blanks_cons hskip
      split at h
      · rename_i hc
        cases h
        exact ⟨blanks, [], hblanks, List.forall_mem_nil _, hc ▸ hpass.concat⟩
      · split at h
        · rename_i hc
          subst hc
          obtain ⟨⟨s₁, r₁⟩, hfirst, hmore⟩ := bind_eq_ok.1 h
          obtain ⟨cs, hcs, hfirstPass⟩ := hitem _ _ _ _ hfirst
          obtain ⟨after, css, hafter, hcss, hmorePass⟩ := ih hmore
          refine ⟨blanks, (cs ++ after) :: css, hblanks,
            List.forall_mem_cons.2 ⟨hpad hcs hafter, hcss⟩, ?_⟩
          have hall := (hpass.concat.trans hfirstPass).trans hmorePass
          simpa [List.append_assoc] using hall
        · cases h
    · cases h

theorem passes_sequence (h : sequence close item s g = .ok (s', rest)) :
    ∃ blanks css, (∀ c ∈ blanks, IsBlank c) ∧ (∀ cs ∈ css, P cs) ∧
      Passes g (blanks ++ joined css ++ [close]) rest := by
  unfold sequence at h
  split at h
  · rename_i c r hskip
    split at h
    · rename_i hc
      cases h
      obtain ⟨blanks, hblanks, hpass⟩ := passes_blanks_cons hskip
      refine ⟨blanks, [], hblanks, List.forall_mem_nil _, ?_⟩
      rw [joined, List.append_nil]
      exact hc ▸ hpass.concat
    · obtain ⟨⟨s₁, r₁⟩, hfirst, hmore⟩ := bind_eq_ok.1 h
      obtain ⟨cs, hcs, hfirstPass⟩ := hitem _ _ _ _ hfirst
      obtain ⟨after, css, hafter, hcss, hmorePass⟩ := passes_further hpad hitem hmore
      refine ⟨[], (cs ++ after) :: css, List.forall_mem_nil _,
        List.forall_mem_cons.2 ⟨hpad hcs hafter, hcss⟩, ?_⟩
      have hall := hfirstPass.trans hmorePass
      simpa [joined, List.append_assoc] using hall
  · cases h

end

/-! ## Values by their first character -/

/-- A value is passed over. -/
def PassesJson (g rest : List Glyph) : Prop := ∃ cs, IsJson cs ∧ Passes g cs rest

/-- A name and the colon behind it are passed over. -/
def PassesKey (g rest : List Glyph) : Prop := ∃ cs, IsKey cs ∧ Passes g (cs ++ [':']) rest

/-- A member of an object is passed over. -/
def PassesMember (g rest : List Glyph) : Prop :=
  ∃ m : List Char × List Char, IsKey m.1 ∧ IsJson m.2 ∧ Passes g (keyed m) rest

theorem PassesJson.of_skipBlanks (h : PassesJson (skipBlanks g) rest) : PassesJson g rest := by
  obtain ⟨blanks, hblanks, hpass⟩ := passes_skipBlanks g
  obtain ⟨cs, hcs, hvalue⟩ := h
  exact ⟨blanks ++ cs, hcs.blanksBefore hblanks, hpass.trans hvalue⟩

theorem passesJson_word {c : Char} {word : String} (hword : IsJson (c :: word.toList))
    (h : expect word g = .ok rest) : PassesJson (some c :: g) rest :=
  ⟨_, hword, (passes_expect h).cons c⟩

theorem passesJson_text (h : PassesBody g rest) : PassesJson (some '"' :: g) rest := by
  obtain ⟨body, hbody, hpass⟩ := h
  exact ⟨_, .text hbody, hpass.cons '"'⟩

theorem passesJson_numeral {n : Numeral} (h : Read.numeral g = .ok (n, rest)) :
    PassesJson g rest := by
  obtain ⟨cs, hcs, hpass⟩ := passes_numeral h
  exact ⟨cs, .numeral hcs, hpass⟩

theorem passesJson_array (hitem : ∀ s g s' r, item s g = .ok (s', r) → PassesJson g r)
    (h : sequence ']' item s g = .ok (s', rest)) : PassesJson (some '[' :: g) rest := by
  obtain ⟨blanks, items, hblanks, hitems, hpass⟩ := passes_sequence IsJson.blanksAfter hitem h
  exact ⟨_, .array hblanks hitems, hpass.cons '['⟩

/-- The members among items each of which is one. -/
theorem exists_members {css : List (List Char)}
    (h : ∀ cs ∈ css, ∃ m : List Char × List Char, cs = keyed m ∧ IsKey m.1 ∧ IsJson m.2) :
    ∃ members : List (List Char × List Char), css = members.map keyed ∧
      (∀ m ∈ members, IsKey m.1) ∧ ∀ m ∈ members, IsJson m.2 := by
  induction css with
  | nil => exact ⟨[], rfl, List.forall_mem_nil _, List.forall_mem_nil _⟩
  | cons cs css ih =>
    obtain ⟨⟨m, rfl, hkey, hvalue⟩, hcss⟩ := List.forall_mem_cons.1 h
    obtain ⟨members, rfl, hkeys, hvalues⟩ := ih hcss
    exact ⟨m :: members, rfl, List.forall_mem_cons.2 ⟨hkey, hkeys⟩,
      List.forall_mem_cons.2 ⟨hvalue, hvalues⟩⟩

theorem passesJson_object (hitem : ∀ s g s' r, item s g = .ok (s', r) → PassesMember g r)
    (h : sequence '\x7d' item s g = .ok (s', rest)) : PassesJson (some '\x7b' :: g) rest := by
  obtain ⟨blanks, css, hblanks, hcss, hpass⟩ := passes_sequence
    (P := fun cs => ∃ m : List Char × List Char, cs = keyed m ∧ IsKey m.1 ∧ IsJson m.2)
    (fun ⟨m, hm, hkey, hvalue⟩ hafter =>
      ⟨(m.1, m.2 ++ _), by rw [hm, keyed, keyed, List.append_assoc]; rfl, hkey,
        hvalue.blanksAfter hafter⟩)
    (fun s g s' r hread => by
      obtain ⟨m, hkey, hvalue, hpass⟩ := hitem s g s' r hread
      exact ⟨_, ⟨m, rfl, hkey, hvalue⟩, hpass⟩) h
  obtain ⟨members, rfl, hkeys, hvalues⟩ := exists_members hcss
  exact ⟨_, .object hblanks hkeys hvalues, hpass.cons '\x7b'⟩

end

theorem PassesKey.intro {r' : List Glyph} (hquote : skipBlanks g = some '"' :: r)
    (hbody : PassesBody r r') (hcolon : skipBlanks r' = some ':' :: rest) : PassesKey g rest := by
  obtain ⟨before, hbefore, hquotePass⟩ := passes_blanks_cons hquote
  obtain ⟨body, hbody, hbodyPass⟩ := hbody
  obtain ⟨after, hafter, hcolonPass⟩ := passes_blanks_cons hcolon
  refine ⟨before ++ '"' :: (body ++ '"' :: after), ⟨before, body, after, rfl, hbefore, hbody, hafter⟩,
    ?_⟩
  have hall := (hquotePass.concat.trans hbodyPass).trans hcolonPass.concat
  simpa [List.append_assoc] using hall

theorem passesKey_key {k : String} (h : key g = .ok (k, rest)) : PassesKey g rest := by
  unfold key at h
  split at h
  · rename_i hquote
    obtain ⟨⟨cs, r⟩, hbody, h⟩ := bind_eq_ok.1 h
    simp only at h
    split at h
    · rename_i hcolon
      cases h
      exact .intro hquote (passes_textBody hbody) hcolon
    · cases h
  · cases h

theorem passesKey_skipKey (h : skipKey g = .ok rest) : PassesKey g rest := by
  unfold skipKey at h
  split at h
  · rename_i hquote
    obtain ⟨r, hbody, h⟩ := bind_eq_ok.1 h
    split at h
    · rename_i hcolon
      cases h
      exact .intro hquote (passes_skipTextBody hbody) hcolon
    · cases h
  · cases h

theorem PassesKey.member (hkey : PassesKey g r) (h : PassesJson r rest) : PassesMember g rest := by
  obtain ⟨k, hk, hkeyPass⟩ := hkey
  obtain ⟨cs, hcs, hvaluePass⟩ := h
  refine ⟨(k, cs), hk, hcs, ?_⟩
  simpa [keyed] using hkeyPass.trans hvaluePass

/-! ## Any value -/

/-- What the reader reads is JSON. -/
def Sound (read : Reader) : Prop :=
  ∀ depth g v rest, read depth g = .ok (v, rest) → PassesJson g rest

theorem isJson_true : IsJson ('t' :: "rue".toList) := .true

theorem isJson_false : IsJson ('f' :: "alse".toList) := .false

theorem isJson_null : IsJson ('n' :: "ull".toList) := .null

/-- An array is read one bracket deeper, and so is an object. -/
theorem sound_value : Sound value := by
  intro depth
  induction depth using Nat.strongRecOn with
  | ind depth ih =>
    intro g v rest h
    unfold value at h
    refine .of_skipBlanks ?_
    split at h
    · rename_i heq
      obtain ⟨r, hword, hv⟩ := bind_eq_ok.1 h
      cases hv
      exact heq ▸ passesJson_word isJson_null hword
    · rename_i heq
      obtain ⟨r, hword, hv⟩ := bind_eq_ok.1 h
      cases hv
      exact heq ▸ passesJson_word isJson_true hword
    · rename_i heq
      obtain ⟨r, hword, hv⟩ := bind_eq_ok.1 h
      cases hv
      exact heq ▸ passesJson_word isJson_false hword
    · rename_i heq
      obtain ⟨⟨cs, r⟩, hbody, hv⟩ := bind_eq_ok.1 h
      cases hv
      exact heq ▸ passesJson_text (passes_textBody hbody)
    · rename_i heq
      rw [heq]
      split at h
      · cases h
      · rename_i depth
        obtain ⟨⟨items, r⟩, hitems, hv⟩ := bind_eq_ok.1 h
        cases hv
        refine passesJson_array (fun items g items' r hitem => ?_) hitems
        obtain ⟨⟨v, r'⟩, hvalue, heq⟩ := bind_eq_ok.1 hitem
        cases heq
        exact ih depth (Nat.lt_succ_self depth) g v r hvalue
    · rename_i heq
      rw [heq]
      split at h
      · cases h
      · rename_i depth
        obtain ⟨⟨members, r⟩, hmembers, hv⟩ := bind_eq_ok.1 h
        cases hv
        refine passesJson_object (fun members g members' r hmember => ?_) hmembers
        obtain ⟨⟨k, r'⟩, hkey, hmember⟩ := bind_eq_ok.1 hmember
        obtain ⟨⟨v, r''⟩, hvalue, heq⟩ := bind_eq_ok.1 hmember
        cases heq
        exact (passesKey_key hkey).member (ih depth (Nat.lt_succ_self depth) r' v r hvalue)
    · rename_i heq
      rw [heq]
      split at h
      · obtain ⟨⟨n, r⟩, hnumber, hv⟩ := bind_eq_ok.1 h
        cases hv
        obtain ⟨⟨m, r⟩, hnumeral, hnumber⟩ := bind_eq_ok.1 hnumber
        simp only at hnumber
        split at hnumber
        · cases hnumber
          exact passesJson_numeral hnumeral
        · cases hnumber
      · cases h
    · cases h

theorem passesJson_skip {depth : Nat} (h : skip depth g = .ok rest) : PassesJson g rest := by
  induction depth using Nat.strongRecOn generalizing g rest with
  | ind depth ih =>
    unfold skip at h
    refine .of_skipBlanks ?_
    split at h
    · rename_i heq
      exact heq ▸ passesJson_word isJson_null h
    · rename_i heq
      exact heq ▸ passesJson_word isJson_true h
    · rename_i heq
      exact heq ▸ passesJson_word isJson_false h
    · rename_i heq
      exact heq ▸ passesJson_text (passes_skipTextBody h)
    · rename_i heq
      rw [heq]
      split at h
      · cases h
      · rename_i depth
        obtain ⟨⟨u, r⟩, hitems, hv⟩ := bind_eq_ok.1 h
        cases hv
        refine passesJson_array (fun u g u' r hitem => ?_) hitems
        obtain ⟨r', hvalue, heq⟩ := bind_eq_ok.1 hitem
        cases heq
        exact ih depth (Nat.lt_succ_self depth) hvalue
    · rename_i heq
      rw [heq]
      split at h
      · cases h
      · rename_i depth
        obtain ⟨⟨u, r⟩, hmembers, hv⟩ := bind_eq_ok.1 h
        cases hv
        refine passesJson_object (fun u g u' r hmember => ?_) hmembers
        obtain ⟨r', hkey, hmember⟩ := bind_eq_ok.1 hmember
        obtain ⟨r'', hvalue, heq⟩ := bind_eq_ok.1 hmember
        cases heq
        exact (passesKey_skipKey hkey).member (ih depth (Nat.lt_succ_self depth) hvalue)
    · rename_i heq
      rw [heq]
      split at h
      · obtain ⟨⟨n, r⟩, hnumeral, hv⟩ := bind_eq_ok.1 h
        cases hv
        exact passesJson_numeral hnumeral
      · cases h
    · cases h

/-! ## Records -/

theorem sound_text : Sound text := by
  intro depth g v rest h
  unfold text at h
  refine .of_skipBlanks ?_
  split at h
  · rename_i heq
    obtain ⟨⟨cs, r⟩, hbody, hv⟩ := bind_eq_ok.1 h
    cases hv
    exact heq ▸ passesJson_text (passes_textBody hbody)
  · cases h

theorem sound_optional {inner : Reader} (hinner : Sound inner) : Sound (Read.optional inner) := by
  intro depth g v rest h
  unfold Read.optional at h
  split at h
  · rename_i heq
    obtain ⟨r, hword, hv⟩ := bind_eq_ok.1 h
    cases hv
    refine .of_skipBlanks ?_
    exact heq ▸ passesJson_word isJson_null hword
  · exact hinner _ _ _ _ h

section

variable {fields : List Field} {depth : Nat}

theorem passesMember_member (hfields : ∀ f ∈ fields, Sound f.read) {slots slots' : Slots}
    (h : member fields depth slots g = .ok (slots', rest)) : PassesMember g rest := by
  unfold member at h
  split at h
  · rename_i hquote
    obtain ⟨⟨cs, r⟩, hbody, h⟩ := bind_eq_ok.1 h
    have hbody := passes_textBody hbody
    simp only at h
    split at h
    · rename_i f hf
      split at h
      · cases h
      · split at h
        · rename_i hcolon
          obtain ⟨⟨v, r'⟩, hv, h⟩ := bind_eq_ok.1 h
          cases h
          have hread := hfields f (List.mem_of_find?_eq_some hf)
          exact (PassesKey.intro hquote hbody hcolon).member (hread _ _ _ _ hv)
        · cases h
    · split at h
      · rename_i hcolon
        obtain ⟨r', hskip, h⟩ := bind_eq_ok.1 h
        cases h
        exact (PassesKey.intro hquote hbody hcolon).member (passesJson_skip hskip)
      · cases h
  · cases h

/-- The items of a list up to its end, with a comma in front of each but the first. -/
theorem passes_listed (hfields : ∀ f ∈ fields, Sound f.read) {first : Bool} {vs : List Json}
    (h : listed depth first fields g = .ok (vs, rest)) :
    ∃ (blanks : List Char) (css : List (List Char)), (∀ c ∈ blanks, IsBlank c) ∧
      (∀ cs ∈ css, IsJson cs) ∧
      Passes g (blanks ++ ((if first then joined css else css.flatMap (',' :: ·)) ++ [']'])) rest := by
  induction fields generalizing first g vs with
  | nil =>
    unfold listed at h
    split at h
    · rename_i hskip
      cases h
      obtain ⟨blanks, hblanks, hpass⟩ := passes_blanks_cons hskip
      refine ⟨blanks, [], hblanks, List.forall_mem_nil _, ?_⟩
      have hnone : (if first = true then joined [] else [].flatMap (',' :: ·)) = ([] : List Char) := by
        cases first <;> rfl
      rw [hnone]
      exact hpass.concat
    · cases h
  | cons f fields ih =>
    have hrest {first : Bool} {g : List Glyph} {vs : List Json}
        (h : listed depth first fields g = .ok (vs, rest)) :=
      ih (fun f' hf' => hfields f' (List.mem_cons_of_mem _ hf')) h
    have hf := hfields f List.mem_cons_self
    unfold listed at h
    split at h
    · split at h
      · obtain ⟨⟨ws, r⟩, hws, heq⟩ := bind_eq_ok.1 h
        cases heq
        exact hrest hws
      · cases h
    · rename_i c r hopen hskip
      obtain ⟨blanks, hblanks, hpass⟩ := passes_blanks_cons hskip
      split at h
      · rename_i hfirst
        obtain ⟨⟨v, r₁⟩, hv, h⟩ := bind_eq_ok.1 h
        obtain ⟨⟨ws, r₂⟩, hws, heq⟩ := bind_eq_ok.1 h
        cases heq
        obtain ⟨cs, hcs, hitem⟩ := hf _ _ _ _ hv
        obtain ⟨after, css, hafter, hcss, hmore⟩ := hrest hws
        refine ⟨[], (cs ++ after) :: css, List.forall_mem_nil _,
          List.forall_mem_cons.2 ⟨hcs.blanksAfter hafter, hcss⟩, ?_⟩
        have hall := hitem.trans hmore
        simpa [hfirst, joined, List.append_assoc] using hall
      · rename_i hfirst
        split at h
        · rename_i hc
          subst hc
          obtain ⟨⟨v, r₁⟩, hv, h⟩ := bind_eq_ok.1 h
          obtain ⟨⟨ws, r₂⟩, hws, heq⟩ := bind_eq_ok.1 h
          cases heq
          obtain ⟨cs, hcs, hitem⟩ := hf _ _ _ _ hv
          obtain ⟨after, css, hafter, hcss, hmore⟩ := hrest hws
          refine ⟨blanks, (cs ++ after) :: css, hblanks,
            List.forall_mem_cons.2 ⟨hcs.blanksAfter hafter, hcss⟩, ?_⟩
          have hall := (hpass.concat.trans hitem).trans hmore
          simpa [hfirst, List.append_assoc] using hall
        · cases h
    · cases h

/-- A record is JSON, whether it stands as an object or as a list. -/
theorem sound_record (hfields : ∀ f ∈ fields, Sound f.read) : Sound (record fields) := by
  intro depth g v rest h
  obtain ⟨⟨vs, r⟩, hslots, hv⟩ := bind_eq_ok.1 h
  cases hv
  unfold slotsOf at hslots
  refine .of_skipBlanks ?_
  split at hslots
  · rename_i heq
    rw [heq]
    split at hslots
    · cases hslots
    · obtain ⟨blanks, items, hblanks, hitems, hpass⟩ := passes_listed hfields hslots
      refine ⟨_, .array hblanks hitems, ?_⟩
      simpa using hpass.cons '['
  · rename_i heq
    rw [heq]
    split at hslots
    · cases hslots
    · obtain ⟨⟨slots, r⟩, hmembers, hfill⟩ := bind_eq_ok.1 hslots
      obtain ⟨ws, -, heq⟩ := bind_eq_ok.1 hfill
      cases heq
      exact passesJson_object (fun _ _ _ _ hmember => passesMember_member hfields hmember) hmembers
  · cases hslots

end

/-! ## Whole texts -/

theorem isJson_of_readAll {read : Reader} (hread : Sound read) {v : Json}
    (h : readAll read g = .ok v) : IsJson (g.map (·.getD '\uFFFD')) := by
  obtain ⟨⟨w, r⟩, hw, h⟩ := bind_eq_ok.1 h
  simp only at h
  split at h
  · rename_i hend
    obtain ⟨cs, hcs, ds, rfl, rfl⟩ := hread _ _ _ _ hw
    obtain ⟨blanks, hblanks, es, hes, rfl⟩ := passes_skipBlanks r
    rw [List.isEmpty_iff.1 hend, List.append_nil] at hes
    subst hes
    rw [List.map_append]
    exact hcs.blanksAfter hblanks
  · cases h

/-- A text that is read whole is JSON. -/
theorem isJson_of_glyphsOf {read : Reader} (hread : Sound read) {s : String} {v : Json}
    (h : readAll read (glyphsOf s) = .ok v) : IsJson s.toList := by
  have hall := isJson_of_readAll hread h
  have hchars : (glyphsOf s).map (·.getD '\uFFFD') = s.toList := by simp [glyphsOf]
  rwa [hchars] at hall

end Read

/-! ## How a value starts -/

/-- A value may start with this character. -/
def StartsValue (c : Char) : Prop :=
  c ∈ ['n', 't', 'f', '"', '-', '[', '\x7b'] ∨ c.isDigit = true

instance (c : Char) : Decidable (IsBlank c) := inferInstanceAs (Decidable (_ ∨ _))

instance (c : Char) : Decidable (StartsValue c) := inferInstanceAs (Decidable (_ ∨ _))

theorem IsNumeral.startsValue {cs : List Char} (h : IsNumeral cs) :
    ∃ c rest, cs = c :: rest ∧ StartsValue c := by
  obtain ⟨sign, whole, fraction, exponent, rfl, rfl | rfl, ⟨⟨hne, hdigits⟩, -⟩, -, -⟩ := h
  · obtain ⟨d, ds, rfl⟩ := List.exists_cons_of_ne_nil hne
    exact ⟨d, ds ++ fraction ++ exponent, rfl, .inr (hdigits d List.mem_cons_self)⟩
  · exact ⟨'-', whole ++ fraction ++ exponent, rfl, .inl (by decide)⟩

/-- Behind blanks a value starts. -/
theorem IsJson.startsValue {cs : List Char} (h : IsJson cs) :
    ∃ blanks c rest, cs = blanks ++ c :: rest ∧ (∀ b ∈ blanks, IsBlank b) ∧ StartsValue c := by
  induction h with
  | @blankBefore b cs hb _ ih =>
    obtain ⟨blanks, c, rest, rfl, hblanks, hc⟩ := ih
    exact ⟨b :: blanks, c, rest, rfl, List.forall_mem_cons.2 ⟨hb, hblanks⟩, hc⟩
  | @blankAfter b cs _ hb ih =>
    obtain ⟨blanks, c, rest, rfl, hblanks, hc⟩ := ih
    exact ⟨blanks, c, rest ++ [b], by simp, hblanks, hc⟩
  | null => exact ⟨[], 'n', _, rfl, List.forall_mem_nil _, .inl (by decide)⟩
  | true => exact ⟨[], 't', _, rfl, List.forall_mem_nil _, .inl (by decide)⟩
  | false => exact ⟨[], 'f', _, rfl, List.forall_mem_nil _, .inl (by decide)⟩
  | text => exact ⟨[], '"', _, rfl, List.forall_mem_nil _, .inl (by decide)⟩
  | numeral h =>
    obtain ⟨c, rest, rfl, hc⟩ := h.startsValue
    exact ⟨[], c, rest, rfl, List.forall_mem_nil _, hc⟩
  | array => exact ⟨[], '[', _, rfl, List.forall_mem_nil _, .inl (by decide)⟩
  | object => exact ⟨[], '\x7b', _, rfl, List.forall_mem_nil _, .inl (by decide)⟩

/-- A text that starts with anything else is no JSON. -/
theorem not_isJson_cons {c : Char} (hblank : ¬ IsBlank c) (hstart : ¬ StartsValue c)
    (cs : List Char) : ¬ IsJson (c :: cs) := by
  intro h
  obtain ⟨blanks, d, rest, heq, hblanks, hd⟩ := h.startsValue
  cases blanks with
  | nil =>
    obtain ⟨rfl, -⟩ := List.cons.inj heq
    exact hstart hd
  | cons b blanks =>
    obtain ⟨rfl, -⟩ := List.cons.inj heq
    exact hblank (hblanks c List.mem_cons_self)

end ClipRelay.Json
