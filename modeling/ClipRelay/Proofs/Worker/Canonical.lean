import ClipRelay.Proofs.Text.Case
import ClipRelay.Proofs.Url.Authority
import ClipRelay.Worker.Endpoint

/-!
# Base URLs read again

What a user gives for an endpoint is trimmed once, and then slashes are dropped from its end once. A
blank in front of these slashes ends the base URL (`Endpoint.HidesBlank`), and it is trimmed when the
base URL is read again.

* `Endpoint.splitScheme_name`: a base URL is split behind its scheme.
* `Endpoint.ofText_name`: what is made of a base URL.
* `Endpoint.endsIn_blank_iff`: when a base URL ends with a blank.
* `Endpoint.canonical_unless_hidden`: a base URL stands for its own endpoint, unless a blank is hidden.
-/

namespace ClipRelay

open Text

/-- The last character of the text has a property. -/
def EndsIn (p : Char → Bool) (s : String) : Prop := ∃ before c, s.toList = before ++ [c] ∧ p c = true

namespace Endpoint

/-- In the trimmed text a blank stands in front of the slashes at the end. -/
def HidesBlank (text : String) : Prop :=
  ∃ before c slashes, (trim text).toList = before ++ c :: slashes ∧ isBlank c = true ∧ slashes ≠ [] ∧
    ∀ d ∈ slashes, d = '/'

/-! ## Schemes -/

theorem leads_iff (s : Scheme) (text : String) :
    s.leads text = true ↔ (s.name ++ "://").toList <+: lowerChars text.toList := by
  rw [Scheme.leads, startsWith, List.isPrefixOf_iff_prefix, lower, String.toList_ofList]

/-- The name of a scheme stays in front of a text in lower case. -/
theorem lowerChars_name (s : Scheme) (rest : List Char) :
    ∃ image, lowerChars ((s.name ++ "://").toList ++ rest) = (s.name ++ "://").toList ++ image := by
  have hascii : (s.name ++ "://").toList.all isAscii = true := by cases s <;> decide
  have hlower : (s.name ++ "://").toList.map Char.toLower = (s.name ++ "://").toList := by
    cases s <;> decide
  rw [lowerChars, lowerAfter_ascii (List.all_eq_true.1 hascii), hlower]
  exact ⟨_, rfl⟩

theorem splitScheme_name (s : Scheme) (rest : String) :
    splitScheme (s.name ++ "://" ++ rest) = (some s, rest) := by
  obtain ⟨image, himage⟩ := lowerChars_name s rest.toList
  have hlower : lowerChars (s.name ++ "://" ++ rest).toList = (s.name ++ "://").toList ++ image := by
    rw [String.toList_append, himage]
  cases s with
  | https =>
    have hleads : Scheme.https.leads (Scheme.https.name ++ "://" ++ rest) = true := by
      rw [leads_iff, hlower]
      exact List.prefix_append _ _
    rw [splitScheme, if_pos hleads]
    simp [dropChars, Scheme.name]
  | http =>
    have hleads : Scheme.http.leads (Scheme.http.name ++ "://" ++ rest) = true := by
      rw [leads_iff, hlower]
      exact List.prefix_append _ _
    have hother : Scheme.https.leads (Scheme.http.name ++ "://" ++ rest) ≠ true := by
      rw [Ne, leads_iff, hlower]
      simp [Scheme.name]
    rw [splitScheme, if_neg hother, if_pos hleads]
    simp [dropChars, Scheme.name]

/-- An address has one scheme and one rest. -/
theorem name_append_inj {s s' : Scheme} {rest rest' : String}
    (h : s.name ++ "://" ++ rest = s'.name ++ "://" ++ rest') : s = s' ∧ rest = rest' := by
  have hsplit := splitScheme_name s rest
  rw [h, splitScheme_name] at hsplit
  obtain ⟨hscheme, hrest⟩ := Prod.mk.inj hsplit
  exact ⟨(Option.some.inj hscheme).symm, hrest.symm⟩

/-- What stands behind a scheme stands at the end. -/
theorem exists_append_splitScheme (text : String) :
    ∃ before, text.toList = before ++ (splitScheme text).2.toList := by
  unfold splitScheme
  split
  · exact ⟨text.toList.take 8, by simp [dropChars]⟩
  · split
    · exact ⟨text.toList.take 7, by simp [dropChars]⟩
    · exact ⟨[], rfl⟩

/-! ## What is made of a text -/

/-- The text without the blanks at its end. -/
def trimEnd (text : String) : String := String.ofList (dropEndWhile isBlank text.toList)

theorem trim_name (s : Scheme) (rest : String) :
    trim (s.name ++ "://" ++ rest) = s.name ++ "://" ++ trimEnd rest := by
  have hfront : trimStartChars (s.name ++ "://" ++ rest).toList =
      (s.name ++ ":/").toList ++ '/' :: rest.toList := by
    cases s <;> simp [Scheme.name, trimStartChars] <;> decide
  rw [← String.toList_inj, trim, String.toList_ofList, trimChars, hfront,
    dropEndWhile_append_cons (by decide)]
  cases s <;> simp [Scheme.name, trimEnd]

/-- An endpoint is made of a scheme and the rest of an address. -/
def Made (s : Scheme) (rest : String) (e : Endpoint) : Prop :=
  rest ≠ "" ∧ ∃ host, hostOf? rest = some host ∧
    e = if isTunnelHost host then ⟨Scheme.https.name ++ "://" ++ rest, true⟩
      else ⟨s.name ++ "://" ++ rest, false⟩

variable {text : String} {e : Endpoint}

theorem ofText_eq_ok_iff : ofText text = .ok e ↔
    Made ((splitScheme (trim text)).1.getD .https) (dropSlashes (splitScheme (trim text)).2) e := by
  unfold ofText Made
  generalize splitScheme (trim text) = parts
  obtain ⟨scheme, rest⟩ := parts
  simp only
  split
  · rename_i hempty
    simp [hempty]
  · rename_i hne
    cases hhost : hostOf? (dropSlashes rest) with
    | none => simp
    | some host =>
      simp only [hne, ne_eq, not_false_eq_true, Option.some.injEq, exists_eq_left', true_and]
      split <;> simp [eq_comm]

/-- The base URL has a scheme that the endpoint might be made of as well. -/
theorem Made.exists_scheme {s : Scheme} {rest : String} (h : Made s rest e) :
    ∃ s' : Scheme, e.baseUrl = s'.name ++ "://" ++ rest ∧ Made s' rest e := by
  obtain ⟨hne, host, hhost, he⟩ := h
  by_cases htunnel : isTunnelHost host = true
  · rw [if_pos htunnel] at he
    exact ⟨.https, by rw [he], hne, host, hhost, by rw [if_pos htunnel, he]⟩
  · rw [if_neg htunnel] at he
    exact ⟨s, by rw [he], hne, host, hhost, by rw [if_neg htunnel, he]⟩

theorem ofText_name (s : Scheme) (rest : String) :
    ofText (s.name ++ "://" ++ rest) = .ok e ↔ Made s (dropSlashes (trimEnd rest)) e := by
  rw [ofText_eq_ok_iff, trim_name, splitScheme_name]
  rfl

/-! ## Ends -/

/-- The rest of an address ends with a character that is no slash. -/
theorem exists_concat_dropSlashes {rest : String} (h : dropSlashes rest ≠ "") :
    ∃ before c, (dropSlashes rest).toList = before ++ [c] ∧ c ≠ '/' := by
  rcases List.eq_nil_or_concat (dropSlashes rest).toList with hnil | ⟨before, c, hconcat⟩
  · exact absurd (by rw [← String.toList_inj, hnil]; rfl) h
  · rw [List.concat_eq_append] at hconcat
    refine ⟨before, c, hconcat, ?_⟩
    rw [dropSlashes, String.toList_ofList] at hconcat
    simpa using apply_of_dropEndWhile hconcat

theorem endsIn_concat {p : Char → Bool} {s : String} {before : List Char} {c : Char}
    (h : s.toList = before ++ [c]) : EndsIn p s ↔ p c = true := by
  constructor
  · rintro ⟨before', c', h', hc⟩
    obtain ⟨-, hlast⟩ := List.append_inj' (h.symm.trans h') rfl
    rwa [(List.cons.inj hlast).1]
  · exact fun hc => ⟨before, c, h, hc⟩

/-- Behind a scheme a text ends as it ends alone. -/
theorem endsIn_name {p : Char → Bool} (s : Scheme) {rest : String} (h : rest ≠ "") :
    EndsIn p (s.name ++ "://" ++ rest) ↔ EndsIn p rest := by
  rcases List.eq_nil_or_concat rest.toList with hnil | ⟨before, c, hconcat⟩
  · exact absurd (by rw [← String.toList_inj, hnil]; rfl) h
  · rw [List.concat_eq_append] at hconcat
    have hlonger : (s.name ++ "://" ++ rest).toList = (s.name ++ "://").toList ++ before ++ [c] := by
      rw [String.toList_append, hconcat, List.append_assoc]
    rw [endsIn_concat hconcat, endsIn_concat hlonger]

/-- A trimmed text does not end with a blank. -/
theorem not_endsIn_blank_trim (text : String) : ¬ EndsIn isBlank (trim text) := by
  rintro ⟨before, c, hconcat, hc⟩
  rw [trim, String.toList_ofList, trimChars] at hconcat
  rw [apply_of_dropEndWhile hconcat] at hc
  cases hc

/-- A blank is hidden just when it stands at the end once the slashes have been dropped. -/
theorem endsIn_blank_iff (h : dropSlashes (splitScheme (trim text)).2 ≠ "") :
    EndsIn isBlank (dropSlashes (splitScheme (trim text)).2) ↔ HidesBlank text := by
  obtain ⟨pre, hpre⟩ := exists_append_splitScheme (trim text)
  generalize (splitScheme (trim text)).2 = rest at *
  obtain ⟨slashes, hrest, hslashes⟩ := exists_append_dropEndWhile (· == '/') rest.toList
  obtain ⟨before, c, hconcat, hc⟩ := exists_concat_dropSlashes h
  have hkept : dropEndWhile (· == '/') rest.toList = before ++ [c] := by
    rw [← hconcat, dropSlashes, String.toList_ofList]
  have htext : (trim text).toList = (pre ++ before) ++ c :: slashes := by
    rw [hpre, hrest, hkept]
    simp
  have hall : ∀ d ∈ slashes, d = '/' := fun d hd => by simpa using hslashes d hd
  rw [endsIn_concat hconcat]
  constructor
  · intro hblank
    refine ⟨pre ++ before, c, slashes, htext, hblank, fun hnil => ?_, hall⟩
    rw [hnil] at htext
    exact not_endsIn_blank_trim text ⟨_, c, htext, hblank⟩
  · rintro ⟨before', c', slashes', htext', hblank, -, hall'⟩
    -- Both are the last character that is no slash.
    have hlast {cs ds : List Char} {d : Char} (hd : d ≠ '/') (hds : ∀ x ∈ ds, x = '/') :
        dropEndWhile (· == '/') (cs ++ d :: ds) = cs ++ [d] := by
      have hnone := dropEndWhile_append_cons (p := (· == '/')) (c := d) (by simpa using hd) cs ds
      have hgone : dropEndWhile (· == '/') ds = [] := by
        simpa [dropEndWhile] using dropEndWhile_append (p := (· == '/')) [] ds (by simpa using hds)
      rw [hnone, hgone]
    have hc' : c' ≠ '/' := by
      rintro rfl
      exact absurd hblank (by decide)
    have hsame := (hlast hc hall).symm.trans ((congrArg _ (htext.symm.trans htext')).trans
      (hlast hc' hall'))
    obtain ⟨-, heq⟩ := List.append_inj' hsame rfl
    rwa [(List.cons.inj heq).1]

/-! ## Base URLs read again -/

/-- Without a blank at its end the rest of a base URL is read as it is. -/
theorem dropSlashes_trimEnd {rest : String} (hslash : ¬ EndsIn (· == '/') rest)
    (hblank : ¬ EndsIn isBlank rest) : dropSlashes (trimEnd rest) = rest := by
  have hkept {p : Char → Bool} (h : ¬ EndsIn p rest) : dropEndWhile p rest.toList = rest.toList := by
    rcases List.eq_nil_or_concat rest.toList with hnil | ⟨before, c, hconcat⟩
    · rw [hnil]
      rfl
    · rw [List.concat_eq_append] at hconcat
      have hc := (endsIn_concat (p := p) hconcat).not.1 h
      rw [hconcat, dropEndWhile_concat, if_neg hc]
  rw [dropSlashes, trimEnd, String.toList_ofList, hkept hblank, hkept hslash, String.ofList_toList]

/-- A blank at the end does not survive. -/
theorem dropSlashes_trimEnd_ne {rest : String} (hblank : EndsIn isBlank rest) :
    dropSlashes (trimEnd rest) ≠ rest := by
  obtain ⟨before, c, hconcat, hc⟩ := hblank
  intro heq
  have hlength := congrArg (fun s : String => s.toList.length) heq
  have hle (p : Char → Bool) (cs : List Char) : (dropEndWhile p cs).length ≤ cs.length := by
    simpa [dropEndWhile] using (List.dropWhile_suffix (l := cs.reverse) p).length_le
  have hshorter : (dropEndWhile isBlank rest.toList).length < rest.toList.length := by
    rw [hconcat, dropEndWhile_concat, if_pos hc, List.length_append]
    exact Nat.lt_succ_of_le (hle isBlank before)
  rw [dropSlashes, trimEnd, String.toList_ofList, String.toList_ofList] at hlength
  exact absurd hlength (Nat.ne_of_lt (Nat.lt_of_le_of_lt (hle _ _) hshorter))

theorem isEdge_of_isBlank {c : Char} (hblank : isBlank c = true) (hascii : isAscii c = true) :
    Url.isEdge c = true := by
  simp only [isBlank, Bool.or_eq_true, Bool.and_eq_true, decide_eq_true_eq, beq_iff_eq, isAscii,
    Url.isEdge] at *
  omega

/-- Blanks of ASCII and slashes at the end leave the host as it is. -/
theorem hostOf?_dropSlashes_trimEnd {rest host : String} (h : hostOf? rest = some host)
    (hascii : ∀ c ∈ rest.toList, isBlank c = true → isAscii c = true) :
    hostOf? (dropSlashes (trimEnd rest)) = some host := by
  obtain ⟨blanks, hrest, hblanks⟩ := exists_append_dropEndWhile isBlank rest.toList
  obtain ⟨slashes, htrimmed, hslashes⟩ :=
    exists_append_dropEndWhile (· == '/') (dropEndWhile isBlank rest.toList)
  have hloose : ∀ c ∈ slashes ++ blanks, Url.isLoose c = true := fun c hc => by
    rcases List.mem_append.1 hc with hc | hc
    · have hslash : c = '/' := by simpa using hslashes c hc
      simp [Url.isLoose, hslash]
    · have hmem : c ∈ rest.toList := hrest ▸ List.mem_append_right _ hc
      simp [Url.isLoose, isEdge_of_isBlank (hblanks c hc) (hascii c hmem (hblanks c hc))]
  obtain ⟨u, hu, rfl⟩ := Option.map_eq_some_iff.1 h
  have hparts : rest.toList = (dropSlashes (trimEnd rest)).toList ++ (slashes ++ blanks) := by
    rw [dropSlashes, trimEnd, String.toList_ofList, String.toList_ofList, ← List.append_assoc,
      ← htrimmed, ← hrest]
  have hname : (Scheme.https.name ++ "://").toList = "https://".toList := by decide
  rw [Url.ofText?, String.toList_append, hname, hparts] at hu
  obtain ⟨v, hv, hhost⟩ := Url.exists_host_of_loose hloose hu
  rw [hostOf?, Url.ofText?, String.toList_append, hname, hv, Option.map_some, hhost]

theorem hostOf?_empty : hostOf? "" = none := by
  decide +kernel

/-- What is kept of a text consists of its characters. -/
theorem mem_of_mem_rest {c : Char} (h : c ∈ (dropSlashes (splitScheme (trim text)).2).toList) :
    c ∈ text.toList := by
  have hend {p : Char → Bool} {cs : List Char} (hc : c ∈ dropEndWhile p cs) : c ∈ cs := by
    obtain ⟨ds, hcs, -⟩ := exists_append_dropEndWhile p cs
    exact hcs ▸ List.mem_append_left _ hc
  obtain ⟨before, hbefore⟩ := exists_append_splitScheme (trim text)
  rw [dropSlashes, String.toList_ofList] at h
  have htrim : c ∈ (trim text).toList := hbefore ▸ List.mem_append_right _ (hend h)
  rw [trim, String.toList_ofList, trimChars] at htrim
  exact (List.dropWhile_sublist _).subset (hend htrim)

/-- A base URL never ends with a slash. It ends with a blank just when the text hides one; then it
does not stand for its own endpoint, and in every other case it does. If all blanks of the text are of
ASCII it stands for an endpoint with the same policy. -/
theorem canonical_unless_hidden (h : ofText text = .ok e) :
    ¬ EndsIn (· == '/') e.baseUrl ∧
    (EndsIn isBlank e.baseUrl ↔ HidesBlank text) ∧
    (ofText e.baseUrl = .ok e ↔ ¬ HidesBlank text) ∧
    ((∀ c ∈ text.toList, isBlank c = true → isAscii c = true) →
      ∃ e', ofText e.baseUrl = .ok e' ∧ e'.tunnel = e.tunnel ∧ e'.headers = e.headers) := by
  have hmade := ofText_eq_ok_iff.1 h
  have hhidden := endsIn_blank_iff hmade.1
  have hchars : ∀ c ∈ (dropSlashes (splitScheme (trim text)).2).toList, c ∈ text.toList :=
    fun c => mem_of_mem_rest
  obtain ⟨before, c, hconcat, hc⟩ := exists_concat_dropSlashes hmade.1
  have hslash : ¬ EndsIn (· == '/') (dropSlashes (splitScheme (trim text)).2) :=
    (endsIn_concat hconcat).not.2 (by simpa using hc)
  generalize dropSlashes (splitScheme (trim text)).2 = rest at *
  obtain ⟨s, hbase, hmade⟩ := hmade.exists_scheme
  rw [hbase, endsIn_name s hmade.1, endsIn_name s hmade.1]
  refine ⟨hslash, hhidden, ?_, fun hascii => ?_⟩
  · rw [ofText_name, ← hhidden]
    constructor
    · intro hagain hblank
      obtain ⟨s', hbase', -⟩ := hagain.exists_scheme
      obtain ⟨-, hrest⟩ := name_append_inj (hbase.symm.trans hbase')
      exact dropSlashes_trimEnd_ne hblank hrest.symm
    · intro hblank
      rwa [dropSlashes_trimEnd hslash hblank]
  · obtain ⟨-, host, hhost, he⟩ := hmade
    have hagain := hostOf?_dropSlashes_trimEnd hhost fun c hc => hascii c (hchars c hc)
    have hne : dropSlashes (trimEnd rest) ≠ "" := fun hempty => by
      rw [hempty, hostOf?_empty] at hagain
      cases hagain
    refine ⟨_, (ofText_name s rest).2 ⟨hne, host, hagain, rfl⟩, ?_⟩
    rw [he, headers, headers]
    split <;> exact ⟨rfl, rfl⟩

/-- Blanks around a text, and slashes behind it. -/
theorem canonical_unless_hidden_sample :
    ofText " HTTP://worker.example.com/a/ " = .ok ⟨"http://worker.example.com/a", false⟩ ∧
      ofText "http://worker.example.com/a" = .ok ⟨"http://worker.example.com/a", false⟩ ∧
      ¬ EndsIn isBlank "http://worker.example.com/a" := by
  have h : ofText " HTTP://worker.example.com/a/ " = .ok ⟨"http://worker.example.com/a", false⟩ := by
    decide +kernel
  obtain ⟨-, hblank, hagain, -⟩ := canonical_unless_hidden h
  have hend : ¬ EndsIn isBlank "http://worker.example.com/a" := by
    have hlast : "http://worker.example.com/a".toList = "http://worker.example.com/".toList ++ ['a'] := by
      decide
    rw [endsIn_concat hlast]
    decide
  exact ⟨h, hagain.2 fun hhidden => hend (hblank.2 hhidden), hend⟩

/-- A blank in front of a slash ends the base URL, and is dropped when that is read again. -/
theorem blank_kept :
    HidesBlank "worker.example.com /" ∧
      ofText "worker.example.com /" = .ok ⟨"https://worker.example.com ", false⟩ ∧
      ofText "https://worker.example.com " = .ok ⟨"https://worker.example.com", false⟩ :=
  ⟨⟨"worker.example.com".toList, ' ', ['/'], by decide +kernel, by decide, by decide, by simp⟩,
    by decide +kernel, by decide +kernel⟩

end Endpoint

end ClipRelay
