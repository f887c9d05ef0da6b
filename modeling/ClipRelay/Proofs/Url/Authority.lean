import ClipRelay.Proofs.Text.Bytes
import ClipRelay.Proofs.Text.Normal
import ClipRelay.Proofs.Text.Split
import ClipRelay.Proofs.Text.Trim
import ClipRelay.Url.Basic
import Mathlib.Data.List.Induction

/-!
# Hosts of longer addresses

* `Host.read?_concat`: no host is read from a text that ends with a control or a space.
* `Url.host_eq_of_path`: a path behind an address leaves its host as it is, although what does not count
  at the end of the address may count in front of the path.
* `Url.exists_host_of_loose`: an address that is read is still read without the slashes, spaces and
  controls at its end.
-/

namespace ClipRelay

open Text

/-! ## Percent signs -/

namespace Url

/-- A byte that is no hexadecimal digit stays where bytes end. -/
theorem decodePercent_concat {b : UInt8} (h : hexByte? b = none) (bs : Bytes) :
    decodePercent (bs ++ [b]) = decodePercent bs ++ [b] := by
  have hkept : ∀ {a c : UInt8} {rest : Bytes},
      (∀ high low, hexByte? a = some high → hexByte? c = some low → False) →
      decodePercent (0x25 :: a :: c :: rest) = 0x25 :: decodePercent (a :: c :: rest) := by
    intro a c rest hno
    rw [decodePercent]
    split
    · rename_i high low hhigh hlow
      exact (hno high low hhigh hlow).elim
    · rfl
  induction bs using decodePercent.induct with
  | case1 a c bs high low hhigh hlow ih => simp [decodePercent, hhigh, hlow, ih]
  | case2 a c bs hno ih =>
    rw [List.cons_append, List.cons_append, List.cons_append, hkept hno, hkept hno,
      ← List.cons_append, ← List.cons_append, ih, List.cons_append]
  | case3 c bs hno ih =>
    rw [decodePercent.eq_2 c bs hno, List.cons_append, List.cons_append, ← ih]
    by_cases hfull : ∃ a, c = 0x25 ∧ bs = [a]
    · obtain ⟨a, rfl, rfl⟩ := hfull
      exact hkept fun _ _ _ hlow => by cases h.symm.trans hlow
    · refine decodePercent.eq_2 c _ fun a a' rest hc hbs => ?_
      rcases bs with _ | ⟨d, _ | ⟨d', bs⟩⟩
      · cases hbs
      · exact hfull ⟨d, hc, rfl⟩
      · exact hno d d' bs hc rfl
  | case4 => simp [decodePercent]

/-! ## Labels -/

theorem splitOnChar_concat {separator c : Char} (h : c ≠ separator) (cs : List Char) :
    ∃ pieces piece, splitOnChar separator (cs ++ [c]) = pieces ++ [piece ++ [c]] := by
  induction cs with
  | nil => exact ⟨[], [], by simp [splitOnChar, h]⟩
  | cons d cs ih =>
    obtain ⟨pieces, piece, hpieces⟩ := ih
    by_cases hd : d = separator
    · exact ⟨[] :: pieces, piece, by simp [splitOnChar, hd, hpieces]⟩
    · cases pieces with
      | nil => exact ⟨[], d :: piece, by simp [splitOnChar, hd, hpieces]⟩
      | cons first pieces => exact ⟨(d :: first) :: pieces, piece, by simp [splitOnChar, hd, hpieces]⟩

theorem mem_joinDots {labels : List (List Char)} {label : List Char} {c : Char}
    (hlabel : label ∈ labels) (hc : c ∈ label) : c ∈ joinDots labels := by
  unfold joinDots
  induction labels with
  | nil => cases hlabel
  | cons first labels ih =>
    cases labels with
    | nil =>
      rcases List.mem_cons.1 hlabel with rfl | hnil
      · simpa using hc
      · cases hnil
    | cons second labels =>
      rw [List.intersperse_cons_cons, List.flatten_cons, List.flatten_cons]
      rcases List.mem_cons.1 hlabel with rfl | hlabel
      · exact List.mem_append_left _ hc
      · exact List.mem_append_right _ (List.mem_append_right _ (ih hlabel))

/-- What has been written of a label stays. -/
theorem mem_written_encodeCode {c : Char} (chars : List Nat) (basic code : Nat) (p : Punycode.Progress)
    (h : c ∈ p.written) : c ∈ (Punycode.encodeCode chars basic code p).written := by
  refine List.foldlRecOn chars _ (motive := fun p : Punycode.Progress => c ∈ p.written) h fun p hp n _ => ?_
  split
  · exact hp
  · split
    · exact List.mem_append_left _ hp
    · exact hp

/-- The ASCII characters of a label are written. -/
theorem mem_encode {label : List Char} {c : Char} (hc : c ∈ label) (hascii : c.toNat < 128) :
    c ∈ Punycode.encode label := by
  have hmem : c ∈ label.filter (·.toNat < Punycode.firstCode) :=
    List.mem_filter.2 ⟨hc, decide_eq_true hascii⟩
  have hne : (label.filter (·.toNat < Punycode.firstCode)).isEmpty = false := by
    rw [Bool.eq_false_iff, Ne, List.isEmpty_iff]
    exact List.ne_nil_of_mem hmem
  unfold Punycode.encode
  refine List.foldlRecOn _ _ (motive := fun q : Nat × Punycode.Progress => c ∈ q.2.written) ?_
    fun q hq code _ => mem_written_encodeCode _ _ _ _ hq
  simp only [hne, Bool.false_eq_true, if_false]
  exact List.mem_append_left _ hmem

theorem mem_writeLabel {label : List Char} {c : Char} (hc : c ∈ label) (hascii : isAscii c = true) :
    c ∈ writeLabel label := by
  unfold writeLabel
  split
  · exact hc
  · exact List.mem_append_right _ (mem_encode hc (by simpa [isAscii] using hascii))

/-- A name that ends with a character that no host may hold is not that of a host. -/
theorem domainToAscii?_concat {c : Char} (hascii : isAscii c = true) (hlower : c.toLower = c)
    (hforbidden : isForbidden c = true) (hdot : c ≠ '.') (name : List Char) :
    domainToAscii? (name ++ [c]) = none := by
  have hmap : mapChar? c = some [c] := by rw [mapChar?, if_pos hascii, hlower]
  cases hname : name.mapM mapChar? with
  | none => simp [domainToAscii?, List.mapM_append, hname]
  | some mapped =>
    obtain ⟨init, hinit⟩ := compose_concat hascii mapped.flatten
    obtain ⟨labels, label, hlabels⟩ := splitOnChar_concat hdot init
    have hmem : c ∈ joinDots ((labels ++ [label ++ [c]]).map writeLabel) := by
      refine mem_joinDots (List.mem_map_of_mem (List.mem_append_right _ List.mem_cons_self)) ?_
      exact mem_writeLabel (by simp) hascii
    have hany : (joinDots ((labels ++ [label ++ [c]]).map writeLabel)).any isForbidden = true :=
      List.any_eq_true.2 ⟨c, hmem, hforbidden⟩
    have hall : (name ++ [c]).mapM mapChar? = some (mapped ++ [[c]]) := by
      simp [List.mapM_append, hname, hmap]
    have hflat : (mapped ++ [[c]]).flatten = mapped.flatten ++ [c] := by simp
    rw [domainToAscii?, hall]
    simp only [Option.bind_eq_bind, Option.bind_some, hflat, hinit, hlabels, hany, if_true]
    cases (labels ++ [label ++ [c]]).mapM readLabel? with
    | none => rfl
    | some read => simp

/-! ## What does not count at the ends of an address -/

/-- A control or a space is no part of a host. -/
theorem edge_facts {c : Char} (h : isEdge c = true) :
    isAscii c = true ∧ c.toLower = c ∧ isForbidden c = true ∧ hexByte? (UInt8.ofNat c.toNat) = none ∧
      c.isDigit = false ∧ endsAuthority c = false := by
  have hall : ∀ n ≤ 0x20, isAscii (Char.ofNat n) = true ∧ (Char.ofNat n).toLower = Char.ofNat n ∧
      isForbidden (Char.ofNat n) = true ∧ hexByte? (UInt8.ofNat (Char.ofNat n).toNat) = none ∧
      (Char.ofNat n).isDigit = false ∧ endsAuthority (Char.ofNat n) = false := by
    decide
  have hc : c.toNat ≤ 0x20 := by simpa [isEdge] using h
  simpa [Char.ofNat_toNat] using hall c.toNat hc

theorem ne_of_isEdge {c d : Char} (hc : isEdge c = true) (hd : isEdge d = false) : c ≠ d := by
  rintro rfl
  rw [hc] at hd
  cases hd

end Url

/-- No host is read from a text that ends with a control or a space. -/
theorem Host.read?_concat {c : Char} (h : Url.isEdge c = true) (cs : List Char) :
    Host.read? (cs ++ [c]) = none := by
  obtain ⟨hascii, hlower, hforbidden, hhex, -, -⟩ := Url.edge_facts h
  have hlt : UInt8.ofNat c.toNat < 0x80 := by
    have hc : c.toNat < 128 := by simpa [isAscii] using hascii
    rw [UInt8.lt_iff_toNat_lt, UInt8.toNat_ofNat']
    exact Nat.lt_of_le_of_lt (Nat.mod_le _ _) hc
  have hchar : Char.ofNat (UInt8.ofNat c.toNat).toNat = c := by
    have hc : c.toNat < 128 := by simpa [isAscii] using hascii
    rw [UInt8.toNat_ofNat', Nat.mod_eq_of_lt (by omega), Char.ofNat_toNat]
  -- A bracket in front wants one at the end.
  by_cases hbracket : ∃ inner, cs = '[' :: inner
  · obtain ⟨inner, rfl⟩ := hbracket
    have hclose : c ≠ ']' := Url.ne_of_isEdge h rfl
    simp [Host.read?, hclose]
  · have hread : lossyChars (Url.decodePercent (bytesOf (String.ofList (cs ++ [c])))) =
        lossyChars (Url.decodePercent (bytesOf (String.ofList cs))) ++ [c] := by
      rw [bytesOf_concat hascii, Url.decodePercent_concat hhex, lossyChars_concat hlt, hchar]
    have hnone := Url.domainToAscii?_concat hascii hlower hforbidden (Url.ne_of_isEdge h rfl)
      (lossyChars (Url.decodePercent (bytesOf (String.ofList cs))))
    rw [Host.read?]
    · rw [hread, hnone]
      rfl
    · intro inner hcs
      cases cs with
      | nil => exact Url.ne_of_isEdge h rfl (List.cons.inj hcs).1
      | cons d cs => exact hbracket ⟨cs, by rw [(List.cons.inj hcs).1]⟩

theorem Host.read?_nil : Host.read? [] = none := by
  decide +kernel

namespace Url

/-! ## Authorities -/

/-- The authority in what follows a scheme. -/
def authorityOf (rest : List Char) : List Char := (rest.dropWhile isSlash).takeWhile (!endsAuthority ·)

/-- The host and the port of an address are those of its authority. -/
theorem read?_eq_some {cs : List Char} {u : Url} (h : read? cs = some u) :
    ∃ rest, splitScheme? (clean cs) = some (u.scheme, rest) ∧
      Host.read? (splitPort false (dropUser (authorityOf rest))).1 = some u.host ∧
      portOf? u.scheme (splitPort false (dropUser (authorityOf rest))).2 = some u.port := by
  simp only [read?, Option.bind_eq_bind, Option.bind_eq_some_iff, Option.pure_def,
    Option.some.injEq] at h
  obtain ⟨⟨scheme, rest⟩, hscheme, host, hhost, port, hport, rfl⟩ := h
  exact ⟨rest, hscheme, hhost, hport⟩

theorem dropUser_concat {c : Char} (h : c ≠ '@') (cs : List Char) :
    dropUser (cs ++ [c]) = dropUser cs ++ [c] := by
  simp [dropUser, h]

/-- What stands behind host and port belongs to the port, if there is one, and else to the host. -/
theorem splitPort_concat {c : Char} (h : c ≠ ':') (inside : Bool) (cs : List Char) :
    (∃ port, splitPort inside cs = ((splitPort inside cs).1, some port) ∧
      splitPort inside (cs ++ [c]) = ((splitPort inside cs).1, some (port ++ [c]))) ∨
    splitPort inside (cs ++ [c]) = ((splitPort inside cs).1 ++ [c], none) := by
  induction cs generalizing inside with
  | nil => exact .inr (by simp [splitPort, h])
  | cons d cs ih =>
    rw [List.cons_append, splitPort, splitPort]
    split
    · exact .inl ⟨cs, rfl, rfl⟩
    · rcases ih (d = '[' || (inside && d != ']')) with ⟨port, hport, hlonger⟩ | hlonger
      · refine .inl ⟨port, ?_, ?_⟩
        · rw [hport]
        · rw [hlonger]
      · exact .inr (by rw [hlonger]; rfl)

/-- No host and port are read from an authority that ends with a control or a space. -/
theorem authority_concat {c : Char} (h : isEdge c = true) (scheme : Scheme) (authority : List Char)
    {host : Host} {port : Option Nat}
    (hhost : Host.read? (splitPort false (dropUser (authority ++ [c]))).1 = some host) :
    portOf? scheme (splitPort false (dropUser (authority ++ [c]))).2 ≠ some port := by
  obtain ⟨-, -, -, -, hdigit, -⟩ := edge_facts h
  rw [dropUser_concat (ne_of_isEdge h rfl)] at hhost ⊢
  rcases splitPort_concat (ne_of_isEdge h rfl) false (dropUser authority) with
    ⟨digits, -, hsplit⟩ | hsplit
  · rw [hsplit, portOf?, readPort?]
    simp [hdigit]
  · rw [hsplit, Host.read?_concat h] at hhost
    cases hhost

/-- Host and port are read from what follows a scheme. -/
def Reads (scheme : Scheme) (rest : List Char) (host : Host) (port : Option Nat) : Prop :=
  Host.read? (splitPort false (dropUser (authorityOf rest))).1 = some host ∧
    portOf? scheme (splitPort false (dropUser (authorityOf rest))).2 = some port

section

variable {scheme : Scheme} {host : Host} {port : Option Nat} {rest : List Char} {c : Char}

theorem authorityOf_ne_nil (h : Reads scheme rest host port) : authorityOf rest ≠ [] := by
  intro hnil
  have hempty : splitPort false (dropUser []) = ([], none) := rfl
  obtain ⟨hhost, -⟩ := h
  rw [hnil, hempty, Host.read?_nil] at hhost
  cases hhost

/-- No authority ends with a control or a space. -/
theorem authorityOf_ne_concat (h : Reads scheme rest host port) (hc : isEdge c = true)
    (authority : List Char) : authorityOf rest ≠ authority ++ [c] := by
  intro hconcat
  obtain ⟨hhost, hport⟩ := h
  rw [hconcat] at hhost hport
  exact authority_concat hc scheme authority hhost hport

end

/-- A slash ends the authority, so what stands in front of it belongs to the authority or does not
matter. -/
theorem authorityOf_append (rest edges after : List Char) (hedges : ∀ c ∈ edges, isEdge c = true)
    (hne : authorityOf rest ≠ []) :
    authorityOf (rest ++ (edges ++ '/' :: after)) = authorityOf rest ∨
      authorityOf (rest ++ (edges ++ '/' :: after)) = authorityOf rest ++ edges := by
  have hslash : (rest.dropWhile isSlash).isEmpty = false := by
    rw [Bool.eq_false_iff, Ne, List.isEmpty_iff]
    intro hnil
    exact hne (by rw [authorityOf, hnil]; rfl)
  unfold authorityOf
  rw [List.dropWhile_append, if_neg (by simp [hslash]), List.takeWhile_append]
  split
  · rename_i hlen
    have hall : (rest.dropWhile isSlash).takeWhile (!endsAuthority ·) = rest.dropWhile isSlash :=
      (List.takeWhile_prefix _).eq_of_length hlen
    have hedge : edges.takeWhile (!endsAuthority ·) = edges := by
      refine List.takeWhile_eq_self_iff.2 fun c hc => ?_
      obtain ⟨-, -, -, -, -, hends⟩ := edge_facts (hedges c hc)
      simp [hends]
    have hstop : ('/' :: after).takeWhile (!endsAuthority ·) = [] := rfl
    refine .inr ?_
    rw [hall, List.takeWhile_append, hedge, if_pos rfl, hstop, List.append_nil]
  · exact .inl rfl

/-! ## Paths behind an address -/

/-- What counts of an address with a scheme in front. -/
theorem clean_name (s : Scheme) (cs : List Char) :
    clean ((s.name ++ "://").toList ++ cs) =
      (s.name ++ "://").toList ++ (dropEndWhile isEdge cs).filter (!isBreak ·) := by
  have hfront : ((s.name ++ "://").toList ++ cs).dropWhile isEdge = (s.name ++ ":/").toList ++ '/' :: cs := by
    cases s <;> rfl
  rw [clean, hfront, dropEndWhile_append_cons (by decide), List.filter_append]
  cases s <;> rfl

theorem splitScheme?_name (s : Scheme) (cs : List Char) :
    splitScheme? ((s.name ++ "://").toList ++ cs) = some (s, "//".toList ++ cs) := by
  cases s <;> rfl

theorem clean_https (cs : List Char) :
    clean ("https://".toList ++ cs) =
      "https://".toList ++ (dropEndWhile isEdge cs).filter (!isBreak ·) :=
  clean_name .https cs

theorem splitScheme?_https (cs : List Char) :
    splitScheme? ("https://".toList ++ cs) = some (.https, "//".toList ++ cs) :=
  splitScheme?_name .https cs

theorem authorityOf_slashes (cs : List Char) : authorityOf ("//".toList ++ cs) = authorityOf cs := rfl

/-- A path behind an address leaves its host as it is. -/
theorem host_eq_of_path {cs path : List Char} {u v : Url}
    (hu : read? ("https://".toList ++ cs) = some u)
    (hv : read? ("https://".toList ++ (cs ++ '/' :: path)) = some v) : v.host = u.host := by
  obtain ⟨rest, hrest, hhost, hport⟩ := read?_eq_some hu
  obtain ⟨rest', hrest', hhost', hport'⟩ := read?_eq_some hv
  rw [clean_https, splitScheme?_https] at hrest hrest'
  obtain ⟨-, rfl⟩ := Prod.mk.inj (Option.some.inj hrest)
  obtain ⟨-, rfl⟩ := Prod.mk.inj (Option.some.inj hrest')
  rw [authorityOf_slashes] at hhost hport hhost' hport'
  -- What does not count at the end of the address stands in front of the slash now.
  obtain ⟨edges, hcs, hedges⟩ := exists_append_dropEndWhile isEdge cs
  generalize dropEndWhile isEdge cs = core at hcs hhost hport
  subst hcs
  rw [dropEndWhile_append_cons (by decide), List.filter_append, List.filter_append, List.append_assoc,
    List.filter_cons_of_pos (by decide)] at hhost' hport'
  rcases authorityOf_append _ (edges.filter (!isBreak ·)) ((dropEndWhile isEdge path).filter (!isBreak ·))
    (fun c hc => hedges c (List.mem_filter.1 hc).1) (authorityOf_ne_nil ⟨hhost, hport⟩) with
    hsame | hlonger
  · rw [hsame] at hhost'
    exact Option.some.inj (hhost'.symm.trans hhost)
  · rw [hlonger] at hhost' hport'
    rcases List.eq_nil_or_concat (edges.filter (!isBreak ·)) with hnil | ⟨init, c, hconcat⟩
    · rw [hnil, List.append_nil] at hhost'
      exact Option.some.inj (hhost'.symm.trans hhost)
    · have hmem : c ∈ edges.filter (!isBreak ·) := by simp [hconcat]
      have hc : isEdge c = true := hedges c (List.mem_filter.1 hmem).1
      rw [hconcat, List.concat_eq_append, ← List.append_assoc] at hhost' hport'
      exact absurd hport' (authority_concat hc _ _ hhost')

/-! ## Addresses without their ends -/

/-- A control, a space or a slash, which may stand at the end of an address. -/
def isLoose (c : Char) : Bool := isEdge c || c = '/'

section

variable {scheme : Scheme} {host : Host} {port : Option Nat} {rest tail : List Char} {c : Char}

/-- What is loose at the end is no part of the authority. -/
theorem authorityOf_concat (hc : isLoose c = true) (h : Reads scheme (rest ++ [c]) host port) :
    authorityOf (rest ++ [c]) = authorityOf rest := by
  have hslash : isEdge c = true ∨ c = '/' := by simpa [isLoose] using hc
  have hkept (hedge : isEdge c = true) : [c].takeWhile (!endsAuthority ·) = [c] := by
    obtain ⟨-, -, -, -, -, hends⟩ := edge_facts hedge
    simp [hends]
  have hunfold : authorityOf (rest ++ [c]) =
      ((rest ++ [c]).dropWhile isSlash).takeWhile (!endsAuthority ·) := rfl
  rw [List.dropWhile_append] at hunfold
  split at hunfold
  · rcases hslash with hedge | rfl
    · have hfirst : isSlash c = false := by
        simp [isSlash, ne_of_isEdge hedge (d := '/') rfl, ne_of_isEdge hedge (d := '\\') rfl]
      rw [List.dropWhile_cons_of_neg (by simp [hfirst]), hkept hedge] at hunfold
      exact absurd hunfold (authorityOf_ne_concat h hedge [])
    · exact absurd hunfold (authorityOf_ne_nil h)
  · rw [List.takeWhile_append] at hunfold
    split at hunfold
    · rename_i hlen
      have hall := (List.takeWhile_prefix (!endsAuthority ·)).eq_of_length hlen
      rcases hslash with hedge | rfl
      · rw [hkept hedge] at hunfold
        exact absurd hunfold (authorityOf_ne_concat h hedge _)
      · have hstop : ['/'].takeWhile (!endsAuthority ·) = [] := rfl
        rw [hunfold, hstop, List.append_nil, authorityOf, hall]
    · exact hunfold

theorem authorityOf_append_loose (hloose : ∀ c ∈ tail, isLoose c = true)
    (h : Reads scheme (rest ++ tail) host port) : authorityOf (rest ++ tail) = authorityOf rest := by
  induction tail using List.reverseRecOn with
  | nil => rw [List.append_nil]
  | append_singleton tail c ih =>
    rw [← List.append_assoc] at h ⊢
    have hsame := authorityOf_concat (hloose c (by simp)) h
    rw [hsame]
    refine ih (fun d hd => hloose d (List.mem_append_left _ hd)) ?_
    rwa [Reads, ← hsame]

/-- What counts of a longer address is what counts of the shorter one, and something loose. -/
theorem exists_loose (cs : List Char) (hloose : ∀ c ∈ tail, isLoose c = true) :
    ∃ more, (∀ c ∈ more, isLoose c = true) ∧
      (dropEndWhile isEdge (cs ++ tail)).filter (!isBreak ·) =
        (dropEndWhile isEdge cs).filter (!isBreak ·) ++ more := by
  induction tail using List.reverseRecOn with
  | nil => exact ⟨[], nofun, by simp⟩
  | append_singleton tail c ih =>
    rw [← List.append_assoc, dropEndWhile_concat]
    split
    · exact ih fun d hd => hloose d (List.mem_append_left _ hd)
    · obtain ⟨edges, hcs, hedges⟩ := exists_append_dropEndWhile isEdge cs
      refine ⟨edges.filter (!isBreak ·) ++ (tail ++ [c]).filter (!isBreak ·), fun d hd => ?_, ?_⟩
      · rcases List.mem_append.1 hd with hd | hd
        · rw [isLoose, hedges d (List.mem_filter.1 hd).1, Bool.true_or]
        · exact hloose d (List.mem_filter.1 hd).1
      · have hparts : cs.filter (!isBreak ·) =
            (dropEndWhile isEdge cs).filter (!isBreak ·) ++ edges.filter (!isBreak ·) := by
          rw [← List.filter_append, ← hcs]
        rw [List.append_assoc, List.filter_append, hparts, List.append_assoc]

/-- What is loose at the end of an address leaves its host as it is. -/
theorem exists_host_of_loose {cs : List Char} {u : Url} (hloose : ∀ c ∈ tail, isLoose c = true)
    (hu : read? ("https://".toList ++ (cs ++ tail)) = some u) :
    ∃ v, read? ("https://".toList ++ cs) = some v ∧ v.host = u.host := by
  obtain ⟨rest, hrest, hhost, hport⟩ := read?_eq_some hu
  obtain ⟨more, hmore, hclean⟩ := exists_loose cs hloose
  rw [clean_https, splitScheme?_https, hclean] at hrest
  obtain ⟨hscheme, rfl⟩ := Prod.mk.inj (Option.some.inj hrest)
  rw [← List.append_assoc] at hhost hport
  have hsame := authorityOf_append_loose hmore ⟨hhost, hport⟩
  rw [hsame, authorityOf] at hhost hport
  rw [← hscheme] at hport
  simp only [read?, clean_https, splitScheme?_https, Option.bind_eq_bind, Option.bind_some, hhost,
    hport, Option.pure_def]
  exact ⟨_, rfl, rfl⟩

end

end Url

end ClipRelay
