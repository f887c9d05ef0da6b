import ClipRelay.Proofs.Text.Split
import ClipRelay.Proofs.Text.Trim
import ClipRelay.Proofs.Url.Paths
import ClipRelay.Worker.Client
import Mathlib.Data.List.Basic

/-!
# Ids of letters and digits

A job may have an id of any length. One of letters and digits is read as it stands in the worker's
answer (`Client.startedOf_plainId`), and stands as it is in the address of the job's progress
(`Url.read?_idAddress`), which cannot be requested when it is too long (`requestable_idAddress`).
-/

namespace ClipRelay

open Text

/-- A text of letters and digits. -/
def IsPlainId (cs : List Char) : Prop := cs ≠ [] ∧ ∀ c ∈ cs, c.isAlphanum = true

section

variable {cs : List Char}

theorem ne_of_isAlphanum {c d : Char} (h : c.isAlphanum = true) (hd : d.isAlphanum = false) : c ≠ d := by
  rintro rfl
  rw [h] at hd
  cases hd

/-! ## The answer of the worker -/

/-- The body of an answer that gives an id. -/
def idBody (cs : List Char) : List Char :=
  '\x7b' :: ("\"job_id\":\"".toList ++ (cs ++ ['"', '\x7d']))

/-- The bytes of a text of ASCII. -/
def asciiBytes (cs : List Char) : Bytes := cs.map fun c => UInt8.ofNat c.toNat

theorem glyphs_asciiBytes (h : ∀ c ∈ cs, isAscii c = true) :
    glyphs (asciiBytes cs) = cs.map some := by
  unfold glyphs
  induction cs with
  | nil => rfl
  | cons c cs ih =>
    have hc : c.toNat < 128 := by simpa [isAscii] using h c List.mem_cons_self
    have hb : (UInt8.ofNat c.toNat).toNat = c.toNat := by
      rw [UInt8.toNat_ofNat']
      omega
    have hlt : UInt8.ofNat c.toNat < 0x80 := by
      rw [UInt8.lt_iff_toNat_lt, hb]
      exact hc
    have hstart : startGlyph (UInt8.ofNat c.toNat) = (none, [some c]) := by
      rw [startGlyph, if_pos hlt, hb, Char.ofNat_toNat]
    have hrest : glyphsFrom none (asciiBytes cs) = cs.map some :=
      ih fun d hd => h d (List.mem_cons_of_mem _ hd)
    simp only [asciiBytes, List.map_cons, glyphsFrom, hstart] at hrest ⊢
    rw [hrest]
    rfl

open Json.Read in
theorem textBody_plain (h : ∀ c ∈ cs, c.isAlphanum = true) (rest : List Glyph) :
    textBody (cs.map some ++ some '"' :: rest) = .ok (cs, rest) := by
  induction cs with
  | nil => rfl
  | cons c cs ih =>
    have hc := h c List.mem_cons_self
    have hquote : c ≠ '"' := ne_of_isAlphanum hc rfl
    have hbackslash : c ≠ '\\' := ne_of_isAlphanum hc rfl
    have hlow : ¬ c.toNat < 0x20 := by
      have := lt_of_isAlphanum hc
      omega
    rw [List.map_cons, List.cons_append, textBody, ih fun d hd => h d (List.mem_cons_of_mem _ hd)]
    · simp only [hbackslash, hlow, decide_false, Bool.or_false, Bool.false_eq_true, if_false]
      rfl
    all_goals simp [hquote, hbackslash]

section

open Json.Read

variable {depth : Nat} {tail rest : List Glyph}

theorem value_text (h : textBody tail = .ok (cs, rest)) :
    value depth (some '"' :: tail) = .ok (.string (String.ofList cs), rest) := by
  have hblank : skipBlanks (some '"' :: tail) = some '"' :: tail := rfl
  rw [value, hblank]
  simp only [h, bind, Except.bind]
  rfl

/-- The fields of the answer to a new job. -/
def startFields : List Field :=
  [.omittable "job_id" value, .omittable "status" text, .omittable "message" text]

theorem member_id (h : textBody tail = .ok (cs, rest)) :
    member startFields depth [] ("\"job_id\":\"".toList.map some ++ tail) =
      .ok ([("job_id", .string (String.ofList cs))], rest) := by
  have hblank : skipBlanks ("\"job_id\":\"".toList.map some ++ tail) =
      some '"' :: ("job_id\"".toList.map some ++ (some ':' :: some '"' :: tail)) := rfl
  have hkey : textBody ("job_id\"".toList.map some ++ (some ':' :: some '"' :: tail)) =
      .ok ("job_id".toList, some ':' :: some '"' :: tail) := rfl
  have hcolon : skipBlanks (some ':' :: some '"' :: tail) = some ':' :: some '"' :: tail := rfl
  have hfind : startFields.find? (·.name == String.ofList "job_id".toList) =
      some (.omittable "job_id" value) := rfl
  have hread : (Field.omittable "job_id" value).read depth (some '"' :: tail) =
      .ok (.string (String.ofList cs), rest) := value_text h
  rw [member, hblank]
  simp only [hkey, bind, Except.bind]
  rw [hfind]
  simp only [List.lookup_nil, Option.isSome_none, Bool.false_eq_true, if_false, hcolon]
  rw [hread]
  rfl

theorem slotsOf_id (h : textBody tail = .ok (cs, [some '\x7d'])) :
    slotsOf startFields (depth + 1) (some '\x7b' :: ("\"job_id\":\"".toList.map some ++ tail)) =
      .ok ([.string (String.ofList cs), .null, .null], []) := by
  have hblank : skipBlanks (some '\x7b' :: ("\"job_id\":\"".toList.map some ++ tail)) =
      some '\x7b' :: ("\"job_id\":\"".toList.map some ++ tail) := rfl
  have hitem : skipBlanks ("\"job_id\":\"".toList.map some ++ tail) =
      some '"' :: ("job_id\":\"".toList.map some ++ tail) := rfl
  have hmembers : sequence '\x7d' (member startFields depth) []
      ("\"job_id\":\"".toList.map some ++ tail) =
      .ok ([("job_id", .string (String.ofList cs))], []) := by
    rw [Json.Read.sequence, hitem]
    simp only [member_id h, bind, Except.bind]
    rfl
  rw [slotsOf, hblank]
  simp only [hmembers, bind, Except.bind]
  rfl

theorem decode_idBody (h : ∀ c ∈ cs, c.isAlphanum = true) :
    (Wire.decode (String.ofList (idBody cs)) : Except Fault StartPayload) =
      .ok ⟨some (.string (String.ofList cs)), none, none⟩ := by
  have hglyphs : glyphsOf (String.ofList (idBody cs)) = some '\x7b' ::
      ("\"job_id\":\"".toList.map some ++ (cs.map some ++ some '"' :: [some '\x7d'])) := by
    simp only [glyphsOf, idBody, String.toList_ofList, List.map_cons, List.map_append, List.map_nil]
  have hread : Wire.read StartPayload = record startFields := rfl
  rw [Wire.decode, hglyphs, Wire.decodeGlyphs, readAll, hread, record, maxDepth,
    slotsOf_id (textBody_plain h _)]
  rfl

end

/-- The worker's answer that gives an id. -/
def idReply (cs : List Char) : Reply := ⟨200, none, [asciiBytes (idBody cs)], true⟩

theorem text_idReply (h : ∀ c ∈ cs, c.isAlphanum = true) :
    (idReply cs).text = .ok (String.ofList (idBody cs)) := by
  have hopen : ∀ c ∈ "\x7b\"job_id\":\"".toList, isAscii c = true := List.all_eq_true.1 (by decide)
  have hclose : ∀ c ∈ ['"', '\x7d'], isAscii c = true := List.all_eq_true.1 (by decide)
  have hascii : ∀ c ∈ idBody cs, isAscii c = true := by
    intro c hc
    rcases List.mem_append.1 (show c ∈ "\x7b\"job_id\":\"".toList ++ (cs ++ ['"', '\x7d']) from hc) with
      hc | hc
    · exact hopen c hc
    · rcases List.mem_append.1 hc with hc | hc
      · have hlt := lt_of_isAlphanum (h c hc)
        simp only [isAscii, decide_eq_true_eq]
        omega
      · exact hclose c hc
  have hflat : (idReply cs).chunks.flatten = asciiBytes (idBody cs) := List.append_nil _
  have hwhole : (idReply cs).whole = true := rfl
  rw [Reply.text, if_pos hwhole, hflat, lossy, lossyChars, glyphs_asciiBytes hascii, List.map_map]
  exact congrArg (fun l => Except.ok (String.ofList l)) (List.map_id _)

theorem trim_plainId (h : IsPlainId cs) : trim (String.ofList cs) = String.ofList cs :=
  trim_eq_self fun c hc => isBlank_of_isAlphanum (h.2 c (by rwa [String.toList_ofList] at hc))

/-- The id of the worker's answer is the id of the job. -/
theorem Client.startedOf_plainId (s : Submission) (h : IsPlainId cs) :
    Client.startedOf s (idReply cs) =
      .ok ⟨String.ofList cs, "Processing started for " ++ s.uploadName⟩ := by
  have hne : String.ofList cs ≠ "" := by
    rw [Ne, String.ofList_eq_empty_iff]
    exact h.1
  have hbody : Client.readBody StartPayload (idReply cs) =
      .ok ⟨some (.string (String.ofList cs)), none, none⟩ := by
    rw [Client.readBody, text_idReply h.2]
    simp only [decode_idBody h.2]
  have hid : jobIdOf (.string (String.ofList cs)) = some (String.ofList cs) := by
    rw [jobIdOf, nonBlank?, trim_plainId h, if_neg hne]
  have hsuccess : (idReply cs).isSuccess = true := rfl
  rw [Client.startedOf, hsuccess, hbody]
  simp only [Bool.not_true, Bool.false_eq_true, if_false, bind, Except.bind, StartPayload.id?,
    Option.bind_some, hid]
  rfl

/-! ## The address of the progress -/

/-- The address of the progress of the job with an id, on one machine. -/
def idAddress (cs : List Char) : List Char := "http://[::1]:8080/progress/".toList ++ cs

namespace Url

theorem clean_eq_self {l : List Char} (h : ∀ c ∈ l, 0x20 < c.toNat) : clean l = l := by
  have hedge : ∀ c ∈ l, isEdge c = false := fun c hc => by
    have := h c hc
    simp only [isEdge, decide_eq_false_iff_not]
    omega
  have hbreak : ∀ c ∈ l, (!isBreak c) = true := fun c hc => by
    have hc := h c hc
    have hne : ∀ d : Char, d.toNat ≤ 0x20 → c ≠ d := by
      rintro d hd rfl
      omega
    simp [isBreak, hne]
  have hstart : l.dropWhile isEdge = l := by
    cases l with
    | nil => rfl
    | cons c cs => exact List.dropWhile_cons_of_neg (by simp [hedge c List.mem_cons_self])
  have hend : l.reverse.dropWhile isEdge = l.reverse := by
    cases hr : l.reverse with
    | nil => rfl
    | cons c ds =>
      have hc : c ∈ l := List.mem_reverse.1 (hr ▸ List.mem_cons_self)
      exact List.dropWhile_cons_of_neg (by simp [hedge c hc])
  rw [clean, hstart, dropEndWhile, hend, List.reverse_reverse]
  exact List.filter_eq_self.2 hbreak

theorem lt_toLower {c : Char} (h : c.isAlphanum = true) : '.'.toNat < c.toLower.toNat := by
  have hc := (bounds_of_isAlphanum h).1
  unfold Char.toLower
  split
  · rename_i hupper
    have hval : c.val.toNat = c.toNat := rfl
    simp only [ge_iff_le, UInt32.le_iff_toNat_le] at hupper
    simp only [Char.toNat, UInt32.toNat_add] at hc ⊢
    simp at hupper hc ⊢
    omega
  · exact Nat.lt_of_lt_of_le (by decide) hc

/-- A plain segment stands for itself. -/
theorem addSegments_plain (h : IsPlainId cs) :
    addSegments [] ["progress".toList, cs] = ["progress".toList, cs] := by
  have hdots : ∀ d l, d.toNat ≤ '.'.toNat → String.ofList (cs.map Char.toLower) ≠ String.ofList (d :: l) := by
    obtain ⟨c, ds, rfl⟩ := List.exists_cons_of_ne_nil h.1
    intro d l hd heq
    have hlt := lt_toLower (h.2 c List.mem_cons_self)
    rw [String.ofList_inj, List.map_cons] at heq
    rw [(List.cons.inj heq).1] at hlt
    omega
  have hdouble : isDoubleDot cs = false := by
    simp only [isDoubleDot, List.contains_cons, List.contains_nil, Bool.or_false, Bool.or_eq_false_iff,
      beq_eq_false_iff_ne]
    exact ⟨hdots '.' _ (by decide), hdots '.' _ (by decide), hdots '%' _ (by decide), hdots '%' _ (by decide)⟩
  have hdot : isDot cs = false := by
    simp only [isDot, List.contains_cons, List.contains_nil, Bool.or_false, Bool.or_eq_false_iff,
      beq_eq_false_iff_ne]
    exact ⟨hdots '.' _ (by decide), hdots '%' _ (by decide)⟩
  have hencode : encodeChars pathSet cs = cs := by
    refine encodeChars_eq_self fun c hc => ?_
    have hlt := lt_of_isAlphanum (h.2 c hc)
    have hspecial : inText " \x22#<>?^\x60\x7b\x7d" c = false := by
      have hnone : ∀ d ∈ " \x22#<>?^\x60\x7b\x7d".toList, (!d.isAlphanum) = true :=
        List.all_eq_true.1 (by decide)
      simp only [inText, List.contains_eq_mem, decide_eq_false_iff_not]
      intro hmem
      exact ne_of_isAlphanum (h.2 c hc) (by simpa using hnone c hmem) rfl
    rw [pathSet, hspecial, Bool.or_false]
    simp only [isControl, Bool.or_eq_false_iff, decide_eq_false_iff_not]
    omega
  have hfirst : addSegments [] ["progress".toList, cs] = addSegments ["progress".toList] [cs] := by
    rw [addSegments]
    rfl
  rw [hfirst, addSegments]
  simp only [hdouble, hdot, hencode, Bool.false_eq_true, if_false]
  rfl

theorem read?_idAddress (h : IsPlainId cs) : read? (idAddress cs) =
    some ⟨.http, .ipv6 [0, 0, 0, 0, 0, 0, 0, 1], some 8080, ["progress".toList, cs], none, none⟩ := by
  have hclean : clean (idAddress cs) = idAddress cs := by
    have hlead : ∀ c ∈ "http://[::1]:8080/progress/".toList, decide (0x20 < c.toNat) = true :=
      List.all_eq_true.1 (by decide)
    refine clean_eq_self fun c hc => ?_
    rcases List.mem_append.1 hc with hc | hc
    · exact of_decide_eq_true (hlead c hc)
    · exact (lt_of_isAlphanum (h.2 c hc)).1
  have hscheme : splitScheme? (idAddress cs) =
      some (.http, "//[::1]:8080/progress/".toList ++ cs) := rfl
  have hrest : ("//[::1]:8080/progress/".toList ++ cs).dropWhile isSlash =
      "[::1]:8080/progress/".toList ++ cs := rfl
  have hauthority : ("[::1]:8080/progress/".toList ++ cs).takeWhile (!endsAuthority ·) =
      "[::1]:8080".toList := rfl
  have hpath : ("[::1]:8080/progress/".toList ++ cs).dropWhile (!endsAuthority ·) =
      "/progress/".toList ++ cs := rfl
  have hport : splitPort false (dropUser "[::1]:8080".toList) =
      ("[::1]".toList, some "8080".toList) := rfl
  have hhost : Host.read? "[::1]".toList = some (.ipv6 [0, 0, 0, 0, 0, 0, 0, 1]) := by decide +kernel
  have hnumber : portOf? .http (some "8080".toList) = some (some 8080) := by decide +kernel
  have hnone : ∀ d : Char, d.isAlphanum = false → d ∉ "/progress/".toList →
      d ∉ "/progress/".toList ++ cs := fun d hd hlead hmem => by
    rcases List.mem_append.1 hmem with hmem | hmem
    · exact hlead hmem
    · exact ne_of_isAlphanum (h.2 d hmem) hd rfl
  have hfragment := cutOff_of_notMem (hnone '#' rfl (by decide))
  have hquery := cutOff_of_notMem (hnone '?' rfl (by decide))
  have hslash : '/' ∉ cs := fun hmem => ne_of_isAlphanum (h.2 _ hmem) (d := '/') rfl rfl
  have hsegments : segmentsOf ("/progress/".toList ++ cs) = ["progress".toList, cs] := by
    have hpieces : splitOnSlash ("progress/".toList ++ cs) = ["progress".toList, cs] := by
      have hsame : cs.map (fun c => if isSlash c then '/' else c) = cs := by
        refine (List.map_congr_left fun c hc => ?_).trans (List.map_id cs)
        have hslash : isSlash c = false := by
          simp [isSlash, ne_of_isAlphanum (h.2 c hc) (d := '/') rfl,
            ne_of_isAlphanum (h.2 c hc) (d := '\\') rfl]
        rw [hslash]
        rfl
      rw [splitOnSlash, List.map_append, hsame]
      exact (splitOnChar_append "progress".toList cs).trans
        (congrArg (["progress".toList] ++ ·) (splitOnChar_of_notMem hslash))
    rw [segmentsOf]
    exact (congrArg (addSegments []) hpieces).trans (addSegments_plain h)
  rw [read?, hclean, hscheme]
  simp only [Option.bind_eq_bind, Option.bind_some, hrest, hauthority, hport, hhost, hnumber, hpath,
    hfragment, hquery, hsegments]
  rfl

theorem length_le_utf8ByteSize (l : List Char) : l.length ≤ (String.ofList l).utf8ByteSize := by
  induction l with
  | nil => exact Nat.zero_le _
  | cons c l ih =>
    have hsplit : String.ofList (c :: l) = String.singleton c ++ String.ofList l := by
      rw [← String.toList_inj]
      simp
    have hc := c.utf8Size_pos
    rw [hsplit, String.utf8ByteSize_append, String.utf8ByteSize_singleton, List.length_cons]
    omega

end Url

/-- An address that is too long cannot be requested. -/
theorem requestable_idAddress (h : IsPlainId cs) (hlong : Url.maxLength < cs.length) :
    (requestable (String.ofList (idAddress cs))).toOption = none := by
  have hread := Url.read?_idAddress h
  generalize hu : (⟨.http, .ipv6 [0, 0, 0, 0, 0, 0, 0, 1], some 8080, ["progress".toList, cs], none,
    none⟩ : Url) = u at hread
  have hlength : cs.length ≤ u.text.utf8ByteSize := by
    have hchars : cs.length ≤ (u.authorityChars ++ u.targetChars ++ Url.partChars '#' u.fragment).length := by
      rw [← hu]
      simp only [Url.targetChars, Url.pathChars, List.flatMap_cons, List.length_append, List.length_cons]
      omega
    have hbytes := Url.length_le_utf8ByteSize
      (u.authorityChars ++ u.targetChars ++ Url.partChars '#' u.fragment)
    rw [Url.text, String.utf8ByteSize_append]
    omega
  have hno : u.isRequestable = false := by
    rw [Url.isRequestable, Bool.and_eq_false_iff]
    refine .inr (decide_eq_false ?_)
    omega
  rw [requestable, Url.ofText?, String.toList_ofList, hread]
  simp only [hno, Bool.false_eq_true, if_false]
  rfl

end

end ClipRelay
