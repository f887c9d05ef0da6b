import ClipRelay.Proofs.Text.Bytes
import ClipRelay.Proofs.Worker.Canonical

/-!
# Schemes in front of addresses

Whether an address begins with a scheme is asked of the address in lower case, which may be longer or
shorter in bytes, and then the scheme is cut from the address itself. No character beyond ASCII has a
character of a scheme for its lower case, so the address begins with the scheme in ASCII letters
(`Scheme.Opens`), and the cut falls between two characters of it.

* `Scheme.leads_iff_opens`: a scheme is found in the lower case of the texts that begin with it.
* `Endpoint.splitScheme_of_spells`: it is cut from these, and nothing else is.
* `Endpoint.locate_eq_self_iff`: an address stands for itself just when it begins with a scheme.
* `Endpoint.only_schemes_are_cut`: all of this, with the place of the cut in the bytes.
-/

namespace ClipRelay

open Text

namespace Scheme

/-- A scheme with its separator. -/
def mark (s : Scheme) : String := s.name ++ "://"

/-- The text is a scheme with its separator, in ASCII letters of any case. -/
def Spells (s : Scheme) (front : String) : Prop :=
  (∀ c ∈ front.toList, isAscii c = true) ∧ asciiLower front = s.mark

/-- The text begins with a scheme and its separator, in ASCII letters of any case. -/
def Opens (s : Scheme) (text : String) : Prop := ∃ front rest, text = front ++ rest ∧ s.Spells front

variable {s : Scheme} {front text : String}

theorem isAscii_of_mem_mark {c : Char} (h : c ∈ s.mark.toList) :
    isAscii c = true ∧ c ≠ 'i' ∧ c ≠ 'k' := by
  have hall : s.mark.toList.all (fun c => isAscii c && c != 'i' && c != 'k') = true := by
    cases s <;> decide
  have hc := List.all_eq_true.1 hall c h
  simp only [Bool.and_eq_true, bne_iff_ne] at hc
  exact ⟨hc.1.1, hc.1.2, hc.2⟩

theorem Spells.toList (h : s.Spells front) : front.toList.map Char.toLower = s.mark.toList := by
  rw [← h.2, asciiLower, String.toList_ofList]

theorem Spells.length (h : s.Spells front) : front.length = s.mark.length := by
  rw [← String.length_toList, ← String.length_toList, ← h.toList, List.length_map]

/-- It takes as many bytes as in lower case. -/
theorem Spells.utf8ByteSize (h : s.Spells front) : front.utf8ByteSize = s.mark.utf8ByteSize := by
  have hbytes : ∀ t : String, (∀ c ∈ t.toList, isAscii c = true) → t.utf8ByteSize = t.length := by
    intro t ht
    rw [← length_bytesOf, ← String.ofList_toList (s := t), bytesOf_of_ascii ht, List.length_map,
      String.ofList_toList, String.length_toList]
  rw [hbytes front h.1, hbytes s.mark fun c hc => (isAscii_of_mem_mark hc).1, h.length]

theorem leads_iff_opens : s.leads text = true ↔ s.Opens text := by
  rw [Endpoint.leads_iff]
  show s.mark.toList <+: lowerChars text.toList ↔ s.Opens text
  rw [prefix_lowerChars_iff fun a => isAscii_of_mem_mark]
  constructor
  · rintro ⟨front, rest, htext, hlower, hascii⟩
    refine ⟨String.ofList front, String.ofList rest, ?_, ?_, ?_⟩
    · rw [← String.ofList_append, ← htext, String.ofList_toList]
    · rwa [String.toList_ofList]
    · rw [asciiLower, String.toList_ofList, hlower, String.ofList_toList]
  · rintro ⟨front, rest, rfl, hspells⟩
    exact ⟨front.toList, rest.toList, String.toList_append, hspells.toList, hspells.1⟩

end Scheme

namespace Endpoint

variable {s : Scheme} {front rest text : String}

/-- No text begins with both schemes. -/
theorem not_leads_both (hhttps : Scheme.https.leads text = true) :
    Scheme.http.leads text = false := by
  apply Bool.eq_false_iff.2
  intro hhttp
  rw [leads_iff] at hhttp hhttps
  have hprefix := List.prefix_of_prefix_length_le hhttp hhttps (by decide)
  exact absurd hprefix (by decide)

/-- The scheme is cut from the front. -/
theorem splitScheme_of_spells (h : s.Spells front) : splitScheme (front ++ rest) = (some s, rest) := by
  have hleads : s.leads (front ++ rest) = true := Scheme.leads_iff_opens.2 ⟨front, rest, rfl, h⟩
  have hcut : dropChars s.mark.length (front ++ rest) = rest := by
    rw [dropChars, String.toList_append, ← h.length, ← String.length_toList, List.drop_left,
      String.ofList_toList]
  unfold splitScheme
  cases s with
  | https =>
    rw [if_pos hleads]
    exact congrArg _ hcut
  | http =>
    have hother : Scheme.https.leads (front ++ rest) ≠ true := by
      intro hhttps
      rw [not_leads_both hhttps] at hleads
      cases hleads
    rw [if_neg hother, if_pos hleads]
    exact congrArg _ hcut

theorem splitScheme_of_not_leads (h : ∀ s : Scheme, s.leads text = false) :
    splitScheme text = (none, text) := by
  simp [splitScheme, h]

/-- The address of a path begins with the scheme of the base URL. -/
theorem opens_address {raw : String} {e : Endpoint} (h : ofText raw = .ok e) (path : String) :
    ∃ s : Scheme, s.Opens (e.address path) := by
  obtain ⟨s, hbase, -⟩ := (ofText_eq_ok_iff.1 h).exists_scheme
  generalize dropSlashes (splitScheme (trim raw)).2 = rest at hbase
  have hfront : e.address path =
      s.mark ++ (rest ++ ("/" ++ String.ofList (path.toList.dropWhile (· == '/')))) := by
    rw [address, hbase]
    simp only [Scheme.mark, String.append_assoc]
  have hspells : s.Spells s.mark := by
    refine ⟨fun c hc => (Scheme.isAscii_of_mem_mark hc).1, ?_⟩
    cases s <;> decide
  exact ⟨s, s.mark, _, hfront, hspells⟩

/-- Only an address that begins with a scheme stands for itself. -/
theorem locate_eq_self_iff {raw : String} {e : Endpoint} (h : ofText raw = .ok e) :
    e.locate text = text ↔ ∃ s : Scheme, s.Opens text := by
  constructor
  · intro hself
    unfold locate at hself
    split at hself
    · rename_i hleads
      rcases Bool.or_eq_true_iff.1 hleads with hhttp | hhttps
      · exact ⟨.http, Scheme.leads_iff_opens.1 hhttp⟩
      · exact ⟨.https, Scheme.leads_iff_opens.1 hhttps⟩
    · rw [← hself]
      exact opens_address h text
  · rintro ⟨s, hs⟩
    have hleads := Scheme.leads_iff_opens.2 hs
    unfold locate
    rw [if_pos]
    cases s with
    | http => rw [hleads, Bool.true_or]
    | https => rw [hleads, Bool.or_true]

/-- Where the scheme is cut off, counted in the bytes of the text in lower case, the text itself can be
cut: the scheme takes as many bytes there. -/
theorem cut_bytes (h : s.Spells front) (rest : String) :
    (⟨s.mark.utf8ByteSize⟩ : String.Pos.Raw).IsValid (front ++ rest) ∧
      bytesOf rest = (bytesOf (front ++ rest)).drop s.mark.utf8ByteSize := by
  rw [← h.utf8ByteSize]
  constructor
  · exact String.Pos.Raw.isValid_iff_exists_append.2 ⟨front, rest, rfl, rfl⟩
  · rw [bytesOf_append, ← length_bytesOf, List.drop_left]

/-- When a scheme is found in the lower case of a text, the text itself begins with it in ASCII letters.
As many bytes as the scheme has are cut off, which end where a character ends, and what is left is the
text without the scheme. When none is found the text is left whole, and it begins with none. The address
of a download stands for itself just when it begins with a scheme. -/
theorem only_schemes_are_cut (text : String) :
    ((∃ (s : Scheme) (front rest : String), s.leads text = true ∧ splitScheme text = (some s, rest) ∧
        text = front ++ rest ∧ s.Spells front ∧ front.length = s.mark.length ∧
        (⟨s.mark.utf8ByteSize⟩ : String.Pos.Raw).IsValid text ∧
        bytesOf rest = (bytesOf text).drop s.mark.utf8ByteSize) ∨
      ((∀ s : Scheme, s.leads text = false ∧ ¬ s.Opens text) ∧ splitScheme text = (none, text))) ∧
    ∀ raw e, ofText raw = .ok e → (e.locate text = text ↔ ∃ s : Scheme, s.Opens text) := by
  refine ⟨?_, fun raw e h => locate_eq_self_iff h⟩
  by_cases hany : ∃ s : Scheme, s.leads text = true
  · left
    obtain ⟨s, hleads⟩ := hany
    obtain ⟨front, rest, rfl, hspells⟩ := Scheme.leads_iff_opens.1 hleads
    obtain ⟨hvalid, hbytes⟩ := cut_bytes hspells rest
    exact ⟨s, front, rest, hleads, splitScheme_of_spells hspells, rfl, hspells, hspells.length, hvalid,
      hbytes⟩
  · right
    have hnone : ∀ s : Scheme, s.leads text = false := by
      intro s
      exact Bool.eq_false_iff.2 fun hleads => hany ⟨s, hleads⟩
    refine ⟨fun s => ⟨hnone s, fun hopens => hany ⟨s, ?_⟩⟩, splitScheme_of_not_leads hnone⟩
    exact Scheme.leads_iff_opens.2 hopens

/-- Behind the scheme stands a character that is one byte longer in lower case. -/
theorem only_schemes_are_cut_sample :
    (lower "hTTpS://\u0130").utf8ByteSize = 11 ∧ "hTTpS://\u0130".utf8ByteSize = 10 ∧
    ofText "[::1]:8080/" = .ok ⟨"https://[::1]:8080", false⟩ ∧
    (∃ front, "hTTpS://\u0130" = front ++ "\u0130" ∧ Scheme.https.Spells front ∧ front.length = 8 ∧
      (⟨8⟩ : String.Pos.Raw).IsValid "hTTpS://\u0130") ∧
    Endpoint.locate ⟨"https://[::1]:8080", false⟩ "hTTpS://\u0130" = "hTTpS://\u0130" := by
  have hmade : ofText "[::1]:8080/" = .ok ⟨"https://[::1]:8080", false⟩ := by decide +kernel
  have hsplit : splitScheme "hTTpS://\u0130" = (some .https, "\u0130") := by decide +kernel
  obtain ⟨⟨s, front, rest, -, hcut, htext, hspells, hlength, hvalid, -⟩ | ⟨-, hwhole⟩, hlocate⟩ :=
    only_schemes_are_cut "hTTpS://\u0130"
  · obtain ⟨hs, rfl⟩ := Prod.mk.inj (hsplit.symm.trans hcut)
    obtain rfl := Option.some.inj hs
    exact ⟨by decide +kernel, by decide +kernel, hmade, ⟨front, htext, hspells, hlength, hvalid⟩,
      (hlocate _ _ hmade).2 ⟨.https, front, _, htext, hspells⟩⟩
  · cases hsplit.symm.trans hwhole

end Endpoint

end ClipRelay
