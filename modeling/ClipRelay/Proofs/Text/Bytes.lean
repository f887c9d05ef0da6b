import ClipRelay.Text.Case
import ClipRelay.Text.Utf8
import Mathlib.Tactic.SplitIfs

/-!
# Bytes that a text ends with

An ASCII character behind a text is one byte behind its bytes (`bytesOf_concat`), and an ASCII byte behind
bytes is one character behind theirs, whatever the bytes are (`lossyChars_concat`).
-/

namespace ClipRelay.Text

theorem toList_loop_eq (bs : ByteArray) (i : Nat) (before : List UInt8) :
    ByteArray.toList.loop bs i before = before.reverse ++ bs.data.toList.drop i := by
  induction i, before using ByteArray.toList.loop.induct bs with
  | case1 i before hlt ih =>
    have hi : i < bs.data.toList.length := by simpa using hlt
    have hget : bs.get! i = bs.data.toList[i] := getElem!_pos bs.data i (by simpa using hlt)
    rw [ByteArray.toList.loop, if_pos hlt, ih, List.drop_eq_getElem_cons hi, hget]
    simp
  | case2 i before hge =>
    have hlen : bs.data.toList.length ≤ i := by simpa using hge
    rw [ByteArray.toList.loop, if_neg hge, List.drop_eq_nil_of_le hlen, List.append_nil]

theorem toList_eq (bs : ByteArray) : bs.toList = bs.data.toList := toList_loop_eq bs 0 []

theorem length_bytesOf (s : String) : (bytesOf s).length = s.utf8ByteSize := by
  rw [bytesOf, String.toUTF8, toList_eq, Array.length_toList]
  rfl

theorem bytesOf_append (s t : String) : bytesOf (s ++ t) = bytesOf s ++ bytesOf t := by
  simp only [bytesOf, String.toUTF8, toList_eq, String.toByteArray_append, ByteArray.toList_data_append]

theorem bytesOf_singleton {c : Char} (h : isAscii c = true) :
    bytesOf (String.ofList [c]) = [UInt8.ofNat c.toNat] := by
  have hc : c.toNat < 128 := by simpa [isAscii] using h
  have hle : c.val ≤ 0x7F := by
    rw [UInt32.le_iff_toNat_le]
    exact Nat.le_of_lt_succ hc
  have hsize : c.utf8Size = 1 := if_pos hle
  simp only [bytesOf, String.toUTF8, toList_eq, String.toByteArray_ofList, List.utf8Encode_singleton,
    String.utf8EncodeChar_eq_singleton hsize]
  simp
  rfl

theorem bytesOf_concat {c : Char} (h : isAscii c = true) (cs : List Char) :
    bytesOf (String.ofList (cs ++ [c])) = bytesOf (String.ofList cs) ++ [UInt8.ofNat c.toNat] := by
  rw [String.ofList_append, bytesOf_append, bytesOf_singleton h]

/-- A text of ASCII has one byte for each character. -/
theorem bytesOf_of_ascii {cs : List Char} (h : ∀ c ∈ cs, isAscii c = true) :
    bytesOf (String.ofList cs) = cs.map (UInt8.ofNat ·.toNat) := by
  induction cs with
  | nil => simp [bytesOf, String.toUTF8, toList_eq]
  | cons c cs ih =>
    obtain ⟨hc, hcs⟩ := List.forall_mem_cons.1 h
    rw [← List.singleton_append, String.ofList_append, bytesOf_append, bytesOf_singleton hc, ih hcs,
      List.map_append]
    rfl

/-- The bytes of a character under way are not ASCII. -/
theorem low_of_startGlyph {b : UInt8} {p : Pending} {out : List Glyph}
    (h : startGlyph b = (some p, out)) : 0x80 ≤ p.low := by
  unfold startGlyph at h
  split_ifs at h <;> cases h <;> simp only <;> decide

theorem low_of_stepGlyph {p p' : Pending} {b : UInt8} {out : List Glyph}
    (h : stepGlyph p b = (some p', out)) : 0x80 ≤ p'.low := by
  unfold stepGlyph at h
  simp only at h
  split at h
  · split at h
    · cases h
    · cases h
      exact UInt8.le_refl _
  · obtain ⟨hnext, -⟩ := Prod.mk.inj h
    exact low_of_startGlyph (Prod.ext hnext rfl)

theorem startGlyph_ascii {b : UInt8} (h : b < 0x80) :
    startGlyph b = (none, [some (Char.ofNat b.toNat)]) := if_pos h

/-- An ASCII byte is a character of its own where bytes end. -/
theorem glyphsFrom_concat {b : UInt8} (h : b < 0x80) (under : Option Pending)
    (hunder : ∀ p, under = some p → 0x80 ≤ p.low) (bs : Bytes) :
    glyphsFrom under (bs ++ [b]) = glyphsFrom under bs ++ [some (Char.ofNat b.toNat)] := by
  induction bs generalizing under with
  | nil =>
    cases under with
    | none => simp [glyphsFrom, startGlyph_ascii h]
    | some p =>
      have hout : ¬ p.low ≤ b := UInt8.not_le.2 (UInt8.lt_of_lt_of_le h (hunder p rfl))
      simp [glyphsFrom, stepGlyph, hout, startGlyph_ascii h]
  | cons c bs ih =>
    cases under with
    | none =>
      have hrest := ih (startGlyph c).1 fun p hp => low_of_startGlyph (Prod.ext hp rfl)
      simp only [List.cons_append, glyphsFrom, hrest, List.append_assoc]
    | some p =>
      have hrest := ih (stepGlyph p c).1 fun p' hp => low_of_stepGlyph (Prod.ext hp rfl)
      simp only [List.cons_append, glyphsFrom, hrest, List.append_assoc]

theorem lossyChars_concat {b : UInt8} (h : b < 0x80) (bs : Bytes) :
    lossyChars (bs ++ [b]) = lossyChars bs ++ [Char.ofNat b.toNat] := by
  rw [lossyChars, glyphs, glyphsFrom_concat h none nofun, List.map_append]
  rfl

end ClipRelay.Text
