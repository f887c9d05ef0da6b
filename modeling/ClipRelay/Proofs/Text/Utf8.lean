import ClipRelay.Proofs.Text.Bytes

/-!
# Texts survive as bytes

The bytes of a text read as that text and as nothing else (`glyphs_bytesOf`, `lossy_bytesOf`), and a
byte of ASCII is among them only as the character that it is (`byte_mem_bytesOf`).
-/

namespace ClipRelay.Text

theorem bytesOf_ofList (cs : List Char) :
    bytesOf (String.ofList cs) = cs.flatMap String.utf8EncodeChar := by
  simp [bytesOf, String.toUTF8, toList_eq, String.toByteArray_ofList, List.utf8Encode]

theorem bytesOf_eq (s : String) : bytesOf s = s.toList.flatMap String.utf8EncodeChar := by
  rw [← bytesOf_ofList, String.ofList_toList]

/-! ## One character -/

theorem toNat_byte {n : Nat} (h : n < 256) : (UInt8.ofNat n).toNat = n := by
  rw [UInt8.toNat_ofNat', Nat.mod_eq_of_lt h]

/-- A byte between the bounds of a character under way. -/
theorem stepGlyph_of_mem {p : Pending} {k : Nat} (hk : k < 64) (hlow : p.low.toNat ≤ k + 128)
    (hhigh : k + 128 ≤ p.high.toNat) : stepGlyph p (UInt8.ofNat (k + 128)) =
      if p.missing = 1 then (none, [some (Char.ofNat (p.bits * 64 + k))])
      else (some ⟨p.missing - 1, 0x80, 0xBF, p.bits * 64 + k⟩, []) := by
  have hb : (UInt8.ofNat (k + 128)).toNat = k + 128 := toNat_byte (by omega)
  have hin : p.low ≤ UInt8.ofNat (k + 128) ∧ UInt8.ofNat (k + 128) ≤ p.high := by
    rw [UInt8.le_iff_toNat_le, UInt8.le_iff_toNat_le, hb]
    exact ⟨hlow, hhigh⟩
  have hmod : (k + 128) % 64 = k := by omega
  unfold stepGlyph
  rw [if_pos (by simp only [Bool.and_eq_true, decide_eq_true_eq]; exact hin)]
  simp only [hb, hmod]

variable {low high : UInt8} {n bits k : Nat}

theorem glyphsFrom_firstByte {b : UInt8} {p : Pending} (h : startGlyph b = (some p, []))
    (bs : Bytes) : glyphsFrom none (b :: bs) = glyphsFrom (some p) bs := by
  rw [glyphsFrom, h]
  rfl

theorem glyphsFrom_byte (m : Nat) (hk : k < 64) (hlow : low.toNat ≤ k + 128)
    (hhigh : k + 128 ≤ high.toNat) (bs : Bytes) :
    glyphsFrom (some ⟨m + 2, low, high, bits⟩) (UInt8.ofNat (k + 128) :: bs) =
      glyphsFrom (some ⟨m + 1, 0x80, 0xBF, bits * 64 + k⟩) bs := by
  rw [glyphsFrom, stepGlyph_of_mem hk hlow hhigh, if_neg (by simp)]
  rfl

theorem glyphsFrom_lastByte (hk : k < 64) (hlow : low.toNat ≤ k + 128)
    (hhigh : k + 128 ≤ high.toNat) (bs : Bytes) :
    glyphsFrom (some ⟨1, low, high, bits⟩) (UInt8.ofNat (k + 128) :: bs) =
      some (Char.ofNat (bits * 64 + k)) :: glyphsFrom none bs := by
  rw [glyphsFrom, stepGlyph_of_mem hk hlow hhigh, if_pos rfl]
  rfl

theorem startGlyph_two (hlow : 2 ≤ k) (hhigh : k < 32) :
    startGlyph (UInt8.ofNat (k + 192)) = (some ⟨1, 0x80, 0xBF, k⟩, []) := by
  have hb : (UInt8.ofNat (k + 192)).toNat = k + 192 := toNat_byte (by omega)
  have hmod : (k + 192) % 32 = k := by omega
  unfold startGlyph
  rw [if_neg, if_neg, if_pos, hb, hmod]
  all_goals simp only [UInt8.lt_iff_toNat_lt, hb, UInt8.reduceToNat]; omega

theorem startGlyph_three (hhigh : k < 16) :
    startGlyph (UInt8.ofNat (k + 224)) =
      (some ⟨2, if k = 0 then 0xA0 else 0x80, if k = 13 then 0x9F else 0xBF, k⟩, []) := by
  have hb : (UInt8.ofNat (k + 224)).toNat = k + 224 := toNat_byte (by omega)
  have hmod : (k + 224) % 16 = k := by omega
  have hfirst : UInt8.ofNat (k + 224) = 0xE0 ↔ k = 0 := by
    rw [← UInt8.toNat_inj, hb]
    simp
  have hlast : UInt8.ofNat (k + 224) = 0xED ↔ k = 13 := by
    rw [← UInt8.toNat_inj, hb]
    simp
  unfold startGlyph
  rw [if_neg, if_neg, if_neg, if_pos, hb, hmod]
  · simp only [hfirst, hlast]
  all_goals simp only [UInt8.lt_iff_toNat_lt, hb, UInt8.reduceToNat]; omega

theorem startGlyph_four (hhigh : k < 5) :
    startGlyph (UInt8.ofNat (k + 240)) =
      (some ⟨3, if k = 0 then 0x90 else 0x80, if k = 4 then 0x8F else 0xBF, k⟩, []) := by
  have hb : (UInt8.ofNat (k + 240)).toNat = k + 240 := toNat_byte (by omega)
  have hmod : (k + 240) % 8 = k := by omega
  have hfirst : UInt8.ofNat (k + 240) = 0xF0 ↔ k = 0 := by
    rw [← UInt8.toNat_inj, hb]
    simp
  have hlast : UInt8.ofNat (k + 240) = 0xF4 ↔ k = 4 := by
    rw [← UInt8.toNat_inj, hb]
    simp
  unfold startGlyph
  rw [if_neg, if_neg, if_neg, if_neg, if_pos, hb, hmod]
  · simp only [hfirst, hlast]
  all_goals simp only [UInt8.lt_iff_toNat_lt, hb, UInt8.reduceToNat]; omega

/-- A character is a code point that is no surrogate. -/
theorem codePoint_lt (c : Char) : c.toNat < 0xD800 ∨ 0xDFFF < c.toNat ∧ c.toNat < 0x110000 := c.valid

theorem glyphsFrom_one (h : n < 0x80) (bs : Bytes) :
    glyphsFrom none (UInt8.ofNat n :: bs) = some (Char.ofNat n) :: glyphsFrom none bs := by
  have hb : (UInt8.ofNat n).toNat = n := toNat_byte (by omega)
  have hascii : UInt8.ofNat n < 0x80 := by
    rw [UInt8.lt_iff_toNat_lt, hb]
    exact h
  rw [glyphsFrom, startGlyph_ascii hascii, hb]
  rfl

theorem glyphsFrom_two (hlow : 0x80 ≤ n) (hhigh : n < 0x800) (bs : Bytes) :
    glyphsFrom none (UInt8.ofNat (n / 64 % 32 + 192) :: UInt8.ofNat (n % 64 + 128) :: bs) =
      some (Char.ofNat n) :: glyphsFrom none bs := by
  have hbits : n / 64 % 32 * 64 + n % 64 = n := by omega
  rw [glyphsFrom_firstByte (startGlyph_two (by omega) (by omega)),
    glyphsFrom_lastByte (by omega) (by simp) (by simp; omega), hbits]

theorem glyphsFrom_three (hlow : 0x800 ≤ n) (hhigh : n < 0x10000) (h : n < 0xD800 ∨ 0xDFFF < n)
    (bs : Bytes) :
    glyphsFrom none (UInt8.ofNat (n / 4096 % 16 + 224) :: UInt8.ofNat (n / 64 % 64 + 128) ::
      UInt8.ofNat (n % 64 + 128) :: bs) = some (Char.ofNat n) :: glyphsFrom none bs := by
  have hbits : (n / 4096 % 16 * 64 + n / 64 % 64) * 64 + n % 64 = n := by omega
  rw [glyphsFrom_firstByte (startGlyph_three (by omega)), glyphsFrom_byte 0 (by omega),
    glyphsFrom_lastByte (by omega) (by simp) (by simp; omega), hbits]
  all_goals split <;> simp only [UInt8.reduceToNat] <;> omega

theorem glyphsFrom_four (hlow : 0x10000 ≤ n) (hhigh : n < 0x110000) (bs : Bytes) :
    glyphsFrom none (UInt8.ofNat (n / 262144 % 8 + 240) :: UInt8.ofNat (n / 4096 % 64 + 128) ::
      UInt8.ofNat (n / 64 % 64 + 128) :: UInt8.ofNat (n % 64 + 128) :: bs) =
        some (Char.ofNat n) :: glyphsFrom none bs := by
  have hbits : ((n / 262144 % 8 * 64 + n / 4096 % 64) * 64 + n / 64 % 64) * 64 + n % 64 = n := by
    omega
  rw [glyphsFrom_firstByte (startGlyph_four (by omega)), glyphsFrom_byte 1 (by omega),
    glyphsFrom_byte 0 (by omega) (by simp) (by simp; omega),
    glyphsFrom_lastByte (by omega) (by simp) (by simp; omega), hbits]
  all_goals split <;> simp only [UInt8.reduceToNat] <;> omega

/-- The bytes of a character are read as that character, whatever stands behind them. -/
theorem glyphsFrom_utf8EncodeChar (c : Char) (bs : Bytes) :
    glyphsFrom none (String.utf8EncodeChar c ++ bs) = some c :: glyphsFrom none bs := by
  have hvalid := codePoint_lt c
  have hc : c.val.toNat = c.toNat := rfl
  simp only [String.utf8EncodeChar, hc]
  split
  · exact (glyphsFrom_one (by omega) bs).trans (by rw [Char.ofNat_toNat])
  · split
    · exact (glyphsFrom_two (by omega) (by omega) bs).trans (by rw [Char.ofNat_toNat])
    · split
      · exact (glyphsFrom_three (by omega) (by omega) (by omega) bs).trans (by rw [Char.ofNat_toNat])
      · exact (glyphsFrom_four (by omega) (by omega) bs).trans (by rw [Char.ofNat_toNat])

/-! ## Texts -/

/-- The bytes of a text are read as its characters. -/
theorem glyphs_bytesOf (s : String) : glyphs (bytesOf s) = glyphsOf s := by
  rw [bytesOf_eq, glyphsOf, glyphs]
  induction s.toList with
  | nil => rfl
  | cons c cs ih => rw [List.flatMap_cons, glyphsFrom_utf8EncodeChar, ih, List.map_cons]

theorem lossy_bytesOf (s : String) : lossy (bytesOf s) = s := by
  rw [lossy, lossyChars, glyphs_bytesOf, glyphsOf, List.map_map]
  simp [Function.comp_def]

/-- A byte of ASCII stands for its own character only. -/
theorem toNat_of_mem_utf8EncodeChar {c : Char} {b : UInt8} (hb : b < 0x80)
    (h : b ∈ String.utf8EncodeChar c) : c.toNat = b.toNat := by
  have hc : c.val.toNat = c.toNat := rfl
  rw [UInt8.lt_iff_toNat_lt] at hb
  simp only [UInt8.reduceToNat] at hb
  simp only [String.utf8EncodeChar, hc] at h
  split at h
  · rename_i hle
    rw [List.mem_singleton.1 h, toNat_byte (by omega)]
  · exfalso
    split at h
    · simp only [List.mem_cons, List.not_mem_nil, or_false] at h
      rcases h with rfl | rfl <;> rw [toNat_byte (by omega)] at hb <;> omega
    · split at h
      · simp only [List.mem_cons, List.not_mem_nil, or_false] at h
        rcases h with rfl | rfl | rfl <;> rw [toNat_byte (by omega)] at hb <;> omega
      · simp only [List.mem_cons, List.not_mem_nil, or_false] at h
        rcases h with rfl | rfl | rfl | rfl <;> rw [toNat_byte (by omega)] at hb <;> omega

theorem byte_mem_bytesOf {s : String} {b : UInt8} (hb : b < 0x80) (h : b ∈ bytesOf s) :
    Char.ofNat b.toNat ∈ s.toList := by
  rw [bytesOf_eq, List.mem_flatMap] at h
  obtain ⟨c, hc, hmem⟩ := h
  rw [← toNat_of_mem_utf8EncodeChar hb hmem, Char.ofNat_toNat]
  exact hc

end ClipRelay.Text
