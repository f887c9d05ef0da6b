import ClipRelay.Proofs.Text.Split
import ClipRelay.Proofs.Text.Utf8
import ClipRelay.Url.Basic

/-!
# Paths that are read as they are written

* `Url.encodeChars_inj`: encoding is undone by decoding, so texts without a percent sign
  have different encodings.
* `Url.addSegments_append`: the segments at the end of a path are added to those in front of them, and stand
  in the path as they are when none of them is a dot or two dots (`Url.addSegments_of_noDots`).
* `Url.flatMap_splitOnChar`: the pieces of a text make the text again.
-/

namespace ClipRelay.Url

open Text

/-! ## Percent encoding -/

theorem encodeChars_cons (inSet : Char → Bool) (c : Char) (cs : List Char) :
    encodeChars inSet (c :: cs) =
      (if inSet c then (String.utf8EncodeChar c).flatMap percentByte else [c]) ++ encodeChars inSet cs := by
  rw [encodeChars, List.flatMap_cons, bytesOf_eq, String.toList_singleton, List.flatMap_singleton]
  rfl

theorem encodeChars_cons_of_not {inSet : Char → Bool} {c : Char} (h : inSet c = false)
    (cs : List Char) : encodeChars inSet (c :: cs) = c :: encodeChars inSet cs := by
  rw [encodeChars_cons, h]
  rfl

theorem encodeChars_ne_nil (inSet : Char → Bool) {cs : List Char} (h : cs ≠ []) :
    encodeChars inSet cs ≠ [] := by
  obtain ⟨c, cs, rfl⟩ := List.exists_cons_of_ne_nil h
  have hbytes : String.utf8EncodeChar c ≠ [] := by
    rw [← List.length_pos_iff, String.length_utf8EncodeChar]
    exact c.utf8Size_pos
  obtain ⟨b, bs, hb⟩ := List.exists_cons_of_ne_nil hbytes
  rw [encodeChars_cons, hb]
  split <;> exact List.cons_ne_nil _ _

/-- The digit of a number below sixteen stands for that number, and is one byte. -/
theorem hexByte?_digit : ∀ n < 16, ∃ k, String.utf8EncodeChar (Nat.digitChar n).toUpper = [k] ∧
    hexByte? k = some (UInt8.ofNat n) := by
  intro n hn
  refine ⟨UInt8.ofNat (Nat.digitChar n).toUpper.toNat, ?_⟩
  revert n
  decide +kernel

/-- Any byte but a percent sign stands for itself. -/
theorem decodePercent_cons {b : UInt8} (h : b ≠ 0x25) (bs : Bytes) :
    decodePercent (b :: bs) = b :: decodePercent bs :=
  decodePercent.eq_2 b bs fun _ _ _ hb => absurd hb h

theorem decodePercent_append {front : Bytes} (h : 0x25 ∉ front) (bs : Bytes) :
    decodePercent (front ++ bs) = front ++ decodePercent bs := by
  induction front with
  | nil => rfl
  | cons b front ih =>
    obtain ⟨hb, hfront⟩ := not_or.1 (mt List.mem_cons.2 h)
    rw [List.cons_append, decodePercent_cons (Ne.symm hb), ih hfront, List.cons_append]

/-- A byte that is encoded is decoded again. -/
theorem decodePercent_percentByte (b : UInt8) (bs : Bytes) :
    decodePercent ((percentByte b).flatMap String.utf8EncodeChar ++ bs) = b :: decodePercent bs := by
  have hlt : b.toNat < 256 := b.toNat_lt
  obtain ⟨k, hk, hhigh⟩ := hexByte?_digit (b.toNat / 16) (by omega)
  obtain ⟨k', hk', hlow⟩ := hexByte?_digit (b.toNat % 16) (by omega)
  have hbytes : (percentByte b).flatMap String.utf8EncodeChar = [0x25, k, k'] := by
    have hpercent : String.utf8EncodeChar '%' = [0x25] := by decide
    simp only [percentByte, List.flatMap_cons, List.flatMap_nil, hk, hk', hpercent]
    rfl
  have hb : UInt8.ofNat (b.toNat / 16) * 16 + UInt8.ofNat (b.toNat % 16) = b := by
    rw [← UInt8.toNat_inj]
    simp only [UInt8.toNat_add, UInt8.toNat_mul, UInt8.toNat_ofNat', UInt8.reduceToNat]
    omega
  rw [hbytes, List.cons_append, List.cons_append, List.cons_append, List.nil_append, decodePercent, hhigh,
    hlow]
  simp only [hb]

theorem decodePercent_percentBytes (front bs : Bytes) :
    decodePercent ((front.flatMap percentByte).flatMap String.utf8EncodeChar ++ bs) =
      front ++ decodePercent bs := by
  induction front with
  | nil => rfl
  | cons b front ih =>
    rw [List.flatMap_cons, List.flatMap_append, List.append_assoc, decodePercent_percentByte, ih,
      List.cons_append]

/-- A text without percent signs is what its encoding is decoded to. -/
theorem decodePercent_encodeChars (inSet : Char → Bool) {cs : List Char} (h : '%' ∉ cs) :
    decodePercent ((encodeChars inSet cs).flatMap String.utf8EncodeChar) =
      cs.flatMap String.utf8EncodeChar := by
  induction cs with
  | nil => rfl
  | cons c cs ih =>
    obtain ⟨hc, hcs⟩ := not_or.1 (mt List.mem_cons.2 h)
    rw [encodeChars_cons, List.flatMap_append, List.flatMap_cons]
    cases inSet c with
    | true => rw [if_pos rfl, decodePercent_percentBytes, ih hcs]
    | false =>
      have hkept : 0x25 ∉ String.utf8EncodeChar c := fun hmem => by
        have hcode := toNat_of_mem_utf8EncodeChar (by decide) hmem
        refine hc (Char.ext (UInt32.toNat_inj.1 ?_)).symm
        exact hcode
      rw [if_neg Bool.false_ne_true, List.flatMap_singleton, decodePercent_append hkept, ih hcs]

theorem encodeChars_inj {inSet : Char → Bool} {cs ds : List Char} (hc : '%' ∉ cs) (hd : '%' ∉ ds)
    (h : encodeChars inSet cs = encodeChars inSet ds) : cs = ds := by
  have hbytes : cs.flatMap String.utf8EncodeChar = ds.flatMap String.utf8EncodeChar := by
    rw [← decodePercent_encodeChars inSet hc, h, decodePercent_encodeChars inSet hd]
  rw [← bytesOf_ofList, ← bytesOf_ofList] at hbytes
  have htext := congrArg lossy hbytes
  rw [lossy_bytesOf, lossy_bytesOf] at htext
  exact String.ofList_inj.1 htext

/-- A character of the set is not in what is encoded, unless it is a digit or a percent sign itself. -/
theorem notMem_encodeChars {inSet : Char → Bool} {d : Char} (h : inSet d = true)
    (hdigit : ∀ b, d ∉ percentByte b) (cs : List Char) : d ∉ encodeChars inSet cs := by
  intro hmem
  obtain ⟨c, -, hc⟩ := List.mem_flatMap.1 hmem
  split at hc
  · obtain ⟨b, -, hb⟩ := List.mem_flatMap.1 hc
    exact hdigit b hb
  · rename_i hout
    obtain rfl := List.mem_singleton.1 hc
    exact hout h

theorem question_notMem_percentByte (b : UInt8) : '?' ∉ percentByte b := by
  have hdigit : ∀ n < 16, (Nat.digitChar n).toUpper ≠ '?' := by decide +kernel
  have hlt : b.toNat < 256 := b.toNat_lt
  have hhigh := hdigit (b.toNat / 16) (by omega)
  have hlow := hdigit (b.toNat % 16) (by omega)
  simp [percentByte, hhigh.symm, hlow.symm]

/-! ## Cuts -/

theorem cutOff_of_notMem {separator : Char} {l : List Char} (h : separator ∉ l) :
    cutOff separator l = (l, none) := by
  have hcut : cutAt? separator l = none := by
    induction l with
    | nil => rfl
    | cons c l ih =>
      obtain ⟨hc, hl⟩ := not_or.1 (mt List.mem_cons.2 h)
      rw [cutAt?, if_neg (Ne.symm hc), ih hl]
      rfl
  rw [cutOff, hcut]

theorem cutOff_append_cons {separator : Char} {before : List Char} (h : separator ∉ before)
    (after : List Char) : cutOff separator (before ++ separator :: after) = (before, some after) := by
  rw [cutOff, cutAt?_eq_some_iff.2 ⟨rfl, h⟩]

/-- A text is cut at its first separator, or has none. -/
theorem cutOff_cases (separator : Char) (cs : List Char) :
    (separator ∉ cs ∧ cutOff separator cs = (cs, none)) ∨
      ∃ before after, cs = before ++ separator :: after ∧ separator ∉ before ∧
        cutOff separator cs = (before, some after) := by
  by_cases h : separator ∈ cs
  · obtain ⟨before, after, rfl, hbefore⟩ := List.eq_append_cons_of_mem h
    exact .inr ⟨before, after, rfl, hbefore, cutOff_append_cons hbefore after⟩
  · exact .inl ⟨h, cutOff_of_notMem h⟩

/-- What holds no separator stays in front of the cut. -/
theorem cutOff_append {separator : Char} {front : List Char} (h : separator ∉ front) (cs : List Char) :
    cutOff separator (front ++ cs) = (front ++ (cutOff separator cs).1, (cutOff separator cs).2) := by
  rcases cutOff_cases separator cs with ⟨hcs, heq⟩ | ⟨before, after, rfl, hbefore, heq⟩
  · rw [heq, cutOff_of_notMem fun hmem => (List.mem_append.1 hmem).elim h hcs]
  · rw [heq, ← List.append_assoc,
      cutOff_append_cons fun hmem => (List.mem_append.1 hmem).elim h hbefore]

/-! ## Segments -/

/-- The segments before the next one, in reverse, after one that is not the last. -/
def enter (before : List (List Char)) (s : List Char) : List (List Char) :=
  if isDoubleDot s then above before else if isDot s then before else encodeChars pathSet s :: before

theorem addSegments_append (before xs : List (List Char)) {ys : List (List Char)} (h : ys ≠ []) :
    addSegments before (xs ++ ys) = addSegments (xs.foldl enter before) ys := by
  induction xs generalizing before with
  | nil => rfl
  | cons s xs ih =>
    have hmore : (xs ++ ys).isEmpty = false := by
      simpa using fun _ => h
    rw [List.cons_append, addSegments, List.foldl_cons, ← ih, enter]
    simp only [hmore, Bool.false_eq_true, if_false]
    split
    · rfl
    · split <;> rfl

/-- No segment is a dot or two dots, in any way of writing them. -/
def NoDots (segments : List (List Char)) : Prop :=
  ∀ s ∈ segments, isDot s = false ∧ isDoubleDot s = false

theorem addSegments_of_noDots (before : List (List Char)) {segments : List (List Char)}
    (h : NoDots segments) :
    addSegments before segments = before.reverse ++ segments.map (encodeChars pathSet) := by
  induction segments generalizing before with
  | nil => simp [addSegments]
  | cons s segments ih =>
    obtain ⟨hdot, hdouble⟩ := h s List.mem_cons_self
    rw [addSegments]
    simp only [hdot, hdouble, Bool.false_eq_true, if_false]
    rw [ih _ fun t ht => h t (List.mem_cons_of_mem _ ht)]
    simp

/-- The pieces of a text make the text again, encoded if they are encoded. -/
theorem flatMap_splitOnChar {separator : Char} {inSet : Char → Bool} (h : inSet separator = false)
    (cs : List Char) :
    ((splitOnChar separator cs).map (encodeChars inSet)).flatMap (separator :: ·) =
      separator :: encodeChars inSet cs := by
  induction cs with
  | nil => rfl
  | cons c cs ih =>
    rw [splitOnChar]
    split
    · rename_i hc
      subst hc
      rw [List.map_cons, List.flatMap_cons, ih, encodeChars_cons_of_not h]
      rfl
    · cases hs : splitOnChar separator cs with
      | nil => exact absurd hs (splitOnChar_ne_nil cs)
      | cons piece pieces =>
        rw [hs, List.map_cons, List.flatMap_cons, List.cons_append] at ih
        rw [List.map_cons, List.flatMap_cons, encodeChars_cons, encodeChars_cons, List.cons_append,
          List.append_assoc, (List.cons.inj ih).2]

end ClipRelay.Url
