import ClipRelay.Proofs.Text.Trim
import ClipRelay.Relay.Lines

/-!
# The lines of a body that arrives in pieces

* `cutLines_lines`, `lineEnd_notMem_cutLines`: the lines of bytes end with their only line ends, and the
  rest holds none.
* `pushAll_eq`, `pushAll_empty`: a decoder that is given the pieces of a body one by one completes
  the lines of the whole body and holds back its rest.
* `eventOf?_congr`, `eventOf?_rest?`: blanks around a line do not matter for the event in it, so the
  rest of a body holds the event that it would hold as a line.
* `bodyEvents_false`, `bodyEvents_true`: the events of a body that breaks off, and of a whole one.
-/

namespace ClipRelay

open Text

/-! ## Cutting -/

/-- A line ends with its only line end. -/
theorem cutLines_lines {bs line : Bytes} (h : line ∈ (cutLines bs).1) :
    ∃ text, line = text ++ [lineEnd] ∧ lineEnd ∉ text := by
  induction bs generalizing line with
  | nil => simp [cutLines] at h
  | cons b bs ih =>
    by_cases hb : b = lineEnd
    · simp only [cutLines, hb, if_true, List.mem_cons] at h
      rcases h with rfl | h
      · exact ⟨[], rfl, List.not_mem_nil⟩
      · exact ih h
    · cases hc : (cutLines bs).1 with
      | nil => simp [cutLines, hb, hc] at h
      | cons first lines =>
        simp only [cutLines, hb, hc, if_false, List.mem_cons] at h
        rw [hc] at ih
        rcases h with rfl | h
        · obtain ⟨text, rfl, ht⟩ := ih List.mem_cons_self
          exact ⟨b :: text, rfl, by simp [Ne.symm hb, ht]⟩
        · exact ih (List.mem_cons_of_mem _ h)

theorem lineEnd_notMem_cutLines (bs : Bytes) : lineEnd ∉ (cutLines bs).2 := by
  induction bs with
  | nil => exact List.not_mem_nil
  | cons b bs ih =>
    by_cases hb : b = lineEnd
    · simpa [cutLines, hb] using ih
    · cases h : (cutLines bs).1 with
      | nil => simpa [cutLines, hb, h, Ne.symm hb] using ih
      | cons line lines => simpa [cutLines, hb, h] using ih

/-- The rest of bytes is no line and stays the rest. -/
theorem cutLines_rest (bs : Bytes) : cutLines (cutLines bs).2 = ([], (cutLines bs).2) := by
  have h := cutLines_append bs []
  rw [List.append_nil, List.append_nil] at h
  have h₁ := congrArg Prod.fst h
  have h₂ := congrArg Prod.snd h
  simp only [List.self_eq_append_right] at h₁
  exact Prod.ext h₁ h₂.symm

/-- Bytes without a line end are a line with the one behind them. -/
theorem cutLines_line {text : Bytes} (h : lineEnd ∉ text) (bs : Bytes) :
    cutLines (text ++ lineEnd :: bs) = ((text ++ [lineEnd]) :: (cutLines bs).1, (cutLines bs).2) := by
  induction text with
  | nil => simp [cutLines]
  | cons b text ih =>
    simp only [List.mem_cons, not_or] at h
    rw [List.cons_append, cutLines, ih h.2]
    simp [Ne.symm h.1]

/-! ## Decoding -/

namespace LineDecoder

/-- The lines that pieces complete one after the other, and the decoder after them. -/
def pushAll (d : LineDecoder) : List Bytes → List String × LineDecoder
  | [] => ([], d)
  | chunk :: chunks =>
    let (lines, d) := d.push chunk
    let (more, d) := d.pushAll chunks
    (lines ++ more, d)

/-- Pieces complete the lines of their whole, behind what was held back before. -/
theorem pushAll_eq (d : LineDecoder) (chunks : List Bytes) (h : cutLines d.held = ([], d.held)) :
    d.pushAll chunks = ((cutLines (d.held ++ chunks.flatten)).1.map lineText,
      ⟨(cutLines (d.held ++ chunks.flatten)).2⟩) := by
  induction chunks generalizing d with
  | nil => simp [pushAll, h]
  | cons chunk chunks ih =>
    simp only [pushAll, push]
    rw [ih ⟨(cutLines (d.held ++ chunk)).2⟩ (cutLines_rest _), List.flatten_cons,
      ← List.append_assoc, cutLines_append (d.held ++ chunk), List.map_append]

theorem pushAll_empty (chunks : List Bytes) :
    empty.pushAll chunks =
      ((cutLines chunks.flatten).1.map lineText, ⟨(cutLines chunks.flatten).2⟩) :=
  pushAll_eq empty chunks rfl

end LineDecoder

/-! ## Blanks around a line -/

theorem trim_lineText (line : Bytes) : trim (lineText line) = trim (lossy line) := by
  simp only [trim, lineText, lossy, String.toList_ofList]
  rw [trimChars_dropEndWhile]
  intro c hc
  simp only [Bool.or_eq_true, decide_eq_true_eq] at hc
  rcases hc with rfl | rfl <;> decide

/-- Blanks around a line do not matter for the event in it. -/
theorem eventOf?_congr {a b : String} (h : trim a = trim b) : eventOf? a = eventOf? b := by
  simp only [eventOf?, payloadOf?, h]

theorem eventOf?_of_blank {line : String} (h : trim line = "") : eventOf? line = none := by
  have hp : payloadOf? line = none := by
    simp only [payloadOf?, h]
    decide +kernel
  simp only [eventOf?, hp, Option.bind_eq_bind, Option.bind_none]

/-- The rest of a body holds the event that it would hold as a line. -/
theorem eventOf?_rest? (d : LineDecoder) : d.rest?.bind eventOf? = eventOf? (lineText d.held) := by
  rw [eventOf?_congr (trim_lineText d.held)]
  by_cases h : trim (lossy d.held) = ""
  · have hr : d.rest? = none := by simp only [LineDecoder.rest?, nonBlank?, h, if_true]
    rw [hr, eventOf?_of_blank h, Option.bind_none]
  · have hr : d.rest? = some (trim (lossy d.held)) := by
      simp only [LineDecoder.rest?, nonBlank?, if_neg h]
    rw [hr, Option.bind_some, eventOf?_congr (trim_trim _)]

/-! ## Events -/

/-- The events in the lines of a body, the first one first. Behind the last line end there is a line
only if the body has arrived whole. -/
def bodyEvents (body : Bytes) (whole : Bool) : List Json :=
  ((cutLines body).1 ++ if whole then [(cutLines body).2] else []).filterMap
    fun line => eventOf? (lineText line)

theorem bodyEvents_false (body : Bytes) :
    bodyEvents body false = ((cutLines body).1.map lineText).filterMap eventOf? := by
  simp only [bodyEvents, Bool.false_eq_true, if_false, List.append_nil, List.filterMap_map]
  rfl

theorem bodyEvents_true (body : Bytes) : bodyEvents body true =
    bodyEvents body false ++ (eventOf? (lineText (cutLines body).2)).toList := by
  simp only [bodyEvents, if_true, Bool.false_eq_true, if_false, List.append_nil,
    List.filterMap_append]
  cases h : eventOf? (lineText (cutLines body).2) <;> simp [h]

end ClipRelay
