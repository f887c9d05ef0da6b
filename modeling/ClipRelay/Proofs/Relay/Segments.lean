import ClipRelay.Proofs.Relay.Lines
import ClipRelay.Proofs.Text.Bytes

/-!
# Lines are the segments between line ends

However the bytes of a stream are cut into pieces, its lines are the segments of the whole that have a
line end behind them, and the decoder holds back the last segment, which has none.

* `splitOn_lineEnd`, `cutLines_splitOn`: the lines and the rest by `List.splitOn`.
* `cutLines_concat`, `bodyEvents_concat`: a line end behind all bytes makes their rest a line and leaves
  the events as they are.
* `LineDecoder.events_eq`: the events in the lines of a stream and in its rest are those of the whole.
* `LineDecoder.cuts_do_not_matter`: all of it together.
-/

namespace ClipRelay

open Text

/-! ## Segments -/

/-- Between line ends stand the lines, without theirs, and the rest. -/
theorem splitOn_lineEnd (bs : Bytes) :
    bs.splitOn lineEnd = (cutLines bs).1.map List.dropLast ++ [(cutLines bs).2] := by
  induction bs with
  | nil => rfl
  | cons b bs ih =>
    rw [List.splitOn_cons_eq_if_modifyHead, ih]
    by_cases hb : b = lineEnd
    · simp [cutLines, hb]
    · cases hc : (cutLines bs).1 with
      | nil => simp [cutLines, hb, hc]
      | cons line lines =>
        obtain ⟨text, rfl, -⟩ : ∃ text, line = text ++ [lineEnd] ∧ lineEnd ∉ text :=
          cutLines_lines (hc ▸ List.mem_cons_self)
        simp [cutLines, hb, hc, List.dropLast_cons_of_ne_nil]

/-- The lines of bytes are their segments but for the last one, each with its end. -/
theorem cutLines_splitOn (bs : Bytes) :
    cutLines bs = ((bs.splitOn lineEnd).dropLast.map (· ++ [lineEnd]),
      (bs.splitOn lineEnd).getLast (List.splitOn_ne_nil _ _)) := by
  have hlines : (cutLines bs).1.map (fun line => line.dropLast ++ [lineEnd]) = (cutLines bs).1 := by
    refine (List.map_congr_left fun line hline => ?_).trans (List.map_id _)
    obtain ⟨text, rfl, -⟩ := cutLines_lines hline
    rw [List.dropLast_concat, id]
  simp only [splitOn_lineEnd, List.dropLast_concat, List.getLast_concat, List.map_map]
  exact Prod.ext hlines.symm rfl

/-- A line end behind bytes ends the last line. -/
theorem cutLines_concat (bs : Bytes) :
    cutLines (bs ++ [lineEnd]) = ((cutLines bs).1 ++ [(cutLines bs).2 ++ [lineEnd]], []) := by
  have hline : cutLines ((cutLines bs).2 ++ [lineEnd]) = ([(cutLines bs).2 ++ [lineEnd]], []) :=
    cutLines_line (lineEnd_notMem_cutLines bs) []
  rw [cutLines_append, hline]

/-! ## Events -/

/-- The end of a line is no part of its text but for blanks. -/
theorem trim_lossy_concat (bs : Bytes) : trim (lossy (bs ++ [lineEnd])) = trim (lossy bs) := by
  have hblank : ∀ c ∈ [Char.ofNat lineEnd.toNat], isBlank c = true := fun c hc => by
    rw [List.mem_singleton.1 hc]
    decide
  simp only [trim, lossy, String.toList_ofList, lossyChars_concat (by decide : lineEnd < 0x80)]
  rw [trimChars_append _ _ hblank]

theorem bodyEvents_concat (bs : Bytes) :
    bodyEvents (bs ++ [lineEnd]) true = bodyEvents bs true := by
  have hend : eventOf? (lineText ((cutLines bs).2 ++ [lineEnd])) =
      eventOf? (lineText (cutLines bs).2) :=
    eventOf?_congr (by rw [trim_lineText, trim_lineText, trim_lossy_concat])
  have hnone : eventOf? (lineText []) = none := eventOf?_of_blank (by decide)
  simp only [bodyEvents, cutLines_concat, if_true, List.filterMap_append, List.filterMap_cons,
    List.filterMap_nil, hend, hnone, List.append_nil]

namespace LineDecoder

/-- The events in the lines that pieces complete one after the other, and in what is left then. -/
def events (chunks : List Bytes) : List Json :=
  ((empty.pushAll chunks).1 ++ (empty.pushAll chunks).2.rest?.toList).filterMap eventOf?

theorem events_eq (chunks : List Bytes) : events chunks = bodyEvents chunks.flatten true := by
  have hrest : ∀ d : LineDecoder,
      d.rest?.toList.filterMap eventOf? = (eventOf? (lineText d.held)).toList := by
    intro d
    rw [← eventOf?_rest? d]
    cases d.rest? with
    | none => rfl
    | some line => cases h : eventOf? line <;> simp [h]
  rw [events, List.filterMap_append, hrest, bodyEvents_true, bodyEvents_false, pushAll_empty]

/-- What is left is the trimmed text behind the last line end, unless that is blank. -/
theorem rest?_eq_some_iff (d : LineDecoder) (s : String) :
    d.rest? = some s ↔ s = trim (lossy d.held) ∧ s ≠ "" := by
  by_cases h : trim (lossy d.held) = ""
  · simp only [rest?, nonBlank?, if_pos h]
    constructor
    · intro hs
      cases hs
    · rintro ⟨hs, hne⟩
      exact absurd (hs.trans h) hne
  · simp only [rest?, nonBlank?, if_neg h, Option.some.injEq]
    constructor
    · rintro rfl
      exact ⟨rfl, h⟩
    · rintro ⟨rfl, -⟩
      rfl

/-- Where a stream is cut does not matter, and nothing of it is lost. The lines are the segments that
have a line end behind them, each as the text of all its bytes; the last segment is held back, and what
is left at the end is its text, unless that is blank. No decoder holds a line end after a piece. The
events in the lines and in what is left are the same when a line end follows, however the bytes are cut
then. -/
theorem cuts_do_not_matter (chunks : List Bytes) :
    (empty.pushAll chunks).1 = ((chunks.flatten.splitOn lineEnd).dropLast.map fun segment =>
      lineText (segment ++ [lineEnd])) ∧
    (empty.pushAll chunks).2.held =
      (chunks.flatten.splitOn lineEnd).getLast (List.splitOn_ne_nil _ _) ∧
    (∀ s, (empty.pushAll chunks).2.rest? = some s ↔
      s = trim (lossy (empty.pushAll chunks).2.held) ∧ s ≠ "") ∧
    (∀ d chunk, lineEnd ∉ (push d chunk).2.held) ∧
    ∀ chunks', chunks'.flatten = chunks.flatten ++ [lineEnd] → events chunks' = events chunks := by
  have hpushed := pushAll_empty chunks
  rw [cutLines_splitOn] at hpushed
  refine ⟨?_, ?_, rest?_eq_some_iff _, fun d chunk => lineEnd_notMem_cutLines _,
    fun chunks' hchunks => ?_⟩
  · rw [hpushed, List.map_map]
    rfl
  · rw [hpushed]
  · rw [events_eq, events_eq, hchunks, bodyEvents_concat]

/-- Pieces that part the two bytes of a character, and a line end of two bytes. -/
def cutSample : List Bytes :=
  [[0x7B, 0x22, 0xC3], [], [0xA9, 0x22, 0x3A, 0x31, 0x7D, 0x0D], [0x0A, 0x7B, 0x7D]]

theorem cuts_do_not_matter_sample :
    empty.pushAll cutSample = (["\x7b\"é\":1\x7d"], ⟨[0x7B, 0x7D]⟩) ∧
      events [cutSample.flatten, [lineEnd]] = events cutSample := by
  obtain ⟨-, -, -, -, hevents⟩ := cuts_do_not_matter cutSample
  exact ⟨by decide +kernel, hevents _ (by decide)⟩

end LineDecoder

end ClipRelay
