import ClipRelay.Event
import ClipRelay.Proofs.Json.Printable
import ClipRelay.Proofs.Json.Values
import ClipRelay.Proofs.Relay.Lines
import ClipRelay.Proofs.Text.Utf8

/-!
# The outbound stream is an inbound one

The frames of events are read by the decoder of the worker's streams: a frame is a line with the event
in it and an empty line without one (`cutLines_frames`, `eventOf?_dataLine`).

* `Event.plain_toJson`: the library's own events are plain values, whatever texts they hold.
* `Event.frames_read_back`: any events, their frames cut anywhere, are read as these events.
-/

namespace ClipRelay

open Text

/-! ## Lines -/

theorem lineEnd_notMem_bytesOf {s : String} (h : '\n' ∉ s.toList) : lineEnd ∉ bytesOf s :=
  fun hmem => h (byte_mem_bytesOf (by decide) hmem)

theorem bytesOf_line (s : String) : bytesOf s ++ [lineEnd] = bytesOf (s ++ "\n") := by
  have h := bytesOf_concat (c := '\n') (by decide) s.toList
  rw [String.ofList_append, String.ofList_toList] at h
  exact h.symm

/-- A text on a line holds the event that it holds without the line. -/
theorem eventOf?_lineText (s : String) : eventOf? (lineText (bytesOf s ++ [lineEnd])) = eventOf? s := by
  apply eventOf?_congr
  rw [trim_lineText, bytesOf_line, lossy_bytesOf, trim, trim, String.toList_append]
  rw [trimChars_append _ _ (List.all_eq_true.1 (by decide))]

/-! ## Lines of data -/

/-- Nothing is trimmed from characters with no blank at either end. -/
theorem trimChars_eq_self {c d : Char} (cs : List Char) (hc : isBlank c = false)
    (hd : isBlank d = false) : trimChars (c :: cs ++ [d]) = c :: cs ++ [d] := by
  have hstart : trimStartChars (c :: cs ++ [d]) = c :: cs ++ [d] := by
    simp [trimStartChars, hc]
  rw [trimChars, hstart, dropEndWhile, List.reverse_append]
  simp [hd]

/-- The text of an object stands between braces. -/
theorem Json.chars_of_isObject {v : Json} (h : v.isObject = true) :
    ∃ cs, v.chars = '\x7b' :: cs ++ ['\x7d'] := by
  cases v with
  | object members => exact ⟨_, rfl⟩
  | _ => cases h

/-- A line with the mark of data and an object behind it holds that object. -/
theorem eventOf?_dataLine {v : Json} (hobject : v.isObject = true)
    (hread : Json.Read.ofText v.compact = .ok v) : eventOf? ("data: " ++ v.compact) = some v := by
  obtain ⟨cs, hcs⟩ := Json.chars_of_isObject hobject
  have htrim : trim ("data: " ++ v.compact) = "data: " ++ v.compact := by
    have hchars : ("data: " ++ v.compact).toList =
        'd' :: ("ata: ".toList ++ '\x7b' :: cs) ++ ['\x7d'] := by
      rw [String.toList_append, Json.compact, String.toList_ofList, hcs]
      simp
    rw [trim, hchars, trimChars_eq_self _ (by decide) (by decide), ← hchars, String.ofList_toList]
  have hpayload : payloadOf? ("data: " ++ v.compact) = some v.compact := by
    have hmark : startsWith ("data: " ++ v.compact) dataMark = true := by
      rw [startsWith, String.toList_append]
      simp [dataMark]
    have hdrop : ("data: " ++ v.compact).toList.drop dataMark.length = ' ' :: v.compact.toList := by
      rw [String.toList_append, show dataMark.length = 5 by decide]
      simp
    have hstart : trimStartChars (' ' :: v.compact.toList) = v.compact.toList := by
      rw [Json.compact, String.toList_ofList, hcs]
      rfl
    rw [payloadOf?, htrim, if_pos hmark, hdrop, hstart, String.ofList_toList]
  simp [eventOf?, hpayload, hread, hobject]

/-! ## Events -/

namespace Event

/-- What an event of the stream keeps to: an event of the worker is an object whose text is read
back, and the size of a file is a number of 64 bits. -/
def Sendable : Event → Prop
  | relay payload => payload.isObject = true ∧ Json.Read.ofText payload.compact = .ok payload
  | complete _ _ size _ => size < 0x10000000000000000
  | _ => True

theorem isObject_toJson {e : Event} (h : e.Sendable) : e.toJson.isObject = true := by
  cases e with
  | relay payload => exact h.1
  | _ => rfl

/-- Whatever texts the library's own events hold, their values are plain. -/
theorem plain_toJson (height : Nat) {e : Event} (h : e.Sendable)
    (hown : ∀ payload, e ≠ relay payload) : Json.Plain (height + 1) e.toJson := by
  have hwhole : ∀ n : Nat, n < 0x10000000000000000 → Json.Plain height (.ofInt n) := fun n hn =>
    .number (Json.Read.readsBack_whole ⟨by omega, by omega⟩)
  cases e with
  | relay payload => exact absurd rfl (hown payload)
  | downloading message =>
    apply Json.plain_ofMembers
    simp only [List.forall_mem_cons, List.not_mem_nil, false_imp_iff, implies_true, and_true]
    exact ⟨.string _, .string _, hwhole 100 (by decide), .string _⟩
  | complete outputPath filename size message =>
    apply Json.plain_ofMembers
    simp only [List.forall_mem_cons, List.not_mem_nil, false_imp_iff, implies_true, and_true]
    exact ⟨.string _, .string _, hwhole 100 (by decide), .string _, .string _, .string _,
      hwhole size h⟩
  | error code message details =>
    apply Json.plain_ofMembers
    cases details with
    | none =>
      simp only [List.append_nil, List.forall_mem_cons, List.not_mem_nil, false_imp_iff,
        implies_true, and_true]
      exact ⟨.string _, .string _, .string _, .string _⟩
    | some details =>
      simp only [List.cons_append, List.nil_append, List.forall_mem_cons, List.not_mem_nil,
        false_imp_iff, implies_true, and_true]
      exact ⟨.string _, .string _, .string _, .string _, .string _⟩

/-- The text of an event is read as its value. -/
theorem ofText_toJson {e : Event} (h : e.Sendable) :
    Json.Read.ofText e.toJson.compact = .ok e.toJson := by
  cases e with
  | relay payload => exact h.2
  | _ => exact Json.ofText_compact (plain_toJson 126 h nofun)

/-- The line with the data of an event. -/
def dataLine (e : Event) : String := "data: " ++ e.toJson.compact

theorem eventOf?_dataLine {e : Event} (h : e.Sendable) : eventOf? e.dataLine = some e.toJson :=
  ClipRelay.eventOf?_dataLine (isObject_toJson h) (ofText_toJson h)

theorem lineEnd_notMem_dataLine (e : Event) : lineEnd ∉ bytesOf e.dataLine := by
  apply lineEnd_notMem_bytesOf
  rw [dataLine, String.toList_append, List.mem_append, not_or]
  exact ⟨by decide, Json.line_notMem_compact e.toJson⟩

/-- A frame is the line with the data and an empty line. -/
theorem bytesOf_frame (e : Event) : bytesOf e.frame = bytesOf e.dataLine ++ [lineEnd, lineEnd] := by
  rw [frame, show ("\n\n" : String) = "\n" ++ "\n" by decide, ← String.append_assoc, ← bytesOf_line,
    ← bytesOf_line, List.append_assoc]
  rfl

/-- The lines of frames, and nothing behind them. -/
theorem cutLines_frames (events : List Event) :
    cutLines (events.flatMap fun e => bytesOf e.frame) =
      (events.flatMap fun e => [bytesOf e.dataLine ++ [lineEnd], [lineEnd]], []) := by
  induction events with
  | nil => rfl
  | cons e events ih =>
    have hempty := @cutLines_line [] List.not_mem_nil
      (events.flatMap fun e => bytesOf e.frame)
    rw [List.flatMap_cons, bytesOf_frame, List.append_assoc, List.cons_append, List.cons_append,
      List.nil_append, cutLines_line (lineEnd_notMem_dataLine e)]
    simp only [List.nil_append] at hempty
    rw [hempty, ih]
    rfl

/-- The line of data of each event holds it, and the empty lines hold none. -/
theorem filterMap_eventOf?_frames {events : List Event} (h : ∀ e ∈ events, e.Sendable) :
    ((events.flatMap fun e => [bytesOf e.dataLine ++ [lineEnd], [lineEnd]]).map lineText).filterMap
      eventOf? = events.map toJson := by
  have hempty : eventOf? (lineText [lineEnd]) = none := eventOf?_of_blank (by decide)
  induction events with
  | nil => rfl
  | cons e events ih =>
    have hline : eventOf? (lineText (bytesOf e.dataLine ++ [lineEnd])) = some e.toJson := by
      rw [eventOf?_lineText, eventOf?_dataLine (h e List.mem_cons_self)]
    rw [List.flatMap_cons, List.map_append, List.filterMap_append,
      ih fun e' he' => h e' (List.mem_cons_of_mem _ he')]
    simp [hline, hempty]

/-- The frames of events, cut into pieces anywhere, are read as these events in their order. -/
theorem frames_read_back (events : List Event) (h : ∀ e ∈ events, e.Sendable) (chunks : List Bytes)
    (hchunks : chunks.flatten = events.flatMap fun e => bytesOf e.frame) :
    let (lines, d) := LineDecoder.empty.pushAll chunks
    (lines ++ d.rest?.toList).filterMap eventOf? = events.map toJson := by
  have hrest : (LineDecoder.mk []).rest? = none := by decide
  rw [LineDecoder.pushAll_empty, hchunks, cutLines_frames]
  simp only [hrest, Option.toList_none, List.append_nil]
  exact filterMap_eventOf?_frames h

/-- An event of the worker and an error of the library, cut within a character. -/
theorem frames_read_back_sample :
    let payload : Json := .object [("\u00E9", .string "data: x\n\n\"\\ \u2028"), ("\u00F1", .ofInt (-7))]
    let events := [relay payload, failure .stream "a\nb" (some "data: \x7b\x7d\r\n")]
    let bytes := events.flatMap fun e => bytesOf e.frame
    let (lines, d) := LineDecoder.empty.pushAll [bytes.take 9, [], bytes.drop 9]
    (∀ e ∈ events, e.Sendable) ∧ bytes.take 9 = bytesOf "data: \x7b\"" ++ [0xC3] ∧
      (lines ++ d.rest?.toList).filterMap eventOf? = events.map toJson := by
  intro payload events bytes
  have hplain : Json.Plain 127 payload := by
    refine .object (fun m hm => ?_) (by decide)
    simp only [List.mem_cons, List.not_mem_nil, or_false] at hm
    rcases hm with rfl | rfl
    · exact .string _
    · exact .number (Json.Read.readsBack_whole (by decide))
  have hsendable : ∀ e ∈ events, e.Sendable := by
    simp only [events, List.forall_mem_cons, List.not_mem_nil, false_imp_iff, implies_true, and_true]
    exact ⟨⟨rfl, Json.ofText_compact hplain⟩, trivial⟩
  have hchunks : [bytes.take 9, [], bytes.drop 9].flatten = bytes := by simp
  exact ⟨hsendable, by decide +kernel, frames_read_back events hsendable _ hchunks⟩

end Event

end ClipRelay
