import ClipRelay.Proofs.Relay.Decision
import ClipRelay.Proofs.Relay.Lines

/-!
# A stream that has been read

What has been read of a stream is given by its events up to the first one that ends the job
(`passed`, `firstEnd?`), whatever the pieces are in which they arrive:

* `Passage.ofChunks_sent`: the events before that one are passed on, in their order.
* `Passage.ofChunks_endingOf`: that event decides how the stream ends, or else the end of the body.
-/

namespace ClipRelay

open Text

/-- The events before the first one that ends the job, as they are passed on. -/
def passed (events : List Json) : List Event :=
  (events.takeWhile fun v => (endOf? v).isNone).map .relay

/-- The first event that ends the job. -/
def firstEnd? (events : List Json) : Option Json := events.find? fun v => (endOf? v).isSome

/-- How a stream ends with an event that ends the job. -/
def Ending.ofEvent (v : Json) : Ending :=
  match endOf? v, artifactOf? v with
  | some .complete, some artifact => .fetch artifact (jobOf? v)
  | some .complete, none => .finish unlocatedEvent
  | _, _ => .finish (.relay v)

/-- What is done about the event with which a stream ends. -/
def Ending.decision : Ending → Decision
  | .fetch artifact job => .fetch artifact job
  | .finish event => .finish event

theorem Decision.ofEvent_of_isSome {v : Json} (h : (endOf? v).isSome) :
    Decision.ofEvent v = (Ending.ofEvent v).decision := by
  obtain ⟨ended, hv⟩ := Option.isSome_iff_exists.1 h
  cases ended with
  | failed => rw [Decision.ofEvent_of_failed hv, Ending.ofEvent, hv]; rfl
  | complete =>
    rw [Decision.ofEvent_of_complete hv, Ending.ofEvent, hv]
    cases artifactOf? v <;> rfl

/-- How a stream ends in which no event ends the job. -/
def Ending.missing (whole : Bool) : Ending :=
  .finish (if whole then lostEvent else interruptedEvent HttpFault.broken.message)

theorem firstEnd?_append (events : List Json) (v : Json) :
    firstEnd? (events ++ [v]) =
      (firstEnd? events).or (if (endOf? v).isSome then some v else none) := by
  rw [firstEnd?, List.find?_append, ← firstEnd?]
  simp only [List.find?_singleton]

theorem endOf?_of_firstEnd? {events : List Json} {v : Json} (h : firstEnd? events = some v) :
    (endOf? v).isSome := by
  simpa using List.find?_some h

theorem all_isNone_of_firstEnd? {events : List Json} (h : firstEnd? events = none) :
    ∀ v ∈ events, (endOf? v).isNone = true := by
  intro v hv
  have := List.find?_eq_none.1 h v hv
  simpa using this

/-- Behind the first end nothing is passed on. -/
theorem passed_append_of_some {events : List Json} {u : Json} (h : firstEnd? events = some u)
    (v : Json) : passed (events ++ [v]) = passed events := by
  obtain ⟨hu, before, after, rfl, -⟩ := List.find?_eq_some_iff_append.1 h
  have hu' : (endOf? u).isNone = false := by cases hv : endOf? u <;> simp_all
  have hcut : ∀ rest, (before ++ u :: rest).takeWhile (fun v => (endOf? v).isNone)
      = (before ++ [u]).takeWhile (fun v => (endOf? v).isNone) := fun rest => by
    rw [List.takeWhile_append, List.takeWhile_append]
    simp only [List.takeWhile_cons, hu', Bool.false_eq_true, if_false]
  rw [passed, passed, List.append_assoc, List.cons_append, hcut, hcut after]

theorem passed_append_of_none {events : List Json} (h : firstEnd? events = none) (v : Json) :
    passed (events ++ [v]) = passed events ++ if (endOf? v).isNone then [.relay v] else [] := by
  have hall := all_isNone_of_firstEnd? h
  rw [passed, passed, List.takeWhile_append_of_pos hall]
  cases hv : (endOf? v).isNone with
  | true => simp [hv, List.takeWhile_eq_self_iff.2 hall]
  | false => simp [hv, List.takeWhile_eq_self_iff.2 hall]

namespace Passage

/-- The passage of events that have been read. -/
def ofEvents (decoder : LineDecoder) (events : List Json) : Passage :=
  ⟨decoder, passed events, (firstEnd? events).map Ending.ofEvent⟩

/-- A line with an event adds the event, and any other line nothing. -/
theorem readLine_ofEvents (d : LineDecoder) (events : List Json) (line : String) :
    (ofEvents d events).readLine line = ofEvents d (events ++ (eventOf? line).toList) := by
  cases hl : eventOf? line with
  | none => simp [readLine, hl]
  | some v =>
    cases hf : firstEnd? events with
    | some u =>
      simp [readLine, ofEvents, hl, hf, firstEnd?_append, passed_append_of_some hf]
    | none =>
      have hsent := passed_append_of_none hf v
      have hend := firstEnd?_append events v
      rw [hf, Option.none_or] at hend
      simp only [readLine, ofEvents, hf, hl, Option.map_none, Option.toList_some, hsent, hend]
      cases hv : endOf? v with
      | none => simp [Decision.ofEvent_of_none hv]
      | some ended =>
        rw [Decision.ofEvent_of_isSome (by rw [hv]; rfl)]
        cases he : Ending.ofEvent v <;> simp [Ending.decision, he]

theorem foldl_readLine_ofEvents (d : LineDecoder) (events : List Json) (lines : List String) :
    lines.foldl readLine (ofEvents d events) = ofEvents d (events ++ lines.filterMap eventOf?) := by
  induction lines generalizing events with
  | nil => simp
  | cons line lines ih =>
    rw [List.foldl_cons, readLine_ofEvents, ih, List.append_assoc]
    cases hl : eventOf? line <;> simp [hl]

theorem push_ofEvents (d : LineDecoder) (events : List Json) (chunk : Bytes) :
    (ofEvents d events).push chunk =
      ofEvents (d.push chunk).2 (events ++ (d.push chunk).1.filterMap eventOf?) :=
  foldl_readLine_ofEvents _ _ _

theorem foldl_push_ofEvents (d : LineDecoder) (events : List Json) (chunks : List Bytes) :
    chunks.foldl push (ofEvents d events) =
      ofEvents (d.pushAll chunks).2 (events ++ (d.pushAll chunks).1.filterMap eventOf?) := by
  induction chunks generalizing d events with
  | nil => simp [LineDecoder.pushAll]
  | cons chunk chunks ih =>
    rw [List.foldl_cons, push_ofEvents, ih]
    simp [LineDecoder.pushAll]

theorem finish_ofEvents (d : LineDecoder) (events : List Json) :
    (ofEvents d events).finish =
      ofEvents d (events ++ (eventOf? (lineText d.held)).toList) := by
  have hr := eventOf?_rest? d
  have hd : (ofEvents d events).decoder = d := rfl
  unfold finish
  rw [hd]
  cases h : d.rest? with
  | none =>
    rw [h, Option.bind_none] at hr
    simp [← hr]
  | some line =>
    rw [h, Option.bind_some] at hr
    simp [← hr, readLine_ofEvents]

/-- The passage of pieces whose end has not been looked at. -/
theorem foldl_push_start (chunks : List Bytes) :
    chunks.foldl push start =
      ofEvents ⟨(cutLines chunks.flatten).2⟩ (bodyEvents chunks.flatten false) := by
  have h : start = ofEvents .empty [] := rfl
  rw [h, foldl_push_ofEvents, LineDecoder.pushAll_empty, List.nil_append, ← bodyEvents_false]

theorem ofChunks_whole (chunks : List Bytes) : ofChunks chunks true =
    ofEvents ⟨(cutLines chunks.flatten).2⟩ (bodyEvents chunks.flatten true) := by
  have h := finish_ofEvents ⟨(cutLines chunks.flatten).2⟩ (bodyEvents chunks.flatten false)
  dsimp only at h
  rw [bodyEvents_true, ← h, ← foldl_push_start]
  simp only [ofChunks, if_true]

/-- The events before the first end are passed on, in their order. -/
theorem ofChunks_sent (chunks : List Bytes) (whole : Bool) :
    (ofChunks chunks whole).sent = passed (bodyEvents chunks.flatten whole) := by
  cases whole with
  | true => rw [ofChunks_whole]; rfl
  | false => simp only [ofChunks, foldl_push_start]; rfl

/-- The first end decides how the stream ends, or else the end of the body. -/
theorem ofChunks_endingOf (chunks : List Bytes) (whole : Bool) :
    (ofChunks chunks whole).endingOf =
      ((firstEnd? (bodyEvents chunks.flatten whole)).map Ending.ofEvent).getD
        (Ending.missing whole) := by
  cases whole with
  | true => rw [ofChunks_whole]; rfl
  | false =>
    simp only [ofChunks, foldl_push_start, endingOf, ofEvents]
    cases firstEnd? (bodyEvents chunks.flatten false) <;> rfl

end Passage

end ClipRelay
