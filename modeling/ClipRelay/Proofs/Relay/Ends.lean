import ClipRelay.Proofs.Relay.Stream

/-!
# The end of a stream is its terminal event

The stream ends after a terminal event (`Event.isTerminal`), and every event before the last is not
terminal. The last one is, unless it is passed on from the worker: an event that says that the job
failed in other words than the stage `error` ends the stream and is not terminal
(`IsUnmarkedFailure`). This is the only exception:

* `terminal_exactly_at_end`: for every event, for every stream, and for every stream that the
  deadline cuts short.
-/

namespace ClipRelay

open Text

/-- The event says that the job failed, and not by the stage `error`. -/
def IsUnmarkedFailure (v : Json) : Prop :=
  endOf? v = some .failed ∧ v.get? "stage" ≠ some (.string "error")

/-! ## One event -/

theorem isTerminal_relay_iff (v : Json) :
    (Event.relay v).isTerminal = true ↔ v.get? "stage" = some (.string "error") := by
  simp only [Event.isTerminal, Event.stage?, beq_iff_eq, Option.bind_eq_some_iff]
  constructor
  · rintro ⟨stage, hstage, htext⟩
    cases stage <;> cases htext
    exact hstage
  · intro h
    exact ⟨_, h, rfl⟩

/-- The stage `error` is the end of a job that failed. -/
theorem endOf?_of_stage_error {v : Json} (h : v.get? "stage" = some (.string "error")) :
    endOf? v = some .failed := by
  have hobject : v.isObject = true := by cases v <;> first | rfl | cases h
  have hlabel : labelOf (some (.string "error")) = some "error" := by decide
  have hend : JobEnd.ofLabel? (lower "error") = some .failed := by decide +kernel
  simp only [endOf?, Report.ofJson?, hobject, if_true, Option.bind_some, Report.end?, Report.stage?,
    h, Json.orAbsent, hlabel, List.findSome?_cons, hend]

/-- An event that tells of no end is not terminal. -/
theorem not_isTerminal_of_endOf?_none {v : Json} (h : endOf? v = none) :
    (Event.relay v).isTerminal = false := by
  rw [Bool.eq_false_iff, ne_eq, isTerminal_relay_iff]
  intro hstage
  rw [endOf?_of_stage_error hstage] at h
  cases h

/-- Of the events that end a job that failed, those with the stage `error` are terminal. -/
theorem not_isTerminal_iff_of_failed {v : Json} (h : endOf? v = some .failed) :
    (Event.relay v).isTerminal = false ↔ IsUnmarkedFailure v := by
  rw [Bool.eq_false_iff, ne_eq, isTerminal_relay_iff]
  exact ⟨fun hstage => ⟨h, hstage⟩, fun hv => hv.2⟩

/-- The ways in which an event ends a stream; an unmarked failure is the one that is not told by a
terminal event. -/
theorem Ending.ofEvent_cases {v : Json} (h : (endOf? v).isSome) :
    (∃ artifact job, Ending.ofEvent v = .fetch artifact job ∧ ¬ IsUnmarkedFailure v) ∨
      ∃ event, Ending.ofEvent v = .finish event ∧
        (event.isTerminal = true ↔ ¬ IsUnmarkedFailure v) := by
  obtain ⟨ended, hv⟩ := Option.isSome_iff_exists.1 h
  cases ended with
  | failed =>
    refine .inr ⟨.relay v, by simp only [Ending.ofEvent, hv], ?_⟩
    rw [← not_isTerminal_iff_of_failed hv, Bool.not_eq_false]
  | complete =>
    have hno : ¬ IsUnmarkedFailure v := by
      rintro ⟨hfailed, -⟩
      rw [hv] at hfailed
      cases hfailed
    cases ha : artifactOf? v with
    | none => exact .inr ⟨_, by simp only [Ending.ofEvent, hv, ha]; rfl, iff_of_true rfl hno⟩
    | some artifact => exact .inl ⟨_, _, by simp only [Ending.ofEvent, hv, ha]; rfl, hno⟩

theorem not_isTerminal_of_mem_passed {events : List Json} {x : Event} (h : x ∈ passed events) :
    x.isTerminal = false := by
  obtain ⟨v, hv, rfl⟩ := List.mem_map.1 h
  have hnone := List.mem_takeWhile_imp hv
  exact not_isTerminal_of_endOf?_none (Option.isNone_iff_eq_none.1 hnone)

namespace Relay

/-! ## A stream -/

/-- A stream in which the last event alone may be terminal; whether it is, is said by `marked`. -/
def EndsWith (marked : Prop) (events : List Event) : Prop :=
  ∃ before last, events = before ++ [last] ∧ (∀ x ∈ before, x.isTerminal = false) ∧
    (last.isTerminal = true ↔ marked)

/-- A stream whose deadline is over after so many of its events. -/
def cutShort (settings : WorkerSettings) (events : List Event) (n : Nat) : List Event :=
  events.take n ++ [lateEvent settings]

/-- A stream that is cut short before its last event ends with a terminal event. -/
theorem EndsWith.cutShort {marked : Prop} {events : List Event} (h : EndsWith marked events)
    (settings : WorkerSettings) {n : Nat} (hn : n < events.length) :
    EndsWith True (cutShort settings events n) := by
  obtain ⟨before, last, rfl, hbefore, -⟩ := h
  refine ⟨_, _, rfl, fun x hx => hbefore x ?_, iff_of_true rfl trivial⟩
  rw [List.length_append, List.length_singleton] at hn
  rw [List.take_append_of_le_length (by omega)] at hx
  exact List.mem_of_mem_take hx

variable (settings : WorkerSettings) (e : Endpoint) (s : Submission)

/-- The worker streams in time, and the first end in its body is an unmarked failure. -/
def MeetsUnmarkedFailure (w : World) : Prop :=
  ∃ reply w₁ v, (connect settings e s).run w = (.ok reply, w₁) ∧
    isLate settings w.clock w₁.clock = false ∧
    firstEnd? (bodyEvents reply.chunks.flatten reply.whole) = some v ∧ IsUnmarkedFailure v

theorem isTerminal_conclude (artifact : ArtifactRef) (job : Option String) (w : World) :
    ((conclude settings e s artifact job).run w).1.isTerminal = true := by
  rw [conclude_eq]
  rcases (Download.run settings e artifact job s.hint?).run w with ⟨f | a, w'⟩ <;> rfl

/-- In a stream the last event alone is terminal, unless the worker says by it that the job failed,
and not by the stage `error`. -/
theorem endsWith_run (w : World) :
    EndsWith (¬ MeetsUnmarkedFailure settings e s w) ((run settings e s).run w).1 := by
  rcases hc : (connect settings e s).run w with ⟨f | reply, w₁⟩
  · have hno : ¬ MeetsUnmarkedFailure settings e s w := by
      rintro ⟨reply, w₂, v, hreply, -⟩
      rw [hc] at hreply
      cases hreply
    rw [run_of_refusal settings e s hc]
    refine ⟨[], _, rfl, by simp, iff_of_true ?_ hno⟩
    split <;> rfl
  · have hmeets : MeetsUnmarkedFailure settings e s w ↔
        isLate settings w.clock w₁.clock = false ∧ ∃ v,
          firstEnd? (bodyEvents reply.chunks.flatten reply.whole) = some v ∧ IsUnmarkedFailure v := by
      constructor
      · rintro ⟨reply', w₂, v, hreply, hv⟩
        rw [hc] at hreply
        cases hreply
        exact ⟨hv.1, v, hv.2⟩
      · rintro ⟨hlate, v, hv⟩
        exact ⟨reply, w₁, v, hc, hlate, hv⟩
    rw [run_of_connect settings e s hc, hmeets]
    dsimp only
    generalize bodyEvents reply.chunks.flatten reply.whole = events
    cases hf : firstEnd? events with
    | none =>
      refine ⟨_, _, rfl, fun x hx => not_isTerminal_of_mem_passed hx, iff_of_true ?_ (by simp)⟩
      split
      · rfl
      · split <;> rfl
    | some v =>
      have hiff : (∃ u, some v = some u ∧ IsUnmarkedFailure u) ↔ IsUnmarkedFailure v := by simp
      rw [hiff, Option.map_some, Option.getD_some]
      rcases Ending.ofEvent_cases (endOf?_of_firstEnd? hf) with
        ⟨artifact, job, hending, hno⟩ | ⟨event, hending, hevent⟩
      · rw [hending]
        refine ⟨passed events ++ [downloadingEvent], _, List.append_cons _ _ [_],
          fun x hx => ?_, iff_of_true ?_ fun h => hno h.2⟩
        · rcases List.mem_append.1 hx with hx | hx
          · exact not_isTerminal_of_mem_passed hx
          · cases List.mem_singleton.1 hx
            rfl
        · split
          · rfl
          · exact isTerminal_conclude settings e s artifact job w₁
      · rw [hending]
        refine ⟨_, _, rfl, fun x hx => not_isTerminal_of_mem_passed hx, ?_⟩
        cases hlate : isLate settings w.clock w₁.clock with
        | true => exact iff_of_true rfl fun h => Bool.false_ne_true h.1.symm
        | false => simpa using hevent

/-- The end of a stream is its terminal event, an unmarked failure aside. -/
theorem terminal_exactly_at_end (w : World) :
    let events := ((run settings e s).run w).1
    (∀ v : Json, match Decision.ofEvent v with
      | .forward event => event.isTerminal = false
      | .finish event => event.isTerminal = true ↔ ¬ IsUnmarkedFailure v
      | .fetch _ _ => ¬ IsUnmarkedFailure v) ∧
    EndsWith (¬ MeetsUnmarkedFailure settings e s w) events ∧
    ∀ n < events.length, EndsWith True (cutShort settings events n) := by
  intro events
  have hends := endsWith_run settings e s w
  refine ⟨fun v => ?_, hends, fun n hn => hends.cutShort settings hn⟩
  cases hv : endOf? v with
  | none =>
    rw [Decision.ofEvent_of_none hv]
    exact not_isTerminal_of_endOf?_none hv
  | some ended =>
    have hsome : (endOf? v).isSome := by rw [hv]; rfl
    rw [Decision.ofEvent_of_isSome hsome]
    rcases Ending.ofEvent_cases hsome with
      ⟨artifact, job, hending, hno⟩ | ⟨event, hending, hevent⟩
    · rw [hending]
      exact hno
    · rw [hending]
      exact hevent

/-- The body of a job that fails, in the words of a status. -/
def failedBody : Bytes := bytesOf "data: \x7b\"stage\":\"failed\"\x7d\n"

theorem terminal_exactly_at_end_sample :
    let events := ((run {} sampleEndpoint sampleSubmission).run (sampleWorld failedBody)).1
    EndsWith (¬ MeetsUnmarkedFailure {} sampleEndpoint sampleSubmission (sampleWorld failedBody))
        events ∧
      0 < events.length ∧ EndsWith True (cutShort {} events 0) := by
  intro events
  have hlength : 0 < events.length := by decide +kernel
  obtain ⟨-, hends, hcut⟩ :=
    terminal_exactly_at_end {} sampleEndpoint sampleSubmission (sampleWorld failedBody)
  exact ⟨hends, hlength, hcut 0 hlength⟩

/-- A failure in the words of a status ends the stream without a terminal event. -/
theorem failed_stage_not_terminal :
    (∃ event, Decision.ofEvent (.object [("stage", .string "failed")]) = .finish event ∧
      event.isTerminal = false) ∧
    ((run {} sampleEndpoint sampleSubmission).run (sampleWorld failedBody)).1.map
      Event.isTerminal = [false] := by
  refine ⟨⟨_, Decision.ofEvent_of_failed (by decide +kernel), rfl⟩, by decide +kernel⟩

end Relay

end ClipRelay
