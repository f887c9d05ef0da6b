import ClipRelay.Relay.Bridge

/-!
# What is done about an event

`Decision.ofEvent_eq` says what is done about an event by the end that it tells of (`endOf?`) and the
place of its artifact (`artifactOf?`); the other statements are its cases.
-/

namespace ClipRelay

/-- The end of the job that an event tells of. -/
def endOf? (v : Json) : Option JobEnd := (Report.ofJson? v).bind Report.end?

/-- The place of the artifact that an event tells of. -/
def artifactOf? (v : Json) : Option ArtifactRef := (Report.ofJson? v).bind Report.artifact?

/-- The job id in an event. -/
def jobOf? (v : Json) : Option String := (v.get? "job_id").bind Json.asText?

/-- The last event for a complete job without an artifact. -/
def unlocatedEvent : Event := .error .noDownloadUrl noDownloadMessage none

namespace Decision

theorem ofEvent_eq (v : Json) : ofEvent v =
    match endOf? v, artifactOf? v with
    | none, _ => .forward (.relay v)
    | some .failed, _ => .finish (.relay v)
    | some .complete, some artifact => .fetch artifact (jobOf? v)
    | some .complete, none => .finish unlocatedEvent := by
  unfold ofEvent endOf? artifactOf?
  cases Report.ofJson? v with
  | none => rfl
  | some report =>
    simp only [Option.bind_some]
    cases report.end? with
    | none => rfl
    | some ended =>
      cases ended with
      | failed => rfl
      | complete => cases report.artifact? <;> rfl

theorem ofEvent_of_none {v : Json} (h : endOf? v = none) : ofEvent v = .forward (.relay v) := by
  rw [ofEvent_eq, h]

theorem ofEvent_of_failed {v : Json} (h : endOf? v = some .failed) :
    ofEvent v = .finish (.relay v) := by
  rw [ofEvent_eq, h]

theorem ofEvent_of_complete {v : Json} (h : endOf? v = some .complete) : ofEvent v =
    match artifactOf? v with
    | some artifact => .fetch artifact (jobOf? v)
    | none => .finish unlocatedEvent := by
  rw [ofEvent_eq, h]
  cases artifactOf? v <;> rfl

end Decision

end ClipRelay
