import ClipRelay.Proofs.Relay.Decision

/-!
# Two readers of a report

An event of the stream is read by `Decision.ofEvent`, and the answer to a poll by `Finding.ofReport`.
Both go by an end of the job and the place of an artifact, but they find the end in different ways:
the one in the stage or else in the status (`Report.end?`), the other in the status, which stands in
for the stage (`Report.state`).

* `Report.end?_eq`: where the labels agree the ends are the same, except for a stage `failed` without
  a status.
* `readers_agree`: there both readers say the same of a job, except for the status `not_found`, which
  is an answer to a poll only.
-/

namespace ClipRelay

open Text

namespace Report

/-- Where a report has both labels, they are one word but for the case. -/
def LabelsAgree (r : Report) : Prop :=
  ∀ stage status, r.stage? = some stage → r.statusLabel? = some status → lower stage = lower status

/-- The status is `not_found`: the worker does not know the job. -/
def NamesNoJob (r : Report) : Prop := r.statusLabel?.map lower = some "not_found"

/-- The report has no status, and its stage is `failed`. -/
def FailsByStage (r : Report) : Prop :=
  r.statusLabel? = none ∧ r.stage?.map lower = some "failed"

/-! ## The end of the job -/

theorem state_of_status {r : Report} {status : String} (h : r.statusLabel? = some status) :
    r.state = lower status := by
  rw [state, h]

theorem state_of_namesNoJob {r : Report} (h : r.NamesNoJob) : r.state = "not_found" := by
  obtain ⟨status, hstatus, hlower⟩ := Option.map_eq_some_iff.1 h
  rw [state_of_status hstatus, hlower]

/-- A stage is not taken for the status `not_found`. -/
theorem namesNoJob_of_state {r : Report} (h : r.state = "not_found") : r.NamesNoJob := by
  cases hs : r.statusLabel? with
  | some status =>
    rw [state_of_status hs] at h
    rw [NamesNoJob, hs, Option.map_some, h]
  | none =>
    rw [state, hs] at h
    dsimp only at h
    split at h <;> exact absurd h (by decide)

/-- An end that the stage alone tells of, the word `failed` aside. -/
theorem ofLabel?_state_of_stage {r : Report} (hs : r.statusLabel? = none) (h : ¬ r.FailsByStage) :
    JobEnd.ofLabel? r.state = r.stage?.bind fun stage => JobEnd.ofLabel? (lower stage) := by
  rw [state, hs]
  cases hg : r.stage? with
  | none => rfl
  | some stage =>
    have hfailed : lower stage ≠ "failed" := fun hf => h ⟨hs, by rw [hg, Option.map_some, hf]⟩
    simp only [Option.map_some, Option.bind_some]
    split
    · rename_i heq
      rw [Option.some.inj heq]
    · rename_i heq
      rw [Option.some.inj heq]
    · rename_i hcomplete herror
      have hc : lower stage ≠ "complete" := fun hc => hcomplete (congrArg some hc)
      have he : lower stage ≠ "error" := fun he => herror (congrArg some he)
      simp [JobEnd.ofLabel?, failureNames, hc, he, hfailed]

/-- The two ways to find the end of the job lead to the same. -/
theorem end?_eq {r : Report} (agree : r.LabelsAgree) (h : ¬ r.FailsByStage) :
    r.end? = JobEnd.ofLabel? r.state := by
  cases hs : r.statusLabel? with
  | none =>
    rw [ofLabel?_state_of_stage hs h, end?, hs]
    simp only [List.findSome?_cons, List.findSome?_nil, Option.bind_none]
    cases r.stage?.bind fun stage => JobEnd.ofLabel? (lower stage) <;> rfl
  | some status =>
    rw [state_of_status hs, end?, hs]
    simp only [List.findSome?_cons, List.findSome?_nil, Option.bind_some]
    cases hg : r.stage? with
    | none => cases JobEnd.ofLabel? (lower status) <;> rfl
    | some stage =>
      rw [Option.bind_some, agree stage status hg hs]
      cases JobEnd.ofLabel? (lower status) <;> rfl

/-! ## The snapshot -/

/-- A snapshot goes by the end of the job and the place of its artifact, as `Decision.ofEvent_eq`
says of what is done about an event. -/
theorem snapshot_eq (r : Report) (before : Option Snapshot) : r.snapshot before =
    match JobEnd.ofLabel? r.state, r.artifact? with
    | some .complete, some artifact =>
      .complete artifact (r.message?.getD "Processing complete!")
    | some .complete, none => .failed .noDownloadUrl "complete" 100 noDownloadMessage
    | some .failed, _ =>
      .failed .jobFailed (r.stage?.getD r.state) r.percent ("Job failed: " ++ r.failureReason)
    | none, _ =>
      if r.state = "not_found" then .unknownJob ("Job not found: " ++ r.error?.getD "Job not found")
      else .processing (r.stage?.getD r.state) (notBelow before r.percent)
        (r.message?.getD "Processing...") := by
  unfold snapshot JobEnd.ofLabel?
  split
  · cases r.artifact? <;> rfl
  · split <;> rfl

end Report

/-! ## The two readers -/

/-- What is done about an event ends the stream. -/
def Decision.Ends : Decision → Prop
  | .forward _ => False
  | .fetch _ _ => True
  | .finish _ => True

namespace Finding

/-- The job is complete, and its artifact is to be fetched from this place. -/
def HasArtifact (f : Finding) (artifact : ArtifactRef) : Prop :=
  f.snapshot.status = .complete ∧ f.snapshot.output = some artifact ∧ f.artifactDue = true

/-- The job is complete and does not say where its artifact is. -/
def LacksArtifact (f : Finding) : Prop :=
  f.snapshot.status = .error ∧ f.snapshot.error = some .noDownloadUrl

theorem ofReport_none (r : Report) :
    ofReport r none = ⟨r.snapshot none, (r.snapshot none).status = .complete⟩ := rfl

end Finding

/-- What is done about an event of the stream is what the answer to a poll says of the job. -/
structure ReadAlike (v : Json) (d : Decision) (f : Finding) : Prop where
  ends : d.Ends ↔ f.snapshot.isTerminal = true
  fetch : ∀ artifact, (∃ job, d = .fetch artifact job) ↔ f.HasArtifact artifact
  lacks : (∃ message details, d = .finish (.error .noDownloadUrl message details)) ↔
    f.LacksArtifact
  other : d = .finish (.relay v) ↔
    f.snapshot.isTerminal = true ∧ (∀ artifact, ¬ f.HasArtifact artifact) ∧ ¬ f.LacksArtifact

/-- Two readers that find the same end and the same place of an artifact read alike. -/
theorem readAlike_of_end?_eq {v : Json} {r : Report} (hr : Report.ofJson? v = some r)
    (same : r.end? = JobEnd.ofLabel? r.state) (known : r.state ≠ "not_found") :
    ReadAlike v (Decision.ofEvent v) (Finding.ofReport r none) := by
  have hend : endOf? v = JobEnd.ofLabel? r.state := by rw [endOf?, hr, Option.bind_some, same]
  have hartifact : artifactOf? v = r.artifact? := by rw [artifactOf?, hr, Option.bind_some]
  rw [Decision.ofEvent_eq, Finding.ofReport_none, r.snapshot_eq, hend, hartifact, if_neg known]
  -- Both sides are now functions of the end and of the place of the artifact.
  cases JobEnd.ofLabel? r.state with
  | none =>
    constructor <;> simp [Decision.Ends, Finding.HasArtifact, Finding.LacksArtifact,
      Snapshot.isTerminal, Snapshot.processing, JobStatus.isTerminal]
  | some ended =>
    cases ended with
    | failed =>
      constructor <;> simp [Decision.Ends, Finding.HasArtifact, Finding.LacksArtifact,
        Snapshot.isTerminal, Snapshot.failed, JobStatus.isTerminal]
    | complete =>
      cases r.artifact? with
      | none =>
        constructor <;> simp [Decision.Ends, Finding.HasArtifact, Finding.LacksArtifact,
          Snapshot.isTerminal, Snapshot.failed, JobStatus.isTerminal, unlocatedEvent]
      | some artifact =>
        constructor <;> simp [Decision.Ends, Finding.HasArtifact, Finding.LacksArtifact,
          Snapshot.isTerminal, Snapshot.complete, JobStatus.isTerminal]

/-- Both readers say the same of a job whose labels agree. A job that the worker does not know is an
answer to a poll: there the stream goes on. -/
theorem readers_agree {v : Json} {r : Report} (hr : Report.ofJson? v = some r)
    (agree : r.LabelsAgree) (worded : ¬ r.FailsByStage) :
    (¬ r.NamesNoJob → ReadAlike v (Decision.ofEvent v) (Finding.ofReport r none)) ∧
      (r.NamesNoJob → Decision.ofEvent v = .forward (.relay v) ∧
        Finding.ofReport r none =
          ⟨.unknownJob ("Job not found: " ++ r.error?.getD "Job not found"), false⟩) := by
  have same := Report.end?_eq agree worded
  refine ⟨fun known => readAlike_of_end?_eq hr same fun h => known (Report.namesNoJob_of_state h),
    fun unknown => ?_⟩
  have hstate := Report.state_of_namesNoJob unknown
  have hend : endOf? v = none := by
    rw [endOf?, hr, Option.bind_some, same, hstate]
    decide
  refine ⟨Decision.ofEvent_of_none hend, ?_⟩
  rw [Finding.ofReport_none, r.snapshot_eq, hstate]
  rfl

/-- An event of a complete job, whose labels differ in case. -/
def completeSample : Json :=
  .object [("download_url", .string "/d/x.mp4"), ("stage", .string "Complete"),
    ("status", .string "complete")]

def completeSampleReport : Report where
  status := some (.string "complete")
  stage := some (.string "Complete")
  progress := none
  message := none
  downloadUrl := some (.string "/d/x.mp4")
  filename := none
  error := none

/-- An event for a job that the worker does not know. -/
def unknownSample : Json := .object [("status", .string "not_found")]

def unknownSampleReport : Report := ⟨some (.string "not_found"), none, none, none, none, none, none⟩

theorem labelsAgree_unknownSample : unknownSampleReport.LabelsAgree := by
  intro stage status h _
  cases h

theorem readers_agree_samples :
    (Report.ofJson? completeSample = some completeSampleReport ∧ completeSampleReport.LabelsAgree ∧
      ¬ completeSampleReport.FailsByStage ∧ ¬ completeSampleReport.NamesNoJob ∧
      ReadAlike completeSample (Decision.ofEvent completeSample)
        (Finding.ofReport completeSampleReport none)) ∧
    Report.ofJson? unknownSample = some unknownSampleReport ∧ unknownSampleReport.LabelsAgree ∧
      ¬ unknownSampleReport.FailsByStage ∧ unknownSampleReport.NamesNoJob ∧
      Decision.ofEvent unknownSample = .forward (.relay unknownSample) := by
  constructor
  · have hr : Report.ofJson? completeSample = some completeSampleReport := rfl
    have hstage : completeSampleReport.stage? = some "Complete" := by decide
    have hstatus : completeSampleReport.statusLabel? = some "complete" := by decide
    have agree : completeSampleReport.LabelsAgree := by
      intro stage status h₁ h₂
      rw [hstage] at h₁
      rw [hstatus] at h₂
      cases h₁
      cases h₂
      decide +kernel
    have worded : ¬ completeSampleReport.FailsByStage := fun h => by
      rw [Report.FailsByStage, hstatus] at h
      cases h.1
    have known : ¬ completeSampleReport.NamesNoJob := by
      rw [Report.NamesNoJob, hstatus]
      decide +kernel
    exact ⟨hr, agree, worded, known, (readers_agree hr agree worded).1 known⟩
  · have hr : Report.ofJson? unknownSample = some unknownSampleReport := rfl
    have hstatus : unknownSampleReport.statusLabel? = some "not_found" := by decide
    have agree := labelsAgree_unknownSample
    have worded : ¬ unknownSampleReport.FailsByStage := fun h => by
      rw [Report.FailsByStage, hstatus] at h
      cases h.1
    have unknown : unknownSampleReport.NamesNoJob := by
      rw [Report.NamesNoJob, hstatus]
      decide +kernel
    exact ⟨hr, agree, worded, unknown, ((readers_agree hr agree worded).2 unknown).1⟩

/-- The readers differ on a job that the worker does not know. -/
theorem readers_differ_on_unknown_job :
    Report.ofJson? unknownSample = some unknownSampleReport ∧ unknownSampleReport.LabelsAgree ∧
      ¬ ((Decision.ofEvent unknownSample).Ends ↔
        (Finding.ofReport unknownSampleReport none).snapshot.isTerminal = true) := by
  refine ⟨rfl, labelsAgree_unknownSample, ?_⟩
  have hend : endOf? unknownSample = none := by decide +kernel
  have hterminal : (Finding.ofReport unknownSampleReport none).snapshot.isTerminal = true := by
    decide +kernel
  rw [Decision.ofEvent_of_none hend]
  intro h
  exact h.2 hterminal

end ClipRelay
