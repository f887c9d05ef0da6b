import ClipRelay.Proofs.Worker.Tracking
import ClipRelay.Proofs.Text.Trim

/-!
# Well-formed snapshots

A snapshot that a report has left names an artifact exactly when the job is complete, and an error
code exactly when it failed or is unknown (`Snapshot.WellFormed`).

* `Report.wellFormed_snapshot`: the snapshot of a job that has not ended is well formed, whatever
  stands in the fields of the report.
* `Told.wellFormed`: so is every snapshot, along any run of reports.
* `Finding.snapshot_wellFormed`: and the artifact is due when the job is complete and had not ended.
-/

namespace ClipRelay

open Text

/-! ## The artifact of a report -/

theorem ne_empty_of_labelOf {v : Option Json} {s : String} (h : labelOf v = some s) : s ≠ "" := by
  intro hs
  subst hs
  unfold labelOf at h
  split at h
  · exact (trim_of_nonBlank? h).2 (by decide)
  · cases h

theorem ne_empty_of_lastSegment? {url s : String} (h : lastSegment? url = some s) : s ≠ "" := by
  unfold lastSegment? at h
  simp only at h
  split at h
  · cases h
  · rename_i hne
    cases h
    intro hs
    rw [← String.toList_inj, String.toList_ofList] at hs
    exact hne (List.isEmpty_iff.2 hs)

namespace ArtifactRef

/-- There is something to ask for, and a name for it. -/
structure Nonempty (a : ArtifactRef) : Prop where
  downloadUrl : a.downloadUrl ≠ ""
  filename : a.filename ≠ ""

end ArtifactRef

theorem Report.nonempty_artifact {r : Report} {a : ArtifactRef} (h : r.artifact? = some a) :
    a.Nonempty := by
  simp only [artifact?, Option.bind_eq_bind, Option.pure_def, Option.bind_eq_some_iff,
    Option.some.injEq] at h
  obtain ⟨url, hurl, name, hname, rfl⟩ := h
  refine ⟨ne_empty_of_labelOf hurl, ?_⟩
  rw [Option.orElse_eq_orElse, Option.orElse_eq_or] at hname
  rcases Option.or_eq_some_iff.1 hname with hlabel | ⟨-, hsegment⟩
  · exact ne_empty_of_labelOf hlabel
  · exact ne_empty_of_lastSegment? hsegment

/-! ## One snapshot -/

namespace Snapshot

/-- What every snapshot keeps to. -/
structure WellFormed (s : Snapshot) : Prop where
  complete : s.status = .complete ↔ s.output ≠ none
  output : ∀ a, s.output = some a →
    a.Nonempty ∧ s.progress = 100 ∧ s.stage = "complete" ∧ s.error = none
  failed : s.status = .error ∨ s.status = .notFound ↔ s.error ≠ none
  unknown : s.status = .notFound ↔ s.error = some .jobNotFound
  error : s.status = .error → s.error = some .jobFailed ∨ s.error = some .noDownloadUrl
  progress : s.progress.isNaN = false ∧ s.progress.IsPercent

theorem isNaN_clampPercent (x : Double) : (clampPercent x).isNaN = false :=
  Double.isNaN_of_isFinite (Double.isPercent_clampPercent x).isFinite

theorem wellFormed_processing (stage : String) (progress : Double) (message : String) :
    (processing stage progress message).WellFormed := by
  constructor <;> simp [processing, isNaN_clampPercent, Double.isPercent_clampPercent]

theorem wellFormed_complete {a : ArtifactRef} (h : a.Nonempty) (message : String) :
    (Snapshot.complete a message).WellFormed := by
  have hpercent := Double.isPercent_hundred
  have hnan := Double.isNaN_of_isFinite hpercent.isFinite
  constructor <;> simp [Snapshot.complete, h, hpercent, hnan]

theorem wellFormed_failed {code : ErrorCode} (h : code = .jobFailed ∨ code = .noDownloadUrl)
    (stage : String) (progress : Double) (message : String) :
    (Snapshot.failed code stage progress message).WellFormed := by
  have hcode : code ≠ .jobNotFound := by rcases h with rfl | rfl <;> decide
  constructor <;>
    simp [Snapshot.failed, h, hcode, isNaN_clampPercent, Double.isPercent_clampPercent]

theorem wellFormed_unknownJob (message : String) : (unknownJob message).WellFormed := by
  have hpercent := Double.isPercent_zero
  have hnan := Double.isNaN_of_isFinite hpercent.isFinite
  constructor <;> simp [unknownJob, hpercent, hnan]

end Snapshot

theorem Report.wellFormed_snapshot (r : Report) (before : Option Snapshot) :
    (r.snapshot before).WellFormed := by
  have hsays := r.says_snapshot before
  generalize r.snapshot before = s at hsays ⊢
  cases hsays with
  | complete _ hartifact => exact Snapshot.wellFormed_complete (nonempty_artifact hartifact) _
  | unlocated => exact Snapshot.wellFormed_failed (.inr rfl) _ _ _
  | failed => exact Snapshot.wellFormed_failed (.inl rfl) _ _ _
  | unknown => exact Snapshot.wellFormed_unknownJob _
  | running => exact Snapshot.wellFormed_processing _ _ _

/-! ## Runs of reports -/

/-- The last snapshot of a job of which some reports have told. -/
inductive Told : Option Snapshot → Prop
  | nothing : Told none
  | report (r : Report) {before : Option Snapshot} (h : Told before) :
    Told (some (Finding.ofReport r before).snapshot)

/-- A report of a job that has ended leaves the snapshot as it is, and one of another job makes a
new one. -/
theorem Finding.snapshot_cases (r : Report) (before : Option Snapshot) :
    (∃ s, before = some s ∧ s.isTerminal = true ∧ ofReport r before = ⟨s, false⟩) ∨
      Running before ∧
        ofReport r before = ⟨r.snapshot before, (r.snapshot before).status = .complete⟩ := by
  by_cases h : Running before
  · exact .inr ⟨h, ofReport_of_running r h⟩
  · simp only [Running, not_forall, Bool.not_eq_false] at h
    obtain ⟨s, rfl, hs⟩ := h
    exact .inl ⟨s, rfl, hs, ofReport_of_terminal r hs⟩

theorem Finding.wellFormed_ofReport (r : Report) {before : Option Snapshot}
    (h : ∀ s, before = some s → s.WellFormed) : (ofReport r before).snapshot.WellFormed := by
  rcases snapshot_cases r before with ⟨s, hs, -, hfinding⟩ | ⟨-, hfinding⟩ <;> rw [hfinding]
  · exact h s hs
  · exact r.wellFormed_snapshot before

theorem Told.wellFormed {before : Option Snapshot} (h : Told before) :
    ∀ s, before = some s → s.WellFormed := by
  induction h with
  | nothing =>
    intro s hs
    cases hs
  | report r _ ih =>
    intro s hs
    cases hs
    exact Finding.wellFormed_ofReport r ih

theorem Finding.artifactDue_ofReport_iff (r : Report) (before : Option Snapshot) :
    (ofReport r before).artifactDue = true ↔
      (ofReport r before).snapshot.status = .complete ∧ Running before := by
  rcases snapshot_cases r before with ⟨s, rfl, hs, hfinding⟩ | ⟨hrunning, hfinding⟩ <;> rw [hfinding]
  · refine iff_of_false nofun fun h => ?_
    rw [h.2 s rfl] at hs
    cases hs
  · simp [hrunning]

/-- Whatever the fields of a report hold, and however many reports came before it, its snapshot is
well formed, and the artifact is due exactly when the job is complete and had not ended. -/
theorem Finding.snapshot_wellFormed (r : Report) {before : Option Snapshot} (h : Told before) :
    (ofReport r before).snapshot.WellFormed ∧
      ((ofReport r before).artifactDue = true ↔
        (ofReport r before).snapshot.status = .complete ∧
          ∀ s, before = some s → s.isTerminal = false) :=
  ⟨wellFormed_ofReport r h.wellFormed, artifactDue_ofReport_iff r before⟩

/-- A job at an infinite percentage that is complete with a name of its URL. -/
theorem Finding.snapshot_wellFormed_sample :
    let first : Report :=
      ⟨some (.string " Rendering "), none, some (.string "inf"), none, none, none, none⟩
    let second : Report := ⟨none, some (.string "COMPLETE"), some .null, none,
      some (.string " /d/x.mp4?t=1 "), some (.string " "), some (.bool true)⟩
    let before := some (ofReport first none).snapshot
    Told before ∧ (ofReport second before).snapshot.WellFormed ∧
      (ofReport second before).artifactDue = true := by
  intro first second before
  have htold : Told before := .report first .nothing
  obtain ⟨hwell, hdue⟩ := snapshot_wellFormed second htold
  refine ⟨htold, hwell, hdue.2 ⟨by decide +kernel, fun s hs => ?_⟩⟩
  rw [← Option.some.inj hs]
  decide +kernel

end ClipRelay
