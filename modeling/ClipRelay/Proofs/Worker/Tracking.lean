import ClipRelay.Proofs.Number.Percent
import ClipRelay.Worker.Progress

/-!
# A job over time

A tracker is fed one report after another; `Tracker.finding` is what it says at each of them.

* `Tracker.finding_of_terminal`: a job that has ended stays as it ended.
* `Tracker.ended_job_stays`: so it does for ever, and the artifact is due once, with the report that
  completes the job.
* `Tracker.amount_finding_succ`: a running job shows the greater of the last percentage and the one
  reported, but 0 when the report has no number there.
* `Tracker.percentage_falls_iff`: so the percentage of a running job falls with such a report, until
  another one catches up.
-/

namespace ClipRelay

/-! ## One report -/

namespace Finding

variable {r : Report} {before : Option Snapshot} {s : Snapshot}

theorem ofReport_of_terminal (r : Report) (h : s.isTerminal = true) :
    ofReport r (some s) = ⟨s, false⟩ := by
  rw [ofReport, Option.filter_some, if_pos h]

/-- The last snapshot is that of a running job, if there is one. -/
def Running (before : Option Snapshot) : Prop := ∀ s, before = some s → s.isTerminal = false

theorem ofReport_of_running (r : Report) (h : Running before) :
    ofReport r before = ⟨r.snapshot before, (r.snapshot before).status = .complete⟩ := by
  have hfilter : before.filter (·.isTerminal) = none :=
    Option.filter_eq_none_iff.2 fun s hs => Bool.eq_false_iff.1 (h s hs)
  rw [ofReport, hfilter]

/-- A job that is running now has been running before. -/
theorem running_of_ofReport (h : (ofReport r before).snapshot.status = .processing) :
    Running before := by
  rintro s rfl
  cases hs : s.isTerminal with
  | false => rfl
  | true =>
    rw [ofReport_of_terminal r hs] at h
    rw [Snapshot.isTerminal, h] at hs
    cases hs

end Finding

/-- What a report says about a job that has not ended before, and when it says so. -/
inductive Report.Says (r : Report) (before : Option Snapshot) : Snapshot → Prop
  | complete {artifact : ArtifactRef} : r.state = "complete" → r.artifact? = some artifact →
    Says r before (.complete artifact (r.message?.getD "Processing complete!"))
  /-- The job is complete, and there is nothing to download. -/
  | unlocated : r.state = "complete" → r.artifact? = none →
    Says r before (.failed .noDownloadUrl "complete" 100 noDownloadMessage)
  | failed : r.state ≠ "complete" → failureNames.contains r.state = true →
    Says r before
      (.failed .jobFailed (r.stage?.getD r.state) r.percent ("Job failed: " ++ r.failureReason))
  | unknown : r.state = "not_found" →
    Says r before (.unknownJob ("Job not found: " ++ r.error?.getD "Job not found"))
  /-- All other states, also those that no worker has. -/
  | running : r.state ≠ "complete" → failureNames.contains r.state = false →
    r.state ≠ "not_found" →
    Says r before (.processing (r.stage?.getD r.state) (notBelow before r.percent)
      (r.message?.getD "Processing..."))

namespace Report

variable {r : Report} {before : Option Snapshot}

theorem says_snapshot (r : Report) (before : Option Snapshot) : r.Says before (r.snapshot before) := by
  unfold snapshot
  split
  · rename_i hcomplete
    split
    · rename_i artifact hartifact
      exact .complete hcomplete hartifact
    · rename_i hnone
      exact .unlocated hcomplete hnone
  · rename_i hcomplete
    split
    · rename_i hfailed
      exact .failed hcomplete hfailed
    · rename_i hfailed
      split
      · rename_i hunknown
        exact .unknown hunknown
      · rename_i hunknown
        exact .running hcomplete (Bool.eq_false_iff.2 hfailed) hunknown

theorem progress_of_processing (h : (r.snapshot before).status = .processing) :
    (r.snapshot before).progress = clampPercent (notBelow before r.percent) := by
  have hsays := r.says_snapshot before
  generalize r.snapshot before = s at h hsays ⊢
  cases hsays with
  | running => rfl
  | _ => cases h

/-- A snapshot has no other artifact than that of its report. -/
theorem artifact_of_output {artifact : ArtifactRef}
    (h : (r.snapshot before).output = some artifact) : r.artifact? = some artifact := by
  have hsays := r.says_snapshot before
  generalize r.snapshot before = s at h hsays
  cases hsays with
  | complete _ hartifact => rw [hartifact, ← h]; rfl
  | _ => cases h

/-- The artifact of a complete job is the one that the report names. -/
theorem output_snapshot (h : (r.snapshot before).status = .complete) :
    (r.snapshot before).output = r.artifact? := by
  have hsays := r.says_snapshot before
  generalize r.snapshot before = s at h hsays ⊢
  cases hsays with
  | complete _ hartifact => exact hartifact.symm
  | _ => cases h

end Report

namespace Tracker

open Finding

/-- A tracker after so many reports. -/
def after (reports : Nat → Report) : Nat → Tracker
  | 0 => .empty
  | i + 1 => ((after reports i).feed (reports i)).2

/-- What the tracker says at a report. -/
def finding (reports : Nat → Report) (i : Nat) : Finding :=
  ((after reports i).feed (reports i)).1

variable (reports : Nat → Report) {i j : Nat}

theorem finding_eq (i : Nat) :
    finding reports i = ofReport (reports i) (after reports i).current := rfl

theorem current_after_succ (i : Nat) :
    (after reports (i + 1)).current = some (finding reports i).snapshot := rfl

/-! ## Jobs that have ended -/

theorem finding_succ_of_terminal (h : (finding reports i).snapshot.isTerminal = true) :
    finding reports (i + 1) = ⟨(finding reports i).snapshot, false⟩ := by
  rw [finding_eq, current_after_succ, ofReport_of_terminal _ h]

/-- A job that has ended stays as it ended. -/
theorem finding_of_terminal (hij : i < j) (h : (finding reports i).snapshot.isTerminal = true) :
    finding reports j = ⟨(finding reports i).snapshot, false⟩ := by
  induction hij with
  | refl => exact finding_succ_of_terminal reports h
  | @step j _ ih =>
    have hj : (finding reports j).snapshot.isTerminal = true := by rw [ih]; exact h
    rw [finding_succ_of_terminal reports hj, ih]

/-- As long as no report has ended the job, it is running. -/
theorem running_after (h : ∀ j < i, (finding reports j).snapshot.isTerminal = false) :
    Running (after reports i).current := by
  intro s hs
  cases i with
  | zero => cases hs
  | succ i =>
    rw [current_after_succ] at hs
    cases hs
    exact h i (Nat.lt_succ_self i)

/-- The artifact is due with the first report that completes the job. -/
theorem artifactDue_iff (i : Nat) : (finding reports i).artifactDue = true ↔
    (finding reports i).snapshot.status = .complete ∧
      ∀ j < i, (finding reports j).snapshot.status ≠ .complete := by
  by_cases hended : ∃ j < i, (finding reports j).snapshot.isTerminal = true
  · obtain ⟨j, hji, hj⟩ := hended
    have hi := finding_of_terminal reports hji hj
    constructor
    · intro hdue
      rw [hi] at hdue
      cases hdue
    · rintro ⟨hcomplete, hfirst⟩
      rw [hi] at hcomplete
      exact absurd hcomplete (hfirst j hji)
  · have hopen : ∀ j < i, (finding reports j).snapshot.isTerminal = false := fun j hj =>
      Bool.eq_false_iff.2 fun h => hended ⟨j, hj, h⟩
    rw [finding_eq, ofReport_of_running _ (running_after reports hopen), decide_eq_true_eq]
    refine ⟨fun h => ⟨h, fun j hj hcomplete => ?_⟩, And.left⟩
    have := hopen j hj
    rw [Snapshot.isTerminal, hcomplete] at this
    cases this

/-- Whatever a job is said to be after its end: it stays as it ended, in every field, and nothing is
due any more. The artifact is due with the first report that completes the job, and with no other. -/
theorem ended_job_stays :
    (∀ i j, i < j → (finding reports i).snapshot.isTerminal = true →
      finding reports j = ⟨(finding reports i).snapshot, false⟩) ∧
    (∀ i, (finding reports i).artifactDue = true ↔
      (finding reports i).snapshot.status = .complete ∧
        ∀ j < i, (finding reports j).snapshot.status ≠ .complete) ∧
    ∀ i j, (finding reports i).artifactDue = true → (finding reports j).artifactDue = true → i = j := by
  refine ⟨fun i j => finding_of_terminal reports, artifactDue_iff reports, fun i j hi hj => ?_⟩
  obtain ⟨hi, hfirst⟩ := (artifactDue_iff reports i).1 hi
  obtain ⟨hj, hfirst'⟩ := (artifactDue_iff reports j).1 hj
  rcases Nat.lt_trichotomy i j with h | h | h
  · exact absurd hi (hfirst' i h)
  · exact h
  · exact absurd hj (hfirst j h)

/-- A job that is complete, then failed, then complete with another artifact. -/
def contradicting : Nat → Report
  | 0 => ⟨some (.string "processing"), none, none, none, none, none, none⟩
  | 1 => ⟨some (.string "complete"), none, none, none, some (.string "/d/x.mp4"), none, none⟩
  | 2 => ⟨some (.string "error"), none, none, none, none, none, some (.string "out of memory")⟩
  | _ => ⟨some (.string "complete"), none, none, none, some (.string "/d/y.mp4"), none, none⟩

theorem ended_job_stays_sample :
    1 < 3 ∧ (finding contradicting 1).snapshot.isTerminal = true ∧
      finding contradicting 3 = ⟨.complete ⟨"/d/x.mp4", "x.mp4"⟩ "Processing complete!", false⟩ ∧
      (finding contradicting 1).artifactDue = true := by
  have hended : (finding contradicting 1).snapshot.isTerminal = true := by decide +kernel
  have hstays := (ended_job_stays contradicting).1 1 3 (by decide) hended
  exact ⟨by decide, hended, hstays.trans (by decide +kernel), by decide +kernel⟩

/-! ## Running jobs -/

/-- A job that is running at a report was running at all reports before. -/
theorem processing_of_le (hij : i ≤ j) (h : (finding reports j).snapshot.status = .processing) :
    (finding reports i).snapshot.status = .processing := by
  rcases Nat.lt_or_eq_of_le hij with hlt | rfl
  · cases hi : (finding reports i).snapshot.status with
    | processing => rfl
    | _ =>
      have hended : (finding reports i).snapshot.isTerminal = true := by
        rw [Snapshot.isTerminal, hi]; rfl
      rw [finding_of_terminal reports hlt hended, hi] at h
      cases h
  · exact h

theorem progress_finding (h : (finding reports i).snapshot.status = .processing) :
    (finding reports i).snapshot.progress =
      clampPercent (notBelow (after reports i).current (reports i).percent) := by
  rw [finding_eq] at h ⊢
  have hrunning := ofReport_of_running (reports i) (running_of_ofReport h)
  rw [hrunning] at h ⊢
  exact Report.progress_of_processing h

theorem isPercent_progress (h : (finding reports i).snapshot.status = .processing) :
    (finding reports i).snapshot.progress.IsPercent := by
  rw [progress_finding reports h]
  exact Double.isPercent_clampPercent _

/-- The units of the percentage of a running job, from those at the report before. -/
theorem amount_finding_succ (h : (finding reports (i + 1)).snapshot.status = .processing) :
    (finding reports (i + 1)).snapshot.progress.amount =
      if (reports (i + 1)).percent.isNaN = true then 0
      else max (finding reports i).snapshot.progress.amount
        (clampPercent (reports (i + 1)).percent).amount := by
  have hbefore := isPercent_progress reports (processing_of_le reports (Nat.le_succ i) h)
  rw [progress_finding reports h, current_after_succ, notBelow]
  cases hx : (reports (i + 1)).percent.isNaN with
  | false => exact Double.amount_clampPercent_notBelow hbefore hx
  | true =>
    have hnan : (reports (i + 1)).percent = .nan := by
      cases hp : (reports (i + 1)).percent <;> rw [hp] at hx <;> first | rfl | cases hx
    rw [hnan]
    exact Double.amount_zero

/-- The reports from one to another let the percentage of a running job fall below some units. -/
def FallsBelow (units : Int) (i j : Nat) : Prop :=
  0 < units ∧ ∃ k, i < k ∧ k ≤ j ∧ (reports k).percent.isNaN = true ∧
    ∀ m, k < m → m ≤ j → (clampPercent (reports m).percent).amount < units

theorem fallsBelow_succ (units : Int) (hij : i ≤ j) : FallsBelow reports units i (j + 1) ↔
    if (reports (j + 1)).percent.isNaN = true then 0 < units
    else FallsBelow reports units i j ∧ (clampPercent (reports (j + 1)).percent).amount < units := by
  split
  · rename_i hnan
    refine ⟨And.left, fun hpos => ⟨hpos, j + 1, by omega, Nat.le_refl _, hnan, ?_⟩⟩
    intro m hm hm'
    omega
  · rename_i hnan
    constructor
    · rintro ⟨hpos, k, hik, hkj, hk, hrest⟩
      have hk' : k ≠ j + 1 := by
        rintro rfl
        exact hnan hk
      exact ⟨⟨hpos, k, hik, by omega, hk, fun m hm hm' => hrest m hm (by omega)⟩,
        hrest (j + 1) (by omega) (Nat.le_refl _)⟩
    · rintro ⟨⟨hpos, k, hik, hkj, hk, hrest⟩, hlast⟩
      refine ⟨hpos, k, hik, by omega, hk, fun m hm hm' => ?_⟩
      rcases Nat.lt_or_eq_of_le hm' with hlt | rfl
      · exact hrest m hm (by omega)
      · exact hlast

theorem amount_lt_iff_fallsBelow (hij : i ≤ j)
    (h : (finding reports j).snapshot.status = .processing) :
    (finding reports j).snapshot.progress.amount < (finding reports i).snapshot.progress.amount ↔
      FallsBelow reports (finding reports i).snapshot.progress.amount i j := by
  induction hij with
  | refl =>
    refine iff_of_false (Int.lt_irrefl _) ?_
    rintro ⟨-, k, hik, hki, -⟩
    omega
  | @step j hij ih =>
    rw [fallsBelow_succ reports _ hij, amount_finding_succ reports h,
      ← ih (processing_of_le reports (Nat.le_succ j) h)]
    split
    · rfl
    · omega

/-- The percentage of a running job is not kept when, between the two reports or with the second one,
there is a report whose percentage is not a number, and no report behind it up to the second one
reaches the old percentage again. Otherwise it does not go backwards. -/
theorem percentage_falls_iff (hij : i < j)
    (hi : (finding reports i).snapshot.status = .processing)
    (hj : (finding reports j).snapshot.status = .processing) :
    (finding reports i).snapshot.progress.le (finding reports j).snapshot.progress = false ↔
      Double.lt 0 (finding reports i).snapshot.progress = true ∧
        ∃ k, i < k ∧ k ≤ j ∧ (reports k).percent.isNaN = true ∧ ∀ m, k < m → m ≤ j →
          (clampPercent (reports m).percent).lt (finding reports i).snapshot.progress = true := by
  have hi' := (isPercent_progress reports hi).isFinite
  have hj' := (isPercent_progress reports hj).isFinite
  have hclamp : ∀ m, (clampPercent (reports m).percent).isFinite = true := fun m =>
    (Double.isPercent_clampPercent _).isFinite
  rw [← Bool.not_eq_true, Double.le_iff_amount hi' hj', Int.not_le,
    amount_lt_iff_fallsBelow reports (Nat.le_of_lt hij) hj, FallsBelow,
    Double.lt_iff_amount (by decide +kernel) hi', Double.amount_zero]
  simp only [Double.lt_iff_amount (hclamp _) hi']

/-- A job at 60 percent, a report with a text in place of the percentage, and one at 20 percent. -/
def wordless : Nat → Report
  | 0 => ⟨some (.string "processing"), none, some (.number (.whole 60)), none, none, none, none⟩
  | 1 => ⟨some (.string "processing"), none, some (.string "NaN"), none, none, none, none⟩
  | _ => ⟨some (.string "processing"), none, some (.number (.whole 20)), none, none, none, none⟩

theorem percentage_falls_iff_sample :
    (finding wordless 0).snapshot.status = .processing ∧
      (finding wordless 2).snapshot.status = .processing ∧
      (finding wordless 0).snapshot.progress.le (finding wordless 2).snapshot.progress = false := by
  have h₀ : (finding wordless 0).snapshot.status = .processing := by decide +kernel
  have h₂ : (finding wordless 2).snapshot.status = .processing := by decide +kernel
  refine ⟨h₀, h₂, (percentage_falls_iff wordless (by decide) h₀ h₂).2 ⟨by decide +kernel, 1,
    by decide, by decide, by decide +kernel, fun m hm hm' => ?_⟩⟩
  obtain rfl : m = 2 := by omega
  decide +kernel

/-- The percentage of a running job goes backwards. -/
theorem percentage_lost :
    (finding wordless 0).snapshot.status = .processing ∧
      (finding wordless 1).snapshot.status = .processing ∧
      (finding wordless 0).snapshot.progress = 60 ∧ (finding wordless 1).snapshot.progress = 0 ∧
      (finding wordless 0).snapshot.progress.le (finding wordless 1).snapshot.progress = false := by
  decide +kernel

end Tracker

end ClipRelay
