import ClipRelay.Worker.Payload

/-!
# From reports to snapshots

A report is read in the light of the snapshot before it (`Finding.ofReport`): a job that has ended
stays as it ended, a running job keeps the highest percentage it has shown, and a complete job needs
a place to download from. The artifact is due once, with the report that completes the job.
-/

namespace ClipRelay

/-- What a report says about a job. -/
structure Finding where
  snapshot : Snapshot
  /-- The job has just become complete, and its artifact is to be fetched. -/
  artifactDue : Bool
  deriving DecidableEq

/-- The statuses of a job that failed. -/
def failureNames : List String := ["error", "failed"]

/-- What is said of a complete job without an artifact. -/
def noDownloadMessage : String := "Job complete but no download URL provided"

/-- What a failed job says. -/
def Report.failureReason (r : Report) : String := ((r.error? <|> r.message?).getD "Unknown error")

/-- The highest percentage of a running job so far. -/
def notBelow (before : Option Snapshot) (percent : Double) : Double :=
  match before with
  | some s => if percent.lt s.progress then s.progress else percent
  | none => percent

/-- The snapshot of a job that has not ended before. -/
def Report.snapshot (r : Report) (before : Option Snapshot) : Snapshot :=
  let stage := r.stage?.getD r.state
  if r.state = "complete" then
    match r.artifact? with
    | some artifact => .complete artifact (r.message?.getD "Processing complete!")
    | none => .failed .noDownloadUrl "complete" 100 noDownloadMessage
  else if failureNames.contains r.state then
    .failed .jobFailed stage r.percent ("Job failed: " ++ r.failureReason)
  else if r.state = "not_found" then
    .unknownJob ("Job not found: " ++ r.error?.getD "Job not found")
  else .processing stage (notBelow before r.percent) (r.message?.getD "Processing...")

/-- What a report says about a job whose last snapshot is given. -/
def Finding.ofReport (r : Report) (before : Option Snapshot) : Finding :=
  match before.filter (·.isTerminal) with
  | some ended => ⟨ended, false⟩
  | none =>
    let s := r.snapshot before
    ⟨s, s.status = .complete⟩

/-- The memory of one who follows a job: its last snapshot. -/
structure Tracker where
  current : Option Snapshot
  deriving DecidableEq

namespace Tracker

def empty : Tracker := ⟨none⟩

/-- What the next report says, and the memory after it. -/
def feed (t : Tracker) (r : Report) : Finding × Tracker :=
  let finding := Finding.ofReport r t.current
  (finding, ⟨some finding.snapshot⟩)

end Tracker

end ClipRelay
