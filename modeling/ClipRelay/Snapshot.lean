import ClipRelay.ErrorCode
import ClipRelay.JobStatus
import ClipRelay.Number.Decimal

/-!
# Snapshots

A snapshot is what one report of the worker says about a job. The four constructors `processing`,
`complete`, `failed` and `unknownJob` are the only ways in which the library builds one: a complete
snapshot holds the place of its artifact, and a failed one its error code.
-/

namespace ClipRelay

/-- Where the artifact of a complete job can be fetched. -/
structure ArtifactRef where
  /-- An absolute URL, or a path below the worker's base URL. -/
  downloadUrl : String
  /-- The worker's name for the artifact. -/
  filename : String
  deriving DecidableEq

/-- A percentage moved into `[0, 100]`; NaN becomes 0. -/
def clampPercent (x : Double) : Double :=
  if x.isNaN then 0 else x.clamp 0 100

structure Snapshot where
  status : JobStatus
  stage : String
  progress : Double
  message : String
  output : Option ArtifactRef
  error : Option ErrorCode
  deriving DecidableEq

namespace Snapshot

/-- A job that is still running. -/
def processing (stage : String) (progress : Double) (message : String) : Snapshot :=
  ⟨.processing, stage, clampPercent progress, message, none, none⟩

/-- A job that is done, with its artifact. -/
def complete (output : ArtifactRef) (message : String) : Snapshot :=
  ⟨.complete, "complete", 100, message, some output, none⟩

def failed (code : ErrorCode) (stage : String) (progress : Double) (message : String) : Snapshot :=
  ⟨.error, stage, clampPercent progress, message, none, some code⟩

/-- A job that the worker does not know. -/
def unknownJob (message : String) : Snapshot :=
  ⟨.notFound, "unknown", 0, message, none, some .jobNotFound⟩

def isTerminal (s : Snapshot) : Bool := s.status.isTerminal

end Snapshot

end ClipRelay
