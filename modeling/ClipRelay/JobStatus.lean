import ClipRelay.Text.Case

/-!
# Job status

A job is processing until it reaches one of three terminal states, which it never leaves.
-/

namespace ClipRelay

inductive JobStatus
  | processing
  | complete
  | error
  | notFound
  deriving DecidableEq, Inhabited

namespace JobStatus

/-- The name of a status on the wire. -/
def name : JobStatus → String
  | processing => "processing"
  | complete => "complete"
  | error => "error"
  | notFound => "not_found"

def all : List JobStatus := [processing, complete, error, notFound]

def isTerminal : JobStatus → Bool
  | processing => false
  | _ => true

/-- The status of a name on the wire. -/
def ofName? (s : String) : Option JobStatus := all.find? (·.name == s)

/-- The status of a name in any case. -/
def parse? (s : String) : Option JobStatus := ofName? (Text.lower s)

/-- What is said of a text that names no status. -/
def unknownMessage (s : String) : String := "Unknown job status: " ++ s

@[simp] theorem ofName?_name (j : JobStatus) : ofName? j.name = some j := by
  cases j <;> decide

theorem parse?_name (j : JobStatus) : parse? j.name = some j := by
  cases j <;> decide +kernel

end JobStatus

end ClipRelay
