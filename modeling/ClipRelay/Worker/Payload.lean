import ClipRelay.Snapshot
import ClipRelay.Text.Blank
import ClipRelay.Text.Case
import ClipRelay.Text.Search
import ClipRelay.Wire.Codec

/-!
# What the worker says

The bodies of the worker's answers. Every field may be missing; those of a progress report are kept
as they came and read one at a time (`Report.stage?`, `Report.state`, `Report.artifact?`, …), so
that a field of an unexpected kind hides no other.
-/

namespace ClipRelay

open Json

/-- The answer to a health check. -/
structure HealthPayload where
  status : Option String
  gpu : Option Json

/-- The answer to the start of a job. -/
structure StartPayload where
  jobId : Option Json
  status : Option String
  message : Option String

/-- The answer to a poll, and an event of the worker's stream. -/
structure Report where
  status : Option Json
  stage : Option Json
  progress : Option Json
  message : Option Json
  downloadUrl : Option Json
  filename : Option Json
  error : Option Json

/-- A value, or `null`. -/
def ofValue? (v : Option Json) : Json := v.getD .null

instance : Wire HealthPayload where
  toJson p := .object [("status", ofText? p.status), ("gpu", ofValue? p.gpu)]
  read := Read.record [.omittable "status" Read.text, .omittable "gpu" Read.value]
  ofRead?
    | .array [s, g] => do return ⟨← orNull asText? s, orAbsent g⟩
    | _ => none

instance : Wire StartPayload where
  toJson p := .object
    [("job_id", ofValue? p.jobId), ("status", ofText? p.status), ("message", ofText? p.message)]
  read := Read.record
    [.omittable "job_id" Read.value, .omittable "status" Read.text, .omittable "message" Read.text]
  ofRead?
    | .array [j, s, m] => do return ⟨orAbsent j, ← orNull asText? s, ← orNull asText? m⟩
    | _ => none

instance : Wire Report where
  toJson r := .object
    [("status", ofValue? r.status), ("stage", ofValue? r.stage),
      ("progress", ofValue? r.progress), ("message", ofValue? r.message),
      ("download_url", ofValue? r.downloadUrl), ("filename", ofValue? r.filename),
      ("error", ofValue? r.error)]
  read := Read.record
    [.omittable "status" Read.value, .omittable "stage" Read.value,
      .omittable "progress" Read.value, .omittable "message" Read.value,
      .omittable "download_url" Read.value, .omittable "filename" Read.value,
      .omittable "error" Read.value]
  ofRead?
    | .array [s, g, p, m, u, f, e] => some
      ⟨orAbsent s, orAbsent g, orAbsent p, orAbsent m, orAbsent u, orAbsent f, orAbsent e⟩
    | _ => none

/-- A name for the GPU, whatever the worker calls it. -/
def HealthPayload.gpuName (p : HealthPayload) : Option String :=
  match p.gpu with
  | none | some .null => none
  | some (.string s) => some s
  | some v => some v.compact

/-- A job id as the worker writes it: a text that is not blank, or a number. -/
def jobIdOf : Json → Option String
  | .string s => Text.nonBlank? s
  | .number n => some (Json.compact (.number n))
  | _ => none

def StartPayload.id? (p : StartPayload) : Option String := p.jobId.bind jobIdOf

/-! ## Reports -/

/-- A text that is not blank, trimmed. -/
def labelOf : Option Json → Option String
  | some (.string s) => Text.nonBlank? s
  | _ => none

/-- Any value as a text, unless it is a blank text. -/
def textOf : Option Json → Option String
  | none | some .null => none
  | some (.string s) => if Text.trim s = "" then none else some s
  | some v => some v.compact

/-- The last segment of a URL without query and fragment. -/
def lastSegment? (url : String) : Option String :=
  let path := url.toList.takeWhile fun c => c != '?' && c != '#'
  let segment := (path.reverse.takeWhile (· != '/')).reverse
  if segment.isEmpty then none else some (String.ofList segment)

namespace Report

/-- The report that an object is. -/
def ofJson? (v : Json) : Option Report :=
  if v.isObject then
    let field key := (v.get? key).bind orAbsent
    some ⟨field "status", field "stage", field "progress", field "message", field "download_url",
      field "filename", field "error"⟩
  else none

def stage? (r : Report) : Option String := labelOf r.stage

def statusLabel? (r : Report) : Option String := labelOf r.status

def message? (r : Report) : Option String := textOf r.message

def error? (r : Report) : Option String := textOf r.error

/-- The percentage, a number or a text that is one; 0 when there is none. -/
def percent (r : Report) : Double :=
  match r.progress with
  | some (.number n) => n.toDouble
  | some (.string s) => (Double.ofText? (Text.trim s)).getD 0
  | _ => 0

/-- The status in lower case. A report without one takes it from its stage if that is an end. -/
def state (r : Report) : String :=
  match r.statusLabel? with
  | some s => Text.lower s
  | none =>
    match r.stage?.map Text.lower with
    | some "complete" => "complete"
    | some "error" => "error"
    | _ => "processing"

/-- Where the artifact is, if the report says so. Without a name of its own it is named by the last
segment of its URL. -/
def artifact? (r : Report) : Option ArtifactRef := do
  let url ← labelOf r.downloadUrl
  let name ← labelOf r.filename <|> lastSegment? url
  return ⟨url, name⟩

end Report

end ClipRelay
