import ClipRelay.Excerpt
import ClipRelay.Snapshot
import ClipRelay.TrimWindow
import ClipRelay.Wire.Codec

/-!
# Answers to the client

The bodies that the service writes, with the snapshot and the window they are made from. The job id,
the error and the output path of an answer are always written, `null` when there is none; details
and the name of a processor are written only when known. Details are cut when they are attached
(`StartAnswer.withDetails`, `ProgressAnswer.withDetails`).
-/

namespace ClipRelay

open Json

/-! ## Codes, windows and snapshots -/

def readErrorCode : Read.Reader := Read.word (ErrorCode.all.map ErrorCode.name)

def readJobStatus : Read.Reader := Read.word (JobStatus.all.map JobStatus.name)

/-- An error code, or `null`. -/
def ofErrorCode? : Option ErrorCode → Json
  | some c => .string c.name
  | none => .null

def asErrorCode? (v : Json) : Option ErrorCode := v.asText?.bind ErrorCode.ofName?

def asJobStatus? (v : Json) : Option JobStatus := v.asText?.bind JobStatus.ofName?

instance : Wire ErrorCode := ⟨fun c => .string c.name, readErrorCode, asErrorCode?⟩

instance : Wire JobStatus := ⟨fun s => .string s.name, readJobStatus, asJobStatus?⟩

instance : Wire TrimWindow where
  toJson w := .object [("start_sec", .ofDouble w.start), ("end_sec", .ofDouble w.stop)]
  read := Read.record [.required "start_sec" Read.real, .required "end_sec" Read.real]
  ofRead?
    | .array [s, e] => do return ⟨← s.asReal?, ← e.asReal?⟩
    | _ => none

instance : Wire ArtifactRef where
  toJson o := .object [("download_url", .string o.downloadUrl), ("filename", .string o.filename)]
  read := Read.record [.required "download_url" Read.text, .required "filename" Read.text]
  ofRead?
    | .array [u, f] => do return ⟨← u.asText?, ← f.asText?⟩
    | _ => none

instance : Wire Snapshot where
  toJson s := .object <|
    [("status", .string s.status.name), ("stage", .string s.stage),
      ("progress", .ofDouble s.progress), ("message", .string s.message)]
    ++ memberIf "output_ref" (s.output.map Wire.toJson)
    ++ memberIf "error_code" (s.error.map Wire.toJson)
  read := Read.record
    [.required "status" readJobStatus, .required "stage" Read.text, .required "progress" Read.real,
      .required "message" Read.text, .nullable "output_ref" (Wire.read ArtifactRef),
      .nullable "error_code" readErrorCode]
  ofRead?
    | .array [s, g, p, m, o, e] => do
      return ⟨← asJobStatus? s, ← g.asText?, ← p.asReal?, ← m.asText?, ← orNull Wire.ofRead? o,
        ← orNull asErrorCode? e⟩
    | _ => none

/-! ## Answers -/

/-- The answer to a request that starts a job. -/
structure StartAnswer where
  jobId : Option String
  /-- `started` or `error`. -/
  status : String
  message : String
  error : Option ErrorCode
  details : Option String
  deriving DecidableEq

namespace StartAnswer

def started (jobId message : String) : StartAnswer := ⟨some jobId, "started", message, none, none⟩

def failed (code : ErrorCode) (message : String) : StartAnswer :=
  ⟨none, "error", message, some code, none⟩

def withDetails (a : StartAnswer) (details : Option String) : StartAnswer :=
  { a with details := details.map excerpt }

end StartAnswer

instance : Wire StartAnswer where
  toJson a := .object <|
    [("job_id", ofText? a.jobId), ("status", .string a.status), ("message", .string a.message),
      ("error", ofErrorCode? a.error)]
    ++ memberIf "details" (a.details.map .string)
  read := Read.record
    [.nullable "job_id" Read.text, .required "status" Read.text, .required "message" Read.text,
      .nullable "error" readErrorCode, .omittable "details" Read.text]
  ofRead?
    | .array [j, s, m, e, d] => do
      return ⟨← orNull asText? j, ← s.asText?, ← m.asText?, ← orNull asErrorCode? e,
        ← orNull asText? d⟩
    | _ => none

/-- The answer to a progress check, and the last word on a job that was followed to its end. -/
structure ProgressAnswer where
  status : JobStatus
  stage : String
  progress : Double
  message : String
  /-- Set when the artifact is on disk. -/
  outputPath : Option String
  error : Option ErrorCode
  details : Option String
  deriving DecidableEq

namespace ProgressAnswer

/-- What a snapshot says; the artifact is not on disk yet. -/
def ofSnapshot (s : Snapshot) : ProgressAnswer :=
  ⟨s.status, s.stage, s.progress, s.message, none, s.error, none⟩

/-- A failure before there was any snapshot. -/
def failed (code : ErrorCode) (message : String) : ProgressAnswer :=
  ⟨if code = .jobNotFound then .notFound else .error, "unknown", 0, message, none, some code, none⟩

def withOutputPath (a : ProgressAnswer) (path : String) : ProgressAnswer :=
  { a with outputPath := some path }

def withDetails (a : ProgressAnswer) (details : Option String) : ProgressAnswer :=
  { a with details := details.map excerpt }

end ProgressAnswer

instance : Wire ProgressAnswer where
  toJson a := .object <|
    [("status", .string a.status.name), ("stage", .string a.stage),
      ("progress", .ofDouble a.progress), ("message", .string a.message),
      ("output_path", ofText? a.outputPath), ("error", ofErrorCode? a.error)]
    ++ memberIf "details" (a.details.map .string)
  read := Read.record
    [.required "status" readJobStatus, .required "stage" Read.text, .required "progress" Read.real,
      .required "message" Read.text, .nullable "output_path" Read.text,
      .nullable "error" readErrorCode, .omittable "details" Read.text]
  ofRead?
    | .array [s, g, p, m, o, e, d] => do
      return ⟨← asJobStatus? s, ← g.asText?, ← p.asReal?, ← m.asText?, ← orNull asText? o,
        ← orNull asErrorCode? e, ← orNull asText? d⟩
    | _ => none

/-- The answer to a request for the worker's health. -/
structure HealthAnswer where
  healthy : Bool
  /-- `ok` or `error`. -/
  status : String
  gpu : Option String
  error : Option String
  deriving DecidableEq

namespace HealthAnswer

def ofGpu (gpu : Option String) : HealthAnswer := ⟨true, "ok", gpu, none⟩

def unhealthy (reason : String) : HealthAnswer := ⟨false, "error", none, some reason⟩

end HealthAnswer

instance : Wire HealthAnswer where
  toJson a := .object <|
    [("healthy", .bool a.healthy), ("status", .string a.status)]
    ++ memberIf "gpu" (a.gpu.map .string)
    ++ [("error", ofText? a.error)]
  read := Read.record
    [.required "healthy" Read.flag, .required "status" Read.text, .omittable "gpu" Read.text,
      .nullable "error" Read.text]
  ofRead?
    | .array [h, s, g, e] => do
      return ⟨← h.asFlag?, ← s.asText?, ← orNull asText? g, ← orNull asText? e⟩
    | _ => none

/-- The answer to a ping. -/
structure PingAnswer where
  status : String
  received : String
  deriving DecidableEq

instance : Wire PingAnswer where
  toJson a := .object [("status", .string a.status), ("received", .string a.received)]
  read := Read.record [.required "status" Read.text, .required "received" Read.text]
  ofRead?
    | .array [s, r] => do return ⟨← s.asText?, ← r.asText?⟩
    | _ => none

end ClipRelay
