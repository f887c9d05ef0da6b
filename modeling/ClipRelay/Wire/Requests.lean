import ClipRelay.Wire.Codec

/-!
# Requests of the client

The four request bodies. Trim bounds, the name of the source and the text of a ping may be missing.
-/

namespace ClipRelay

open Json

/-- Starts a job; also the body of the two operations that follow the job to its end. -/
structure StartRequest where
  filePath : String
  prompt : String
  /-- The worker's base URL as the user gave it. -/
  workerUrl : String
  trimStart : Option Double
  trimEnd : Option Double
  deriving DecidableEq

structure ProgressRequest where
  jobId : String
  workerUrl : String
  /-- The name of the source clip, after which the artifact is named. -/
  sourceName : Option String
  deriving DecidableEq

structure HealthRequest where
  workerUrl : String
  deriving DecidableEq

structure PingRequest where
  message : String
  deriving DecidableEq

instance : Wire StartRequest where
  toJson r := .object
    [("file_path", .string r.filePath), ("prompt", .string r.prompt),
      ("colab_url", .string r.workerUrl), ("trim_start", ofDouble? r.trimStart),
      ("trim_end", ofDouble? r.trimEnd)]
  read := Read.record
    [.required "file_path" Read.text, .required "prompt" Read.text, .required "colab_url" Read.text,
      .omittable "trim_start" Read.real, .omittable "trim_end" Read.real]
  ofRead?
    | .array [f, p, u, s, e] => do
      return ⟨← f.asText?, ← p.asText?, ← u.asText?, ← orNull asReal? s, ← orNull asReal? e⟩
    | _ => none

instance : Wire ProgressRequest where
  toJson r := .object
    [("job_id", .string r.jobId), ("colab_url", .string r.workerUrl),
      ("original_filename", ofText? r.sourceName)]
  read := Read.record
    [.required "job_id" Read.text, .required "colab_url" Read.text,
      .omittable "original_filename" Read.text]
  ofRead?
    | .array [j, u, n] => do return ⟨← j.asText?, ← u.asText?, ← orNull asText? n⟩
    | _ => none

instance : Wire HealthRequest where
  toJson r := .object [("colab_url", .string r.workerUrl)]
  read := Read.record [.required "colab_url" Read.text]
  ofRead?
    | .array [u] => do return ⟨← u.asText?⟩
    | _ => none

instance : Wire PingRequest where
  toJson r := .object [("message", .string r.message)]
  read := Read.record [.defaulted "message" Read.text (.string "")]
  ofRead?
    | .array [m] => do return ⟨← m.asText?⟩
    | _ => none

end ClipRelay
