import ClipRelay.Text.Case

/-!
# Error codes

Every failure that a client sees carries one of sixteen codes beside its message. A code has one
name on the wire (`ErrorCode.name`), and a name is read in any case (`parse?_name`).
-/

namespace ClipRelay

inductive ErrorCode
  /-- The source file does not exist. -/
  | fileNotFound
  /-- The source file exists and cannot be read. -/
  | fileAccess
  /-- The request is well formed and makes no sense. -/
  | invalidRequest
  /-- The clip could not be trimmed. -/
  | trim
  /-- The worker could not be reached. -/
  | network
  /-- The worker refused to start the job. -/
  | workerServer
  /-- The tunnel answered with its warning page. -/
  | warningPage
  /-- The worker's answer is not the JSON that was expected. -/
  | invalidResponse
  /-- The job was started and has no id. -/
  | noJobId
  /-- The worker refused to tell the progress. -/
  | progressCheck
  /-- The worker says that the job failed. -/
  | jobFailed
  /-- The worker does not know the job. -/
  | jobNotFound
  /-- The job is complete and there is nothing to download. -/
  | noDownloadUrl
  /-- The job is complete and its artifact could not be downloaded. -/
  | downloadFailed
  /-- The event stream broke. -/
  | stream
  /-- The job or the stream took too long. -/
  | timeout
  deriving DecidableEq

namespace ErrorCode

/-- The name of a code on the wire. -/
def name : ErrorCode → String
  | fileNotFound => "FILE_NOT_FOUND"
  | fileAccess => "FILE_ACCESS_ERROR"
  | invalidRequest => "INVALID_REQUEST"
  | trim => "TRIM_ERROR"
  | network => "NETWORK_ERROR"
  | workerServer => "COLAB_SERVER_ERROR"
  | warningPage => "NGROK_WARNING_PAGE"
  | invalidResponse => "INVALID_RESPONSE"
  | noJobId => "NO_JOB_ID"
  | progressCheck => "PROGRESS_CHECK_FAILED"
  | jobFailed => "JOB_FAILED"
  | jobNotFound => "JOB_NOT_FOUND"
  | noDownloadUrl => "NO_DOWNLOAD_URL"
  | downloadFailed => "DOWNLOAD_FAILED"
  | stream => "STREAM_ERROR"
  | timeout => "TIMEOUT"

def all : List ErrorCode :=
  [fileNotFound, fileAccess, invalidRequest, trim, network, workerServer, warningPage,
    invalidResponse, noJobId, progressCheck, jobFailed, jobNotFound, noDownloadUrl, downloadFailed,
    stream, timeout]

/-- The code of a name on the wire. -/
def ofName? (s : String) : Option ErrorCode := all.find? (·.name == s)

/-- The code of a name in any case. -/
def parse? (s : String) : Option ErrorCode := ofName? (Text.upper s)

/-- What is said of a text that names no code. -/
def unknownMessage (s : String) : String := "Unknown error code: " ++ s

@[simp] theorem ofName?_name (c : ErrorCode) : ofName? c.name = some c := by
  cases c <;> decide

theorem parse?_name (c : ErrorCode) : parse? c.name = some c := by
  cases c <;> decide +kernel

end ErrorCode

end ClipRelay
