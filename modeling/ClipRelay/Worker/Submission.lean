import ClipRelay.Disk
import ClipRelay.Text.Blank
import ClipRelay.TrimWindow
import ClipRelay.Worker.Fault

/-!
# Submissions

A submission is a checked request to run a job: a source that can be read, a prompt that is not
blank, and the window to be cut out of the source, if any. `Submission.prepare` checks in that order.
The upload is the source itself until a clip takes its place.
-/

namespace ClipRelay

structure Submission where
  /-- The file that the user named. -/
  source : String
  /-- The file that is uploaded. -/
  upload : String
  prompt : String
  window : Option TrimWindow
  deriving DecidableEq

namespace Submission

/-- What is wrong with a file that the disk refuses. -/
def refusal (path : String) : IoFault → WorkerFault
  | .notFound => .fileNotFound path
  | e => .fileAccess path e.message

/-- The path leads to a regular file. -/
def checkFile (d : Disk) (path : String) : Except WorkerFault Unit :=
  match d.status path with
  | .ok (_, .file _) => .ok ()
  | .ok _ => .error (.fileAccess path "not a regular file")
  | .error e => .error (refusal path e)

/-- Checks what a client asks for. -/
def prepare (d : Disk) (file prompt : String) (start stop : Option Double) :
    Except WorkerFault Submission := do
  let some file := Text.nonBlank? file | .error (.invalidRequest "file_path is required")
  checkFile d file
  let some prompt := Text.nonBlank? prompt | .error (.invalidRequest "prompt is required")
  match TrimWindow.resolve start stop with
  | .error e => .error (.invalidRequest e.message)
  | .ok window => return ⟨file, file, prompt, window⟩

/-- Uploads another file in place of the source. -/
def withUpload (s : Submission) (path : String) : Submission := { s with upload := path }

/-- The name of the uploaded file. -/
def uploadName (s : Submission) : String := (Path.fileName? s.upload).getD "video.mp4"

/-- The name of the source, after which the artifact is named. -/
def hint? (s : Submission) : Option String := Path.fileName? s.source

end Submission

/-- The media type of a video, by the extension of its name. -/
def videoType (path : String) : String :=
  match (Path.extension? path).map Text.asciiLower with
  | some "mov" => "video/quicktime"
  | some "m4v" => "video/x-m4v"
  | some "mkv" => "video/x-matroska"
  | some "webm" => "video/webm"
  | some "avi" => "video/x-msvideo"
  | _ => "video/mp4"

end ClipRelay
