import ClipRelay.Path
import ClipRelay.Text.Blank
import ClipRelay.Text.Case

/-!
# Names of artifacts

An artifact is named `prefix_stem_job.ext`: the stem of the source clip or else of the worker's name
for the artifact, the job's id, and the extension of the worker's name. Whatever is no ASCII letter,
digit, hyphen, underscore or dot becomes an underscore (`isSafe_of_mem_artifactName`), so a name is
one component of a path.
-/

namespace ClipRelay

namespace ArtifactName

/-- Characters that a name may hold. -/
def isSafe (c : Char) : Bool :=
  c.isAlphanum || c = '-' || c = '_' || c = '.'

def safeChar (c : Char) : Char := if isSafe c then c else '_'

theorem isSafe_safeChar (c : Char) : isSafe (safeChar c) = true := by
  unfold safeChar
  split
  · assumption
  · decide

/-- The stem of the hint, else that of the worker's name. -/
def stemOf (hint : Option String) (remote : String) : String :=
  (((hint.bind Text.nonBlank?).bind Path.fileStem?) <|> Path.fileStem? remote).getD "video"

/-- The extension of the worker's name in lower case. -/
def extensionOf (remote : String) : String :=
  (((Path.extension? remote).map Text.asciiLower).filter (· ≠ "")).getD "mp4"

/-- The job's id, or the token that stands in when there is none. -/
def jobPart (job : Option String) (token : String) : String :=
  (job.bind Text.nonBlank?).getD token

end ArtifactName

open ArtifactName in
/-- The name of the artifact of a job. -/
def artifactName (lead : String) (hint : Option String) (remote : String) (job : Option String)
    (token : String) : String :=
  let name := lead ++ "_" ++ stemOf hint remote ++ "_" ++ jobPart job token ++ "."
    ++ extensionOf remote
  String.ofList (name.toList.map safeChar)

/-- A name holds safe characters only. -/
theorem isSafe_of_mem_artifactName {lead remote token : String} {hint job : Option String} {c : Char}
    (h : c ∈ (artifactName lead hint remote job token).toList) : ArtifactName.isSafe c = true := by
  simp only [artifactName, String.toList_ofList, List.mem_map] at h
  obtain ⟨d, _, rfl⟩ := h
  exact ArtifactName.isSafe_safeChar d

end ClipRelay
