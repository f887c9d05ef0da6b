import ClipRelay.Text.Search

/-!
# File paths

A path is a text of names with slashes between them. Empty names and `.` do not count; the file name
is the last name unless it is `..`. A file name splits at its last dot into stem and extension,
except that a dot in front belongs to the stem.
-/

namespace ClipRelay.Path

open Text

/-- The pieces between the slashes that are not empty. -/
def pieces (path : String) : List (List Char) :=
  (splitOnChar '/' path.toList).filter (!·.isEmpty)

/-- The pieces that name something: all but `.`. -/
def namedPieces (path : String) : List (List Char) :=
  (pieces path).filter (· != ['.'])

def isAbsolute (path : String) : Bool := startsWith path "/"

/-- The last name, if it is that of a file. -/
def fileNameChars? (path : String) : Option (List Char) :=
  match (namedPieces path).getLast? with
  | some name => if name = ['.', '.'] then none else some name
  | none => none

def fileName? (path : String) : Option String := (fileNameChars? path).map String.ofList

/-- The parts of a file name before and after its last dot; no extension when the only dot is in
front. -/
def splitName (name : List Char) : List Char × Option (List Char) :=
  match cutAt? '.' name.reverse with
  | some (after, before) => if before.isEmpty then (name, none) else (before.reverse, some after.reverse)
  | none => (name, none)

def fileStem? (path : String) : Option String :=
  (fileNameChars? path).map fun name => String.ofList (splitName name).1

def extension? (path : String) : Option String :=
  (fileNameChars? path).bind fun name => (splitName name).2.map String.ofList

/-- `name` below `dir`; an absolute `name` stands alone. -/
def join (dir name : String) : String :=
  if isAbsolute name || dir = "" then name
  else if endsWith dir "/" then dir ++ name
  else dir ++ "/" ++ name

/-- The path of the names below the root. -/
def ofNames (names : List String) : String :=
  if names.isEmpty then "/" else String.join (names.map ("/" ++ ·))

end ClipRelay.Path
