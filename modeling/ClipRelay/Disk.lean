import ClipRelay.Path
import ClipRelay.Text.Utf8

/-!
# Files on disk

A disk is a finite map from places to files, directories and symbolic links, a place being the list
of names below the root. Paths are followed name by name, through links, to a place (`Disk.walk`);
every operation works on the places that paths lead to. `get?_put` and `get?_erase` say what a
change does to every place.
-/

namespace ClipRelay

open Text

/-- The names below the root that lead to something. -/
abbrev Place := List String

/-- Why the disk refuses an operation. -/
inductive IoFault
  | notFound
  | exists
  | notDirectory
  | isDirectory
  | nameTooLong
  | tooManyLinks
  | nulInName
  deriving DecidableEq

def IoFault.message : IoFault → String
  | notFound => "No such file or directory (os error 2)"
  | .exists => "File exists (os error 17)"
  | notDirectory => "Not a directory (os error 20)"
  | isDirectory => "Is a directory (os error 21)"
  | nameTooLong => "File name too long (os error 36)"
  | tooManyLinks => "Too many levels of symbolic links (os error 40)"
  | nulInName => "file name contained an unexpected NUL byte"

/-- What stands at a place. -/
inductive Entry
  | file (content : Bytes)
  | dir
  | link (target : String)
  deriving DecidableEq

structure Disk where
  entries : List (Place × Entry)

namespace Disk

/-- A disk with nothing on it. -/
def empty : Disk := ⟨[]⟩

/-- What stands at a place; the root is a directory. -/
def get? (d : Disk) (p : Place) : Option Entry :=
  if p = [] then some .dir else d.entries.lookup p

/-- The disk without what stands at a place. -/
def erase (d : Disk) (p : Place) : Disk := ⟨d.entries.filter (·.1 != p)⟩

/-- The disk with an entry at a place. -/
def put (d : Disk) (p : Place) (e : Entry) : Disk := ⟨(p, e) :: (d.erase p).entries⟩

theorem lookup_filter_ne {p q : Place} (h : q ≠ p) (es : List (Place × Entry)) :
    (es.filter (·.1 != p)).lookup q = es.lookup q := by
  induction es with
  | nil => rfl
  | cons e es ih =>
    obtain ⟨k, v⟩ := e
    by_cases hk : k = p
    · subst hk
      have hq : (q == k) = false := by simpa using h
      simp [List.lookup_cons, hq, ih]
    · rw [List.filter_cons_of_pos (by simpa using hk)]
      simp only [List.lookup_cons, ih]

theorem lookup_filter_eq (p : Place) (es : List (Place × Entry)) :
    (es.filter (·.1 != p)).lookup p = none := by
  induction es with
  | nil => rfl
  | cons e es ih =>
    obtain ⟨k, v⟩ := e
    by_cases hk : k = p
    · subst hk; simpa using ih
    · have hp : (p == k) = false := by simpa using Ne.symm hk
      rw [List.filter_cons_of_pos (by simpa using hk)]
      simp only [List.lookup_cons, hp, ih]

/-- Only the place of a new entry changes. -/
theorem get?_put (d : Disk) {p : Place} (hp : p ≠ []) (e : Entry) (q : Place) :
    (d.put p e).get? q = if q = p then some e else d.get? q := by
  by_cases hq : q = p
  · subst hq; simp [get?, put, hp]
  · have hqp : (q == p) = false := by simpa using hq
    simp only [get?, put, erase, List.lookup_cons, hqp, hq, if_false]
    rw [lookup_filter_ne hq]

/-- Only the place of an erased entry changes. -/
theorem get?_erase (d : Disk) {p : Place} (hp : p ≠ []) (q : Place) :
    (d.erase p).get? q = if q = p then none else d.get? q := by
  by_cases hq : q = p
  · subst hq; simp [get?, erase, hp, lookup_filter_eq]
  · simp only [get?, erase, hq, if_false]
    rw [lookup_filter_ne hq]

/-! ## Following paths -/

/-- The longest name, in bytes. -/
def maxName : Nat := 255

/-- The longest path, in bytes. -/
def maxPath : Nat := 4095

/-- How many links a path may lead through. -/
def maxLinks : Nat := 40

/-- The names of a path; behind a slash at the end stands `.`, since it wants a directory. -/
def namesOf (path : String) : List String :=
  let names := (Path.pieces path).map String.ofList
  if endsWith path "/" then names ++ ["."] else names

/-- Follows names from a place. The result is a place with what stands there, or a place where
nothing stands in a directory that is there. The last name is followed when it is a link only if
`follow`; where a link leads from a place, along its own names and the rest, is up to `onLink`. -/
def walkNames (d : Disk) (follow : Bool)
    (onLink : Place → List String → Except IoFault (Place × Option Entry)) (here : Place) :
    List String → Except IoFault (Place × Option Entry)
  | [] => .ok (here, d.get? here)
  | name :: rest =>
    if d.get? here ≠ some .dir then .error .notDirectory
    else if name = "." then d.walkNames follow onLink here rest
    else if name = ".." then d.walkNames follow onLink here.dropLast rest
    else if maxName < name.utf8ByteSize then .error .nameTooLong
    else
      let next := here ++ [name]
      match d.get? next with
      | none => if rest = [] then .ok (next, none) else .error .notFound
      | some (.link target) =>
        if rest = [] ∧ !follow then .ok (next, some (.link target))
        else onLink (if Path.isAbsolute target then [] else here) (namesOf target ++ rest)
      | some _ => d.walkNames follow onLink next rest

/-- Follows names from a place through at most so many links. -/
def walk (d : Disk) (follow : Bool) :
    Nat → Place → List String → Except IoFault (Place × Option Entry)
  | 0 => d.walkNames follow fun _ _ => .error .tooManyLinks
  | links + 1 => d.walkNames follow (d.walk follow links)

/-- Follows a path from the root. Relative paths start there too. -/
def find (d : Disk) (follow : Bool) (path : String) : Except IoFault (Place × Option Entry) :=
  if path.toList.contains '\x00' then .error .nulInName
  else if path = "" then .error .notFound
  else if maxPath < path.utf8ByteSize then .error .nameTooLong
  else d.walk follow maxLinks [] (namesOf path)

/-- The place that a path leads to and what stands there. -/
def status (d : Disk) (path : String) : Except IoFault (Place × Entry) := do
  match ← d.find true path with
  | (p, some e) => return (p, e)
  | (_, none) => .error .notFound

def isFile (d : Disk) (path : String) : Bool :=
  match d.status path with
  | .ok (_, .file _) => true
  | _ => false

def isDir (d : Disk) (path : String) : Bool :=
  match d.status path with
  | .ok (_, .dir) => true
  | _ => false

/-- The path that leads to the same place without links, `.` and `..`. -/
def canonical (d : Disk) (path : String) : Except IoFault String := do
  let (p, _) ← d.status path
  return Path.ofNames p

/-- The content of a regular file. -/
def content (d : Disk) (path : String) : Except IoFault Bytes := do
  match ← d.status path with
  | (_, .file bs) => return bs
  | (_, .dir) => .error .isDirectory
  | (_, .link _) => .error .tooManyLinks

/-! ## Changes -/

/-- Makes a directory where nothing stands. -/
def makeDir (d : Disk) (path : String) : Except IoFault Disk := do
  match ← d.find false (String.ofList (dropSlashes path.toList)) with
  | (p, none) => return d.put p .dir
  | (_, some _) => .error .exists
where
  /-- The path without slashes at its end. -/
  dropSlashes (cs : List Char) : List Char := (cs.reverse.dropWhile (· == '/')).reverse

/-- The path of the parent of each name of a path, longest first, the path itself in front. -/
def ancestors (path : String) : List String :=
  let names := (Path.namedPieces path).map String.ofList
  (List.range names.length).map fun i =>
    let kept := names.take (names.length - i)
    if Path.isAbsolute path then Path.ofNames kept else "/".intercalate kept

/-- Makes the first of these directories; when its parent is missing, makes that first. A directory
that is there already is fine. -/
def makeDirs (d : Disk) : List String → Except IoFault Disk
  | [] => .ok d
  | path :: parents =>
    match d.makeDir path with
    | .ok d => .ok d
    | .error .notFound =>
      if parents.isEmpty then .error .notFound
      else do
        let d ← d.makeDirs parents
        match d.makeDir path with
        | .ok d => .ok d
        | .error e => if d.isDir path then .ok d else .error e
    | .error e => if d.isDir path then .ok d else .error e

/-- Makes a directory and all that lead to it. -/
def makeDirAll (d : Disk) (path : String) : Except IoFault Disk := d.makeDirs (ancestors path)

/-- Makes an empty file where nothing stands; a link at the end of the path is not followed. -/
def create (d : Disk) (path : String) : Except IoFault Disk := do
  match ← d.find false path with
  | (p, none) => return d.put p (.file [])
  | (_, some _) => .error .exists

/-- Writes a file, through links; what it held is gone. -/
def write (d : Disk) (path : String) (bs : Bytes) : Except IoFault Disk := do
  match ← d.find true path with
  | (p, none) => return d.put p (.file bs)
  | (p, some (.file _)) => return d.put p (.file bs)
  | (_, some .dir) => .error .isDirectory
  | (_, some (.link _)) => .error .tooManyLinks

/-- Opens a file for writing, through links; what it held is gone. The result is where it stands. -/
def openFile (d : Disk) (path : String) : Except IoFault (Place × Disk) := do
  let (p, _) ← d.find true path
  return (p, ← d.write path [])

/-- Adds bytes to the end of an open file, wherever its path leads by now. They are lost when the file
has been removed. -/
def extend (d : Disk) (p : Place) (bs : Bytes) : Disk :=
  match d.get? p with
  | some (.file old) => d.put p (.file (old ++ bs))
  | _ => d

/-- Adds bytes to the end of a file. -/
def append (d : Disk) (path : String) (bs : Bytes) : Except IoFault Disk := do
  match ← d.find true path with
  | (p, some (.file old)) => return d.put p (.file (old ++ bs))
  | (_, some .dir) => .error .isDirectory
  | _ => .error .notFound

/-- Removes a file or a link. -/
def remove (d : Disk) (path : String) : Except IoFault Disk := do
  match ← d.find false path with
  | (_, none) => .error .notFound
  | (_, some .dir) => .error .isDirectory
  | (p, some _) => return d.erase p

/-- The disk without a file, or as it is when the file cannot be removed. -/
def discard (d : Disk) (path : String) : Disk :=
  match d.remove path with
  | .ok d => d
  | .error _ => d

/-- Moves a file to another path in one step; what stood there is gone, unless it is a directory. -/
def rename (d : Disk) (source target : String) : Except IoFault Disk := do
  match ← d.find false source with
  | (_, none) => .error .notFound
  | (p, some e) =>
    match ← d.find false target with
    | (_, some .dir) => .error .isDirectory
    | (q, _) => return (d.erase p).put q e

/-! ## Listing -/

/-- The places below a place, with what stands there, through no links. -/
def below (d : Disk) (dir : Place) : List (Place × Entry) :=
  d.entries.filter fun (p, _) => dir.isPrefixOf p && dir.length < p.length

end Disk

end ClipRelay
