import ClipRelay.Text.Search

/-!
# Tables of character runs

Properties of Unicode characters come in runs of neighbours. A table is written as lines of words,
a word a run: how far it starts behind the run before it, in hexadecimal, a capital letter for its
kind, and the image of its characters, code points with commas between them. A character belongs to
the last run that does not start behind it.
-/

namespace ClipRelay.Text

/-- Characters of one kind, up to the start of the next run. -/
structure Run where
  first : Nat
  kind : Char
  image : List Nat

/-- Runs in the order of their characters. -/
abbrev RunTable := Array Run

namespace RunTable

def ofHex (cs : List Char) : Nat :=
  cs.foldl (fun n c => 16 * n + if c.isDigit then c.toNat - '0'.toNat else c.toNat - 'a'.toNat + 10) 0

/-- The run that a word describes, behind a run that starts at `last`. -/
def readRun (last : Nat) (word : List Char) : Run :=
  let distance := word.takeWhile (!·.isUpper)
  match word.dropWhile (!·.isUpper) with
  | kind :: image =>
    ⟨last + ofHex distance, kind, if image.isEmpty then [] else (splitOnChar ',' image).map ofHex⟩
  | [] => ⟨last + ofHex distance, 'X', []⟩

def readLine (table : RunTable) (line : String) : RunTable :=
  (splitOnChar ' ' line.toList).foldl
    (fun t word => t.push (readRun ((t.back?.map Run.first).getD 0) word)) table

/-- The table that these lines describe. -/
def ofLines (lines : List String) : RunTable := lines.foldl readLine #[]

/-- The last run that does not start behind `n`, among those from `low` on and before `high`. -/
def search (table : RunTable) (n low high : Nat) : Option Run :=
  if low + 1 < high then
    let middle := (low + high) / 2
    if table[middle]?.any (·.first ≤ n) then table.search n middle high
    else table.search n low middle
  else table[low]?.filter (·.first ≤ n)
termination_by high - low
decreasing_by all_goals omega

/-- The run of a character. -/
def run? (table : RunTable) (c : Char) : Option Run := table.search c.toNat 0 table.size

/-- The run of a character has this kind. -/
def isKind (table : RunTable) (kind : Char) (c : Char) : Bool :=
  (table.run? c).any (·.kind == kind)

/-- The run that starts with a character. -/
def startingAt? (table : RunTable) (c : Char) : Option Run :=
  (table.run? c).filter (·.first == c.toNat)

end RunTable

end ClipRelay.Text
