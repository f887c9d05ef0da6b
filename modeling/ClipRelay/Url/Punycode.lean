import ClipRelay.Text.Search

/-!
# Labels beyond ASCII in ASCII

A label is written as its ASCII characters, a hyphen, and one number for every other character, in
the order of their code points: how many pairs of a code point and a position lie between it and the
one before. Numbers are written in digits of varying weight, the least first, and where a number
ends depends on a bias that follows the sizes of the numbers so far. `encode` and `decode?` are the
two directions.
-/

namespace ClipRelay.Url.Punycode

/-- The first code point that is no ASCII character. -/
def firstCode : Nat := 0x80

def firstBias : Nat := 72

/-- The least digit at weight `36 * k` that does not end a number. -/
def threshold (k bias : Nat) : Nat :=
  if k ≤ bias then 1 else if bias + 26 ≤ k then 26 else k - bias

theorem threshold_bounds (k bias : Nat) : 1 ≤ threshold k bias ∧ threshold k bias ≤ 26 := by
  unfold threshold
  split
  · omega
  · split <;> omega

def adaptFrom (delta k : Nat) : Nat :=
  if 455 < delta then adaptFrom (delta / 35) (k + 36) else k + 36 * delta / (delta + 38)
termination_by delta
decreasing_by exact Nat.div_lt_self (by omega) (by omega)

/-- The bias after a number, when `count` characters are placed. -/
def adapt (delta count : Nat) (first : Bool) : Nat :=
  let delta := if first then delta / 700 else delta / 2
  adaptFrom (delta + delta / count) 0

/-! ## Encoding -/

def digitChar (d : Nat) : Char :=
  if d < 26 then Char.ofNat ('a'.toNat + d) else Char.ofNat ('0'.toNat + (d - 26))

/-- The digits of a number, from weight `36 * k` on. -/
def number (bias k n : Nat) : List Char :=
  let t := threshold k bias
  if n < t then [digitChar n]
  else digitChar (t + (n - t) % (36 - t)) :: number bias (k + 36) ((n - t) / (36 - t))
termination_by n
decreasing_by
  have := threshold_bounds k bias
  have : (n - threshold k bias) / (36 - threshold k bias) ≤ n - threshold k bias :=
    Nat.div_le_self _ _
  omega

/-- What has been written: the characters that are placed, the bias, the number under way. -/
structure Progress where
  placed : Nat
  bias : Nat
  delta : Nat
  written : List Char

/-- Writes every occurrence of a code point among the characters; `basic` of them are ASCII. -/
def encodeCode (chars : List Nat) (basic code : Nat) (p : Progress) : Progress :=
  chars.foldl (fun p c =>
    if c < code then { p with delta := p.delta + 1 }
    else if c = code then
      ⟨p.placed + 1, adapt p.delta (p.placed + 1) (p.placed = basic), 0,
        p.written ++ number p.bias 36 p.delta⟩
    else p) p

/-- The code points beyond ASCII in increasing order, each once. -/
def codesOf (chars : List Nat) : List Nat :=
  ((chars.filter (firstCode ≤ ·)).mergeSort (· ≤ ·)).eraseReps

/-- The ASCII form of a label, without the mark in front. -/
def encode (label : List Char) : List Char :=
  let chars := label.map Char.toNat
  let ascii := label.filter (·.toNat < firstCode)
  let start := if ascii.isEmpty then [] else ascii ++ ['-']
  let (_, p) := (codesOf chars).foldl (fun (next, p) code =>
      let p := { p with delta := p.delta + (code - next) * (p.placed + 1) }
      let p := encodeCode chars ascii.length code p
      (code + 1, { p with delta := p.delta + 1 }))
    (firstCode, Progress.mk ascii.length firstBias 0 start)
  p.written

/-! ## Decoding -/

def digitValue? (c : Char) : Option Nat :=
  if 'a' ≤ c ∧ c ≤ 'z' then some (c.toNat - 'a'.toNat)
  else if 'A' ≤ c ∧ c ≤ 'Z' then some (c.toNat - 'A'.toNat)
  else if '0' ≤ c ∧ c ≤ '9' then some (c.toNat - '0'.toNat + 26)
  else none

/-- What has been read: the characters so far, the last code point and position, the bias, and the
number under way with the weight and the place of its next digit. -/
structure State where
  chars : List Char
  code : Nat
  position : Nat
  bias : Nat
  sum : Nat
  weight : Nat
  place : Nat

/-- Places the character that a finished number stands for. -/
def State.insert? (s : State) : Option State :=
  let count := s.chars.length + 1
  let total := s.position + s.sum
  let code := s.code + total / count
  let position := total % count
  if code.isValidChar then
    some ⟨s.chars.take position ++ Char.ofNat code :: s.chars.drop position, code, position + 1,
      adapt s.sum count (s.position = 0), 0, 1, 36⟩
  else none

/-- Reads one digit. -/
def State.step? (s : State) (c : Char) : Option State := do
  let d ← digitValue? c
  let t := threshold s.place s.bias
  let s := { s with sum := s.sum + d * s.weight }
  if d < t then s.insert?
  else return { s with weight := s.weight * (36 - t), place := s.place + 36 }

/-- The label that an ASCII form stands for. -/
def decode? (text : List Char) : Option (List Char) := do
  let (ascii, digits) := match Text.cutAt? '-' text.reverse with
    | some (after, before) =>
      if before.isEmpty then ([], text) else (before.reverse, after.reverse)
    | none => ([], text)
  let s ← digits.foldlM State.step? ⟨ascii, firstCode, 0, firstBias, 0, 1, 36⟩
  if s.place = 36 then return s.chars else none

end ClipRelay.Url.Punycode
