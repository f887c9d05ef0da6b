/-!
# Blank characters and trimming

A character is blank when it has the Unicode property White_Space. `trim` drops the blanks at both
ends; what it leaves starts and ends with no blank.
-/

namespace ClipRelay.Text

/-- The Unicode property White_Space. -/
def isBlank (c : Char) : Bool :=
  let n := c.toNat
  (0x9 ≤ n && n ≤ 0xD) || n == 0x20 || n == 0x85 || n == 0xA0 || n == 0x1680
    || (0x2000 ≤ n && n ≤ 0x200A) || n == 0x2028 || n == 0x2029 || n == 0x202F || n == 0x205F
    || n == 0x3000

/-- Drops from the end while `p` holds. -/
def dropEndWhile (p : Char → Bool) (cs : List Char) : List Char :=
  (cs.reverse.dropWhile p).reverse

def trimStartChars (cs : List Char) : List Char := cs.dropWhile isBlank

def trimChars (cs : List Char) : List Char := dropEndWhile isBlank (trimStartChars cs)

def trim (s : String) : String := String.ofList (trimChars s.toList)

/-- The text without its blank ends, unless nothing is left. -/
def nonBlank? (s : String) : Option String :=
  let t := trim s
  if t = "" then none else some t

end ClipRelay.Text
