/-!
# Searching and cutting texts

A text holds another one when the second is a run of characters of the first.
-/

namespace ClipRelay.Text

/-- `part` stands somewhere in the characters. -/
def holdsChars (part : List Char) : List Char → Bool
  | [] => part.isEmpty
  | c :: cs => part.isPrefixOf (c :: cs) || holdsChars part cs

def holds (text part : String) : Bool := holdsChars part.toList text.toList

def startsWith (text start : String) : Bool := start.toList.isPrefixOf text.toList

def endsWith (text ending : String) : Bool := ending.toList.isSuffixOf text.toList

/-- The pieces between the separators. -/
def splitOnChar (separator : Char) : List Char → List (List Char)
  | [] => [[]]
  | c :: cs =>
    if c = separator then [] :: splitOnChar separator cs
    else match splitOnChar separator cs with
      | piece :: pieces => (c :: piece) :: pieces
      | [] => [[c]]

/-- What stands before and after the first separator. -/
def cutAt? (separator : Char) : List Char → Option (List Char × List Char)
  | [] => none
  | c :: cs =>
    if c = separator then some ([], cs)
    else (cutAt? separator cs).map fun (before, after) => (c :: before, after)

/-- The first `n` characters. -/
def firstChars (n : Nat) (s : String) : String := String.ofList (s.toList.take n)

end ClipRelay.Text
