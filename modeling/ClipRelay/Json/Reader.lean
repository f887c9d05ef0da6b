import ClipRelay.Json.Numeral
import ClipRelay.Text.Utf8

/-!
# Reading JSON text

Text is read from left to right, and the first problem decides: `malformed` when the text is no
JSON, `mistyped` when it is JSON of another kind than the reader wants. `value` reads any value,
`text`, `real`, `flag`, `word`, `optional`, `listOf` and `record` read values of one kind. A record
is read from an object or from the list of its fields; unknown keys are skipped, and what is skipped
is held to the grammar alone (`skip`): it may be nested without limit, hold unpaired surrogates and
numbers out of range.
-/

namespace ClipRelay.Json.Read

open Text Number

/-- Why a text is not read. -/
inductive Fault
  | malformed
  | mistyped
  deriving DecidableEq

/-- A reader gets the number of brackets that may still be opened, and the text. -/
abbrev Reader := Nat → List Glyph → Except Fault (Json × List Glyph)

/-- How many brackets may be open at once. -/
def maxDepth : Nat := 127

def isJsonBlank (c : Char) : Bool := c = ' ' || c = '\t' || c = '\n' || c = '\r'

def skipBlanks (g : List Glyph) : List Glyph :=
  g.dropWhile fun x => x.any isJsonBlank

/-- The text goes on with this word. -/
def expect (word : String) (g : List Glyph) : Except Fault (List Glyph) :=
  if (glyphsOf word).isPrefixOf g then .ok (g.drop word.length) else .error .malformed

/-! ## Texts -/

def hexValue? (g : Glyph) : Option Nat :=
  match g with
  | some c =>
    if c.isDigit then some (c.toNat - '0'.toNat)
    else if 'a' ≤ c ∧ c ≤ 'f' then some (c.toNat - 'a'.toNat + 10)
    else if 'A' ≤ c ∧ c ≤ 'F' then some (c.toNat - 'A'.toNat + 10)
    else none
  | none => none

/-- A code unit of four hexadecimal digits. -/
def codeUnit? (a b c d : Glyph) : Option Nat := do
  return (((← hexValue? a) * 16 + (← hexValue? b)) * 16 + (← hexValue? c)) * 16 + (← hexValue? d)

/-- The character of a one-letter escape. -/
def escaped? : Char → Option Char
  | '"' => some '"'
  | '\\' => some '\\'
  | '/' => some '/'
  | 'b' => some '\x08'
  | 'f' => some '\x0c'
  | 'n' => some '\n'
  | 'r' => some '\r'
  | 't' => some '\t'
  | _ => none

/-- The characters up to the closing quote. -/
def textBody : List Glyph → Except Fault (List Char × List Glyph)
  | some '"' :: r => .ok ([], r)
  | some '\\' :: some 'u' :: a :: b :: c :: d :: r =>
    match codeUnit? a b c d with
    | none => .error .malformed
    | some u =>
      if 0xDC00 ≤ u ∧ u ≤ 0xDFFF then .error .malformed
      else if 0xD800 ≤ u ∧ u ≤ 0xDBFF then
        match r with
        | some '\\' :: some 'u' :: e :: f :: g :: h :: r' =>
          match codeUnit? e f g h with
          | none => .error .malformed
          | some l =>
            if 0xDC00 ≤ l ∧ l ≤ 0xDFFF then do
              let (cs, rest) ← textBody r'
              return (Char.ofNat (0x10000 + (u - 0xD800) * 0x400 + (l - 0xDC00)) :: cs, rest)
            else .error .malformed
        | _ => .error .malformed
      else do
        let (cs, rest) ← textBody r
        return (Char.ofNat u :: cs, rest)
  | some '\\' :: some e :: r =>
    match escaped? e with
    | none => .error .malformed
    | some c => do
      let (cs, rest) ← textBody r
      return (c :: cs, rest)
  | some c :: r =>
    if c.toNat < 0x20 || c = '\\' then .error .malformed
    else do
      let (cs, rest) ← textBody r
      return (c :: cs, rest)
  | none :: _ => .error .malformed
  | [] => .error .malformed

/-- Skips to the closing quote; bytes that are no characters and any code unit pass. -/
def skipTextBody : List Glyph → Except Fault (List Glyph)
  | some '"' :: r => .ok r
  | some '\\' :: some 'u' :: a :: b :: c :: d :: r =>
    if (codeUnit? a b c d).isSome then skipTextBody r else .error .malformed
  | some '\\' :: some e :: r =>
    if (escaped? e).isSome then skipTextBody r else .error .malformed
  | some c :: r => if c.toNat < 0x20 || c = '\\' then .error .malformed else skipTextBody r
  | none :: r => skipTextBody r
  | [] => .error .malformed

/-! ## Numbers -/

/-- The digits in front. -/
def spanDigits : List Glyph → List Char × List Glyph
  | some c :: r =>
    if c.isDigit then
      let (ds, rest) := spanDigits r
      (c :: ds, rest)
    else ([], some c :: r)
  | r => ([], r)

/-- The whole part: a zero alone, or digits that start with another one. -/
def wholePart (g : List Glyph) : Except Fault (List Char × List Glyph) :=
  match spanDigits g with
  | ([], _) => .error .malformed
  | ('0' :: _ :: _, _) => .error .malformed
  | r => .ok r

/-- A point with digits behind it, or nothing. -/
def fractionPart : List Glyph → Except Fault (List Char × List Glyph)
  | some '.' :: r =>
    match spanDigits r with
    | ([], _) => .error .malformed
    | r => .ok r
  | r => .ok ([], r)

/-- The digits of an exponent. -/
def exponentDigits (negative : Bool) (g : List Glyph) : Except Fault (Option Int × List Glyph) :=
  match spanDigits g with
  | ([], _) => .error .malformed
  | (ds, r) => .ok (some (if negative then -(ofDigits ds : Int) else ofDigits ds), r)

/-- An `e` with an optional sign and digits, or nothing. -/
def exponentPart : List Glyph → Except Fault (Option Int × List Glyph)
  | some c :: r =>
    if c = 'e' || c = 'E' then
      match r with
      | some '-' :: r' => exponentDigits true r'
      | some '+' :: r' => exponentDigits false r'
      | _ => exponentDigits false r
    else .ok (none, some c :: r)
  | r => .ok (none, r)

def numeral (g : List Glyph) : Except Fault (Numeral × List Glyph) := do
  let (negative, g) := match g with
    | some '-' :: r => (true, r)
    | _ => (false, g)
  let (whole, g) ← wholePart g
  let (fraction, g) ← fractionPart g
  let (exponent, g) ← exponentPart g
  return (⟨negative, whole, fraction, exponent⟩, g)

def number (g : List Glyph) : Except Fault (JsonNumber × List Glyph) := do
  let (n, rest) ← numeral g
  match n.number? with
  | some x => return (x, rest)
  | none => .error .malformed

/-- A number starts here. -/
def startsNumber (c : Char) : Bool := c = '-' || c.isDigit

/-! ## Sequences -/

variable {σ : Type}

/-- Goes on behind an item: a comma and the next item, or the closing bracket. The first argument
bounds the number of items. -/
def further (close : Char) (item : σ → List Glyph → Except Fault (σ × List Glyph)) :
    Nat → σ → List Glyph → Except Fault (σ × List Glyph)
  | 0, _, _ => .error .malformed
  | bound + 1, s, g =>
    match skipBlanks g with
    | some c :: r =>
      if c = close then .ok (s, r)
      else if c = ',' then do
        let (s, r) ← item s r
        further close item bound s r
      else .error .malformed
    | _ => .error .malformed

/-- Items with commas between them up to the closing bracket, from behind the opening one. -/
def sequence (close : Char) (item : σ → List Glyph → Except Fault (σ × List Glyph)) (s : σ)
    (g : List Glyph) : Except Fault (σ × List Glyph) :=
  match skipBlanks g with
  | some c :: r =>
    if c = close then .ok (s, r)
    else do
      let (s, r) ← item s g
      further close item g.length s r
  | _ => .error .malformed

/-- A key and the colon behind it. -/
def key (g : List Glyph) : Except Fault (String × List Glyph) :=
  match skipBlanks g with
  | some '"' :: r => do
    let (cs, r) ← textBody r
    match skipBlanks r with
    | some ':' :: r => return (String.ofList cs, r)
    | _ => .error .malformed
  | _ => .error .malformed

/-- Skips a key and the colon behind it. -/
def skipKey (g : List Glyph) : Except Fault (List Glyph) :=
  match skipBlanks g with
  | some '"' :: r => do
    match skipBlanks (← skipTextBody r) with
    | some ':' :: r => return r
    | _ => .error .malformed
  | _ => .error .malformed

/-! ## Any value -/

/-- Any value; of equal keys the last one counts. -/
def value : Reader
  | depth, g =>
    match skipBlanks g with
    | some 'n' :: r => do return (.null, ← expect "ull" r)
    | some 't' :: r => do return (.bool true, ← expect "rue" r)
    | some 'f' :: r => do return (.bool false, ← expect "alse" r)
    | some '"' :: r => do
      let (cs, rest) ← textBody r
      return (.string (String.ofList cs), rest)
    | some '[' :: r =>
      match depth with
      | 0 => .error .malformed
      | depth + 1 => do
        let (items, rest) ← sequence ']' (fun items g => do
          let (v, rest) ← value depth g
          return (v :: items, rest)) [] r
        return (.array items.reverse, rest)
    | some '\x7b' :: r =>
      match depth with
      | 0 => .error .malformed
      | depth + 1 => do
        let (members, rest) ← sequence '\x7d' (fun members g => do
          let (k, r) ← key g
          let (v, rest) ← value depth r
          return (put k v members, rest)) [] r
        return (.object members, rest)
    | some c :: r =>
      if startsNumber c then do
        let (n, rest) ← number (some c :: r)
        return (.number n, rest)
      else .error .malformed
    | _ => .error .malformed

/-- Skips any value. The first argument bounds the open brackets. -/
def skip : Nat → List Glyph → Except Fault (List Glyph)
  | depth, g =>
    match skipBlanks g with
    | some 'n' :: r => expect "ull" r
    | some 't' :: r => expect "rue" r
    | some 'f' :: r => expect "alse" r
    | some '"' :: r => skipTextBody r
    | some '[' :: r =>
      match depth with
      | 0 => .error .malformed
      | depth + 1 => do
        let (_, rest) ← sequence ']' (fun () g => do return ((), ← skip depth g)) () r
        return rest
    | some '\x7b' :: r =>
      match depth with
      | 0 => .error .malformed
      | depth + 1 => do
        let (_, rest) ← sequence '\x7d' (fun () g => do
          return ((), ← skip depth (← skipKey g))) () r
        return rest
    | some c :: r => if startsNumber c then do return (← numeral (some c :: r)).2 else .error .malformed
    | _ => .error .malformed

/-- Skips any value, however deeply nested. -/
def skipAny (g : List Glyph) : Except Fault (List Glyph) := skip g.length g

/-! ## Values of one kind -/

/-- What is wrong with a value that is not of the wanted kind: nothing but its kind, unless its
first token is malformed. -/
def mismatch (g : List Glyph) : Fault :=
  let seen : Except Fault Unit :=
    match g with
    | some '[' :: _ => .ok ()
    | some '\x7b' :: _ => .ok ()
    | some 'n' :: r => do discard (expect "ull" r)
    | some 't' :: r => do discard (expect "rue" r)
    | some 'f' :: r => do discard (expect "alse" r)
    | some '"' :: r => do discard (textBody r)
    | some c :: r => if startsNumber c then do discard (number (some c :: r)) else .error .malformed
    | _ => .error .malformed
  match seen with
  | .ok () => .mistyped
  | .error e => e

def text : Reader := fun _ g =>
  match skipBlanks g with
  | some '"' :: r => do
    let (cs, rest) ← textBody r
    return (.string (String.ofList cs), rest)
  | r => .error (mismatch r)

/-- A number of any form, as a double. -/
def real : Reader := fun _ g =>
  match skipBlanks g with
  | some c :: r =>
    if startsNumber c then do
      let (n, rest) ← number (some c :: r)
      return (.ofDouble n.toDouble, rest)
    else .error (mismatch (some c :: r))
  | r => .error (mismatch r)

def flag : Reader := fun _ g =>
  match skipBlanks g with
  | some 't' :: r => do return (.bool true, ← expect "rue" r)
  | some 'f' :: r => do return (.bool false, ← expect "alse" r)
  | r => .error (mismatch r)

/-- `null`, or what the reader reads. -/
def optional (inner : Reader) : Reader := fun depth g =>
  match skipBlanks g with
  | some 'n' :: r => do return (.null, ← expect "ull" r)
  | _ => inner depth g

/-- One of a list of names, as a text or as the only key of an object that maps it to `null`. -/
def word (names : List String) : Reader := fun depth g =>
  let known (v : Json) : Except Fault Unit :=
    if v.asText?.any names.contains then .ok () else .error .mistyped
  match skipBlanks g with
  | some '"' :: _ => do
    let (v, rest) ← text depth g
    known v
    return (v, rest)
  | some '\x7b' :: r =>
    match depth with
    | 0 => .error .malformed
    | depth + 1 => do
      let (v, r) ← text depth r
      known v
      match skipBlanks r with
      | some ':' :: r =>
        match skipBlanks r with
        | some 'n' :: r =>
          let r ← expect "ull" r
          match skipBlanks r with
          | some '\x7d' :: rest => return (v, rest)
          | _ => .error .malformed
        | r => .error (mismatch r)
      | _ => .error .malformed
  | _ => .error .malformed

/-- A list of values of one kind. -/
def listOf (inner : Reader) : Reader := fun depth g =>
  match skipBlanks g with
  | some '[' :: r =>
    match depth with
    | 0 => .error .malformed
    | depth + 1 => do
      let (items, rest) ← sequence ']' (fun items g => do
        let (v, rest) ← inner depth g
        return (v :: items, rest)) [] r
      return (.array items.reverse, rest)
  | r => .error (mismatch r)

/-! ## Records -/

/-- A field of a record: its key, how its value is read, what it is when the key is missing from
an object, and what it is when a list ends before it. -/
structure Field where
  name : String
  read : Reader
  missing : Option Json
  short : Option Json

namespace Field

/-- A field that must be there. -/
def required (name : String) (read : Reader) : Field := ⟨name, read, none, none⟩

/-- A field that may be `null` or missing from an object. -/
def nullable (name : String) (read : Reader) : Field := ⟨name, optional read, some .null, none⟩

/-- A field that may be `null` or missing. -/
def omittable (name : String) (read : Reader) : Field :=
  ⟨name, optional read, some .null, some .null⟩

/-- A field that may be missing, with a value for that case. -/
def defaulted (name : String) (read : Reader) (fallback : Json) : Field :=
  ⟨name, read, some fallback, some fallback⟩

end Field

/-- The fields met so far with their values. -/
abbrev Slots := List (String × Json)

/-- One member of a record. A field that comes again is refused before its value is read. -/
def member (fields : List Field) (depth : Nat) (slots : Slots) (g : List Glyph) :
    Except Fault (Slots × List Glyph) :=
  match skipBlanks g with
  | some '"' :: r => do
    let (cs, r) ← textBody r
    let name := String.ofList cs
    match fields.find? (·.name == name) with
    | some f =>
      if (slots.lookup name).isSome then .error .mistyped
      else match skipBlanks r with
        | some ':' :: r =>
          let (v, rest) ← f.read depth r
          return ((name, v) :: slots, rest)
        | _ => .error .malformed
    | none =>
      match skipBlanks r with
      | some ':' :: r => return (slots, ← skipAny r)
      | _ => .error .malformed
  | _ => .error .malformed

/-- The values of the fields in their order, from what an object held. -/
def fill (fields : List Field) (slots : Slots) : Except Fault (List Json) :=
  fields.mapM fun f =>
    match slots.lookup f.name <|> f.missing with
    | some v => .ok v
    | none => .error .mistyped

/-- The values of fields from a list, from behind its opening bracket or, unless `first`, behind an
item; the list may end before fields that say what they are then. -/
def listed (depth : Nat) : Bool → List Field → List Glyph → Except Fault (List Json × List Glyph)
  | _, [], g =>
    match skipBlanks g with
    | some ']' :: rest => .ok ([], rest)
    | _ => .error .malformed
  | first, f :: fields, g =>
    match skipBlanks g with
    | some ']' :: _ =>
      match f.short with
      | some v => do
        let (vs, rest) ← listed depth first fields g
        return (v :: vs, rest)
      | none => .error .mistyped
    | some c :: r =>
      if first then do
        let (v, r) ← f.read depth g
        let (vs, rest) ← listed depth false fields r
        return (v :: vs, rest)
      else if c = ',' then do
        let (v, r) ← f.read depth r
        let (vs, rest) ← listed depth false fields r
        return (v :: vs, rest)
      else .error .malformed
    | _ => .error .malformed

/-- The values of a record's fields in their order. -/
def slotsOf (fields : List Field) (depth : Nat) (g : List Glyph) :
    Except Fault (List Json × List Glyph) :=
  match skipBlanks g with
  | some '[' :: r =>
    match depth with
    | 0 => .error .malformed
    | depth + 1 => listed depth true fields r
  | some '\x7b' :: r =>
    match depth with
    | 0 => .error .malformed
    | depth + 1 => do
      let (slots, rest) ← sequence '\x7d' (member fields depth) [] r
      return (← fill fields slots, rest)
  | r => .error (mismatch r)

/-- A record as the list of its fields' values. -/
def record (fields : List Field) : Reader := fun depth g => do
  let (vs, rest) ← slotsOf fields depth g
  return (.array vs, rest)

/-! ## Whole texts -/

/-- Reads a whole text: nothing but blanks may follow the value. -/
def readAll (read : Reader) (g : List Glyph) : Except Fault Json := do
  let (v, rest) ← read maxDepth g
  if (skipBlanks rest).isEmpty then return v else .error .malformed

/-- The value that a text stands for. -/
def ofText (s : String) : Except Fault Json := readAll value (glyphsOf s)

end ClipRelay.Json.Read
