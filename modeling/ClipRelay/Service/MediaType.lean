import ClipRelay.Text.Case
import ClipRelay.Text.Search

/-!
# Media types

A media type is a type and a subtype, which may end in a suffix behind a plus sign, and parameters.
A body is JSON when its type is `application` and its subtype or its suffix is `json`, in any case;
a media type that is not well formed is none.
-/

namespace ClipRelay

open Text

structure MediaType where
  kind : String
  subtype : String
  suffix : Option String
  deriving DecidableEq

namespace MediaType

/-- A character that a name may hold. -/
def isNameChar (c : Char) : Bool :=
  c.isAlphanum || "!#$%&'*+-.^_|~\x60".toList.contains c

/-- A character between the quotes of a parameter's value. -/
def isQuotedChar (c : Char) : Bool := 0x1F < c.toNat && c.toNat != 0x7F

/-- What follows the closing quote of a value: the next parameter, or nothing. -/
def afterQuote? (cs : List Char) : Option (List Char) :=
  match cs.dropWhile (· == ' ') with
  | [] => some []
  | ';' :: cs => some cs
  | _ => none

/-- The value of a parameter, and what follows it. -/
def afterValue? (cs : List Char) : Option (List Char) :=
  match cs with
  | '"' :: cs =>
    let value := cs.takeWhile fun c => c != '"' && isQuotedChar c
    match cs.dropWhile fun c => c != '"' && isQuotedChar c with
    | '"' :: cs => if value.isEmpty then none else afterQuote? cs
    | _ => none
  | cs =>
    match cs.dropWhile isNameChar with
    | [] => some []
    | ';' :: rest => if isNameChar (cs.headD ';') then some rest else none
    | _ => none

/-- The parameters are well formed. The first argument bounds their number. -/
def paramsFit : Nat → List Char → Bool
  | 0, cs => cs.isEmpty
  | bound + 1, cs =>
    let cs := cs.dropWhile (· == ' ')
    if cs.isEmpty then true
    else match cs.dropWhile isNameChar with
      | '=' :: value =>
        isNameChar (cs.headD '=') && match afterValue? value with
          | some rest => paramsFit bound rest
          | none => false
      | _ => false

/-- The media type that a text stands for. -/
def ofText? (s : String) : Option MediaType := do
  let (kind, rest) ← cutAt? '/' s.toList
  let name := rest.takeWhile isNameChar
  let params := rest.dropWhile isNameChar
  if kind.isEmpty || !kind.all isNameChar || name.isEmpty then none
  else if !(params.isEmpty || ((params.head? == some ';' || params.head? == some ' ')
      && paramsFit params.length params.tail)) then none
  else
    let name := name.map Char.toLower
    let kind := asciiLower (String.ofList kind)
    match cutAt? '+' name.reverse with
    | some (after, before) =>
      if before.isEmpty then return ⟨kind, String.ofList name, none⟩
      else return ⟨kind, String.ofList before.reverse, some (String.ofList after.reverse)⟩
    | none => return ⟨kind, String.ofList name, none⟩

def isJson (t : MediaType) : Bool :=
  t.kind == "application" && (t.subtype == "json" || t.suffix == some "json")

end MediaType

end ClipRelay
