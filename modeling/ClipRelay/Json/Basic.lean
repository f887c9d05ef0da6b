import ClipRelay.Number.Decimal

/-!
# JSON values

A number that is written whole and fits 64 bits stays whole; every other number is a double. The
members of an object stand in the order in which they are written: a record keeps the order of its
fields, and a free value, built by `Json.put`, has its keys in increasing order and each once.
-/

namespace ClipRelay

inductive JsonNumber
  | whole (n : Int)
  | real (x : Double)
  deriving DecidableEq

inductive Json
  | null
  | bool (b : Bool)
  | number (n : JsonNumber)
  | string (s : String)
  | array (items : List Json)
  | object (members : List (String × Json))

namespace JsonNumber

/-- The double nearest to a number. -/
def toDouble : JsonNumber → Double
  | .whole n => .ofInt n
  | .real x => x

/-- A whole number has 64 bits, with a sign if it is negative. -/
def FitsWhole (n : Int) : Prop := -0x8000000000000000 ≤ n ∧ n < 0x10000000000000000

instance (n : Int) : Decidable (FitsWhole n) := inferInstanceAs (Decidable (_ ∧ _))

end JsonNumber

namespace Json

instance : Inhabited Json := ⟨.null⟩

/-- A real number as a value. -/
def ofDouble (x : Double) : Json := .number (.real x)

def ofInt (n : Int) : Json := .number (.whole n)

/-- A text, or `null`. -/
def ofText? : Option String → Json
  | some s => .string s
  | none => .null

/-- Adds a member in the place of its key, in increasing order; a key that is there is replaced. -/
def put (key : String) (value : Json) : List (String × Json) → List (String × Json)
  | [] => [(key, value)]
  | (k, v) :: rest =>
    if key = k then (key, value) :: rest
    else if key < k then (key, value) :: (k, v) :: rest
    else (k, v) :: put key value rest

/-- The object of these members, keys in increasing order, the last of equal keys kept. -/
def ofMembers (members : List (String × Json)) : Json :=
  .object (members.foldl (fun ms m => put m.1 m.2 ms) [])

/-- The value of a key. -/
def get? (key : String) : Json → Option Json
  | .object members => members.lookup key
  | _ => none

def isObject : Json → Bool
  | .object _ => true
  | _ => false

def asText? : Json → Option String
  | .string s => some s
  | _ => none

end Json

end ClipRelay
