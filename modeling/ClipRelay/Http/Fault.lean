/-!
# Why an exchange fails

A request may not be possible at all, may get no answer, or may get an answer that breaks off.
-/

namespace ClipRelay

inductive HttpFault
  /-- The request cannot be made: what it is made of is no header or no address. -/
  | unusable (address : Option String)
  /-- Nobody answered, or not in time. -/
  | unanswered (address : String)
  /-- The answer broke off before its end. -/
  | broken
  deriving DecidableEq

namespace HttpFault

/-- What is said of the address of a request. -/
def about (address : String) : String := " for url (" ++ address ++ ")"

def message : HttpFault → String
  | unusable none => "builder error"
  | unusable (some address) => "builder error" ++ about address
  | unanswered address => "error sending request" ++ about address
  | broken => "error decoding response body"

end HttpFault

end ClipRelay
