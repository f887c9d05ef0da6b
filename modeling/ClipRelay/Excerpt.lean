/-!
# Diagnostic texts

Text of others that is shown to a client, a body or the output of a tool, is cut to 500 characters.
-/

namespace ClipRelay

/-- The most characters of foreign text that are shown. -/
def maxExcerpt : Nat := 500

/-- The first 500 characters, followed by three dots if there are more. -/
def excerpt (s : String) : String :=
  if s.length ≤ maxExcerpt then s
  else String.ofList (s.toList.take maxExcerpt) ++ "..."

end ClipRelay
