import ClipRelay.Http.Network

/-!
# Calls from pages of other origins

The service tells browsers which origins may call it: all of them, or those of a list, which are
compared as they are written. It asks for nothing else: any method and any header may be sent.
-/

namespace ClipRelay.Cors

/-- The header that names the origins that may call. -/
def allowOriginHeader : String := "access-control-allow-origin"

/-- The header of the origin of a page. -/
def originHeader : String := "origin"

/-- What the answer says of origins. -/
def allowOrigin (origins : List String) (origin : Option String) : List (String × String) :=
  if origins.contains "*" then [(allowOriginHeader, "*")]
  else match origin with
    | some o =>
      if (origins.filter (·.toList.all isHeaderChar)).contains o then [(allowOriginHeader, o)] else []
    | none => []

/-- The headers on which the answer depends. -/
def vary : String × String :=
  ("vary", "origin, access-control-request-method, access-control-request-headers")

/-- Headers of every answer. -/
def headers (origins : List String) (origin : Option String) : List (String × String) :=
  allowOrigin origins origin ++ [vary]

/-- Headers of the answer to the question what may be sent. -/
def preflightHeaders (origins : List String) (origin : Option String) : List (String × String) :=
  headers origins origin
    ++ [("access-control-allow-methods", "*"), ("access-control-allow-headers", "*"),
      ("access-control-max-age", "600")]

end ClipRelay.Cors
