import ClipRelay.Url.Basic
import ClipRelay.Worker.Fault

/-!
# Endpoints

An endpoint is a worker's base URL with the policy for its host. What the user gives is read
generously (`Endpoint.ofText`): blanks around it and slashes behind it are dropped, a missing scheme
is `https`. The hosts of tunnels are reached over `https` only, without a check of their
certificates, and with a header that skips the tunnel's warning page.
-/

namespace ClipRelay

open Text

/-- A scheme with its separator in front of a text, in any case. -/
def Scheme.leads (s : Scheme) (text : String) : Bool :=
  startsWith (lower text) (s.name ++ "://")

structure Endpoint where
  /-- The base URL, with no slash behind it. -/
  baseUrl : String
  /-- The host is a tunnel. -/
  tunnel : Bool
  deriving DecidableEq

namespace Endpoint

/-- The domains below which tunnels stand. -/
def tunnelDomains : List String :=
  ["ngrok-free.app", "ngrok-free.dev", "ngrok.app", "ngrok.dev", "ngrok.io"]

/-- A host is one of the tunnel domains or stands below one. -/
def isTunnelHost (host : String) : Bool :=
  tunnelDomains.any fun d => host == d || endsWith host ("." ++ d)

/-- The header that skips a tunnel's warning page. -/
def bypassHeader : String × String := ("ngrok-skip-browser-warning", "true")

/-- A text without its first characters. -/
def dropChars (n : Nat) (s : String) : String := String.ofList (s.toList.drop n)

/-- The scheme in front of a text, and the rest. -/
def splitScheme (text : String) : Option Scheme × String :=
  if Scheme.https.leads text then (some .https, dropChars 8 text)
  else if Scheme.http.leads text then (some .http, dropChars 7 text)
  else (none, text)

/-- The text without slashes at its end. -/
def dropSlashes (text : String) : String := String.ofList (dropEndWhile (· == '/') text.toList)

/-- The host of an address without a scheme. -/
def hostOf? (rest : String) : Option String :=
  (Url.ofText? (Scheme.https.name ++ "://" ++ rest)).map fun u => lower (String.ofList u.host.chars)

/-- The endpoint that a user's text stands for. -/
def ofText (text : String) : Except WorkerFault Endpoint :=
  let (scheme, rest) := splitScheme (trim text)
  let rest := dropSlashes rest
  if rest = "" then .error (.invalidRequest "Colab URL is empty")
  else match hostOf? rest with
    | none => .error (.invalidRequest ("Invalid Colab URL: " ++ text))
    | some host =>
      if isTunnelHost host then .ok ⟨Scheme.https.name ++ "://" ++ rest, true⟩
      else .ok ⟨(scheme.getD .https).name ++ "://" ++ rest, false⟩

/-- The certificate of the host is checked. -/
def verifiesTls (e : Endpoint) : Bool := !e.tunnel

/-- Headers that go with every request. -/
def headers (e : Endpoint) : List (String × String) := if e.tunnel then [bypassHeader] else []

/-- The address of a path below the base URL. -/
def address (e : Endpoint) (path : String) : String :=
  e.baseUrl ++ "/" ++ String.ofList (path.toList.dropWhile (· == '/'))

/-- The address of a download: an absolute one stands for itself. -/
def locate (e : Endpoint) (downloadUrl : String) : String :=
  if Scheme.http.leads downloadUrl || Scheme.https.leads downloadUrl then downloadUrl
  else e.address downloadUrl

end Endpoint

end ClipRelay
