import ClipRelay.Http.Fault
import ClipRelay.Text.Utf8
import ClipRelay.Url.Basic

/-!
# Requests, answers and the network

A network is what stands behind the addresses: servers, each of which answers every target with the
answers of its queue in turn and the last one for ever, and the requests that they have received. A
target without a queue is not found. Where no server listens, nobody answers, and neither does a server
whose certificate does not pass the check of the client.
-/

namespace ClipRelay

open Text

/-! ## Requests -/

inductive Method
  | get
  | post
  deriving DecidableEq

def Method.name : Method → String
  | get => "GET"
  | post => "POST"

/-- The form of an upload: a file and the prompt. -/
structure Upload where
  fileName : String
  mediaType : String
  content : Bytes
  prompt : String
  deriving DecidableEq

/-- What a client sends with every request to an endpoint. -/
structure HttpClient where
  userAgent : String
  headers : List (String × String)
  /-- The certificate of the host is checked. -/
  verifiesTls : Bool
  deriving DecidableEq

/-- A character that may stand in a header. -/
def isHeaderChar (c : Char) : Bool := (0x20 ≤ c.toNat && c.toNat != 0x7F) || c = '\t'

/-- The client for a user agent, headers and a policy, unless the user agent is no header. -/
def HttpClient.make (userAgent : String) (headers : List (String × String)) (verifiesTls : Bool) :
    Except HttpFault HttpClient :=
  if userAgent.toList.all isHeaderChar then .ok ⟨userAgent, headers, verifiesTls⟩
  else .error (.unusable none)

structure Request where
  client : HttpClient
  method : Method
  url : Url
  /-- The content types that are accepted. -/
  accept : String
  upload : Option Upload

/-- The content types that are accepted unless a request says otherwise. -/
def acceptAll : String := "*/*"

def Request.target (r : Request) : String := r.url.target

/-- The line of a request by which a server finds the answer. -/
def Request.line (r : Request) : String := r.method.name ++ " " ++ r.target

/-- The address of a request, if a request to it can be made. -/
def requestable (address : String) : Except HttpFault Url :=
  match Url.ofText? address with
  | none => .error (.unusable none)
  | some url => if url.isRequestable then .ok url else .error (.unusable (some url.text))

/-! ## Replies -/

structure Reply where
  status : Nat
  contentType : Option String
  /-- The body in the pieces in which it arrives. -/
  chunks : List Bytes
  /-- The body arrives up to its announced end. -/
  whole : Bool
  deriving DecidableEq

namespace Reply

/-- The answer to a target that is not known. -/
def notFound : Reply := ⟨404, none, [], true⟩

def isSuccess (r : Reply) : Bool := 200 ≤ r.status && r.status < 300

/-- A visible character of ASCII, or a tab. -/
def isPlainChar (c : Char) : Bool := (0x20 ≤ c.toNat && c.toNat < 0x7F) || c = '\t'

def isHtml (r : Reply) : Bool :=
  r.contentType.any fun t => t.toList.all isPlainChar && startsWith (asciiLower t) "text/html"

/-- The body as text, if it arrives whole. -/
def text (r : Reply) : Except HttpFault String :=
  if r.whole then .ok (lossy r.chunks.flatten) else .error .broken

/-- The body as text, nothing if it breaks off. -/
def textOrEmpty (r : Reply) : String :=
  match r.text with
  | .ok s => s
  | .error _ => ""

end Reply

/-! ## Servers -/

inductive Answer
  | reply (r : Reply)
  /-- The connection is closed without an answer. -/
  | close
  /-- Nothing comes, ever. -/
  | silence
  deriving DecidableEq

structure Server where
  /-- How it listens. -/
  scheme : Scheme
  /-- Host and port where it listens. -/
  authority : String
  /-- Its certificate passes a check. -/
  trusted : Bool
  /-- The answers to come, by request line. -/
  queues : List (String × List Answer)

namespace Server

/-- A queue without its first answer; the last one stays. -/
def advance : List Answer → List Answer
  | [] => []
  | [a] => [a]
  | _ :: rest => rest

/-- The next answer to a request line. -/
def next (s : Server) (line : String) : Answer :=
  ((s.queues.lookup line).bind List.head?).getD (.reply .notFound)

/-- The server after an answer to a request line. -/
def after (s : Server) (line : String) : Server :=
  { s with queues := s.queues.map fun (l, as) => (l, if l == line then advance as else as) }

/-- A request reaches the server: its address leads there, and the client accepts the certificate. -/
def hears (s : Server) (r : Request) : Bool :=
  r.url.scheme = s.scheme && r.url.authority == s.authority &&
    (s.scheme = .http || s.trusted || !r.client.verifiesTls)

end Server

structure Network where
  servers : List Server
  /-- What the servers have received, the first request first. -/
  received : List Request

namespace Network

/-- A network where nobody listens. -/
def silent : Network := ⟨[], []⟩

/-- A network with one server, which listens over plain HTTP. -/
def single (authority : String) (queues : List (String × List Answer)) : Network :=
  ⟨[⟨.http, authority, false, queues⟩], []⟩

/-- The server that a request reaches. -/
def serverFor? (n : Network) (r : Request) : Option Server := n.servers.find? (·.hears r)

/-- What comes back for a request, and the network after it. -/
def deliver (n : Network) (r : Request) : Answer × Network :=
  match n.serverFor? r with
  | none => (.close, n)
  | some s => (s.next r.line,
    ⟨n.servers.map fun s => if s.hears r then s.after r.line else s, n.received ++ [r]⟩)

end Network

end ClipRelay
