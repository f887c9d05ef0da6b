import ClipRelay.Clip.Tools
import ClipRelay.Disk
import ClipRelay.Http.Network

/-!
# The world around the library

All that the library acts on: files, a network, the media tools, a clock, and a source of random
names. An `Action` is a step of work in a world. The clock counts microseconds and moves when the
library waits; an exchange takes at least one.
-/

namespace ClipRelay

structure World where
  disk : Disk
  network : Network
  tools : Toolbox
  /-- The calls of the encoder in place of the tools, the first one first. -/
  rehearsed : List EncoderCall
  /-- Microseconds. -/
  clock : Nat
  /-- How many random names have been drawn. -/
  drawn : Nat
  /-- The requests that have been sent, answered or not, the first one first. -/
  sent : List Request := []

/-- A step of work in a world. -/
abbrev Action := StateM World

theorem Action.run_bind {α β : Type} (a : Action α) (f : α → Action β) (w : World) :
    (a >>= f).run w = (f (a.run w).1).run (a.run w).2 := rfl

theorem Action.run_get (w : World) : (get : Action World).run w = (w, w) := rfl

/-- A run that comes to this ends in the world that it leaves. -/
theorem Action.run_of_fst {α : Type} {a : Action α} {w : World} {result : α}
    (h : (a.run w).1 = result) : a.run w = (result, (a.run w).2) := by
  subst h
  rfl

namespace World

/-- The microseconds of a millisecond. -/
def perMilli : Nat := 1000

/-- How long an exchange takes at least, in microseconds. -/
def exchangeTime : Nat := 1

/-- The length of a random name. -/
def tokenLength : Nat := 32

/-- The random name that is drawn after `n` others, in hexadecimal. -/
def tokenOf (n : Nat) : String :=
  let ds := Nat.toDigits 16 n
  String.ofList (List.replicate (tokenLength - ds.length) '0' ++ ds)

/-- Draws a random name that has not been drawn before. -/
def draw : Action String := modifyGet fun w => (tokenOf w.drawn, { w with drawn := w.drawn + 1 })

/-- Lets time pass. -/
def wait (micros : Nat) : Action Unit := modify fun w => { w with clock := w.clock + micros }

/-- Sends a request and waits for the reply, at most for so many milliseconds. -/
def exchange (r : Request) (patience : Nat) : Action (Except HttpFault Reply) := do
  let (answer, network) := (← get).network.deliver r
  modify fun w => { w with network, sent := w.sent ++ [r] }
  wait exchangeTime
  match answer with
  | .reply reply => return .ok reply
  | .close => return .error (.unanswered r.url.text)
  | .silence =>
    wait (patience * perMilli)
    return .error (.unanswered r.url.text)

/-- An exchange takes time. -/
theorem clock_lt_exchange (r : Request) (patience : Nat) (w : World) :
    w.clock < ((exchange r patience).run w).2.clock := by
  unfold exchange
  simp only [StateT.run_bind, StateT.run_get, wait, StateT.run_modify, pure_bind, exchangeTime]
  split
  · exact Nat.lt_add_one _
  · exact Nat.lt_add_one _
  · exact Nat.lt_of_lt_of_le (Nat.lt_add_one _) (Nat.le_add_right _ _)

/-- Requests an address with no form. -/
def ask (client : HttpClient) (address : String) (patience : Nat) :
    Action (Except HttpFault Reply) := do
  match requestable address with
  | .error e => return .error e
  | .ok url => exchange ⟨client, .get, url, acceptAll, none⟩ patience

/-- A request that cannot be made fails in every world and changes nothing; any other takes time. -/
theorem ask_fails_or_advances (client : HttpClient) (address : String) (patience : Nat) :
    (∃ f, ∀ w, (ask client address patience).run w = (.error f, w)) ∨
      ∀ w : World, w.clock < ((ask client address patience).run w).2.clock := by
  unfold ask
  cases requestable address with
  | error f => exact .inl ⟨f, fun _ => rfl⟩
  | ok url => exact .inr fun w => clock_lt_exchange _ _ w

/-- Sends a form to an address. A form whose file cannot be read breaks the request under way. -/
def submit (client : HttpClient) (address accept : String) (upload : Option Upload)
    (patience : Nat) : Action (Except HttpFault Reply) := do
  match requestable address with
  | .error e => return .error e
  | .ok url =>
    match upload with
    | some upload => exchange ⟨client, .post, url, accept, some upload⟩ patience
    | none =>
      modify fun w => { w with sent := w.sent ++ [⟨client, .post, url, accept, none⟩] }
      return .error (.unanswered url.text)

end World

end ClipRelay
