import ClipRelay.World

/-!
# What an exchange does to the world

An exchange sends its request, touches no file, and brings what the network delivers
(`World.exchange_sent`, `World.exchange_disk`, `World.exchange_reply`).
-/

namespace ClipRelay.World

variable {r : Request} {patience : Nat} {w : World}

theorem exchange_sent (r : Request) (patience : Nat) (w : World) :
    ((exchange r patience).run w).2.sent = w.sent ++ [r] := by
  unfold exchange
  simp only [Action.run_bind, Action.run_get]
  cases (w.network.deliver r).1 <;> rfl

theorem exchange_disk (r : Request) (patience : Nat) (w : World) :
    ((exchange r patience).run w).2.disk = w.disk := by
  unfold exchange
  simp only [Action.run_bind, Action.run_get]
  cases (w.network.deliver r).1 <;> rfl

theorem exchange_reply {reply : Reply} (h : ((exchange r patience).run w).1 = .ok reply) :
    (w.network.deliver r).1 = .reply reply := by
  unfold exchange at h
  simp only [Action.run_bind, Action.run_get] at h
  cases hd : (w.network.deliver r).1 with
  | reply reply' =>
    rw [hd] at h
    cases h
    rfl
  | close =>
    rw [hd] at h
    cases h
  | silence =>
    rw [hd] at h
    cases h

theorem exchange_of_reply {reply : Reply} (h : (w.network.deliver r).1 = .reply reply) :
    ((exchange r patience).run w).1 = .ok reply := by
  unfold exchange
  simp only [Action.run_bind, Action.run_get, h]
  rfl

/-- An exchange brings the same where the request is answered alike. -/
theorem exchange_alike {v : World} (h : (v.network.deliver r).1 = (w.network.deliver r).1)
    (patience : Nat) : ((exchange r patience).run v).1 = ((exchange r patience).run w).1 := by
  unfold exchange
  simp only [Action.run_bind, Action.run_get, h]
  cases (w.network.deliver r).1 <;> rfl

/-- The request for an address with no form, if one can be made. -/
def askOf? (client : HttpClient) (address : String) : Option Request :=
  (requestable address).toOption.map fun url => ⟨client, .get, url, acceptAll, none⟩

end ClipRelay.World
