import ClipRelay.Proofs.Relay.Stream
import ClipRelay.Proofs.Text.Excerpt
import ClipRelay.Proofs.Worker.Faults
import ClipRelay.Proofs.Worker.Stop

/-!
# Where the details of a failure come from

The details of a failure of the worker are cut from a text that the worker has sent (`Network.Tells`):
the body of a reply, or the value in it where a report was expected. All replies are in the queues of
servers from the beginning, so a text that is heard after many requests could have been heard before
them (`Listens`).

* `Listens.attempt`: one request.
* `Network.Faults.quoted`: the failures of the single steps of a job.
* `Job.quoted_follow`: so those of a job that is followed, after any number of polls.
* `Relay.quoted_run`: and those at the end of a stream.
-/

namespace ClipRelay

open Text

/-! ## What can be heard -/

namespace Network

variable {n : Network} {r : Request} {reply : Reply}

theorem mem_of_mem_advance {answer : Answer} {answers : List Answer}
    (h : answer ∈ Server.advance answers) : answer ∈ answers := by
  unfold Server.advance at h
  split at h
  · exact h
  · exact h
  · exact List.mem_cons_of_mem _ h

/-- A delivery puts nothing into the queues. -/
theorem gives_of_gives_deliver (h : (n.deliver r).2.Gives reply) : n.Gives reply := by
  unfold deliver at h
  cases hs : n.serverFor? r with
  | none => rwa [hs] at h
  | some heard =>
    rw [hs] at h
    obtain ⟨_, hafter, hreply⟩ := h
    obtain ⟨s, hs, rfl⟩ := List.mem_map.1 hafter
    refine ⟨s, hs, ?_⟩
    split at hreply
    · refine hreply.imp_right ?_
      rintro ⟨q, hq, hmem⟩
      obtain ⟨⟨line, answers⟩, hold, rfl⟩ := List.mem_map.1 hq
      refine ⟨(line, answers), hold, ?_⟩
      dsimp only at hmem
      split at hmem
      · exact mem_of_mem_advance hmem
      · exact hmem
    · exact hreply

end Network

/-- The texts of the replies that servers have to give. -/
def Network.Tells (n : Network) (text : String) : Prop := ∃ reply, n.Gives reply ∧ reply.Tells text

/-- Nothing can be heard after an action that could not be heard before it. -/
def Listens {α : Type} (a : Action α) : Prop :=
  ∀ (w : World) (reply : Reply), (a.run w).2.network.Gives reply → w.network.Gives reply

namespace Listens

theorem exchange (r : Request) (patience : Nat) : Listens (World.exchange r patience) := by
  intro w reply h
  refine Network.gives_of_gives_deliver (r := r) ?_
  unfold World.exchange at h
  simp only [Action.run_bind, Action.run_get] at h
  cases hd : (w.network.deliver r).1 <;> rw [hd] at h <;> exact h

theorem attempt (request : Except WorkerFault Request) (patience : Nat) :
    Listens (Client.attempt request patience) := by
  cases request with
  | error f => exact fun _ _ h => h
  | ok r =>
    intro w reply h
    cases hbroken : r.isBroken with
    | true =>
      rw [Client.attempt_of_broken hbroken] at h
      exact h
    | false =>
      rw [Client.attempt_of_sound hbroken] at h
      exact exchange r patience w reply h

end Listens

/-! ## What a failure quotes -/

/-- The details, if there are any, are cut from a text with a property. -/
def Quoted (P : String → Prop) (details : Option String) : Prop :=
  ∀ d, details = some d → ∃ text, P text ∧ d = excerpt text

namespace Quoted

variable {P Q : String → Prop} {details : Option String}

theorem none : Quoted P none := nofun

theorem mono (h : Quoted P details) (hPQ : ∀ text, P text → Q text) : Quoted Q details := fun d hd =>
  let ⟨text, htext, heq⟩ := h d hd
  ⟨text, hPQ text htext, heq⟩

/-- Details that are cut once more stay what they are. -/
theorem map_excerpt (h : Quoted P details) : details.map excerpt = details := by
  cases details with
  | none => rfl
  | some d =>
    obtain ⟨text, -, rfl⟩ := h d rfl
    exact congrArg some (excerpt_excerpt text)

theorem again (h : Quoted P details) : Quoted P (details.map excerpt) := h.map_excerpt.symm ▸ h

end Quoted

namespace WorkerFault

variable {P : String → Prop} {f : WorkerFault} {body : String}

/-- A body that is kept is cut when it is shown. -/
theorem quoted_of_body (hbody : f.body? = some body) (h : P body) : Quoted P f.details := fun d hd => by
  rw [details, hbody] at hd
  obtain ⟨text, htext, rfl⟩ := Option.map_eq_some_iff.1 hd
  obtain rfl := Option.some.inj (Option.filter_eq_some_iff.1 htext).1
  exact ⟨body, h, rfl⟩

/-- A warning page is cut when it is kept, and cut again when it is shown. -/
theorem quoted_ofBody (h : P body) : Quoted P (ofBody body).details := by
  unfold ofBody
  split
  · intro d hd
    obtain ⟨_, rfl, heq⟩ := quoted_of_body (P := (· = excerpt body)) rfl rfl d hd
    exact ⟨body, h, heq.trans (excerpt_excerpt body)⟩
  · exact .none

end WorkerFault

theorem Reply.Faults.quoted {r : Reply} {f : WorkerFault} (h : r.Faults f) :
    Quoted r.Tells f.details := by
  cases h with
  | unread f => exact .none
  | refused => exact WorkerFault.quoted_of_body rfl .body
  | untold => exact WorkerFault.quoted_of_body rfl .body
  | unparsed htext => exact WorkerFault.quoted_ofBody htext
  | unnamed => exact .none

/-- Only what is wrong with a reply is quoted. -/
theorem Network.Faults.quoted {n : Network} {f : WorkerFault} (h : n.Faults f) :
    Quoted n.Tells f.details := by
  cases h with
  | refused h =>
    rw [h.details]
    exact .none
  | unanswered f => exact .none
  | @answered reply _ hgives h => exact h.quoted.mono fun text htext => ⟨reply, hgives, htext⟩

/-! ## Steps -/

namespace Client

theorem listens_start (settings : WorkerSettings) (e : Endpoint) (s : Submission) :
    Listens (start settings e s) := fun w reply h => by
  rw [start_run] at h
  exact Listens.attempt _ _ w reply h

theorem listens_poll (settings : WorkerSettings) (e : Endpoint) (job : String) :
    Listens (poll settings e job) := fun w reply h => by
  rw [poll_run] at h
  exact Listens.attempt _ _ w reply h

end Client

/-! ## Jobs -/

namespace Job

variable (settings : WorkerSettings) (e : Endpoint) (job : String) (hint : Option String)
  (s : Submission) (w : World)

theorem quoted_check : Quoted w.network.Tells ((check settings e job hint).run w).1.details := by
  rw [check, Action.run_bind]
  cases hpoll : ((Client.poll settings e job).run w).1 with
  | ok report => exact (Finding.settle_fields ..).2.symm ▸ .none
  | error f => exact (Client.faults_poll hpoll).quoted.again

/-- Whatever is heard after some polls could have been heard before them. -/
theorem gives_of_before (began i : Nat) {reply : Reply}
    (h : ((follower settings e job hint began).before w i).network.Gives reply) :
    w.network.Gives reply := by
  induction i with
  | zero => exact h
  | succ i ih =>
    have hpoll := Client.listens_poll settings e job
      ((follower settings e job hint began).before w i) reply
    rw [← follower_poll settings e hint began] at hpoll
    rw [Follower.before, Follower.next] at h
    generalize ((follower settings e job hint began).poll.run _).2 = v at h hpoll
    exact ih (hpoll h)

theorem quoted_follow : Quoted w.network.Tells ((follow settings e job hint).run w).1.details := by
  let x := follower settings e job hint w.clock
  obtain ⟨i, hstop, first⟩ := exists_first_stop settings e job hint w
  obtain ⟨result, hresult⟩ := x.exists_comesTo (rulesOf settings) w hstop
  have hrun : (follow settings e job hint).run w = (x.conclude result).run (x.after w i) :=
    x.run_of_comesTo (rulesOf settings) w first hresult _
  rw [hrun]
  cases hresult with
  | ended => exact (Finding.settle_fields ..).2.symm ▸ .none
  | @failed f houtcome =>
    have hpoll : ((Client.poll settings e job).run (x.before w i)).1 = .error f := houtcome
    refine ((Client.faults_poll hpoll).quoted.mono ?_).again
    rintro text ⟨reply, hgives, htext⟩
    exact ⟨reply, gives_of_before settings e job hint w _ i hgives, htext⟩
  | late => exact .none

theorem quoted_process : Quoted w.network.Tells ((process settings e s).run w).1.details := by
  rw [process, Action.run_bind]
  cases hstart : ((Client.start settings e s).run w).1 with
  | error f => exact (Client.faults_start hstart).quoted.again
  | ok started =>
    refine (quoted_follow settings e started.id s.hint? _).mono ?_
    rintro text ⟨reply, hgives, htext⟩
    exact ⟨reply, Client.listens_start settings e s w reply hgives, htext⟩

end Job

/-! ## Streams -/

/-- The details of an event of this side. -/
def Event.details? : Event → Option String
  | error _ _ details => details
  | _ => none

namespace Relay

variable {settings : WorkerSettings} {e : Endpoint} {s : Submission} {w : World}

theorem faults_connect {f : WorkerFault} (h : ((connect settings e s).run w).1 = .error f) :
    w.network.Faults f := by
  rw [connect_run] at h
  refine Client.faults_attempt (fun _ => Client.faults_sendOf) (fun reply f' hstream => ?_) h
  unfold streamOf at hstream
  split at hstream
  · cases hstream
    exact .refused
  · split at hstream
    · obtain rfl := Except.error.inj hstream
      exact .unparsed .body
    · cases hstream

theorem details?_of_ending {events : List Json} {whole : Bool} {event : Event}
    (h : ((firstEnd? events).map Ending.ofEvent).getD (Ending.missing whole) = .finish event) :
    event.details? = none := by
  cases hf : firstEnd? events with
  | none =>
    rw [hf] at h
    cases h
    cases whole <;> rfl
  | some v =>
    rw [hf, Option.map_some, Option.getD_some] at h
    unfold Ending.ofEvent at h
    split at h
    · cases h
    · cases h
      rfl
    · cases h
      rfl

theorem details?_conclude (artifact : ArtifactRef) (job : Option String) (w : World) :
    ((conclude settings e s artifact job).run w).1.details? = none := by
  rw [conclude_eq]
  rcases hd : (Download.run settings e artifact job s.hint?).run w with ⟨f | a, w'⟩
  · obtain ⟨reason, rfl⟩ := Download.run_error hd
    rfl
  · rfl

/-- Only a stream that the worker refuses has an event with details. -/
theorem quoted_run (settings : WorkerSettings) (e : Endpoint) (s : Submission) (w : World) :
    ∀ event ∈ ((run settings e s).run w).1, Quoted w.network.Tells event.details? := by
  have hpassed : ∀ {events event}, event ∈ passed events → event.details? = none := by
    intro events event hmem
    obtain ⟨v, -, rfl⟩ := List.mem_map.1 hmem
    rfl
  rcases hc : (connect settings e s).run w with ⟨f | reply, w₁⟩
  · rw [run_of_refusal settings e s hc]
    simp only [List.mem_singleton, forall_eq]
    split
    · exact .none
    · exact (faults_connect (congrArg Prod.fst hc)).quoted.again
  · intro event hmem
    suffices hnone : event.details? = none by
      rw [hnone]
      exact .none
    rw [run_of_connect settings e s hc] at hmem
    dsimp only at hmem
    split at hmem
    · rename_i last hending
      rcases List.mem_append.1 hmem with hmem | hmem
      · exact hpassed hmem
      · rw [List.mem_singleton.1 hmem]
        split
        · rfl
        · exact details?_of_ending hending
    · rcases List.mem_append.1 hmem with hmem | hmem
      · exact hpassed hmem
      · rcases List.mem_cons.1 hmem with hmem | hmem
        · rw [hmem]
          rfl
        · rw [List.mem_singleton.1 hmem]
          split
          · rfl
          · exact details?_conclude _ _ _

end Relay

end ClipRelay
