import ClipRelay.Proofs.Worker.Requests
import ClipRelay.Worker.Client

/-!
# What the work with the worker fails with

A step of the work fails in one of three ways (`Network.Faults`): this side refuses what it is asked for
(`WorkerFault.IsRefusal`), no reply comes, or something is wrong with the reply (`Reply.Faults`), which
a server had to give (`Network.Gives`).

* `Submission.isRefusal_prepare`, `Endpoint.isRefusal_ofText`, `Client.isRefusal_formOf`: the checks.
* `Client.faults_startedOf`, `Client.faults_reportOf`: the readers of a reply.
* `Network.Faults.code_ne`: none of them fails as a download does.
-/

namespace ClipRelay

open Text

variable {settings : WorkerSettings} {e : Endpoint} {s : Submission} {w : World} {d : Disk}
  {f : WorkerFault} {r : Reply}

/-! ## Refusals -/

/-- What is asked for is refused: the request is wrong, or its file cannot be used. -/
inductive WorkerFault.IsRefusal : WorkerFault → Prop
  | request (reason : String) : IsRefusal (.invalidRequest reason)
  | missing (path : String) : IsRefusal (.fileNotFound path)
  | unusable (path reason : String) : IsRefusal (.fileAccess path reason)

namespace WorkerFault.IsRefusal

theorem details (h : f.IsRefusal) : f.details = none := by
  cases h <;> rfl

theorem code_ne (h : f.IsRefusal) : f.code ≠ .downloadFailed := by
  intro hcode
  cases h <;> cases hcode

end WorkerFault.IsRefusal

namespace Submission

theorem isRefusal_refusal (path : String) (fault : IoFault) : (refusal path fault).IsRefusal := by
  cases fault with
  | notFound => exact .missing path
  | _ => exact .unusable path _

theorem isRefusal_checkFile {path : String} (h : checkFile d path = .error f) : f.IsRefusal := by
  unfold checkFile at h
  split at h
  · cases h
  · cases h
    exact .unusable _ _
  · cases h
    exact isRefusal_refusal _ _

theorem isRefusal_prepare {file prompt : String} {start stop : Option Double}
    (h : prepare d file prompt start stop = .error f) : f.IsRefusal := by
  unfold prepare at h
  cases hfile : nonBlank? file with
  | none =>
    simp only [hfile] at h
    cases h
    exact .request _
  | some file =>
    simp only [hfile, bind, Except.bind] at h
    cases hcheck : checkFile d file with
    | error fault =>
      simp only [hcheck] at h
      cases h
      exact isRefusal_checkFile hcheck
    | ok _ =>
      cases hprompt : nonBlank? prompt with
      | none =>
        simp only [hcheck, hprompt] at h
        cases h
        exact .request _
      | some prompt =>
        simp only [hcheck, hprompt] at h
        split at h
        · cases h
          exact .request _
        · cases h

end Submission

theorem Endpoint.isRefusal_ofText {text : String} (h : ofText text = .error f) : f.IsRefusal := by
  unfold ofText at h
  simp only at h
  split at h
  · cases h
    exact .request _
  · split at h
    · cases h
      exact .request _
    · split at h <;> cases h

theorem Client.isRefusal_formOf (h : formOf d s = .error f) : f.IsRefusal := by
  unfold formOf at h
  split at h
  · cases h
    exact Submission.isRefusal_refusal _ _
  · cases h
  · cases h

/-! ## Replies -/

/-- The texts of a reply: its body, and the value in it if that is no report. -/
inductive Reply.Tells (r : Reply) : String → Prop
  | body : Tells r r.textOrEmpty
  | value {body : String} {v : Json} : r.text = .ok body → Json.Read.ofText body = .ok v →
    v.isObject = false → Tells r v.compact

/-- What can be wrong with a reply. -/
inductive Reply.Faults (r : Reply) : WorkerFault → Prop
  | unread (f : HttpFault) : Faults r (Client.networkFault f)
  | refused : Faults r (.server r.status r.textOrEmpty)
  | untold : Faults r (.progressCheck r.status r.textOrEmpty)
  | unparsed {text : String} : r.Tells text → Faults r (.ofBody text)
  | unnamed : Faults r .noJobId

theorem WorkerFault.code_ofBody (body : String) :
    (ofBody body).code = .warningPage ∨ (ofBody body).code = .invalidResponse := by
  unfold ofBody
  split
  · exact .inl rfl
  · exact .inr rfl

theorem Reply.Faults.code_ne (h : r.Faults f) :
    f.code ≠ .downloadFailed ∧ f.code ≠ .invalidRequest := by
  cases h with
  | @unparsed text _ =>
    rcases WorkerFault.code_ofBody text with hcode | hcode <;> simp [hcode]
  | _ => simp [WorkerFault.code, Client.networkFault]

namespace Client

theorem tells_of_text {body : String} (h : r.text = .ok body) : r.Tells body := by
  have hbody : r.textOrEmpty = body := by
    rw [Reply.textOrEmpty, h]
  exact hbody ▸ .body

theorem faults_readBody {α : Type} [Wire α] (h : readBody α r = .error f) : r.Faults f := by
  unfold readBody at h
  split at h
  · cases h
    exact .unread _
  · rename_i body hbody
    split at h
    · cases h
    · obtain rfl := Except.error.inj h
      exact .unparsed (tells_of_text hbody)

theorem isObject_of_ofJson?_none {v : Json} (h : Report.ofJson? v = none) : v.isObject = false := by
  unfold Report.ofJson? at h
  split at h
  · cases h
  · rename_i hobject
    exact Bool.eq_false_iff.2 hobject

theorem faults_readReport (h : readReport r = .error f) : r.Faults f := by
  unfold readReport at h
  split at h
  · cases h
    exact .unread _
  · rename_i body hbody
    split at h
    · obtain rfl := Except.error.inj h
      exact .unparsed (tells_of_text hbody)
    · rename_i v hv
      split at h
      · cases h
      · rename_i hnone
        obtain rfl := Except.error.inj h
        exact .unparsed (.value hbody hv (isObject_of_ofJson?_none hnone))

theorem faults_reportOf (h : reportOf r = .error f) : r.Faults f := by
  unfold reportOf at h
  split at h
  · cases h
    exact .untold
  · exact faults_readReport h

theorem faults_startedOf (h : startedOf s r = .error f) : r.Faults f := by
  unfold startedOf at h
  split at h
  · cases h
    exact .refused
  · cases hbody : readBody StartPayload r with
    | error fault =>
      rw [hbody] at h
      cases h
      exact faults_readBody hbody
    | ok payload =>
      rw [hbody] at h
      cases hid : payload.id? with
      | none =>
        simp only [bind, Except.bind, hid] at h
        cases h
        exact .unnamed
      | some id =>
        simp only [bind, Except.bind, hid] at h
        cases h

end Client

/-! ## What servers have to give -/

namespace Network

variable {n : Network} {request : Request}

/-- A server has this reply to give, sooner or later. -/
def Gives (n : Network) (reply : Reply) : Prop :=
  ∃ s ∈ n.servers, reply = .notFound ∨ ∃ q ∈ s.queues, Answer.reply reply ∈ q.2

/-- A reply that is delivered was in a queue of a server. -/
theorem gives_of_deliver (h : (n.deliver request).1 = .reply r) : n.Gives r := by
  unfold deliver at h
  cases hs : n.serverFor? request with
  | none =>
    rw [hs] at h
    cases h
  | some s =>
    simp only [hs, Server.next] at h
    refine ⟨s, List.mem_of_find?_eq_some hs, ?_⟩
    cases hq : (s.queues.lookup request.line).bind List.head? with
    | none =>
      rw [hq] at h
      cases h
      exact .inl rfl
    | some answer =>
      rw [hq, Option.getD_some] at h
      obtain ⟨answers, hlookup, hhead⟩ := Option.bind_eq_some_iff.1 hq
      obtain ⟨before, after, hqueues, -⟩ := List.lookup_eq_some_iff.1 hlookup
      have hmem : (request.line, answers) ∈ s.queues := by
        rw [hqueues]
        exact List.mem_append_right _ List.mem_cons_self
      exact .inr ⟨(request.line, answers), hmem, h ▸ List.mem_of_mem_head? hhead⟩

/-- What a step of the work with the worker fails with. -/
inductive Faults (n : Network) : WorkerFault → Prop
  | refused {f : WorkerFault} : f.IsRefusal → Faults n f
  | unanswered (f : HttpFault) : Faults n (Client.networkFault f)
  | answered {r : Reply} {f : WorkerFault} : n.Gives r → r.Faults f → Faults n f

theorem Faults.code_ne (h : n.Faults f) : f.code ≠ .downloadFailed := by
  cases h with
  | refused h => exact h.code_ne
  | unanswered f => simp [WorkerFault.code, Client.networkFault]
  | answered _ h => exact h.code_ne.1

end Network

end ClipRelay
