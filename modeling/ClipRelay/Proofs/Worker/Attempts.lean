import ClipRelay.Proofs.Worker.Faults

/-!
# What a step of the work comes to

A step of the work with the worker decides which request it makes (`Client.sendOf`, `Client.pollOf`),
attempts to send it (`Client.attempt`), and reads the reply. The steps are taken apart here once
(`Client.send_run`, `Client.start_run`, `Client.poll_run`); the files that a step leaves, the requests
that it sends and the failures that it ends in are those of its attempt.

* `Client.attempt_disk`, `Client.attempt_sent`: an attempt touches no file, and sends its request.
* `Client.attempt_of_reply`, `Client.deliver_of_attempt`: it brings what the network delivers.
* `Client.faults_start`, `Client.faults_poll`: what the steps fail with.
-/

namespace ClipRelay

open Text

/-- The request breaks under way: it is to carry a form, and the file of that cannot be read. -/
def Request.isBroken (r : Request) : Bool := r.method = .post && r.upload.isNone

namespace Client

/-! ## Attempts -/

/-- Sends a request, if there is one to send. -/
def attempt (request : Except WorkerFault Request) (patience : Nat) :
    Action (Except WorkerFault Reply) :=
  match request with
  | .error f => return .error f
  | .ok r =>
    if r.isBroken then do
      modify fun w => { w with sent := w.sent ++ [r] }
      return .error (networkFault (.unanswered r.url.text))
    else do
      return (← World.exchange r patience).mapError networkFault

section

variable {request : Except WorkerFault Request} {r : Request} {patience : Nat} {w : World}
  {reply : Reply} {f : WorkerFault}

theorem attempt_of_broken (h : r.isBroken = true) : (attempt (.ok r) patience).run w =
    (.error (networkFault (.unanswered r.url.text)), { w with sent := w.sent ++ [r] }) := by
  rw [attempt, if_pos h]
  rfl

theorem attempt_of_sound (h : r.isBroken = false) : (attempt (.ok r) patience).run w =
    (((World.exchange r patience).run w).1.mapError networkFault,
      ((World.exchange r patience).run w).2) := by
  rw [attempt, if_neg (Bool.eq_false_iff.1 h)]
  rfl

/-- An attempt touches no file. -/
theorem attempt_disk (request : Except WorkerFault Request) (patience : Nat) (w : World) :
    ((attempt request patience).run w).2.disk = w.disk := by
  cases request with
  | error f => rfl
  | ok r =>
    cases h : r.isBroken with
    | true => rw [attempt_of_broken h]
    | false =>
      rw [attempt_of_sound h]
      exact World.exchange_disk r patience w

/-- An attempt sends its request, whatever comes of it. -/
theorem attempt_sent (request : Except WorkerFault Request) (patience : Nat) (w : World) :
    ((attempt request patience).run w).2.sent = w.sent ++ request.toOption.toList := by
  cases request with
  | error f => exact (List.append_nil _).symm
  | ok r =>
    cases h : r.isBroken with
    | true =>
      rw [attempt_of_broken h]
      rfl
    | false =>
      rw [attempt_of_sound h]
      exact World.exchange_sent r patience w

theorem attempt_of_reply (h : r.isBroken = false) (hreply : (w.network.deliver r).1 = .reply reply) :
    ((attempt (.ok r) patience).run w).1 = .ok reply := by
  rw [attempt_of_sound h, World.exchange_of_reply hreply]
  rfl

/-- A reply that is heard is the one that the network delivers. -/
theorem deliver_of_attempt (h : ((attempt request patience).run w).1 = .ok reply) :
    ∃ r, request = .ok r ∧ (w.network.deliver r).1 = .reply reply := by
  cases request with
  | error f => cases h
  | ok r =>
    refine ⟨r, rfl, ?_⟩
    cases hbroken : r.isBroken with
    | true =>
      rw [attempt_of_broken hbroken] at h
      cases h
    | false =>
      rw [attempt_of_sound hbroken] at h
      cases hx : ((World.exchange r patience).run w).1 with
      | error f =>
        rw [hx] at h
        cases h
      | ok reply' =>
        rw [hx] at h
        cases h
        exact World.exchange_reply hx

theorem attempt_alike {v : World}
    (h : ∀ r, request = .ok r → (v.network.deliver r).1 = (w.network.deliver r).1) :
    ((attempt request patience).run v).1 = ((attempt request patience).run w).1 := by
  cases request with
  | error f => rfl
  | ok r =>
    cases hbroken : r.isBroken with
    | true => rw [attempt_of_broken hbroken, attempt_of_broken hbroken]
    | false =>
      rw [attempt_of_sound hbroken, attempt_of_sound hbroken]
      exact congrArg (Except.mapError networkFault) (World.exchange_alike (h r rfl) patience)

/-- An attempt fails because there is no request to send, or because no reply comes. -/
theorem attempt_error (h : ((attempt request patience).run w).1 = .error f) :
    request = .error f ∨ ∃ g, f = networkFault g := by
  cases request with
  | error f' =>
    cases h
    exact .inl rfl
  | ok r =>
    cases hbroken : r.isBroken with
    | true =>
      rw [attempt_of_broken hbroken] at h
      cases h
      exact .inr ⟨_, rfl⟩
    | false =>
      rw [attempt_of_sound hbroken] at h
      cases hx : ((World.exchange r patience).run w).1 with
      | error g =>
        rw [hx] at h
        cases h
        exact .inr ⟨g, rfl⟩
      | ok reply =>
        rw [hx] at h
        cases h

/-- The requests that an attempt sends have what its request has. -/
theorem exists_sent_attempt {P : Request → Prop} (h : ∀ r, request = .ok r → P r) :
    ∃ requests, ((attempt request patience).run w).2.sent = w.sent ++ requests ∧
      ∀ r ∈ requests, P r := by
  refine ⟨_, attempt_sent request patience w, fun r hr => ?_⟩
  cases request with
  | error f => cases hr
  | ok r' =>
    rw [List.mem_singleton.1 hr]
    exact h r' rfl

/-- A step that reads the reply succeeds with what it reads in the one that is delivered. -/
theorem attempt_ok {α : Type} {read : Reply → Except WorkerFault α} {x : α}
    (h : ((attempt request patience).run w).1.bind read = .ok x) :
    ∃ r reply, request = .ok r ∧ (w.network.deliver r).1 = .reply reply ∧ read reply = .ok x := by
  cases hheard : ((attempt request patience).run w).1 with
  | error f =>
    rw [hheard] at h
    cases h
  | ok reply =>
    rw [hheard] at h
    obtain ⟨r, hr, hdeliver⟩ := deliver_of_attempt hheard
    exact ⟨r, reply, hr, hdeliver, h⟩

/-- What a step fails with that reads the reply. -/
theorem faults_attempt {α : Type} {read : Reply → Except WorkerFault α}
    (hrequest : ∀ f, request = .error f → w.network.Faults f)
    (hread : ∀ r f, read r = .error f → r.Faults f)
    (h : ((attempt request patience).run w).1.bind read = .error f) : w.network.Faults f := by
  cases hheard : ((attempt request patience).run w).1 with
  | error f' =>
    rw [hheard] at h
    cases h
    rcases attempt_error hheard with hno | ⟨g, rfl⟩
    · exact hrequest f hno
    · exact .unanswered g
  | ok reply =>
    rw [hheard] at h
    obtain ⟨r, -, hdeliver⟩ := deliver_of_attempt hheard
    exact .answered (Network.gives_of_deliver hdeliver) (hread reply f h)

end

/-! ## Requests -/

section

variable (settings : WorkerSettings) (e : Endpoint) (s : Submission) (path accept : String)

/-- The request for an address, or why there is none. -/
def getOf (address : String) : Except WorkerFault Request := do
  let client ← (make settings e).mapError networkFault
  let url ← (requestable address).mapError networkFault
  return ⟨client, .get, url, acceptAll, none⟩

/-- The request for the progress of a job, or why there is none. -/
def pollOf (job : String) : Except WorkerFault Request := do
  let some id := nonBlank? job | .error (.invalidRequest "job_id is required")
  getOf settings e (e.address ("/progress/" ++ id))

/-- The request with a submission, or why there is none. -/
def sendOf (d : Disk) : Except WorkerFault Request := do
  let client ← (make settings e).mapError networkFault
  let form ← formOf d s
  let url ← (requestable (e.address path)).mapError networkFault
  return ⟨client, .post, url, accept, form⟩

theorem getOf_cases (address : String) :
    (∃ g, getOf settings e address = .error (networkFault g)) ∨
    ∃ client url, make settings e = .ok client ∧ requestable address = .ok url ∧
      getOf settings e address = .ok ⟨client, .get, url, acceptAll, none⟩ := by
  unfold getOf
  cases make settings e with
  | error g => exact .inl ⟨g, rfl⟩
  | ok client =>
    cases requestable address with
    | error g => exact .inl ⟨g, rfl⟩
    | ok url => exact .inr ⟨client, url, rfl, rfl, rfl⟩

theorem sendOf_cases (d : Disk) :
    (∃ f, sendOf settings e s path accept d = .error f ∧ (f.IsRefusal ∨ ∃ g, f = networkFault g)) ∨
    ∃ client form url, make settings e = .ok client ∧ formOf d s = .ok form ∧
      requestable (e.address path) = .ok url ∧
      sendOf settings e s path accept d = .ok ⟨client, .post, url, accept, form⟩ := by
  unfold sendOf
  cases make settings e with
  | error g => exact .inl ⟨_, rfl, .inr ⟨g, rfl⟩⟩
  | ok client =>
    cases hform : formOf d s with
    | error f => exact .inl ⟨f, rfl, .inl (isRefusal_formOf hform)⟩
    | ok form =>
      cases requestable (e.address path) with
      | error g => exact .inl ⟨_, rfl, .inr ⟨g, rfl⟩⟩
      | ok url => exact .inr ⟨client, form, url, rfl, rfl, rfl, rfl⟩

variable {settings e s path accept} {r : Request} {n : Network} {f : WorkerFault} {d : Disk}

theorem getOf_ok {address : String} (h : getOf settings e address = .ok r) :
    ∃ client url, make settings e = .ok client ∧ requestable address = .ok url ∧
      r = ⟨client, .get, url, acceptAll, none⟩ := by
  rcases getOf_cases settings e address with ⟨g, hno⟩ | ⟨client, url, hmake, hurl, hr⟩
  · cases h.symm.trans hno
  · exact ⟨client, url, hmake, hurl, Except.ok.inj (h.symm.trans hr)⟩

theorem sendOf_ok (h : sendOf settings e s path accept d = .ok r) :
    ∃ client form url, make settings e = .ok client ∧ formOf d s = .ok form ∧
      requestable (e.address path) = .ok url ∧ r = ⟨client, .post, url, accept, form⟩ := by
  rcases sendOf_cases settings e s path accept d with
    ⟨f, hno, -⟩ | ⟨client, form, url, hmake, hform, hurl, hr⟩
  · cases h.symm.trans hno
  · exact ⟨client, form, url, hmake, hform, hurl, Except.ok.inj (h.symm.trans hr)⟩

theorem faults_getOf {address : String} (h : getOf settings e address = .error f) : n.Faults f := by
  rcases getOf_cases settings e address with ⟨g, hno⟩ | ⟨client, url, -, -, hr⟩
  · rw [Except.error.inj (h.symm.trans hno)]
    exact .unanswered g
  · cases h.symm.trans hr

theorem faults_pollOf {job : String} (h : pollOf settings e job = .error f) : n.Faults f := by
  unfold pollOf at h
  cases hid : nonBlank? job with
  | none =>
    rw [hid] at h
    cases h
    exact .refused (.request _)
  | some id =>
    rw [hid] at h
    exact faults_getOf h

theorem faults_sendOf (h : sendOf settings e s path accept d = .error f) : n.Faults f := by
  rcases sendOf_cases settings e s path accept d with ⟨f', hno, hf'⟩ | ⟨client, form, url, -, -, -, hr⟩
  · obtain rfl := Except.error.inj (h.symm.trans hno)
    rcases hf' with hrefusal | ⟨g, rfl⟩
    · exact .refused hrefusal
    · exact .unanswered g
  · cases h.symm.trans hr

end

/-! ## Steps -/

section

variable (settings : WorkerSettings) (e : Endpoint) (s : Submission) (path accept : String)
  (patience : Nat) (w : World)

/-- A submission is an attempt. -/
theorem send_run : (send settings e s path accept patience).run w =
    (attempt (sendOf settings e s path accept w.disk) patience).run w := by
  unfold send sendOf
  cases make settings e with
  | error f => rfl
  | ok client =>
    simp only [Action.run_bind, Action.run_get]
    cases formOf w.disk s with
    | error f => rfl
    | ok form =>
      simp only [World.submit]
      cases requestable (e.address path) with
      | error f => rfl
      | ok url =>
        cases form with
        | none => rfl
        | some upload =>
          refine Eq.trans ?_ (attempt_of_sound rfl).symm
          simp only [Action.run_bind]
          generalize (World.exchange _ patience).run w = exchanged
          obtain ⟨f | reply, w'⟩ := exchanged <;> rfl

/-- A new job is an attempt whose reply is read. -/
theorem start_run : (start settings e s).run w =
    let heard := (attempt (sendOf settings e s "/start-job" "application/json" w.disk)
      settings.startTimeout).run w
    (heard.1.bind (startedOf s), heard.2) := by
  rw [start, Action.run_bind, send_run]
  generalize (attempt _ settings.startTimeout).run w = heard
  obtain ⟨f | reply, w'⟩ := heard <;> rfl

/-- What is asked without a form is an attempt. -/
theorem ask_run {client : HttpClient} (hmake : make settings e = .ok client) (address : String) :
    let asked := (World.ask client address patience).run w
    (attempt (getOf settings e address) patience).run w =
      (asked.1.mapError networkFault, asked.2) := by
  rw [getOf, hmake]
  unfold World.ask
  cases requestable address with
  | error f => rfl
  | ok url => exact attempt_of_sound rfl

/-- A poll is an attempt whose reply is read. -/
theorem poll_run (job : String) : (poll settings e job).run w =
    let heard := (attempt (pollOf settings e job) settings.pollTimeout).run w
    (heard.1.bind reportOf, heard.2) := by
  unfold poll pollOf
  cases nonBlank? job with
  | none => rfl
  | some id =>
    cases hmake : make settings e with
    | error f =>
      simp only [getOf, hmake]
      rfl
    | ok client =>
      simp only [Action.run_bind, ask_run settings e settings.pollTimeout w hmake]
      generalize (World.ask client _ settings.pollTimeout).run w = asked
      obtain ⟨f | reply, w'⟩ := asked <;> rfl

/-- A poll touches no file. -/
theorem poll_disk (job : String) : ((poll settings e job).run w).2.disk = w.disk := by
  rw [poll_run]
  exact attempt_disk _ _ w

/-- A check of the health is an attempt. -/
theorem health_run :
    let heard := (attempt (getOf settings e (e.address "/health")) settings.healthTimeout).run w
    ((health settings e).run w).2 = heard.2 ∧
      ∀ reply, heard.1 = .ok reply → ((health settings e).run w).1 = healthOf reply := by
  unfold health
  cases hmake : make settings e with
  | error f =>
    simp only [getOf, hmake]
    exact ⟨rfl, nofun⟩
  | ok client =>
    simp only [Action.run_bind, ask_run settings e _ w hmake]
    generalize (World.ask client _ settings.healthTimeout).run w = asked
    obtain ⟨f | reply, w'⟩ := asked
    · exact ⟨rfl, nofun⟩
    · exact ⟨rfl, fun _ h => by cases h; rfl⟩

end

section

variable {settings : WorkerSettings} {e : Endpoint} {s : Submission} {w : World} {f : WorkerFault}

theorem faults_start (h : ((start settings e s).run w).1 = .error f) : w.network.Faults f := by
  rw [start_run] at h
  exact faults_attempt (fun _ => faults_sendOf) (fun _ _ => faults_startedOf) h

theorem faults_poll {job : String} (h : ((poll settings e job).run w).1 = .error f) :
    w.network.Faults f := by
  rw [poll_run] at h
  exact faults_attempt (fun _ => faults_pollOf) (fun _ _ => faults_reportOf) h

end

end Client

end ClipRelay
