import ClipRelay.Proofs.Artifact.Files
import ClipRelay.Proofs.Relay.Stream
import ClipRelay.Proofs.Service.Answers
import ClipRelay.Proofs.Worker.PlainId
import ClipRelay.Proofs.Worker.Requests
import ClipRelay.Proofs.Worker.Stop

/-!
# What a job sends to the worker

Each step of the work with the worker sends the one request that can be made for it, or nothing
(`Client.getOf?`, `Client.postOf?`): the start of a job (`Client.start_sent`), a poll
(`Client.poll_of_get`), and the request for an artifact, which a file of its name makes needless
(`Download.run_sent`). Polls follow upon each other (`Job.before_of_get`), so the requests of a job that
is followed have one of three forms (`Job.Polls`), and with its start one of three again (`Job.Sends`).

* `Job.process_sends`: the requests of every job are of one of these forms, and no poll of a job is
  refused for its id.
* `Job.unpolled_job`: a job with an id may go without a poll.
-/

namespace ClipRelay

open Text

/-! ## Requests -/

namespace Client

/-- The request for an address, if one can be made. -/
def getOf? (settings : WorkerSettings) (e : Endpoint) (address : String) : Option Request :=
  (make settings e).toOption.bind fun client => World.askOf? client address

/-- The request that starts a job, if the file can be opened and one can be made. -/
def postOf? (settings : WorkerSettings) (e : Endpoint) (s : Submission) (d : Disk) :
    Option Request := do
  let client ← (make settings e).toOption
  let form ← (formOf d s).toOption
  let url ← (requestable (e.address "/start-job")).toOption
  return ⟨client, .post, url, "application/json", form⟩

/-- Where the worker tells the progress of a job. -/
def progressAddress (e : Endpoint) (job : String) : String := e.address ("/progress/" ++ trim job)

section

variable (settings : WorkerSettings) (e : Endpoint) (s : Submission)

theorem toOption_eq_some {ε α : Type} {x : Except ε α} {a : α} : x.toOption = some a ↔ x = .ok a := by
  cases x <;> simp [Except.toOption]

theorem toOption_getOf (address : String) :
    (getOf settings e address).toOption = getOf? settings e address := by
  unfold getOf getOf? World.askOf?
  cases make settings e with
  | error f => rfl
  | ok client => cases requestable address <;> rfl

theorem toOption_sendOf (d : Disk) :
    (sendOf settings e s "/start-job" "application/json" d).toOption = postOf? settings e s d := by
  unfold sendOf postOf?
  cases make settings e with
  | error f => rfl
  | ok client =>
    cases formOf d s with
    | error f => rfl
    | ok form => cases requestable (e.address "/start-job") <;> rfl

variable {settings e s}

theorem getOf?_eq_some {address : String} {r : Request} :
    getOf? settings e address = some r ↔ getOf settings e address = .ok r := by
  rw [← toOption_getOf, toOption_eq_some]

theorem postOf?_eq_some {d : Disk} {post : Request} : postOf? settings e s d = some post ↔
    sendOf settings e s "/start-job" "application/json" d = .ok post := by
  rw [← toOption_sendOf, toOption_eq_some]

theorem method_postOf? {d : Disk} {post : Request} (h : postOf? settings e s d = some post) :
    post.method = .post := by
  obtain ⟨client, form, url, -, -, -, rfl⟩ := sendOf_ok (postOf?_eq_some.1 h)
  rfl

end

/-! ## Steps -/

section

variable (settings : WorkerSettings) (e : Endpoint) (s : Submission) (w : World) {job : String}

/-- A job that has an id is polled by the request for its progress. -/
theorem pollOf_of_id (h : trim job ≠ "") :
    pollOf settings e job = getOf settings e (progressAddress e job) := by
  rw [pollOf, nonBlank?, if_neg h]
  rfl

/-- The start of a job sends the request for it. -/
theorem start_sent : ((start settings e s).run w).2.sent =
    w.sent ++ (postOf? settings e s w.disk).toList := by
  rw [start_run, ← toOption_sendOf]
  exact attempt_sent _ _ w

theorem code_networkFault_ne (f : HttpFault) : (networkFault f).code ≠ .invalidRequest := by
  intro h
  cases h

/-- A poll that can be made sends its request, and touches no file. -/
theorem poll_of_get {r : Request} (h : trim job ≠ "")
    (hr : getOf? settings e (progressAddress e job) = some r) :
    ((poll settings e job).run w).2.sent = w.sent ++ [r] ∧
      ((poll settings e job).run w).2.disk = w.disk := by
  refine ⟨?_, poll_disk settings e w job⟩
  rw [poll_run, pollOf_of_id settings e h, getOf?_eq_some.1 hr]
  exact attempt_sent _ _ w

/-- A poll that cannot be made fails and does nothing outside. -/
theorem poll_of_no_get (h : trim job ≠ "")
    (hno : getOf? settings e (progressAddress e job) = none) :
    ∃ f, (poll settings e job).run w = (.error f, w) := by
  rw [poll_run, pollOf_of_id settings e h]
  rcases getOf_cases settings e (progressAddress e job) with ⟨g, hg⟩ | ⟨client, url, -, -, hr⟩
  · exact ⟨networkFault g, by rw [hg]; rfl⟩
  · cases hno.symm.trans (getOf?_eq_some.2 hr)

/-- A poll of a job that has an id is not refused for the id. -/
theorem code_poll_ne {f : WorkerFault} (h : trim job ≠ "")
    (hf : ((poll settings e job).run w).1 = .error f) : f.code ≠ .invalidRequest := by
  rw [poll_run, pollOf_of_id settings e h] at hf
  cases hheard : ((attempt (getOf settings e (progressAddress e job)) settings.pollTimeout).run w).1 with
  | ok reply =>
    simp only [hheard] at hf
    exact (faults_reportOf hf).code_ne.2
  | error f' =>
    simp only [hheard] at hf
    cases hf
    rcases attempt_error hheard with hno | ⟨g, rfl⟩
    · rcases getOf_cases settings e (progressAddress e job) with ⟨g, hg⟩ | ⟨client, url, -, -, hr⟩
      · rw [← Except.error.inj (hg.symm.trans hno)]
        exact code_networkFault_ne g
      · cases hno.symm.trans hr
    · exact code_networkFault_ne g

end

section

variable {settings : WorkerSettings} {e : Endpoint} {s : Submission} {w : World} {job : String}
  {request : Request} {reply : Reply}

/-- A job that is started has been asked for. -/
theorem exists_post {started : StartedJob} (h : ((start settings e s).run w).1 = .ok started) :
    ∃ post, postOf? settings e s w.disk = some post := by
  rw [start_run] at h
  obtain ⟨post, -, hpost, -⟩ := attempt_ok h
  exact ⟨post, postOf?_eq_some.2 hpost⟩

theorem start_of_reply (hpost : postOf? settings e s w.disk = some request)
    (hupload : request.upload ≠ none) (hreply : (w.network.deliver request).1 = .reply reply) :
    ((start settings e s).run w).1 = startedOf s reply := by
  have hsound : request.isBroken = false := by
    rw [Request.isBroken, Option.isNone_eq_false_iff.2 (Option.isSome_iff_ne_none.2 hupload),
      Bool.and_false]
  rw [start_run, postOf?_eq_some.1 hpost]
  simp only [attempt_of_reply hsound hreply]
  rfl

theorem attempt_get {address : String} {patience : Nat}
    (hget : getOf? settings e address = some request)
    (hreply : (w.network.deliver request).1 = .reply reply) :
    ((attempt (getOf settings e address) patience).run w).1 = .ok reply := by
  have hok := getOf?_eq_some.1 hget
  obtain ⟨client, url, -, -, rfl⟩ := getOf_ok hok
  rw [hok]
  exact attempt_of_reply rfl hreply

theorem poll_of_reply (hjob : trim job ≠ "")
    (hget : getOf? settings e (progressAddress e job) = some request)
    (hreply : (w.network.deliver request).1 = .reply reply) :
    ((poll settings e job).run w).1 = reportOf reply := by
  rw [poll_run, pollOf_of_id settings e hjob]
  simp only [attempt_get hget hreply]
  rfl

theorem health_of_reply (hget : getOf? settings e (e.address "/health") = some request)
    (hreply : (w.network.deliver request).1 = .reply reply) :
    ((health settings e).run w).1 = healthOf reply :=
  (health_run settings e w).2 reply (attempt_get hget hreply)

end

end Client

/-! ## The request for an artifact -/

namespace Download

variable (settings : WorkerSettings) (e : Endpoint) (artifact : ArtifactRef) (w : World)

theorem request_sent (url : String) : ((request settings e url).run w).2.sent =
    w.sent ++ (Client.getOf? settings e (e.locate url)).toList := by
  obtain ⟨refusal, hrun⟩ := request_run settings e url
  rw [hrun, ← Client.toOption_getOf]
  exact Client.attempt_sent _ _ w

/-- The name of the artifact of a job that has an id needs no random part. -/
theorem artifactName_of_id (lead : String) (hint : Option String) (remote : String) {job : String}
    (h : trim job ≠ "") (token token' : String) :
    artifactName lead hint remote (some job) token =
      artifactName lead hint remote (some job) token' := by
  have hpart : ∀ t, ArtifactName.jobPart (some job) t = trim job := fun t => by
    rw [ArtifactName.jobPart, Option.bind_some, nonBlank?, if_neg h, Option.getD_some]
  simp only [artifactName, hpart]

/-- A download asks the worker when it has a directory and no file of the artifact's name, that is
not empty, is in it. -/
theorem run_sent (job hint : Option String) :
    ((run settings e artifact job hint).run w).2.sent = w.sent ∨
    ∃ r d, Client.getOf? settings e (e.locate artifact.downloadUrl) = some r ∧
      w.disk.makeDirAll settings.outputDir = .ok d ∧
      sizeAt? d (planIn settings artifact job hint w).target = none ∧
      ((run settings e artifact job hint).run w).2.sent = w.sent ++ [r] := by
  rw [run_eq]
  generalize hp : planIn settings artifact job hint w = p
  have hdir : p.dir = settings.outputDir := by rw [← hp]; rfl
  simp only [steps_singleton, step, hdir]
  cases hmade : w.disk.makeDirAll settings.outputDir with
  | error f => exact .inl rfl
  | ok d =>
    simp only
    cases hsize : sizeAt? d p.target with
    | some size =>
      refine .inl ?_
      simp only [found]
      cases d.canonical p.target <;> rfl
    | none =>
      have hsent := request_sent settings e { w with disk := d, drawn := w.drawn + 2 }
        artifact.downloadUrl
      simp only at hsent ⊢
      cases hget : Client.getOf? settings e (e.locate artifact.downloadUrl) with
      | none =>
        rw [hget] at hsent
        exact .inl (hsent.trans (List.append_nil _))
      | some r =>
        rw [hget] at hsent
        exact .inr ⟨r, d, rfl, rfl, hsize, hsent⟩

/-- A download that finds no artifact in its directory asks the worker. -/
theorem run_sent_of_missing {job hint : Option String} {r : Request} {d : Disk}
    (hget : Client.getOf? settings e (e.locate artifact.downloadUrl) = some r)
    (hmade : w.disk.makeDirAll settings.outputDir = .ok d)
    (hsize : sizeAt? d (planIn settings artifact job hint w).target = none) :
    ((run settings e artifact job hint).run w).2.sent = w.sent ++ [r] := by
  rw [run_eq]
  generalize hp : planIn settings artifact job hint w = p at hsize ⊢
  have hdir : p.dir = settings.outputDir := by rw [← hp]; rfl
  simp only [steps_singleton, step, hdir, hmade, hsize]
  have hsent := request_sent settings e { w with disk := d, drawn := w.drawn + 2 }
    artifact.downloadUrl
  rw [hget] at hsent
  exact hsent

end Download

/-! ## The requests of a job -/

theorem Follower.conclude_error {σ : Type} (x : Follower σ) (answer : ProgressAnswer) (t : σ) :
    (x.conclude (.error answer)).run t = (answer, t) := rfl

namespace Job

variable (settings : WorkerSettings) (e : Endpoint) {job : String} (hint : Option String)
  (s : Submission) (w : World) {r : Request}

/-- The world before the next poll is the one after this poll, but for the time. -/
theorem before_succ (began i : Nat) :
    ((follower settings e job hint began).before w (i + 1)).sent =
        ((follower settings e job hint began).after w i).sent ∧
      ((follower settings e job hint began).before w (i + 1)).disk =
        ((follower settings e job hint began).after w i).disk := by
  rw [Follower.before, Follower.next, Follower.after]
  generalize ((follower settings e job hint began).poll.run _).2 = v
  exact ⟨rfl, rfl⟩

/-- Polls send their requests one after another, and touch no file. -/
theorem before_of_get (h : trim job ≠ "")
    (hr : Client.getOf? settings e (Client.progressAddress e job) = some r) (began i : Nat) :
    ((follower settings e job hint began).before w i).sent = w.sent ++ List.replicate i r ∧
      ((follower settings e job hint began).before w i).disk = w.disk := by
  induction i with
  | zero => exact ⟨(List.append_nil _).symm, rfl⟩
  | succ i ih =>
    obtain ⟨hsent, hdisk⟩ := Client.poll_of_get settings e
      ((follower settings e job hint began).before w i) h hr
    obtain ⟨hsent', hdisk'⟩ := before_succ settings e hint w began i
    rw [hsent', hdisk', Follower.after, follower_poll, hsent, hdisk, ih.1, ih.2, List.append_assoc,
      ← List.replicate_succ']
    exact ⟨rfl, rfl⟩

theorem after_of_get (h : trim job ≠ "")
    (hr : Client.getOf? settings e (Client.progressAddress e job) = some r) (began i : Nat) :
    ((follower settings e job hint began).after w i).sent = w.sent ++ List.replicate (i + 1) r ∧
      ((follower settings e job hint began).after w i).disk = w.disk := by
  obtain ⟨hsent, hdisk⟩ := before_succ settings e hint w began i
  obtain ⟨hsent', hdisk'⟩ := before_of_get settings e hint w h hr began (i + 1)
  exact ⟨hsent.symm.trans hsent', hdisk.symm.trans hdisk'⟩

/-- Polls that cannot be made send nothing. -/
theorem before_of_no_get (h : trim job ≠ "")
    (hno : Client.getOf? settings e (Client.progressAddress e job) = none) (began i : Nat) :
    ((follower settings e job hint began).before w i).sent = w.sent := by
  induction i with
  | zero => rfl
  | succ i ih =>
    obtain ⟨f, hpoll⟩ := Client.poll_of_no_get settings e
      ((follower settings e job hint began).before w i) h hno
    rw [(before_succ settings e hint w began i).1, Follower.after, follower_poll, hpoll]
    exact ih

/-- The answer of a job that has ended asks for the artifact of a complete job, or for nothing. -/
theorem settle_sends {finding : Finding} (h : trim job ≠ "")
    (hdue : finding.artifactDue = decide (finding.snapshot.status = .complete)) :
    ((finding.settle (fetch settings e job hint)).run w).2.sent = w.sent ∨
    ∃ artifact r d, finding.snapshot.status = .complete ∧ finding.snapshot.output = some artifact ∧
      Client.getOf? settings e (e.locate artifact.downloadUrl) = some r ∧
      w.disk.makeDirAll settings.outputDir = .ok d ∧
      Download.sizeAt? d (Path.join settings.outputDir
        (artifactName settings.outputPrefix hint artifact.filename (some job) "")) = none ∧
      ((finding.settle (fetch settings e job hint)).run w).2.sent = w.sent ++ [r] := by
  by_cases hc : finding.snapshot.status = .complete
  · rw [decide_eq_true hc] at hdue
    cases ho : finding.snapshot.output with
    | none =>
      rw [Finding.settle_of_idle (.inr ho)]
      exact .inl rfl
    | some artifact =>
      have hsettle : ((finding.settle (fetch settings e job hint)).run w).2 =
          ((Download.run settings e artifact (some job) hint).run w).2 := by
        rw [Finding.settle_of_due ho hdue, fetch]
      rw [hsettle]
      rcases Download.run_sent settings e artifact w (some job) hint with
        hsent | ⟨r, d, hr, hmade, hsize, hsent⟩
      · exact .inl hsent
      · rw [Download.planIn, Download.planOf_target,
          Download.artifactName_of_id _ _ _ h _ ""] at hsize
        exact .inr ⟨artifact, r, d, hc, rfl, hr, hmade, hsize, hsent⟩
  · rw [decide_eq_false hc] at hdue
    rw [Finding.settle_of_idle (.inl hdue)]
    exact .inl rfl

/-- The requests of a job that is followed to its end. -/
inductive Polls (settings : WorkerSettings) (e : Endpoint) (job : String) (hint : Option String)
    (w : World) : List Request → Prop
  /-- No request for the progress of the job can be made. -/
  | unasked : Client.getOf? settings e (Client.progressAddress e job) = none →
    Polls settings e job hint w []
  /-- The worker is asked for the progress, once or more. -/
  | asked {r : Request} (n : Nat) :
    Client.getOf? settings e (Client.progressAddress e job) = some r →
    Polls settings e job hint w (List.replicate (n + 1) r)
  /-- The report of the last poll completes the job; no file of its artifact's name, that is not
  empty, is there, and the worker is asked for the artifact. -/
  | fetched {r r' : Request} {n : Nat} {report : Report} {artifact : ArtifactRef} {d : Disk} :
    Client.getOf? settings e (Client.progressAddress e job) = some r →
    (follower settings e job hint w.clock).outcome w n = .ok report →
    (Finding.ofReport report
      ((follower settings e job hint w.clock).lastSnapshot w n)).snapshot.status = .complete →
    report.artifact? = some artifact →
    w.disk.makeDirAll settings.outputDir = .ok d →
    Download.sizeAt? d (Path.join settings.outputDir
      (artifactName settings.outputPrefix hint artifact.filename (some job) "")) = none →
    Client.getOf? settings e (e.locate artifact.downloadUrl) = some r' →
    Polls settings e job hint w (List.replicate (n + 1) r ++ [r'])

theorem follow_sends (h : trim job ≠ "") :
    ∃ requests, ((follow settings e job hint).run w).2.sent = w.sent ++ requests ∧
      Polls settings e job hint w requests := by
  obtain ⟨i, hstop, first⟩ := exists_first_stop settings e job hint w
  obtain ⟨result, hresult⟩ := Follower.exists_comesTo _ (rulesOf settings) w hstop
  have hrun : (follow settings e job hint).run w =
      ((follower settings e job hint w.clock).conclude result).run
        ((follower settings e job hint w.clock).after w i) :=
    Follower.run_of_comesTo _ (rulesOf settings) w first hresult _
  rw [hrun]
  cases hget : Client.getOf? settings e (Client.progressAddress e job) with
  | none =>
    have hafter : ((follower settings e job hint w.clock).after w i).sent = w.sent :=
      (before_succ settings e hint w w.clock i).1.symm.trans
        (before_of_no_get settings e hint w h hget w.clock (i + 1))
    refine ⟨[], ?_, .unasked hget⟩
    rw [List.append_nil]
    cases hresult with
    | failed => rw [Follower.conclude_error, hafter]
    | late => rw [Follower.conclude_error, hafter]
    | ended hends =>
      obtain ⟨report, ho, -⟩ := hends
      obtain ⟨f, hpoll⟩ := Client.poll_of_no_get settings e
        ((follower settings e job hint w.clock).before w i) h hget
      rw [Follower.outcome, follower_poll, hpoll] at ho
      cases ho
  | some r =>
    obtain ⟨hsent, hdisk⟩ := after_of_get settings e hint w h hget w.clock i
    cases hresult with
    | failed => exact ⟨_, by rw [Follower.conclude_error, hsent], .asked i hget⟩
    | late => exact ⟨_, by rw [Follower.conclude_error, hsent], .asked i hget⟩
    | @ended finding hends =>
      have hdue := Follower.artifactDue_of_endsAt _ (rulesOf settings) w first hends
      obtain ⟨report, ho, rfl, -⟩ := hends
      rw [Follower.conclude, follower_fetch]
      rcases settle_sends settings e hint ((follower settings e job hint w.clock).after w i) h hdue
        with hsame | ⟨artifact, r', d, hc, houtput, hr', hmade, hsize, hmore⟩
      · exact ⟨_, hsame.trans hsent, .asked i hget⟩
      · have hsnapshot : (Finding.ofReport report
            ((follower settings e job hint w.clock).lastSnapshot w i)).snapshot =
            report.snapshot ((follower settings e job hint w.clock).lastSnapshot w i) := by
          simp only [Finding.ofReport, Follower.lastSnapshot_running _ (rulesOf settings) w first]
        have hartifact : report.artifact? = some artifact := by
          rw [← houtput, hsnapshot]
          exact (report.output_snapshot (hsnapshot ▸ hc)).symm
        rw [hdisk] at hmade
        rw [hsent, List.append_assoc] at hmore
        exact ⟨_, hmore, .fetched hget ho hc hartifact hmade hsize hr'⟩

/-- The requests of a job from its start to its end. -/
inductive Sends (settings : WorkerSettings) (e : Endpoint) (s : Submission) (w : World) :
    List Request → Prop
  /-- The file cannot be opened, or no request can be made. -/
  | idle : Client.postOf? settings e s w.disk = none → Sends settings e s w []
  /-- The worker gives no id. -/
  | refused {post : Request} {f : WorkerFault} :
    Client.postOf? settings e s w.disk = some post →
    ((Client.start settings e s).run w).1 = .error f → Sends settings e s w [post]
  | followed {post : Request} {job : StartedJob} {requests : List Request} :
    Client.postOf? settings e s w.disk = some post →
    ((Client.start settings e s).run w).1 = .ok job →
    Polls settings e job.id s.hint? ((Client.start settings e s).run w).2 requests →
    Sends settings e s w (post :: requests)

theorem exists_sends : ∃ requests,
    ((process settings e s).run w).2.sent = w.sent ++ requests ∧ Sends settings e s w requests := by
  unfold process
  rw [Action.run_bind]
  have hsent := Client.start_sent settings e s w
  generalize hrun : (Client.start settings e s).run w = started at hsent ⊢
  have hresult : ((Client.start settings e s).run w).1 = started.1 := congrArg Prod.fst hrun
  obtain ⟨f | job, w₁⟩ := started
  · cases hpost : Client.postOf? settings e s w.disk with
    | none =>
      rw [hpost] at hsent
      exact ⟨[], hsent, .idle hpost⟩
    | some post =>
      rw [hpost] at hsent
      exact ⟨[post], hsent, .refused hpost hresult⟩
  · obtain ⟨post, hpost⟩ := Client.exists_post hresult
    obtain ⟨requests, hrequests, hpolls⟩ :=
      follow_sends settings e s.hint? w₁ (Client.trim_start hresult)
    rw [hpost] at hsent
    rw [hsent, List.append_assoc] at hrequests
    refine ⟨post :: requests, hrequests, .followed hpost hresult ?_⟩
    rw [hrun]
    exact hpolls

/-- The requests of a job from its start to its end: nothing, or the one that starts the job; then,
if the worker gives an id, the polls of the job, unless none can be made; then at most one for the
artifact. No poll is refused for the id. -/
theorem process_sends :
    (∃ requests, ((process settings e s).run w).2.sent = w.sent ++ requests ∧
      Sends settings e s w requests) ∧
    ∀ job, ((Client.start settings e s).run w).1 = .ok job → ∀ v f,
      ((Client.poll settings e job.id).run v).1 = .error f → f.code ≠ .invalidRequest :=
  ⟨exists_sends settings e s w, fun _ hjob v _ hf =>
    Client.code_poll_ne settings e v (Client.trim_start hjob) hf⟩

/-- A job that is complete at once, with its artifact. -/
theorem process_sends_sample : ∃ job,
    ((Client.start {} Relay.sampleEndpoint Relay.sampleSubmission).run Service.sampleWorld).1 =
      .ok job ∧
    (∃ requests, ((process {} Relay.sampleEndpoint Relay.sampleSubmission).run
        Service.sampleWorld).2.sent = requests ∧
      Sends {} Relay.sampleEndpoint Relay.sampleSubmission Service.sampleWorld requests) ∧
    ∀ v f, ((Client.poll {} Relay.sampleEndpoint job.id).run v).1 = .error f →
      f.code ≠ .invalidRequest := by
  have hstart : ((Client.start {} Relay.sampleEndpoint Relay.sampleSubmission).run
      Service.sampleWorld).1 = .ok ⟨"j", "Processing started for a.mp4"⟩ := by
    decide +kernel
  obtain ⟨⟨requests, hsent, hsends⟩, hpolls⟩ :=
    process_sends {} Relay.sampleEndpoint Relay.sampleSubmission Service.sampleWorld
  exact ⟨_, hstart, ⟨requests, hsent, hsends⟩, hpolls _ hstart⟩

/-- A world with a worker that gives this id to a job. -/
def idWorld (id : List Char) : World where
  disk := ⟨[(["a.mp4"], .file [1, 2, 3])]⟩
  network := .single "[::1]:8080" [("POST /start-job", [.reply (idReply id)])]
  tools := .empty
  rehearsed := []
  clock := 0
  drawn := 0

/-- The address at which that worker takes jobs on. -/
def startUrl : Url :=
  ⟨.http, .ipv6 [0, 0, 0, 0, 0, 0, 0, 1], some 8080, ["start-job".toList], none, none⟩

theorem start_idWorld {id : List Char} (h : IsPlainId id) :
    ((Client.start {} Relay.sampleEndpoint Relay.sampleSubmission).run (idWorld id)).1 =
      .ok ⟨String.ofList id, "Processing started for " ++ Relay.sampleSubmission.uploadName⟩ := by
  have hclient : Client.make {} Relay.sampleEndpoint = .ok ⟨"ChatCut-Backend/1.0", [], true⟩ := by
    decide +kernel
  have hdisk : (idWorld id).disk = ⟨[(["a.mp4"], .file [1, 2, 3])]⟩ := rfl
  have hform : Client.formOf ⟨[(["a.mp4"], .file [1, 2, 3])]⟩ Relay.sampleSubmission =
      .ok (some ⟨"a.mp4", "video/mp4", [1, 2, 3], "p"⟩) := by
    decide +kernel
  have hurl : requestable (Relay.sampleEndpoint.address "/start-job") = .ok startUrl := by
    have hread : Url.ofText? (Relay.sampleEndpoint.address "/start-job") = some startUrl := by
      decide +kernel
    have hrequestable : startUrl.isRequestable = true := by decide +kernel
    rw [requestable, hread]
    exact if_pos hrequestable
  generalize hpost : (⟨⟨"ChatCut-Backend/1.0", [], true⟩, .post, startUrl, "application/json",
    some ⟨"a.mp4", "video/mp4", [1, 2, 3], "p"⟩⟩ : Request) = post
  have hmade : Client.postOf? {} Relay.sampleEndpoint Relay.sampleSubmission (idWorld id).disk =
      some post := by
    rw [Client.postOf?, hclient, hdisk, hform, hurl]
    exact congrArg some hpost
  have hdeliver : ((idWorld id).network.deliver post).1 = .reply (idReply id) := by
    have hauthority : post.url.authority = "[::1]:8080" := by
      rw [← hpost]
      decide +kernel
    have hline : post.line = "POST /start-job" := by
      rw [← hpost]
      decide +kernel
    have hscheme : post.url.scheme = .http := by rw [← hpost]; rfl
    simp only [Network.deliver, Network.serverFor?, idWorld, Network.single, List.find?_cons, Server.hears,
      hscheme, hauthority, Server.next, hline]
    rfl
  have hupload : post.upload ≠ none := by
    rw [← hpost]
    exact Option.some_ne_none _
  rw [Client.start_of_reply hmade hupload hdeliver]
  exact Client.startedOf_plainId _ h

/-- No request for the progress of a job can be made when its id is too long. -/
theorem getOf?_long {id : List Char} (h : IsPlainId id) (hlong : Url.maxLength < id.length) :
    Client.getOf? {} Relay.sampleEndpoint
      (Client.progressAddress Relay.sampleEndpoint (String.ofList id)) = none := by
  have haddress : Client.progressAddress Relay.sampleEndpoint (String.ofList id) =
      String.ofList (idAddress id) := by
    rw [Client.progressAddress, trim_plainId h, ← String.toList_inj, Endpoint.address]
    simp only [String.toList_append, String.toList_ofList]
    rfl
  rw [haddress, Client.getOf?]
  cases Client.make {} Relay.sampleEndpoint with
  | error f => rfl
  | ok client =>
    rw [Except.toOption, Option.bind_some, World.askOf?, requestable_idAddress h hlong]
    rfl

/-- A job with an id may go without a poll: where the address of its progress is too long, no request
for it can be made. -/
theorem unpolled_job :
    ¬ ∀ (settings : WorkerSettings) (e : Endpoint) (s : Submission) (w : World) (job : StartedJob),
      ((Client.start settings e s).run w).1 = .ok job →
      ∃ r ∈ ((process settings e s).run w).2.sent, r.method = .get := by
  have hplain : IsPlainId (List.replicate 65535 'a') :=
    ⟨List.cons_ne_nil _ _, fun c hc => by rw [List.eq_of_mem_replicate hc]; rfl⟩
  have hlong : Url.maxLength < (List.replicate 65535 'a').length := by
    rw [List.length_replicate]
    decide
  generalize List.replicate 65535 'a' = id at hplain hlong
  intro h
  obtain ⟨r, hr, hget⟩ := h {} Relay.sampleEndpoint Relay.sampleSubmission (idWorld id) _
    (start_idWorld hplain)
  obtain ⟨requests, hsent, hsends⟩ :=
    exists_sends {} Relay.sampleEndpoint Relay.sampleSubmission (idWorld id)
  rw [hsent] at hr
  have hr : r ∈ requests := hr
  have hpost : ∀ {post}, Client.postOf? {} Relay.sampleEndpoint Relay.sampleSubmission
      (idWorld id).disk = some post → r ∉ [post] := by
    intro post hp hmem
    rw [List.mem_singleton.1 hmem, Client.method_postOf? hp] at hget
    cases hget
  cases hsends with
  | idle => cases hr
  | refused hp => exact hpost hp hr
  | @followed post job requests hp hjob hpolls =>
    rw [start_idWorld hplain] at hjob
    cases hjob
    have hno := getOf?_long hplain hlong
    cases hpolls with
    | unasked => exact hpost hp hr
    | asked n hask => cases hno.symm.trans hask
    | fetched hask => cases hno.symm.trans hask

end Job

end ClipRelay
