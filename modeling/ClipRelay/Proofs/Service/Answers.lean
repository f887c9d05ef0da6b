import ClipRelay.Proofs.Artifact.Files
import ClipRelay.Proofs.Number.Fixed
import ClipRelay.Proofs.Number.Percent
import ClipRelay.Proofs.Text.Trim
import ClipRelay.Proofs.Worker.Faults
import ClipRelay.Proofs.Worker.Snapshots
import ClipRelay.Proofs.Worker.Stop
import ClipRelay.Service.Jobs
import Mathlib.Control.Monad.Basic

/-!
# What the answers of the service say

An answer about a job has one of five outcomes (`Outcome`), and what it says of the artifact holds on
disk (`ProgressAnswer.Clear`).

* `Snapshot.Sound`: what an answer takes over from a snapshot (`Snapshot.WellFormed.sound`).
* `clear_settle`: the answer of a job that has ended is clear, whatever its download comes to.
* `Service.answers_clear`: so are all answers of the service.
-/

namespace ClipRelay

open Text

/-! ## Answers -/

namespace StartAnswer

/-- The worker has taken the job on. -/
structure IsStarted (a : StartAnswer) : Prop where
  jobId : ∃ id, a.jobId = some id ∧ trim id ≠ ""
  status : a.status = "started"
  error : a.error = none

/-- There is no job, and a reason. -/
structure IsFailed (a : StartAnswer) : Prop where
  jobId : a.jobId = none
  status : a.status = "error"
  error : ∃ code, a.error = some code

theorem not_isFailed_of_isStarted {a : StartAnswer} (h : a.IsStarted) : ¬ a.IsFailed := fun h' => by
  have hstatus := h.status.symm.trans h'.status
  exact absurd hstatus (by decide)

end StartAnswer

/-- What an answer can say about a job. -/
inductive Outcome
  /-- The job is complete, and its artifact is on disk. -/
  | delivered
  /-- The job is complete, and its artifact could not be downloaded. -/
  | undelivered
  | failed
  /-- The worker does not know the job. -/
  | unknown
  | running
  deriving DecidableEq

namespace ProgressAnswer

/-- The answer says this about the job. -/
def Says (a : ProgressAnswer) : Outcome → Prop
  | .delivered => a.status = .complete ∧ a.outputPath ≠ none ∧ a.error = none
  | .undelivered => a.status = .complete ∧ a.outputPath = none ∧ a.error = some .downloadFailed
  | .failed =>
    a.status = .error ∧ a.outputPath = none ∧ ∃ code, code ≠ .downloadFailed ∧ a.error = some code
  | .unknown => a.status = .notFound ∧ a.outputPath = none ∧ a.error = some .jobNotFound
  | .running => a.status = .processing ∧ a.outputPath = none ∧ a.error = none

theorem Says.unique {a : ProgressAnswer} {o o' : Outcome} (h : a.Says o) (h' : a.Says o') :
    o = o' := by
  cases o <;> cases o' <;> simp_all [Says]

/-- An answer says one thing about the job, gives a percentage, and names a file that is there on the
disk and not empty, if it names one. -/
structure Clear (d : Disk) (a : ProgressAnswer) : Prop where
  outcome : ∃! o, a.Says o
  progress : a.progress.IsPercent
  file : ∀ path, a.outputPath = some path → ∃ bs, bs ≠ [] ∧ d.FileAt path bs

theorem Clear.of_outcome {d : Disk} {a : ProgressAnswer} {o : Outcome} (h : a.Says o)
    (hp : a.progress.IsPercent)
    (hf : ∀ path, a.outputPath = some path → ∃ bs, bs ≠ [] ∧ d.FileAt path bs) : a.Clear d :=
  ⟨⟨o, h, fun _ h' => h'.unique h⟩, hp, hf⟩

/-- A failure that is not one of a download is clear. -/
theorem clear_failed (d : Disk) {code : ErrorCode} (h : code ≠ .downloadFailed) (message : String)
    (details : Option String) : ((failed code message).withDetails details).Clear d := by
  by_cases hc : code = .jobNotFound
  · subst hc
    exact .of_outcome (o := .unknown) ⟨rfl, rfl, rfl⟩ Double.isPercent_zero nofun
  · refine .of_outcome (o := .failed) ⟨?_, rfl, code, h, rfl⟩ Double.isPercent_zero nofun
    exact if_neg hc

theorem status_ofFault (f : WorkerFault) : (ProgressAnswer.ofFault f).status ≠ .processing := by
  intro h
  replace h : (if f.code = .jobNotFound then JobStatus.notFound else .error) = .processing := h
  split at h <;> cases h

theorem clear_ofFault (d : Disk) {f : WorkerFault} (h : f.code ≠ .downloadFailed) :
    (ProgressAnswer.ofFault f).Clear d :=
  clear_failed d h f.message f.details

end ProgressAnswer

/-! ## Snapshots -/

namespace Snapshot

/-- What a snapshot holds beside its status. -/
def Matches (s : Snapshot) : JobStatus → Prop
  | .complete => (∃ artifact, s.output = some artifact) ∧ s.error = none
  | .error => s.output = none ∧ ∃ code, code ≠ .downloadFailed ∧ s.error = some code
  | .notFound => s.output = none ∧ s.error = some .jobNotFound
  | .processing => s.output = none ∧ s.error = none

/-- What an answer takes over from a snapshot. -/
structure Sound (s : Snapshot) : Prop where
  fields : s.Matches s.status
  progress : s.progress.IsPercent

theorem WellFormed.sound {s : Snapshot} (h : s.WellFormed) : s.Sound := by
  have houtput : s.status ≠ .complete → s.output = none := fun hs =>
    by_contra fun ho => hs (h.complete.2 ho)
  refine ⟨?_, h.progress.2⟩
  cases hs : s.status with
  | complete =>
    obtain ⟨artifact, ho⟩ := Option.ne_none_iff_exists'.1 (h.complete.1 hs)
    exact ⟨⟨artifact, ho⟩, (h.output artifact ho).2.2.2⟩
  | error =>
    refine ⟨houtput (by rw [hs]; decide), ?_⟩
    rcases h.error hs with he | he
    · exact ⟨_, by decide, he⟩
    · exact ⟨_, by decide, he⟩
  | notFound => exact ⟨houtput (by rw [hs]; decide), h.unknown.1 hs⟩
  | processing =>
    refine ⟨houtput (by rw [hs]; decide), by_contra fun he => ?_⟩
    rw [← ne_eq, ← h.failed, hs] at he
    rcases he with he | he <;> cases he

end Snapshot

/-- The last snapshot of a job that is followed is well formed. -/
theorem Follower.wellFormed_lastSnapshot {σ : Type} (x : Follower σ) (t : σ) (i : Nat) (s : Snapshot)
    (h : x.lastSnapshot t i = some s) : s.WellFormed := by
  induction i generalizing s with
  | zero => cases h
  | succ i ih =>
    rw [lastSnapshot] at h
    split at h
    · cases h
      exact Finding.wellFormed_ofReport _ ih
    · exact ih s h

/-! ## Jobs that have ended -/

section

variable (settings : WorkerSettings) (e : Endpoint) (job : String) (hint : Option String) (w : World)

/-- The answer from a sound snapshot is clear, whatever the download of its artifact comes to. -/
theorem Finding.clear_settle {finding : Finding} (h : finding.snapshot.Sound)
    (hdue : finding.artifactDue = decide (finding.snapshot.status = .complete)) :
    ((finding.settle (Job.fetch settings e job hint)).run w).1.Clear
      ((finding.settle (Job.fetch settings e job hint)).run w).2.disk := by
  have hfields := h.fields
  cases hs : finding.snapshot.status with
  | complete =>
    rw [hs] at hdue hfields
    obtain ⟨⟨artifact, ho⟩, herror⟩ := hfields
    rw [Finding.settle_of_due ho hdue]
    rcases hr : (Job.fetch settings e job hint artifact).run w with ⟨f | a, w'⟩
    · exact .of_outcome (o := .undelivered) ⟨hs, rfl, rfl⟩ h.progress nofun
    · obtain ⟨bs, hne, -, hfile, -⟩ := Download.run_ok hr
      refine .of_outcome (o := .delivered) ⟨hs, nofun, herror⟩ h.progress fun path hpath => ?_
      cases hpath
      exact ⟨bs, hne, hfile⟩
  | error =>
    rw [hs] at hdue hfields
    rw [Finding.settle_of_idle (.inl hdue)]
    exact .of_outcome (o := .failed) ⟨hs, rfl, hfields.2⟩ h.progress nofun
  | notFound =>
    rw [hs] at hdue hfields
    rw [Finding.settle_of_idle (.inl hdue)]
    exact .of_outcome (o := .unknown) ⟨hs, rfl, hfields.2⟩ h.progress nofun
  | processing =>
    rw [hs] at hdue hfields
    rw [Finding.settle_of_idle (.inl hdue)]
    exact .of_outcome (o := .running) ⟨hs, rfl, hfields.2⟩ h.progress nofun

/-- A download does not change what the job has come to. -/
theorem Finding.status_settle (finding : Finding) {σ : Type}
    (fetch : ArtifactRef → StateM σ (Except WorkerFault Artifact)) (t : σ) :
    ((finding.settle fetch).run t).1.status = finding.snapshot.status :=
  (finding.settle_fields fetch t).1

end

/-! ## Ids of jobs -/

theorem exists_not_blank_digits (n : Nat) : ∃ c ∈ Number.digits n, isBlank c = false := by
  obtain ⟨c, hc⟩ := List.exists_mem_of_ne_nil _ (Nat.toDigits_ne_nil : Nat.toDigits 10 n ≠ [])
  exact ⟨c, hc, isBlank_of_isDigit (Number.isDigit_of_mem_digits hc)⟩

/-- The text of a number has a character that is not blank: a digit, a point or a letter. -/
theorem exists_not_blank_number (n : JsonNumber) :
    ∃ c ∈ (Json.compact (.number n)).toList, isBlank c = false := by
  have htext : (Json.compact (.number n)).toList = Json.numberChars n := by
    rw [Json.compact, String.toList_ofList]
    rfl
  rw [htext]
  cases n with
  | whole n =>
    obtain ⟨c, hc, hblank⟩ := exists_not_blank_digits n.natAbs
    exact ⟨c, List.mem_append_right _ hc, hblank⟩
  | real x =>
    rw [Json.numberChars]
    unfold Json.doubleChars
    split
    · rename_i u _
      simp only
      generalize Number.digits (Number.shortest u).1 = ds
      split
      · refine ⟨'.', List.mem_append_right _ ?_, by decide⟩
        unfold Json.positional Number.pointed
        split <;> simp
      · refine ⟨'e', List.mem_append_right _ ?_, by decide⟩
        simp [Json.scientific]
    · exact ⟨'n', by decide, by decide⟩

/-- The id of a job that has been started is not blank. -/
theorem trim_jobIdOf {v : Json} {id : String} (h : jobIdOf v = some id) : trim id ≠ "" := by
  unfold jobIdOf at h
  split at h
  · exact (trim_of_nonBlank? h).2
  · rename_i n
    cases h
    obtain ⟨c, hc, hblank⟩ := exists_not_blank_number n
    exact trim_ne_empty hc hblank
  · cases h

theorem Client.trim_startedOf {s : Submission} {r : Reply} {job : StartedJob}
    (h : Client.startedOf s r = .ok job) : trim job.id ≠ "" := by
  unfold Client.startedOf at h
  split at h
  · cases h
  · cases hbody : Client.readBody StartPayload r with
    | error fault =>
      rw [hbody] at h
      cases h
    | ok payload =>
      rw [hbody] at h
      cases hid : payload.id? with
      | none =>
        simp only [bind, Except.bind, hid] at h
        cases h
      | some id =>
        simp only [bind, Except.bind, hid] at h
        cases h
        obtain ⟨v, -, hv⟩ := Option.bind_eq_some_iff.1 hid
        exact trim_jobIdOf hv

theorem Client.trim_start {settings : WorkerSettings} {e : Endpoint} {s : Submission} {w : World}
    {job : StartedJob} (h : ((Client.start settings e s).run w).1 = .ok job) :
    trim job.id ≠ "" := by
  rw [Client.start_run] at h
  obtain ⟨-, reply, -, -, hstarted⟩ := Client.attempt_ok h
  exact Client.trim_startedOf hstarted

/-! ## Jobs from their start to their end -/

section

variable (settings : WorkerSettings) (e : Endpoint) (job : String) (hint : Option String)
  (s : Submission) (w : World)

/-- A single look at a job. -/
theorem Job.clear_check :
    ((Job.check settings e job hint).run w).1.Clear ((Job.check settings e job hint).run w).2.disk := by
  unfold Job.check
  rw [Action.run_bind]
  cases hpoll : ((Client.poll settings e job).run w).1 with
  | ok report =>
    have hdue : (Finding.ofReport report none).artifactDue =
        decide ((Finding.ofReport report none).snapshot.status = .complete) := rfl
    have hsound : (Finding.ofReport report none).snapshot.Sound :=
      (report.wellFormed_snapshot none).sound
    exact Finding.clear_settle settings e job hint _ hsound hdue
  | error f => exact ProgressAnswer.clear_ofFault _ (Client.faults_poll hpoll).code_ne

theorem Follower.clear_lateAnswer {σ : Type} (x : Follower σ) (rules : FollowRules) (t : σ) (i : Nat)
    (d : Disk) : (Follower.lateAnswer rules (x.lastSnapshot t i)).Clear d := by
  refine .of_outcome (o := .failed) ⟨rfl, rfl, .timeout, nofun, rfl⟩ ?_ nofun
  cases hlast : x.lastSnapshot t i with
  | none => exact Double.isPercent_zero
  | some last => exact (x.wellFormed_lastSnapshot t i last hlast).progress.2

/-- A job that is followed to its end is not running in the end. -/
theorem Job.clear_follow :
    ((Job.follow settings e job hint).run w).1.Clear
        ((Job.follow settings e job hint).run w).2.disk ∧
      ((Job.follow settings e job hint).run w).1.status ≠ .processing := by
  let x := Job.follower settings e job hint w.clock
  obtain ⟨i, hstop, first⟩ := Job.exists_first_stop settings e job hint w
  obtain ⟨result, hresult⟩ := x.exists_comesTo (Job.rulesOf settings) w hstop
  have hrun : (Job.follow settings e job hint).run w = (x.conclude result).run (x.after w i) :=
    x.run_of_comesTo (Job.rulesOf settings) w first hresult _
  rw [hrun]
  cases hresult with
  | @ended finding hends =>
    have hdue := Follower.artifactDue_of_endsAt x (Job.rulesOf settings) w first hends
    obtain ⟨report, -, rfl, hterminal⟩ := hends
    have hsound := (Finding.wellFormed_ofReport report (x.wellFormed_lastSnapshot w i)).sound
    refine ⟨Finding.clear_settle settings e job hint _ hsound hdue, ?_⟩
    have hstatus := Finding.status_settle
      (Finding.ofReport report (x.lastSnapshot w i)) x.fetch (x.after w i)
    intro hrunning
    rw [Follower.conclude, hstatus] at hrunning
    rw [Snapshot.isTerminal, hrunning] at hterminal
    cases hterminal
  | @failed f houtcome =>
    have hpoll : ((Client.poll settings e job).run (x.before w i)).1 = .error f := houtcome
    exact ⟨ProgressAnswer.clear_ofFault _ (Client.faults_poll hpoll).code_ne,
      ProgressAnswer.status_ofFault _⟩
  | late => exact ⟨Follower.clear_lateAnswer x _ w _ _, fun hrunning => by cases hrunning⟩

end

/-! ## The operations of the service -/

/-- The checks of a request are those of its submission and of its endpoint. -/
theorem Service.isRefusal_checkRequest {d : Disk} {r : StartRequest} {f : WorkerFault}
    (h : Service.checkRequest d r = .error f) : f.IsRefusal := by
  unfold Service.checkRequest at h
  cases hs : Submission.prepare d r.filePath r.prompt r.trimStart r.trimEnd with
  | error fault =>
    simp only [hs, bind, Except.bind] at h
    cases h
    exact Submission.isRefusal_prepare hs
  | ok submission =>
    cases he : Endpoint.ofText r.workerUrl with
    | error fault =>
      simp only [hs, he, bind, Except.bind] at h
      cases h
      exact Endpoint.isRefusal_ofText he
    | ok e =>
      simp only [hs, he, bind, Except.bind] at h
      cases h

theorem Rejection.code_ofMedia (f : MediaFault) : (Rejection.ofMedia f).code ≠ .downloadFailed := by
  cases f <;> exact nofun

namespace Service

variable {settings : ServiceSettings} {encoder : Encoder} {r : StartRequest} {w : World}

section

variable {job : Prepared} {window : TrimWindow}

theorem prepare_of_fault {f : WorkerFault} (h : checkRequest w.disk r = .error f) :
    (prepare settings encoder r).run w = (.error (.ofWorker f), w) := by
  unfold prepare
  rw [Action.run_bind, Action.run_get, h]
  rfl

theorem prepare_of_whole (h : checkRequest w.disk r = .ok job) (hwindow : job.submission.window = none) :
    (prepare settings encoder r).run w = (.ok job, w) := by
  unfold prepare
  rw [Action.run_bind, Action.run_get]
  simp only [h, hwindow]
  rfl

theorem prepare_of_window (h : checkRequest w.disk r = .ok job)
    (hwindow : job.submission.window = some window) :
    let trimmed := (Trim.run settings.cacheDir encoder job.submission.source window).run w
    (prepare settings encoder r).run w =
      ((trimmed.1.mapError Rejection.ofMedia).map fun clip =>
        { job with submission := job.submission.withUpload clip }, trimmed.2) := by
  unfold prepare
  rw [Action.run_bind, Action.run_get]
  simp only [h, hwindow, Action.run_bind]
  generalize (Trim.run settings.cacheDir encoder job.submission.source window).run w = trimmed
  obtain ⟨f | clip, w₁⟩ := trimmed <;> rfl

end

/-- A job is not prepared because its request is refused, or because its trim fails. -/
theorem prepare_eq_error {rejection : Rejection}
    (h : ((prepare settings encoder r).run w).1 = .error rejection) :
    (∃ f, checkRequest w.disk r = .error f ∧ rejection = .ofWorker f) ∨
    ∃ source window f, ((Trim.run settings.cacheDir encoder source window).run w).1 = .error f ∧
      rejection = .ofMedia f := by
  cases hcheck : checkRequest w.disk r with
  | error f =>
    rw [prepare_of_fault hcheck] at h
    cases h
    exact .inl ⟨f, rfl, rfl⟩
  | ok job =>
    cases hwindow : job.submission.window with
    | none =>
      rw [prepare_of_whole hcheck hwindow] at h
      cases h
    | some window =>
      rw [prepare_of_window hcheck hwindow] at h
      cases htrim : ((Trim.run settings.cacheDir encoder job.submission.source window).run w).1 with
      | error f =>
        simp only [htrim] at h
        cases h
        exact .inr ⟨_, _, f, htrim, rfl⟩
      | ok clip =>
        simp only [htrim] at h
        cases h

theorem prepare_rejection {rejection : Rejection}
    (h : ((prepare settings encoder r).run w).1 = .error rejection) :
    rejection.code ≠ .downloadFailed := by
  rcases prepare_eq_error h with ⟨f, hcheck, rfl⟩ | ⟨source, window, f, -, rfl⟩
  · exact (isRefusal_checkRequest hcheck).code_ne
  · exact Rejection.code_ofMedia f

/-- An operation that prepares a job gives the answer of a rejection, or goes on with the job. -/
theorem respond_eq_ok {α : Type} {rejection : Rejection} {answer : Rejection → α} {a : α}
    (h : rejection.respond answer = .ok a) : a = answer rejection := by
  unfold Rejection.respond at h
  split at h
  · cases h
  · cases h
    rfl

theorem isStarted_or_isFailed {a : StartAnswer} {w' : World}
    (h : (start settings encoder r).run w = (.ok a, w')) : a.IsStarted ∨ a.IsFailed := by
  unfold start at h
  rw [Action.run_bind] at h
  generalize (prepare settings encoder r).run w = prepared at h
  obtain ⟨rejection | job, w₁⟩ := prepared
  · obtain rfl := respond_eq_ok (Prod.mk.inj h).1
    exact .inr ⟨rfl, rfl, _, rfl⟩
  · simp only [Action.run_bind] at h
    cases hstart : ((Client.start settings.worker job.endpoint job.submission).run w₁).1 with
    | error f =>
      rw [hstart] at h
      cases h
      exact .inr ⟨rfl, rfl, _, rfl⟩
    | ok started =>
      rw [hstart] at h
      cases h
      exact .inl ⟨⟨_, rfl, Client.trim_start hstart⟩, rfl, rfl⟩

theorem clear_progress {request : ProgressRequest} {a : ProgressAnswer} {w' : World}
    (h : (progress settings request).run w = (.ok a, w')) : a.Clear w'.disk := by
  unfold progress at h
  cases hid : nonBlank? request.jobId with
  | none =>
    simp only [hid] at h
    exact absurd (congrArg Prod.fst h) nofun
  | some job =>
    cases he : Endpoint.ofText request.workerUrl with
    | error f =>
      simp only [hid, he] at h
      exact absurd (congrArg Prod.fst h) nofun
    | ok e =>
      simp only [hid, he, Action.run_bind] at h
      have hclear := Job.clear_check settings.worker e job request.sourceName w
      generalize (Job.check settings.worker e job request.sourceName).run w = checked at h hclear
      cases h
      exact hclear

theorem clear_process {a : ProgressAnswer} {w' : World}
    (h : (process settings encoder r).run w = (.ok a, w')) :
    a.Clear w'.disk ∧ a.status ≠ .processing := by
  unfold process at h
  rw [Action.run_bind] at h
  cases hprepare : (prepare settings encoder r).run w with
  | mk prepared w₁ =>
  rw [hprepare] at h
  cases prepared with
  | error rejection =>
    have hcode := prepare_rejection (congrArg Prod.fst hprepare)
    obtain rfl := respond_eq_ok (Prod.mk.inj h).1
    refine ⟨ProgressAnswer.clear_failed _ hcode _ _, fun hrunning => ?_⟩
    replace hrunning :
      (if rejection.code = .jobNotFound then JobStatus.notFound else .error) = .processing :=
        hrunning
    split at hrunning <;> cases hrunning
  | ok job =>
    simp only [Job.process, Action.run_bind] at h
    cases hstart : ((Client.start settings.worker job.endpoint job.submission).run w₁).1 with
    | error f =>
      rw [hstart] at h
      cases h
      exact ⟨ProgressAnswer.clear_ofFault _ (Client.faults_start hstart).code_ne,
        ProgressAnswer.status_ofFault f⟩
    | ok started =>
      rw [hstart] at h
      cases h
      exact Job.clear_follow settings.worker job.endpoint started.id job.submission.hint? _

/-- No answer of the service is ambiguous, whatever the worker, the network and the disk do: a start
has started a job or has failed, and an answer about a job has one of five outcomes, names no file
that is not there, and is not about a running job when the job was followed to its end. Whatever the
download of the artifact comes to, a complete job stays complete. -/
theorem answers_clear (settings : ServiceSettings) (encoder : Encoder) (w : World) :
    (∀ r a w', (start settings encoder r).run w = (.ok a, w') →
      (a.IsStarted ∨ a.IsFailed) ∧ ¬ (a.IsStarted ∧ a.IsFailed)) ∧
    (∀ r a w', (progress settings r).run w = (.ok a, w') → a.Clear w'.disk) ∧
    (∀ r a w', (process settings encoder r).run w = (.ok a, w') →
      a.Clear w'.disk ∧ a.status ≠ .processing) ∧
    ∀ (finding : Finding) (fetch : ArtifactRef → Action (Except WorkerFault Artifact)) (w : World),
      ((finding.settle fetch).run w).1.status = finding.snapshot.status := by
  refine ⟨fun r a w' h => ⟨isStarted_or_isFailed h, ?_⟩, fun r a w' h => clear_progress h,
    fun r a w' h => clear_process h, fun finding fetch w => finding.status_settle fetch w⟩
  exact fun ⟨hs, hf⟩ => StartAnswer.not_isFailed_of_isStarted hs hf

/-! ## A sample -/

/-- A world with a worker that takes a job on, has completed it, and has an artifact of three bytes. -/
def sampleWorld : World where
  disk := ⟨[(["a.mp4"], .file [1, 2, 3])]⟩
  network := .single "[::1]:8080"
    [("POST /start-job", [.reply ⟨200, none, [bytesOf "\x7b\"job_id\":\"j\"\x7d"], true⟩]),
      ("GET /progress/j", [.reply ⟨200, none,
        [bytesOf "\x7b\"status\":\"complete\",\"download_url\":\"/d/x.mp4\"\x7d"], true⟩]),
      ("GET /d/x.mp4", [.reply ⟨200, none, [[1, 2], [3]], true⟩])]
  tools := .empty
  rehearsed := []
  clock := 0
  drawn := 0

def sampleStart : StartRequest := ⟨"/a.mp4", "p", "http://[::1]:8080", none, none⟩

def sampleProgress : ProgressRequest := ⟨"j", "http://[::1]:8080", none⟩

/-- A request for a file that is not there. -/
def sampleMissing : StartRequest := ⟨"/b.mp4", "p", "http://[::1]:8080", none, none⟩

def sampleAnswer : ProgressAnswer :=
  ⟨.complete, "complete", 100, "Processing complete!", some "/output/colab_x_j.mp4", none, none⟩

def sampleStarted : StartAnswer := .started "j" "Processing started for a.mp4"

def sampleFailure : ProgressAnswer := .failed .fileNotFound "File not found: /b.mp4"

theorem answers_clear_sample :
    (∃ w', (start {} (.tools 1000) sampleStart).run sampleWorld = (.ok sampleStarted, w') ∧
      sampleStarted.IsStarted) ∧
    (∃ w', (progress {} sampleProgress).run sampleWorld = (.ok sampleAnswer, w') ∧
      sampleAnswer.Clear w'.disk) ∧
    ∃ w', (process {} (.tools 1000) sampleMissing).run sampleWorld = (.ok sampleFailure, w') ∧
      sampleFailure.Clear w'.disk ∧ sampleFailure.status ≠ .processing := by
  have hstart : ((start {} (.tools 1000) sampleStart).run sampleWorld).1 = .ok sampleStarted := by
    decide +kernel
  have hprogress : ((progress {} sampleProgress).run sampleWorld).1 = .ok sampleAnswer := by
    decide +kernel
  have hprocess : ((process {} (.tools 1000) sampleMissing).run sampleWorld).1 =
      .ok sampleFailure := by
    decide +kernel
  obtain ⟨starts, progresses, processes, -⟩ := answers_clear {} (.tools 1000) sampleWorld
  have hstarts := Action.run_of_fst hstart
  have hprogresses := Action.run_of_fst hprogress
  have hprocesses := Action.run_of_fst hprocess
  have hstarted := (starts _ _ _ hstarts).1
  exact ⟨⟨_, hstarts, hstarted.resolve_right fun h => absurd h.status (by decide)⟩,
    ⟨_, hprogresses, progresses _ _ _ hprogresses⟩, ⟨_, hprocesses, processes _ _ _ hprocesses⟩⟩

end Service

end ClipRelay
