import ClipRelay.Proofs.Clip.Cache
import ClipRelay.Proofs.Clip.Names
import ClipRelay.Proofs.Disk.Standing
import ClipRelay.Proofs.Worker.Policy

/-!
# Nothing is done for a job before it is prepared

The three operations that start a job (`Launch`) prepare it in the same way and go on with it only
then (`Launch.perform_eq`). What a request has to be for that is said twice, for the checks that need
no encoder (`StartRequest.Passes`) and for the whole preparation (`Service.Prepares`); both are exactly
what the service does (`Service.checkRequest_eq_ok_iff`, `Service.prepare_eq_ok_iff`).

* `Service.prepare_of_no_window`: no encoder has a part in the preparation of a request unless that
  passes and asks for a window.
* `Trim.quiet_run`: a trim whose encoder asks nobody leaves the worker unasked.
* `Service.sendsIn_proceed`: the file that is sent for a job is the one that was prepared.
* `Service.Prepares.apart`: with a window, that is not the source, unless a link stands in its place.
* `Service.nothing_unjustified`: all of this together, for each of the operations.
* `Service.source_sent_behind_link`: what is sent when such a link leads to the source.
-/

namespace ClipRelay

open Text

/-! ## Operations -/

/-- The operations that start a job. -/
inductive Launch
  | start
  | process
  | stream

namespace Launch

/-- What an operation answers when the request is not refused. -/
def Answer : Launch → Type
  | start => StartAnswer
  | process => ProgressAnswer
  | stream => List Event

def perform (settings : ServiceSettings) (encoder : Encoder) (r : StartRequest) :
    (op : Launch) → Action (Except String op.Answer)
  | start => Service.start settings encoder r
  | process => Service.process settings encoder r
  | stream => Service.stream settings encoder r

/-- How an operation tells of a job that is not prepared. -/
def reject : (op : Launch) → Rejection → op.Answer
  | start => Rejection.toStart
  | process => Rejection.toProgress
  | stream => Rejection.toEvents

/-- What an operation does with a job that is prepared. -/
def proceed (settings : WorkerSettings) (job : Prepared) : (op : Launch) → Action op.Answer
  | start => do return Service.startAnswer (← Client.start settings job.endpoint job.submission)
  | process => Job.process settings job.endpoint job.submission
  | stream => Relay.run settings job.endpoint job.submission

variable (settings : ServiceSettings) (encoder : Encoder) (r : StartRequest) (op : Launch)

theorem perform_eq : op.perform settings encoder r = (do
    match ← Service.prepare settings encoder r with
    | .error rejection => return rejection.respond op.reject
    | .ok job => return .ok (← op.proceed settings.worker job)) := by
  cases op <;> rfl

variable {settings encoder r} {w w₁ : World}

theorem perform_of_rejected {rejection : Rejection}
    (h : (Service.prepare settings encoder r).run w = (.error rejection, w₁)) :
    (op.perform settings encoder r).run w = (rejection.respond op.reject, w₁) := by
  rw [perform_eq, Action.run_bind, h]
  rfl

theorem perform_of_prepared {job : Prepared}
    (h : (Service.prepare settings encoder r).run w = (.ok job, w₁)) :
    (op.perform settings encoder r).run w =
      (.ok ((op.proceed settings.worker job).run w₁).1, ((op.proceed settings.worker job).run w₁).2) := by
  rw [perform_eq, Action.run_bind, h]
  rfl

end Launch

/-! ## What is checked -/

/-- A request passes the checks on a disk and asks for this job: its file can be read, its prompt is
not blank, its bounds give a window or none, and its URL stands for an endpoint. -/
structure StartRequest.Passes (r : StartRequest) (d : Disk) (job : Prepared) : Prop where
  source : nonBlank? r.filePath = some job.submission.source
  readable : ∃ bs, d.content job.submission.source = .ok bs
  prompt : nonBlank? r.prompt = some job.submission.prompt
  window : TrimWindow.resolve r.trimStart r.trimEnd = .ok job.submission.window
  endpoint : Endpoint.ofText r.workerUrl = .ok job.endpoint
  upload : job.submission.upload = job.submission.source

namespace Submission

variable {d : Disk} {path : String}

theorem checkFile_eq_ok_iff : checkFile d path = .ok () ↔ ∃ bs, d.content path = .ok bs := by
  unfold checkFile Disk.content
  cases d.status path with
  | error f => simp [bind, Except.bind]
  | ok found =>
    obtain ⟨q, e⟩ := found
    cases e <;> simp [bind, Except.bind, pure, Except.pure]

theorem prepare_eq_ok_iff {file prompt : String} {start stop : Option Double} {s : Submission} :
    prepare d file prompt start stop = .ok s ↔
      nonBlank? file = some s.source ∧ (∃ bs, d.content s.source = .ok bs) ∧
      nonBlank? prompt = some s.prompt ∧ TrimWindow.resolve start stop = .ok s.window ∧
      s.upload = s.source := by
  unfold prepare
  cases hfile : nonBlank? file with
  | none => simp
  | some source =>
    cases hcheck : checkFile d source with
    | error f =>
      have hno : ¬ ∃ bs, d.content source = .ok bs := by
        rw [← checkFile_eq_ok_iff, hcheck]
        exact nofun
      simp only [hcheck, bind, Except.bind]
      constructor
      · exact nofun
      · rintro ⟨hsource, hread, -⟩
        obtain rfl := Option.some.inj hsource
        exact absurd hread hno
    | ok u =>
      have hread : ∃ bs, d.content source = .ok bs := checkFile_eq_ok_iff.1 hcheck
      simp only [hcheck, bind, Except.bind]
      cases hprompt : nonBlank? prompt with
      | none => simp
      | some prompt' =>
        cases hwindow : TrimWindow.resolve start stop with
        | error f => simp
        | ok window =>
          obtain ⟨source', upload', prompt'', window'⟩ := s
          simp only [pure, Except.pure, Except.ok.injEq, Option.some.injEq, mk.injEq]
          constructor
          · rintro ⟨rfl, rfl, rfl, rfl⟩
            exact ⟨rfl, hread, rfl, rfl, rfl⟩
          · rintro ⟨rfl, -, rfl, rfl, rfl⟩
            exact ⟨rfl, rfl, rfl, rfl⟩

end Submission

namespace Service

variable {settings : ServiceSettings} {encoder : Encoder} {r : StartRequest} {w w₁ : World}
  {job : Prepared} {window : TrimWindow}

theorem checkRequest_eq_ok_iff {d : Disk} : checkRequest d r = .ok job ↔ r.Passes d job := by
  obtain ⟨endpoint, submission⟩ := job
  have hsplit : checkRequest d r = .ok ⟨endpoint, submission⟩ ↔
      Submission.prepare d r.filePath r.prompt r.trimStart r.trimEnd = .ok submission ∧
        Endpoint.ofText r.workerUrl = .ok endpoint := by
    unfold checkRequest
    cases Submission.prepare d r.filePath r.prompt r.trimStart r.trimEnd with
    | error f => simp [bind, Except.bind]
    | ok s =>
      cases Endpoint.ofText r.workerUrl with
      | error f => simp [bind, Except.bind]
      | ok e => simp [bind, Except.bind, pure, Except.pure, and_comm]
  rw [hsplit, Submission.prepare_eq_ok_iff]
  exact ⟨fun ⟨⟨hs, hread, hp, hw, hu⟩, he⟩ => ⟨hs, hread, hp, hw, he, hu⟩,
    fun ⟨hs, hread, hp, hw, he, hu⟩ => ⟨⟨hs, hread, hp, hw, hu⟩, he⟩⟩

/-- A request is prepared: it passes the checks and asks for no window, or a trim has brought the clip
that takes the place of its source. -/
inductive Prepares (settings : ServiceSettings) (encoder : Encoder) (r : StartRequest) (w : World) :
    Prepared → World → Prop
  | whole {job : Prepared} : r.Passes w.disk job → job.submission.window = none →
    Prepares settings encoder r w job w
  | trimmed {job : Prepared} {window : TrimWindow} {clip : String} {w₁ : World} :
    r.Passes w.disk job → job.submission.window = some window →
    (Trim.run settings.cacheDir encoder job.submission.source window).run w = (.ok clip, w₁) →
    Prepares settings encoder r w { job with submission := job.submission.withUpload clip } w₁

/-- The request passes the checks and asks for a window. -/
def AsksForClip (r : StartRequest) (d : Disk) : Prop :=
  ∃ job window, r.Passes d job ∧ job.submission.window = some window

theorem prepare_eq_ok_iff : (prepare settings encoder r).run w = (.ok job, w₁) ↔
    Prepares settings encoder r w job w₁ := by
  constructor
  · intro h
    cases hcheck : checkRequest w.disk r with
    | error f =>
      rw [prepare_of_fault hcheck] at h
      cases h
    | ok asked =>
      have hpasses := checkRequest_eq_ok_iff.1 hcheck
      cases hwindow : asked.submission.window with
      | none =>
        rw [prepare_of_whole hcheck hwindow] at h
        cases h
        exact .whole hpasses hwindow
      | some window =>
        rw [prepare_of_window hcheck hwindow] at h
        cases htrim : (Trim.run settings.cacheDir encoder asked.submission.source window).run w with
        | mk result w₂ =>
          rw [htrim] at h
          cases result with
          | error f => cases h
          | ok clip =>
            cases h
            exact .trimmed hpasses hwindow htrim
  · rintro (⟨hpasses, hwindow⟩ | ⟨hpasses, hwindow, htrim⟩)
    · exact prepare_of_whole (checkRequest_eq_ok_iff.2 hpasses) hwindow
    · rw [prepare_of_window (checkRequest_eq_ok_iff.2 hpasses) hwindow, htrim]
      rfl

/-- Unless a request that passes asks for a window, preparing it changes nothing, and comes to the same
with every encoder. -/
theorem prepare_of_no_window (h : ¬ AsksForClip r w.disk) :
    ∃ result, ∀ encoder, (prepare settings encoder r).run w = (result, w) := by
  cases hcheck : checkRequest w.disk r with
  | error f => exact ⟨_, fun _ => prepare_of_fault hcheck⟩
  | ok job =>
    cases hwindow : job.submission.window with
    | none => exact ⟨_, fun _ => prepare_of_whole hcheck hwindow⟩
    | some window => exact absurd ⟨job, window, checkRequest_eq_ok_iff.1 hcheck, hwindow⟩ h

end Service

/-! ## Encoders that ask nobody -/

/-- An action sends no request. -/
def Quiet {α : Type} (a : Action α) : Prop := ∀ w : World, (a.run w).2.sent = w.sent

namespace Quiet

variable {α β : Type}

theorem pure (x : α) : Quiet (Pure.pure x : Action α) := fun _ => rfl

theorem bind {a : Action α} {f : α → Action β} (ha : Quiet a) (hf : ∀ x, Quiet (f x)) :
    Quiet (a >>= f) := fun w => (hf _ _).trans (ha w)

end Quiet

/-- The encoder asks nobody for anything. -/
structure Encoder.Silent (e : Encoder) : Prop where
  frameRate : ∀ source, Quiet (e.frameRate source)
  encode : ∀ t, Quiet (e.encode t)

theorem Toolbox.run_sent (name : String) (tool : Tool) (args : List String) (w : World) :
    ((run name tool args).run w).2.sent = w.sent := by
  obtain ⟨disk, hrun⟩ := run_run name tool args w
  rw [hrun]

namespace Encoder

theorem silent_tools (timeout : Nat) : (tools timeout).Silent where
  frameRate source w := by
    obtain ⟨fps, result, w', hrun, hprobed⟩ := probed_frameRate timeout source w
    rw [hrun]
    cases hprobed with
    | unasked => rfl
    | asked => exact Toolbox.run_sent _ _ _ w
  encode t w := by
    obtain ⟨result, w', hrun, hencoded⟩ := Toolbox.encoded_encode timeout t.command w
    rw [encode, hrun]
    cases hencoded with
    | missing => rfl
    | unfit => rfl
    | done => exact Toolbox.run_sent _ _ _ w
    | late => exact Toolbox.run_sent _ _ _ w
    | failed => exact Toolbox.run_sent _ _ _ w

theorem silent_rehearsal (fps : Option Double) (failure : Option String) :
    (rehearsal fps failure).Silent where
  frameRate _ := .bind (fun _ => rfl) fun _ => .pure _
  encode t := fun w => by
    obtain ⟨disk, h, -⟩ | ⟨f, h, -⟩ := encode_rehearsal fps failure t w <;> rw [h]

end Encoder

namespace Trim

variable {encoder : Encoder} {p : TrimPlan} {dir source : String} {window : TrimWindow}
  {result : Except MediaFault String} {w w' : World}

theorem Produced.sent (he : encoder.Silent) (h : Produced encoder p source window w result w') :
    w'.sent = w.sent := by
  have hprobed : ∀ {d₁ fps w₁}, (encoder.frameRate source).run { w with disk := d₁ } = (fps, w₁) →
      w₁.sent = w.sent := fun {d₁ fps w₁} hprobe => by
    simpa [hprobe] using he.frameRate source { w with disk := d₁ }
  have hencoded : ∀ {t w₁ result w₂}, (encoder.encode t).run w₁ = (result, w₂) →
      w₂.sent = w₁.sent := fun {t w₁ result w₂} hencode => by
    simpa [hencode] using he.encode t w₁
  cases h with
  | unmade => rfl
  | unopened _ hprobe =>
    have hasked := hprobed hprobe
    exact hasked
  | failed _ hprobe _ hencode =>
    have hasked := hprobed hprobe
    have hcut := hencoded hencode
    exact hcut.trans hasked
  | cut _ hprobe _ hencode =>
    have hasked := hprobed hprobe
    have hcut := hencoded hencode
    exact hcut.trans hasked

/-- A trim asks nobody if its encoder does not. -/
theorem quiet_run (he : encoder.Silent) (dir source : String) (window : TrimWindow) :
    Quiet (run dir encoder source window) := fun w => by
  rcases hrun : (run dir encoder source window).run w with ⟨result, w'⟩
  cases Ran.of_run hrun with
  | lost => rfl
  | found => rfl
  | produced _ _ _ hproduced => exact hproduced.sent he

end Trim

/-! ## What is sent -/

/-- All requests that an action sends in a world have a property. -/
def SendsIn {α : Type} (P : Request → Prop) (w : World) (a : Action α) : Prop :=
  ∃ requests, (a.run w).2.sent = w.sent ++ requests ∧ ∀ r ∈ requests, P r

namespace SendsIn

variable {α β : Type} {P : Request → Prop} {w : World}

theorem of_quiet {a : Action α} (h : Quiet a) : SendsIn P w a :=
  ⟨[], by rw [h w, List.append_nil], fun _ hr => absurd hr List.not_mem_nil⟩

theorem bind {a : Action α} {f : α → Action β} (ha : SendsIn P w a)
    (hf : SendsIn P (a.run w).2 (f (a.run w).1)) : SendsIn P w (a >>= f) := by
  obtain ⟨before, hbefore, hP⟩ := ha
  obtain ⟨after, hafter, hP'⟩ := hf
  refine ⟨before ++ after, ?_, fun r hr => (List.mem_append.1 hr).elim (hP r) (hP' r)⟩
  rw [Action.run_bind, hafter, hbefore, List.append_assoc]

end SendsIn

/-- A request that starts a job brings the content of the file at a path, if there is one, and a request
that asks for something brings nothing. -/
def Request.Carries (d : Disk) (path : String) (r : Request) : Prop :=
  r.upload.map Upload.content = if r.method = .post then (d.content path).toOption else none

section

variable {settings : WorkerSettings} {e : Endpoint} {d : Disk} {path : String}

/-- No file goes with a request that asks for something. -/
theorem Client.carries_of_get {address : String} {r : Request}
    (h : Client.getOf? settings e address = some r) : r.Carries d path := by
  obtain ⟨client, url, -, -, rfl⟩ := Client.getOf_ok (Client.getOf?_eq_some.1 h)
  rfl

/-- The form of a submission has the content of the file that it uploads. -/
theorem Client.content_of_form {s : Submission} {form : Option Upload} (h : formOf d s = .ok form) :
    form.map Upload.content = (d.content s.upload).toOption := by
  unfold formOf at h
  unfold Disk.content
  rcases hstatus : d.status s.upload with f | ⟨q, _ | _ | _⟩ <;> rw [hstatus] at h <;> cases h <;> rfl

/-- A submission is sent with the content of the file that it uploads. -/
theorem Client.carries_of_send {s : Submission} {pathOf accept : String} {r : Request}
    (h : sendOf settings e s pathOf accept d = .ok r) : r.Carries d s.upload := by
  obtain ⟨client, form, url, -, hform, -, rfl⟩ := sendOf_ok h
  exact content_of_form hform

theorem Job.carries_of_polls {job : String} {hint : Option String} {w : World}
    {requests : List Request} (h : Job.Polls settings e job hint w requests) :
    ∀ r ∈ requests, r.Carries d path := by
  cases h with
  | unasked => exact fun _ hr => absurd hr List.not_mem_nil
  | asked n hget =>
    intro r hr
    rw [List.eq_of_mem_replicate hr]
    exact Client.carries_of_get hget
  | fetched hget _ _ _ _ _ hget' =>
    intro r hr
    rcases List.mem_append.1 hr with hr | hr
    · rw [List.eq_of_mem_replicate hr]
      exact Client.carries_of_get hget
    · rw [List.mem_singleton.1 hr]
      exact Client.carries_of_get hget'

end

section

variable (settings : WorkerSettings) (e : Endpoint) (s : Submission) (w : World)

theorem Client.sendsIn_start :
    SendsIn (Request.Carries w.disk s.upload) w (start settings e s) := by
  rw [SendsIn, start_run]
  exact exists_sent_attempt fun _ => carries_of_send

theorem Relay.sendsIn_connect :
    SendsIn (Request.Carries w.disk s.upload) w (connect settings e s) := by
  rw [SendsIn, connect_run]
  exact Client.exists_sent_attempt fun _ => Client.carries_of_send

theorem Job.sendsIn_process :
    SendsIn (Request.Carries w.disk s.upload) w (process settings e s) := by
  refine .bind (Client.sendsIn_start settings e s w) ?_
  cases hstart : ((Client.start settings e s).run w).1 with
  | error f => exact .of_quiet (.pure _)
  | ok job =>
    obtain ⟨requests, hsent, hpolls⟩ := follow_sends settings e s.hint?
      ((Client.start settings e s).run w).2 (Client.trim_start hstart)
    exact ⟨requests, hsent, carries_of_polls hpolls⟩

theorem Relay.sendsIn_run : SendsIn (Request.Carries w.disk s.upload) w (run settings e s) := by
  have hlate : ∀ began event, Quiet (unlessLate settings began event) := fun _ _ _ => rfl
  refine .bind (.of_quiet fun _ => rfl) ?_
  rw [Action.run_get]
  refine .bind (sendsIn_connect settings e s w) ?_
  cases ((connect settings e s).run w).1 with
  | error f => exact .of_quiet (.bind (hlate _ _) fun _ => .pure _)
  | ok reply =>
    dsimp only
    cases (Passage.ofChunks reply.chunks reply.whole).endingOf with
    | finish event => exact .of_quiet (.bind (hlate _ _) fun _ => .pure _)
    | fetch artifact job =>
      refine .bind (.bind ?_ (.of_quiet ?_)) (.of_quiet (.bind (hlate _ _) fun _ => .pure _))
      · exact ((Download.sendsOnly_get_run settings e artifact job s.hint?).mono
          fun _ => Client.carries_of_get) _
      · split <;> exact .pure _

namespace Service

/-- The file that an operation sends for a job that is prepared is the one the job uploads. -/
theorem sendsIn_proceed (job : Prepared) (op : Launch) :
    SendsIn (Request.Carries w.disk job.submission.upload) w (op.proceed settings job) := by
  cases op with
  | start => exact .bind (Client.sendsIn_start settings _ _ w) (.of_quiet (.pure _))
  | process => exact Job.sendsIn_process settings _ _ w
  | stream => exact Relay.sendsIn_run settings _ _ w

end Service

end

/-! ## A clip is not its source -/

namespace Service

variable {settings : ServiceSettings} {encoder : Encoder} {r : StartRequest} {w w₁ : World}
  {job : Prepared} {window : TrimWindow}

/-- With a window, what is uploaded stands elsewhere than the source, unless a link stands at its
path. -/
theorem Prepares.apart (h : Prepares settings encoder r w job w₁)
    (hwindow : job.submission.window = some window) {p q : Place} {e e' : Entry}
    (hsource : w.disk.find true job.submission.source = .ok (p, some e))
    (hupload : w₁.disk.find true job.submission.upload = .ok (q, some e')) :
    q ≠ p ∨ ∃ o target, w₁.disk.find false job.submission.upload = .ok (o, some (.link target)) := by
  cases h with
  | whole _ hnone => cases hnone.symm.trans hwindow
  | @trimmed asked window' clip _ _ _ htrim =>
    obtain ⟨c, hc, hclip⟩ := Trim.path_of_run_ok (congrArg Prod.fst htrim)
    obtain ⟨p', _, hfind, rfl⟩ := Disk.canonical_eq_ok_iff.1 hc
    obtain ⟨rfl, -⟩ : p = p' ∧ _ := by simpa using hsource.symm.trans hfind
    simp only [Submission.withUpload, hclip, Trim.planOf] at hupload ⊢
    refine (Disk.find_join_or_link (isName_cacheName _ _) hupload).imp_left fun ⟨o, ho⟩ heq => ?_
    obtain ⟨-, ⟨k, -, hleads⟩, -⟩ := Disk.find_eq_ok_iff.1 hsource
    have hpieces := hleads.isPiece (fun n hn => Disk.isPiece_of_mem_namesOf hn) nofun
    rw [← heq, ho] at hpieces
    exact cacheName_ne_last hpieces window' (by rw [← ho, heq])

/-! ## Every operation -/

/-- What an operation does for a request is justified. -/
structure Justified (settings : ServiceSettings) (encoder : Encoder) (r : StartRequest) (w : World)
    (op : Launch) : Prop where
  /-- The encoder is run only for a request that passes the checks and asks for a window: for any other,
  the world is as it was when the job is prepared or rejected, and all encoders come to the same. -/
  encoder_idle : ¬ AsksForClip r w.disk →
    ((prepare settings encoder r).run w).2 = w ∧
      ∀ encoder', (op.perform settings encoder' r).run w = (op.perform settings encoder r).run w
  /-- Nobody is asked for anything before the job is prepared. -/
  silent : encoder.Silent → ((prepare settings encoder r).run w).2.sent = w.sent
  /-- What is sent then is sent for a job that is prepared, and what starts the job brings the content
  of the file that the job uploads. -/
  sent : ∃ requests,
    ((op.perform settings encoder r).run w).2.sent =
      ((prepare settings encoder r).run w).2.sent ++ requests ∧
    ∀ request ∈ requests, ∃ job w₁, (prepare settings encoder r).run w = (.ok job, w₁) ∧
      Prepares settings encoder r w job w₁ ∧ request.Carries w₁.disk job.submission.upload
  /-- The job of a request without a window uploads the source. -/
  source : ∀ job w₁, Prepares settings encoder r w job w₁ → job.submission.window = none →
    w₁ = w ∧ job.submission.upload = job.submission.source
  /-- The job of a request with a window uploads the clip that a trim has handed over, which stands
  elsewhere than the source unless a link stands at its path. -/
  clip : ∀ job w₁ window, Prepares settings encoder r w job w₁ → job.submission.window = some window →
    (Trim.run settings.cacheDir encoder job.submission.source window).run w =
      (.ok job.submission.upload, w₁) ∧
    ∀ p q e e', w.disk.find true job.submission.source = .ok (p, some e) →
      w₁.disk.find true job.submission.upload = .ok (q, some e') →
      q ≠ p ∨ ∃ o target, w₁.disk.find false job.submission.upload = .ok (o, some (.link target))

theorem prepares_window (h : Prepares settings encoder r w job w₁)
    (hwindow : job.submission.window = some window) :
    (Trim.run settings.cacheDir encoder job.submission.source window).run w =
      (.ok job.submission.upload, w₁) := by
  cases h with
  | whole _ hnone => cases hnone.symm.trans hwindow
  | trimmed _ hsome htrim =>
    obtain rfl := Option.some.inj (hwindow.symm.trans hsome)
    exact htrim

theorem prepares_no_window (h : Prepares settings encoder r w job w₁)
    (hwindow : job.submission.window = none) :
    w₁ = w ∧ job.submission.upload = job.submission.source := by
  cases h with
  | whole hpasses _ => exact ⟨rfl, hpasses.upload⟩
  | trimmed _ hsome => cases hwindow.symm.trans hsome

theorem quiet_prepare (he : encoder.Silent) (settings : ServiceSettings) (r : StartRequest) :
    Quiet (prepare settings encoder r) := by
  intro w
  cases hcheck : checkRequest w.disk r with
  | error f => rw [prepare_of_fault hcheck]
  | ok job =>
    cases hwindow : job.submission.window with
    | none => rw [prepare_of_whole hcheck hwindow]
    | some window =>
      rw [prepare_of_window hcheck hwindow]
      exact Trim.quiet_run he _ _ _ w

theorem perform_eq_of_prepare_eq {encoder' : Encoder} (op : Launch)
    (h : (prepare settings encoder' r).run w = (prepare settings encoder r).run w) :
    (op.perform settings encoder' r).run w = (op.perform settings encoder r).run w := by
  rw [Launch.perform_eq, Launch.perform_eq, Action.run_bind, Action.run_bind, h]

/-- Whatever a request asks for, in every world, with every encoder and for each of the operations that
start a job: nothing is done before it is justified. A request with a window sends its source only
through a link in the place of the clip. -/
theorem nothing_unjustified (settings : ServiceSettings) (encoder : Encoder) (r : StartRequest)
    (w : World) (op : Launch) : Justified settings encoder r w op where
  encoder_idle h := by
    obtain ⟨result, hresult⟩ : ∃ result, ∀ encoder, (prepare settings encoder r).run w = (result, w) :=
      prepare_of_no_window h
    exact ⟨by rw [hresult], fun encoder' =>
      perform_eq_of_prepare_eq op ((hresult encoder').trans (hresult encoder).symm)⟩
  silent he := quiet_prepare he settings r w
  sent := by
    cases hprepare : (prepare settings encoder r).run w with
    | mk prepared w₁ =>
      cases prepared with
      | error rejection =>
        rw [op.perform_of_rejected hprepare]
        exact ⟨[], (List.append_nil _).symm, fun _ hr => absurd hr List.not_mem_nil⟩
      | ok job =>
        rw [op.perform_of_prepared hprepare]
        obtain ⟨requests, hsent, hcarries⟩ := sendsIn_proceed settings.worker w₁ job op
        exact ⟨requests, hsent, fun request hr =>
          ⟨job, w₁, rfl, prepare_eq_ok_iff.1 hprepare, hcarries request hr⟩⟩
  source _ _ h hwindow := prepares_no_window h hwindow
  clip _ _ _ h hwindow := ⟨prepares_window h hwindow, fun _ _ _ _ hsource hupload =>
    h.apart hwindow hsource hupload⟩

/-- The source of the sample with a window. -/
def sampleTrimmed : StartRequest := { sampleStart with trimStart := some 0, trimEnd := some 1 }

/-- The path of its clip. -/
def sampleClip : String := "output/trim_cache/a_b6669ba0_0.00_1.00.mp4"

/-- What the encoder of the sample writes. -/
def sampleCut : Bytes := bytesOf "0.00-1.00 gop=25"

theorem nothing_unjustified_sample :
    ∃ job w₁ request, Prepares {} Trim.sampleEncoder sampleTrimmed sampleWorld job w₁ ∧
      job.submission.upload = sampleClip ∧ w₁.disk.content sampleClip = .ok sampleCut ∧
      ((Launch.start.perform {} Trim.sampleEncoder sampleTrimmed).run sampleWorld).2.sent = [request] ∧
      request.upload.map Upload.content = some sampleCut := by
  have hprepare : ((prepare {} Trim.sampleEncoder sampleTrimmed).run sampleWorld).1.map
      (fun job => job.submission.upload) = .ok sampleClip := by decide +kernel
  have hstart : ((Launch.start.perform {} Trim.sampleEncoder sampleTrimmed).run
      sampleWorld).2.sent.map (fun r => (r.method, r.upload.map Upload.content)) = [(.post, some sampleCut)] := by
    decide +kernel
  have h := nothing_unjustified {} Trim.sampleEncoder sampleTrimmed sampleWorld .start
  obtain ⟨requests, hsent, hjustified⟩ := h.sent
  rw [h.silent (Encoder.silent_rehearsal _ _)] at hsent
  obtain rfl : _ = requests := hsent
  obtain ⟨request, hone, hrequest⟩ := List.map_eq_singleton_iff.1 hstart
  obtain ⟨hpost, hcut⟩ := Prod.mk.inj hrequest
  obtain ⟨job, w₁, hrun, hprepares, hcarries⟩ :=
    hjustified request (hone ▸ List.mem_singleton_self request)
  rw [hrun] at hprepare
  have hupload : job.submission.upload = sampleClip := Except.ok.inj hprepare
  rw [Request.Carries, hpost, hcut, if_pos rfl, hupload] at hcarries
  have hcontent : w₁.disk.content sampleClip = .ok sampleCut := by
    cases hc : w₁.disk.content sampleClip with
    | error f =>
      rw [hc] at hcarries
      cases hcarries
    | ok bs =>
      rw [hc] at hcarries
      exact congrArg Except.ok (Option.some.inj hcarries).symm
  exact ⟨job, w₁, request, hprepares, hupload, hcontent, hone, hcut⟩

/-- The world of the sample with a link to the source in the place of the clip. -/
def linkedWorld : World where
  __ := sampleWorld
  disk := ⟨[(["a.mp4"], .file [1, 2, 3]), (["output"], .dir), (["output", "trim_cache"], .dir),
    (["output", "trim_cache", "a_b6669ba0_0.00_1.00.mp4"], .link "/a.mp4")]⟩

/-- A link in the place of the clip is taken for it, and the request with a window sends its source. -/
theorem source_sent_behind_link :
    let ran := (start {} Trim.sampleEncoder sampleTrimmed).run linkedWorld
    linkedWorld.disk.canonical sampleClip = linkedWorld.disk.canonical "/a.mp4" ∧
      ran.1 = .ok (.started "j" "Processing started for a_b6669ba0_0.00_1.00.mp4") ∧
      ran.2.rehearsed = [] ∧
      ran.2.sent.map (fun r => (r.method, r.upload.map Upload.content)) =
        [(.post, (linkedWorld.disk.content "/a.mp4").toOption)] := by
  decide +kernel

end Service

end ClipRelay
