import ClipRelay.Proofs.Clip.Cache
import ClipRelay.Proofs.Service.Preparation
import ClipRelay.Proofs.Worker.Hearing

/-!
# Details are cut once

A text of others is cut when a failure is made of it, when the failure is asked for its details, and
when these are attached to an answer or an event; each cut after the first changes nothing
(`excerpt_excerpt`). So every carrier of a failure shows one and the same excerpt (`Rejection.Shows`,
`WorkerFault.Shows`, `MediaFault.Shows`).

* `WorkerFault.shows_ofBody`, `MediaFault.shows_ofEncoder`: what is shown of each failure that is made
  of a text.
* `Trim.quoted_run`: the encoder alone has something to say when a trim fails.
* `Service.details_cut_once`: the details that a client gets, by whatever operation, are the excerpt of
  a text of the worker (`Network.Tells`) or of the encoder (`Encoder.Tells`).
-/

namespace ClipRelay

open Text

/-! ## The carriers of a failure -/

/-- All that is told of a rejection has these details. -/
structure Rejection.Shows (r : Rejection) (details : Option String) : Prop where
  own : r.details = details
  start : r.toStart.details = details
  progress : r.toProgress.details = details
  events : r.toEvents = [.error r.code r.message details]

/-- All that is told of a failure of the worker has these details. -/
structure WorkerFault.Shows (f : WorkerFault) (details : Option String) : Prop where
  own : f.details = details
  start : (Service.startAnswer (.error f)).details = details
  progress : (ProgressAnswer.ofFault f).details = details
  event : f.event = .error f.code f.message details
  rejection : (Rejection.ofWorker f).Shows details

/-- All that is told of a failure of the media tools has these details. -/
structure MediaFault.Shows (f : MediaFault) (details : Option String) : Prop where
  own : f.diagnostic = details
  rejection : (Rejection.ofMedia f).Shows details

theorem map_excerpt_excerpt (o : Option String) : (o.map excerpt).map excerpt = o.map excerpt := by
  cases o with
  | none => rfl
  | some s => exact congrArg some (excerpt_excerpt s)

/-- Details that have been cut are shown as they are. -/
theorem Rejection.shows_of_cut {r : Rejection} {o : Option String} (h : r.details = o.map excerpt) :
    r.Shows (o.map excerpt) where
  own := h
  start := (congrArg (Option.map excerpt) h).trans (map_excerpt_excerpt o)
  progress := (congrArg (Option.map excerpt) h).trans (map_excerpt_excerpt o)
  events := by
    rw [toEvents, Event.failure, h, map_excerpt_excerpt]

theorem WorkerFault.shows_of_cut {f : WorkerFault} {o : Option String} (h : f.details = o.map excerpt) :
    f.Shows (o.map excerpt) where
  own := h
  start := (congrArg (Option.map excerpt) h).trans (map_excerpt_excerpt o)
  progress := (congrArg (Option.map excerpt) h).trans (map_excerpt_excerpt o)
  event := by
    rw [WorkerFault.event, Event.failure, h, map_excerpt_excerpt]
  rejection := Rejection.shows_of_cut h

theorem MediaFault.shows_of_cut {f : MediaFault} {o : Option String} (h : f.diagnostic = o.map excerpt) :
    f.Shows (o.map excerpt) :=
  ⟨h, Rejection.shows_of_cut h⟩

/-! ## Failures made of a text -/

namespace WorkerFault

/-- A text that is shown, if there is anything in it. -/
theorem filter_ne_empty (body : String) :
    (some body).filter (· ≠ "") = if body = "" then none else some body := by
  by_cases h : body = "" <;> simp [Option.filter, h]

/-- Of a body that is kept, the excerpt is shown, unless there is nothing in it. -/
theorem shows_of_body {f : WorkerFault} {body : String} (h : f.body? = some body) :
    f.Shows (if body = "" then none else some (excerpt body)) := by
  have hdetails : f.details = (if body = "" then none else some body).map excerpt := by
    rw [details, h, filter_ne_empty]
  have hshown := shows_of_cut hdetails
  rwa [apply_ite (Option.map excerpt)] at hshown

theorem recognizes_empty : WarningPage.recognizes "" = false := by decide

/-- Of a body that is no JSON, the excerpt is shown if it is a warning page. -/
theorem shows_ofBody (body : String) :
    (ofBody body).Shows (if WarningPage.recognizes body then some (excerpt body) else none) := by
  cases hpage : WarningPage.recognizes body with
  | false =>
    rw [ofBody, hpage]
    exact shows_of_cut (f := .invalidResponse _) (o := none) rfl
  | true =>
    have hbody : body ≠ "" := by
      rintro rfl
      rw [recognizes_empty] at hpage
      cases hpage
    have hshown := shows_of_body (f := .warningPage (excerpt body)) rfl
    rw [if_neg (excerpt_ne_empty hbody), excerpt_excerpt] at hshown
    rwa [ofBody, hpage]

end WorkerFault

namespace MediaFault

/-- Of what an encoder has written, the excerpt is shown, without the blanks around it. -/
theorem shows_ofEncoder (message : String) (output : Option String) (exit : Option Int) :
    (ofEncoder message output exit).Shows (output.map fun s => excerpt (trim s)) := by
  have hcut : (output.map fun s => excerpt (trim s)) = (output.map trim).map excerpt := by
    simp only [Option.map_map, Function.comp_def]
  rw [hcut]
  refine shows_of_cut ?_
  rw [ofEncoder, diagnostic, hcut, map_excerpt_excerpt]

theorem shows_proberFailed (message : String) (output : Option String) :
    (proberFailed message output).Shows (output.map excerpt) :=
  shows_of_cut rfl

/-- What a tool has written, as far as a failure keeps it. -/
def output? : MediaFault → Option String
  | encoderFailed _ output _ | proberFailed _ output => output
  | _ => none

theorem diagnostic_eq (f : MediaFault) : f.diagnostic = f.output?.map excerpt := by
  cases f <;> rfl

end MediaFault

/-! ## Encoders -/

/-- The texts of an encoder that fails: what the tool writes to its errors, or a rehearsal is told to
fail with, without the blanks around it, or what the failure of any other encoder keeps. -/
inductive Encoder.Tells (w : World) : Encoder → String → Prop
  | tools {timeout : Nat} {tool : Tool} : w.tools.encoder = some tool →
    Tells w (.tools timeout) (trim (lossy tool.errors))
  | rehearsal {fps : Option Double} {errors : String} :
    Tells w (.rehearsal fps (some errors)) (trim errors)
  | custom {probe : String → Action (Option Double)} {cut : ClipTask → Action (Except MediaFault Unit)}
    {t : ClipTask} {w₁ : World} {f : MediaFault} {text : String} :
    ((cut t).run w₁).1 = .error f → f.output? = some text → Tells w (.custom probe cut) text

namespace Encoder

variable {e : Encoder} {w w₁ : World} {f : MediaFault}

/-- What an encoder has to say in a world it has to say in every world with the same tools. -/
theorem Tells.of_same_tool {text : String} (h : e.Tells w₁ text)
    (hsame : (∃ timeout, e = .tools timeout) → w₁.tools.encoder = w.tools.encoder) :
    e.Tells w text := by
  cases h with
  | tools htool => exact .tools (hsame ⟨_, rfl⟩ ▸ htool)
  | rehearsal => exact .rehearsal
  | custom hcut houtput => exact .custom hcut houtput

theorem quoted_encode {t : ClipTask} (h : ((e.encode t).run w).1 = .error f) :
    Quoted (e.Tells w) f.diagnostic := by
  intro d hd
  cases e with
  | tools timeout =>
    obtain ⟨result, w', hrun, hencoded⟩ := Toolbox.encoded_encode timeout t.command w
    rw [encode, hrun] at h
    subst h
    cases hencoded with
    | missing => cases hd
    | unfit => cases hd
    | late => cases hd
    | failed _ _ htool =>
      rw [(MediaFault.shows_ofEncoder _ (some _) _).own] at hd
      exact ⟨_, .tools htool, (Option.some.inj hd).symm⟩
  | rehearsal fps failure =>
    obtain ⟨disk, hrun, -⟩ | ⟨f', hrun, hf'⟩ := encode_rehearsal fps failure t w
    · rw [hrun] at h
      cases h
    · rw [hrun] at h
      obtain rfl := Except.error.inj h
      rcases hf' with ⟨message, errors, code, rfl, rfl⟩ | ⟨reason, rfl⟩
      · rw [(MediaFault.shows_ofEncoder _ (some errors) _).own] at hd
        exact ⟨_, .rehearsal, (Option.some.inj hd).symm⟩
      · cases hd
  | custom probe cut =>
    rw [f.diagnostic_eq] at hd
    obtain ⟨text, houtput, rfl⟩ := Option.map_eq_some_iff.1 hd
    exact ⟨text, .custom h houtput, rfl⟩

/-- The media tools look for the frame rate with the tools that are there. -/
theorem encoder_frameRate (timeout : Nat) (source : String) (w : World) :
    (((Encoder.tools timeout).frameRate source).run w).2.tools.encoder = w.tools.encoder := by
  obtain ⟨fps, result, w', hrun, hprobed⟩ := probed_frameRate timeout source w
  rw [hrun]
  cases hprobed with
  | unasked => rfl
  | @asked tool _ _ =>
    obtain ⟨disk, hcalled⟩ := Toolbox.run_run Toolbox.proberName tool (Toolbox.probeArgs source) w
    rw [hcalled]

end Encoder

/-! ## Trims -/

namespace Trim

variable {e : Encoder} {p : TrimPlan} {dir source : String} {window : TrimWindow}
  {w : World} {f : MediaFault}

theorem Produced.quoted {w' : World} (h : Produced e p source window w (.error f) w') :
    Quoted (e.Tells w) f.diagnostic := by
  cases h with
  | unmade => exact .none
  | unopened => exact .none
  | @failed d₁ d₂ fps w₁ w₂ drawn working result _ _ hprobe _ hencode hf =>
    rcases hf with rfl | ⟨reason, rfl⟩
    · refine (Encoder.quoted_encode (congrArg Prod.fst hencode)).mono fun text htext =>
        htext.of_same_tool ?_
      rintro ⟨timeout, rfl⟩
      have hkept := Encoder.encoder_frameRate timeout source { w with disk := d₁ }
      rwa [hprobe] at hkept
    · exact .none

/-- What is shown of a trim that has failed is what its encoder had to say. -/
theorem quoted_run (h : ((run dir e source window).run w).1 = .error f) :
    Quoted (e.Tells w) f.diagnostic := by
  rcases hrun : (run dir e source window).run w with ⟨result, w'⟩
  rw [hrun] at h
  subst h
  cases Ran.of_run hrun with
  | lost _ hf => rcases hf with rfl | ⟨reason, rfl⟩ <;> exact .none
  | produced _ _ _ hproduced => exact hproduced.quoted

end Trim

/-! ## Operations -/

/-- The details in what an operation answers. -/
def Launch.detailsIn : (op : Launch) → op.Answer → List String
  | start, a => (StartAnswer.details a).toList
  | process, a => (ProgressAnswer.details a).toList
  | stream, events => List.filterMap Event.details? events

namespace Service

variable {settings : ServiceSettings} {encoder : Encoder} {r : StartRequest} {w : World}

/-- A job that is not prepared has the details of its trim, or none. -/
theorem quoted_prepare {rejection : Rejection}
    (h : ((prepare settings encoder r).run w).1 = .error rejection) :
    Quoted (encoder.Tells w) rejection.details := by
  rcases prepare_eq_error h with ⟨f, hcheck, rfl⟩ | ⟨source, window, f, htrim, rfl⟩
  · rw [Rejection.ofWorker, (isRefusal_checkRequest hcheck).details]
    exact .none
  · exact Trim.quoted_run htrim

/-- The texts of others that an operation may have to show: those of the encoder, and those that the
worker has to give once the job is prepared. -/
def Tells (settings : ServiceSettings) (encoder : Encoder) (r : StartRequest) (w : World)
    (text : String) : Prop :=
  encoder.Tells w text ∨ ((prepare settings encoder r).run w).2.network.Tells text

theorem quoted_toList {P : String → Prop} {details : Option String} (h : Quoted P details) :
    ∀ d ∈ details.toList, ∃ text, P text ∧ d = excerpt text := fun d hd =>
  h d (Option.mem_toList.1 hd)

/-- What the work with the worker shows of a job is quoted from the worker. -/
theorem quoted_proceed (settings : WorkerSettings) (job : Prepared) (op : Launch) (w : World) :
    ∀ d ∈ op.detailsIn ((op.proceed settings job).run w).1,
      ∃ text, w.network.Tells text ∧ d = excerpt text := by
  cases op with
  | start =>
    refine quoted_toList ?_
    change Quoted _ (startAnswer ((Client.start settings job.endpoint job.submission).run w).1).details
    cases hstart : ((Client.start settings job.endpoint job.submission).run w).1 with
    | error f => exact (Client.faults_start hstart).quoted.again
    | ok started => exact .none
  | process => exact quoted_toList (Job.quoted_process settings job.endpoint job.submission w)
  | stream =>
    intro d hd
    obtain ⟨event, hevent, hdetails⟩ := List.mem_filterMap.1 hd
    exact Relay.quoted_run settings job.endpoint job.submission w event hevent d hdetails

/-- What is told of a rejection is told with its details. -/
theorem quoted_reject {P : String → Prop} {rejection : Rejection} (op : Launch)
    (h : Quoted P rejection.details) :
    ∀ d ∈ op.detailsIn (op.reject rejection), ∃ text, P text ∧ d = excerpt text := by
  have hshown : rejection.Shows (rejection.details.map excerpt) :=
    Rejection.shows_of_cut h.map_excerpt.symm
  cases op with
  | start => exact quoted_toList (hshown.start.symm ▸ h.again)
  | process => exact quoted_toList (hshown.progress.symm ▸ h.again)
  | stream =>
    intro d hd
    change d ∈ List.filterMap Event.details? rejection.toEvents at hd
    rw [hshown.events] at hd
    exact h.again d (by simpa [Event.details?] using hd)

theorem quoted_perform {op : Launch} {a : op.Answer} {w' : World}
    (h : (op.perform settings encoder r).run w = (.ok a, w')) :
    ∀ d ∈ op.detailsIn a, ∃ text, Tells settings encoder r w text ∧ d = excerpt text := by
  rcases hprepare : (prepare settings encoder r).run w with ⟨rejection | job, w₁⟩
  · rw [Launch.perform_of_rejected op hprepare] at h
    obtain rfl := respond_eq_ok (Prod.mk.inj h).1
    exact quoted_reject op ((quoted_prepare (congrArg Prod.fst hprepare)).mono fun _ => .inl)
  · rw [Launch.perform_of_prepared op hprepare] at h
    obtain rfl := Except.ok.inj (Prod.mk.inj h).1
    intro d hd
    obtain ⟨text, htext, rfl⟩ := quoted_proceed settings.worker job op w₁ d hd
    refine ⟨text, .inr ?_, rfl⟩
    rwa [hprepare]

theorem quoted_progress {request : ProgressRequest} {a : ProgressAnswer} {w' : World}
    (h : (progress settings request).run w = (.ok a, w')) : Quoted w.network.Tells a.details := by
  unfold progress at h
  cases hid : nonBlank? request.jobId with
  | none =>
    simp only [hid] at h
    exact absurd (congrArg Prod.fst h) nofun
  | some job =>
    cases he : Endpoint.ofText request.workerUrl with
    | error f =>
      simp only [hid, he] at h
      exact absurd (congrArg Prod.fst h) nofun
    | ok e =>
      simp only [hid, he, Action.run_bind] at h
      have hquoted := Job.quoted_check settings.worker e job request.sourceName w
      generalize (Job.check settings.worker e job request.sourceName).run w = checked at h hquoted
      cases h
      exact hquoted

/-- Text of others is cut once on its way to a client, however often the cut is made. Cutting is cutting
at a boundary between two characters, and what was cut is not cut again. So all that is told of a
failure that is made of a text has the excerpt of this text, or nothing if there is nothing to show; and
whatever details an operation answers with are the excerpt of one text, which the encoder or the worker
has written. -/
theorem details_cut_once :
    (∀ s, excerpt (excerpt s) = excerpt s ∧ (excerpt s).length ≤ 503 ∧
      ((s.length ≤ 500 ∧ excerpt s = s) ∨ ∃ front rest, s = front ++ rest ∧ front.length = 500 ∧
        rest ≠ "" ∧ excerpt s = front ++ "...") ∧
      ((charOffset? s 500 = none ∧ excerpt s = s) ∨ ∃ i, charOffset? s 500 = some i ∧
        (⟨i⟩ : String.Pos.Raw).IsValid s ∧ bytesOf (excerpt s) = (bytesOf s).take i ++ bytesOf "...")) ∧
    (∀ status body,
      (WorkerFault.server status body).Shows (if body = "" then none else some (excerpt body)) ∧
      (WorkerFault.progressCheck status body).Shows (if body = "" then none else some (excerpt body)) ∧
      (WorkerFault.ofBody body).Shows
        (if WarningPage.recognizes body then some (excerpt body) else none)) ∧
    (∀ message output exit,
      (MediaFault.ofEncoder message output exit).Shows (output.map fun s => excerpt (trim s)) ∧
      (MediaFault.proberFailed message output).Shows (output.map excerpt)) ∧
    ∀ (settings : ServiceSettings) (w : World),
      (∀ encoder r (op : Launch) a w', (op.perform settings encoder r).run w = (.ok a, w') →
        ∀ d ∈ op.detailsIn a, d.length ≤ 503 ∧
          ∃ text, Tells settings encoder r w text ∧ d = excerpt text) ∧
      ∀ r a w', (progress settings r).run w = (.ok a, w') →
        ∀ d, a.details = some d → d.length ≤ 503 ∧ ∃ text, w.network.Tells text ∧ d = excerpt text := by
  have short : ∀ {P : String → Prop} {d}, (∃ text, P text ∧ d = excerpt text) →
      d.length ≤ 503 ∧ ∃ text, P text ∧ d = excerpt text := by
    rintro P d ⟨text, htext, rfl⟩
    exact ⟨length_excerpt_le text, text, htext, rfl⟩
  refine ⟨fun s => ?_, fun status body => ?_, fun message output exit => ?_, fun settings w => ?_⟩
  · exact ⟨excerpt_excerpt s, length_excerpt_le s, excerpt_cases s, excerpt_eq_of_offset s⟩
  · exact ⟨WorkerFault.shows_of_body rfl, WorkerFault.shows_of_body rfl, WorkerFault.shows_ofBody body⟩
  · exact ⟨MediaFault.shows_ofEncoder message output exit, MediaFault.shows_proberFailed message output⟩
  · exact ⟨fun encoder r op a w' h d hd => short (quoted_perform h d hd),
      fun r a w' h d hd => short (quoted_progress h d hd)⟩

/-! ## A sample -/

/-- The first 500 characters of what the worker of the sample says. -/
def refusalFront : String := String.ofList (List.replicate 500 'n')

def longRefusal : String := refusalFront ++ "o model"

def refusingReply (said : String) : Reply := ⟨500, none, [bytesOf said], true⟩

/-- A world with a worker that refuses all jobs, and says this. -/
def refusingWorld (said : String) : World where
  disk := ⟨[(["a.mp4"], .file [1, 2, 3])]⟩
  network := .single "[::1]:8080"
    [("POST /start-job", [.reply (refusingReply said)]), ("GET /progress/j", [.reply (refusingReply said)])]
  tools := .empty
  rehearsed := []
  clock := 0
  drawn := 0

theorem textOrEmpty_refusingReply (said : String) : (refusingReply said).textOrEmpty = said := by
  simp only [Reply.textOrEmpty, Reply.text, refusingReply, if_true, List.flatten_cons, List.flatten_nil,
    List.append_nil, lossy_bytesOf]

theorem start_refusing (said : String) :
    ((start {} (.tools 1000) sampleStart).run (refusingWorld said)).1 =
      .ok (startAnswer (.error (.server 500 (refusingReply said).textOrEmpty))) := by
  with_unfolding_all rfl

theorem progress_refusing (said : String) :
    ((progress {} sampleProgress).run (refusingWorld said)).1 =
      .ok (ProgressAnswer.ofFault (.progressCheck 500 (refusingReply said).textOrEmpty)) := by
  with_unfolding_all rfl

theorem length_refusalFront : refusalFront.length = maxExcerpt :=
  String.length_ofList.trans List.length_replicate

theorem longRefusal_ne_empty : longRefusal ≠ "" := fun h =>
  absurd (String.append_eq_empty_iff.1 h).2 (by decide)

theorem details_cut_once_sample :
    (∃ a w', (start {} (.tools 1000) sampleStart).run (refusingWorld longRefusal) = (.ok a, w') ∧
      a.details = some (refusalFront ++ "...") ∧
      ∃ text, Tells {} (.tools 1000) sampleStart (refusingWorld longRefusal) text ∧
        refusalFront ++ "..." = excerpt text) ∧
    ∃ a w', (progress {} sampleProgress).run (refusingWorld longRefusal) = (.ok a, w') ∧
      a.details = some (refusalFront ++ "...") ∧
      ∃ text, (refusingWorld longRefusal).network.Tells text ∧
        refusalFront ++ "..." = excerpt text := by
  have hstart := start_refusing longRefusal
  have hprogress := progress_refusing longRefusal
  rw [textOrEmpty_refusingReply] at hstart hprogress
  obtain ⟨-, hfaults, -, hoperations⟩ := details_cut_once
  obtain ⟨hserver, hcheck, -⟩ := hfaults 500 longRefusal
  have hcut : excerpt longRefusal = refusalFront ++ "..." :=
    excerpt_append length_refusalFront (by decide)
  rw [if_neg longRefusal_ne_empty, hcut] at hserver hcheck
  obtain ⟨hperform, hchecked⟩ := hoperations {} (refusingWorld longRefusal)
  have hstarts := Action.run_of_fst hstart
  have hprogresses := Action.run_of_fst hprogress
  have hshown : refusalFront ++ "..." ∈
      Launch.detailsIn .start (startAnswer (.error (.server 500 longRefusal))) := by
    simp only [Launch.detailsIn, hserver.start, Option.toList_some, List.mem_singleton]
  have hquoted := hperform (.tools 1000) sampleStart .start _ _ hstarts _ hshown
  have hchecks := hchecked sampleProgress _ _ hprogresses _ hcheck.progress
  exact ⟨⟨_, _, hstarts, hserver.start, hquoted.2⟩, _, _, hprogresses, hcheck.progress, hchecks.2⟩

end Service

end ClipRelay
