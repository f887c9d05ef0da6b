import ClipRelay.Proofs.Artifact.Names
import ClipRelay.Proofs.Artifact.Steps
import ClipRelay.Proofs.Disk.Directories
import ClipRelay.Proofs.Worker.Attempts

/-!
# What a download leaves on disk

* `Download.brings_steps`: what a reply brings to the disk.
* `Download.Brings.content`, `Download.Brings.fileAt`: a download that succeeds on a reply leaves the
  whole body of the reply at the path that it names, whatever stood on the disk before.
* `Download.run_ok`: a download succeeds with a file that was there, or with one that it has received
  (`Download.Receives`); neither is empty.
-/

namespace ClipRelay

open Text

/-! ## Names of files -/

theorem mem_toDigitsCore {fuel n : Nat} {ds : List Char} {c : Char}
    (h : c ∈ Nat.toDigitsCore 16 fuel n ds) : c ∈ ds ∨ ∃ i < 16, c = i.digitChar := by
  induction fuel generalizing n ds with
  | zero => exact .inl h
  | succ fuel ih =>
    have hcons : c ∈ (n % 16).digitChar :: ds → c ∈ ds ∨ ∃ i < 16, c = i.digitChar := by
      intro hc
      rcases List.mem_cons.1 hc with rfl | hc
      · exact .inr ⟨n % 16, Nat.mod_lt _ (by decide), rfl⟩
      · exact .inl hc
    rw [Nat.toDigitsCore] at h
    split at h
    · exact hcons h
    · rcases ih h with hc | hdigit
      · exact hcons hc
      · exact .inr hdigit

/-- Random names are made of digits and letters. -/
theorem isAlphanum_of_mem_tokenOf {n : Nat} {c : Char} (h : c ∈ (World.tokenOf n).toList) :
    c.isAlphanum = true := by
  have hdigit : ∀ i < 16, i.digitChar.isAlphanum = true := by decide
  rw [World.tokenOf, String.toList_ofList, List.mem_append] at h
  rcases h with hzero | hc
  · rw [List.eq_of_mem_replicate hzero]
    rfl
  · rcases mem_toDigitsCore hc with hnil | ⟨i, hi, rfl⟩
    · cases hnil
    · exact hdigit i hi

theorem slash_notMem_tokenOf (n : Nat) : '/' ∉ (World.tokenOf n).toList := by
  intro h
  exact absurd (isAlphanum_of_mem_tokenOf h) (by decide)

namespace Download

/-- The name of a working file. -/
def workingName (name token : String) : String := "." ++ name ++ "." ++ token ++ ".part"

theorem isName_workingName {name token : String} (hn : Path.IsName name)
    (ht : '/' ∉ token.toList) : Path.IsName (workingName name token) := by
  have hlen : 5 < (workingName name token).toList.length := by
    simp [workingName]
    omega
  refine ⟨⟨?_, ?_⟩, ?_, ?_⟩
  · intro h
    rw [h] at hlen
    exact absurd hlen (by decide)
  · simp [workingName, hn.no_slash, ht]
  · intro h
    rw [h] at hlen
    exact absurd hlen (by decide)
  · intro h
    rw [h] at hlen
    exact absurd hlen (by decide)

/-! ## From the reply to the file -/

section

variable {p : DownloadPlan} {d d' : Disk} {bs : Bytes} {a : Artifact}

theorem planOf_working (dir name token : String) :
    (planOf dir name token).working = Path.join dir (workingName name token) := rfl

theorem planOf_target (dir name token : String) :
    (planOf dir name token).target = Path.join dir name := rfl

theorem steps_singleton (p : DownloadPlan) (s : Download) (e : DownloadEvent) (d : Disk) :
    steps p s [e] d = step p s e d := rfl

theorem step_broken (p : DownloadPlan) (file : Place) (written : Nat) (d : Disk) :
    step p (.receiving file written) .broken d =
      (failed ("Download interrupted: " ++ HttpFault.broken.message), d.discard p.working) := rfl

theorem step_finish (p : DownloadPlan) (file : Place) (written : Nat) (d : Disk) :
    step p (.receiving file written) .finish d =
      if written = 0 then (failed "Downloaded artifact is empty", d.discard p.working)
      else match d.rename p.working p.target with
        | .ok d => (found d p.target written, d)
        | .error e => (writeFault e, d.discard p.working) := rfl

theorem steps_cons (p : DownloadPlan) (s : Download) (e : DownloadEvent) (es : List DownloadEvent)
    (d : Disk) : steps p s (e :: es) d = steps p (step p s e d).1 es (step p s e d).2 := rfl

theorem steps_append (p : DownloadPlan) (s : Download) (es es' : List DownloadEvent) (d : Disk) :
    steps p s (es ++ es') d = steps p (steps p s es d).1 es' (steps p s es d).2 := by
  simp [steps, List.foldl_append]

/-- A download that is done stays as it is. -/
theorem steps_done (p : DownloadPlan) (result : Except WorkerFault Artifact)
    (es : List DownloadEvent) (d : Disk) : steps p (.done result) es d = (.done result, d) := by
  induction es with
  | nil => rfl
  | cons e es ih => exact ih

/-- As chunks arrive, the working file holds all of them so far. -/
theorem steps_chunks {dir name token : String} {file : Place}
    (hw : Path.IsName (workingName name token))
    (h : d.find true (Path.join dir (workingName name token)) = .ok (file, some (.file bs)))
    (chunks : List Bytes) :
    ∃ d', Disk.Scratched dir (workingName name token) d d' ∧
      steps (planOf dir name token) (.receiving file bs.length) (chunks.map .chunk) d =
        (.receiving file (bs ++ chunks.flatten).length, d') ∧
      d'.find true (Path.join dir (workingName name token)) =
        .ok (file, some (.file (bs ++ chunks.flatten))) := by
  induction chunks generalizing bs d with
  | nil => exact ⟨d, .refl _ _ _, by simp [steps], by simpa using h⟩
  | cons chunk chunks ih =>
    obtain ⟨d', hd', hsteps, hfind⟩ := ih (Disk.find_extend h chunk)
    refine ⟨d', (Disk.scratched_extend hw h).trans hd', ?_, ?_⟩
    · rw [List.map_cons, steps_cons, step, ← List.length_append, List.flatten_cons,
        ← List.append_assoc]
      exact hsteps
    · rwa [List.flatten_cons, ← List.append_assoc]

theorem found_eq_ok {path : String} {size : Nat} (h : found d path size = .done (.ok a)) :
    d.canonical path = .ok a.path ∧ a.size = size := by
  unfold found at h
  split at h
  · rename_i hc
    cases h
    exact ⟨hc, rfl⟩
  · cases h

/-- What a reply brings: nothing but a working file that is gone, or the whole body in a file that
takes the name of the artifact. -/
inductive Brings (dir name token : String) (d : Disk) (r : Reply) : Download × Disk → Prop
  | failed {reason : String} {d' : Disk} :
    Disk.Scratched dir (workingName name token) d d' → Brings dir name token d r (failed reason, d')
  | arrived {d₁ d' : Disk} :
    r.isSuccess = true → r.isHtml = false → r.whole = true → r.chunks.flatten ≠ [] →
    Disk.Scratched dir (workingName name token) d d₁ →
    d₁.content (Path.join dir (workingName name token)) = .ok r.chunks.flatten →
    d₁.rename (Path.join dir (workingName name token)) (Path.join dir name) = .ok d' →
    Brings dir name token d r (found d' (Path.join dir name) r.chunks.flatten.length, d')

theorem brings_steps {dir name token : String} (hw : Path.IsName (workingName name token))
    (d : Disk) (r : Reply) :
    Brings dir name token d r (steps (planOf dir name token) .missing (eventsOf r) d) := by
  rw [eventsOf, List.cons_append, steps_cons, step]
  by_cases hstatus : r.status < 200 || 300 ≤ r.status
  · rw [if_pos hstatus, failed, steps_done]
    exact .failed (.refl _ _ _)
  rw [if_neg hstatus]
  by_cases hplain : r.isHtml = true
  · rw [if_pos hplain, failed, steps_done]
    exact .failed (.refl _ _ _)
  rw [if_neg hplain, planOf_working]
  cases hopen : d.openFile (Path.join dir (workingName name token)) with
  | error e =>
    simp only [writeFault, failed, steps_done]
    exact .failed (Disk.scratched_discard hw)
  | ok opened =>
    obtain ⟨file, d₁⟩ := opened
    have hscratch : Disk.Scratched dir (workingName name token) d d₁ :=
      Disk.scratched_openFile hw hopen
    obtain ⟨d₂, hd₂, hsteps, hfind⟩ := steps_chunks hw (Disk.find_openFile hopen) r.chunks
    simp only [List.length_nil, List.nil_append] at hsteps hfind
    have hgone := (hscratch.trans hd₂).trans (Disk.scratched_discard hw)
    simp only [steps_append, hsteps, steps_singleton]
    by_cases hwhole : r.whole = true
    · rw [if_pos hwhole, step_finish, planOf_working, planOf_target]
      by_cases hnone : r.chunks.flatten.length = 0
      · rw [if_pos hnone]
        exact .failed hgone
      · rw [if_neg hnone]
        cases hrename : d₂.rename (Path.join dir (workingName name token))
            (Path.join dir name) with
        | error e => exact .failed hgone
        | ok d₃ =>
          refine .arrived ?_ (Bool.eq_false_iff.2 hplain) hwhole (fun h => hnone (by rw [h]; rfl))
            (hscratch.trans hd₂) (Disk.content_eq_ok_iff.2 ⟨file, hfind⟩) hrename
          simpa [Reply.isSuccess] using hstatus
    · rw [if_neg hwhole, step_broken, planOf_working]
      exact .failed hgone

/-- A download that succeeds on a reply leaves the whole body at the path of the artifact. -/
theorem Brings.content {dir name token : String} {r : Reply} (hn : Path.IsName name)
    (hw : Path.IsName (workingName name token))
    (h : Brings dir name token d r (.done (.ok a), d')) :
    r.isSuccess = true ∧ r.isHtml = false ∧ r.whole = true ∧ r.chunks.flatten ≠ [] ∧
      a.size = r.chunks.flatten.length ∧ d'.canonical (Path.join dir name) = .ok a.path ∧
      d'.content (Path.join dir name) = .ok r.chunks.flatten := by
  generalize hs : (Download.done (.ok a), d') = s at h
  cases h with
  | failed => cases hs
  | @arrived d₁ d₂ hsuccess hplain hwhole hsome _ hcontent hrename =>
    obtain ⟨hfound, rfl⟩ := Prod.mk.inj hs
    obtain ⟨hcanonical, hsize⟩ := found_eq_ok hfound.symm
    obtain ⟨m, x, hfind, -⟩ := Disk.canonical_eq_ok_iff.1 hcanonical
    obtain rfl := Disk.content_rename hw hn hcontent hrename hfind
    exact ⟨hsuccess, hplain, hwhole, hsome, hsize, hcanonical,
      Disk.content_eq_ok_iff.2 ⟨m, hfind⟩⟩

/-- So the body stands at the path that the download names. -/
theorem Brings.fileAt {dir name token : String} {r : Reply} (hn : Path.IsName name)
    (hw : Path.IsName (workingName name token))
    (h : Brings dir name token d r (.done (.ok a), d')) :
    r.isSuccess = true ∧ r.isHtml = false ∧ r.whole = true ∧ r.chunks.flatten ≠ [] ∧
      a.size = r.chunks.flatten.length ∧ d'.FileAt a.path r.chunks.flatten := by
  obtain ⟨hsuccess, hplain, hwhole, hsome, hsize, hcanonical, hcontent⟩ := h.content hn hw
  exact ⟨hsuccess, hplain, hwhole, hsome, hsize, Disk.fileAt_canonical hcanonical hcontent⟩

end

/-! ## Runs -/

section

variable {settings : WorkerSettings} {e : Endpoint} {artifact : ArtifactRef}
  {job hint : Option String} {w w' : World} {a : Artifact}

/-- A download asks the worker for the artifact, and this is the reply. -/
def Answered (settings : WorkerSettings) (e : Endpoint) (artifact : ArtifactRef) (w w' : World)
    (reply : Reply) : Prop :=
  ∃ client url, Client.make settings e = .ok client ∧
    requestable (e.locate artifact.downloadUrl) = .ok url ∧
    (w.network.deliver ⟨client, .get, url, acceptAll, none⟩).1 = .reply reply ∧
    w'.sent = w.sent ++ [⟨client, .get, url, acceptAll, none⟩]

/-- A download asks the worker for the artifact and receives these bytes, whole: the reply is a
success, no page, and does not break off. -/
def Receives (settings : WorkerSettings) (e : Endpoint) (artifact : ArtifactRef) (w w' : World)
    (bs : Bytes) : Prop :=
  ∃ reply, Answered settings e artifact w w' reply ∧
    reply.isSuccess = true ∧ reply.isHtml = false ∧ reply.whole = true ∧ reply.chunks.flatten = bs

/-- Why a download is refused when the worker does not answer. -/
def unheard : WorkerFault → String
  | .network reason => "Failed to connect: " ++ reason
  | f => f.message

/-- What a download is told when this is heard. -/
def toldOf (refusal : WorkerFault → String) : Except WorkerFault Reply → List DownloadEvent
  | .ok reply => eventsOf reply
  | .error f => [.refused (refusal f)]

/-- To ask for an artifact is an attempt. -/
theorem request_run (settings : WorkerSettings) (e : Endpoint) (url : String) :
    ∃ refusal, ∀ w, (request settings e url).run w =
      let heard := (Client.attempt (Client.getOf settings e (e.locate url))
        settings.downloadTimeout).run w
      (toldOf refusal heard.1, heard.2) := by
  cases hmake : Client.make settings e with
  | error f => exact ⟨WorkerFault.message, fun w => by simp only [request, Client.getOf, hmake]; rfl⟩
  | ok client =>
    refine ⟨unheard, fun w => ?_⟩
    simp only [request, hmake, Action.run_bind, Client.ask_run settings e _ w hmake]
    generalize (World.ask client _ settings.downloadTimeout).run w = asked
    obtain ⟨f | reply, w'⟩ := asked <;> rfl

/-- What a download is told comes from a reply, or is a refusal. -/
theorem request_cases (settings : WorkerSettings) (e : Endpoint) (artifact : ArtifactRef)
    (w : World) :
    (∃ reason w', (request settings e artifact.downloadUrl).run w = ([.refused reason], w') ∧
      w'.disk = w.disk) ∨
    ∃ reply w', (request settings e artifact.downloadUrl).run w = (eventsOf reply, w') ∧
      w'.disk = w.disk ∧ Answered settings e artifact w w' reply := by
  obtain ⟨refusal, hrun⟩ := request_run settings e artifact.downloadUrl
  rw [hrun]
  generalize hmade : Client.getOf settings e (e.locate artifact.downloadUrl) = made
  have hdisk := Client.attempt_disk made settings.downloadTimeout w
  have hsent := Client.attempt_sent made settings.downloadTimeout w
  have hreply := @Client.deliver_of_attempt made settings.downloadTimeout w
  generalize (Client.attempt made settings.downloadTimeout).run w = heard at *
  obtain ⟨f | reply, w'⟩ := heard
  · exact .inl ⟨_, _, rfl, hdisk⟩
  · obtain ⟨r, rfl, hdeliver⟩ := hreply rfl
    obtain ⟨client, url, hmake, hurl, rfl⟩ := Client.getOf_ok hmade
    exact .inr ⟨reply, w', rfl, hdisk, client, url, hmake, hurl, hdeliver, hsent⟩

/-- To ask for an artifact touches no file. -/
theorem request_disk (settings : WorkerSettings) (e : Endpoint) (artifact : ArtifactRef) (w : World) :
    ((request settings e artifact.downloadUrl).run w).2.disk = w.disk := by
  obtain ⟨refusal, hrun⟩ := request_run settings e artifact.downloadUrl
  rw [hrun]
  exact Client.attempt_disk _ _ w

/-- How a download runs. -/
inductive Course (settings : WorkerSettings) (e : Endpoint) (artifact : ArtifactRef)
    (name token : String) (w : World) : Except WorkerFault Artifact × World → Prop
  /-- There is no directory for the artifact. -/
  | unmade {f : IoFault} {reason : String} {w' : World} :
    w.disk.makeDirAll settings.outputDir = .error f → w'.disk = w.disk →
    Course settings e artifact name token w (.error (.download reason), w')
  /-- The artifact is there. -/
  | there {d : Disk} {size : Nat} {w' : World} :
    w.disk.makeDirAll settings.outputDir = .ok d →
    sizeAt? d (Path.join settings.outputDir name) = some size → w'.disk = d →
    Course settings e artifact name token w
      (resultOf (found d (Path.join settings.outputDir name) size), w')
  /-- There is no reply. -/
  | refused {d : Disk} {reason : String} {w' : World} :
    w.disk.makeDirAll settings.outputDir = .ok d → w'.disk = d →
    Course settings e artifact name token w (.error (.download reason), w')
  | replied {d : Disk} {reply : Reply} {s : Download} {w' : World} :
    w.disk.makeDirAll settings.outputDir = .ok d → Answered settings e artifact w w' reply →
    steps (planOf settings.outputDir name token) .missing (eventsOf reply) d = (s, w'.disk) →
    Brings settings.outputDir name token d reply (s, w'.disk) →
    Course settings e artifact name token w (resultOf s, w')

theorem course_run (settings : WorkerSettings) (e : Endpoint) (artifact : ArtifactRef)
    (job hint : Option String) (w : World) :
    Course settings e artifact
      (artifactName settings.outputPrefix hint artifact.filename job (World.tokenOf w.drawn))
      (World.tokenOf (w.drawn + 1)) w ((run settings e artifact job hint).run w) := by
  rw [run_eq, planIn]
  have hname := isName_artifactName settings.outputPrefix hint artifact.filename job
    (World.tokenOf w.drawn)
  generalize artifactName settings.outputPrefix hint artifact.filename job _ = name at *
  have hworking := isName_workingName hname (slash_notMem_tokenOf (w.drawn + 1))
  generalize World.tokenOf (w.drawn + 1) = token at *
  simp only [steps_singleton, step]
  cases hdir : w.disk.makeDirAll (planOf settings.outputDir name token).dir with
  | error f => exact .unmade hdir rfl
  | ok d =>
    simp only [planOf_target]
    cases hsize : sizeAt? d (Path.join settings.outputDir name) with
    | some size =>
      simp only
      split
      · rename_i hfound
        unfold found at hfound
        split at hfound <;> cases hfound
      · exact .there hdir hsize rfl
    | none =>
      simp only
      generalize hw₁ : ({ w with disk := d, drawn := w.drawn + 2 } : World) = w₁
      have hdisk : w₁.disk = d := by rw [← hw₁]
      rcases request_cases settings e artifact w₁ with
        ⟨reason, w', hrun, hsame⟩ | ⟨reply, w', hrun, hsame, hanswer⟩
      · simp only [hrun, steps_singleton, step, failed, resultOf]
        exact .refused hdir (hsame.trans hdisk)
      · have hbrings : Brings settings.outputDir name token d reply
            (steps (planOf settings.outputDir name token) .missing (eventsOf reply) d) :=
          brings_steps hworking d reply
        simp only [hrun, hsame, hdisk]
        generalize hlast : steps (planOf settings.outputDir name token) .missing (eventsOf reply) d =
          last at hbrings ⊢
        obtain ⟨s, d'⟩ := last
        obtain ⟨client, url, hmake, hurl, hdeliver, hsent⟩ := hanswer
        rw [← hw₁] at hdeliver hsent
        exact .replied hdir ⟨client, url, hmake, hurl, hdeliver, hsent⟩ hlast hbrings

theorem sizeAt?_eq_some {d : Disk} {path : String} {size : Nat}
    (h : sizeAt? d path = some size) :
    ∃ bs, d.content path = .ok bs ∧ bs ≠ [] ∧ size = bs.length := by
  unfold sizeAt? at h
  split at h
  · rename_i bs hbs
    split at h
    · cases h
    · rename_i hne
      exact ⟨bs, hbs, by simpa using hne, (Option.some.inj h).symm⟩
  · cases h

theorem resultOf_eq_ok {s : Download} (h : resultOf s = .ok a) : s = .done (.ok a) := by
  unfold resultOf at h
  split at h
  · rw [h]
  · cases h

/-- A download succeeds with a file that was there or with one that it has received; either way the
file stands at the path that it names, and is not empty. -/
theorem run_ok (h : (run settings e artifact job hint).run w = (.ok a, w')) :
    ∃ bs, bs ≠ [] ∧ a.size = bs.length ∧ w'.disk.FileAt a.path bs ∧
      ((w.disk.makeDirAll settings.outputDir = .ok w'.disk ∧ w'.disk.content
          (Path.join settings.outputDir (artifactName settings.outputPrefix hint artifact.filename
            job (World.tokenOf w.drawn))) = .ok bs) ∨
        Receives settings e artifact w w' bs) := by
  have hcourse := course_run settings e artifact job hint w
  rw [h] at hcourse
  have hname := isName_artifactName settings.outputPrefix hint artifact.filename job
    (World.tokenOf w.drawn)
  generalize artifactName settings.outputPrefix hint artifact.filename job _ = name at *
  have hworking := isName_workingName hname (slash_notMem_tokenOf (w.drawn + 1))
  generalize World.tokenOf (w.drawn + 1) = token at *
  generalize hresult : (Except.ok a : Except WorkerFault Artifact) = result at hcourse
  cases hcourse with
  | unmade => cases hresult
  | refused => cases hresult
  | there hdir hsize hdisk =>
    subst hdisk
    obtain ⟨bs, hbs, hne, rfl⟩ := sizeAt?_eq_some hsize
    obtain ⟨hcanonical, hsize⟩ := found_eq_ok (resultOf_eq_ok hresult.symm)
    exact ⟨bs, hne, hsize, Disk.fileAt_canonical hcanonical hbs, .inl ⟨hdir, hbs⟩⟩
  | @replied d reply s _ hdir hanswer _ hbrings =>
    rw [resultOf_eq_ok hresult.symm] at hbrings
    obtain ⟨hsuccess, hplain, hwhole, hne, hsize, hfile⟩ := hbrings.fileAt hname hworking
    exact ⟨reply.chunks.flatten, hne, hsize, hfile,
      .inr ⟨reply, hanswer, hsuccess, hplain, hwhole, rfl⟩⟩

end

end Download

end ClipRelay
