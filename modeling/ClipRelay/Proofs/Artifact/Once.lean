import ClipRelay.Proofs.Artifact.Ownership
import ClipRelay.Proofs.Disk.Replacement
import ClipRelay.Proofs.Disk.Standing
import ClipRelay.Proofs.Worker.Course
import Mathlib.Logic.Relation

/-!
# An artifact is downloaded once

The artifact of a job is held when its path leads to a file that is not empty (`Download.Held`). A
download of an artifact that is held asks nobody and changes nothing (`Download.run_of_held`).

* `Download.run_ok_held`: a download that succeeds leaves its artifact held.
* `Download.Step.held`: it stays so through the downloads and looks of this job and of others, and
  through all that leaves its path as it is; `Download.held_of_steps` is this for any number of steps.
* `Download.clearOf_of_noLinks`: only links can lead a download to the artifact of another.
* `Download.downloaded_once`: so every later download, and every later look at the complete job, hands
  over the same file (`Download.HandsOver`).
* `Download.downloaded_again_behind_link`: what happens when the artifact stands behind a link that is
  replaced.
-/

namespace ClipRelay

open Text Disk

namespace Download

variable {settings : WorkerSettings} {e : Endpoint} {artifact : ArtifactRef} {job hint : Option String}
  {name token : String} {w w' : World} {d d' : Disk} {q : Place} {bs : Bytes} {a : Artifact}

/-! ## An artifact that is held -/

/-- The path of a name in the output directory leads to a file that is not empty, and the directory
need not be made. -/
structure Held (settings : WorkerSettings) (name : String) (q : Place) (bs : Bytes) (d : Disk) :
    Prop where
  isName : Path.IsName name
  ne_nil : bs ≠ []
  find : d.find true (Path.join settings.outputDir name) = .ok (q, some (.file bs))
  made : d.makeDirAll settings.outputDir = .ok d

namespace Held

theorem content (h : Held settings name q bs d) :
    d.content (Path.join settings.outputDir name) = .ok bs :=
  content_eq_ok_iff.2 ⟨q, h.find⟩

theorem canonical (h : Held settings name q bs d) :
    d.canonical (Path.join settings.outputDir name) = .ok (Path.ofNames q) :=
  canonical_eq_ok_iff.2 ⟨q, _, h.find, rfl⟩

theorem sizeAt? (h : Held settings name q bs d) :
    Download.sizeAt? d (Path.join settings.outputDir name) = some bs.length := by
  rw [Download.sizeAt?, h.content]
  exact if_neg (by simpa using h.ne_nil)

/-- It stands at the path that its download names. -/
theorem fileAt (h : Held settings name q bs d) : d.FileAt (Path.ofNames q) bs :=
  fileAt_canonical h.canonical h.content

/-- As long as its path leads to the file, the artifact is held. -/
theorem of_find (h : Held settings name q bs d)
    (hfind : d'.find true (Path.join settings.outputDir name) = .ok (q, some (.file bs))) :
    Held settings name q bs d' :=
  ⟨h.isName, h.ne_nil, hfind, makeDirAll_of_find h.made h.isName hfind⟩

end Held

/-- A download of an artifact that is held hands it over. No request is sent, and nothing on the disk
is changed. -/
theorem run_of_held (h : Held settings (artifactName settings.outputPrefix hint artifact.filename job
      (World.tokenOf w.drawn)) q bs w.disk) :
    (run settings e artifact job hint).run w =
      (.ok ⟨Path.ofNames q, bs.length⟩, { w with drawn := w.drawn + 2 }) := by
  rw [run_eq, planIn]
  have hsize := h.sizeAt?
  have hcanonical := h.canonical
  generalize artifactName settings.outputPrefix hint artifact.filename job _ = name at *
  have hdir : (planOf settings.outputDir name (World.tokenOf (w.drawn + 1))).dir =
    settings.outputDir := rfl
  simp only [steps_singleton, step, hdir, h.made, planOf_target, hsize, found, hcanonical]
  rfl

/-- A download that succeeds leaves its artifact held. -/
theorem run_ok_held (h : (run settings e artifact job hint).run w = (.ok a, w')) :
    ∃ q bs, a = ⟨Path.ofNames q, bs.length⟩ ∧
      Held settings (artifactName settings.outputPrefix hint artifact.filename job
        (World.tokenOf w.drawn)) q bs w'.disk := by
  have hcourse := course_run settings e artifact job hint w
  rw [h] at hcourse
  have hname := isName_artifactName settings.outputPrefix hint artifact.filename job
    (World.tokenOf w.drawn)
  generalize artifactName settings.outputPrefix hint artifact.filename job _ = name at *
  have hworking := isName_workingName hname (slash_notMem_tokenOf (w.drawn + 1))
  generalize World.tokenOf (w.drawn + 1) = token at *
  generalize hresult : (Except.ok a : Except WorkerFault Artifact) = result at hcourse
  cases hcourse with
  | unmade => cases hresult
  | refused => cases hresult
  | there hdir hsize hdisk =>
    subst hdisk
    obtain ⟨bs, hbs, hne, rfl⟩ := sizeAt?_eq_some hsize
    obtain ⟨hcanonical, hlength⟩ := found_eq_ok (resultOf_eq_ok hresult.symm)
    obtain ⟨q, hfind⟩ := content_eq_ok_iff.1 hbs
    obtain ⟨q', x, hfind', hpath⟩ := canonical_eq_ok_iff.1 hcanonical
    obtain ⟨rfl, -⟩ : q = q' ∧ _ := by simpa [hfind] using hfind'
    exact ⟨q, bs, by rw [← hpath, ← hlength], hname, hne, hfind, makeDirAll_of_find hdir hname hfind⟩
  | @replied d reply s _ hdir _ _ hbrings =>
    rw [resultOf_eq_ok hresult.symm] at hbrings
    generalize hs : (Download.done (.ok a), w'.disk) = last at hbrings
    cases hbrings with
    | failed => cases hs
    | @arrived d₁ d₂ _ _ _ hsome _ hcontent hrename =>
      obtain ⟨hfound, rfl⟩ := Prod.mk.inj hs
      obtain ⟨hcanonical, hlength⟩ := found_eq_ok hfound.symm
      obtain ⟨q, x, hfind, hpath⟩ := canonical_eq_ok_iff.1 hcanonical
      obtain rfl := content_rename hworking hname hcontent hrename hfind
      exact ⟨q, _, by rw [← hpath, ← hlength], hname, hsome, hfind,
        makeDirAll_of_find hdir hname hfind⟩

/-! ## Other downloads -/

/-- A download has nothing to do with a path. Unless it finds its artifact on disk, the path does not
lead to its working file, nor through a link that stands under the name of that or of the artifact. -/
def ClearOf (path : String) (settings : WorkerSettings) (artifact : ArtifactRef)
    (job hint : Option String) (w : World) : Prop :=
  let name := artifactName settings.outputPrefix hint artifact.filename job (World.tokenOf w.drawn)
  ∀ d, w.disk.makeDirAll settings.outputDir = .ok d →
    Download.sizeAt? d (Path.join settings.outputDir name) = none →
    d.Apart settings.outputDir (workingName name (World.tokenOf (w.drawn + 1))) path ∧
      ¬ d.LeadsThrough path (Path.join settings.outputDir name)

/-- Without links, every download has nothing to do with any artifact: no artifact has the name of a
working file, and an artifact of its own name is found on disk. -/
theorem clearOf_of_noLinks (hlinks : w.disk.NoLinks) (hn : Path.IsName name)
    (hartifact : IsArtifactName settings.outputPrefix name) :
    ClearOf (Path.join settings.outputDir name) settings artifact job hint w := by
  intro d hmade _
  have hlinks' := hlinks.grown (grown_makeDirAll hmade)
  refine ⟨hlinks'.apart hn ?_, hlinks'.not_leadsThrough⟩
  rintro rfl
  exact not_isArtifactName_workingName (isArtifactName ..) hartifact

/-- What a reply brings to the disk leaves a file where it is that stands elsewhere. -/
theorem Brings.find {dir other : String} {reply : Reply} {s : Download} {o : Place}
    (hworking : Path.IsName (workingName other token)) (ho : d.InDir dir o) {path : String}
    (hapart : d.Apart dir (workingName other token) path)
    (hpast : ¬ d.LeadsThrough path (Path.join dir other))
    (hsize : Download.sizeAt? d (Path.join dir other) = none) (hne : bs ≠ [])
    (hfind : d.find true path = .ok (q, some (.file bs)))
    (h : Brings dir other token d reply (s, d')) :
    d'.find true path = .ok (q, some (.file bs)) := by
  obtain ⟨hlink, haway⟩ := hapart o ho
  have hq : q ≠ o ++ [workingName other token] := by
    rintro rfl
    exact haway _ hfind
  generalize hlast : (s, d') = last at h
  cases h with
  | failed hscratched =>
    obtain ⟨-, rfl⟩ := Prod.mk.inj hlast
    have hchanges := hscratched o ho hlink
    rw [← get?_of_find hfind, ← hchanges.others q hq]
    exact hchanges.sameWays.find hfind
  | @arrived d₁ _ _ _ _ _ hscratched hcontent hrename =>
    obtain ⟨-, rfl⟩ := Prod.mk.inj hlast
    have hchanges := hscratched o ho hlink
    obtain ⟨m, x, -, hold, -⟩ := rename_eq_ok hrename
    obtain ⟨o', ho', -, rfl, hx⟩ := find_join_kept hworking hold
    obtain rfl := (ho.of_sameWays hchanges.sameWays).unique ho'
    obtain ⟨hclosed, p, htarget, hdir, hreplaced⟩ :=
      hchanges.moved hlink (by rw [hold, hx]) hcontent hrename
    refine hreplaced.find_past hclosed htarget hdir ?_ hq hpast hfind
    -- A file of these bytes at the place would have been found by the download.
    rintro rfl
    rw [get?_of_find hfind] at htarget
    have hthere : d.content (Path.join dir other) = .ok bs :=
      content_eq_ok_iff.2 ⟨q, find_followed htarget nofun⟩
    rw [Download.sizeAt?, hthere] at hsize
    simp [hne] at hsize

/-- A download leaves an artifact held, be it its own or another. -/
theorem run_held (h : Held settings name q bs w.disk)
    (hclear : ClearOf (Path.join settings.outputDir name) settings artifact job hint w) :
    Held settings name q bs ((run settings e artifact job hint).run w).2.disk := by
  have hcourse := course_run settings e artifact job hint w
  have hsent := run_sent settings e artifact w job hint
  have hother := isName_artifactName settings.outputPrefix hint artifact.filename job
    (World.tokenOf w.drawn)
  rw [planIn, planOf_target] at hsent
  unfold ClearOf at hclear
  generalize artifactName settings.outputPrefix hint artifact.filename job _ = other at *
  have hworking := isName_workingName hother (slash_notMem_tokenOf (w.drawn + 1))
  generalize World.tokenOf (w.drawn + 1) = token at *
  generalize (run settings e artifact job hint).run w = ran at *
  have hmade : ∀ {d}, w.disk.makeDirAll settings.outputDir = .ok d → d = w.disk := fun hd =>
    Except.ok.inj (hd.symm.trans h.made)
  cases hcourse with
  | unmade _ hdisk => exact hdisk ▸ h
  | there hdir _ hdisk => exact (hdisk.trans (hmade hdir)) ▸ h
  | refused hdir hdisk => exact (hdisk.trans (hmade hdir)) ▸ h
  | @replied d reply s w' hdir hanswer _ hbrings =>
    obtain rfl := hmade hdir
    obtain ⟨o, k, ho, -, -, -⟩ := find_join h.isName h.find
    have hsize : Download.sizeAt? w.disk (Path.join settings.outputDir other) = none := by
      rcases hsent with hsame | ⟨r, d, -, hd, hsize, -⟩
      · obtain ⟨client, url, -, -, -, hmore⟩ := hanswer
        rw [hmore] at hsame
        exact absurd hsame (by simp)
      · rwa [hmade hd] at hsize
    obtain ⟨hapart, hpast⟩ := hclear w.disk hdir hsize
    exact h.of_find (hbrings.find hworking ho hapart hpast hsize h.ne_nil h.find)

/-- A download leaves a disk without links. -/
theorem noLinks_run (h : w.disk.NoLinks) (e : Endpoint) (artifact : ArtifactRef)
    (job hint : Option String) : ((run settings e artifact job hint).run w).2.disk.NoLinks := by
  have hcourse := course_run settings e artifact job hint w
  generalize artifactName settings.outputPrefix hint artifact.filename job _ = name at hcourse
  generalize World.tokenOf (w.drawn + 1) = token at hcourse
  generalize (run settings e artifact job hint).run w = ran at *
  cases hcourse with
  | unmade _ hdisk => exact hdisk ▸ h
  | there hdir _ hdisk | refused hdir hdisk =>
    subst hdisk
    exact h.grown (grown_makeDirAll hdir)
  | @replied d reply s w' hdir _ _ hbrings =>
    have hmade := h.grown (grown_makeDirAll hdir)
    obtain ⟨o, ho, -⟩ := inDir_makeDirAll hdir
    generalize hlast : (s, w'.disk) = last at hbrings
    cases hbrings with
    | failed hscratched =>
      obtain ⟨-, rfl⟩ := Prod.mk.inj hlast
      exact hmade.changesAt (hscratched o ho (hmade _))
    | arrived _ _ _ _ hscratched _ hrename =>
      obtain ⟨-, rfl⟩ := Prod.mk.inj hlast
      exact (hmade.changesAt (hscratched o ho (hmade _))).rename hrename

/-! ## What happens in an output directory -/

/-- A look at a job leaves the disk as it is, or downloads the artifact that the report names. -/
theorem check_disk (settings : WorkerSettings) (e : Endpoint) (job : String) (hint : Option String)
    (w : World) :
    ((Job.check settings e job hint).run w).2.disk = w.disk ∨
      ∃ report artifact, ((Client.poll settings e job).run w).1 = .ok report ∧
        report.artifact? = some artifact ∧
        ((Job.check settings e job hint).run w).2 =
          ((run settings e artifact (some job) hint).run ((Client.poll settings e job).run w).2).2 := by
  have hdisk := Client.poll_disk settings e w job
  unfold Job.check
  rw [Action.run_bind]
  generalize (Client.poll settings e job).run w = polled at hdisk ⊢
  obtain ⟨f | report, w₁⟩ := polled
  · exact .inl hdisk
  by_cases hdue : (Finding.ofReport report none).artifactDue = true
  · cases hout : (Finding.ofReport report none).snapshot.output with
    | none =>
      simp only [Finding.settle_of_idle (.inr hout)]
      exact .inl hdisk
    | some artifact =>
      simp only [Finding.settle_of_due hout hdue, Job.fetch]
      exact .inr ⟨report, artifact, rfl, Report.artifact_of_output hout, rfl⟩
  · simp only [Finding.settle_of_idle (.inl (Bool.eq_false_iff.2 hdue))]
    exact .inl hdisk

/-- What is done for jobs: downloads, and looks that download what they find due. -/
inductive Call (settings : WorkerSettings) : World → World → Prop
  | download {e : Endpoint} {artifact : ArtifactRef} {job hint : Option String} {w : World} :
    Call settings w ((run settings e artifact job hint).run w).2
  | look {e : Endpoint} {job : String} {hint : Option String} {w : World} :
    Call settings w ((Job.check settings e job hint).run w).2

/-- What happens while an artifact is kept: downloads that are clear of its path, looks at jobs whose
downloads are, and all that leaves its path as it is. -/
inductive Step (settings : WorkerSettings) (path : String) : World → World → Prop
  | download {e : Endpoint} {artifact : ArtifactRef} {job hint : Option String} {w : World} :
    ClearOf path settings artifact job hint w →
    Step settings path w ((run settings e artifact job hint).run w).2
  | look {e : Endpoint} {job : String} {hint : Option String} {w : World} :
    (∀ report artifact, ((Client.poll settings e job).run w).1 = .ok report →
      report.artifact? = some artifact →
      ClearOf path settings artifact (some job) hint ((Client.poll settings e job).run w).2) →
    Step settings path w ((Job.check settings e job hint).run w).2
  | other {w w' : World} : w'.disk.find true path = w.disk.find true path → Step settings path w w'

theorem Step.held (hstep : Step settings (Path.join settings.outputDir name) w w')
    (h : Held settings name q bs w.disk) : Held settings name q bs w'.disk := by
  cases hstep with
  | download hclear => exact run_held h hclear
  | @look e job hint _ hclear =>
    rcases check_disk settings e job hint w with hsame | ⟨report, artifact, hok, hartifact, hran⟩
    · rw [hsame]
      exact h
    · rw [hran]
      refine run_held ?_ (hclear report artifact hok hartifact)
      rw [Client.poll_disk]
      exact h
  | other hsame => exact h.of_find (hsame.trans h.find)

theorem held_of_steps
    (hsteps : Relation.ReflTransGen (Step settings (Path.join settings.outputDir name)) w w')
    (h : Held settings name q bs w.disk) : Held settings name q bs w'.disk := by
  induction hsteps with
  | refl => exact h
  | tail _ hstep ih => exact hstep.held ih

theorem Call.noLinks (hcall : Call settings w w') (h : w.disk.NoLinks) : w'.disk.NoLinks := by
  cases hcall with
  | download => exact noLinks_run h _ _ _ _
  | @look e job hint =>
    rcases check_disk settings e job hint w with hsame | ⟨report, artifact, -, -, hran⟩
    · rw [hsame]
      exact h
    · rw [hran]
      refine noLinks_run ?_ _ _ _ _
      rw [Client.poll_disk]
      exact h

/-- Without links, nothing that is done for jobs disturbs an artifact. -/
theorem Call.step (hcall : Call settings w w') (hlinks : w.disk.NoLinks) (hn : Path.IsName name)
    (hartifact : IsArtifactName settings.outputPrefix name) :
    Step settings (Path.join settings.outputDir name) w w' := by
  cases hcall with
  | download => exact .download (clearOf_of_noLinks hlinks hn hartifact)
  | @look e job =>
    refine .look fun _ _ _ _ => clearOf_of_noLinks ?_ hn hartifact
    rw [Client.poll_disk]
    exact hlinks

theorem steps_of_calls (hn : Path.IsName name) (hartifact : IsArtifactName settings.outputPrefix name)
    (hcalls : Relation.ReflTransGen (Call settings) w w') (hlinks : w.disk.NoLinks) :
    Relation.ReflTransGen (Step settings (Path.join settings.outputDir name)) w w' ∧
      w'.disk.NoLinks := by
  induction hcalls with
  | refl => exact ⟨.refl, hlinks⟩
  | tail _ hcall ih =>
    obtain ⟨hsteps, hlinks'⟩ := ih
    exact ⟨hsteps.tail (hcall.step hlinks' hn hartifact), hcall.noLinks hlinks'⟩

/-! ## Once for each job -/

/-- A look at a complete job whose artifact is held hands it over. Beyond the poll, no request is sent,
and nothing on the disk is changed. -/
theorem check_of_held {job : String} {report : Report} {w₁ : World}
    (hpoll : (Client.poll settings e job).run w = (.ok report, w₁))
    (hstatus : (report.snapshot none).status = .complete) (hartifact : report.artifact? = some artifact)
    (h : Held settings (artifactName settings.outputPrefix hint artifact.filename (some job)
      (World.tokenOf w₁.drawn)) q bs w.disk) :
    (Job.check settings e job hint).run w =
      ((ProgressAnswer.ofSnapshot (report.snapshot none)).withOutputPath (Path.ofNames q),
        { w₁ with drawn := w₁.drawn + 2 }) := by
  have hfinding : Finding.ofReport report none = ⟨report.snapshot none, true⟩ := by
    rw [Finding.ofReport]
    simp only [Option.filter_none, hstatus, decide_true]
  have hdisk : w₁.disk = w.disk := by
    rw [← Client.poll_disk settings e w job, hpoll]
  have hout : (Finding.ofReport report none).snapshot.output = some artifact := by
    rw [hfinding, ← hartifact]
    exact report.output_snapshot hstatus
  rw [← hdisk] at h
  rw [Job.check, Action.run_bind, hpoll]
  simp only
  rw [Finding.settle_of_due hout (by rw [hfinding]), Job.fetch, run_of_held h, hfinding]
  rfl

/-- What is done for a job in a world hands over this artifact of the job and no other, which the worker
knows under this name. -/
structure HandsOver (settings : WorkerSettings) (job : String) (hint : Option String)
    (filename : String) (a : Artifact) (bs : Bytes) (w : World) : Prop where
  file : w.disk.FileAt a.path bs
  /-- A download does, from whatever address. It sends no request and changes nothing on the disk. -/
  download : ∀ e artifact, artifact.filename = filename →
    (run settings e artifact (some job) hint).run w = (.ok a, { w with drawn := w.drawn + 2 })
  /-- A look at the job does when that is complete. -/
  look : ∀ e report artifact w', (Client.poll settings e job).run w = (.ok report, w') →
    (report.snapshot none).status = .complete → report.artifact? = some artifact →
    artifact.filename = filename →
    (Job.check settings e job hint).run w =
      ((ProgressAnswer.ofSnapshot (report.snapshot none)).withOutputPath a.path,
        { w' with drawn := w'.drawn + 2 })

/-- An artifact that is held is handed over, whatever names have been drawn. -/
theorem Held.handsOver {job filename : String}
    (hname : ∀ token, artifactName settings.outputPrefix hint filename (some job) token = name)
    (h : Held settings name q bs w.disk) :
    HandsOver settings job hint filename ⟨Path.ofNames q, bs.length⟩ bs w where
  file := h.fileAt
  download e artifact hfile := by
    rw [← hname (World.tokenOf w.drawn), ← hfile] at h
    exact run_of_held h
  look e report artifact w' hpoll hstatus hartifact hfile := by
    rw [← hname (World.tokenOf w'.drawn), ← hfile] at h
    exact check_of_held hpoll hstatus hartifact h

/-- Once the artifact of a job has been handed over, be it one that was received or a file that stood
under its name, it is there for good. On a disk without links, whatever is done for this job and others,
later downloads of it and later looks at the job hand over the same file. It is so on every disk and
whatever else happens there, as long as the path is left alone, also by downloads that replace or write
through links that it leads through. A file that is missing or empty is no artifact: a download that
succeeds then has received one. -/
theorem downloaded_once {job : String} {w₀ : World} (hjob : trim job ≠ "")
    (h : (run settings e artifact (some job) hint).run w = (.ok a, w₀)) :
    let path := Path.join settings.outputDir
      (artifactName settings.outputPrefix hint artifact.filename (some job) "")
    (∃ bs, bs ≠ [] ∧ a.size = bs.length ∧
      (w₀.disk.NoLinks → ∀ w₁, Relation.ReflTransGen (Call settings) w₀ w₁ →
        HandsOver settings job hint artifact.filename a bs w₁) ∧
      ∀ w₁, Relation.ReflTransGen (Step settings path) w₀ w₁ →
        HandsOver settings job hint artifact.filename a bs w₁) ∧
    ∀ w₁ w₂ e' artifact' a', artifact'.filename = artifact.filename →
      (∀ d bs, w₁.disk.makeDirAll settings.outputDir = .ok d → d.content path = .ok bs → bs = []) →
      (run settings e' artifact' (some job) hint).run w₁ = (.ok a', w₂) →
      ∃ bs, bs ≠ [] ∧ a'.size = bs.length ∧ w₂.disk.FileAt a'.path bs ∧
        Receives settings e' artifact' w₁ w₂ bs := by
  have hname : ∀ token, artifactName settings.outputPrefix hint artifact.filename (some job) token =
      artifactName settings.outputPrefix hint artifact.filename (some job) "" := fun token =>
    artifactName_of_id _ _ _ hjob token ""
  constructor
  · obtain ⟨q, bs, rfl, hheld⟩ := run_ok_held h
    rw [hname] at hheld
    refine ⟨bs, hheld.ne_nil, rfl, fun hlinks w₁ hcalls => ?_, fun w₁ hsteps =>
      (held_of_steps hsteps hheld).handsOver hname⟩
    obtain ⟨hsteps, -⟩ := steps_of_calls hheld.isName (isArtifactName ..) hcalls hlinks
    exact (held_of_steps hsteps hheld).handsOver hname
  · intro w₁ w₂ e' artifact' a' hfile hempty hrun
    obtain ⟨bs, hne, hsize, hat, ⟨hmade, hthere⟩ | hreceives⟩ := run_ok hrun
    · rw [hfile, hname] at hthere
      exact absurd (hempty _ _ hmade hthere) hne
    · exact ⟨bs, hne, hsize, hat, hreceives⟩

/-- An artifact of the sample, as the worker names it. -/
def sampleRef : ArtifactRef := ⟨"/d/x.mp4", "x.mp4"⟩

/-- The same artifact at another address. -/
def sampleMoved : ArtifactRef := ⟨"/moved/x.mp4", "x.mp4"⟩

/-- What the first job has of it on disk. -/
def sampleHeld : Artifact := ⟨"/output/colab_x_j.mp4", 3⟩

/-- Between two downloads for one job stands one for another. -/
theorem downloaded_once_sample :
    ∃ w₀ bs, trim "j" ≠ "" ∧
      (run {} Relay.sampleEndpoint sampleRef (some "j") none).run Service.sampleWorld =
        (.ok sampleHeld, w₀) ∧
      ∀ w₁, w₁ = ((run {} Relay.sampleEndpoint sampleRef (some "k") none).run w₀).2 →
        bs.length = 3 ∧ w₁.disk.FileAt sampleHeld.path bs ∧
        (run {} Relay.sampleEndpoint sampleMoved (some "j") none).run w₁ =
          (.ok sampleHeld, { w₁ with drawn := w₁.drawn + 2 }) := by
  have hjob : trim "j" ≠ "" := by decide
  have hresult : ((run {} Relay.sampleEndpoint sampleRef (some "j") none).run
      Service.sampleWorld).1 = .ok sampleHeld := by
    decide +kernel
  have hempty : Service.sampleWorld.disk.NoLinks :=
    noLinks_of_entries (by simp [Service.sampleWorld])
  have hlinks : ((run {} Relay.sampleEndpoint sampleRef (some "j") none).run
      Service.sampleWorld).2.disk.NoLinks :=
    noLinks_run hempty _ _ _ _
  generalize hrun : (run {} Relay.sampleEndpoint sampleRef (some "j") none).run
    Service.sampleWorld = ran at hresult hlinks
  obtain ⟨_, w₀⟩ := ran
  obtain rfl := hresult
  obtain ⟨⟨bs, -, hsize, hlater, -⟩, -⟩ := downloaded_once hjob hrun
  refine ⟨w₀, bs, hjob, rfl, fun w₁ hw₁ => ?_⟩
  have hcall : Call {} w₀ w₁ := by
    rw [hw₁]
    exact .download
  have hands := hlater hlinks w₁ (.single hcall)
  exact ⟨hsize.symm, hands.file, hands.download Relay.sampleEndpoint sampleMoved rfl⟩

/-- The path of one artifact leads through a link under the name of another one, which leads to a
directory with a file in it. -/
def linkedWorld : World where
  __ := Service.sampleWorld
  disk := ⟨[(["output"], .dir), (["output", "sub"], .dir), (["output", "sub", "f"], .file [1, 2, 3]),
    (["output", "colab_x_k.mp4"], .link "sub"), (["output", "colab_x_j.mp4"], .link "colab_x_k.mp4/f")]⟩

/-- A file that stands under the name of an artifact is taken for it, and nothing is received. Once
another download has put its artifact into the place of the link, the first artifact is received, and
stands elsewhere. -/
theorem downloaded_again_behind_link :
    let fetch := fun job => run {} Relay.sampleEndpoint sampleRef (some job) none
    let first := (fetch "j").run linkedWorld
    let other := (fetch "k").run first.2
    let again := (fetch "j").run other.2
    (first.1 = .ok ⟨"/output/sub/f", 3⟩ ∧ first.2.sent.map Request.line = []) ∧
      other.1 = .ok ⟨"/output/colab_x_k.mp4", 3⟩ ∧
      again.1 = .ok ⟨"/output/colab_x_j.mp4", 3⟩ ∧
      again.2.sent.map Request.line = other.2.sent.map Request.line ++ ["GET /d/x.mp4"] := by
  decide +kernel

end Download

end ClipRelay
