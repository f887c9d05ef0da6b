import ClipRelay.Proofs.Artifact.Files
import ClipRelay.Proofs.Relay.Stream

/-!
# Whose artifact a download hands over

A download that finds a file under the artifact's name hands it over, so the name is all that ties a
file to a job. The files of an output directory that downloads alone have filled have an origin
(`Filled`): each was received, whole, by a download for an artifact of its name.

* `filled_run`: a download keeps this.
* `DownloadCall.hands_over_own`: what is handed over was received for an artifact of the same name.
* `DownloadCall.handed_over_across_workers`: the worker is not part of the name.
-/

namespace ClipRelay

open Text

/-! ## Where files come from -/

namespace Download

/-- The name is one of an artifact, with this lead in front. -/
def IsArtifactName (lead name : String) : Prop :=
  lead.toList.map ArtifactName.safeChar ++ ['_'] <+: name.toList

theorem isArtifactName (lead : String) (hint : Option String) (remote : String)
    (job : Option String) (token : String) :
    IsArtifactName lead (artifactName lead hint remote job token) := by
  rw [IsArtifactName, toList_artifactName]
  exact (List.prefix_append_right_inj _).2 (by simp)

theorem not_prefix_dot_cons (lead rest : List Char) :
    ¬ lead ++ ['_'] <+: '.' :: (lead ++ '_' :: rest) := by
  induction lead with
  | nil => simp
  | cons c lead ih =>
    intro h
    obtain ⟨rfl, h⟩ := List.cons_prefix_cons.1 h
    exact ih h

/-- A working file is not taken for an artifact. -/
theorem not_isArtifactName_workingName {lead name token : String} (h : IsArtifactName lead name) :
    ¬ IsArtifactName lead (workingName name token) := by
  obtain ⟨rest, hrest⟩ := h
  intro h
  rw [IsArtifactName] at h
  have hworking : (workingName name token).toList =
      '.' :: (lead.toList.map ArtifactName.safeChar ++ '_' :: (rest ++ '.' :: (token.toList ++
        ".part".toList))) := by
    simp [workingName, ← hrest]
  rw [hworking] at h
  exact not_prefix_dot_cons _ _ h

/-- No link stands in the directory, and each of its files under the name of an artifact has an
origin. -/
structure Contents (lead : String) (origin : String → Bytes → Prop) (d : Disk) (o : Place) : Prop where
  no_link : ∀ name target, d.get? (o ++ [name]) ≠ some (.link target)
  origin : ∀ name bs, IsArtifactName lead name → d.get? (o ++ [name]) = some (.file bs) →
    origin name bs

/-- Once the directory has been made, its files have an origin. -/
def Filled (dir lead : String) (origin : String → Bytes → Prop) (d : Disk) : Prop :=
  ∀ d' o, d.makeDirAll dir = .ok d' → d'.InDir dir o → Contents lead origin d' o

section

variable {lead dir : String} {origin origin' : String → Bytes → Prop} {d d' : Disk} {o : Place}

theorem Contents.mono (h : Contents lead origin d o)
    (hle : ∀ name bs, origin name bs → origin' name bs) : Contents lead origin' d o :=
  ⟨h.no_link, fun name bs hn hbs => hle name bs (h.origin name bs hn hbs)⟩

theorem Filled.mono (h : Filled dir lead origin d)
    (hle : ∀ name bs, origin name bs → origin' name bs) : Filled dir lead origin' d :=
  fun d' o hd ho => (h d' o hd ho).mono hle

theorem Contents.grown (h : Contents lead origin d o) (hg : Disk.Grown d d') :
    Contents lead origin d' o := by
  refine ⟨fun name target hl => ?_, fun name bs hn hbs => ?_⟩
  · rcases hg (o ++ [name]) with heq | ⟨-, hdir⟩
    · exact h.no_link name target (heq ▸ hl)
    · rw [hdir] at hl
      cases hl
  · rcases hg (o ++ [name]) with heq | ⟨-, hdir⟩
    · exact h.origin name bs hn (heq ▸ hbs)
    · rw [hdir] at hbs
      cases hbs

/-- A directory that is there is not made again. -/
theorem Contents.filled (h : Contents lead origin d o) (ho : d.InDir dir o) :
    Filled dir lead origin d := by
  intro d' o' hd ho'
  have hg := Disk.grown_makeDirAll hd
  obtain rfl := (ho.of_sameWays hg.sameWays).unique ho'
  exact h.grown hg

/-- What happens to a working file has nothing to do with artifacts. -/
theorem Contents.changesAt {name : String} (h : Contents lead origin d o)
    (hn : ¬ IsArtifactName lead name) (hc : Disk.ChangesAt d d' (o ++ [name])) :
    Contents lead origin d' o := by
  have hsame : ∀ {nm : String}, nm ≠ name → d'.get? (o ++ [nm]) = d.get? (o ++ [nm]) := fun hne =>
    hc.others _ fun heq => hne (List.cons.inj (List.append_cancel_left heq)).1
  refine ⟨fun nm target hl => ?_, fun nm bs hart hbs => ?_⟩
  · by_cases hnm : nm = name
    · subst hnm
      exact hc.no_link (h.no_link nm) target hl
    · exact h.no_link nm target (hsame hnm ▸ hl)
  · have hnm : nm ≠ name := fun he => hn (he ▸ hart)
    exact h.origin nm bs hart (hsame hnm ▸ hbs)

/-- A file that has an origin may take the name of an artifact. -/
theorem Contents.rename {working name : String} {bs : Bytes} (h : Contents lead origin d o)
    (ho : d.InDir dir o) (hw : Path.IsName working) (hn : Path.IsName name)
    (hbs : d.content (Path.join dir working) = .ok bs)
    (hr : d.rename (Path.join dir working) (Path.join dir name) = .ok d')
    (horigin : origin name bs) : Contents lead origin d' o ∧ d'.InDir dir o := by
  obtain ⟨p, e, q, hp, hq, hdir, rfl⟩ := Disk.rename_eq_ok hr
  obtain ⟨o₁, ho₁, -, rfl, he⟩ := Disk.find_join_kept hw hp
  obtain ⟨o₂, ho₂, -, rfl, -⟩ := Disk.find_join_kept hn hq
  obtain rfl := ho.unique ho₁
  obtain rfl := ho.unique ho₂
  obtain rfl : e = .file bs := by
    rcases Disk.content_join hw ho hbs with hfile | ⟨target, -, -, hlink, -⟩
    · exact Option.some.inj (he.symm.trans hfile)
    · exact absurd hlink (h.no_link working target)
  have hren := Disk.renamed_put (d := d) (q := o ++ [working]) (o := o ++ [name]) (by simp) (by simp)
    (.file bs)
  generalize (d.erase (o ++ [working])).put (o ++ [name]) (.file bs) = d' at hr hren
  have hget : ∀ nm, nm ≠ name → d'.get? (o ++ [nm]) =
      if nm = working then none else d.get? (o ++ [nm]) := fun nm hnm => by
    rw [hren, if_neg (by simpa using hnm)]
    simp
  refine ⟨⟨fun nm target hl => ?_, fun nm bs' hart hbs' => ?_⟩, ho.of_sameWays fun r => ?_⟩
  · by_cases hnm : nm = name
    · subst hnm
      rw [hren, if_pos rfl] at hl
      cases hl
    · rw [hget nm hnm] at hl
      split at hl
      · cases hl
      · exact h.no_link nm target hl
  · by_cases hnm : nm = name
    · subst hnm
      rw [hren, if_pos rfl] at hbs'
      cases hbs'
      exact horigin
    · rw [hget nm hnm] at hbs'
      split at hbs'
      · cases hbs'
      · exact h.origin nm bs' hart hbs'
  · rw [hren]
    split
    · rename_i hr
      subst hr
      refine .inr ⟨?_, by simp⟩
      cases hold : d.get? (o ++ [name]) with
      | none => trivial
      | some x =>
        cases x with
        | file => trivial
        | dir => exact absurd hold hdir
        | link target => exact absurd hold (h.no_link name target)
    · split
      · rename_i hr
        subst hr
        exact .inr ⟨by rw [he]; trivial, by simp⟩
      · exact .inl rfl

end

/-! ## Downloads one after another -/

section

variable {settings : WorkerSettings} {e : Endpoint} {artifact : ArtifactRef}
  {job hint : Option String} {w w' : World} {origin : String → Bytes → Prop}

/-- A download keeps the origin of files; what it receives is for an artifact of its name. -/
theorem filled_run (settings : WorkerSettings) (e : Endpoint) (artifact : ArtifactRef)
    (job hint : Option String) (w : World)
    (h : Filled settings.outputDir settings.outputPrefix origin w.disk) :
    Filled settings.outputDir settings.outputPrefix
      (fun name bs => origin name bs ∨
        (name = artifactName settings.outputPrefix hint artifact.filename job
            (World.tokenOf w.drawn) ∧
          Receives settings e artifact w ((run settings e artifact job hint).run w).2 bs))
      ((run settings e artifact job hint).run w).2.disk := by
  have hcourse := course_run settings e artifact job hint w
  generalize (run settings e artifact job hint).run w = outcome at hcourse ⊢
  obtain ⟨result, w'⟩ := outcome
  have hartifact := isArtifactName settings.outputPrefix hint artifact.filename job
    (World.tokenOf w.drawn)
  have hname := isName_artifactName settings.outputPrefix hint artifact.filename job
    (World.tokenOf w.drawn)
  generalize artifactName settings.outputPrefix hint artifact.filename job _ = name at *
  have hworking := isName_workingName hname (slash_notMem_tokenOf (w.drawn + 1))
  generalize World.tokenOf (w.drawn + 1) = token at *
  -- Once the directory has been made, what follows goes on from its contents.
  have hmade : ∀ d, w.disk.makeDirAll settings.outputDir = .ok d → ∃ o,
      d.InDir settings.outputDir o ∧ Contents settings.outputPrefix origin d o := fun d hd => by
    obtain ⟨o, ho, -⟩ := Disk.inDir_makeDirAll hd
    exact ⟨o, ho, h d o hd ho⟩
  cases hcourse with
  | unmade _ hdisk =>
    simp only
    rw [hdisk]
    exact h.mono fun _ _ => .inl
  | there hd _ hdisk =>
    subst hdisk
    obtain ⟨o, ho, hc⟩ := hmade _ hd
    exact (hc.filled ho).mono fun _ _ => .inl
  | refused hd hdisk =>
    subst hdisk
    obtain ⟨o, ho, hc⟩ := hmade _ hd
    exact (hc.filled ho).mono fun _ _ => .inl
  | @replied d reply s _ hd hanswer _ hbrings =>
    obtain ⟨o, ho, hc⟩ := hmade d hd
    have hscratch : ∀ d', Disk.Scratched settings.outputDir (workingName name token) d d' →
        Contents settings.outputPrefix origin d' o ∧ d'.InDir settings.outputDir o :=
      fun d' hs =>
        have hchange := hs o ho (hc.no_link _)
        ⟨hc.changesAt (not_isArtifactName_workingName hartifact) hchange,
          ho.of_sameWays hchange.sameWays⟩
    generalize hlast : (s, w'.disk) = last at hbrings
    cases hbrings with
    | failed hs =>
      obtain ⟨-, rfl⟩ := Prod.mk.inj hlast
      obtain ⟨hc', ho'⟩ := hscratch _ hs
      exact (hc'.filled ho').mono fun _ _ => .inl
    | @arrived d₁ d' hsuccess hplain hwhole _ hs hcontent hrename =>
      obtain ⟨-, rfl⟩ := Prod.mk.inj hlast
      obtain ⟨hc', ho'⟩ := hscratch _ hs
      have hreceives : Receives settings e artifact w w' reply.chunks.flatten :=
        ⟨reply, hanswer, hsuccess, hplain, hwhole, rfl⟩
      have hnew : Contents settings.outputPrefix (fun nm bs => origin nm bs ∨
          (nm = name ∧ Receives settings e artifact w w' bs)) d₁ o := hc'.mono fun _ _ => .inl
      obtain ⟨hc'', ho''⟩ :=
        hnew.rename ho' hworking hname hcontent hrename (.inr ⟨rfl, hreceives⟩)
      exact hc''.filled ho''

/-- What a download hands over was in the directory before, or was received by the download. -/
theorem origin_of_run_ok {a : Artifact}
    (h : Filled settings.outputDir settings.outputPrefix origin w.disk)
    (hrun : (run settings e artifact job hint).run w = (.ok a, w')) :
    ∃ bs, bs ≠ [] ∧ w'.disk.FileAt a.path bs ∧
      (origin (artifactName settings.outputPrefix hint artifact.filename job
          (World.tokenOf w.drawn)) bs ∨
        Receives settings e artifact w w' bs) := by
  obtain ⟨bs, hne, -, hfile, ⟨hd, hbs⟩ | hreceives⟩ := run_ok hrun
  · refine ⟨bs, hne, hfile, .inl ?_⟩
    obtain ⟨o, ho, -⟩ := Disk.inDir_makeDirAll hd
    have hc := h _ o hd ho
    have hname := isName_artifactName settings.outputPrefix hint artifact.filename job
      (World.tokenOf w.drawn)
    rcases Disk.content_join hname ho hbs with hthere | ⟨target, -, -, hlink, -⟩
    · exact hc.origin _ bs (isArtifactName ..) hthere
    · exact absurd hlink (hc.no_link _ target)
  · exact ⟨bs, hne, hfile, .inr hreceives⟩

end

end Download

/-- A call for an artifact, and the world in which it is made, but for the disk. -/
structure DownloadCall where
  endpoint : Endpoint
  artifact : ArtifactRef
  job : Option String
  hint : Option String
  around : World

namespace DownloadCall

variable (settings : WorkerSettings)

/-- The world in which a call finds a disk. -/
def world (c : DownloadCall) (d : Disk) : World := { c.around with disk := d }

def run (c : DownloadCall) (d : Disk) : Except WorkerFault Artifact × World :=
  (Download.run settings c.endpoint c.artifact c.job c.hint).run (c.world d)

/-- The name of the artifact that is asked for. -/
def name (c : DownloadCall) : String :=
  artifactName settings.outputPrefix c.hint c.artifact.filename c.job
    (World.tokenOf c.around.drawn)

/-- The call receives these bytes from the worker. -/
def Receives (c : DownloadCall) (d : Disk) (bs : Bytes) : Prop :=
  Download.Receives settings c.endpoint c.artifact (c.world d) (c.run settings d).2 bs

/-- The disk after some calls. -/
def diskAfter (calls : List DownloadCall) (d : Disk) : Disk :=
  calls.foldl (fun d c => (c.run settings d).2.disk) d

/-- One of the calls, which start on this disk, is for an artifact of this name, and receives these
bytes. -/
def Received (calls : List DownloadCall) (d : Disk) (name : String) (bs : Bytes) : Prop :=
  ∃ before c after, calls = before ++ c :: after ∧ c.name settings = name ∧
    c.Receives settings (diskAfter settings before d) bs

end DownloadCall

/-- The directory, once it is there, holds no file and no link. -/
def Disk.Vacant (d : Disk) (dir : String) : Prop :=
  ∀ d' o, d.makeDirAll dir = .ok d' → d'.InDir dir o →
    ∀ name, d'.get? (o ++ [name]) = none ∨ d'.get? (o ++ [name]) = some .dir

namespace DownloadCall

variable {settings : WorkerSettings} {d : Disk} {calls : List DownloadCall}

theorem Received.append {name : String} {bs : Bytes} (h : Received settings calls d name bs)
    (more : List DownloadCall) : Received settings (calls ++ more) d name bs := by
  obtain ⟨before, c, after, rfl, hc⟩ := h
  exact ⟨before, c, after ++ more, by simp, hc⟩

/-- A call keeps the origin of files; what it receives is for an artifact of its name. -/
theorem filled_call {origin : String → Bytes → Prop} (c : DownloadCall)
    (h : Download.Filled settings.outputDir settings.outputPrefix origin d) :
    Download.Filled settings.outputDir settings.outputPrefix
      (fun name bs => origin name bs ∨ (name = c.name settings ∧ c.Receives settings d bs))
      (c.run settings d).2.disk := by
  unfold DownloadCall.Receives DownloadCall.name DownloadCall.run
  have hdrawn : c.around.drawn = (c.world d).drawn := rfl
  rw [hdrawn]
  exact Download.filled_run settings c.endpoint c.artifact c.job c.hint (c.world d) h

/-- After any calls, every artifact in the directory was received by one of them. -/
theorem filled_diskAfter (h : d.Vacant settings.outputDir) (calls : List DownloadCall) :
    Download.Filled settings.outputDir settings.outputPrefix (Received settings calls d)
      (diskAfter settings calls d) := by
  induction calls using List.reverseRecOn with
  | nil =>
    intro d' o hd ho
    refine ⟨fun name target hl => ?_, fun name bs _ hbs => ?_⟩
    · rcases h d' o hd ho name with hn | hn <;> rw [hn] at hl <;> cases hl
    · rcases h d' o hd ho name with hn | hn <;> rw [hn] at hbs <;> cases hbs
  | append_singleton calls c ih =>
    have hafter : diskAfter settings (calls ++ [c]) d =
        (c.run settings (diskAfter settings calls d)).2.disk := by
      simp [diskAfter]
    rw [hafter]
    refine (filled_call c ih).mono fun name bs horigin => ?_
    rcases horigin with hbefore | ⟨hname, hreceives⟩
    · exact hbefore.append [c]
    · exact ⟨calls, c, [], rfl, hname.symm, hreceives⟩

/-- The file that a download hands over is not empty, and was received whole, by that call or an
earlier one, for an artifact of the same name. The two calls are for the same job, if the ids of both
are plain, or safe and after the same stem; the worker that they ask does not matter. -/
theorem hands_over_own (settings : WorkerSettings) (d : Disk) (h : d.Vacant settings.outputDir)
    (calls : List DownloadCall) (c : DownloadCall) (a : Artifact) (w' : World)
    (hrun : c.run settings (diskAfter settings calls d) = (.ok a, w')) :
    ∃ bs before c' after, bs ≠ [] ∧ w'.disk.FileAt a.path bs ∧ calls ++ [c] = before ++ c' :: after ∧
      c'.Receives settings (diskAfter settings before d) bs ∧ c'.name settings = c.name settings ∧
      ∀ id id', c.job.bind nonBlank? = some id → c'.job.bind nonBlank? = some id' →
        (ArtifactName.IsPlain id ∧ ArtifactName.IsPlain id') ∨
          (ArtifactName.IsSafe id ∧ ArtifactName.IsSafe id' ∧
            ArtifactName.stemOf c.hint c.artifact.filename =
              ArtifactName.stemOf c'.hint c'.artifact.filename) →
        id = id' := by
  have hrun' : (Download.run settings c.endpoint c.artifact c.job c.hint).run
      (c.world (diskAfter settings calls d)) = (.ok a, w') := hrun
  obtain ⟨bs, hne, hfile, horigin⟩ :=
    Download.origin_of_run_ok (filled_diskAfter h calls) hrun'
  have hreceived : Received settings (calls ++ [c]) d (c.name settings) bs := by
    rcases horigin with hbefore | hreceives
    · exact Received.append hbefore [c]
    · refine ⟨calls, c, [], rfl, rfl, ?_⟩
      rw [Receives, hrun]
      exact hreceives
  obtain ⟨before, c', after, hcalls, hname, hreceives⟩ := hreceived
  refine ⟨bs, before, c', after, hne, hfile, hcalls, hreceives, hname, fun id id' hid hid' => ?_⟩
  have hpart : ArtifactName.jobPart c.job (World.tokenOf c.around.drawn) = id := by
    rw [ArtifactName.jobPart, hid, Option.getD_some]
  have hpart' : ArtifactName.jobPart c'.job (World.tokenOf c'.around.drawn) = id' := by
    rw [ArtifactName.jobPart, hid', Option.getD_some]
  exact ArtifactName.eq_of_artifactName_eq hpart hpart' hname.symm

/-! ## A sample -/

/-- A call for the artifact of a job, which a worker answers with three bytes. -/
def sampleFirst : DownloadCall where
  endpoint := Relay.sampleEndpoint
  artifact := ⟨"/d/x.mp4", "x.mp4"⟩
  job := some "j"
  hint := none
  around := Relay.sampleWorld []

/-- A call for a job with that id of another worker, whom nobody can reach. -/
def sampleSecond : DownloadCall :=
  { sampleFirst with
    endpoint := ⟨"http://[::1]:8081", false⟩
    around := { Relay.sampleWorld [] with network := .silent } }

theorem vacant_empty : Disk.empty.Vacant "output" := by
  have hmade : Disk.empty.makeDirAll "output" = .ok ⟨[(["output"], .dir)]⟩ := rfl
  intro d' o hd _ name
  rw [hmade] at hd
  cases hd
  by_cases hplace : o ++ [name] = ["output"]
  · rw [hplace]
    exact .inr rfl
  · have hne : (o ++ [name] == ["output"]) = false := by simpa using hplace
    refine .inl ?_
    simp [Disk.get?, List.lookup_cons, hne]

/-- The second call hands over a file and asks nobody. -/
theorem sampleSecond_run : ∃ w', sampleSecond.run {} (diskAfter {} [sampleFirst] .empty) =
    (.ok ⟨"/output/colab_x_j.mp4", 3⟩, w') ∧ w'.sent.length = 0 := by
  have hresult : (sampleSecond.run {} (diskAfter {} [sampleFirst] .empty)).1 =
      .ok ⟨"/output/colab_x_j.mp4", 3⟩ := by
    decide +kernel
  have hsent : (sampleSecond.run {} (diskAfter {} [sampleFirst] .empty)).2.sent.length = 0 := by
    decide +kernel
  generalize sampleSecond.run {} (diskAfter {} [sampleFirst] .empty) = last at hresult hsent
  obtain ⟨result, w'⟩ := last
  exact ⟨w', Prod.ext hresult rfl, hsent⟩

theorem hands_over_own_sample : Disk.empty.Vacant "output" ∧
    ∃ w', sampleSecond.run {} (diskAfter {} [sampleFirst] .empty) =
        (.ok ⟨"/output/colab_x_j.mp4", 3⟩, w') ∧
      ∃ bs before c' after, bs ≠ [] ∧ w'.disk.FileAt "/output/colab_x_j.mp4" bs ∧
        [sampleFirst, sampleSecond] = before ++ c' :: after ∧
        c'.Receives {} (diskAfter {} before .empty) bs ∧ c'.name {} = sampleSecond.name {} := by
  obtain ⟨w', hrun, -⟩ := sampleSecond_run
  obtain ⟨bs, before, c', after, hne, hfile, hcalls, hreceives, hname, -⟩ :=
    hands_over_own {} .empty vacant_empty [sampleFirst] sampleSecond _ w' hrun
  exact ⟨vacant_empty, w', hrun, bs, before, c', after, hne, hfile, hcalls, hreceives, hname⟩

/-- The worker is not part of the name: a file that was received from one worker is handed over for
another one. -/
theorem handed_over_across_workers :
    ¬ ∀ (settings : WorkerSettings) (d : Disk) (calls : List DownloadCall) (c : DownloadCall)
      (a : Artifact) (w' : World), d.Vacant settings.outputDir →
      c.run settings (diskAfter settings calls d) = (.ok a, w') →
      ∃ bs before c' after, w'.disk.FileAt a.path bs ∧ calls ++ [c] = before ++ c' :: after ∧
        c'.Receives settings (diskAfter settings before d) bs ∧ c'.endpoint = c.endpoint ∧
        c'.job.bind nonBlank? = c.job.bind nonBlank? := by
  intro h
  obtain ⟨w', hrun, hsent⟩ := sampleSecond_run
  obtain ⟨bs, before, c', after, -, hcalls, hreceives, hworker, -⟩ :=
    h {} .empty [sampleFirst] sampleSecond _ w' vacant_empty hrun
  rcases before with _ | ⟨c₁, _ | ⟨c₂, before⟩⟩
  · obtain ⟨rfl, -⟩ := List.cons.inj hcalls
    exact absurd hworker (by decide)
  · obtain ⟨hfirst, hrest⟩ := List.cons.inj hcalls
    subst hfirst
    obtain ⟨rfl, -⟩ := List.cons.inj hrest
    -- The second call has sent no request, so it has received nothing.
    obtain ⟨reply, ⟨client, url, -, -, -, hgrown⟩, -⟩ := hreceives
    rw [hrun] at hgrown
    rw [hgrown] at hsent
    simp at hsent
  · simp at hcalls

end DownloadCall

end ClipRelay
