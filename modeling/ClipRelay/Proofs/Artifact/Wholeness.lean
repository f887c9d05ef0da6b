import ClipRelay.Proofs.Artifact.Files
import ClipRelay.Proofs.Disk.Filed
import ClipRelay.Proofs.Disk.Replacement

/-!
# Downloads leave an artifact or nothing

A download in a directory that is there writes to its working file alone. While the body arrives this
holds what has arrived, and when the download is done it is gone: there is the artifact then, or nothing
has changed (`Download.Tidy`). One step keeps this, however it ends (`Download.tidy_step`), and so does
a run of steps (`Download.tidy_steps`).

* `Disk.resolves_of_not_dirLink`: the path of a file resolves when the file has not replaced a link to a
  directory.
* `Download.Brings.whole_body`: the artifact that is left is the whole body of the reply.
* `Download.whole_or_nothing`: a download succeeds with an artifact that is whole, or it fails and leaves
  all files as they were.
-/

namespace ClipRelay

open Text Disk

/-! ## Files that take a place -/

namespace Disk

variable {d : Disk} {q : Place} {path : String} {bs : Bytes}

/-- Once a file has taken the place of the path, where no directory stood, the path resolves. -/
def Resolves (d : Disk) (path : String) : Prop :=
  ∀ d' q bs, d.find false path = .ok (q, d.get? q) → d.get? q ≠ some .dir → Replaced d d' q bs →
    ∃ c, d'.canonical path = .ok c

theorem resolves_of_not_dirLink (h : ¬ d.IsDirLink path) : d.Resolves path :=
  fun _ q _ hfind hdir hrep => ⟨_, canonical_eq_ok_iff.2 ⟨q, _, hrep.find hfind hdir h, rfl⟩⟩

/-- Where a path leads to nothing it is unused, and a file can take its place. -/
theorem free_of_none (h : (d.find false path).map Prod.snd = .ok none) :
    d.Unused path ∧ d.Resolves path := by
  have hnone : ∀ q e, d.find false path ≠ .ok (q, some e) := by
    intro q e hfind
    rw [hfind] at h
    cases h
  exact ⟨hnone, resolves_of_not_dirLink fun ⟨⟨q, target, hfind⟩, _⟩ => hnone q _ hfind⟩

theorem replaced_put (hq : q ≠ []) : Replaced d (d.put q (.file bs)) q bs := get?_put d hq _

end Disk

namespace Download

/-! ## What a download makes of its files -/

/-- A working file has another name than the artifact. -/
theorem name_ne_workingName (name token : String) : name ≠ workingName name token := by
  intro h
  have hlen := congrArg (fun s => s.toList.length) h
  simp [workingName] at hlen
  omega

/-- The path of a file that is there is found. -/
theorem found_of_content {d : Disk} {path : String} {bs : Bytes} (h : d.content path = .ok bs)
    (size : Nat) : ∃ q, d.get? q = some (.file bs) ∧
      found d path size = .done (.ok ⟨Path.ofNames q, size⟩) ∧
      d.canonical path = .ok (Path.ofNames q) := by
  obtain ⟨q, hfind⟩ := content_eq_ok_iff.1 h
  have hcanonical : d.canonical path = .ok (Path.ofNames q) :=
    canonical_eq_ok_iff.2 ⟨q, _, hfind, rfl⟩
  exact ⟨q, get?_of_find hfind, by rw [found, hcanonical], hcanonical⟩

/-- What a download that has found no artifact leaves on a disk: while the body arrives, its working
file, which holds so many bytes; when it is done, the artifact alone, or nothing. -/
def Tidy (base : Disk) (dir name token : String) (k : Nat) (o : Place) : Download → Disk → Prop
  | .receiving file written, d => file = o ++ [workingName name token] ∧
    ∃ bs, bs.length = written ∧ Fits dir k (workingName name token) ∧
      d = base.put (o ++ [workingName name token]) (.file bs)
  | .done (.ok a), d => ∃ bs, bs ≠ [] ∧ a = ⟨Path.ofNames (o ++ [name]), bs.length⟩ ∧
    base.get? (o ++ [name]) ≠ some .dir ∧ d = base.put (o ++ [name]) (.file bs)
  | .done (.error _), d => d = base
  | .missing, d => d = base
  | .looking, _ => False

section

variable {base d : Disk} {dir name token : String} {k : Nat} {o : Place} {s : Download} {bs : Bytes}
  (hat : base.DirAt dir k o) (hn : Path.IsName name) (hw : Path.IsName (workingName name token))
  (hfresh : base.Unused (Path.join dir (workingName name token)))
  (hresolves : base.Resolves (Path.join dir name))
include hat hn hw hfresh hresolves

/-- A working file that is moved to the path of the artifact becomes the artifact. -/
theorem tidy_rename (hfits : Fits dir k (workingName name token)) (hne : bs ≠ [])
    (hrename : (base.put (o ++ [workingName name token]) (.file bs)).rename
      (Path.join dir (workingName name token)) (Path.join dir name) = .ok d) :
    Tidy base dir name token k o (found d (Path.join dir name) bs.length) d := by
  have hnone := (hat.unused_iff hw).1 hfresh hfits
  have hclosed : Closed (base.get? (o ++ [workingName name token])) := by rw [hnone]; trivial
  obtain ⟨hfits', hdir, rfl⟩ :=
    (hat.put_file hclosed).rename_eq_ok hw hn hrename (get?_put_self (by simp))
  rw [erase_put, erase_of_none (by simp) hnone]
  rw [get?_put _ (by simp), if_neg] at hdir
  · have hfind := (hat.find_kept_iff hn).2 ⟨hfits', rfl, rfl⟩
    obtain ⟨c, hc⟩ := hresolves _ _ bs hfind hdir (replaced_put (by simp))
    obtain ⟨q, e, hfound, rfl⟩ := canonical_eq_ok_iff.1 hc
    obtain ⟨rfl, -⟩ := hat.find_put hn hdir hfound
    rw [found, hc]
    exact ⟨bs, hne, rfl, hdir, rfl⟩
  · exact fun h => name_ne_workingName name token (name_eq_of_place_eq h)

/-- One step of a download, whatever happens. -/
theorem tidy_step (h : Tidy base dir name token k o s d) (event : DownloadEvent) :
    Tidy base dir name token k o (step (planOf dir name token) s event d).1
      (step (planOf dir name token) s event d).2 := by
  cases s with
  | looking => exact h.elim
  | missing =>
    obtain rfl : d = base := h
    cases event with
    | head status html =>
      simp only [step, planOf_working]
      split
      · exact rfl
      split
      · exact rfl
      split
      · rename_i file d' hopen
        obtain ⟨hfits, rfl, rfl⟩ := hat.openFile_eq_ok hw ((hat.unused_iff hw).1 hfresh) hopen
        exact ⟨rfl, [], rfl, hfits, rfl⟩
      · simp only [writeFault, hfresh.discard]
        exact rfl
    | _ => exact rfl
  | receiving file written =>
    obtain ⟨rfl, bs, rfl, hfits, rfl⟩ := h
    have hnone := (hat.unused_iff hw).1 hfresh hfits
    have hclosed : Closed (base.get? (o ++ [workingName name token])) := by rw [hnone]; trivial
    have hat' : (base.put (o ++ [workingName name token]) (.file bs)).DirAt dir k o :=
      hat.put_file hclosed
    have hfile : (base.put (o ++ [workingName name token]) (.file bs)).get?
        (o ++ [workingName name token]) = some (.file bs) := get?_put_self (by simp)
    have hgone : (base.put (o ++ [workingName name token]) (.file bs)).discard
        (Path.join dir (workingName name token)) = base := by
      rw [hat'.discard_file hw hfits hfile, erase_put, erase_of_none (by simp) hnone]
    have hfailed : ∀ reason, Tidy base dir name token k o (failed reason)
        ((base.put (o ++ [workingName name token]) (.file bs)).discard
          (Path.join dir (workingName name token))) := fun _ => hgone
    cases event with
    | chunk more =>
      simp only [step, extend_of_file hfile, put_put]
      exact ⟨rfl, bs ++ more, List.length_append, hfits, rfl⟩
    | broken =>
      simp only [step_broken, planOf_working]
      exact hfailed _
    | finish =>
      by_cases hnone : bs.length = 0
      · simp only [step_finish, if_pos hnone, planOf_working]
        exact hfailed _
      · have hne : bs ≠ [] := fun h => hnone (by rw [h]; rfl)
        simp only [step_finish, if_neg hnone, planOf_working, planOf_target]
        cases hrename : (base.put (o ++ [workingName name token]) (.file bs)).rename
            (Path.join dir (workingName name token)) (Path.join dir name) with
        | error f =>
          simp only [writeFault]
          exact hfailed _
        | ok d' =>
          simp only
          exact tidy_rename hat hn hw hfresh hresolves hfits hne hrename
    | go | refused | head =>
      simp only [step]
      exact ⟨rfl, bs, rfl, hfits, rfl⟩
  | done result => cases event <;> exact h

/-- A download that has found no artifact, after whatever has happened. -/
theorem tidy_steps (h : Tidy base dir name token k o s d) (events : List DownloadEvent) :
    Tidy base dir name token k o (steps (planOf dir name token) s events d).1
      (steps (planOf dir name token) s events d).2 := by
  induction events generalizing s d with
  | nil => exact h
  | cons event events ih => exact ih (tidy_step hat hn hw hfresh hresolves h event)

end

/-! ## Runs -/

theorem Brings.done {dir name token : String} {d d' : Disk} {r : Reply} {s : Download}
    (h : Brings dir name token d r (s, d')) : ∃ result, s = .done result := by
  generalize hlast : (s, d') = last at h
  cases h with
  | failed => exact ⟨_, (Prod.mk.inj hlast).1⟩
  | @arrived d₁ d₂ =>
    obtain ⟨rfl, -⟩ := Prod.mk.inj hlast
    unfold found
    split <;> exact ⟨_, rfl⟩

/-- The artifact that a download leaves is the whole body of the reply. -/
theorem Brings.whole_body {dir name token : String} {d d' : Disk} {k : Nat} {o : Place} {r : Reply}
    {a : Artifact} (h : Brings dir name token d r (.done (.ok a), d')) (hn : Path.IsName name)
    (hw : Path.IsName (workingName name token)) (hat : d.DirAt dir k o)
    (htidy : Tidy d dir name token k o (.done (.ok a)) d') :
    (r.isSuccess = true ∧ r.isHtml = false ∧ r.whole = true) ∧ r.chunks.flatten ≠ [] ∧
      a = ⟨Path.ofNames (o ++ [name]), r.chunks.flatten.length⟩ ∧
      d.get? (o ++ [name]) ≠ some .dir ∧ d' = d.put (o ++ [name]) (.file r.chunks.flatten) ∧
      d'.FileAt a.path r.chunks.flatten := by
  obtain ⟨bs, hne, rfl, hdir, rfl⟩ := htidy
  obtain ⟨hsuccess, hplain, hwhole, -, -, hcanonical, hcontent⟩ := h.content hn hw
  -- What is found there is what has been put there.
  obtain ⟨m, hfind⟩ := content_eq_ok_iff.1 hcontent
  obtain ⟨-, hfile⟩ := hat.find_put hn hdir hfind
  obtain rfl : r.chunks.flatten = bs := by simpa using hfile
  exact ⟨⟨hsuccess, hplain, hwhole⟩, hne, rfl, hdir, rfl, fileAt_canonical hcanonical hcontent⟩

section

variable {settings : WorkerSettings} {artifact : ArtifactRef} {job hint : Option String} {w : World}

/-- A download succeeds with an artifact that is whole, or it leaves nothing. An artifact is not empty,
its size is that of the file at its path, and it was there before, or it is the whole body of a reply
and has taken its place where no directory stood; no other file has changed. A download that fails does
so with the one code, and all files are as they were. At most the directory of artifacts is new. -/
theorem whole_or_nothing (e : Endpoint)
    (hfresh : (w.disk.withDir settings.outputDir).Unused
      (planIn settings artifact job hint w).working)
    (hresolves : (w.disk.withDir settings.outputDir).Resolves
      (planIn settings artifact job hint w).target) :
    let d := w.disk.withDir settings.outputDir
    let ran := (run settings e artifact job hint).run w
    Grown w.disk d ∧
    ((∃ a bs q, ran.1 = .ok a ∧ bs ≠ [] ∧ a.size = bs.length ∧ a.path = Path.ofNames q ∧
        ran.2.disk.FileAt a.path bs ∧
        ((w.disk.get? q = some (.file bs) ∧ ran.2.disk = d) ∨
          (Receives settings e artifact w ran.2 bs ∧ d.get? q ≠ some .dir ∧
            Replaced d ran.2.disk q bs))) ∨
      ∃ f, ran.1 = .error f ∧ f.code = .downloadFailed ∧ ran.2.disk = d) := by
  intro d ran
  have hgrown : Grown w.disk d := grown_withDir w.disk settings.outputDir
  refine ⟨hgrown, ?_⟩
  have hcourse : Course settings e artifact _ _ w ran := course_run settings e artifact job hint w
  rw [planIn, planOf_working] at hfresh
  rw [planIn, planOf_target] at hresolves
  have hname := isName_artifactName settings.outputPrefix hint artifact.filename job
    (World.tokenOf w.drawn)
  generalize artifactName settings.outputPrefix hint artifact.filename job _ = name at *
  have hworking := isName_workingName hname (slash_notMem_tokenOf (w.drawn + 1))
  generalize World.tokenOf (w.drawn + 1) = token at *
  have hmade : ∀ {d₁}, w.disk.makeDirAll settings.outputDir = .ok d₁ → d₁ = d := fun h =>
    (withDir_of_ok h).symm
  generalize ran = ran at hcourse
  cases hcourse with
  | unmade hfailed hdisk =>
    have hsame : d = w.disk := by
      simp only [d, withDir, hfailed]
    exact .inr ⟨_, rfl, rfl, hdisk.trans hsame.symm⟩
  | refused hdir hdisk => exact .inr ⟨_, rfl, rfl, hdisk.trans (hmade hdir)⟩
  | there hdir hsize hdisk =>
    obtain rfl := hmade hdir
    obtain ⟨bs, hbs, hne, rfl⟩ := sizeAt?_eq_some hsize
    obtain ⟨q, hq, hfound, hcanonical⟩ := found_of_content hbs bs.length
    have hbefore : w.disk.get? q = some (.file bs) := by
      rcases hgrown q with heq | ⟨-, hnew⟩
      · rw [← heq, hq]
      · cases hnew.symm.trans hq
    rw [hfound]
    refine .inl ⟨_, bs, q, rfl, hne, rfl, rfl, ?_, .inl ⟨hbefore, hdisk⟩⟩
    rw [hdisk]
    exact fileAt_canonical hcanonical hbs
  | @replied _ reply s w' hdir hanswer hsteps hbrings =>
    obtain rfl := hmade hdir
    obtain ⟨k, o, hat⟩ := dirAt_makeDirAll hdir
    have hstart : Tidy d settings.outputDir name token k o .missing d := rfl
    have htidy := tidy_steps hat hname hworking hfresh hresolves hstart (eventsOf reply)
    have hown := steps_fault (planOf settings.outputDir name token) (s := .missing) trivial
      (eventsOf reply) d
    simp only [hsteps] at htidy hown
    obtain ⟨f | a, rfl⟩ := hbrings.done
    · obtain ⟨reason, rfl⟩ := hown
      exact .inr ⟨_, rfl, rfl, htidy⟩
    · obtain ⟨⟨hsuccess, hplain, hwhole⟩, hne, rfl, hfree, hdisk, hfile⟩ :=
        hbrings.whole_body hname hworking hat htidy
      refine .inl ⟨_, _, o ++ [name], rfl, hne, rfl, rfl, hfile,
        .inr ⟨⟨reply, hanswer, hsuccess, hplain, hwhole, rfl⟩, hfree, ?_⟩⟩
      rw [hdisk]
      exact replaced_put (by simp)

end

/-! ## A sample -/

/-- A world with a worker that sends an artifact of three bytes in two pieces, and breaks off or does
not. -/
def piecesWorld (whole : Bool) : World where
  disk := ⟨[(["output"], .dir), (["output", "other.mp4"], .file [9])]⟩
  network := .single "[::1]:8080" [("GET /d/x.mp4", [.reply ⟨200, none, [[1, 2], [3]], whole⟩])]
  tools := .empty
  rehearsed := []
  clock := 0
  drawn := 0

/-- The download of this artifact. -/
def piecesRun (whole : Bool) : Except WorkerFault Artifact × World :=
  (run {} ⟨"http://[::1]:8080", false⟩ ⟨"/d/x.mp4", "x.mp4"⟩ (some "j") none).run (piecesWorld whole)

theorem whole_or_nothing_sample :
    (∃ bs w', piecesRun true = (.ok ⟨"/output/colab_x_j.mp4", 3⟩, w') ∧ bs.length = 3 ∧
      w'.disk.FileAt "/output/colab_x_j.mp4" bs) ∧
    ∃ f w', piecesRun false = (.error f, w') ∧ f.code = .downloadFailed ∧
      w'.disk = (piecesWorld false).disk.withDir "output" := by
  have hfree : ∀ whole,
      (((piecesWorld whole).disk.withDir ({} : WorkerSettings).outputDir).find false
        (planIn {} ⟨"/d/x.mp4", "x.mp4"⟩ (some "j") none (piecesWorld whole)).working).map Prod.snd =
          .ok none ∧
      (((piecesWorld whole).disk.withDir ({} : WorkerSettings).outputDir).find false
        (planIn {} ⟨"/d/x.mp4", "x.mp4"⟩ (some "j") none (piecesWorld whole)).target).map Prod.snd =
          .ok none := by
    decide +kernel
  have hrun : ∀ whole, (run {} ⟨"http://[::1]:8080", false⟩ ⟨"/d/x.mp4", "x.mp4"⟩ (some "j")
      none).run (piecesWorld whole) = piecesRun whole := fun _ => rfl
  have hwhole := fun whole => (whole_or_nothing ⟨"http://[::1]:8080", false⟩
    (free_of_none (hfree whole).1).1 (free_of_none (hfree whole).2).2).2
  simp only [hrun] at hwhole
  have hok : (piecesRun true).1 = .ok ⟨"/output/colab_x_j.mp4", 3⟩ := by decide +kernel
  have herror : (piecesRun false).1.isOk = false := by decide +kernel
  constructor
  · have hsucceeds := hwhole true
    generalize piecesRun true = ran at hok hsucceeds ⊢
    obtain ⟨result, w'⟩ := ran
    obtain rfl : result = _ := hok
    obtain ⟨a, bs, q, ha, -, hsize, -, hfile, -⟩ | ⟨f, hf, -⟩ := hsucceeds
    · obtain rfl := Except.ok.inj ha
      exact ⟨bs, w', rfl, hsize.symm, hfile⟩
    · cases hf
  · have hfails := hwhole false
    generalize piecesRun false = ran at herror hfails ⊢
    obtain ⟨result, w'⟩ := ran
    obtain ⟨a, -, -, ha, -⟩ | ⟨f, hf, hcode, hdisk⟩ := hfails
    · obtain rfl : result = _ := ha
      cases herror
    · obtain rfl : result = _ := hf
      exact ⟨f, w', rfl, hcode, hdisk⟩

end Download

end ClipRelay
