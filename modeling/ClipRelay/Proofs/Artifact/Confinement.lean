import ClipRelay.Proofs.Artifact.Ownership
import ClipRelay.Proofs.Disk.Standing

/-!
# Downloads stay in the output directory

The hint, the worker's name for an artifact and the id of the job come from outside, and the name of
the artifact is made from them. Whatever they are, that name is one component of a path
(`ArtifactName.Ordinary`), and so is the name of the working file.

* `ArtifactName.ordinary`: what holds of every name of an artifact.
* `Download.workingName_ne_artifactName`: a working file never has the name of an artifact.
* `Download.confined_run`: a download leaves all files as they are, but for two in its directory.
* `Download.stays_in_directory`: the three together.
-/

namespace ClipRelay

open Text

/-! ## Files in a directory -/

namespace Path

/-- The path leads to a file of this name, directly in the directory. -/
structure IsChild (dir name path : String) : Prop where
  path_eq : path = join dir name
  namedPieces : namedPieces path = namedPieces dir ++ [name.toList]
  isAbsolute : isAbsolute path = isAbsolute dir

/-- A path without directories in front: the file name of the path is all of it. -/
structure IsAlone (path : String) : Prop where
  isName : IsName path
  namedPieces : Path.namedPieces path = [path.toList]
  isAbsolute : Path.isAbsolute path = false
  fileName : fileName? path = some path

variable {name : String}

theorem IsPiece.not_isAbsolute (h : IsPiece name) : Path.isAbsolute name = false := by
  rw [Path.isAbsolute, startsWith, Bool.eq_false_iff]
  intro hpre
  exact h.no_slash ((List.isPrefixOf_iff_prefix.1 hpre).subset (by simp))

theorem IsName.toList_ne_dot (h : IsName name) : name.toList ≠ ['.'] := fun he =>
  h.ne_dot (by rw [← String.toList_inj, he]; rfl)

theorem IsName.toList_ne_up (h : IsName name) : name.toList ≠ ['.', '.'] := fun he =>
  h.ne_up (by rw [← String.toList_inj, he]; rfl)

theorem IsName.isAlone (h : IsName name) : IsAlone name := by
  have hpieces : Path.namedPieces name = [name.toList] := by
    rw [Path.namedPieces, h.pieces_eq]
    simp [h.toList_ne_dot]
  refine ⟨h, hpieces, h.not_isAbsolute, ?_⟩
  rw [fileName?, fileNameChars?, hpieces, List.getLast?_singleton]
  simp only
  rw [if_neg h.toList_ne_up, Option.map_some, String.ofList_toList]

theorem isAbsolute_join (dir : String) (h : IsPiece name) :
    Path.isAbsolute (join dir name) = Path.isAbsolute dir := by
  have habs := h.not_isAbsolute
  rw [join, habs, Bool.false_or]
  by_cases hdir : dir = ""
  · rw [decide_eq_true hdir, if_pos rfl, habs, hdir]
    rfl
  · obtain ⟨c, cs, hcs⟩ : ∃ c cs, dir.toList = c :: cs := List.exists_cons_of_ne_nil (by simpa using hdir)
    have happend (s : String) : Path.isAbsolute (dir ++ s) = Path.isAbsolute dir := by
      simp [Path.isAbsolute, startsWith, hcs, List.isPrefixOf]
    rw [decide_eq_false hdir, if_neg (by simp)]
    split
    · exact happend name
    · rw [String.append_assoc]
      exact happend ("/" ++ name)

theorem IsName.isChild (dir : String) (h : IsName name) : IsChild dir name (join dir name) := by
  refine ⟨rfl, ?_, isAbsolute_join dir h.toIsPiece⟩
  rw [Path.namedPieces, pieces_join dir h.toIsPiece, List.filter_append, Path.namedPieces]
  simp [h.toList_ne_dot]

end Path

/-! ## Names of artifacts -/

namespace ArtifactName

/-- What holds of the name of an artifact, whatever it is made from. -/
structure Ordinary (name : String) : Prop where
  isSafe : IsSafe name
  underscore : '_' ∈ name.toList
  /-- Behind the last dot there is an extension. -/
  extension : ∃ stem ext, name.toList = stem ++ '.' :: ext ∧ ext ≠ [] ∧ '.' ∉ ext
  isAlone : Path.IsAlone name

theorem extensionOf_ne_empty (remote : String) : extensionOf remote ≠ "" := by
  unfold extensionOf
  cases h : ((Path.extension? remote).map asciiLower).filter (· ≠ "") with
  | none => decide
  | some ext =>
    rw [Option.getD_some]
    simpa using (Option.filter_eq_some_iff.1 h).2

theorem ordinary (lead : String) (hint : Option String) (remote : String) (job : Option String)
    (token : String) : Ordinary (artifactName lead hint remote job token) := by
  refine ⟨fun c hc => isSafe_of_mem_artifactName hc, ?_, ?_, (isName_artifactName ..).isAlone⟩
  · rw [toList_artifactName]
    simp
  · have hne : (extensionOf remote).toList.map safeChar ≠ [] := by
      simpa using extensionOf_ne_empty remote
    -- The text in front of the extension ends with the job.
    refine ⟨lead.toList.map safeChar ++ '_' :: ((stemOf hint remote).toList.map safeChar ++
      '_' :: (jobPart job token).toList.map safeChar), _, ?_, hne, dot_notMem_extensionOf remote⟩
    rw [toList_artifactName]
    simp

/-- A name starts with a dot just when its lead does. -/
theorem head?_artifactName {lead : String} (hlead : lead.toList.head? ≠ some '.')
    (hint : Option String) (remote : String) (job : Option String) (token : String) :
    (artifactName lead hint remote job token).toList.head? ≠ some '.' := by
  rw [toList_artifactName]
  cases hcs : lead.toList with
  | nil => simp
  | cons c cs =>
    rw [hcs, List.head?_cons] at hlead
    have hc : safeChar c ≠ '.' := safeChar_ne_dot fun he => hlead (congrArg some he)
    simpa using hc

end ArtifactName

namespace Download

/-! ## Working files -/

/-- A working file has no name of an artifact with the same lead, nor with a lead that does not start
with a dot. -/
theorem workingName_ne_artifactName {lead name : String} (h : IsArtifactName lead name)
    (token lead' : String) (hint : Option String) (remote : String) (job : Option String)
    (token' : String) (hlead : lead' = lead ∨ lead'.toList.head? ≠ some '.') :
    workingName name token ≠ artifactName lead' hint remote job token' := by
  intro heq
  rcases hlead with rfl | hdot
  · exact not_isArtifactName_workingName h (heq ▸ isArtifactName lead' hint remote job token')
  · apply ArtifactName.head?_artifactName hdot hint remote job token'
    rw [← heq]
    simp [workingName]

/-! ## The disk -/

/-- A reply changes nothing but the artifact and the working file. -/
theorem Brings.confined {dir name token : String} {d d' : Disk} {r : Reply} {s : Download}
    {o : Place} (h : Brings dir name token d r (s, d')) (hn : Path.IsName name)
    (hw : Path.IsName (workingName name token)) (ho : d.InDir dir o)
    (hlink : ∀ target, d.get? (o ++ [workingName name token]) ≠ some (.link target)) :
    ∀ q, q ≠ o ++ [name] → q ≠ o ++ [workingName name token] → d'.get? q = d.get? q := by
  intro q hname hworking
  cases h with
  | failed hscratch => exact (hscratch o ho hlink).others q hworking
  | @arrived d₁ _ _ _ _ _ hscratch _ hrename =>
    have hchange := hscratch o ho hlink
    have ho₁ := ho.of_sameWays hchange.sameWays
    obtain ⟨p, x, t, hp, ht, -, rfl⟩ := Disk.rename_eq_ok hrename
    obtain ⟨o', ho', -, rfl, -⟩ := Disk.find_join_kept hw hp
    obtain rfl := ho₁.unique ho'
    obtain ⟨o', ho', -, rfl, -⟩ := Disk.find_join_kept hn ht
    obtain rfl := ho₁.unique ho'
    rw [Disk.renamed_put (by simp) (by simp) x q, if_neg hname, if_neg hworking]
    exact hchange.others q hworking

section

variable (settings : WorkerSettings) (e : Endpoint) (artifact : ArtifactRef)
  (job hint : Option String) (w : World)

/-- The name under which a download files its artifact. -/
def nameIn : String :=
  artifactName settings.outputPrefix hint artifact.filename job (World.tokenOf w.drawn)

/-- The name of its working file. -/
def workingIn : String :=
  workingName (nameIn settings artifact job hint w) (World.tokenOf (w.drawn + 1))

theorem isName_nameIn : Path.IsName (nameIn settings artifact job hint w) :=
  isName_artifactName ..

theorem isName_workingIn : Path.IsName (workingIn settings artifact job hint w) :=
  isName_workingName (isName_nameIn settings artifact job hint w) (slash_notMem_tokenOf _)

/-- The artifact and the working file stand directly in the directory. -/
theorem isChild_planIn :
    Path.IsChild settings.outputDir (nameIn settings artifact job hint w)
        (planIn settings artifact job hint w).target ∧
      Path.IsChild settings.outputDir (workingIn settings artifact job hint w)
        (planIn settings artifact job hint w).working := by
  rw [planIn, planOf_target, planOf_working]
  exact ⟨(isName_nameIn settings artifact job hint w).isChild _,
    (isName_workingIn settings artifact job hint w).isChild _⟩

/-- What a download may change once its directory is there: the artifact and the working file. -/
def ConfinedTo (o : Place) (d d' : Disk) : Prop :=
  ∀ q, q ≠ o ++ [nameIn settings artifact job hint w] →
    q ≠ o ++ [workingIn settings artifact job hint w] → d'.get? q = d.get? q

theorem confined_run {o : Place} (ho : (w.disk.withDir settings.outputDir).InDir settings.outputDir o)
    (hlink : ∀ target, (w.disk.withDir settings.outputDir).get?
      (o ++ [workingIn settings artifact job hint w]) ≠ some (.link target)) :
    ConfinedTo settings artifact job hint w o (w.disk.withDir settings.outputDir)
      ((run settings e artifact job hint).run w).2.disk := by
  intro q hq hq'
  have hname := isName_nameIn settings artifact job hint w
  have hworking := isName_workingIn settings artifact job hint w
  have hcourse := course_run settings e artifact job hint w
  rw [← nameIn] at hcourse
  generalize (run settings e artifact job hint).run w = outcome at hcourse ⊢
  unfold workingIn at *
  generalize nameIn settings artifact job hint w = name at *
  cases hcourse with
  | unmade hfailed hdisk => rw [Disk.withDir, hfailed, hdisk]
  | there hmade _ hdisk | refused hmade hdisk => rw [Disk.withDir_of_ok hmade, hdisk]
  | replied hmade _ _ hbrings =>
    rw [Disk.withDir_of_ok hmade] at ho hlink ⊢
    exact hbrings.confined hname hworking ho hlink q hq hq'

/-- A download stays in the output directory. The name of an artifact is one component of a path,
whatever it is made from; the artifact and the working file stand directly in the directory, and the
working file never has the name of an artifact. Nothing else on the disk changes, but for directories
that are made. -/
theorem stays_in_directory :
    (∀ lead hint remote job token,
      ArtifactName.Ordinary (artifactName lead hint remote job token)) ∧
    Path.IsChild settings.outputDir (nameIn settings artifact job hint w)
      (planIn settings artifact job hint w).target ∧
    Path.IsChild settings.outputDir (workingIn settings artifact job hint w)
      (planIn settings artifact job hint w).working ∧
    Path.IsAlone (workingIn settings artifact job hint w) ∧
    (∀ lead hint' remote job' token,
      lead = settings.outputPrefix ∨ lead.toList.head? ≠ some '.' →
        workingIn settings artifact job hint w ≠ artifactName lead hint' remote job' token) ∧
    Disk.Grown w.disk (w.disk.withDir settings.outputDir) ∧
    ∀ o, (w.disk.withDir settings.outputDir).InDir settings.outputDir o →
      (∀ target, (w.disk.withDir settings.outputDir).get?
        (o ++ [workingIn settings artifact job hint w]) ≠ some (.link target)) →
      ConfinedTo settings artifact job hint w o (w.disk.withDir settings.outputDir)
        ((run settings e artifact job hint).run w).2.disk := by
  obtain ⟨htarget, hworking⟩ := isChild_planIn settings artifact job hint w
  refine ⟨ArtifactName.ordinary, htarget, hworking, (isName_workingIn ..).isAlone,
    fun lead hint' remote job' token hlead => ?_, Disk.grown_withDir w.disk settings.outputDir,
    fun o ho hlink => confined_run settings e artifact job hint w ho hlink⟩
  exact workingName_ne_artifactName (isArtifactName ..) _ lead hint' remote job' token hlead

end

/-- An artifact whose name points out of the directory, as do the hint and the job that come with
it. -/
def escapingArtifact : ArtifactRef := ⟨"/d/x.mp4", "/../etc/x.S\x00H"⟩

theorem stays_in_directory_sample :
    let w := Relay.sampleWorld []
    let d := w.disk.withDir "output"
    nameIn {} escapingArtifact (some "../é") (some "a/..") w = "colab_x_..__.s_h" ∧
      ArtifactName.Ordinary "colab_x_..__.s_h" ∧
      Path.IsChild "output" "colab_x_..__.s_h"
        (planIn {} escapingArtifact (some "../é") (some "a/..") w).target ∧
      workingIn {} escapingArtifact (some "../é") (some "a/..") w ≠
        artifactName "" (some "v") ".part" none "" ∧
      ∃ o, d.InDir "output" o ∧ ConfinedTo {} escapingArtifact (some "../é") (some "a/..") w o d
        ((run {} Relay.sampleEndpoint escapingArtifact (some "../é") (some "a/..")).run w).2.disk := by
  have hname : nameIn {} escapingArtifact (some "../é") (some "a/..") (Relay.sampleWorld []) =
      "colab_x_..__.s_h" := by decide +kernel
  obtain ⟨hordinary, htarget, -, -, hapart, -, hdisk⟩ := stays_in_directory {} Relay.sampleEndpoint
    escapingArtifact (some "../é") (some "a/..") (Relay.sampleWorld [])
  have hmade : (Relay.sampleWorld []).disk.makeDirAll "output" =
      .ok ⟨[(["output"], .dir), (["a.mp4"], .file [1, 2, 3])]⟩ := rfl
  obtain ⟨o, ho, -⟩ := Disk.inDir_makeDirAll hmade
  rw [← Disk.withDir_of_ok hmade] at ho
  have hlinks : (Relay.sampleWorld []).disk.NoLinks :=
    Disk.noLinks_of_entries (by simp [Relay.sampleWorld])
  refine ⟨hname, ?_, hname ▸ htarget, hapart "" (some "v") ".part" none "" (.inr (by decide)), o, ho,
    hdisk o ho (hlinks.grown (Disk.grown_withDir _ _) _)⟩
  rw [← hname]
  exact hordinary ..

end Download

end ClipRelay
