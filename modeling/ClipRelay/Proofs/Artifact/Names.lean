import ClipRelay.Artifact.Name
import ClipRelay.Proofs.Disk.Names
import ClipRelay.Proofs.Text.Trim

/-!
# What the name of an artifact tells

* `isName_artifactName`: the name of an artifact is that of a file, whatever it is made from.
* `ArtifactName.jobIn?_artifactName`: a plain id stands between the last underscore and the last dot.
* `ArtifactName.eq_of_artifactName_eq`: what two artifacts of one name say of their jobs.
* `ArtifactName.plain_jobs_apart`: artifacts of jobs with different plain ids have different names.
-/

namespace ClipRelay

open Text

theorem ArtifactName.slash_not_safe : ArtifactName.isSafe '/' = false := by decide

/-- The characters of the name before the unsafe ones are replaced. -/
theorem toList_artifactName (lead : String) (hint : Option String) (remote : String)
    (job : Option String) (token : String) :
    (artifactName lead hint remote job token).toList =
      (lead.toList.map ArtifactName.safeChar) ++ '_' ::
        (((ArtifactName.stemOf hint remote).toList.map ArtifactName.safeChar) ++ '_' ::
          (((ArtifactName.jobPart job token).toList.map ArtifactName.safeChar) ++ '.' ::
            ((ArtifactName.extensionOf remote).toList.map ArtifactName.safeChar))) := by
  have hunder : ArtifactName.safeChar '_' = '_' := by decide
  have hdot : ArtifactName.safeChar '.' = '.' := by decide
  simp [artifactName, hunder, hdot]

theorem isName_artifactName (lead : String) (hint : Option String) (remote : String)
    (job : Option String) (token : String) :
    Path.IsName (artifactName lead hint remote job token) := by
  have hunder : '_' ∈ (artifactName lead hint remote job token).toList := by
    rw [toList_artifactName]
    simp
  refine ⟨⟨?_, fun hslash => ?_⟩, ?_, ?_⟩
  · intro h
    rw [h] at hunder
    exact absurd hunder (by decide)
  · have hsafe := isSafe_of_mem_artifactName hslash
    rw [ArtifactName.slash_not_safe] at hsafe
    cases hsafe
  · intro h
    rw [h] at hunder
    exact absurd hunder (by decide)
  · intro h
    rw [h] at hunder
    exact absurd hunder (by decide)

namespace ArtifactName

/-- The text holds letters and digits of ASCII, hyphens, underscores and dots only. -/
def IsSafe (s : String) : Prop := ∀ c ∈ s.toList, isSafe c = true

/-- The text has no character at which a name could be cut before the job. -/
def IsPlain (s : String) : Prop := IsSafe s ∧ '_' ∉ s.toList

instance (s : String) : Decidable (IsSafe s) :=
  decidable_of_iff (s.toList.all isSafe = true) List.all_eq_true

instance (s : String) : Decidable (IsPlain s) := inferInstanceAs (Decidable (_ ∧ _))

theorem safeChar_of_isSafe {c : Char} (h : isSafe c = true) : safeChar c = c := if_pos h

theorem map_safeChar {s : String} (h : IsSafe s) : s.toList.map safeChar = s.toList :=
  (List.map_congr_left fun c hc => safeChar_of_isSafe (h c hc)).trans (List.map_id _)

theorem dot_notMem_extension? {path ext : String} (h : Path.extension? path = some ext) :
    '.' ∉ ext.toList := by
  obtain ⟨name, -, hname⟩ := Option.bind_eq_some_iff.1 h
  obtain ⟨cs, hcs, rfl⟩ := Option.map_eq_some_iff.1 hname
  rw [String.toList_ofList]
  unfold Path.splitName at hcs
  split at hcs
  · rename_i after before hcut
    split at hcs
    · cases hcs
    · cases hcs
      simpa using (cutAt?_eq_some_iff.1 hcut).2
  · cases hcs

theorem toLower_ne_dot {c : Char} (h : c ≠ '.') : c.toLower ≠ '.' := by
  unfold Char.toLower
  split
  · rename_i hupper
    intro hdot
    have hval := congrArg (fun d : Char => d.val.toNat) hdot
    simp only [ge_iff_le, UInt32.le_iff_toNat_le, UInt32.toNat_add] at hupper hval
    simp at hupper hval
    omega
  · exact h

theorem safeChar_ne_dot {c : Char} (h : c ≠ '.') : safeChar c ≠ '.' := by
  unfold safeChar
  split
  · exact h
  · decide

/-- There is no dot in an extension. -/
theorem dot_notMem_extensionOf (remote : String) :
    '.' ∉ (extensionOf remote).toList.map safeChar := by
  have hext : '.' ∉ (extensionOf remote).toList := by
    unfold extensionOf
    cases h : Path.extension? remote with
    | none => decide
    | some ext =>
      simp only [Option.map_some, Option.filter]
      split
      · have hdot := dot_notMem_extension? h
        rw [Option.getD_some, asciiLower, String.toList_ofList]
        intro hmem
        obtain ⟨c, hc, hlower⟩ := List.mem_map.1 hmem
        exact toLower_ne_dot (fun he => hdot (he ▸ hc)) hlower
      · decide
  intro hmem
  obtain ⟨c, hc, hsafe⟩ := List.mem_map.1 hmem
  exact safeChar_ne_dot (fun he => hext (he ▸ hc)) hsafe

/-! ## Jobs -/

/-- The job of the artifact with a name: what stands before the last dot, behind the last underscore
there. -/
def jobIn? (name : String) : Option String :=
  (cutAt? '.' name.toList.reverse).bind fun atDot =>
    (cutAt? '_' atDot.2).map fun atJob => String.ofList atJob.1.reverse

section

variable {lead remote remote' token token' id id' : String} {hint hint' job job' : Option String}

/-- No dot stands in the extension and no underscore in the id, whatever the lead and the stem hold. -/
theorem jobIn?_artifactName (lead : String) (hint : Option String) (remote : String)
    (hid : jobPart job token = id) (hplain : IsPlain id) :
    jobIn? (artifactName lead hint remote job token) = some id := by
  have hname : (artifactName lead hint remote job token).toList.reverse =
      ((extensionOf remote).toList.map safeChar).reverse ++ '.' :: (id.toList.reverse ++
        '_' :: (lead.toList.map safeChar ++ '_' :: (stemOf hint remote).toList.map safeChar).reverse) := by
    rw [toList_artifactName, hid, map_safeChar hplain.1]
    simp
  have hdot : '.' ∉ ((extensionOf remote).toList.map safeChar).reverse :=
    mt List.mem_reverse.1 (dot_notMem_extensionOf remote)
  have hunder : '_' ∉ id.toList.reverse := mt List.mem_reverse.1 hplain.2
  rw [jobIn?, cutAt?_eq_some_iff.2 ⟨hname, hdot⟩, Option.bind_some, cutAt?_eq_some_iff.2 ⟨rfl, hunder⟩,
    Option.map_some, List.reverse_reverse, String.ofList_toList]

/-- Artifacts of one name are of one job, if the ids are plain, or safe and after the same stem. -/
theorem eq_of_artifactName_eq (hid : jobPart job token = id) (hid' : jobPart job' token' = id')
    (h : artifactName lead hint remote job token = artifactName lead hint' remote' job' token')
    (hsafe : (IsPlain id ∧ IsPlain id') ∨
      (IsSafe id ∧ IsSafe id' ∧ stemOf hint remote = stemOf hint' remote')) : id = id' := by
  rcases hsafe with ⟨hp, hp'⟩ | ⟨hs, hs', hstem⟩
  · have hjob := jobIn?_artifactName lead hint remote hid hp
    rw [h, jobIn?_artifactName lead hint' remote' hid' hp'] at hjob
    exact (Option.some.inj hjob).symm
  · have hchars := congrArg String.toList h
    rw [toList_artifactName, toList_artifactName, hid, hid', hstem, map_safeChar hs,
      map_safeChar hs'] at hchars
    have htail := (List.cons.inj (List.append_cancel_left hchars)).2
    exact String.toList_inj.1 (append_cons_inj_of_notMem (dot_notMem_extensionOf remote)
      (dot_notMem_extensionOf remote') (List.cons.inj (List.append_cancel_left htail)).2).1

/-- No character of a safe text is blank. -/
theorem isBlank_of_isSafe {c : Char} (h : isSafe c = true) : isBlank c = false := by
  simp only [isSafe, Bool.or_eq_true, decide_eq_true_eq] at h
  rcases h with ((h | rfl) | rfl) | rfl
  · exact isBlank_of_isAlphanum h
  all_goals decide

/-- A safe id is the job part of a name as it stands. -/
theorem jobPart_of_isSafe (hsafe : IsSafe id) (hne : id ≠ "") (token : String) :
    jobPart (some id) token = id := by
  have htrim : trim id = id := trim_eq_self fun c hc => isBlank_of_isSafe (hsafe c hc)
  rw [jobPart, Option.bind_some, nonBlank?, htrim, if_neg hne, Option.getD_some]

/-- The id of a job, if it is plain, can be read off the name of the artifact, whatever else the name
is made from. So artifacts of jobs with different plain ids have different names. -/
theorem plain_jobs_apart (lead lead' : String) (hint hint' : Option String)
    (remote remote' token token' id id' : String) (hid : IsPlain id) (hid' : IsPlain id')
    (hne : id ≠ "") (hne' : id' ≠ "") (h : id ≠ id') :
    jobIn? (artifactName lead hint remote (some id) token) = some id ∧
      jobIn? (artifactName lead' hint' remote' (some id') token') = some id' ∧
      artifactName lead hint remote (some id) token ≠
        artifactName lead' hint' remote' (some id') token' := by
  have hjob := jobIn?_artifactName lead hint remote (jobPart_of_isSafe hid.1 hne token) hid
  have hjob' := jobIn?_artifactName lead' hint' remote' (jobPart_of_isSafe hid'.1 hne' token') hid'
  refine ⟨hjob, hjob', fun heq => h ?_⟩
  rw [heq, hjob'] at hjob
  exact (Option.some.inj hjob).symm

/-- The stem and the extension imitate the other id. -/
theorem plain_jobs_apart_sample :
    IsPlain "7" ∧ IsPlain "7.a-1" ∧
      jobIn? (artifactName "colab" (some "clip_7.a-1.mov") "x.mp4" (some "7") "") = some "7" ∧
      artifactName "colab" (some "clip_7.a-1.mov") "x.mp4" (some "7") "" ≠
        artifactName "colab" (some "clip.mov") "x.mp4" (some "7.a-1") "" := by
  have hid : IsPlain "7" := by decide
  have hid' : IsPlain "7.a-1" := by decide
  obtain ⟨hjob, -, hne⟩ := plain_jobs_apart "colab" "colab" (some "clip_7.a-1.mov") (some "clip.mov")
    "x.mp4" "x.mp4" "" "" "7" "7.a-1" hid hid' (by decide) (by decide) (by decide)
  exact ⟨hid, hid', hjob, hne⟩

end

end ArtifactName

end ClipRelay
