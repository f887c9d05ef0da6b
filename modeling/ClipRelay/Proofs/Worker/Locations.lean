import ClipRelay.Proofs.Worker.Readers
import ClipRelay.Proofs.Worker.Snapshots

/-!
# Where a finished job leaves its artifact

A report of a complete job names the place of its artifact by a URL, and the file by a name of its
own or else by the last segment of that URL. A URL alone is not enough: without a name, and with a
URL whose path ends in a slash, the artifact counts as missing (`Unnamed`).

* `lastSegment?_eq_none_iff`: when a URL has no last segment.
* `Report.artifact?_eq_none_iff`: when a report has no artifact.
* `Report.located_is_fetched`: a complete job with a URL and a name for the file is fetched, by the
  readers of a poll and of a stream alike; any other complete job lacks its artifact.
-/

namespace ClipRelay

open Text Json

/-! ## The last segment of a URL -/

/-- What stands before query and fragment ends in a slash, or is empty. -/
def EndsOpen (url : String) : Prop :=
  ∃ path tail, url.toList = path ++ tail ∧ (∀ c ∈ path, c ≠ '?' ∧ c ≠ '#') ∧
    (∀ c, tail.head? = some c → c = '?' ∨ c = '#') ∧ ∀ c, path.getLast? = some c → c = '/'

theorem takeWhile_eq_nil_iff_head? {α : Type} {p : α → Bool} (l : List α) :
    l.takeWhile p = [] ↔ ∀ a, l.head? = some a → p a = false := by
  cases l with
  | nil => simp
  | cons a l => cases hp : p a <;> simp [hp]

/-- A text is cut in front of the first character that a predicate refuses, and in no other place. -/
theorem takeWhile_of_append {α : Type} {p : α → Bool} {before after : List α}
    (h : ∀ a ∈ before, p a = true) (hafter : ∀ a, after.head? = some a → p a = false) :
    (before ++ after).takeWhile p = before := by
  rw [List.takeWhile_append_of_pos h, (takeWhile_eq_nil_iff_head? after).2 hafter, List.append_nil]

theorem lastSegment?_eq_none_iff (url : String) : lastSegment? url = none ↔ EndsOpen url := by
  have isEnd (c : Char) : (c != '?' && c != '#') = false ↔ c = '?' ∨ c = '#' := by
    simp only [Bool.and_eq_false_iff, bne_eq_false_iff_eq]
  have isPath (c : Char) : (c != '?' && c != '#') = true ↔ c ≠ '?' ∧ c ≠ '#' := by
    simp only [Bool.and_eq_true, bne_iff_ne]
  have hsegment : lastSegment? url = none ↔
      ∀ c, (url.toList.takeWhile fun c => c != '?' && c != '#').getLast? = some c → c = '/' := by
    unfold lastSegment?
    dsimp only
    rw [ite_eq_left_iff, List.isEmpty_iff, List.reverse_eq_nil_iff, takeWhile_eq_nil_iff_head?,
      List.head?_reverse]
    simp only [bne_eq_false_iff_eq, reduceCtorEq, imp_false, not_not]
  rw [hsegment]
  constructor
  · intro h
    refine ⟨_, _, (List.takeWhile_append_dropWhile).symm, fun c hc => ?_, fun c hc => ?_, h⟩
    · exact (isPath c).1 (List.all_eq_true.1 List.all_takeWhile c hc)
    · have hstop := List.head?_dropWhile_not (fun c => c != '?' && c != '#') url.toList
      rw [hc] at hstop
      exact (isEnd c).1 hstop
  · rintro ⟨path, tail, hurl, hpath, htail, h⟩
    rwa [hurl, takeWhile_of_append (fun c hc => (isPath c).2 (hpath c hc))
      fun c hc => (isEnd c).2 (htail c hc)]

/-! ## The fields of a report -/

theorem labelOf_field_eq_some_iff (v : Json) (key s : String) :
    labelOf ((v.get? key).bind orAbsent) = some s ↔
      ∃ t, v.get? key = some (.string t) ∧ trim t = s ∧ s ≠ "" := by
  have nonBlank?_eq (t : String) : nonBlank? t = some s ↔ trim t = s ∧ s ≠ "" := by
    unfold nonBlank?
    dsimp only
    split
    · rename_i hblank
      rw [hblank]
      exact ⟨nofun, fun ⟨h, hs⟩ => absurd h.symm hs⟩
    · rename_i hne
      exact ⟨fun h => Option.some.inj h ▸ ⟨rfl, hne⟩, fun h => congrArg some h.1⟩
  cases hv : v.get? key with
  | none => simp [labelOf]
  | some field =>
    cases field with
    | string t => simp [orAbsent, labelOf, nonBlank?_eq]
    | _ => simp [orAbsent, labelOf]

/-- The URL of an artifact, without the blanks around it. -/
def Located (v : Json) (url : String) : Prop :=
  ∃ s, v.get? "download_url" = some (.string s) ∧ trim s = url ∧ url ≠ ""

/-- There is no name for the file: the report has none, and its URL has no last segment. -/
def Unnamed (v : Json) (url : String) : Prop :=
  (∀ s, v.get? "filename" = some (.string s) → trim s = "") ∧ EndsOpen url

/-- The report does not say where the artifact is, or leaves the file without a name. -/
def Unlocated (v : Json) : Prop := ∀ url, Located v url → Unnamed v url

namespace Report

section
variable {v : Json} {r : Report} (hr : ofJson? v = some r)
include hr

theorem fields_of_ofJson? : r.downloadUrl = (v.get? "download_url").bind orAbsent ∧
    r.filename = (v.get? "filename").bind orAbsent := by
  unfold ofJson? at hr
  split at hr
  · cases hr
    exact ⟨rfl, rfl⟩
  · cases hr

theorem labelOf_downloadUrl_iff (url : String) :
    labelOf r.downloadUrl = some url ↔ Located v url := by
  rw [(fields_of_ofJson? hr).1, labelOf_field_eq_some_iff, Located]

theorem labelOf_filename_eq_none_iff :
    labelOf r.filename = none ↔ ∀ s, v.get? "filename" = some (.string s) → trim s = "" := by
  rw [(fields_of_ofJson? hr).2, Option.eq_none_iff_forall_ne_some]
  simp only [ne_eq, labelOf_field_eq_some_iff]
  constructor
  · intro h s hs
    exact Decidable.by_contra fun hne => h (trim s) ⟨s, hs, rfl, hne⟩
  · rintro h _ ⟨s, hs, rfl, hne⟩
    exact hne (h s hs)

/-- The name of the file is missing exactly when neither the report nor the URL has one. -/
theorem name_eq_none_iff (url : String) :
    (labelOf r.filename <|> lastSegment? url) = none ↔ Unnamed v url := by
  rw [Option.orElse_eq_orElse, Option.orElse_eq_or, Option.or_eq_none_iff, lastSegment?_eq_none_iff,
    labelOf_filename_eq_none_iff hr, Unnamed]

theorem artifact?_of_located {url : String} (hurl : Located v url) (hname : ¬ Unnamed v url) :
    ∃ name, r.artifact? = some ⟨url, name⟩ := by
  obtain ⟨name, h⟩ := Option.ne_none_iff_exists'.1 (mt (name_eq_none_iff hr url).1 hname)
  refine ⟨name, ?_⟩
  rw [artifact?, (labelOf_downloadUrl_iff hr url).2 hurl]
  dsimp only [Option.bind_eq_bind, Option.bind_some]
  rw [h]
  rfl

theorem artifact?_eq_none_iff : r.artifact? = none ↔ Unlocated v := by
  constructor
  · intro h url hurl
    by_contra hname
    obtain ⟨name, hsome⟩ := artifact?_of_located hr hurl hname
    rw [hsome] at h
    cases h
  · intro h
    cases hlabel : labelOf r.downloadUrl with
    | none => rw [artifact?, hlabel]; rfl
    | some url =>
      have hname := (name_eq_none_iff hr url).2 (h url ((labelOf_downloadUrl_iff hr url).1 hlabel))
      rw [artifact?, hlabel]
      dsimp only [Option.bind_eq_bind, Option.bind_some]
      rw [hname]
      rfl

end

/-! ## Complete jobs -/

theorem snapshot_of_artifact? {r : Report} {artifact : ArtifactRef} (hstate : r.state = "complete")
    (h : r.artifact? = some artifact) (before : Option Snapshot) :
    r.snapshot before = .complete artifact (r.message?.getD "Processing complete!") := by
  rw [snapshot, if_pos hstate, h]

/-- A snapshot misses a place to download from just when the job is complete without one. -/
theorem error_snapshot_iff (r : Report) (before : Option Snapshot) :
    (r.snapshot before).error = some .noDownloadUrl ↔
      r.state = "complete" ∧ r.artifact? = none := by
  unfold snapshot
  dsimp only
  split
  · rename_i hstate
    cases r.artifact? <;> simp [hstate, Snapshot.complete, Snapshot.failed]
  · rename_i hstate
    simp only [hstate, false_and, iff_false]
    split
    · simp [Snapshot.failed]
    · split <;> simp [Snapshot.unknownJob, Snapshot.processing]

end Report

namespace Decision

theorem error_ofEvent_iff (v : Json) :
    (∃ message details, ofEvent v = .finish (.error .noDownloadUrl message details)) ↔
      endOf? v = some .complete ∧ artifactOf? v = none := by
  rw [ofEvent_eq]
  cases endOf? v with
  | none => simp
  | some ended =>
    cases ended with
    | failed => simp
    | complete => cases artifactOf? v <;> simp [unlocatedEvent]

end Decision

/-- What is done about an event does not depend on the events before it. -/
theorem Bridge.feed_fst (b : Bridge) (v : Json) : (b.feed v).1 = Decision.ofEvent v := by
  unfold feed
  cases Decision.ofEvent v <;> rfl

/-- A complete job that names its artifact is fetched from there, whichever reader sees the report,
and lacks its artifact in every other case. -/
theorem Report.located_is_fetched {v : Json} {r : Report} (hr : Report.ofJson? v = some r) :
    (∀ before, Finding.Running before →
      (r.state = "complete" → ∀ url, Located v url → ¬ Unnamed v url →
        ∃ name, (Finding.ofReport r before).HasArtifact ⟨url, name⟩) ∧
      ((Finding.ofReport r before).snapshot.error = some .noDownloadUrl ↔
        r.state = "complete" ∧ Unlocated v)) ∧
    ∀ b : Bridge,
      (r.end? = some .complete → ∀ url, Located v url → ¬ Unnamed v url →
        ∃ name, (b.feed v).1 = .fetch ⟨url, name⟩ (jobOf? v)) ∧
      ((∃ message details, (b.feed v).1 = .finish (.error .noDownloadUrl message details)) ↔
        r.end? = some .complete ∧ Unlocated v) := by
  have hend : endOf? v = r.end? := by rw [endOf?, hr, Option.bind_some]
  have hartifact : artifactOf? v = r.artifact? := by rw [artifactOf?, hr, Option.bind_some]
  refine ⟨fun before hrunning => ⟨fun hstate url hurl hname => ?_, ?_⟩,
    fun b => ⟨fun hcomplete url hurl hname => ?_, ?_⟩⟩
  · obtain ⟨name, hplace⟩ := artifact?_of_located hr hurl hname
    refine ⟨name, ?_⟩
    rw [Finding.ofReport_of_running r hrunning, snapshot_of_artifact? hstate hplace]
    exact ⟨rfl, rfl, rfl⟩
  · rw [Finding.ofReport_of_running r hrunning, ← artifact?_eq_none_iff hr]
    exact error_snapshot_iff r before
  · obtain ⟨name, hplace⟩ := artifact?_of_located hr hurl hname
    refine ⟨name, ?_⟩
    rw [b.feed_fst, Decision.ofEvent_of_complete (hend.trans hcomplete), hartifact, hplace]
  · rw [b.feed_fst, Decision.error_ofEvent_iff, hend, hartifact, artifact?_eq_none_iff hr]

/-- An event of a complete job whose artifact is named by its URL. -/
def locatedSample : Json :=
  .object [("download_url", .string " /d/x.mp4?sig=a/ "), ("stage", .string "complete")]

def locatedSampleReport : Report :=
  ⟨none, some (.string "complete"), none, none, some (.string " /d/x.mp4?sig=a/ "), none, none⟩

theorem Report.located_is_fetched_sample :
    Located locatedSample "/d/x.mp4?sig=a/" ∧ ¬ Unnamed locatedSample "/d/x.mp4?sig=a/" ∧
      (∃ name, (Finding.ofReport locatedSampleReport none).HasArtifact ⟨"/d/x.mp4?sig=a/", name⟩) ∧
      ∃ name, (Bridge.start.feed locatedSample).1 = .fetch ⟨"/d/x.mp4?sig=a/", name⟩ none := by
  have hr : Report.ofJson? locatedSample = some locatedSampleReport := rfl
  have hurl : Located locatedSample "/d/x.mp4?sig=a/" :=
    ⟨" /d/x.mp4?sig=a/ ", rfl, by decide +kernel, by decide⟩
  have hname : ¬ Unnamed locatedSample "/d/x.mp4?sig=a/" := fun h =>
    absurd ((lastSegment?_eq_none_iff _).2 h.2) (by decide +kernel)
  have hstate : locatedSampleReport.state = "complete" := by decide +kernel
  have hend : locatedSampleReport.end? = some .complete := by decide +kernel
  have hrunning : Finding.Running none := by simp [Finding.Running]
  obtain ⟨hpoll, hstream⟩ := located_is_fetched hr
  exact ⟨hurl, hname, (hpoll none hrunning).1 hstate _ hurl hname,
    (hstream Bridge.start).1 hend _ hurl hname⟩

/-- An event of a complete job whose URL ends in a slash. -/
def unnamedSample : Json :=
  .object [("download_url", .string "https://cdn.example.com/d/"), ("stage", .string "complete")]

/-- A URL that ends in a slash counts as no URL at all. -/
theorem located_is_refused :
    Located unnamedSample "https://cdn.example.com/d/" ∧ endOf? unnamedSample = some .complete ∧
      (Bridge.start.feed unnamedSample).1 = .finish unlocatedEvent ∧
      ∃ r, Report.ofJson? unnamedSample = some r ∧ r.state = "complete" ∧
        (Finding.ofReport r none).LacksArtifact := by
  have hend : endOf? unnamedSample = some .complete := by decide +kernel
  refine ⟨⟨_, rfl, by decide +kernel, by decide⟩, hend, ?_, _, rfl, by decide +kernel, ?_⟩
  · have hnone : artifactOf? unnamedSample = none := by decide +kernel
    rw [Bridge.feed_fst, Decision.ofEvent_of_complete hend, hnone]
  · exact ⟨by decide +kernel, by decide +kernel⟩

end ClipRelay
