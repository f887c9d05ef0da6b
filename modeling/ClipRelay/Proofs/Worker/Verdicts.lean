import ClipRelay.Proofs.Worker.Locations
import ClipRelay.Proofs.Worker.Tracking

/-!
# Fields that decide nothing

Four fields of a report decide what becomes of its job: the status, the stage, the URL of the artifact
and the name for it. Reports that agree on these (`Json.Agrees`, `Report.Agrees`) lead to the same
verdict, whatever stands in all other fields, and of whatever kind it is.

* `Report.exists_ofJson?_iff`: an object is a report, whatever its fields hold.
* `Report.Agrees.end?`, `Report.Agrees.artifact?`: what is read off the four fields.
* `Finding.sameVerdict_ofReport`: one report, read in the light of the same verdict.
* `Tracker.sameVerdict_finding`: so all reports of a job, one after another.
* `Report.other_fields_hide_nothing`: the reader of a poll and the reader of a stream come to the same.
-/

namespace ClipRelay

open Json

/-! ## Reports that agree -/

/-- Two values agree on the fields that decide: each of them is in both with one value, or in neither. -/
structure Json.Agrees (v v' : Json) : Prop where
  status : v.get? "status" = v'.get? "status"
  stage : v.get? "stage" = v'.get? "stage"
  downloadUrl : v.get? "download_url" = v'.get? "download_url"
  filename : v.get? "filename" = v'.get? "filename"

namespace Report

/-- Two reports agree on the fields that decide. -/
structure Agrees (r r' : Report) : Prop where
  status : r.status = r'.status
  stage : r.stage = r'.stage
  downloadUrl : r.downloadUrl = r'.downloadUrl
  filename : r.filename = r'.filename

/-- Every object is a report, and nothing else is. -/
theorem exists_ofJson?_iff (v : Json) : (∃ r, ofJson? v = some r) ↔ v.isObject = true := by
  unfold ofJson?
  split
  · rename_i hobject
    exact iff_of_true ⟨_, rfl⟩ hobject
  · rename_i hother
    exact iff_of_false nofun hother

theorem agrees_of_ofJson? {v v' : Json} {r r' : Report} (h : v.Agrees v') (hr : ofJson? v = some r)
    (hr' : ofJson? v' = some r') : r.Agrees r' := by
  unfold ofJson? at hr hr'
  split at hr
  · split at hr'
    · cases hr
      cases hr'
      constructor
      · exact congrArg (·.bind orAbsent) h.status
      · exact congrArg (·.bind orAbsent) h.stage
      · exact congrArg (·.bind orAbsent) h.downloadUrl
      · exact congrArg (·.bind orAbsent) h.filename
    · cases hr'
  · cases hr

namespace Agrees

variable {r r' : Report}

theorem stage? (h : r.Agrees r') : r.stage? = r'.stage? := congrArg labelOf h.stage

theorem statusLabel? (h : r.Agrees r') : r.statusLabel? = r'.statusLabel? := congrArg labelOf h.status

theorem state (h : r.Agrees r') : r.state = r'.state := by
  rw [Report.state, Report.state, h.statusLabel?, h.stage?]

theorem end? (h : r.Agrees r') : r.end? = r'.end? := by
  rw [Report.end?, Report.end?, h.statusLabel?, h.stage?]

theorem artifact? (h : r.Agrees r') : r.artifact? = r'.artifact? := by
  rw [Report.artifact?, Report.artifact?, h.downloadUrl, h.filename]

end Agrees

end Report

/-! ## What a poll says -/

/-- Two snapshots have the same verdict on the job: all but the percentage and the message. -/
structure Snapshot.SameVerdict (s s' : Snapshot) : Prop where
  status : s.status = s'.status
  stage : s.stage = s'.stage
  output : s.output = s'.output
  error : s.error = s'.error

/-- Reports that agree give snapshots with one verdict; what came before counts for the percentage
only. -/
theorem Report.Agrees.sameVerdict {r r' : Report} (h : r.Agrees r') (before before' : Option Snapshot) :
    (r.snapshot before).SameVerdict (r'.snapshot before') := by
  unfold Report.snapshot
  rw [h.state, h.artifact?, h.stage?]
  dsimp only
  split
  · cases r'.artifact? <;> exact ⟨rfl, rfl, rfl, rfl⟩
  · split
    · exact ⟨rfl, rfl, rfl, rfl⟩
    · split <;> exact ⟨rfl, rfl, rfl, rfl⟩

namespace Finding

/-- Two findings have the same verdict on the job. -/
structure SameVerdict (f f' : Finding) : Prop where
  snapshot : f.snapshot.SameVerdict f'.snapshot
  artifactDue : f.artifactDue = f'.artifactDue

/-- What is known of a job before is nothing, or the same verdict. -/
def SamePast : Option Snapshot → Option Snapshot → Prop
  | none, none => True
  | some s, some s' => s.SameVerdict s'
  | _, _ => False

theorem samePast_refl (before : Option Snapshot) : SamePast before before := by
  cases before with
  | none => trivial
  | some s => exact ⟨rfl, rfl, rfl, rfl⟩

variable {r r' : Report} {before before' : Option Snapshot}

/-- One report after another: the verdict on a job that has ended stays, and the other one is made
anew. -/
theorem sameVerdict_ofReport (h : r.Agrees r') (hbefore : SamePast before before') :
    (ofReport r before).SameVerdict (ofReport r' before') := by
  have hopen (hr : Running before) (hr' : Running before') :
      (ofReport r before).SameVerdict (ofReport r' before') := by
    have hsame := h.sameVerdict before before'
    rw [ofReport_of_running r hr, ofReport_of_running r' hr']
    exact ⟨hsame, by rw [hsame.status]⟩
  cases before with
  | none =>
    cases before' with
    | none => exact hopen (fun _ hs => by cases hs) fun _ hs => by cases hs
    | some s' => exact hbefore.elim
  | some s =>
    cases before' with
    | none => exact hbefore.elim
    | some s' =>
      have hs : s.SameVerdict s' := hbefore
      have hterminal : s.isTerminal = s'.isTerminal := congrArg JobStatus.isTerminal hs.status
      cases hended : s'.isTerminal with
      | true =>
        rw [ofReport_of_terminal r (hterminal.trans hended), ofReport_of_terminal r' hended]
        exact ⟨hs, rfl⟩
      | false =>
        refine hopen (fun t ht => ?_) fun t ht => ?_
        · cases ht
          exact hterminal.trans hended
        · cases ht
          exact hended

end Finding

/-- Whoever follows two jobs whose reports agree comes to the same verdicts. -/
theorem Tracker.sameVerdict_finding {reports reports' : Nat → Report}
    (h : ∀ i, (reports i).Agrees (reports' i)) (i : Nat) :
    (finding reports i).SameVerdict (finding reports' i) := by
  have hafter : Finding.SamePast (after reports i).current (after reports' i).current := by
    induction i with
    | zero => trivial
    | succ i ih => exact (Finding.sameVerdict_ofReport (h i) ih).snapshot
  exact Finding.sameVerdict_ofReport (h i) hafter

/-! ## What is done about an event -/

/-- The same is done about two events: what is passed on is the one event and the other, and what is
fetched or made up is the same. -/
inductive Decision.Alike (v v' : Json) : Decision → Decision → Prop
  | forward : Alike v v' (.forward (.relay v)) (.forward (.relay v'))
  | fetch (artifact : ArtifactRef) :
    Alike v v' (.fetch artifact (jobOf? v)) (.fetch artifact (jobOf? v'))
  | failed : Alike v v' (.finish (.relay v)) (.finish (.relay v'))
  | unlocated : Alike v v' (.finish unlocatedEvent) (.finish unlocatedEvent)

theorem Decision.alike_ofEvent {v v' : Json} (hend : endOf? v = endOf? v')
    (hartifact : artifactOf? v = artifactOf? v') : Alike v v' (ofEvent v) (ofEvent v') := by
  rw [ofEvent_eq, ofEvent_eq, hend, hartifact]
  cases endOf? v' with
  | none => exact .forward
  | some ended =>
    cases ended with
    | failed => exact .failed
    | complete =>
      cases artifactOf? v' with
      | none => exact .unlocated
      | some artifact => exact .fetch artifact

/-- What is remembered of a stream depends on what is done about its events only. -/
theorem Bridge.feed_snd_of_alike {v v' : Json} (b : Bridge)
    (h : Decision.Alike v v' (Decision.ofEvent v) (Decision.ofEvent v')) :
    (b.feed v).2 = (b.feed v').2 := by
  unfold feed
  generalize Decision.ofEvent v = d at h ⊢
  generalize Decision.ofEvent v' = d' at h ⊢
  cases h <;> rfl

/-! ## Both readers -/

/-- No field hides another. Objects are reports, whatever stands in their fields; and two of them that
agree on the status, the stage, the URL and the name of the artifact lead to the same verdict in the
light of any snapshot before, and to the same decision, in which each of them is passed on as it is. -/
theorem Report.other_fields_hide_nothing {v v' : Json} (hv : v.isObject = true)
    (hv' : v'.isObject = true) (h : v.Agrees v') :
    ∃ r r', Report.ofJson? v = some r ∧ Report.ofJson? v' = some r' ∧
      (∀ before, (Finding.ofReport r before).SameVerdict (Finding.ofReport r' before)) ∧
      ∀ b : Bridge, Decision.Alike v v' (b.feed v).1 (b.feed v').1 ∧ (b.feed v).2 = (b.feed v').2 := by
  obtain ⟨r, hr⟩ := (exists_ofJson?_iff v).2 hv
  obtain ⟨r', hr'⟩ := (exists_ofJson?_iff v').2 hv'
  have hagrees : r.Agrees r' := agrees_of_ofJson? h hr hr'
  have hend : endOf? v = endOf? v' := by
    rw [endOf?, endOf?, hr, hr', Option.bind_some, Option.bind_some, hagrees.end?]
  have hartifact : artifactOf? v = artifactOf? v' := by
    rw [artifactOf?, artifactOf?, hr, hr', Option.bind_some, Option.bind_some, hagrees.artifact?]
  have halike := Decision.alike_ofEvent hend hartifact
  refine ⟨r, r', hr, hr', fun before => ?_, fun b => ⟨?_, b.feed_snd_of_alike halike⟩⟩
  · exact Finding.sameVerdict_ofReport hagrees (Finding.samePast_refl before)
  · rwa [Bridge.feed_fst, Bridge.feed_fst]

/-- A complete job whose status is a number and whose message is an object. -/
def mistypedSample : Json :=
  .object [("download_url", .string "/d/x.mp4"), ("message", .object [("text", .string "done")]),
    ("progress", .array [.null, .bool true]), ("stage", .string "Complete"), ("status", .ofInt 200)]

/-- The same job with an error that is a list, and no more. -/
def bareSample : Json :=
  .object [("download_url", .string "/d/x.mp4"), ("error", .array []), ("stage", .string "Complete"),
    ("status", .ofInt 200)]

theorem Report.other_fields_hide_nothing_sample :
    mistypedSample.isObject = true ∧ bareSample.isObject = true ∧ mistypedSample.Agrees bareSample ∧
      ∃ r r', Report.ofJson? mistypedSample = some r ∧ Report.ofJson? bareSample = some r' ∧
        (Finding.ofReport r none).SameVerdict (Finding.ofReport r' none) ∧
        Decision.Alike mistypedSample bareSample (Bridge.start.feed mistypedSample).1
          (Bridge.start.feed bareSample).1 := by
  have h : mistypedSample.Agrees bareSample := ⟨rfl, rfl, rfl, rfl⟩
  obtain ⟨r, r', hr, hr', hverdict, hdecision⟩ := other_fields_hide_nothing rfl rfl h
  exact ⟨rfl, rfl, h, r, r', hr, hr', hverdict none, (hdecision Bridge.start).1⟩

end ClipRelay
