import ClipRelay.Proofs.Artifact.Names
import ClipRelay.Proofs.Artifact.Once
import ClipRelay.Proofs.Relay.Stream
import ClipRelay.Proofs.Worker.Locations

/-!
# One artifact by two routes

The artifact of a job is fetched by one who polls the job, under the id that the reply to its start
gave, or at the end of its stream, under the id in the last event. The two read the same id from every
value but a number: a polled job may have a number for its id, and its artifact is named by that, while
the stream takes a number for no id at all and names the artifact by a token.

* `jobIdOf_eq_iff`: where the two readers agree.
* `artifactName_of_nonBlank?`: an id gives the same name with the blanks around it and without.
* `Relay.conclude_of_held`: a stream whose artifact is held asks nobody for it.
* `StartPayload.same_artifact_unless_number`: hence an artifact that was fetched by one who polls is
  found by a stream, unless the id is a number.
-/

namespace ClipRelay

open Text Json

/-! ## Two readers of an id -/

def Json.IsNumber (x : Json) : Prop := ∃ n, x = .number n

/-- The one who polls reads an id as the stream does, from all but numbers. -/
theorem jobIdOf_eq_iff (x : Json) : jobIdOf x = x.asText?.bind nonBlank? ↔ ¬ x.IsNumber := by
  cases x with
  | number n => simp [jobIdOf, asText?, Json.IsNumber]
  | _ => simp [jobIdOf, asText?, Json.IsNumber]

theorem StartPayload.id?_eq (p : StartPayload) : p.id? = jobIdOf (ofValue? p.jobId) := by
  unfold StartPayload.id? ofValue?
  cases p.jobId <;> rfl

/-- An event without an id is one whose id is `null`. -/
theorem jobOf?_eq (v : Json) : jobOf? v = (ofValue? (v.get? "job_id")).asText? := by
  unfold jobOf? ofValue?
  cases v.get? "job_id" <;> rfl

/-- The job of a fetch is the one that the event names. -/
theorem Bridge.job_of_fetch {b : Bridge} {v : Json} {artifact : ArtifactRef} {job : Option String}
    (h : (b.feed v).1 = .fetch artifact job) : job = jobOf? v := by
  rw [b.feed_fst, Decision.ofEvent_eq] at h
  split at h
  · cases h
  · cases h
  · cases h
    rfl
  · cases h

/-! ## What the artifact is called -/

/-- Only the id without the blanks around it goes into a name; if there is one, no token does. -/
theorem artifactName_of_nonBlank? {job : Option String} {id : String}
    (h : job.bind nonBlank? = some id) (lead : String) (hint : Option String)
    (remote token token' : String) :
    artifactName lead hint remote (some id) token = artifactName lead hint remote job token' := by
  obtain ⟨raw, -, hraw⟩ := Option.bind_eq_some_iff.1 h
  obtain ⟨rfl, hne⟩ := trim_of_nonBlank? hraw
  have hpart : ArtifactName.jobPart (some (trim raw)) token = ArtifactName.jobPart job token' := by
    rw [ArtifactName.jobPart, ArtifactName.jobPart, h, Option.bind_some, nonBlank?, if_neg hne, trim_trim]
    rfl
  simp only [artifactName, hpart]

/-- A stream whose artifact is held tells of it. No request is sent for it, and nothing on the disk is
changed. -/
theorem Relay.conclude_of_held {settings : WorkerSettings} {s : Submission} {artifact : ArtifactRef}
    {job : Option String} {q : Place} {bs : Bytes} {w : World} (e : Endpoint)
    (h : Download.Held settings (artifactName settings.outputPrefix s.hint? artifact.filename job
      (World.tokenOf w.drawn)) q bs w.disk) :
    (Relay.conclude settings e s artifact job).run w =
      (Relay.completeEvent ⟨Path.ofNames q, bs.length⟩, { w with drawn := w.drawn + 2 }) := by
  rw [Relay.conclude_eq, Download.run_of_held h]

/-- The artifact of a job, as it was fetched by one who polls the job, is the artifact of its stream. -/
theorem Relay.conclude_after_fetch {settings : WorkerSettings} {e e' : Endpoint} {s : Submission}
    {artifact polled : ArtifactRef} {id : String} {job : Option String} {a : Artifact}
    {w w₀ w₁ : World} (hjob : job.bind nonBlank? = some id)
    (hfile : polled.filename = artifact.filename)
    (hfetch : (Job.fetch settings e id s.hint? polled).run w = (.ok a, w₀))
    (hsteps : Relation.ReflTransGen (Download.Step settings (Path.join settings.outputDir
      (artifactName settings.outputPrefix s.hint? artifact.filename job ""))) w₀ w₁) :
    (Relay.conclude settings e' s artifact job).run w₁ =
      (Relay.completeEvent a, { w₁ with drawn := w₁.drawn + 2 }) := by
  have hname : ∀ token token' : String,
      artifactName settings.outputPrefix s.hint? artifact.filename (some id) token =
        artifactName settings.outputPrefix s.hint? artifact.filename job token' :=
    artifactName_of_nonBlank? hjob _ _ _
  obtain ⟨q, bs, rfl, hheld⟩ := Download.run_ok_held hfetch
  rw [hfile, hname _ ""] at hheld
  have hlater := Download.held_of_steps hsteps hheld
  rw [← hname "" "", hname "" (World.tokenOf w₁.drawn)] at hlater
  exact Relay.conclude_of_held e' hlater

open ArtifactName in
/-- The start of a job and its last event have one value for its id. If that is no number, the two
readers find the same id or none; the artifact has one name by either route; and once it has been
fetched by one who polls, a stream finds it, whatever is done in between that leaves its path alone. If
it is a number, the one who polls has an id and the stream has none, and names the artifact by a token. -/
theorem StartPayload.same_artifact_unless_number {p : StartPayload} {v : Json} {b : Bridge}
    {artifact : ArtifactRef} {job : Option String}
    (hsame : ofValue? p.jobId = ofValue? (v.get? "job_id"))
    (hfetch : (b.feed v).1 = .fetch artifact job) :
    (p.id? = job.bind nonBlank? ↔ ¬ (ofValue? p.jobId).IsNumber) ∧
    ((ofValue? p.jobId).IsNumber →
      p.id? = some (ofValue? p.jobId).compact ∧ job = none ∧
      ∀ lead hint remote token, IsPlain token →
        jobIn? (artifactName lead hint remote job token) = some token) ∧
    (¬ (ofValue? p.jobId).IsNumber → ∀ id, p.id? = some id →
      (∀ lead hint remote token token',
        artifactName lead hint remote (some id) token = artifactName lead hint remote job token') ∧
      ∀ settings e e' s polled a w w₀ w₁, polled.filename = artifact.filename →
        (Job.fetch settings e id s.hint? polled).run w = (.ok a, w₀) →
        Relation.ReflTransGen (Download.Step settings (Path.join settings.outputDir
          (artifactName settings.outputPrefix s.hint? artifact.filename job ""))) w₀ w₁ →
        (Relay.conclude settings e' s artifact job).run w₁ =
          (Relay.completeEvent a, { w₁ with drawn := w₁.drawn + 2 })) := by
  have hjob : job = (ofValue? p.jobId).asText? := by
    rw [Bridge.job_of_fetch hfetch, jobOf?_eq, hsame]
  have hagree : p.id? = job.bind nonBlank? ↔ ¬ (ofValue? p.jobId).IsNumber := by
    rw [p.id?_eq, hjob]
    exact jobIdOf_eq_iff _
  refine ⟨hagree, ?_, fun hother id hid => ?_⟩
  · rintro ⟨n, hn⟩
    rw [hn] at hjob
    refine ⟨by rw [p.id?_eq, hn]; rfl, hjob, fun lead hint remote token hplain => ?_⟩
    exact jobIn?_artifactName lead hint remote (by rw [hjob]; rfl) hplain
  · have hstream : job.bind nonBlank? = some id := (hagree.2 hother) ▸ hid
    exact ⟨artifactName_of_nonBlank? hstream, fun _ _ _ _ _ _ _ _ _ hfile hfetched hsteps =>
      Relay.conclude_after_fetch hstream hfile hfetched hsteps⟩

/-- The last event of a complete job with this value for its id. -/
def lastEventOf (id : Json) : Json :=
  .object [("download_url", .string "/d/x.mp4"), ("job_id", id), ("stage", .string "complete")]

/-- A submission of the job of the sample, which is named after nothing. -/
def Download.sampleSubmission : Submission := ⟨"/", "/", "p", none⟩

/-- The stream writes the id with blanks around it. -/
theorem StartPayload.same_artifact_unless_number_sample :
    (Bridge.start.feed (lastEventOf (.string " j "))).1 = .fetch Download.sampleRef (some " j ") ∧
      (⟨some (.string " j "), none, none⟩ : StartPayload).id? = some "j" ∧
      ∃ w₀, (Job.fetch {} Relay.sampleEndpoint "j" none Download.sampleRef).run Service.sampleWorld =
          (.ok Download.sampleHeld, w₀) ∧
        (Relay.conclude {} Relay.sampleEndpoint Download.sampleSubmission Download.sampleRef
          (some " j ")).run w₀ =
          (Relay.completeEvent Download.sampleHeld, { w₀ with drawn := w₀.drawn + 2 }) := by
  have hend : endOf? (lastEventOf (.string " j ")) = some .complete := by decide +kernel
  have hartifact : artifactOf? (lastEventOf (.string " j ")) = some Download.sampleRef := by
    decide +kernel
  have hfetch : (Bridge.start.feed (lastEventOf (.string " j "))).1 =
      .fetch Download.sampleRef (some " j ") := by
    rw [Bridge.feed_fst, Decision.ofEvent_of_complete hend, hartifact]
    rfl
  have hid : (⟨some (.string " j "), none, none⟩ : StartPayload).id? = some "j" := by decide +kernel
  have hother : ¬ (ofValue? (some (.string " j "))).IsNumber := fun ⟨_, h⟩ => by cases h
  have hresult : ((Job.fetch {} Relay.sampleEndpoint "j" none Download.sampleRef).run
      Service.sampleWorld).1 = .ok Download.sampleHeld := by
    decide +kernel
  generalize hrun : (Job.fetch {} Relay.sampleEndpoint "j" none Download.sampleRef).run
    Service.sampleWorld = ran at hresult
  obtain ⟨_, w₀⟩ := ran
  obtain rfl := hresult
  obtain ⟨-, -, hroutes⟩ := StartPayload.same_artifact_unless_number
    (p := ⟨some (.string " j "), none, none⟩) (b := Bridge.start) rfl hfetch
  obtain ⟨-, hstream⟩ := hroutes hother "j" hid
  exact ⟨hfetch, hid, w₀, rfl, hstream {} Relay.sampleEndpoint Relay.sampleEndpoint
    Download.sampleSubmission Download.sampleRef _ _ _ _ rfl hrun .refl⟩

/-- A job with the number 42 for its id is polled under that id, and its stream has none; so the
artifact has two names. -/
theorem numbered_job_unnamed :
    (⟨some (.number (.whole 42)), none, none⟩ : StartPayload).id? = some "42" ∧
      (Bridge.start.feed (lastEventOf (.number (.whole 42)))).1 = .fetch Download.sampleRef none ∧
      artifactName "colab" none "x.mp4" (some "42") "t" = "colab_x_42.mp4" ∧
      artifactName "colab" none "x.mp4" none "t" = "colab_x_t.mp4" := by
  have hend : endOf? (lastEventOf (.number (.whole 42))) = some .complete := by decide +kernel
  have hartifact : artifactOf? (lastEventOf (.number (.whole 42))) = some Download.sampleRef := by
    decide +kernel
  refine ⟨by decide +kernel, ?_, by decide +kernel, by decide +kernel⟩
  rw [Bridge.feed_fst, Decision.ofEvent_of_complete hend, hartifact]
  rfl

end ClipRelay
