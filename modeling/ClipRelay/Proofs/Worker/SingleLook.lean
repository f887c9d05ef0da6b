import ClipRelay.Proofs.Worker.Course

/-!
# One look at a job that has ended

One who follows a job reads each report in the light of the reports before it; one who looks a single
time has none. Both read a report that ends the job alike (`Finding.ofReport_of_isTerminal`), and a
download comes to the same in worlds that are alike (`World.Alike`, `Download.run_alike`).

* `Follower.run_of_endsAt`: what a job that is followed comes to is what its last report comes to alone.
* `Job.single_look_agrees`: so one who looks at the job when it has ended gets the same answer.
-/

namespace ClipRelay

open Text

/-! ## A report that ends a job -/

/-- Only a running job is read in the light of the snapshot before. -/
theorem Report.snapshot_of_isTerminal {r : Report} {before : Option Snapshot}
    (h : (r.snapshot before).isTerminal = true) : r.snapshot before = r.snapshot none := by
  unfold Report.snapshot at h ⊢
  simp only at h ⊢
  split
  · rfl
  · rename_i hcomplete
    rw [if_neg hcomplete] at h
    split
    · rfl
    · rename_i hfailed
      rw [if_neg hfailed] at h
      split
      · rfl
      · rename_i hunknown
        rw [if_neg hunknown] at h
        cases h

/-- A report that ends a running job says the same without what was known of the job. -/
theorem Finding.ofReport_of_isTerminal {r : Report} {before : Option Snapshot}
    (hrunning : before.filter (·.isTerminal) = none)
    (h : (Finding.ofReport r before).snapshot.isTerminal = true) :
    Finding.ofReport r before = Finding.ofReport r none := by
  simp only [Finding.ofReport, hrunning] at h ⊢
  rw [Report.snapshot_of_isTerminal h]
  rfl

namespace Follower

variable {σ : Type} (x : Follower σ) (rules : FollowRules) (s : σ)

/-- A job that is followed to a report that ends it comes to what this report comes to alone. -/
theorem run_of_endsAt {i : Nat} {report : Report} (first : ∀ j < i, ¬ x.StopsAt rules s j)
    (ho : x.outcome s i = .ok report)
    (hterminal : (Finding.ofReport report (x.lastSnapshot s i)).snapshot.isTerminal = true)
    (hends : x.Ends rules .start s) :
    x.run rules s hends = ((Finding.ofReport report none).settle x.fetch).run (x.after s i) := by
  have hsame := Finding.ofReport_of_isTerminal (x.lastSnapshot_running rules s first) hterminal
  have hended : x.EndsAt s i (Finding.ofReport report none) :=
    ⟨report, ho, hsame.symm, hsame ▸ hterminal⟩
  exact x.run_of_comesTo rules s first (.ended hended) hends

end Follower

/-! ## Worlds that are alike -/

/-- Two worlds have the same files, draw the same names, and answer some requests alike. -/
structure World.Alike (asked : Request → Prop) (v w : World) : Prop where
  disk : v.disk = w.disk
  drawn : v.drawn = w.drawn
  answer : ∀ r, asked r → (v.network.deliver r).1 = (w.network.deliver r).1

namespace Download

variable {settings : WorkerSettings} {e : Endpoint} {artifact : ArtifactRef} {v w : World}

/-- The request is one for the artifact. -/
def Requests (settings : WorkerSettings) (e : Endpoint) (artifact : ArtifactRef) (r : Request) :
    Prop :=
  Client.getOf? settings e (e.locate artifact.downloadUrl) = some r

theorem request_alike (h : World.Alike (Requests settings e artifact) v w) :
    ((request settings e artifact.downloadUrl).run v).1 =
        ((request settings e artifact.downloadUrl).run w).1 ∧
      ((request settings e artifact.downloadUrl).run v).2.disk =
        ((request settings e artifact.downloadUrl).run w).2.disk := by
  obtain ⟨hdisk, -, hanswer⟩ := h
  obtain ⟨refusal, hrun⟩ := request_run settings e artifact.downloadUrl
  rw [hrun, hrun]
  refine ⟨congrArg (toldOf refusal) (Client.attempt_alike fun r hr => hanswer r ?_), ?_⟩
  · exact Client.getOf?_eq_some.2 hr
  · rw [Client.attempt_disk, Client.attempt_disk, hdisk]

/-- A download comes to the same, and leaves the same files, in worlds that are alike. -/
theorem run_alike (h : World.Alike (Requests settings e artifact) v w) (job hint : Option String) :
    ((run settings e artifact job hint).run v).1 = ((run settings e artifact job hint).run w).1 ∧
      ((run settings e artifact job hint).run v).2.disk =
        ((run settings e artifact job hint).run w).2.disk := by
  rw [run_eq, run_eq, planIn, planIn, h.drawn, h.disk]
  generalize planOf settings.outputDir _ _ = p
  simp only
  cases hlook : (steps p .looking [.go] w.disk).1 with
  | missing =>
    have halike : World.Alike (Requests settings e artifact)
        { v with disk := (steps p .looking [.go] w.disk).2, drawn := w.drawn + 2 }
        { w with disk := (steps p .looking [.go] w.disk).2, drawn := w.drawn + 2 } :=
      ⟨rfl, rfl, h.answer⟩
    obtain ⟨hevents, hdisk⟩ := request_alike halike
    simp only [hevents, hdisk]
    exact ⟨trivial, trivial⟩
  | _ => exact ⟨rfl, rfl⟩

end Download

/-! ## One look -/

namespace Job

variable (settings : WorkerSettings) (e : Endpoint) (job : String) (hint : Option String)

/-- What a report comes to is the same in worlds that answer the request for its artifact alike. -/
theorem settle_alike {finding : Finding} {v w : World}
    (h : World.Alike (fun r => ∃ artifact, finding.snapshot.output = some artifact ∧
      Download.Requests settings e artifact r) v w) :
    ((finding.settle (fetch settings e job hint)).run v).1 =
        ((finding.settle (fetch settings e job hint)).run w).1 ∧
      ((finding.settle (fetch settings e job hint)).run v).2.disk =
        ((finding.settle (fetch settings e job hint)).run w).2.disk := by
  cases hdue : finding.artifactDue with
  | false =>
    rw [Finding.settle_of_idle (.inl hdue), Finding.settle_of_idle (.inl hdue)]
    exact ⟨rfl, h.disk⟩
  | true =>
    cases ho : finding.snapshot.output with
    | none =>
      rw [Finding.settle_of_idle (.inr ho), Finding.settle_of_idle (.inr ho)]
      exact ⟨rfl, h.disk⟩
    | some artifact =>
      have halike : World.Alike (Download.Requests settings e artifact) v w :=
        ⟨h.disk, h.drawn, fun r hr => h.answer r ⟨artifact, ho, hr⟩⟩
      obtain ⟨hresult, hdisk⟩ := Download.run_alike halike (some job) hint
      rw [Finding.settle_of_due ho hdue, Finding.settle_of_due ho hdue, fetch]
      simp only [hresult, hdisk]
      exact ⟨trivial, trivial⟩

theorem check_of_report {report : Report} {v v' : World}
    (h : (Client.poll settings e job).run v = (.ok report, v')) :
    (check settings e job hint).run v =
      ((Finding.ofReport report none).settle (fetch settings e job hint)).run v' := by
  rw [check, Action.run_bind, h]

variable {job hint}

/-- One who follows a job until a report ends it gets the answer, field by field, of one who looks when
that report is there: in the world before the last poll, and in every world where a poll brings the same
report and leaves the same files and the same answer to the request for the artifact. What the reports
and failures before were is all one. -/
theorem single_look_agrees {w : World} {i : Nat} {report : Report}
    (first : ∀ j < i, ¬ (follower settings e job hint w.clock).StopsAt (rulesOf settings) w j)
    (ho : (follower settings e job hint w.clock).outcome w i = .ok report)
    (hterminal : (Finding.ofReport report
      ((follower settings e job hint w.clock).lastSnapshot w i)).snapshot.isTerminal = true) :
    (check settings e job hint).run ((follower settings e job hint w.clock).before w i) =
        (follow settings e job hint).run w ∧
      ∀ v v', (Client.poll settings e job).run v = (.ok report, v') →
        World.Alike (fun r => ∃ artifact,
          (Finding.ofReport report none).snapshot.output = some artifact ∧
          Download.Requests settings e artifact r)
          v' ((follower settings e job hint w.clock).after w i) →
        ((check settings e job hint).run v).1 = ((follow settings e job hint).run w).1 ∧
          ((check settings e job hint).run v).2.disk = ((follow settings e job hint).run w).2.disk := by
  have hfollow : (follow settings e job hint).run w =
      ((Finding.ofReport report none).settle (fetch settings e job hint)).run
        ((follower settings e job hint w.clock).after w i) := by
    have hrun := Follower.run_of_endsAt _ (rulesOf settings) w first ho hterminal
      (ends_follower settings e job hint (rulesOf settings) w)
    rwa [follower_fetch] at hrun
  rw [hfollow]
  refine ⟨check_of_report settings e job hint (Prod.ext ?_ ?_), fun v v' hpoll halike => ?_⟩
  · rw [← ho, Follower.outcome, follower_poll]
  · rw [Follower.after, follower_poll]
  · rw [check_of_report settings e job hint hpoll]
    exact settle_alike settings e job hint halike

/-- A worker that is away, then at work, and then done. -/
def sampleFollowed : World :=
  { Service.sampleWorld with
    network := .single "[::1]:8080"
      [("GET /progress/j", [.close,
          .reply ⟨200, none, [bytesOf "\x7b\"status\":\"processing\",\"progress\":40\x7d"], true⟩,
          .reply ⟨200, none,
            [bytesOf "\x7b\"status\":\"complete\",\"download_url\":\"/d/x.mp4\"\x7d"], true⟩]),
        ("GET /d/x.mp4", [.reply ⟨200, none, [[1, 2], [3]], true⟩])] }

theorem single_look_agrees_sample :
    ∃ v, ((check {} Relay.sampleEndpoint "j" none).run v).1 = Service.sampleAnswer ∧
      (check {} Relay.sampleEndpoint "j" none).run v =
        (follow {} Relay.sampleEndpoint "j" none).run sampleFollowed := by
  have first : ∀ j < 2, ¬ (follower {} Relay.sampleEndpoint "j" none sampleFollowed.clock).StopsAt
      (rulesOf {}) sampleFollowed j := by
    decide +kernel
  have hreport : ((follower {} Relay.sampleEndpoint "j" none sampleFollowed.clock).outcome
      sampleFollowed 2).isOk = true := by
    decide +kernel
  have hlast : ((follower {} Relay.sampleEndpoint "j" none sampleFollowed.clock).lastSnapshot
      sampleFollowed 3).any (·.isTerminal) = true := by
    decide +kernel
  have hanswer : ((check {} Relay.sampleEndpoint "j" none).run
      ((follower {} Relay.sampleEndpoint "j" none sampleFollowed.clock).before sampleFollowed 2)).1 =
      Service.sampleAnswer := by
    decide +kernel
  cases ho : (follower {} Relay.sampleEndpoint "j" none sampleFollowed.clock).outcome
      sampleFollowed 2 with
  | error f =>
    rw [ho] at hreport
    cases hreport
  | ok report =>
    rw [Follower.lastSnapshot, ho] at hlast
    exact ⟨_, hanswer, (single_look_agrees {} Relay.sampleEndpoint first ho hlast).1⟩

end Job

end ClipRelay
