import ClipRelay.Artifact.Download
import ClipRelay.Worker.Progress

/-!
# Following jobs to their end

A job is polled until a report ends it, too many polls in a row fail, or there is no time for another
pause (`Follow.judge`); what a complete job has made is fetched then, once. A `Follower` is the four
things that this takes from outside, so the loop (`Follower.watch`) is the same for every worker and
every clock. It is given the reason why it ends (`Follower.Ends`): the clock moves with every poll
(`Follower.ends_of_clock`), or all polls fail (`Follower.ends_of_faults`). `Job.check` asks a single
time, `Job.follow` goes on to the end, and `Job.process` starts the job before.
-/

namespace ClipRelay

/-- A failure as an answer. -/
def ProgressAnswer.ofFault (f : WorkerFault) : ProgressAnswer :=
  (ProgressAnswer.failed f.code f.message).withDetails f.details

/-- The message of a complete job whose artifact could not be fetched. -/
def downloadMessage (f : WorkerFault) : String :=
  "Job complete but video download failed: " ++ f.message

/-- The answer of a job that has ended, with its artifact on disk if it is due. -/
def Finding.settle {σ : Type} (finding : Finding)
    (fetch : ArtifactRef → StateM σ (Except WorkerFault Artifact)) : StateM σ ProgressAnswer := do
  let answer := ProgressAnswer.ofSnapshot finding.snapshot
  match finding.snapshot.output, finding.artifactDue with
  | some artifact, true =>
    match ← fetch artifact with
    | .ok a => return answer.withOutputPath a.path
    | .error f => return { answer with error := some .downloadFailed, message := downloadMessage f }
  | _, _ => return answer

/-! ## When to stop -/

/-- What limits the polling of a job; times are in one unit. -/
structure FollowRules where
  /-- The pause between two polls. -/
  interval : Nat
  /-- The time for the whole of it. -/
  limit : Nat
  /-- How many polls in a row may fail, one at least. -/
  maxFailures : Nat
  /-- The limit in seconds, for the answer. -/
  limitSeconds : Nat
  deriving DecidableEq

/-- What one knows of a job that is followed. -/
structure Follow where
  tracker : Tracker
  /-- How many polls have failed since the last report. -/
  failures : Nat
  deriving DecidableEq

/-- What follows from a poll. -/
inductive Verdict
  /-- The job is polled again after a pause. -/
  | again (state : Follow)
  /-- The job has ended. -/
  | ended (finding : Finding)
  /-- The job is given up. -/
  | givenUp (answer : ProgressAnswer)

namespace Follow

def start : Follow := ⟨.empty, 0⟩

/-- The answer when there is no time left; it keeps the last stage and percentage. -/
def timeoutAnswer (rules : FollowRules) (s : Follow) : ProgressAnswer :=
  let answer := ProgressAnswer.ofFault (.timeout rules.limitSeconds)
  match s.tracker.current with
  | some last => { answer with stage := last.stage, progress := last.progress }
  | none => answer

/-- Another poll follows if its pause still fits into the time. -/
def pause (rules : FollowRules) (s : Follow) (elapsed : Nat) : Verdict :=
  if rules.limit < elapsed + rules.interval then .givenUp (timeoutAnswer rules s) else .again s

/-- What follows from a poll that ends when so much time has passed. -/
def judge (rules : FollowRules) (s : Follow) (outcome : Except WorkerFault Report) (elapsed : Nat) :
    Verdict :=
  match outcome with
  | .ok report =>
    let (finding, tracker) := s.tracker.feed report
    if finding.snapshot.isTerminal then .ended finding else pause rules ⟨tracker, 0⟩ elapsed
  | .error f =>
    let failures := s.failures + 1
    if max rules.maxFailures 1 ≤ failures then .givenUp (.ofFault f)
    else pause rules { s with failures } elapsed

end Follow

/-! ## The loop -/

/-- What one who follows a job does outside, in worlds of any kind. -/
structure Follower (σ : Type) where
  /-- Asks for the progress of the job. -/
  poll : StateM σ (Except WorkerFault Report)
  /-- The time since the start. -/
  elapsed : σ → Nat
  /-- Lets the pause between two polls pass. -/
  pause : StateM σ Unit
  /-- Fetches an artifact of the job. -/
  fetch : ArtifactRef → StateM σ (Except WorkerFault Artifact)

namespace Follower

variable {σ : Type}

/-- What follows from a poll, and the world after it. -/
def polled (x : Follower σ) (rules : FollowRules) (memory : Follow) (s : σ) : Verdict × σ :=
  let (outcome, s) := x.poll.run s
  (memory.judge rules outcome (x.elapsed s), s)

/-- The world before the poll that follows a pause. -/
def next (x : Follower σ) (s : σ) : σ := (x.pause.run (x.poll.run s).2).2

/-- One poll follows upon another; each is given by what is known before it, and the world. -/
def Follows (x : Follower σ) (rules : FollowRules) (later earlier : Follow × σ) : Prop :=
  (x.polled rules earlier.1 earlier.2).1 = .again later.1 ∧ later.2 = x.next earlier.2

/-- Polls do not follow upon each other for ever. -/
def Ends (x : Follower σ) (rules : FollowRules) (memory : Follow) (s : σ) : Prop :=
  Acc (x.Follows rules) (memory, s)

/-- Polls a job until a verdict ends it. -/
def watch (x : Follower σ) (rules : FollowRules) (memory : Follow) (s : σ)
    (h : x.Ends rules memory s) : Except ProgressAnswer Finding × σ :=
  let v := x.polled rules memory s
  match hv : v.1 with
  | .ended finding => (.ok finding, v.2)
  | .givenUp answer => (.error answer, v.2)
  | .again memory => x.watch rules memory (x.pause.run v.2).2 (h.inv ⟨hv, rfl⟩)
termination_by (⟨(memory, s), h⟩ : { p // Acc (x.Follows rules) p })
decreasing_by exact ⟨hv, rfl⟩

/-- The answer of a job that has ended or was given up. -/
def conclude (x : Follower σ) : Except ProgressAnswer Finding → StateM σ ProgressAnswer
  | .ok finding => finding.settle x.fetch
  | .error answer => return answer

/-- Follows a job to its end. -/
def run (x : Follower σ) (rules : FollowRules) (s : σ) (h : x.Ends rules .start s) :
    ProgressAnswer × σ :=
  let (outcome, s) := x.watch rules .start s h
  (x.conclude outcome).run s

/-- Another poll follows only when there is time for its pause, and a failed poll only when there may
be more of them. -/
theorem judge_again {rules : FollowRules} {memory memory' : Follow} {elapsed : Nat}
    {outcome : Except WorkerFault Report}
    (h : memory.judge rules outcome elapsed = .again memory') :
    elapsed + rules.interval ≤ rules.limit ∧ ∀ f, outcome = .error f →
      memory'.failures = memory.failures + 1 ∧ memory'.failures < max rules.maxFailures 1 := by
  unfold Follow.judge Follow.pause at h
  cases outcome with
  | ok report =>
    simp only at h
    split at h
    · cases h
    · split at h
      · cases h
      · exact ⟨by omega, fun f hf => by cases hf⟩
  | error f =>
    simp only at h
    split at h
    · cases h
    · split at h
      · cases h
      · cases h
        exact ⟨by omega, fun _ _ => ⟨rfl, by simp only; omega⟩⟩

/-- The loop ends when every poll finds the clock ahead of the poll before. -/
theorem ends_of_clock (x : Follower σ) (rules : FollowRules) {P : σ → Prop}
    (keep : ∀ s, P s → P (x.next s))
    (clock : ∀ s, P s → x.elapsed (x.poll.run s).2 < x.elapsed (x.poll.run (x.next s)).2)
    (memory : Follow) (s : σ) (hs : P s) : x.Ends rules memory s := by
  induction h : rules.limit + 1 - x.elapsed (x.poll.run s).2 using Nat.strongRecOn
    generalizing memory s with
  | _ n ih =>
    refine Acc.intro _ ?_
    rintro ⟨memory', s'⟩ ⟨hj, hs'⟩
    have hs' : s' = x.next s := hs'
    have htime : x.elapsed (x.poll.run s).2 + rules.interval ≤ rules.limit := (judge_again hj).1
    have hlt := clock s hs
    rw [hs']
    exact ih _ (by omega) memory' _ (keep s hs) rfl

/-- The loop ends when every poll fails. -/
theorem ends_of_faults (x : Follower σ) (rules : FollowRules) {f : WorkerFault}
    (fault : ∀ s, (x.poll.run s).1 = .error f) (memory : Follow) (s : σ) :
    x.Ends rules memory s := by
  induction h : max rules.maxFailures 1 - memory.failures using Nat.strongRecOn
    generalizing memory s with
  | _ n ih =>
    refine Acc.intro _ ?_
    rintro ⟨memory', s'⟩ ⟨hj, -⟩
    have hmore : memory'.failures = memory.failures + 1 ∧
        memory'.failures < max rules.maxFailures 1 := (judge_again hj).2 f (fault s)
    exact ih _ (by omega) memory' _ rfl

end Follower

/-! ## Jobs -/

namespace Job

/-- The rules of the settings, in the unit of the clock. -/
def rulesOf (settings : WorkerSettings) : FollowRules :=
  ⟨settings.pollInterval * World.perMilli, settings.streamTimeout * World.perMilli,
    settings.maxPollFailures, settings.streamTimeout / 1000⟩

/-- Fetches an artifact of a job. -/
def fetch (settings : WorkerSettings) (e : Endpoint) (job : String) (hint : Option String)
    (artifact : ArtifactRef) : Action (Except WorkerFault Artifact) :=
  Download.run settings e artifact (some job) hint

/-- One who follows a job of the worker since a time of the clock. -/
def follower (settings : WorkerSettings) (e : Endpoint) (job : String) (hint : Option String)
    (began : Nat) : Follower World where
  poll := Client.poll settings e job
  elapsed w := w.clock - began
  pause := World.wait (settings.pollInterval * World.perMilli)
  fetch := fetch settings e job hint

/-- Asks for the progress of a job a single time. -/
def check (settings : WorkerSettings) (e : Endpoint) (job : String) (hint : Option String) :
    Action ProgressAnswer := do
  match ← Client.poll settings e job with
  | .ok report => (Finding.ofReport report none).settle (fetch settings e job hint)
  | .error f => return .ofFault f

/-- The clock moves with a poll and with the pause behind it. -/
theorem clock_next (settings : WorkerSettings) (e : Endpoint) (job : String) (hint : Option String)
    (began : Nat) (w : World) : ((follower settings e job hint began).next w).clock =
      ((Client.poll settings e job).run w).2.clock + settings.pollInterval * World.perMilli := by
  simp only [Follower.next, follower, World.wait, StateT.run_modify]
  rfl

/-- In a world the loop comes to an end: the polls take time, or none of them can be made. -/
theorem ends_follower (settings : WorkerSettings) (e : Endpoint) (job : String)
    (hint : Option String) (rules : FollowRules) (w : World) :
    (follower settings e job hint w.clock).Ends rules .start w := by
  rcases Client.poll_fails_or_advances settings e job with ⟨f, hf⟩ | hlt
  · refine Follower.ends_of_faults _ _ (f := f) (fun v => ?_) _ _
    rw [follower, hf v]
  · refine Follower.ends_of_clock _ _ (P := fun v => w.clock ≤ v.clock)
      (fun v hv => ?_) (fun v hv => ?_) _ _ (Nat.le_refl _)
    · have h₁ := hlt v
      rw [clock_next]
      omega
    · have h₁ := hlt v
      have h₂ := hlt ((follower settings e job hint w.clock).next v)
      rw [clock_next] at h₂
      simp only [follower] at h₂ ⊢
      omega

/-- Follows a job to its end. -/
def follow (settings : WorkerSettings) (e : Endpoint) (job : String) (hint : Option String) :
    Action ProgressAnswer := fun w =>
  (follower settings e job hint w.clock).run (rulesOf settings) w
    (ends_follower settings e job hint (rulesOf settings) w)

/-- Starts a job and follows it to its end. -/
def process (settings : WorkerSettings) (e : Endpoint) (s : Submission) : Action ProgressAnswer := do
  match ← Client.start settings e s with
  | .ok job => follow settings e job.id s.hint?
  | .error f => return .ofFault f

end Job

end ClipRelay
