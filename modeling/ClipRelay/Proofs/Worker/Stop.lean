import ClipRelay.Worker.Follow
import Mathlib.Data.Nat.Find

/-!
# When following a job stops

The polls of a job that would be polled for ever have an index each, the first one 0 (`before`,
`outcome`, `after`). A job that is followed stops with the first poll at which one of three things
holds (`StopsAt`): a report has ended the job, too many polls in a row have failed, or there is no
time for another pause.

* `watch_eq_of_no_stop`: as long as there was no stop, the memory of the loop is the last snapshot
  and the failures since the last report.
* `ends_iff`: the loop ends when it comes to a stop.
* `run_stops_first`: what the job comes to (`ComesTo`), and all that is asked of the outside on the
  way (`traced`).
-/

namespace ClipRelay

/-! ## The answer of a job that has ended -/

namespace Finding

variable {σ : Type} {finding : Finding}

/-- The answer of a complete job whose artifact has been fetched, or not. -/
def answerOf (finding : Finding) : Except WorkerFault Artifact → ProgressAnswer
  | .ok a => (ProgressAnswer.ofSnapshot finding.snapshot).withOutputPath a.path
  | .error f =>
    { ProgressAnswer.ofSnapshot finding.snapshot with
      error := some .downloadFailed, message := downloadMessage f }

/-- An artifact that is due is fetched, once. -/
theorem settle_of_due {artifact : ArtifactRef} (ho : finding.snapshot.output = some artifact)
    (hd : finding.artifactDue = true) (fetch : ArtifactRef → StateM σ (Except WorkerFault Artifact))
    (t : σ) : (finding.settle fetch).run t =
      (finding.answerOf ((fetch artifact).run t).1, ((fetch artifact).run t).2) := by
  unfold settle
  rw [ho, hd, StateT.run_bind]
  rcases (fetch artifact).run t with ⟨f | a, t'⟩ <;> rfl

/-- Where no artifact is due nothing is fetched. -/
theorem settle_of_idle (h : finding.artifactDue = false ∨ finding.snapshot.output = none)
    (fetch : ArtifactRef → StateM σ (Except WorkerFault Artifact)) (t : σ) :
    (finding.settle fetch).run t = (ProgressAnswer.ofSnapshot finding.snapshot, t) := by
  unfold settle
  rcases h with h | h
  · rw [h]
    cases finding.snapshot.output <;> rfl
  · rw [h]
    rfl

/-- Whatever a download comes to, the status stays what it is, and there are no details. -/
theorem settle_fields (finding : Finding)
    (fetch : ArtifactRef → StateM σ (Except WorkerFault Artifact)) (t : σ) :
    ((finding.settle fetch).run t).1.status = finding.snapshot.status ∧
      ((finding.settle fetch).run t).1.details = none := by
  by_cases hidle : finding.artifactDue = false ∨ finding.snapshot.output = none
  · rw [settle_of_idle hidle]
    exact ⟨rfl, rfl⟩
  · obtain ⟨hdue, ho⟩ := not_or.1 hidle
    obtain ⟨artifact, ho⟩ := Option.ne_none_iff_exists'.1 ho
    rw [settle_of_due ho (Bool.not_eq_false _ ▸ hdue)]
    rcases (fetch artifact).run t with ⟨f | a, t'⟩ <;> exact ⟨rfl, rfl⟩

end Finding

namespace Verdict

/-- The job is polled again. -/
def isAgain : Verdict → Bool
  | again _ => true
  | ended _ => false
  | givenUp _ => false

/-- The verdict by which following a job stops. -/
def ofResult : Except ProgressAnswer Finding → Verdict
  | .ok finding => ended finding
  | .error answer => givenUp answer

theorem isAgain_ofResult (result : Except ProgressAnswer Finding) :
    (ofResult result).isAgain = false := by
  cases result <;> rfl

end Verdict

/-! ## The polls of a job -/

namespace Follower

variable {σ : Type} (x : Follower σ) (rules : FollowRules) (s : σ)

/-- The state before a poll. -/
def before : Nat → σ
  | 0 => s
  | i + 1 => x.next (before i)

def outcome (i : Nat) : Except WorkerFault Report := (x.poll.run (x.before s i)).1

/-- The state after a poll. -/
def after (i : Nat) : σ := (x.poll.run (x.before s i)).2

/-- The time that has passed after a poll. -/
def time (i : Nat) : Nat := x.elapsed (x.after s i)

/-- The last snapshot before a poll. -/
def lastSnapshot : Nat → Option Snapshot
  | 0 => none
  | i + 1 =>
    match x.outcome s i with
    | .ok report => some (Finding.ofReport report (lastSnapshot i)).snapshot
    | .error _ => lastSnapshot i

/-- How many polls have failed since the last report before a poll. -/
def streak : Nat → Nat
  | 0 => 0
  | i + 1 =>
    match x.outcome s i with
    | .ok _ => 0
    | .error _ => streak i + 1

/-- The poll brings a report that ends the job. -/
def EndsAt (i : Nat) (finding : Finding) : Prop :=
  ∃ report, x.outcome s i = .ok report ∧ finding = Finding.ofReport report (x.lastSnapshot s i) ∧
    finding.snapshot.isTerminal = true

/-- With the poll, as many polls in a row have failed as the rules allow. -/
def FailsAt (i : Nat) : Prop :=
  max rules.maxFailures 1 ≤ i + 1 ∧
    ∀ j ≤ i, i < j + max rules.maxFailures 1 → ∃ f, x.outcome s j = .error f

/-- After the poll there is no time for a pause. -/
def LateAt (i : Nat) : Prop := rules.limit < x.time s i + rules.interval

def StopsAt (i : Nat) : Prop :=
  (∃ finding, x.EndsAt s i finding) ∨ x.FailsAt rules s i ∨ x.LateAt rules s i

/-! ## The failures in a row -/

/-- So many polls have failed since the last report when the last so many polls have. -/
theorem le_streak_iff (n i : Nat) :
    n ≤ x.streak s i ↔ n ≤ i ∧ ∀ j < i, i ≤ j + n → ∃ f, x.outcome s j = .error f := by
  induction i generalizing n with
  | zero => simp [streak]
  | succ i ih =>
    cases n with
    | zero =>
      refine iff_of_true (Nat.zero_le _) ⟨Nat.zero_le _, fun j h₁ h₂ => ?_⟩
      omega
    | succ n =>
      rw [streak]
      cases ho : x.outcome s i with
      | ok report =>
        refine iff_of_false (Nat.not_succ_le_zero n) fun ⟨_, h⟩ => ?_
        obtain ⟨f, hf⟩ := h i (Nat.lt_succ_self i) (by omega)
        rw [ho] at hf
        cases hf
      | error f =>
        -- The run has grown by the poll `i` at its end; the hypothesis speaks of the polls before.
        rw [Nat.add_le_add_iff_right, Nat.add_le_add_iff_right, ih]
        refine and_congr_right fun _ => ⟨fun h j h₁ h₂ => ?_, fun h j h₁ h₂ => ?_⟩
        · rcases Nat.lt_succ_iff_lt_or_eq.1 h₁ with hj | rfl
          · exact h j hj (by omega)
          · exact ⟨f, ho⟩
        · exact h j (by omega) (by omega)

theorem failsAt_iff (i : Nat) :
    x.FailsAt rules s i ↔ max rules.maxFailures 1 ≤ x.streak s (i + 1) := by
  simp only [le_streak_iff, FailsAt, Nat.lt_succ_iff, Nat.succ_le_iff]

theorem exists_error_of_failsAt {i : Nat} (h : x.FailsAt rules s i) :
    ∃ f, x.outcome s i = .error f := h.2 i (Nat.le_refl i) (by omega)

/-! ## What the job comes to -/

/-- The answer when there is no time left, by the last snapshot. -/
def lateAnswer (last : Option Snapshot) : ProgressAnswer where
  status := .error
  stage := (last.map (·.stage)).getD "unknown"
  progress := (last.map (·.progress)).getD 0
  message := (WorkerFault.timeout rules.limitSeconds).message
  outputPath := none
  error := some .timeout
  details := none

/-- What the job comes to with a poll: the report that ends it, or the answer of one who gives up.
The conditions are looked at in this order. -/
inductive ComesTo (i : Nat) : Except ProgressAnswer Finding → Prop
  /-- The job has ended. -/
  | ended {finding : Finding} : x.EndsAt s i finding → ComesTo i (.ok finding)
  /-- Too many polls have failed, and the answer is the failure of the last one. -/
  | failed {f : WorkerFault} :
    x.outcome s i = .error f → x.FailsAt rules s i → ComesTo i (.error (.ofFault f))
  /-- There is no time left; the answer has the stage and percentage of the last snapshot. -/
  | late : (¬ ∃ finding, x.EndsAt s i finding) → ¬ x.FailsAt rules s i → x.LateAt rules s i →
    ComesTo i (.error (lateAnswer rules (x.lastSnapshot s (i + 1))))

theorem exists_comesTo {i : Nat} (h : x.StopsAt rules s i) : ∃ result, x.ComesTo rules s i result := by
  by_cases hends : ∃ finding, x.EndsAt s i finding
  · obtain ⟨finding, hfinding⟩ := hends
    exact ⟨_, .ended hfinding⟩
  · by_cases hfails : x.FailsAt rules s i
    · obtain ⟨f, hf⟩ := x.exists_error_of_failsAt rules s hfails
      exact ⟨_, .failed hf hfails⟩
    · have hlate : x.LateAt rules s i := (h.resolve_left hends).resolve_left hfails
      exact ⟨_, .late hends hfails hlate⟩

/-! ## The loop -/

section

variable {memory : Follow} {s}

theorem watch_of_result {result : Except ProgressAnswer Finding}
    (hv : (x.polled rules memory s).1 = .ofResult result) (h : x.Ends rules memory s) :
    x.watch rules memory s h = (result, (x.polled rules memory s).2) := by
  rw [watch]
  cases result with
  | ok finding =>
    rw [Verdict.ofResult] at hv
    split <;> simp_all
  | error answer =>
    rw [Verdict.ofResult] at hv
    split <;> simp_all

theorem watch_of_again {memory' : Follow} (hv : (x.polled rules memory s).1 = .again memory')
    (h : x.Ends rules memory s) :
    x.watch rules memory s h = x.watch rules memory' (x.next s) (h.inv ⟨hv, rfl⟩) := by
  rw [watch]
  split
  · simp_all
  · simp_all
  · rename_i memory'' hv'
    cases Verdict.again.inj (hv'.symm.trans hv)
    rfl

end

/-- What the loop knows before a poll. -/
def memory (i : Nat) : Follow := ⟨⟨x.lastSnapshot s i⟩, x.streak s i⟩

theorem timeoutAnswer_eq (memory : Follow) :
    memory.timeoutAnswer rules = lateAnswer rules memory.tracker.current := by
  unfold Follow.timeoutAnswer
  cases memory.tracker.current <;> rfl

/-- A poll at which the job neither ends nor fails too often. -/
theorem judge_of_open {i : Nat} (open₁ : ¬ ∃ finding, x.EndsAt s i finding)
    (open₂ : ¬ x.FailsAt rules s i) :
    (x.memory s i).judge rules (x.outcome s i) (x.time s i) =
      (x.memory s (i + 1)).pause rules (x.time s i) := by
  rw [failsAt_iff, streak] at open₂
  rw [memory, memory, lastSnapshot, streak]
  cases ho : x.outcome s i with
  | ok report =>
    have hrunning : (Finding.ofReport report (x.lastSnapshot s i)).snapshot.isTerminal = false :=
      Bool.eq_false_iff.2 fun h => open₁ ⟨_, report, ho, rfl, h⟩
    simp only [Follow.judge, Tracker.feed, hrunning, Bool.false_eq_true, if_false]
  | error f =>
    rw [ho] at open₂
    exact if_neg open₂

theorem judge_of_no_stop {i : Nat} (h : ¬ x.StopsAt rules s i) :
    (x.memory s i).judge rules (x.outcome s i) (x.time s i) = .again (x.memory s (i + 1)) := by
  simp only [StopsAt, not_or] at h
  obtain ⟨open₁, open₂, hintime⟩ := h
  rw [judge_of_open x rules s open₁ open₂]
  exact if_neg hintime

/-- The loop stops with a poll at which the job comes to something. -/
theorem judge_of_comesTo {i : Nat} {result : Except ProgressAnswer Finding}
    (h : x.ComesTo rules s i result) :
    (x.memory s i).judge rules (x.outcome s i) (x.time s i) = .ofResult result := by
  cases h with
  | ended h =>
    obtain ⟨report, ho, rfl, hterminal⟩ := h
    rw [ho]
    simp only [Follow.judge, memory, Tracker.feed, hterminal, if_true, Verdict.ofResult]
  | failed ho h =>
    rw [failsAt_iff, streak, ho] at h
    rw [ho]
    exact if_pos h
  | late open₁ open₂ h =>
    rw [judge_of_open x rules s open₁ open₂, Verdict.ofResult]
    exact (if_pos h).trans (congrArg _ (timeoutAnswer_eq rules (x.memory s (i + 1))))

/-- Another poll follows unless there is a stop. -/
theorem isAgain_judge_iff (i : Nat) :
    ((x.memory s i).judge rules (x.outcome s i) (x.time s i)).isAgain = true ↔
      ¬ x.StopsAt rules s i := by
  constructor
  · intro hj h
    obtain ⟨result, hresult⟩ := x.exists_comesTo rules s h
    rw [judge_of_comesTo x rules s hresult, Verdict.isAgain_ofResult] at hj
    cases hj
  · intro h
    rw [judge_of_no_stop x rules s h]
    rfl

instance (i : Nat) : Decidable (x.StopsAt rules s i) :=
  decidable_of_iff
    (((x.memory s i).judge rules (x.outcome s i) (x.time s i)).isAgain = false)
    (by rw [← Bool.not_eq_true, isAgain_judge_iff, not_not])

/-- Another poll follows only upon one without a stop, and then it is the next one. -/
theorem follows_memory_iff (i : Nat) (p : Follow × σ) :
    x.Follows rules p (x.memory s i, x.before s i) ↔
      ¬ x.StopsAt rules s i ∧ p = (x.memory s (i + 1), x.before s (i + 1)) := by
  have hpolled : (x.polled rules (x.memory s i) (x.before s i)).1 =
      (x.memory s i).judge rules (x.outcome s i) (x.time s i) := rfl
  have hnext : x.before s (i + 1) = x.next (x.before s i) := rfl
  simp only [Follows, hpolled, ← hnext]
  constructor
  · rintro ⟨hj, hp⟩
    have hi : ¬ x.StopsAt rules s i := by rw [← isAgain_judge_iff, hj]; rfl
    rw [judge_of_no_stop x rules s hi] at hj
    exact ⟨hi, Prod.ext (Verdict.again.inj hj).symm hp⟩
  · rintro ⟨hi, rfl⟩
    exact ⟨judge_of_no_stop x rules s hi, rfl⟩

theorem ends_memory_of_stopsAt {i j : Nat} (h : x.StopsAt rules s (i + j)) :
    x.Ends rules (x.memory s i) (x.before s i) := by
  induction j generalizing i with
  | zero =>
    refine Acc.intro _ fun p hp => ?_
    exact absurd h ((follows_memory_iff x rules s i p).1 hp).1
  | succ j ih =>
    refine Acc.intro _ fun p hp => ?_
    obtain ⟨-, rfl⟩ := (follows_memory_iff x rules s i p).1 hp
    rw [Nat.add_comm j 1, ← Nat.add_assoc] at h
    exact ih h

/-- The loop ends when it comes to a stop. -/
theorem ends_iff : x.Ends rules .start s ↔ ∃ i, x.StopsAt rules s i := by
  constructor
  · intro h
    -- Without a stop there is a next poll for ever; the index is carried along the accessibility.
    have key : ∀ p, Acc (x.Follows rules) p →
        ∀ i, p = (x.memory s i, x.before s i) → ∃ j, x.StopsAt rules s j := by
      intro p hp
      induction hp with
      | intro p _ ih =>
        rintro i rfl
        by_cases hi : x.StopsAt rules s i
        · exact ⟨i, hi⟩
        · exact ih _ ((follows_memory_iff x rules s i _).2 ⟨hi, rfl⟩) (i + 1) rfl
    exact key _ h 0 rfl
  · rintro ⟨i, hi⟩
    have hi : x.StopsAt rules s (0 + i) := by rw [Nat.zero_add]; exact hi
    exact x.ends_memory_of_stopsAt rules s hi

/-- As long as there was no stop, the loop goes on with what it knows. -/
theorem watch_eq_of_no_stop {i : Nat} (h : ∀ j < i, ¬ x.StopsAt rules s j)
    (hends : x.Ends rules .start s) :
    ∃ hends', x.watch rules .start s hends = x.watch rules (x.memory s i) (x.before s i) hends' := by
  induction i with
  | zero => exact ⟨hends, rfl⟩
  | succ i ih =>
    obtain ⟨hends', heq⟩ := ih fun j hj => h j (Nat.lt_succ_of_lt hj)
    have hi := judge_of_no_stop x rules s (h i (Nat.lt_succ_self i))
    exact ⟨_, heq.trans (watch_of_again x rules hi hends')⟩

/-- The loop stops with the first poll at which it may. -/
theorem watch_of_comesTo {i : Nat} {result : Except ProgressAnswer Finding}
    (first : ∀ j < i, ¬ x.StopsAt rules s j) (h : x.ComesTo rules s i result)
    (hends : x.Ends rules .start s) :
    x.watch rules .start s hends = (result, x.after s i) := by
  obtain ⟨hends', heq⟩ := x.watch_eq_of_no_stop rules s first hends
  rw [heq]
  exact watch_of_result x rules (judge_of_comesTo x rules s h) hends'

theorem run_of_comesTo {i : Nat} {result : Except ProgressAnswer Finding}
    (first : ∀ j < i, ¬ x.StopsAt rules s j) (h : x.ComesTo rules s i result)
    (hends : x.Ends rules .start s) :
    x.run rules s hends = (x.conclude result).run (x.after s i) := by
  rw [run, watch_of_comesTo x rules s first h]

/-! ## What is asked of the outside -/

/-- What one who follows a job asks of the outside. -/
inductive Call
  | poll
  | pause
  | fetch (artifact : ArtifactRef)
  deriving DecidableEq

/-- Does something and writes down the call. -/
def noting {α : Type} (call : Call) (act : StateM σ α) : StateM (σ × List Call) α :=
  fun (t, calls) => ((act.run t).1, (act.run t).2, calls ++ [call])

/-- A follower who writes down all that it asks of the outside. -/
def traced : Follower (σ × List Call) where
  poll := noting .poll x.poll
  elapsed t := x.elapsed t.1
  pause := noting .pause x.pause
  fetch artifact := noting (.fetch artifact) (x.fetch artifact)

/-- The calls before a poll. -/
def callsBefore : Nat → List Call
  | 0 => []
  | i + 1 => callsBefore i ++ [.poll, .pause]

theorem count_poll_callsBefore (i : Nat) : (callsBefore i).count .poll = i := by
  induction i with
  | zero => rfl
  | succ i ih => rw [callsBefore, List.count_append, ih]; rfl

theorem traced_before (i : Nat) :
    x.traced.before (s, []) i = (x.before s i, callsBefore i) := by
  induction i with
  | zero => rfl
  | succ i ih =>
    rw [before, ih, callsBefore, List.append_cons]
    rfl

theorem traced_outcome (i : Nat) : x.traced.outcome (s, []) i = x.outcome s i := by
  rw [outcome, traced_before]
  rfl

theorem traced_after (i : Nat) :
    x.traced.after (s, []) i = (x.after s i, callsBefore i ++ [.poll]) := by
  rw [after, traced_before]
  rfl

theorem traced_time (i : Nat) : x.traced.time (s, []) i = x.time s i := by
  rw [time, traced_after]
  rfl

theorem traced_lastSnapshot (i : Nat) :
    x.traced.lastSnapshot (s, []) i = x.lastSnapshot s i := by
  induction i with
  | zero => rfl
  | succ i ih => rw [lastSnapshot, lastSnapshot, traced_outcome, ih]

theorem traced_endsAt (i : Nat) (finding : Finding) :
    x.traced.EndsAt (s, []) i finding ↔ x.EndsAt s i finding := by
  simp only [EndsAt, traced_outcome, traced_lastSnapshot]

theorem traced_failsAt (i : Nat) : x.traced.FailsAt rules (s, []) i ↔ x.FailsAt rules s i := by
  simp only [FailsAt, traced_outcome]

theorem traced_lateAt (i : Nat) : x.traced.LateAt rules (s, []) i ↔ x.LateAt rules s i := by
  simp only [LateAt, traced_time]

theorem traced_stopsAt (i : Nat) : x.traced.StopsAt rules (s, []) i ↔ x.StopsAt rules s i := by
  simp only [StopsAt, traced_endsAt, traced_failsAt, traced_lateAt]

theorem traced_comesTo {i : Nat} {result : Except ProgressAnswer Finding}
    (h : x.ComesTo rules s i result) : x.traced.ComesTo rules (s, []) i result := by
  cases h with
  | ended hends => exact .ended ((traced_endsAt x s i _).2 hends)
  | failed ho hfails =>
    exact .failed ((traced_outcome x s i).trans ho) ((traced_failsAt x rules s i).2 hfails)
  | late hends hfails hlate =>
    rw [← traced_lastSnapshot]
    refine .late ?_ (mt (traced_failsAt x rules s i).1 hfails) ((traced_lateAt x rules s i).2 hlate)
    rintro ⟨finding, hfinding⟩
    exact hends ⟨finding, (traced_endsAt x s i finding).1 hfinding⟩

/-- What is fetched for a job: the artifact of one that is complete. -/
def fetches : Except ProgressAnswer Finding → List Call
  | .ok finding =>
    if finding.snapshot.status = .complete then finding.snapshot.output.toList.map .fetch else []
  | .error _ => []

/-- Before the first stop no snapshot is terminal. -/
theorem lastSnapshot_running {i : Nat} (first : ∀ j < i, ¬ x.StopsAt rules s j) :
    (x.lastSnapshot s i).filter (·.isTerminal) = none := by
  induction i with
  | zero => rfl
  | succ i ih =>
    have hi := first i (Nat.lt_succ_self i)
    rw [lastSnapshot]
    cases ho : x.outcome s i with
    | ok report =>
      have hrunning : (Finding.ofReport report (x.lastSnapshot s i)).snapshot.isTerminal = false :=
        Bool.eq_false_iff.2 fun h => hi (.inl ⟨_, report, ho, rfl, h⟩)
      simp only [Option.filter_some, hrunning, Bool.false_eq_true, if_false]
    | error f => exact ih fun j hj => first j (Nat.lt_succ_of_lt hj)

/-- The artifact is due with the report that completes the job. -/
theorem artifactDue_of_endsAt {i : Nat} {finding : Finding}
    (first : ∀ j < i, ¬ x.StopsAt rules s j) (h : x.EndsAt s i finding) :
    finding.artifactDue = decide (finding.snapshot.status = .complete) := by
  obtain ⟨report, -, rfl, -⟩ := h
  simp only [Finding.ofReport, lastSnapshot_running x rules s first]

/-- One who writes down its calls comes to the same, and fetches what is due. -/
theorem traced_conclude {i : Nat} {result : Except ProgressAnswer Finding}
    (first : ∀ j < i, ¬ x.StopsAt rules s j) (h : x.ComesTo rules s i result) (t : σ)
    (calls : List Call) :
    (x.traced.conclude result).run (t, calls) =
      (((x.conclude result).run t).1, ((x.conclude result).run t).2, calls ++ fetches result) := by
  cases h with
  | failed ho hfails => simp only [fetches, List.append_nil]; rfl
  | late hends hfails hlate => simp only [fetches, List.append_nil]; rfl
  | @ended finding hends =>
    have hdue := artifactDue_of_endsAt x rules s first hends
    rw [fetches, conclude, conclude]
    by_cases hc : finding.snapshot.status = .complete
    · rw [decide_eq_true hc] at hdue
      rw [if_pos hc]
      cases ho : finding.snapshot.output with
      | none =>
        rw [Finding.settle_of_idle (.inr ho), Finding.settle_of_idle (.inr ho), Option.toList_none,
          List.map_nil, List.append_nil]
      | some artifact =>
        rw [Finding.settle_of_due ho hdue, Finding.settle_of_due ho hdue]
        rfl
    · rw [decide_eq_false hc] at hdue
      rw [if_neg hc, List.append_nil, Finding.settle_of_idle (.inl hdue),
        Finding.settle_of_idle (.inl hdue)]

theorem traced_run_of_comesTo {i : Nat} {result : Except ProgressAnswer Finding}
    (first : ∀ j < i, ¬ x.StopsAt rules s j) (h : x.ComesTo rules s i result)
    (hends : x.traced.Ends rules .start (s, [])) :
    x.traced.run rules (s, []) hends =
      (((x.conclude result).run (x.after s i)).1, ((x.conclude result).run (x.after s i)).2,
        callsBefore i ++ .poll :: fetches result) := by
  have first' : ∀ j < i, ¬ x.traced.StopsAt rules (s, []) j := fun j hj =>
    mt (traced_stopsAt x rules s j).1 (first j hj)
  rw [run_of_comesTo _ rules _ first' (traced_comesTo x rules s h), traced_after,
    traced_conclude x rules s first h, ← List.append_cons]

theorem count_poll_fetches (result : Except ProgressAnswer Finding) :
    (fetches result).count .poll = 0 := by
  unfold fetches
  split
  · split
    · rename_i finding _
      cases finding.snapshot.output <;> rfl
    · rfl
  · rfl

end Follower

/-! ## Jobs of the worker -/

theorem Job.follower_poll (settings : WorkerSettings) (e : Endpoint) {job : String}
    (hint : Option String) (began : Nat) :
    (Job.follower settings e job hint began).poll = Client.poll settings e job := by
  rw [Job.follower]

theorem Job.follower_fetch (settings : WorkerSettings) (e : Endpoint) {job : String}
    (hint : Option String) (began : Nat) :
    (Job.follower settings e job hint began).fetch = Job.fetch settings e job hint := by
  rw [Job.follower]

/-- In a world a job that is followed comes to a stop. -/
theorem Job.exists_first_stop (settings : WorkerSettings) (e : Endpoint) (job : String)
    (hint : Option String) (w : World) :
    ∃ i, (follower settings e job hint w.clock).StopsAt (rulesOf settings) w i ∧
      ∀ j < i, ¬ (follower settings e job hint w.clock).StopsAt (rulesOf settings) w j := by
  have hstop := ((follower settings e job hint w.clock).ends_iff (rulesOf settings) w).1
    (ends_follower settings e job hint (rulesOf settings) w)
  exact ⟨Nat.find hstop, Nat.find_spec hstop, fun j hj => Nat.find_min hstop hj⟩

namespace Follower

/-- The rule by which following a job stops. The loop ends when there is a stop, and it stops with the
first poll at which it may: there the job comes to what `ComesTo` says; it has been polled once for
every poll up to that one, with a pause between two of them, and then the artifact of a complete job
is fetched. A job of the worker always comes to a stop. -/
theorem run_stops_first {σ : Type} (x : Follower σ) (rules : FollowRules) (s : σ) :
    (x.Ends rules .start s ↔ ∃ i, x.StopsAt rules s i) ∧
    (∀ i, (∀ j < i, ¬ x.StopsAt rules s j) → x.StopsAt rules s i →
      ∃ (hends : x.Ends rules .start s) (htraced : x.traced.Ends rules .start (s, []))
        (result : Except ProgressAnswer Finding), x.ComesTo rules s i result ∧
        let answer := (x.conclude result).run (x.after s i)
        let calls := callsBefore i ++ .poll :: fetches result
        x.run rules s hends = answer ∧
          x.traced.run rules (s, []) htraced = (answer.1, answer.2, calls) ∧
          calls.count .poll = i + 1) ∧
    ∀ settings e job hint w,
      let y := Job.follower settings e job hint w.clock
      ∃ i result, (∀ j < i, ¬ y.StopsAt (Job.rulesOf settings) w j) ∧
        y.ComesTo (Job.rulesOf settings) w i result ∧
        (Job.follow settings e job hint).run w = (y.conclude result).run (y.after w i) := by
  refine ⟨x.ends_iff rules s, fun i first stop => ?_, fun settings e job hint w => ?_⟩
  · have hends : x.Ends rules .start s := (x.ends_iff rules s).2 ⟨i, stop⟩
    have htraced : x.traced.Ends rules .start (s, []) :=
      (x.traced.ends_iff rules (s, [])).2 ⟨i, (traced_stopsAt x rules s i).2 stop⟩
    obtain ⟨result, hresult⟩ := exists_comesTo x rules s stop
    refine ⟨hends, htraced, result, hresult, run_of_comesTo x rules s first hresult hends,
      traced_run_of_comesTo x rules s first hresult htraced, ?_⟩
    rw [List.count_append, List.count_cons_self, count_poll_callsBefore, count_poll_fetches]
  · intro y
    obtain ⟨i, stop, first⟩ := Job.exists_first_stop settings e job hint w
    obtain ⟨result, hresult⟩ := y.exists_comesTo (Job.rulesOf settings) w stop
    exact ⟨i, result, first, hresult, y.run_of_comesTo (Job.rulesOf settings) w first hresult _⟩

/-! ## A sample -/

/-- The outcomes of a job that fails to answer, is running, fails to answer again, and is complete. -/
def sampleOutcome : Nat → Except WorkerFault Report
  | 1 => .ok ⟨some (.string "processing"), none, none, none, none, none, none⟩
  | 3 => .ok ⟨some (.string "complete"), none, none, none, some (.string "/d/x.mp4"), none, none⟩
  | _ => .error .noJobId

/-- One who follows that job and counts its polls. -/
def sampleFollower : Follower Nat where
  poll n := (sampleOutcome n, n + 1)
  elapsed n := n
  pause := pure ()
  fetch artifact := pure (.ok ⟨artifact.filename, 3⟩)

def sampleRules : FollowRules := ⟨1, 100, 2, 1⟩

theorem run_stops_first_sample :
    (∀ j < 3, ¬ sampleFollower.StopsAt sampleRules 0 j) ∧ sampleFollower.StopsAt sampleRules 0 3 ∧
    ∃ hends result, sampleFollower.ComesTo sampleRules 0 3 result ∧
      sampleFollower.run sampleRules 0 hends = (sampleFollower.conclude result).run 4 := by
  have first : ∀ j < 3, ¬ sampleFollower.StopsAt sampleRules 0 j := by decide +kernel
  have stop : sampleFollower.StopsAt sampleRules 0 3 := by decide +kernel
  obtain ⟨hends, -, result, hresult, hrun, -⟩ :=
    (run_stops_first sampleFollower sampleRules 0).2.1 3 first stop
  exact ⟨first, stop, hends, result, hresult, hrun⟩

end Follower

end ClipRelay
