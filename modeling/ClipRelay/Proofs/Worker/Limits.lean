import ClipRelay.Proofs.Worker.Stop
import ClipRelay.Service.Settings
import Mathlib.Logic.Relation

/-!
# How often a job is polled

A job is polled until its time is over, and the time is counted in pauses: after poll `i` at least `i`
pauses have passed (`Follower.Paced.mul_le_time`).

* `Follower.answersWithin_of_stopsAt`: a poll at which the loop may stop bounds how many there are.
* `Follower.Paced.stopsAt`, `Follower.stopsAt_of_faults`: the time brings such a poll, and so do polls
  that all fail.
* `Follower.failures_lt_of_judge`, `Follower.Reaches.failures_lt`: no verdict makes the counter of
  failures reach the number that may fail, and so it stays below that in all the loop comes to.
* `Job.paced_follower`: the clock of a world suits these bounds.
* `Follower.gives_up_in_time`: all of it together.
-/

namespace ClipRelay

open Text

namespace Follower

variable {σ : Type} (x : Follower σ) (rules : FollowRules) (s : σ)

/-! ## Polls until there is an answer -/

/-- The job comes to an answer, and has been polled at most so many times then. -/
def AnswersWithin (polls : Nat) : Prop :=
  ∃ (hends : x.Ends rules .start s) (htraced : x.traced.Ends rules .start (s, [])),
    (x.traced.run rules (s, []) htraced).1 = (x.run rules s hends).1 ∧
      (x.traced.run rules (s, []) htraced).2.2.count .poll ≤ polls

/-- The loop stops where it may, if not before. -/
theorem answersWithin_of_stopsAt {i : Nat} (h : x.StopsAt rules s i) :
    x.AnswersWithin rules s (i + 1) := by
  have hstop : ∃ i, x.StopsAt rules s i := ⟨i, h⟩
  have first : ∀ j < Nat.find hstop, ¬ x.StopsAt rules s j := fun j => Nat.find_min hstop
  obtain ⟨result, hresult⟩ := x.exists_comesTo rules s (Nat.find_spec hstop)
  have hends : x.Ends rules .start s := (x.ends_iff rules s).2 hstop
  have htraced : x.traced.Ends rules .start (s, []) :=
    (x.traced.ends_iff rules (s, [])).2 ⟨i, (traced_stopsAt x rules s i).2 h⟩
  have hrun := traced_run_of_comesTo x rules s first hresult htraced
  refine ⟨hends, htraced, ?_, ?_⟩
  · rw [hrun, run_of_comesTo x rules s first hresult hends]
  · rw [hrun, List.count_append, List.count_cons_self, count_poll_callsBefore, count_poll_fetches]
    exact Nat.add_le_add_right (Nat.find_min' hstop h) 1

theorem AnswersWithin.mono {m n : Nat} (h : x.AnswersWithin rules s m) (hmn : m ≤ n) :
    x.AnswersWithin rules s n := by
  obtain ⟨hends, htraced, hanswer, hcount⟩ := h
  exact ⟨hends, htraced, hanswer, Nat.le_trans hcount hmn⟩

/-! ## Time -/

/-- While the job is polled the clock does not run back, and every pause takes its time or more. -/
structure Paced : Prop where
  poll : ∀ i, x.elapsed (x.before s i) ≤ x.time s i
  pause : ∀ i, x.time s i + rules.interval ≤ x.elapsed (x.before s (i + 1))

section

variable {x rules s}

/-- After a poll there have been as many pauses as polls before it. -/
theorem Paced.mul_le_time (h : x.Paced rules s) (i : Nat) : i * rules.interval ≤ x.time s i := by
  induction i with
  | zero => rw [Nat.zero_mul]; exact Nat.zero_le _
  | succ i ih =>
    calc (i + 1) * rules.interval = i * rules.interval + rules.interval := Nat.succ_mul _ _
      _ ≤ x.time s i + rules.interval := Nat.add_le_add_right ih _
      _ ≤ x.elapsed (x.before s (i + 1)) := h.pause i
      _ ≤ x.time s (i + 1) := h.poll (i + 1)

/-- There is no time for more pauses than fit into the limit. -/
theorem Paced.stopsAt (h : x.Paced rules s) (hpos : 0 < rules.interval) :
    x.StopsAt rules s (rules.limit / rules.interval) := by
  have hover : rules.limit < rules.limit / rules.interval * rules.interval + rules.interval := by
    rw [← Nat.succ_mul, Nat.mul_comm]
    exact Nat.lt_mul_div_succ _ hpos
  exact .inr (.inr (Nat.lt_of_lt_of_le hover (Nat.add_le_add_right (h.mul_le_time _) _)))

end

/-! ## Failures -/

/-- When all polls fail, the last one that may fail is where the loop stops. -/
theorem stopsAt_of_faults (h : ∀ i, ∃ f, x.outcome s i = .error f) :
    x.StopsAt rules s (max rules.maxFailures 1 - 1) :=
  .inr (.inl ⟨by omega, fun j _ _ => h j⟩)

/-- A job is polled again only while fewer polls in a row have failed than may. -/
theorem failures_lt_of_judge {memory memory' : Follow} {elapsed : Nat}
    {outcome : Except WorkerFault Report}
    (h : memory.judge rules outcome elapsed = .again memory') :
    memory'.failures < max rules.maxFailures 1 := by
  cases outcome with
  | error f => exact ((judge_again h).2 f rfl).2
  | ok report =>
    simp only [Follow.judge, Follow.pause] at h
    split at h
    · cases h
    · split at h
      · cases h
      · obtain rfl := Verdict.again.inj h
        exact Nat.lt_of_lt_of_le Nat.zero_lt_one (Nat.le_max_right _ _)

/-- What the loop comes to: what is known before a poll, and the world there. -/
def Reaches (p : Follow × σ) : Prop :=
  Relation.ReflTransGen (fun earlier later => x.Follows rules later earlier) (.start, s) p

variable {x rules s} in
/-- The counter of failures stays below the number that may fail. -/
theorem Reaches.failures_lt {p : Follow × σ} (h : x.Reaches rules s p) :
    p.1.failures < max rules.maxFailures 1 := by
  induction h with
  | refl => exact Nat.lt_of_lt_of_le Nat.zero_lt_one (Nat.le_max_right _ _)
  | tail _ hstep _ => exact failures_lt_of_judge rules hstep.1

end Follower

/-! ## Jobs of the worker -/

namespace Job

variable (settings : WorkerSettings) (e : Endpoint) (job : String) (hint : Option String) (w : World)

/-- A poll takes time, or cannot be made. -/
theorem clock_le_poll (v : World) : v.clock ≤ ((Client.poll settings e job).run v).2.clock := by
  rcases Client.poll_fails_or_advances settings e job with ⟨f, hf⟩ | hlt
  · rw [hf v]
  · exact Nat.le_of_lt (hlt v)

theorem clock_le_before (i : Nat) :
    w.clock ≤ ((follower settings e job hint w.clock).before w i).clock := by
  induction i with
  | zero => exact Nat.le_refl _
  | succ i ih =>
    have hpoll := clock_le_poll settings e job ((follower settings e job hint w.clock).before w i)
    rw [Follower.before, clock_next]
    omega

theorem elapsed_follower (began : Nat) (v : World) :
    (follower settings e job hint began).elapsed v = v.clock - began := by
  rw [follower]

theorem time_follower (began i : Nat) : (follower settings e job hint began).time w i =
    ((Client.poll settings e job).run ((follower settings e job hint began).before w i)).2.clock -
      began := by
  simp only [Follower.time, Follower.after, follower]

theorem interval_rulesOf : (rulesOf settings).interval = settings.pollInterval * World.perMilli :=
  rfl

/-- The clock of a world never runs back, and a pause takes as long as it should. -/
theorem paced_follower :
    (follower settings e job hint w.clock).Paced (rulesOf settings) w where
  poll i := by
    rw [time_follower, elapsed_follower]
    exact Nat.sub_le_sub_right (clock_le_poll settings e job _) _
  pause i := by
    have hbefore := clock_le_before settings e job hint w i
    have hpoll := clock_le_poll settings e job ((follower settings e job hint w.clock).before w i)
    rw [time_follower, elapsed_follower, Follower.before, clock_next, interval_rulesOf]
    omega

theorem lt_of_readNat? {limit n : Nat} {text : String} (h : readNat? limit text = some n) :
    n < limit := by
  unfold readNat? at h
  simp only at h
  obtain ⟨hread, hn⟩ := Option.ite_none_right_eq_some.1 h
  simp only [Bool.and_eq_true, decide_eq_true_eq] at hread
  exact Option.some.inj hn ▸ hread.2

/-- The number of polls that may fail is one of 32 bits. -/
theorem maxPollFailures_ofEnvironment_lt (env : Environment) :
    (WorkerSettings.ofEnvironment env).maxPollFailures < UInt32.size := by
  simp only [WorkerSettings.ofEnvironment]
  cases hnumber : env.number? 32 "COLAB_MAX_POLL_FAILURES" with
  | none => decide
  | some n =>
    obtain ⟨text, -, hn⟩ := Option.bind_eq_some_iff.1 hnumber
    exact lt_of_readNat? hn

end Job

namespace Follower

/-- Following a job gives up in time. When every pause takes its time there are at most so many polls
as pauses fit into the limit, and one more; when all polls fail there are no more than may fail. The
counter of failures can be raised before every poll without leaving its 32 bits, in which the settings
give the number that may fail. A job of the worker always has its answer within the first bound. -/
theorem gives_up_in_time {σ : Type} (x : Follower σ) (rules : FollowRules) (s : σ) :
    (x.Paced rules s → 0 < rules.interval →
      x.AnswersWithin rules s (rules.limit / rules.interval + 1)) ∧
    ((∀ i, ∃ f, x.outcome s i = .error f) → x.AnswersWithin rules s (max rules.maxFailures 1)) ∧
    (rules.maxFailures < UInt32.size → ∀ p, x.Reaches rules s p →
      p.1.failures + 1 < UInt32.size) ∧
    (∀ env, (WorkerSettings.ofEnvironment env).maxPollFailures < UInt32.size) ∧
    ∀ (settings : WorkerSettings) e job hint w, 0 < settings.pollInterval →
      (Job.follower settings e job hint w.clock).AnswersWithin (Job.rulesOf settings) w
        (settings.streamTimeout / settings.pollInterval + 1) := by
  refine ⟨fun paced hpos => answersWithin_of_stopsAt x rules s (paced.stopsAt hpos),
    fun faults => ?_, fun hmax p hp => ?_, Job.maxPollFailures_ofEnvironment_lt,
    fun settings e job hint w hpos => ?_⟩
  · have hanswers := answersWithin_of_stopsAt x rules s (stopsAt_of_faults x rules s faults)
    exact hanswers.mono x rules s (by omega)
  · have hlt := hp.failures_lt
    have hone : 1 < UInt32.size := by decide
    omega
  · have hmilli : 0 < World.perMilli := by decide
    have hanswers := answersWithin_of_stopsAt _ _ _
      ((Job.paced_follower settings e job hint w).stopsAt (Nat.mul_pos hpos hmilli))
    rwa [Job.rulesOf, Nat.mul_div_mul_right _ _ hmilli] at hanswers

/-- One whose polls come to one outcome and take no time, while each pause takes five units of it. -/
def steadyFollower (outcome : Except WorkerFault Report) : Follower Nat where
  poll n := (outcome, n)
  elapsed n := n
  pause n := ((), n + 5)
  fetch artifact := pure (.ok ⟨artifact.filename, 3⟩)

/-- Four pauses fit into the time, and three polls may fail. -/
def steadyRules : FollowRules := ⟨5, 20, 3, 1⟩

theorem gives_up_in_time_sample :
    let running := steadyFollower (.ok ⟨some (.string "processing"), none, none, none, none, none, none⟩)
    let failing := steadyFollower (.error .noJobId)
    let w : World := ⟨.empty, .silent, .empty, [], 0, 0, []⟩
    running.AnswersWithin steadyRules 0 5 ∧ failing.AnswersWithin steadyRules 0 3 ∧
    failing.Reaches steadyRules 0 (⟨.empty, 1⟩, 5) ∧ 1 + 1 < UInt32.size ∧
    (Job.follower {} ⟨"http://[::1]:8080", false⟩ "7" none w.clock).AnswersWithin
      (Job.rulesOf {}) w 301 := by
  intro running failing w
  have hpaced : running.Paced steadyRules 0 := ⟨fun _ => Nat.le_refl _, fun _ => Nat.le_refl _⟩
  have hreached : failing.Reaches steadyRules 0 (⟨.empty, 1⟩, 5) :=
    .tail .refl ⟨rfl, rfl⟩
  obtain ⟨hrunning, -, -, -, hjob⟩ := gives_up_in_time running steadyRules 0
  obtain ⟨-, hfailing, hcounter, -, -⟩ := gives_up_in_time failing steadyRules 0
  exact ⟨hrunning hpaced (by decide), hfailing fun _ => ⟨_, rfl⟩, hreached,
    hcounter (by decide) _ hreached, hjob {} _ _ _ _ (by decide)⟩

end Follower

end ClipRelay
