import ClipRelay.Clip.Cache
import ClipRelay.Proofs.Clip.Encoders
import ClipRelay.Proofs.Disk.Replacement
import Mathlib.Logic.Relation

/-!
# Clips are cut once

What an encoder is relied on for is that it touches no file but its output, and that its output is a
file when it succeeds (`Encoder.Honest`).

* `Trim.ran_run`, `Trim.produced_produce`: how a run goes, whatever its encoder does.
* `Trim.run_cases`: a run finds its clip and changes nothing, fails and spares all files, or has the
  encoder cut one clip, which takes the place of the clip's path.
* `Trim.Step.isFile`: what is done in a cache, by runs or by others that leave a clip where it is,
  keeps the clip.
* `Trim.cuts_once`: one clip is cut for a source and a window, and it is found from then on.
* `Trim.cut_again_behind_link`: a clip whose path leads through a link at the path of another one is
  lost when that one is cut.
-/

namespace ClipRelay

open Disk

/-! ## Encoders that can be relied on -/

/-- The encoder reads the source, touches no file but its output, and leaves a file there when it
succeeds. -/
structure Encoder.Honest (e : Encoder) : Prop where
  probes : ∀ source w, ((e.frameRate source).run w).2.disk = w.disk
  touches : ∀ (t : ClipTask) (w : World) q bs, w.disk.find true t.output = .ok (q, some (.file bs)) →
    ChangesAt w.disk ((e.encode t).run w).2.disk q
  writes : ∀ t w w', (e.encode t).run w = (.ok (), w') → w'.disk.isFile t.output = true

/-- The world keeps a record of the calls of the encoder, in order, and apart from the files. -/
structure Encoder.Records (e : Encoder) (calls : World → List EncoderCall) : Prop where
  probed : ∀ source w, calls ((e.frameRate source).run w).2 = calls w ++ [.frameRate source]
  encoded : ∀ t w, calls ((e.encode t).run w).2 = calls w ++ [.encode t.command.args]
  apart : ∀ w disk drawn, calls { w with disk, drawn } = calls w

namespace Encoder

theorem honest_rehearsal (fps : Option Double) (failure : Option String) :
    (rehearsal fps failure).Honest where
  probes _ _ := rfl
  touches t w q bs hfind := by
    obtain ⟨disk, h, hwrite⟩ | ⟨f, h, -⟩ := encode_rehearsal fps failure t w <;> rw [h]
    · obtain ⟨q', hfind', hclosed, rfl⟩ := write_eq_ok hwrite
      obtain ⟨rfl, -⟩ : q = q' ∧ _ := by simpa [hfind] using hfind'
      exact changesAt_put hclosed trivial
    · exact .refl _ q
  writes t w w' hok := by
    obtain ⟨disk, h, hwrite⟩ | ⟨f, h, -⟩ := encode_rehearsal fps failure t w
    · obtain rfl := (Prod.mk.inj (h.symm.trans hok)).2
      obtain ⟨q, hfind⟩ := content_eq_ok_iff.1 (content_write hwrite)
      exact isFile_iff.2 ⟨q, _, hfind⟩
    · cases (Prod.mk.inj (h.symm.trans hok)).1

theorem records_rehearsal (fps : Option Double) (failure : Option String) :
    (rehearsal fps failure).Records World.rehearsed where
  probed _ _ := rfl
  encoded t w := by
    obtain ⟨disk, h, -⟩ | ⟨f, h, -⟩ := encode_rehearsal fps failure t w <;> rw [h]
  apart _ _ _ := rfl

end Encoder

namespace Trim

variable {e : Encoder} {p : TrimPlan} {dir source c path working : String} {window : TrimWindow}
  {t : Trim} {w w' : World} {d : Disk} {q : Place} {bs : Text.Bytes}

/-! ## One run -/

theorem act_run (p : TrimPlan) (t : Trim) (event : TrimEvent) (w : World) :
    (act p t event).run w =
      ((t.step p event w.disk).1, { w with disk := (t.step p event w.disk).2 }) := rfl

theorem draw_run (w : World) :
    World.draw.run w = (World.tokenOf w.drawn, { w with drawn := w.drawn + 1 }) := rfl

/-- A working file is made where nothing stood, or the run is over. Names are drawn. -/
theorem openWorking_run (p : TrimPlan) (source : String) (tries : Nat) (w : World) :
    ∃ disk drawn,
      (∃ working, (openWorking p source tries).run w =
        (.encoding working, { w with disk, drawn }) ∧ w.disk.create working = .ok disk) ∨
      (disk = w.disk ∧ ∃ reason, (openWorking p source tries).run w =
        (.done (.error (.system reason)), { w with disk, drawn })) := by
  induction tries generalizing w with
  | zero => exact ⟨w.disk, w.drawn, .inr ⟨rfl, _, rfl⟩⟩
  | succ tries ih =>
    rw [openWorking, Action.run_bind, draw_run, Action.run_bind, act_run]
    generalize workingPath p.dir source (World.tokenOf w.drawn) = working
    simp only [step]
    cases hcreate : w.disk.create working with
    | ok disk => exact ⟨disk, w.drawn + 1, .inl ⟨working, rfl, hcreate⟩⟩
    | error f =>
      by_cases hf : f = .exists
      · subst hf
        exact ih { w with drawn := w.drawn + 1 }
      · refine ⟨w.disk, w.drawn + 1, .inr ⟨rfl, f.message, ?_⟩⟩
        cases f with
        | «exists» => exact absurd rfl hf
        | _ => rfl

/-- When the encoder is done the clip takes its place, or the working file is removed. -/
theorem step_encoded (p : TrimPlan) (working : String) (result : Except MediaFault Unit) (d : Disk) :
    (∃ d', result = .ok () ∧ d.rename working p.target = .ok d' ∧
      step p (.encoding working) (.encoded result) d = (.done (.ok p.target), d')) ∨
    ∃ f, (result = .error f ∨ ∃ reason, f = .system reason) ∧
      step p (.encoding working) (.encoded result) d = (.done (.error f), d.discard working) := by
  cases result with
  | error f => exact .inr ⟨f, .inl rfl, rfl⟩
  | ok =>
    cases hrename : d.rename working p.target with
    | ok d' => exact .inl ⟨d', rfl, rfl, by simp only [step, hrename]⟩
    | error f => exact .inr ⟨_, .inr ⟨f.message, rfl⟩, by simp only [step, hrename, refused]⟩

/-- How a run goes on that has found no clip: the directory cannot be made, or no working file; the
encoder fails, or its clip cannot take its place; or it does. -/
inductive Produced (e : Encoder) (p : TrimPlan) (source : String) (window : TrimWindow) (w : World) :
    Except MediaFault String → World → Prop
  | unmade {f : IoFault} : w.disk.makeDirAll p.dir = .error f →
    Produced e p source window w (.error (.system f.message)) w
  | unopened {d₁ : Disk} {fps : Option Double} {w₁ : World} {reason : String} {drawn : Nat} :
    w.disk.makeDirAll p.dir = .ok d₁ →
    (e.frameRate source).run { w with disk := d₁ } = (fps, w₁) →
    Produced e p source window w (.error (.system reason)) { w₁ with drawn }
  | failed {d₁ d₂ : Disk} {fps : Option Double} {w₁ w₂ : World} {drawn : Nat} {working : String}
      {result : Except MediaFault Unit} {f : MediaFault} :
    w.disk.makeDirAll p.dir = .ok d₁ →
    (e.frameRate source).run { w with disk := d₁ } = (fps, w₁) →
    w₁.disk.create working = .ok d₂ →
    (e.encode ⟨source, working, window, fps.getD FrameRate.fallback⟩).run
      { w₁ with disk := d₂, drawn } = (result, w₂) →
    (result = .error f ∨ ∃ reason, f = .system reason) →
    Produced e p source window w (.error f) { w₂ with disk := w₂.disk.discard working }
  | cut {d₁ d₂ d₃ : Disk} {fps : Option Double} {w₁ w₂ : World} {drawn : Nat} {working : String} :
    w.disk.makeDirAll p.dir = .ok d₁ →
    (e.frameRate source).run { w with disk := d₁ } = (fps, w₁) →
    w₁.disk.create working = .ok d₂ →
    (e.encode ⟨source, working, window, fps.getD FrameRate.fallback⟩).run
      { w₁ with disk := d₂, drawn } = (.ok (), w₂) →
    w₂.disk.rename working p.target = .ok d₃ →
    Produced e p source window w (.ok p.target) { w₂ with disk := d₃ }

/-- A run that has found no clip comes to an end in one of these ways. -/
theorem produced_produce (e : Encoder) (p : TrimPlan) (source : String) (window : TrimWindow)
    (w : World) : ∃ result w', (produce e p source window).run w = (.done result, w') ∧
      Produced e p source window w result w' := by
  unfold produce
  rw [Action.run_bind, act_run]
  simp only [step]
  cases hmake : w.disk.makeDirAll p.dir with
  | error f => exact ⟨_, _, rfl, .unmade hmake⟩
  | ok d₁ =>
    simp only [Action.run_bind]
    rcases hprobe : (e.frameRate source).run { w with disk := d₁ } with ⟨fps, w₁⟩
    obtain ⟨d₂, drawn, ⟨working, hopen, hcreate⟩ | ⟨rfl, reason, hopen⟩⟩ :=
      openWorking_run p source maxTries w₁
    · rw [hopen]
      simp only [Action.run_bind]
      rcases hencode : (e.encode ⟨source, working, window, fps.getD FrameRate.fallback⟩).run
        { w₁ with disk := d₂, drawn } with ⟨result, w₂⟩
      rw [act_run]
      obtain ⟨d₃, rfl, hrename, hlast⟩ | ⟨f, hf, hlast⟩ := step_encoded p working result w₂.disk
      · rw [hlast]
        exact ⟨_, _, rfl, .cut hmake hprobe hcreate hencode hrename⟩
      · rw [hlast]
        exact ⟨_, _, rfl, .failed hmake hprobe hcreate hencode hf⟩
    · rw [hopen]
      exact ⟨_, _, rfl, .unopened hmake hprobe⟩

/-- How a run goes: the source is not there, its clip is, or the clip is made. -/
inductive Ran (e : Encoder) (dir source : String) (window : TrimWindow) (w : World) :
    Except MediaFault String → World → Prop
  | lost {fault : IoFault} {f : MediaFault} : w.disk.canonical source = .error fault →
    (f = .fileNotFound source ∨ ∃ reason, f = .system reason) →
    Ran e dir source window w (.error f) w
  | found {c : String} {p : TrimPlan} : w.disk.canonical source = .ok c → p = planOf dir c window →
    w.disk.isFile p.target = true → Ran e dir source window w (.ok p.target) w
  | produced {c : String} {p : TrimPlan} {result : Except MediaFault String} {w' : World} :
    w.disk.canonical source = .ok c → p = planOf dir c window → w.disk.isFile p.target = false →
    Produced e p c window w result w' → Ran e dir source window w result w'

/-- The encoder has probed the source and cut one clip of it at the rate that was found, or at the
usual one, to a new file beside the clip's path. The bytes that this held have been moved to the
clip's path. -/
def CutOnce (e : Encoder) (p : TrimPlan) (source : String) (window : TrimWindow)
    (fps : Option Double) (working : String) (bs : Text.Bytes) (w w' : World) : Prop :=
  ∃ d₁ d₂ drawn w₁ w₂,
    w.disk.makeDirAll p.dir = .ok d₁ ∧
    (e.frameRate source).run { w with disk := d₁ } = (fps, w₁) ∧
    w₁.disk.create working = .ok d₂ ∧
    (e.encode ⟨source, working, window, fps.getD FrameRate.fallback⟩).run
      { w₁ with disk := d₂, drawn } = (.ok (), w₂) ∧
    w₂.disk.content working = .ok bs ∧
    w₂.disk.rename working p.target = .ok w'.disk ∧ w' = { w₂ with disk := w'.disk }

/-- The working file is the only one that an encoder has touched. -/
theorem changesAt_of_honest (he : e.Honest) (t : ClipTask) (w : World) {d : Disk}
    (hcreate : d.create t.output = .ok w.disk) :
    ∃ q, d.get? q = none ∧ d.find false t.output = .ok (q, none) ∧
      ChangesAt d ((e.encode t).run w).2.disk q := by
  obtain ⟨q, hfind, hput⟩ := create_eq_ok hcreate
  have hnone := get?_of_find hfind
  have hclosed : Closed (d.get? q) := by rw [hnone]; trivial
  have hmade : ChangesAt d w.disk q := hput ▸ changesAt_put hclosed trivial
  have hnew : w.disk.get? q = some (.file []) := by rw [hput, get?_put_self (ne_nil_of_closed hclosed)]
  have hfind' : w.disk.find true t.output = .ok (q, some (.file [])) :=
    find_followed (hnew ▸ hmade.sameWays.find hfind) nofun
  exact ⟨q, hnone, hfind, hmade.trans (he.touches t w q [] hfind')⟩

/-- A run that has found no clip fails and spares all files, or has one clip cut. -/
theorem Produced.spared_or_cut (he : e.Honest) {result : Except MediaFault String}
    (h : Produced e p source window w result w') :
    (∃ f, result = .error f ∧ Spared w.disk w'.disk) ∨
      result = .ok p.target ∧ ∃ fps working bs, CutOnce e p source window fps working bs w w' := by
  have hprobed : ∀ {d₁ fps w₁}, (e.frameRate source).run { w with disk := d₁ } = (fps, w₁) →
      w₁.disk = d₁ := fun {d₁ fps w₁} hprobe => by
    simpa [hprobe] using he.probes source { w with disk := d₁ }
  cases h with
  | unmade => exact .inl ⟨_, rfl, .refl _⟩
  | unopened hmake hprobe =>
    obtain rfl := hprobed hprobe
    exact .inl ⟨_, rfl, (grown_makeDirAll hmake).spared⟩
  | @failed d₁ d₂ fps w₁ w₂ drawn working result f hmake hprobe hcreate hencode =>
    obtain rfl := hprobed hprobe
    obtain ⟨q, hnone, hfind, hchanges⟩ := changesAt_of_honest he
      ⟨source, working, window, fps.getD FrameRate.fallback⟩ { w₁ with disk := d₂, drawn } hcreate
    rw [hencode] at hchanges
    have hfind₂ := hchanges.sameWays.find hfind
    have hclosed₂ : Closed (w₂.disk.get? q) := hchanges.closed (by rw [hnone]; trivial)
    have hspared := (hchanges.trans (changesAt_discard hfind₂ hclosed₂)).spared hnone
    exact .inl ⟨f, rfl, (grown_makeDirAll hmake).spared.trans hspared⟩
  | @cut d₁ d₂ d₃ fps w₁ w₂ drawn working hmake hprobe hcreate hencode hrename =>
    obtain rfl := hprobed hprobe
    obtain ⟨q, bs, hbs⟩ := isFile_iff.1 (he.writes _ _ w₂ hencode)
    exact .inr ⟨rfl, fps, working, bs, w₁.disk, d₂, drawn, w₁, w₂, hmake, hprobe, hcreate, hencode,
      content_eq_ok_iff.2 ⟨q, hbs⟩, hrename, rfl⟩

/-- A clip that is there is found. Nothing is asked of the encoder. -/
theorem run_of_isFile (e : Encoder) (hc : w.disk.canonical source = .ok c)
    (hfile : w.disk.isFile (planOf dir c window).target = true) :
    (run dir e source window).run w = (.ok (planOf dir c window).target, w) := by
  unfold run
  rw [Action.run_bind, Action.run_get, hc]
  simp only [Action.run_bind, act_run, step, hfile, if_true]
  rfl

/-- A run that has found no clip is that of its second part. -/
theorem run_of_not_isFile (e : Encoder) (hc : w.disk.canonical source = .ok c)
    (hfile : w.disk.isFile (planOf dir c window).target = false) {result : Except MediaFault String}
    (h : (produce e (planOf dir c window) c window).run w = (.done result, w')) :
    (run dir e source window).run w = (result, w') := by
  unfold run
  rw [Action.run_bind, Action.run_get, hc]
  simp only [Action.run_bind, act_run, step, hfile, Bool.false_eq_true, if_false]
  rw [h]
  rfl

/-- Every run goes in one of these ways. -/
theorem ran_run (e : Encoder) (dir source : String) (window : TrimWindow) (w : World) :
    Ran e dir source window w ((run dir e source window).run w).1
      ((run dir e source window).run w).2 := by
  cases hc : w.disk.canonical source with
  | error fault =>
    unfold run
    rw [Action.run_bind, Action.run_get, hc]
    cases fault with
    | notFound => exact .lost hc (.inl rfl)
    | _ => exact .lost hc (.inr ⟨_, rfl⟩)
  | ok c =>
    cases hfile : w.disk.isFile (planOf dir c window).target with
    | true =>
      rw [run_of_isFile e hc hfile]
      exact .found hc rfl hfile
    | false =>
      obtain ⟨result, w', hrun, hproduced⟩ := produced_produce e (planOf dir c window) c window w
      rw [run_of_not_isFile e hc hfile hrun]
      exact .produced hc rfl hfile hproduced

theorem Ran.of_run {result : Except MediaFault String}
    (h : (run dir e source window).run w = (result, w')) : Ran e dir source window w result w' := by
  have hran := ran_run e dir source window w
  rwa [h] at hran

/-- The clip that a trim hands over is the one at its path in the cache. -/
theorem path_of_run_ok (h : ((run dir e source window).run w).1 = .ok path) :
    ∃ c, w.disk.canonical source = .ok c ∧ path = (planOf dir c window).target := by
  rcases hrun : (run dir e source window).run w with ⟨result, w'⟩
  rw [hrun] at h
  subst h
  cases Ran.of_run hrun with
  | found hc hplan => exact ⟨_, hc, congrArg TrimPlan.target hplan⟩
  | produced hc hplan _ hproduced =>
    cases hproduced with
    | cut => exact ⟨_, hc, congrArg TrimPlan.target hplan⟩

/-- A run fails and spares all files, finds its clip and changes nothing, or has one clip cut. -/
theorem run_cases (he : e.Honest) (dir source : String) (window : TrimWindow) (w : World) :
    (∃ f w', (run dir e source window).run w = (.error f, w') ∧ Spared w.disk w'.disk) ∨
      ∃ c, w.disk.canonical source = .ok c ∧
        ((w.disk.isFile (planOf dir c window).target = true ∧
            (run dir e source window).run w = (.ok (planOf dir c window).target, w)) ∨
          (w.disk.isFile (planOf dir c window).target = false ∧ ∃ fps working bs w',
            (run dir e source window).run w = (.ok (planOf dir c window).target, w') ∧
              CutOnce e (planOf dir c window) c window fps working bs w w')) := by
  rcases hrun : (run dir e source window).run w with ⟨result, w'⟩
  cases Ran.of_run hrun with
  | lost => exact .inl ⟨_, _, rfl, .refl _⟩
  | found hc hplan hfile =>
    subst hplan
    exact .inr ⟨_, hc, .inl ⟨hfile, rfl⟩⟩
  | produced hc hplan hfile hproduced =>
    subst hplan
    rcases hproduced.spared_or_cut he with ⟨f, rfl, hspared⟩ | ⟨rfl, fps, working, bs, hcut⟩
    · exact .inl ⟨f, w', rfl, hspared⟩
    · exact .inr ⟨_, hc, .inr ⟨hfile, fps, working, bs, w', rfl, hcut⟩⟩

/-! ## What a cut changes -/

/-- The encoder has been called twice. -/
theorem CutOnce.calls_eq {calls : World → List EncoderCall} (hcalls : e.Records calls)
    {fps : Option Double} (h : CutOnce e p source window fps working bs w w') :
    calls w' = calls w ++ [.frameRate source,
      .encode (ClipTask.command ⟨source, working, window, fps.getD FrameRate.fallback⟩).args] := by
  obtain ⟨d₁, d₂, drawn, w₁, w₂, -, hprobe, -, hencode, -, -, hw'⟩ := h
  have happart : ∀ (v : World) (disk : Disk), calls { v with disk } = calls v :=
    fun v disk => hcalls.apart v disk v.drawn
  have h₁ : calls w₁ = calls w ++ [.frameRate source] := by
    have h := hcalls.probed source { w with disk := d₁ }
    rwa [hprobe, happart w d₁] at h
  have h₂ := hcalls.encoded ⟨source, working, window, fps.getD FrameRate.fallback⟩
    { w₁ with disk := d₂, drawn }
  rw [hencode, hcalls.apart w₁ d₂ drawn, h₁] at h₂
  rw [hw', happart w₂ w'.disk, h₂, List.append_assoc]
  rfl

/-- The clip takes the place of its path on the disk with the directory made, where no directory
stood. -/
theorem CutOnce.replaced (he : e.Honest) {fps : Option Double}
    (h : CutOnce e p source window fps working bs w w') :
    ∃ d₁ q, w.disk.makeDirAll p.dir = .ok d₁ ∧ d₁.find false p.target = .ok (q, d₁.get? q) ∧
      d₁.get? q ≠ some .dir ∧ Replaced d₁ w'.disk q bs := by
  obtain ⟨d₁, d₂, drawn, w₁, w₂, hmake, hprobe, hcreate, hencode, hbs, hrename, -⟩ := h
  obtain rfl : w₁.disk = d₁ := by simpa [hprobe] using he.probes source { w with disk := d₁ }
  obtain ⟨o, hnone, hfind, hchanges⟩ := changesAt_of_honest he
    ⟨source, working, window, fps.getD FrameRate.fallback⟩ { w₁ with disk := d₂, drawn } hcreate
  rw [hencode] at hchanges
  obtain ⟨q, hreplaced⟩ := hchanges.replaced hnone (hchanges.sameWays.find hfind) hbs hrename
  exact ⟨w₁.disk, q, hmake, hreplaced⟩

/-- When the directory of the cache is there, no link to a directory stands at the path. -/
def PathClear (dir path : String) (d : Disk) : Prop :=
  ∀ d', d.makeDirAll dir = .ok d' → ¬ d'.IsDirLink path

/-- The clip is a file then, and so is all that was one. -/
theorem CutOnce.isFile (he : e.Honest) {fps : Option Double}
    (h : CutOnce e p source window fps working bs w w')
    (hclear : PathClear p.dir p.target w.disk) :
    w'.disk.isFile p.target = true ∧
      ∀ path, w.disk.isFile path = true → w'.disk.isFile path = true := by
  obtain ⟨d₁, q, hmake, hfind, hdir, hrep⟩ := h.replaced he
  have hlink := hclear d₁ hmake
  exact ⟨isFile_iff.2 ⟨q, bs, hrep.find hfind hdir hlink⟩, fun path hpath =>
    hrep.isFile hfind hdir hlink ((grown_makeDirAll hmake).spared.isFile hpath)⟩

/-! ## What happens in a cache -/

/-- What happens while a file is kept: runs in the cache whose own paths are clear, and all that
leaves a file at the path. -/
inductive Step (dir path : String) : World → World → Prop
  | run {e : Encoder} {source : String} {window : TrimWindow} {w : World} :
    e.Honest → (∀ c, w.disk.canonical source = .ok c →
      PathClear dir (planOf dir c window).target w.disk) →
    Step dir path w ((Trim.run dir e source window).run w).2
  | other {w w' : World} : w'.disk.isFile path = true → Step dir path w w'

theorem Step.isFile (h : Step dir path w w') (hfile : w.disk.isFile path = true) :
    w'.disk.isFile path = true := by
  cases h with
  | other h => exact h
  | @run e source window w he hclear =>
    rcases run_cases he dir source window w with
      ⟨f, w', hrun, hspared⟩ | ⟨c, hc, ⟨-, hrun⟩ | ⟨-, fps, working, bs, w', hrun, hcut⟩⟩
    · rw [hrun]
      exact hspared.isFile hfile
    · rwa [hrun]
    · rw [hrun]
      exact (hcut.isFile he (hclear c hc)).2 path hfile

theorem isFile_of_steps (h : Relation.ReflTransGen (Step dir path) w w')
    (hfile : w.disk.isFile path = true) : w'.disk.isFile path = true := by
  induction h with
  | refl => exact hfile
  | tail _ hstep ih => exact hstep.isFile ih

/-! ## One clip for a source and a window -/

/-- A run that returns a path has found its clip and changed nothing, or it has had the encoder probe
the source and cut one clip, at the rate found or the usual one; at the place of the path then stands
what the encoder has written, and besides only directories are new. Unless it has replaced a link to
a directory, the clip is what the path leads to, and while the file is kept every run for the same
canonical source and window returns this path, whatever its encoder does, and changes nothing. -/
theorem cuts_once (he : e.Honest) (h : (run dir e source window).run w = (.ok path, w')) :
    ∃ c, w.disk.canonical source = .ok c ∧ path = (planOf dir c window).target ∧
      (w.disk.isFile path = true → w' = w) ∧
      (w.disk.isFile path = false → ∃ fps working bs d₁ q,
        CutOnce e (planOf dir c window) c window fps working bs w w' ∧
        (∀ calls, e.Records calls → calls w' = calls w ++ [.frameRate c,
          .encode (ClipTask.command ⟨c, working, window, fps.getD 30⟩).args]) ∧
        w.disk.makeDirAll dir = .ok d₁ ∧ d₁.find false path = .ok (q, d₁.get? q) ∧
        w'.disk.get? q = some (.file bs) ∧
        (∀ r ≠ q, w'.disk.get? r = w.disk.get? r ∨
          (w.disk.get? r = none ∧ w'.disk.get? r = some .dir)) ∧
        (PathClear dir path w.disk → w'.disk.content path = .ok bs)) ∧
      (PathClear dir path w.disk → ∀ w₁, Relation.ReflTransGen (Step dir path) w' w₁ →
        ∀ (e' : Encoder) source', w₁.disk.canonical source' = .ok c →
          (run dir e' source' window).run w₁ = (.ok path, w₁)) := by
  have hlater : ∀ c, path = (planOf dir c window).target → w'.disk.isFile path = true →
      ∀ w₁, Relation.ReflTransGen (Step dir path) w' w₁ →
        ∀ (e' : Encoder) source', w₁.disk.canonical source' = .ok c →
          (run dir e' source' window).run w₁ = (.ok path, w₁) := by
    intro c hpath hfile w₁ hsteps e' source' hc
    have hkept := isFile_of_steps hsteps hfile
    rw [hpath] at hkept ⊢
    exact run_of_isFile e' hc hkept
  rcases run_cases he dir source window w with
    ⟨f, w₁, hrun, -⟩ | ⟨c, hc, ⟨hfile, hrun⟩ | ⟨hfile, fps, working, bs, w₁, hrun, hcut⟩⟩
  · cases (Prod.mk.inj (h.symm.trans hrun)).1
  · obtain ⟨hok, rfl⟩ := Prod.mk.inj (h.symm.trans hrun)
    have hpath := Except.ok.inj hok
    rw [← hpath] at hfile
    refine ⟨c, hc, hpath, fun _ => rfl, fun hmiss => ?_, fun _ => hlater c hpath hfile⟩
    rw [hfile] at hmiss
    cases hmiss
  · obtain ⟨hok, rfl⟩ := Prod.mk.inj (h.symm.trans hrun)
    have hpath := Except.ok.inj hok
    have hkept := fun hclear => (hcut.isFile he hclear).1
    obtain ⟨d₁, q, hmake, hfind, hdir, hrep⟩ := hcut.replaced he
    rw [← hpath] at hfile hfind hkept
    refine ⟨c, hc, hpath, fun hhit => ?_, fun _ => ?_, fun hclear => hlater c hpath (hkept hclear)⟩
    · rw [hfile] at hhit
      cases hhit
    · refine ⟨fps, working, bs, d₁, q, hcut, fun calls hcalls => hcut.calls_eq hcalls, hmake, hfind,
        by rw [hrep, if_pos rfl], fun r hr => ?_, fun hclear =>
          content_eq_ok_iff.2 ⟨q, hrep.find hfind hdir (hclear d₁ hmake)⟩⟩
      rw [hrep, if_neg hr]
      exact grown_makeDirAll hmake r

/-! ## A sample -/

def sampleWindow : TrimWindow := ⟨0, 1⟩

def sampleEncoder : Encoder := .rehearsal (some 25) none

/-- A source, a link to it, and the directory of the cache. -/
def sampleDisk : Disk :=
  ⟨[(["a.mp4"], .file [97]), (["b.mp4"], .link "a.mp4"), (["cache"], .dir)]⟩

def clipOfA : String := "cache/a_b6669ba0_0.00_1.00.mp4"

/-- A world with these files and nothing else. -/
def worldOf (d : Disk) : World := ⟨d, .silent, .empty, [], 0, 0, []⟩

/-- The run of the sample window for a source. -/
def sampleRun (source : String) : Action (Except MediaFault String) :=
  run "cache" sampleEncoder source sampleWindow

theorem pathClear_sample : PathClear "cache" clipOfA sampleDisk := by
  intro d' hmake hlink
  obtain ⟨⟨q, target, hfind⟩, -⟩ := hlink
  have hfree : (sampleDisk.makeDirAll "cache").bind (·.find false clipOfA) =
      .ok (["cache", "a_b6669ba0_0.00_1.00.mp4"], none) := by
    decide +kernel
  rw [hmake] at hfree
  cases hfree.symm.trans hfind

theorem sampleRun_run : (sampleRun "a.mp4").run (worldOf sampleDisk) =
    (.ok clipOfA, ((sampleRun "a.mp4").run (worldOf sampleDisk)).2) :=
  Action.run_of_fst (by decide +kernel)

theorem canonical_sampleDisk : sampleDisk.canonical "a.mp4" = .ok "/a.mp4" := by
  decide +kernel

theorem cuts_once_sample :
    ∃ args w', (sampleRun "a.mp4").run (worldOf sampleDisk) = (.ok clipOfA, w') ∧
      w'.rehearsed = [.frameRate "/a.mp4", .encode args] ∧
      ∀ e', (run "cache" e' "b.mp4" sampleWindow).run w' = (.ok clipOfA, w') := by
  obtain ⟨c, hc, -, -, hcut, hkept⟩ := cuts_once (Encoder.honest_rehearsal _ _) sampleRun_run
  obtain rfl : "/a.mp4" = c := Except.ok.inj (canonical_sampleDisk.symm.trans hc)
  obtain ⟨fps, working, bs, d₁, q, -, hcalls, -⟩ := hcut (by decide +kernel)
  exact ⟨_, _, sampleRun_run, hcalls _ (Encoder.records_rehearsal _ _), fun e' =>
    hkept pathClear_sample _ .refl e' "b.mp4" (by decide +kernel)⟩

/-- Two sources, and a clip of each as a link: that of the first leads through that of the second,
which is a link to a directory. -/
def linkedDisk : Disk :=
  ⟨[(["a.mp4"], .file [97]), (["b.mp4"], .file [98]), (["d"], .dir), (["d", "x"], .file [120]),
    (["cache"], .dir),
    (["cache", "a_b6669ba0_0.00_1.00.mp4"], .link "b_cfbc87a0_0.00_1.00.mp4/x"),
    (["cache", "b_cfbc87a0_0.00_1.00.mp4"], .link "../d")]⟩

/-- The first source has its clip, and nobody removes the file behind it. When the second source has
been cut, a clip of the first one is cut again. -/
theorem cut_again_behind_link :
    ((sampleRun "a.mp4").run (worldOf linkedDisk)).1 = .ok clipOfA ∧
      ((sampleRun "a.mp4").run (worldOf linkedDisk)).2.rehearsed = [] ∧
      (((sampleRun "a.mp4") >>= fun _ => sampleRun "b.mp4").run
        (worldOf linkedDisk)).2.disk.content "d/x" = .ok [120] ∧
      ((((sampleRun "a.mp4") >>= fun _ => sampleRun "b.mp4") >>= fun _ => sampleRun "a.mp4").run
        (worldOf linkedDisk)).2.rehearsed.filter (· = .frameRate "/a.mp4") =
          [.frameRate "/a.mp4"] := by
  decide +kernel

end Trim

end ClipRelay
