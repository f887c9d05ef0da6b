import ClipRelay.Proofs.Clip.Cache
import ClipRelay.Proofs.Disk.Standing

/-!
# Trims that fail

A trim that fails removes what its encoder has written, so the disk is the one before it, or the one
before it with the directory of the cache made (`Trim.disk_of_run_error`). What an encoder is relied on
for here is that it writes its output alone (`Encoder.Contained`).

* `Encoder.contained_tools`, `Encoder.contained_rehearsal`: the tools do so unless the prober writes
  files, and so does a rehearsal.
* `Trim.run_with_dir`, `Trim.runs_with_dir`: a trim that finds its source and its clip as without the
  directory comes to the same as without it, and so do trims one after another.
* `Trim.failure_leaves_no_trace`: all of it together.
* `Trim.failure_opens_path`: a path that leads through the directory is there when a trim has failed,
  and was not there before.
-/

namespace ClipRelay

open Disk

/-! ## What an encoder writes -/

/-- A file that stood at a place may be gone or hold something else; nothing else has changed. -/
inductive Disk.Rewritten (d : Disk) (q : Place) : Disk → Prop
  | kept : Rewritten d q d
  | gone : Rewritten d q (d.erase q)
  | holds (bs : Text.Bytes) : Rewritten d q (d.put q (.file bs))

/-- In the worlds with this prober the encoder writes no file but its output. -/
structure Encoder.Contained (e : Encoder) (prober : Option Tool) : Prop where
  probes : ∀ source w, w.tools.prober = prober → ((e.frameRate source).run w).2.disk = w.disk
  writes : ∀ (t : ClipTask) (w : World) q bs, w.disk.find true t.output = .ok (q, some (.file bs)) →
    w.disk.Rewritten q ((e.encode t).run w).2.disk

namespace Disk

variable {d d' : Disk} {q : Place} {path : String} {bs : Text.Bytes}

theorem rewritten_write {old : Text.Bytes} (h : d.write path bs = .ok d')
    (hfind : d.find true path = .ok (q, some (.file old))) : d.Rewritten q d' := by
  obtain ⟨q', hfind', -, rfl⟩ := write_eq_ok h
  obtain ⟨rfl, -⟩ : q = q' ∧ _ := by simpa [hfind] using hfind'
  exact .holds bs

/-- A file that is put where nothing was found is found there. -/
theorem find_put_of_none (hfind : d.find false path = .ok (q, none)) (bs : Text.Bytes) :
    (d.put q (.file bs)).find false path = .ok (q, some (.file bs)) := by
  have hnone := get?_of_find hfind
  exact find_put_file (hnone ▸ hfind) (by rw [hnone]; trivial) bs

/-- A file that is made, rewritten and removed leaves the disk as it was. -/
theorem discard_of_rewritten (hfind : d.find false path = .ok (q, none))
    (h : (d.put q (.file [])).Rewritten q d') : d'.discard path = d := by
  have hnone := get?_of_find hfind
  have hq : q ≠ [] := ne_nil_of_closed (d := d) (by rw [hnone]; trivial)
  have hput : ∀ bs, (d.put q (.file bs)).discard path = d := by
    intro bs
    rw [discard, remove, find_put_of_none hfind]
    exact erase_put.trans (erase_of_none hq hnone)
  cases h with
  | kept => exact hput []
  | gone =>
    rw [erase_put, erase_of_none hq hnone, discard, remove, hfind]
    rfl
  | holds bs => rw [put_put]; exact hput bs

end Disk

namespace Encoder

theorem contained_rehearsal (fps : Option Double) (failure : Option String) (prober : Option Tool) :
    (rehearsal fps failure).Contained prober where
  probes _ _ _ := rfl
  writes t w q bs hfind := by
    obtain ⟨disk, h, hwrite⟩ | ⟨f, h, -⟩ := encode_rehearsal fps failure t w <;> rw [h]
    · exact rewritten_write hwrite hfind
    · exact .kept

/-- A tool writes to the path in its last argument. -/
theorem rewritten_tool (name : String) (tool : Tool) {args : List String} {path : String}
    (hlast : args.getLast? = some path) (w : World) {q : Place} {bs : Text.Bytes}
    (hfind : w.disk.find true path = .ok (q, some (.file bs))) :
    w.disk.Rewritten q ((Toolbox.run name tool args).run w).2.disk := by
  unfold Toolbox.run
  simp only [hlast, Action.run_bind]
  cases tool.writes with
  | none => exact .kept
  | some written =>
    simp only [StateT.run_modify]
    cases hwrite : w.disk.write path written with
    | ok disk => exact rewritten_write hwrite hfind
    | error f => exact .kept

theorem getLast?_args (t : ClipTask) : t.command.args.getLast? = some t.output := by
  rw [Command.args, List.getLast?_concat]
  rfl

/-- The media tools write no file but the output, when the prober writes none. -/
theorem contained_tools (timeout : Nat) {prober : Option Tool}
    (h : ∀ tool ∈ prober, tool.writes = none) : (tools timeout).Contained prober where
  probes source w hprober := by
    obtain ⟨fps, result, w', hrun, hprobed⟩ := probed_frameRate timeout source w
    rw [hrun]
    cases hprobed with
    | unasked => rfl
    | @asked tool _ htool =>
      rw [Toolbox.run, h tool (hprober ▸ htool)]
      rfl
  writes t w q bs hfind := by
    obtain ⟨result, w', hrun, hencoded⟩ := Toolbox.encoded_encode timeout t.command w
    rw [encode, hrun]
    cases hencoded with
    | missing => exact .kept
    | unfit => exact .kept
    | @done tool _ => exact rewritten_tool Toolbox.encoderName tool (getLast?_args t) w hfind
    | @late tool _ _ => exact rewritten_tool Toolbox.encoderName tool (getLast?_args t) w hfind
    | @failed tool _ _ _ => exact rewritten_tool Toolbox.encoderName tool (getLast?_args t) w hfind

end Encoder

namespace Trim

variable {e : Encoder} {p : TrimPlan} {dir source c path working : String} {window : TrimWindow}
  {w w' : World} {d d₁ : Disk} {f : MediaFault}

/-! ## A trim that fails -/

/-- After a trim that has found no clip and fails the disk is as it was, or as it was but with the
directory made. -/
theorem Produced.disk_of_error (he : e.Contained w.tools.prober)
    (h : Produced e p source window w (.error f) w') :
    w'.disk = w.disk ∨ w.disk.makeDirAll p.dir = .ok w'.disk := by
  have hprobed : ∀ {d₁ fps w₁}, (e.frameRate source).run { w with disk := d₁ } = (fps, w₁) →
      w₁.disk = d₁ := fun {d₁ fps w₁} hprobe => by
    simpa [hprobe] using he.probes source { w with disk := d₁ } rfl
  cases h with
  | unmade => exact .inl rfl
  | unopened hmake hprobe =>
    obtain rfl := hprobed hprobe
    exact .inr hmake
  | @failed d₁ d₂ fps w₁ w₂ drawn working result _ hmake hprobe hcreate hencode =>
    obtain rfl := hprobed hprobe
    obtain ⟨q, hfind, rfl⟩ := create_eq_ok hcreate
    have hopened := find_followed (find_put_of_none hfind []) (by simp)
    have hwritten := he.writes ⟨source, working, window, fps.getD FrameRate.fallback⟩
      { w₁ with disk := w₁.disk.put q (.file []), drawn } q [] hopened
    rw [hencode] at hwritten
    have hgone : w₂.disk.discard working = w₁.disk := discard_of_rewritten hfind hwritten
    exact .inr (hmake.trans (congrArg Except.ok hgone.symm))

/-- After a trim that fails the disk is as it was, or as it was but with the directory made. -/
theorem disk_of_run_error (he : e.Contained w.tools.prober)
    (h : (run dir e source window).run w = (.error f, w')) :
    w'.disk = w.disk ∨ w.disk.makeDirAll dir = .ok w'.disk := by
  cases Ran.of_run h with
  | lost => exact .inl rfl
  | produced _ hplan _ hproduced =>
    subst hplan
    exact hproduced.disk_of_error he

/-! ## A trim after it -/

/-- A trim that has found no clip makes the directory first, so it does not matter whether that was
there. -/
theorem produce_with_dir (e : Encoder) (p : TrimPlan) (source : String) (window : TrimWindow)
    (hmade : d.makeDirAll p.dir = .ok w.disk) (hagain : w.disk.makeDirAll p.dir = .ok w.disk) :
    (produce e p source window).run { w with disk := d } = (produce e p source window).run w := by
  unfold produce
  simp only [Action.run_bind, act_run, step, hmade, hagain]

/-- Two worlds are the same, or one has the directory and the other one has not. -/
def SameButDir (w : World) (d : Disk) (u v : World) : Prop :=
  u = v ∨ (u = w ∧ v = { w with disk := d })

/-- A trim that finds its source and its clip, or does not find them, as without the directory comes to
the same as without it. -/
theorem run_with_dir (e : Encoder) (hmade : d.makeDirAll dir = .ok w.disk)
    (hsource : w.disk.canonical source = d.canonical source)
    (hclip : ∀ c, d.canonical source = .ok c →
      w.disk.isFile (planOf dir c window).target = d.isFile (planOf dir c window).target) :
    let v : World := { w with disk := d }
    ((run dir e source window).run w).1 = ((run dir e source window).run v).1 ∧
      SameButDir w d ((run dir e source window).run w).2 ((run dir e source window).run v).2 := by
  intro v
  have hagain : w.disk.makeDirAll dir = .ok w.disk := by
    obtain ⟨k, o, hat⟩ := dirAt_makeDirAll hmade
    exact hat.makeDirAll hmade hat
  cases hc : d.canonical source with
  | error f =>
    unfold run
    simp only [Action.run_bind, Action.run_get, hsource.trans hc, v, hc]
    cases f <;> exact ⟨rfl, .inr ⟨rfl, rfl⟩⟩
  | ok c =>
    have hfile := hclip c hc
    cases hfound : d.isFile (planOf dir c window).target with
    | true =>
      rw [run_of_isFile e (hsource.trans hc) (hfile.trans hfound),
        run_of_isFile (w := v) e hc hfound]
      exact ⟨rfl, .inr ⟨rfl, rfl⟩⟩
    | false =>
      have hsame : (run dir e source window).run v = (run dir e source window).run w := by
        have hproduced := produce_with_dir (w := w) e (planOf dir c window) c window hmade hagain
        unfold run
        simp only [Action.run_bind, Action.run_get, hsource.trans hc, hc, v, act_run, step,
          hfile.trans hfound, hfound, Bool.false_eq_true, if_false]
        rw [hproduced]
      rw [hsame]
      exact ⟨rfl, .inl rfl⟩

/-! ## Trims one after another -/

/-- A trim that is asked for. -/
structure Call where
  encoder : Encoder
  source : String
  window : TrimWindow

/-- Runs trims one after another. -/
def runs (dir : String) : List Call → Action (List (Except MediaFault String))
  | [] => return []
  | c :: calls => do
    let result ← run dir c.encoder c.source c.window
    return result :: (← runs dir calls)

theorem runs_cons (dir : String) (c : Call) (calls : List Call) (v : World) :
    (runs dir (c :: calls)).run v =
      let first := (run dir c.encoder c.source c.window).run v
      let rest := (runs dir calls).run first.2
      (first.1 :: rest.1, rest.2) := rfl

/-- The source and the clip of a trim are found, or not, on one disk as on the other. -/
def Call.SeesAlike (c : Call) (dir : String) (d d' : Disk) : Prop :=
  d'.canonical c.source = d.canonical c.source ∧ ∀ path, d.canonical c.source = .ok path →
    d'.isFile (planOf dir path c.window).target = d.isFile (planOf dir path c.window).target

/-- Trims come to the same with the directory and without it, while each of them finds its source and
its clip, or does not find them, alike. -/
theorem runs_with_dir (hmade : d.makeDirAll dir = .ok w.disk) (calls : List Call) {u v : World}
    (h : SameButDir w d u v) (halike : ∀ before c, before ++ [c] <+: calls →
      c.SeesAlike dir ((runs dir before).run v).2.disk ((runs dir before).run u).2.disk) :
    ((runs dir calls).run u).1 = ((runs dir calls).run v).1 ∧
      SameButDir w d ((runs dir calls).run u).2 ((runs dir calls).run v).2 := by
  induction calls generalizing u v with
  | nil => exact ⟨rfl, h⟩
  | cons c calls ih =>
    rcases h with rfl | ⟨rfl, rfl⟩
    · exact ⟨rfl, .inl rfl⟩
    · obtain ⟨hsource, hclip⟩ := halike [] c ⟨calls, rfl⟩
      obtain ⟨hresult, hworld⟩ := run_with_dir c.encoder hmade hsource hclip
      have hrest := ih hworld fun before c' ⟨after, hbefore⟩ =>
        halike (c :: before) c' ⟨after, by rw [← hbefore]; rfl⟩
      simp only [runs_cons]
      exact ⟨List.cons_eq_cons.2 ⟨hresult, hrest.1⟩, hrest.2⟩

/-! ## No trace of a trim that fails -/

/-- A trim that fails leaves all files as they were, and whatever file a path leads to then has stood
there before; at most the directory of the cache and those above it are new, and nothing is when it was
there. Later trims come to what they would have come to without the trim that failed, while each of them
finds its source and its clip, or does not find them, as it would have then: the results are the same,
and so are the worlds, unless they differ in the new directories alone. -/
theorem failure_leaves_no_trace (he : e.Contained w.tools.prober)
    (h : (run dir e source window).run w = (.error f, w')) :
    let spared : World := { w' with disk := w.disk }
    (∀ r bs, w'.disk.get? r = some (.file bs) ↔ w.disk.get? r = some (.file bs)) ∧
    (∀ path q bs, w'.disk.find true path = .ok (q, some (.file bs)) →
      w.disk.get? q = some (.file bs)) ∧
    (w'.disk = w.disk ∨ w.disk.makeDirAll dir = .ok w'.disk) ∧
    (w.disk.isDir dir = true → w'.disk = w.disk) ∧
    ∀ calls, (∀ before c, before ++ [c] <+: calls → c.SeesAlike dir
        ((runs dir before).run spared).2.disk ((runs dir before).run w').2.disk) →
      ((runs dir calls).run w').1 = ((runs dir calls).run spared).1 ∧
        SameButDir w' w.disk ((runs dir calls).run w').2 ((runs dir calls).run spared).2 := by
  intro spared
  have hdisk := disk_of_run_error he h
  have hgrown : Grown w.disk w'.disk := by
    rcases hdisk with hsame | hmade
    · exact hsame ▸ .refl _
    · exact grown_makeDirAll hmade
  have hfiles : ∀ r bs, w'.disk.get? r = some (.file bs) → w.disk.get? r = some (.file bs) := by
    intro r bs hr
    rcases hgrown r with heq | ⟨-, hdir⟩
    · rwa [← heq]
    · cases hdir.symm.trans hr
  refine ⟨fun r bs => ⟨hfiles r bs, hgrown.get?_of_some⟩,
    fun path q bs hfind => hfiles q bs (get?_of_find hfind), hdisk, fun hdir => ?_,
    fun calls halike => ?_⟩
  · rcases hdisk with hsame | hmade
    · exact hsame
    · exact Except.ok.inj (hmade.symm.trans (makeDirAll_of_isDir hmade hdir))
  · rcases hdisk with hsame | hmade
    · have hspared : spared = w' := by
        simp only [spared, ← hsame]
      rw [hspared]
      exact ⟨rfl, .inl rfl⟩
    · exact runs_with_dir hmade calls (.inr ⟨rfl, rfl⟩) halike

/-- A source, and no directory for clips of it. -/
def bareDisk : Disk := ⟨[(["a.mp4"], .file [97])]⟩

/-- An encoder that writes some of its output and never ends. -/
def hangingTools : Toolbox := ⟨some ⟨[], [], .never, some [1, 2]⟩, none, []⟩

theorem failure_leaves_no_trace_sample :
    let w : World := { worldOf bareDisk with tools := hangingTools }
    ∃ w', (run "cache" (.tools 1000) "a.mp4" sampleWindow).run w = (.error (.timeout 1), w') ∧
      w'.disk.isDir "cache" = true ∧
      (∀ r bs, w'.disk.get? r = some (.file bs) ↔ w.disk.get? r = some (.file bs)) ∧
      ((runs "cache" [⟨sampleEncoder, "a.mp4", sampleWindow⟩]).run w').1 =
        ((runs "cache" [⟨sampleEncoder, "a.mp4", sampleWindow⟩]).run { w' with disk := w.disk }).1 := by
  intro w
  -- The disk after the trim is the one before it with the directory on it.
  have hfailed : (((run "cache" (.tools 1000) "a.mp4" sampleWindow).run w).1,
      ((run "cache" (.tools 1000) "a.mp4" sampleWindow).run w).2.disk.entries) =
        (.error (.timeout 1), (["cache"], .dir) :: bareDisk.entries) := by decide +kernel
  generalize hran : (run "cache" (.tools 1000) "a.mp4" sampleWindow).run w = ran at hfailed
  obtain ⟨result, w'⟩ := ran
  obtain ⟨rfl, hentries⟩ := Prod.mk.inj hfailed
  have hdisk : w'.disk = ⟨(["cache"], .dir) :: bareDisk.entries⟩ := congrArg Disk.mk hentries
  obtain ⟨hfiles, -, -, -, hlater⟩ :=
    failure_leaves_no_trace (w := w) (Encoder.contained_tools 1000 nofun) hran
  have hsource : w.disk.canonical "a.mp4" = .ok "/a.mp4" := by decide
  refine ⟨w', rfl, ?_, hfiles, (hlater _ fun before c hbefore => ?_).1⟩
  · rw [hdisk]
    decide
  · -- There is one call, with none before it.
    obtain ⟨rfl, rfl⟩ : before = [] ∧ c = ⟨sampleEncoder, "a.mp4", sampleWindow⟩ := by
      rcases before with _ | ⟨first, before⟩
      · exact ⟨rfl, (List.cons_prefix_cons.1 hbefore).1⟩
      · simp at hbefore
    refine ⟨?_, fun path hpath => ?_⟩
    · show w'.disk.canonical "a.mp4" = w.disk.canonical "a.mp4"
      rw [hdisk]
      decide
    · obtain rfl := Except.ok.inj (hsource.symm.trans hpath)
      show w'.disk.isFile (planOf "cache" "/a.mp4" sampleWindow).target =
        w.disk.isFile (planOf "cache" "/a.mp4" sampleWindow).target
      rw [hdisk]
      decide +kernel

/-- When the source has gone through the directory of the cache, a trim that fails makes the way. -/
theorem failure_opens_path :
    let w := worldOf bareDisk
    let failed := (run "cache" (.rehearsal (some 25) (some "")) "a.mp4" sampleWindow).run w
    failed.1.isOk = false ∧
      ((sampleRun "cache/../a.mp4").run w).1 = .error (.fileNotFound "cache/../a.mp4") ∧
      ((sampleRun "cache/../a.mp4").run failed.2).1 = .ok clipOfA := by
  decide +kernel

end Trim

end ClipRelay
