import ClipRelay.Artifact.Download

/-!
# Downloads as runs of steps

* `Download.run_eq`: a download from its start to its end is a run of steps, first on the disk alone
  and then, if the artifact is missing, on what the worker answers.
* `Download.run_error`: whatever goes wrong in a download, its failure is that of a download. One
  step keeps this (`Download.step_fault`), and so does a run of steps.
-/

namespace ClipRelay.Download

/-- If the download has failed, it has failed as a download. -/
def FaultIsOwn : Download → Prop
  | .done (.error f) => ∃ reason, f = .download reason
  | _ => True

theorem faultIsOwn_failed (reason : String) : FaultIsOwn (failed reason) := ⟨reason, rfl⟩

theorem faultIsOwn_writeFault (e : IoFault) : FaultIsOwn (writeFault e) := ⟨_, rfl⟩

theorem faultIsOwn_found (d : Disk) (path : String) (size : Nat) :
    FaultIsOwn (found d path size) := by
  unfold found
  split
  · trivial
  · exact faultIsOwn_failed _

/-- One step of a download. -/
theorem step_fault (p : DownloadPlan) {s : Download} (h : FaultIsOwn s) (e : DownloadEvent)
    (d : Disk) : FaultIsOwn (step p s e d).1 := by
  unfold step
  split
  · split
    · exact faultIsOwn_failed _
    · split
      · exact faultIsOwn_found _ _ _
      · trivial
  · exact faultIsOwn_failed _
  · split
    · exact faultIsOwn_failed _
    · split
      · exact faultIsOwn_failed _
      · split
        · trivial
        · exact faultIsOwn_writeFault _
  · trivial
  · exact faultIsOwn_failed _
  · split
    · exact faultIsOwn_failed _
    · split
      · exact faultIsOwn_found _ _ _
      · exact faultIsOwn_writeFault _
  · exact h

theorem steps_fault (p : DownloadPlan) {s : Download} (h : FaultIsOwn s)
    (events : List DownloadEvent) (d : Disk) : FaultIsOwn (steps p s events d).1 := by
  induction events generalizing s d with
  | nil => exact h
  | cons e events ih => exact ih (step_fault p h e d) (step p s e d).2

/-! ## Runs -/

/-- The files of a download that starts in a world. -/
def planIn (settings : WorkerSettings) (artifact : ArtifactRef) (job hint : Option String)
    (w : World) : DownloadPlan :=
  planOf settings.outputDir
    (artifactName settings.outputPrefix hint artifact.filename job (World.tokenOf w.drawn))
    (World.tokenOf (w.drawn + 1))

/-- What a download has come to when nothing more happens to it. -/
def resultOf : Download → Except WorkerFault Artifact
  | .done result => result
  | _ => .error (.download HttpFault.broken.message)

theorem resultOf_error {s : Download} (h : FaultIsOwn s) {f : WorkerFault}
    (hs : resultOf s = .error f) : ∃ reason, f = .download reason := by
  unfold resultOf at hs
  split at hs
  · rw [hs] at h
    exact h
  · cases hs
    exact ⟨_, rfl⟩

theorem run_eq (settings : WorkerSettings) (e : Endpoint) (artifact : ArtifactRef)
    (job hint : Option String) (w : World) :
    (run settings e artifact job hint).run w =
      let p := planIn settings artifact job hint w
      let looked := steps p .looking [.go] w.disk
      let w₁ := { w with disk := looked.2, drawn := w.drawn + 2 }
      match looked.1 with
      | .missing =>
        let asked := (request settings e artifact.downloadUrl).run w₁
        let last := steps p .missing asked.1 asked.2.disk
        (resultOf last.1, { asked.2 with disk := last.2 })
      | s => (resultOf s, w₁) := by
  have hres : ∀ (s : Download) (v : World), StateT.run (m := Id)
      (match s with
        | .done result => pure result
        | _ => pure (.error (.download HttpFault.broken.message))) v = (resultOf s, v) := by
    intro s v
    cases s <;> rfl
  unfold run planIn
  simp only [StateT.run_bind, World.draw, act, StateT.run_modifyGet, pure_bind]
  generalize planOf settings.outputDir _ _ = p
  obtain ⟨s, d⟩ := steps p .looking [.go] w.disk
  cases s with
  | missing =>
    simp only [StateT.run_bind, StateT.run_modifyGet, pure_bind]
    exact hres _ _
  | looking => rfl
  | receiving file written => rfl
  | done result => rfl

/-- A download fails as a download. -/
theorem run_error {settings : WorkerSettings} {e : Endpoint} {artifact : ArtifactRef}
    {job hint : Option String} {w w' : World} {f : WorkerFault}
    (h : (run settings e artifact job hint).run w = (.error f, w')) :
    ∃ reason, f = .download reason := by
  rw [run_eq] at h
  have hstart : FaultIsOwn .looking := trivial
  have hmissing : FaultIsOwn .missing := trivial
  simp only at h
  split at h
  · exact resultOf_error (steps_fault _ hmissing _ _) (congrArg Prod.fst h)
  · exact resultOf_error (steps_fault _ hstart _ _) (congrArg Prod.fst h)

end ClipRelay.Download
