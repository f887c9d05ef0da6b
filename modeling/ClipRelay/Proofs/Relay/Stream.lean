import ClipRelay.Proofs.Artifact.Steps
import ClipRelay.Proofs.Relay.Passage
import ClipRelay.Proofs.Worker.Attempts
import ClipRelay.Relay.Run
import Mathlib.Control.Monad.Basic

/-!
# The events of a stream that the worker has accepted

* `Relay.run_of_connect`: once the worker streams, the events are those that are passed on and what
  the ending adds, and the world is touched only by the download of an artifact.
* `Relay.run_accepted`: the shape of a stream that is relayed in time. What stands behind the events
  that are passed on is one of six things (`Relay.Closing`).
-/

namespace ClipRelay.Relay

open Text

variable (settings : WorkerSettings) (e : Endpoint) (s : Submission)

/-! ## From the reply to the events -/

/-- To connect is an attempt whose reply is read. -/
theorem connect_run (w : World) : (connect settings e s).run w =
    let heard := (Client.attempt (Client.sendOf settings e s "/process-stream" acceptAll w.disk)
      settings.streamTimeout).run w
    (heard.1.bind streamOf, heard.2) := by
  rw [connect, Action.run_bind, Client.send_run]
  generalize (Client.attempt _ settings.streamTimeout).run w = heard
  obtain ⟨f | reply, w'⟩ := heard <;> rfl

/-- The worker streams in a reply of success that is no page. -/
theorem connect_of_send {w w₁ : World} {reply : Reply}
    (sent : (Client.send settings e s "/process-stream" acceptAll settings.streamTimeout).run w =
      (.ok reply, w₁))
    (success : reply.isSuccess = true) (plain : reply.isHtml = false) :
    (connect settings e s).run w = (.ok reply, w₁) := by
  rw [connect, Action.run_bind, sent]
  simp only [streamOf, success, plain, Bool.not_true, Bool.false_eq_true, if_false]
  rfl

/-- The last event of a download, unless the deadline is over. -/
theorem conclude_eq (artifact : ArtifactRef) (job : Option String) (w : World) :
    (conclude settings e s artifact job).run w =
      match (Download.run settings e artifact job s.hint?).run w with
      | (.ok a, w') => (completeEvent a, w')
      | (.error f, w') => (f.event, w') := by
  rw [conclude, Action.run_bind]
  obtain ⟨a | f, w'⟩ := (Download.run settings e artifact job s.hint?).run w <;> rfl

theorem run_of_refusal {w w₁ : World} {f : WorkerFault}
    (h : (connect settings e s).run w = (.error f, w₁)) :
    (run settings e s).run w =
      ([if isLate settings w.clock w₁.clock then lateEvent settings else f.event], w₁) := by
  simp only [run, unlessLate, Action.run_bind, Action.run_get, h]
  rfl

theorem run_of_connect {w w₁ : World} {reply : Reply}
    (h : (connect settings e s).run w = (.ok reply, w₁)) :
    (run settings e s).run w =
      let events := bodyEvents reply.chunks.flatten reply.whole
      match ((firstEnd? events).map Ending.ofEvent).getD (Ending.missing reply.whole) with
      | .finish event =>
        (passed events ++ [if isLate settings w.clock w₁.clock then lateEvent settings else event], w₁)
      | .fetch artifact job =>
        let last := (conclude settings e s artifact job).run w₁
        (passed events ++ [downloadingEvent,
          if isLate settings w.clock last.2.clock then lateEvent settings else last.1], last.2) := by
  simp only [run, unlessLate, Action.run_bind, Action.run_get, h]
  rw [← Passage.ofChunks_endingOf, ← Passage.ofChunks_sent]
  cases (Passage.ofChunks reply.chunks reply.whole).endingOf with
  | finish event => rfl
  | fetch artifact job =>
    simp only [Action.run_bind, Action.run_get]
    generalize (conclude settings e s artifact job).run w₁ = last
    rfl

/-! ## The shape of a stream -/

/-- What stands behind the events that are passed on, and the world after it, when the worker has
accepted the job, its body holds these events and the client has been told everything in time. -/
inductive Closing (events : List Json) (whole : Bool) (w : World) : List Event → World → Prop
  /-- The job is complete, and one download has brought its artifact. -/
  | downloaded {v : Json} {artifact : ArtifactRef} {a : Artifact} {w' : World} :
    firstEnd? events = some v → endOf? v = some .complete → artifactOf? v = some artifact →
    (Download.run settings e artifact (jobOf? v) s.hint?).run w = (.ok a, w') →
    Closing events whole w [downloadingEvent, completeEvent a] w'
  /-- The job is complete, and one download has failed. -/
  | notDownloaded {v : Json} {artifact : ArtifactRef} {reason : String} {w' : World} :
    firstEnd? events = some v → endOf? v = some .complete → artifactOf? v = some artifact →
    (Download.run settings e artifact (jobOf? v) s.hint?).run w =
      (.error (.download reason), w') →
    Closing events whole w
      [downloadingEvent, .error .downloadFailed ("Download failed: " ++ reason) none] w'
  /-- The job is complete and does not say where its artifact is. -/
  | unlocated {v : Json} :
    firstEnd? events = some v → endOf? v = some .complete → artifactOf? v = none →
    Closing events whole w
      [.error .noDownloadUrl "Job complete but no download URL provided" none] w
  /-- The job has failed. -/
  | failed {v : Json} :
    firstEnd? events = some v → endOf? v = some .failed → Closing events whole w [.relay v] w
  /-- The body is over. -/
  | over : firstEnd? events = none → whole = true →
    Closing events whole w [.error .noDownloadUrl "Stream ended without a download URL" none] w
  /-- The body has broken off. -/
  | broken : firstEnd? events = none → whole = false →
    Closing events whole w
      [.error .stream "Stream interrupted: error decoding response body" none] w

/-- The events of a stream that is relayed in time: those before the first end of the job as they
are, in their order, and one closing. Pieces do not matter, only the bytes of the body. -/
theorem run_accepted {w w₁ : World} {reply : Reply}
    (sent : (Client.send settings e s "/process-stream" acceptAll settings.streamTimeout).run w =
      (.ok reply, w₁))
    (success : reply.isSuccess = true) (plain : reply.isHtml = false)
    (inTime : isLate settings w.clock ((run settings e s).run w).2.clock = false) :
    ∃ closing,
      ((run settings e s).run w).1 =
        passed (bodyEvents reply.chunks.flatten reply.whole) ++ closing ∧
      Closing settings e s (bodyEvents reply.chunks.flatten reply.whole) reply.whole w₁ closing
        ((run settings e s).run w).2 := by
  have hrun := run_of_connect settings e s (connect_of_send settings e s sent success plain)
  revert inTime
  rw [hrun]
  generalize bodyEvents reply.chunks.flatten reply.whole = events
  simp only
  intro inTime
  cases hf : firstEnd? events with
  | none =>
    rw [hf] at inTime
    simp only [Option.map_none, Option.getD_none, Ending.missing] at inTime ⊢
    rw [inTime]
    cases hw : reply.whole with
    | true => exact ⟨_, rfl, .over hf rfl⟩
    | false => exact ⟨_, rfl, .broken hf rfl⟩
  | some v =>
    obtain ⟨ended, hv⟩ := Option.isSome_iff_exists.1 (endOf?_of_firstEnd? hf)
    cases ended with
    | failed =>
      simp only [hf, Option.map_some, Option.getD_some, Ending.ofEvent, hv] at inTime ⊢
      rw [inTime]
      exact ⟨_, rfl, .failed hf hv⟩
    | complete =>
      cases ha : artifactOf? v with
      | none =>
        simp only [hf, Option.map_some, Option.getD_some, Ending.ofEvent, hv, ha] at inTime ⊢
        rw [inTime]
        exact ⟨_, rfl, .unlocated hf hv ha⟩
      | some artifact =>
        simp only [hf, Option.map_some, Option.getD_some, Ending.ofEvent, hv, ha,
          conclude_eq] at inTime ⊢
        rcases hd : (Download.run settings e artifact (jobOf? v) s.hint?).run w₁ with
          ⟨f | a, w₂⟩
        · obtain ⟨reason, rfl⟩ := Download.run_error hd
          rw [hd] at inTime
          simp only [inTime]
          exact ⟨_, rfl, .notDownloaded hf hv ha hd⟩
        · rw [hd] at inTime
          simp only [inTime]
          exact ⟨_, rfl, .downloaded hf hv ha hd⟩

/-! ## A sample -/

/-- A reply that streams a body in two pieces. -/
def sampleReply (body : Bytes) : Reply := ⟨200, none, [body.take 10, body.drop 10], true⟩

/-- A world with a worker that streams a body, and has an artifact of three bytes. -/
def sampleWorld (body : Bytes) : World where
  disk := ⟨[(["a.mp4"], .file [1, 2, 3])]⟩
  network := .single "[::1]:8080"
    [("POST /process-stream", [.reply (sampleReply body)]),
      ("GET /d/x.mp4", [.reply ⟨200, none, [[1, 2, 3]], true⟩])]
  tools := .empty
  rehearsed := []
  clock := 0
  drawn := 0

def sampleEndpoint : Endpoint := ⟨"http://[::1]:8080", false⟩

def sampleSubmission : Submission := ⟨"/a.mp4", "/a.mp4", "p", none⟩

/-- The body of a job that becomes complete. -/
def completeBody : Bytes :=
  bytesOf <| "data: \x7b\"stage\":\"tracking\"\x7d\n" ++
    "data: \x7b\"stage\":\"complete\",\"download_url\":\"/d/x.mp4\"\x7d\n"

theorem run_accepted_sample : ∃ w₁ closing,
    (Client.send {} sampleEndpoint sampleSubmission "/process-stream" acceptAll 600000).run
      (sampleWorld completeBody) = (.ok (sampleReply completeBody), w₁) ∧
    (sampleReply completeBody).isSuccess = true ∧ (sampleReply completeBody).isHtml = false ∧
    isLate {} (sampleWorld completeBody).clock
      ((run {} sampleEndpoint sampleSubmission).run (sampleWorld completeBody)).2.clock = false ∧
    ((run {} sampleEndpoint sampleSubmission).run (sampleWorld completeBody)).1 =
      passed (bodyEvents (sampleReply completeBody).chunks.flatten true) ++ closing ∧
    Closing {} sampleEndpoint sampleSubmission
      (bodyEvents (sampleReply completeBody).chunks.flatten true) true w₁ closing
      ((run {} sampleEndpoint sampleSubmission).run (sampleWorld completeBody)).2 := by
  have sent : ((Client.send {} sampleEndpoint sampleSubmission "/process-stream" acceptAll
      600000).run (sampleWorld completeBody)).1 = .ok (sampleReply completeBody) := by
    decide +kernel
  have success : (sampleReply completeBody).isSuccess = true := rfl
  have plain : (sampleReply completeBody).isHtml = false := rfl
  have inTime : isLate {} (sampleWorld completeBody).clock
      ((run {} sampleEndpoint sampleSubmission).run (sampleWorld completeBody)).2.clock = false := by
    decide +kernel
  have hsend := Action.run_of_fst sent
  obtain ⟨closing, hevents, hclosing⟩ := run_accepted {} sampleEndpoint sampleSubmission hsend
    success plain inTime
  exact ⟨_, closing, hsend, success, plain, inTime, hevents, hclosing⟩

end ClipRelay.Relay
