import ClipRelay.Clip.Encoder

/-!
# What encoders do

A call of a tool is noted and may write files; the rest of the world stays as it is (`Toolbox.run_run`).
For a frame rate and for a clip the media tools make one call at most (`Toolbox.Probed`,
`Toolbox.Encoded`). A rehearsal writes one file (`Encoder.encode_rehearsal`).
-/

namespace ClipRelay

namespace Toolbox

theorem run_run (name : String) (tool : Tool) (args : List String) (w : World) :
    ∃ disk, (run name tool args).run w =
      ((), { w with disk, tools := { w.tools with calls := w.tools.calls ++ [name :: args] } }) := by
  unfold run
  rw [Action.run_bind]
  split
  · rw [StateT.run_modify]
    dsimp only [Pure.pure]
    split
    · exact ⟨_, rfl⟩
    · exact ⟨_, rfl⟩
  · exact ⟨w.disk, rfl⟩

/-- What it comes to when a frame rate is asked for. -/
inductive Probed (path : String) (w : World) : Except MediaFault Double → World → Prop
  /-- There is no file, or no prober. -/
  | unasked (f : MediaFault) : Probed path w (.error f) w
  | asked {tool : Tool} (result : Except MediaFault Double) : w.tools.prober = some tool →
    Probed path w result ((run proberName tool (probeArgs path)).run w).2

theorem probed_probe (path : String) (w : World) :
    ∃ result w', (probe path).run w = (result, w') ∧ Probed path w result w' := by
  unfold probe
  rw [Action.run_bind, Action.run_get]
  cases w.disk.status path with
  | error f => exact ⟨_, _, rfl, .unasked _⟩
  | ok found =>
    cases hprober : w.tools.prober with
    | none => exact ⟨_, _, rfl, .unasked _⟩
    | some tool =>
      simp only [Action.run_bind]
      split
      · exact ⟨_, _, rfl, .asked _ hprober⟩
      · exact ⟨_, _, rfl, .asked _ hprober⟩

/-- What it comes to when a command is given to the encoder, for at most so many milliseconds. -/
inductive Encoded (timeout : Nat) (c : Command) (w : World) : Except MediaFault Unit → World → Prop
  | missing : Encoded timeout c w (.error .encoderMissing) w
  | unfit : Encoded timeout c w (.error (.system nulMessage)) w
  | done {tool : Tool} : w.tools.encoder = some tool →
    Encoded timeout c w (.ok ()) ((run encoderName tool c.args).run w).2
  /-- The encoder does not end; what it has written stays. -/
  | late {tool : Tool} (clock : Nat) : w.tools.encoder = some tool →
    Encoded timeout c w (.error (.timeout (timeout / 1000)))
      { ((run encoderName tool c.args).run w).2 with clock }
  | failed {tool : Tool} (message : String) (code : Option Int) : w.tools.encoder = some tool →
    Encoded timeout c w (.error (.ofEncoder message (some (Text.lossy tool.errors)) code))
      ((run encoderName tool c.args).run w).2

theorem encoded_encode (timeout : Nat) (c : Command) (w : World) :
    ∃ result w', (encode timeout c).run w = (result, w') ∧ Encoded timeout c w result w' := by
  unfold encode
  rw [Action.run_bind, Action.run_get]
  cases hencoder : w.tools.encoder with
  | none => exact ⟨_, _, rfl, .missing⟩
  | some tool =>
    simp only
    split
    · exact ⟨_, _, rfl, .unfit⟩
    · rw [Action.run_bind]
      split
      · exact ⟨_, _, rfl, .done hencoder⟩
      · exact ⟨_, _, rfl, .late _ hencoder⟩
      · exact ⟨_, _, rfl, .failed _ _ hencoder⟩

end Toolbox

namespace Encoder

theorem probed_frameRate (timeout : Nat) (source : String) (w : World) :
    ∃ fps result w', ((tools timeout).frameRate source).run w = (fps, w') ∧
      Toolbox.Probed source w result w' := by
  obtain ⟨result, w', hrun, hprobed⟩ := Toolbox.probed_probe source w
  unfold frameRate
  simp only [Action.run_bind, hrun]
  cases result with
  | ok fps => exact ⟨_, _, _, rfl, hprobed⟩
  | error f => exact ⟨_, _, _, rfl, hprobed⟩

theorem note_run (call : EncoderCall) (w : World) :
    (note call).run w = ((), { w with rehearsed := w.rehearsed ++ [call] }) := rfl

/-- What a rehearsal does to cut a clip. -/
theorem encode_rehearsal (fps : Option Double) (failure : Option String) (t : ClipTask) (w : World) :
    (∃ disk, ((rehearsal fps failure).encode t).run w =
        (.ok (), { w with disk, rehearsed := w.rehearsed ++ [.encode t.command.args] }) ∧
        w.disk.write t.output (Text.bytesOf (rehearsalText t)) = .ok disk) ∨
      ∃ f, ((rehearsal fps failure).encode t).run w =
        (.error f, { w with rehearsed := w.rehearsed ++ [.encode t.command.args] }) ∧
        ((∃ message errors code, failure = some errors ∧ f = .ofEncoder message (some errors) code) ∨
          ∃ reason, f = .system reason) := by
  cases failure with
  | some errors => exact .inr ⟨_, rfl, .inl ⟨_, errors, _, rfl, rfl⟩⟩
  | none =>
    unfold encode
    simp only [Action.run_bind, note_run, Action.run_get]
    cases w.disk.write t.output (Text.bytesOf (rehearsalText t)) with
    | ok disk => exact .inl ⟨disk, rfl, rfl⟩
    | error f => exact .inr ⟨_, rfl, .inr ⟨_, rfl⟩⟩

end Encoder

end ClipRelay
