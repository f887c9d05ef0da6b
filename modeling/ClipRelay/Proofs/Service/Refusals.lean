import ClipRelay.Proofs.Service.Preparation
import ClipRelay.Service.Answer

/-!
# Rejected requests

A job that is not prepared is told of in the body of the operation it was meant for: an answer to a
start, an answer about progress, or a stream of events. The bodies differ, and say the same
(`Json.Tells`), in one value each (`Launch.outgoing_reject`).

* `Service.rejected_alike`: the operations that start a job refuse a request in the same words, and ask
  nobody.
-/

namespace ClipRelay

open Text

/-! ## What a body says -/

/-- The values that a body holds. -/
def AnswerBody.values : AnswerBody → List Json
  | .none => []
  | .json v => [v]
  | .events es => es.map Event.toJson

/-- A member that is added is found under its key, and every other one where it was. -/
theorem Json.lookup_put (key key' : String) (v : Json) (members : List (String × Json)) :
    (put key v members).lookup key' = if key' = key then some v else members.lookup key' := by
  have hcons : ∀ (k : String) (x : Json) (rest : List (String × Json)),
      ((k, x) :: rest).lookup key' = if key' = k then some x else rest.lookup key' := by
    intro k x rest
    by_cases h : key' = k
    · simp [h]
    · simp [List.lookup_cons, beq_false_of_ne h, h]
  induction members with
  | nil => exact hcons key v []
  | cons member members ih =>
    obtain ⟨k, old⟩ := member
    rw [put]
    split
    · rename_i hk
      subst hk
      simp only [hcons]
      split <;> rfl
    · rename_i hk
      split
      · rw [hcons]
      · rw [hcons, ih, hcons]
        by_cases h : key' = k
        · rw [if_pos h, if_neg (h ▸ Ne.symm hk), if_pos h]
        · rw [if_neg h, if_neg h]

/-- A value tells of a failure: it has its code, its message, and its details if there are any. -/
structure Json.Tells (v : Json) (code : ErrorCode) (message : String) (details : Option String) :
    Prop where
  code : v.get? "error" = some (.string code.name)
  message : v.get? "message" = some (.string message)
  details : v.get? "details" = details.map .string

namespace Rejection

variable (rejection : Rejection)

theorem tells_toStart : (Wire.toJson rejection.toStart).Tells rejection.code rejection.message
    (rejection.details.map excerpt) := by
  obtain ⟨code, message, _ | details⟩ := rejection <;> exact ⟨rfl, rfl, rfl⟩

theorem tells_toProgress : (Wire.toJson rejection.toProgress).Tells rejection.code rejection.message
    (rejection.details.map excerpt) := by
  obtain ⟨code, message, _ | details⟩ := rejection <;> exact ⟨rfl, rfl, rfl⟩

end Rejection

/-- The event of a failure tells of it. -/
theorem Event.tells_failure (code : ErrorCode) (message : String) (details : Option String) :
    (Event.failure code message details).toJson.Tells code message (details.map excerpt) := by
  cases details <;> constructor <;>
    simp [Event.failure, Event.toJson, Json.ofMembers, Json.get?, Json.lookup_put]

/-! ## Answers of the operations -/

namespace Launch

/-- The answer of the service to what an operation has come to. -/
def outgoing : (op : Launch) → Except String op.Answer → Outgoing
  | start => Service.ofResult (α := StartAnswer)
  | process => Service.ofResult (α := ProgressAnswer)
  | stream => Service.ofEvents

def route : Launch → Route
  | start => .start
  | process => .process
  | stream => .stream

/-- The answer of the service to a request that starts a job. -/
def answer (settings : ServiceSettings) (encoder : Encoder) (r : StartRequest) (op : Launch) :
    Action Outgoing := do
  return op.outgoing (← op.perform settings encoder r)

/-- The service answers so on the route of the operation. -/
theorem perform_route (settings : ServiceSettings) (encoder : Encoder) (now : String) (op : Launch)
    (request : Incoming) : Service.perform settings encoder now op.route request =
      Service.onBody settings request fun r => op.answer settings encoder r := by
  cases op <;> rfl

/-- A request that makes no sense is refused with its message. -/
theorem outgoing_error (op : Launch) (message : String) :
    op.outgoing (.error message) = Service.refusal 400 message := by
  cases op <;> rfl

/-- An answer tells of a rejection in one value. -/
theorem outgoing_reject (op : Launch) (rejection : Rejection) :
    (op.outgoing (.ok (op.reject rejection))).status = 200 ∧
      ∃ v, (op.outgoing (.ok (op.reject rejection))).body.values = [v] ∧
        v.Tells rejection.code rejection.message (rejection.details.map excerpt) := by
  cases op with
  | start => exact ⟨rfl, _, rfl, rejection.tells_toStart⟩
  | process => exact ⟨rfl, _, rfl, rejection.tells_toProgress⟩
  | stream => exact ⟨rfl, _, rfl, Event.tells_failure _ _ _⟩

theorem answer_of_rejected {settings : ServiceSettings} {encoder : Encoder} {r : StartRequest}
    {w w₁ : World} {rejection : Rejection} (op : Launch)
    (h : (Service.prepare settings encoder r).run w = (.error rejection, w₁)) :
    (op.answer settings encoder r).run w = (op.outgoing (rejection.respond op.reject), w₁) := by
  rw [answer, Action.run_bind, op.perform_of_rejected h]
  rfl

end Launch

namespace Service

variable {settings : ServiceSettings} {encoder : Encoder} {r : StartRequest} {w w₁ : World}
  {rejection : Rejection}

/-- Whatever a request is rejected for, each operation that starts a job ends where the preparation has
ended, so an encoder that asks nobody leaves the worker unasked. All of them refuse a request that makes
no sense with its message, and tell of any other rejection in one value, with the same code, message
and details. -/
theorem rejected_alike (h : (prepare settings encoder r).run w = (.error rejection, w₁)) :
    (∀ op : Launch, ((op.answer settings encoder r).run w).2 = w₁) ∧
    (encoder.Silent → w₁.sent = w.sent) ∧
    (rejection.code = .invalidRequest → ∀ op : Launch,
      ((op.answer settings encoder r).run w).1 = refusal 400 rejection.message) ∧
    (rejection.code ≠ .invalidRequest → ∀ op : Launch,
      ((op.answer settings encoder r).run w).1.status = 200 ∧
      ∃ v, ((op.answer settings encoder r).run w).1.body.values = [v] ∧
        v.Tells rejection.code rejection.message (rejection.details.map excerpt)) := by
  refine ⟨fun op => by rw [op.answer_of_rejected h], fun he => ?_, fun hcode op => ?_,
    fun hcode op => ?_⟩
  · have hquiet := quiet_prepare he settings r w
    rwa [h] at hquiet
  · rw [op.answer_of_rejected h, Rejection.respond, if_pos hcode]
    exact op.outgoing_error rejection.message
  · rw [op.answer_of_rejected h, Rejection.respond, if_neg hcode]
    exact op.outgoing_reject rejection

/-- An encoder that fails with an output. -/
def sampleFailing : Encoder := .rehearsal (some 25) (some "no space left")

def sampleRejection : Rejection :=
  ⟨.trim, "Failed to trim video: FFmpeg command failed: FFmpeg exited with non-zero status",
    some "no space left"⟩

def sampleBlank : StartRequest := { sampleStart with prompt := " " }

/-- A clip that cannot be cut, and a prompt that is blank. -/
theorem rejected_alike_sample :
    (∃ w₁, (prepare {} sampleFailing sampleTrimmed).run sampleWorld = (.error sampleRejection, w₁) ∧
      w₁.sent = [] ∧ ∀ op : Launch, ∃ v,
        ((op.answer {} sampleFailing sampleTrimmed).run sampleWorld).1.body.values = [v] ∧
        v.Tells .trim sampleRejection.message (some "no space left")) ∧
    ∃ w₁, (prepare {} sampleFailing sampleBlank).run sampleWorld =
        (.error ⟨.invalidRequest, "Invalid request: prompt is required", none⟩, w₁) ∧
      ∀ op : Launch, ((op.answer {} sampleFailing sampleBlank).run sampleWorld).1 =
        refusal 400 "Invalid request: prompt is required" := by
  have htrim : ((prepare {} sampleFailing sampleTrimmed).run sampleWorld).1 =
      .error sampleRejection := by
    decide +kernel
  have hblank : ((prepare {} sampleFailing sampleBlank).run sampleWorld).1 =
      .error ⟨.invalidRequest, "Invalid request: prompt is required", none⟩ := by
    decide +kernel
  generalize htrimmed : (prepare {} sampleFailing sampleTrimmed).run sampleWorld = trimmed at htrim
  generalize hblanked : (prepare {} sampleFailing sampleBlank).run sampleWorld = blanked at hblank
  obtain ⟨_, w₁⟩ := trimmed
  obtain ⟨_, w₂⟩ := blanked
  obtain rfl := htrim
  obtain rfl := hblank
  obtain ⟨-, hsent, -, htold⟩ := rejected_alike htrimmed
  obtain ⟨-, -, hrefused, -⟩ := rejected_alike hblanked
  exact ⟨⟨w₁, rfl, hsent (Encoder.silent_rehearsal _ _), fun op => (htold (by decide) op).2⟩,
    w₂, rfl, hrefused rfl⟩

end Service

end ClipRelay
