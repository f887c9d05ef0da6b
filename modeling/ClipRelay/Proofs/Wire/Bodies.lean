import ClipRelay.Proofs.Json.Records
import ClipRelay.Wire.Answers
import ClipRelay.Wire.Requests

/-!
# Bodies survive the wire

A body that is written is read as itself, and so is a body that was read, in whatever form it stood
(`Wire.Survives`). The texts of a body are read as they are written; its numbers have to be.

* `Wire.decode_encode_record`: a record whose fields fit is read from its text.
* `Wire.exists_of_decode`: the numbers of a record that is read are finite.
* `Wire.bodies_survive`: the requests, the answers and what they are made of.
-/

namespace ClipRelay

open Json Json.Read

/-! ## Optional values -/

section

variable {height : Nat}

theorem Json.orNull_ofText? (s : Option String) : orNull asText? (ofText? s) = some s := by
  cases s <;> rfl

theorem Json.orNull_ofDouble? (x : Option Double) : orNull asReal? (ofDouble? x) = some x := by
  cases x <;> rfl

theorem orNull_ofErrorCode? (c : Option ErrorCode) :
    orNull asErrorCode? (ofErrorCode? c) = some c := by
  cases c with
  | none => rfl
  | some c => simp [ofErrorCode?, orNull, asErrorCode?, asText?]

theorem takes_text? (s : Option String) :
    Takes (Read.optional Read.text) height (chars (ofText? s)) (ofText? s) := by
  cases s with
  | none => exact takes_null _
  | some s => exact takes_optional (takes_text s) ⟨'"', rfl, by decide, by decide⟩

/-- A text that is left out when there is none. -/
theorem fits_text? (name : String) (s : Option String) :
    (Member.mk (.omittable name Read.text) (s.map .string) (ofText? s)).Fits height := by
  cases s with
  | none => rfl
  | some s => exact takes_text? (some s)

theorem takes_real? {x : Option Double} (h : ∀ n ∈ x.toList, ReadsBack (.real n)) :
    Takes (Read.optional Read.real) height (chars (ofDouble? x)) (ofDouble? x) := by
  cases x with
  | none => exact takes_null _
  | some x =>
    have hx : ReadsBack (.real x) := h x (by simp)
    obtain ⟨c, cs, hcs, hc⟩ := exists_startsNumber hx
    refine takes_optional (takes_real hx) ⟨c, ?_, (opens_of_startsNumber hc).1, ?_⟩
    · exact congrArg List.head? hcs
    · rintro rfl
      cases hc

theorem takes_jobStatus (s : JobStatus) :
    Takes readJobStatus height (chars (.string s.name)) (.string s.name) :=
  takes_word (by cases s <;> decide)

theorem takes_errorCode (c : ErrorCode) :
    Takes (Read.optional readErrorCode) height (chars (.string c.name)) (.string c.name) :=
  takes_optional (takes_word (by cases c <;> decide)) ⟨'"', rfl, by decide, by decide⟩

theorem takes_errorCode? (c : Option ErrorCode) :
    Takes (Read.optional readErrorCode) height (chars (ofErrorCode? c)) (ofErrorCode? c) := by
  cases c with
  | none => exact takes_null _
  | some c => exact takes_errorCode c

end

/-! ## Records -/

namespace Wire

variable {α : Type} [Wire α]

/-- A record whose fields fit is read wherever its text stands. -/
theorem takes_toJson {x : α} {fields : List Field} (hread : read α = record fields)
    (hnames : (fields.map Field.name).Nodup) (height : Nat) (members : List Member)
    (hfields : members.map Member.field = fields)
    (hwritten : toJson x = .object (Member.pairs members)) (hfits : ∀ e ∈ members, e.Fits height)
    {v : Json} (hvalue : v = .array (members.map Member.value)) :
    Takes (read α) (height + 1) (chars (toJson x)) v := by
  rw [hread, hwritten, hvalue]
  exact takes_record hnames members hfields hfits

theorem decode_encode_of_takes {x : α} {height : Nat} {v : Json}
    (h : Takes (read α) height (chars (toJson x)) v) (hheight : height ≤ maxDepth)
    (hvalue : ofRead? v = some x) : decode (encode x) = .ok x := by
  have htakes := h maxDepth [] hheight ends_nil
  rw [List.append_nil] at htakes
  rw [decode, decodeGlyphs, encode, compact, Text.glyphsOf, String.toList_ofList, readAll, htakes]
  simp [skipBlanks, accept, hvalue]

/-- A record whose fields fit is read from its text. -/
theorem decode_encode_record {x : α} {fields : List Field} (hread : read α = record fields)
    (hnames : (fields.map Field.name).Nodup) (members : List Member)
    (hfields : members.map Member.field = fields)
    (hwritten : toJson x = .object (Member.pairs members)) (hfits : ∀ e ∈ members, e.Fits 1)
    (hvalue : ofRead? (.array (members.map Member.value)) = some x) : decode (encode x) = .ok x :=
  decode_encode_of_takes (takes_toJson hread hnames 1 members hfields hwritten hfits rfl)
    (by decide) hvalue

/-- A number is finite. -/
def Bounded (v : Json) : Prop := ∀ x, v.asReal? = some x → x.isFinite = true

theorem bounded_of_asReal? {v : Json} (h : v.asReal? = none) : Bounded v := by
  intro x hx
  rw [h] at hx
  cases hx

theorem bounded_null : Bounded .null := bounded_of_asReal? rfl

theorem bounded_text : Gives Bounded Read.text := gives_text fun _ => bounded_of_asReal? rfl

theorem bounded_word (names : List String) : Gives Bounded (word names) :=
  gives_word names fun _ => bounded_of_asReal? rfl

theorem bounded_real : Gives Bounded Read.real := by
  refine gives_real fun x hx y hy => ?_
  cases hy
  exact hx

theorem bounded_orNull {v : Json} (hv : Bounded v) {x : Option Double}
    (h : orNull asReal? v = some x) : ∀ n ∈ x.toList, n.isFinite = true := by
  unfold orNull at h
  split at h
  · cases h
    exact fun n hn => absurd hn List.not_mem_nil
  · obtain ⟨y, hy, rfl⟩ := Option.map_eq_some_iff.1 h
    intro n hn
    rw [List.mem_singleton.1 hn]
    exact hv y hy

/-- The values of the fields of a record that is read. -/
theorem exists_of_decode {x : α} {fields : List Field} {t : String} (hread : read α = record fields)
    (hfields : ∀ f ∈ fields, f.Gives Bounded) (h : decode t = .ok x) :
    ∃ vs, ofRead? (.array vs) = some x ∧ ∀ v ∈ vs, Bounded v := by
  obtain ⟨v, hv, hx⟩ := bind_eq_ok.1 h
  obtain ⟨⟨v', rest⟩, hv', hrest⟩ := bind_eq_ok.1 hv
  simp only at hrest
  split at hrest
  · cases hrest
    rw [hread] at hv'
    obtain ⟨vs, rfl, hvs⟩ := gives_record hfields _ _ _ _ hv'
    refine ⟨vs, ?_, hvs⟩
    unfold accept at hx
    split at hx
    · rename_i hsome
      cases hx
      exact hsome
    · cases hx
  · cases hrest

/-- The bodies of a type survive the wire as long as their numbers do: a body with finite numbers is
read from its text, and a body that is read from any text is read again from its own. -/
structure Survives (α : Type) [Wire α] (numbers : α → List Double) : Prop where
  written : ∀ x : α, (∀ n ∈ numbers x, n.isFinite = true → ReadsBack (.real n)) →
    (∀ n ∈ numbers x, n.isFinite = true) → decode (encode x) = .ok x
  read : ∀ (t : String) (x : α), decode t = .ok x →
    (∀ n ∈ numbers x, n.isFinite = true → ReadsBack (.real n)) → decode (encode x) = .ok x

theorem Survives.of_finite {numbers : α → List Double}
    (h : ∀ x, (∀ n ∈ numbers x, ReadsBack (.real n)) → decode (encode x) = .ok x)
    (hfinite : ∀ (t : String) (x : α), decode t = .ok x → ∀ n ∈ numbers x, n.isFinite = true) :
    Survives α numbers :=
  ⟨fun x hnumbers hx => h x fun n hn => hnumbers n hn (hx n hn),
    fun t x ht hnumbers => h x fun n hn => hnumbers n hn (hfinite t x ht n hn)⟩

/-- A body without numbers has nothing that could be lost. -/
theorem Survives.of_texts (h : ∀ x : α, decode (encode x) = .ok x) : Survives α fun _ => [] :=
  .of_finite (fun x _ => h x) fun _ _ _ _ hn => absurd hn List.not_mem_nil

/-! ## Requests -/

theorem survives_startRequest :
    Survives StartRequest fun r => r.trimStart.toList ++ r.trimEnd.toList := by
  refine .of_finite (fun r hnumbers => ?_) fun t r ht => ?_
  · refine decode_encode_record rfl (by decide)
      [⟨_, some (.string r.filePath), .string r.filePath⟩,
        ⟨_, some (.string r.prompt), .string r.prompt⟩,
        ⟨_, some (.string r.workerUrl), .string r.workerUrl⟩,
        ⟨_, some (ofDouble? r.trimStart), ofDouble? r.trimStart⟩,
        ⟨_, some (ofDouble? r.trimEnd), ofDouble? r.trimEnd⟩] rfl rfl ?_ ?_
    · simp only [List.forall_mem_cons, List.not_mem_nil, false_imp_iff, implies_true, and_true]
      exact ⟨takes_text _, takes_text _, takes_text _,
        takes_real? fun n hn => hnumbers n (List.mem_append_left _ hn),
        takes_real? fun n hn => hnumbers n (List.mem_append_right _ hn)⟩
    · simp [ofRead?, asText?, orNull_ofDouble?]
  · obtain ⟨vs, hvs, hbounded⟩ := exists_of_decode rfl (by
      simp only [List.forall_mem_cons, List.not_mem_nil, false_imp_iff, implies_true, and_true]
      exact ⟨gives_required _ bounded_text, gives_required _ bounded_text,
        gives_required _ bounded_text, gives_omittable _ bounded_null bounded_real,
        gives_omittable _ bounded_null bounded_real⟩) ht
    unfold ofRead? instWireStartRequest at hvs
    simp only at hvs
    split at hvs
    · rename_i heq
      cases heq
      simp only [Option.bind_eq_bind, Option.bind_eq_some_iff, Option.pure_def, Option.some.injEq] at hvs
      obtain ⟨-, -, -, -, -, -, start, hstart, stop, hstop, rfl⟩ := hvs
      intro n hn
      rcases List.mem_append.1 hn with hn | hn
      · exact bounded_orNull (hbounded _ (by simp)) hstart n hn
      · exact bounded_orNull (hbounded _ (by simp)) hstop n hn
    · cases hvs

theorem survives_progressRequest : Survives ProgressRequest fun _ => [] := by
  refine .of_texts fun r => decode_encode_record rfl (by decide)
    [⟨_, some (.string r.jobId), .string r.jobId⟩,
      ⟨_, some (.string r.workerUrl), .string r.workerUrl⟩,
      ⟨_, some (ofText? r.sourceName), ofText? r.sourceName⟩] rfl rfl ?_ ?_
  · simp only [List.forall_mem_cons, List.not_mem_nil, false_imp_iff, implies_true, and_true]
    exact ⟨takes_text _, takes_text _, takes_text? _⟩
  · simp [ofRead?, asText?, orNull_ofText?]

theorem survives_healthRequest : Survives HealthRequest fun _ => [] := by
  refine .of_texts fun r => decode_encode_record rfl (by decide)
    [⟨_, some (.string r.workerUrl), .string r.workerUrl⟩] rfl rfl ?_ rfl
  simp only [List.forall_mem_cons, List.not_mem_nil, false_imp_iff, implies_true, and_true]
  exact takes_text _

theorem survives_pingRequest : Survives PingRequest fun _ => [] := by
  refine .of_texts fun r => decode_encode_record rfl (by decide)
    [⟨_, some (.string r.message), .string r.message⟩] rfl rfl ?_ rfl
  simp only [List.forall_mem_cons, List.not_mem_nil, false_imp_iff, implies_true, and_true]
  exact takes_text _

/-! ## Windows and snapshots -/

theorem survives_trimWindow : Survives TrimWindow fun w => [w.start, w.stop] := by
  refine .of_finite (fun w hnumbers => ?_) fun t w ht => ?_
  · refine decode_encode_record rfl (by decide)
      [⟨_, some (.ofDouble w.start), .ofDouble w.start⟩,
        ⟨_, some (.ofDouble w.stop), .ofDouble w.stop⟩] rfl rfl ?_ rfl
    simp only [List.forall_mem_cons, List.not_mem_nil, false_imp_iff, implies_true, and_true]
    exact ⟨takes_real (hnumbers _ (by simp)), takes_real (hnumbers _ (by simp))⟩
  · obtain ⟨vs, hvs, hbounded⟩ := exists_of_decode rfl (by
      simp only [List.forall_mem_cons, List.not_mem_nil, false_imp_iff, implies_true, and_true]
      exact ⟨gives_required _ bounded_real, gives_required _ bounded_real⟩) ht
    unfold ofRead? instWireTrimWindow at hvs
    simp only at hvs
    split at hvs
    · rename_i heq
      cases heq
      simp only [Option.bind_eq_bind, Option.bind_eq_some_iff, Option.pure_def, Option.some.injEq] at hvs
      obtain ⟨start, hstart, stop, hstop, rfl⟩ := hvs
      simp only [List.forall_mem_cons, List.not_mem_nil, false_imp_iff, implies_true, and_true]
      exact ⟨hbounded _ (by simp) start hstart, hbounded _ (by simp) stop hstop⟩
    · cases hvs

/-- What an artifact is read as. -/
def artifactValue (a : ArtifactRef) : Json := .array [.string a.downloadUrl, .string a.filename]

theorem takes_artifactRef (a : ArtifactRef) :
    Takes (read ArtifactRef) 1 (chars (toJson a)) (artifactValue a) := by
  have hread : read ArtifactRef = record _ := rfl
  refine takes_toJson hread (by decide) 0
    [⟨_, some (.string a.downloadUrl), .string a.downloadUrl⟩,
      ⟨_, some (.string a.filename), .string a.filename⟩] rfl rfl ?_ rfl
  simp only [List.forall_mem_cons, List.not_mem_nil, false_imp_iff, implies_true, and_true]
  exact ⟨takes_text _, takes_text _⟩

theorem survives_artifactRef : Survives ArtifactRef fun _ => [] :=
  .of_texts fun a => decode_encode_of_takes (takes_artifactRef a) (by decide) rfl

theorem bounded_artifactRef : Gives Bounded (read ArtifactRef) := by
  intro depth g v rest h
  have hfields : ∀ f ∈ [Field.required "download_url" Read.text, .required "filename" Read.text],
      f.Gives Bounded := by
    simp only [List.forall_mem_cons, List.not_mem_nil, false_imp_iff, implies_true, and_true]
    exact ⟨gives_required _ bounded_text, gives_required _ bounded_text⟩
  obtain ⟨vs, rfl, -⟩ := gives_record hfields depth g v rest h
  exact bounded_of_asReal? rfl

/-- The optional artifact of a snapshot. -/
theorem takes_artifactRef? (a : ArtifactRef) :
    Takes (Read.optional (read ArtifactRef)) 1 (chars (toJson a)) (artifactValue a) :=
  takes_optional (takes_artifactRef a) ⟨'\x7b', rfl, by decide, by decide⟩

theorem survives_snapshot : Survives Snapshot fun s => [s.progress] := by
  refine .of_finite (fun s hnumbers => ?_) fun t s ht => ?_
  · obtain ⟨status, stage, progress, message, output, error⟩ := s
    refine decode_encode_record rfl (by decide)
      [⟨_, some (.string status.name), .string status.name⟩,
        ⟨_, some (.string stage), .string stage⟩,
        ⟨_, some (.ofDouble progress), .ofDouble progress⟩,
        ⟨_, some (.string message), .string message⟩,
        ⟨_, output.map toJson, (output.map artifactValue).getD .null⟩,
        ⟨_, error.map toJson, ofErrorCode? error⟩] rfl ?_ ?_ ?_
    · cases output <;> cases error <;> rfl
    · simp only [List.forall_mem_cons, List.not_mem_nil, false_imp_iff, implies_true, and_true]
      refine ⟨takes_jobStatus _, takes_text _, takes_real (hnumbers _ (by simp)), takes_text _, ?_, ?_⟩
      · cases output with
        | none => rfl
        | some a => exact takes_artifactRef? a
      · cases error with
        | none => rfl
        | some c => exact takes_errorCode c
    · have houtput : orNull ofRead? ((output.map artifactValue).getD .null) = some output := by
        cases output <;> rfl
      simp only [List.map_cons, List.map_nil]
      unfold ofRead? instWireSnapshot
      simp [asJobStatus?, asText?, asReal?, ofDouble, houtput, orNull_ofErrorCode?]
  · obtain ⟨vs, hvs, hbounded⟩ := exists_of_decode rfl (by
      simp only [List.forall_mem_cons, List.not_mem_nil, false_imp_iff, implies_true, and_true]
      exact ⟨gives_required _ (bounded_word _), gives_required _ bounded_text,
        gives_required _ bounded_real, gives_required _ bounded_text,
        gives_nullable _ bounded_null bounded_artifactRef,
        gives_nullable _ bounded_null (bounded_word _)⟩) ht
    unfold ofRead? instWireSnapshot at hvs
    simp only at hvs
    split at hvs
    · rename_i heq
      cases heq
      simp only [Option.bind_eq_bind, Option.bind_eq_some_iff, Option.pure_def, Option.some.injEq] at hvs
      obtain ⟨-, -, -, -, progress, hprogress, -, -, -, -, -, -, rfl⟩ := hvs
      intro n hn
      rw [List.mem_singleton.1 hn]
      exact hbounded _ (by simp) progress hprogress
    · cases hvs

/-! ## Answers -/

theorem survives_startAnswer : Survives StartAnswer fun _ => [] := by
  refine .of_texts fun a => ?_
  obtain ⟨jobId, status, message, error, details⟩ := a
  refine decode_encode_record rfl (by decide)
    [⟨_, some (ofText? jobId), ofText? jobId⟩, ⟨_, some (.string status), .string status⟩,
      ⟨_, some (.string message), .string message⟩,
      ⟨_, some (ofErrorCode? error), ofErrorCode? error⟩,
      ⟨_, details.map .string, ofText? details⟩] rfl ?_ ?_ ?_
  · cases details <;> rfl
  · simp only [List.forall_mem_cons, List.not_mem_nil, false_imp_iff, implies_true, and_true]
    exact ⟨takes_text? _, takes_text _, takes_text _, takes_errorCode? _, fits_text? _ details⟩
  · simp only [List.map_cons, List.map_nil]
    unfold ofRead? instWireStartAnswer
    simp [asText?, orNull_ofText?, orNull_ofErrorCode?]

theorem survives_progressAnswer : Survives ProgressAnswer fun a => [a.progress] := by
  refine .of_finite (fun a hnumbers => ?_) fun t a ht => ?_
  · obtain ⟨status, stage, progress, message, outputPath, error, details⟩ := a
    refine decode_encode_record rfl (by decide)
      [⟨_, some (.string status.name), .string status.name⟩,
        ⟨_, some (.string stage), .string stage⟩,
        ⟨_, some (.ofDouble progress), .ofDouble progress⟩,
        ⟨_, some (.string message), .string message⟩,
        ⟨_, some (ofText? outputPath), ofText? outputPath⟩,
        ⟨_, some (ofErrorCode? error), ofErrorCode? error⟩,
        ⟨_, details.map .string, ofText? details⟩] rfl ?_ ?_ ?_
    · cases details <;> rfl
    · simp only [List.forall_mem_cons, List.not_mem_nil, false_imp_iff, implies_true, and_true]
      exact ⟨takes_jobStatus _, takes_text _, takes_real (hnumbers _ (by simp)), takes_text _,
        takes_text? _, takes_errorCode? _, fits_text? _ details⟩
    · simp only [List.map_cons, List.map_nil]
      unfold ofRead? instWireProgressAnswer
      simp [asJobStatus?, asText?, asReal?, ofDouble, orNull_ofText?, orNull_ofErrorCode?]
  · obtain ⟨vs, hvs, hbounded⟩ := exists_of_decode rfl (by
      simp only [List.forall_mem_cons, List.not_mem_nil, false_imp_iff, implies_true, and_true]
      exact ⟨gives_required _ (bounded_word _), gives_required _ bounded_text,
        gives_required _ bounded_real, gives_required _ bounded_text,
        gives_nullable _ bounded_null bounded_text,
        gives_nullable _ bounded_null (bounded_word _),
        gives_omittable _ bounded_null bounded_text⟩) ht
    unfold ofRead? instWireProgressAnswer at hvs
    simp only at hvs
    split at hvs
    · rename_i heq
      cases heq
      simp only [Option.bind_eq_bind, Option.bind_eq_some_iff, Option.pure_def, Option.some.injEq] at hvs
      obtain ⟨-, -, -, -, progress, hprogress, -, -, -, -, -, -, -, -, rfl⟩ := hvs
      intro n hn
      rw [List.mem_singleton.1 hn]
      exact hbounded _ (by simp) progress hprogress
    · cases hvs

theorem survives_healthAnswer : Survives HealthAnswer fun _ => [] := by
  refine .of_texts fun a => ?_
  obtain ⟨healthy, status, gpu, error⟩ := a
  refine decode_encode_record rfl (by decide)
    [⟨_, some (.bool healthy), .bool healthy⟩, ⟨_, some (.string status), .string status⟩,
      ⟨_, gpu.map .string, ofText? gpu⟩, ⟨_, some (ofText? error), ofText? error⟩] rfl ?_ ?_ ?_
  · cases gpu <;> rfl
  · simp only [List.forall_mem_cons, List.not_mem_nil, false_imp_iff, implies_true, and_true]
    exact ⟨takes_flag _, takes_text _, fits_text? _ gpu, takes_text? _⟩
  · simp only [List.map_cons, List.map_nil]
    unfold ofRead? instWireHealthAnswer
    simp [asFlag?, asText?, orNull_ofText?]

theorem survives_pingAnswer : Survives PingAnswer fun _ => [] := by
  refine .of_texts fun a => decode_encode_record rfl (by decide)
    [⟨_, some (.string a.status), .string a.status⟩,
      ⟨_, some (.string a.received), .string a.received⟩] rfl rfl ?_ rfl
  simp only [List.forall_mem_cons, List.not_mem_nil, false_imp_iff, implies_true, and_true]
  exact ⟨takes_text _, takes_text _⟩

/-- Every body survives the wire as long as its numbers do. -/
theorem bodies_survive :
    (Survives StartRequest fun r => r.trimStart.toList ++ r.trimEnd.toList) ∧
    (Survives ProgressRequest fun _ => []) ∧ (Survives HealthRequest fun _ => []) ∧
    (Survives PingRequest fun _ => []) ∧ (Survives PingAnswer fun _ => []) ∧
    (Survives StartAnswer fun _ => []) ∧ (Survives ProgressAnswer fun a => [a.progress]) ∧
    (Survives HealthAnswer fun _ => []) ∧ (Survives ArtifactRef fun _ => []) ∧
    (Survives Snapshot fun s => [s.progress]) ∧
    (Survives TrimWindow fun w => [w.start, w.stop]) :=
  ⟨survives_startRequest, survives_progressRequest, survives_healthRequest, survives_pingRequest,
    survives_pingAnswer, survives_startAnswer, survives_progressAnswer, survives_healthAnswer,
    survives_artifactRef, survives_snapshot, survives_trimWindow⟩

/-- A request that came as a list, which ends before its last bound. -/
theorem bodies_survive_sample :
    let r : StartRequest :=
      ⟨"/clips/\u00E9.mov", "a \"b\"\n", "https://u", some (.ofPlaces 15 1), none⟩
    let numbers := r.trimStart.toList ++ r.trimEnd.toList
    decode "[\"/clips/\\u00e9.mov\", \"a \\\"b\\\"\\n\", \"https://u\", 15e-1]" = .ok r ∧
      (∀ n ∈ numbers, n.isFinite = true ∧ ReadsBack (.real n)) ∧ decode (encode r) = .ok r := by
  intro r numbers
  have hread : decode "[\"/clips/\\u00e9.mov\", \"a \\\"b\\\"\\n\", \"https://u\", 15e-1]" = .ok r := by
    decide +kernel
  have hnumbers : ∀ n ∈ numbers, n.isFinite = true ∧ ReadsBack (.real n) := by decide +kernel
  exact ⟨hread, hnumbers, bodies_survive.1.read _ r hread fun n hn _ => (hnumbers n hn).2⟩

end Wire

end ClipRelay
