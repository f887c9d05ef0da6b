import ClipRelay.Proofs.Json.Grammar
import ClipRelay.Proofs.Text.Case
import ClipRelay.Proofs.Text.Utf8
import ClipRelay.Proofs.Worker.Course

/-!
# Pages in place of JSON

A body that is no JSON is named for what it is by all who read bodies of the worker: the start of a
job, a poll and a health check.

* `WarningPage.recognizes_of_shows`: no text around a mark hides it, and neither does its case.
* `WarningPage.not_recognizes_of_unmarked`: a page without marks in lower case is none.
* `Client.start_of_reply`, `Client.poll_of_reply`, `Client.health_of_reply`: what is made of a reply.
* `WarningPage.pages_are_named`: all of this for bodies that are no JSON.
-/

namespace ClipRelay

open Text Json.Read

/-! ## Marks -/

namespace WarningPage

/-- A run of the text is this mark, but for the case of ASCII letters. -/
def Carries (body mark : String) : Prop :=
  ∃ before run after, body.toList = before ++ run ++ after ∧ run.map Char.toLower = mark.toList

/-- The text shows an HTML document, or the name of the tunnel and one of the words of its
warning. -/
def Shows (body : String) : Prop :=
  Carries body "<!doctype html" ∨ Carries body "<html" ∨
    Carries body "ngrok" ∧
      (Carries body "warning" ∨ Carries body "browser" ∨ Carries body "potential threat")

/-- In lower case the text shows neither an HTML document nor the name of the tunnel. -/
def Unmarked (body : String) : Prop :=
  ∀ mark ∈ ["<!doctype html", "<html", "ngrok"], ¬ mark.toList <:+: (lower body).toList

/-- A mark is found in the lower case of a text that carries it. -/
theorem holds_lower {body mark : String} (hascii : mark.toList.all isAscii = true)
    (h : Carries body mark) : holds (lower body) mark = true := by
  obtain ⟨before, run, after, hbody, hrun⟩ := h
  have hascii : ∀ c ∈ run, isAscii c = true := fun c hc =>
    isAscii_of_toLower (List.all_eq_true.1 hascii _ (hrun ▸ List.mem_map_of_mem hc))
  rw [holds_iff, lower, String.toList_ofList, hbody, ← hrun]
  exact isInfix_lowerChars hascii before after

theorem recognizes_of_shows {body : String} (h : Shows body) : recognizes body = true := by
  simp only [recognizes, marked, documentMarks, tunnelName, warningWords, List.any_cons,
    List.any_nil, Bool.or_false, Bool.or_eq_true, Bool.and_eq_true]
  rcases h with hdoctype | hhtml | ⟨hname, hword⟩
  · exact .inl (.inl (holds_lower (by decide) hdoctype))
  · exact .inl (.inr (holds_lower (by decide) hhtml))
  · refine .inr ⟨holds_lower (by decide) hname, ?_⟩
    rcases hword with hwarning | hbrowser | hthreat
    · exact .inl (holds_lower (by decide) hwarning)
    · exact .inr (.inl (holds_lower (by decide) hbrowser))
    · exact .inr (.inr (holds_lower (by decide) hthreat))

theorem not_recognizes_of_unmarked {body : String} (h : Unmarked body) :
    recognizes body = false := by
  have hlacks (mark : String) (hmark : mark ∈ ["<!doctype html", "<html", "ngrok"]) :
      holds (lower body) mark = false :=
    Bool.eq_false_iff.2 fun hholds => h mark hmark ((holds_iff _ _).1 hholds)
  simp [recognizes, marked, documentMarks, tunnelName, hlacks]

end WarningPage

namespace WorkerFault

theorem code_ofBody_of_shows {body : String} (h : WarningPage.Shows body) :
    (ofBody body).code = .warningPage := by
  rw [ofBody, if_pos (WarningPage.recognizes_of_shows h)]
  rfl

theorem ofBody_of_unmarked {body : String} (h : WarningPage.Unmarked body) :
    ofBody body = .invalidResponse (firstChars maxQuote body) := by
  rw [ofBody, WarningPage.not_recognizes_of_unmarked h]
  rfl

end WorkerFault

/-! ## Bodies that are no JSON -/

section

variable {α : Type} [Wire α]

theorem not_ok_decode {body : String} (hread : Sound (Wire.read α)) (h : ¬ Json.IsJson body.toList)
    (x : α) : Wire.decode body ≠ .ok x := by
  intro hok
  obtain ⟨v, hv, -⟩ := bind_eq_ok.1 hok
  exact h (isJson_of_glyphsOf hread hv)

theorem sound_omittable (name : String) {read : Reader} (h : Sound read) :
    Sound (Field.omittable name read).read := sound_optional h

theorem sound_healthPayload : Sound (Wire.read HealthPayload) := by
  refine sound_record fun f hf => ?_
  simp only [List.mem_cons, List.not_mem_nil, or_false] at hf
  rcases hf with rfl | rfl
  · exact sound_omittable _ sound_text
  · exact sound_omittable _ sound_value

theorem sound_startPayload : Sound (Wire.read StartPayload) := by
  refine sound_record fun f hf => ?_
  simp only [List.mem_cons, List.not_mem_nil, or_false] at hf
  rcases hf with rfl | rfl | rfl
  · exact sound_omittable _ sound_value
  · exact sound_omittable _ sound_text
  · exact sound_omittable _ sound_text

end

namespace Client

section

variable {r : Reply} {body : String} (htext : r.text = .ok body)
  (hjson : ¬ Json.IsJson body.toList)
include htext hjson

theorem readBody_eq_ofBody {α : Type} [Wire α] (hread : Sound (Wire.read α)) :
    readBody α r = .error (.ofBody body) := by
  rw [readBody, htext]
  simp only
  split
  · rename_i x hx
    exact absurd hx (not_ok_decode hread hjson x)
  · rfl

theorem readReport_eq_ofBody : readReport r = .error (.ofBody body) := by
  rw [readReport, htext]
  simp only
  split
  · rfl
  · rename_i v hv
    exact absurd (isJson_of_glyphsOf sound_value hv) hjson

variable (hsuccess : r.isSuccess = true)
include hsuccess

theorem startedOf_eq_ofBody (s : Submission) : startedOf s r = .error (.ofBody body) := by
  rw [startedOf, hsuccess, readBody_eq_ofBody htext hjson sound_startPayload]
  rfl

theorem reportOf_eq_ofBody : reportOf r = .error (.ofBody body) := by
  rw [reportOf, hsuccess, readReport_eq_ofBody htext hjson]
  rfl

theorem healthOf_eq_ofBody : healthOf r = .unhealthy (WorkerFault.ofBody body).message := by
  rw [healthOf, hsuccess, readBody_eq_ofBody htext hjson sound_healthPayload]
  rfl

end

end Client

namespace WarningPage

/-- A body that is no JSON and arrives whole is one failure for all who ask the worker. It is that of
a warning page, if the body shows one in any case and amid any text; it quotes the start of the body,
if the lower case of the body bears no mark. -/
theorem pages_are_named {reply : Reply} {body : String} (hsuccess : reply.isSuccess = true)
    (htext : reply.text = .ok body) (hjson : ¬ Json.IsJson body.toList) : ∃ f : WorkerFault,
    (Shows body → f.code = .warningPage) ∧
    (Unmarked body → f.code = .invalidResponse ∧ ∃ quote : String,
      f.message = "Invalid response from Colab server: " ++ quote ∧
        quote.toList <+: body.toList ∧ quote.toList.length ≤ 200) ∧
    ∀ (settings : WorkerSettings) (e : Endpoint) (w : World) (request : Request),
      (w.network.deliver request).1 = .reply reply →
      (∀ s, Client.postOf? settings e s w.disk = some request → request.upload ≠ none →
        ((Client.start settings e s).run w).1 = .error f) ∧
      (∀ job, trim job ≠ "" →
        Client.getOf? settings e (Client.progressAddress e job) = some request →
        ((Client.poll settings e job).run w).1 = .error f) ∧
      (Client.getOf? settings e (e.address "/health") = some request →
        ((Client.health settings e).run w).1 = .unhealthy f.message) := by
  refine ⟨.ofBody body, WorkerFault.code_ofBody_of_shows, fun h => ?_,
    fun settings e w request hreply => ⟨fun s hpost hupload => ?_, fun job hjob hget => ?_,
      fun hget => ?_⟩⟩
  · rw [WorkerFault.ofBody_of_unmarked h]
    refine ⟨rfl, firstChars WorkerFault.maxQuote body, rfl, ?_, ?_⟩
    · rw [firstChars, String.toList_ofList]
      exact List.take_prefix _ _
    · rw [firstChars, String.toList_ofList]
      exact List.length_take_le _ _
  · rw [Client.start_of_reply hpost hupload hreply,
      Client.startedOf_eq_ofBody htext hjson hsuccess]
  · rw [Client.poll_of_reply hjob hget hreply, Client.reportOf_eq_ofBody htext hjson hsuccess]
  · rw [Client.health_of_reply hget hreply, Client.healthOf_eq_ofBody htext hjson hsuccess]

/-- A page between characters whose lower case depends on what stands around them. -/
def samplePage : String := "ΑΣ<!DocType HTML>İΣ"

def sampleReply : Reply := ⟨200, none, [bytesOf samplePage], true⟩

/-- A worker behind a tunnel that answers everything with the page. -/
def sampleWorld : World where
  disk := ⟨[(["a.mp4"], .file [1, 2, 3])]⟩
  network := .single "[::1]:8080" [("POST /start-job", [.reply sampleReply]),
    ("GET /progress/j", [.reply sampleReply]), ("GET /health", [.reply sampleReply])]
  tools := .empty
  rehearsed := []
  clock := 0
  drawn := 0

theorem pages_are_named_sample :
    ¬ Json.IsJson samplePage.toList ∧ Shows samplePage ∧ ∃ f : WorkerFault, f.code = .warningPage ∧
      ((Client.start {} Relay.sampleEndpoint Relay.sampleSubmission).run sampleWorld).1 = .error f ∧
      ((Client.poll {} Relay.sampleEndpoint "j").run sampleWorld).1 = .error f ∧
      ((Client.health {} Relay.sampleEndpoint).run sampleWorld).1 = .unhealthy f.message := by
  have hjson : ¬ Json.IsJson samplePage.toList :=
    Json.not_isJson_cons (c := 'Α') (by decide) (by decide) samplePage.toList.tail
  have hshows : Shows samplePage := .inl
    ⟨"ΑΣ".toList, "<!DocType HTML".toList, ">İΣ".toList, by decide +kernel, by decide +kernel⟩
  have htext : sampleReply.text = .ok samplePage := by
    simp [sampleReply, Reply.text, lossy_bytesOf]
  -- The page answers each of the three requests.
  have hpost : (Client.postOf? {} Relay.sampleEndpoint Relay.sampleSubmission sampleWorld.disk).any
      (fun r => r.upload.isSome && (sampleWorld.network.deliver r).1 = .reply sampleReply) = true := by
    decide +kernel
  have hget : (Client.getOf? {} Relay.sampleEndpoint
      (Client.progressAddress Relay.sampleEndpoint "j")).any
      (fun r => (sampleWorld.network.deliver r).1 = .reply sampleReply) = true := by
    decide +kernel
  have hhealth : (Client.getOf? {} Relay.sampleEndpoint
      (Relay.sampleEndpoint.address "/health")).any
      (fun r => (sampleWorld.network.deliver r).1 = .reply sampleReply) = true := by
    decide +kernel
  obtain ⟨post, hpost, hposted⟩ := (Option.any_eq_true ..).1 hpost
  obtain ⟨hupload, hposted⟩ := Bool.and_eq_true_iff.1 hposted
  obtain ⟨get, hget, hgot⟩ := (Option.any_eq_true ..).1 hget
  obtain ⟨health, hhealth, hhealthy⟩ := (Option.any_eq_true ..).1 hhealth
  obtain ⟨f, hcode, -, hnamed⟩ := pages_are_named (by decide) htext hjson
  refine ⟨hjson, hshows, f, hcode hshows, ?_, ?_, ?_⟩
  · exact (hnamed _ _ _ _ (of_decide_eq_true hposted)).1 _ hpost
      (Option.isSome_iff_ne_none.1 hupload)
  · exact (hnamed _ _ _ _ (of_decide_eq_true hgot)).2.1 "j" (by decide) hget
  · exact (hnamed _ _ _ _ (of_decide_eq_true hhealthy)).2.2 hhealth

end WarningPage

end ClipRelay
