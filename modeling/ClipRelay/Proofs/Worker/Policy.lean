import ClipRelay.Proofs.Url.Authority
import ClipRelay.Proofs.Worker.Canonical
import ClipRelay.Proofs.Worker.Course

/-!
# Where requests without a check of the certificate go

The policy of an endpoint is decided from the host of its base URL and goes with every request of its
clients. An action is judged by the requests it sends in any world (`SendsOnly`); each part of the
work with the worker sends requests to one address only (`Endpoint.Asks`).

* `Endpoint.isTunnelHost_of_address`: a path below the base URL of a tunnel leads to a tunnel.
* `Endpoint.keepsPolicy`: a request without a check goes to a tunnel, except for the download of an
  address that the worker gives in full (`Endpoint.LeadsAway`).
* `Endpoint.unguarded_download`: such a download sends its request to the host that the worker names
  (`Endpoint.tunnel_left`).
-/

namespace ClipRelay

open Text

/-! ## The requests of an action -/

/-- In every world, all requests that an action sends have a property. -/
def SendsOnly {α : Type} (P : Request → Prop) (a : Action α) : Prop :=
  ∀ w : World, ∃ requests, (a.run w).2.sent = w.sent ++ requests ∧ ∀ r ∈ requests, P r

namespace SendsOnly

variable {α : Type} {P Q : Request → Prop}

theorem mono {a : Action α} (h : ∀ r, P r → Q r) (ha : SendsOnly P a) : SendsOnly Q a := by
  intro w
  obtain ⟨requests, hsent, hP⟩ := ha w
  exact ⟨requests, hsent, fun r hr => h r (hP r hr)⟩

end SendsOnly

/-! ## The requests of an endpoint -/

/-- The host as the policy names it. -/
def Url.hostName (u : Url) : String := lower (String.ofList u.host.chars)

namespace Endpoint

/-- A request goes to an address under the policy of an endpoint. -/
structure Asks (e : Endpoint) (address : String) (r : Request) : Prop where
  verifiesTls : r.client.verifiesTls = e.verifiesTls
  headers : r.client.headers = e.headers
  url : Url.ofText? address = some r.url

variable {settings : WorkerSettings} {e : Endpoint} {address : String}

theorem policy_of_make {client : HttpClient} (h : Client.make settings e = .ok client) :
    client.verifiesTls = e.verifiesTls ∧ client.headers = e.headers := by
  unfold Client.make HttpClient.make at h
  split at h
  · cases h
    exact ⟨rfl, rfl⟩
  · cases h

theorem ofText?_of_requestable {url : Url} (h : requestable address = .ok url) :
    Url.ofText? address = some url := by
  unfold requestable at h
  cases hread : Url.ofText? address with
  | none =>
    rw [hread] at h
    cases h
  | some url' =>
    simp only [hread] at h
    split at h
    · cases h
      rfl
    · cases h

theorem asks_of_get {r : Request} (h : Client.getOf? settings e address = some r) : e.Asks address r := by
  obtain ⟨client, url, hmake, hurl, rfl⟩ := Client.getOf_ok (Client.getOf?_eq_some.1 h)
  obtain ⟨hverify, hheaders⟩ := policy_of_make hmake
  exact ⟨hverify, hheaders, ofText?_of_requestable hurl⟩

theorem asks_of_send {s : Submission} {path accept : String} {d : Disk} {r : Request}
    (h : Client.sendOf settings e s path accept d = .ok r) : e.Asks (e.address path) r := by
  obtain ⟨client, form, url, hmake, -, hurl, rfl⟩ := Client.sendOf_ok h
  obtain ⟨hverify, hheaders⟩ := policy_of_make hmake
  exact ⟨hverify, hheaders, ofText?_of_requestable hurl⟩

end Endpoint

variable (settings : WorkerSettings) (e : Endpoint)

namespace Client

theorem sendsOnly_health : SendsOnly (e.Asks (e.address "/health")) (health settings e) := fun w => by
  rw [(health_run settings e w).1]
  exact exists_sent_attempt fun _ hr => Endpoint.asks_of_get (getOf?_eq_some.2 hr)

theorem sendsOnly_start (s : Submission) :
    SendsOnly (e.Asks (e.address "/start-job")) (start settings e s) := fun w => by
  rw [start_run]
  exact exists_sent_attempt fun _ => Endpoint.asks_of_send

/-- A poll sends the request that can be made for it. -/
theorem sendsOnly_get_poll (job : String) :
    SendsOnly (fun r => getOf? settings e (progressAddress e job) = some r) (poll settings e job) :=
  fun w => by
    rw [poll_run]
    refine exists_sent_attempt fun r hr => ?_
    by_cases h : trim job = ""
    · rw [pollOf, nonBlank?, if_pos h] at hr
      cases hr
    · exact getOf?_eq_some.2 (pollOf_of_id settings e h ▸ hr)

theorem sendsOnly_poll (job : String) :
    SendsOnly (e.Asks (progressAddress e job)) (poll settings e job) :=
  (sendsOnly_get_poll settings e job).mono fun _ => Endpoint.asks_of_get

end Client

theorem Relay.sendsOnly_connect (s : Submission) :
    SendsOnly (e.Asks (e.address "/process-stream")) (connect settings e s) := fun w => by
  rw [connect_run]
  exact Client.exists_sent_attempt fun _ => Endpoint.asks_of_send

/-- A download sends the request that can be made for its artifact. -/
theorem Download.sendsOnly_get_run (artifact : ArtifactRef) (job hint : Option String) :
    SendsOnly (fun r => Client.getOf? settings e (e.locate artifact.downloadUrl) = some r)
      (run settings e artifact job hint) := by
  intro w
  rcases run_sent settings e artifact w job hint with hsame | ⟨r, d, hr, -, -, hsent⟩
  · exact ⟨[], by rw [hsame, List.append_nil], fun r hr => by cases hr⟩
  · refine ⟨[r], hsent, fun r' hr' => ?_⟩
    rw [List.mem_singleton.1 hr']
    exact hr

theorem Download.sendsOnly_run (artifact : ArtifactRef) (job hint : Option String) :
    SendsOnly (e.Asks (e.locate artifact.downloadUrl)) (run settings e artifact job hint) :=
  (sendsOnly_get_run settings e artifact job hint).mono fun _ => Endpoint.asks_of_get

/-! ## The policy -/

/-- A request goes out without a check of the certificate and with the header for tunnels. -/
def Request.IsUnchecked (r : Request) : Prop :=
  r.client.verifiesTls = false ∧ Endpoint.bypassHeader ∈ r.client.headers

/-- A request without a check goes to the host of a tunnel. -/
def Request.IsGuarded (r : Request) : Prop :=
  r.IsUnchecked → Endpoint.isTunnelHost r.url.hostName = true

namespace Endpoint

variable {settings e} {text : String}

/-- The endpoint is a tunnel, and the worker gives the address of a download in full, with the host of
none. -/
def LeadsAway (e : Endpoint) (downloadUrl : String) : Prop :=
  e.tunnel = true ∧ (Scheme.http.leads downloadUrl || Scheme.https.leads downloadUrl) = true ∧
    ∃ u, Url.ofText? downloadUrl = some u ∧ isTunnelHost u.hostName = false

/-- What is unchecked is decided by the endpoint alone. -/
theorem Asks.isUnchecked_iff {address : String} {r : Request} (h : e.Asks address r) :
    r.IsUnchecked ↔ e.tunnel = true := by
  rw [Request.IsUnchecked, h.verifiesTls, h.headers, Endpoint.verifiesTls, Endpoint.headers]
  cases e.tunnel <;> simp

/-- The base URL of a tunnel has the host of one. -/
theorem baseUrl_of_tunnel (h : ofText text = .ok e) (ht : e.tunnel = true) :
    ∃ rest u, e.baseUrl = "https://" ++ rest ∧ Url.ofText? ("https://" ++ rest) = some u ∧
      isTunnelHost u.hostName = true := by
  obtain ⟨-, host, hhost, he⟩ := ofText_eq_ok_iff.1 h
  obtain ⟨u, hu, rfl⟩ := Option.map_eq_some_iff.1 hhost
  by_cases htunnel : isTunnelHost (lower (String.ofList u.host.chars)) = true
  · rw [if_pos htunnel] at he
    exact ⟨_, u, by rw [he]; rfl, hu, htunnel⟩
  · rw [if_neg htunnel] at he
    rw [he] at ht
    cases ht

/-- A path below the base URL of a tunnel leads to a tunnel. -/
theorem isTunnelHost_of_address (h : ofText text = .ok e) (ht : e.tunnel = true) {path : String}
    {v : Url} (hv : Url.ofText? (e.address path) = some v) : isTunnelHost v.hostName = true := by
  obtain ⟨rest, u, hbase, hu, htunnel⟩ := baseUrl_of_tunnel h ht
  have haddress : (e.address path).toList =
      "https://".toList ++ (rest.toList ++ '/' :: path.toList.dropWhile (· == '/')) := by
    simp [address, hbase]
  rw [Url.ofText?, haddress] at hv
  rw [Url.ofText?, String.toList_append] at hu
  rwa [Url.hostName, Url.host_eq_of_path hu hv]

theorem Asks.isGuarded_of_address (h : ofText text = .ok e) {path : String} {r : Request}
    (hr : e.Asks (e.address path) r) : r.IsGuarded :=
  fun hunchecked => isTunnelHost_of_address h (hr.isUnchecked_iff.1 hunchecked) hr.url

/-- The request for an artifact is guarded unless it leads away. -/
theorem Asks.not_isGuarded_iff (h : ofText text = .ok e) {downloadUrl : String} {r : Request}
    (hr : e.Asks (e.locate downloadUrl) r) : ¬ r.IsGuarded ↔ e.LeadsAway downloadUrl := by
  have hunguarded : ¬ r.IsGuarded ↔ e.tunnel = true ∧ isTunnelHost r.url.hostName = false := by
    rw [Request.IsGuarded, Classical.not_imp, hr.isUnchecked_iff, Bool.not_eq_true]
  rw [hunguarded, LeadsAway]
  refine and_congr_right fun ht => ?_
  by_cases hleads : (Scheme.http.leads downloadUrl || Scheme.https.leads downloadUrl) = true
  · have hurl : Url.ofText? downloadUrl = some r.url := by
      have hurl := hr.url
      rwa [locate, if_pos hleads] at hurl
    simp [hleads, hurl]
  · have hurl : Url.ofText? (e.address downloadUrl) = some r.url := by
      have hurl := hr.url
      rwa [locate, if_neg hleads] at hurl
    simp [hleads, isTunnelHost_of_address h ht hurl]

/-- The requests of an endpoint's clients are guarded: those for the health of the worker, for a new
job, for its progress and for its stream always, and the one for an artifact exactly when it does not
lead away. -/
structure KeepsPolicy (settings : WorkerSettings) (e : Endpoint) : Prop where
  health : SendsOnly Request.IsGuarded (Client.health settings e)
  start : ∀ s, SendsOnly Request.IsGuarded (Client.start settings e s)
  poll : ∀ job, SendsOnly Request.IsGuarded (Client.poll settings e job)
  connect : ∀ s, SendsOnly Request.IsGuarded (Relay.connect settings e s)
  download : ∀ artifact job hint,
    SendsOnly (fun r => ¬ r.IsGuarded ↔ e.LeadsAway artifact.downloadUrl)
      (Download.run settings e artifact job hint)

/-- Every endpoint that a text stands for keeps its policy. -/
theorem keepsPolicy (settings : WorkerSettings) {text : String} {e : Endpoint}
    (h : ofText text = .ok e) : KeepsPolicy settings e where
  health := (Client.sendsOnly_health settings e).mono fun _ hr => hr.isGuarded_of_address h
  start s := (Client.sendsOnly_start settings e s).mono fun _ hr => hr.isGuarded_of_address h
  poll job := (Client.sendsOnly_poll settings e job).mono fun _ hr => hr.isGuarded_of_address h
  connect s := (Relay.sendsOnly_connect settings e s).mono fun _ hr => hr.isGuarded_of_address h
  download artifact job hint :=
    (Download.sendsOnly_run settings e artifact job hint).mono fun _ hr => hr.not_isGuarded_iff h

/-! ## Tunnels that are left -/

/-- A tunnel. -/
def sampleTunnel : Endpoint := ⟨"https://abc.ngrok-free.app", true⟩

theorem ofText_sampleTunnel : ofText "https://abc.ngrok-free.app" = .ok sampleTunnel := by
  decide +kernel

/-- A text that stands for a tunnel. -/
theorem keepsPolicy_sample :
    ofText "https://abc.ngrok-free.app" = .ok sampleTunnel ∧ KeepsPolicy {} sampleTunnel :=
  ⟨ofText_sampleTunnel, keepsPolicy {} ofText_sampleTunnel⟩

/-- The request for an artifact that leads away is sent when there is no artifact yet. -/
theorem unguarded_download (h : ofText text = .ok e) {artifact : ArtifactRef} {job hint : Option String}
    {w : World} {d : Disk} {r : Request} (haway : e.LeadsAway artifact.downloadUrl)
    (hget : Client.getOf? settings e (e.locate artifact.downloadUrl) = some r)
    (hmade : w.disk.makeDirAll settings.outputDir = .ok d)
    (hsize : Download.sizeAt? d (Download.planIn settings artifact job hint w).target = none) :
    ((Download.run settings e artifact job hint).run w).2.sent = w.sent ++ [r] ∧ ¬ r.IsGuarded :=
  ⟨Download.run_sent_of_missing settings e artifact w hget hmade hsize,
    (asks_of_get hget).not_isGuarded_iff h |>.2 haway⟩

/-- An artifact of a host that is no tunnel. -/
def farArtifact : ArtifactRef := ⟨"https://cdn.example.com/x.mp4", "x.mp4"⟩

def farUrl : Url := ⟨.https, .domain "cdn.example.com".toList, none, ["x.mp4".toList], none, none⟩

/-- The request for it under the policy of a tunnel. -/
def farRequest : Request :=
  ⟨⟨"ChatCut-Backend/1.0", [bypassHeader], false⟩, .get, farUrl, acceptAll, none⟩

theorem ofText?_farArtifact : Url.ofText? farArtifact.downloadUrl = some farUrl := by decide +kernel

theorem leadsAway_farArtifact : sampleTunnel.LeadsAway farArtifact.downloadUrl :=
  ⟨rfl, by decide +kernel, farUrl, ofText?_farArtifact, by decide +kernel⟩

theorem getOf?_farArtifact :
    Client.getOf? {} sampleTunnel (sampleTunnel.locate farArtifact.downloadUrl) = some farRequest := by
  have hclient : Client.make {} sampleTunnel = .ok farRequest.client := by decide +kernel
  have hrequestable : farUrl.isRequestable = true := by decide +kernel
  have hurl : requestable farArtifact.downloadUrl = .ok farUrl := by
    rw [requestable, ofText?_farArtifact]
    exact if_pos hrequestable
  have hlocate : sampleTunnel.locate farArtifact.downloadUrl = farArtifact.downloadUrl :=
    if_pos leadsAway_farArtifact.2.1
  rw [hlocate, Client.getOf?, hclient, Except.toOption, Option.bind_some, World.askOf?, hurl]
  rfl

/-- The request for an artifact may go to a host that is no tunnel, without a check of its certificate. -/
theorem tunnel_left :
    ¬ ∀ (settings : WorkerSettings) (text : String) (e : Endpoint) (artifact : ArtifactRef)
      (job hint : Option String), ofText text = .ok e →
      SendsOnly Request.IsGuarded (Download.run settings e artifact job hint) := by
  intro h
  obtain ⟨d, hmade, hsize⟩ : ∃ d, Service.sampleWorld.disk.makeDirAll "output" = .ok d ∧
      Download.sizeAt? d (Download.planIn {} farArtifact none none Service.sampleWorld).target = none :=
    ⟨_, rfl, by decide +kernel⟩
  obtain ⟨hsent, hunguarded⟩ := unguarded_download ofText_sampleTunnel leadsAway_farArtifact
    getOf?_farArtifact hmade hsize
  obtain ⟨requests, hrequests, hguarded⟩ :=
    h {} _ _ farArtifact none none ofText_sampleTunnel Service.sampleWorld
  rw [hsent, List.append_cancel_left_eq] at hrequests
  exact hunguarded (hguarded _ (by rw [← hrequests]; exact List.mem_singleton_self _))

end Endpoint

end ClipRelay
