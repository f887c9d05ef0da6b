import ClipRelay.Proofs.Service.Answers
import ClipRelay.Proofs.Url.Below
import ClipRelay.Proofs.Worker.Canonical
import ClipRelay.Proofs.Worker.Policy

/-!
# Which job a poll asks about

The id of a job stands as it is in the address of its progress, and that address is read as any other.
An id that means itself at the end of an address (`Url.IsLiteral`) ends what is sent to the worker.

* `Client.poll_below`: such a poll asks below the place for the progress.
* `Endpoint.polls_apart`: so polls of different jobs ask for different things.
* `Endpoint.polls_collapse`: polls of other jobs may ask for the same.
-/

namespace ClipRelay

open Text

variable {settings settings' : WorkerSettings} {text : String} {e : Endpoint} {job job' : String}
  {w w' : World} {r r' : Request}

namespace Endpoint

/-- The base URL is an address with a scheme and an authority. -/
theorem exists_authority (h : ofText text = .ok e) :
    ∃ (s : Scheme) (rest : String), e.baseUrl = s.name ++ "://" ++ rest ∧
      Url.authorityOf (rest.toList.filter (!Url.isBreak ·)) ≠ [] := by
  obtain ⟨s, hbase, -, host, hhost, -⟩ := (ofText_eq_ok_iff.1 h).exists_scheme
  refine ⟨s, _, hbase, ?_⟩
  generalize dropSlashes (splitScheme (trim text)).2 = rest at *
  obtain ⟨u, hu, -⟩ := Option.map_eq_some_iff.1 hhost
  rw [Url.ofText?, String.toList_append] at hu
  obtain ⟨read, hread, hhost, hport⟩ := Url.read?_eq_some hu
  have hscheme : (Scheme.https.name ++ "://").toList = "https://".toList := rfl
  rw [hscheme, Url.clean_https, Url.splitScheme?_https] at hread
  obtain ⟨-, rfl⟩ := Prod.mk.inj (Option.some.inj hread)
  rw [Url.authorityOf_slashes] at hhost hport
  -- What does not count at the end of the base URL counts when an address goes on behind it.
  obtain ⟨edges, hrest, -⟩ := exists_append_dropEndWhile Url.isEdge rest.toList
  rw [hrest, List.filter_append]
  exact Url.authorityOf_append_ne_nil (Url.authorityOf_ne_nil ⟨hhost, hport⟩) _

theorem toList_address {s : Scheme} {rest : String} (hbase : e.baseUrl = s.name ++ "://" ++ rest)
    (id : String) : (e.address ("/progress/" ++ id)).toList =
      (s.name ++ "://").toList ++ (rest.toList ++ '/' :: ("progress".toList ++ '/' :: id.toList)) := by
  have hpath : ("/progress/" ++ id).toList.dropWhile (· == '/') =
      "progress".toList ++ '/' :: id.toList := by
    rw [String.toList_append]
    rfl
  rw [address, hbase, hpath]
  simp

end Endpoint

namespace Client

/-- A poll that sends a request is of a job with an id, and the request is the one for its progress. -/
theorem get_of_sent (h : ((poll settings e job).run w).2.sent = w.sent ++ [r]) :
    trim job ≠ "" ∧ getOf? settings e (progressAddress e job) = some r := by
  obtain ⟨requests, hsent, hrequests⟩ := sendsOnly_get_poll settings e job w
  rw [h, List.append_cancel_left_eq] at hsent
  refine ⟨fun hblank => ?_, hrequests r (hsent ▸ List.mem_singleton_self r)⟩
  rw [poll, nonBlank?, if_pos hblank] at h
  exact List.cons_ne_nil _ _ (List.self_eq_append_right.1 h)

/-- A poll of a job whose id means itself asks below the place for the progress, for the id as paths and
queries are spelled. -/
theorem poll_below (he : Endpoint.ofText text = .ok e) (hquery : '?' ∉ e.baseUrl.toList)
    (hfragment : '#' ∉ e.baseUrl.toList) (hjob : Url.IsLiteral (trim job).toList)
    (h : ((poll settings e job).run w).2.sent = w.sent ++ [r]) :
    ∃ root, Url.ofText? (e.address "/progress/") = some root ∧
      "/progress/".toList <:+ root.targetChars ∧
      r.url.targetChars = root.targetChars ++ Url.spelled (trim job).toList := by
  obtain ⟨-, hget⟩ := get_of_sent h
  have hurl := (Endpoint.asks_of_get hget).url
  obtain ⟨s, rest, hbase, hne⟩ := Endpoint.exists_authority he
  have hrest : ∀ c, c ∈ rest.toList → c ∈ e.baseUrl.toList := fun c hc => by
    rw [hbase, String.toList_append]
    exact List.mem_append_right _ hc
  obtain ⟨front, hfront⟩ := Url.exists_front s hne (fun hmem => hquery (hrest _ hmem))
    (fun hmem => hfragment (hrest _ hmem))
  rw [progressAddress, Url.ofText?, Endpoint.toList_address hbase] at hurl
  obtain ⟨htarget, hothers⟩ := hfront _ _ hjob hurl
  -- The place itself is the address of no id.
  obtain ⟨root, hroot⟩ := hothers [] Url.isLiteral_nil
  obtain ⟨hplace, -⟩ := hfront _ _ Url.isLiteral_nil hroot
  rw [Url.spelled_nil, List.append_nil] at hplace
  refine ⟨root, ?_, ⟨front, hplace.symm⟩, by rw [htarget, hplace]⟩
  have haddress := Endpoint.toList_address hbase ""
  rw [String.append_empty] at haddress
  rw [Url.ofText?, haddress]
  exact hroot

end Client

namespace Endpoint

/-- Polls of two jobs whose ids mean themselves ask for the same thing just when the ids are spelled
alike, and so, without percent signs, when they are one id. Both ask for something below the place for
the progress. -/
theorem polls_apart (he : ofText text = .ok e) (hquery : '?' ∉ e.baseUrl.toList)
    (hfragment : '#' ∉ e.baseUrl.toList) (hjob : Url.IsLiteral (trim job).toList)
    (hjob' : Url.IsLiteral (trim job').toList)
    (hsent : ((Client.poll settings e job).run w).2.sent = w.sent ++ [r])
    (hsent' : ((Client.poll settings' e job').run w').2.sent = w'.sent ++ [r']) :
    (r.target = r'.target ↔ Url.spelled (trim job).toList = Url.spelled (trim job').toList) ∧
    ('%' ∉ (trim job).toList → '%' ∉ (trim job').toList →
      (r.target = r'.target ↔ trim job = trim job')) ∧
    ∃ root, Url.ofText? (e.address "/progress/") = some root ∧
      "/progress/".toList <:+ root.targetChars ∧
      ∀ q ∈ [r, r'], root.targetChars <+: q.url.targetChars ∧ q.url.targetChars ≠ root.targetChars := by
  obtain ⟨root, hroot, hplace, htarget⟩ := Client.poll_below he hquery hfragment hjob hsent
  obtain ⟨root', hroot', -, htarget'⟩ := Client.poll_below he hquery hfragment hjob' hsent'
  obtain rfl := Option.some.inj (hroot.symm.trans hroot')
  have hsame : r.target = r'.target ↔
      Url.spelled (trim job).toList = Url.spelled (trim job').toList := by
    rw [Request.target, Request.target, Url.target, Url.target, String.ofList_inj, htarget, htarget',
      List.append_cancel_left_eq]
  have hbelow : ∀ {cs : List Char} {id : String}, id ≠ "" →
      cs = root.targetChars ++ Url.spelled id.toList →
      root.targetChars <+: cs ∧ cs ≠ root.targetChars := fun hid hcs => by
    have hspelled := Url.spelled_ne_nil (mt String.toList_eq_nil_iff.1 hid)
    rw [hcs]
    exact ⟨List.prefix_append _ _, fun heq => hspelled (List.append_right_eq_self.1 heq)⟩
  refine ⟨hsame, fun hpercent hpercent' => hsame.trans ⟨fun h => ?_, fun h => by rw [h]⟩, root, hroot,
    hplace, ?_⟩
  · exact String.toList_inj.1 (Url.spelled_inj hpercent hpercent' h)
  · intro q hq
    rcases List.mem_cons.1 hq with rfl | hq
    · exact hbelow (Client.get_of_sent hsent).1 htarget
    · obtain rfl := List.mem_singleton.1 hq
      exact hbelow (Client.get_of_sent hsent').1 htarget'

theorem ofText_sampleEndpoint : ofText "http://[::1]:8080" = .ok Relay.sampleEndpoint := by
  decide +kernel

/-- Ids with slashes, a question mark and a space, which are spelled in different ways. -/
theorem polls_apart_sample :
    ofText "http://[::1]:8080" = .ok Relay.sampleEndpoint ∧
    '?' ∉ Relay.sampleEndpoint.baseUrl.toList ∧ '#' ∉ Relay.sampleEndpoint.baseUrl.toList ∧
    Url.IsLiteral (trim " a b ").toList ∧ Url.IsLiteral (trim "a/b?c").toList ∧
    ∃ r r', ((Client.poll {} Relay.sampleEndpoint " a b ").run Service.sampleWorld).2.sent =
        Service.sampleWorld.sent ++ [r] ∧
      ((Client.poll {} Relay.sampleEndpoint "a/b?c").run Service.sampleWorld).2.sent =
        Service.sampleWorld.sent ++ [r'] ∧
      r.target ≠ r'.target := by
  have hget : ∀ id ∈ [" a b ", "a/b?c"], (Client.getOf? {} Relay.sampleEndpoint
      (Client.progressAddress Relay.sampleEndpoint id)).isSome = true := by decide +kernel
  obtain ⟨r, hr⟩ := Option.isSome_iff_exists.1 (hget " a b " (by simp))
  obtain ⟨r', hr'⟩ := Option.isSome_iff_exists.1 (hget "a/b?c" (by simp))
  have hsent := (Client.poll_of_get {} _ Service.sampleWorld (by decide) hr).1
  have hsent' := (Client.poll_of_get {} _ Service.sampleWorld (by decide) hr').1
  have hjob : Url.IsLiteral (trim " a b ").toList := by decide
  have hjob' : Url.IsLiteral (trim "a/b?c").toList := by decide
  obtain ⟨-, hids, -⟩ :=
    polls_apart ofText_sampleEndpoint (by decide) (by decide) hjob hjob' hsent hsent'
  refine ⟨ofText_sampleEndpoint, by decide, by decide, hjob, hjob', r, r', hsent, hsent', ?_⟩
  exact fun h => absurd ((hids (by decide) (by decide)).1 h) (by decide)

/-- Polls of different jobs may ask for the same: dots in an id lead up from it. -/
theorem polls_collapse :
    ¬ ∀ (settings : WorkerSettings) (text : String) (e : Endpoint) (job job' : String) (w : World)
      (r r' : Request), ofText text = .ok e → '?' ∉ e.baseUrl.toList → '#' ∉ e.baseUrl.toList →
      trim job ≠ "" → trim job' ≠ "" → trim job ≠ trim job' →
      ((Client.poll settings e job).run w).2.sent = w.sent ++ [r] →
      ((Client.poll settings e job').run w).2.sent = w.sent ++ [r'] → r.target ≠ r'.target := by
  intro h
  have hget : ∀ id ∈ ["b", "a/../b"], (Client.getOf? {} Relay.sampleEndpoint
      (Client.progressAddress Relay.sampleEndpoint id)).any (·.target = "/progress/b") = true := by
    decide +kernel
  obtain ⟨r, hr, htarget⟩ := (Option.any_eq_true ..).1 (hget "b" (by simp))
  obtain ⟨r', hr', htarget'⟩ := (Option.any_eq_true ..).1 (hget "a/../b" (by simp))
  refine h {} _ _ "b" "a/../b" Service.sampleWorld r r' ofText_sampleEndpoint (by decide) (by decide)
    (by decide) (by decide) (by decide) (Client.poll_of_get {} _ _ (by decide) hr).1
    (Client.poll_of_get {} _ _ (by decide) hr').1 ?_
  exact (of_decide_eq_true htarget).trans (of_decide_eq_true htarget').symm

end Endpoint

end ClipRelay
