import ClipRelay.Proofs.Artifact.Races
import ClipRelay.Proofs.Relay.Ends

/-!
# Streams that their deadline stops

The deadline stops a stream where it waits (`Relay.Waits`), and from then on the stream does nothing. The
working file of a download is deleted by a move of this download, so a download that is stopped while it
has the file open leaves it.

* `Relay.Waits.exists_take`: where a stream waits, the client has got its first events.
* `Relay.exists_waits_run`: a stream that is not stopped leaves the disk of its last wait.
* `Relay.deadline_leaves`: what a stream has left that is stopped anywhere.
* `Relay.deadline_leaves_part`: a working file that nothing deletes.
-/

namespace ClipRelay

open Disk Text

/-! ## One download -/

namespace Downloads

/-- A download with no others beside it makes the moves of a download. -/
theorem after_alone {settings : WorkerSettings} {c : DownloadOrder} (r : Downloads Unit)
    (moves : List TransferMove) :
    (r.after settings (fun _ => c) (moves.map ((), ·))).disk =
      ((r.loaders ()).transfer.after (c.plan settings) moves r.disk).2 := by
  induction moves generalizing r with
  | nil => rfl
  | cons m moves ih =>
    rw [List.map_cons, after_cons, ih]
    simp only [next, Function.update_self]
    rfl

end Downloads

namespace Download

/-- A run of a download leaves what some moves leave. -/
theorem exists_moves_run (settings : WorkerSettings) (e : Endpoint) (artifact : ArtifactRef)
    (job hint : Option String) (w : World) :
    ∃ moves, (Transfer.looking.after (planIn settings artifact job hint w) moves w.disk).2 =
      ((run settings e artifact job hint).run w).2.disk := by
  rw [run_eq]
  generalize planIn settings artifact job hint w = p
  obtain ⟨moves, t, hlooked, ht⟩ := Transfer.exists_moves p [.go] (t := .looking) rfl w.disk
  simp only
  cases hs : (steps p .looking [.go] w.disk).1 with
  | missing =>
    have hmissing : t = .missing := by
      rw [hs] at ht
      cases t <;> cases ht
      rfl
    simp only [request_disk]
    generalize ((request settings e artifact.downloadUrl).run _).1 = events
    obtain ⟨more, t', hlast, -⟩ := Transfer.exists_moves p events (t := .missing) rfl
      (steps p .looking [.go] w.disk).2
    refine ⟨moves ++ more, ?_⟩
    rw [Transfer.after_append, hlooked, hmissing, hlast]
  | _ => exact ⟨moves, by rw [hlooked]⟩

end Download

/-! ## Streams -/

namespace Relay

variable (settings : WorkerSettings) (e : Endpoint) (s : Submission) (c : DownloadOrder)

/-- A stream that has begun in this world waits: the client has got these events, and this has become of
the download. -/
inductive Waits (w : World) : List Event → Downloads Unit → Prop
  /-- The worker has not answered yet, or the client is to hear why not. -/
  | connecting : Waits w [] (.start w.disk)
  /-- More of the body is to arrive, or the client is to take an event. -/
  | relaying {reply : Reply} {w₁ : World} (n : Nat) :
    (connect settings e s).run w = (.ok reply, w₁) →
    Waits w ((passed (bodyEvents reply.chunks.flatten reply.whole)).take n) (.start w₁.disk)
  /-- The download is to go on, or the client is to hear how it has ended. -/
  | fetching {reply : Reply} {w₁ : World} {v : Json} (moves : List (Unit × TransferMove)) :
    (connect settings e s).run w = (.ok reply, w₁) →
    firstEnd? (bodyEvents reply.chunks.flatten reply.whole) = some v →
    Ending.ofEvent v = .fetch c.artifact c.job → c.hint = s.hint? →
    Waits w (passed (bodyEvents reply.chunks.flatten reply.whole) ++ [downloadingEvent])
      ((Downloads.start w₁.disk).after settings (fun _ => c) moves)

/-- To connect touches no file. -/
theorem connect_disk (w : World) : ((connect settings e s).run w).2.disk = w.disk := by
  rw [connect_run]
  exact Client.attempt_disk _ _ w

variable {settings e s c} {w : World} {sent : List Event} {r : Downloads Unit}

/-- What a waiting stream has done on disk are moves of its download. -/
theorem Waits.exists_moves (h : Waits settings e s c w sent r) :
    ∃ moves, r = (Downloads.start w.disk).after settings (fun _ => c) moves := by
  have hdisk : ∀ {reply w₁}, (connect settings e s).run w = (.ok reply, w₁) → w₁.disk = w.disk := by
    intro reply w₁ hconnect
    rw [← connect_disk settings e s w, hconnect]
  cases h with
  | connecting => exact ⟨[], rfl⟩
  | relaying n hconnect => exact ⟨[], by rw [hdisk hconnect]; rfl⟩
  | fetching moves hconnect => exact ⟨moves, by rw [hdisk hconnect]⟩

theorem exists_take_append {front tail : List Event} (htail : tail ≠ []) (n : Nat) :
    ∃ m < (front ++ tail).length, front.take n = (front ++ tail).take m := by
  have hpos := List.length_pos_iff.2 htail
  refine ⟨min n front.length, ?_, ?_⟩
  · rw [List.length_append]
    omega
  · rw [List.take_append_of_le_length (Nat.min_le_right _ _), ← List.take_take, List.take_length]

/-- Where a stream waits, the client has got its first events, and not its last. -/
theorem Waits.exists_take (h : Waits settings e s c w sent r) :
    ∃ n < ((run settings e s).run w).1.length, sent = ((run settings e s).run w).1.take n := by
  cases h with
  | connecting =>
    obtain ⟨before, last, hevents, -⟩ := endsWith_run settings e s w
    exact ⟨0, by simp [hevents], rfl⟩
  | relaying n hconnect =>
    rw [run_of_connect settings e s hconnect]
    dsimp only
    split
    · exact exists_take_append (List.cons_ne_nil _ _) n
    · exact exists_take_append (List.cons_ne_nil _ _) n
  | fetching moves hconnect hend hfetch =>
    rw [run_of_connect settings e s hconnect]
    dsimp only
    rw [hend, Option.map_some, Option.getD_some, hfetch]
    dsimp only
    generalize passed _ = front
    refine ⟨(front ++ [downloadingEvent]).length, by simp, ?_⟩
    rw [List.append_cons front downloadingEvent [_], List.take_left]

section

variable (settings e s)

/-- The download of an artifact that starts in a world. -/
def orderIn (artifact : ArtifactRef) (job : Option String) (w : World) : DownloadOrder where
  artifact := artifact
  job := job
  hint := s.hint?
  token := World.tokenOf w.drawn
  part := ⟨World.tokenOf (w.drawn + 1), fun c hc => by simp [isAlphanum_of_mem_tokenOf hc]⟩

/-- A stream that is not stopped leaves the disk of one of its waits. -/
theorem exists_waits_run (w : World) :
    ∃ c sent r, Waits settings e s c w sent r ∧ r.disk = ((run settings e s).run w).2.disk := by
  rcases hconnect : (connect settings e s).run w with ⟨f | reply, w₁⟩
  · refine ⟨orderIn s ⟨"", ""⟩ none w, [], _, .connecting, ?_⟩
    rw [run_of_refusal settings e s hconnect, ← connect_disk settings e s w, hconnect]
    rfl
  · rw [run_of_connect settings e s hconnect]
    dsimp only
    split
    · exact ⟨orderIn s ⟨"", ""⟩ none w, _, _, .relaying 0 hconnect, rfl⟩
    · rename_i artifact job hending
      obtain ⟨v, hend, hfetch⟩ : ∃ v,
          firstEnd? (bodyEvents reply.chunks.flatten reply.whole) = some v ∧
            Ending.ofEvent v = .fetch artifact job := by
        cases hend : firstEnd? (bodyEvents reply.chunks.flatten reply.whole) with
        | none =>
          rw [hend] at hending
          cases hending
        | some v =>
          rw [hend] at hending
          exact ⟨v, rfl, hending⟩
      obtain ⟨moves, hmoves⟩ := Download.exists_moves_run settings e artifact job s.hint? w₁
      refine ⟨orderIn s artifact job w₁, _, _,
        .fetching (moves.map ((), ·)) hconnect hend hfetch rfl, ?_⟩
      rw [Downloads.after_alone, conclude_eq]
      refine hmoves.trans ?_
      obtain ⟨f | a, w'⟩ := (Download.run settings e artifact job s.hint?).run w₁ <;> rfl

end

/-- A stream is stopped by its deadline where it waits, wherever that is. The client gets a terminal event
last. What is new on the disk are directories, the artifact, if it is whole, and the working file, if the
download has it open: all that has been received is in this file then. -/
theorem deadline_leaves
    (hfresh : DownloadOrder.Fresh settings (fun _ : Unit => c) (w.disk.withDir settings.outputDir))
    (hapart : (w.disk.withDir settings.outputDir).LeadsApart settings.outputDir
      fun name => ∃ _ : Unit, name = c.name settings)
    (h : Waits settings e s c w sent r) :
    (∃ n < ((run settings e s).run w).1.length,
      sent ++ [lateEvent settings] = cutShort settings ((run settings e s).run w).1 n) ∧
    EndsWith True (sent ++ [lateEvent settings]) ∧
    (∀ p, r.disk.get? p = w.disk.get? p ∨ (w.disk.get? p = none ∧ r.disk.get? p = some .dir) ∨
      (∃ bs, bs ≠ [] ∧ (r.loaders ()).placed = some bs ∧
        r.disk.find false (c.target settings) = .ok (p, some (.file bs))) ∨
      ((r.loaders ()).transfer.IsOpen ∧
        r.disk.find false (c.partPath settings) = .ok (p, r.disk.get? p))) ∧
    ∀ bs, (r.loaders ()).transfer.Holds bs →
      ∃ p, r.disk.find false (c.partPath settings) = .ok (p, some (.file bs)) := by
  obtain ⟨n, hn, hsent⟩ := h.exists_take
  refine ⟨⟨n, hn, by rw [hsent, cutShort]⟩, ?_, ?_⟩
  · rw [hsent]
    exact (endsWith_run settings e s w).cutShort settings hn
  · obtain ⟨moves, rfl⟩ := h.exists_moves
    rcases Downloads.sound_after hfresh moves with hunmade | ⟨d₁, k, o, hmade, h₁, hbetween⟩
    · refine ⟨fun p => .inl (by rw [hunmade.disk]), fun bs hbs => ?_⟩
      -- A download that has not made the directory has no working file.
      rcases (hunmade.early ()).stage with hstage | ⟨reason, hstage⟩
      all_goals
        rw [hstage] at hbs
        obtain ⟨file, hbs⟩ | hbs := hbs <;> cases hbs
    · rw [withDir_of_ok hmade] at hfresh hapart
      have hat := hbetween.dirAt_of_leadsApart hfresh h₁ hapart
      refine ⟨fun p => ?_, fun bs hbs => hbetween.held_found hat hbs⟩
      rcases hbetween.places_open hfresh hat p with
        heq | ⟨i, bs, ⟨hne, j, -, hplaced⟩, hfind⟩ | ⟨i, hopen, hfind⟩
      · rw [heq]
        exact (grown_makeDirAll hmade p).imp_right .inl
      · exact .inr (.inr (.inl ⟨bs, hne, hplaced, hfind⟩))
      · exact .inr (.inr (.inr ⟨hopen, hfind⟩))

/-! ### A sample -/

/-- The download of the artifact that a stream brings. -/
def sampleOrder : DownloadOrder where
  artifact := ⟨"/d/x.mp4", "x.mp4"⟩
  job := none
  hint := sampleSubmission.hint?
  token := "e9"
  part := Downloads.firstPart

theorem withDir_sampleWorld : ((sampleWorld completeBody).disk.withDir "output").entries =
    [(["output"], .dir), (["a.mp4"], .file [1, 2, 3])] := by
  decide +kernel

theorem no_links_sampleWorld : ∀ entry ∈ ((sampleWorld completeBody).disk.withDir "output").entries,
    ∀ target, entry.2 ≠ .link target := by
  simp [withDir_sampleWorld]

theorem fresh_sampleOrder : DownloadOrder.Fresh {} (fun _ : Unit => sampleOrder)
    ((sampleWorld completeBody).disk.withDir "output") where
  apart _ _ _ := rfl
  novel _ := by
    refine novel_of_entries fun entry hentry => ⟨?_, fun target hlink => ?_⟩
    · rw [withDir_sampleWorld] at hentry
      simp only [List.mem_cons, List.not_mem_nil, or_false] at hentry
      rcases hentry with rfl | rfl
      · decide +kernel
      · decide +kernel
    · exact absurd hlink (no_links_sampleWorld entry hentry target)
  notMem_dir _ := by decide +kernel

/-- One piece of the artifact has arrived, and another one is to arrive. -/
def sampleMoves : List (Unit × TransferMove) :=
  [((), .on .go), ((), .on .go), ((), .on (.head 200 false)), ((), .on .go), ((), .on (.chunk [1]))]

/-- A stream that is stopped after the first piece of the artifact ends with a terminal event, and leaves a
working file. -/
theorem deadline_leaves_part :
    ∃ sent r, Waits {} sampleEndpoint sampleSubmission sampleOrder (sampleWorld completeBody) sent r ∧
      EndsWith True (sent ++ [lateEvent {}]) ∧
      (sampleWorld completeBody).disk.entries = [(["a.mp4"], .file [1, 2, 3])] ∧
      r.disk.entries = [(["output", ".colab_a_e9.mp4.8b.part"], .file [1]), (["output"], .dir),
        (["a.mp4"], .file [1, 2, 3])] := by
  have hreply : ((connect {} sampleEndpoint sampleSubmission).run (sampleWorld completeBody)).1 =
      .ok (sampleReply completeBody) := by decide +kernel
  have hconnect := Action.run_of_fst hreply
  have hcomplete : (firstEnd? (bodyEvents (sampleReply completeBody).chunks.flatten true)).map
      (fun v => (endOf? v, artifactOf? v, jobOf? v)) =
        some (some .complete, some sampleOrder.artifact, sampleOrder.job) := by decide +kernel
  obtain ⟨v, hend, hv⟩ := Option.map_eq_some_iff.1 hcomplete
  simp only [Prod.mk.injEq] at hv
  have hfetch : Ending.ofEvent v = .fetch sampleOrder.artifact sampleOrder.job := by
    simp only [Ending.ofEvent, hv]
  have hwaits := Waits.fetching (c := sampleOrder) sampleMoves hconnect hend hfetch rfl
  obtain ⟨-, hterminal, -⟩ := deadline_leaves fresh_sampleOrder
    (leadsApart_of_no_links no_links_sampleWorld) hwaits
  refine ⟨_, _, hwaits, hterminal, rfl, ?_⟩
  rw [connect_disk]
  decide +kernel

end Relay

end ClipRelay
