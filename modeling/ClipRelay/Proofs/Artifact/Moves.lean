import ClipRelay.Proofs.Artifact.Ownership
import ClipRelay.Proofs.Disk.Filed

/-!
# The moves of a download

A download among others does one thing on the disk at a time, and others may have their turns in
between (`Transfer.next`). It makes the directory, looks for the artifact, opens its working file,
writes what arrives to it, renames or deletes it, and resolves the path of the artifact.

* `Transfer.settles_next`: the moves that a download makes by itself are those of `Download.step`.
* `Transfer.exists_moves`: a download as one run of steps makes these moves, with nothing in between.
* `Transfer.Did`, `Transfer.did_next`: all that one move does once the directory has been made.
* `Transfer.Did.place`, `Transfer.Did.changesAt`, `Transfer.Did.placed`: what that means for the files on the disk.
-/

namespace ClipRelay

open Disk Text

/-- What one of many downloads has come to. -/
inductive Transfer
  /-- There may be no directory for the artifact. -/
  | looking
  /-- The directory has been made, and the artifact may be there. -/
  | made
  /-- The artifact is there and has this length; its path is still to be resolved. -/
  | standing (size : Nat)
  /-- The artifact is not there, and the worker is asked for it. -/
  | missing
  /-- The reply has begun; the working file is still to be made. -/
  | opening
  /-- The body is arriving. The file at this place is open, and this much of the body is written. -/
  | receiving (file : Place) (got : Bytes)
  /-- The body is written, and its file is still to take the name of the artifact. -/
  | whole (body : Bytes)
  /-- The download has failed, and its working file is still to be deleted. -/
  | dropping (reason : String)
  | done (result : Except WorkerFault Artifact)

/-- What may happen next to one of the downloads. -/
inductive TransferMove
  /-- The download goes on, by itself or with what the worker sends. -/
  | on (e : DownloadEvent)
  /-- The system refuses to write, when the disk is full, say. -/
  | refuse (e : IoFault)

namespace Transfer

def failed (reason : String) : Transfer := .done (.error (.download reason))

/-- A download that could not write. -/
def unwritten (e : IoFault) : Transfer := .dropping ("Failed to write artifact: " ++ e.message)

/-- One move of a download. -/
def next (p : DownloadPlan) : Transfer → TransferMove → Disk → Transfer × Disk
  | looking, .on .go, d =>
    match d.makeDirAll p.dir with
    | .ok d => (made, d)
    | .error e => (failed ("Failed to create output directory: " ++ e.message), d)
  | made, .on .go, d =>
    match Download.sizeAt? d p.target with
    | some size => (standing size, d)
    | none => (missing, d)
  | standing size, .on .go, d => (done (Download.resultOf (Download.found d p.target size)), d)
  | missing, .on (.refused reason), d => (failed reason, d)
  | missing, .on (.head status html), d =>
    if status < 200 || 300 ≤ status then (failed ("Download returned " ++ toString status), d)
    else if html then (failed "Received an HTML page instead of the artifact", d)
    else (opening, d)
  | opening, .on .go, d =>
    match d.openFile p.working with
    | .ok (file, d) => (receiving file [], d)
    | .error e => (unwritten e, d)
  | receiving file got, .on (.chunk bs), d => (receiving file (got ++ bs), d.extend file bs)
  | receiving _ _, .on .broken, d =>
    (dropping ("Download interrupted: " ++ HttpFault.broken.message), d)
  | receiving _ got, .on .finish, d =>
    if got = [] then (dropping "Downloaded artifact is empty", d) else (whole got, d)
  | whole body, .on .go, d =>
    match d.rename p.working p.target with
    | .ok d => (standing body.length, d)
    | .error e => (unwritten e, d)
  | dropping reason, .on .go, d => (failed reason, d.discard p.working)
  | opening, .refuse e, d => (unwritten e, d)
  | receiving _ _, .refuse e, d => (unwritten e, d)
  | whole _, .refuse e, d => (unwritten e, d)
  | t, _, d => (t, d)

/-! ## A download by itself -/

/-- The download, unless it is between two moves of one step. -/
def download? : Transfer → Option Download
  | looking => some .looking
  | missing => some .missing
  | receiving file got => some (.receiving file got.length)
  | done result => some (.done result)
  | _ => none

/-- By itself a download goes on to this one, on this disk. -/
inductive Settles (p : DownloadPlan) : Transfer × Disk → Download × Disk → Prop
  | rest {t : Transfer} {s : Download} {d : Disk} : t.download? = some s → Settles p (t, d) (s, d)
  | go {t : Transfer} {d : Disk} {s : Download × Disk} :
    Settles p (t.next p (.on .go) d) s → Settles p (t, d) s

section

variable (p : DownloadPlan) (d : Disk)

theorem settles_failed (reason : String) : Settles p (failed reason, d) (Download.failed reason, d) :=
  .rest rfl

theorem settles_dropping (reason : String) :
    Settles p (dropping reason, d) (Download.failed reason, d.discard p.working) :=
  .go (settles_failed p _ reason)

theorem settles_standing (size : Nat) :
    Settles p (standing size, d) (Download.found d p.target size, d) := by
  refine .go (.rest ?_)
  unfold Download.found
  split <;> rfl

/-- What a download does by itself after a move that it makes with the worker is a step of
`Download.step`. -/
theorem settles_next {t : Transfer} {s : Download} (h : t.download? = some s) (e : DownloadEvent) :
    Settles p (t.next p (.on e) d) (Download.step p s e d) := by
  cases t with
  | looking =>
    obtain rfl := Option.some.inj h
    cases e with
    | go =>
      simp only [next, Download.step]
      cases d.makeDirAll p.dir with
      | error f => exact settles_failed p d _
      | ok d₁ =>
        refine .go ?_
        simp only [next]
        cases Download.sizeAt? d₁ p.target with
        | none => exact .rest rfl
        | some size => exact settles_standing p d₁ size
    | _ => exact .rest rfl
  | missing =>
    obtain rfl := Option.some.inj h
    cases e with
    | refused reason => exact settles_failed p d _
    | head status html =>
      simp only [next, Download.step]
      split
      · exact settles_failed p d _
      · split
        · exact settles_failed p d _
        · refine .go ?_
          simp only [next]
          cases d.openFile p.working with
          | ok opened => exact .rest rfl
          | error f => exact settles_dropping p d _
    | _ => exact .rest rfl
  | receiving file got =>
    obtain rfl := Option.some.inj h
    cases e with
    | chunk bs => exact .rest (by rw [download?, List.length_append])
    | finish =>
      simp only [next, Download.step]
      by_cases hgot : got = []
      · rw [if_pos hgot, if_pos (by rw [hgot]; rfl)]
        exact settles_dropping p d _
      · rw [if_neg hgot, if_neg (by simpa using hgot)]
        refine .go ?_
        simp only [next]
        cases d.rename p.working p.target with
        | ok d₁ => exact settles_standing p d₁ _
        | error f => exact settles_dropping p d _
    | broken => exact settles_dropping p d _
    | _ => exact .rest rfl
  | done result =>
    obtain rfl := Option.some.inj h
    cases e <;> exact .rest rfl
  | _ => cases h

end

/-- A download after some moves, with nothing in between. -/
def after (p : DownloadPlan) (t : Transfer) (moves : List TransferMove) (d : Disk) :
    Transfer × Disk :=
  moves.foldl (fun s m => s.1.next p m s.2) (t, d)

theorem after_append (p : DownloadPlan) (t : Transfer) (moves more : List TransferMove) (d : Disk) :
    t.after p (moves ++ more) d = (t.after p moves d).1.after p more (t.after p moves d).2 :=
  List.foldl_append ..

theorem Settles.exists_moves {p : DownloadPlan} {t : Transfer × Disk} {s : Download × Disk}
    (h : Settles p t s) :
    ∃ n t', t.1.after p (List.replicate n (.on .go)) t.2 = (t', s.2) ∧ t'.download? = some s.1 := by
  induction h with
  | rest h => exact ⟨0, _, rfl, h⟩
  | go _ ih =>
    obtain ⟨n, t', hafter, ht'⟩ := ih
    exact ⟨n + 1, t', hafter, ht'⟩

/-- What a download comes to as one run of steps, it comes to by moves. -/
theorem exists_moves (p : DownloadPlan) (events : List DownloadEvent) {t : Transfer} {s : Download}
    (h : t.download? = some s) (d : Disk) :
    ∃ moves t', t.after p moves d = (t', (s.steps p events d).2) ∧
      t'.download? = some (s.steps p events d).1 := by
  induction events generalizing t s d with
  | nil => exact ⟨[], t, rfl, h⟩
  | cons e events ih =>
    obtain ⟨n, t₁, hfirst, ht₁⟩ := (settles_next p d h e).exists_moves
    obtain ⟨moves, t₂, hrest, ht₂⟩ := ih ht₁ (Download.step p s e d).2
    refine ⟨.on e :: (List.replicate n (.on .go) ++ moves), t₂, ?_, ht₂⟩
    rw [Download.steps_cons, ← hrest]
    simp only [after, List.foldl_cons, List.foldl_append] at hfirst ⊢
    rw [hfirst]

/-! ## One move among others -/

/-- The working file holds this. -/
def Holds (t : Transfer) (bs : Bytes) : Prop := (∃ file, t = .receiving file bs) ∨ t = .whole bs

/-- The working file may be there. -/
def IsOpen : Transfer → Prop
  | receiving _ _ | whole _ | dropping _ => True
  | _ => False

/-- The artifact is there, or the download is over. -/
def IsSettled : Transfer → Prop
  | standing _ | done _ => True
  | _ => False

section

variable {dir nm wk : String} {k : Nat} {o : Place} {d : Disk} {t : Transfer}

/-- All that one move of a download does when its directory is at this place, or is nowhere. -/
inductive Did (dir nm wk : String) (k : Nat) (o : Place) (d : Disk) (t : Transfer) :
    Transfer → Disk → Prop
  | idle : Did dir nm wk k o d t t d
  | made : t = .looking → Did dir nm wk k o d t .made d
  | found {bs : Bytes} : t = .made → d.content (Path.join dir nm) = .ok bs → bs ≠ [] →
    Did dir nm wk k o d t (.standing bs.length) d
  | missed : t = .made → Did dir nm wk k o d t .missing d
  | begun : t = .missing → Did dir nm wk k o d t .opening d
  | refused (reason : String) : t = .looking ∨ t = .missing →
    Did dir nm wk k o d t (failed reason) d
  | opened : t = .opening → Fits dir k wk →
    Did dir nm wk k o d t (.receiving (o ++ [wk]) []) (d.put (o ++ [wk]) (.file []))
  | wrote {got : Bytes} (bs : Bytes) : t = .receiving (o ++ [wk]) got →
    Did dir nm wk k o d t (.receiving (o ++ [wk]) (got ++ bs))
      (d.put (o ++ [wk]) (.file (got ++ bs)))
  | finished {file : Place} {body : Bytes} : t = .receiving file body → body ≠ [] →
    Did dir nm wk k o d t (.whole body) d
  | broke (reason : String) : t = .opening ∨ (∃ bs, t.Holds bs) →
    Did dir nm wk k o d t (.dropping reason) d
  | moved {body : Bytes} : t = .whole body → Fits dir k nm → d.get? (o ++ [nm]) ≠ some .dir →
    Did dir nm wk k o d t (.standing body.length)
      ((d.erase (o ++ [wk])).put (o ++ [nm]) (.file body))
  | dropped {reason : String} : t = .dropping reason →
    Did dir nm wk k o d t (failed reason) (d.erase (o ++ [wk]))
  | left {reason : String} : t = .dropping reason →
    (d.DirAt dir k o → Fits dir k wk → ∀ bs, d.get? (o ++ [wk]) ≠ some (.file bs)) →
    Did dir nm wk k o d t (failed reason) d
  | resolved {size : Nat} : t = .standing size →
    Did dir nm wk k o d t (.done (Download.resultOf (Download.found d (Path.join dir nm) size))) d

section

variable {token : String} (hn : Path.IsName nm) (hw : Path.IsName (Download.workingName nm token))
  (hat : d.OnlyAt dir k o)
include hw hat

theorem did_opening (hfree : d.DirAt dir k o → d.get? (o ++ [Download.workingName nm token]) = none)
    (ht : t = .opening) :
    Did dir nm (Download.workingName nm token) k o d t
      (opening.next (Download.planOf dir nm token) (.on .go) d).1
      (opening.next (Download.planOf dir nm token) (.on .go) d).2 := by
  simp only [next, Download.planOf_working]
  cases hopen : d.openFile (Path.join dir (Download.workingName nm token)) with
  | ok opened =>
    obtain ⟨file, d'⟩ := opened
    obtain ⟨hfind, -, -⟩ := openFile_eq_ok hopen
    have hdir := hat.dirAt hw hfind
    obtain ⟨hfits, rfl, rfl⟩ := hdir.openFile_eq_ok hw (fun _ => hfree hdir) hopen
    exact .opened ht hfits
  | error f => exact .broke _ (.inl ht)

omit hw hat in
theorem did_chunk {file : Place} {got : Bytes} (bs : Bytes) (hfile : file = o ++ [wk])
    (hheld : d.get? (o ++ [wk]) = some (.file got)) (ht : t = .receiving file got) :
    Did dir nm wk k o d t (.receiving file (got ++ bs)) (d.extend file bs) := by
  subst hfile
  rw [extend_of_file hheld]
  exact .wrote bs ht

include hn in
theorem did_whole {body : Bytes}
    (hheld : d.get? (o ++ [Download.workingName nm token]) = some (.file body))
    (ht : t = .whole body) :
    Did dir nm (Download.workingName nm token) k o d t
      ((whole body).next (Download.planOf dir nm token) (.on .go) d).1
      ((whole body).next (Download.planOf dir nm token) (.on .go) d).2 := by
  simp only [next, Download.planOf_working, Download.planOf_target]
  cases hrename : d.rename (Path.join dir (Download.workingName nm token)) (Path.join dir nm) with
  | ok d' =>
    obtain ⟨p, e, q, hfind, -⟩ := rename_eq_ok hrename
    obtain ⟨hfits, hdir, rfl⟩ := (hat.dirAt hw hfind).rename_eq_ok hw hn hrename hheld
    exact .moved ht hfits hdir
  | error f => exact .broke _ (.inr ⟨body, .inr ht⟩)

theorem did_dropping {reason : String} (ht : t = .dropping reason) :
    Did dir nm (Download.workingName nm token) k o d t
      ((dropping reason).next (Download.planOf dir nm token) (.on .go) d).1
      ((dropping reason).next (Download.planOf dir nm token) (.on .go) d).2 := by
  simp only [next, Download.planOf_working]
  rcases hat.discard_cases hw with heq | ⟨heq, hleft⟩ <;> rw [heq]
  · exact .dropped ht
  · exact .left ht hleft

include hn in
/-- All that one move of a download does when its working file is its own. -/
theorem did_next (hmake : ∀ d', d.makeDirAll dir = .ok d' → d' = d)
    (hheld : ∀ bs, t.Holds bs → d.get? (o ++ [Download.workingName nm token]) = some (.file bs))
    (hwrites : ∀ file got, t = .receiving file got → file = o ++ [Download.workingName nm token])
    (hfree : t = .opening → d.DirAt dir k o → d.get? (o ++ [Download.workingName nm token]) = none)
    (m : TransferMove) :
    Did dir nm (Download.workingName nm token) k o d t
      (t.next (Download.planOf dir nm token) m d).1 (t.next (Download.planOf dir nm token) m d).2 := by
  have hbroke : ∀ {bs}, t.Holds bs → ∀ reason, Did dir nm (Download.workingName nm token) k o d t
      (.dropping reason) d := fun h reason => .broke reason (.inr ⟨_, h⟩)
  cases t with
  | looking =>
    rcases m with (_ | _) | _
    case on.go =>
      simp only [next]
      cases hdir : d.makeDirAll (Download.planOf dir nm token).dir with
      | ok d' =>
        rw [hmake d' hdir]
        exact .made rfl
      | error f => exact .refused _ (.inl rfl)
    all_goals exact .idle
  | made =>
    rcases m with (_ | _) | _
    case on.go =>
      simp only [next, Download.planOf_target]
      cases hsize : Download.sizeAt? d (Path.join dir nm) with
      | some size =>
        obtain ⟨bs, hbs, hne, rfl⟩ := Download.sizeAt?_eq_some hsize
        exact .found rfl hbs hne
      | none => exact .missed rfl
    all_goals exact .idle
  | standing size =>
    rcases m with (_ | _) | _
    case on.go => exact .resolved rfl
    all_goals exact .idle
  | missing =>
    rcases m with (_ | _) | _
    case on.refused reason => exact .refused reason (.inr rfl)
    case on.head status html =>
      simp only [next]
      split
      · exact .refused _ (.inr rfl)
      · split
        · exact .refused _ (.inr rfl)
        · exact .begun rfl
    all_goals exact .idle
  | opening =>
    rcases m with (_ | _) | e
    case on.go => exact did_opening hw hat (hfree rfl) rfl
    case refuse => exact .broke _ (.inl rfl)
    all_goals exact .idle
  | receiving file got =>
    have hgot : (receiving file got).Holds got := .inl ⟨file, rfl⟩
    rcases m with (_ | _) | e
    case on.chunk bs => exact did_chunk bs (hwrites file got rfl) (hheld got hgot) rfl
    case on.finish =>
      simp only [next]
      split
      · exact hbroke hgot _
      · rename_i hne
        exact .finished rfl hne
    case on.broken => exact hbroke hgot _
    case refuse => exact hbroke hgot _
    all_goals exact .idle
  | whole body =>
    rcases m with (_ | _) | e
    case on.go => exact did_whole hn hw hat (hheld body (.inr rfl)) rfl
    case refuse => exact hbroke (.inr rfl) _
    all_goals exact .idle
  | dropping reason =>
    rcases m with (_ | _) | _
    case on.go => exact did_dropping hw hat rfl
    all_goals exact .idle
  | done result =>
    rcases m with (_ | _) | _
    all_goals exact .idle

end

/-! ### What follows from that -/

section

variable {t' : Transfer} {d' : Disk} (h : Did dir nm wk k o d t t' d')
include h

/-- A move changes nothing but the working file and the artifact, which becomes the whole body. -/
theorem Did.place (p : Place) :
    d'.get? p = d.get? p ∨ (p = o ++ [wk] ∧ Closed (d'.get? p)) ∨
    (p = o ++ [nm] ∧ Fits dir k nm ∧ d.get? p ≠ some .dir ∧ ∃ body, t = .whole body ∧
      (∃ size, t' = .standing size) ∧ d'.get? p = some (.file body)) := by
  have hput : ∀ bs, (d.put (o ++ [wk]) (.file bs)).get? p = d.get? p ∨
      (p = o ++ [wk] ∧ Closed ((d.put (o ++ [wk]) (.file bs)).get? p)) := fun bs => by
    rw [get?_put _ (by simp)]
    split
    · exact .inr ⟨‹_›, trivial⟩
    · exact .inl rfl
  have herase : (d.erase (o ++ [wk])).get? p = d.get? p ∨
      (p = o ++ [wk] ∧ Closed ((d.erase (o ++ [wk])).get? p)) := by
    rw [get?_erase _ (by simp)]
    split
    · exact .inr ⟨‹_›, trivial⟩
    · exact .inl rfl
  cases h with
  | opened => exact (hput []).imp_right .inl
  | wrote => exact (hput _).imp_right .inl
  | dropped => exact herase.imp_right .inl
  | @moved body hwhole hfits hdir =>
    by_cases hp : p = o ++ [nm]
    · subst hp
      exact .inr (.inr ⟨rfl, hfits, hdir, body, hwhole, ⟨_, rfl⟩, get?_put_self (by simp)⟩)
    · rw [get?_put _ (by simp), if_neg hp]
      exact herase.imp_right .inl
  | _ => exact .inl rfl

theorem Did.isSettled (ht : t.IsSettled) : t'.IsSettled := by
  cases h with
  | idle => exact ht
  | found | moved | refused | dropped | left | resolved => trivial
  | broke reason hor => obtain rfl | ⟨bs, ⟨file, rfl⟩ | rfl⟩ := hor <;> exact ht.elim
  | made h | missed h | begun h | opened h | wrote bs h | finished h =>
    subst h
    exact ht.elim

/-- A download that does not place its file changes its working file at most. -/
theorem Did.changesAt (hstays : ∀ body, t = .whole body → ∀ size, t' ≠ .standing size)
    (hclosed : Closed (d.get? (o ++ [wk]))) : ChangesAt d d' (o ++ [wk]) := by
  cases h with
  | opened => exact changesAt_put hclosed trivial
  | wrote => exact changesAt_put hclosed trivial
  | dropped => exact changesAt_erase hclosed
  | moved hwhole => exact absurd rfl (hstays _ hwhole _)
  | _ => exact .refl d _

/-- What a move changes is the working file, or it places a file that is not empty. -/
theorem Did.placed {own : String → Prop} (hown : own wk) (hclosed : Closed (d.get? (o ++ [wk])))
    (hbody : ∀ body, t = .whole body → body ≠ []) : d.Placed own d' := by
  intro p
  rcases h.place p with heq | ⟨rfl, hclosed'⟩ | ⟨-, -, hdir, body, hwhole, -, hfile⟩
  · exact .inl heq
  · exact .inr (.inl ⟨hclosed, hclosed', wk, by simp, hown⟩)
  · exact .inr (.inr ⟨hdir, body, hbody body hwhole, hfile⟩)

end

end

end Transfer

end ClipRelay
