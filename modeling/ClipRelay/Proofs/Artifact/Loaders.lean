import ClipRelay.Proofs.Artifact.Moves

/-!
# A download among others

What a download has come to, and what it has placed (`Loader`).

* `Loader.Steady`: what holds of a download between moves once the directory has been made.
* `Loader.Steady.of_did`, `Loader.Steady.of_other`: its own moves preserve that, and so do the moves of
  others.
* `Loader.Found`: what holds of the path that it answers with, which all moves preserve as well.
* `Loader.IsEarly.next_cases`: before it makes the directory a download changes nothing.
-/

namespace ClipRelay

open Disk Text

/-- One of the downloads: what it has come to, and the body whose file it has given the name of the
artifact. -/
structure Loader where
  transfer : Transfer
  placed : Option Bytes

namespace Loader

/-- A download that starts. -/
def start : Loader := ⟨.looking, none⟩

/-- What has been placed after a move. -/
def placing (placed : Option Bytes) : Transfer → Transfer → Option Bytes
  | .whole body, .standing _ => some body
  | _, _ => placed

/-- One move of a download. -/
def next (p : DownloadPlan) (l : Loader) (m : TransferMove) (d : Disk) : Loader × Disk :=
  let (t, d) := l.transfer.next p m d
  (⟨t, placing l.placed l.transfer t⟩, d)

theorem placing_eq_or (placed : Option Bytes) (t t' : Transfer) :
    placing placed t t' = placed ∨
      ∃ body size, t = .whole body ∧ t' = .standing size ∧ placing placed t t' = some body := by
  cases t with
  | whole body =>
    cases t' with
    | standing size => exact .inr ⟨body, size, rfl, rfl, rfl⟩
    | _ => exact .inl rfl
  | _ => exact .inl rfl

/-- What holds of a download between moves, on a disk where the directory is at this place or nowhere. -/
structure Steady (dir nm wk : String) (k : Nat) (o : Place) (d : Disk) (l : Loader) : Prop where
  held : ∀ bs, l.transfer.Holds bs → d.get? (o ++ [wk]) = some (.file bs)
  writes : ∀ file got, l.transfer = .receiving file got → file = o ++ [wk]
  closed : Closed (d.get? (o ++ [wk]))
  fits : d.get? (o ++ [wk]) ≠ none → Fits dir k wk
  swept : d.DirAt dir k o → ¬ l.transfer.IsOpen → d.get? (o ++ [wk]) = none
  body : ∀ bs, l.transfer = .whole bs → bs ≠ []
  settled : l.placed ≠ none → l.transfer.IsSettled
  landed : l.placed ≠ none → Fits dir k nm ∧ d.Stocked (o ++ [nm])
  lost : ∀ f, l.transfer = .done (.error f) → l.placed ≠ none → ¬ d.DirAt dir k o

/-- What holds of the path that a download answers with. While the artifact stands, its path leads to a
file that is not empty, or nowhere; the path of the answer leads straight to one, which is in the place
of the artifact if no link stood there on an earlier disk. -/
structure Found (own : String → Prop) (dir nm : String) (k : Nat) (o : Place) (d₁ d : Disk)
    (l : Loader) : Prop where
  standing : ∀ size, l.transfer = .standing size → ∀ q e,
    d.find true (Path.join dir nm) = .ok (q, some e) → d.Stocked q
  handed : ∀ a, l.transfer = .done (.ok a) → ∃ q, d.Housed own q ∧ a.path = Path.ofNames q ∧
    (d₁.Direct (Path.join dir nm) → Fits dir k nm ∧ q = o ++ [nm])

section

variable {own : String → Prop} {dir nm wk : String} {k : Nat} {o : Place} {d₁ d d' : Disk}
  {l : Loader} {t' : Transfer}

/-! ### What others do does not change it -/

section

variable (hplaced : d.Placed own d')
include hplaced

theorem Steady.of_other (h : l.Steady dir nm wk k o d) (hout : ∀ name ∈ o ++ [nm], ¬ own name)
    (hsame : d'.get? (o ++ [wk]) = d.get? (o ++ [wk])) : l.Steady dir nm wk k o d' where
  held bs hbs := hsame.trans (h.held bs hbs)
  writes := h.writes
  closed := hsame ▸ h.closed
  fits hthere := h.fits (hsame ▸ hthere)
  swept hat hclosed := hsame.trans (h.swept (hplaced.dirAt hat) hclosed)
  body := h.body
  settled := h.settled
  landed hlanded := (h.landed hlanded).imp_right (hplaced.stocked hout)
  lost f hf hlanded hat := h.lost f hf hlanded (hplaced.dirAt hat)

theorem Found.of_other (h : l.Found own dir nm k o d₁ d)
    (hlink : ∀ p target, d'.get? p = some (.link target) → ∀ name ∈ namesOf target, ¬ own name)
    (hpath : ∀ name ∈ namesOf (Path.join dir nm), ¬ own name) : l.Found own dir nm k o d₁ d' where
  standing size hsize q e hfind := by
    rcases hplaced.find_or hlink hpath hfind with hbefore | hstocked
    · rw [get?_of_find hfind] at hbefore
      exact hplaced.stocked (forall_mem_of_find hfind hlink hpath) (h.standing size hsize q e hbefore)
    · exact hstocked
  handed a ha := by
    obtain ⟨q, hhoused, hq⟩ := h.handed a ha
    exact ⟨q, hplaced.housed hhoused, hq⟩

end

/-! ### Every move of the download preserves it -/

theorem get?_moved (hne : nm ≠ wk) (body : Bytes) :
    ((d.erase (o ++ [wk])).put (o ++ [nm]) (.file body)).get? (o ++ [wk]) = none := by
  rw [get?_put _ (by simp), if_neg (by simpa using hne.symm), get?_erase _ (by simp), if_pos rfl]

section

variable (h : l.Steady dir nm wk k o d) (hdid : Transfer.Did dir nm wk k o d l.transfer t' d')
include h hdid

theorem Steady.held_next {bs : Bytes} (hbs : t'.Holds bs) : d'.get? (o ++ [wk]) = some (.file bs) := by
  cases hdid with
  | idle => exact h.held bs hbs
  | opened =>
    obtain ⟨file, hbs⟩ | hbs := hbs <;> cases hbs
    exact get?_put_self (by simp)
  | wrote =>
    obtain ⟨file, hbs⟩ | hbs := hbs <;> cases hbs
    exact get?_put_self (by simp)
  | finished hreceiving =>
    obtain ⟨file, hbs⟩ | hbs := hbs <;> cases hbs
    exact h.held _ (.inl ⟨_, hreceiving⟩)
  | _ => obtain ⟨file, hbs⟩ | hbs := hbs <;> cases hbs

/-- A download writes to its working file alone. -/
theorem Steady.writes_next {file : Place} {got : Bytes} (hfile : t' = .receiving file got) :
    file = o ++ [wk] := by
  cases hdid with
  | idle => exact h.writes file got hfile
  | opened | wrote =>
    cases hfile
    rfl
  | _ => cases hfile

theorem Steady.closed_next (hne : nm ≠ wk) : Closed (d'.get? (o ++ [wk])) := by
  rcases hdid.place (o ++ [wk]) with heq | ⟨-, hclosed⟩ | ⟨hname, -⟩
  · exact heq ▸ h.closed
  · exact hclosed
  · exact absurd (name_eq_of_place_eq hname).symm hne

theorem Steady.fits_next (hne : nm ≠ wk) (hthere : d'.get? (o ++ [wk]) ≠ none) : Fits dir k wk := by
  cases hdid with
  | opened _ hfits => exact hfits
  | wrote bs hreceiving => exact h.fits (by simp [h.held _ (.inl ⟨_, hreceiving⟩)])
  | moved => exact absurd (get?_moved hne _) hthere
  | dropped => simp [get?_erase] at hthere
  | _ => exact h.fits hthere

theorem Steady.body_next {bs : Bytes} (hbs : t' = .whole bs) : bs ≠ [] := by
  cases hdid with
  | idle => exact h.body bs hbs
  | finished _ hne =>
    cases hbs
    exact hne
  | _ => cases hbs

theorem Steady.settled_next (hlanded : placing l.placed l.transfer t' ≠ none) : t'.IsSettled := by
  rcases placing_eq_or l.placed l.transfer t' with heq | ⟨-, size, -, rfl, -⟩
  · exact hdid.isSettled (h.settled (heq ▸ hlanded))
  · trivial

theorem Steady.lost_next (hn : Path.IsName nm) {f : WorkerFault} (hf : t' = .done (.error f))
    (hlanded : placing l.placed l.transfer t' ≠ none) : ¬ d'.DirAt dir k o := by
  intro hat
  rcases placing_eq_or l.placed l.transfer t' with heq | ⟨-, size, -, hstanding, -⟩
  · have hbefore := heq ▸ hlanded
    have hsettled := h.settled hbefore
    cases hdid with
    | idle => exact h.lost f hf hbefore hat
    | refused reason hor =>
      rcases hor with ht | ht <;> rw [ht] at hsettled <;> exact hsettled
    | dropped ht | left ht =>
      rw [ht] at hsettled
      exact hsettled
    | resolved ht =>
      -- The path leads to the file that has been placed, so it can be resolved.
      obtain ⟨hfits, bs, -, hfile⟩ := h.landed hbefore
      have hfind : d.find true (Path.join dir nm) = _ := hat.find_file hn hfits hfile
      have hcanonical := canonical_eq_ok_iff.2 ⟨_, _, hfind, rfl⟩
      have hresult := Transfer.done.inj hf
      rw [Download.found, hcanonical] at hresult
      cases hresult
    | _ => cases hf
  · cases hstanding.symm.trans hf

section

variable (hplaced : d.Placed own d')
include hplaced

theorem Steady.swept_next (hne : nm ≠ wk) (hat : d'.DirAt dir k o) (hopen : ¬ t'.IsOpen) :
    d'.get? (o ++ [wk]) = none := by
  have hswept := h.swept (hplaced.dirAt hat)
  cases hdid with
  | idle => exact hswept hopen
  | made ht | found ht | missed ht | begun ht | resolved ht => exact hswept (by simp [ht, Transfer.IsOpen])
  | refused reason hor => exact hswept (by rcases hor with ht | ht <;> simp [ht, Transfer.IsOpen])
  | opened | wrote | finished | broke => exact absurd trivial hopen
  | moved => exact get?_moved hne _
  | dropped => rw [get?_erase _ (by simp), if_pos rfl]
  | left ht hleft =>
    by_contra hthere
    exact hthere (eq_none_of_closed h.closed (hleft hat (h.fits hthere)))

theorem Steady.landed_next (hout : ∀ name ∈ o ++ [nm], ¬ own name)
    (hlanded : placing l.placed l.transfer t' ≠ none) : Fits dir k nm ∧ d'.Stocked (o ++ [nm]) := by
  rcases placing_eq_or l.placed l.transfer t' with heq | ⟨body, size, hwhole, hstanding, -⟩
  · exact (h.landed (heq ▸ hlanded)).imp_right (hplaced.stocked hout)
  · cases hdid with
    | idle => cases hwhole.symm.trans hstanding
    | found hmade => cases hmade.symm.trans hwhole
    | moved hbody hfits => exact ⟨hfits, _, h.body _ hbody, get?_put_self (by simp)⟩
    | _ => cases hstanding

/-- What holds of a download between moves is preserved by all that one of its moves does. -/
theorem Steady.of_did (hn : Path.IsName nm) (hne : nm ≠ wk) (hout : ∀ name ∈ o ++ [nm], ¬ own name) :
    Steady dir nm wk k o d' ⟨t', placing l.placed l.transfer t'⟩ where
  held _ := h.held_next hdid
  writes _ _ := h.writes_next hdid
  closed := h.closed_next hdid hne
  fits := h.fits_next hdid hne
  swept := h.swept_next hdid hplaced hne
  body _ := h.body_next hdid
  settled := h.settled_next hdid
  landed := h.landed_next hdid hplaced hout
  lost _ := h.lost_next hdid hn

end

end

section

variable (h : l.Found own dir nm k o d₁ d) (hdid : Transfer.Did dir nm wk k o d l.transfer t' d')
  (hn : Path.IsName nm)
include h hdid hn

theorem Found.standing_next (hbody : ∀ body, l.transfer = .whole body → body ≠ [])
    (hat : d'.OnlyAt dir k o) {size : Nat} (hsize : t' = .standing size) {q : Place} {e : Entry}
    (hfind : d'.find true (Path.join dir nm) = .ok (q, some e)) : d'.Stocked q := by
  cases hdid with
  | idle => exact h.standing size hsize q e hfind
  | @found bs _ hcontent hne =>
    obtain ⟨q', hfile⟩ := content_eq_ok_iff.1 hcontent
    cases hfind.symm.trans hfile
    exact ⟨bs, hne, get?_of_find hfile⟩
  | @moved body hwhole =>
    have hfile := get?_put_self (d := d.erase (o ++ [wk])) (e := .file body)
      (show o ++ [nm] ≠ [] by simp)
    obtain ⟨-, rfl, -⟩ := ((hat.dirAt hn hfind).find_iff hn (by simp [hfile])).1 hfind
    exact ⟨body, hbody body hwhole, hfile⟩
  | _ => cases hsize

theorem Found.handed_next (hat : d.OnlyAt dir k o) (h₁ : d₁.DirAt dir k o) (hplaced₁ : d₁.Placed own d)
    (hlink : ∀ p target, d.get? p = some (.link target) → ∀ name ∈ namesOf target, ¬ own name)
    (hpath : ∀ name ∈ namesOf (Path.join dir nm), ¬ own name) {a : Artifact}
    (ha : t' = .done (.ok a)) : ∃ q, d'.Housed own q ∧ a.path = Path.ofNames q ∧
      (d₁.Direct (Path.join dir nm) → Fits dir k nm ∧ q = o ++ [nm]) := by
  cases hdid with
  | idle => exact h.handed a ha
  | @resolved size hstanding =>
    have hfound := Download.resultOf_eq_ok (Transfer.done.inj ha)
    obtain ⟨hcanonical, -⟩ := Download.found_eq_ok hfound
    obtain ⟨q, e, hfind, hq⟩ := canonical_eq_ok_iff.1 hcanonical
    obtain ⟨-, ⟨j, -, hleads⟩, -⟩ := find_eq_ok_iff.1 hfind
    refine ⟨q, ⟨hleads.straight d.straight_nil, h.standing size hstanding q e hfind,
      hleads.isPiece (fun n hn => isPiece_of_mem_namesOf hn) nofun,
      forall_mem_of_find hfind hlink hpath⟩, hq, fun hdirect => ?_⟩
    have hdir := hat.dirAt hn hfind
    have hfits := hdir.fits hn hfind
    have hnolink : ∀ target, d.get? (o ++ [nm]) ≠ some (.link target) := fun target hl =>
      hdirect _ target ((h₁.find_kept_iff hn).2 ⟨hfits, rfl, hplaced₁.of_open _ _ hl not_false⟩)
    obtain ⟨-, hplace, -⟩ := (hdir.find_iff hn fun _ => hnolink).1 hfind
    exact ⟨hfits, hplace⟩
  | _ => cases ha

end

/-! ### The first moves and the last -/

/-- The download has not come to the directory, or has failed there. -/
structure IsEarly (l : Loader) : Prop where
  stage : l.transfer = .looking ∨ ∃ reason, l.transfer = Transfer.failed reason
  placed : l.placed = none

theorem isEarly_start : start.IsEarly := ⟨.inl rfl, rfl⟩

/-- A download changes nothing before it makes the directory. -/
theorem IsEarly.next_cases (h : l.IsEarly) (p : DownloadPlan) (m : TransferMove) (d : Disk) :
    (∃ l', l.next p m d = (l', d) ∧ l'.IsEarly) ∨
      ∃ d₁, d.makeDirAll p.dir = .ok d₁ ∧ l.next p m d = (⟨.made, none⟩, d₁) := by
  obtain ⟨t, placed⟩ := l
  obtain ⟨rfl | ⟨reason, rfl⟩, rfl⟩ : (t = .looking ∨ ∃ reason, t = Transfer.failed reason) ∧
    placed = none := ⟨h.stage, h.placed⟩
  · rcases m with (_ | _) | _
    case on.go =>
      simp only [next, Transfer.next]
      cases d.makeDirAll p.dir with
      | ok d₁ => exact .inr ⟨d₁, rfl, rfl⟩
      | error e => exact .inl ⟨_, rfl, .inr ⟨_, rfl⟩, rfl⟩
    all_goals exact .inl ⟨_, rfl, h⟩
  · exact .inl ⟨_, by rcases m with (_ | _) | _ <;> rfl, h⟩

/-- When the directory has just been made nothing has been written yet. -/
theorem steady_of_early (hnone : d.get? (o ++ [wk]) = none)
    (h : l = ⟨.made, none⟩ ∨ l.IsEarly) : l.Steady dir nm wk k o d := by
  obtain ⟨t, placed⟩ := l
  obtain ⟨rfl, rfl⟩ | ⟨rfl | ⟨reason, rfl⟩, rfl⟩ := h.imp_left Loader.mk.inj
  all_goals exact {
    held := fun bs hbs => by obtain ⟨file, hbs⟩ | hbs := hbs <;> cases hbs
    writes := fun file got hfile => by cases hfile
    closed := by rw [hnone]; trivial
    fits := fun hthere => absurd hnone hthere
    swept := fun _ _ => hnone
    body := fun bs hbs => by cases hbs
    settled := fun h => absurd rfl h
    landed := fun h => absurd rfl h
    lost := fun _ _ h => absurd rfl h }

theorem found_of_early (h : l = ⟨.made, none⟩ ∨ l.IsEarly) : l.Found own dir nm k o d₁ d := by
  obtain ⟨t, placed⟩ := l
  obtain ⟨rfl, rfl⟩ | ⟨rfl | ⟨reason, rfl⟩, rfl⟩ := h.imp_left Loader.mk.inj
  all_goals exact ⟨nofun, nofun⟩

/-- A download that is over stays as it is. -/
theorem next_done {result : Except WorkerFault Artifact} (h : l.transfer = .done result)
    (p : DownloadPlan) (m : TransferMove) (d : Disk) :
    (l.next p m d).1.transfer = .done result := by
  obtain ⟨t, placed⟩ := l
  obtain rfl : t = .done result := h
  rcases m with (_ | _) | _ <;> rfl

end

end Loader

end ClipRelay
