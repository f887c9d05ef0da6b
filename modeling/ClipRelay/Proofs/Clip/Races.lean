import ClipRelay.Proofs.Clip.Cache
import ClipRelay.Proofs.Clip.Moves
import Mathlib.Logic.Function.Basic

/-!
# Trims that run side by side

Any number of trims, for equal and different clips, take turns on one disk (`Race`).

* `Race.Made.of_did`: what holds between moves once the directory is there (`Race.Made`) is preserved by
  every move.
* `Race.Sound.after`: what holds between moves from the start holds after all of them.
* `Race.clips_are_whole`: what that comes to for clips, for what trims return, and for working files.
* `Race.clips_are_lost`: what happens in a directory that is in the way of its own clips.
-/

namespace ClipRelay

open Disk Text

deriving instance DecidableEq for Trim

/-- Trims on one disk. -/
structure Race (ι : Type) where
  disk : Disk
  cutters : ι → Cutter

namespace Race

variable {ι : Type} [DecidableEq ι]

/-- The trims before their first steps. -/
def start (d : Disk) : Race ι := ⟨d, fun _ => .start⟩

/-- One move of one of the trims. -/
def next (dir : String) (cuts : ι → Cut) (r : Race ι) (i : ι) (m : TrimMove) : Race ι :=
  let (c, disk) := (r.cutters i).next dir (cuts i) m r.disk
  ⟨disk, Function.update r.cutters i c⟩

/-- The trims after some moves, in this order. -/
def after (dir : String) (cuts : ι → Cut) (r : Race ι) (moves : List (ι × TrimMove)) : Race ι :=
  moves.foldl (fun r m => r.next dir cuts m.1 m.2) r

theorem after_append (dir : String) (cuts : ι → Cut) (r : Race ι) (moves more : List (ι × TrimMove)) :
    r.after dir cuts (moves ++ more) = (r.after dir cuts moves).after dir cuts more :=
  List.foldl_append ..

/-- At the path stands all that was written by an encoder that has ended well, of a trim for this
path. -/
def Whole (dir : String) (cuts : ι → Cut) (r : Race ι) (path : String) : Prop :=
  ∃ j, (cuts j).target dir = path ∧ (r.cutters j).ended = some (.ok ()) ∧
    r.disk.content path = .ok (r.cutters j).written

end Race

/-! ## One move among many trims -/

namespace Race

variable {ι : Type} {dir : String} {k : Nat} {o : Place} {cuts : ι → Cut} {d d₁ : Disk} {r : Race ι}
  {p : Place} {i : ι}

/-- The place is that of a clip, and there stands all that was written by an encoder that has ended
well, of a trim for this clip. -/
def ClipAt (dir : String) (k : Nat) (o : Place) (cuts : ι → Cut) (r : Race ι) (p : Place) : Prop :=
  ∃ j, p = o ++ [(cuts j).name] ∧ Fits dir k (cuts j).name ∧
    (r.cutters j).ended = some (.ok ()) ∧ r.disk.get? p = some (.file (r.cutters j).written)

/-- The place is that of the working file of a trim. -/
def WorkAt (dir : String) (k : Nat) (o : Place) (r : Race ι) (p : Place) : Prop :=
  ∃ j nm, (r.cutters j).WorksOn dir k o r.disk nm ∧ p = o ++ [nm]

/-- What holds between moves once the directory has been made: what there is besides the disk of then
are working files, one for each encoder, and whole clips. -/
structure Made (dir : String) (k : Nat) (o : Place) (cuts : ι → Cut) (d₁ : Disk) (r : Race ι) :
    Prop where
  places : ∀ p, r.disk.get? p = d₁.get? p ∨
    (d₁.get? p ≠ some .dir ∧ r.ClipAt dir k o cuts p) ∨ (d₁.get? p = none ∧ r.WorkAt dir k o p)
  working : ∀ i working, (r.cutters i).trim = .encoding working →
    ∃ nm, (r.cutters i).WorksOn dir k o r.disk nm ∧ d₁.get? (o ++ [nm]) = none
  apart : ∀ i j working, (r.cutters i).trim = .encoding working →
    (r.cutters j).trim = .encoding working → i = j
  fresh : ∀ i, (∀ working, (r.cutters i).trim ≠ .encoding working) →
    (∀ result, (r.cutters i).trim ≠ .done result) →
    (r.cutters i).written = [] ∧ (r.cutters i).ended = none
  found : ∀ i path, (r.cutters i).trim = .done (.ok path) → path = (cuts i).target dir ∧
    (d₁.Unused path → Fits dir k (cuts i).name ∧ r.disk.get? (o ++ [(cuts i).name]) ≠ none)
  failed : ∀ i f, (r.cutters i).trim = .done (.error f) → (r.cutters i).ended = some (.ok ()) →
    ¬ d₁.Takes ((cuts i).target dir)

namespace Made

section

variable (h : Made dir k o cuts d₁ r)
include h

/-- Where a directory stood, it stands. -/
theorem ne_dir (hp : d₁.get? p ≠ some .dir) : r.disk.get? p ≠ some .dir := by
  rcases h.places p with heq | ⟨-, j, -, -, -, hfile⟩ | ⟨-, j, nm, hworks, rfl⟩
  · rwa [heq]
  · simp [hfile]
  · simp [hworks.file]

theorem dirAt (ha : d₁.LeadsApart dir fun name => ∃ i, name = (cuts i).name)
    (h₁ : d₁.DirAt dir k o) : r.disk.DirAt dir k o := by
  refine h₁.of_keeps ha fun p e he hopen => ?_
  rcases h.places p with heq | ⟨hdir, j, hp, -⟩ | ⟨hnone, -⟩
  · exact .inl (heq.trans he)
  · cases e with
    | file bs => exact absurd trivial hopen
    | dir => exact absurd he hdir
    | link target => exact .inr ⟨_, target, ⟨j, rfl⟩, hp, rfl⟩
  · cases hnone.symm.trans he

theorem written_of_ready (hready : (r.cutters i).trim = .ready) :
    (r.cutters i).written = [] ∧ (r.cutters i).ended = none :=
  h.fresh i (by simp [hready]) (by simp [hready])

/-- The clip is there when anything is, if nothing was. -/
theorem whole (ha : d₁.LeadsApart dir fun name => ∃ i, name = (cuts i).name)
    (h₁ : d₁.DirAt dir k o) (hunused : d₁.Unused ((cuts i).target dir))
    (hfits : Fits dir k (cuts i).name) (hthere : r.disk.get? (o ++ [(cuts i).name]) ≠ none) :
    r.Whole dir cuts ((cuts i).target dir) := by
  have hnone := (h₁.unused_iff (cuts i).isName).1 hunused hfits
  rcases h.places (o ++ [(cuts i).name]) with heq | ⟨-, j, hname, -, hended, hfile⟩ | ⟨-, j, nm, hworks, hnm⟩
  · exact absurd (heq.trans hnone) hthere
  · have hsame : (cuts i).name = (cuts j).name := List.singleton_inj.1 (List.append_cancel_left hname)
    have hfind : r.disk.find true ((cuts i).target dir) = _ :=
      (h.dirAt ha h₁).find_file (cuts i).isName hfits hfile
    exact ⟨j, by rw [Cut.target, Cut.target, hsame], hended, content_eq_ok_iff.2 ⟨_, hfind⟩⟩
  · exact absurd hnm.symm (hworks.isWorkName.place_ne (cuts i))

end

/-! ### Every move preserves it -/

section

variable {c' : Cutter} {d' : Disk} (h : Made dir k o cuts d₁ r)
  (hdid : Cutter.Did dir k o (cuts i) r.disk (r.cutters i) c' d')
include h hdid

theorem encoding_update {working : String} (hc' : c'.trim = .encoding working) :
    ∃ nm, c'.WorksOn dir k o d' nm ∧
      ((r.cutters i).WorksOn dir k o r.disk nm ∨ r.disk.get? (o ++ [nm]) = none) := by
  refine hdid.encoding (fun hready => (h.written_of_ready hready).1) (fun working hw => ?_) hc'
  obtain ⟨nm, hworks, -⟩ := h.working i working hw
  exact ⟨nm, hworks⟩

/-- No other trim works on the file that this one works on after its move. -/
theorem apart_update {j : ι} (hij : j ≠ i) {working : String} (hc' : c'.trim = .encoding working) :
    (r.cutters j).trim ≠ .encoding working := by
  intro hj
  obtain ⟨nm, hworks, hown | hnone⟩ := h.encoding_update hdid hc'
  · have hi := hown.trim.trans (hworks.trim.symm.trans hc')
    exact hij (h.apart j i working hj hi)
  · obtain ⟨nm', hworks', -⟩ := h.working j working hj
    have hsame := hworks.trim.symm.trans hc'
    obtain rfl : nm' = nm := Path.join_injective hworks'.isWorkName.isName.toIsPiece
      hworks.isWorkName.isName.toIsPiece
      (Trim.encoding.inj ((hworks'.trim.symm.trans hj).trans hsame.symm))
    cases hnone.symm.trans hworks'.file

theorem fresh_update (hencoding : ∀ working, c'.trim ≠ .encoding working)
    (hdone : ∀ result, c'.trim ≠ .done result) : c'.written = [] ∧ c'.ended = none := by
  cases hdid with
  | idle => exact h.fresh i hencoding hdone
  | missed hlooking => exact h.fresh i (by simp [hlooking]) (by simp [hlooking])
  | ready hmissing => exact h.fresh i (by simp [hmissing]) (by simp [hmissing])
  | opened => exact absurd rfl (hencoding _)
  | wrote bs hworks => exact absurd hworks.trim (hencoding _)
  | ended result hc => exact absurd hc (hencoding _)
  | _ => exact absurd rfl (hdone _)

theorem found_update (hat : r.disk.DirAt dir k o) {path : String}
    (hc' : c'.trim = .done (.ok path)) :
    path = (cuts i).target dir ∧
      (d₁.Unused path → Fits dir k (cuts i).name ∧ d'.get? (o ++ [(cuts i).name]) ≠ none) := by
  cases hdid with
  | idle => exact h.found i path hc'
  | found hlooking hfile =>
    refine ⟨(Except.ok.inj (Trim.done.inj hc')).symm, fun _ => ?_⟩
    by_contra hnot
    have hunused := (hat.unused_iff (cuts i).isName).2 fun hfits => by
      by_contra hne
      exact hnot ⟨hfits, hne⟩
    rw [Cut.target, hunused.isFile] at hfile
    cases hfile
  | wrote bs hworks => cases hworks.trim.symm.trans hc'
  | ended result hc => cases hc.symm.trans hc'
  | moved hworks hended hfits =>
    refine ⟨(Except.ok.inj (Trim.done.inj hc')).symm, fun _ => ⟨hfits, ?_⟩⟩
    rw [get?_put_self (by simp)]
    exact Option.some_ne_none _
  | _ => cases hc'

theorem failed_update (hat : r.disk.DirAt dir k o) (h₁ : d₁.DirAt dir k o) {f : MediaFault}
    (hc' : c'.trim = .done (.error f)) (hended : c'.ended = some (.ok ())) :
    ¬ d₁.Takes ((cuts i).target dir) := by
  cases hdid with
  | idle => exact h.failed i f hc' hended
  | refused e hready => cases (h.written_of_ready hready).2.symm.trans hended
  | wrote bs hworks => cases hworks.trim.symm.trans hc'
  | ended result hc => cases hc.symm.trans hc'
  | dropped f hworks hfailed =>
    intro htakes
    obtain ⟨hfits, hdir⟩ := (h₁.takes_iff (cuts i).isName).1 htakes
    exact hfailed hended ((hat.takes_iff (cuts i).isName).2 ⟨hfits, h.ne_dir hdir⟩)
  | _ => cases hc'

section

variable [DecidableEq ι]

theorem places_update (p : Place) :
    let r' : Race ι := ⟨d', Function.update r.cutters i c'⟩
    d'.get? p = d₁.get? p ∨ (d₁.get? p ≠ some .dir ∧ r'.ClipAt dir k o cuts p) ∨
      (d₁.get? p = none ∧ r'.WorkAt dir k o p) := by
  intro r'
  have hself : r'.cutters i = c' := Function.update_self ..
  have hother : ∀ {j}, j ≠ i → r'.cutters j = r.cutters j := fun hj => Function.update_of_ne hj ..
  by_cases hown : ∃ nm, (r.cutters i).WorksOn dir k o r.disk nm ∧ p = o ++ [nm]
  · obtain ⟨nm, hworks, rfl⟩ := hown
    obtain ⟨nm', hworks', hnone⟩ := h.working i _ hworks.trim
    obtain rfl := hworks.unique hworks'
    rcases hdid.works hworks with hstill | hgone
    · exact .inr (.inr ⟨hnone, i, nm, hself.symm ▸ hstill, rfl⟩)
    · exact .inl (hgone.trans hnone.symm)
  rcases hdid.place (fun hready => (h.written_of_ready hready).1) p with
    heq | ⟨nm, rfl, hworks | ⟨hnone, hworks⟩⟩ | ⟨rfl, hfits, hdir, hended, hfile⟩
  · -- Nothing has happened at this place, so what the other trims have there is still there.
    rcases h.places p with hsame | ⟨hdir, j, hp, hfits, hended, hfile⟩ | ⟨hnone, j, nm, hworks, hp⟩
    · exact .inl (heq.trans hsame)
    · refine .inr (.inl ⟨hdir, j, hp, hfits, ?_⟩)
      by_cases hj : j = i
      · subst hj
        obtain ⟨hended', hwritten⟩ := hdid.ended_well hended
        rw [hself, hwritten]
        exact ⟨hended', heq.trans hfile⟩
      · rw [hother hj]
        exact ⟨hended, heq.trans hfile⟩
    · refine .inr (.inr ⟨hnone, j, nm, ?_, hp⟩)
      have hj : j ≠ i := by
        rintro rfl
        exact hown ⟨nm, hworks, hp⟩
      rw [hother hj]
      exact { hworks with file := (hp ▸ heq).trans hworks.file }
  · exact absurd ⟨nm, hworks, rfl⟩ hown
  · refine .inr (.inr ⟨?_, i, nm, hself.symm ▸ hworks, rfl⟩)
    rcases h.places (o ++ [nm]) with heq | ⟨-, j, -, -, -, hfile⟩ | ⟨hnone', -⟩
    · exact heq.symm.trans hnone
    · cases hnone.symm.trans hfile
    · exact hnone'
  · refine .inr (.inl ⟨?_, i, rfl, hfits, ?_⟩)
    · rcases h.places (o ++ [(cuts i).name]) with heq | ⟨hdir', -⟩ | ⟨hnone, -⟩
      · rwa [← heq]
      · exact hdir'
      · simp [hnone]
    · rw [hself]
      exact ⟨hended, hfile⟩

theorem working_update (j : ι) {working : String}
    (hj : (Function.update r.cutters i c' j).trim = .encoding working) :
    ∃ nm, (Function.update r.cutters i c' j).WorksOn dir k o d' nm ∧ d₁.get? (o ++ [nm]) = none := by
  by_cases hij : j = i
  · subst hij
    rw [Function.update_self] at hj ⊢
    obtain ⟨nm, hworks, hown | hnone⟩ := h.encoding_update hdid hj
    · obtain ⟨nm', hown', hnone⟩ := h.working j _ hown.trim
      exact ⟨nm, hworks, hown.unique hown' ▸ hnone⟩
    · refine ⟨nm, hworks, ?_⟩
      rcases h.places (o ++ [nm]) with heq | ⟨-, l, -, -, -, hfile⟩ | ⟨hnone', -⟩
      · exact heq.symm.trans hnone
      · cases hnone.symm.trans hfile
      · exact hnone'
  · rw [Function.update_of_ne hij] at hj ⊢
    obtain ⟨nm, hworks, hnone⟩ := h.working j working hj
    have hother : (r.cutters j).trim ≠ (r.cutters i).trim := fun heq =>
      hij (h.apart j i working hj (heq ▸ hj))
    exact ⟨nm, hdid.works_other (fun hready => (h.written_of_ready hready).1) hworks hother, hnone⟩

/-- What holds between moves is preserved by all that one move of a trim does. -/
theorem of_did (hat : r.disk.DirAt dir k o) (h₁ : d₁.DirAt dir k o) :
    Made dir k o cuts d₁ ⟨d', Function.update r.cutters i c'⟩ where
  places := h.places_update hdid
  working j working := h.working_update hdid j
  apart j l working hj hl := by
    dsimp only at hj hl
    by_cases hji : j = i <;> by_cases hli : l = i
    · rw [hji, hli]
    · subst hji
      rw [Function.update_self] at hj
      rw [Function.update_of_ne hli] at hl
      exact absurd hl (h.apart_update hdid hli hj)
    · subst hli
      rw [Function.update_self] at hl
      rw [Function.update_of_ne hji] at hj
      exact absurd hj (h.apart_update hdid hji hl)
    · rw [Function.update_of_ne hji] at hj
      rw [Function.update_of_ne hli] at hl
      exact h.apart j l working hj hl
  fresh j := by
    by_cases hji : j = i
    · subst hji
      simp only [Function.update_self]
      exact h.fresh_update hdid
    · simp only [Function.update_of_ne hji]
      exact h.fresh j
  found j path := by
    by_cases hji : j = i
    · subst hji
      simp only [Function.update_self]
      exact h.found_update hdid hat
    · simp only [Function.update_of_ne hji]
      intro hj
      obtain ⟨hpath, hthere⟩ := h.found j path hj
      refine ⟨hpath, fun hunused => ?_⟩
      obtain ⟨hfits, hne⟩ := hthere hunused
      exact ⟨hfits, hdid.clip_stays (fun hready => (h.written_of_ready hready).1) (cuts j) hne⟩
  failed j f := by
    by_cases hji : j = i
    · subst hji
      simp only [Function.update_self]
      exact h.failed_update hdid hat h₁
    · simp only [Function.update_of_ne hji]
      exact h.failed j f

end

end

end Made

/-! ### Before the directory has been made -/

/-- What holds while no trim has made the directory: nothing has changed. -/
structure Unmade (dir : String) (cuts : ι → Cut) (d : Disk) (r : Race ι) : Prop where
  disk : r.disk = d
  early : ∀ i, (r.cutters i).IsEarly dir (cuts i) d

namespace Unmade

variable [DecidableEq ι] (h : Unmade dir cuts d r)
include h

/-- Nothing else has happened yet when one of the trims makes the directory. -/
theorem made (hmade : d.makeDirAll dir = .ok d₁) :
    Made dir k o cuts d₁
      ⟨d₁, Function.update r.cutters i { r.cutters i with trim := .ready }⟩ := by
  have hready : ∀ j, (Function.update r.cutters i { r.cutters i with trim := .ready } j).trim =
      .ready ∨ (Function.update r.cutters i { r.cutters i with trim := .ready } j).trim =
        (r.cutters j).trim := by
    intro j
    by_cases hji : j = i
    · subst hji
      exact .inl (by rw [Function.update_self])
    · exact .inr (by rw [Function.update_of_ne hji])
  have hfresh : ∀ j, (Function.update r.cutters i { r.cutters i with trim := .ready } j).written = [] ∧
      (Function.update r.cutters i { r.cutters i with trim := .ready } j).ended = none := by
    intro j
    by_cases hji : j = i
    · subst hji
      rw [Function.update_self]
      exact ⟨(h.early j).written, (h.early j).ended⟩
    · rw [Function.update_of_ne hji]
      exact ⟨(h.early j).written, (h.early j).ended⟩
  have hidle : ∀ j working,
      (Function.update r.cutters i { r.cutters i with trim := .ready } j).trim ≠ .encoding working := by
    intro j working
    rcases hready j with hj | hj <;> rw [hj]
    · exact Trim.noConfusion
    · exact (h.early j).ne_encoding working
  exact {
    places := fun p => .inl rfl
    working := fun j working hj => absurd hj (hidle j working)
    apart := fun j _ working hj => absurd hj (hidle j working)
    fresh := fun j _ _ => hfresh j
    found := fun j path hj => by
      rcases hready j with hj' | hj'
      · cases hj'.symm.trans hj
      · obtain ⟨hpath, hfile⟩ := (h.early j).found path (hj'.symm.trans hj)
        refine ⟨hpath, fun hunused => ?_⟩
        cases hunused.isFile.symm.trans ((grown_makeDirAll hmade).spared.isFile hfile)
    failed := fun j _ _ hended => by cases (hfresh j).2.symm.trans hended }

/-- The next move makes the directory, or nothing changes on the disk. -/
theorem next (i : ι) (m : TrimMove) :
    Unmade dir cuts d (r.next dir cuts i m) ∨
      ∃ d₁, d.makeDirAll dir = .ok d₁ ∧ ∀ k o, Made dir k o cuts d₁ (r.next dir cuts i m) := by
  obtain rfl := h.disk
  rcases (h.early i).next_cases m with ⟨c', hnext, hearly⟩ | ⟨d₁, hmade, hnext⟩
  · refine .inl ⟨by simp only [Race.next, hnext], fun j => ?_⟩
    simp only [Race.next, hnext]
    by_cases hji : j = i
    · subst hji
      rwa [Function.update_self]
    · rw [Function.update_of_ne hji]
      exact h.early j
  · refine .inr ⟨d₁, hmade, fun k o => ?_⟩
    simp only [Race.next, hnext]
    exact h.made hmade

end Unmade

/-! ## All moves -/

section

variable [DecidableEq ι]

/-- What holds between moves, before and after the directory has been made. -/
def Sound (dir : String) (cuts : ι → Cut) (d : Disk) (r : Race ι) : Prop :=
  Unmade dir cuts d r ∨
    ∃ d₁ k o, d.makeDirAll dir = .ok d₁ ∧ d₁.DirAt dir k o ∧ Made dir k o cuts d₁ r

variable (ha : (d.withDir dir).LeadsApart dir fun name => ∃ i, name = (cuts i).name)
include ha

theorem Sound.next (h : Sound dir cuts d r) (i : ι) (m : TrimMove) :
    Sound dir cuts d (r.next dir cuts i m) := by
  rcases h with h | ⟨d₁, k, o, hmade, h₁, h⟩
  · rcases h.next i m with h | ⟨d₁, hmade, h⟩
    · exact .inl h
    · obtain ⟨k, o, h₁⟩ := dirAt_makeDirAll hmade
      exact .inr ⟨d₁, k, o, hmade, h₁, h k o⟩
  · rw [withDir_of_ok hmade] at ha
    have hat := h.dirAt ha h₁
    refine .inr ⟨d₁, k, o, hmade, h₁, h.of_did (Cutter.did_next hat (h₁.makeDirAll hmade hat) ?_ m) hat h₁⟩
    intro working hw
    obtain ⟨nm, hworks, -⟩ := h.working i working hw
    exact ⟨nm, hworks⟩

theorem Sound.after (h : Sound dir cuts d r) (moves : List (ι × TrimMove)) :
    Sound dir cuts d (r.after dir cuts moves) := by
  induction moves generalizing r with
  | nil => exact h
  | cons move moves ih => exact ih (h.next ha move.1 move.2)

theorem sound_after (moves : List (ι × TrimMove)) :
    Sound dir cuts d ((start d).after dir cuts moves) :=
  Sound.after ha (.inl ⟨rfl, fun _ => Cutter.isEarly_start⟩) moves

end

/-! ### Results -/

/-- A trim that is over stays as it is. -/
theorem after_done [DecidableEq ι] {result : Except MediaFault String} (moves : List (ι × TrimMove))
    (h : (r.cutters i).trim = .done result) :
    ((r.after dir cuts moves).cutters i).trim = .done result := by
  induction moves generalizing r with
  | nil => exact h
  | cons move moves ih =>
    refine ih ?_
    by_cases hi : i = move.1
    · subst hi
      simp only [next, Function.update_self]
      exact Cutter.next_done h move.2
    · simp only [next, Function.update_of_ne hi]
      exact h

section

variable (h : Sound dir cuts d r)
include h

/-- A trim that is over with a path has the path of its clip. A whole clip is there if nothing was. -/
theorem Sound.found (ha : (d.withDir dir).LeadsApart dir fun name => ∃ i, name = (cuts i).name)
    {path : String} (hi : (r.cutters i).trim = .done (.ok path)) :
    path = (cuts i).target dir ∧ ((d.withDir dir).Unused path → r.Whole dir cuts path) := by
  rcases h with h | ⟨d₁, k, o, hmade, h₁, h⟩
  · obtain ⟨hpath, hfile⟩ := (h.early i).found path hi
    refine ⟨hpath, fun hunused => ?_⟩
    cases (unused_of_withDir hunused).isFile.symm.trans hfile
  · rw [withDir_of_ok hmade] at ha ⊢
    obtain ⟨hpath, hthere⟩ := h.found i path hi
    refine ⟨hpath, fun hunused => ?_⟩
    obtain ⟨hfits, hne⟩ := hthere hunused
    rw [hpath] at hunused ⊢
    exact h.whole ha h₁ hunused hfits hne

theorem Sound.unused_or_whole
    (ha : (d.withDir dir).LeadsApart dir fun name => ∃ i, name = (cuts i).name)
    (hunused : (d.withDir dir).Unused ((cuts i).target dir)) :
    r.disk.Unused ((cuts i).target dir) ∨ r.Whole dir cuts ((cuts i).target dir) := by
  rcases h with h | ⟨d₁, k, o, hmade, h₁, h⟩
  · exact .inl (h.disk ▸ unused_of_withDir hunused)
  · rw [withDir_of_ok hmade] at ha hunused
    have hat := h.dirAt ha h₁
    by_cases hthere : Fits dir k (cuts i).name ∧ r.disk.get? (o ++ [(cuts i).name]) ≠ none
    · exact .inr (h.whole ha h₁ hunused hthere.1 hthere.2)
    · refine .inl ((hat.unused_iff (cuts i).isName).2 fun hfits => ?_)
      by_contra hne
      exact hthere ⟨hfits, hne⟩

/-- A trim whose encoder has ended well is over with the path of its clip when it goes on, if the path
can take a file. -/
theorem Sound.go_ok [DecidableEq ι]
    (ha : (d.withDir dir).LeadsApart dir fun name => ∃ i, name = (cuts i).name)
    (hi : (r.cutters i).ended = some (.ok ()))
    (htakes : (d.withDir dir).Takes ((cuts i).target dir)) :
    ((r.next dir cuts i .go).cutters i).trim = .done (.ok ((cuts i).target dir)) := by
  rcases h with h | ⟨d₁, k, o, hmade, h₁, h⟩
  · cases (h.early i).ended.symm.trans hi
  rw [withDir_of_ok hmade] at ha htakes
  have hself : (r.next dir cuts i .go).cutters i =
      ((r.cutters i).next dir (cuts i) .go r.disk).1 := Function.update_self ..
  rw [hself]
  by_cases hencoding : ∃ working, (r.cutters i).trim = .encoding working
  · obtain ⟨working, hw⟩ := hencoding
    obtain ⟨nm, hworks, -⟩ := h.working i working hw
    obtain ⟨hfits, hdir⟩ := (h₁.takes_iff (cuts i).isName).1 htakes
    have hrename := (h.dirAt ha h₁).rename_file hworks.isWorkName.isName (cuts i).isName hworks.fits
      hworks.file hfits (h.ne_dir hdir)
    simp only [Cutter.next, hi, Cutter.step, hworks.trim, Trim.step, Cut.plan_eq, Cut.target, hrename]
  · by_cases hdone : ∃ result, (r.cutters i).trim = .done result
    · obtain ⟨result, hresult⟩ := hdone
      rw [Cutter.next_done hresult]
      cases result with
      | ok path => rw [(h.found i path hresult).1]
      | error f => exact absurd htakes (h.failed i f hresult hi)
    · have hfresh := h.fresh i (not_exists.1 hencoding) (not_exists.1 hdone)
      cases hfresh.2.symm.trans hi

/-- When all trims are over, only clips and directories are new. -/
theorem Sound.places (ha : (d.withDir dir).LeadsApart dir fun name => ∃ i, name = (cuts i).name)
    (hdone : ∀ i, ∃ result, (r.cutters i).trim = .done result) (p : Place) :
    r.disk.get? p = d.get? p ∨ (d.get? p = none ∧ r.disk.get? p = some .dir) ∨
      ∃ i, r.disk.find false ((cuts i).target dir) = .ok (p, r.disk.get? p) := by
  rcases h with h | ⟨d₁, k, o, hmade, h₁, h⟩
  · exact .inl (by rw [h.disk])
  rw [withDir_of_ok hmade] at ha
  rcases h.places p with heq | ⟨-, j, rfl, hfits, -⟩ | ⟨-, j, nm, hworks, rfl⟩
  · rw [heq]
    exact (grown_makeDirAll hmade p).imp id .inl
  · exact .inr (.inr ⟨j, ((h.dirAt ha h₁).find_kept_iff (cuts j).isName).2 ⟨hfits, rfl, rfl⟩⟩)
  · obtain ⟨result, hresult⟩ := hdone j
    cases hworks.trim.symm.trans hresult

end

/-- Trims run side by side in a directory whose own path leads through none of their clips. After any
moves, and with nothing at the path of a clip when the directory was made:

* nothing is there, or all that an encoder has written for it that has ended well;
* when a trim is over with a path, that is the path of its clip, and a whole clip is there from then on.

A trim whose encoder has ended well is over with this path as soon as it goes on, if the path can take a
file. When all trims are over, what is new on the disk are directories and clips. -/
theorem clips_are_whole [DecidableEq ι] (d : Disk) (dir : String) (cuts : ι → Cut)
    (ha : (d.withDir dir).LeadsApart dir fun name => ∃ i, name = (cuts i).name)
    (moves : List (ι × TrimMove)) :
    (∀ i, (d.withDir dir).Unused ((cuts i).target dir) →
      ((start d).after dir cuts moves).disk.Unused ((cuts i).target dir) ∨
        ((start d).after dir cuts moves).Whole dir cuts ((cuts i).target dir)) ∧
    (∀ i path, (((start d).after dir cuts moves).cutters i).trim = .done (.ok path) →
      path = (cuts i).target dir ∧ ((d.withDir dir).Unused path →
        ∀ more, ((start d).after dir cuts (moves ++ more)).Whole dir cuts path)) ∧
    (∀ i, (((start d).after dir cuts moves).cutters i).ended = some (.ok ()) →
      (d.withDir dir).Takes ((cuts i).target dir) →
      (((start d).after dir cuts (moves ++ [(i, .go)])).cutters i).trim =
          .done (.ok ((cuts i).target dir)) ∧
        ∀ result, (((start d).after dir cuts moves).cutters i).trim = .done result →
          result = .ok ((cuts i).target dir)) ∧
    ((∀ i, ∃ result, (((start d).after dir cuts moves).cutters i).trim = .done result) →
      ∀ p, ((start d).after dir cuts moves).disk.get? p = d.get? p ∨
        (d.get? p = none ∧ ((start d).after dir cuts moves).disk.get? p = some .dir) ∨
        ∃ i, ((start d).after dir cuts moves).disk.find false ((cuts i).target dir) =
          .ok (p, ((start d).after dir cuts moves).disk.get? p)) := by
  have hsound := sound_after ha moves
  refine ⟨fun i hunused => hsound.unused_or_whole ha hunused, fun i path hi => ?_, fun i hi htakes => ?_,
    fun hdone p => hsound.places ha hdone p⟩
  · obtain ⟨hpath, -⟩ := hsound.found ha hi
    refine ⟨hpath, fun hunused more => ((sound_after ha (moves ++ more)).found ha (i := i) ?_).2 hunused⟩
    rw [after_append]
    exact after_done more hi
  · have hgo := hsound.go_ok ha hi htakes
    rw [after_append]
    refine ⟨hgo, fun result hresult => ?_⟩
    exact Trim.done.inj ((after_done [(i, .go)] hresult).symm.trans hgo)

/-! ### Samples -/

/-- A source, and no directory yet. -/
def raceDisk : Disk := ⟨[(["a.mp4"], .file [97])]⟩

def cutOfA : Cut := ⟨"/a.mp4", Trim.sampleWindow⟩

def tokenA : Token := ⟨World.tokenOf 0, List.all_eq_true.1 (by decide)⟩

def tokenB : Token := ⟨World.tokenOf 1, List.all_eq_true.1 (by decide)⟩

/-- Both trims find no clip, and each encodes one. -/
def raceMoves : List (Bool × TrimMove) :=
  [(true, .go), (false, .go), (true, .go), (false, .go), (true, .name tokenA), (false, .name tokenB),
    (true, .write [1]), (false, .write [2]), (false, .finish (.ok ())), (true, .write [1]),
    (false, .go), (true, .finish (.ok ())), (true, .go)]

theorem withDir_raceDisk :
    (raceDisk.withDir "cache").entries = [(["cache"], .dir), (["a.mp4"], .file [97])] := by
  decide +kernel

theorem unused_raceDisk : (raceDisk.withDir "cache").Unused Trim.clipOfA := by
  intro q e hfind
  have hfree : (raceDisk.withDir "cache").find false Trim.clipOfA =
      .ok (["cache", "a_b6669ba0_0.00_1.00.mp4"], none) := by
    decide +kernel
  cases hfree.symm.trans hfind

/-- Two trims for one clip: both have it in the end, as the last of them has moved it there, and it
stays whole. -/
theorem clips_are_whole_sample :
    (∀ i, (((start raceDisk).after "cache" (fun _ => cutOfA) raceMoves).cutters i).trim =
      .done (.ok Trim.clipOfA)) ∧
    ((start raceDisk).after "cache" (fun _ => cutOfA) raceMoves).disk.content Trim.clipOfA =
      .ok [1, 1] ∧
    ∀ more, ((start raceDisk).after "cache" (fun _ => cutOfA) (raceMoves ++ more)).Whole "cache"
      (fun _ => cutOfA) Trim.clipOfA := by
  have hapart : (raceDisk.withDir "cache").LeadsApart "cache"
      fun name => ∃ i : Bool, name = ((fun _ => cutOfA : Bool → Cut) i).name :=
    leadsApart_of_no_links (by simp [withDir_raceDisk])
  obtain ⟨-, hfound, -, -⟩ := clips_are_whole raceDisk "cache" (fun _ : Bool => cutOfA) hapart raceMoves
  have hend : (∀ i, (((start raceDisk).after "cache" (fun _ => cutOfA) raceMoves).cutters i).trim =
      .done (.ok Trim.clipOfA)) ∧
      ((start raceDisk).after "cache" (fun _ => cutOfA) raceMoves).disk.content Trim.clipOfA =
        .ok [1, 1] := by
    decide +kernel
  exact ⟨hend.1, hend.2, (hfound true _ (hend.1 true)).2 unused_raceDisk⟩

/-! ### What the conditions are for -/

def cutOfB : Cut := ⟨"/b.mp4", Trim.sampleWindow⟩

/-- One trim has its clip encoded, with nothing in between. -/
def encodeMoves {ι : Type} (i : ι) : List (ι × TrimMove) :=
  [.go, .go, .name tokenA, .write [1], .finish (.ok ()), .go].map fun m => (i, m)

/-- A directory stands at the path of the clip of the first source. -/
def blockedDisk : Disk :=
  ⟨[(["a.mp4"], .file [97]), (["cache"], .dir), (["cache", "a_b6669ba0_0.00_1.00.mp4"], .dir)]⟩

/-- The path of the clip of the first source is a link to a directory. -/
def detourDisk : Disk :=
  ⟨[(["a.mp4"], .file [97]), (["b.mp4"], .file [98]), (["cache"], .dir), (["cache", "sub"], .dir),
    (["cache", "a_b6669ba0_0.00_1.00.mp4"], .link "sub")]⟩

/-- A directory whose path leads there by way of the clip of the first source. -/
def detour : String := "cache/a_b6669ba0_0.00_1.00.mp4/.."

/-- An encoder ends well and its trim fails, when a directory stands at the path of the clip. A clip that
was returned is lost, when the path of the cache leads through a link that another clip replaces. And
what is made at the path of a clip may be a directory, when the path of the cache leads through it. -/
theorem clips_are_lost :
    ((((start blockedDisk).after "cache" (fun _ => cutOfA) (encodeMoves ())).cutters ()).ended =
        some (.ok ()) ∧
      (((start blockedDisk).after "cache" (fun _ => cutOfA) (encodeMoves ())).cutters ()).trim =
        Trim.refused .isDirectory) ∧
    (detourDisk.find false (cutOfB.target detour) =
        .ok (["cache", "b_cfbc87a0_0.00_1.00.mp4"], none) ∧
      (((start detourDisk).after detour (fun i => if i then cutOfA else cutOfB)
          (encodeMoves false)).cutters false).trim = .done (.ok (cutOfB.target detour)) ∧
      ((start detourDisk).after detour (fun i => if i then cutOfA else cutOfB)
          (encodeMoves false ++ encodeMoves true)).disk.content (cutOfB.target detour) =
        .error .notDirectory) ∧
    (raceDisk.find false (cutOfA.target detour) = .error .notFound ∧
      ((start raceDisk).after detour (fun _ => cutOfA) [((), .go), ((), .go)]).disk.find false
        (cutOfA.target detour) = .ok (["cache", "a_b6669ba0_0.00_1.00.mp4"], some .dir)) := by
  refine ⟨?_, ?_, ?_⟩ <;> decide +kernel

end Race

end ClipRelay
