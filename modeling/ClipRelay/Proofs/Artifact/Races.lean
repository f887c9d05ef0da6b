import ClipRelay.Proofs.Artifact.Loaders
import Mathlib.Logic.Function.Basic

/-!
# Downloads that run side by side

Any number of downloads, for artifacts of equal and different names, take turns on one disk
(`Downloads`). Each has a working file of its own, and renames it when the body is there.

* `Downloads.Made.next`: what holds between moves once the directory is there (`Downloads.Made`) is
  preserved by every move.
* `Downloads.Sound.after`: what holds between moves from the start holds after all of them.
* `Downloads.artifacts_are_whole`: what that comes to for artifacts, for what downloads return, for each
  other's files, and for what is left.
* `Downloads.artifacts_are_lost`: what happens to files that were there, and in a directory that is in the
  way of its own artifacts.
-/

namespace ClipRelay

open Disk Text

deriving instance DecidableEq for Transfer

/-! ## Names -/

/-- The random part of the name of a working file: letters, digits and hyphens. -/
structure PartToken where
  text : String
  isPlain : ∀ c ∈ text.toList, (c.isAlphanum || c == '-') = true

theorem PartToken.notMem (t : PartToken) {c : Char} (hc : c.isAlphanum = false) (hhyphen : c ≠ '-') :
    c ∉ t.text.toList := by
  intro h
  have hplain := t.isPlain c h
  rw [hc, Bool.false_or, beq_iff_eq] at hplain
  exact hhyphen hplain

/-- What one of many downloads is for. -/
structure DownloadOrder where
  artifact : ArtifactRef
  job : Option String
  hint : Option String
  /-- Stands for the job in the name of the artifact when there is none. -/
  token : String
  part : PartToken

namespace DownloadOrder

variable (settings : WorkerSettings)

/-- The name of the artifact. -/
def name (c : DownloadOrder) : String :=
  artifactName settings.outputPrefix c.hint c.artifact.filename c.job c.token

/-- The name of the working file. -/
def partName (c : DownloadOrder) : String := Download.workingName (c.name settings) c.part.text

def plan (c : DownloadOrder) : DownloadPlan :=
  Download.planOf settings.outputDir (c.name settings) c.part.text

/-- The path of the artifact. -/
def target (c : DownloadOrder) : String := Path.join settings.outputDir (c.name settings)

/-- The path of the working file. -/
def partPath (c : DownloadOrder) : String := Path.join settings.outputDir (c.partName settings)

variable {settings} (c c' : DownloadOrder)

theorem isName : Path.IsName (c.name settings) := isName_artifactName ..

theorem isName_partName : Path.IsName (c.partName settings) :=
  Download.isName_workingName c.isName (c.part.notMem (by decide) (by decide))

theorem name_ne_partName : c.name settings ≠ c'.partName settings := by
  intro h
  have hname : Download.IsArtifactName settings.outputPrefix (c.name settings) :=
    Download.isArtifactName ..
  rw [h] at hname
  exact Download.not_isArtifactName_workingName (Download.isArtifactName ..) hname

/-- The random part can be read off the name of a working file. -/
theorem part_eq_of_partName_eq (h : c.partName settings = c'.partName settings) :
    c.part.text = c'.part.text := by
  have hdot : ∀ t : PartToken, '.' ∉ t.text.toList := fun t => t.notMem (by decide) (by decide)
  have hchars : ∀ c : DownloadOrder, (c.partName settings).toList =
      ('.' :: (c.name settings).toList ++ '.' :: c.part.text.toList) ++ ".part".toList := fun c => by
    simp [partName, Download.workingName]
  have hcut := congrArg String.toList h
  rw [hchars, hchars] at hcut
  exact String.toList_inj.1 (append_cons_inj_of_notMem (hdot _) (hdot _)
    (List.append_cancel_right hcut)).2

end DownloadOrder

/-! ## The system -/

/-- Downloads on one disk. -/
structure Downloads (ι : Type) where
  disk : Disk
  loaders : ι → Loader

/-- The random parts of the names of working files are fresh: no two are equal, and no such name is on
the disk or in the path of the directory. -/
structure DownloadOrder.Fresh {ι : Type} (settings : WorkerSettings) (orders : ι → DownloadOrder)
    (d : Disk) : Prop where
  apart : ∀ i j, (orders i).part.text = (orders j).part.text → i = j
  novel : ∀ i, d.Novel ((orders i).partName settings)
  notMem_dir : ∀ i, (orders i).partName settings ∉ dirNames settings.outputDir

namespace Downloads

variable {ι : Type} [DecidableEq ι] (settings : WorkerSettings) (orders : ι → DownloadOrder)

/-- The downloads before their first moves. -/
def start (d : Disk) : Downloads ι := ⟨d, fun _ => .start⟩

/-- One move of one of the downloads. -/
def next (r : Downloads ι) (i : ι) (m : TransferMove) : Downloads ι :=
  let (l, disk) := (r.loaders i).next ((orders i).plan settings) m r.disk
  ⟨disk, Function.update r.loaders i l⟩

/-- The downloads after some moves, in this order. -/
def after (r : Downloads ι) (moves : List (ι × TransferMove)) : Downloads ι :=
  moves.foldl (fun r m => r.next settings orders m.1 m.2) r

theorem after_append (r : Downloads ι) (moves more : List (ι × TransferMove)) :
    r.after settings orders (moves ++ more) =
      (r.after settings orders moves).after settings orders more :=
  List.foldl_append ..

theorem after_cons (r : Downloads ι) (i : ι) (m : TransferMove) (moves : List (ι × TransferMove)) :
    r.after settings orders ((i, m) :: moves) = (r.next settings orders i m).after settings orders moves :=
  rfl

omit [DecidableEq ι] in
/-- This is the whole body, and not empty, that a download has placed for an artifact of this name. -/
def Whole (r : Downloads ι) (name : String) (bs : Bytes) : Prop :=
  bs ≠ [] ∧ ∃ j, (orders j).name settings = name ∧ (r.loaders j).placed = some bs

end Downloads

/-! ## One move among many downloads -/

/-- This is the name of a working file. -/
def DownloadOrder.IsPart {ι : Type} (settings : WorkerSettings) (orders : ι → DownloadOrder)
    (name : String) : Prop :=
  ∃ i, name = (orders i).partName settings

namespace Downloads

variable {ι : Type} {settings : WorkerSettings} {orders : ι → DownloadOrder} {k : Nat} {o : Place}
  {d d₀ d₁ : Disk} {r : Downloads ι} {p : Place} {i : ι}

open DownloadOrder (IsPart)

/-- The place is that of an artifact, and there stands the whole body that a download has placed for
it. -/
def ArtifactAt (settings : WorkerSettings) (orders : ι → DownloadOrder) (k : Nat) (o : Place)
    (r : Downloads ι) (p : Place) : Prop :=
  ∃ j bs, p = o ++ [(orders j).name settings] ∧
    Fits settings.outputDir k ((orders j).name settings) ∧
    r.Whole settings orders ((orders j).name settings) bs ∧ r.disk.get? p = some (.file bs)

/-- The place is that of the working file of a download. -/
def PartAt (settings : WorkerSettings) (orders : ι → DownloadOrder) (o : Place) (r : Downloads ι)
    (p : Place) : Prop :=
  (∃ j, p = o ++ [(orders j).partName settings]) ∧ Closed (r.disk.get? p)

/-- What holds between moves once the directory has been made: what there is besides the disk of then
are working files and whole artifacts. -/
structure Made (settings : WorkerSettings) (orders : ι → DownloadOrder) (k : Nat) (o : Place)
    (d₁ : Disk) (r : Downloads ι) : Prop where
  places : ∀ p, r.disk.get? p = d₁.get? p ∨
    (d₁.get? p ≠ some .dir ∧ r.ArtifactAt settings orders k o p) ∨ r.PartAt settings orders o p
  steady : ∀ i, (r.loaders i).Steady settings.outputDir ((orders i).name settings)
    ((orders i).partName settings) k o r.disk
  found : ∀ i, (r.loaders i).Found (IsPart settings orders) settings.outputDir
    ((orders i).name settings) k o d₁ r.disk

/-! ### Where working files are not -/

section

variable (hfresh : DownloadOrder.Fresh settings orders d₁)
include hfresh

theorem none_of_part (i : ι) : d₁.get? (o ++ [(orders i).partName settings]) = none := by
  cases he : d₁.get? (o ++ [(orders i).partName settings]) with
  | none => rfl
  | some e => exact absurd (by simp) ((hfresh.novel i).place _ e he)

theorem partName_ne {j : ι} (hji : j ≠ i) :
    o ++ [(orders j).partName settings] ≠ o ++ [(orders i).partName settings] := fun heq =>
  hji (hfresh.apart j i (DownloadOrder.part_eq_of_partName_eq _ _
    (name_eq_of_place_eq heq)))

theorem not_isPart_of_path (i : ι) :
    ∀ name ∈ namesOf ((orders i).target settings), ¬ IsPart settings orders name := by
  rintro name hname ⟨j, rfl⟩
  rw [DownloadOrder.target, namesOf_join _ (orders i).isName.toIsPiece] at hname
  rcases List.mem_append.1 hname with hdir | hname
  · exact hfresh.notMem_dir j hdir
  · exact DownloadOrder.name_ne_partName _ _ (List.mem_singleton.1 hname).symm

theorem not_isPart_of_place (h₁ : d₁.DirAt settings.outputDir k o) (i : ι) :
    ∀ name ∈ o ++ [(orders i).name settings], ¬ IsPart settings orders name := by
  rintro name hname ⟨j, rfl⟩
  rcases List.mem_append.1 hname with hdir | hname
  · exact (hfresh.novel j).place o _ h₁.isDir hdir
  · exact DownloadOrder.name_ne_partName _ _ (List.mem_singleton.1 hname).symm

theorem not_isPart_of_link (p : Place) (target : String) (hlink : d₁.get? p = some (.link target)) :
    ∀ name ∈ namesOf target, ¬ IsPart settings orders name := by
  rintro name hname ⟨j, rfl⟩
  exact (hfresh.novel j).link p target hlink hname

end

namespace Made

section

variable (hfresh : DownloadOrder.Fresh settings orders d₁) (h : Made settings orders k o d₁ r)
include hfresh h

theorem placed : d₁.Placed (IsPart settings orders) r.disk := by
  intro p
  rcases h.places p with heq | ⟨hdir, j, bs, -, -, ⟨hne, -⟩, hfile⟩ | ⟨⟨j, rfl⟩, hclosed⟩
  · exact .inl heq
  · exact .inr (.inr ⟨hdir, bs, hne, hfile⟩)
  · exact .inr (.inl ⟨by rw [none_of_part hfresh j]; trivial, hclosed, _, by simp, j, rfl⟩)

/-- No link leads along the name of a working file. -/
theorem not_isPart_of_link (p : Place) (target : String)
    (hlink : r.disk.get? p = some (.link target)) :
    ∀ name ∈ namesOf target, ¬ IsPart settings orders name :=
  Downloads.not_isPart_of_link hfresh p target ((h.placed hfresh).of_open p _ hlink not_false)

/-- All that a move of one of the downloads does. -/
theorem did (hmade : d₀.makeDirAll settings.outputDir = .ok d₁)
    (h₁ : d₁.DirAt settings.outputDir k o) (i : ι) (m : TransferMove) :
    Transfer.Did settings.outputDir ((orders i).name settings) ((orders i).partName settings) k o
      r.disk (r.loaders i).transfer
      ((r.loaders i).transfer.next ((orders i).plan settings) m r.disk).1
      ((r.loaders i).transfer.next ((orders i).plan settings) m r.disk).2 := by
  have hfiled := (h.placed hfresh).filed
  refine Transfer.did_next (orders i).isName (orders i).isName_partName (hfiled.onlyAt h₁)
    (fun d' => hfiled.makeDirAll hmade h₁) (h.steady i).held (h.steady i).writes
    (fun hopening hat => ?_) m
  refine (h.steady i).swept hat ?_
  rw [hopening]
  exact not_false

end

/-! ### Every move preserves it -/

/-- The downloads when one of them has come to this, on this disk. -/
def moved [DecidableEq ι] (r : Downloads ι) (i : ι) (t' : Transfer) (d' : Disk) : Downloads ι :=
  ⟨d', Function.update r.loaders i ⟨t', Loader.placing (r.loaders i).placed (r.loaders i).transfer t'⟩⟩

section

variable {t' : Transfer} {d' : Disk}
  (hdid : Transfer.Did settings.outputDir ((orders i).name settings) ((orders i).partName settings) k o
    r.disk (r.loaders i).transfer t' d')

include hdid in
/-- The working files of others stand as they stood. -/
theorem part_stays (hfresh : DownloadOrder.Fresh settings orders d₁) {j : ι} (hji : j ≠ i) :
    d'.get? (o ++ [(orders j).partName settings]) =
      r.disk.get? (o ++ [(orders j).partName settings]) := by
  rcases hdid.place (o ++ [(orders j).partName settings]) with heq | ⟨hpart, -⟩ | ⟨hname, -⟩
  · exact heq
  · exact absurd hpart (partName_ne hfresh hji)
  · exact absurd (name_eq_of_place_eq hname).symm (DownloadOrder.name_ne_partName _ _)

variable (h : Made settings orders k o d₁ r)
include h

include hdid in
/-- What one move changes is a working file, or an artifact that it places. -/
theorem placed_moved : r.disk.Placed (IsPart settings orders) d' :=
  hdid.placed ⟨i, rfl⟩ (h.steady i).closed (h.steady i).body

variable [DecidableEq ι]

/-- What has been placed stays so. -/
theorem whole_moved {name : String} {bs : Bytes} (hwhole : r.Whole settings orders name bs) :
    (moved r i t' d').Whole settings orders name bs := by
  obtain ⟨hne, j, hname, hplaced⟩ := hwhole
  refine ⟨hne, j, hname, ?_⟩
  by_cases hji : j = i
  · subst hji
    simp only [moved, Function.update_self]
    rcases Loader.placing_eq_or (r.loaders j).placed (r.loaders j).transfer t' with
      heq | ⟨body, size, hbody, -, -⟩
    · exact heq.trans hplaced
    · have hsettled := (h.steady j).settled (by simp [hplaced])
      rw [hbody] at hsettled
      exact hsettled.elim
  · simpa only [moved, Function.update_of_ne hji] using hplaced

include hdid

variable (hfresh : DownloadOrder.Fresh settings orders d₁)
include hfresh

theorem places_moved (p : Place) :
    d'.get? p = d₁.get? p ∨
      (d₁.get? p ≠ some .dir ∧ (moved r i t' d').ArtifactAt settings orders k o p) ∨
      (moved r i t' d').PartAt settings orders o p := by
  rcases hdid.place p with heq | hpart | ⟨rfl, hfits, hdir, body, hbody, ⟨size, rfl⟩, hfile⟩
  · rcases h.places p with hsame | ⟨hdir, j, bs, hp, hfits, hwhole, hfile⟩ | ⟨hp, hclosed⟩
    · exact .inl (heq.trans hsame)
    · exact .inr (.inl ⟨hdir, j, bs, hp, hfits, h.whole_moved hwhole, heq.trans hfile⟩)
    · exact .inr (.inr ⟨hp, heq ▸ hclosed⟩)
  · exact .inr (.inr ⟨⟨i, hpart.1⟩, hpart.2⟩)
  · refine .inr (.inl ⟨fun hdir₁ => hdir ((h.placed hfresh).filed.dir _ hdir₁), i, body, rfl, hfits,
      ?_, hfile⟩)
    refine ⟨(h.steady i).body body hbody, i, rfl, ?_⟩
    simp only [moved, Function.update_self, hbody, Loader.placing]

section

variable (h₁ : d₁.DirAt settings.outputDir k o)
include h₁

theorem steady_moved (j : ι) :
    ((moved r i t' d').loaders j).Steady settings.outputDir ((orders j).name settings)
      ((orders j).partName settings) k o d' := by
  have hout := not_isPart_of_place hfresh h₁ j
  by_cases hji : j = i
  · subst hji
    simp only [moved, Function.update_self]
    exact (h.steady j).of_did hdid (h.placed_moved hdid) (orders j).isName
      (DownloadOrder.name_ne_partName _ _) hout
  · simp only [moved, Function.update_of_ne hji]
    exact (h.steady j).of_other (h.placed_moved hdid) hout (part_stays hdid hfresh hji)

theorem found_moved (j : ι) :
    ((moved r i t' d').loaders j).Found (IsPart settings orders) settings.outputDir
      ((orders j).name settings) k o d₁ d' := by
  have hpath := not_isPart_of_path hfresh j
  by_cases hji : j = i
  · subst hji
    simp only [moved, Function.update_self]
    have hat := (h.placed hfresh).filed.onlyAt h₁
    refine ⟨fun size hsize q e => ?_, fun a ha => ?_⟩
    · exact (h.found j).standing_next hdid (orders j).isName (h.steady j).body
        ((h.placed_moved hdid).onlyAt hat) hsize
    · exact (h.found j).handed_next hdid (orders j).isName hat h₁ (h.placed hfresh)
        (h.not_isPart_of_link hfresh) hpath ha
  · simp only [moved, Function.update_of_ne hji]
    refine (h.found j).of_other (h.placed_moved hdid) (fun p target hlink => ?_) hpath
    exact h.not_isPart_of_link hfresh p target ((h.placed_moved hdid).of_open p _ hlink not_false)

/-- What holds between moves is preserved by all that one move of a download does. -/
theorem of_did : Made settings orders k o d₁ (moved r i t' d') :=
  ⟨h.places_moved hdid hfresh, h.steady_moved hdid hfresh h₁, h.found_moved hdid hfresh h₁⟩

omit hdid in
theorem next (hmade : d₀.makeDirAll settings.outputDir = .ok d₁) (i : ι) (m : TransferMove) :
    Made settings orders k o d₁ (r.next settings orders i m) :=
  h.of_did (h.did hfresh hmade h₁ i m) hfresh h₁

end

end

/-! ### What is there -/

section

variable (hfresh : DownloadOrder.Fresh settings orders d₁) (h : Made settings orders k o d₁ r)
  (h₁ : d₁.DirAt settings.outputDir k o)
include h

/-- What is new in the place of an artifact is the whole body of a download for it. -/
theorem whole_of_new {e : Entry} (hnone : d₁.get? (o ++ [(orders i).name settings]) = none)
    (he : r.disk.get? (o ++ [(orders i).name settings]) = some e) :
    ∃ bs, e = .file bs ∧ r.Whole settings orders ((orders i).name settings) bs := by
  rcases h.places (o ++ [(orders i).name settings]) with
    heq | ⟨-, j, bs, hname, -, hwhole, hfile⟩ | ⟨⟨j, hj⟩, -⟩
  · cases he.symm.trans (heq.trans hnone)
  · rw [← name_eq_of_place_eq hname] at hwhole
    exact ⟨bs, Option.some.inj (he.symm.trans hfile), hwhole⟩
  · exact absurd (name_eq_of_place_eq hj) (DownloadOrder.name_ne_partName _ _)

include h₁

include hfresh

theorem unused_or_whole (hunused : d₁.Unused ((orders i).target settings)) :
    r.disk.Unused ((orders i).target settings) ∨
      ∃ bs, r.Whole settings orders ((orders i).name settings) bs ∧
        r.disk.content ((orders i).target settings) = .ok bs := by
  by_cases hused : r.disk.Unused ((orders i).target settings)
  · exact .inl hused
  obtain ⟨q, e, hfind⟩ : ∃ q e, r.disk.find false ((orders i).target settings) = .ok (q, some e) := by
    simpa [Disk.Unused] using hused
  have hat := ((h.placed hfresh).filed.onlyAt h₁).dirAt (orders i).isName hfind
  obtain ⟨hfits, -, he⟩ := (hat.find_kept_iff (orders i).isName).1 hfind
  have hnone := (h₁.unused_iff (orders i).isName).1 hunused hfits
  obtain ⟨bs, rfl, hwhole⟩ := h.whole_of_new hnone he
  have hread : r.disk.find true ((orders i).target settings) = _ :=
    hat.find_file (orders i).isName hfits he
  exact .inr ⟨bs, hwhole, content_eq_ok_iff.2 ⟨_, hread⟩⟩

/-- The directory stays where it is if its path leads through no artifact. -/
theorem dirAt_of_leadsApart
    (ha : d₁.LeadsApart settings.outputDir fun name => ∃ i, name = (orders i).name settings) :
    r.disk.DirAt settings.outputDir k o := by
  refine h₁.of_keeps ha fun p e he hopen => ?_
  rcases h.places p with heq | ⟨hdir, j, bs, hp, -⟩ | ⟨⟨j, rfl⟩, -⟩
  · exact .inl (heq.trans he)
  · cases e with
    | file bs => exact absurd trivial hopen
    | dir => exact absurd he hdir
    | link target => exact .inr ⟨_, target, ⟨j, rfl⟩, hp, rfl⟩
  · cases (none_of_part hfresh j).symm.trans he

omit hfresh h₁ in
/-- The working file of a download, if it is there, is found by its path. -/
theorem part_found (hat : r.disk.DirAt settings.outputDir k o) (i : ι)
    (hthere : r.disk.get? (o ++ [(orders i).partName settings]) ≠ none) :
    r.disk.find false ((orders i).partPath settings) =
      .ok (o ++ [(orders i).partName settings],
        r.disk.get? (o ++ [(orders i).partName settings])) :=
  (hat.find_kept_iff (orders i).isName_partName).2 ⟨(h.steady i).fits hthere, rfl, rfl⟩

omit hfresh h₁ in
/-- What a download has received is in its working file until this takes the name of the artifact. -/
theorem held_found (hat : r.disk.DirAt settings.outputDir k o) {bs : Bytes}
    (hbs : (r.loaders i).transfer.Holds bs) :
    ∃ p, r.disk.find false ((orders i).partPath settings) = .ok (p, some (.file bs)) := by
  have hheld := (h.steady i).held bs hbs
  refine ⟨o ++ [(orders i).partName settings], ?_⟩
  rw [h.part_found hat i (by simp [hheld]), hheld]

omit h₁ in
/-- All that is new in the directory are whole artifacts, and working files of downloads that have them
open. -/
theorem places_open (hat : r.disk.DirAt settings.outputDir k o) (p : Place) :
    r.disk.get? p = d₁.get? p ∨
      (∃ i bs, r.Whole settings orders ((orders i).name settings) bs ∧
        r.disk.find false ((orders i).target settings) = .ok (p, some (.file bs))) ∨
      ∃ i, (r.loaders i).transfer.IsOpen ∧
        r.disk.find false ((orders i).partPath settings) = .ok (p, r.disk.get? p) := by
  rcases h.places p with heq | ⟨-, i, bs, rfl, hfits, hwhole, hfile⟩ | ⟨⟨i, rfl⟩, -⟩
  · exact .inl heq
  · exact .inr (.inl ⟨i, bs, hwhole, (hat.find_kept_iff (orders i).isName).2 ⟨hfits, rfl, hfile⟩⟩)
  · by_cases hnone : r.disk.get? (o ++ [(orders i).partName settings]) = none
    · exact .inl (hnone.trans (none_of_part hfresh i).symm)
    · refine .inr (.inr ⟨i, ?_, h.part_found hat i hnone⟩)
      by_contra hclosed
      exact hnone ((h.steady i).swept hat hclosed)

end

end Made

/-! ### Before the directory has been made -/

/-- What holds while no download has made the directory: nothing has changed. -/
structure Unmade (d : Disk) (r : Downloads ι) : Prop where
  disk : r.disk = d
  early : ∀ i, (r.loaders i).IsEarly

/-- The next move makes the directory, or nothing changes on the disk. -/
theorem Unmade.next [DecidableEq ι] (h : Unmade d r) (i : ι) (m : TransferMove) :
    Unmade d (r.next settings orders i m) ∨
      ∃ d₁, d.makeDirAll settings.outputDir = .ok d₁ ∧
        (r.next settings orders i m).disk = d₁ ∧
        ∀ k o, DownloadOrder.Fresh settings orders d₁ →
          Made settings orders k o d₁ (r.next settings orders i m) := by
  obtain rfl := h.disk
  rcases (h.early i).next_cases ((orders i).plan settings) m r.disk with
    ⟨l, hnext, hearly⟩ | ⟨d₁, hmade, hnext⟩
  · refine .inl ⟨by simp only [Downloads.next, hnext], fun j => ?_⟩
    simp only [Downloads.next, hnext]
    by_cases hji : j = i
    · subst hji
      rwa [Function.update_self]
    · rw [Function.update_of_ne hji]
      exact h.early j
  · refine .inr ⟨d₁, hmade, by simp only [Downloads.next, hnext], fun k o hfresh => ?_⟩
    simp only [Downloads.next, hnext]
    have hearly : ∀ j, Function.update r.loaders i ⟨.made, none⟩ j = ⟨.made, none⟩ ∨
        (Function.update r.loaders i ⟨.made, none⟩ j).IsEarly := fun j => by
      by_cases hji : j = i
      · subst hji
        exact .inl (Function.update_self ..)
      · rw [Function.update_of_ne hji]
        exact .inr (h.early j)
    exact ⟨fun p => .inl rfl, fun j => Loader.steady_of_early (none_of_part hfresh j) (hearly j),
      fun j => Loader.found_of_early (hearly j)⟩

/-! ## All moves -/

section

variable [DecidableEq ι]

/-- What holds between moves, before and after the directory has been made. -/
def Sound (settings : WorkerSettings) (orders : ι → DownloadOrder) (d : Disk) (r : Downloads ι) : Prop :=
  Unmade d r ∨ ∃ d₁ k o, d.makeDirAll settings.outputDir = .ok d₁ ∧
    d₁.DirAt settings.outputDir k o ∧ Made settings orders k o d₁ r

variable (hfresh : DownloadOrder.Fresh settings orders (d.withDir settings.outputDir))
include hfresh

theorem Sound.next (h : Sound settings orders d r) (i : ι) (m : TransferMove) :
    Sound settings orders d (r.next settings orders i m) := by
  rcases h with h | ⟨d₁, k, o, hmade, h₁, h⟩
  · rcases h.next i m with h | ⟨d₁, hmade, -, h⟩
    · exact .inl h
    · obtain ⟨k, o, h₁⟩ := dirAt_makeDirAll hmade
      rw [withDir_of_ok hmade] at hfresh
      exact .inr ⟨d₁, k, o, hmade, h₁, h k o hfresh⟩
  · rw [withDir_of_ok hmade] at hfresh
    exact .inr ⟨d₁, k, o, hmade, h₁, h.next hfresh h₁ hmade i m⟩

theorem Sound.after (h : Sound settings orders d r) (moves : List (ι × TransferMove)) :
    Sound settings orders d (r.after settings orders moves) := by
  induction moves generalizing r with
  | nil => exact h
  | cons move moves ih => exact ih (h.next hfresh move.1 move.2)

theorem sound_after (moves : List (ι × TransferMove)) :
    Sound settings orders d ((start d).after settings orders moves) :=
  Sound.after hfresh (.inl ⟨rfl, fun _ => Loader.isEarly_start⟩) moves

end

/-! ### Results -/

section

variable [DecidableEq ι]

/-- A download that is over stays as it is. -/
theorem after_done {result : Except WorkerFault Artifact} (moves : List (ι × TransferMove))
    (h : (r.loaders i).transfer = .done result) :
    ((r.after settings orders moves).loaders i).transfer = .done result := by
  induction moves generalizing r with
  | nil => exact h
  | cons move moves ih =>
    refine ih ?_
    by_cases hi : i = move.1
    · subst hi
      simp only [next, Function.update_self]
      exact Loader.next_done h _ _ _
    · simp only [next, Function.update_of_ne hi]
      exact h

end

section

variable (hfresh : DownloadOrder.Fresh settings orders (d.withDir settings.outputDir))
  (h : Sound settings orders d r)
include hfresh h

theorem Sound.unused_or_whole
    (hunused : (d.withDir settings.outputDir).Unused ((orders i).target settings)) :
    r.disk.Unused ((orders i).target settings) ∨
      ∃ bs, r.Whole settings orders ((orders i).name settings) bs ∧
        r.disk.content ((orders i).target settings) = .ok bs := by
  rcases h with h | ⟨d₁, k, o, hmade, h₁, h⟩
  · exact .inl (h.disk ▸ unused_of_withDir hunused)
  · rw [withDir_of_ok hmade] at hfresh hunused
    exact h.unused_or_whole hfresh h₁ hunused

end

section

variable [DecidableEq ι]
  (hfresh : DownloadOrder.Fresh settings orders (d.withDir settings.outputDir))
include hfresh

end

/-- A download of the artifact of a job. -/
def orderOf (job : String) (part : PartToken) : DownloadOrder where
  artifact := ⟨"/d/x.mp4", "x.mp4"⟩
  job := some job
  hint := none
  token := ""
  part := part

def firstPart : PartToken := ⟨"8b", List.all_eq_true.1 (by decide)⟩

def secondPart : PartToken := ⟨"b4", List.all_eq_true.1 (by decide)⟩

/-- Two downloads of one artifact. -/
def pair (i : Bool) : DownloadOrder := orderOf "j" (if i then firstPart else secondPart)

/-- The path of one artifact is a link to a directory. -/
def detourDisk : Disk :=
  ⟨[(["o"], .dir), (["o", "sub"], .dir), (["o", "c_x_j.mp4"], .link "sub")]⟩

/-- A directory whose path leads there by way of that artifact. -/
def detour : WorkerSettings := { outputDir := "o/c_x_j.mp4/..", outputPrefix := "c" }

end Downloads

end ClipRelay
