import ClipRelay.Proofs.Clip.Names
import ClipRelay.Proofs.Disk.Standing

/-!
# The moves of a trim

A trim takes the steps of `Trim.step` among what others do on the same disk. Its encoder writes as much
as it likes in between, and after its end others may have their turns before the trim goes on
(`Cutter.next`).

* `Cutter.Did`, `Cutter.did_next`: all that one move of a trim does when the directory is there.
* `Cutter.Did.place`, `Cutter.Did.works`, `Cutter.Did.clip_stays`: what that means for working files and
  clips.
* `Cutter.IsEarly.next_cases`: before it makes the directory a trim changes nothing.
-/

namespace ClipRelay

open Disk Text

/-- A random name: ASCII letters and digits. -/
structure Token where
  text : String
  isAlphanum : ∀ c ∈ text.toList, c.isAlphanum = true

theorem Token.notMem (t : Token) {c : Char} (hc : c.isAlphanum = false) : c ∉ t.text.toList := by
  intro h
  rw [t.isAlphanum c h] at hc
  cases hc

/-- A window to cut out of a source, which is given by its canonical path. -/
structure Cut where
  source : String
  window : TrimWindow

namespace Cut

/-- The name of the clip. -/
def name (c : Cut) : String := cacheName c.source c.window

def plan (dir : String) (c : Cut) : TrimPlan := Trim.planOf dir c.source c.window

/-- The path of the clip. -/
def target (dir : String) (c : Cut) : String := Path.join dir c.name

theorem plan_eq (dir : String) (c : Cut) : c.plan dir = ⟨dir, c.target dir⟩ := by
  unfold plan Trim.planOf target name
  rfl

theorem isName (c : Cut) : Path.IsName c.name := isName_cacheName c.source c.window

end Cut

/-- One of the trims: what it has come to, what its encoder has written, and how the encoder has
ended. -/
structure Cutter where
  trim : Trim
  written : Bytes
  ended : Option (Except MediaFault Unit)

/-- What may happen next to one of the trims. -/
inductive TrimMove
  /-- The trim goes on by itself: it looks for the clip, makes the directory, and when the encoder has
  ended, renames or deletes the working file. -/
  | go
  /-- A name for the working file has been made up. -/
  | name (token : Token)
  /-- The encoder writes some of its output. -/
  | write (bs : Bytes)
  /-- The encoder ends. -/
  | finish (result : Except MediaFault Unit)

namespace Cutter

/-- A trim that starts. -/
def start : Cutter := ⟨.looking, [], none⟩

/-- The encoder is at work. -/
def isEncoding (c : Cutter) : Bool :=
  match c.trim, c.ended with
  | .encoding _, none => true
  | _, _ => false

def step (dir : String) (cut : Cut) (c : Cutter) (e : TrimEvent) (d : Disk) : Cutter × Disk :=
  let (trim, d) := c.trim.step (cut.plan dir) e d
  ({ c with trim }, d)

/-- One move of a trim. -/
def next (dir : String) (cut : Cut) (c : Cutter) (m : TrimMove) (d : Disk) : Cutter × Disk :=
  match m with
  | .go =>
    match c.ended with
    | some result => c.step dir cut (.encoded result) d
    | none => c.step dir cut .go d
  | .name token => c.step dir cut (.named (Trim.workingPath dir cut.source token.text)) d
  | .write bs =>
    if c.isEncoding then { c with written := c.written ++ bs }.step dir cut (.wrote bs) d
    else (c, d)
  | .finish result => if c.isEncoding then ({ c with ended := some result }, d) else (c, d)

end Cutter

/-! ## One move of one trim -/

namespace Cutter

variable {dir nm : String} {k : Nat} {o : Place} {cut : Cut} {c : Cutter} {d : Disk}

/-- The name of a file that a trim works on. -/
structure IsWorkName (nm : String) : Prop where
  isName : Path.IsName nm
  ne_clip : ∀ cut : Cut, nm ≠ cut.name

theorem isWorkName (source : String) (token : Token) :
    IsWorkName (Trim.workingName source token.text) where
  isName := Trim.isName_workingName (token.notMem (by decide))
  ne_clip cut := Trim.workingName_ne_cacheName (token.notMem (by decide)) cut.source cut.window

/-- The trim works on the file of this name in the directory, and the file holds what its encoder has
written. -/
structure WorksOn (dir : String) (k : Nat) (o : Place) (d : Disk) (c : Cutter) (nm : String) : Prop where
  trim : c.trim = .encoding (Path.join dir nm)
  isWorkName : IsWorkName nm
  fits : Fits dir k nm
  file : d.get? (o ++ [nm]) = some (.file c.written)

/-- All that one move of a trim does when its directory is there. -/
inductive Did (dir : String) (k : Nat) (o : Place) (cut : Cut) (d : Disk) (c : Cutter) :
    Cutter → Disk → Prop
  | idle : Did dir k o cut d c c d
  | found : c.trim = .looking → d.isFile (cut.target dir) = true →
    Did dir k o cut d c { c with trim := .done (.ok (cut.target dir)) } d
  | missed : c.trim = .looking → Did dir k o cut d c { c with trim := .missing } d
  | ready : c.trim = .missing → Did dir k o cut d c { c with trim := .ready } d
  | refused (e : IoFault) : c.trim = .ready →
    Did dir k o cut d c { c with trim := .refused e } d
  | opened {nm : String} : c.trim = .ready → IsWorkName nm → Fits dir k nm →
    d.get? (o ++ [nm]) = none →
    Did dir k o cut d c { c with trim := .encoding (Path.join dir nm) } (d.put (o ++ [nm]) (.file []))
  | wrote {nm : String} (bs : Bytes) : c.WorksOn dir k o d nm → c.ended = none →
    Did dir k o cut d c { c with written := c.written ++ bs }
      (d.put (o ++ [nm]) (.file (c.written ++ bs)))
  | ended {working : String} (result : Except MediaFault Unit) : c.trim = .encoding working →
    c.ended = none → Did dir k o cut d c { c with ended := some result } d
  | moved {nm : String} : c.WorksOn dir k o d nm → c.ended = some (.ok ()) → Fits dir k cut.name →
    d.get? (o ++ [cut.name]) ≠ some .dir →
    Did dir k o cut d c { c with trim := .done (.ok (cut.target dir)) }
      ((d.erase (o ++ [nm])).put (o ++ [cut.name]) (.file c.written))
  | dropped {nm : String} (f : MediaFault) : c.WorksOn dir k o d nm →
    (c.ended = some (.ok ()) → ¬ d.Takes (cut.target dir)) →
    Did dir k o cut d c { c with trim := .done (.error f) } (d.erase (o ++ [nm]))

/-- A trim goes on by itself while no encoder has ended. -/
theorem did_go (hmade : d.makeDirAll dir = .ok d) :
    Did dir k o cut d c (c.step dir cut .go d).1 (c.step dir cut .go d).2 := by
  obtain ⟨trim, written, ended⟩ := c
  cases trim with
  | looking =>
    simp only [step, Trim.step, Cut.plan_eq]
    split
    · rename_i hfile
      exact .found rfl hfile
    · exact .missed rfl
  | missing =>
    simp only [step, Trim.step, Cut.plan_eq, hmade]
    exact .ready rfl
  | ready => exact .idle
  | encoding working => exact .idle
  | done result => exact .idle

theorem did_named (hat : d.DirAt dir k o) (token : Token) :
    Did dir k o cut d c
      (c.step dir cut (.named (Trim.workingPath dir cut.source token.text)) d).1
      (c.step dir cut (.named (Trim.workingPath dir cut.source token.text)) d).2 := by
  obtain ⟨trim, written, ended⟩ := c
  have hname := isWorkName cut.source token
  cases trim with
  | ready =>
    simp only [step, Trim.step, Trim.workingPath_eq]
    cases hcreate : d.create (Path.join dir (Trim.workingName cut.source token.text)) with
    | ok d' =>
      obtain ⟨hfits, hnone, rfl⟩ := hat.create_eq_ok hname.isName hcreate
      exact .opened rfl hname hfits hnone
    | error e =>
      cases e with
      | «exists» => exact .idle
      | _ => exact .refused _ rfl
  | looking => exact .idle
  | missing => exact .idle
  | encoding working => exact .idle
  | done result => exact .idle

section

variable {nm : String} (hat : d.DirAt dir k o) (h : c.WorksOn dir k o d nm)
include hat h

theorem WorksOn.did_wrote (bs : Bytes) (hended : c.ended = none) :
    Did dir k o cut d c ({ c with written := c.written ++ bs }.step dir cut (.wrote bs) d).1
      ({ c with written := c.written ++ bs }.step dir cut (.wrote bs) d).2 := by
  have happend : d.append (Path.join dir nm) bs = _ :=
    hat.append_file h.isWorkName.isName h.fits h.file
  obtain ⟨trim, written, ended⟩ := c
  obtain rfl : trim = .encoding (Path.join dir nm) := h.trim
  simp only [step, Trim.step, happend]
  exact .wrote bs h hended

/-- A trim goes on when its encoder has ended. -/
theorem WorksOn.did_encoded {result : Except MediaFault Unit} (hended : c.ended = some result) :
    Did dir k o cut d c (c.step dir cut (.encoded result) d).1
      (c.step dir cut (.encoded result) d).2 := by
  have hname := h.isWorkName.isName
  have hdiscard := hat.discard_file hname h.fits h.file
  obtain ⟨trim, written, ended⟩ := c
  obtain rfl : trim = .encoding (Path.join dir nm) := h.trim
  cases result with
  | error f =>
    simp only [step, Trim.step, hdiscard]
    refine .dropped f h fun hok => ?_
    cases hended.symm.trans hok
  | ok =>
    simp only [step, Trim.step, Cut.plan_eq]
    cases hrename : d.rename (Path.join dir nm) (cut.target dir) with
    | ok d' =>
      obtain ⟨hfits, hdir, rfl⟩ := hat.rename_eq_ok hname cut.isName hrename h.file
      exact .moved h hended hfits hdir
    | error e =>
      simp only [hdiscard]
      refine .dropped _ h fun _ htakes => ?_
      obtain ⟨hfits, hdir⟩ := (hat.takes_iff cut.isName).1 htakes
      rw [Cut.target, hat.rename_file hname cut.isName h.fits h.file hfits hdir] at hrename
      cases hrename

end

theorem isEncoding_iff : c.isEncoding = true ↔ (∃ working, c.trim = .encoding working) ∧ c.ended = none := by
  obtain ⟨trim, written, ended⟩ := c
  cases trim <;> cases ended <;> simp [isEncoding]

/-- All that one move of a trim does when its directory is there and its working file is its own. -/
theorem did_next (hat : d.DirAt dir k o) (hmade : d.makeDirAll dir = .ok d)
    (hwork : ∀ working, c.trim = .encoding working → ∃ nm, c.WorksOn dir k o d nm) (m : TrimMove) :
    Did dir k o cut d c (c.next dir cut m d).1 (c.next dir cut m d).2 := by
  cases m with
  | go =>
    cases hended : c.ended with
    | none =>
      simp only [next, hended]
      exact did_go hmade
    | some result =>
      simp only [next, hended]
      by_cases hencoding : ∃ working, c.trim = .encoding working
      · obtain ⟨working, hw⟩ := hencoding
        obtain ⟨nm, h⟩ := hwork working hw
        exact h.did_encoded hat hended
      · obtain ⟨trim, written, ended⟩ := c
        cases trim with
        | encoding working => exact absurd ⟨working, rfl⟩ hencoding
        | _ => cases result <;> exact .idle
  | name token => exact did_named hat token
  | write bs =>
    by_cases hencoding : c.isEncoding = true
    · obtain ⟨⟨working, hw⟩, hended⟩ := isEncoding_iff.1 hencoding
      obtain ⟨nm, h⟩ := hwork working hw
      simp only [next, hencoding, if_true]
      exact h.did_wrote hat bs hended
    · simp only [next, hencoding]
      exact .idle
  | finish result =>
    by_cases hencoding : c.isEncoding = true
    · obtain ⟨⟨working, hw⟩, hended⟩ := isEncoding_iff.1 hencoding
      simp only [next, hencoding, if_true]
      exact .ended result hw hended
    · simp only [next, hencoding]
      exact .idle

/-! ### What follows from that -/

section

variable {c' : Cutter} {d' : Disk}

theorem WorksOn.unique {nm' : String} (h : c.WorksOn dir k o d nm) (h' : c.WorksOn dir k o d' nm') :
    nm = nm' :=
  Path.join_injective h.isWorkName.isName.toIsPiece h'.isWorkName.isName.toIsPiece
    (Trim.encoding.inj (h.trim.symm.trans h'.trim))

theorem IsWorkName.place_ne (h : IsWorkName nm) (cut : Cut) : o ++ [nm] ≠ o ++ [cut.name] := fun heq =>
  h.ne_clip cut (List.singleton_inj.1 (List.append_cancel_left heq))

variable (h : Did dir k o cut d c c' d')
include h

/-- What an encoder has written that has ended well does not change. -/
theorem Did.ended_well (hended : c.ended = some (.ok ())) :
    c'.ended = some (.ok ()) ∧ c'.written = c.written := by
  cases h with
  | wrote _ _ hnone => cases hnone.symm.trans hended
  | ended _ _ hnone => cases hnone.symm.trans hended
  | _ => exact ⟨hended, rfl⟩

/-- A trim goes on working on its file, or the file is gone. -/
theorem Did.works (hworks : c.WorksOn dir k o d nm) :
    c'.WorksOn dir k o d' nm ∨ d'.get? (o ++ [nm]) = none := by
  have hencoding := hworks.trim
  cases h with
  | idle => exact .inl hworks
  | found hlooking => cases hlooking.symm.trans hencoding
  | missed hlooking => cases hlooking.symm.trans hencoding
  | ready hmissing => cases hmissing.symm.trans hencoding
  | refused e hready => cases hready.symm.trans hencoding
  | opened hready => cases hready.symm.trans hencoding
  | wrote bs hworks' =>
    obtain rfl := hworks.unique hworks'
    exact .inl ⟨hworks.trim, hworks.isWorkName, hworks.fits, get?_put_self (by simp)⟩
  | ended result => exact .inl ⟨hworks.trim, hworks.isWorkName, hworks.fits, hworks.file⟩
  | moved hworks' =>
    obtain rfl := hworks.unique hworks'
    refine .inr ?_
    rw [get?_put _ (by simp), if_neg (hworks.isWorkName.place_ne cut), get?_erase _ (by simp),
      if_pos rfl]
  | dropped f hworks' =>
    obtain rfl := hworks.unique hworks'
    refine .inr ?_
    rw [get?_erase _ (by simp), if_pos rfl]

/-- A move changes nothing but the working file and the clip, which becomes what the encoder has
written. -/
theorem Did.place (hnew : c.trim = .ready → c.written = []) (p : Place) :
    d'.get? p = d.get? p ∨
    (∃ nm, p = o ++ [nm] ∧
      (c.WorksOn dir k o d nm ∨ (d.get? p = none ∧ c'.WorksOn dir k o d' nm))) ∨
    (p = o ++ [cut.name] ∧ Fits dir k cut.name ∧ d.get? p ≠ some .dir ∧
      c'.ended = some (.ok ()) ∧ d'.get? p = some (.file c'.written)) := by
  cases h with
  | @opened nm hready hname hfits hnone =>
    by_cases hp : p = o ++ [nm]
    · subst hp
      refine .inr (.inl ⟨nm, rfl, .inr ⟨hnone, rfl, hname, hfits, ?_⟩⟩)
      rw [get?_put_self (by simp), hnew hready]
    · exact .inl (by rw [get?_put _ (by simp), if_neg hp])
  | @wrote nm bs hworks =>
    by_cases hp : p = o ++ [nm]
    · exact .inr (.inl ⟨nm, hp, .inl hworks⟩)
    · exact .inl (by rw [get?_put _ (by simp), if_neg hp])
  | @moved nm hworks hended hfits hdir =>
    by_cases hp : p = o ++ [nm]
    · exact .inr (.inl ⟨nm, hp, .inl hworks⟩)
    · by_cases hclip : p = o ++ [cut.name]
      · subst hclip
        exact .inr (.inr ⟨rfl, hfits, hdir, hended, get?_put_self (by simp)⟩)
      · exact .inl (by rw [get?_put _ (by simp), if_neg hclip, get?_erase _ (by simp), if_neg hp])
  | @dropped nm f hworks =>
    by_cases hp : p = o ++ [nm]
    · exact .inr (.inl ⟨nm, hp, .inl hworks⟩)
    · exact .inl (by rw [get?_erase _ (by simp), if_neg hp])
  | _ => exact .inl rfl

/-- What a trim works on after a move it has worked on before, or it is new. -/
theorem Did.encoding (hnew : c.trim = .ready → c.written = [])
    (hwork : ∀ working, c.trim = .encoding working → ∃ nm, c.WorksOn dir k o d nm)
    {working : String} (hc' : c'.trim = .encoding working) :
    ∃ nm, c'.WorksOn dir k o d' nm ∧ (c.WorksOn dir k o d nm ∨ d.get? (o ++ [nm]) = none) := by
  cases h with
  | idle =>
    obtain ⟨nm, hworks⟩ := hwork working hc'
    exact ⟨nm, hworks, .inl hworks⟩
  | @opened nm hready hname hfits hnone =>
    refine ⟨nm, ⟨rfl, hname, hfits, ?_⟩, .inr hnone⟩
    rw [get?_put_self (by simp), hnew hready]
  | @wrote nm bs hworks =>
    exact ⟨nm, ⟨hworks.trim, hworks.isWorkName, hworks.fits, get?_put_self (by simp)⟩, .inl hworks⟩
  | ended result hc =>
    obtain ⟨nm, hworks⟩ := hwork working hc'
    exact ⟨nm, ⟨hworks.trim, hworks.isWorkName, hworks.fits, hworks.file⟩, .inl hworks⟩
  | _ => cases hc'

/-- A working file that is not the one of this trim stays as it is. -/
theorem Did.works_other {c₂ : Cutter} (hnew : c.trim = .ready → c.written = [])
    (hworks : c₂.WorksOn dir k o d nm) (hother : c₂.trim ≠ c.trim) : c₂.WorksOn dir k o d' nm := by
  refine ⟨hworks.trim, hworks.isWorkName, hworks.fits, ?_⟩
  rw [← hworks.file]
  rcases h.place hnew (o ++ [nm]) with heq | ⟨nm', hnm, hown | ⟨hnone, -⟩⟩ | ⟨hclip, -⟩
  · exact heq
  · obtain rfl : nm = nm' := List.singleton_inj.1 (List.append_cancel_left hnm)
    exact absurd (hworks.trim.trans hown.trim.symm) hother
  · cases hnone.symm.trans hworks.file
  · exact absurd hclip (hworks.isWorkName.place_ne cut)

/-- What stands at the path of a clip may be replaced but is never gone. -/
theorem Did.clip_stays (hnew : c.trim = .ready → c.written = []) (cut' : Cut)
    (hthere : d.get? (o ++ [cut'.name]) ≠ none) : d'.get? (o ++ [cut'.name]) ≠ none := by
  rcases h.place hnew (o ++ [cut'.name]) with heq | ⟨nm, hnm, hown | ⟨hnone, -⟩⟩ | ⟨-, -, -, -, hfile⟩
  · rwa [heq]
  · exact absurd hnm.symm (hown.isWorkName.place_ne cut')
  · exact absurd hnone hthere
  · simp [hfile]

end

/-- A trim that is over stays as it is. -/
theorem next_done {result : Except MediaFault String} (hdone : c.trim = .done result) (m : TrimMove) :
    (c.next dir cut m d).1.trim = .done result := by
  obtain ⟨trim, written, ended⟩ := c
  obtain rfl : trim = .done result := hdone
  cases m with
  | go => rcases ended with _ | _ | _ <;> rfl
  | _ => rfl

/-! ### Before the directory is there -/

/-- The trim has not come to the directory, or it is over. If it has a clip, it has found it. -/
structure IsEarly (dir : String) (cut : Cut) (d : Disk) (c : Cutter) : Prop where
  stage : c.trim = .looking ∨ c.trim = .missing ∨ ∃ result, c.trim = .done result
  written : c.written = []
  ended : c.ended = none
  found : ∀ path, c.trim = .done (.ok path) → path = cut.target dir ∧ d.isFile path = true

theorem isEarly_start : start.IsEarly dir cut d := ⟨.inl rfl, rfl, rfl, fun _ h => Trim.noConfusion h⟩

theorem IsEarly.ne_encoding (h : c.IsEarly dir cut d) (working : String) :
    c.trim ≠ .encoding working := by
  rcases h.stage with hc | hc | ⟨result, hc⟩ <;> simp [hc]

/-- A trim changes nothing before it makes the directory. -/
theorem IsEarly.next_cases (h : c.IsEarly dir cut d) (m : TrimMove) :
    (∃ c', c.next dir cut m d = (c', d) ∧ c'.IsEarly dir cut d) ∨
      ∃ d₁, d.makeDirAll dir = .ok d₁ ∧ c.next dir cut m d = ({ c with trim := .ready }, d₁) := by
  have hidle : c.isEncoding = false := by
    rw [Bool.eq_false_iff]
    intro hencoding
    obtain ⟨⟨working, hw⟩, -⟩ := isEncoding_iff.1 hencoding
    exact h.ne_encoding working hw
  cases m with
  | go =>
    simp only [next, h.ended]
    rcases h.stage with hc | hc | ⟨result, hc⟩
    · simp only [step, hc, Trim.step, Cut.plan_eq]
      split
      · rename_i hfile
        refine .inl ⟨_, rfl, .inr (.inr ⟨_, rfl⟩), h.written, h.ended, fun path hpath => ?_⟩
        rw [← Except.ok.inj (Trim.done.inj hpath)]
        exact ⟨rfl, hfile⟩
      · exact .inl ⟨_, rfl, .inr (.inl rfl), h.written, h.ended, fun _ => Trim.noConfusion⟩
    · simp only [step, hc, Trim.step, Cut.plan_eq]
      cases hmake : d.makeDirAll dir with
      | ok d₁ => exact .inr ⟨d₁, rfl, by simp only [h.ended]⟩
      | error e =>
        refine .inl ⟨_, rfl, .inr (.inr ⟨_, rfl⟩), h.written, h.ended, fun path hpath => ?_⟩
        cases Trim.done.inj hpath
    · refine .inl ⟨c, ?_, h⟩
      obtain ⟨trim, written, ended⟩ := c
      obtain rfl : trim = .done result := hc
      rfl
  | name token =>
    refine .inl ⟨c, ?_, h⟩
    obtain ⟨trim, written, ended⟩ := c
    rcases h.stage with hc | hc | ⟨result, hc⟩ <;> obtain rfl : trim = _ := hc <;> rfl
  | write bs => exact .inl ⟨c, by simp only [next, hidle]; rfl, h⟩
  | finish result => exact .inl ⟨c, by simp only [next, hidle]; rfl, h⟩

end Cutter

end ClipRelay
