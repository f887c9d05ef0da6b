import ClipRelay.Proofs.Disk.Standing

/-!
# Files that take the places of links

Files are moved to places where links stood, and a path that led through such a link leads nowhere then.

* `Disk.Leads.of_filed`: a way to a directory is the way that it was.
* `Disk.Filed.onlyAt`: the directory of a path is where it was, or the path leads to none.
* `Disk.Filed.makeDirAll`: it is not made in another place then.
* `Disk.DirAt.find_put`: what is found under the name of a file that has been put into a directory.
* `Disk.Novel`: a name that is new to a disk is on no way there.
* `Disk.Placed.find_or`: what a path leads to when files have been placed.
* `Disk.Placed.housed`: a file that is not empty stays at its place, though its content may change.
-/

namespace ClipRelay.Disk

open Text

variable {d d' d'' d₀ d₁ : Disk} {follow : Bool} {k k' : Nat} {here q q' o o' p : Place}
  {names rest : List String} {dir name path : String} {bs : Bytes}

/-! ## Ways to directories -/

/-- All directories still stand, and so do the links that no file has replaced. -/
structure Filed (d d' : Disk) : Prop where
  dir : ∀ r, d.get? r = some .dir → d'.get? r = some .dir
  link : ∀ r target, d.get? r = some (.link target) →
    d'.get? r = some (.link target) ∨ ∃ bs, d'.get? r = some (.file bs)

theorem Filed.grown (h : Filed d d') (hg : Grown d' d'') : Filed d d'' where
  dir r hr := hg.get?_of_some (h.dir r hr)
  link r target hr := (h.link r target hr).imp hg.get?_of_some fun ⟨bs, hbs⟩ =>
    ⟨bs, hg.get?_of_some hbs⟩

theorem Leads.of_up (h : d.Leads follow k here (".." :: names) q) :
    d.Leads follow k here.dropLast names q := by
  generalize hup : ".." = name at h
  cases h with
  | dot => exact absurd hup (by decide)
  | up _ h => exact h
  | missing henters => exact absurd hup.symm henters.ne_up
  | kept _ henters => exact absurd hup.symm henters.ne_up
  | link _ henters => exact absurd hup.symm henters.ne_up
  | step henters => exact absurd hup.symm henters.ne_up

/-- A way goes on through the link or the directory that stands under its first name. -/
theorem Leads.of_cons (h : d.Leads true k here (name :: rest) q) (hdot : name ≠ ".")
    (hup : name ≠ "..") (hq : d.get? q = some .dir) :
    (∃ target j, d.get? (here ++ [name]) = some (.link target) ∧
        d.Leads true j (linkBase here target) (namesOf target ++ rest) q) ∨
      (d.get? (here ++ [name]) = some .dir ∧ d.Leads true k (here ++ [name]) rest q) := by
  cases h with
  | dot => exact absurd rfl hdot
  | up => exact absurd rfl hup
  | missing _ hnone => cases hnone.symm.trans hq
  | kept hfollow => cases hfollow
  | link _ _ hlink h => exact .inl ⟨_, _, hlink, h⟩
  | step _ _ _ h =>
    refine .inr ⟨?_, h⟩
    by_cases hrest : rest = []
    · subst hrest
      cases h
      exact hq
    · exact h.dir_of_ne_nil hrest

/-- A way to a directory that has been one before is the way that it was, on any disk with those
directories and with the links that are left. -/
theorem Leads.of_filed (hf : Filed d d') (hdir : ∀ r, d.get? r = some .dir → d''.get? r = some .dir)
    (hlink : ∀ r target, d'.get? r = some (.link target) → d''.get? r = some (.link target))
    (h : d.Leads true k here names q) (hq : d.get? q = some .dir)
    (h' : d'.Leads true k' here names q') (hq' : d'.get? q' = some .dir) :
    d''.Leads true k here names q := by
  have henter : ∀ {r nm}, d.Enters r nm → d''.Enters r nm := fun h => { h with dir := hdir _ h.dir }
  induction h generalizing k' q' with
  | stop => exact .stop
  | dot hd _ ih => exact .dot (hdir _ hd) (ih hq h'.of_dot hq')
  | up hd _ ih => exact .up (hdir _ hd) (ih hq h'.of_up hq')
  | missing _ hnone => cases hnone.symm.trans hq
  | kept hfollow => cases hfollow
  | @link k here q name target rest _ henters hl _ ih =>
    rcases h'.of_cons henters.ne_dot henters.ne_up hq' with ⟨target', j, hl', hway⟩ | ⟨hd', -⟩
    · rcases hf.link _ _ hl with hsame | ⟨bs, hfile⟩
      · cases hsame.symm.trans hl'
        exact .link (.inl rfl) (henter henters) (hlink _ _ hl') (ih hq hway hq')
      · cases hfile.symm.trans hl'
    · rcases hf.link _ _ hl with hsame | ⟨bs, hfile⟩
      · cases hsame.symm.trans hd'
      · cases hfile.symm.trans hd'
  | @step k here q name rest e henters he hnolink h ih =>
    have hthere : d.get? (here ++ [name]) = some .dir := by
      by_cases hrest : rest = []
      · subst hrest
        cases h
        exact hq
      · exact h.dir_of_ne_nil hrest
    rcases h'.of_cons henters.ne_dot henters.ne_up hq' with ⟨target, j, hl', -⟩ | ⟨-, hway⟩
    · cases (hf.dir _ hthere).symm.trans hl'
    · exact .step (henter henters) (hdir _ hthere) nofun (ih hq hway hq')

/-- The path of the directory leads to this place through so many links, or to no directory. -/
def OnlyAt (d : Disk) (dir : String) (k : Nat) (o : Place) : Prop :=
  ∀ o', d.InDir dir o' → d.get? o' = some .dir → d.DirAt dir k o

/-- The directory is where it was if it is anywhere. -/
theorem Filed.onlyAt (hf : Filed d d') (h : d.DirAt dir k o) : d'.OnlyAt dir k o := by
  rintro o' ⟨k', h'⟩ ho'
  exact ⟨h.leads.of_filed hf hf.dir (fun _ _ => id) h.isDir h' ho', hf.dir _ h.isDir⟩

/-- What is found by a path into the directory is found in the directory. -/
theorem OnlyAt.dirAt {e : Option Entry} (h : d.OnlyAt dir k o) (hn : Path.IsName name)
    (hfind : d.find follow (Path.join dir name) = .ok (q, e)) : d.DirAt dir k o := by
  obtain ⟨o', _, ho', hdir, -, -⟩ := find_join hn hfind
  exact h o' ho' hdir

/-- A directory that has been made once is there when it can be made again, and nothing changes. -/
theorem Filed.makeDirAll (hf : Filed d d') (hmade : d₀.makeDirAll dir = .ok d)
    (h : d.DirAt dir k o) (hmake : d'.makeDirAll dir = .ok d'') : d'' = d' := by
  obtain ⟨o', ⟨k', h'⟩, ho'⟩ := inDir_makeDirAll hmake
  have hg := grown_makeDirAll hmake
  have hleads : d'.Leads true k [] (dirNames dir) o := by
    refine h.leads.of_filed (hf.grown hg) hf.dir (fun r target hr => ?_) h.isDir h' ho'
    rcases hg r with heq | ⟨-, hdir⟩
    · exact heq ▸ hr
    · cases hdir.symm.trans hr
  have hat : d'.DirAt dir k o := ⟨hleads, hf.dir _ h.isDir⟩
  exact Except.ok.inj (hmake.symm.trans (h.makeDirAll hmade hat))

/-! ## Files in a directory -/

theorem name_eq_of_place_eq {name' : String} (h : o ++ [name] = o ++ [name']) : name = name' :=
  List.singleton_inj.1 (List.append_cancel_left h)

theorem eq_none_of_closed {e : Option Entry} (h : Closed e) (hfile : ∀ bs, e ≠ some (.file bs)) :
    e = none := by
  rcases e with _ | bs | _ | target
  · rfl
  · exact absurd rfl (hfile bs)
  · exact h.elim
  · exact h.elim

/-- A path into the directory that leads anywhere fits. -/
theorem DirAt.fits {e : Option Entry} (h : d.DirAt dir k o) (hn : Path.IsName name)
    (hfind : d.find follow (Path.join dir name) = .ok (q, e)) : Fits dir k name := by
  obtain ⟨husable, ⟨j, hj, hleads⟩, -⟩ := find_eq_ok_iff.1 hfind
  rw [namesOf_join dir hn.toIsPiece] at hleads
  obtain ⟨k₁, k₂, o', rfl, h₁, h₂⟩ := (leads_append_iff (List.cons_ne_nil _ _)).1 hleads
  obtain ⟨rfl, rfl⟩ := h.leads.unique h₁
  refine ⟨husable, Nat.le_trans (Nat.le_add_right _ _) hj, ?_⟩
  cases follow with
  | false => exact (h₂.of_name_kept hn).1.short
  | true => exact (h₂.of_name hn).1.short

/-- Where nothing stood in the directory, a file is opened. -/
theorem DirAt.openFile_eq_ok (h : d.DirAt dir k o) (hn : Path.IsName name)
    (hnone : Fits dir k name → d.get? (o ++ [name]) = none)
    (hopen : d.openFile (Path.join dir name) = .ok (q, d')) :
    Fits dir k name ∧ q = o ++ [name] ∧ d' = d.put (o ++ [name]) (.file []) := by
  obtain ⟨hfind, -, rfl⟩ := Disk.openFile_eq_ok hopen
  have hfits := h.fits hn hfind
  obtain ⟨-, rfl, -⟩ := (h.find_iff hn (by simp [hnone hfits])).1 hfind
  exact ⟨hfits, rfl, rfl⟩

/-- A file in the directory is deleted, if it can be. -/
theorem OnlyAt.discard_cases (h : d.OnlyAt dir k o) (hn : Path.IsName name) :
    d.discard (Path.join dir name) = d.erase (o ++ [name]) ∨
      (d.discard (Path.join dir name) = d ∧
        (d.DirAt dir k o → Fits dir k name → ∀ bs, d.get? (o ++ [name]) ≠ some (.file bs))) := by
  cases hremove : d.remove (Path.join dir name) with
  | ok d' =>
    obtain ⟨q, e, hfind, -, rfl⟩ := remove_eq_ok hremove
    obtain ⟨-, rfl, -⟩ := ((h.dirAt hn hfind).find_kept_iff hn).1 hfind
    exact .inl (by rw [discard, hremove])
  | error f =>
    refine .inr ⟨by rw [discard, hremove], fun hat hfits bs hfile => ?_⟩
    rw [remove, hat.find_file hn hfits hfile] at hremove
    cases hremove

/-- No link stands at the path. -/
def Direct (d : Disk) (path : String) : Prop :=
  ∀ q target, d.find false path ≠ .ok (q, some (.link target))

/-- Nothing is deleted where nothing stands. -/
theorem Unused.discard (h : d.Unused path) : d.discard path = d := by
  unfold Disk.discard
  cases hremove : d.remove path with
  | ok d' =>
    obtain ⟨q, e, hfind, -, -⟩ := remove_eq_ok hremove
    exact absurd hfind (h q e)
  | error f => rfl

/-- A directory stays where it is when a file is put into it where the way did not go on. -/
theorem DirAt.put_file (h : d.DirAt dir k o) (hclosed : Closed (d.get? (o ++ [name]))) :
    (d.put (o ++ [name]) (.file bs)).DirAt dir k o where
  leads := h.leads.of_sameWays (sameWays_put hclosed nofun)
  isDir := by
    rw [get?_put _ (by simp), if_neg (by simp), h.isDir]

/-- What is found under the name of a file that has been put into the directory is the file, whatever
the file has replaced. -/
theorem DirAt.find_put (h : d.DirAt dir k o) (hn : Path.IsName name)
    (hdir : d.get? (o ++ [name]) ≠ some .dir) {e : Option Entry}
    (hfind : (d.put (o ++ [name]) (.file bs)).find true (Path.join dir name) = .ok (q, e)) :
    q = o ++ [name] ∧ e = some (.file bs) := by
  have hput := get?_put d (p := o ++ [name]) (by simp) (.file bs)
  have hfiled : Filed d (d.put (o ++ [name]) (.file bs)) := by
    refine ⟨fun r hr => ?_, fun r target hr => ?_⟩
    · rw [hput, if_neg, hr]
      rintro rfl
      exact hdir hr
    · rw [hput]
      split
      · exact .inr ⟨bs, rfl⟩
      · exact .inl hr
  have hat := (hfiled.onlyAt h).dirAt hn hfind
  have hnew : (d.put (o ++ [name]) (.file bs)).get? (o ++ [name]) = some (.file bs) :=
    get?_put_self (by simp)
  obtain ⟨-, hq, he⟩ := (hat.find_iff hn (by simp [hnew])).1 hfind
  exact ⟨hq, he.symm.trans hnew⟩

/-! ## New names -/

/-- The name is new to the disk: nothing stands under it, and no link leads along it. -/
structure Novel (d : Disk) (name : String) : Prop where
  place : ∀ p e, d.get? p = some e → name ∉ p
  link : ∀ p target, d.get? p = some (.link target) → name ∉ namesOf target

/-- What holds of the names of a path and of links holds of those of the place it leads to. -/
theorem forall_mem_of_find {P : String → Prop} {e : Option Entry}
    (h : d.find follow path = .ok (q, e))
    (hlink : ∀ p target, d.get? p = some (.link target) → ∀ name ∈ namesOf target, P name)
    (hn : ∀ name ∈ namesOf path, P name) : ∀ name ∈ q, P name := by
  obtain ⟨-, ⟨k, -, hleads⟩, -⟩ := find_eq_ok_iff.1 h
  exact hleads.forall_mem hlink hn nofun

theorem novel_of_entries (h : ∀ e ∈ d.entries, name ∉ e.1 ∧
    ∀ target, e.2 = .link target → name ∉ namesOf target) : d.Novel name := by
  have hentry : ∀ p e, p ≠ [] → d.get? p = some e → (p, e) ∈ d.entries := fun p e hp he => by
    rw [get?, if_neg hp] at he
    obtain ⟨before, after, hentries, -⟩ := List.lookup_eq_some_iff.1 he
    exact hentries ▸ List.mem_append_right _ List.mem_cons_self
  refine ⟨fun p e he => ?_, fun p target he => ?_⟩
  · by_cases hp : p = []
    · simp [hp]
    · exact (h _ (hentry p e hp he)).1
  · by_cases hp : p = []
    · subst hp
      cases he
    · exact (h _ (hentry p _ hp he)).2 target rfl

/-! ## Files that are placed -/

/-- A file stands at the place that is not empty. -/
def Stocked (d : Disk) (p : Place) : Prop := ∃ bs, bs ≠ [] ∧ d.get? p = some (.file bs)

/-- All is as it was, but for what stands under names of this kind, where no way leads on, and for files
that are not empty, where no directory was. -/
def Placed (own : String → Prop) (d d' : Disk) : Prop :=
  ∀ p, d'.get? p = d.get? p ∨ (Closed (d.get? p) ∧ Closed (d'.get? p) ∧ ∃ name ∈ p, own name) ∨
    (d.get? p ≠ some .dir ∧ d'.Stocked p)

/-- A file that is not empty stands at the place, below directories alone, and under no name of this
kind. -/
structure Housed (own : String → Prop) (d : Disk) (p : Place) : Prop where
  straight : d.Straight p
  stocked : d.Stocked p
  isPiece : ∀ name ∈ p, Path.IsPiece name
  notOwn : ∀ name ∈ p, ¬ own name

theorem Straight.of_dirs (h : d.Straight p)
    (hdir : ∀ r, d.get? r = some .dir → d'.get? r = some .dir) : d'.Straight p := by
  intro init name rest hp
  have henters := h init name rest hp
  exact { henters with dir := hdir _ henters.dir }

section

variable {own : String → Prop} (h : Placed own d d')
include h

theorem Placed.filed : Filed d d' where
  dir r hr := by
    rcases h r with heq | ⟨hclosed, -, -⟩ | ⟨hdir, -⟩
    · exact heq.trans hr
    · rw [hr] at hclosed
      exact hclosed.elim
    · exact absurd hr hdir
  link r target hr := by
    rcases h r with heq | ⟨hclosed, -, -⟩ | ⟨-, bs, -, hfile⟩
    · exact .inl (heq.trans hr)
    · rw [hr] at hclosed
      exact hclosed.elim
    · exact .inr ⟨bs, hfile⟩

/-- No directory and no link is new. -/
theorem Placed.of_open (r : Place) (e : Entry) (he : d'.get? r = some e) (hopen : ¬ Closed (some e)) :
    d.get? r = some e := by
  rcases h r with heq | ⟨-, hclosed, -⟩ | ⟨-, bs, -, hfile⟩
  · exact heq.symm.trans he
  · exact absurd (he ▸ hclosed) hopen
  · cases hfile.symm.trans he
    exact absurd trivial hopen

/-- A directory that is there was there before. -/
theorem Placed.dirAt (hat : d'.DirAt dir k o) : d.DirAt dir k o := by
  have hdir := h.of_open o _ hat.isDir not_false
  exact ⟨hat.leads.of_open h.of_open hat.isDir hdir, hdir⟩

theorem Placed.onlyAt (hat : d.OnlyAt dir k o) : d'.OnlyAt dir k o := by
  rintro o' ⟨k', h'⟩ ho'
  have hdir := h.of_open o' _ ho' not_false
  have hway := h'.of_open h.of_open ho' hdir
  obtain ⟨rfl, rfl⟩ := hway.unique (hat o' ⟨k', hway⟩ hdir).leads
  exact ⟨h', ho'⟩

/-- A file that is not empty may be replaced, but by no empty one, and is never gone. -/
theorem Placed.stocked (hp : ∀ name ∈ p, ¬ own name) (hstocked : d.Stocked p) : d'.Stocked p := by
  rcases h p with heq | ⟨-, -, name, hname, hown⟩ | ⟨-, hstocked'⟩
  · obtain ⟨bs, hne, hfile⟩ := hstocked
    exact ⟨bs, hne, heq.trans hfile⟩
  · exact absurd hown (hp name hname)
  · exact hstocked'

theorem Placed.housed (hhoused : d.Housed own p) : d'.Housed own p where
  straight := hhoused.straight.of_dirs h.filed.dir
  stocked := h.stocked hhoused.notOwn hhoused.stocked
  isPiece := hhoused.isPiece
  notOwn := hhoused.notOwn

/-- A path leads to what it led to, to a file that is not empty, or nowhere. -/
theorem Placed.find_or {e : Entry}
    (hlink : ∀ p target, d'.get? p = some (.link target) → ∀ name ∈ namesOf target, ¬ own name)
    (hpath : ∀ name ∈ namesOf path, ¬ own name) (hfind : d'.find true path = .ok (q, some e)) :
    d.find true path = .ok (q, d'.get? q) ∨ d'.Stocked q := by
  obtain ⟨husable, ⟨j, hj, hleads⟩, he⟩ := find_eq_ok_iff.1 hfind
  rcases h q with heq | ⟨-, -, name, hname, hown⟩ | ⟨-, hstocked⟩
  · have hway := hleads.of_open h.of_open he (heq.symm.trans he)
    exact .inl (find_eq_ok_iff.2 ⟨husable, ⟨j, hj, hway⟩, heq.symm⟩)
  · exact absurd hown (forall_mem_of_find hfind hlink hpath name hname)
  · exact .inr hstocked

end

end ClipRelay.Disk
