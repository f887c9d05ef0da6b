import ClipRelay.Proofs.Disk.Directories

/-!
# A directory that stays

* `Disk.DirAt.find_iff`: the names in a directory are found below its place, all alike.
* `Disk.DirAt.create_eq_ok`, `Disk.DirAt.append_file`, `Disk.DirAt.rename_file`,
  `Disk.DirAt.discard_file`: what is done with files of the directory.
* `Disk.DirAt.of_keeps`: the directory stays where it is, whatever happens to files and to the names
  that its own path does not need.
* `Disk.DirAt.makeDirAll`, `Disk.makeDirAll_of_isDir`: to make it again changes nothing.
-/

namespace ClipRelay.Disk

open Text

variable {d d' d₀ d₁ : Disk} {follow : Bool} {k : Nat} {here q o : Place} {names : List String}
  {dir name path : String} {bs old : Bytes}

/-! ## Names in the directory -/

/-- The path of the directory leads to this place through so many links, and the directory is
there. -/
structure DirAt (d : Disk) (dir : String) (k : Nat) (o : Place) : Prop where
  leads : d.Leads true k [] (dirNames dir) o
  isDir : d.get? o = some .dir

/-- The system takes the path of a name in a directory that is so many links away. -/
structure Fits (dir : String) (k : Nat) (name : String) : Prop where
  usable : Usable (Path.join dir name)
  links : k ≤ maxLinks
  short : name.utf8ByteSize ≤ maxName

/-- A name that may be followed, unless it is a link, leads to the place below. -/
theorem Enters.leads (h : d.Enters here name)
    (hlink : follow = true → ∀ target, d.get? (here ++ [name]) ≠ some (.link target)) :
    d.Leads follow 0 here [name] (here ++ [name]) := by
  cases he : d.get? (here ++ [name]) with
  | none => exact .missing h he
  | some e =>
    cases e with
    | file bs => exact .step h he nofun .stop
    | dir => exact .step h he nofun .stop
    | link target =>
      cases follow with
      | false => exact .kept rfl h he
      | true => exact absurd he (hlink rfl target)

theorem DirAt.find_iff {e : Option Entry} (h : d.DirAt dir k o) (hn : Path.IsName name)
    (hlink : follow = true → ∀ target, d.get? (o ++ [name]) ≠ some (.link target)) :
    d.find follow (Path.join dir name) = .ok (q, e) ↔
      Fits dir k name ∧ q = o ++ [name] ∧ d.get? (o ++ [name]) = e := by
  rw [find_eq_ok_iff, namesOf_join dir hn.toIsPiece]
  constructor
  · rintro ⟨husable, ⟨j, hj, hleads⟩, he⟩
    obtain ⟨k₁, k₂, o', hk, h₁, h₂⟩ := (leads_append_iff (List.cons_ne_nil _ _)).1 hleads
    obtain ⟨rfl, rfl⟩ := h.leads.unique h₁
    have hplace : d.Enters o name ∧ q = o ++ [name] := by
      cases follow with
      | false => exact h₂.of_name_kept hn
      | true =>
        obtain ⟨henters, ⟨hq, -⟩ | ⟨target, -, hl, -⟩⟩ := h₂.of_name hn
        · exact ⟨henters, hq⟩
        · exact absurd hl (hlink rfl target)
    exact ⟨⟨husable, by omega, hplace.1.short⟩, hplace.2, hplace.2 ▸ he⟩
  · rintro ⟨hfits, rfl, he⟩
    have henters : d.Enters o name := ⟨h.isDir, hn.ne_dot, hn.ne_up, hfits.short⟩
    exact ⟨hfits.usable, ⟨k, hfits.links, h.leads.append (List.cons_ne_nil _ _)
      (henters.leads hlink)⟩, he⟩

section

variable (h : d.DirAt dir k o) (hn : Path.IsName name)
include h hn

theorem DirAt.find_kept_iff {e : Option Entry} : d.find false (Path.join dir name) = .ok (q, e) ↔
    Fits dir k name ∧ q = o ++ [name] ∧ d.get? (o ++ [name]) = e :=
  h.find_iff hn nofun

theorem DirAt.create_eq_ok (hcreate : d.create (Path.join dir name) = .ok d') :
    Fits dir k name ∧ d.get? (o ++ [name]) = none ∧ d' = d.put (o ++ [name]) (.file []) := by
  obtain ⟨q, hfind, rfl⟩ := Disk.create_eq_ok hcreate
  obtain ⟨hfits, rfl, hnone⟩ := (h.find_kept_iff hn).1 hfind
  exact ⟨hfits, hnone, rfl⟩

section

variable (hfits : Fits dir k name) (hfile : d.get? (o ++ [name]) = some (.file old))
include hfits hfile

theorem DirAt.find_file : d.find follow (Path.join dir name) = .ok (o ++ [name], some (.file old)) :=
  (h.find_iff hn (by simp [hfile])).2 ⟨hfits, rfl, hfile⟩

theorem DirAt.append_file :
    d.append (Path.join dir name) bs = .ok (d.put (o ++ [name]) (.file (old ++ bs))) := by
  rw [append, h.find_file hn hfits hfile]
  rfl

theorem DirAt.discard_file : d.discard (Path.join dir name) = d.erase (o ++ [name]) := by
  rw [discard, remove, h.find_file hn hfits hfile]
  rfl

end

theorem DirAt.rename_eq_ok {new : String} (hnew : Path.IsName new)
    (hrename : d.rename (Path.join dir name) (Path.join dir new) = .ok d')
    (hfile : d.get? (o ++ [name]) = some (.file bs)) :
    Fits dir k new ∧ d.get? (o ++ [new]) ≠ some .dir ∧
      d' = (d.erase (o ++ [name])).put (o ++ [new]) (.file bs) := by
  obtain ⟨p, e, q, hp, hq, hdir, rfl⟩ := Disk.rename_eq_ok hrename
  obtain ⟨-, rfl, he⟩ := (h.find_kept_iff hn).1 hp
  obtain ⟨hfits, rfl, -⟩ := (h.find_kept_iff hnew).1 hq
  obtain rfl : e = .file bs := Option.some.inj (he.symm.trans hfile)
  exact ⟨hfits, hdir, rfl⟩

theorem DirAt.rename_file {new : String} (hnew : Path.IsName new) (hfits : Fits dir k name)
    (hfile : d.get? (o ++ [name]) = some (.file bs)) (hfits' : Fits dir k new)
    (hdir : d.get? (o ++ [new]) ≠ some .dir) :
    d.rename (Path.join dir name) (Path.join dir new) =
      .ok ((d.erase (o ++ [name])).put (o ++ [new]) (.file bs)) := by
  rw [rename, h.find_file hn hfits hfile]
  simp only [bind, Except.bind, (h.find_kept_iff hnew).2 ⟨hfits', rfl, rfl⟩]
  rfl

end

/-! ## What leaves the directory where it is -/

/-- A way is there on every disk that holds all directories and links, and what it leads to. -/
theorem Leads.of_open {e : Entry}
    (hle : ∀ r e, d.get? r = some e → ¬ Closed (some e) → d'.get? r = some e)
    (h : d.Leads true k here names q) (hq : d.get? q = some e) (hq' : d'.get? q = some e) :
    d'.Leads true k here names q := by
  have hdir : ∀ {r}, d.get? r = some .dir → d'.get? r = some .dir := fun h => hle _ _ h not_false
  have henter : ∀ {r nm}, d.Enters r nm → d'.Enters r nm := fun h => { h with dir := hdir h.dir }
  induction h with
  | stop => exact .stop
  | dot hd _ ih => exact .dot (hdir hd) (ih hq hq')
  | up hd _ ih => exact .up (hdir hd) (ih hq hq')
  | missing _ hnone => simp [hnone] at hq
  | kept hfollow => cases hfollow
  | link hfollow henters hlink _ ih =>
    exact .link hfollow (henter henters) (hle _ _ hlink not_false) (ih hq hq')
  | @step k here q name rest _ henters he hnolink h ih =>
    by_cases hrest : rest = []
    · subst hrest
      cases h
      obtain rfl := Option.some.inj (he.symm.trans hq)
      exact .step (henter henters) hq' hnolink .stop
    · -- Behind a file there is nothing, so what the way leads through here is a directory.
      exact .step (henter henters) (hdir (h.dir_of_ne_nil hrest)) nofun (ih hq hq')

/-- The path of the directory does not need the links that stand in it under these names. -/
def LeadsApart (d : Disk) (dir : String) (names : String → Prop) : Prop :=
  ∀ k o, d.DirAt dir k o → ∃ d' : Disk, (∀ r e, d'.get? r = some e → d.get? r = some e) ∧
    d'.DirAt dir k o ∧ ∀ name, names name → ∀ target, d'.get? (o ++ [name]) ≠ some (.link target)

/-- No path needs links on a disk without links. -/
theorem leadsApart_of_no_links {names : String → Prop}
    (h : ∀ e ∈ d.entries, ∀ target, e.2 ≠ .link target) : d.LeadsApart dir names :=
  fun _ _ hat => ⟨d, fun _ _ he => he, hat, fun _ _ => noLinks_of_entries h _⟩

/-- All directories and links still stand, but for links in a directory under these names. -/
def Keeps (names : String → Prop) (o : Place) (d d' : Disk) : Prop :=
  ∀ r e, d.get? r = some e → ¬ Closed (some e) →
    d'.get? r = some e ∨ ∃ name target, names name ∧ r = o ++ [name] ∧ e = .link target

theorem DirAt.of_keeps {names : String → Prop} (h : d.DirAt dir k o) (ha : d.LeadsApart dir names)
    (hk : Keeps names o d d') : d'.DirAt dir k o := by
  obtain ⟨d'', hle, hat, hno⟩ := ha k o h
  have hopen : ∀ r e, d''.get? r = some e → ¬ Closed (some e) → d'.get? r = some e := by
    intro r e he hopen
    rcases hk r e (hle r e he) hopen with hstill | ⟨name, target, hname, rfl, rfl⟩
    · exact hstill
    · exact absurd he (hno name hname target)
  have hdir := hopen o _ hat.isDir not_false
  exact ⟨hat.leads.of_open hopen hat.isDir hdir, hdir⟩

/-! ## Making it again -/

theorem Leads.of_dot (h : d.Leads follow k here ("." :: names) q) : d.Leads follow k here names q := by
  generalize hdot : "." = name at h
  cases h with
  | dot _ h => exact h
  | up => exact absurd hdot (by decide)
  | missing henters => exact absurd hdot.symm henters.ne_dot
  | kept _ henters => exact absurd hdot.symm henters.ne_dot
  | link _ henters => exact absurd hdot.symm henters.ne_dot
  | step henters => exact absurd hdot.symm henters.ne_dot

/-- Dots between the names of a path do not matter. -/
theorem Leads.filter_dots (h : d.Leads true k here names q) :
    d.Leads true k here (names.filter (· ≠ ".")) q := by
  induction names generalizing k here with
  | nil => exact h
  | cons name rest ih =>
    by_cases hdot : name = "."
    · subst hdot
      rw [List.filter_cons_of_neg (by simp)]
      exact ih h.of_dot
    · rw [List.filter_cons_of_pos (by simpa using hdot)]
      by_cases hrest : rest = []
      · subst hrest
        exact h
      · obtain ⟨k₁, k₂, m, rfl, h₁, h₂⟩ := (leads_append_iff hrest).1 (List.singleton_append ▸ h)
        have hlast := ih h₂
        by_cases hnil : rest.filter (· ≠ ".") = []
        · rw [hnil] at hlast ⊢
          cases hlast
          exact h₁
        · exact h₁.append hnil hlast

/-- Where a path leads to something, something stands when a last link is not followed. -/
theorem Leads.unfollowed (h : d.Leads true k here names q) (hq : d.get? q ≠ none) :
    ∃ j ≤ k, ∃ p, d.Leads false j here names p ∧ d.get? p ≠ none := by
  induction h with
  | stop => exact ⟨0, Nat.le_refl 0, _, .stop, hq⟩
  | dot hdir _ ih =>
    obtain ⟨j, hj, p, hp, hthere⟩ := ih hq
    exact ⟨j, hj, p, .dot hdir hp, hthere⟩
  | up hdir _ ih =>
    obtain ⟨j, hj, p, hp, hthere⟩ := ih hq
    exact ⟨j, hj, p, .up hdir hp, hthere⟩
  | missing _ hnone => exact absurd hnone hq
  | kept hfollow => cases hfollow
  | @link k here q name target rest _ henters hlink _ ih =>
    by_cases hrest : rest = []
    · subst hrest
      exact ⟨0, Nat.zero_le _, _, .kept rfl henters hlink, by simp [hlink]⟩
    · obtain ⟨j, hj, p, hp, hthere⟩ := ih hq
      exact ⟨j + 1, Nat.succ_le_succ hj, p, .link (.inr hrest) henters hlink hp, hthere⟩
  | step henters he hnolink _ ih =>
    obtain ⟨j, hj, p, hp, hthere⟩ := ih hq
    exact ⟨j, hj, p, .step henters he hnolink hp, hthere⟩

theorem find_kept_of_find {e : Entry} (h : d.find true path = .ok (q, some e)) :
    ∃ p e', d.find false path = .ok (p, some e') := by
  obtain ⟨husable, ⟨k, hk, hleads⟩, he⟩ := find_eq_ok_iff.1 h
  obtain ⟨j, hj, p, hp, hthere⟩ := hleads.unfollowed (by simp [he])
  obtain ⟨e', he'⟩ := Option.ne_none_iff_exists'.1 hthere
  exact ⟨p, e', find_eq_ok_iff.2 ⟨husable, ⟨j, Nat.le_trans hj hk, hp⟩, he'⟩⟩

/-- A path into a directory leads to the place below it, unless a link stands there. -/
theorem find_join_or_link {e : Entry} (hn : Path.IsName name)
    (h : d.find true (Path.join dir name) = .ok (q, some e)) :
    (∃ o, q = o ++ [name]) ∨
      ∃ p target, d.find false (Path.join dir name) = .ok (p, some (.link target)) := by
  obtain ⟨o, k, ho, -, hleads, -⟩ := find_join hn h
  obtain ⟨-, ⟨hq, -⟩ | ⟨target, j, hlink, -⟩⟩ := hleads.of_name hn
  · exact .inl ⟨o, hq⟩
  · obtain ⟨p, e', hkept⟩ := find_kept_of_find h
    obtain ⟨o', ho', -, rfl, he'⟩ := find_join_kept hn hkept
    obtain rfl := ho.unique ho'
    obtain rfl := Option.some.inj (he'.symm.trans hlink)
    exact .inr ⟨_, target, hkept⟩

/-- A directory that is there is not made again, nor are those above it. -/
theorem makeDirs_of_isDir {parents : List String} (h : d.find true path = .ok (q, some .dir))
    (hend : endsWith path "/" = false) : d.makeDirs (path :: parents) = .ok d := by
  obtain ⟨p, e, hfind⟩ := find_kept_of_find h
  have hmake : d.makeDir path = .error .exists := by
    rw [makeDir, dropSlashes_eq hend, hfind]
    rfl
  have hdir : d.isDir path = true := isDir_iff.2 ⟨q, h⟩
  rw [makeDirs, hmake]
  simp only [hdir, if_true]

theorem dirAt_makeDirAll (h : d.makeDirAll dir = .ok d') : ∃ k o, d'.DirAt dir k o := by
  obtain ⟨o, ⟨k, hleads⟩, ho⟩ := inDir_makeDirAll h
  exact ⟨k, o, hleads, ho⟩

/-- A directory that could be made once is not made again while its names lead to one. -/
theorem makeDirAll_of_leads (hmade : d₀.makeDirAll dir = .ok d₁) (hk : k ≤ maxLinks)
    (hleads : d.Leads true k [] (madeNames dir) o) (hdir : d.get? o = some .dir) :
    d.makeDirAll dir = .ok d := by
  unfold Disk.makeDirAll at hmade ⊢
  by_cases hnil : madeNames dir = []
  · rw [ancestors_of_nil hnil]
    rfl
  · obtain ⟨path, parents, hpath, hnames, hend⟩ := ancestors_of_ne_nil hnil
    rw [hpath] at hmade ⊢
    obtain ⟨q, hfind⟩ := isDir_of_makeDirs hmade hend
    refine makeDirs_of_isDir (find_eq_ok_iff.2 ⟨(find_eq_ok_iff.1 hfind).1, ⟨k, hk, ?_⟩, hdir⟩) hend
    rwa [hnames]

theorem makeDirAll_again (hmade : d₀.makeDirAll dir = .ok d₁) (hk : k ≤ maxLinks)
    (h : d.DirAt dir k o) : d.makeDirAll dir = .ok d :=
  makeDirAll_of_leads hmade hk h.leads.filter_dots h.isDir

/-- Nor is it made again when its path is that of a directory. -/
theorem makeDirAll_of_isDir (hmade : d₀.makeDirAll dir = .ok d₁) (h : d.isDir dir = true) :
    d.makeDirAll dir = .ok d := by
  obtain ⟨q, hfind⟩ := isDir_iff.1 h
  obtain ⟨-, ⟨k, hk, hleads⟩, hdir⟩ := find_eq_ok_iff.1 hfind
  have hnames : (namesOf dir).filter (· ≠ ".") = madeNames dir := by
    rw [madeNames, dirNames, namesOf]
    split <;> simp
  exact makeDirAll_of_leads hmade hk (hnames ▸ hleads.filter_dots) hdir

/-- The directory of a path that leads to something is not made again. -/
theorem makeDirAll_of_find {e : Option Entry} (hmade : d₀.makeDirAll dir = .ok d₁)
    (hn : Path.IsName name) (h : d.find true (Path.join dir name) = .ok (q, e)) :
    d.makeDirAll dir = .ok d := by
  obtain ⟨-, ⟨j, hj, hleads⟩, -⟩ := find_eq_ok_iff.1 h
  rw [namesOf_join dir hn.toIsPiece] at hleads
  obtain ⟨k₁, k₂, o, rfl, h₁, h₂⟩ := (leads_append_iff (List.cons_ne_nil _ _)).1 hleads
  exact makeDirAll_again hmade (Nat.le_trans (Nat.le_add_right _ _) hj)
    ⟨h₁, h₂.dir_of_ne_nil (List.cons_ne_nil _ _)⟩

/-- A directory that has been made is through no more links than a path may lead. -/
theorem DirAt.le_maxLinks (hmade : d₀.makeDirAll dir = .ok d₁) (h : d₁.DirAt dir k o) :
    k ≤ maxLinks := by
  unfold Disk.makeDirAll at hmade
  have hleads := h.leads.filter_dots
  by_cases hnil : madeNames dir = []
  · rw [← madeNames, hnil] at hleads
    cases hleads
    exact Nat.zero_le _
  · obtain ⟨path, parents, hpath, hnames, hend⟩ := ancestors_of_ne_nil hnil
    rw [hpath] at hmade
    obtain ⟨q, hfind⟩ := isDir_of_makeDirs hmade hend
    obtain ⟨-, ⟨j, hj, hmadeLeads⟩, -⟩ := find_eq_ok_iff.1 hfind
    rw [hnames] at hmadeLeads
    obtain ⟨rfl, -⟩ := hmadeLeads.unique hleads
    exact hj

/-- Once a directory has been made, to make it again changes nothing while it is where it was. -/
theorem DirAt.makeDirAll (hmade : d₀.makeDirAll dir = .ok d₁) (h₁ : d₁.DirAt dir k o)
    (h : d.DirAt dir k o) : d.makeDirAll dir = .ok d :=
  makeDirAll_again hmade (h₁.le_maxLinks hmade) h

/-! ## Paths that lead nowhere, and paths that take a file -/

/-- Nothing stands at the path, not even a link. -/
def Unused (d : Disk) (path : String) : Prop := ∀ q e, d.find false path ≠ .ok (q, some e)

/-- A file can be moved to the path: the system takes the path, and no directory stands there. -/
def Takes (d : Disk) (path : String) : Prop :=
  ∃ q e, d.find false path = .ok (q, e) ∧ e ≠ some .dir

/-- The disk on which a directory has been made, or the disk as it is when that fails. -/
def withDir (d : Disk) (dir : String) : Disk :=
  match d.makeDirAll dir with
  | .ok d => d
  | .error _ => d

theorem withDir_of_ok (h : d.makeDirAll dir = .ok d') : d.withDir dir = d' := by
  rw [withDir, h]

theorem grown_withDir (d : Disk) (dir : String) : Grown d (d.withDir dir) := by
  cases hmade : d.makeDirAll dir with
  | ok d₁ =>
    rw [withDir_of_ok hmade]
    exact grown_makeDirAll hmade
  | error e =>
    rw [withDir, hmade]
    exact .refl d

theorem unused_of_withDir {path : String} (h : (d.withDir dir).Unused path) : d.Unused path := by
  intro q e hfind
  have hgrown := grown_withDir d dir
  refine h q e ?_
  rw [hgrown.sameWays.find hfind, hgrown.get?_of_some (get?_of_find hfind)]

theorem Unused.isFile (h : d.Unused path) : d.isFile path = false := by
  rw [Bool.eq_false_iff]
  intro hfile
  obtain ⟨q, bs, hfind⟩ := isFile_iff.1 hfile
  obtain ⟨p, e, hkept⟩ := find_kept_of_find hfind
  exact h p e hkept

theorem DirAt.unused_iff (h : d.DirAt dir k o) (hn : Path.IsName name) :
    d.Unused (Path.join dir name) ↔ (Fits dir k name → d.get? (o ++ [name]) = none) := by
  constructor
  · intro hv hfits
    cases he : d.get? (o ++ [name]) with
    | none => rfl
    | some e => exact absurd ((h.find_kept_iff hn).2 ⟨hfits, rfl, he⟩) (hv _ e)
  · intro hnone q e hfind
    obtain ⟨hfits, -, he⟩ := (h.find_kept_iff hn).1 hfind
    rw [hnone hfits] at he
    cases he

theorem DirAt.takes_iff (h : d.DirAt dir k o) (hn : Path.IsName name) :
    d.Takes (Path.join dir name) ↔ Fits dir k name ∧ d.get? (o ++ [name]) ≠ some .dir := by
  constructor
  · rintro ⟨q, e, hfind, he⟩
    obtain ⟨hfits, -, rfl⟩ := (h.find_kept_iff hn).1 hfind
    exact ⟨hfits, he⟩
  · rintro ⟨hfits, he⟩
    exact ⟨_, _, (h.find_kept_iff hn).2 ⟨hfits, rfl, rfl⟩, he⟩

end ClipRelay.Disk
