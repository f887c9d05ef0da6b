import ClipRelay.Proofs.Disk.Changes

/-!
# Files in a directory

* `Disk.InDir`: where the path of a directory leads.
* `Disk.find_join`, `Disk.find_join_kept`: a name in a directory is found below that place.
* `Disk.inDir_makeDirAll`: a directory that has been made is there.
* `Disk.Scratched`: what is done to a file of a directory changes nothing else.
* `Disk.NoLinks`: no link stands anywhere, and what is done to directories and files brings none.
* `Disk.content_rename`: a file that takes another name in its directory keeps its content, also when
  it is a link to where the content stands.
-/

namespace ClipRelay.Disk

open Text

variable {d d' : Disk} {follow : Bool} {k : Nat} {here q o o' : Place} {names : List String}
  {dir name : String} {bs : Bytes}

/-! ## Where a directory is -/

/-- The path of the directory leads to the place. -/
def InDir (d : Disk) (dir : String) (o : Place) : Prop := ∃ k, d.Leads true k [] (dirNames dir) o

theorem InDir.unique (h : d.InDir dir o) (h' : d.InDir dir o') : o = o' := by
  obtain ⟨_, h⟩ := h
  obtain ⟨_, h'⟩ := h'
  exact (h.unique h').2

theorem InDir.of_sameWays (h : d.InDir dir o) (hs : SameWays d d') : d'.InDir dir o :=
  h.imp fun _ h => h.of_sameWays hs

/-- A last name that is not followed leads to the place below. -/
theorem Leads.of_name_kept (h : d.Leads false k here [name] q) (hn : Path.IsName name) :
    d.Enters here name ∧ q = here ++ [name] := by
  cases h with
  | dot => exact absurd rfl hn.ne_dot
  | up => exact absurd rfl hn.ne_up
  | missing henters => exact ⟨henters, rfl⟩
  | kept _ henters => exact ⟨henters, rfl⟩
  | link hfollow => simp at hfollow
  | step henters _ _ h =>
    cases h
    exact ⟨henters, rfl⟩

/-- A last name leads to the place below, and on from there when that is a link. -/
theorem Leads.of_name (h : d.Leads true k here [name] q) (hn : Path.IsName name) :
    d.Enters here name ∧
      ((q = here ++ [name] ∧ ∀ target, d.get? (here ++ [name]) ≠ some (.link target)) ∨
        ∃ target j, d.get? (here ++ [name]) = some (.link target) ∧
          d.Leads true j (linkBase here target) (namesOf target) q) := by
  cases h with
  | dot => exact absurd rfl hn.ne_dot
  | up => exact absurd rfl hn.ne_up
  | missing henters hnone => exact ⟨henters, .inl ⟨rfl, by simp [hnone]⟩⟩
  | kept hfollow => cases hfollow
  | link _ henters hlink h =>
    rw [List.append_nil] at h
    exact ⟨henters, .inr ⟨_, _, hlink, h⟩⟩
  | step henters he hnolink h =>
    cases h
    exact ⟨henters, .inl ⟨rfl, fun target ht => hnolink target (by simpa [he] using ht)⟩⟩

/-- A name in a directory is found below the place of the directory. -/
theorem find_join {e : Option Entry} (hn : Path.IsName name)
    (h : d.find follow (Path.join dir name) = .ok (q, e)) :
    ∃ o k, d.InDir dir o ∧ d.get? o = some .dir ∧ d.Leads follow k o [name] q ∧ d.get? q = e := by
  obtain ⟨-, ⟨k, -, hleads⟩, he⟩ := find_eq_ok_iff.1 h
  rw [namesOf_join dir hn.toIsPiece] at hleads
  obtain ⟨k₁, k₂, o, -, h₁, h₂⟩ := (leads_append_iff (List.cons_ne_nil _ _)).1 hleads
  exact ⟨o, k₂, ⟨k₁, h₁⟩, h₂.dir_of_ne_nil (List.cons_ne_nil _ _), h₂, he⟩

theorem find_join_kept {e : Option Entry} (hn : Path.IsName name)
    (h : d.find false (Path.join dir name) = .ok (q, e)) :
    ∃ o, d.InDir dir o ∧ d.Enters o name ∧ q = o ++ [name] ∧ d.get? q = e := by
  obtain ⟨o, k, ho, -, hleads, he⟩ := find_join hn h
  obtain ⟨henters, hq⟩ := hleads.of_name_kept hn
  exact ⟨o, ho, henters, hq, he⟩

/-- A name in a directory that holds no link is found where it stands. -/
theorem find_join_of_no_link {e : Option Entry} (hn : Path.IsName name) (ho : d.InDir dir o)
    (hlink : ∀ target, d.get? (o ++ [name]) ≠ some (.link target))
    (h : d.find true (Path.join dir name) = .ok (q, e)) : q = o ++ [name] := by
  obtain ⟨o', k, ho', -, hleads, -⟩ := find_join hn h
  obtain rfl := ho.unique ho'
  obtain ⟨-, ⟨hq, -⟩ | ⟨target, j, hl, -⟩⟩ := hleads.of_name hn
  · exact hq
  · exact absurd hl (hlink target)

/-! ## Directories that are made -/

/-- A way to what is no link is the same when a last link is followed. -/
theorem Leads.followed (h : d.Leads follow k here names q)
    (hq : ∀ target, d.get? q ≠ some (.link target)) : d.Leads true k here names q := by
  induction h with
  | stop => exact .stop
  | dot hdir _ ih => exact .dot hdir (ih hq)
  | up hdir _ ih => exact .up hdir (ih hq)
  | missing henters hnone => exact .missing henters hnone
  | kept _ _ hlink => exact absurd hlink (hq _)
  | link _ henters hlink _ ih => exact .link (.inl rfl) henters hlink (ih hq)
  | step henters he hnolink _ ih => exact .step henters he hnolink (ih hq)

/-- What is found without a last link being followed, and is none, is found all the same. -/
theorem find_followed {e : Option Entry} (h : d.find false path = .ok (q, e))
    (he : ∀ target, e ≠ some (.link target)) : d.find true path = .ok (q, e) := by
  obtain ⟨husable, ⟨k, hk, hleads⟩, hq⟩ := find_eq_ok_iff.1 h
  exact find_eq_ok_iff.2 ⟨husable, ⟨k, hk, hleads.followed (by rwa [hq])⟩, hq⟩

/-- Dots between the names of a directory do not matter. -/
theorem Leads.of_filter_dots (h : d.Leads true k here (names.filter (· ≠ ".")) q)
    (hh : d.get? here = some .dir) (hq : d.get? q = some .dir) :
    ∃ j, d.Leads true j here names q := by
  induction names generalizing k here with
  | nil => exact ⟨k, h⟩
  | cons name rest ih =>
    by_cases hdot : name = "."
    · subst hdot
      obtain ⟨j, hj⟩ := ih (by simpa using h) hh
      exact ⟨j, .dot hh hj⟩
    · rw [List.filter_cons_of_pos (by simpa using hdot)] at h
      have hsplit : ∃ k₁ k₂ m, d.Leads true k₁ here [name] m ∧ d.get? m = some .dir ∧
          d.Leads true k₂ m (rest.filter (· ≠ ".")) q := by
        by_cases hrest : rest.filter (· ≠ ".") = []
        · rw [hrest] at h
          exact ⟨k, 0, q, h, hq, hrest ▸ .stop⟩
        · rw [← List.singleton_append] at h
          obtain ⟨k₁, k₂, m, -, h₁, h₂⟩ := (leads_append_iff hrest).1 h
          exact ⟨k₁, k₂, m, h₁, h₂.dir_of_ne_nil hrest, h₂⟩
      obtain ⟨k₁, k₂, m, h₁, hm, h₂⟩ := hsplit
      obtain ⟨j, hj⟩ := ih h₂ hm
      by_cases hnil : rest = []
      · subst hnil
        cases hj
        exact ⟨k₁, h₁⟩
      · exact ⟨k₁ + j, h₁.append hnil hj⟩

theorem inDir_of_madeNames (h : d.Leads true k [] (madeNames dir) o) (ho : d.get? o = some .dir) :
    d.InDir dir o := h.of_filter_dots rfl ho

theorem dropSlashes_eq {path : String} (h : endsWith path "/" = false) :
    String.ofList (makeDir.dropSlashes path.toList) = path := by
  have hhead : path.toList.reverse.dropWhile (· == '/') = path.toList.reverse := by
    cases hr : path.toList.reverse with
    | nil => rfl
    | cons c cs =>
      refine List.dropWhile_cons_of_neg fun hc => ?_
      obtain rfl : c = '/' := by simpa using hc
      refine Bool.eq_false_iff.1 h (List.isSuffixOf_iff_suffix.2 ⟨cs.reverse, ?_⟩)
      rw [← List.reverse_reverse path.toList, hr]
      simp
  rw [makeDir.dropSlashes, hhead, List.reverse_reverse, String.ofList_toList]

/-- The path that makes a directory leads to it when it is made. -/
theorem isDir_of_makeDirs {path : String} {parents : List String}
    (h : d.makeDirs (path :: parents) = .ok d') (hend : endsWith path "/" = false) :
    ∃ q, d'.find true path = .ok (q, some .dir) := by
  rcases (makeDirs_spec h).2 with ⟨d₁, -, hmake⟩ | hdir
  · obtain ⟨q, hfind, rfl⟩ := makeDir_eq_ok hmake
    rw [dropSlashes_eq hend] at hfind
    obtain ⟨husable, ⟨k, hk, hleads⟩, hq⟩ := find_eq_ok_iff.1 hfind
    have hclosed : Closed (d₁.get? q) := by rw [hq]; trivial
    have hmade : (d₁.put q .dir).get? q = some .dir := get?_put_self (ne_nil_of_closed hclosed)
    have hthere := (hleads.of_sameWays (sameWays_put (e := .dir) hclosed nofun)).followed
      (by simp [hmade])
    exact ⟨q, find_eq_ok_iff.2 ⟨husable, ⟨k, hk, hthere⟩, hmade⟩⟩
  · exact isDir_iff.1 hdir

/-- A directory that has been made is there. -/
theorem inDir_makeDirAll (h : d.makeDirAll dir = .ok d') :
    ∃ o, d'.InDir dir o ∧ d'.get? o = some .dir := by
  unfold makeDirAll at h
  by_cases hnil : madeNames dir = []
  · rw [ancestors_of_nil hnil] at h
    cases h
    refine ⟨[], inDir_of_madeNames (k := 0) ?_ rfl, rfl⟩
    rw [hnil]
    exact .stop
  · obtain ⟨path, parents, hpath, hnames, hend⟩ := ancestors_of_ne_nil hnil
    rw [hpath] at h
    obtain ⟨q, hfind⟩ := isDir_of_makeDirs h hend
    obtain ⟨-, ⟨k, -, hleads⟩, hq⟩ := find_eq_ok_iff.1 hfind
    exact ⟨q, inDir_of_madeNames (hnames ▸ hleads) hq, hq⟩

/-! ## Other names in a directory -/

/-- A file in a directory. -/
theorem content_join (hn : Path.IsName name) (ho : d.InDir dir o)
    (h : d.content (Path.join dir name) = .ok bs) :
    d.get? (o ++ [name]) = some (.file bs) ∨
      ∃ target k q, d.get? (o ++ [name]) = some (.link target) ∧
        d.Leads true k (linkBase o target) (namesOf target) q ∧ d.get? q = some (.file bs) := by
  obtain ⟨q, hfind⟩ := content_eq_ok_iff.1 h
  obtain ⟨o', k, ho', -, hleads, hq⟩ := find_join hn hfind
  obtain rfl := ho.unique ho'
  obtain ⟨-, ⟨rfl, -⟩ | ⟨target, j, hl, hleads'⟩⟩ := hleads.of_name hn
  · exact .inl hq
  · exact .inr ⟨target, j, q, hl, hleads', hq⟩

/-- The disks differ at most in what file stands at the place, if any. -/
structure ChangesAt (d d' : Disk) (r : Place) : Prop where
  others : ∀ q ≠ r, d'.get? q = d.get? q
  here : d'.get? r = d.get? r ∨ (Closed (d.get? r) ∧ Closed (d'.get? r))

theorem ChangesAt.refl (d : Disk) (r : Place) : ChangesAt d d r := ⟨fun _ _ => rfl, .inl rfl⟩

theorem ChangesAt.trans {d'' : Disk} (h : ChangesAt d d' o) (h' : ChangesAt d' d'' o) :
    ChangesAt d d'' o := by
  refine ⟨fun q hq => (h'.others q hq).trans (h.others q hq), ?_⟩
  rcases h.here with heq | ⟨hc, hc'⟩
  · rw [← heq]
    exact h'.here
  · rcases h'.here with heq' | ⟨-, hc''⟩
    · exact .inr ⟨hc, heq' ▸ hc'⟩
    · exact .inr ⟨hc, hc''⟩

theorem ChangesAt.sameWays (h : ChangesAt d d' o) : SameWays d d' := by
  intro r
  by_cases hr : r = o
  · subst hr
    refine h.here.imp id fun ⟨hc, hc'⟩ => ⟨hc, fun target ht => ?_⟩
    rw [ht] at hc'
    exact hc'
  · exact .inl (h.others r hr)

theorem ChangesAt.no_link (h : ChangesAt d d' o) (hl : ∀ target, d.get? o ≠ some (.link target))
    (target : String) : d'.get? o ≠ some (.link target) := by
  rcases h.here with heq | ⟨-, hc⟩
  · rw [heq]
    exact hl target
  · intro ht
    rw [ht] at hc
    exact hc

theorem changesAt_put {e : Entry} (h : Closed (d.get? o)) (he : Closed (some e)) :
    ChangesAt d (d.put o e) o := by
  refine ⟨fun q hq => ?_, .inr ⟨h, ?_⟩⟩
  · rw [get?_put _ (ne_nil_of_closed h), if_neg hq]
  · rwa [get?_put_self (ne_nil_of_closed h)]

theorem changesAt_erase (h : Closed (d.get? o)) : ChangesAt d (d.erase o) o := by
  refine ⟨fun q hq => ?_, .inr ⟨h, ?_⟩⟩
  · rw [get?_erase _ (ne_nil_of_closed h), if_neg hq]
  · rw [get?_erase _ (ne_nil_of_closed h), if_pos rfl]
    trivial

/-- The disks differ at most in the file of this name in the directory, unless that is a link. -/
def Scratched (dir name : String) (d d' : Disk) : Prop :=
  ∀ o, d.InDir dir o → (∀ target, d.get? (o ++ [name]) ≠ some (.link target)) →
    ChangesAt d d' (o ++ [name])

theorem Scratched.refl (dir name : String) (d : Disk) : Scratched dir name d d :=
  fun _ _ _ => .refl d _

theorem Scratched.trans {d'' : Disk} (h : Scratched dir name d d')
    (h' : Scratched dir name d' d'') : Scratched dir name d d'' := fun o ho hl =>
  have hc := h o ho hl
  hc.trans (h' o (ho.of_sameWays hc.sameWays) (hc.no_link hl))

theorem scratched_put (hn : Path.IsName name)
    (hfind : d.find true (Path.join dir name) = .ok (q, d.get? q)) (hclosed : Closed (d.get? q)) :
    Scratched dir name d (d.put q (.file bs)) := by
  intro o ho hl
  obtain rfl := find_join_of_no_link hn ho hl hfind
  exact changesAt_put hclosed trivial

theorem scratched_openFile (hn : Path.IsName name)
    (h : d.openFile (Path.join dir name) = .ok (q, d')) : Scratched dir name d d' := by
  obtain ⟨hfind, hclosed, rfl⟩ := openFile_eq_ok h
  exact scratched_put hn hfind hclosed

theorem scratched_extend (hn : Path.IsName name) {old : Bytes}
    (h : d.find true (Path.join dir name) = .ok (q, some (.file old))) :
    Scratched dir name d (d.extend q bs) := by
  have hold := get?_of_find h
  rw [extend_of_file hold]
  exact scratched_put hn (hold ▸ h) (by rw [hold]; trivial)

theorem scratched_discard (hn : Path.IsName name) :
    Scratched dir name d (d.discard (Path.join dir name)) := by
  intro o ho hl
  unfold discard
  cases h : d.remove (Path.join dir name) with
  | error f => exact .refl d _
  | ok d' =>
    obtain ⟨q, e, hfind, hdir, rfl⟩ := remove_eq_ok h
    obtain ⟨o', ho', -, rfl, he⟩ := find_join_kept hn hfind
    obtain rfl := ho.unique ho'
    refine changesAt_erase ?_
    rw [he] at hl ⊢
    cases e with
    | file bs => trivial
    | dir => exact absurd rfl hdir
    | link target => exact absurd rfl (hl target)

/-! ## Disks without links -/

/-- No link stands anywhere. -/
def NoLinks (d : Disk) : Prop := ∀ q target, d.get? q ≠ some (.link target)

theorem noLinks_of_entries (h : ∀ e ∈ d.entries, ∀ target, e.2 ≠ .link target) : d.NoLinks := by
  intro q target hq
  unfold get? at hq
  split at hq
  · cases hq
  · obtain ⟨before, after, hentries, -⟩ := List.lookup_eq_some_iff.1 hq
    exact h _ (hentries ▸ List.mem_append_right _ List.mem_cons_self) target rfl

theorem NoLinks.grown (h : d.NoLinks) (hg : Grown d d') : d'.NoLinks := by
  intro q target hq
  rcases hg q with heq | ⟨-, hdir⟩
  · exact h q target (heq ▸ hq)
  · cases hdir.symm.trans hq

theorem NoLinks.changesAt (h : d.NoLinks) (hc : ChangesAt d d' o) : d'.NoLinks := by
  intro q target hq
  by_cases hqo : q = o
  · exact hc.no_link (h o) target (hqo ▸ hq)
  · exact h q target (hc.others q hqo ▸ hq)

theorem get?_of_erase {e : Entry} (h : (d.erase o).get? q = some e) : d.get? q = some e := by
  unfold get? erase at h
  unfold get?
  split at h
  · rename_i hroot
    rw [if_pos hroot, h]
  · rename_i hroot
    rw [if_neg hroot]
    by_cases hq : q = o
    · rw [hq, lookup_filter_eq] at h
      cases h
    · rwa [lookup_filter_ne hq] at h

theorem NoLinks.rename {source target : String} (h : d.NoLinks)
    (hr : d.rename source target = .ok d') : d'.NoLinks := by
  obtain ⟨p, e, q, hfind, -, hdir, rfl⟩ := rename_eq_ok hr
  have hq : q ≠ [] := by
    rintro rfl
    exact hdir rfl
  intro r link hlink
  rw [get?_put _ hq] at hlink
  split at hlink
  · exact h p link ((get?_of_find hfind).trans hlink)
  · exact h r link (get?_of_erase hlink)

/-- What a rename has done: a name is gone, and another one holds what stood there. -/
def Renamed (d d' : Disk) (old new : Place) (e : Entry) : Prop :=
  ∀ r, d'.get? r = if r = new then some e else if r = old then none else d.get? r

theorem renamed_put (hold : q ≠ []) (hnew : o ≠ []) (e : Entry) :
    Renamed d ((d.erase q).put o e) q o e := fun r => by
  rw [get?_put _ hnew, get?_erase _ hold]

section

variable {old new : Place} {e x : Entry} {link nm : String} {m : Place}

/-- What stands on the new disk without the new name stood on the old one. -/
theorem Renamed.le (h : Renamed d d' old new e) (hnew : new ≠ []) (r : Place) (x : Entry)
    (hx : (d'.erase new).get? r = some x) : d.get? r = some x := by
  rw [get?_erase _ hnew] at hx
  split at hx
  · cases hx
  · rename_i hr
    rw [h, if_neg hr] at hx
    split at hx
    · cases hx
    · exact hx

/-- No way ends at a link, unless it starts there. -/
theorem Leads.not_link (h : d.Leads true k here names q) (hs : d.Straight here)
    (hh : ∀ target, d.get? here ≠ some (.link target)) (target : String) :
    d.get? q ≠ some (.link target) := by
  induction h with
  | stop => exact hh target
  | dot _ _ ih => exact ih hs hh
  | @up k here q rest hdir _ ih =>
    refine ih hs.dropLast fun target => ?_
    rcases List.eq_nil_or_concat here with rfl | ⟨init, last, rfl⟩
    · simp
    · rw [List.concat_eq_append, List.dropLast_concat, (hs init last [] (by simp)).dir]
      simp
  | missing _ hnone => simp [hnone]
  | kept hfollow => cases hfollow
  | @link k here q name target rest _ henters _ _ ih =>
    have hbase : linkBase here target = [] ∨ linkBase here target = here := by
      unfold linkBase
      split
      · exact .inl rfl
      · exact .inr rfl
    rcases hbase with hb | hb <;> rw [hb] at ih
    · exact ih d.straight_nil (by simp)
    · exact ih hs (by simp [henters.dir])
  | step henters he hnolink _ ih =>
    exact ih (hs.snoc henters) fun target ht => hnolink target (by simpa [he] using ht)

/-- The path of a link leads to where it led before the link took another name. -/
theorem Renamed.leads_link (h : Renamed d d' old (o ++ [nm]) (.link link)) (hs : d'.Straight o)
    (ho : d'.get? o = some .dir) (hl : d'.Leads true k (linkBase o link) (namesOf link) m)
    (hm : d'.get? m = some x) :
    d.Leads true k (linkBase o link) (namesOf link) m ∧ d.get? m = some x := by
  have hlink : d'.get? (o ++ [nm]) = some (.link link) := by rw [h, if_pos rfl]
  have hbase : d'.Straight (linkBase o link) ∧
      ∀ target, d'.get? (linkBase o link) ≠ some (.link target) := by
    unfold linkBase
    split
    · exact ⟨d'.straight_nil, by simp⟩
    · exact ⟨hs, by simp [ho]⟩
  have hne : m ≠ o ++ [nm] := by
    rintro rfl
    exact hl.not_link hbase.1 hbase.2 link hlink
  have hm' : (d'.erase (o ++ [nm])).get? m = some x := by
    rw [get?_erase _ (by simp), if_neg hne, hm]
  exact ⟨(hl.erase_link hlink).of_le (h.le (by simp)) (by simp [hm']), h.le (by simp) m x hm'⟩

/-- Ways to directories do not go through the new name. -/
theorem Renamed.leads_dir (h : Renamed d d' old (o ++ [nm]) e) (hs : d'.Straight o)
    (ho : d'.get? o = some .dir)
    (he : e = .file bs ∨ ∃ link k m, e = .link link ∧
      d.Leads true k (linkBase o link) (namesOf link) m ∧ d.get? m = some (.file bs))
    (hl : d'.Leads true k here names q) (hq : d'.get? q = some .dir) :
    d.Leads true k here names q := by
  have hnew : d'.get? (o ++ [nm]) = some e := by rw [h, if_pos rfl]
  have hne : e ≠ .dir := by
    rcases he with rfl | ⟨link, k, m, rfl, -⟩ <;> simp
  have herased : (d'.erase (o ++ [nm])).Leads true k here names q := by
    rcases he with rfl | ⟨link, k₀, m, rfl, hlink, hm⟩
    · exact hl.of_sameWays (sameWays_erase (by rw [hnew]; trivial))
    · refine (hl.erase_or_touches hnew).resolve_right ?_
      -- Behind the link stands a file, so no way to a directory leads through it.
      rintro ⟨j, -, rest, htouch⟩
      obtain ⟨j', g, hg, hgdir⟩ : ∃ j' g,
          d'.Leads true j' (linkBase o link) (namesOf link) g ∧ d'.get? g = some .dir := by
        by_cases hr : rest = []
        · rw [hr, List.append_nil] at htouch
          exact ⟨j, q, htouch, hq⟩
        · obtain ⟨k₁, k₂, g, -, h₁, h₂⟩ := (leads_append_iff hr).1 htouch
          exact ⟨k₁, g, h₁, h₂.dir_of_ne_nil hr⟩
      obtain ⟨hg', hgdir'⟩ := h.leads_link hs ho hg hgdir
      rw [(hg'.unique hlink).2, hm] at hgdir'
      cases hgdir'
  refine herased.of_le (h.le (by simp)) ?_
  rw [get?_erase _ (by simp), if_neg, hq]
  · simp
  · rintro rfl
    rw [hnew] at hq
    exact hne (Option.some.inj hq)

/-- A file that takes another name in its directory keeps its content. Where a link has taken the
name, this is what stands behind it. -/
theorem content_rename {working target : String} (hw : Path.IsName working)
    (ht : Path.IsName target)
    (hbs : d.content (Path.join dir working) = .ok bs)
    (h : d.rename (Path.join dir working) (Path.join dir target) = .ok d')
    (hfind : d'.find true (Path.join dir target) = .ok (m, some x)) : x = .file bs := by
  obtain ⟨p, e, q, hp, hq, hqdir, rfl⟩ := rename_eq_ok h
  obtain ⟨o, ho, henters, rfl, hpe⟩ := find_join_kept hw hp
  obtain ⟨o₁, ho₁, -, rfl, -⟩ := find_join_kept ht hq
  obtain rfl := ho.unique ho₁
  have hren : Renamed d ((d.erase (o ++ [working])).put (o ++ [target]) e) (o ++ [working])
      (o ++ [target]) e := renamed_put (by simp) (by simp) e
  generalize (d.erase (o ++ [working])).put (o ++ [target]) e = d' at hren hfind h
  have he : e = .file bs ∨ ∃ link k m, e = .link link ∧
      d.Leads true k (linkBase o link) (namesOf link) m ∧ d.get? m = some (.file bs) := by
    rcases content_join hw ho hbs with hfile | ⟨link, k, m, hlink, hleads, hm⟩
    · exact .inl (Option.some.inj (hpe.symm.trans hfile))
    · exact .inr ⟨link, k, m, Option.some.inj (hpe.symm.trans hlink), hleads, hm⟩
  have hedir : e ≠ .dir := by
    rcases he with rfl | ⟨link, k, m, rfl, -⟩ <;> simp
  -- The directories above are still there: neither name was one.
  have hdirs : ∀ r, d.get? r = some .dir → d'.get? r = some .dir := fun r hr => by
    rw [hren, if_neg, if_neg, hr]
    · rintro rfl
      rw [hpe] at hr
      exact hedir (Option.some.inj hr)
    · rintro rfl
      exact hqdir hr
  have hs : d'.Straight o := fun init name rest hinit => by
    have hd := (ho.choose_spec.straight d.straight_nil) init name rest hinit
    exact { hd with dir := hdirs _ hd.dir }
  have hodir := hdirs o henters.dir
  obtain ⟨o', k, ⟨k', ho'⟩, hodir', hleads, hm⟩ := find_join ht hfind
  have hback := hren.leads_dir hs hodir he ho' hodir'
  obtain rfl := ho.unique ⟨k', hback⟩
  have hnew : d'.get? (o ++ [target]) = some e := by rw [hren, if_pos rfl]
  obtain ⟨-, ⟨rfl, hnolink⟩ | ⟨link, j, hlink, hleads'⟩⟩ := hleads.of_name ht
  · rw [hnew] at hm
    cases hm
    rcases he with rfl | ⟨link, -, -, rfl, -⟩
    · rfl
    · exact absurd hnew (hnolink link)
  · obtain rfl := Option.some.inj (hnew.symm.trans hlink)
    obtain ⟨hleads'', hm'⟩ := hren.leads_link hs hodir hleads' hm
    rcases he with he | ⟨link', k₁, m₁, he, hfile, hm₁⟩
    · cases he
    · cases he
      rw [(hleads''.unique hfile).2, hm₁] at hm'
      exact (Option.some.inj hm').symm

end

end ClipRelay.Disk
