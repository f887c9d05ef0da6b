import ClipRelay.Proofs.Disk.Directories

/-!
# Files that stay, and files that take a place

* `Disk.Spared`: all that stood still stands, and ways lead where they led.
* `Disk.Leads.replaced`: a file may take the place of a link when the link leads to no directory.
  Ways that ended behind the link end at the file.
* `Disk.Replaced.isFile`, `Disk.Replaced.find`: the paths of files are still paths of files then, and
  the path of the link is that of the new file.
* `Disk.Replaced.find_past`: a path that does not lead through the link leads where it led.
-/

namespace ClipRelay.Disk

open Text

variable {d d' d'' : Disk} {follow : Bool} {k : Nat} {here o p q : Place} {names : List String}
  {name path target : String} {bs : Bytes}

/-! ## What is spared -/

/-- All that stood still stands, and ways lead where they led. -/
structure Spared (d d' : Disk) : Prop where
  ways : SameWays d d'
  stays : ∀ r e, d.get? r = some e → d'.get? r = some e

theorem Spared.refl (d : Disk) : Spared d d := ⟨.refl d, fun _ _ h => h⟩

theorem Spared.trans (h : Spared d d') (h' : Spared d' d'') : Spared d d'' :=
  ⟨h.ways.trans h'.ways, fun r e he => h'.stays r e (h.stays r e he)⟩

theorem Grown.spared (h : Grown d d') : Spared d d' := ⟨h.sameWays, fun _ _ => h.get?_of_some⟩

/-- What happens at a place where nothing stood spares all else. -/
theorem ChangesAt.spared (h : ChangesAt d d' q) (hq : d.get? q = none) : Spared d d' := by
  refine ⟨h.sameWays, fun r e he => ?_⟩
  have hr : r ≠ q := by
    rintro rfl
    rw [hq] at he
    cases he
  rw [h.others r hr, he]

theorem ChangesAt.closed (h : ChangesAt d d' q) (hq : Closed (d.get? q)) : Closed (d'.get? q) := by
  rcases h.here with heq | ⟨-, hclosed⟩
  · rwa [heq]
  · exact hclosed

theorem Spared.isFile (h : Spared d d') (hp : d.isFile path = true) : d'.isFile path = true := by
  obtain ⟨q, bs, hfind⟩ := isFile_iff.1 hp
  refine isFile_iff.2 ⟨q, bs, ?_⟩
  rw [h.ways.find hfind, h.stays q _ (get?_of_find hfind)]

theorem ChangesAt.symm (h : ChangesAt d d' q) : ChangesAt d' d q :=
  ⟨fun r hr => (h.others r hr).symm, h.here.imp Eq.symm And.symm⟩

/-- A path whose last name is not followed is found where it was. -/
theorem ChangesAt.find_iff (h : ChangesAt d d' o) :
    d.find follow path = .ok (q, d.get? q) ↔ d'.find follow path = .ok (q, d'.get? q) :=
  ⟨h.sameWays.find, h.symm.sameWays.find⟩

theorem changesAt_discard (h : d.find false path = .ok (q, d.get? q)) (hq : Closed (d.get? q)) :
    ChangesAt d (d.discard path) q := by
  unfold discard
  cases hr : d.remove path with
  | error f => exact .refl d q
  | ok d' =>
    obtain ⟨q', e, hfind, -, rfl⟩ := remove_eq_ok hr
    obtain ⟨rfl, -⟩ : q = q' ∧ d.get? q = some e := by simpa [h] using hfind
    exact changesAt_erase hq

/-! ## Links that are replaced -/

/-- Behind the link that a path ends at, the path goes on along the path of the link. -/
theorem Leads.of_kept_link (h : d.Leads false k [] names q) (hq : d.get? q = some (.link target)) :
    ∃ o name k₀, q = o ++ [name] ∧ ∀ j g, d.Leads true j (linkBase o target) (namesOf target) g →
      d.Leads true (k₀ + (j + 1)) [] names g := by
  rcases List.eq_nil_or_concat names with rfl | ⟨init, last, rfl⟩
  · cases h
    cases hq
  rw [List.concat_eq_append] at h ⊢
  obtain ⟨k₁, k₂, o, -, hinit, hlast⟩ := (leads_append_iff (List.cons_ne_nil _ _)).1 h
  have hdir := hlast.dir_of_ne_nil (List.cons_ne_nil _ _)
  cases hlast with
  | dot _ hstop =>
    cases hstop
    rw [hdir] at hq
    cases hq
  | up _ hstop =>
    cases hstop
    rcases List.eq_nil_or_concat o with rfl | ⟨above, name, rfl⟩
    · cases hq
    · rw [List.concat_eq_append] at hinit
      rw [List.concat_eq_append, List.dropLast_concat,
        (hinit.straight d.straight_nil above name [] rfl).dir] at hq
      cases hq
  | missing _ hnone =>
    rw [hnone] at hq
    cases hq
  | kept _ henters hlink =>
    cases hlink.symm.trans hq
    refine ⟨o, last, k₁, rfl, fun j g hg => hinit.append (List.cons_ne_nil _ _) ?_⟩
    exact .link (.inl rfl) henters hlink (by rwa [List.append_nil])
  | link hfollow => simp at hfollow
  | step _ he hnolink hstop =>
    cases hstop
    exact absurd (Option.some.inj (he.symm.trans hq)) (hnolink target)

/-- Where the way goes on there is a directory or a link. -/
theorem exists_link_of_not_closed (h : ¬ Closed (d.get? q)) (hdir : d.get? q ≠ some .dir) :
    ∃ target, d.get? q = some (.link target) := by
  rcases he : d.get? q with _ | _ | _ | target
  · exact absurd (by rw [he]; trivial) h
  · exact absurd (by rw [he]; trivial) h
  · exact absurd he hdir
  · exact ⟨target, rfl⟩

/-- A file has taken a place. -/
def Replaced (d d' : Disk) (q : Place) (bs : Bytes) : Prop :=
  ∀ r, d'.get? r = if r = q then some (.file bs) else d.get? r

/-- A file that has been written where no link stood takes the place of the path that it is moved to. -/
theorem ChangesAt.moved {d₁ : Disk} {working : String} (h : ChangesAt d d₁ o)
    (hlink : ∀ target, d.get? o ≠ some (.link target))
    (hold : d₁.find false working = .ok (o, d₁.get? o)) (hbs : d₁.content working = .ok bs)
    (hrename : d₁.rename working path = .ok d') :
    Closed (d.get? o) ∧ ∃ q, d.find false path = .ok (q, d.get? q) ∧ d.get? q ≠ some .dir ∧
      Replaced (d.erase o) d' q bs := by
  obtain ⟨o', x, q, hfind, htarget, hdir, hd'⟩ := rename_eq_ok hrename
  obtain ⟨rfl, hx⟩ : o = o' ∧ d₁.get? o = some x := by simpa [hold] using hfind
  -- What is moved is the file, and it holds what the working path is read as.
  obtain rfl : x = .file bs := by
    obtain ⟨o', hread⟩ := content_eq_ok_iff.1 hbs
    have hread' := find_followed hold (h.no_link hlink)
    rw [hx] at hread'
    exact (by simpa [hread] using hread'.symm : o = o' ∧ x = .file bs).2
  have hclosed : Closed (d.get? o) := by
    rcases h.here with heq | ⟨hclosed, -⟩
    · rw [← heq, hx]
      trivial
    · exact hclosed
  have hq : q ≠ [] := by
    rintro rfl
    exact hdir rfl
  refine ⟨hclosed, q, h.find_iff.2 htarget, fun hq' => ?_, fun r => ?_⟩
  · have hne : q ≠ o := by
      rintro rfl
      rw [hq'] at hclosed
      exact hclosed
    exact hdir ((h.others q hne).trans hq')
  · rw [hd', get?_put _ hq, get?_erase _ (ne_nil_of_closed hclosed),
      get?_erase _ (ne_nil_of_closed hclosed)]
    by_cases hr : r = o
    · rw [if_pos hr, if_pos hr]
    · rw [if_neg hr, if_neg hr, h.others r hr]

/-- Nothing else is changed by this when nothing stood there. -/
theorem ChangesAt.replaced {d₁ : Disk} {working : String} (h : ChangesAt d d₁ o)
    (hnone : d.get? o = none) (hold : d₁.find false working = .ok (o, d₁.get? o))
    (hbs : d₁.content working = .ok bs) (hrename : d₁.rename working path = .ok d') :
    ∃ q, d.find false path = .ok (q, d.get? q) ∧ d.get? q ≠ some .dir ∧ Replaced d d' q bs := by
  obtain ⟨hclosed, q, htarget, hdir, hreplaced⟩ :=
    h.moved (by rw [hnone]; exact nofun) hold hbs hrename
  refine ⟨q, htarget, hdir, fun r => ?_⟩
  rw [hreplaced, get?_erase _ (ne_nil_of_closed hclosed)]
  by_cases hr : r = o
  · rw [if_pos hr, hr, hnone]
  · rw [if_neg hr]

theorem Replaced.get?_of_ne_link (h : Replaced d d' q bs) (hq : d.get? q = some (.link target))
    {r : Place} (hr : d.get? r ≠ some (.link target)) : d'.get? r = d.get? r := by
  rw [h, if_neg]
  rintro rfl
  exact hr hq

/-- When a file has taken the place of a link that leads to no directory, a way ends where it did or
at the file. -/
theorem Leads.replaced (hrep : Replaced d d' (o ++ [name]) bs)
    (hlink : d.get? (o ++ [name]) = some (.link target))
    (hdead : ∀ j g, d.Leads true j (linkBase o target) (namesOf target) g → d.get? g ≠ some .dir)
    (h : d.Leads follow k here names q) :
    ∃ j ≤ k, ∃ q', d'.Leads follow j here names q' ∧ (q' = q ∨ q' = o ++ [name]) := by
  have hdir : ∀ {r}, d.get? r = some .dir → d'.get? r = some .dir := fun hr =>
    (hrep.get?_of_ne_link hlink (by rw [hr]; exact nofun)).trans hr
  have henter : ∀ {r nm}, d.Enters r nm → d'.Enters r nm := fun h => { h with dir := hdir h.dir }
  have hnew : d'.get? (o ++ [name]) = some (.file bs) := by rw [hrep, if_pos rfl]
  have hend : ∀ {follow r nm}, d.Enters r nm → r ++ [nm] = o ++ [name] →
      d'.Leads follow 0 r [nm] (o ++ [name]) := fun {follow r nm} hr heq => by
    rw [← heq] at hnew ⊢
    exact .step (henter hr) hnew nofun .stop
  induction h with
  | stop => exact ⟨0, Nat.le_refl 0, _, .stop, .inl rfl⟩
  | dot hd _ ih =>
    obtain ⟨j, hj, q', hq', hor⟩ := ih
    exact ⟨j, hj, q', .dot (hdir hd) hq', hor⟩
  | up hd _ ih =>
    obtain ⟨j, hj, q', hq', hor⟩ := ih
    exact ⟨j, hj, q', .up (hdir hd) hq', hor⟩
  | missing henters hnone =>
    refine ⟨0, Nat.le_refl 0, _, .missing (henter henters) ?_, .inl rfl⟩
    rw [hrep.get?_of_ne_link hlink (by rw [hnone]; exact nofun), hnone]
  | @kept here nm target' hfollow henters hlink' =>
    by_cases heq : here ++ [nm] = o ++ [name]
    · exact ⟨0, Nat.le_refl 0, _, hend henters heq, .inr rfl⟩
    · have hkept : d'.get? (here ++ [nm]) = some (.link target') := by rw [hrep, if_neg heq, hlink']
      exact ⟨0, Nat.le_refl 0, _, .kept hfollow (henter henters) hkept, .inl rfl⟩
  | @link k here q nm target' rest hfollow henters hlink' hway ih =>
    by_cases heq : here ++ [nm] = o ++ [name]
    · -- Nothing is left of a way behind this link, since no directory stands there.
      obtain ⟨rfl, -⟩ := List.append_inj' heq rfl
      rw [heq, hlink] at hlink'
      cases hlink'
      have hrest : rest = [] := by
        by_contra hne
        obtain ⟨k₁, k₂, g, -, h₁, h₂⟩ := (leads_append_iff hne).1 hway
        cases follow with
        | true => exact hdead k₁ g h₁ (h₂.dir_of_ne_nil hne)
        | false => exact hdead k₁ g h₁ (h₂.dir_of_ne_nil hne)
      rw [hrest]
      exact ⟨0, Nat.zero_le _, _, hend henters heq, .inr rfl⟩
    · obtain ⟨j, hj, q', hq', hor⟩ := ih
      refine ⟨j + 1, Nat.succ_le_succ hj, q', .link hfollow (henter henters) ?_ hq', hor⟩
      rw [hrep, if_neg heq, hlink']
  | step henters he hnolink _ ih =>
    obtain ⟨j, hj, q', hq', hor⟩ := ih
    refine ⟨j, hj, q', .step (henter henters) ?_ hnolink hq', hor⟩
    rw [hrep.get?_of_ne_link hlink, he]
    rw [he]
    exact fun heq => hnolink target (Option.some.inj heq)

/-- The path is a link, and a directory stands where it leads through all links. -/
def IsDirLink (d : Disk) (path : String) : Prop :=
  (∃ q target, d.find false path = .ok (q, some (.link target))) ∧
    ∃ k g, d.Leads true k [] (namesOf path) g ∧ d.get? g = some .dir

theorem Replaced.sameWays (h : Replaced d d' q bs) (hq : Closed (d.get? q)) : SameWays d d' := by
  intro r
  by_cases hr : r = q
  · refine .inr ⟨hr ▸ hq, ?_⟩
    rw [h, if_pos hr]
    exact nofun
  · exact .inl (by rw [h, if_neg hr])

section

variable (h : Replaced d d' q bs) (hq : d.find false path = .ok (q, d.get? q))
  (hdir : d.get? q ≠ some .dir) (hlink : ¬ d.IsDirLink path)
include h hq hdir hlink

/-- When a file has taken the place of a path that is neither a directory nor a link to one, every
path is found where it was or at that place. -/
theorem Replaced.find_or {path' : String} {e : Option Entry}
    (hp : d.find follow path' = .ok (p, e)) :
    ∃ p', d'.find follow path' = .ok (p', d'.get? p') ∧ (p' = p ∨ p' = q) := by
  by_cases hclosed : Closed (d.get? q)
  · exact ⟨p, (h.sameWays hclosed).find hp, .inl rfl⟩
  · obtain ⟨target, hold⟩ := exists_link_of_not_closed hclosed hdir
    obtain ⟨-, ⟨k, -, hleads⟩, -⟩ := find_eq_ok_iff.1 hq
    obtain ⟨o, name, k₀, rfl, hon⟩ := hleads.of_kept_link hold
    obtain ⟨husable, ⟨k', hk', hway⟩, -⟩ := find_eq_ok_iff.1 hp
    obtain ⟨j, hj, p', hp', hor⟩ := hway.replaced h hold fun j g hg hgdir =>
      hlink ⟨⟨_, _, hq.trans (by rw [hold])⟩, _, g, hon j g hg, hgdir⟩
    exact ⟨p', find_eq_ok_iff.2 ⟨husable, ⟨j, Nat.le_trans hj hk', hp'⟩, rfl⟩, hor⟩

/-- The path is that of the new file. -/
theorem Replaced.find : d'.find true path = .ok (q, some (.file bs)) := by
  obtain ⟨q', hq', hor⟩ := h.find_or hq hdir hlink hq
  obtain rfl : q' = q := hor.elim id id
  have hnew : d'.get? q' = some (.file bs) := by rw [h, if_pos rfl]
  rw [hnew] at hq'
  exact find_followed hq' nofun

/-- The paths of files are paths of files. -/
theorem Replaced.isFile {path' : String} (hp : d.isFile path' = true) : d'.isFile path' = true := by
  obtain ⟨p, old, hfind⟩ := isFile_iff.1 hp
  obtain ⟨p', hp', hor⟩ := h.find_or hq hdir hlink hfind
  have hfile : ∃ bs, d'.get? p' = some (.file bs) := by
    rw [h]
    split
    · exact ⟨bs, rfl⟩
    · rename_i hne
      rw [hor.resolve_right hne]
      exact ⟨old, get?_of_find hfind⟩
  obtain ⟨bs', hbs'⟩ := hfile
  exact isFile_iff.2 ⟨p', bs', hbs' ▸ hp'⟩

end

/-! ## Paths past a link -/

/-- The path leads through the link that stands at the other path: it leads elsewhere, or nowhere,
without that. -/
def LeadsThrough (d : Disk) (path via : String) : Prop :=
  ∃ q target, d.find false via = .ok (q, some (.link target)) ∧
    (d.erase q).find true path ≠ d.find true path

/-- A name in a directory is no link, and the path does not lead to what it stands for. -/
def Apart (d : Disk) (dir name path : String) : Prop :=
  ∀ o, d.InDir dir o → (∀ target, d.get? (o ++ [name]) ≠ some (.link target)) ∧
    ∀ e, d.find true path ≠ .ok (o ++ [name], e)

/-- A file is found where it was when another file has been moved from where it does not stand to a
path that its own does not lead through. -/
theorem Replaced.find_past {via : String} {old : Bytes} (h : Replaced (d.erase o) d' q bs)
    (ho : Closed (d.get? o)) (hq : d.find false via = .ok (q, d.get? q)) (hdir : d.get? q ≠ some .dir)
    (hne : p ≠ q) (hne' : p ≠ o) (hpast : ¬ d.LeadsThrough path via)
    (hp : d.find true path = .ok (p, some (.file old))) :
    d'.find true path = .ok (p, some (.file old)) := by
  have ho₀ := ne_nil_of_closed ho
  have hsame : d'.get? p = some (.file old) := by
    rw [h, if_neg hne, get?_erase _ ho₀, if_neg hne', get?_of_find hp]
  -- The ways are those of the disk before, without the link if there is one.
  have hways : ∀ b : Disk, Closed (b.get? q) → (∀ r ≠ q, b.get? r = d.get? r) → SameWays b d' := by
    intro b hb hothers r
    by_cases hr : r = q
    · refine .inr ⟨hr ▸ hb, ?_⟩
      rw [h, if_pos hr]
      exact nofun
    · rw [h, if_neg hr, get?_erase _ ho₀, hothers r hr]
      split
      · rename_i hro
        exact .inr ⟨hro ▸ ho, nofun⟩
      · exact .inl rfl
  rw [← hsame]
  by_cases hclosed : Closed (d.get? q)
  · exact (hways d hclosed fun _ _ => rfl).find hp
  · obtain ⟨target, hlink⟩ := exists_link_of_not_closed hclosed hdir
    have hq₀ : q ≠ [] := by
      rintro rfl
      cases hlink
    have herased : (d.erase q).find true path = .ok (p, some (.file old)) := by
      by_contra hother
      exact hpast ⟨q, target, hq.trans (by rw [hlink]), fun heq => hother (heq.trans hp)⟩
    refine (hways (d.erase q) ?_ fun r hr => ?_).find herased
    · rw [get?_erase _ hq₀, if_pos rfl]
      trivial
    · rw [get?_erase _ hq₀, if_neg hr]

/-! ## Disks without links -/

theorem NoLinks.not_leadsThrough {via : String} (h : d.NoLinks) : ¬ d.LeadsThrough path via :=
  fun ⟨q, target, hfind, _⟩ => h q target (get?_of_find hfind)

/-- Without links, names in a directory have nothing to do with each other. -/
theorem NoLinks.apart {dir other : String} (h : d.NoLinks) (hn : Path.IsName name)
    (hne : name ≠ other) : d.Apart dir other (Path.join dir name) := by
  refine fun o ho => ⟨h _, fun e hfind => ?_⟩
  have heq := find_join_of_no_link hn ho (h _) hfind
  exact hne (List.cons.inj (List.append_cancel_left heq)).1.symm

end ClipRelay.Disk
