import ClipRelay.Proofs.Disk.Names
import ClipRelay.Proofs.Disk.Ways
import Mathlib.Data.List.Induction

/-!
# Operations of a disk by places

* `Disk.find_eq_ok_iff`: a path is found where its names lead.
* `Disk.write_eq_ok`, `Disk.rename_eq_ok`, …: an operation that succeeds changes what stands at the
  places that its paths lead to.
* `Disk.SameWays.find`, `Disk.sameWays_put`, `Disk.sameWays_erase`: what changes at the end of ways
  is found as before.
* `Disk.erase_put`, `Disk.put_put`: the last change of a place is the one that counts.
* `Disk.FileAt`: a path leads straight to a file; so does the canonical path of a file
  (`Disk.fileAt_canonical`).
-/

namespace ClipRelay.Disk

open Text

variable {d d' d'' : Disk} {follow : Bool} {k : Nat} {here p q : Place} {names : List String}
  {path source target : String} {bs : Bytes} {e : Entry}

/-! ## Finding -/

/-- A path that the system takes. -/
structure Usable (path : String) : Prop where
  no_nul : path.toList.contains '\x00' = false
  ne_empty : path ≠ ""
  short : path.utf8ByteSize ≤ maxPath

theorem find_eq_ok_iff {e : Option Entry} : d.find follow path = .ok (q, e) ↔
    Usable path ∧ (∃ k ≤ maxLinks, d.Leads follow k [] (namesOf path) q) ∧ d.get? q = e := by
  unfold find
  constructor
  · intro h
    split at h
    · cases h
    rename_i hnul
    split at h
    · cases h
    rename_i hempty
    split at h
    · cases h
    rename_i hlong
    obtain ⟨k, hk, hleads, he⟩ := walk_eq_ok_iff.1 h
    exact ⟨⟨Bool.eq_false_iff.2 hnul, hempty, Nat.not_lt.1 hlong⟩, ⟨k, hk, hleads⟩, he⟩
  · rintro ⟨hpath, ⟨k, hk, hleads⟩, he⟩
    rw [if_neg (Bool.eq_false_iff.1 hpath.no_nul), if_neg hpath.ne_empty,
      if_neg (Nat.not_lt.2 hpath.short)]
    exact walk_eq_ok_iff.2 ⟨k, hk, hleads, he⟩

theorem get?_of_find {e : Option Entry} (h : d.find follow path = .ok (q, e)) : d.get? q = e :=
  (find_eq_ok_iff.1 h).2.2

theorem content_eq_ok_iff :
    d.content path = .ok bs ↔ ∃ q, d.find true path = .ok (q, some (.file bs)) := by
  unfold content status
  rcases d.find true path with f | ⟨q, _ | _ | _ | _⟩ <;>
    simp [bind, Except.bind, pure, Except.pure]

theorem isFile_iff :
    d.isFile path = true ↔ ∃ q bs, d.find true path = .ok (q, some (.file bs)) := by
  unfold isFile status
  rcases d.find true path with f | ⟨q, _ | _ | _ | _⟩ <;>
    simp [bind, Except.bind, pure, Except.pure]

theorem isDir_iff : d.isDir path = true ↔ ∃ q, d.find true path = .ok (q, some .dir) := by
  unfold isDir status
  rcases d.find true path with f | ⟨q, _ | _ | _ | _⟩ <;>
    simp [bind, Except.bind, pure, Except.pure]

theorem canonical_eq_ok_iff {c : String} : d.canonical path = .ok c ↔
    ∃ q e, d.find true path = .ok (q, some e) ∧ c = Path.ofNames q := by
  unfold canonical status
  rcases d.find true path with f | ⟨q, _ | e'⟩ <;>
    simp [bind, Except.bind, pure, Except.pure, eq_comm]

/-! ## Changing -/

theorem write_eq_ok (h : d.write path bs = .ok d') :
    ∃ q, d.find true path = .ok (q, d.get? q) ∧ Closed (d.get? q) ∧ d' = d.put q (.file bs) := by
  unfold write at h
  rcases hf : d.find true path with f | ⟨q, e⟩
  · simp [hf, bind, Except.bind] at h
  · have hq := get?_of_find hf
    refine ⟨q, by rw [hq], ?_⟩
    rcases e with _ | _ | _ | _ <;> simp_all [bind, Except.bind, pure, Except.pure, Closed]

theorem openFile_eq_ok (h : d.openFile path = .ok (q, d')) :
    d.find true path = .ok (q, d.get? q) ∧ Closed (d.get? q) ∧ d' = d.put q (.file []) := by
  unfold openFile at h
  rcases hf : d.find true path with f | ⟨p, e⟩
  · simp [hf, bind, Except.bind] at h
  · rcases hw : d.write path [] with f | written
    · simp [hf, hw, bind, Except.bind] at h
    · obtain ⟨p', hfind, hclosed, rfl⟩ := write_eq_ok hw
      simp only [hf, hw, bind, Except.bind, pure, Except.pure, Except.ok.injEq, Prod.mk.injEq] at h hfind
      obtain ⟨rfl, rfl⟩ := h
      obtain ⟨rfl, rfl⟩ := hfind
      exact ⟨rfl, hclosed, rfl⟩

theorem extend_of_file {old : Bytes} (h : d.get? q = some (.file old)) :
    d.extend q bs = d.put q (.file (old ++ bs)) := by
  rw [extend, h]

theorem create_eq_ok (h : d.create path = .ok d') :
    ∃ q, d.find false path = .ok (q, none) ∧ d' = d.put q (.file []) := by
  unfold create at h
  rcases hf : d.find false path with f | ⟨q, _ | _⟩ <;>
    simp_all [bind, Except.bind, pure, Except.pure]

theorem makeDir_eq_ok (h : d.makeDir path = .ok d') :
    ∃ q, d.find false (String.ofList (makeDir.dropSlashes path.toList)) = .ok (q, none) ∧
      d' = d.put q .dir := by
  unfold makeDir at h
  rcases hf : d.find false (String.ofList (makeDir.dropSlashes path.toList)) with f | ⟨q, _ | _⟩ <;>
    simp_all [bind, Except.bind, pure, Except.pure]

theorem remove_eq_ok (h : d.remove path = .ok d') :
    ∃ q e, d.find false path = .ok (q, some e) ∧ e ≠ .dir ∧ d' = d.erase q := by
  unfold remove at h
  rcases hf : d.find false path with f | ⟨q, _ | _ | _ | _⟩ <;>
    simp_all [bind, Except.bind, pure, Except.pure]

theorem rename_eq_ok (h : d.rename source target = .ok d') :
    ∃ p e q, d.find false source = .ok (p, some e) ∧ d.find false target = .ok (q, d.get? q) ∧
      d.get? q ≠ some .dir ∧ d' = (d.erase p).put q e := by
  unfold rename at h
  rcases hf : d.find false source with f | ⟨p, _ | e⟩
  · simp [hf, bind, Except.bind] at h
  · simp [hf, bind, Except.bind] at h
  · rcases hg : d.find false target with f | ⟨q, e'⟩
    · simp [hf, hg, bind, Except.bind] at h
    · have hq := get?_of_find hg
      refine ⟨p, e, q, rfl, by rw [hq], ?_⟩
      rcases e' with _ | _ | _ | _ <;> simp_all [bind, Except.bind, pure, Except.pure]

/-! ## Changing back -/

/-- Where nothing stands nothing can be erased. -/
theorem erase_of_none (hq : q ≠ []) (h : d.get? q = none) : d.erase q = d := by
  rw [get?, if_neg hq, List.lookup_eq_none_iff] at h
  have hkept : d.entries.filter (·.1 != q) = d.entries :=
    List.filter_eq_self.2 fun e he => bne_iff_ne.2 (bne_iff_ne.1 (h e he)).symm
  rw [erase, hkept]

/-- An entry that is put and erased again leaves nothing behind. -/
theorem erase_put : (d.put q e).erase q = d.erase q := by
  simp [put, erase]

theorem put_put {e' : Entry} : (d.put q e).put q e' = d.put q e' := by
  rw [put, erase_put, put]

/-! ## What is found as before -/

theorem ne_nil_of_closed (h : Closed (d.get? q)) : q ≠ [] := by
  rintro rfl
  exact h

theorem get?_put_self (h : q ≠ []) : (d.put q e).get? q = some e := by
  rw [get?_put d h, if_pos rfl]

theorem sameWays_put (h : Closed (d.get? q)) (he : ∀ target, e ≠ .link target) :
    SameWays d (d.put q e) := by
  intro r
  rw [get?_put d (ne_nil_of_closed h)]
  by_cases hr : r = q
  · subst hr
    exact .inr ⟨h, fun target ht => he target (by simpa using ht)⟩
  · exact .inl (if_neg hr)

theorem sameWays_erase (h : Closed (d.get? q)) : SameWays d (d.erase q) := by
  intro r
  rw [get?_erase d (ne_nil_of_closed h)]
  by_cases hr : r = q
  · subst hr
    exact .inr ⟨h, by simp⟩
  · exact .inl (if_neg hr)

theorem SameWays.refl (d : Disk) : SameWays d d := fun _ => .inl rfl

theorem SameWays.trans (h : SameWays d d') (h' : SameWays d' d'') : SameWays d d'' := by
  intro r
  rcases h r with heq | ⟨hclosed, hlink⟩
  · rcases h' r with heq' | ⟨hclosed', hlink'⟩
    · exact .inl (heq'.trans heq)
    · exact .inr ⟨heq ▸ hclosed', hlink'⟩
  · rcases h' r with heq' | ⟨hclosed', hlink'⟩
    · exact .inr ⟨hclosed, fun target => heq' ▸ hlink target⟩
    · exact .inr ⟨hclosed, hlink'⟩

theorem SameWays.find (hs : SameWays d d') {e : Option Entry}
    (h : d.find follow path = .ok (q, e)) : d'.find follow path = .ok (q, d'.get? q) := by
  obtain ⟨hpath, ⟨k, hk, hleads⟩, -⟩ := find_eq_ok_iff.1 h
  exact find_eq_ok_iff.2 ⟨hpath, ⟨k, hk, hleads.of_sameWays hs⟩, rfl⟩

/-- A file that is put where a path leads is found there. -/
theorem find_put_file (hfind : d.find follow path = .ok (q, d.get? q)) (hclosed : Closed (d.get? q))
    (bs : Bytes) : (d.put q (.file bs)).find follow path = .ok (q, some (.file bs)) := by
  have hfound := (sameWays_put (e := .file bs) hclosed nofun).find hfind
  rwa [get?_put_self (ne_nil_of_closed hclosed)] at hfound

/-- A file that is written holds what was written. -/
theorem content_write (h : d.write path bs = .ok d') : d'.content path = .ok bs := by
  obtain ⟨q, hfind, hclosed, rfl⟩ := write_eq_ok h
  exact content_eq_ok_iff.2 ⟨q, find_put_file hfind hclosed bs⟩

/-- A file that is opened is empty. -/
theorem find_openFile (h : d.openFile path = .ok (q, d')) :
    d'.find true path = .ok (q, some (.file [])) := by
  obtain ⟨hfind, hclosed, rfl⟩ := openFile_eq_ok h
  exact find_put_file hfind hclosed []

/-- An open file that its path leads to holds what is added. -/
theorem find_extend {old : Bytes} (h : d.find true path = .ok (q, some (.file old))) (bs : Bytes) :
    (d.extend q bs).find true path = .ok (q, some (.file (old ++ bs))) := by
  have hold := get?_of_find h
  rw [extend_of_file hold]
  exact find_put_file (hold ▸ h) (by rw [hold]; trivial) _

/-! ## Directories that are new -/

/-- One disk has all that the other one has, and maybe more directories. -/
def Grown (d d' : Disk) : Prop :=
  ∀ r, d'.get? r = d.get? r ∨ (d.get? r = none ∧ d'.get? r = some .dir)

theorem Grown.refl (d : Disk) : Grown d d := fun _ => .inl rfl

theorem Grown.trans (h : Grown d d') (h' : Grown d' d'') : Grown d d'' := by
  intro r
  rcases h r with heq | ⟨hnone, hdir⟩
  · rw [← heq]
    exact h' r
  · rcases h' r with heq' | ⟨hnone', -⟩
    · exact .inr ⟨hnone, heq'.trans hdir⟩
    · rw [hdir] at hnone'
      cases hnone'

theorem Grown.sameWays (h : Grown d d') : SameWays d d' := fun r =>
  (h r).imp id fun ⟨hnone, hdir⟩ => ⟨by rw [hnone]; trivial, by simp [hdir]⟩

theorem Grown.get?_of_some (h : Grown d d') (he : d.get? q = some e) : d'.get? q = some e := by
  rcases h q with heq | ⟨hnone, -⟩
  · rw [heq, he]
  · rw [hnone] at he
    cases he

theorem grown_makeDir (h : d.makeDir path = .ok d') : Grown d d' := by
  obtain ⟨q, hfind, rfl⟩ := makeDir_eq_ok h
  have hnone := get?_of_find hfind
  have hclosed : Closed (d.get? q) := by rw [hnone]; trivial
  intro r
  rw [get?_put d (ne_nil_of_closed hclosed)]
  by_cases hr : r = q
  · subst hr
    exact .inr ⟨hnone, if_pos rfl⟩
  · exact .inl (if_neg hr)

/-- Making directories makes nothing else. The first of them is there in the end: it was made last,
or it was there. -/
theorem makeDirs_spec {parents : List String} (h : d.makeDirs (path :: parents) = .ok d') :
    Grown d d' ∧
      ((∃ d₁, Grown d d₁ ∧ d₁.makeDir path = .ok d') ∨ d'.isDir path = true) := by
  induction parents generalizing d d' path with
  | nil =>
    simp only [makeDirs] at h
    split at h
    · rename_i d₁ hmake
      cases h
      exact ⟨grown_makeDir hmake, .inl ⟨d, .refl d, hmake⟩⟩
    · cases h
    · split at h
      · rename_i hdir
        cases h
        exact ⟨.refl d, .inr hdir⟩
      · cases h
  | cons parent parents ih =>
    rw [makeDirs] at h
    split at h
    · rename_i d₁ hmake
      cases h
      exact ⟨grown_makeDir hmake, .inl ⟨d, .refl d, hmake⟩⟩
    · simp only [List.isEmpty_cons, Bool.false_eq_true, if_false, bind, Except.bind] at h
      split at h
      · cases h
      · rename_i d₁ hparents
        have hgrown := (ih hparents).1
        split at h
        · rename_i d₂ hmake
          cases h
          exact ⟨hgrown.trans (grown_makeDir hmake), .inl ⟨d₁, hgrown, hmake⟩⟩
        · split at h
          · rename_i hdir
            cases h
            exact ⟨hgrown, .inr hdir⟩
          · cases h
    · split at h
      · rename_i hdir
        cases h
        exact ⟨.refl d, .inr hdir⟩
      · cases h

theorem grown_makeDirAll (h : d.makeDirAll path = .ok d') : Grown d d' := by
  unfold makeDirAll at h
  cases ha : ancestors path with
  | nil =>
    rw [ha] at h
    cases h
    exact .refl d
  | cons path parents =>
    rw [ha] at h
    exact (makeDirs_spec h).1

/-! ## Files by their canonical paths -/

/-- Every name of a place is entered from the directory above it. -/
def Straight (d : Disk) (p : Place) : Prop :=
  ∀ init name rest, p = init ++ name :: rest → d.Enters init name

theorem straight_nil (d : Disk) : d.Straight [] := fun init name rest h => by simp at h

theorem Straight.snoc {name : String} (h : d.Straight p) (hn : d.Enters p name) :
    d.Straight (p ++ [name]) := by
  intro init name' rest hp
  rcases List.eq_nil_or_concat rest with rfl | ⟨rest, last, rfl⟩
  · obtain ⟨rfl, hname⟩ := List.append_inj' hp rfl
    cases hname
    exact hn
  · rw [List.concat_eq_append, ← List.cons_append, ← List.append_assoc] at hp
    obtain ⟨rfl, -⟩ := List.append_inj' hp rfl
    exact h init name' rest rfl

theorem Straight.dropLast (h : d.Straight p) : d.Straight p.dropLast := by
  intro init name rest hp
  rcases List.eq_nil_or_concat p with rfl | ⟨p, last, rfl⟩
  · simp at hp
  · rw [List.concat_eq_append, List.dropLast_concat] at hp
    exact h init name (rest ++ [last]) (by simp [hp])

theorem Leads.straight (h : d.Leads follow k here names q) (hh : d.Straight here) :
    d.Straight q := by
  induction h with
  | stop => exact hh
  | dot _ _ ih => exact ih hh
  | up _ _ ih => exact ih hh.dropLast
  | missing henters => exact hh.snoc henters
  | kept _ henters => exact hh.snoc henters
  | @link k here q name target rest _ _ _ _ ih =>
    refine ih ?_
    unfold linkBase
    split
    · exact d.straight_nil
    · exact hh
  | step henters _ _ _ ih => exact ih (hh.snoc henters)

theorem Straight.leads (h : d.Straight p) (hp : ∀ target, d.get? p ≠ some (.link target)) :
    d.Leads true 0 [] p p := by
  induction p using List.reverseRecOn with
  | nil => exact .stop
  | append_singleton init name ih =>
    have henters : d.Enters init name := h init name [] rfl
    have hinit : d.Straight init := by simpa using h.dropLast
    have hleads := ih hinit (by simp [henters.dir])
    have hlast : d.Leads true 0 init [name] (init ++ [name]) := by
      cases he : d.get? (init ++ [name]) with
      | none => exact .missing henters he
      | some e => exact .step henters he (fun target ht => hp target (by rw [he, ht])) .stop
    exact hleads.append (List.cons_ne_nil _ _) hlast

/-- The names of the place to which a way leads are from where it starts, its own, or those of links. -/
theorem Leads.forall_mem {P : String → Prop} (h : d.Leads follow k here names q)
    (hlink : ∀ p target, d.get? p = some (.link target) → ∀ name ∈ namesOf target, P name)
    (hn : ∀ name ∈ names, P name) (hh : ∀ name ∈ here, P name) : ∀ name ∈ q, P name := by
  have hsnoc : ∀ {here : Place} {name : String}, (∀ n ∈ here, P n) → P name →
      ∀ n ∈ here ++ [name], P n := fun hh hname n hm => by
    rcases List.mem_append.1 hm with hm | hm
    · exact hh n hm
    · rwa [List.mem_singleton.1 hm]
  induction h with
  | stop => exact hh
  | dot _ _ ih => exact ih (fun n hm => hn n (List.mem_cons_of_mem _ hm)) hh
  | up _ _ ih =>
    exact ih (fun n hm => hn n (List.mem_cons_of_mem _ hm))
      fun n hm => hh n (List.dropLast_subset _ hm)
  | missing => exact hsnoc hh (hn _ List.mem_cons_self)
  | kept => exact hsnoc hh (hn _ List.mem_cons_self)
  | @link k here q name target rest _ _ hl _ ih =>
    refine ih (fun n hm => ?_) fun n hm => ?_
    · rcases List.mem_append.1 hm with hm | hm
      · exact hlink _ _ hl n hm
      · exact hn n (List.mem_cons_of_mem _ hm)
    · unfold linkBase at hm
      split at hm
      · cases hm
      · exact hh n hm
  | step _ _ _ _ ih =>
    exact ih (fun n hm => hn n (List.mem_cons_of_mem _ hm)) (hsnoc hh (hn _ List.mem_cons_self))

/-- Names that are made of pieces lead to places that are. -/
theorem Leads.isPiece (h : d.Leads follow k here names q)
    (hn : ∀ name ∈ names, Path.IsPiece name) (hh : ∀ name ∈ here, Path.IsPiece name) :
    ∀ name ∈ q, Path.IsPiece name :=
  h.forall_mem (fun _ _ _ _ => isPiece_of_mem_namesOf) hn hh

/-- The path leads straight to a file, through directories alone, and the file holds these bytes. -/
def FileAt (d : Disk) (path : String) (bs : Bytes) : Prop :=
  ∃ p : Place, (∀ name ∈ p, Path.IsPiece name) ∧ path = Path.ofNames p ∧
    d.walk true 0 [] p = .ok (p, some (.file bs))

theorem Straight.fileAt (h : d.Straight p) (hpieces : ∀ name ∈ p, Path.IsPiece name)
    (hfile : d.get? p = some (.file bs)) : d.FileAt (Path.ofNames p) bs := by
  have hleads : d.Leads true 0 [] p p := h.leads (by simp [hfile])
  exact ⟨p, hpieces, rfl, by rw [hleads.walk (Nat.le_refl 0), hfile]⟩

/-- The canonical path of a file leads straight to it. -/
theorem fileAt_canonical {c : String} (h : d.canonical path = .ok c)
    (hbs : d.content path = .ok bs) : d.FileAt c bs := by
  obtain ⟨q, e, hfind, rfl⟩ := canonical_eq_ok_iff.1 h
  obtain ⟨q', hfind'⟩ := content_eq_ok_iff.1 hbs
  obtain ⟨rfl, rfl⟩ : q' = q ∧ e = .file bs := by simpa [hfind, eq_comm] using hfind'.symm
  obtain ⟨-, ⟨k, -, hleads⟩, hq⟩ := find_eq_ok_iff.1 hfind
  exact (hleads.straight d.straight_nil).fileAt
    (hleads.isPiece (fun n hn => isPiece_of_mem_namesOf hn) nofun) hq

/-- What is at a path by its canonical path can be read there, if the path can be used at all. -/
theorem FileAt.content (h : d.FileAt path bs) (hpath : Usable path) :
    d.content path = .ok bs := by
  obtain ⟨p, hpieces, rfl, hwalk⟩ := h
  obtain ⟨k, hk, hleads, hp⟩ := walk_eq_ok_iff.1 hwalk
  have hne : p ≠ [] := by
    rintro rfl
    cases hp
  refine content_eq_ok_iff.2 ⟨p, find_eq_ok_iff.2 ⟨hpath, ⟨k, Nat.le_trans hk (Nat.zero_le _), ?_⟩,
    hp⟩⟩
  rwa [namesOf_ofNames hne hpieces]

end ClipRelay.Disk
