import ClipRelay.Disk
import Mathlib.Data.List.Basic

/-!
# Where paths lead

`Disk.Leads` is the walk along a path as a relation, with the exact number of links on the way.

* `Disk.walk_eq_ok_iff`: it is what `Disk.walk` computes.
* `Disk.Leads.unique`, `Disk.leads_append_iff`: a way ends at one place, and takes its names one
  after another.
* `Disk.Leads.of_sameWays`, `Disk.Leads.of_le`: ways survive changes of a disk that touch nothing a
  way can lead through.
* `Disk.Leads.erase_or_touches`: a way goes through a link, or does not need it.
-/

namespace ClipRelay.Disk

variable {d d' : Disk} {follow : Bool} {k k' : Nat} {here q q' : Place} {name target : String}
  {names rest : List String}

@[simp] theorem get?_nil (d : Disk) : d.get? [] = some .dir := rfl

/-- The name leads from a directory to what stands below it. -/
structure Enters (d : Disk) (here : Place) (name : String) : Prop where
  dir : d.get? here = some .dir
  ne_dot : name ≠ "."
  ne_up : name ≠ ".."
  short : name.utf8ByteSize ≤ maxName

/-- Where the path of a link starts that stands in a directory. -/
def linkBase (here : Place) (target : String) : Place := if Path.isAbsolute target then [] else here

/-- The names lead from one place to another through so many links. -/
inductive Leads (d : Disk) (follow : Bool) : Nat → Place → List String → Place → Prop
  | stop {here : Place} : Leads d follow 0 here [] here
  | dot {k : Nat} {here q : Place} {rest : List String} :
    d.get? here = some .dir → Leads d follow k here rest q → Leads d follow k here ("." :: rest) q
  | up {k : Nat} {here q : Place} {rest : List String} :
    d.get? here = some .dir → Leads d follow k here.dropLast rest q →
    Leads d follow k here (".." :: rest) q
  /-- Nothing stands under the last name. -/
  | missing {here : Place} {name : String} :
    d.Enters here name → d.get? (here ++ [name]) = none →
    Leads d follow 0 here [name] (here ++ [name])
  /-- Under the last name stands a link, which is not followed. -/
  | kept {here : Place} {name target : String} :
    follow = false → d.Enters here name → d.get? (here ++ [name]) = some (.link target) →
    Leads d follow 0 here [name] (here ++ [name])
  | link {k : Nat} {here q : Place} {name target : String} {rest : List String} :
    follow = true ∨ rest ≠ [] → d.Enters here name →
    d.get? (here ++ [name]) = some (.link target) →
    Leads d follow k (linkBase here target) (namesOf target ++ rest) q →
    Leads d follow (k + 1) here (name :: rest) q
  | step {k : Nat} {here q : Place} {name : String} {rest : List String} {e : Entry} :
    d.Enters here name → d.get? (here ++ [name]) = some e → (∀ target, e ≠ .link target) →
    Leads d follow k (here ++ [name]) rest q → Leads d follow k here (name :: rest) q

/-! ## The walk -/

/-- What a walk does at a link, with so many links left. -/
def onLink (d : Disk) (follow : Bool) :
    Nat → Place → List String → Except IoFault (Place × Option Entry)
  | 0 => fun _ _ => .error .tooManyLinks
  | links + 1 => d.walk follow links

theorem walk_eq_walkNames (d : Disk) (follow : Bool) (n : Nat) (here : Place) (names : List String) :
    d.walk follow n here names = d.walkNames follow (d.onLink follow n) here names := by
  cases n <;> rfl

theorem walkNames_cons (d : Disk) (follow : Bool)
    (onLink : Place → List String → Except IoFault (Place × Option Entry)) (here : Place)
    (name : String) (rest : List String) (h : d.Enters here name) :
    d.walkNames follow onLink here (name :: rest) =
      match d.get? (here ++ [name]) with
      | none => if rest = [] then .ok (here ++ [name], none) else .error .notFound
      | some (.link target) =>
        if rest = [] ∧ !follow then .ok (here ++ [name], some (.link target))
        else onLink (linkBase here target) (namesOf target ++ rest)
      | some _ => d.walkNames follow onLink (here ++ [name]) rest := by
  simp only [walkNames, h.dir, h.ne_dot, h.ne_up, Nat.not_lt.2 h.short, ne_eq, not_true_eq_false,
    if_false]
  rfl

theorem Leads.walk (h : d.Leads follow k here names q) {n : Nat} (hn : k ≤ n) :
    d.walk follow n here names = .ok (q, d.get? q) := by
  induction h generalizing n with
  | stop => rw [walk_eq_walkNames, walkNames]
  | dot hdir _ ih => rw [← ih hn, walk_eq_walkNames, walk_eq_walkNames, walkNames, hdir]; simp
  | up hdir _ ih => rw [← ih hn, walk_eq_walkNames, walk_eq_walkNames, walkNames, hdir]; simp
  | missing henters hq => rw [walk_eq_walkNames, walkNames_cons _ _ _ _ _ _ henters, hq]; rfl
  | kept hfollow henters hq =>
    rw [walk_eq_walkNames, walkNames_cons _ _ _ _ _ _ henters, hq]
    simp [hfollow]
  | @link k here q name target rest hfollow henters hlink _ ih =>
    obtain ⟨n, rfl⟩ : ∃ m, n = m + 1 := ⟨n - 1, by omega⟩
    have hgoes : ¬ (rest = [] ∧ (!follow) = true) := by
      rintro ⟨h₁, h₂⟩
      rcases hfollow with hf | hr
      · simp [hf] at h₂
      · exact hr h₁
    rw [walk_eq_walkNames, walkNames_cons _ _ _ _ _ _ henters, hlink]
    simp only [hgoes, if_false]
    exact ih (Nat.le_of_succ_le_succ hn)
  | @step k here q name rest e henters hq hnolink _ ih =>
    rw [← ih hn, walk_eq_walkNames, walk_eq_walkNames, walkNames_cons _ _ _ _ _ _ henters, hq]
    cases e with
    | link target => exact absurd rfl (hnolink target)
    | file bs => rfl
    | dir => rfl

theorem leads_of_walkNames {n : Nat} {e : Option Entry}
    (links : ∀ start names q e, d.onLink follow n start names = .ok (q, e) →
      ∃ k, k + 1 ≤ n ∧ d.Leads follow k start names q ∧ d.get? q = e)
    (h : d.walkNames follow (d.onLink follow n) here names = .ok (q, e)) :
    ∃ k ≤ n, d.Leads follow k here names q ∧ d.get? q = e := by
  induction names generalizing here with
  | nil =>
    cases h
    exact ⟨0, Nat.zero_le n, .stop, rfl⟩
  | cons name rest ih =>
    by_cases hdir : d.get? here = some .dir
    · by_cases hdot : name = "."
      · subst hdot
        obtain ⟨k, hk, hleads, hq⟩ := ih (by simpa [walkNames, hdir] using h)
        exact ⟨k, hk, .dot hdir hleads, hq⟩
      by_cases hup : name = ".."
      · subst hup
        obtain ⟨k, hk, hleads, hq⟩ := ih (by simpa [walkNames, hdir] using h)
        exact ⟨k, hk, .up hdir hleads, hq⟩
      by_cases hlong : maxName < name.utf8ByteSize
      · simp [walkNames, hdir, hdot, hup, hlong] at h
      have henters : d.Enters here name := ⟨hdir, hdot, hup, Nat.not_lt.1 hlong⟩
      rw [walkNames_cons _ _ _ _ _ _ henters] at h
      cases hnext : d.get? (here ++ [name]) with
      | none =>
        simp only [hnext] at h
        split at h
        · rename_i hrest
          cases h
          rw [hrest]
          exact ⟨0, Nat.zero_le n, .missing henters hnext, hnext⟩
        · cases h
      | some e' =>
        cases e' with
        | link target =>
          simp only [hnext] at h
          split at h
          · rename_i hkept
            cases h
            rw [hkept.1]
            exact ⟨0, Nat.zero_le n, .kept (by simpa using hkept.2) henters hnext, hnext⟩
          · rename_i hgoes
            obtain ⟨k, hk, hleads, hq⟩ := links _ _ _ _ h
            refine ⟨k + 1, hk, .link ?_ henters hnext hleads, hq⟩
            cases follow <;> simp_all
        | file bs =>
          simp only [hnext] at h
          obtain ⟨k, hk, hleads, hq⟩ := ih h
          exact ⟨k, hk, .step henters hnext (fun _ => Entry.noConfusion) hleads, hq⟩
        | dir =>
          simp only [hnext] at h
          obtain ⟨k, hk, hleads, hq⟩ := ih h
          exact ⟨k, hk, .step henters hnext (fun _ => Entry.noConfusion) hleads, hq⟩
    · simp [walkNames, hdir] at h

/-- A walk finds the place to which the names lead, if it may go through enough links. -/
theorem walk_eq_ok_iff {n : Nat} {e : Option Entry} :
    d.walk follow n here names = .ok (q, e) ↔
      ∃ k ≤ n, d.Leads follow k here names q ∧ d.get? q = e := by
  constructor
  · intro h
    induction n generalizing here names q e with
    | zero =>
      refine leads_of_walkNames (fun _ _ _ _ hl => ?_) ((walk_eq_walkNames ..).symm.trans h)
      cases hl
    | succ n ih =>
      refine leads_of_walkNames (fun start names q e hl => ?_) ((walk_eq_walkNames ..).symm.trans h)
      obtain ⟨k, hk, hleads⟩ := ih hl
      exact ⟨k, Nat.succ_le_succ hk, hleads⟩
  · rintro ⟨k, hk, hleads, rfl⟩
    exact hleads.walk hk

/-! ## Names one after another -/

/-- Names lead to one place, and through one number of links. -/
theorem Leads.unique (h : d.Leads follow k here names q) (h' : d.Leads follow k' here names q') :
    k = k' ∧ q = q' := by
  induction h generalizing k' q' with
  | stop => cases h'; exact ⟨rfl, rfl⟩
  | dot hdir _ ih =>
    generalize hname : "." = name at h'
    cases h' with
    | dot _ h' => exact ih h'
    | up => exact absurd hname (by decide)
    | missing henters => exact absurd hname.symm henters.ne_dot
    | kept _ henters => exact absurd hname.symm henters.ne_dot
    | link _ henters => exact absurd hname.symm henters.ne_dot
    | step henters => exact absurd hname.symm henters.ne_dot
  | up hdir _ ih =>
    generalize hname : ".." = name at h'
    cases h' with
    | dot => exact absurd hname (by decide)
    | up _ h' => exact ih h'
    | missing henters => exact absurd hname.symm henters.ne_up
    | kept _ henters => exact absurd hname.symm henters.ne_up
    | link _ henters => exact absurd hname.symm henters.ne_up
    | step henters => exact absurd hname.symm henters.ne_up
  | missing henters hq =>
    cases h' with
    | dot => exact absurd rfl henters.ne_dot
    | up => exact absurd rfl henters.ne_up
    | missing => exact ⟨rfl, rfl⟩
    | kept => exact ⟨rfl, rfl⟩
    | link _ _ hlink => rw [hq] at hlink; cases hlink
    | step _ he => rw [hq] at he; cases he
  | kept hfollow henters hq =>
    cases h' with
    | dot => exact absurd rfl henters.ne_dot
    | up => exact absurd rfl henters.ne_up
    | missing => exact ⟨rfl, rfl⟩
    | kept => exact ⟨rfl, rfl⟩
    | link hfollow' => simp [hfollow] at hfollow'
    | step _ he hnolink => rw [hq] at he; cases he; exact absurd rfl (hnolink _)
  | link hfollow henters hlink _ ih =>
    cases h' with
    | dot => exact absurd rfl henters.ne_dot
    | up => exact absurd rfl henters.ne_up
    | missing _ hq => rw [hlink] at hq; cases hq
    | kept hfollow' => simp [hfollow'] at hfollow
    | link _ _ hlink' h' =>
      cases hlink.symm.trans hlink'
      exact (ih h').imp (congrArg Nat.succ) id
    | step _ he hnolink => rw [hlink] at he; cases he; exact absurd rfl (hnolink _)
  | step henters he hnolink _ ih =>
    cases h' with
    | dot => exact absurd rfl henters.ne_dot
    | up => exact absurd rfl henters.ne_up
    | missing _ hq => rw [he] at hq; cases hq
    | kept _ _ hlink => rw [he] at hlink; cases hlink; exact absurd rfl (hnolink _)
    | link _ _ hlink => rw [he] at hlink; cases hlink; exact absurd rfl (hnolink _)
    | step _ _ _ h' => exact ih h'

/-- Names lead on from a directory only. -/
theorem Leads.dir_of_ne_nil (h : d.Leads follow k here names q) (hn : names ≠ []) :
    d.get? here = some .dir := by
  cases h with
  | stop => exact absurd rfl hn
  | dot hdir => exact hdir
  | up hdir => exact hdir
  | missing henters => exact henters.dir
  | kept _ henters => exact henters.dir
  | link _ henters => exact henters.dir
  | step henters => exact henters.dir

theorem Leads.append (h : d.Leads true k here names q) (hr : rest ≠ [])
    (h' : d.Leads follow k' q rest q') : d.Leads follow (k + k') here (names ++ rest) q' := by
  induction h with
  | stop => simpa using h'
  | dot hdir _ ih => exact .dot hdir (ih h')
  | up hdir _ ih => exact .up hdir (ih h')
  | missing henters hq => rw [h'.dir_of_ne_nil hr] at hq; cases hq
  | kept hfollow => cases hfollow
  | link _ henters hlink _ ih =>
    rw [Nat.add_right_comm]
    refine .link (.inr (by simp [hr])) henters hlink ?_
    exact (List.append_assoc ..) ▸ ih h'
  | step henters he hnolink _ ih => exact .step henters he hnolink (ih h')

/-- Names are taken one after another; links are followed before the last name. -/
theorem leads_append_iff (hr : rest ≠ []) : d.Leads follow k here (names ++ rest) q' ↔
    ∃ k₁ k₂ q, k = k₁ + k₂ ∧ d.Leads true k₁ here names q ∧ d.Leads follow k₂ q rest q' := by
  constructor
  · intro h
    generalize hall : names ++ rest = all at h
    induction h generalizing names with
    | stop => simp [hr] at hall
    | @dot k here q' rest' hdir h ih =>
      cases names with
      | nil =>
        rw [List.nil_append] at hall
        subst hall
        exact ⟨0, k, here, (Nat.zero_add k).symm, .stop, .dot hdir h⟩
      | cons name names =>
        rw [List.cons_append] at hall
        obtain ⟨rfl, rfl⟩ := List.cons.inj hall
        obtain ⟨k₁, k₂, q, hk, h₁, h₂⟩ := ih rfl
        exact ⟨k₁, k₂, q, hk, .dot hdir h₁, h₂⟩
    | @up k here q' rest' hdir h ih =>
      cases names with
      | nil =>
        rw [List.nil_append] at hall
        subst hall
        exact ⟨0, k, here, (Nat.zero_add k).symm, .stop, .up hdir h⟩
      | cons name names =>
        rw [List.cons_append] at hall
        obtain ⟨rfl, rfl⟩ := List.cons.inj hall
        obtain ⟨k₁, k₂, q, hk, h₁, h₂⟩ := ih rfl
        exact ⟨k₁, k₂, q, hk, .up hdir h₁, h₂⟩
    | @missing here name henters hq =>
      obtain ⟨rfl, rfl⟩ : names = [] ∧ rest = [name] := by
        cases names <;> simp_all
      exact ⟨0, 0, here, rfl, .stop, .missing henters hq⟩
    | @kept here name target hfollow henters hq =>
      obtain ⟨rfl, rfl⟩ : names = [] ∧ rest = [name] := by
        cases names <;> simp_all
      exact ⟨0, 0, here, rfl, .stop, .kept hfollow henters hq⟩
    | @link k here q' name target rest' hfollow henters hlink h ih =>
      cases names with
      | nil =>
        rw [List.nil_append] at hall
        subst hall
        exact ⟨0, k + 1, here, (Nat.zero_add _).symm, .stop, .link hfollow henters hlink h⟩
      | cons name' names =>
        rw [List.cons_append] at hall
        obtain ⟨rfl, rfl⟩ := List.cons.inj hall
        obtain ⟨k₁, k₂, q, hk, h₁, h₂⟩ := ih (List.append_assoc ..)
        exact ⟨k₁ + 1, k₂, q, by omega, .link (.inl rfl) henters hlink h₁, h₂⟩
    | @step k here q' name rest' e henters he hnolink h ih =>
      cases names with
      | nil =>
        rw [List.nil_append] at hall
        subst hall
        exact ⟨0, k, here, (Nat.zero_add _).symm, .stop, .step henters he hnolink h⟩
      | cons name' names =>
        rw [List.cons_append] at hall
        obtain ⟨rfl, rfl⟩ := List.cons.inj hall
        obtain ⟨k₁, k₂, q, hk, h₁, h₂⟩ := ih rfl
        exact ⟨k₁, k₂, q, hk, .step henters he hnolink h₁, h₂⟩
  · rintro ⟨k₁, k₂, q, rfl, h₁, h₂⟩
    exact h₁.append hr h₂

/-! ## Changes that ways survive -/

/-- Nothing that a way can lead through. -/
def Closed : Option Entry → Prop
  | none | some (.file _) => True
  | some .dir | some (.link _) => False

/-- Two disks differ only where no way leads on in the first, and no link stands in the second. -/
def SameWays (d d' : Disk) : Prop :=
  ∀ r, d'.get? r = d.get? r ∨
    (Closed (d.get? r) ∧ ∀ target, d'.get? r ≠ some (.link target))

theorem Leads.of_sameWays (hs : SameWays d d') (h : d.Leads follow k here names q) :
    d'.Leads follow k here names q := by
  have hdir : ∀ {r}, d.get? r = some .dir → d'.get? r = some .dir := fun {r} hr => by
    rcases hs r with heq | ⟨hclosed, -⟩
    · rw [heq, hr]
    · rw [hr] at hclosed
      exact hclosed.elim
  have henter : ∀ {r nm}, d.Enters r nm → d'.Enters r nm := fun h => { h with dir := hdir h.dir }
  have hlinks : ∀ {r t}, d.get? r = some (.link t) → d'.get? r = some (.link t) := fun {r t} hr => by
    rcases hs r with heq | ⟨hclosed, -⟩
    · rw [heq, hr]
    · rw [hr] at hclosed
      exact hclosed.elim
  -- The last name leads to its place also when something else stands there now, but for a link.
  have hlast : ∀ {r nm}, d.Enters r nm → (∀ t, d'.get? (r ++ [nm]) ≠ some (.link t)) →
      d'.Leads follow 0 r [nm] (r ++ [nm]) := fun {r nm} he hnolink => by
    cases hnext : d'.get? (r ++ [nm]) with
    | none => exact .missing (henter he) hnext
    | some e => exact .step (henter he) hnext (fun t ht => hnolink t (by rw [hnext, ht])) .stop
  induction h with
  | stop => exact .stop
  | dot hd _ ih => exact .dot (hdir hd) ih
  | up hd _ ih => exact .up (hdir hd) ih
  | @missing here name henters hq =>
    rcases hs (here ++ [name]) with heq | ⟨-, hnolink⟩
    · exact .missing (henter henters) (heq.trans hq)
    · exact hlast henters hnolink
  | kept hfollow henters hq => exact .kept hfollow (henter henters) (hlinks hq)
  | link hfollow henters hlink _ ih => exact .link hfollow (henter henters) (hlinks hlink) ih
  | @step k here q name rest e henters he hnolink h ih =>
    rcases hs (here ++ [name]) with heq | ⟨hclosed, hnolink'⟩
    · exact .step (henter henters) (heq.trans he) hnolink ih
    · -- A file was there, so the name is the last one.
      rw [he] at hclosed
      cases rest with
      | nil =>
        cases h
        exact hlast henters hnolink'
      | cons name' rest =>
        have hdir' := h.dir_of_ne_nil (List.cons_ne_nil _ _)
        rw [he] at hdir'
        cases hdir'
        exact hclosed.elim

/-- A way to something is there on every disk that holds all that the first one does. -/
theorem Leads.of_le (hle : ∀ r e, d.get? r = some e → d'.get? r = some e)
    (h : d.Leads true k here names q) (hq : d.get? q ≠ none) : d'.Leads true k here names q := by
  have henter : ∀ {r nm}, d.Enters r nm → d'.Enters r nm :=
    fun h => { h with dir := hle _ _ h.dir }
  induction h with
  | stop => exact .stop
  | dot hd _ ih => exact .dot (hle _ _ hd) (ih hq)
  | up hd _ ih => exact .up (hle _ _ hd) (ih hq)
  | missing henters hnone => exact absurd hnone hq
  | kept hfollow => cases hfollow
  | link hfollow henters hlink _ ih => exact .link hfollow (henter henters) (hle _ _ hlink) (ih hq)
  | step henters he hnolink _ ih => exact .step (henter henters) (hle _ _ he) hnolink (ih hq)

/-- A way does not need a link, or goes through it and on along its path. -/
theorem Leads.erase_or_touches {o : Place} {nm : String}
    (hlink : d.get? (o ++ [nm]) = some (.link target)) (h : d.Leads true k here names q) :
    (d.erase (o ++ [nm])).Leads true k here names q ∨
      ∃ j < k, ∃ rest, d.Leads true j (linkBase o target) (namesOf target ++ rest) q := by
  have hget : ∀ {r}, d.get? r ≠ some (.link target) →
      (d.erase (o ++ [nm])).get? r = d.get? r := fun {r} hr => by
    rw [get?_erase _ (by simp), if_neg]
    rintro rfl
    exact hr hlink
  have henter : ∀ {r nm'}, d.Enters r nm' → (d.erase (o ++ [nm])).Enters r nm' :=
    fun h => { h with dir := (hget (by rw [h.dir]; exact nofun)).trans h.dir }
  induction h with
  | stop => exact .inl .stop
  | dot hd _ ih =>
    refine ih.imp (.dot ((hget ?_).trans hd)) id
    rw [hd]; exact nofun
  | up hd _ ih =>
    refine ih.imp (.up ((hget ?_).trans hd)) id
    rw [hd]; exact nofun
  | missing henters hq =>
    refine .inl (.missing (henter henters) ((hget ?_).trans hq))
    rw [hq]; exact nofun
  | kept hfollow => cases hfollow
  | @link k here q name target' rest hfollow henters hlink' h ih =>
    by_cases hr : here ++ [name] = o ++ [nm]
    · rw [hr, hlink] at hlink'
      cases hlink'
      obtain ⟨rfl, -⟩ := List.append_inj' hr rfl
      exact .inr ⟨k, Nat.lt_succ_self k, rest, h⟩
    · rcases ih with h' | ⟨j, hj, h'⟩
      · refine .inl (.link hfollow (henter henters) ?_ h')
        rw [get?_erase _ (by simp), if_neg hr, hlink']
      · exact .inr ⟨j, Nat.lt_succ_of_lt hj, h'⟩
  | step henters he hnolink _ ih =>
    refine ih.imp (.step (henter henters) ((hget ?_).trans he) hnolink) id
    rw [he]
    exact fun h => hnolink _ (Option.some.inj h)

/-- The path of a link does not lead through the link itself. -/
theorem Leads.erase_link {o : Place} {nm : String}
    (hlink : d.get? (o ++ [nm]) = some (.link target))
    (h : d.Leads true k (linkBase o target) (namesOf target) q) :
    (d.erase (o ++ [nm])).Leads true k (linkBase o target) (namesOf target) q := by
  refine (h.erase_or_touches hlink).resolve_right ?_
  rintro ⟨j, hj, rest, htouch⟩
  by_cases hr : rest = []
  · subst hr
    rw [List.append_nil] at htouch
    exact absurd (h.unique htouch).1 (by omega)
  · obtain ⟨k₁, k₂, m, rfl, h₁, -⟩ := (leads_append_iff hr).1 htouch
    exact absurd (h.unique h₁).1 (by omega)

end ClipRelay.Disk
