import ClipRelay.Proofs.Url.Authority
import ClipRelay.Proofs.Url.Paths

/-!
# Addresses below an address

A text that is appended to an address is read along with it, and stays as it is when none of it means
something else in an address (`Url.IsLiteral`): what is sent to the host ends with the text, spelled as
paths and queries are (`Url.spelled`).

* `Url.spelled_inj`: no two texts without percent signs are spelled alike.
* `Url.read?_below`: what is read of an address with such a text behind a directory.
* `Url.exists_front`: so what is sent starts in the same way for all of them.
-/

namespace ClipRelay.Url

open Text

/-! ## Literal texts -/

/-- The text means itself at the end of an address: it holds no hash, no backslash and no tab or line
break, does not end with a control or a space, and no segment of it in front of the first question mark
is a dot or two dots. -/
structure IsLiteral (cs : List Char) : Prop where
  chars : ∀ c ∈ cs, c ≠ '#' ∧ c ≠ '\\' ∧ isBreak c = false
  last : ∀ c, cs.getLast? = some c → isEdge c = false
  segments : NoDots (splitOnChar '/' (cutOff '?' cs).1)

/-- The check for a text that means itself. -/
def isLiteral (cs : List Char) : Bool :=
  cs.all (fun c => c != '#' && c != '\\' && !isBreak c) && cs.getLast?.all (!isEdge ·) &&
    (splitOnChar '/' (cutOff '?' cs).1).all fun segment => !isDot segment && !isDoubleDot segment

theorem isLiteral_iff (cs : List Char) : isLiteral cs = true ↔ IsLiteral cs := by
  have hsegments : ((splitOnChar '/' (cutOff '?' cs).1).all fun segment =>
      !isDot segment && !isDoubleDot segment) = true ↔ NoDots (splitOnChar '/' (cutOff '?' cs).1) := by
    simp [NoDots]
  rw [isLiteral, Bool.and_eq_true, Bool.and_eq_true, hsegments]
  constructor
  · rintro ⟨⟨hchars, hlast⟩, hdots⟩
    exact ⟨by simpa [and_assoc] using hchars, fun c hc => by simpa [hc] using hlast, hdots⟩
  · rintro ⟨hchars, hlast, hdots⟩
    refine ⟨⟨by simpa [and_assoc] using hchars, ?_⟩, hdots⟩
    rw [Option.all_eq_true]
    exact fun c hc => by simp [hlast c hc]

instance (cs : List Char) : Decidable (IsLiteral cs) := decidable_of_iff _ (isLiteral_iff cs)

theorem isLiteral_nil : IsLiteral [] := by decide

namespace IsLiteral

variable {cs : List Char} {c : Char}

theorem notMem (h : IsLiteral cs) (hc : c = '#' ∨ c = '\\') : c ∉ cs := by
  intro hmem
  obtain ⟨hhash, hback, -⟩ := h.chars c hmem
  rcases hc with hc | hc
  · exact hhash hc
  · exact hback hc

theorem filter_isBreak (h : IsLiteral cs) : cs.filter (!isBreak ·) = cs := by
  refine List.filter_eq_self.2 fun c hc => ?_
  rw [(h.chars c hc).2.2]
  rfl

/-- Nothing is dropped from its end. -/
theorem dropEndWhile_isEdge (h : IsLiteral cs) : dropEndWhile isEdge cs = cs := by
  rcases List.eq_nil_or_concat cs with rfl | ⟨before, c, rfl⟩
  · rfl
  · rw [List.concat_eq_append, dropEndWhile_concat, h.last c (by simp)]
    rfl

end IsLiteral

/-- The text as it is written in a path, and in a query behind its first question mark. -/
def spelled (cs : List Char) : List Char :=
  encodeChars pathSet (cutOff '?' cs).1 ++ partChars '?' ((cutOff '?' cs).2.map (encodeChars querySet))

/-- Texts without percent signs are spelled in different ways: no question mark is left in a path. -/
theorem spelled_inj {cs ds : List Char} (hc : '%' ∉ cs) (hd : '%' ∉ ds) (h : spelled cs = spelled ds) :
    cs = ds := by
  have hquestion : ∀ es, '?' ∉ encodeChars pathSet es :=
    notMem_encodeChars (by decide) question_notMem_percentByte
  unfold spelled at h
  rcases cutOff_cases '?' cs with ⟨-, hcut⟩ | ⟨before, after, rfl, -, hcut⟩ <;>
    rcases cutOff_cases '?' ds with ⟨-, hcut'⟩ | ⟨before', after', rfl, -, hcut'⟩ <;>
      simp only [hcut, hcut', Option.map_none, Option.map_some, partChars, List.append_nil] at h
  · exact encodeChars_inj hc hd h
  · exact absurd (h ▸ List.mem_append_right _ List.mem_cons_self) (hquestion cs)
  · exact absurd (h ▸ List.mem_append_right _ List.mem_cons_self) (hquestion ds)
  · have hparts := congrArg (cutOff '?') h
    rw [cutOff_append_cons (hquestion before), cutOff_append_cons (hquestion before')] at hparts
    obtain ⟨hbefore, hafter⟩ := Prod.mk.inj hparts
    rw [List.mem_append, List.mem_cons, not_or, not_or] at hc hd
    rw [encodeChars_inj hc.1 hd.1 hbefore, encodeChars_inj hc.2.2 hd.2.2 (Option.some.inj hafter)]

theorem spelled_nil : spelled [] = [] := rfl

theorem spelled_ne_nil {cs : List Char} (hne : cs ≠ []) : spelled cs ≠ [] := by
  unfold spelled
  rcases cutOff_cases '?' cs with ⟨-, hcut⟩ | ⟨before, after, rfl, -, hcut⟩
  · rw [hcut]
    exact fun hnil => encodeChars_ne_nil pathSet hne (List.append_eq_nil_iff.1 hnil).1
  · rw [hcut]
    exact fun hnil => List.cons_ne_nil _ _ (List.append_eq_nil_iff.1 hnil).2

/-! ## Reading -/

/-- What stands behind the authority in what follows a scheme. -/
def behindAuthority (rest : List Char) : List Char :=
  (rest.dropWhile isSlash).dropWhile (!endsAuthority ·)

theorem dropWhile_isSlash_ne_nil {rest : List Char} (hne : authorityOf rest ≠ []) :
    rest.dropWhile isSlash ≠ [] := by
  intro hnil
  rw [authorityOf, hnil] at hne
  exact hne rfl

/-- An authority that a text has, it has when it goes on. -/
theorem authorityOf_append_ne_nil {rest : List Char} (hne : authorityOf rest ≠ []) (more : List Char) :
    authorityOf (rest ++ more) ≠ [] := by
  have hslash : (rest.dropWhile isSlash).isEmpty = false := by
    simpa using dropWhile_isSlash_ne_nil hne
  rw [authorityOf, List.dropWhile_append, if_neg (by simp [hslash]), List.takeWhile_append]
  split
  · exact fun hnil => dropWhile_isSlash_ne_nil hne (List.append_eq_nil_iff.1 hnil).1
  · exact hne

/-- A slash ends the authority; what stands behind it belongs to the path. -/
theorem authority_append {rest : List Char} (hne : authorityOf rest ≠ []) (after : List Char) :
    authorityOf (rest ++ '/' :: after) = authorityOf rest ∧
      behindAuthority (rest ++ '/' :: after) = behindAuthority rest ++ '/' :: after := by
  have hslash : (rest.dropWhile isSlash).isEmpty = false := by
    simpa using dropWhile_isSlash_ne_nil hne
  have hstop : ('/' :: after).dropWhile (!endsAuthority ·) = '/' :: after := rfl
  constructor
  · rcases authorityOf_append rest [] after (List.forall_mem_nil _) hne with h | h
    · exact h
    · exact h.trans (List.append_nil _)
  · rw [behindAuthority, List.dropWhile_append, if_neg (by simp [hslash]), List.dropWhile_append, hstop,
      behindAuthority]
    split
    · rename_i hnil
      rw [List.isEmpty_iff.1 hnil, List.nil_append]
    · rfl

/-- The segments of what stands behind the authority, a slash first. -/
def frontSegments : List Char → List (List Char)
  | [] => []
  | _ :: path => splitOnSlash path

theorem splitOnSlash_append (cs ds : List Char) :
    splitOnSlash (cs ++ '/' :: ds) = splitOnSlash cs ++ splitOnSlash ds := by
  rw [splitOnSlash, List.map_append, List.map_cons]
  exact splitOnChar_append _ _

/-- Without backslashes, slashes alone cut a path. -/
theorem splitOnSlash_eq {cs : List Char} (h : '\\' ∉ cs) : splitOnSlash cs = splitOnChar '/' cs := by
  rw [splitOnSlash]
  refine congrArg _ ((List.map_congr_left fun c hc => ?_).trans (List.map_id cs))
  have hback : c ≠ '\\' := fun heq => h (heq ▸ hc)
  by_cases hslash : c = '/'
  · rw [if_pos (by simp [isSlash, hslash]), hslash]
    rfl
  · rw [if_neg (by simp [isSlash, hslash, hback])]
    rfl

/-- The segments of a path that goes on with a directory and, in it, a text that means itself. -/
theorem segmentsOf_append (front : List Char) {dir cs : List Char} (hback : '\\' ∉ dir ++ '/' :: cs)
    (hdots : NoDots (splitOnChar '/' dir ++ splitOnChar '/' cs)) :
    segmentsOf (front ++ '/' :: (dir ++ '/' :: cs)) =
      ((frontSegments front).foldl enter []).reverse ++
        (splitOnChar '/' dir ++ splitOnChar '/' cs).map (encodeChars pathSet) := by
  have hlast : splitOnSlash (dir ++ '/' :: cs) = splitOnChar '/' dir ++ splitOnChar '/' cs := by
    rw [splitOnSlash_eq hback, splitOnChar_append]
  have hpieces : splitOnSlash (front ++ '/' :: (dir ++ '/' :: cs)).tail =
      frontSegments front ++ (splitOnChar '/' dir ++ splitOnChar '/' cs) := by
    cases front with
    | nil => exact hlast
    | cons c front =>
      rw [List.cons_append, List.tail_cons, splitOnSlash_append, hlast]
      rfl
  have hne : splitOnChar '/' dir ++ splitOnChar '/' cs ≠ [] := by
    simp [splitOnChar_ne_nil]
  rw [segmentsOf, hpieces, addSegments_append [] _ hne, addSegments_of_noDots _ hdots]

theorem mem_of_mem_cutOff {separator c : Char} {cs : List Char} (h : c ∈ (cutOff separator cs).1) :
    c ∈ cs := by
  rcases cutOff_cases separator cs with ⟨-, heq⟩ | ⟨before, after, rfl, -, heq⟩ <;> rw [heq] at h
  · exact h
  · exact List.mem_append_left _ h

theorem mem_of_mem_behindAuthority {c : Char} {rest : List Char} (h : c ∈ behindAuthority rest) :
    c ∈ rest :=
  List.dropWhile_sublist _ |>.subset (List.dropWhile_sublist _ |>.subset h)

/-- What is read of an address with a directory for the progress and, in it, a text that means itself. -/
theorem read?_below (s : Scheme) {rest cs : List Char}
    (hne : authorityOf (rest.filter (!isBreak ·)) ≠ []) (hquery : '?' ∉ rest) (hfragment : '#' ∉ rest)
    (h : IsLiteral cs) :
    read? ((s.name ++ "://").toList ++ (rest ++ '/' :: ("progress".toList ++ '/' :: cs))) =
      let core := rest.filter (!isBreak ·)
      let authority := splitPort false (dropUser (authorityOf core))
      (Host.read? authority.1).bind fun host => (portOf? s authority.2).map fun port =>
        ⟨s, host, port, ((frontSegments (behindAuthority core)).foldl enter []).reverse ++
          (["progress".toList] ++ splitOnChar '/' (cutOff '?' cs).1).map (encodeChars pathSet),
          (cutOff '?' cs).2.map (encodeChars querySet), none⟩ := by
  have hclean : clean ((s.name ++ "://").toList ++ (rest ++ '/' :: ("progress".toList ++ '/' :: cs))) =
      (s.name ++ "://").toList ++
        (rest.filter (!isBreak ·) ++ '/' :: ("progress".toList ++ '/' :: cs)) := by
    rw [clean_name, dropEndWhile_append_cons (by decide), dropEndWhile_append_cons (by decide),
      h.dropEndWhile_isEdge, List.filter_append, List.filter_cons_of_pos (by decide), List.filter_append,
      List.filter_cons_of_pos (by decide), h.filter_isBreak]
    rfl
  have hcore : ∀ c ∈ behindAuthority (rest.filter (!isBreak ·)), c ∈ rest := fun c hc =>
    (List.mem_filter.1 (mem_of_mem_behindAuthority hc)).1
  generalize rest.filter (!isBreak ·) = core at hne hclean hcore
  obtain ⟨hauthority, hbehind⟩ := authority_append hne ("progress".toList ++ '/' :: cs)
  have hhash : '#' ∉ behindAuthority core ++ '/' :: ("progress".toList ++ '/' :: cs) := by
    have hno : '#' ∉ behindAuthority core := fun hmem => hfragment (hcore _ hmem)
    simp [h.notMem (.inl rfl), hno]
  have hfront : '?' ∉ behindAuthority core ++ '/' :: ("progress".toList ++ ['/']) := by
    have hno : '?' ∉ behindAuthority core := fun hmem => hquery (hcore _ hmem)
    simp [hno]
  have hsplit : behindAuthority core ++ '/' :: ("progress".toList ++ '/' :: cs) =
      behindAuthority core ++ '/' :: ("progress".toList ++ ['/']) ++ cs := by
    simp
  have hcut : cutOff '?' (behindAuthority core ++ '/' :: ("progress".toList ++ '/' :: cs)) =
      (behindAuthority core ++ '/' :: ("progress".toList ++ '/' :: (cutOff '?' cs).1), (cutOff '?' cs).2) := by
    rw [hsplit, cutOff_append hfront]
    simp
  have hback : '\\' ∉ "progress".toList ++ '/' :: (cutOff '?' cs).1 := by
    have hno : '\\' ∉ (cutOff '?' cs).1 := fun hmem => h.notMem (.inr rfl) (mem_of_mem_cutOff hmem)
    simp [hno]
  have hprogress : splitOnChar '/' "progress".toList = ["progress".toList] := by decide
  have hdots : NoDots (splitOnChar '/' "progress".toList ++ splitOnChar '/' (cutOff '?' cs).1) := by
    rw [hprogress]
    intro t ht
    rcases List.mem_append.1 ht with ht | ht
    · obtain rfl := List.mem_singleton.1 ht
      decide
    · exact h.segments t ht
  have hslashes : ∀ l : List Char, ("//".toList ++ l).dropWhile isSlash = l.dropWhile isSlash := fun _ => rfl
  rw [authorityOf] at hauthority
  rw [behindAuthority] at hbehind
  rw [read?, hclean, splitScheme?_name]
  simp only [Option.bind_eq_bind, Option.bind_some, hslashes, hauthority, hbehind,
    cutOff_of_notMem hhash, hcut, segmentsOf_append _ hback hdots, hprogress]
  cases Host.read? (splitPort false (dropUser (authorityOf core))).1 with
  | none => rfl
  | some host => cases portOf? s (splitPort false (dropUser (authorityOf core))).2 <;> rfl

/-- What is sent to the host for all such addresses starts in the same way, ends with the text, and can be
read for all of them or for none. -/
theorem exists_front (s : Scheme) {rest : List Char}
    (hne : authorityOf (rest.filter (!isBreak ·)) ≠ []) (hquery : '?' ∉ rest) (hfragment : '#' ∉ rest) :
    let address := fun cs => (s.name ++ "://").toList ++ (rest ++ '/' :: ("progress".toList ++ '/' :: cs))
    ∃ front, ∀ cs u, IsLiteral cs → read? (address cs) = some u →
      u.targetChars = front ++ "/progress/".toList ++ spelled cs ∧
        ∀ ds, IsLiteral ds → ∃ v, read? (address ds) = some v := by
  intro address
  refine ⟨((frontSegments (behindAuthority (rest.filter (!isBreak ·)))).foldl enter []).reverse.flatMap
    ('/' :: ·), fun cs u hcs hu => ?_⟩
  have hread := read?_below s hne hquery hfragment hcs
  rw [hu] at hread
  obtain ⟨host, hhost, hmap⟩ := Option.bind_eq_some_iff.1 hread.symm
  obtain ⟨port, hport, rfl⟩ := Option.map_eq_some_iff.1 hmap
  constructor
  · have hprogress : (["progress".toList].map (encodeChars pathSet)).flatMap ('/' :: ·) =
        '/' :: "progress".toList := by decide +kernel
    rw [targetChars, pathChars, List.flatMap_append, List.map_append, List.flatMap_append, hprogress,
      flatMap_splitOnChar (by decide), spelled]
    simp
  · intro ds hds
    have hother := read?_below s hne hquery hfragment hds
    simp only [hhost, hport, Option.bind_some, Option.map_some] at hother
    exact ⟨_, hother⟩

end ClipRelay.Url
