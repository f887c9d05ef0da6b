import ClipRelay.Disk
import ClipRelay.Proofs.Text.Split

/-!
# The names of a path

* `Disk.namesOf_join`: the names of a file in a directory are those of the directory and its own.
* `Disk.namesOf_ofNames`: the path of a place has the names of the place.
* `Disk.ancestors_of_ne_nil`: the ancestors of a path start with the path itself, without dots.
-/

namespace ClipRelay

open Text

/-- What may stand between two slashes. -/
structure Path.IsPiece (name : String) : Prop where
  ne_empty : name ≠ ""
  no_slash : '/' ∉ name.toList

/-- The name of a file or directory. -/
structure Path.IsName (name : String) : Prop extends Path.IsPiece name where
  ne_dot : name ≠ "."
  ne_up : name ≠ ".."

namespace Path

theorem pieces_append_slash (before after : List Char) :
    pieces (String.ofList (before ++ '/' :: after)) =
      pieces (String.ofList before) ++ pieces (String.ofList after) := by
  simp [pieces, splitOnChar_append]

theorem IsPiece.pieces_eq {name : String} (h : IsPiece name) : pieces name = [name.toList] := by
  simp [pieces, splitOnChar_of_notMem h.no_slash, h.ne_empty]

theorem isPiece_of_mem_pieces {path : String} {piece : List Char} (h : piece ∈ pieces path) :
    IsPiece (String.ofList piece) := by
  obtain ⟨hmem, hne⟩ := List.mem_filter.1 h
  refine ⟨fun he => ?_, ?_⟩
  · have hnil : piece = [] := by simpa using congrArg String.toList he
    simp [hnil] at hne
  · rw [String.toList_ofList]
    exact notMem_of_mem_splitOnChar hmem

/-- A name behind a directory is one more piece. -/
theorem pieces_join (dir : String) {name : String} (h : IsPiece name) :
    pieces (join dir name) = pieces dir ++ [name.toList] := by
  have habs : isAbsolute name = false := by
    rw [isAbsolute, startsWith, Bool.eq_false_iff]
    intro hpre
    exact h.no_slash ((List.isPrefixOf_iff_prefix.1 hpre).subset (by simp))
  rw [join, habs, Bool.false_or]
  by_cases hd : dir = ""
  · subst hd
    simp only [decide_true, if_true, h.pieces_eq]
    rfl
  · simp only [hd, decide_false, Bool.false_eq_true, if_false]
    by_cases he : endsWith dir "/"
    · simp only [he, if_true]
      obtain ⟨init, hinit⟩ := List.isSuffixOf_iff_suffix.1 he
      have hdir : dir = String.ofList (init ++ '/' :: []) := by
        rw [← String.ofList_toList (s := dir), ← hinit]
        rfl
      have hjoin : dir ++ name = String.ofList (init ++ '/' :: name.toList) := by
        rw [← String.ofList_toList (s := dir ++ name), String.toList_append, ← hinit]
        simp
      rw [hjoin, pieces_append_slash, String.ofList_toList, h.pieces_eq, hdir, pieces_append_slash]
      simp [pieces, splitOnChar]
    · simp only [he, if_false, Bool.false_eq_true]
      have hjoin : dir ++ "/" ++ name = String.ofList (dir.toList ++ '/' :: name.toList) := by
        rw [← String.ofList_toList (s := dir ++ "/" ++ name)]
        simp
      rw [hjoin, pieces_append_slash, String.ofList_toList, String.ofList_toList, h.pieces_eq]

/-- One name is behind the directory. -/
theorem join_injective {dir name name' : String} (h : IsPiece name) (h' : IsPiece name')
    (heq : join dir name = join dir name') : name = name' := by
  have hpieces := congrArg pieces heq
  rw [pieces_join dir h, pieces_join dir h'] at hpieces
  exact String.toList_inj.1 (List.singleton_inj.1 (List.append_cancel_left hpieces))

/-- Slashes in front of texts are slashes between them, and one in front. -/
theorem flatMap_slash {names : List String} (h : names ≠ []) :
    names.flatMap (fun name => '/' :: name.toList) =
      '/' :: ['/'].intercalate (names.map String.toList) := by
  induction names with
  | nil => exact absurd rfl h
  | cons name names ih =>
    cases names with
    | nil => simp
    | cons next names =>
      rw [List.flatMap_cons, ih (List.cons_ne_nil _ _)]
      simp [List.intercalate_cons_cons]

theorem toList_ofNames {names : List String} (h : names ≠ []) :
    (ofNames names).toList = '/' :: ['/'].intercalate (names.map String.toList) := by
  rw [← flatMap_slash h, ofNames, if_neg (by simpa using h), String.toList_join, List.flatMap_map]
  refine congrArg (List.flatMap · names) (funext fun name => ?_)
  simp

/-- Names with slashes between them are cut at the slashes. -/
theorem splitOnChar_names {names : List String} (hn : names ≠ [])
    (h : ∀ name ∈ names, IsPiece name) :
    (splitOnChar '/' (['/'].intercalate (names.map String.toList))).filter (!·.isEmpty) =
      names.map String.toList := by
  rw [splitOnChar_intercalate (by simpa using hn)]
  · refine List.filter_eq_self.2 fun piece hp => ?_
    obtain ⟨name, hname, rfl⟩ := List.mem_map.1 hp
    simpa using (h name hname).ne_empty
  · intro piece hp
    obtain ⟨name, hname, rfl⟩ := List.mem_map.1 hp
    exact (h name hname).no_slash

theorem pieces_ofNames {names : List String} (h : ∀ name ∈ names, IsPiece name) :
    pieces (ofNames names) = names.map String.toList := by
  by_cases hn : names = []
  · subst hn
    decide
  · rw [pieces, toList_ofNames hn, splitOnChar, if_pos rfl, List.filter_cons_of_neg (by simp),
      splitOnChar_names hn h]

theorem pieces_intercalate {names : List String} (h : ∀ name ∈ names, IsPiece name) :
    pieces ("/".intercalate names) = names.map String.toList := by
  by_cases hn : names = []
  · subst hn
    decide
  · rw [pieces, String.toList_intercalate]
    exact splitOnChar_names hn h

end Path

namespace Disk

theorem isPiece_of_mem_namesOf {path name : String} (h : name ∈ namesOf path) :
    Path.IsPiece name := by
  have hpieces : ∀ n ∈ (Path.pieces path).map String.ofList, Path.IsPiece n := fun n hn => by
    obtain ⟨piece, hp, rfl⟩ := List.mem_map.1 hn
    exact Path.isPiece_of_mem_pieces hp
  unfold namesOf at h
  split at h
  · rcases List.mem_append.1 h with h | h
    · exact hpieces _ h
    · obtain rfl := List.mem_singleton.1 h
      exact ⟨by decide, by decide⟩
  · exact hpieces _ h

/-- The names of a directory, whether or not a slash stands behind them. -/
def dirNames (dir : String) : List String := (Path.pieces dir).map String.ofList

theorem not_endsWith_slash {init : List Char} {name : String} (h : Path.IsPiece name) :
    endsWith (String.ofList (init ++ name.toList)) "/" = false := by
  rw [endsWith, Bool.eq_false_iff, String.toList_ofList]
  intro hs
  obtain ⟨before, hb⟩ := List.isSuffixOf_iff_suffix.1 hs
  have hne : name.toList ≠ [] := by simpa using h.ne_empty
  have hlast : name.toList.getLast hne = '/' := by
    have := congrArg List.getLast? hb
    simpa [List.getLast?_append, List.getLast?_eq_getLast_of_ne_nil hne] using this.symm
  exact h.no_slash (hlast ▸ List.getLast_mem hne)

/-- The names of a file in a directory. -/
theorem namesOf_join (dir : String) {name : String} (h : Path.IsPiece name) :
    namesOf (Path.join dir name) = dirNames dir ++ [name] := by
  have hend : endsWith (Path.join dir name) "/" = false := by
    obtain ⟨init, hinit⟩ : ∃ init, Path.join dir name = String.ofList (init ++ name.toList) := by
      unfold Path.join
      split
      · exact ⟨[], by simp⟩
      · split
        · exact ⟨dir.toList, by simp⟩
        · exact ⟨dir.toList ++ ['/'], by simp [String.append_assoc]⟩
    rw [hinit, not_endsWith_slash h]
  rw [namesOf, hend, Path.pieces_join dir h]
  simp [dirNames]

/-- Names with slashes between them, and maybe one in front, do not end with a slash. -/
theorem not_endsWith_slash_names (init : List Char) {names : List String} (hn : names ≠ [])
    (h : ∀ name ∈ names, Path.IsPiece name) :
    endsWith (String.ofList (init ++ ['/'].intercalate (names.map String.toList))) "/" = false := by
  induction names generalizing init with
  | nil => exact absurd rfl hn
  | cons name names ih =>
    cases names with
    | nil =>
      rw [List.map_singleton, List.intercalate_singleton]
      exact not_endsWith_slash (h name List.mem_cons_self)
    | cons next names =>
      rw [List.map_cons, List.map_cons, List.intercalate_cons_cons, ← List.map_cons,
        ← List.append_assoc]
      exact ih _ (List.cons_ne_nil _ _) fun n hn => h n (List.mem_cons_of_mem _ hn)

theorem ofList_toList_map (names : List String) :
    (names.map String.toList).map String.ofList = names := by
  simp [Function.comp_def]

theorem endsWith_ofNames {names : List String} (hn : names ≠ [])
    (h : ∀ name ∈ names, Path.IsPiece name) : endsWith (Path.ofNames names) "/" = false := by
  rw [← String.ofList_toList (s := Path.ofNames names), Path.toList_ofNames hn]
  exact not_endsWith_slash_names ['/'] hn h

theorem endsWith_intercalate {names : List String} (hn : names ≠ [])
    (h : ∀ name ∈ names, Path.IsPiece name) : endsWith ("/".intercalate names) "/" = false := by
  rw [← String.ofList_toList (s := "/".intercalate names), String.toList_intercalate]
  exact not_endsWith_slash_names [] hn h

/-- The names of the path of a place. -/
theorem namesOf_ofNames {names : List String} (hn : names ≠ [])
    (h : ∀ name ∈ names, Path.IsPiece name) : namesOf (Path.ofNames names) = names := by
  rw [namesOf, endsWith_ofNames hn h, Path.pieces_ofNames h, ofList_toList_map]
  rfl

/-! ## The path of a directory without dots -/

/-- The names that make a directory, or lead to one that is made. -/
def madeNames (dir : String) : List String := (dirNames dir).filter (· ≠ ".")

theorem madeNames_eq (dir : String) :
    madeNames dir = (Path.namedPieces dir).map String.ofList := by
  rw [madeNames, dirNames, List.filter_map, Path.namedPieces]
  refine congrArg _ (List.filter_congr fun piece _ => ?_)
  have hdot : String.ofList piece = "." ↔ piece = ['.'] := by
    rw [← String.toList_inj, String.toList_ofList]
    rfl
  by_cases h : piece = ['.'] <;> simp [hdot, h]

/-- The longest ancestor is the path itself, without dots and without a slash behind it. -/
theorem ancestors_of_ne_nil {dir : String} (h : madeNames dir ≠ []) :
    ∃ path parents, ancestors dir = path :: parents ∧ namesOf path = madeNames dir ∧
      endsWith path "/" = false := by
  have hpieces : ∀ name ∈ madeNames dir, Path.IsPiece name := fun name hname => by
    obtain ⟨piece, hp, rfl⟩ := List.mem_map.1 (List.mem_filter.1 hname).1
    exact Path.isPiece_of_mem_pieces hp
  obtain ⟨n, hlen⟩ : ∃ n, (madeNames dir).length = n + 1 :=
    Nat.exists_eq_succ_of_ne_zero (by simpa using h)
  have hrange : List.range (n + 1) = 0 :: (List.range n).map Nat.succ := List.range_succ_eq_map
  rw [ancestors, ← madeNames_eq]
  simp only [hlen, hrange, List.map_cons, Nat.sub_zero]
  refine ⟨_, _, rfl, ?_⟩
  rw [← hlen, List.take_length]
  split
  · exact ⟨namesOf_ofNames h hpieces, endsWith_ofNames h hpieces⟩
  · refine ⟨?_, endsWith_intercalate h hpieces⟩
    rw [namesOf, endsWith_intercalate h hpieces, Path.pieces_intercalate hpieces, ofList_toList_map]
    rfl

theorem ancestors_of_nil {dir : String} (h : madeNames dir = []) : ancestors dir = [] := by
  rw [ancestors, ← madeNames_eq, h]
  rfl

end Disk

end ClipRelay
