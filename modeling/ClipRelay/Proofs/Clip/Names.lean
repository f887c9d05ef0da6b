import ClipRelay.Clip.Cache
import ClipRelay.Proofs.Disk.Names
import ClipRelay.Proofs.Number.Fixed

/-!
# Names in the cache

* `isName_cacheName`: the name of a clip is that of a file, whatever its source and window.
* `Trim.isName_workingName`: so is that of a working file.
* `Trim.workingName_ne_cacheName`: no working file has the name of a clip, since there is an underscore
  in that.
-/

namespace ClipRelay

namespace CacheName

theorem extensionOf_mem (source : String) : extensionOf source ∈ keptExtensions := by
  unfold extensionOf
  split
  · split
    · rename_i h
      exact List.contains_iff_mem.1 h
    · decide
  · decide

/-- Neither slashes nor underscores stand in the extension of a clip. -/
theorem notMem_extensionOf (source : String) :
    '/' ∉ (extensionOf source).toList ∧ '_' ∉ (extensionOf source).toList := by
  have hkept : ∀ e ∈ keptExtensions, '/' ∉ e.toList ∧ '_' ∉ e.toList := by decide
  exact hkept _ (extensionOf_mem source)

theorem dot_notMem_extensionOf (source : String) : '.' ∉ (extensionOf source).toList := by
  have hkept : ∀ e ∈ keptExtensions, '.' ∉ e.toList := by decide
  exact hkept _ (extensionOf_mem source)

theorem splitName_fst_subset (name : List Char) : (Path.splitName name).1 ⊆ name := by
  unfold Path.splitName
  split
  · rename_i after before hcut
    split
    · exact List.Subset.refl _
    · intro c hc
      rw [← List.mem_reverse, (Text.cutAt?_eq_some_iff.1 hcut).1]
      exact List.mem_append_right _ (List.mem_cons_of_mem _ (List.mem_reverse.1 hc))
  · exact List.Subset.refl _

theorem slash_notMem_stemOf (source : String) : '/' ∉ (stemOf source).toList := by
  unfold stemOf Path.fileStem? Path.fileNameChars?
  cases hlast : (Path.namedPieces source).getLast? with
  | none => decide
  | some name =>
    have hpiece : '/' ∉ name := by
      have hmem := (List.mem_filter.1 (List.mem_of_getLast? hlast)).1
      simpa using (Path.isPiece_of_mem_pieces hmem).no_slash
    by_cases hup : name = ['.', '.']
    · simp only [hup, if_true]
      decide
    · simp only [hup, if_false, Option.map_some, Option.getD_some, String.toList_ofList]
      exact fun h => hpiece (splitName_fst_subset name h)

/-- The hash of a path is written with the digits of base sixteen. -/
theorem hashOf_subset (source : String) : (hashOf source).toList ⊆ "0123456789abcdef".toList := by
  have hdigit : ∀ i < 16, i.digitChar ∈ "0123456789abcdef".toList := by decide
  rw [hashOf, Sha256.hex, String.toList_ofList]
  intro c hc
  obtain ⟨b, -, hb⟩ := List.mem_flatMap.1 hc
  rcases List.mem_pair.1 hb with rfl | rfl
  · exact hdigit _ (Nat.div_lt_of_lt_mul b.toNat_lt)
  · exact hdigit _ (Nat.mod_lt _ (by decide))

/-- Neither slashes nor underscores stand in the hash of a path. -/
theorem notMem_hashOf (source : String) :
    '/' ∉ (hashOf source).toList ∧ '_' ∉ (hashOf source).toList :=
  ⟨fun h => absurd (hashOf_subset source h) (by decide),
    fun h => absurd (hashOf_subset source h) (by decide)⟩

/-- Neither slashes nor underscores stand in a bound. -/
theorem notMem_fixed (places : Nat) (x : Double) :
    '/' ∉ (x.fixed places).toList ∧ '_' ∉ (x.fixed places).toList :=
  ⟨x.notMem_fixed places (by decide) (by decide), x.notMem_fixed places (by decide) (by decide)⟩

/-- A path with a last name has the stem of that name. -/
theorem stemOf_ofNames {init : List String} {name : String}
    (hpieces : ∀ n ∈ init ++ [name], Path.IsPiece n) (hname : Path.IsName name) :
    stemOf (Path.ofNames (init ++ [name])) = String.ofList (Path.splitName name.toList).1 := by
  have hdot : (name.toList != ['.']) = true := by
    rw [bne_iff_ne]
    exact fun h => hname.ne_dot (String.toList_inj.1 h)
  have hup : name.toList ≠ ['.', '.'] := fun h => hname.ne_up (String.toList_inj.1 h)
  have hlast : Path.fileNameChars? (Path.ofNames (init ++ [name])) = some name.toList := by
    have hpieces : (Path.namedPieces (Path.ofNames (init ++ [name]))).getLast? = some name.toList := by
      simp [Path.namedPieces, Path.pieces_ofNames hpieces, hdot]
    rw [Path.fileNameChars?, hpieces]
    exact if_neg hup
  rw [stemOf, Path.fileStem?, hlast]
  rfl

end CacheName

open CacheName

theorem underscore_mem_cacheName (source : String) (w : TrimWindow) :
    '_' ∈ (cacheName source w).toList := by
  simp [cacheName]

theorem isName_cacheName (source : String) (w : TrimWindow) : Path.IsName (cacheName source w) := by
  have hne : ∀ {name : String}, '_' ∉ name.toList → cacheName source w ≠ name := fun h heq =>
    h (heq ▸ underscore_mem_cacheName source w)
  refine ⟨⟨hne (by decide), ?_⟩, hne (by decide), hne (by decide)⟩
  simp [cacheName, slash_notMem_stemOf, notMem_hashOf, notMem_fixed, notMem_extensionOf]

/-- The stem of a clip's name is longer than the stem of its source. -/
theorem cacheName_ne_last {init : List String} {name : String}
    (hpieces : ∀ n ∈ init ++ [name], Path.IsPiece n) (window : TrimWindow) :
    cacheName (Path.ofNames (init ++ [name])) window ≠ name := by
  intro heq
  have hname : Path.IsName name := heq ▸ isName_cacheName _ window
  have hstem := stemOf_ofNames hpieces hname
  generalize Path.ofNames (init ++ [name]) = source at heq hstem
  -- What stands before the last dot of the clip's name.
  obtain ⟨front, hfront⟩ : ∃ front : List Char, name.toList =
      ((stemOf source).toList ++ '_' :: front) ++ '.' :: (extensionOf source).toList := by
    rw [← heq, cacheName]
    exact ⟨(hashOf source).toList ++ '_' :: ((window.start.fixed 2).toList ++
      '_' :: (window.stop.fixed 2).toList), by simp⟩
  have hcut : Text.cutAt? '.' name.toList.reverse = some ((extensionOf source).toList.reverse,
      ((stemOf source).toList ++ '_' :: front).reverse) := by
    refine Text.cutAt?_eq_some_iff.2 ⟨by rw [hfront]; simp, ?_⟩
    rw [List.mem_reverse]
    exact dot_notMem_extensionOf source
  have hsplit : (Path.splitName name.toList).1 = (stemOf source).toList ++ '_' :: front := by
    unfold Path.splitName
    rw [hcut]
    simp
  rw [hsplit] at hstem
  have hlength := congrArg (fun text => text.toList.length) hstem
  simp at hlength

namespace Trim

/-- The name of a working file. -/
def workingName (source token : String) : String :=
  ".trim-" ++ String.ofList (token.toList.drop (World.tokenLength - workingLength)) ++ "." ++
    extensionOf source

theorem workingPath_eq (dir source token : String) :
    workingPath dir source token = Path.join dir (workingName source token) := rfl

section

variable {source token : String} {c : Char}

theorem notMem_workingName (h : c ∉ token.toList) (hc : c ∉ ".trim-.".toList)
    (hext : c ∉ (extensionOf source).toList) : c ∉ (workingName source token).toList := by
  have htoken : c ∉ token.toList.drop (World.tokenLength - workingLength) := fun hmem =>
    h (List.drop_subset _ _ hmem)
  have hlead : c ∉ ".trim-".toList ∧ c ∉ ".".toList := by
    simpa [and_assoc] using hc
  simp only [workingName, String.toList_append, String.toList_ofList, List.mem_append, not_or]
  exact ⟨⟨⟨hlead.1, htoken⟩, hlead.2⟩, hext⟩

theorem isName_workingName (h : '/' ∉ token.toList) : Path.IsName (workingName source token) := by
  have hlen : 2 < (workingName source token).toList.length := by
    simp [workingName]
  have hne : ∀ {name : String}, name.toList.length ≤ 2 → workingName source token ≠ name :=
    fun hshort heq => absurd (heq ▸ hlen) (Nat.not_lt.2 hshort)
  exact ⟨⟨hne (by decide), notMem_workingName h (by decide) (notMem_extensionOf source).1⟩,
    hne (by decide), hne (by decide)⟩

/-- A working file does not stand where a clip may. -/
theorem workingName_ne_cacheName (h : '_' ∉ token.toList) (source' : String) (w : TrimWindow) :
    workingName source token ≠ cacheName source' w := fun heq =>
  notMem_workingName h (by decide) (notMem_extensionOf source).2
    (heq ▸ underscore_mem_cacheName source' w)

end

end Trim

end ClipRelay
