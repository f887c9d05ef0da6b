import ClipRelay.Proofs.Clip.Cache
import ClipRelay.Proofs.Clip.Names
import ClipRelay.Proofs.Clip.Windows

/-!
# Entries of the cache

What the name of a clip says about its source and window.

* `cacheName_eq_iff`: clips have one name exactly when they have the same stem, hash and extension and
  their bounds have the same texts.
* `Trim.shared_entry_iff`: so clips of different sources share an entry only if the hashes of their
  paths collide, and an entry lies in the directory of the cache itself.
* `Trim.equal_windows_share_iff`: windows that are equal numbers share their entries unless they start
  at zeros of different signs.
* `Trim.cut_again_from_negative_zero`: windows that do not.
-/

namespace ClipRelay

open Text

/-! ## The parts of a name -/

namespace CacheName

theorem length_digest (message : Bytes) : (Sha256.digest message).length = 32 := by
  simp [Sha256.digest, Sha256.bigEndian]

theorem length_hashOf (source : String) : (hashOf source).length = 8 := by
  have hlen : ((Sha256.digest (bytesOf source)).take 4).length = 4 := by
    rw [List.length_take, length_digest]
    rfl
  have hhex : ∀ bs : Bytes, (Sha256.hex bs).length = 2 * bs.length := fun bs => by
    simp [Sha256.hex, Nat.mul_comm]
  rw [hashOf, hhex, hlen]

end CacheName

open CacheName

theorem toList_cacheName (source : String) (w : TrimWindow) :
    (cacheName source w).toList =
      (stemOf source).toList ++ '_' :: (hashOf source).toList ++ '_' :: (w.start.fixed 2).toList ++
        '_' :: (w.stop.fixed 2).toList ++ '.' :: (extensionOf source).toList := by
  simp [cacheName]

/-- A name is taken apart from its end: no dot stands in the extension, and no underscore in the
bounds and in the hash, whatever the stem holds. -/
theorem cacheName_eq_iff {p q : String} {v w : TrimWindow} :
    cacheName p v = cacheName q w ↔
      stemOf p = stemOf q ∧ hashOf p = hashOf q ∧ v.start.fixed 2 = w.start.fixed 2 ∧
        v.stop.fixed 2 = w.stop.fixed 2 ∧ extensionOf p = extensionOf q := by
  constructor
  · intro h
    have hchars := congrArg String.toList h
    rw [toList_cacheName, toList_cacheName] at hchars
    obtain ⟨hfront, hext⟩ :=
      append_cons_inj_of_notMem (dot_notMem_extensionOf p) (dot_notMem_extensionOf q) hchars
    obtain ⟨hfront, hstop⟩ :=
      append_cons_inj_of_notMem (notMem_fixed 2 v.stop).2 (notMem_fixed 2 w.stop).2 hfront
    obtain ⟨hfront, hstart⟩ :=
      append_cons_inj_of_notMem (notMem_fixed 2 v.start).2 (notMem_fixed 2 w.start).2 hfront
    obtain ⟨hstem, hhash⟩ :=
      append_cons_inj_of_notMem (notMem_hashOf p).2 (notMem_hashOf q).2 hfront
    simp only [String.toList_inj] at hext hstop hstart hstem hhash
    exact ⟨hstem, hhash, hstart, hstop, hext⟩
  · rintro ⟨hstem, hhash, hstart, hstop, hext⟩
    rw [cacheName, cacheName, hstem, hhash, hstart, hstop, hext]

namespace Trim

theorem target_planOf (dir source : String) (w : TrimWindow) :
    (planOf dir source w).target = Path.join dir (cacheName source w) := by
  rw [planOf]

/-- Clips share an entry of a cache exactly when they have one name, and that exactly when the stem,
the hash, the extension and the texts of both bounds are the same, whatever the stems hold. So the
paths of different sources that share an entry have the same first eight digits of their hashes. The
entry lies in the directory of the cache itself. -/
theorem shared_entry_iff (dir p q : String) (v w : TrimWindow) :
    ((planOf dir p v).target = (planOf dir q w).target ↔ cacheName p v = cacheName q w) ∧
      (cacheName p v = cacheName q w ↔
        stemOf p = stemOf q ∧ hashOf p = hashOf q ∧ v.start.fixed 2 = w.start.fixed 2 ∧
          v.stop.fixed 2 = w.stop.fixed 2 ∧ extensionOf p = extensionOf q) ∧
      (hashOf p).length = 8 ∧ (hashOf p).toList ⊆ "0123456789abcdef".toList ∧
      Path.IsName (cacheName p v) ∧
      Disk.namesOf (planOf dir p v).target = Disk.dirNames dir ++ [cacheName p v] := by
  have hname := isName_cacheName p v
  rw [target_planOf, target_planOf]
  refine ⟨⟨fun h => ?_, fun h => ?_⟩, cacheName_eq_iff, length_hashOf p, hashOf_subset p, hname,
    Disk.namesOf_join dir hname.toIsPiece⟩
  · exact Path.join_injective hname.toIsPiece (isName_cacheName q w).toIsPiece h
  · rw [h]

end Trim

/-! ## Equal windows -/

namespace TrimWindow

variable {v w : TrimWindow} {negative negative' late late' : Bool}

theorem Made.isDecimal_start (h : Made negative late w) : IsDecimal negative 2 (w.start.fixed 2) := by
  obtain ⟨u, hu, hstart, -⟩ := h.start_spec
  rw [hstart]
  exact Double.isDecimal_fixed rfl (by decide)

theorem Made.stop_eq_of_eq (hv : Made negative late v) (hw : Made negative' late' w)
    (h : v.stop.eq w.stop = true) : v.stop = w.stop := by
  cases hv with
  | ends =>
    cases hw with
    | ends =>
      obtain rfl := Int.ofNat.inj (Double.signed_eq_of_eq h)
      rfl
    | endless => cases h
  | endless =>
    cases hw with
    | ends => cases h
    | endless => rfl

/-- Equal windows are the same, or they start at different zeros. -/
theorem Made.eq_or_zero (hv : Made negative late v) (hw : Made negative' late' w)
    (h : v.eq w = true) :
    (negative = negative' → v = w) ∧
      (negative ≠ negative' → v.start.amount = 0 ∧ w.start.amount = 0) := by
  obtain ⟨hstart, hstop⟩ := Bool.and_eq_true_iff.1 h
  have hends := hv.stop_eq_of_eq hw hstop
  obtain ⟨u, hu, hvstart, hzero⟩ := hv.start_spec
  obtain ⟨u', hu', hwstart, hzero'⟩ := hw.start_spec
  rw [hvstart, hwstart] at hstart ⊢
  have hunits := Double.signed_eq_of_eq hstart
  rw [Double.signed_of_zero hzero, Double.signed_of_zero hzero'] at hunits
  obtain rfl := Int.ofNat.inj hunits
  constructor
  · rintro rfl
    have hstarts : v.start = w.start := hvstart.trans hwstart.symm
    cases v
    cases w
    rw [TrimWindow.mk.injEq]
    exact ⟨hstarts, hends⟩
  · intro hsign
    have hu0 : u = 0 := by
      cases negative with
      | true => exact hzero rfl
      | false =>
        cases negative' with
        | true => exact hzero' rfl
        | false => exact absurd rfl hsign
    rw [Double.amount, Double.amount, Double.signed_of_zero hzero, Double.signed_of_zero hzero', hu0]
    exact ⟨rfl, rfl⟩

end TrimWindow

namespace Trim

open TrimWindow

/-- A clip that a run has handed over is found again, as long as it is kept. -/
theorem run_found_again {e : Encoder} {dir source c path : String} {window : TrimWindow}
    {w₀ w₁ w₂ : World} (he : e.Honest) (hrun : (run dir e source window).run w₀ = (.ok path, w₁))
    (hc : w₀.disk.canonical source = .ok c) (hclear : PathClear dir path w₀.disk)
    (hsteps : Relation.ReflTransGen (Step dir path) w₁ w₂) (e' : Encoder) {source' : String}
    (hc' : w₂.disk.canonical source' = .ok c) :
    (run dir e' source' window).run w₂ = (.ok path, w₂) := by
  have hfile : path = (planOf dir c window).target ∧ w₁.disk.isFile path = true := by
    rcases run_cases he dir source window w₀ with
      ⟨f, w, hw, -⟩ | ⟨c₁, hc₁, ⟨hfile, hw⟩ | ⟨-, fps, working, bs, w, hw, hcut⟩⟩
    · cases (Prod.mk.inj (hrun.symm.trans hw)).1
    · obtain ⟨hok, rfl⟩ := Prod.mk.inj (hrun.symm.trans hw)
      obtain rfl := Except.ok.inj (hc.symm.trans hc₁)
      have hpath := Except.ok.inj hok
      exact ⟨hpath, hpath ▸ hfile⟩
    · obtain ⟨hok, rfl⟩ := Prod.mk.inj (hrun.symm.trans hw)
      obtain rfl := Except.ok.inj (hc.symm.trans hc₁)
      have hpath := Except.ok.inj hok
      rw [hpath] at hclear ⊢
      exact ⟨rfl, (hcut.isFile he hclear).1⟩
  obtain ⟨hpath, hfile⟩ := hfile
  have hkept := isFile_of_steps hsteps hfile
  rw [hpath] at hkept ⊢
  exact run_of_isFile e' hc' hkept

/-- Two accepted windows that are equal numbers give every source one name, or else one of them starts
at a zero with a minus and the other at one without, since the starts that were asked for have
different signs. Windows with one name are the same, so what a run has cut for one of them is found
for the other, whatever its encoder does, and nothing changes, as long as the clip is kept. -/
theorem equal_windows_share_iff (source : String) (start stop start' stop' : Double)
    (v w : TrimWindow) (hv : make start stop = .ok v) (hw : make start' stop' = .ok w)
    (heq : v.eq w = true) :
    (cacheName source v = cacheName source w ↔ start.isNegative = start'.isNegative) ∧
      (start.isNegative ≠ start'.isNegative → v.start.amount = 0 ∧ w.start.amount = 0) ∧
      (start.isNegative = start'.isNegative → v = w ∧
        ∀ (e : Encoder) dir name path w₀ w₁, e.Honest →
          w₀.disk.canonical name = .ok source →
          (run dir e name v).run w₀ = (.ok path, w₁) → PathClear dir path w₀.disk →
          ∀ w₂, Relation.ReflTransGen (Step dir path) w₁ w₂ →
            ∀ (e' : Encoder) name', w₂.disk.canonical name' = .ok source →
              (run dir e' name' w).run w₂ = (.ok path, w₂)) := by
  have hmade := made_of_make hv
  have hmade' := made_of_make hw
  obtain ⟨hsame, hzeros⟩ := hmade.eq_or_zero hmade' heq
  refine ⟨⟨fun hname => ?_, fun hsign => ?_⟩, hzeros, fun hsign => ?_⟩
  · -- The text of a start tells its sign.
    have htext := (cacheName_eq_iff.1 hname).2.2.1
    have hdecimal := hmade.isDecimal_start
    rw [htext] at hdecimal
    exact hdecimal.isNegative_unique hmade'.isDecimal_start
  · rw [hsame hsign]
  · obtain rfl := hsame hsign
    exact ⟨rfl, fun e dir name path w₀ w₁ he hc hrun hclear w₂ hsteps e' name' hc' =>
      run_found_again he hrun hc hclear hsteps e' hc'⟩

/-- Bounds that are rounded to the same hundredths: the clip that is cut for the first ones is there
for the others, and for a link to the source. -/
theorem equal_windows_share_sample :
    make 0 1 = .ok sampleWindow ∧ make (.ofPlaces 4 3) (.ofPlaces 1004 3) = .ok sampleWindow ∧
      ∃ w', (sampleRun "a.mp4").run (worldOf sampleDisk) = (.ok clipOfA, w') ∧
        ∀ e', (run "cache" e' "b.mp4" sampleWindow).run w' = (.ok clipOfA, w') := by
  have hmake : make 0 1 = .ok sampleWindow := by decide +kernel
  have hmake' : make (.ofPlaces 4 3) (.ofPlaces 1004 3) = .ok sampleWindow := by decide +kernel
  obtain ⟨-, -, hshare⟩ := equal_windows_share_iff "/a.mp4" 0 1 (.ofPlaces 4 3) (.ofPlaces 1004 3)
    sampleWindow sampleWindow hmake hmake' (by decide +kernel)
  obtain ⟨-, hfound⟩ := hshare (by decide +kernel)
  exact ⟨hmake, hmake', _, sampleRun_run, fun e' => hfound sampleEncoder "cache" "a.mp4" clipOfA _ _
    (Encoder.honest_rehearsal _ _) canonical_sampleDisk sampleRun_run pathClear_sample _ .refl e'
    "b.mp4" (by decide +kernel)⟩

/-- The window of the sample from the other zero on. -/
def negativeWindow : TrimWindow := ⟨.neg 0, 1⟩

/-- A thousandth of a second before zero is rounded to zero, so the window is accepted and is equal to
that from zero on. Yet it has another name, and its clip is cut again. -/
theorem cut_again_from_negative_zero :
    (¬ ∀ (source : String) (start stop start' stop' : Double) (v w : TrimWindow),
      make start stop = .ok v → make start' stop' = .ok w → v.eq w = true →
        cacheName source v = cacheName source w) ∧
      ((sampleRun "a.mp4" >>= fun _ => run "cache" sampleEncoder "a.mp4" negativeWindow).run
        (worldOf sampleDisk)).2.rehearsed.length = 4 := by
  refine ⟨fun h => ?_, by decide +kernel⟩
  have hmake : make 0 1 = .ok sampleWindow := by decide +kernel
  have hmake' : make (.neg (.ofPlaces 1 3)) 1 = .ok negativeWindow := by decide +kernel
  have hname := h "/a.mp4" 0 1 (.neg (.ofPlaces 1 3)) 1 sampleWindow negativeWindow hmake hmake'
    (by decide +kernel)
  exact absurd hname (by decide +kernel)

end Trim

end ClipRelay
