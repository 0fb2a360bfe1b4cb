import LanternProject.Lantern.TexelCopies

/-! # What a saved record holds of the memory it was made in

`SaveData` makes as many colours as the texture has bytes, four times as many as it has pixels, and
fills a fourth of their bytes; the rest is what the heap held. Where the lantern has no texture it
leaves the size as the record found it. So a saved record depends on the level alone exactly if its
lantern has a texture without a pixel (`determined_recordOf_iff`), and what `SaveLanternArray` writes
exactly if that holds of every lantern (`fromState_iff`). -/

namespace LanternProject.Lantern.SavedResidue

open LanternProject.Lib.Residue LanternProject.Engine.Basic LanternProject.Engine.Str
open LanternProject.Save.LanternSaveGame
open LanternProject.Lantern.LanternActor LanternProject.Lantern.Texture
open LanternProject.Lantern.Level LanternProject.Lantern.LanternManager
open LanternProject.Lantern.SaveData (indexed setLanternArrayIndices setLanternArrayIndices_eq
  setLanternArrayIndices_ok exists_indexed length_indexed)
open LanternProject.Lantern.Texels LanternProject.Lantern.TexelCopies

variable {K : Type} {w : World K} {lanternArray : List ℕ}
  {g : ULanternSaveGame (FLanternData K)}

/-! ### Records -/

/-- The record of the lantern at a pointer. -/
def recordAt (w : World K) (residue : Residue) (n : ℕ) : Option (FLanternData K) :=
  (w.lanterns[n]?).map (recordOf w residue)

theorem recordAt_eq {n : ℕ} {l : ALanternActor K} (hl : w.lanterns[n]? = some l)
    (residue : Residue) : recordAt w residue n = some (recordOf w residue l) := by
  rw [recordAt, hl, Option.map_some]

theorem addLanternData_eq (residue : ℕ → Residue) :
    ∀ {ns : List ℕ} {i : ℕ} {g : ULanternSaveGame (FLanternData K)}, (∀ n ∈ ns, Saves w n) →
      ∃ records, records.map some = ns.mapIdx (fun k n => recordAt w (residue (i + k)) n) ∧
        addLanternData w residue i g ns =
          .ok (w, { g with lanternDataArray := g.lanternDataArray ++ records })
  | [], i, g, _ => ⟨[], rfl, by rw [addLanternData, List.append_nil]⟩
  | n :: ns, i, g, h => by
    have hn := h n List.mem_cons_self
    obtain ⟨l, -, hl, -⟩ := id hn
    obtain ⟨records, hrec, hrest⟩ := addLanternData_eq residue (i := i + 1)
      (g := { g with lanternDataArray := g.lanternDataArray ++ [recordOf w (residue i) l] })
      fun k hk => h k (List.mem_cons_of_mem _ hk)
    refine ⟨recordOf w (residue i) l :: records, ?_, ?_⟩
    · rw [List.map_cons, List.mapIdx_cons, hrec, recordAt_eq hl]
      simp only [Nat.add_zero, Nat.add_assoc, Nat.add_comm 1]
    · simp only [addLanternData, saveData_eq hl hn, bind, Except.bind, hrest, List.append_assoc,
        List.singleton_append]

theorem addLanternData_fails : ∀ {ns : List ℕ}, ¬ (∀ n ∈ ns, Saves w n) →
    ∃ e, ∀ residue i g, addLanternData w residue i g ns = .error e
  | [], h => absurd (fun n hn => absurd hn List.not_mem_nil) h
  | n :: ns, h => by
    by_cases hn : Saves w n
    · have hns : ¬ ∀ k ∈ ns, Saves w k := fun hns => h (List.forall_mem_cons.mpr ⟨hn, hns⟩)
      obtain ⟨e, he⟩ := addLanternData_fails hns
      obtain ⟨l, -, hl, -⟩ := id hn
      refine ⟨e, fun residue i g => ?_⟩
      simp only [addLanternData, saveData_eq hl hn, bind, Except.bind]
      exact he _ _ _
    · obtain ⟨e, -, he⟩ := saveData_fails hn
      refine ⟨e, fun residue i g => ?_⟩
      simp only [addLanternData, he, bind, Except.bind]

/-! ### The array -/

theorem saves_indexed (ns : List ℕ) (n : ℕ) :
    Saves (indexed lanternArray ns w) n ↔ Saves w n := by
  have htex : (indexed lanternArray ns w).textures = w.textures := rfl
  unfold Saves
  rw [length_indexed, htex]
  simp only [exists_and_left]
  exact exists_indexed fun l place => Iff.rfl

/-- **What `SaveLanternArray` writes**: a record of each lantern, in memory of its own. -/
theorem saveLanternArray_eq (hs : ∀ n ∈ lanternArray, Saves w n) (residue : ℕ → Residue) :
    ∃ records, records.map some = lanternArray.mapIdx (fun k n =>
        recordAt (indexed lanternArray lanternArray w) (residue k) n) ∧
      saveLanternArray w residue g lanternArray = .ok (indexed lanternArray lanternArray w,
        { g with lanternDataArray := g.lanternDataArray ++ records }) := by
  have hlt : ∀ n ∈ lanternArray, n < w.lanterns.length := by
    intro n hn
    obtain ⟨l, -, hl, -⟩ := hs n hn
    exact (List.getElem?_eq_some_iff.mp hl).1
  obtain ⟨records, hrec, hadd⟩ := addLanternData_eq (w := indexed lanternArray lanternArray w)
    (i := 0) (g := g) residue fun n hn => (saves_indexed lanternArray n).mpr (hs n hn)
  refine ⟨records, ?_, ?_⟩
  · simpa only [Nat.zero_add] using hrec
  · simp only [saveLanternArray, setLanternArrayIndices_eq lanternArray hlt, bind, Except.bind, hadd]

theorem saveLanternArray_fails (hs : ¬ ∀ n ∈ lanternArray, Saves w n) :
    ∃ e, ∀ residue, saveLanternArray w residue g lanternArray = .error e := by
  rcases hset : setLanternArrayIndices lanternArray w lanternArray with e | w₁
  · exact ⟨e, fun residue => by simp only [saveLanternArray, hset, bind, Except.bind]⟩
  · have hlt := setLanternArrayIndices_ok lanternArray hset
    have hindexed : indexed lanternArray lanternArray w = w₁ :=
      Except.ok.inj ((setLanternArrayIndices_eq lanternArray hlt).symm.trans hset)
    have hs₁ : ¬ ∀ n ∈ lanternArray, Saves w₁ n := by
      rw [← hindexed]
      simpa only [saves_indexed] using hs
    obtain ⟨e, he⟩ := addLanternData_fails hs₁
    refine ⟨e, fun residue => ?_⟩
    simp only [saveLanternArray, hset, bind, Except.bind, he]

/-! ### What depends on the memory -/

/-- Without a texture the record has the size it found. -/
theorem not_determined_recordOf {l : ALanternActor K} (hmip : textureOf w l = none) :
    ¬ Determined fun residue => recordOf w residue l := by
  have hsize : ∀ residue, (recordOf w residue l).textureSize = residue.textureSize := by
    intro residue
    rw [recordOf, hmip, sizeAndColors]
  intro hdet
  have h := congrArg FLanternData.textureSize (hdet ⟨⟨0, 0⟩, fun _ => 0⟩ ⟨⟨1, 1⟩, fun _ => 0⟩)
  rw [hsize, hsize] at h
  exact absurd h (by decide)

/-- The colours of a texture depend on it alone exactly if there are none. -/
theorem determined_bytes_iff (mip : FTexture2DMipMap) :
    Determined (fun heap : ℕ → UInt8 => (colorsOf heap mip).bytes) ↔
      (sizeOfMip mip).dataLength.toNatClampNeg = 0 := by
  have hlen := length_take_bulkData mip
  have hbyte : Nontrivial UInt8 := ⟨0, 1, by decide⟩
  have hle : (mip.bulkData.take (sizeOfMip mip).dataLength.toNatClampNeg).length ≤
      (sizeOfMip mip).dataLength.toNatClampNeg * 4 := by omega
  refine (determined_overwrite_iff hle).trans ?_
  omega

/-- **A record depends on the level alone** exactly if it has no colour of a texture. -/
theorem determined_recordOf_iff {l : ALanternActor K} :
    Determined (fun residue => recordOf w residue l) ↔
      ∃ mip, textureOf w l = some mip ∧ (sizeOfMip mip).dataLength.toNatClampNeg = 0 := by
  rcases hmip : textureOf w l with _ | mip
  · simp only [not_determined_recordOf hmip, reduceCtorEq, false_and, exists_false]
  · simp only [Option.some.injEq, exists_eq_left']
    rw [← determined_bytes_iff]
    constructor
    · intro hdet heap heap'
      have h := congrArg FLanternData.textureColors (hdet ⟨⟨0, 0⟩, heap⟩ ⟨⟨0, 0⟩, heap'⟩)
      rw [textureColors_recordOf _ hmip, textureColors_recordOf _ hmip] at h
      exact congrArg FColorArray.bytes h
    · intro hdet residue residue'
      have hsame : colorsOf residue.heap mip = colorsOf residue'.heap mip :=
        FColorArray.ext rfl (hdet residue.heap residue'.heap)
      simp only [recordOf, hmip, sizeAndColors, hsame]

/-- What a save writes depends on the level alone exactly if every record does. -/
theorem determined_saveLanternArray_iff (hs : ∀ n ∈ lanternArray, Saves w n) :
    Determined (fun residue => saveLanternArray w residue g lanternArray) ↔
      ∀ n ∈ lanternArray, Determined fun residue =>
        recordAt (indexed lanternArray lanternArray w) residue n := by
  rw [← determined_mapIdx_iff]
  constructor
  · intro hdet residue residue'
    obtain ⟨records, hrec, hsave⟩ := saveLanternArray_eq (g := g) hs residue
    obtain ⟨records', hrec', hsave'⟩ := saveLanternArray_eq (g := g) hs residue'
    have h := hdet residue residue'
    simp only [hsave, hsave', Except.ok.injEq, Prod.mk.injEq, ULanternSaveGame.mk.injEq, true_and,
      List.append_cancel_left_eq] at h
    exact hrec.symm.trans ((congrArg (List.map some) h).trans hrec')
  · intro hdet residue residue'
    obtain ⟨records, hrec, hsave⟩ := saveLanternArray_eq (g := g) hs residue
    obtain ⟨records', hrec', hsave'⟩ := saveLanternArray_eq (g := g) hs residue'
    have h : records.map some = records'.map some :=
      hrec.trans ((hdet residue residue').trans hrec'.symm)
    have hsame : records = records' := List.map_injective_iff.mpr (Option.some_injective _) h
    simp only [hsave, hsave', hsame]

/-! ### Saved data from the level alone -/

/-- What a save writes is the same whatever the memory held, and each of its records has one colour
for each pixel of its size. -/
structure FromState (w : World K) (g : ULanternSaveGame (FLanternData K))
    (lanternArray : List ℕ) : Prop where
  determined : Determined fun residue => saveLanternArray w residue g lanternArray
  num : ∀ residue w' g', saveLanternArray w residue g lanternArray = .ok (w', g') →
    ∀ lanternData ∈ g'.lanternDataArray.drop g.lanternDataArray.length,
      (lanternData.textureColors.num : ℤ) =
        lanternData.textureSize.x.toInt * lanternData.textureSize.y.toInt

/-- The texture of the lantern has no pixel. -/
def NoPixel (w : World K) (n : ℕ) : Prop :=
  ∃ l, w.lanterns[n]? = some l ∧ ∃ mip, textureOf w l = some mip ∧
    ((sizeOfMip mip).x = 0 ∨ (sizeOfMip mip).y = 0)

theorem noPixel_indexed (ns : List ℕ) (n : ℕ) :
    NoPixel (indexed lanternArray ns w) n ↔ NoPixel w n :=
  exists_indexed fun _ _ => Iff.rfl

theorem dataLength_of_noPixel {size : FIntPoint} (h : size.x = 0 ∨ size.y = 0) :
    size.dataLength = 0 := by
  rcases h with h | h
  · rw [FIntPoint.dataLength, h, Int32.zero_mul, Int32.zero_mul]
  · rw [FIntPoint.dataLength, h, Int32.mul_zero, Int32.zero_mul]

/-- The records a save appends. -/
theorem mem_saved_iff (hs : ∀ n ∈ lanternArray, Saves w n) {residue : ℕ → Residue} {w' : World K}
    {g' : ULanternSaveGame (FLanternData K)} {lanternData : FLanternData K}
    (h : saveLanternArray w residue g lanternArray = .ok (w', g')) :
    lanternData ∈ g'.lanternDataArray.drop g.lanternDataArray.length ↔
      ∃ i n, lanternArray[i]? = some n ∧
        recordAt (indexed lanternArray lanternArray w) (residue i) n = some lanternData := by
  obtain ⟨records, hrec, hsave⟩ := saveLanternArray_eq (g := g) hs residue
  obtain ⟨-, rfl⟩ := Prod.mk.inj (Except.ok.inj (hsave.symm.trans h))
  have hmem : lanternData ∈ records ↔ some lanternData ∈ records.map some := by simp
  rw [List.drop_left, hmem, hrec, List.mem_iff_getElem?]
  simp only [List.getElem?_mapIdx, Option.map_eq_some_iff]

theorem noPixel_of_fromState (hs : ∀ n ∈ lanternArray, Saves w n)
    (h : FromState w g lanternArray) : ∀ n ∈ lanternArray, NoPixel w n := by
  intro n hn
  have hsaves : Saves (indexed lanternArray lanternArray w) n :=
    (saves_indexed lanternArray n).mpr (hs n hn)
  obtain ⟨l, -, hl, -⟩ := hsaves
  have hdet : Determined fun residue =>
      recordOf (indexed lanternArray lanternArray w) residue l := by
    intro residue residue'
    have hsame := (determined_saveLanternArray_iff hs).mp h.determined n hn residue residue'
    simpa only [recordAt_eq hl, Option.some.injEq] using hsame
  obtain ⟨mip, hmip, hzero⟩ := determined_recordOf_iff.mp hdet
  obtain ⟨i, hi⟩ := List.getElem?_of_mem hn
  let residue : Residue := ⟨⟨0, 0⟩, fun _ => 0⟩
  obtain ⟨records, -, hsave⟩ := saveLanternArray_eq (g := g) hs fun _ => residue
  have hnum := h.num _ _ _ hsave (recordOf (indexed lanternArray lanternArray w) residue l)
    ((mem_saved_iff hs hsave).mpr ⟨i, n, hi, recordAt_eq hl _⟩)
  rw [recordOf, hmip, sizeAndColors, num_colorsOf, hzero, Int.ofNat_zero, eq_comm,
    Int.mul_eq_zero, ← Int32.toInt_zero, Int32.toInt_inj, Int32.toInt_inj] at hnum
  exact (noPixel_indexed lanternArray n).mp ⟨l, hl, mip, hmip, hnum⟩

theorem fromState_of_noPixel (hs : ∀ n ∈ lanternArray, Saves w n)
    (h : ∀ n ∈ lanternArray, NoPixel w n) : FromState w g lanternArray := by
  have hindexed : ∀ n ∈ lanternArray, NoPixel (indexed lanternArray lanternArray w) n :=
    fun n hn => (noPixel_indexed lanternArray n).mpr (h n hn)
  refine ⟨(determined_saveLanternArray_iff hs).mpr fun n hn => ?_, ?_⟩
  · obtain ⟨l, hl, mip, hmip, hzero⟩ := hindexed n hn
    have hdet := determined_recordOf_iff.mpr
      ⟨mip, hmip, by rw [dataLength_of_noPixel hzero]; rfl⟩
    intro residue residue'
    simp only [recordAt_eq hl, hdet residue residue']
  · intro residue w' g' hsave lanternData hmem
    obtain ⟨i, n, hi, hrecord⟩ := (mem_saved_iff hs hsave).mp hmem
    obtain ⟨l, hl, mip, hmip, hzero⟩ := hindexed n (List.mem_of_getElem? hi)
    obtain rfl := Option.some.inj ((recordAt_eq hl _).symm.trans hrecord)
    rw [recordOf, hmip, sizeAndColors, num_colorsOf, dataLength_of_noPixel hzero]
    rcases hzero with hx | hy
    · rw [hx, Int32.toInt_zero, zero_mul]
      rfl
    · rw [hy, Int32.toInt_zero, mul_zero]
      rfl

/-- **What a save writes depends on the level alone exactly** if there is a lantern it cannot save, or
no texture of a saved lantern has a pixel. -/
theorem fromState_iff (w : World K) (g : ULanternSaveGame (FLanternData K))
    (lanternArray : List ℕ) :
    FromState w g lanternArray ↔
      (∃ n ∈ lanternArray, ¬ Saves w n) ∨ ∀ n ∈ lanternArray, NoPixel w n := by
  by_cases hs : ∀ n ∈ lanternArray, Saves w n
  · have hall : ¬ ∃ n ∈ lanternArray, ¬ Saves w n := fun ⟨n, hn, hns⟩ => hns (hs n hn)
    rw [or_iff_right hall]
    exact ⟨noPixel_of_fromState hs, fromState_of_noPixel hs⟩
  · have hsome : ∃ n ∈ lanternArray, ¬ Saves w n := by
      by_contra hnone
      exact hs fun n hn => by_contra fun hns => hnone ⟨n, hn, hns⟩
    obtain ⟨e, hfails⟩ := saveLanternArray_fails (g := g) hs
    refine ⟨fun _ => Or.inl hsome, fun _ => ⟨fun residue residue' => ?_, ?_⟩⟩
    · exact (hfails residue).trans (hfails residue').symm
    · intro residue w' g' h
      rw [hfails residue] at h
      cases h

/-! ### A lantern with one pixel -/

theorem saves_sampleTextured : ∀ n ∈ [0], Saves sampleTextured n := by
  intro n hn
  obtain rfl := List.mem_singleton.mp hn
  refine ⟨_, some 0, rfl, rfl, fun t ht => ?_, fun o ho => absurd ho List.not_mem_nil⟩
  obtain rfl := Option.some.inj ht
  exact ⟨_, rfl, rfl, by decide⟩

/-- Four colours are recorded of the pixel, and three of them are what the heap held. -/
theorem not_fromState : ¬ FromState sampleTextured (createSaveGame _) [0] := by
  intro h
  obtain ⟨l, hl, mip, hmip, hzero⟩ := noPixel_of_fromState saves_sampleTextured h 0
    List.mem_cons_self
  obtain rfl := Option.some.inj (hl.symm.trans rfl)
  obtain rfl := Option.some.inj (hmip.symm.trans rfl)
  exact absurd hzero (by decide)

end LanternProject.Lantern.SavedResidue
