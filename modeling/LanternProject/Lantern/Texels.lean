import LanternProject.Lantern.SaveData
import LanternProject.Lib.Residue

/-! # The texels of a record

The records of `SaveData` once more, with the memory they are made in: `FLanternData` is a local
variable, whose `TextureSize` nothing sets before `SaveData` does, and `AddUninitialized` leaves in
`TextureColors` what the heap held (`Residue`). A length is an `int32` and counts colours where the
array grows, but bytes where they are copied.

`saveData_eq` and `saveData_fails` say what `SaveData` records and when it ends the process, which
does not depend on the residue; `filled_recordOf` and `loadTexture_recordOf` that a texture comes
back as it was. -/

namespace LanternProject.Lantern.Texels

open LanternProject.Lib.Residue LanternProject.Engine.Basic LanternProject.Engine.Vector
open LanternProject.Save.LanternSaveGame
open LanternProject.Lantern.LanternActor LanternProject.Lantern.Texture
open LanternProject.Lantern.Level
open LanternProject.Lantern.SaveData (FTransform overlappedIndices overlappedIndices_eq placeOf
  setLanternArrayIndices)

variable {K : Type}

/-! ### Lengths -/

/-- `FIntPoint`. -/
structure FIntPoint where
  x : Int32
  y : Int32
deriving DecidableEq

/-- Four bytes for each pixel. -/
def FIntPoint.dataLength (size : FIntPoint) : Int32 := size.x * size.y * 4

/-- An `int32` as a `SIZE_T`. -/
def sizeT (i : Int32) : ℕ := (i.toInt % 2 ^ 64).toNat

theorem sizeT_of_nonneg {i : Int32} (h : 0 ≤ i) : sizeT i = i.toNatClampNeg := by
  have h0 : 0 ≤ i.toInt := Int32.le_iff_toInt_le.mp h
  have hlt := i.toInt_lt
  unfold sizeT Int32.toNatClampNeg
  omega

theorem sizeT_eq_zero_iff {i : Int32} : sizeT i = 0 ↔ i = 0 := by
  have hle := i.le_toInt
  have hlt := i.toInt_lt
  rw [← Int32.toInt_inj, Int32.toInt_zero]
  unfold sizeT
  omega

theorem toNatClampNeg_ofNat_le (n : ℕ) : (Int32.ofNat n).toNatClampNeg ≤ n := by
  rw [Int32.toNatClampNeg, Int32.toInt_ofNat', Int.bmod_def, show Int32.size = 2 ^ 32 from rfl]
  split_ifs
  · omega
  · omega

theorem sizeT_ofNat {n : ℕ} (h : n < 2 ^ 31) : sizeT (.ofNat n) = n := by
  rw [sizeT, Int32.toInt_ofNat_of_lt h]
  omega

theorem dataLength_ofNat (sizeX sizeY : ℕ) :
    FIntPoint.dataLength ⟨.ofNat sizeX, .ofNat sizeY⟩ = .ofNat (sizeX * sizeY * 4) := by
  rw [Int32.ofNat_mul, Int32.ofNat_mul]
  rfl

/-! ### Saving -/

/-- `TArray<FColor>`: a colour has four bytes. -/
@[ext]
structure FColorArray where
  num : ℕ
  bytes : List UInt8
  length_bytes : bytes.length = num * 4
deriving DecidableEq

/-- No colours. -/
def FColorArray.empty : FColorArray := ⟨0, [], rfl⟩

/-- `Memcpy` into the colours. -/
def FColorArray.memcpy (colors : FColorArray) (data : List UInt8) : Except Fault FColorArray :=
  if h : data.length ≤ colors.bytes.length then
    .ok ⟨colors.num, overwrite colors.bytes data, by rw [length_overwrite h, colors.length_bytes]⟩
  else .error .bufferOverrun

/-- What a record finds in the memory it is made in. -/
structure Residue where
  textureSize : FIntPoint
  heap : ℕ → UInt8

/-- `AddUninitialized`, on no colours. -/
def addUninitialized (heap : ℕ → UInt8) (count : Int32) : Except Fault FColorArray :=
  if 0 ≤ count then
    .ok ⟨count.toNatClampNeg, alloc heap (count.toNatClampNeg * 4), length_alloc _ _⟩
  else .error .invalidArrayNum

/-- The record of a lantern. -/
structure FLanternData (K : Type) where
  textureColors : FColorArray
  textureSize : FIntPoint
  typeIndex : ℕ
  variationIndex : ℕ
  transform : FTransform K
  backDirection : FVector K
  overlappedLanternIndexArray : List ℕ

/-- The size of a mip. -/
def sizeOfMip (mip : FTexture2DMipMap) : FIntPoint := ⟨.ofNat mip.sizeX, .ofNat mip.sizeY⟩

/-- The size and the colours `SaveData` takes from a texture. -/
def saveTexture (ts : Textures) (residue : Residue) : Option ℕ →
    Except Fault (Textures × FIntPoint × FColorArray)
  | none => .ok (ts, residue.textureSize, .empty)
  | some texture =>
    match ts[texture]? with
    | none => .error .nullPointer
    | some mip => do
      let dataLength := (sizeOfMip mip).dataLength
      let textureColors ← addUninitialized residue.heap dataLength
      let ts ← lock ts texture
      let data ← memcpyFrom mip.bulkData (sizeT dataLength)
      let textureColors ← textureColors.memcpy data
      let ts ← unlock ts texture
      .ok (ts, sizeOfMip mip, textureColors)

/-- `SaveData`. -/
def saveData (w : World K) (residue : Residue) (lantern : ℕ) :
    Except Fault (World K × FLanternData K) := do
  let l ← w.actor lantern
  match l.material with
  | none => .error .nullPointer
  | some texture => do
    let (textures, textureSize, textureColors) ← saveTexture w.textures residue texture
    let overlappedLanternIndexArray ← overlappedIndices w l.neighborArray
    .ok ({ w with textures := textures },
      { textureColors, textureSize
        typeIndex := l.typeIndex
        variationIndex := l.variationIndex
        transform := ⟨l.location, l.yaw⟩
        backDirection := l.backDirection
        overlappedLanternIndexArray })

/-- The second loop of `SaveLanternArray`, from record `i` on. -/
def addLanternData (w : World K) (residue : ℕ → Residue) (i : ℕ)
    (g : ULanternSaveGame (FLanternData K)) :
    List ℕ → Except Fault (World K × ULanternSaveGame (FLanternData K))
  | [] => .ok (w, g)
  | lantern :: lanterns => do
    let (w, lanternData) ← saveData w (residue i) lantern
    addLanternData w residue (i + 1)
      { g with lanternDataArray := g.lanternDataArray ++ [lanternData] } lanterns

/-- `SaveLanternArray`. -/
def saveLanternArray (w : World K) (residue : ℕ → Residue) (g : ULanternSaveGame (FLanternData K))
    (lanternArray : List ℕ) : Except Fault (World K × ULanternSaveGame (FLanternData K)) := do
  let w ← setLanternArrayIndices lanternArray w lanternArray
  addLanternData w residue 0 g lanternArray

/-! ### Loading -/

/-- The texture `LoadLantern` makes of a record. -/
def loadTexture (ts : Textures) (lanternData : FLanternData K) : Except Fault (Textures × ℕ) :=
  let size := lanternData.textureSize
  match createTransient ts size.x.toNatClampNeg size.y.toNatClampNeg with
  | (_, none) => .error .nullPointer
  | (ts, some newTexture) => do
    let ts ← lock ts newTexture
    let data ← memcpyFrom lanternData.textureColors.bytes (sizeT size.dataLength)
    let ts ← memcpyTo ts newTexture data
    .ok (ts, newTexture)

/-! ### What a save records -/

/-- The texture ends no process: it is there and unlocked, and its length is no negative `int32`. -/
def TextureSaveable (ts : Textures) (texture : Option ℕ) : Prop :=
  ∀ t, texture = some t → ∃ mip, ts[t]? = some mip ∧ mip.locked = false ∧
    0 ≤ (sizeOfMip mip).dataLength

theorem length_take_bulkData (mip : FTexture2DMipMap) :
    (mip.bulkData.take (sizeOfMip mip).dataLength.toNatClampNeg).length =
      (sizeOfMip mip).dataLength.toNatClampNeg := by
  have hle : (sizeOfMip mip).dataLength.toNatClampNeg ≤ mip.sizeX * mip.sizeY * 4 := by
    rw [sizeOfMip, dataLength_ofNat]
    exact toNatClampNeg_ofNat_le _
  rw [List.length_take, mip.length_bulkData]
  omega

/-- The colours recorded of a mip: there are as many as it has bytes, and a fourth is filled. -/
def colorsOf (heap : ℕ → UInt8) (mip : FTexture2DMipMap) : FColorArray where
  num := (sizeOfMip mip).dataLength.toNatClampNeg
  bytes := overwrite (alloc heap ((sizeOfMip mip).dataLength.toNatClampNeg * 4))
    (mip.bulkData.take (sizeOfMip mip).dataLength.toNatClampNeg)
  length_bytes := by
    rw [length_overwrite, length_alloc]
    rw [length_take_bulkData, length_alloc]
    omega

theorem num_colorsOf (heap : ℕ → UInt8) (mip : FTexture2DMipMap) :
    (colorsOf heap mip).num = (sizeOfMip mip).dataLength.toNatClampNeg := rfl

/-- The mip of a texture. -/
def mipOf (ts : Textures) (texture : Option ℕ) : Option FTexture2DMipMap :=
  texture.bind fun t => ts[t]?

/-- The size and the colours recorded of a texture. -/
def sizeAndColors (residue : Residue) : Option FTexture2DMipMap → FIntPoint × FColorArray
  | none => (residue.textureSize, .empty)
  | some mip => (sizeOfMip mip, colorsOf residue.heap mip)

theorem saveTexture_eq {ts : Textures} {texture : Option ℕ} (h : TextureSaveable ts texture)
    (residue : Residue) :
    saveTexture ts residue texture = .ok (ts, sizeAndColors residue (mipOf ts texture)) := by
  rcases texture with _ | t
  · rfl
  · obtain ⟨mip, hmip, hfree, hnum⟩ := h t rfl
    have hlock := lock_free hmip hfree
    have hunlock := unlock_set_locked hmip hfree
    have hlen := length_take_bulkData mip
    have hsource : (sizeOfMip mip).dataLength.toNatClampNeg ≤ mip.bulkData.length := by
      rw [List.length_take] at hlen
      omega
    have hdest : (sizeOfMip mip).dataLength.toNatClampNeg ≤
        (sizeOfMip mip).dataLength.toNatClampNeg * 4 := by omega
    simp only [saveTexture, hmip, addUninitialized, if_pos hnum, hlock, sizeT_of_nonneg hnum,
      memcpyFrom, if_pos hsource, FColorArray.memcpy, hlen, length_alloc, dif_pos hdest, hunlock,
      bind, Except.bind]
    simp only [sizeAndColors, mipOf, Option.bind_some, hmip, colorsOf]

/-- A texture that ends the process does so before anything is copied, whatever the memory held. -/
theorem saveTexture_fails {ts : Textures} {texture : Option ℕ} (h : ¬ TextureSaveable ts texture) :
    ∃ e, e ≠ .bufferOverrun ∧ ∀ residue, saveTexture ts residue texture = .error e := by
  rcases texture with _ | t
  · exact absurd (fun t ht => absurd ht (Option.some_ne_none t).symm) h
  · rcases hmip : ts[t]? with _ | mip
    · exact ⟨.nullPointer, by decide, fun residue => by rw [saveTexture, hmip]⟩
    · by_cases hnum : 0 ≤ (sizeOfMip mip).dataLength
      · have hlocked : mip.locked = true := by
          by_contra hfree
          rw [Bool.not_eq_true] at hfree
          refine h fun t' ht' => ?_
          obtain rfl := Option.some.inj ht'
          exact ⟨mip, hmip, hfree, hnum⟩
        refine ⟨.lockStatus, by decide, fun residue => ?_⟩
        simp only [saveTexture, hmip, addUninitialized, if_pos hnum, lock_locked hmip hlocked, bind,
          Except.bind]
      · refine ⟨.invalidArrayNum, by decide, fun residue => ?_⟩
        simp only [saveTexture, hmip, addUninitialized, if_neg hnum, bind, Except.bind]

section Saved
variable {w : World K} {n : ℕ} {l : ALanternActor K}

/-- The texture on a lantern. -/
def textureOf (w : World K) (l : ALanternActor K) : Option FTexture2DMipMap :=
  l.material.elim none (mipOf w.textures)

/-- Saving the lantern ends no process. -/
def Saves (w : World K) (n : ℕ) : Prop :=
  ∃ l texture, w.lanterns[n]? = some l ∧ l.material = some texture ∧
    TextureSaveable w.textures texture ∧ ∀ o ∈ l.neighborArray, o < w.lanterns.length

/-- The record of a lantern. -/
def recordOf (w : World K) (residue : Residue) (l : ALanternActor K) : FLanternData K where
  textureColors := (sizeAndColors residue (textureOf w l)).2
  textureSize := (sizeAndColors residue (textureOf w l)).1
  typeIndex := l.typeIndex
  variationIndex := l.variationIndex
  transform := ⟨l.location, l.yaw⟩
  backDirection := l.backDirection
  overlappedLanternIndexArray := l.neighborArray.map fun o => toUInt32 (placeOf w o)

theorem overlappedIndices_fails : ∀ {ns : List ℕ}, ¬ (∀ o ∈ ns, o < w.lanterns.length) →
    overlappedIndices w ns = .error .nullPointer
  | [], h => absurd (fun o ho => absurd ho List.not_mem_nil) h
  | o :: ns, h => by
    rcases hl : w.lanterns[o]? with _ | l
    · simp only [overlappedIndices, actor_error.mpr ⟨hl, rfl⟩, bind, Except.bind]
    · have hns : ¬ ∀ o ∈ ns, o < w.lanterns.length := by
        intro hns
        refine h fun k hk => ?_
        rcases List.mem_cons.mp hk with rfl | hk
        · exact (List.getElem?_eq_some_iff.mp hl).1
        · exact hns k hk
      simp only [overlappedIndices, actor_ok.mpr hl, overlappedIndices_fails hns, bind, Except.bind]

/-- **What `SaveData` records.** -/
theorem saveData_eq (hl : w.lanterns[n]? = some l) (hs : Saves w n) (residue : Residue) :
    saveData w residue n = .ok (w, recordOf w residue l) := by
  obtain ⟨l', texture, hl', hmat, htex, hnb⟩ := hs
  obtain rfl : l = l' := Option.some.inj (hl.symm.trans hl')
  simp only [saveData, actor_ok.mpr hl, hmat, saveTexture_eq htex residue, overlappedIndices_eq hnb,
    bind, Except.bind, recordOf, textureOf, Option.elim_some]

/-- **When `SaveData` ends the process**: never by copying, and whatever the memory held. -/
theorem saveData_fails (hs : ¬ Saves w n) :
    ∃ e, e ≠ .bufferOverrun ∧ ∀ residue, saveData w residue n = .error e := by
  rcases hl : w.lanterns[n]? with _ | l
  · refine ⟨.nullPointer, by decide, fun residue => ?_⟩
    simp only [saveData, actor_error.mpr ⟨hl, rfl⟩, bind, Except.bind]
  rcases hmat : l.material with _ | texture
  · refine ⟨.nullPointer, by decide, fun residue => ?_⟩
    simp only [saveData, actor_ok.mpr hl, hmat, bind, Except.bind]
  by_cases htex : TextureSaveable w.textures texture
  · have hnb : ¬ ∀ o ∈ l.neighborArray, o < w.lanterns.length :=
      fun hnb => hs ⟨l, texture, hl, hmat, htex, hnb⟩
    refine ⟨.nullPointer, by decide, fun residue => ?_⟩
    simp only [saveData, actor_ok.mpr hl, hmat, saveTexture_eq htex residue,
      overlappedIndices_fails hnb, bind, Except.bind]
  · obtain ⟨e, he, hfails⟩ := saveTexture_fails htex
    refine ⟨e, he, fun residue => ?_⟩
    simp only [saveData, actor_ok.mpr hl, hmat, hfails residue, bind, Except.bind]

theorem saveData_ok {residue : Residue} {r : World K × FLanternData K}
    (h : saveData w residue n = .ok r) :
    ∃ l, w.lanterns[n]? = some l ∧ Saves w n ∧ r = (w, recordOf w residue l) := by
  by_cases hs : Saves w n
  · obtain ⟨l, -, hl, -⟩ := id hs
    exact ⟨l, hl, hs, (Except.ok.inj ((saveData_eq hl hs residue).symm.trans h)).symm⟩
  · obtain ⟨e, -, hfails⟩ := saveData_fails hs
    rw [hfails residue] at h
    cases h

end Saved

/-! ### What a load copies -/

section Loaded
variable {ts : Textures} {mip : FTexture2DMipMap} {lanternData : FLanternData K}

theorem loadTexture_noPixel
    (h : ¬ (0 < lanternData.textureSize.x ∧ 0 < lanternData.textureSize.y)) :
    loadTexture ts lanternData = .error .nullPointer := by
  rw [← Int32.toNatClampNeg_pos_iff, ← Int32.toNatClampNeg_pos_iff] at h
  simp only [loadTexture, createTransient, if_neg h]

theorem loadTexture_pixels (hx : 0 < lanternData.textureSize.x)
    (hy : 0 < lanternData.textureSize.y) :
    loadTexture ts lanternData =
      if h : sizeT lanternData.textureSize.dataLength ≤ lanternData.textureColors.bytes.length ∧
          sizeT lanternData.textureSize.dataLength ≤ lanternData.textureSize.x.toNatClampNeg *
            lanternData.textureSize.y.toNatClampNeg * 4 then
        .ok (ts ++ [filledMip lanternData.textureSize.x.toNatClampNeg
          lanternData.textureSize.y.toNatClampNeg
          (lanternData.textureColors.bytes.take (sizeT lanternData.textureSize.dataLength))
          (by rw [List.length_take]; omega) true], ts.length)
      else .error .bufferOverrun := by
  rw [← Int32.toNatClampNeg_pos_iff] at hx hy
  simp only [loadTexture, createTransient, if_pos (And.intro hx hy)]
  exact lock_memcpyTo_count_new ts _ _ _ _ fun ts => .ok (ts, _)

/-- The copy of a load stays in bounds exactly if the recorded size has no pixel, or no more bytes
than were recorded and than the pixels have. -/
theorem loadTexture_inBounds_iff : loadTexture ts lanternData ≠ .error .bufferOverrun ↔
    (0 < lanternData.textureSize.x → 0 < lanternData.textureSize.y →
      sizeT lanternData.textureSize.dataLength ≤ lanternData.textureColors.bytes.length ∧
      sizeT lanternData.textureSize.dataLength ≤ lanternData.textureSize.x.toNatClampNeg *
        lanternData.textureSize.y.toNatClampNeg * 4) := by
  by_cases hpos : 0 < lanternData.textureSize.x ∧ 0 < lanternData.textureSize.y
  · simp only [hpos.1, hpos.2, true_implies]
    rw [loadTexture_pixels hpos.1 hpos.2]
    split_ifs with h
    · simp [h]
    · simp [h]
  · rw [loadTexture_noPixel hpos]
    simp only [ne_eq, Except.error.injEq, reduceCtorEq, not_false_eq_true, true_iff]
    exact fun hx hy => absurd ⟨hx, hy⟩ hpos

/-- A size with pixels has at least as many bytes as its length says. -/
theorem dataLength_le {size : FIntPoint} (hx : 0 < size.x) (hy : 0 < size.y) :
    size.dataLength.toNatClampNeg ≤ size.x.toNatClampNeg * size.y.toNatClampNeg * 4 := by
  have hsize : size = ⟨.ofNat size.x.toNatClampNeg, .ofNat size.y.toNatClampNeg⟩ := by
    rw [Int32.ofNat_toNatClampNeg _ (Int32.le_of_lt hx),
      Int32.ofNat_toNatClampNeg _ (Int32.le_of_lt hy)]
  have hlen := dataLength_ofNat size.x.toNatClampNeg size.y.toNatClampNeg
  rw [← hsize] at hlen
  rw [hlen]
  exact toNatClampNeg_ofNat_le _

/-! ### Textures that fit -/

/-- The mip has a pixel, and its length is an `int32`. -/
structure Fits (mip : FTexture2DMipMap) : Prop where
  sizeX_pos : 0 < mip.sizeX
  sizeY_pos : 0 < mip.sizeY
  length_lt : mip.bulkData.length < 2 ^ 31

theorem Fits.sizeX (h : Fits mip) : (sizeOfMip mip).x.toNatClampNeg = mip.sizeX := by
  have hlen := h.length_lt
  have hY := h.sizeY_pos
  rw [mip.length_bulkData] at hlen
  exact Int32.toNatClampNeg_ofNat_of_lt (by nlinarith)

theorem Fits.sizeY (h : Fits mip) : (sizeOfMip mip).y.toNatClampNeg = mip.sizeY := by
  have hlen := h.length_lt
  have hX := h.sizeX_pos
  rw [mip.length_bulkData] at hlen
  exact Int32.toNatClampNeg_ofNat_of_lt (by nlinarith)

theorem Fits.sizeT (h : Fits mip) : sizeT (sizeOfMip mip).dataLength = mip.bulkData.length := by
  rw [sizeOfMip, dataLength_ofNat, ← mip.length_bulkData, sizeT_ofNat h.length_lt]

theorem Fits.num_colorsOf (h : Fits mip) (heap : ℕ → UInt8) :
    (colorsOf heap mip).num = mip.bulkData.length := by
  rw [Texels.num_colorsOf, sizeOfMip, dataLength_ofNat, ← mip.length_bulkData,
    Int32.toNatClampNeg_ofNat_of_lt h.length_lt]

/-- The filled fourth of the colours is the mip. -/
theorem Fits.take_colorsOf (h : Fits mip) (heap : ℕ → UInt8) :
    (colorsOf heap mip).bytes.take mip.bulkData.length = mip.bulkData := by
  have hnum := h.num_colorsOf heap
  rw [Texels.num_colorsOf] at hnum
  simp only [colorsOf, hnum, List.take_length]
  exact take_overwrite _ _

section Textured
variable {w : World K} {l : ALanternActor K}

theorem textureSize_recordOf (residue : Residue) (hmip : textureOf w l = some mip) :
    (recordOf w residue l).textureSize = sizeOfMip mip := by
  rw [recordOf, hmip, sizeAndColors]

theorem textureColors_recordOf (residue : Residue) (hmip : textureOf w l = some mip) :
    (recordOf w residue l).textureColors = colorsOf residue.heap mip := by
  rw [recordOf, hmip, sizeAndColors]

/-- The record without the memory that was not filled. -/
def filled (lanternData : FLanternData K) : SaveData.FLanternData K where
  textureColors :=
    lanternData.textureColors.bytes.take (sizeT lanternData.textureSize.dataLength)
  textureSize := some (lanternData.textureSize.x.toNatClampNeg,
    lanternData.textureSize.y.toNatClampNeg)
  typeIndex := lanternData.typeIndex
  variationIndex := lanternData.variationIndex
  transform := lanternData.transform
  backDirection := lanternData.backDirection
  overlappedLanternIndexArray := lanternData.overlappedLanternIndexArray

/-- **The filled part of a record** is the record `SaveData` makes where memory is left aside. -/
theorem filled_recordOf (residue : Residue) (hmip : textureOf w l = some mip) (h : Fits mip) :
    filled (recordOf w residue l) = SaveData.recordOf w l := by
  have hcoarse : SaveData.textureOf w l = some mip := by
    rw [← hmip, SaveData.textureOf, textureOf]
    rcases l.material with _ | _ | t
    · rfl
    · rfl
    · rfl
  simp only [filled, textureSize_recordOf residue hmip, textureColors_recordOf residue hmip, h.sizeT,
    h.take_colorsOf, h.sizeX, h.sizeY, SaveData.recordOf, hcoarse, Option.map_some, Option.getD_some]
  rfl

/-- **What a load makes of the record of a textured lantern**: a texture with the same pixels. -/
theorem loadTexture_recordOf (residue : Residue) (hmip : textureOf w l = some mip) (h : Fits mip) :
    loadTexture ts (recordOf w residue l) =
      .ok (ts ++ [{ mip with locked := true }], ts.length) := by
  have hsize := textureSize_recordOf residue hmip
  have hcolors := textureColors_recordOf residue hmip
  have hbounds : mip.bulkData.length ≤ (colorsOf residue.heap mip).bytes.length ∧
      mip.bulkData.length ≤ mip.sizeX * mip.sizeY * 4 := by
    rw [(colorsOf residue.heap mip).length_bytes, h.num_colorsOf]
    exact ⟨by omega, mip.length_bulkData.le⟩
  rw [loadTexture_pixels]
  · simp only [hsize, hcolors, h.sizeX, h.sizeY, h.sizeT, dif_pos hbounds, h.take_colorsOf,
      filledMip_bulkData]
  · rw [hsize, ← Int32.toNatClampNeg_pos_iff, h.sizeX]
    exact h.sizeX_pos
  · rw [hsize, ← Int32.toNatClampNeg_pos_iff, h.sizeY]
    exact h.sizeY_pos

end Textured

end Loaded

end LanternProject.Lantern.Texels
