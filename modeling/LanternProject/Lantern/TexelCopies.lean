import LanternProject.Lantern.System
import LanternProject.Lantern.Texels

/-! # How many texels are copied

Pixels are copied in three places: from a decoded image into a texture, from a texture into a record,
and from a record into a texture. `Base64ToTexture2D` takes its number of bytes from the image, and
an image of more than four bytes a pixel has more than its texture. `SaveData` always stays in bounds
(`saveData_inBounds`). `LoadLantern` takes it from the recorded size, which `SaveData` does not write
where a lantern has no texture. -/

namespace LanternProject.Lantern.TexelCopies

open LanternProject.Engine.Basic LanternProject.Engine.Str
open LanternProject.Pipeline.State (Env IImageWrapper)
open LanternProject.Pipeline.Request (imageFormatOf decodedImage)
open LanternProject.Lantern.LanternActor LanternProject.Lantern.Texture
open LanternProject.Lantern.Level LanternProject.Lantern.LanternManager
open LanternProject.Lantern.Texels
open LanternProject.Lantern.System (base64ToTexture2D sampleAssets)

variable {K : Type}

/-! ### Images -/

/-- Grayscale or colour. -/
inductive ERGBFormat where
  | Gray
  | RGBA
deriving DecidableEq

/-- Bits per channel. -/
inductive BitDepth where
  | eight
  | sixteen
deriving DecidableEq

/-- The native format of an image. -/
structure NativeFormat where
  format : ERGBFormat
  bitDepth : BitDepth
deriving DecidableEq

/-- The bytes of a pixel: those of a channel for each. -/
def NativeFormat.bytesPerPixel (f : NativeFormat) : ℕ :=
  (match f.format with
    | .Gray => 1
    | .RGBA => 4) *
  (match f.bitDepth with
    | .eight => 1
    | .sixteen => 2)

/-- Only 16-bit colour has more than four bytes a pixel. -/
theorem bytesPerPixel_le_iff {f : NativeFormat} :
    f.bytesPerPixel ≤ 4 ↔ f ≠ ⟨.RGBA, .sixteen⟩ := by
  obtain ⟨_ | _, _ | _⟩ := f
  · decide
  · decide
  · decide
  · decide

/-- `GetRaw` without arguments: the pixels are in the native format of the image. -/
def GetRawNative (native : EImageFormat → List UInt8 → NativeFormat) (decoders : Env) : Prop :=
  ∀ imageFormat data imageWrapper raw, decoders.setCompressed imageFormat data = some imageWrapper →
    imageWrapper.raw = some raw → raw.length =
      imageWrapper.width * imageWrapper.height * (native imageFormat data).bytesPerPixel

/-- The text decodes to an image of 16-bit colour that has a pixel. -/
def Colour16 (native : EImageFormat → List UInt8 → NativeFormat) (decoders : Env)
    (base64String imageFormatString : FString) : Prop :=
  ∃ imageFormat image, imageFormatOf imageFormatString = some imageFormat ∧
    decodedImage decoders base64String imageFormatString = some image ∧
    native imageFormat (decoders.base64Decode base64String) = ⟨.RGBA, .sixteen⟩ ∧
    0 < image.sizeX ∧ 0 < image.sizeY

section Decoded
variable {native : EImageFormat → List UInt8 → NativeFormat} {decoders : Env}
  {base64String imageFormatString : FString} {image : UTexture2D}

theorem decodedImage_some (h : decodedImage decoders base64String imageFormatString = some image) :
    ∃ imageFormat imageWrapper, imageFormatOf imageFormatString = some imageFormat ∧
      decoders.setCompressed imageFormat (decoders.base64Decode base64String) = some imageWrapper ∧
      imageWrapper.raw = some image.mip ∧ image.sizeX = imageWrapper.width ∧
      image.sizeY = imageWrapper.height := by
  unfold decodedImage at h
  obtain ⟨imageFormat, hformat, h⟩ := Option.bind_eq_some_iff.mp h
  split_ifs at h
  obtain ⟨imageWrapper, hwrapper, h⟩ := Option.bind_eq_some_iff.mp h
  obtain ⟨raw, hraw, h⟩ := Option.bind_eq_some_iff.mp h
  split_ifs at h
  obtain rfl := Option.some.inj h
  exact ⟨imageFormat, imageWrapper, hformat, hwrapper, hraw, rfl, rfl⟩

/-- A new texture is overrun exactly if its image has more bytes than it. -/
theorem base64ToTexture2D_inBounds_iff {ts : Textures} :
    base64ToTexture2D decoders ts base64String imageFormatString ≠ .error .bufferOverrun ↔
      ∀ image, decodedImage decoders base64String imageFormatString = some image →
        0 < image.sizeX → 0 < image.sizeY →
          image.mip.length ≤ image.sizeX * image.sizeY * 4 := by
  unfold base64ToTexture2D
  rcases himage : decodedImage decoders base64String imageFormatString with _ | image
  · simp
  · simp only [Option.some.injEq, forall_eq']
    by_cases hpos : 0 < image.sizeX ∧ 0 < image.sizeY
    · simp only [hpos.1, hpos.2, true_implies]
      simp only [createTransient, if_pos hpos]
      rw [lock_memcpyTo_unlock_new]
      split_ifs with h
      · simp [h]
      · simp [h]
    · simp only [createTransient, if_neg hpos, ne_eq, reduceCtorEq, not_false_eq_true, true_iff]
      exact fun hx hy => absurd ⟨hx, hy⟩ hpos

/-- **Images**: the copy stays in bounds unless the image is of 16-bit colour. -/
theorem base64ToTexture2D_inBounds_iff_native (hraw : GetRawNative native decoders)
    (ts : Textures) :
    base64ToTexture2D decoders ts base64String imageFormatString ≠ .error .bufferOverrun ↔
      ¬ Colour16 native decoders base64String imageFormatString := by
  rw [base64ToTexture2D_inBounds_iff]
  constructor
  · rintro h ⟨imageFormat, image, hformat, himage, hnative, hx, hy⟩
    obtain ⟨imageFormat', imageWrapper, hformat', hwrapper, hbytes, hX, hY⟩ :=
      decodedImage_some himage
    obtain rfl := Option.some.inj (hformat.symm.trans hformat')
    have hle := h image himage hx hy
    rw [hraw _ _ _ _ hwrapper hbytes, ← hX, ← hY, hnative] at hle
    have hpixels : 0 < image.sizeX * image.sizeY := Nat.mul_pos hx hy
    exact absurd (Nat.le_of_mul_le_mul_left hle hpixels) (by decide)
  · intro h image himage hx hy
    obtain ⟨imageFormat, imageWrapper, hformat, hwrapper, hbytes, hX, hY⟩ :=
      decodedImage_some himage
    have hnative : native imageFormat (decoders.base64Decode base64String) ≠ ⟨.RGBA, .sixteen⟩ :=
      fun hnative => h ⟨imageFormat, image, hformat, himage, hnative, hx, hy⟩
    rw [hraw _ _ _ _ hwrapper hbytes, ← hX, ← hY]
    exact Nat.mul_le_mul_left _ (bytesPerPixel_le_iff.mpr hnative)

end Decoded

/-! ### Records -/

section Recorded
variable {w w' : World K} {residue : Residue} {n : ℕ} {lanternData : FLanternData K}

/-- **Saving**: the copy stays in bounds. -/
theorem saveData_inBounds (w : World K) (residue : Residue) (n : ℕ) :
    saveData w residue n ≠ .error .bufferOverrun := by
  by_cases hs : Saves w n
  · obtain ⟨l, -, hl, -⟩ := id hs
    rw [saveData_eq hl hs residue]
    exact fun h => nomatch h
  · obtain ⟨e, he, hfails⟩ := saveData_fails hs
    rw [hfails residue]
    exact fun h => he (Except.error.inj h)

/-- The lantern is saved without a texture, and its record finds a size that has pixels. -/
def SizeUnset (w : World K) (residue : Residue) (n : ℕ) : Prop :=
  Saves w n ∧ (∃ l, w.lanterns[n]? = some l ∧ l.material = some none) ∧
    0 < residue.textureSize.x ∧ 0 < residue.textureSize.y ∧ residue.textureSize.dataLength ≠ 0

/-- The bytes of the pixels are those of the texture. -/
theorem loadTexture_inBounds_textured {l : ALanternActor K} {mip : FTexture2DMipMap}
    (hmip : textureOf w l = some mip) (hnum : 0 ≤ (sizeOfMip mip).dataLength) (residue : Residue)
    (ts : Textures) : loadTexture ts (recordOf w residue l) ≠ .error .bufferOverrun := by
  rw [loadTexture_inBounds_iff, textureSize_recordOf residue hmip, textureColors_recordOf residue hmip,
    FColorArray.length_bytes, num_colorsOf, sizeT_of_nonneg hnum]
  intro hx hy
  have hle := dataLength_le hx hy
  exact ⟨by omega, hle⟩

/-- There are no bytes for the pixels. -/
theorem loadTexture_inBounds_untextured {l : ALanternActor K} (hmip : textureOf w l = none)
    (residue : Residue) (ts : Textures) :
    loadTexture ts (recordOf w residue l) ≠ .error .bufferOverrun ↔
      (0 < residue.textureSize.x → 0 < residue.textureSize.y →
        residue.textureSize.dataLength = 0) := by
  have hsize : (recordOf w residue l).textureSize = residue.textureSize := by
    rw [recordOf, hmip, sizeAndColors]
  have hcolors : (recordOf w residue l).textureColors.bytes.length = 0 := by
    rw [recordOf, hmip, sizeAndColors]
    rfl
  rw [loadTexture_inBounds_iff, hsize, hcolors, Nat.le_zero_eq, sizeT_eq_zero_iff]
  refine forall₂_congr fun hx hy => ⟨And.left, fun hzero => ⟨hzero, ?_⟩⟩
  rw [sizeT_eq_zero_iff.mpr hzero]
  exact Nat.zero_le _

/-- **Loading what was saved**: the copy stays in bounds unless the size was never written. -/
theorem loadTexture_inBounds_iff_saved (hsave : saveData w residue n = .ok (w', lanternData))
    (ts : Textures) :
    loadTexture ts lanternData ≠ .error .bufferOverrun ↔ ¬ SizeUnset w residue n := by
  obtain ⟨l, hl, hs, hr⟩ := saveData_ok hsave
  obtain ⟨-, rfl⟩ := Prod.mk.inj hr
  obtain ⟨l', texture, hl', hmat, htex, -⟩ := id hs
  obtain rfl : l = l' := Option.some.inj (hl.symm.trans hl')
  rcases texture with _ | t
  · have hmip : textureOf w l = none := by
      rw [textureOf, hmat]
      rfl
    rw [loadTexture_inBounds_untextured hmip]
    constructor
    · rintro h ⟨-, -, hx, hy, hne⟩
      exact hne (h hx hy)
    · intro h hx hy
      by_contra hne
      exact h ⟨hs, ⟨l, hl, hmat⟩, hx, hy, hne⟩
  · obtain ⟨mip, hat, -, hnum⟩ := htex t rfl
    have hmip : textureOf w l = some mip := by
      rw [textureOf, hmat]
      exact hat
    have hset : ¬ SizeUnset w residue n := by
      rintro ⟨-, ⟨l', hl', hnone⟩, -⟩
      obtain rfl : l = l' := Option.some.inj (hl.symm.trans hl')
      exact absurd (hmat.symm.trans hnone) (by simp)
    exact iff_of_true (loadTexture_inBounds_textured hmip hnum residue ts) hset

end Recorded

/-! ### All three -/

/-- No copy of pixels leaves its source or its destination. -/
structure CopiesInBounds (decoders : Env) (base64String imageFormatString : FString)
    (ts : Textures) (w : World K) (residue : Residue) (n : ℕ) : Prop where
  base64ToTexture2D :
    base64ToTexture2D decoders ts base64String imageFormatString ≠ .error .bufferOverrun
  saveData : saveData w residue n ≠ .error .bufferOverrun
  loadLantern : ∀ w' lanternData, Texels.saveData w residue n = .ok (w', lanternData) →
    ∀ ts', loadTexture ts' lanternData ≠ .error .bufferOverrun

/-- **The copies stay in bounds exactly** if the image is not of 16-bit colour and no size that was
never written is read. -/
theorem copiesInBounds_iff (native : EImageFormat → List UInt8 → NativeFormat) (decoders : Env)
    (hraw : GetRawNative native decoders) (base64String imageFormatString : FString)
    (ts : Textures) (w : World K) (residue : Residue) (n : ℕ) :
    CopiesInBounds decoders base64String imageFormatString ts w residue n ↔
      ¬ Colour16 native decoders base64String imageFormatString ∧ ¬ SizeUnset w residue n := by
  constructor
  · intro h
    refine ⟨(base64ToTexture2D_inBounds_iff_native hraw ts).mp h.base64ToTexture2D, fun hunset => ?_⟩
    obtain ⟨l, -, hl, -⟩ := id hunset.1
    have hsave := saveData_eq hl hunset.1 residue
    exact (loadTexture_inBounds_iff_saved hsave []).mp (h.loadLantern _ _ hsave []) hunset
  · rintro ⟨hcolour, hset⟩
    exact ⟨(base64ToTexture2D_inBounds_iff_native hraw ts).mpr hcolour, saveData_inBounds w residue n,
      fun w' lanternData hsave ts' => (loadTexture_inBounds_iff_saved hsave ts').mpr hset⟩

/-! ### PNG images -/

/-- A PNG file with one pixel of 16-bit colour, and the same as text. -/
def sampleFile : List UInt8 :=
  [137, 80, 78, 71, 13, 10, 26, 10, 0, 0, 0, 13, 73, 72, 68, 82, 0, 0, 0, 1, 0, 0, 0, 1, 16, 6, 0, 0,
    0, 79, 133, 24, 202, 0, 0, 0, 16, 73, 68, 65, 84, 120, 156, 99, 248, 255, 159, 1, 8, 254, 255, 7,
    0, 17, 247, 3, 253, 164, 68, 169, 196, 0, 0, 0, 0, 73, 69, 78, 68, 174, 66, 96, 130]
def sampleText : FString := TEXT ("iVBORw0KGgoAAAANSUhEUgAAAAEAAAABEAYAAABPhRjKAAAAEElEQVR4nGP4/58BCP7/" ++
  "BwAR9wP9pESpxAAAAABJRU5ErkJggg==")

/-- The same with 8-bit colour. -/
def sampleFile8 : List UInt8 :=
  [137, 80, 78, 71, 13, 10, 26, 10, 0, 0, 0, 13, 73, 72, 68, 82, 0, 0, 0, 1, 0, 0, 0, 1, 8, 6, 0, 0,
    0, 31, 21, 196, 137, 0, 0, 0, 13, 73, 68, 65, 84, 120, 156, 99, 248, 207, 192, 240, 31, 0, 5, 0,
    1, 255, 137, 153, 61, 29, 0, 0, 0, 0, 73, 69, 78, 68, 174, 66, 96, 130]
def sampleText8 : FString := TEXT ("iVBORw0KGgoAAAANSUhEUgAAAAEAAAABCAYAAAAfFcSJAAAADUlEQVR4nGP4z8DwHwAF" ++
  "AAH/iZk9HQAAAABJRU5ErkJggg==")

/-- An image wrapper that knows these files: the pixel is opaque red. -/
def sampleDecoders : Env :=
  { Pipeline.System.sampleEnv with
    base64Decode := fun text =>
      if text = sampleText then sampleFile else if text = sampleText8 then sampleFile8 else []
    setCompressed := fun imageFormat data =>
      if imageFormat = .PNG ∧ data = sampleFile then
        some ⟨1, 1, some [255, 255, 0, 0, 0, 0, 255, 255]⟩
      else if imageFormat = .PNG ∧ data = sampleFile8 then some ⟨1, 1, some [255, 0, 0, 255]⟩
      else none }
def sampleNative (_ : EImageFormat) (data : List UInt8) : NativeFormat :=
  ⟨.RGBA, if data = sampleFile then .sixteen else .eight⟩

theorem getRawNative_sample : GetRawNative sampleNative sampleDecoders := by
  intro imageFormat data imageWrapper raw hwrapper hraw
  simp only [sampleDecoders] at hwrapper
  split_ifs at hwrapper with h16 h8
  · obtain rfl := Option.some.inj hwrapper
    rw [← Option.some.inj hraw, h16.2]
    rfl
  · obtain rfl := Option.some.inj hwrapper
    rw [← Option.some.inj hraw, h8.2]
    have hother : sampleFile8 ≠ sampleFile := by decide
    rw [sampleNative, if_neg hother]
    rfl

/-- A level with a lantern that has no texture, and a record that finds the size of one pixel. -/
def sampleUntextured : World ℚ :=
  { (emptyLevel sampleAssets : World ℚ) with
    lanterns := [(spawnActor ⟨true, 1, 1, 1⟩ 0 0).init none 0 0 0] }
def samplePixel : Residue := ⟨⟨1, 1⟩, fun _ => 0⟩

theorem sizeUnset_sample : SizeUnset sampleUntextured samplePixel 0 := by
  have hlantern : sampleUntextured.lanterns[0]? =
      some ((spawnActor ⟨true, 1, 1, 1⟩ 0 0).init none 0 0 0) := rfl
  have htexture : TextureSaveable sampleUntextured.textures none :=
    fun t ht => absurd ht (Option.some_ne_none t).symm
  exact ⟨⟨_, none, hlantern, rfl, htexture, fun o ho => absurd ho List.not_mem_nil⟩,
    ⟨_, hlantern, rfl⟩, by decide, by decide, by decide⟩

theorem colour16_sample : Colour16 sampleNative sampleDecoders sampleText (TEXT "png") := by
  have hformat : imageFormatOf (TEXT "png") = some .PNG := by decide
  refine ⟨.PNG, ⟨1, 1, [255, 255, 0, 0, 0, 0, 255, 255]⟩, hformat, ?_, rfl, one_pos, one_pos⟩
  rw [decodedImage, hformat]
  simp [sampleDecoders, Pipeline.System.sampleEnv]

/-- A level with a lantern whose texture is one red pixel. -/
def sampleTextured : World ℚ :=
  { (emptyLevel sampleAssets : World ℚ) with
    textures := [filledMip 1 1 [255, 0, 0, 255] (by decide) false]
    lanterns := [(spawnActor ⟨true, 1, 1, 1⟩ 0 0).init (some 0) 0 0 0] }

/-- The pixel of an 8-bit image is copied, and that of a lantern is saved and loaded. -/
theorem copiesInBounds_iff_eight : GetRawNative sampleNative sampleDecoders ∧
    base64ToTexture2D sampleDecoders [] sampleText8 (TEXT "png") =
      .ok (sampleTextured.textures, some 0) ∧
    (∃ w lanternData, saveData sampleTextured samplePixel 0 = .ok (w, lanternData) ∧
      loadTexture [] lanternData =
        .ok ([filledMip 1 1 [255, 0, 0, 255] (by decide) true], 0)) ∧
    CopiesInBounds sampleDecoders sampleText8 (TEXT "png") [] sampleTextured samplePixel 0 := by
  have himage : base64ToTexture2D sampleDecoders [] sampleText8 (TEXT "png") =
      .ok (sampleTextured.textures, some 0) := toOption_eq_some.mp (by decide +kernel)
  have hrestored : ((saveData sampleTextured samplePixel 0).toOption.bind fun r =>
      (loadTexture [] r.2).toOption) =
      some ([filledMip 1 1 [255, 0, 0, 255] (by decide) true], 0) := by decide +kernel
  obtain ⟨⟨w, lanternData⟩, hsave, hload⟩ := Option.bind_eq_some_iff.mp hrestored
  refine ⟨getRawNative_sample, himage,
    ⟨w, lanternData, toOption_eq_some.mp hsave, toOption_eq_some.mp hload⟩,
    (copiesInBounds_iff sampleNative sampleDecoders getRawNative_sample _ _ _ _ _ _).mpr ⟨?_, ?_⟩⟩
  · rintro ⟨imageFormat, image, -, -, hnative, -⟩
    have hother : sampleDecoders.base64Decode sampleText8 ≠ sampleFile := by decide
    rw [sampleNative, if_neg hother] at hnative
    cases hnative
  · rintro ⟨-, ⟨l, hl, hnone⟩, -⟩
    rw [← Option.some.inj hl] at hnone
    cases hnone

/-- The image has eight bytes for a texture of four, and the record none for a size of one pixel. -/
theorem not_copiesInBounds : GetRawNative sampleNative sampleDecoders ∧
    base64ToTexture2D sampleDecoders [] sampleText (TEXT "png") = .error .bufferOverrun ∧
    (∃ w lanternData, saveData sampleUntextured samplePixel 0 = .ok (w, lanternData) ∧
      loadTexture [] lanternData = .error .bufferOverrun) ∧
    ¬ CopiesInBounds sampleDecoders sampleText (TEXT "png") [] sampleUntextured samplePixel 0 := by
  have himage : base64ToTexture2D sampleDecoders [] sampleText (TEXT "png") =
      .error .bufferOverrun := by
    by_contra h
    exact (base64ToTexture2D_inBounds_iff_native getRawNative_sample []).mp h colour16_sample
  obtain ⟨l, -, hl, -⟩ := id sizeUnset_sample.1
  have hsave := saveData_eq hl sizeUnset_sample.1 samplePixel
  refine ⟨getRawNative_sample, himage, ⟨_, _, hsave, ?_⟩, fun h => h.base64ToTexture2D himage⟩
  by_contra h
  exact (loadTexture_inBounds_iff_saved hsave []).mp h sizeUnset_sample

end LanternProject.Lantern.TexelCopies
