import LanternProject.Lantern.LanternManager
import LanternProject.Save.LanternSaveGame

/-! # Saving and loading lanterns

`SaveLanternArray` tells every lantern its place in the array and then appends one record for each to
the save object; a record names the neighbours by these places. `LoadLantern` spawns a lantern for
every record, locks its new texture to copy the pixels, and at last turns the places into neighbours
again. What the engine tells the lanterns meanwhile is given to each load (`LoadNotices`).

`saveLanternArray_eq` and `saveLanternArray_ok` say when a save succeeds and what it leaves. -/

namespace LanternProject.Lantern.SaveData

open LanternProject.Engine.Basic LanternProject.Engine.Str LanternProject.Engine.Vector
open LanternProject.Save.LanternSaveGame
open LanternProject.Lantern.LanternActor LanternProject.Lantern.Texture
open LanternProject.Lantern.Level LanternProject.Lantern.LanternManager

variable {K : Type}

/-- The transform of an actor. -/
structure FTransform (K : Type) where
  location : FVector K
  yaw : K
deriving DecidableEq

/-- The record of a lantern; `textureSize` is `none` where it was never written. -/
structure FLanternData (K : Type) where
  textureColors : List UInt8
  textureSize : Option (ℕ × ℕ)
  typeIndex : ℕ
  variationIndex : ℕ
  transform : FTransform K
  backDirection : FVector K
  overlappedLanternIndexArray : List ℕ
deriving DecidableEq

/-! ### Saving -/

/-- `Find`; `-1` is `INDEX_NONE`. -/
def find (lanternArray : List ℕ) (lantern : ℕ) : ℤ :=
  if lantern ∈ lanternArray then (lanternArray.idxOf lantern : ℤ) else -1

/-- `SetLanternArrayIndex`. -/
def setLanternArrayIndex (w : World K) (lantern : ℕ) (lanternArray : List ℕ) :
    Except Fault (World K) := do
  let _ ← w.actor lantern
  .ok (w.modify lantern fun l => { l with lanternArrayIndex := find lanternArray lantern })

/-- The size and the bytes `SaveData` takes from a texture. -/
def saveTexture (ts : Textures) : Option ℕ →
    Except Fault (Textures × Option (ℕ × ℕ) × List UInt8)
  | none => .ok (ts, none, [])
  | some texture =>
    match ts[texture]? with
    | none => .error .nullPointer
    | some mip => do
      let dataLength := mip.sizeX * mip.sizeY * 4
      let ts ← lock ts texture
      let textureColors ← memcpyFrom mip.bulkData dataLength
      let ts ← unlock ts texture
      .ok (ts, some (mip.sizeX, mip.sizeY), textureColors)

/-- The places of the neighbours, as `SaveData` records them. -/
def overlappedIndices (w : World K) : List ℕ → Except Fault (List ℕ)
  | [] => .ok []
  | lantern :: neighborArray => do
    let l ← w.actor lantern
    let indices ← overlappedIndices w neighborArray
    .ok (toUInt32 l.lanternArrayIndex :: indices)

/-- `SaveData`. -/
def saveData (w : World K) (lantern : ℕ) : Except Fault (World K × FLanternData K) := do
  let l ← w.actor lantern
  match l.material with
  | none => .error .nullPointer
  | some texture => do
    let (textures, textureSize, textureColors) ← saveTexture w.textures texture
    let overlappedLanternIndexArray ← overlappedIndices w l.neighborArray
    .ok ({ w with textures := textures },
      { textureColors, textureSize
        typeIndex := l.typeIndex
        variationIndex := l.variationIndex
        transform := ⟨l.location, l.yaw⟩
        backDirection := l.backDirection
        overlappedLanternIndexArray })

/-- The first loop of `SaveLanternArray`. -/
def setLanternArrayIndices (lanternArray : List ℕ) (w : World K) : List ℕ → Except Fault (World K)
  | [] => .ok w
  | lantern :: lanterns => do
    let w ← setLanternArrayIndex w lantern lanternArray
    setLanternArrayIndices lanternArray w lanterns

/-- The second loop of `SaveLanternArray`. -/
def addLanternData (w : World K) (g : ULanternSaveGame (FLanternData K)) : List ℕ →
    Except Fault (World K × ULanternSaveGame (FLanternData K))
  | [] => .ok (w, g)
  | lantern :: lanterns => do
    let (w, lanternData) ← saveData w lantern
    addLanternData w { g with lanternDataArray := g.lanternDataArray ++ [lanternData] } lanterns

/-- `SaveLanternArray`. -/
def saveLanternArray (w : World K) (g : ULanternSaveGame (FLanternData K))
    (lanternArray : List ℕ) : Except Fault (World K × ULanternSaveGame (FLanternData K)) := do
  let w ← setLanternArrayIndices lanternArray w lanternArray
  addLanternData w g lanternArray

/-! ### What a save leaves -/

section Saved
variable {w w' : World K} {g g' : ULanternSaveGame (FLanternData K)} {lanternArray : List ℕ}

/-- Saving the lantern ends no process: it has a material, the texture of the material is unlocked,
and its neighbours are lanterns. -/
def Saveable (w : World K) (lantern : ℕ) : Prop :=
  ∃ l texture, w.lanterns[lantern]? = some l ∧ l.material = some texture ∧
    (∀ t, texture = some t → ∃ mip, w.textures[t]? = some mip ∧ mip.locked = false) ∧
    ∀ o ∈ l.neighborArray, o < w.lanterns.length

/-- The texture on a lantern. -/
def textureOf (w : World K) (l : ALanternActor K) : Option FTexture2DMipMap :=
  l.material.join.bind fun t => w.textures[t]?

/-- The place a lantern was told. -/
def placeOf (w : World K) (lantern : ℕ) : ℤ :=
  ((w.lanterns[lantern]?).map (·.lanternArrayIndex)).getD 0

/-- The record of a lantern. -/
def recordOf (w : World K) (l : ALanternActor K) : FLanternData K where
  textureColors := ((textureOf w l).map (·.bulkData)).getD []
  textureSize := (textureOf w l).map fun mip => (mip.sizeX, mip.sizeY)
  typeIndex := l.typeIndex
  variationIndex := l.variationIndex
  transform := ⟨l.location, l.yaw⟩
  backDirection := l.backDirection
  overlappedLanternIndexArray := l.neighborArray.map fun o => toUInt32 (placeOf w o)

/-- The level after the lanterns `ns` were told their places. -/
def indexed (lanternArray ns : List ℕ) (w : World K) : World K :=
  { w with lanterns := w.lanterns.mapIdx fun n l =>
    if n ∈ ns then { l with lanternArrayIndex := find lanternArray n } else l }

theorem getElem?_indexed (lanternArray ns : List ℕ) (w : World K) (n : ℕ) :
    (indexed lanternArray ns w).lanterns[n]? = (w.lanterns[n]?).map fun l =>
      if n ∈ ns then { l with lanternArrayIndex := find lanternArray n } else l := by
  unfold indexed
  rw [List.getElem?_mapIdx]

theorem map_getElem?_indexed {α : Type} {f : ALanternActor K → α}
    (hf : ∀ l place, f { l with lanternArrayIndex := place } = f l) (lanternArray ns : List ℕ)
    (w : World K) (n : ℕ) :
    ((indexed lanternArray ns w).lanterns[n]?).map f = (w.lanterns[n]?).map f := by
  rw [getElem?_indexed, Option.map_map]
  congr 1
  funext l
  by_cases hn : n ∈ ns
  · simp [hn, hf]
  · simp [hn]

theorem length_indexed (lanternArray ns : List ℕ) (w : World K) :
    (indexed lanternArray ns w).lanterns.length = w.lanterns.length := List.length_mapIdx

theorem setLanternArrayIndices_eq : ∀ (ns : List ℕ) {w : World K},
    (∀ n ∈ ns, n < w.lanterns.length) →
      setLanternArrayIndices lanternArray w ns = .ok (indexed lanternArray ns w)
  | [], w, _ => by
    have hsame : indexed lanternArray [] w = w := by
      refine World.ext rfl rfl (List.ext_getElem? fun k => ?_) rfl rfl
      rw [getElem?_indexed]
      simp
    rw [setLanternArrayIndices, hsame]
  | n :: ns, w, h => by
    have hn : n < w.lanterns.length := h n List.mem_cons_self
    have hact : w.actor n = .ok w.lanterns[n] := actor_ok.mpr (List.getElem?_eq_getElem hn)
    have hns : ∀ k ∈ ns, k < (w.modify n fun l =>
        { l with lanternArrayIndex := find lanternArray n }).lanterns.length := by
      intro k hk
      rw [length_modify]
      exact h k (List.mem_cons_of_mem _ hk)
    simp only [setLanternArrayIndices, setLanternArrayIndex, hact, bind, Except.bind]
    rw [setLanternArrayIndices_eq ns hns]
    refine congrArg Except.ok (World.ext rfl rfl (List.ext_getElem? fun k => ?_) rfl rfl)
    rw [getElem?_indexed, getElem?_indexed, getElem?_modify, Option.map_map]
    congr 1
    funext l
    by_cases hk : k ∈ ns
    · by_cases hnk : n = k
      · simp [hk, hnk]
      · simp [hk, hnk]
    · by_cases hnk : n = k
      · simp [hk, hnk]
      · simp [hk, hnk, eq_comm]

theorem setLanternArrayIndices_ok : ∀ (ns : List ℕ) {w w' : World K},
    setLanternArrayIndices lanternArray w ns = .ok w' → ∀ n ∈ ns, n < w.lanterns.length
  | [], _, _, _ => by simp
  | n :: ns, w, w', h => by
    obtain ⟨v, hv, h⟩ := bind_ok.mp h
    obtain ⟨l, hl, hv⟩ := bind_ok.mp hv
    have hlen := setLanternArrayIndices_ok ns h
    rw [← Except.ok.inj hv, length_modify] at hlen
    intro k hk
    rcases List.mem_cons.mp hk with rfl | hk
    · exact (List.getElem?_eq_some_iff.mp (actor_ok.mp hl)).1
    · exact hlen k hk

theorem saveTexture_eq {ts : Textures} {texture : Option ℕ}
    (h : ∀ t, texture = some t → ∃ mip, ts[t]? = some mip ∧ mip.locked = false) :
    saveTexture ts texture = .ok (ts, (texture.bind fun t => ts[t]?).map
      (fun mip => (mip.sizeX, mip.sizeY)),
      ((texture.bind fun t => ts[t]?).map (·.bulkData)).getD []) := by
  rcases texture with _ | t
  · rfl
  · obtain ⟨mip, hmip, hfree⟩ := h t rfl
    have hlock := lock_free hmip hfree
    have hcopy : memcpyFrom mip.bulkData (mip.sizeX * mip.sizeY * 4) = .ok mip.bulkData := by
      rw [memcpyFrom, ← mip.length_bulkData, if_pos le_rfl, List.take_length]
    have hunlock := unlock_set_locked hmip hfree
    simp only [saveTexture, hmip, hlock, hcopy, hunlock, bind, Except.bind, Option.bind_some,
      Option.map_some, Option.getD_some]

theorem saveTexture_ok {ts : Textures} {texture : Option ℕ}
    {r : Textures × Option (ℕ × ℕ) × List UInt8} (h : saveTexture ts texture = .ok r) :
    ∀ t, texture = some t → ∃ mip, ts[t]? = some mip ∧ mip.locked = false := by
  rintro t rfl
  rcases hmip : ts[t]? with _ | mip
  · simp only [saveTexture, hmip] at h
    cases h
  · simp only [saveTexture, hmip] at h
    obtain ⟨ts', hlock, -⟩ := bind_ok.mp h
    refine ⟨mip, rfl, ?_⟩
    rw [lock, hmip] at hlock
    by_contra hlocked
    simp only [Bool.not_eq_false] at hlocked
    simp [hlocked] at hlock

theorem overlappedIndices_eq : ∀ {ns : List ℕ}, (∀ o ∈ ns, o < w.lanterns.length) →
    overlappedIndices w ns = .ok (ns.map fun o => toUInt32 (placeOf w o))
  | [], _ => rfl
  | o :: ns, h => by
    have ho : o < w.lanterns.length := h o List.mem_cons_self
    have hl : w.lanterns[o]? = some w.lanterns[o] := List.getElem?_eq_getElem ho
    have hplace : placeOf w o = w.lanterns[o].lanternArrayIndex := by
      rw [placeOf, hl]
      rfl
    simp only [overlappedIndices, actor_ok.mpr hl, bind, Except.bind,
      overlappedIndices_eq fun o ho => h o (List.mem_cons_of_mem _ ho), List.map_cons, hplace]

theorem overlappedIndices_ok : ∀ {ns indices : List ℕ}, overlappedIndices w ns = .ok indices →
    ∀ o ∈ ns, o < w.lanterns.length
  | [], _, _ => by simp
  | o :: ns, _, h => by
    obtain ⟨l, hl, h⟩ := bind_ok.mp h
    obtain ⟨indices, hi, -⟩ := bind_ok.mp h
    intro k hk
    rcases List.mem_cons.mp hk with rfl | hk
    · exact (List.getElem?_eq_some_iff.mp (actor_ok.mp hl)).1
    · exact overlappedIndices_ok hi k hk

/-- **What `SaveData` records.** -/
theorem saveData_eq {n : ℕ} {l : ALanternActor K} (hl : w.lanterns[n]? = some l)
    (hs : Saveable w n) : saveData w n = .ok (w, recordOf w l) := by
  obtain ⟨l', texture, hl', hmat, htex, hnb⟩ := hs
  obtain rfl : l = l' := Option.some.inj (hl.symm.trans hl')
  simp only [saveData, actor_ok.mpr hl, hmat, saveTexture_eq htex, overlappedIndices_eq hnb, bind,
    Except.bind, recordOf, textureOf, Option.join_some]

theorem saveData_ok {n : ℕ} {r : World K × FLanternData K} (h : saveData w n = .ok r) :
    Saveable w n := by
  obtain ⟨l, hl, h⟩ := bind_ok.mp h
  rcases hmat : l.material with _ | texture
  · rw [hmat] at h
    cases h
  · simp only [hmat] at h
    obtain ⟨saved, htex, h⟩ := bind_ok.mp h
    obtain ⟨indices, hi, -⟩ := bind_ok.mp h
    exact ⟨l, texture, actor_ok.mp hl, hmat, saveTexture_ok htex, overlappedIndices_ok hi⟩

/-- The record of the lantern `n`. -/
def IsRecord (w : World K) (n : ℕ) (lanternData : FLanternData K) : Prop :=
  ∃ l, w.lanterns[n]? = some l ∧ lanternData = recordOf w l

theorem addLanternData_eq : ∀ {ns : List ℕ} {g : ULanternSaveGame (FLanternData K)},
    (∀ n ∈ ns, Saveable w n) → ∃ records, List.Forall₂ (IsRecord w) ns records ∧
      addLanternData w g ns =
        .ok (w, { g with lanternDataArray := g.lanternDataArray ++ records })
  | [], g, _ => ⟨[], List.Forall₂.nil, by rw [addLanternData, List.append_nil]⟩
  | n :: ns, g, h => by
    have hn := h n List.mem_cons_self
    obtain ⟨l, -, hl, -⟩ := hn
    have hsave := saveData_eq hl (h n List.mem_cons_self)
    obtain ⟨records, hrec, hrest⟩ := addLanternData_eq
      (g := { g with lanternDataArray := g.lanternDataArray ++ [recordOf w l] })
      fun k hk => h k (List.mem_cons_of_mem _ hk)
    refine ⟨recordOf w l :: records, List.Forall₂.cons ⟨l, hl, rfl⟩ hrec, ?_⟩
    simp only [addLanternData, hsave, bind, Except.bind, hrest, List.append_assoc,
      List.singleton_append]

theorem addLanternData_ok : ∀ {ns : List ℕ} {g : ULanternSaveGame (FLanternData K)}
    {r : World K × ULanternSaveGame (FLanternData K)}, addLanternData w g ns = .ok r →
      ∀ n ∈ ns, Saveable w n
  | [], _, _, _ => by simp
  | n :: ns, g, r, h => by
    obtain ⟨⟨w', lanternData⟩, hs, hrest⟩ := bind_ok.mp h
    have hn := saveData_ok hs
    obtain ⟨l, -, hl, -⟩ := id hn
    rw [saveData_eq hl hn] at hs
    obtain ⟨rfl, rfl⟩ := Prod.mk.inj (Except.ok.inj hs)
    intro k hk
    rcases List.mem_cons.mp hk with rfl | hk
    · exact hn
    · exact addLanternData_ok hrest k hk

/-- What does not mention the place of a lantern holds as before it was told one. -/
theorem exists_indexed {ns : List ℕ} {n : ℕ} {P : ALanternActor K → Prop}
    (hP : ∀ l place, P { l with lanternArrayIndex := place } ↔ P l) :
    (∃ l, (indexed lanternArray ns w).lanterns[n]? = some l ∧ P l) ↔
      ∃ l, w.lanterns[n]? = some l ∧ P l := by
  simp only [getElem?_indexed, Option.map_eq_some_iff]
  constructor
  · rintro ⟨l', ⟨l, hl, rfl⟩, h⟩
    refine ⟨l, hl, ?_⟩
    split_ifs at h
    · exact (hP l _).mp h
    · exact h
  · rintro ⟨l, hl, h⟩
    refine ⟨_, ⟨l, hl, rfl⟩, ?_⟩
    split_ifs
    · exact (hP l _).mpr h
    · exact h

/-- Being told places changes nothing about saving. -/
theorem saveable_indexed (ns : List ℕ) (n : ℕ) :
    Saveable (indexed lanternArray ns w) n ↔ Saveable w n := by
  have htex : (indexed lanternArray ns w).textures = w.textures := rfl
  unfold Saveable
  rw [length_indexed, htex]
  simp only [exists_and_left]
  exact exists_indexed fun l place => Iff.rfl

/-- `SaveLanternArray` tells the lanterns their places, and appends their records. -/
theorem saveLanternArray_eq (g : ULanternSaveGame (FLanternData K))
    (h : ∀ n ∈ lanternArray, Saveable w n) :
    ∃ records, List.Forall₂ (IsRecord (indexed lanternArray lanternArray w)) lanternArray records ∧
      saveLanternArray w g lanternArray = .ok (indexed lanternArray lanternArray w,
        { g with lanternDataArray := g.lanternDataArray ++ records }) := by
  have hlt : ∀ n ∈ lanternArray, n < w.lanterns.length := by
    intro n hn
    obtain ⟨l, -, hl, -⟩ := h n hn
    exact (List.getElem?_eq_some_iff.mp hl).1
  obtain ⟨records, hrec, hadd⟩ := addLanternData_eq (w := indexed lanternArray lanternArray w)
    (g := g) fun n hn => (saveable_indexed lanternArray n).mpr (h n hn)
  refine ⟨records, hrec, ?_⟩
  simp only [saveLanternArray, setLanternArrayIndices_eq lanternArray hlt, bind, Except.bind, hadd]

/-- It succeeds only if every lantern can be saved. -/
theorem saveLanternArray_ok (h : saveLanternArray w g lanternArray = .ok (w', g')) :
    ∀ n ∈ lanternArray, Saveable w n := by
  obtain ⟨v, hv, h⟩ := bind_ok.mp h
  rw [setLanternArrayIndices_eq lanternArray (setLanternArrayIndices_ok lanternArray hv)] at hv
  rw [← Except.ok.inj hv] at h
  intro n hn
  exact (saveable_indexed lanternArray n).mp (addLanternData_ok h n hn)

/-- **What `SaveLanternArray` does.** -/
theorem saveLanternArray_cases (h : saveLanternArray w g lanternArray = .ok (w', g')) :
    (∀ n ∈ lanternArray, Saveable w n) ∧ w' = indexed lanternArray lanternArray w ∧
      ∃ records, List.Forall₂ (IsRecord w') lanternArray records ∧
        g' = { g with lanternDataArray := g.lanternDataArray ++ records } := by
  have hs := saveLanternArray_ok h
  obtain ⟨records, hrec, heq⟩ := saveLanternArray_eq g hs
  rw [heq] at h
  obtain ⟨rfl, rfl⟩ := Prod.mk.inj (Except.ok.inj h)
  exact ⟨hs, rfl, records, hrec, rfl⟩

/-- The place a lantern of the array was told. -/
theorem placeOf_indexed {n : ℕ} (hn : n ∈ lanternArray) (hlt : n < w.lanterns.length) :
    placeOf (indexed lanternArray lanternArray w) n = lanternArray.idxOf n := by
  unfold placeOf
  rw [getElem?_indexed, List.getElem?_eq_getElem hlt]
  simp [hn, find]

/-- The record of a lantern does not depend on its own place. -/
theorem isRecord_indexed {ns : List ℕ} {n : ℕ} {lanternData : FLanternData K}
    (h : IsRecord (indexed lanternArray ns w) n lanternData) :
    ∃ l, w.lanterns[n]? = some l ∧ lanternData = recordOf (indexed lanternArray ns w) l := by
  obtain ⟨l', hl', rfl⟩ := h
  rw [getElem?_indexed] at hl'
  obtain ⟨l, hl, rfl⟩ := Option.map_eq_some_iff.mp hl'
  refine ⟨l, hl, ?_⟩
  split_ifs <;> rfl

/-- The recorded places are those of the neighbours, if these are in the array. -/
theorem overlapped_recordOf {l : ALanternActor K} (hlen : lanternArray.length < 2 ^ 31)
    (hin : ∀ o ∈ l.neighborArray, o ∈ lanternArray ∧ o < w.lanterns.length) :
    (recordOf (indexed lanternArray lanternArray w) l).overlappedLanternIndexArray =
      l.neighborArray.map fun o => lanternArray.idxOf o := by
  refine List.map_congr_left fun o ho => ?_
  obtain ⟨hmem, hlt⟩ := hin o ho
  have hidx := List.idxOf_lt_length_iff.mpr hmem
  rw [placeOf_indexed hmem hlt, toUInt32_natCast (by omega)]

/-- These places are positions of the array, and identify the neighbours. -/
theorem getElem?_idxOf_map {os : List ℕ} (hin : ∀ o ∈ os, o ∈ lanternArray) :
    (os.map fun o => lanternArray.idxOf o).map (fun k => lanternArray[k]?) = os.map some := by
  rw [List.map_map]
  refine List.map_congr_left fun o ho => ?_
  rw [Function.comp_apply, List.getElem?_idxOf (hin o ho)]

end Saved

/-! ### Loading -/

variable [Field K] [LinearOrder K]

/-- What the engine tells the lanterns while one is loaded. -/
structure LoadNotices where
  atSpawn : List Notice
  atMove : List Notice

/-- A lantern loaded from its record; the mip stays locked. -/
def loadLanternData (m : ALanternManager K) (w : World K) (lanternData : FLanternData K)
    (notices : LoadNotices) : Except Fault (World K) := do
  let classes ← index .lanternTypeArray m.lanternTypeArray lanternData.typeIndex
  let lanternClass ← index .lanternClass classes lanternData.variationIndex
  let lantern := w.lanterns.length
  let w := { w with
    lanterns := w.lanterns ++ [spawnActor lanternClass m.actorLocation m.spawnYaw] }
  let w := notices.atSpawn.foldl notify w
  match lanternData.textureSize with
  -- without a size there are no bytes either: any texture is too large for them
  | none => .error .bufferOverrun
  | some (sizeX, sizeY) =>
    match createTransient w.textures sizeX sizeY with
    | (_, none) => .error .nullPointer
    | (textures, some newTexture) => do
      let textures ← lock textures newTexture
      let pixels ← memcpyFrom lanternData.textureColors (sizeX * sizeY * 4)
      let textures ← memcpyTo textures newTexture pixels
      let w := { w with textures := textures }
      let w := w.modify lantern fun l =>
        ((l.init newTexture lanternData.backDirection lanternData.typeIndex
            lanternData.variationIndex).setData m.cameraLocation m.actorLocation
          (m.actorLocation + m.targetLocation) m.widthLimit m.heightLimit m.distance).setLanternSpeed
            m.backSpeed m.upSpeed m.sideSpeed
      let w := w.modify lantern fun l => l.setActorLocation lanternData.transform.location
      let w := notices.atMove.foldl notify w
      .ok { w with lanternArray := w.lanternArray ++ [lantern] }

/-- The first loop of `LoadLantern`, from record `i` on. -/
def loadLanterns (m : ALanternManager K) (notices : ℕ → LoadNotices) (w : World K) (i : ℕ) :
    List (FLanternData K) → Except Fault (World K)
  | [] => .ok w
  | lanternData :: lanternDataArray => do
    let w ← loadLanternData m w lanternData (notices i)
    loadLanterns m notices w (i + 1) lanternDataArray

/-- The neighbours of the lantern at place `i`, from their places. -/
def addNeighbors (w : World K) (i : ℕ) : List ℕ → Except Fault (World K)
  | [] => .ok w
  | lanternIndex :: lanternIndices => do
    let lantern ← index .lanternArray w.lanternArray i
    let newNeighborLantern ← indexInt .lanternArray w.lanternArray (toInt32 lanternIndex)
    let _ ← w.actor lantern
    addNeighbors (w.modify lantern fun l => l.addNeighborLantern newNeighborLantern) i
      lanternIndices

/-- The second loop of `LoadLantern`, over the places `is`. -/
def addAllNeighbors (lanternDataArray : List (FLanternData K)) (w : World K) : List ℕ →
    Except Fault (World K)
  | [] => .ok w
  | i :: is => do
    let lanternData ← index .lanternDataArray lanternDataArray i
    let w ← addNeighbors w i lanternData.overlappedLanternIndexArray
    addAllNeighbors lanternDataArray w is

/-- `LoadLantern`. -/
def loadLantern (m : ALanternManager K) (w : World K) (lanternDataArray : List (FLanternData K))
    (notices : ℕ → LoadNotices) : Except Fault (World K) := do
  let w ← loadLanterns m notices w 0 lanternDataArray
  addAllNeighbors lanternDataArray w (List.range w.lanternArray.length)

/-- `LoadLanternArray`. -/
def loadLanternArray (m : ALanternManager K) (w : World K) (g : ULanternSaveGame (FLanternData K))
    (notices : ℕ → LoadNotices) : Except Fault (World K × ULanternSaveGame (FLanternData K)) := do
  let w ← loadLantern m w g.lanternDataArray notices
  .ok (w, { g with lanternDataArray := [] })

end LanternProject.Lantern.SaveData
