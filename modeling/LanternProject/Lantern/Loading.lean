import LanternProject.Lantern.SaveData

/-! # What a load leaves

A record can be loaded if the manager has its class and its bytes fill its texture (`Loadable`).
`loaded` is the level after one record and `loadedAll` after all of them, with everything the engine
tells the lanterns meanwhile; apart from neighbours it is the level `restoredIn` a silent engine, whose
lanterns, textures and array are listed below. -/

namespace LanternProject.Lantern.Loading

open LanternProject.Engine.Basic LanternProject.Engine.Str LanternProject.Engine.Vector
open LanternProject.Save.LanternSaveGame
open LanternProject.Lantern.LanternActor LanternProject.Lantern.Texture
open LanternProject.Lantern.Level LanternProject.Lantern.LanternManager
open LanternProject.Lantern.SaveData

variable {K : Type} [Field K] [LinearOrder K]

/-- The class of a type and a variation. -/
def classOf (m : ALanternManager K) (typeIndex variationIndex : ℕ) : Option (LanternClass K) :=
  (m.lanternTypeArray[typeIndex]?).bind fun classes => classes[variationIndex]?

/-- The mip a record is loaded into; it stays locked. -/
def mipOf (lanternData : FLanternData K) : Option FTexture2DMipMap :=
  lanternData.textureSize.bind fun size =>
    if (0 < size.1 ∧ 0 < size.2) ∧ size.1 * size.2 * 4 ≤ lanternData.textureColors.length then
      some (filledMip size.1 size.2 (lanternData.textureColors.take (size.1 * size.2 * 4))
        (by simp) true)
    else none

/-- A record that can be loaded. -/
structure Loadable (m : ALanternManager K) where
  data : FLanternData K
  lanternClass : LanternClass K
  mip : FTexture2DMipMap
  class_eq : classOf m data.typeIndex data.variationIndex = some lanternClass
  mip_eq : mipOf data = some mip

variable {m : ALanternManager K} {w w' : World K}

/-- A lantern with the settings of the manager and of its record. -/
def outfittedFrom (r : Loadable m) (texture : ℕ) (l : ALanternActor K) : ALanternActor K :=
  (outfitted m m.actorLocation (some texture) r.data.backDirection r.data.typeIndex
    r.data.variationIndex l).setActorLocation r.data.transform.location

/-- The level with a lantern for the record, as `SpawnActor` places it. -/
def placedFor (w : World K) (r : Loadable m) : World K :=
  { w with
    lanterns := w.lanterns ++ [spawnActor r.lanternClass m.actorLocation m.spawnYaw] }

/-- The lantern `n` of the level `v` is given its texture and its settings. -/
def outfittedIn (v : World K) (n : ℕ) (r : Loadable m) : World K :=
  ({ v with textures := v.textures ++ [r.mip] } : World K).modify n
    (outfittedFrom r v.textures.length)

/-- The level after a record is loaded. -/
def loaded (w : World K) (r : Loadable m) (notices : LoadNotices) : World K :=
  let v := notices.atSpawn.foldl notify (placedFor w r)
  let u := notices.atMove.foldl notify (outfittedIn v w.lanterns.length r)
  { u with lanternArray := u.lanternArray ++ [w.lanterns.length] }

/-- The level after records are loaded, with the notices from number `i` on. -/
def loadedAll (notices : ℕ → LoadNotices) (w : World K) (i : ℕ) : List (Loadable m) → World K
  | [] => w
  | r :: rs => loadedAll notices (loaded w r (notices i)) (i + 1) rs

omit [Field K] [LinearOrder K] in
theorem mipOf_eq_some {d : FLanternData K} {mip : FTexture2DMipMap} : mipOf d = some mip ↔
    ∃ sizeX sizeY, d.textureSize = some (sizeX, sizeY) ∧
      ((0 < sizeX ∧ 0 < sizeY) ∧ sizeX * sizeY * 4 ≤ d.textureColors.length) ∧
      mip = filledMip sizeX sizeY (d.textureColors.take (sizeX * sizeY * 4)) (by simp) true := by
  unfold mipOf
  rcases d.textureSize with _ | ⟨sizeX, sizeY⟩
  · simp
  · by_cases hsize : (0 < sizeX ∧ 0 < sizeY) ∧ sizeX * sizeY * 4 ≤ d.textureColors.length
    · simp [hsize, eq_comm]
    · simp only [Option.bind_some, if_neg hsize, Option.some.injEq, Prod.mk.injEq]
      constructor
      · intro h
        cases h
      · rintro ⟨x, y, ⟨rfl, rfl⟩, h, -⟩
        exact absurd h hsize

omit [Field K] [LinearOrder K] in
/-- The record of a textured lantern is loaded into a mip of the same size and bytes. -/
theorem mipOf_recordOf {w : World K} {l : ALanternActor K} {mip : FTexture2DMipMap}
    (h : textureOf w l = some mip) (hpos : 0 < mip.sizeX ∧ 0 < mip.sizeY) :
    mipOf (recordOf w l) = some { mip with locked := true } := by
  have hlen := mip.length_bulkData
  have hsize : (recordOf w l).textureSize = some (mip.sizeX, mip.sizeY) := by
    rw [recordOf, h]
    rfl
  have hcolors : (recordOf w l).textureColors = mip.bulkData := by
    rw [recordOf, h]
    rfl
  refine mipOf_eq_some.mpr ⟨mip.sizeX, mip.sizeY, hsize, ⟨hpos, by rw [hcolors, hlen]⟩, ?_⟩
  simp only [hcolors, filledMip, FTexture2DMipMap.write, emptyMip, ← hlen, List.take_length,
    List.drop_replicate, Nat.sub_self, List.replicate_zero, List.append_nil]

omit [Field K] [LinearOrder K] in
theorem isSome_mipOf_recordOf {w : World K} {l : ALanternActor K} :
    (mipOf (recordOf w l)).isSome ↔
      ∃ mip, textureOf w l = some mip ∧ 0 < mip.sizeX ∧ 0 < mip.sizeY := by
  constructor
  · intro h
    obtain ⟨_, hmip⟩ := Option.isSome_iff_exists.mp h
    obtain ⟨sizeX, sizeY, hsize, ⟨hpos, -⟩, -⟩ := mipOf_eq_some.mp hmip
    obtain ⟨mip, htex, hmip⟩ := Option.map_eq_some_iff.mp hsize
    obtain ⟨rfl, rfl⟩ := Prod.mk.inj hmip
    exact ⟨mip, htex, hpos⟩
  · rintro ⟨mip, htex, hpos⟩
    rw [mipOf_recordOf htex hpos]
    rfl

omit [Field K] [LinearOrder K] in
theorem modify_modify (w : World K) (n : ℕ) (f f' : ALanternActor K → ALanternActor K) :
    (w.modify n f).modify n f' = w.modify n fun l => f' (f l) := by
  refine World.ext rfl rfl (List.ext_getElem? fun k => ?_) rfl rfl
  rw [getElem?_modify, getElem?_modify, getElem?_modify, Option.map_map]
  congr 1
  funext l
  by_cases h : n = k
  · simp [h]
  · simp [h]

/-- **Loading one record** succeeds exactly if it can be loaded. -/
theorem loadLanternData_ok {d : FLanternData K} {notices : LoadNotices} :
    loadLanternData m w d notices = .ok w' ↔
      ∃ r : Loadable m, r.data = d ∧ w' = loaded w r notices := by
  unfold loadLanternData
  constructor
  · intro h
    obtain ⟨classes, hclasses, h⟩ := bind_ok.mp h
    obtain ⟨c, hc, h⟩ := bind_ok.mp h
    have hclass : classOf m d.typeIndex d.variationIndex = some c := by
      rw [classOf, index_ok.mp hclasses, Option.bind_some, index_ok.mp hc]
    dsimp only at h
    split at h
    · cases h
    · rename_i sizeX sizeY hsize
      unfold createTransient at h
      by_cases hpos : 0 < sizeX ∧ 0 < sizeY
      · simp only [if_pos hpos] at h
        rw [lock_memcpyTo_new] at h
        split_ifs at h with hlen
        refine ⟨⟨d, c, _, hclass, mipOf_eq_some.mpr ⟨sizeX, sizeY, hsize, ⟨hpos, hlen⟩, rfl⟩⟩,
          rfl, ?_⟩
        rw [← Except.ok.inj h, modify_modify]
        rfl
      · simp only [if_neg hpos] at h
        cases h
  · rintro ⟨⟨d, c, mip, hclass, hmip⟩, rfl, rfl⟩
    obtain ⟨classes, hclasses, hc⟩ := Option.bind_eq_some_iff.mp hclass
    obtain ⟨sizeX, sizeY, hsize, ⟨hpos, hlen⟩, rfl⟩ := mipOf_eq_some.mp hmip
    refine bind_ok.mpr ⟨classes, index_ok.mpr hclasses, bind_ok.mpr ⟨c, index_ok.mpr hc, ?_⟩⟩
    simp only [hsize, createTransient, if_pos hpos]
    rw [lock_memcpyTo_new, if_pos hlen, modify_modify]
    rfl

/-- The same for all records. -/
theorem loadLanterns_ok {notices : ℕ → LoadNotices} : ∀ {ds : List (FLanternData K)}
    {w w' : World K} {i : ℕ}, loadLanterns m notices w i ds = .ok w' ↔
      ∃ rs : List (Loadable m), rs.map (·.data) = ds ∧ w' = loadedAll notices w i rs
  | [], w, w', i => by
    unfold loadLanterns
    constructor
    · intro h
      exact ⟨[], rfl, (Except.ok.inj h).symm⟩
    · rintro ⟨rs, hrs, rfl⟩
      rw [List.map_eq_nil_iff.mp hrs]
      rfl
  | d :: ds, w, w', i => by
    unfold loadLanterns
    rw [bind_ok]
    constructor
    · rintro ⟨v, hv, h⟩
      obtain ⟨r, hr, rfl⟩ := loadLanternData_ok.mp hv
      obtain ⟨rs, hrs, rfl⟩ := loadLanterns_ok.mp h
      exact ⟨r :: rs, by rw [List.map_cons, hr, hrs], rfl⟩
    · rintro ⟨rs, hrs, rfl⟩
      rcases rs with _ | ⟨r, rs⟩
      · exact absurd hrs (by simp)
      · obtain ⟨hr, hrs⟩ := List.cons.inj hrs
        exact ⟨loaded w r (notices i), loadLanternData_ok.mpr ⟨r, hr, rfl⟩,
          loadLanterns_ok.mpr ⟨rs, hrs, rfl⟩⟩

omit [Field K] [LinearOrder K] in
theorem loadables_iff {ds : List (FLanternData K)} :
    (∃ rs : List (Loadable m), rs.map (·.data) = ds) ↔
      ∀ d ∈ ds, (classOf m d.typeIndex d.variationIndex).isSome ∧ (mipOf d).isSome := by
  constructor
  · rintro ⟨rs, rfl⟩ d hd
    obtain ⟨r, -, rfl⟩ := List.mem_map.mp hd
    rw [r.class_eq, r.mip_eq]
    exact ⟨rfl, rfl⟩
  · induction ds with
    | nil => exact fun _ => ⟨[], rfl⟩
    | cons d ds ih =>
      intro h
      obtain ⟨rs, hrs⟩ := ih fun d hd => h d (List.mem_cons_of_mem _ hd)
      obtain ⟨hclass, hmip⟩ := h d List.mem_cons_self
      obtain ⟨c, hc⟩ := Option.isSome_iff_exists.mp hclass
      obtain ⟨mip, hmip⟩ := Option.isSome_iff_exists.mp hmip
      exact ⟨⟨d, c, mip, hc, hmip⟩ :: rs, by rw [List.map_cons, hrs]⟩

/-! ### Apart from neighbours -/

/-- The restored lantern, before it has neighbours. -/
def restored (r : Loadable m) (texture : ℕ) : ALanternActor K :=
  outfittedFrom r texture (spawnActor r.lanternClass m.actorLocation m.spawnYaw)

/-- The level after a silent engine restored the lantern. -/
def restoredIn (w : World K) (r : Loadable m) : World K :=
  { w with
    textures := w.textures ++ [r.mip]
    lanterns := w.lanterns ++ [restored r w.textures.length]
    lanternArray := w.lanternArray ++ [w.lanterns.length] }

theorem outfittedFrom_withNeighbors (r : Loadable m) (texture : ℕ) (l : ALanternActor K)
    (ns : List ℕ) (ticks : Bool) : outfittedFrom r texture (withNeighbors l ns ticks) =
      withNeighbors (outfittedFrom r texture l) ns true := by
  rw [outfittedFrom, outfitted_withNeighbors]
  rfl

theorem neighborArray_outfittedFrom (r : Loadable m) (texture : ℕ) (l : ALanternActor K) :
    (outfittedFrom r texture l).neighborArray = l.neighborArray :=
  neighborArray_outfitted m m.actorLocation (some texture) r.data.backDirection r.data.typeIndex
    r.data.variationIndex l

/-- Giving the last lantern its settings, whoever its neighbours are. -/
theorem onlyNeighbors_outfittedIn {v : World K} {r : Loadable m}
    (h : OnlyNeighbors (placedFor w r) v) : ∀ k : ℕ, ∃ (ns : List ℕ) (ticks : Bool),
      (outfittedIn v w.lanterns.length r).lanterns[k]? =
        ((restoredIn w r).lanterns[k]?).map (withNeighbors · ns ticks) := by
  intro k
  obtain ⟨ns, ticks, hk⟩ := h.lanterns k
  have htex : v.textures = w.textures := h.textures
  rw [outfittedIn, getElem?_modify]
  dsimp only
  rw [hk, Option.map_map, placedFor, restoredIn]
  dsimp only
  by_cases hlen : k = w.lanterns.length
  · refine ⟨ns, true, ?_⟩
    rw [hlen, List.getElem?_concat_length, List.getElem?_concat_length, Option.map_some,
      Option.map_some, Function.comp_apply, if_pos rfl, outfittedFrom_withNeighbors, htex]
    rfl
  · refine ⟨ns, ticks, ?_⟩
    rw [getElem?_concat_of_ne hlen, getElem?_concat_of_ne hlen]
    congr 1
    funext l
    rw [Function.comp_apply, if_neg fun he => hlen he.symm]

theorem onlyNeighbors_loaded (w : World K) (r : Loadable m) (notices : LoadNotices) :
    OnlyNeighbors (restoredIn w r) (loaded w r notices) := by
  have hspawn : OnlyNeighbors (placedFor w r) (notices.atSpawn.foldl notify (placedFor w r)) :=
    onlyNeighbors_foldl onlyNeighbors_notify _ _
  have hmove := onlyNeighbors_foldl onlyNeighbors_notify notices.atMove
    (outfittedIn (notices.atSpawn.foldl notify (placedFor w r)) w.lanterns.length r)
  refine ⟨hmove.types.trans hspawn.types, ?_, ?_, fun k => ?_⟩
  · show (notices.atMove.foldl notify (outfittedIn _ _ _)).textures = w.textures ++ [r.mip]
    rw [hmove.textures]
    exact congrArg (· ++ [r.mip]) hspawn.textures
  · show (notices.atMove.foldl notify (outfittedIn _ _ _)).lanternArray ++ _ = _
    rw [hmove.lanternArray]
    exact congrArg (· ++ [w.lanterns.length]) hspawn.lanternArray
  · obtain ⟨ns, ticks, hk⟩ := onlyNeighbors_outfittedIn hspawn k
    obtain ⟨ns', ticks', hk'⟩ := hmove.lanterns k
    refine ⟨ns', ticks', ?_⟩
    show (notices.atMove.foldl notify (outfittedIn _ _ _)).lanterns[k]? = _
    rw [hk', hk, Option.map_map]
    rfl

theorem onlyNeighbors_restoredIn (h : OnlyNeighbors w w') (r : Loadable m) :
    OnlyNeighbors (restoredIn w r) (restoredIn w' r) := by
  refine ⟨h.types, ?_, ?_, fun k => ?_⟩
  · exact congrArg (· ++ [r.mip]) h.textures
  · show w'.lanternArray ++ [w'.lanterns.length] = _
    rw [h.lanternArray, h.length]
    rfl
  · have hlen := h.length
    unfold restoredIn
    dsimp only
    by_cases hk : k = w.lanterns.length
    · refine ⟨(restored r w.textures.length).neighborArray,
        (restored r w.textures.length).tickEnabled, ?_⟩
      rw [hk, ← hlen, List.getElem?_concat_length, hlen, List.getElem?_concat_length, h.textures]
      rfl
    · rw [getElem?_concat_of_ne hk, getElem?_concat_of_ne (hlen ▸ hk)]
      exact h.lanterns k

theorem onlyNeighbors_restoredAll : ∀ (rs : List (Loadable m)) {w w' : World K},
    OnlyNeighbors w w' → OnlyNeighbors (rs.foldl restoredIn w) (rs.foldl restoredIn w')
  | [], _, _, h => h
  | r :: rs, _, _, h => onlyNeighbors_restoredAll rs (onlyNeighbors_restoredIn h r)

/-- **After all records**, whatever the engine told. -/
theorem onlyNeighbors_loadedAll (notices : ℕ → LoadNotices) : ∀ (rs : List (Loadable m))
    (w : World K) (i : ℕ), OnlyNeighbors (rs.foldl restoredIn w) (loadedAll notices w i rs)
  | [], w, _ => OnlyNeighbors.refl w
  | r :: rs, w, i =>
    (onlyNeighbors_restoredAll rs (onlyNeighbors_loaded w r (notices i))).trans
      (onlyNeighbors_loadedAll notices rs (loaded w r (notices i)) (i + 1))

/-! ### The restored lanterns -/

theorem textures_restoredAll : ∀ (rs : List (Loadable m)) (w : World K),
    (rs.foldl restoredIn w).textures = w.textures ++ rs.map (·.mip)
  | [], w => by simp
  | r :: rs, w => by
    rw [List.foldl_cons, textures_restoredAll rs, List.map_cons]
    show (w.textures ++ [r.mip]) ++ _ = _
    rw [List.append_assoc, List.singleton_append]

theorem lanternArray_restoredAll : ∀ (rs : List (Loadable m)) (w : World K),
    (rs.foldl restoredIn w).lanternArray =
      w.lanternArray ++ List.range' w.lanterns.length rs.length
  | [], w => by simp
  | r :: rs, w => by
    have hlen : (restoredIn w r).lanterns.length = w.lanterns.length + 1 := List.length_append
    rw [List.foldl_cons, lanternArray_restoredAll rs, hlen, List.length_cons, List.range'_succ]
    show (w.lanternArray ++ [w.lanterns.length]) ++ _ = _
    rw [List.append_assoc, List.singleton_append]

theorem lanterns_restoredAll : ∀ (rs : List (Loadable m)) (w : World K),
    (rs.foldl restoredIn w).lanterns =
      w.lanterns ++ rs.mapIdx fun k r => restored r (w.textures.length + k)
  | [], w => by simp
  | r :: rs, w => by
    have hlen : (restoredIn w r).textures.length = w.textures.length + 1 := List.length_append
    rw [List.foldl_cons, lanterns_restoredAll rs, hlen, List.mapIdx_cons]
    show (w.lanterns ++ [restored r w.textures.length]) ++ _ = _
    rw [List.append_assoc, List.singleton_append]
    simp only [Nat.add_zero, Nat.add_assoc, Nat.add_comm 1]

/-- The lantern and the texture of record number `i`. -/
theorem getElem?_restoredAll {rs : List (Loadable m)} {i : ℕ} {r : Loadable m}
    (hr : rs[i]? = some r) (w : World K) :
    (rs.foldl restoredIn w).lanterns[w.lanterns.length + i]? =
        some (restored r (w.textures.length + i)) ∧
      (rs.foldl restoredIn w).textures[w.textures.length + i]? = some r.mip := by
  constructor
  · rw [lanterns_restoredAll, List.getElem?_append_right (by omega), Nat.add_sub_cancel_left,
      List.getElem?_mapIdx, hr]
    rfl
  · rw [textures_restoredAll, List.getElem?_append_right (by omega), Nat.add_sub_cancel_left,
      List.getElem?_map, hr]
    rfl

/-! ### Neighbours again -/

omit [Field K] [LinearOrder K] in
/-- The second loop changes neighbours only. -/
theorem onlyNeighbors_addNeighbors : ∀ {is : List ℕ} {w w' : World K} {i : ℕ},
    addNeighbors w i is = .ok w' → OnlyNeighbors w w'
  | [], w, w', i, h => by
    rw [← Except.ok.inj h]
    exact OnlyNeighbors.refl w
  | k :: is, w, w', i, h => by
    obtain ⟨lantern, -, h⟩ := bind_ok.mp h
    obtain ⟨newNeighborLantern, -, h⟩ := bind_ok.mp h
    obtain ⟨l, -, h⟩ := bind_ok.mp h
    exact (onlyNeighbors_modify fun l => ⟨_, l.tickEnabled, rfl⟩).trans
      (onlyNeighbors_addNeighbors h)

omit [Field K] [LinearOrder K] in
theorem onlyNeighbors_addAllNeighbors {ds : List (FLanternData K)} : ∀ {is : List ℕ}
    {w w' : World K}, addAllNeighbors ds w is = .ok w' → OnlyNeighbors w w'
  | [], w, w', h => by
    rw [← Except.ok.inj h]
    exact OnlyNeighbors.refl w
  | i :: is, w, w', h => by
    obtain ⟨d, -, h⟩ := bind_ok.mp h
    obtain ⟨v, hv, h⟩ := bind_ok.mp h
    exact (onlyNeighbors_addNeighbors hv).trans (onlyNeighbors_addAllNeighbors h)

/-- **What `LoadLantern` does**, apart from neighbours. -/
theorem loadLantern_ok {ds : List (FLanternData K)} {notices : ℕ → LoadNotices}
    (h : loadLantern m w ds notices = .ok w') :
    ∃ rs : List (Loadable m), rs.map (·.data) = ds ∧ OnlyNeighbors (rs.foldl restoredIn w) w' := by
  obtain ⟨v, hv, h⟩ := bind_ok.mp h
  obtain ⟨rs, hrs, rfl⟩ := loadLanterns_ok.mp hv
  exact ⟨rs, hrs, (onlyNeighbors_loadedAll notices rs w 0).trans (onlyNeighbors_addAllNeighbors h)⟩

end LanternProject.Lantern.Loading
