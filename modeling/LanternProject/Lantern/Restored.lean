import LanternProject.Lantern.Graph

/-! # A restored lantern and the saved one

A lantern flies by the settings it was spawned with. Saving keeps its texture, its class, its place
and its direction; a load gives it the other settings of the manager again, except that it takes the
manager's location as the place it came from, where a spawn takes the spawn location. `Tick` measures
everything from there. -/

namespace LanternProject.Lantern.Restored

open LanternProject.Engine.Basic LanternProject.Engine.Str LanternProject.Engine.Vector
open LanternProject.Widget.LanternWidget LanternProject.Save.LanternSaveGame
open LanternProject.Lantern.LanternActor LanternProject.Lantern.Texture
open LanternProject.Lantern.Level LanternProject.Lantern.LanternManager
open LanternProject.Lantern.SaveData LanternProject.Lantern.Loading
open LanternProject.Lantern.Graph LanternProject.Lantern.System

variable {K : Type} [Field K] [LinearOrder K]

/-! ### Lanterns that fly alike -/

/-- The lanterns agree in all that `Tick` reads, and in the two limits it could. -/
structure Alike (l l' : ALanternActor K) : Prop where
  location : l'.location = l.location
  cameraLocation : l'.cameraLocation = l.cameraLocation
  baseLocation : l'.baseLocation = l.baseLocation
  targetLocation : l'.targetLocation = l.targetLocation
  widthLimit : l'.widthLimit = l.widthLimit
  heightLimit : l'.heightLimit = l.heightLimit
  distance : l'.distance = l.distance
  backDirection : l'.backDirection = l.backDirection
  upSpeed : l'.upSpeed = l.upSpeed
  sideSpeed : l'.sideSpeed = l.sideSpeed
  backSpeed : l'.backSpeed = l.backSpeed

variable {env : LanternActor.Env K} {l l' : ALanternActor K}

theorem flight_congr (h : Alike l l') (deltaTime : K) : flight l' deltaTime = flight l deltaTime := by
  simp only [flight, h.location, h.baseLocation, h.distance, h.widthLimit, h.backDirection,
    h.backSpeed, h.sideSpeed, h.upSpeed]

/-- Keeping away from the same place goes to the same place. -/
theorem location_keepAway_congr (h : Alike l l') (location : FVector K) (yaw yaw' : K)
    (neighborCount : ℕ) (separation : FVector K) (deltaTime : K) :
    ((moved l' location yaw').keepAway l'.location neighborCount separation deltaTime).location =
      ((moved l location yaw).keepAway l.location neighborCount separation deltaTime).location := by
  have hback : ((moved l' location yaw').keepBack neighborCount separation deltaTime).location =
      ((moved l location yaw).keepBack neighborCount separation deltaTime).location := by
    simp only [ALanternActor.keepBack, ALanternActor.addActorWorldOffset, moved, h.backSpeed]
  unfold ALanternActor.keepAway ALanternActor.keepSide
  by_cases hin : |l.location.y - l.baseLocation.y| < l.widthLimit
  · have hin' : |l'.location.y - l'.baseLocation.y| < l'.widthLimit := by
      rw [h.location, h.baseLocation, h.widthLimit]
      exact hin
    refine (congrArg _ (if_pos hin')).trans (Eq.trans ?_ (congrArg _ (if_pos hin)).symm)
    simp only [ALanternActor.addActorWorldOffset, hback]
    exact congrArg (_ + _ * · * _ * _) h.sideSpeed
  · have hin' : ¬ |l'.location.y - l'.baseLocation.y| < l'.widthLimit := by
      rw [h.location, h.baseLocation, h.widthLimit]
      exact hin
    exact (congrArg _ (if_neg hin')).trans (hback.trans (congrArg _ (if_neg hin)).symm)

theorem location_tick (h : Alike l l') (env : LanternActor.Env K) (t : TickInput K) :
    (tickBy env l' t).location = (tickBy env l t).location := by
  have hflight := location_flyBack env l t.deltaTime
  have hflight' := location_flyBack env l' t.deltaTime
  obtain ⟨x, yaw, hx⟩ := onlyMoves_flyBack t.deltaTime env l
  obtain ⟨x', yaw', hx'⟩ := onlyMoves_flyBack t.deltaTime env l'
  dsimp only at hx hx'
  rw [tickBy, tickBy, ALanternActor.tick, ALanternActor.tick]
  rw [hx] at hflight ⊢
  rw [hx'] at hflight' ⊢
  have hsame : x' = x := hflight'.trans ((flight_congr h _).trans hflight.symm)
  subst hsame
  split_ifs
  · exact location_keepAway_congr h x' yaw yaw' t.neighborCount _ t.deltaTime
  · rfl

/-- **One tick** keeps lanterns alike. -/
theorem alike_tick (h : Alike l l') (env : LanternActor.Env K) (t : TickInput K) :
    Alike (tickBy env l t) (tickBy env l' t) := by
  have hlocation := location_tick h env t
  obtain ⟨x, yaw, hx⟩ := onlyMoves_tick t.neighborCount t.deltaTime env t.neighbors l
  obtain ⟨x', yaw', hx'⟩ := onlyMoves_tick t.neighborCount t.deltaTime env t.neighbors l'
  change (l.tick env t.neighborCount t.neighbors t.deltaTime) = _ at hx
  change (l'.tick env t.neighborCount t.neighbors t.deltaTime) = _ at hx'
  rw [tickBy, tickBy, hx, hx'] at hlocation ⊢
  exact { h with location := hlocation }

/-- The lantern after ticks without neighbours. -/
def flown (env : LanternActor.Env K) (l : ALanternActor K) (deltaTimes : List K) :
    ALanternActor K :=
  deltaTimes.foldl (fun l deltaTime => l.tick env 0 [] deltaTime) l

/-- **Lanterns that are alike stay together.** -/
theorem location_flown (env : LanternActor.Env K) : ∀ (deltaTimes : List K)
    {l l' : ALanternActor K}, Alike l l' →
      (flown env l' deltaTimes).location = (flown env l deltaTimes).location
  | [], _, _, h => h.location
  | deltaTime :: deltaTimes, _, _, h =>
    location_flown env deltaTimes (alike_tick h env ⟨0, [], deltaTime⟩)

/-! ### The saved lantern -/

/-- The lantern after ticks, each with neighbours at some places. -/
def ticked (env : LanternActor.Env K) (l : ALanternActor K) (ts : List (TickInput K)) :
    ALanternActor K :=
  ts.foldl (tickBy env) l

theorem ticked_eq_moved (env : LanternActor.Env K) : ∀ (ts : List (TickInput K))
    (l : ALanternActor K), ∃ location yaw, ticked env l ts = moved l location yaw
  | [], l => ⟨l.location, l.yaw, rfl⟩
  | t :: ts, l => by
    obtain ⟨x, yaw, hx⟩ := onlyMoves_tick t.neighborCount t.deltaTime env t.neighbors l
    obtain ⟨x', yaw', hx'⟩ := ticked_eq_moved env ts (moved l x yaw)
    exact ⟨x', yaw', (congrArg (ticked env · ts) hx).trans hx'⟩

/-- The level when the lantern `n` has ticked, and has no neighbours any more. -/
def tickedIn (env : LanternActor.Env K) (w : World K) (n : ℕ) (ts : List (TickInput K)) :
    World K :=
  w.modify n fun l => { ticked env l ts with neighborArray := [] }

/-- The lantern as `JustSpawnLantern` leaves it, from the class it was spawned of. -/
def spawnedOf (env : LanternActor.Env K) (m : ALanternManager K) (choice : LanternChoice K)
    (c : LanternClass K) (texture : Option ℕ) : ALanternActor K :=
  outfitted m m.spawnLocation texture (backDirectionOf env m choice) choice.spawn.typeIndex
    choice.spawn.variationIndex (spawnActor c m.spawnLocation m.spawnYaw)

section Spawned
variable {m : ALanternManager K} {w w₁ : World K} {image : Option UTexture2D} {text : FString}
  {choice : LanternChoice K} {notices : List Notice} {n : ℕ}

/-- A spawned lantern that has ticked. -/
theorem ticked_spawned (hj : justSpawnLantern env m w image text choice notices = .ok (w₁, n))
    (ts : List (TickInput K)) : ∃ c textures letter texture location yaw,
      classOf m choice.spawn.typeIndex choice.spawn.variationIndex = some c ∧
      textureFromWidget env textures letter m.widgetSize = .ok (w₁.textures, texture) ∧
      (tickedIn env w₁ n ts).lanterns[n]? =
        some (withNeighbors (moved (spawnedOf env m choice c texture) location yaw) [] true) := by
  obtain ⟨hn, classes, c, types, letter, textures, texture, v, hclasses, hc, hv, htex, rfl⟩ :=
    justSpawnLantern_ok hj
  have hplaced : (placed m w types c).lanterns[n]? =
      some (spawnActor c m.spawnLocation m.spawnYaw) := by
    rw [hn]
    exact List.getElem?_concat_length
  have honly : OnlyNeighbors (placed m w types c) v :=
    hv ▸ onlyNeighbors_foldl onlyNeighbors_notify notices _
  obtain ⟨ns, ticks, hl⟩ := honly.getElem? hplaced
  obtain ⟨location, yaw, hticked⟩ := ticked_eq_moved env ts
    (withNeighbors (spawnedOf env m choice c texture) ns true)
  refine ⟨c, _, letter, texture, location, yaw, ?_, htex, ?_⟩
  · rw [classOf, hclasses, Option.bind_some, hc]
  · rw [tickedIn, getElem?_modify, getElem?_modify, hl, Option.map_some, if_pos rfl,
      Option.map_some, if_pos rfl, outfitted_withNeighbors]
    refine congrArg some ?_
    rw [← spawnedOf, hticked]
    rfl

/-- The page is drawn on a texture. -/
def Drawn (env : LanternActor.Env K) (m : ALanternManager K) : Prop :=
  env.slateInitialized = true ∧ 1 ≤ m.widgetSize.1 ∧ 1 ≤ m.widgetSize.2

omit [Field K] [LinearOrder K] in
/-- Then the lantern has an unlocked texture with a pixel, and otherwise none. -/
theorem drawn_cases {ts ts' : Textures} {letter : Letter} {texture : Option ℕ}
    (h : textureFromWidget env ts letter m.widgetSize = .ok (ts', texture)) :
    (Drawn env m ∧ ∃ t mip, texture = some t ∧ ts'[t]? = some mip ∧ mip.locked = false ∧
      0 < mip.sizeX ∧ 0 < mip.sizeY) ∨ (¬ Drawn env m ∧ texture = none) := by
  rw [textureFromWidget_eq] at h
  split_ifs at h with hdrawn
  · obtain ⟨rfl, rfl⟩ := Prod.mk.inj (Except.ok.inj h)
    exact Or.inl ⟨hdrawn, ts.length, _, rfl, List.getElem?_concat_length, rfl, hdrawn.2⟩
  · obtain ⟨rfl, rfl⟩ := Prod.mk.inj (Except.ok.inj h)
    exact Or.inr ⟨hdrawn, rfl⟩

end Spawned

/-! ### Saved and restored -/

/-- The size and the bytes of the texture on a lantern. -/
def pixels (w : World K) (l : ALanternActor K) : Option (ℕ × ℕ × List UInt8) :=
  (textureOf w l).map fun mip => (mip.sizeX, mip.sizeY, mip.bulkData)

/-- The lantern can be saved and its record be loaded, and wherever it is loaded, among whatever
records, the restored lantern looks and flies like the saved one. -/
def RestoresAlike (env : LanternActor.Env K) (m : ALanternManager K) (w : World K) (n : ℕ) : Prop :=
  ∃ w' d l, saveData w n = .ok (w', d) ∧ w.lanterns[n]? = some l ∧
    (∀ (v : World K) (notices : ℕ → LoadNotices), v.lanternArray = [] →
      ∃ v', loadLantern m v [d] notices = .ok v') ∧
    ∀ (v : World K) (ds : List (FLanternData K)) (notices : ℕ → LoadNotices) (v' : World K) (i : ℕ),
      ds[i]? = some d → loadLantern m v ds notices = .ok v' →
        ∃ l', v'.lanterns[v.lanterns.length + i]? = some l' ∧ pixels v' l' = pixels w l ∧
          l'.typeIndex = l.typeIndex ∧ l'.variationIndex = l.variationIndex ∧ Alike l l' ∧
          ∀ deltaTimes, (flown env l' deltaTimes).location = (flown env l deltaTimes).location

variable {m : ALanternManager K}

/-- The lantern restored from record number `i`. -/
theorem restored_at {v v' : World K} {ds : List (FLanternData K)} {notices : ℕ → LoadNotices}
    {i : ℕ} {d : FLanternData K} (hd : ds[i]? = some d)
    (h : loadLantern m v ds notices = .ok v') : ∃ (r : Loadable m) (ns : List ℕ) (ticks : Bool),
      r.data = d ∧ v'.textures[v.textures.length + i]? = some r.mip ∧
      v'.lanterns[v.lanterns.length + i]? =
        some (withNeighbors (restored r (v.textures.length + i)) ns ticks) := by
  obtain ⟨rs, rfl, honly⟩ := loadLantern_ok h
  rw [List.getElem?_map] at hd
  obtain ⟨r, hr, hdata⟩ := Option.map_eq_some_iff.mp hd
  obtain ⟨hlantern, htexture⟩ := getElem?_restoredAll hr v
  obtain ⟨ns, ticks, hl⟩ := honly.getElem? hlantern
  exact ⟨r, ns, ticks, hdata, by rw [honly.textures]; exact htexture, hl⟩

/-- Its texture. -/
theorem textureOf_restored {v' : World K} {r : Loadable m} {t : ℕ} {ns : List ℕ} {ticks : Bool}
    (hhas : r.lanternClass.hasMaterial = true) (ht : v'.textures[t]? = some r.mip) :
    textureOf v' (withNeighbors (restored r t) ns ticks) = some r.mip := by
  have hmat : (restored r t).material =
      if r.lanternClass.hasMaterial then some (some t) else none :=
    material_outfitted m m.actorLocation (some t) r.data.backDirection r.data.typeIndex
      r.data.variationIndex (spawnActor r.lanternClass m.actorLocation m.spawnYaw)
  rw [if_pos hhas] at hmat
  show (restored r t).material.join.bind _ = _
  rw [hmat, Option.join_some, Option.bind_some, ht]

section Iff
variable {w w₁ : World K} {image : Option UTexture2D} {text : FString} {choice : LanternChoice K}
  {notices : List Notice} {n : ℕ} {c : LanternClass K}

/-- **Restored from the same place**, the lantern is like the spawned one where that had got to. -/
theorem alike_restored {r : Loadable m} {texture : Option ℕ} {location : FVector K} {yaw : K}
    (hbase : m.actorLocation = m.spawnLocation) (hclass : r.lanternClass = c)
    (hlocation : r.data.transform.location = location)
    (hdirection : r.data.backDirection = (spawnedOf env m choice c texture).backDirection)
    (t : ℕ) (ns : List ℕ) (ticks : Bool) :
    Alike (withNeighbors (moved (spawnedOf env m choice c texture) location yaw) [] true)
      (withNeighbors (restored r t) ns ticks) := by
  obtain ⟨hback, hup, hside⟩ := speeds_outfitted m m.spawnLocation texture
    (backDirectionOf env m choice) choice.spawn.typeIndex choice.spawn.variationIndex
    (spawnActor c m.spawnLocation m.spawnYaw)
  obtain ⟨hback', hup', hside'⟩ := speeds_outfitted m m.actorLocation (some t)
    r.data.backDirection r.data.typeIndex r.data.variationIndex
    (spawnActor r.lanternClass m.actorLocation m.spawnYaw)
  subst hclass
  have hdirection' : (restored r t).backDirection =
      (spawnedOf env m choice r.lanternClass texture).backDirection := by
    have hr : (restored r t).backDirection =
        if r.lanternClass.hasMaterial then r.data.backDirection else 0 :=
      backDirection_outfitted m m.actorLocation (some t) r.data.backDirection r.data.typeIndex
        r.data.variationIndex (spawnActor r.lanternClass m.actorLocation m.spawnYaw)
    have hs : (spawnedOf env m choice r.lanternClass texture).backDirection =
        if r.lanternClass.hasMaterial then backDirectionOf env m choice else 0 :=
      backDirection_outfitted m m.spawnLocation texture _ _ _ _
    rw [hr, hdirection, hs]
    split_ifs <;> rfl
  exact {
    location := hlocation
    cameraLocation := rfl
    baseLocation := hbase
    targetLocation := rfl
    widthLimit := rfl
    heightLimit := rfl
    distance := rfl
    backDirection := hdirection'
    upSpeed := hup'.trans hup.symm
    sideSpeed := hside'.trans hside.symm
    backSpeed := hback'.trans hback.symm }

theorem material_spawnedOf (env : LanternActor.Env K) (m : ALanternManager K)
    (choice : LanternChoice K) (c : LanternClass K) (texture : Option ℕ) :
    (spawnedOf env m choice c texture).material =
      if c.hasMaterial then some texture else none :=
  material_outfitted m m.spawnLocation texture (backDirectionOf env m choice)
    choice.spawn.typeIndex choice.spawn.variationIndex _

/-- The texture of the saved lantern. -/
theorem textureOf_ticked (ts : List (TickInput K)) (texture : Option ℕ)
    (location : FVector K) (yaw : K) :
    textureOf (tickedIn env w₁ n ts)
        (withNeighbors (moved (spawnedOf env m choice c texture) location yaw) [] true) =
      (if c.hasMaterial then texture else none).bind fun t => w₁.textures[t]? := by
  show (spawnedOf env m choice c texture).material.join.bind _ = _
  rw [material_spawnedOf]
  split_ifs <;> rfl

/-- A record that can be restored can be loaded. -/
theorem loadLantern_one {d : FLanternData K} (r : Loadable m) (hr : r.data = d)
    (hplaces : d.overlappedLanternIndexArray = []) {v : World K} (hempty : v.lanternArray = [])
    (notices : ℕ → LoadNotices) : ∃ v', loadLantern m v [d] notices = .ok v' := by
  have hrs : [r].map (·.data) = [d] := by rw [List.map_singleton, hr]
  have hin : ∀ d' ∈ [d], ∀ k ∈ d'.overlappedLanternIndexArray, k < [d].length := by
    intro d' hd' k hk
    rw [List.mem_singleton.mp hd', hplaces] at hk
    exact absurd hk List.not_mem_nil
  obtain ⟨v', hload, -⟩ := neighbors_loadLantern hrs hempty hin (by simp) notices
  exact ⟨v', hload⟩

section Directions
variable {ts : List (TickInput K)}
  (hj : justSpawnLantern env m w image text choice notices = .ok (w₁, n))
include hj

/-- A restored lantern flies from where the manager is, a spawned one from the spawn location. -/
theorem base_of_restoresAlike
    (h : RestoresAlike env m (tickedIn env w₁ n ts) n) : m.actorLocation = m.spawnLocation := by
  obtain ⟨c, textures, letter, texture, location, yaw, -, -, hl⟩ := ticked_spawned hj ts
  obtain ⟨w', d, l, -, hl', hload, hall⟩ := h
  obtain rfl := Option.some.inj (hl.symm.trans hl')
  obtain ⟨v', hv'⟩ := hload (emptyLevel []) (fun _ => ⟨[], []⟩) rfl
  obtain ⟨l', hlantern, -, -, -, halike, -⟩ := hall _ _ _ v' 0 rfl hv'
  obtain ⟨r, ns, ticks, -, -, hrestored⟩ := restored_at (i := 0) rfl hv'
  obtain rfl := Option.some.inj (hrestored.symm.trans hlantern)
  exact halike.baseLocation

/-- What can be saved and loaded has a material, and a texture on it. -/
theorem drawn_of_restoresAlike (h : RestoresAlike env m (tickedIn env w₁ n ts) n) :
    Drawn env m ∧ ∃ c, classOf m choice.spawn.typeIndex choice.spawn.variationIndex = some c ∧
      c.hasMaterial = true := by
  obtain ⟨c, textures, letter, texture, location, yaw, hc, htex, hl⟩ := ticked_spawned hj ts
  obtain ⟨w', d, l, hsave, hl', hload, -⟩ := h
  obtain rfl := Option.some.inj (hl.symm.trans hl')
  have hs := saveData_ok hsave
  rw [saveData_eq hl hs] at hsave
  obtain ⟨rfl, rfl⟩ := Prod.mk.inj (Except.ok.inj hsave)
  have hhas : c.hasMaterial = true := by
    obtain ⟨l'', tex, hl'', hsome, -⟩ := hs
    obtain rfl := Option.some.inj (hl.symm.trans hl'')
    have hsome' : (spawnedOf env m choice c texture).material = some tex := hsome
    by_contra hnot
    rw [material_spawnedOf, if_neg hnot] at hsome'
    cases hsome'
  refine ⟨?_, c, hc, hhas⟩
  -- the record can be loaded, so there is a mip in it
  obtain ⟨v', hv'⟩ := hload (emptyLevel []) (fun _ => ⟨[], []⟩) rfl
  obtain ⟨r, -, -, hdata, -, -⟩ := restored_at (i := 0) rfl hv'
  have hmip := r.mip_eq
  rw [hdata] at hmip
  obtain ⟨mip, htexture, -⟩ := isSome_mipOf_recordOf.mp (by rw [hmip]; rfl)
  rw [textureOf_ticked, if_pos hhas] at htexture
  rcases drawn_cases htex with ⟨hdrawn, -⟩ | ⟨-, rfl⟩
  · exact hdrawn
  · cases htexture

/-- **From the same place, with a material and a texture**, a lantern is restored alike. -/
theorem restoresAlike_of_drawn (hbase : m.actorLocation = m.spawnLocation) (hdrawn : Drawn env m)
    (hclass : classOf m choice.spawn.typeIndex choice.spawn.variationIndex = some c)
    (hhas : c.hasMaterial = true) : RestoresAlike env m (tickedIn env w₁ n ts) n := by
  obtain ⟨c', textures, letter, texture, location, yaw, hc, htex, hl⟩ := ticked_spawned hj ts
  obtain rfl := Option.some.inj (hc.symm.trans hclass)
  obtain ⟨t, mip, rfl, ht, hfree, hpos⟩ : ∃ t mip, texture = some t ∧
      w₁.textures[t]? = some mip ∧ mip.locked = false ∧ 0 < mip.sizeX ∧ 0 < mip.sizeY :=
    (drawn_cases htex).elim And.right fun hnot => absurd hdrawn hnot.1
  have hmat : (spawnedOf env m choice c' (some t)).material = some (some t) := by
    rw [material_spawnedOf, if_pos hhas]
  have htexture : textureOf (tickedIn env w₁ n ts)
      (withNeighbors (moved (spawnedOf env m choice c' (some t)) location yaw) [] true) =
        some mip := by
    rw [textureOf_ticked, if_pos hhas, Option.bind_some, ht]
  have hs : Saveable (tickedIn env w₁ n ts) n := by
    refine ⟨_, some t, hl, hmat, fun t' ht' => ?_, fun o ho => absurd ho List.not_mem_nil⟩
    obtain rfl := Option.some.inj ht'
    exact ⟨mip, ht, hfree⟩
  have hmip := mipOf_recordOf htexture hpos
  refine ⟨_, _, _, saveData_eq hl hs, hl, fun v notices hempty => ?_, ?_⟩
  · exact loadLantern_one ⟨_, c', _, hc, hmip⟩ rfl rfl hempty notices
  · intro v ds notices v' i hd hload
    obtain ⟨r, ns, ticks, hdata, htexture', hrestored⟩ := restored_at hd hload
    have hrclass : r.lanternClass = c' := by
      have hr := r.class_eq
      rw [hdata] at hr
      exact Option.some.inj (hr.symm.trans hc)
    have hrmip : r.mip = { mip with locked := true } := by
      have hr := r.mip_eq
      rw [hdata] at hr
      exact Option.some.inj (hr.symm.trans hmip)
    have halike : Alike (withNeighbors (moved (spawnedOf env m choice c' (some t)) location yaw)
        [] true) (withNeighbors (restored r (v.textures.length + i)) ns ticks) :=
      alike_restored hbase hrclass (by rw [hdata]; rfl) (by rw [hdata]; rfl) _ ns ticks
    refine ⟨_, hrestored, ?_, ?_, ?_, halike, fun deltaTimes => location_flown env _ halike⟩
    · have hhas' : r.lanternClass.hasMaterial = true := by rw [hrclass, hhas]
      rw [pixels, pixels, textureOf_restored hhas' htexture', htexture, hrmip]
      rfl
    · exact congrArg (·.typeIndex) hdata
    · exact congrArg (·.variationIndex) hdata

end Directions

/-- **A restored lantern looks and flies like the saved one exactly if** the manager stands where it
spawns, and the spawned lantern has a material and a texture. -/
theorem restoresAlike_iff (env : LanternActor.Env K) (m : ALanternManager K) (w : World K)
    (image : Option UTexture2D) (text : FString) (choice : LanternChoice K) (notices : List Notice)
    (w₁ : World K) (n : ℕ) (ts : List (TickInput K))
    (hj : justSpawnLantern env m w image text choice notices = .ok (w₁, n)) :
    RestoresAlike env m (tickedIn env w₁ n ts) n ↔
      m.actorLocation = m.spawnLocation ∧ Drawn env m ∧
      ∃ c, classOf m choice.spawn.typeIndex choice.spawn.variationIndex = some c ∧
        c.hasMaterial = true := by
  constructor
  · intro h
    exact ⟨base_of_restoresAlike hj h, drawn_of_restoresAlike hj h⟩
  · rintro ⟨hbase, hdrawn, c, hclass, hhas⟩
    exact restoresAlike_of_drawn hj hbase hdrawn hclass hhas

end Iff

/-- A manager that stands where it spawns. -/
def sampleHome : ALanternManager ℚ := sampleManager.setSpawnLocation 0

theorem restoresAlike_iff_home : ∃ w₁, justSpawnLantern sampleEngine sampleHome
      (emptyLevel sampleAssets) none (TEXT "A") sampleChoice [] = .ok (w₁, 0) ∧
    RestoresAlike sampleEngine sampleHome (tickedIn sampleEngine w₁ 0 [⟨0, [], 1⟩]) 0 := by
  obtain ⟨w₁, hj⟩ : ∃ w₁, justSpawnLantern sampleEngine sampleHome (emptyLevel sampleAssets) none
      (TEXT "A") sampleChoice [] = .ok (w₁, 0) := ⟨_, rfl⟩
  exact ⟨w₁, hj, (restoresAlike_iff sampleEngine sampleHome _ _ _ _ _ w₁ 0 [⟨0, [], 1⟩] hj).mpr
    ⟨rfl, ⟨rfl, le_rfl, le_rfl⟩, _, rfl, rfl⟩⟩

/-- A lantern that was just spawned to fly sideways. -/
def sampleSpawned : Except Fault (World ℚ × ℕ) :=
  justSpawnLantern sampleEngine sampleManager (emptyLevel sampleAssets) none (TEXT "A")
    ⟨firstChoice, 1, 0⟩ []

/-- Where one tick takes this lantern, and the one restored from it. -/
def sampleFlight : Option (FVector ℚ × FVector ℚ) := do
  let (w, n) ← sampleSpawned.toOption
  let (w, d) ← (saveData w n).toOption
  let v ← (loadLantern sampleManager (emptyLevel []) [d] fun _ => ⟨[], []⟩).toOption
  let l ← w.lanterns[n]?
  let l' ← v.lanterns[0]?
  some ((flown sampleEngine l [1]).location, (flown sampleEngine l' [1]).location)

/-- Restored, it moves aside where the saved one flew straight on. -/
theorem not_restoresAlike : ∃ w₁, sampleSpawned = .ok (w₁, 0) ∧
    ¬ RestoresAlike sampleEngine sampleManager (tickedIn sampleEngine w₁ 0 []) 0 ∧
    sampleFlight = some (⟨2, 0, 0⟩, ⟨2, 1 / 2, 0⟩) := by
  obtain ⟨w₁, hj⟩ : ∃ w₁, sampleSpawned = .ok (w₁, 0) := ⟨_, rfl⟩
  refine ⟨w₁, hj, fun h => ?_, by decide +kernel⟩
  have hbase : sampleManager.actorLocation = sampleManager.spawnLocation :=
    base_of_restoresAlike hj h
  exact absurd hbase (by decide +kernel)

end LanternProject.Lantern.Restored
