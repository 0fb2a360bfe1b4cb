import LanternProject.Lantern.Level

/-! # The lantern manager

`ALanternManager` holds the settings of the lanterns of a level. `JustSpawnLantern` spawns one with a
letter drawn on it, `SpawnLantern` keeps it in `LanternArray` and destroys the oldest if there are 500
already, `RemoveAllLantern` destroys all. What the engine tells the lanterns while one is spawned is
given to each call as a list of notices. -/

namespace LanternProject.Lantern.LanternManager

open LanternProject.Engine.Basic LanternProject.Engine.Str LanternProject.Engine.Vector
open LanternProject.Widget.LanternWidget
open LanternProject.Lantern.LanternActor LanternProject.Lantern.Texture
open LanternProject.Lantern.Level

variable {K : Type} [Field K] [LinearOrder K]

/-- The members of `ALanternManager` its lanterns are made from. -/
structure ALanternManager (K : Type) where
  actorLocation : FVector K
  actorYaw : K
  actorRightVector : FVector K
  actorUpVector : FVector K
  backSpeed : K
  upSpeed : K
  sideSpeed : K
  targetLocation : FVector K
  upLimitLocation : FVector K
  rightLimitLocation : FVector K
  spawnLocation : FVector K
  cameraLocation : FVector K
  widthLimit : K
  heightLimit : K
  distance : K
  /-- `LanternClass` of every type. -/
  lanternTypeArray : List (List (LanternClass K))
  widgetSize : ℕ × ℕ

namespace ALanternManager

/-- The yaw of `GetActorRotation() + FRotator(0, 180, 0)`. -/
def spawnYaw (m : ALanternManager K) : K := m.actorYaw + 180

/-- `SetLimitLocation`. -/
def setLimitLocation (m : ALanternManager K)
    (newUpLimitLocation newRightLimitLocation newTargetLocation : FVector K) : ALanternManager K :=
  { m with
    upLimitLocation := newUpLimitLocation
    rightLimitLocation := newRightLimitLocation
    targetLocation := newTargetLocation }

/-- `SetSpawnLocation`. -/
def setSpawnLocation (m : ALanternManager K) (newSpawnLocation : FVector K) : ALanternManager K :=
  { m with spawnLocation := newSpawnLocation }

/-- The settings `BeginPlay` makes, with the pawn at the given location. -/
def beginPlay (env : Env K) (m : ALanternManager K) (configMap : List (FString × FString))
    (pawnLocation : FVector K) : Except Fault (ALanternManager K) :=
  match mapFind configMap (TEXT "backspeed"), mapFind configMap (TEXT "upspeed"),
    mapFind configMap (TEXT "sidespeed") with
  | some backSpeed, some upSpeed, some sideSpeed => .ok { m with
      backSpeed := env.atof backSpeed
      upSpeed := env.atof upSpeed
      sideSpeed := env.atof sideSpeed
      heightLimit := m.upLimitLocation.z - m.targetLocation.z
      widthLimit := m.rightLimitLocation.y - m.targetLocation.y
      distance := |m.targetLocation.x|
      cameraLocation := pawnLocation }
  | _, _, _ => .error .nullPointer

end ALanternManager

/-- The random choices of one `JustSpawnLantern`: type, variation and page, and the two draws from
`-1` to `1` of the direction. -/
structure LanternChoice (K : Type) where
  spawn : SpawnChoice
  side : K
  up : K

/-- `TextureFromWidget` of the page a widget shows. -/
def textureFromWidget (env : Env K) (ts : Textures) (letter : Letter) (drawSize : ℕ × ℕ) :
    Except Fault (Textures × Option ℕ) :=
  if env.slateInitialized ∧ 1 ≤ drawSize.1 ∧ 1 ≤ drawSize.2 then
    match createTransient ts drawSize.1 drawSize.2 with
    | (_, none) => .error .nullPointer
    | (ts, some texture) => do
      let surfData := env.readPixels letter drawSize.1 drawSize.2
      let ts ← lock ts texture
      let ts ← memcpyTo ts texture surfData
      let ts ← unlock ts texture
      .ok (ts, some texture)
  else .ok (ts, none)

/-- `JustSpawnLantern`; the number of the new lantern. -/
def justSpawnLantern (env : Env K) (m : ALanternManager K) (w : World K)
    (image : Option UTexture2D) (text : FString) (choice : LanternChoice K)
    (notices : List Notice) : Except Fault (World K × ℕ) := do
  let classes ← index .lanternTypeArray m.lanternTypeArray choice.spawn.typeIndex
  let (types, letter) ← Widget.LanternWidget.justSpawnLantern w.types image text choice.spawn
  let lanternClass ← index .lanternClass classes choice.spawn.variationIndex
  let lantern := w.lanterns.length
  let w := { w with
    types := types
    lanterns := w.lanterns ++ [spawnActor lanternClass m.spawnLocation m.spawnYaw] }
  let w := notices.foldl notify w
  let backDirection := m.targetLocation +
    m.actorRightVector * m.widthLimit * choice.side + m.actorUpVector * m.heightLimit * choice.up
  let (textures, texture) ← textureFromWidget env w.textures letter.letter m.widgetSize
  let w := { w with textures := textures }
  let w := w.modify lantern fun l =>
    ((l.init texture (env.getSafeNormal backDirection) choice.spawn.typeIndex
        choice.spawn.variationIndex).setData m.cameraLocation m.spawnLocation
      (m.actorLocation + m.targetLocation) m.widthLimit m.heightLimit m.distance).setLanternSpeed
        m.backSpeed m.upSpeed m.sideSpeed
  .ok (w, lantern)

/-- `SpawnAndDestroyLantern`. -/
def spawnAndDestroyLantern (env : Env K) (m : ALanternManager K) (w : World K)
    (choice : LanternChoice K) (notices : List Notice) : Except Fault (World K) := do
  let (w, lantern) ← justSpawnLantern env m w none [] choice notices
  .ok (destroy w lantern)

/-- The first lantern of a full array is destroyed and removed. -/
def makeRoom (w : World K) : Except Fault (World K) :=
  if w.lanternArray.length = 500 then do
    let first ← index .lanternArray w.lanternArray 0
    .ok { destroy w first with lanternArray := w.lanternArray.tail }
  else .ok w

/-- `SpawnLantern`, as far as it is about lanterns: the capture and the sound come after. -/
def spawnLantern (env : Env K) (m : ALanternManager K) (w : World K)
    (image : Option UTexture2D) (text : FString) (choice : LanternChoice K)
    (notices : List Notice) : Except Fault (World K) := do
  let (w, lantern) ← justSpawnLantern env m w image text choice notices
  let w ← makeRoom w
  .ok { w with lanternArray := w.lanternArray ++ [lantern] }

/-- `RemoveAllLantern`. -/
def removeAllLantern (w : World K) : World K :=
  { w.lanternArray.foldl destroy w with lanternArray := [] }

/-- The level before `BeginPlay` spawns and destroys its lantern. -/
def emptyLevel (assets : List WidgetAsset) : World K where
  types := createTypes assets
  textures := []
  lanterns := []
  lanternArray := []
  overlaps := []

/-! ### What they do -/

omit [Field K] [LinearOrder K] in
/-- **What `TextureFromWidget` does**: make an unlocked texture of the pixels, if they fit. -/
theorem textureFromWidget_eq (env : Env K) (ts : Textures) (letter : Letter) (drawSize : ℕ × ℕ) :
    textureFromWidget env ts letter drawSize =
      if env.slateInitialized ∧ 1 ≤ drawSize.1 ∧ 1 ≤ drawSize.2 then
        if h : (env.readPixels letter drawSize.1 drawSize.2).length ≤ drawSize.1 * drawSize.2 * 4
        then .ok (ts ++ [filledMip drawSize.1 drawSize.2 _ h false], some ts.length)
        else .error .bufferOverrun
      else .ok (ts, none) := by
  unfold textureFromWidget
  split_ifs with hdraw hfits
  · simp only [createTransient, if_pos (show 0 < drawSize.1 ∧ 0 < drawSize.2 from hdraw.2)]
    rw [lock_memcpyTo_unlock_new, dif_pos hfits]
  · simp only [createTransient, if_pos (show 0 < drawSize.1 ∧ 0 < drawSize.2 from hdraw.2)]
    rw [lock_memcpyTo_unlock_new, dif_neg hfits]
  · rfl

omit [Field K] [LinearOrder K] in
/-- At most one texture is new, and it is unlocked. -/
theorem textureFromWidget_ok {env : Env K} {ts ts' : Textures} {letter : Letter}
    {drawSize : ℕ × ℕ} {texture : Option ℕ}
    (h : textureFromWidget env ts letter drawSize = .ok (ts', texture)) :
    (texture = none ∧ ts' = ts) ∨
      ∃ mip, texture = some ts.length ∧ mip.locked = false ∧ ts' = ts ++ [mip] := by
  rw [textureFromWidget_eq] at h
  split_ifs at h
  · obtain ⟨rfl, rfl⟩ := Prod.mk.inj (Except.ok.inj h)
    exact Or.inr ⟨_, rfl, rfl, rfl⟩
  · obtain ⟨rfl, rfl⟩ := Prod.mk.inj (Except.ok.inj h)
    exact Or.inl ⟨rfl, rfl⟩

/-- The level with a new lantern, as `SpawnActor` places it. -/
def placed (m : ALanternManager K) (w : World K) (types : LanternTypes)
    (lanternClass : LanternClass K) : World K :=
  { w with
    types := types
    lanterns := w.lanterns ++ [spawnActor lanternClass m.spawnLocation m.spawnYaw] }

omit [LinearOrder K] in
theorem neighbors_placed (m : ALanternManager K) (w : World K) (types : LanternTypes)
    (c : LanternClass K) (n : ℕ) : neighbors (placed m w types c) n = neighbors w n := by
  unfold neighbors placed
  dsimp only
  rw [getElem?_concat_ite]
  split_ifs with hn
  · rw [hn, List.getElem?_eq_none le_rfl]
    rfl
  · rfl

omit [LinearOrder K] in
theorem aliveAt_placed (m : ALanternManager K) (w : World K) (types : LanternTypes)
    (c : LanternClass K) (n : ℕ) : aliveAt (placed m w types c) n =
      if n = w.lanterns.length then some true else aliveAt w n := by
  unfold aliveAt placed
  dsimp only
  rw [getElem?_concat_ite]
  split_ifs <;> rfl

/-- The direction a new lantern is given. -/
def backDirectionOf (env : Env K) (m : ALanternManager K) (choice : LanternChoice K) : FVector K :=
  env.getSafeNormal (m.targetLocation +
    m.actorRightVector * m.widthLimit * choice.side + m.actorUpVector * m.heightLimit * choice.up)

/-- The lantern with the manager's settings, for the given base location. -/
def outfitted (m : ALanternManager K) (baseLocation : FVector K) (texture : Option ℕ)
    (backDirection : FVector K) (typeIndex variationIndex : ℕ) (l : ALanternActor K) :
    ALanternActor K :=
  ((l.init texture backDirection typeIndex variationIndex).setData m.cameraLocation baseLocation
    (m.actorLocation + m.targetLocation) m.widthLimit m.heightLimit m.distance).setLanternSpeed
      m.backSpeed m.upSpeed m.sideSpeed

theorem material_outfitted (m : ALanternManager K) (baseLocation : FVector K)
    (texture : Option ℕ) (backDirection : FVector K) (typeIndex variationIndex : ℕ)
    (l : ALanternActor K) :
    (outfitted m baseLocation texture backDirection typeIndex variationIndex l).material =
      if l.hasMaterial then some texture else l.material := by
  simp only [outfitted, ALanternActor.init, ALanternActor.setData, ALanternActor.setLanternSpeed,
    apply_ite ALanternActor.material]

theorem backDirection_outfitted (m : ALanternManager K) (baseLocation : FVector K)
    (texture : Option ℕ) (backDirection : FVector K) (typeIndex variationIndex : ℕ)
    (l : ALanternActor K) :
    (outfitted m baseLocation texture backDirection typeIndex variationIndex l).backDirection =
      if l.hasMaterial then backDirection else l.backDirection := by
  simp only [outfitted, ALanternActor.init, ALanternActor.setData, ALanternActor.setLanternSpeed,
    apply_ite ALanternActor.backDirection]

theorem speeds_outfitted (m : ALanternManager K) (baseLocation : FVector K)
    (texture : Option ℕ) (backDirection : FVector K) (typeIndex variationIndex : ℕ)
    (l : ALanternActor K) :
    let l' := outfitted m baseLocation texture backDirection typeIndex variationIndex l
    l'.backSpeed = (if m.backSpeed ≠ -1 then m.backSpeed else l.backSpeed) ∧
      l'.upSpeed = (if m.upSpeed ≠ -1 then m.upSpeed else l.upSpeed) ∧
      l'.sideSpeed = if m.sideSpeed ≠ -1 then m.sideSpeed else l.sideSpeed := by
  simp only [outfitted, ALanternActor.init, ALanternActor.setData, ALanternActor.setLanternSpeed,
    apply_ite ALanternActor.backSpeed, apply_ite ALanternActor.upSpeed,
    apply_ite ALanternActor.sideSpeed, ite_self, and_self]

theorem neighborArray_outfitted (m : ALanternManager K) (baseLocation : FVector K)
    (texture : Option ℕ) (backDirection : FVector K) (typeIndex variationIndex : ℕ)
    (l : ALanternActor K) :
    (outfitted m baseLocation texture backDirection typeIndex variationIndex l).neighborArray =
      l.neighborArray := by
  unfold outfitted ALanternActor.init
  dsimp only
  split_ifs <;> rfl

theorem location_outfitted (m : ALanternManager K) (baseLocation : FVector K)
    (texture : Option ℕ) (backDirection : FVector K) (typeIndex variationIndex : ℕ)
    (l : ALanternActor K) :
    (outfitted m baseLocation texture backDirection typeIndex variationIndex l).location =
      l.location := by
  unfold outfitted ALanternActor.init
  dsimp only
  split_ifs <;> rfl

theorem outfitted_withNeighbors (m : ALanternManager K) (baseLocation : FVector K)
    (texture : Option ℕ) (backDirection : FVector K) (typeIndex variationIndex : ℕ)
    (l : ALanternActor K) (ns : List ℕ) (ticks : Bool) :
    outfitted m baseLocation texture backDirection typeIndex variationIndex
        (withNeighbors l ns ticks) =
      withNeighbors (outfitted m baseLocation texture backDirection typeIndex variationIndex l)
        ns true := by
  unfold outfitted ALanternActor.init withNeighbors
  dsimp only
  split_ifs <;> rfl

theorem alive_outfitted (m : ALanternManager K) (baseLocation : FVector K)
    (texture : Option ℕ) (backDirection : FVector K) (typeIndex variationIndex : ℕ)
    (l : ALanternActor K) :
    (outfitted m baseLocation texture backDirection typeIndex variationIndex l).alive =
      l.alive := by
  unfold outfitted ALanternActor.init
  dsimp only
  split_ifs <;> rfl

/-- **What `JustSpawnLantern` does**: place a lantern, which the engine may tell of neighbours, and
give it a texture and its settings. -/
theorem justSpawnLantern_ok {env : Env K} {m : ALanternManager K} {w w' : World K}
    {image : Option UTexture2D} {text : FString} {choice : LanternChoice K}
    {notices : List Notice} {n : ℕ}
    (h : justSpawnLantern env m w image text choice notices = .ok (w', n)) :
    n = w.lanterns.length ∧ ∃ classes lanternClass types letter textures texture v,
      m.lanternTypeArray[choice.spawn.typeIndex]? = some classes ∧
      classes[choice.spawn.variationIndex]? = some lanternClass ∧
      v = notices.foldl notify (placed m w types lanternClass) ∧
      textureFromWidget env v.textures letter m.widgetSize = .ok (textures, texture) ∧
      w' = { v with textures := textures }.modify n (outfitted m m.spawnLocation texture
        (backDirectionOf env m choice) choice.spawn.typeIndex choice.spawn.variationIndex) := by
  obtain ⟨classes, hclasses, h⟩ := bind_ok.mp h
  obtain ⟨⟨types, letter⟩, -, h⟩ := bind_ok.mp h
  obtain ⟨lanternClass, hclass, h⟩ := bind_ok.mp h
  obtain ⟨⟨textures, texture⟩, htex, h⟩ := bind_ok.mp h
  obtain ⟨hw, hn⟩ := Prod.mk.inj (Except.ok.inj h)
  refine ⟨hn.symm, classes, lanternClass, types, letter.letter, textures, texture, _,
    index_ok.mp hclasses, index_ok.mp hclass, rfl, htex, ?_⟩
  rw [← hw, ← hn]
  rfl

/-- The level with the new lantern `n` in the array, where only 500 are kept. -/
def kept (w : World K) (n : ℕ) : World K :=
  if w.lanternArray.length = 500 then
    { destroy w (w.lanternArray.headD 0) with lanternArray := w.lanternArray.tail ++ [n] }
  else { w with lanternArray := w.lanternArray ++ [n] }

/-- **What `SpawnLantern` does**: there is always room for what `JustSpawnLantern` makes. -/
theorem spawnLantern_eq (env : Env K) (m : ALanternManager K) (w : World K)
    (image : Option UTexture2D) (text : FString) (choice : LanternChoice K)
    (notices : List Notice) : spawnLantern env m w image text choice notices =
      (justSpawnLantern env m w image text choice notices).map fun p => kept p.1 p.2 := by
  unfold spawnLantern
  rcases justSpawnLantern env m w image text choice notices with _ | ⟨v, n⟩
  · rfl
  · show (makeRoom v >>= _) = Except.ok (kept v n)
    unfold makeRoom kept
    split_ifs with h500
    · rcases harray : v.lanternArray with _ | ⟨first, rest⟩
      · rw [harray] at h500
        exact absurd h500 (by norm_num)
      · rfl
    · rfl

theorem spawnLantern_ok {env : Env K} {m : ALanternManager K} {w w' : World K}
    {image : Option UTexture2D} {text : FString} {choice : LanternChoice K}
    {notices : List Notice} (h : spawnLantern env m w image text choice notices = .ok w') :
    ∃ v n, justSpawnLantern env m w image text choice notices = .ok (v, n) ∧ w' = kept v n := by
  rw [spawnLantern_eq] at h
  rcases hj : justSpawnLantern env m w image text choice notices with _ | ⟨v, n⟩
  · rw [hj] at h
    cases h
  · rw [hj] at h
    exact ⟨v, n, rfl, (Except.ok.inj h).symm⟩

/-- `JustSpawnLantern` succeeds if the type, its widget and the variation exist, and what is drawn
fits its texture. -/
theorem justSpawnLantern_total {env : Env K} {m : ALanternManager K} {w : World K}
    {classes : List (LanternClass K)} {lanternClass : LanternClass K} {choice : LanternChoice K}
    (hclasses : m.lanternTypeArray[choice.spawn.typeIndex]? = some classes)
    (hclass : classes[choice.spawn.variationIndex]? = some lanternClass)
    (hwidget : choice.spawn.typeIndex < w.types.widgets.length)
    (hfits : ∀ letter, (env.readPixels letter m.widgetSize.1 m.widgetSize.2).length ≤
      m.widgetSize.1 * m.widgetSize.2 * 4)
    (image : Option UTexture2D) (text : FString) (notices : List Notice) :
    ∃ v n, justSpawnLantern env m w image text choice notices = .ok (v, n) ∧
      v.types.widgets.length = w.types.widgets.length := by
  obtain ⟨types, lantern, hspawn, hlen⟩ :=
    Widget.LanternWidget.justSpawnLantern_total hwidget image text
  obtain ⟨v, hv⟩ : ∃ v, v = notices.foldl notify (placed m w types lanternClass) := ⟨_, rfl⟩
  have hnotified : OnlyNeighbors (placed m w types lanternClass) v :=
    hv ▸ onlyNeighbors_foldl onlyNeighbors_notify notices _
  obtain ⟨r, hr⟩ : ∃ r, textureFromWidget env v.textures lantern.letter m.widgetSize = .ok r := by
    rw [textureFromWidget_eq]
    split_ifs with hdraw hfit
    · exact ⟨_, rfl⟩
    · exact absurd (hfits _) hfit
    · exact ⟨_, rfl⟩
  rw [hv] at hr
  refine ⟨_, _, bind_ok.mpr ⟨classes, index_ok.mpr hclasses, bind_ok.mpr ⟨_, hspawn,
    bind_ok.mpr ⟨lanternClass, index_ok.mpr hclass, bind_ok.mpr ⟨r, hr, rfl⟩⟩⟩⟩, ?_⟩
  show (notices.foldl notify (placed m w types lanternClass)).types.widgets.length = _
  rw [← hv, hnotified.types]
  exact hlen

end LanternProject.Lantern.LanternManager
