import LanternProject.Engine.Vector
import LanternProject.Widget.LanternWidget

/-! # The lantern actor

`ALanternActor` flies from a base location towards a target location, one `Tick` at a time, and keeps
away from the lanterns of its `NeighborArray`. Actors and textures are known by their numbers. The
rotation is a yaw; it is read by nothing here.

What the engine computes is in `Env`: normal form, length and yaw of a vector, and the pixels of a
rendered widget. -/

namespace LanternProject.Lantern.LanternActor

open LanternProject.Engine.Basic LanternProject.Engine.Str LanternProject.Engine.Vector
open LanternProject.Widget.LanternWidget

variable {K : Type} [Field K] [LinearOrder K]

/-- What the engine computes. -/
structure Env (K : Type) where
  getSafeNormal : FVector K → FVector K
  length : FVector K → K
  rotationYaw : FVector K → K
  /-- Slate is there, and gives the widget and a renderer for it. -/
  slateInitialized : Bool
  /-- `ReadPixels` of a page drawn in the given size, four bytes a pixel. -/
  readPixels : Letter → ℕ → ℕ → List UInt8
  atof : FString → K

/-- The defaults of a class of lanterns. -/
structure LanternClass (K : Type) where
  /-- `CreateDynamicMaterialInstance` gives a material. -/
  hasMaterial : Bool
  upSpeed : K
  sideSpeed : K
  backSpeed : K

/-- `ALanternActor`. -/
structure ALanternActor (K : Type) where
  alive : Bool
  location : FVector K
  yaw : K
  tickEnabled : Bool
  hasMaterial : Bool
  /-- The dynamic material, by the texture it is given. -/
  material : Option (Option ℕ)
  cameraLocation : FVector K
  baseLocation : FVector K
  targetLocation : FVector K
  widthLimit : K
  heightLimit : K
  distance : K
  backDirection : FVector K
  neighborArray : List ℕ
  upSpeed : K
  sideSpeed : K
  backSpeed : K
  typeIndex : ℕ
  variationIndex : ℕ
  lanternArrayIndex : ℤ
deriving DecidableEq

/-- `SpawnActor` of a class, and `BeginPlay` of the actor. -/
def spawnActor (c : LanternClass K) (location : FVector K) (yaw : K) : ALanternActor K where
  alive := true
  location := location
  yaw := yaw
  tickEnabled := false
  hasMaterial := c.hasMaterial
  material := none
  cameraLocation := 0
  baseLocation := 0
  targetLocation := 0
  widthLimit := 0
  heightLimit := 0
  distance := 0
  backDirection := 0
  neighborArray := []
  upSpeed := c.upSpeed
  sideSpeed := c.sideSpeed
  backSpeed := c.backSpeed
  typeIndex := 0
  variationIndex := 0
  lanternArrayIndex := 0

namespace ALanternActor

/-- `Init`. -/
def init (l : ALanternActor K) (lanternImage : Option ℕ) (newBackDirection : FVector K)
    (newTypeIndex newVariationIndex : ℕ) : ALanternActor K :=
  let l := if l.hasMaterial then
    { l with backDirection := newBackDirection, material := some lanternImage } else l
  { l with typeIndex := newTypeIndex, variationIndex := newVariationIndex }

/-- `SetData`. -/
def setData (l : ALanternActor K)
    (newCameraLocation newBaseLocation newTargetLocation : FVector K)
    (newWidthLimit newHeightLimit newDistance : K) : ALanternActor K :=
  { l with
    cameraLocation := newCameraLocation
    baseLocation := newBaseLocation
    targetLocation := newTargetLocation
    widthLimit := newWidthLimit
    heightLimit := newHeightLimit
    distance := newDistance
    tickEnabled := true }

/-- `SetLanternSpeed`; `-1` keeps a speed. -/
def setLanternSpeed (l : ALanternActor K) (newBackSpeed newUpSpeed newSideSpeed : K) :
    ALanternActor K :=
  { l with
    backSpeed := if newBackSpeed ≠ -1 then newBackSpeed else l.backSpeed
    upSpeed := if newUpSpeed ≠ -1 then newUpSpeed else l.upSpeed
    sideSpeed := if newSideSpeed ≠ -1 then newSideSpeed else l.sideSpeed }

/-- `SetActorLocation`. -/
def setActorLocation (l : ALanternActor K) (location : FVector K) : ALanternActor K :=
  { l with location := location }

/-- `AddActorWorldOffset`. -/
def addActorWorldOffset (l : ALanternActor K) (offset : FVector K) : ALanternActor K :=
  { l with location := l.location + offset }

/-- `GetSeparation`, from the locations of the neighbours. -/
def getSeparation (env : Env K) (l : ALanternActor K) (neighbors : List (FVector K)) : FVector K :=
  let separation := neighbors.foldl (fun separation neighbor =>
    let current := l.location - neighbor
    separation + current / env.length current) 0
  separation / (neighbors.length : K)

/-! `Tick` moves the actor up to seven times. `actorLocation` is `ActorLocation`, where it has turned
and not moved yet. -/

/-- `CurrentDistance`. -/
def currentDistance (l : ALanternActor K) (actorLocation : FVector K) : K :=
  |actorLocation.x - l.baseLocation.x|

/-- `DistanceAlpha`. -/
def distanceAlpha (l : ALanternActor K) (actorLocation : FVector K) : K :=
  l.currentDistance actorLocation / l.distance

/-- `CurrentWidthLimit`. -/
def currentWidthLimit (l : ALanternActor K) (actorLocation : FVector K) : K :=
  lerp 0 l.widthLimit (l.distanceAlpha actorLocation)

/-- To the camera. -/
def turn (env : Env K) (l : ALanternActor K) : ALanternActor K :=
  { l with yaw := env.rotationYaw (l.cameraLocation - l.location) }

/-- Back. -/
def moveBack (l : ALanternActor K) (actorLocation : FVector K) (deltaTime : K) : ALanternActor K :=
  if l.currentDistance actorLocation ≤ l.distance then
    l.addActorWorldOffset ((⟨l.backDirection.x, 0, 0⟩ : FVector K) * l.backSpeed * deltaTime)
  else l

/-- To the side. -/
def moveSide (l : ALanternActor K) (actorLocation : FVector K) (deltaTime : K) : ALanternActor K :=
  if |actorLocation.y - l.baseLocation.y| < l.currentWidthLimit actorLocation then
    l.addActorWorldOffset ((⟨0, l.backDirection.y, 0⟩ : FVector K) * l.sideSpeed * deltaTime)
  else l

/-- To the height of this distance. -/
def moveToHeight (l : ALanternActor K) (actorLocation : FVector K) : ALanternActor K :=
  l.setActorLocation { l.location with
    z := lerp l.baseLocation.z (l.baseLocation + l.backDirection * l.distance).z
      (l.distanceAlpha actorLocation) }

/-- Up. -/
def moveUp (l : ALanternActor K) (deltaTime : K) : ALanternActor K :=
  l.addActorWorldOffset ((⟨0, 0, l.backDirection.z⟩ : FVector K) * l.upSpeed * deltaTime)

/-- Away from the neighbours, back. -/
def keepBack (l : ALanternActor K) (neighborCount : ℕ) (separation : FVector K) (deltaTime : K) :
    ALanternActor K :=
  let neighborCount : K := (neighborCount + 1 : ℕ)
  let powedNeighborCount := neighborCount * neighborCount
  l.addActorWorldOffset
    ((⟨separation.x, 0, 0⟩ : FVector K) * l.backSpeed * powedNeighborCount * deltaTime)

/-- Away from the neighbours, to the side. -/
def keepSide (l : ALanternActor K) (actorLocation : FVector K) (neighborCount : ℕ)
    (separation : FVector K) (deltaTime : K) : ALanternActor K :=
  let neighborCount : K := (neighborCount + 1 : ℕ)
  let powedNeighborCount := neighborCount * neighborCount
  if |actorLocation.y - l.baseLocation.y| < l.widthLimit then
    l.addActorWorldOffset
      ((⟨0, separation.y, 0⟩ : FVector K) * l.sideSpeed * powedNeighborCount * deltaTime)
  else l

/-- The moves before the actor keeps away from its neighbours. -/
def flyBack (env : Env K) (l : ALanternActor K) (deltaTime : K) : ALanternActor K :=
  let l := l.turn env
  let actorLocation := l.location
  let l := l.moveBack actorLocation deltaTime
  let l := l.moveSide actorLocation deltaTime
  let l := l.moveToHeight actorLocation
  l.moveUp deltaTime

/-- The moves by which it keeps away. -/
def keepAway (l : ALanternActor K) (actorLocation : FVector K) (neighborCount : ℕ)
    (separation : FVector K) (deltaTime : K) : ALanternActor K :=
  (l.keepBack neighborCount separation deltaTime).keepSide actorLocation neighborCount separation
    deltaTime

/-- `Tick`, with `NeighborCount` as it is read at first, and the neighbours at the given locations when
`GetSeparation` is called. -/
def tick (env : Env K) (l : ALanternActor K) (neighborCount : ℕ) (neighbors : List (FVector K))
    (deltaTime : K) : ALanternActor K :=
  let actorLocation := l.location
  let l := l.flyBack env deltaTime
  if neighborCount > 0 then
    l.keepAway actorLocation neighborCount (l.getSeparation env neighbors) deltaTime
  else l

/-- `AddNeighborLantern`. -/
def addNeighborLantern (l : ALanternActor K) (newNeighborLantern : ℕ) : ALanternActor K :=
  { l with neighborArray := l.neighborArray ++ [newNeighborLantern] }

end ALanternActor

/-- What a `Tick` is given: `NeighborCount`, where the neighbours are later on, and `DeltaTime`. -/
structure TickInput (K : Type) where
  neighborCount : ℕ
  neighbors : List (FVector K)
  deltaTime : K

/-- The lantern after one of its ticks. -/
def tickBy (env : Env K) (l : ALanternActor K) (t : TickInput K) : ALanternActor K :=
  l.tick env t.neighborCount t.neighbors t.deltaTime

/-! ### What a tick leaves alone -/

/-- The actor at another place, looking elsewhere. -/
def moved (l : ALanternActor K) (location : FVector K) (yaw : K) : ALanternActor K :=
  { l with location := location, yaw := yaw }

/-- What moves and turns an actor, and does nothing else. -/
def OnlyMoves (f : ALanternActor K → ALanternActor K) : Prop :=
  ∀ l, ∃ location yaw, f l = moved l location yaw

omit [Field K] [LinearOrder K] in
theorem OnlyMoves.alive {f : ALanternActor K → ALanternActor K} (hf : OnlyMoves f)
    (l : ALanternActor K) : (f l).alive = l.alive := by
  obtain ⟨location, yaw, h⟩ := hf l
  rw [h]
  rfl

omit [Field K] [LinearOrder K] in
theorem OnlyMoves.neighborArray {f : ALanternActor K → ALanternActor K} (hf : OnlyMoves f)
    (l : ALanternActor K) : (f l).neighborArray = l.neighborArray := by
  obtain ⟨location, yaw, h⟩ := hf l
  rw [h]
  rfl

section Moves
variable (actorLocation : FVector K) (neighborCount : ℕ) (separation : FVector K) (deltaTime : K)

omit [LinearOrder K] in
theorem onlyMoves_turn (env : Env K) : OnlyMoves (ALanternActor.turn env) :=
  fun l => ⟨l.location, _, rfl⟩

omit [Field K] [LinearOrder K] in
theorem onlyMoves_setActorLocation (location : FVector K) :
    OnlyMoves fun l : ALanternActor K => l.setActorLocation location := fun l => ⟨_, l.yaw, rfl⟩

omit [Field K] [LinearOrder K] in
/-- A move with a guard. -/
theorem OnlyMoves.guarded {f : ALanternActor K → ALanternActor K} (hf : OnlyMoves f)
    (p : ALanternActor K → Prop) [DecidablePred p] : OnlyMoves fun l => if p l then f l else l := by
  intro l
  dsimp only
  split_ifs
  · exact hf l
  · exact ⟨l.location, l.yaw, rfl⟩

theorem onlyMoves_moveBack :
    OnlyMoves fun l : ALanternActor K => l.moveBack actorLocation deltaTime :=
  OnlyMoves.guarded (fun l => ⟨_, l.yaw, rfl⟩) _

theorem onlyMoves_moveSide :
    OnlyMoves fun l : ALanternActor K => l.moveSide actorLocation deltaTime :=
  OnlyMoves.guarded (fun l => ⟨_, l.yaw, rfl⟩) _

theorem onlyMoves_moveToHeight :
    OnlyMoves fun l : ALanternActor K => l.moveToHeight actorLocation := fun l => ⟨_, l.yaw, rfl⟩

omit [LinearOrder K] in
theorem onlyMoves_moveUp : OnlyMoves fun l : ALanternActor K => l.moveUp deltaTime :=
  fun l => ⟨_, l.yaw, rfl⟩

omit [LinearOrder K] in
theorem onlyMoves_keepBack :
    OnlyMoves fun l : ALanternActor K => l.keepBack neighborCount separation deltaTime :=
  fun l => ⟨_, l.yaw, rfl⟩

theorem onlyMoves_keepSide : OnlyMoves fun l : ALanternActor K =>
    l.keepSide actorLocation neighborCount separation deltaTime :=
  OnlyMoves.guarded (fun l => ⟨_, l.yaw, rfl⟩) _

omit [Field K] [LinearOrder K] in
/-- One move after the other. -/
theorem OnlyMoves.comp {f g : ALanternActor K → ALanternActor K} (hg : OnlyMoves g)
    (hf : OnlyMoves f) : OnlyMoves fun l => g (f l) := by
  intro l
  obtain ⟨x, yaw, h⟩ := hf l
  obtain ⟨x', yaw', h'⟩ := hg (moved l x yaw)
  exact ⟨x', yaw', (congrArg g h).trans h'⟩

theorem onlyMoves_keepAway : OnlyMoves fun l : ALanternActor K =>
    l.keepAway actorLocation neighborCount separation deltaTime :=
  (onlyMoves_keepSide actorLocation neighborCount separation deltaTime).comp
    (onlyMoves_keepBack neighborCount separation deltaTime)

theorem onlyMoves_flyBack (env : Env K) :
    OnlyMoves fun l : ALanternActor K => l.flyBack env deltaTime := fun l =>
  ((((onlyMoves_moveUp deltaTime).comp (onlyMoves_moveToHeight l.location)).comp
    (onlyMoves_moveSide l.location deltaTime)).comp (onlyMoves_moveBack l.location deltaTime)).comp
      (onlyMoves_turn env) l

/-- **What `Tick` does**: move and turn the actor, nothing else. -/
theorem onlyMoves_tick (env : Env K) (neighbors : List (FVector K)) :
    OnlyMoves fun l : ALanternActor K => l.tick env neighborCount neighbors deltaTime := by
  intro l
  unfold ALanternActor.tick
  dsimp only
  split_ifs
  · exact (onlyMoves_keepAway l.location neighborCount _ deltaTime).comp
      (onlyMoves_flyBack deltaTime env) l
  · exact onlyMoves_flyBack deltaTime env l

end Moves

/-! ### The separation -/

section Separation
variable {c : FVector K → K} {env : Env K} {l : ALanternActor K}

omit [LinearOrder K] in
/-- A coordinate of the separation is the mean of what the neighbours add to it. -/
theorem coord_getSeparation (h0 : c 0 = 0) (hadd : ∀ a b, c (a + b) = c a + c b)
    (hdiv : ∀ (a : FVector K) (k : K), c (a / k) = c a / k) (neighbors : List (FVector K)) :
    c (l.getSeparation env neighbors) = (neighbors.map fun neighbor =>
      c (l.location - neighbor) / env.length (l.location - neighbor)).sum / neighbors.length := by
  have hsum : ∀ (ns : List (FVector K)) (s : FVector K),
      c (ns.foldl (fun separation neighbor =>
        let current := l.location - neighbor
        separation + current / env.length current) s) = c s + (ns.map fun neighbor =>
          c (l.location - neighbor) / env.length (l.location - neighbor)).sum := by
    intro ns
    induction ns with
    | nil => simp
    | cons neighbor ns ih =>
      intro s
      rw [List.foldl_cons, ih, List.map_cons, List.sum_cons, hadd, hdiv, add_assoc]
  unfold ALanternActor.getSeparation
  rw [hdiv, hsum, h0, zero_add]

/-- So it is within the bounds of what they add. -/
theorem coord_getSeparation_mem_Icc [IsStrictOrderedRing K] (h0 : c 0 = 0)
    (hadd : ∀ a b, c (a + b) = c a + c b) (hdiv : ∀ (a : FVector K) (k : K), c (a / k) = c a / k)
    {neighbors : List (FVector K)} (hne : neighbors ≠ []) {a b : K}
    (h : ∀ neighbor ∈ neighbors,
      c (l.location - neighbor) / env.length (l.location - neighbor) ∈ Set.Icc a b) :
    c (l.getSeparation env neighbors) ∈ Set.Icc a b := by
  have hpos : (0 : K) < neighbors.length := Nat.cast_pos.mpr (List.length_pos_iff.mpr hne)
  have hbelow := List.card_nsmul_le_sum (neighbors.map fun neighbor =>
    c (l.location - neighbor) / env.length (l.location - neighbor)) a
      (List.forall_mem_map.mpr fun neighbor hmem => (h neighbor hmem).1)
  have habove := List.sum_le_card_nsmul (neighbors.map fun neighbor =>
    c (l.location - neighbor) / env.length (l.location - neighbor)) b
      (List.forall_mem_map.mpr fun neighbor hmem => (h neighbor hmem).2)
  rw [List.length_map, nsmul_eq_mul] at hbelow habove
  rw [coord_getSeparation h0 hadd hdiv]
  exact ⟨(le_div_iff₀' hpos).mpr hbelow, (div_le_iff₀' hpos).mpr habove⟩

end Separation

/-! ### Where a tick takes a lantern -/

/-- The place the lantern flies back to. -/
def flight (l : ALanternActor K) (deltaTime : K) : FVector K :=
  let currentDistance := |l.location.x - l.baseLocation.x|
  let distanceAlpha := currentDistance / l.distance
  { x := l.location.x +
      if currentDistance ≤ l.distance then l.backDirection.x * l.backSpeed * deltaTime else 0
    y := l.location.y +
      if |l.location.y - l.baseLocation.y| < lerp 0 l.widthLimit distanceAlpha then
        l.backDirection.y * l.sideSpeed * deltaTime
      else 0
    z := lerp l.baseLocation.z (l.baseLocation + l.backDirection * l.distance).z distanceAlpha +
      l.backDirection.z * l.upSpeed * deltaTime }

theorem location_flyBack (env : Env K) (l : ALanternActor K) (deltaTime : K) :
    (l.flyBack env deltaTime).location = flight l deltaTime := by
  unfold ALanternActor.flyBack ALanternActor.turn ALanternActor.moveBack ALanternActor.moveSide
    ALanternActor.moveToHeight ALanternActor.moveUp ALanternActor.currentWidthLimit
    ALanternActor.distanceAlpha ALanternActor.currentDistance ALanternActor.setActorLocation
    ALanternActor.addActorWorldOffset flight
  by_cases hback : |l.location.x - l.baseLocation.x| ≤ l.distance
  · by_cases hin : |l.location.y - l.baseLocation.y| <
        lerp 0 l.widthLimit (|l.location.x - l.baseLocation.x| / l.distance)
    · simp [hback, hin, FVector.ext_iff]
    · simp [hback, hin, FVector.ext_iff]
  · by_cases hin : |l.location.y - l.baseLocation.y| <
        lerp 0 l.widthLimit (|l.location.x - l.baseLocation.x| / l.distance)
    · simp [hback, hin, FVector.ext_iff]
    · simp [hback, hin, FVector.ext_iff]

end LanternProject.Lantern.LanternActor
