import LanternProject.Lib.Runs
import LanternProject.Lantern.SaveData
import LanternProject.Lantern.Tick
import LanternProject.Pipeline.System

/-! # Lanterns over time

What can happen to the lanterns of a level: they are spawned, removed, moved, begin and end to
overlap, are saved and loaded, and textures are made for them. `step` gives `none` for an event that
cannot happen and a fault for one that ends the process; the runs are those of `Next`. -/

namespace LanternProject.Lantern.System

open LanternProject.Lib.Runs
open LanternProject.Engine.Basic LanternProject.Engine.Str LanternProject.Engine.Vector
open LanternProject.Widget.LanternWidget LanternProject.Save.LanternSaveGame
open LanternProject.Lantern.LanternActor LanternProject.Lantern.Texture
open LanternProject.Lantern.Level LanternProject.Lantern.LanternManager
open LanternProject.Lantern.SaveData LanternProject.Lantern.Tick

variable {K : Type} [Field K] [LinearOrder K]

/-- What stays the same: the engine, the decoders, and the settings of the manager. -/
structure Setting (K : Type) where
  env : LanternActor.Env K
  decoders : Pipeline.State.Env
  manager : ALanternManager K

/-- A level and the save object. -/
structure State (K : Type) where
  world : World K
  saveGame : ULanternSaveGame (FLanternData K)

/-- `Base64ToTexture2D` on the bulk data of its texture; the decoding is `decodedImage`. -/
def base64ToTexture2D (decoders : Pipeline.State.Env) (ts : Textures)
    (base64String imageFormatString : FString) : Except Fault (Textures × Option ℕ) :=
  match Pipeline.Request.decodedImage decoders base64String imageFormatString with
  | none => .ok (ts, none)
  | some image =>
    match createTransient ts image.sizeX image.sizeY with
    | (_, none) => .ok (ts, none)
    | (ts, some texture) => do
      let ts ← lock ts texture
      let ts ← memcpyTo ts texture image.mip
      let ts ← unlock ts texture
      .ok (ts, some texture)

/-- What can happen. A lantern also moves by other means than its `Tick`. -/
inductive Event (K : Type) where
  | spawnLantern (image : Option UTexture2D) (text : FString) (choice : LanternChoice K)
      (notices : List Notice)
  | removeAllLantern
  | tick (lantern : ℕ) (deltaTime : K) (notices : TickNotices)
  | move (lantern : ℕ) (location : FVector K)
  | beginOverlap (p : Overlap)
  | endOverlap (p : Overlap)
  | textureFromWidget (letter : Letter) (drawSize : ℕ × ℕ)
  | base64ToTexture2D (base64String imageFormatString : FString)
  | saveLanternArray (lanternArray : TArray ℕ)
  | loadLantern (lanternDataArray : List (FLanternData K)) (notices : ℕ → LoadNotices)
  | loadLanternArray (notices : ℕ → LoadNotices)

/-- One event. -/
def step (setting : Setting K) (s : State K) : Event K → Except Fault (State K)
  | .spawnLantern image text choice notices => do
    let w ← spawnLantern setting.env setting.manager s.world image text choice notices
    .ok { s with world := w }
  | .removeAllLantern => .ok { s with world := removeAllLantern s.world }
  | .tick lantern deltaTime notices => do
    let w ← tickLantern setting.env s.world lantern deltaTime notices
    .ok { s with world := w }
  | .move lantern location =>
    .ok { s with world := s.world.modify lantern fun l => l.setActorLocation location }
  | .beginOverlap p => .ok { s with world := beginOverlap s.world p }
  | .endOverlap p => .ok { s with world := endOverlap s.world p }
  | .textureFromWidget letter drawSize => do
    let (textures, _) ← textureFromWidget setting.env s.world.textures letter drawSize
    .ok { s with world := { s.world with textures := textures } }
  | .base64ToTexture2D base64String imageFormatString => do
    let (textures, _) ←
      base64ToTexture2D setting.decoders s.world.textures base64String imageFormatString
    .ok { s with world := { s.world with textures := textures } }
  | .saveLanternArray lanternArray => do
    let (w, g) ← saveLanternArray s.world s.saveGame lanternArray.elems
    .ok { world := w, saveGame := g }
  | .loadLantern lanternDataArray notices => do
    let w ← loadLantern setting.manager s.world lanternDataArray notices
    .ok { s with world := w }
  | .loadLanternArray notices => do
    let (w, g) ← loadLanternArray setting.manager s.world s.saveGame notices
    .ok { world := w, saveGame := g }

/-- The steps. -/
def Next (setting : Setting K) (s : State K) (e : Event K) (s' : State K) : Prop :=
  step setting s e = .ok s'

/-- The state when `BeginPlay` has spawned and destroyed its lantern. -/
def beginPlay (setting : Setting K) (assets : List WidgetAsset) (choice : LanternChoice K)
    (notices : List Notice) : Except Fault (State K) := do
  let w ← spawnAndDestroyLantern setting.env setting.manager (emptyLevel assets) choice notices
  .ok { world := w, saveGame := createSaveGame _ }

/-- The event loads no lanterns. -/
def Event.LoadsNone : Event K → Prop
  | .loadLantern _ _ => False
  | .loadLanternArray _ => False
  | _ => True

/-! ### What the events do -/

/-- At most one texture is new, and it is unlocked. -/
def Textured (ts ts' : Textures) : Prop :=
  ts' = ts ∨ ∃ mip, mip.locked = false ∧ ts' = ts ++ [mip]

theorem base64ToTexture2D_ok {decoders : Pipeline.State.Env} {ts ts' : Textures}
    {base64String imageFormatString : FString} {texture : Option ℕ}
    (h : base64ToTexture2D decoders ts base64String imageFormatString = .ok (ts', texture)) :
    Textured ts ts' := by
  unfold base64ToTexture2D at h
  rcases himage : Pipeline.Request.decodedImage decoders base64String imageFormatString
    with _ | image
  · rw [himage] at h
    exact Or.inl (Prod.mk.inj (Except.ok.inj h)).1.symm
  · simp only [himage] at h
    unfold createTransient at h
    split_ifs at h with hsize
    · dsimp only at h
      rw [lock_memcpyTo_unlock_new] at h
      split_ifs at h
      exact Or.inr ⟨_, rfl, (Prod.mk.inj (Except.ok.inj h)).1.symm⟩
    · exact Or.inl (Prod.mk.inj (Except.ok.inj h)).1.symm

/-- **What an event does that loads no lanterns.** -/
inductive Effect (setting : Setting K) (s : State K) : Event K → State K → Prop
  | spawnLantern (image : Option UTexture2D) (text : FString) (choice : LanternChoice K)
      (notices : List Notice) (w : World K) (n : ℕ)
      (hj : justSpawnLantern setting.env setting.manager s.world image text choice notices =
        .ok (w, n)) :
      Effect setting s (.spawnLantern image text choice notices) { s with world := kept w n }
  | removeAllLantern :
      Effect setting s .removeAllLantern { s with world := removeAllLantern s.world }
  | moved (e : Event K) (lantern : ℕ) (ns : List Notice) (w : World K)
      (he : (∃ deltaTime notices, e = .tick lantern deltaTime notices ∧ ns <+: notices.all) ∨
        ∃ location, e = .move lantern location ∧ ns = [])
      (hm : Moves lantern s.world ns w) : Effect setting s e { s with world := w }
  | beginOverlap (p : Overlap) :
      Effect setting s (.beginOverlap p) { s with world := beginOverlap s.world p }
  | endOverlap (p : Overlap) :
      Effect setting s (.endOverlap p) { s with world := endOverlap s.world p }
  | textured (e : Event K) (ts : Textures)
      (he : (∃ letter drawSize, e = .textureFromWidget letter drawSize) ∨
        ∃ base64String imageFormatString, e = .base64ToTexture2D base64String imageFormatString)
      (ht : Textured s.world.textures ts) :
      Effect setting s e { s with world := { s.world with textures := ts } }
  | saveLanternArray (lanternArray : TArray ℕ) (records : List (FLanternData K)) :
      Effect setting s (.saveLanternArray lanternArray)
        { world := indexed lanternArray.elems lanternArray.elems s.world
          saveGame := { s.saveGame with
            lanternDataArray := s.saveGame.lanternDataArray ++ records } }

/-- **Inversion**: every step that loads no lanterns has one of these effects. -/
theorem next_cases {setting : Setting K} {s s' : State K} {e : Event K} (hl : e.LoadsNone)
    (h : Next setting s e s') : Effect setting s e s' := by
  unfold Next step at h
  rcases e with ⟨image, text, choice, notices⟩ | _ | ⟨lantern, deltaTime, notices⟩ |
    ⟨lantern, location⟩ | p | p | ⟨letter, drawSize⟩ | ⟨base64String, imageFormatString⟩ |
    lanternArray | _ | _
  · obtain ⟨w, hs, h⟩ := bind_ok.mp h
    obtain ⟨v, n, hj, rfl⟩ := spawnLantern_ok hs
    rw [← Except.ok.inj h]
    exact .spawnLantern image text choice notices v n hj
  · rw [← Except.ok.inj h]
    exact .removeAllLantern
  · obtain ⟨w, ht, h⟩ := bind_ok.mp h
    obtain ⟨call, hc⟩ := tickLantern_ok ht
    obtain ⟨ns, hns, hm⟩ := moves_tickCall hc
    rw [← Except.ok.inj h]
    exact .moved _ lantern ns w (Or.inl ⟨deltaTime, notices, rfl, hns⟩) hm
  · rw [← Except.ok.inj h]
    exact .moved _ lantern [] _ (Or.inr ⟨location, rfl, rfl⟩)
      (.move (onlyMoves_setActorLocation location) (.refl _))
  · rw [← Except.ok.inj h]
    exact .beginOverlap p
  · rw [← Except.ok.inj h]
    exact .endOverlap p
  · obtain ⟨⟨ts, texture⟩, ht, h⟩ := bind_ok.mp h
    rw [← Except.ok.inj h]
    refine .textured _ ts (Or.inl ⟨letter, drawSize, rfl⟩) ?_
    rcases textureFromWidget_ok ht with ⟨-, hts⟩ | ⟨mip, -, hmip, hts⟩
    · exact Or.inl hts
    · exact Or.inr ⟨mip, hmip, hts⟩
  · obtain ⟨⟨ts, texture⟩, ht, h⟩ := bind_ok.mp h
    rw [← Except.ok.inj h]
    exact .textured _ ts (Or.inr ⟨base64String, imageFormatString, rfl⟩) (base64ToTexture2D_ok ht)
  · obtain ⟨⟨w, g⟩, hs, h⟩ := bind_ok.mp h
    obtain ⟨-, rfl, records, -, rfl⟩ := saveLanternArray_cases hs
    rw [← Except.ok.inj h]
    exact .saveLanternArray lanternArray records
  · exact hl.elim
  · exact hl.elim

/-! ### Playing events -/

/-- The state after the event, if it does not end the process. -/
def next (setting : Setting K) (s : State K) (e : Event K) : Option (State K) :=
  (step setting s e).toOption

theorem next_of_next (setting : Setting K) (s : State K) (e : Event K) (s' : State K)
    (h : next setting s e = some s') : Next setting s e s' := toOption_eq_some.mp h

/-- The state after the events, one after the other. -/
def play (setting : Setting K) (s : State K) (es : List (Event K)) : Option (State K) :=
  es.foldlM (next setting) s

theorem run_of_play {setting : Setting K} {s s' : State K} {es : List (Event K)}
    (h : play setting s es = some s') :
    ∃ tr, Run (Next setting) s tr s' ∧ tr.map Prod.snd = es :=
  run_of_foldlM (next_of_next setting) es h

/-- A manager at the origin with one type of lantern, spawned elsewhere. -/
def sampleManager : ALanternManager ℚ where
  actorLocation := 0
  actorYaw := 0
  actorRightVector := ⟨0, 1, 0⟩
  actorUpVector := ⟨0, 0, 1⟩
  backSpeed := 1
  upSpeed := 1
  sideSpeed := 1
  targetLocation := ⟨2, 0, 0⟩
  upLimitLocation := ⟨2, 0, 1⟩
  rightLimitLocation := ⟨2, 1, 0⟩
  spawnLocation := ⟨1, 0, 0⟩
  cameraLocation := 0
  widthLimit := 1
  heightLimit := 1
  distance := 2
  lanternTypeArray := [[⟨true, 1, 1, 1⟩]]
  widgetSize := (1, 1)

/-- An engine that draws one grey pixel. -/
def sampleEngine : LanternActor.Env ℚ where
  getSafeNormal := fun v => v / |v.x|
  length := fun v => |v.x|
  rotationYaw := fun v => v.y
  slateInitialized := true
  readPixels := fun _ _ _ => [128, 128, 128, 255]
  atof := fun _ => 1

/-- A setting, the level when it begins, and some events. -/
def sampleSetting : Setting ℚ := ⟨sampleEngine, Pipeline.System.sampleEnv, sampleManager⟩
def sampleAssets : List WidgetAsset := [⟨none, fun _ => [], firstPage⟩]
def sampleChoice : LanternChoice ℚ := ⟨firstChoice, 0, 0⟩
def sampleSpawn : Event ℚ := .spawnLantern none (TEXT "A") sampleChoice []
def sampleSave : Event ℚ := .saveLanternArray ⟨[1], by decide⟩

/-- The second of two lanterns flies before the first, and they overlap. -/
def samplePair : List (Event ℚ) :=
  [sampleSpawn, sampleSpawn, .move 2 ⟨2, 0, 0⟩, .beginOverlap ⟨2, 1, 0⟩]

def sampleArray : TArray ℕ := ⟨[1, 2], by decide⟩

/-- The state after `BeginPlay` and these events. -/
def playFromStart (es : List (Event ℚ)) : Option (State ℚ) :=
  (beginPlay sampleSetting sampleAssets sampleChoice []).toOption.bind fun s =>
    play sampleSetting s es

theorem run_of_playFromStart {es : List (Event ℚ)} {s : State ℚ} (h : playFromStart es = some s) :
    ∃ s₀ tr, beginPlay sampleSetting sampleAssets sampleChoice [] = .ok s₀ ∧
      Run (Next sampleSetting) s₀ tr s ∧ tr.map Prod.snd = es := by
  obtain ⟨s₀, h₀, hp⟩ := Option.bind_eq_some_iff.mp h
  obtain ⟨tr, hr, htr⟩ := run_of_play hp
  exact ⟨s₀, tr, toOption_eq_some.mp h₀, hr, htr⟩

end LanternProject.Lantern.System
