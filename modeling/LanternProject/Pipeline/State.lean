import LanternProject.Engine.Json
import LanternProject.Widget.LanternWidget

/-! # The letter pipeline: settings and state

`ALanternManager`, `AMqttManager` and `ACapturer` work on one world. `Env` holds what they call but
do not define (the JSON parser, the base64 and image codecs) and what they read but never write
(the settings). `World` holds their members and what the engine keeps for them: the start timer,
the image requests in flight, the background tasks, and everything sent or written so far.

The history fields at the end of `World`, and the fields marked so of the records, are read by no
function of the program: a message is known by its number among the accepted ones, a lantern by its
number among the spawned ones. -/

namespace LanternProject.Pipeline.State

open LanternProject.Engine.Basic LanternProject.Engine.Str LanternProject.Engine.Json
open LanternProject.Widget.LanternWidget

/-- An actor that can be captured: a lantern of `SpawnLantern`, by its number, or any other. -/
inductive AActor where
  | lantern (number : ℕ)
  | other (id : ℕ)
deriving DecidableEq, Repr

/-- A picture of the scene capture: it shows the one actor of `ShowOnlyActors`. -/
structure Picture where
  target : AActor
deriving DecidableEq, Repr

/-- A decoded image. -/
structure IImageWrapper where
  width : ℕ
  height : ℕ
  raw : Option (List UInt8)

/-- What the managers call and read. -/
structure Env where
  /-- `FJsonSerializer::Deserialize`; `none` leaves the pointer invalid. -/
  deserialize : FString → Option FJsonObject
  /-- What `GetObjectField` gives for a missing field. -/
  missingObject : Option FJsonObject
  base64Decode : FString → List UInt8
  base64Encode : List UInt8 → FString
  /-- `CreateImageWrapper` gives a valid pointer. -/
  createImageWrapper : EImageFormat → Bool
  /-- `SetCompressed`; `none` if it fails. -/
  setCompressed : EImageFormat → List UInt8 → Option IImageWrapper
  /-- `CreateTransient` gives a texture. -/
  createTransient : ℕ → ℕ → Bool
  compressImage : FString → Picture → List UInt8
  /-- What `ProcessRequest` returns; the completion delegate is called in either case. -/
  processRequest : FString → Bool
  spawnCoolDown : ℚ
  configMap : List (FString × FString)
  filePath : FString
  /-- The scene capture has a render target. -/
  textureTarget : Bool

/-- `AMqttManager`. -/
structure AMqttManager where
  mqttMessageArray : List FString
  bIsLoading : Bool
  pId : FString
  text : FString
  imageURL : FString
  callbackURL : FString

/-- `ALanternManager`; lanterns are known by their numbers. -/
structure ALanternManager where
  bIsSpawning : Bool
  bIsLoading : Bool
  currentSpawnCoolDown : ℚ
  lanternArray : List ℕ

/-- An image request in flight; history: the message it was issued for. -/
structure ImageRequest where
  url : FString
  issuer : ℕ
deriving DecidableEq

/-- An HTTP response. -/
structure FHttpResponse where
  content : FString

/-- A callback sent; history: the actor on its picture, and the message parsed last. -/
structure CallbackPost where
  url : FString
  content : FJsonObject
  picture : AActor
  message : ℕ

/-- A background task of `ConvertTextureToBase64`; history: the actor captured. -/
structure ScreenshotTask where
  compressedData : List UInt8
  imageFormat : FString
  target : AActor

/-- A screenshot written; history: the actor captured. -/
structure ScreenshotFile where
  imagePath : FString
  imageName : FString
  data : List UInt8
  target : AActor

/-- A lantern spawned by `SpawnLantern`; history: the message it was spawned for. -/
structure Spawn where
  image : Option UTexture2D
  text : FString
  lantern : Lantern
  origin : Option ℕ

/-- The world of the pipeline. -/
structure World where
  lanternManager : ALanternManager
  mqttManager : AMqttManager
  lanternTypes : LanternTypes
  startTimer : Bool
  imageRequests : List ImageRequest
  callbacks : List CallbackPost
  screenshotTasks : List ScreenshotTask
  screenshotFiles : List ScreenshotFile
  log : List FString
  /-- History: the accepted messages, and how many of them were taken from the queue. -/
  accepted : List FString
  requested : ℕ
  /-- History: the spawned lanterns, and those destroyed. -/
  spawned : List Spawn
  destroyed : List ℕ
  /-- History: the responses of the image requests, with the message each was issued for. -/
  responses : List (ℕ × FHttpResponse)

/-- The world when the run begins: the gate is closed until the start timer fires. -/
def init (types : LanternTypes) : World where
  lanternManager := ⟨true, false, 0, []⟩
  mqttManager := ⟨[], false, [], [], [], []⟩
  lanternTypes := types
  startTimer := true
  imageRequests := []
  callbacks := []
  screenshotTasks := []
  screenshotFiles := []
  log := []
  accepted := []
  requested := 0
  spawned := []
  destroyed := []
  responses := []

/-- `BeginPlay`: the widgets are created, one lantern is spawned and destroyed. -/
def beginPlay (assets : List WidgetAsset) (choice : SpawnChoice) : Except Fault World := do
  let types ← spawnAndDestroyLantern (createTypes assets) choice
  .ok (init types)

/-- A run begins in the world `init` of the types `BeginPlay` leaves. -/
theorem beginPlay_ok {assets : List WidgetAsset} {choice : SpawnChoice} {w : World}
    (h : beginPlay assets choice = .ok w) : ∃ types,
      spawnAndDestroyLantern (createTypes assets) choice = .ok types ∧ w = init types := by
  obtain ⟨types, ht, h⟩ := bind_ok.mp h
  exact ⟨types, ht, (Except.ok.inj h).symm⟩

/-- `LogToFile`. -/
def World.logToFile (w : World) (line : FString) : World := { w with log := w.log ++ [line] }

end LanternProject.Pipeline.State
