import LanternProject.Pipeline.Parse

/-! # Spawning a lantern

`SpawnLantern` spawns a lantern, keeps the last 500, and has the capturer photograph it. The
capture starts a background task that will write the picture to a file and, if the manager holds a
callback URL, sends the picture to it at once. `spawnLantern_ok` says all that one call does. -/

namespace LanternProject.Pipeline.Spawn

open LanternProject.Engine.Basic LanternProject.Engine.Str LanternProject.Engine.Json
open LanternProject.Widget.LanternWidget LanternProject.Pipeline.State

/-- `CallbackHTTP`; `picture` is the actor on the picture. -/
def callbackHTTP (env : Env) (w : World) (base64 imageFormat : FString) (picture : AActor) :
    Except Fault World :=
  if w.mqttManager.callbackURL = [] then .ok w
  else
    match mapFind env.configMap (TEXT "app_id") with
    | none => .error .nullPointer
    | some appId =>
      let requestObj : FJsonObject := [(TEXT "app_id", .string appId),
        (TEXT "message_pid", .string w.mqttManager.pId),
        (TEXT "data_b64image",
          .string (TEXT "data:image/" ++ imageFormat ++ TEXT ";base64," ++ base64))]
      .ok { w with callbacks := w.callbacks ++
        [⟨w.mqttManager.callbackURL, requestObj, picture, w.requested - 1⟩] }

/-- `ConvertTextureToBase64` on the render target that shows `target`. -/
def convertTextureToBase64 (env : Env) (w : World) (target : AActor) (imageFormat : FString) :
    World × FString :=
  if env.textureTarget = false then (w, [])
  else
    let compressedData := env.compressImage imageFormat ⟨target⟩
    ({ w with screenshotTasks := w.screenshotTasks ++ [⟨compressedData, imageFormat, target⟩] },
      env.base64Encode compressedData)

/-- `Capture`. -/
def capture (env : Env) (w : World) (target : AActor) : Except Fault World :=
  let imageFormat := TEXT "jpg"
  let (w, base64) := convertTextureToBase64 env w target imageFormat
  callbackHTTP env w base64 imageFormat target

/-- The lantern array after `lantern` is added, and the lanterns destroyed for it. -/
def addLantern (lanternArray : List ℕ) (lantern : ℕ) : List ℕ × List ℕ :=
  if lanternArray.length = 500 then (lanternArray.tail ++ [lantern], lanternArray.take 1)
  else (lanternArray ++ [lantern], [])

/-- `SpawnLantern`; `origin` is the message the lantern is spawned for. -/
def spawnLantern (env : Env) (w : World) (image : Option UTexture2D) (text : FString)
    (choice : SpawnChoice) (origin : Option ℕ) : Except Fault World := do
  let (types, lantern) ← justSpawnLantern w.lanternTypes image text choice
  let (lanternArray, destroyed) := addLantern w.lanternManager.lanternArray w.spawned.length
  let w' ← capture env { w with
    lanternTypes := types
    spawned := w.spawned ++ [⟨image, text, lantern, origin⟩]
    lanternManager := { w.lanternManager with lanternArray := lanternArray }
    destroyed := w.destroyed ++ destroyed } (.lantern w.spawned.length)
  .ok { w' with lanternManager := { w'.lanternManager with bIsSpawning := false } }

/-- `RemoveAllLantern`. -/
def removeAllLantern (w : World) : World :=
  { w with
    destroyed := w.destroyed ++ w.lanternManager.lanternArray
    lanternManager := { w.lanternManager with lanternArray := [] }
    log := w.log ++ [LOGTEXT "ALanternManager::RemoveAllLantern" 215
      (TEXT "Successfylly removed all lanterns")] }

/-! ### What they do -/

/-- The string a capture of `target` is sent as. -/
def dataURL (env : Env) (target : AActor) : FString :=
  TEXT "data:image/" ++ TEXT "jpg" ++ TEXT ";base64," ++
    (if env.textureTarget = false then []
      else env.base64Encode (env.compressImage (TEXT "jpg") ⟨target⟩))

/-- The body a capture of `target` is sent in for the message with the given pid. -/
def callbackBody (env : Env) (pId : FString) (target : AActor) : FJsonObject :=
  [(TEXT "app_id", .string ((mapFind env.configMap (TEXT "app_id")).getD [])),
    (TEXT "message_pid", .string pId), (TEXT "data_b64image", .string (dataURL env target))]

/-- The callbacks a capture of `target` sends. -/
def postsOf (env : Env) (w : World) (target : AActor) : List CallbackPost :=
  if w.mqttManager.callbackURL = [] then []
  else [⟨w.mqttManager.callbackURL, callbackBody env w.mqttManager.pId target, target,
    w.requested - 1⟩]

/-- The background tasks a capture of `target` starts. -/
def tasksOf (env : Env) (target : AActor) : List ScreenshotTask :=
  if env.textureTarget = false then []
  else [⟨env.compressImage (TEXT "jpg") ⟨target⟩, TEXT "jpg", target⟩]

/-- **What `CallbackHTTP` does**: send the picture to the callback URL, if there is one. -/
theorem callbackHTTP_ok {env : Env} {w w' : World} {base64 imageFormat : FString}
    {picture : AActor} (h : callbackHTTP env w base64 imageFormat picture = .ok w') :
    w' = { w with callbacks := w.callbacks ++ if w.mqttManager.callbackURL = [] then [] else
      [⟨w.mqttManager.callbackURL,
        [(TEXT "app_id", .string ((mapFind env.configMap (TEXT "app_id")).getD [])),
          (TEXT "message_pid", .string w.mqttManager.pId),
          (TEXT "data_b64image",
            .string (TEXT "data:image/" ++ imageFormat ++ TEXT ";base64," ++ base64))],
        picture, w.requested - 1⟩] } := by
  unfold callbackHTTP at h
  split_ifs at h with hurl
  · rw [if_pos hurl, List.append_nil]
    exact (Except.ok.inj h).symm
  · rw [if_neg hurl]
    rcases ha : mapFind env.configMap (TEXT "app_id") with _ | appId
    · rw [ha] at h
      cases h
    · rw [ha] at h
      exact (Except.ok.inj h).symm

/-- **What `ConvertTextureToBase64` does**: start a task for the picture, and encode it. -/
theorem convertTextureToBase64_eq (env : Env) (w : World) (target : AActor) :
    convertTextureToBase64 env w target (TEXT "jpg") =
      ({ w with screenshotTasks := w.screenshotTasks ++ tasksOf env target },
        if env.textureTarget = false then []
        else env.base64Encode (env.compressImage (TEXT "jpg") ⟨target⟩)) := by
  unfold convertTextureToBase64 tasksOf
  split_ifs
  · rw [List.append_nil]
  · rfl

theorem capture_ok {env : Env} {w w' : World} {target : AActor}
    (h : capture env w target = .ok w') :
    w' = { w with
      callbacks := w.callbacks ++ postsOf env w target
      screenshotTasks := w.screenshotTasks ++ tasksOf env target } := by
  unfold capture at h
  dsimp only at h
  rw [convertTextureToBase64_eq] at h
  rw [callbackHTTP_ok h]
  rfl

/-- The world after the lantern `s` is spawned and captured; the rest is what may happen to the
widgets and to the lanterns spawned before. -/
def afterSpawn (env : Env) (w : World) (s : Spawn) (types : LanternTypes)
    (lanternArray destroyed : List ℕ) : World :=
  { w with
    lanternManager := { w.lanternManager with
      bIsSpawning := false, lanternArray := lanternArray }
    lanternTypes := types
    callbacks := w.callbacks ++ postsOf env w (.lantern w.spawned.length)
    screenshotTasks := w.screenshotTasks ++ tasksOf env (.lantern w.spawned.length)
    spawned := w.spawned ++ [s]
    destroyed := destroyed }

/-- **What `SpawnLantern` does**: one more lantern, its capture, and the gate opened. -/
theorem spawnLantern_ok {env : Env} {w w' : World} {image : Option UTexture2D} {text : FString}
    {choice : SpawnChoice} {origin : Option ℕ}
    (h : spawnLantern env w image text choice origin = .ok w') :
    ∃ types lantern lanternArray destroyed,
      w' = afterSpawn env w ⟨image, text, lantern, origin⟩ types lanternArray destroyed := by
  obtain ⟨⟨types, lantern⟩, -, h⟩ := bind_ok.mp h
  obtain ⟨w1, hc, h⟩ := bind_ok.mp h
  have hw1 := capture_ok hc
  refine ⟨types, lantern, (addLantern w.lanternManager.lanternArray w.spawned.length).1,
    w.destroyed ++ (addLantern w.lanternManager.lanternArray w.spawned.length).2, ?_⟩
  cases h
  rw [hw1]
  rfl

/-- A capture faults only where the configuration has no `app_id`. -/
theorem capture_error {env : Env} {w : World} {target : AActor} {e : Fault}
    (h : capture env w target = .error e) : e = .nullPointer := by
  unfold capture callbackHTTP at h
  by_cases hc : (convertTextureToBase64 env w target (TEXT "jpg")).1.mqttManager.callbackURL = []
  · simp only [if_pos hc] at h
    cases h
  · simp only [if_neg hc] at h
    cases ha : mapFind env.configMap (TEXT "app_id") with
    | none =>
      simp only [ha, Except.error.injEq] at h
      exact h.symm
    | some appId =>
      simp only [ha] at h
      cases h

/-- `SpawnLantern` indexes no array but that of the lantern types. -/
theorem spawnLantern_error {env : Env} {w : World} {image : Option UTexture2D} {text : FString}
    {choice : SpawnChoice} {origin : Option ℕ} {e : Fault}
    (h : spawnLantern env w image text choice origin = .error e) :
    e = .indexOutOfRange .lanternTypeArray ∨ e = .nullPointer := by
  rcases bind_error.mp h with h | ⟨⟨types, lantern⟩, -, h⟩
  · exact Or.inl (justSpawnLantern_error h)
  · rcases bind_error.mp h with h | ⟨w', -, h⟩
    · exact Or.inr (capture_error h)
    · cases h

end LanternProject.Pipeline.Spawn
