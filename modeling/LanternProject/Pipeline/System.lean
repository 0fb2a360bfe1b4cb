import LanternProject.Lib.Runs
import LanternProject.Pipeline.Request

/-! # The pipeline as a transition system

An `Event` is one call the engine makes: a tick, a message, the start timer, the completion of an
image request, a background task, or one of the functions a Blueprint may call. `step` gives
`none` for an event that cannot happen and a fault for one that ends the process; the runs are those
of `Next`.

`next_cases` says once what every event does (`Effect`), and `step_error` which arrays a fault can
be about. -/

namespace LanternProject.Pipeline.System

open LanternProject.Lib.Runs
open LanternProject.Engine.Basic LanternProject.Engine.Str LanternProject.Engine.Json
open LanternProject.Widget.LanternWidget LanternProject.Pipeline.State
open LanternProject.Pipeline.Parse LanternProject.Pipeline.Spawn LanternProject.Pipeline.Request

/-- A date. -/
structure FDateTime where
  year : ℕ
  month : ℕ
  day : ℕ

/-- The background task of `ConvertTextureToBase64`; `saved` tells whether the file could be
written. -/
def runScreenshotTask (env : Env) (w : World) (task : ScreenshotTask) (now : FDateTime)
    (saved : Bool) : World :=
  let folderName := fromInt now.year
    ++ (if now.month < 10 then TEXT "0" else []) ++ fromInt now.month
    ++ (if now.day < 10 then TEXT "0" else []) ++ fromInt now.day
  let imagePath := env.filePath ++ TEXT "Screenshots/" ++ folderName ++ TEXT "/"
  let imageName := w.mqttManager.pId ++ TEXT "." ++ task.imageFormat
  if saved then { w with screenshotFiles := w.screenshotFiles ++
    [⟨imagePath, imageName, task.compressedData, task.target⟩] }
  else w

/-- What can happen; the image requests and the background tasks are known by their places among
those outstanding. -/
inductive Event where
  | tick (deltaTime : ℚ) (choice : SpawnChoice)
  | onMessage (topic message : FString)
  | startTimer
  | imageResponse (i : ℕ) (response : Option FHttpResponse) (bIsConnectedSuccessfully : Bool)
      (choice : SpawnChoice)
  | screenshotTask (i : ℕ) (now : FDateTime) (saved : Bool)
  | spawnLantern (image : Option UTexture2D) (text : FString) (choice : SpawnChoice)
  | capture (target : AActor)
  | removeAllLantern

/-- The event is not a call of `SpawnLantern` by a Blueprint. -/
def Event.Own : Event → Prop
  | .spawnLantern _ _ _ => False
  | _ => True

/-- The world after the request `i` is answered. -/
def answered (w : World) (i : ℕ) (request : ImageRequest) (response : Option FHttpResponse) :
    World :=
  { w with
    imageRequests := w.imageRequests.eraseIdx i
    responses := w.responses ++ (response.map fun r => (request.issuer, r)).toList }

/-- One event. -/
def step (env : Env) (w : World) : Event → Option (Except Fault World)
  | .tick deltaTime choice => if 0 ≤ deltaTime then some (tick env w deltaTime choice) else none
  | .onMessage topic message => some (.ok (onMessage env w topic message))
  | .startTimer =>
    if w.startTimer then some (.ok { w with
      startTimer := false, lanternManager := { w.lanternManager with bIsSpawning := false } })
    else none
  | .imageResponse i response connected choice =>
    w.imageRequests[i]?.map fun request =>
      onResponseReceived env (answered w i request response) request response connected choice
  | .screenshotTask i now saved =>
    w.screenshotTasks[i]?.map fun task =>
      .ok (runScreenshotTask env { w with screenshotTasks := w.screenshotTasks.eraseIdx i } task
        now saved)
  | .spawnLantern image text choice => some (spawnLantern env w image text choice none)
  | .capture target => some (capture env w target)
  | .removeAllLantern => some (.ok (removeAllLantern w))

/-- The steps of the pipeline. -/
def Next (env : Env) (w : World) (e : Event) (w' : World) : Prop := step env w e = some (.ok w')

/-! ### What the events do -/

/-- **What an event does.** -/
inductive Effect (env : Env) (w : World) : Event → World → Prop
  | idle (deltaTime : ℚ) (choice : SpawnChoice) (cool : ℚ) :
      Effect env w (.tick deltaTime choice)
        { w with lanternManager := { w.lanternManager with currentSpawnCoolDown := cool } }
  | ask (deltaTime : ℚ) (choice : SpawnChoice) (message : FString) (log : List FString)
      (hg : w.lanternManager.bIsSpawning = false)
      (hm : w.mqttManager.mqttMessageArray[0]? = some message)
      (hi : (parsed env message).imageURL ≠ []) :
      Effect env w (.tick deltaTime choice) { taken env (gated env w) message with
        log := log
        imageRequests := w.imageRequests ++ [⟨(parsed env message).imageURL, w.requested⟩] }
  | spawnText (deltaTime : ℚ) (choice : SpawnChoice) (message : FString) (log : List FString)
      (lantern : Lantern) (types : LanternTypes) (lanternArray destroyed : List ℕ)
      (hg : w.lanternManager.bIsSpawning = false)
      (hm : w.mqttManager.mqttMessageArray[0]? = some message) :
      Effect env w (.tick deltaTime choice)
        (afterSpawn env { taken env (gated env w) message with log := log }
          ⟨none, (parsed env message).text, lantern, some w.requested⟩ types lanternArray destroyed)
  | accept (topic message : FString) (log : List FString) :
      Effect env w (.onMessage topic message) { w with
        mqttManager := { w.mqttManager with
          mqttMessageArray := w.mqttManager.mqttMessageArray ++ [message] }
        accepted := w.accepted ++ [message]
        log := log }
  | reject (topic message : FString) (log : List FString) :
      Effect env w (.onMessage topic message) { w with log := log }
  | startTimer (ht : w.startTimer = true) :
      Effect env w .startTimer { w with
        startTimer := false, lanternManager := { w.lanternManager with bIsSpawning := false } }
  | failed (i : ℕ) (request : ImageRequest) (response : Option FHttpResponse) (connected : Bool)
      (choice : SpawnChoice) (log : List FString) (hi : w.imageRequests[i]? = some request)
      (hk : ¬ ImageResponseOk env response connected) :
      Effect env w (.imageResponse i response connected choice)
        { answered w i request response with log := log }
  | spawnImage (i : ℕ) (request : ImageRequest) (response : FHttpResponse) (connected : Bool)
      (choice : SpawnChoice) (log : List FString) (result : FJsonObject)
      (lantern : Lantern) (types : LanternTypes) (lanternArray destroyed : List ℕ)
      (hi : w.imageRequests[i]? = some request)
      (hk : ImageResponseOk env (some response) connected)
      (hr : resultOf env (some response) = some result) :
      Effect env w (.imageResponse i (some response) connected choice)
        (afterSpawn env { answered w i request (some response) with log := log }
          ⟨resultImage env result, w.mqttManager.text, lantern, some request.issuer⟩ types
          lanternArray destroyed)
  | screenshot (i : ℕ) (now : FDateTime) (saved : Bool) (task : ScreenshotTask)
      (hi : w.screenshotTasks[i]? = some task) :
      Effect env w (.screenshotTask i now saved)
        (runScreenshotTask env { w with screenshotTasks := w.screenshotTasks.eraseIdx i } task
          now saved)
  | spawnLantern (image : Option UTexture2D) (text : FString) (choice : SpawnChoice)
      (lantern : Lantern) (types : LanternTypes) (lanternArray destroyed : List ℕ) :
      Effect env w (.spawnLantern image text choice)
        (afterSpawn env w ⟨image, text, lantern, none⟩ types lanternArray destroyed)
  | capture (target : AActor) :
      Effect env w (.capture target) { w with
        callbacks := w.callbacks ++ postsOf env w target
        screenshotTasks := w.screenshotTasks ++ tasksOf env target }
  | removeAllLantern : Effect env w .removeAllLantern (removeAllLantern w)

/-- **Inversion**: every step has one of these effects. -/
theorem next_cases {env : Env} {w w' : World} {e : Event} (h : Next env w e w') :
    Effect env w e w' := by
  unfold Next step at h
  cases e with
  | tick deltaTime choice =>
    simp only [Option.ite_none_right_eq_some, Option.some.injEq] at h
    rcases tick_ok h.2 with ⟨cool, rfl⟩ | ⟨hg, hq⟩
    · exact .idle deltaTime choice cool
    · obtain ⟨message, log, hm, ⟨hi, rfl⟩ | ⟨-, hs⟩⟩ := requestLanternData_ok hq
      · exact .ask deltaTime choice message log hg hm hi
      · obtain ⟨types, lantern, lanternArray, destroyed, rfl⟩ := spawnLantern_ok hs
        exact .spawnText deltaTime choice message log lantern types lanternArray destroyed hg hm
  | onMessage topic message =>
    simp only [Option.some.injEq, Except.ok.injEq] at h
    obtain ⟨log, hm⟩ := onMessage_eq env w topic message
    rw [hm] at h
    split_ifs at h
    · rw [← h]
      exact .accept topic message log
    · rw [← h]
      exact .reject topic message log
  | startTimer =>
    simp only [Option.ite_none_right_eq_some, Option.some.injEq, Except.ok.injEq] at h
    rw [← h.2]
    exact .startTimer h.1
  | imageResponse i response connected choice =>
    obtain ⟨request, hi, hq⟩ := Option.map_eq_some_iff.mp h
    rcases onResponseReceived_ok hq with ⟨hk, log, rfl⟩ | ⟨hk, log, result, hr, hs⟩
    · exact .failed i request response connected choice log hi hk
    · obtain ⟨types, lantern, lanternArray, destroyed, rfl⟩ := spawnLantern_ok hs
      cases response with
      | none => exact absurd rfl (hk.2 : resultOf env none ≠ none)
      | some response =>
        exact .spawnImage i request response connected choice log result lantern types
          lanternArray destroyed hi hk hr
  | screenshotTask i now saved =>
    obtain ⟨task, hi, hq⟩ := Option.map_eq_some_iff.mp h
    rw [← Except.ok.inj hq]
    exact .screenshot i now saved task hi
  | spawnLantern image text choice =>
    obtain ⟨types, lantern, lanternArray, destroyed, rfl⟩ := spawnLantern_ok (Option.some.inj h)
    exact .spawnLantern image text choice lantern types lanternArray destroyed
  | capture target =>
    rw [capture_ok (Option.some.inj h)]
    exact .capture target
  | removeAllLantern =>
    rw [← Except.ok.inj (Option.some.inj h)]
    exact .removeAllLantern

/-- No event indexes `MqttMessageArray` outside its bounds. -/
theorem step_error {env : Env} {w : World} {e : Event} {f : Fault}
    (h : step env w e = some (.error f)) :
    f = .indexOutOfRange .lanternTypeArray ∨ f = .nullPointer := by
  unfold step at h
  cases e with
  | tick deltaTime choice =>
    simp only [Option.ite_none_right_eq_some, Option.some.injEq] at h
    exact tick_error h.2
  | onMessage topic message => cases Option.some.inj h
  | startTimer =>
    simp only [Option.ite_none_right_eq_some, Option.some.injEq] at h
    cases h.2
  | imageResponse i response connected choice =>
    obtain ⟨request, -, hq⟩ := Option.map_eq_some_iff.mp h
    exact onResponseReceived_error hq
  | screenshotTask i now saved =>
    obtain ⟨task, -, hq⟩ := Option.map_eq_some_iff.mp h
    cases hq
  | spawnLantern image text choice => exact spawnLantern_error (Option.some.inj h)
  | capture target => exact Or.inr (capture_error (Option.some.inj h))
  | removeAllLantern => cases Option.some.inj h

/-! ### Playing events -/

/-- The world after the event, if it can happen and does not end the process. -/
def next (env : Env) (w : World) (e : Event) : Option World :=
  (step env w e).bind Except.toOption

theorem next_of_next {env : Env} (w : World) (e : Event) (w' : World)
    (h : next env w e = some w') : Next env w e w' := bind_toOption_eq_some.mp h

/-- The world after the events, if they can happen one after the other. -/
def play (env : Env) (w : World) (es : List Event) : Option World := es.foldlM (next env) w

theorem run_of_play {env : Env} {w w' : World} {es : List Event} (h : play env w es = some w') :
    ∃ tr, Run (Next env) w tr w' ∧ tr.map Prod.snd = es :=
  run_of_foldlM next_of_next es h

/-- A letter with the given body. -/
def letterWith (body : FJsonObject) : FJsonObject :=
  [(TEXT "data", .object [
    (TEXT "head", .object [(TEXT "apicommand", .string (TEXT "content")),
      (TEXT "apiaction", .string (TEXT "letter")), (TEXT "apimethod", .string (TEXT "push"))]),
    (TEXT "body", .object body)])]

/-- The text of a letter with the given text of its body. -/
def letterText (body : String) : FString :=
  TEXT "\x7b\"data\":\x7b\"head\":\x7b\"apicommand\":\"content\",\"apiaction\":\"letter\"," ++
    TEXT "\"apimethod\":\"push\"\x7d,\"body\":" ++ TEXT body ++ TEXT "\x7d\x7d"

/-- A letter with an image, two with a text and a callback. -/
def imageLetter : FString := letterText "\x7b\"pid\":\"0\",\"img\":\"u\"\x7d"
def textLetter1 : FString := letterText "\x7b\"pid\":\"1\",\"text\":\"A\",\"callback\":\"c\"\x7d"
def textLetter2 : FString := letterText "\x7b\"pid\":\"2\",\"text\":\"B\"\x7d"

/-- A response with a result, and one without. -/
def goodResponse : FHttpResponse :=
  ⟨TEXT "\x7b\"status\":\"00200\",\"result\":\x7b\"data_b64image\":\"\"\x7d\x7d"⟩
def badResponse : FHttpResponse := ⟨TEXT "\x7b\"status\":\"00400\"\x7d"⟩

/-- The parser on these texts. -/
def sampleTexts : List (FString × FJsonObject) :=
  [(imageLetter, letterWith [(TEXT "pid", .string (TEXT "0")), (TEXT "img", .string (TEXT "u"))]),
    (textLetter1, letterWith [(TEXT "pid", .string (TEXT "1")), (TEXT "text", .string (TEXT "A")),
      (TEXT "callback", .string (TEXT "c"))]),
    (textLetter2, letterWith [(TEXT "pid", .string (TEXT "2")), (TEXT "text", .string (TEXT "B"))]),
    (goodResponse.content, [(TEXT "status", .string (TEXT "00200")),
      (TEXT "result", .object [(TEXT "data_b64image", .string [])])]),
    (badResponse.content, [(TEXT "status", .string (TEXT "00400"))])]

/-- A world around these messages: no image decodes, a lantern's picture is its number. -/
def sampleEnv : Env where
  deserialize := fun s => (sampleTexts.find? fun p => p.1 == s).map Prod.snd
  missingObject := none
  base64Decode := fun _ => []
  base64Encode := fun data => if data = [0] then TEXT "AA==" else TEXT "AQ=="
  createImageWrapper := fun _ => true
  setCompressed := fun _ _ => none
  createTransient := fun _ _ => true
  compressImage := fun _ picture =>
    match picture.target with
    | .lantern n => [UInt8.ofNat n]
    | .other _ => []
  processRequest := fun _ => true
  spawnCoolDown := 2
  configMap := [(TEXT "app_id", TEXT "a")]
  filePath := TEXT "/"
  textureTarget := true

/-- The world at the start, with one type of lantern. -/
def sampleWorld : World := init (createTypes [⟨none, fun _ => [], firstPage⟩])

/-- A letter with an image: the start timer fires, it arrives, is taken, its request completes. -/
def imageRun (response : FHttpResponse) : List Event :=
  [.startTimer, .onMessage [] imageLetter, .tick 0 firstChoice,
    .imageResponse 0 (some response) true firstChoice]

theorem own_imageRun (response : FHttpResponse) : ∀ e ∈ imageRun response, e.Own := by
  simp [imageRun, Event.Own]

theorem exists_imageRun_good : ∃ w, play sampleEnv sampleWorld (imageRun goodResponse) = some w :=
  Option.isSome_iff_exists.mp (by decide +kernel)

end LanternProject.Pipeline.System
