import LanternProject.Pipeline.Spawn

/-! # Taking a message from the queue

`RequestLanternData` takes the first message, parses it, and either asks for its image or spawns
its lantern at once; `OnResponseReceived` spawns the lantern of a message with an image when the
response is there, if nothing is wrong with it (`ImageResponseOk`). `Tick` decides when the next
message is taken, `OnMessage` adds the messages. Each has one lemma that says all a call does. -/

namespace LanternProject.Pipeline.Request

open LanternProject.Engine.Basic LanternProject.Engine.Str LanternProject.Engine.Json
open LanternProject.Widget.LanternWidget LanternProject.Pipeline.State
open LanternProject.Pipeline.Parse LanternProject.Pipeline.Spawn

/-! ### Images -/

/-- The image format of a format name. -/
def imageFormatOf (imageFormatString : FString) : Option EImageFormat :=
  if equalsIgnoreCase imageFormatString (TEXT "JPG") ||
      equalsIgnoreCase imageFormatString (TEXT "JPEG") then some .JPEG
  else if equalsIgnoreCase imageFormatString (TEXT "PNG") then some .PNG
  else none

/-- `Base64ToTexture2D`. -/
def base64ToTexture2D (env : Env) (w : World) (base64String imageFormatString : FString) :
    World × Option UTexture2D :=
  let decodedData := env.base64Decode base64String
  match imageFormatOf imageFormatString with
  | none => (w.logToFile (LOGTEXT "AMqttManager::Base64ToTexture2D" 405
      (TEXT "Image is invalid format : " ++ imageFormatString)), none)
  | some imageFormat =>
    if env.createImageWrapper imageFormat = false then
      (w.logToFile (LOGTEXT "AMqttManager::Base64ToTexture2D" 413
        (TEXT "Cannot create image wrapper")), none)
    else
      match env.setCompressed imageFormat decodedData with
      | none => (w.logToFile (LOGTEXT "AMqttManager::Base64ToTexture2D" 420
          (TEXT "Cannot load compressed image data")), none)
      | some imageWrapper =>
        match imageWrapper.raw with
        | none => (w.logToFile (LOGTEXT "AMqttManager::Base64ToTexture2D" 428
            (TEXT "Cannot get uncompressed image data")), none)
        | some uncompressedData =>
          if env.createTransient imageWrapper.width imageWrapper.height = false then
            (w.logToFile (LOGTEXT "AMqttManager::Base64ToTexture2D" 436
              (TEXT "Cannot create image texture")), none)
          else (w, some ⟨imageWrapper.width, imageWrapper.height, uncompressedData⟩)

/-- The image a base64 text decodes to. -/
def decodedImage (env : Env) (base64String imageFormatString : FString) : Option UTexture2D := do
  let imageFormat ← imageFormatOf imageFormatString
  if env.createImageWrapper imageFormat = false then none
  else
    let imageWrapper ← env.setCompressed imageFormat (env.base64Decode base64String)
    let uncompressedData ← imageWrapper.raw
    if env.createTransient imageWrapper.width imageWrapper.height = false then none
    else some ⟨imageWrapper.width, imageWrapper.height, uncompressedData⟩

theorem base64ToTexture2D_eq (env : Env) (w : World) (base64String imageFormatString : FString) :
    ∃ log, base64ToTexture2D env w base64String imageFormatString =
      ({ w with log := log }, decodedImage env base64String imageFormatString) := by
  unfold base64ToTexture2D decodedImage
  cases hf : imageFormatOf imageFormatString with
  | none => exact ⟨_, rfl⟩
  | some imageFormat =>
    by_cases hw : env.createImageWrapper imageFormat = false
    · exact ⟨w.log ++ [_], by simp [hw, World.logToFile]; rfl⟩
    · cases hc : env.setCompressed imageFormat (env.base64Decode base64String) with
      | none => exact ⟨w.log ++ [_], by simp [hw, hc, World.logToFile]; rfl⟩
      | some imageWrapper =>
        cases hr : imageWrapper.raw with
        | none => exact ⟨w.log ++ [_], by simp [hw, hc, hr, World.logToFile]; rfl⟩
        | some raw =>
          by_cases ht : env.createTransient imageWrapper.width imageWrapper.height = false
          · exact ⟨w.log ++ [_], by simp [hw, hc, hr, ht, World.logToFile]; rfl⟩
          · exact ⟨w.log, by simp [hw, hc, hr, ht]⟩

/-- The data and the image format `OnResponseReceived` splits a data URL into. -/
def splitDataURL (dataString : FString) : FString × FString :=
  let (leftStr, dataString) := (split dataString (TEXT ",")).getD ([], dataString)
  let (leftStr, imageFormat) := (split leftStr (TEXT "/")).getD (leftStr, [])
  let (imageFormat, _) := (split imageFormat (TEXT ";")).getD (imageFormat, leftStr)
  (dataString, imageFormat)

/-- The image of the result object of a response. -/
def resultImage (env : Env) (result : FJsonObject) : Option UTexture2D :=
  let (dataString, imageFormat) := splitDataURL (getStringField result (TEXT "data_b64image"))
  decodedImage env dataString imageFormat

/-! ### The image request -/

/-- `RequestHTTP` for the message parsed last. -/
def requestHTTP (env : Env) (w : World) (url : FString) : World × Bool :=
  if url = [] then
    (w.logToFile (LOGTEXT "AMqttManager::RequestHTTP" 291 (TEXT "Image Url is empty")), false)
  else ({ w with imageRequests := w.imageRequests ++ [⟨url, w.requested - 1⟩] },
    env.processRequest url)

/-- `OnResponseReceived`; the request has no content of its own to log. -/
def onResponseReceived (env : Env) (w : World) (request : ImageRequest)
    (response : Option FHttpResponse) (bIsConnectedSuccessfully : Bool) (choice : SpawnChoice) :
    Except Fault World :=
  if bIsConnectedSuccessfully = false then
    match response with
    | none => .error .nullPointer
    | some response => .ok (w.logToFile (LOGTEXT "AMqttManager::OnResponseReceived" 332
        (TEXT "Image Http Request was failed\nRequest:" ++ [] ++ TEXT "\nResponse:" ++
          response.content)))
  else
    match response with
    | none => .error .nullPointer
    | some response =>
      match env.deserialize response.content with
      | none => .error .nullPointer
      | some responseObject =>
        if getStringField responseObject (TEXT "status") ≠ TEXT "00200" then
          .ok (w.logToFile (LOGTEXT "AMqttManager::OnResponseReceived" 342
            (TEXT "Image HTTP Response status is invalid. Status is " ++
              getStringField responseObject (TEXT "status"))))
        else
          match getObjectField env.missingObject responseObject (TEXT "result") with
          | none => .ok (w.logToFile (LOGTEXT "AMqttManager::OnResponseReceived" 362
              (TEXT "Image Http Response has no 'result' field")))
          | some resultObject =>
            let (dataString, imageFormat) :=
              splitDataURL (getStringField resultObject (TEXT "data_b64image"))
            let (w', texture) := base64ToTexture2D env w dataString imageFormat
            spawnLantern env w' texture w'.mqttManager.text choice (some request.issuer)

/-- The result object of a response that carries status 00200. -/
def resultOf (env : Env) (response : Option FHttpResponse) : Option FJsonObject := do
  let response ← response
  let responseObject ← env.deserialize response.content
  if getStringField responseObject (TEXT "status") ≠ TEXT "00200" then none
  else getObjectField env.missingObject responseObject (TEXT "result")

/-- The response was received and has a result object. -/
def ImageResponseOk (env : Env) (response : Option FHttpResponse)
    (bIsConnectedSuccessfully : Bool) : Prop :=
  bIsConnectedSuccessfully = true ∧ resultOf env response ≠ none

/-- **What `OnResponseReceived` does**: spawn the lantern, or log and return. -/
theorem onResponseReceived_ok {env : Env} {w w' : World} {request : ImageRequest}
    {response : Option FHttpResponse} {connected : Bool} {choice : SpawnChoice}
    (h : onResponseReceived env w request response connected choice = .ok w') :
    (¬ ImageResponseOk env response connected ∧ ∃ log, w' = { w with log := log }) ∨
    (ImageResponseOk env response connected ∧ ∃ log result,
      resultOf env response = some result ∧
      spawnLantern env { w with log := log } (resultImage env result) w.mqttManager.text choice
        (some request.issuer) = .ok w') := by
  unfold onResponseReceived at h
  cases response with
  | none => split_ifs at h
  | some response =>
    cases connected with
    | false =>
      simp only [if_true, Except.ok.injEq] at h
      exact Or.inl ⟨fun hk => (by cases hk.1), _, h.symm⟩
    | true =>
      cases hd : env.deserialize response.content with
      | none => simp [hd] at h
      | some responseObject =>
        by_cases hs : getStringField responseObject (TEXT "status") = TEXT "00200"
        · cases hr : getObjectField env.missingObject responseObject (TEXT "result") with
          | none =>
            simp only [hd, hs, hr, ne_eq, not_true_eq_false, if_false, Except.ok.injEq,
              Bool.true_eq_false] at h
            refine Or.inl ⟨fun hk => hk.2 ?_, _, h.symm⟩
            simp [resultOf, hd, hs, hr]
          | some result =>
            have hres : resultOf env (some response) = some result := by
              simp [resultOf, hd, hs, hr]
            simp only [hd, hs, hr, ne_eq, not_true_eq_false, if_false, Bool.true_eq_false] at h
            obtain ⟨log, hb⟩ := base64ToTexture2D_eq env w
              (splitDataURL (getStringField result (TEXT "data_b64image"))).1
              (splitDataURL (getStringField result (TEXT "data_b64image"))).2
            rw [hb] at h
            exact Or.inr ⟨⟨rfl, by simp [hres]⟩, log, result, hres, h⟩
        · simp only [hd, hs, ne_eq, not_false_eq_true, if_true, if_false, Except.ok.injEq,
            Bool.true_eq_false] at h
          refine Or.inl ⟨fun hk => hk.2 ?_, _, h.symm⟩
          simp [resultOf, hd, hs]

/-- A response indexes no array but that of the lantern types. -/
theorem onResponseReceived_error {env : Env} {w : World} {request : ImageRequest}
    {response : Option FHttpResponse} {connected : Bool} {choice : SpawnChoice} {e : Fault}
    (h : onResponseReceived env w request response connected choice = .error e) :
    e = .indexOutOfRange .lanternTypeArray ∨ e = .nullPointer := by
  unfold onResponseReceived at h
  split_ifs at h
  · split at h
    · exact Or.inr (Except.error.inj h).symm
    · cases h
  · split at h
    · exact Or.inr (Except.error.inj h).symm
    · split at h
      · exact Or.inr (Except.error.inj h).symm
      · split_ifs at h
        split at h
        · cases h
        · exact spawnLantern_error h

/-! ### The queue -/

/-- `HasMessage`. -/
def hasMessage (w : World) : Bool :=
  !w.mqttManager.bIsLoading && decide (0 < w.mqttManager.mqttMessageArray.length)

/-- `RequestLanternData`. -/
def requestLanternData (env : Env) (w : World) (choice : SpawnChoice) : Except Fault World := do
  let currentMessage ← index .mqttMessageArray w.mqttManager.mqttMessageArray 0
  let w := { w with
    mqttManager := { w.mqttManager with mqttMessageArray := w.mqttManager.mqttMessageArray.tail }
    requested := w.requested + 1 }
  let (w, _) := parseMessage env w currentMessage
  if w.mqttManager.imageURL ≠ [] then
    .ok (requestHTTP env w w.mqttManager.imageURL).1
  else spawnLantern env w none w.mqttManager.text choice (some (w.requested - 1))

/-- The manager with the fields of a message. -/
def withFields (m : AMqttManager) (f : Fields) : AMqttManager :=
  { m with pId := f.pId, text := f.text, imageURL := f.imageURL, callbackURL := f.callbackURL }

/-- The world after the first message, `message`, is taken from the queue and parsed. -/
def taken (env : Env) (w : World) (message : FString) : World :=
  { w with
    mqttManager := { withFields w.mqttManager (parsed env message) with
      mqttMessageArray := w.mqttManager.mqttMessageArray.tail }
    requested := w.requested + 1 }

/-- **What `RequestLanternData` does**: take a message, then ask for its image or spawn. -/
theorem requestLanternData_ok {env : Env} {w w' : World} {choice : SpawnChoice}
    (h : requestLanternData env w choice = .ok w') :
    ∃ message log, w.mqttManager.mqttMessageArray[0]? = some message ∧
      (((parsed env message).imageURL ≠ [] ∧ w' = { taken env w message with
          log := log
          imageRequests := w.imageRequests ++ [⟨(parsed env message).imageURL, w.requested⟩] }) ∨
        ((parsed env message).imageURL = [] ∧
          spawnLantern env { taken env w message with log := log } none (parsed env message).text
            choice (some w.requested) = .ok w')) := by
  obtain ⟨message, hm, h⟩ := bind_ok.mp h
  obtain ⟨log, hp⟩ := parseMessage_eq env { w with
    mqttManager := { w.mqttManager with mqttMessageArray := w.mqttManager.mqttMessageArray.tail }
    requested := w.requested + 1 } message
  refine ⟨message, log, index_ok.mp hm, ?_⟩
  simp only [hp] at h
  by_cases hi : (parsed env message).imageURL = []
  · rw [if_neg (by simpa using hi)] at h
    exact Or.inr ⟨hi, h⟩
  · rw [if_pos hi, requestHTTP, if_neg hi] at h
    cases h
    exact Or.inl ⟨hi, rfl⟩

theorem requestLanternData_error {env : Env} {w : World} {choice : SpawnChoice} {e : Fault}
    (h : requestLanternData env w choice = .error e) :
    w.mqttManager.mqttMessageArray = [] ∨
      e = .indexOutOfRange .lanternTypeArray ∨ e = .nullPointer := by
  rcases bind_error.mp h with h | ⟨message, -, h⟩
  · left
    simpa using (index_error.mp h).1
  · right
    dsimp only at h
    split_ifs at h
    exact spawnLantern_error h

/-- `OnMessage`. -/
def onMessage (env : Env) (w : World) (topic message : FString) : World :=
  let (w, isLanternData) := checkIsLanternData env w message
  if isLanternData = false then
    w.logToFile (LOGTEXT "AMqttManager::OnMessage" 159 (message ++ TEXT " is not LanterData Message"))
  else
    let w := w.logToFile (LOGTEXT "AMqttManager::OnMessage" 162
      (TEXT "\n\t\t\t\tTopic:" ++ topic ++ TEXT "\n\t\t\t\tMessage:" ++ message))
    { w with
      mqttManager := { w.mqttManager with
        mqttMessageArray := w.mqttManager.mqttMessageArray ++ [message] }
      accepted := w.accepted ++ [message] }

/-- **What `OnMessage` does**: add an accepted message, or just log. -/
theorem onMessage_eq (env : Env) (w : World) (topic message : FString) : ∃ log,
    onMessage env w topic message =
      if (checkIsLanternData env w message).2 then { w with
        mqttManager := { w.mqttManager with
          mqttMessageArray := w.mqttManager.mqttMessageArray ++ [message] }
        accepted := w.accepted ++ [message]
        log := log }
      else { w with log := log } := by
  obtain ⟨log, hc⟩ := checkIsLanternData_eq env w message
  unfold onMessage
  cases hb : (checkIsLanternData env w message).2 with
  | false => exact ⟨log ++ [_], by simp only [hb, hc, if_true]; rfl⟩
  | true => exact ⟨log ++ [_], by simp only [hb, hc, if_true]; rfl⟩

/-- `Tick` of the lantern manager; the one of `AMqttManager` does nothing. -/
def tick (env : Env) (w : World) (deltaTime : ℚ) (choice : SpawnChoice) : Except Fault World :=
  if w.lanternManager.bIsLoading || w.lanternManager.bIsSpawning then .ok w
  else if w.lanternManager.currentSpawnCoolDown > 0 then
    .ok { w with lanternManager := { w.lanternManager with
      currentSpawnCoolDown := w.lanternManager.currentSpawnCoolDown - deltaTime } }
  else if hasMessage w then
    requestLanternData env { w with lanternManager := { w.lanternManager with
      bIsSpawning := true, currentSpawnCoolDown := env.spawnCoolDown } } choice
  else .ok w

/-- The world with the gate closed for a message. -/
def gated (env : Env) (w : World) : World :=
  { w with lanternManager := { w.lanternManager with
    bIsSpawning := true, currentSpawnCoolDown := env.spawnCoolDown } }

/-- **What `Tick` does**: nothing but count down, or, with the gate open, take a message. -/
theorem tick_ok {env : Env} {w w' : World} {deltaTime : ℚ} {choice : SpawnChoice}
    (h : tick env w deltaTime choice = .ok w') :
    (∃ cool, w' = { w with lanternManager := { w.lanternManager with
      currentSpawnCoolDown := cool } }) ∨
    (w.lanternManager.bIsSpawning = false ∧ requestLanternData env (gated env w) choice = .ok w') := by
  unfold tick at h
  split_ifs at h with h1 h2 h3
  · cases h
    exact Or.inl ⟨w.lanternManager.currentSpawnCoolDown, rfl⟩
  · cases h
    exact Or.inl ⟨_, rfl⟩
  · right
    simp only [Bool.or_eq_true, not_or, Bool.not_eq_true] at h1
    exact ⟨h1.2, h⟩
  · cases h
    exact Or.inl ⟨w.lanternManager.currentSpawnCoolDown, rfl⟩

/-- `Tick` asks for a message only when there is one. -/
theorem tick_error {env : Env} {w : World} {deltaTime : ℚ} {choice : SpawnChoice} {e : Fault}
    (h : tick env w deltaTime choice = .error e) :
    e = .indexOutOfRange .lanternTypeArray ∨ e = .nullPointer := by
  unfold tick at h
  split_ifs at h with h1 h2 h3
  rcases requestLanternData_error h with hnil | he
  · have hnil' : w.mqttManager.mqttMessageArray = [] := hnil
    simp [hasMessage, hnil'] at h3
  · exact he

end LanternProject.Pipeline.Request
