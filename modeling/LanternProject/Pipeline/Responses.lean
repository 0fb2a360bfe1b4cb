import LanternProject.Login.LoginPlayerController
import LanternProject.Pipeline.System

/-! # The answers of the servers

Three handlers read what a server answered: `OnResponseReceived` the image of a letter,
`OnCallbackResponseReceived` the receipt of a screenshot, `OnLoginResponseReceived` the license. A
request that is not answered leaves them with an invalid response, a body that is no JSON object
with an invalid object. -/

namespace LanternProject.Pipeline.Responses

open LanternProject.Engine.Basic LanternProject.Engine.Str LanternProject.Engine.Json
open LanternProject.Widget.LanternWidget LanternProject.Pipeline.State
open LanternProject.Pipeline.Spawn LanternProject.Pipeline.Request
open LanternProject.Pipeline.System
open LanternProject.Login

/-- `OnCallbackResponseReceived`; `requestContent` is the body the callback was sent with. -/
def onCallbackResponseReceived (env : Env) (w : World) (requestContent : FString)
    (response : Option FHttpResponse) (bIsConnectedSuccessfully : Bool) : Except Fault World :=
  if bIsConnectedSuccessfully = false then
    match response with
    | none => .error .nullPointer
    | some response => .ok (w.logToFile (LOGTEXT "AMqttManager::OnCallbackResponseReceived" 373
        (TEXT "Callback Http Request was failed\nRequest:" ++ requestContent ++
          TEXT "\nResponse:" ++ response.content)))
  else
    match response with
    | none => .error .nullPointer
    | some response =>
      match env.deserialize response.content with
      | none => .error .nullPointer
      | some responseObject =>
        if getStringField responseObject (TEXT "status") ≠ TEXT "00200" then
          .ok (w.logToFile (LOGTEXT "AMqttManager::OnCallbackResponseReceived" 382
            (TEXT "Callback HTTP Response status is invalid. Status is " ++
              getStringField responseObject (TEXT "status"))))
        else .ok w

/-! ### Outcomes -/

/-- The outcome of a request. -/
inductive HttpOutcome where
  | notConnected
  | received (content : FString)

/-- The response the engine passes to the handler. -/
def HttpOutcome.response : HttpOutcome → Option FHttpResponse
  | .notConnected => none
  | .received content => some ⟨content⟩

/-- `bIsConnectedSuccessfully`. -/
def HttpOutcome.connected : HttpOutcome → Bool
  | .notConnected => false
  | .received _ => true

/-- The object the server answered with. -/
def HttpOutcome.object (deserialize : FString → Option FJsonObject) :
    HttpOutcome → Option FJsonObject
  | .notConnected => none
  | .received content => deserialize content

/-- The image handler gets past the response: it reports a failure, or spawns the lantern of the
result object. -/
def ImageHandled (env : Env) (w : World) (request : ImageRequest) (choice : SpawnChoice)
    (outcome : HttpOutcome) : Prop :=
  (∃ line, onResponseReceived env w request outcome.response outcome.connected choice =
    .ok (w.logToFile line)) ∨
  ∃ log result, resultOf env outcome.response = some result ∧
    onResponseReceived env w request outcome.response outcome.connected choice =
      spawnLantern env { w with log := log } (resultImage env result) w.mqttManager.text choice
        (some request.issuer)

/-- The callback handler gets to its end, and reports every answer but one with status 00200. -/
def CallbackHandled (env : Env) (w : World) (requestContent : FString) (outcome : HttpOutcome) :
    Prop :=
  (∃ line, onCallbackResponseReceived env w requestContent outcome.response outcome.connected =
    .ok (w.logToFile line)) ∨
  (onCallbackResponseReceived env w requestContent outcome.response outcome.connected = .ok w ∧
    ∃ object, outcome.object env.deserialize = some object ∧
      getStringField object (TEXT "status") = TEXT "00200")

/-- The login handler gets to its end: it travels, or shows an alert; both are logged. -/
def LoginHandled (env : Env) (travelURL : FString) (w : LoginPlayerController.World)
    (outcome : HttpOutcome) : Prop :=
  (∃ line message, LoginPlayerController.onLoginResponseReceived env.deserialize travelURL w
      outcome.response outcome.connected = .ok ((w.showAlertMessage message).logToFile line)) ∨
  ((∃ line, LoginPlayerController.onLoginResponseReceived env.deserialize travelURL w
      outcome.response outcome.connected =
        .ok { w.logToFile line with travelled := some travelURL }) ∧
    ∃ object, outcome.object env.deserialize = some object ∧
      getStringField object (TEXT "result") = TEXT "true")

section
variable {env : Env} {content : FString} {object : FJsonObject}

theorem onResponseReceived_none (env : Env) (w : World) (request : ImageRequest)
    (connected : Bool) (choice : SpawnChoice) :
    onResponseReceived env w request none connected choice = .error .nullPointer := by
  unfold onResponseReceived
  split_ifs <;> rfl

/-- What the image handler does with an object. -/
theorem imageHandled_of_object (hd : env.deserialize content = some object) (w : World)
    (request : ImageRequest) (choice : SpawnChoice) :
    ImageHandled env w request choice (.received content) := by
  unfold ImageHandled onResponseReceived HttpOutcome.response HttpOutcome.connected
  simp only [hd, Bool.true_eq_false, if_false]
  by_cases hs : getStringField object (TEXT "status") = TEXT "00200"
  · rw [if_neg (not_not.mpr hs)]
    rcases hr : getObjectField env.missingObject object (TEXT "result") with _ | result
    · exact Or.inl ⟨_, rfl⟩
    · obtain ⟨log, hb⟩ := base64ToTexture2D_eq env w
        (splitDataURL (getStringField result (TEXT "data_b64image"))).1
        (splitDataURL (getStringField result (TEXT "data_b64image"))).2
      have hresult : resultOf env (some ⟨content⟩) = some result := by simp [resultOf, hd, hs, hr]
      refine Or.inr ⟨log, result, hresult, ?_⟩
      dsimp only
      rw [hb]
      rfl
  · rw [if_pos hs]
    exact Or.inl ⟨_, rfl⟩

/-- What the callback handler does with an object. -/
theorem callbackHandled_of_object (hd : env.deserialize content = some object) (w : World)
    (requestContent : FString) : CallbackHandled env w requestContent (.received content) := by
  unfold CallbackHandled onCallbackResponseReceived HttpOutcome.response HttpOutcome.connected
  simp only [hd, Bool.true_eq_false, if_false]
  by_cases hs : getStringField object (TEXT "status") = TEXT "00200"
  · rw [if_neg (not_not.mpr hs)]
    exact Or.inr ⟨rfl, object, hd, hs⟩
  · rw [if_pos hs]
    exact Or.inl ⟨_, rfl⟩

/-- What the login handler does with an object. -/
theorem loginHandled_of_object (hd : env.deserialize content = some object) (travelURL : FString)
    (w : LoginPlayerController.World) : LoginHandled env travelURL w (.received content) := by
  unfold LoginHandled LoginPlayerController.onLoginResponseReceived HttpOutcome.response
  simp only [hd]
  by_cases hr : getStringField object (TEXT "result") = TEXT "true"
  · rw [if_pos hr]
    exact Or.inr ⟨⟨_, rfl⟩, object, hd, hr⟩
  · rw [if_neg hr]
    exact Or.inl ⟨_, _, rfl⟩

/-- A handler that comes to an end has read a response and an object. -/
theorem object_ne_none_of_imageHandled {w : World} {request : ImageRequest} {choice : SpawnChoice}
    {outcome : HttpOutcome} (h : ImageHandled env w request choice outcome) :
    outcome.object env.deserialize ≠ none := by
  rcases outcome with _ | content
  · rcases h with ⟨line, hline⟩ | ⟨log, result, hr, -⟩
    · rw [HttpOutcome.response, onResponseReceived_none] at hline
      cases hline
    · exact absurd hr (by simp [resultOf, HttpOutcome.response])
  · intro hd
    have hdeserialize : env.deserialize content = none := hd
    rcases h with ⟨line, hline⟩ | ⟨log, result, hr, -⟩
    · exact absurd hline
        (by simp [onResponseReceived, HttpOutcome.response, HttpOutcome.connected, hdeserialize])
    · exact absurd hr (by simp [resultOf, HttpOutcome.response, hdeserialize])

theorem object_ne_none_of_callbackHandled {w : World} {requestContent : FString}
    {outcome : HttpOutcome} (h : CallbackHandled env w requestContent outcome) :
    outcome.object env.deserialize ≠ none := by
  rcases h with ⟨line, hline⟩ | ⟨-, object, ho, -⟩
  · rcases outcome with _ | content
    · exact absurd hline
        (by simp [onCallbackResponseReceived, HttpOutcome.response, HttpOutcome.connected])
    · intro hd
      have hdeserialize : env.deserialize content = none := hd
      exact absurd hline (by simp [onCallbackResponseReceived, HttpOutcome.response,
        HttpOutcome.connected, hdeserialize])
  · rw [ho]
    simp

theorem object_ne_none_of_loginHandled {travelURL : FString} {w : LoginPlayerController.World}
    {outcome : HttpOutcome} (h : LoginHandled env travelURL w outcome) :
    outcome.object env.deserialize ≠ none := by
  rcases h with ⟨line, message, hline⟩ | ⟨-, object, ho, -⟩
  · rcases outcome with _ | content
    · exact absurd hline
        (by simp [LoginPlayerController.onLoginResponseReceived, HttpOutcome.response])
    · intro hd
      have hdeserialize : env.deserialize content = none := hd
      exact absurd hline (by simp [LoginPlayerController.onLoginResponseReceived,
        HttpOutcome.response, hdeserialize])
  · rw [ho]
    simp

end

/-! ### The three handlers -/

/-- **The handlers get to their ends** exactly when the server answered with a JSON object: none of
the three looks at the pointers before it uses them. -/
theorem handled_iff (env : Env) (w : World) (request : ImageRequest) (choice : SpawnChoice)
    (requestContent travelURL : FString) (login : LoginPlayerController.World)
    (outcome : HttpOutcome) :
    (ImageHandled env w request choice outcome ↔ outcome.object env.deserialize ≠ none) ∧
    (CallbackHandled env w requestContent outcome ↔ outcome.object env.deserialize ≠ none) ∧
    (LoginHandled env travelURL login outcome ↔ outcome.object env.deserialize ≠ none) := by
  have hreceived : outcome.object env.deserialize ≠ none →
      ∃ content object, outcome = .received content ∧ env.deserialize content = some object := by
    intro h
    rcases outcome with _ | content
    · exact absurd rfl h
    · obtain ⟨object, ho⟩ := Option.ne_none_iff_exists'.mp h
      exact ⟨content, object, rfl, ho⟩
  refine ⟨⟨object_ne_none_of_imageHandled, ?_⟩, ⟨object_ne_none_of_callbackHandled, ?_⟩,
    ⟨object_ne_none_of_loginHandled, ?_⟩⟩
  · intro h
    obtain ⟨content, object, rfl, hd⟩ := hreceived h
    exact imageHandled_of_object hd w request choice
  · intro h
    obtain ⟨content, object, rfl, hd⟩ := hreceived h
    exact callbackHandled_of_object hd w requestContent
  · intro h
    obtain ⟨content, object, rfl, hd⟩ := hreceived h
    exact loginHandled_of_object hd travelURL login

/-- None of the handlers gets to its end. -/
def NoneHandled (env : Env) (w : World) (outcome : HttpOutcome) : Prop :=
  ¬ ImageHandled env w ⟨TEXT "u", 0⟩ firstChoice outcome ∧
  ¬ CallbackHandled env w (TEXT "c") outcome ∧
  ¬ LoginHandled env (TEXT "t") ⟨[], [], [], none⟩ outcome

theorem noneHandled_of_object {env : Env} {w : World} {outcome : HttpOutcome}
    (h : outcome.object env.deserialize = none) : NoneHandled env w outcome :=
  ⟨fun hi => object_ne_none_of_imageHandled hi h, fun hc => object_ne_none_of_callbackHandled hc h,
    fun hl => object_ne_none_of_loginHandled hl h⟩

/-- Nobody answers, or a proxy answers with a page: each handler reads a pointer it was not given,
two of them to report just that. -/
theorem not_handled_notConnected : NoneHandled sampleEnv sampleWorld .notConnected ∧
    NoneHandled sampleEnv sampleWorld (.received (TEXT "<html>")) :=
  ⟨noneHandled_of_object rfl, noneHandled_of_object rfl⟩

end LanternProject.Pipeline.Responses
