import LanternProject.Config.LoadConfig
import LanternProject.Lib.Runs
import LanternProject.Login.LoginPlayerController
import LanternProject.Pipeline.Spawn

/-! # Start-up

What the program does with its settings from `Init` on: the window is moved by a timer, the player
logs in, and after the license server's answer the next level brings the lantern manager and the MQTT
manager, which connects, subscribes and sends callbacks. Each step is one call the engine makes;
`step` gives `none` for a call that cannot come and a fault for one that reads an invalid pointer.
What else the calls do is left out: the log file, the actors and the widgets. -/

namespace LanternProject.Config.Startup

open LanternProject.Lib.Runs LanternProject.Engine.Basic LanternProject.Engine.Str
open LanternProject.Engine.Json LanternProject.Pipeline LanternProject.Login
open LanternProject.Login.LoginPlayerController (findDeref)
open LanternProject.Config.LoadConfig

/-- What start-up calls: `Atoi` and `Atof`, the JSON parser, the files. `gameUserSettings` tells
whether there are user settings, `pipeline` is what a callback is built with. -/
structure Env where
  fileManager : IPlatformFile
  filePath : FString
  atoi : FString → ℤ
  atof : FString → ℚ
  deserialize : FString → Option FJsonObject
  travelURL : FString
  gameUserSettings : Bool
  pipeline : State.Env

/-- What `ApplyConfig` sets. -/
structure UGameUserSettings where
  screenResolution : ℤ × ℤ
  fullscreenMode : ℤ
deriving DecidableEq

/-- The speeds `ALanternManager::BeginPlay` reads. -/
structure Speeds where
  backSpeed : ℚ
  upSpeed : ℚ
  sideSpeed : ℚ
deriving DecidableEq

/-- The program: the settings, the timer of the window, the login, and in the next level the
managers, of which the MQTT manager has its own copy of the settings. -/
structure World where
  configMap : FConfigMap
  userSettings : Option UGameUserSettings
  moveWindowTimer : Bool
  windowPosition : Option (ℤ × ℤ)
  login : LoginPlayerController.World
  lanternManager : Option Speeds
  mqttManager : Option FConfigMap
  connectTasks : List FString
  subscriptions : List FString
  callbacks : List State.CallbackPost

/-- Before `Init`. -/
def created (configMap : FConfigMap) : World :=
  ⟨configMap, none, false, none, ⟨[], [], [], none⟩, none, none, [], [], []⟩

/-! ### The functions -/

/-- `ApplyConfig`. -/
def applyConfig (env : Env) (w : World) : World × Bool :=
  if env.gameUserSettings = false then (w, false)
  else
    match mapFind w.configMap (TEXT "width") with
    | none => (w, false)
    | some width =>
      match mapFind w.configMap (TEXT "height") with
      | none => (w, false)
      | some height =>
        match mapFind w.configMap (TEXT "fullscreenmode") with
        | none => (w, false)
        | some fullScreenMode =>
          let screenResolution := (env.atoi width, env.atoi height)
          ({ w with userSettings := some ⟨screenResolution, env.atoi fullScreenMode⟩ }, true)

/-- `Init`; the result of `ApplyConfig` is not looked at. -/
def init (env : Env) (w : World) : World :=
  let (configMap, loaded) := loadConfig env.fileManager env.filePath w.configMap
  let w := { w with configMap := configMap }
  if loaded then { (applyConfig env w).1 with moveWindowTimer := true }
  else w

/-- `MoveWindowFunction`; `window` tells whether the engine has a viewport with a window. -/
def moveWindowFunction (env : Env) (w : World) (window : Bool) : Except Fault World :=
  if window then do
    let xPos ← findDeref w.configMap (TEXT "left")
    let yPos ← findDeref w.configMap (TEXT "top")
    .ok { w with windowPosition := some (env.atoi xPos, env.atoi yPos), moveWindowTimer := false }
  else .ok w

/-- `ALanternManager::BeginPlay`, the settings it reads. -/
def lanternManagerBeginPlay (env : Env) (w : World) : Except Fault World := do
  let backSpeed ← findDeref w.configMap (TEXT "backspeed")
  let upSpeed ← findDeref w.configMap (TEXT "upspeed")
  let sideSpeed ← findDeref w.configMap (TEXT "sidespeed")
  let speeds : Speeds := ⟨env.atof backSpeed, env.atof upSpeed, env.atof sideSpeed⟩
  .ok { w with lanternManager := some speeds }

/-- `ConnectToServer`, with the settings of the manager: a background task is started. -/
def connectToServer (w : World) (configMap : FConfigMap) : Except Fault World := do
  let ip ← findDeref configMap (TEXT "mqtt_broker_ip")
  let port ← findDeref configMap (TEXT "mqtt_broker_port")
  .ok { w with connectTasks := w.connectTasks ++ [ip ++ TEXT ":" ++ port] }

/-- `AMqttManager::BeginPlay`. -/
def mqttManagerBeginPlay (w : World) : Except Fault World :=
  connectToServer { w with mqttManager := some w.configMap } w.configMap

/-- `OnConnected`; `bIsSuccess` is what `Subscribe` reports. -/
def onConnected (w : World) (configMap : FConfigMap) (bIsSuccess : Bool) : Except Fault World := do
  let topic ← findDeref configMap (TEXT "mqtt_broker_topic")
  .ok (if bIsSuccess then { w with subscriptions := w.subscriptions ++ [topic] } else w)

/-- `CallbackHTTP` for the letter the pipeline is at. -/
def callbackHTTP (env : Env) (w : World) (configMap : FConfigMap) (letter : State.World)
    (base64 imageFormat : FString) (picture : State.AActor) : Except Fault World := do
  let letter ← Spawn.callbackHTTP { env.pipeline with configMap := configMap }
    { letter with callbacks := w.callbacks } base64 imageFormat picture
  .ok { w with callbacks := letter.callbacks }

/-! ### The steps -/

/-- What can happen: a call of the engine or of a Blueprint. The requests for the license are known
by their places among those in flight. -/
inductive Event where
  | moveWindow (window : Bool)
  | login
  | loginResponse (i : ℕ) (response : Option State.FHttpResponse) (bConnectedSuccessfully : Bool)
  | lanternManagerBeginPlay
  | mqttManagerBeginPlay
  | connectToServer
  | onConnected (bIsSuccess : Bool)
  | callbackHTTP (letter : State.World) (base64 imageFormat : FString) (picture : State.AActor)

/-- The event reads settings. -/
def Event.LooksUp : Event → Prop
  | .loginResponse _ _ _ => False
  | _ => True

/-- One event. The managers are in the level the login leads to; the broker answers only a task that
was started. -/
def step (env : Env) (w : World) : Event → Option (Except Fault World)
  | .moveWindow window => if w.moveWindowTimer then some (moveWindowFunction env w window) else none
  | .login =>
    if w.login.travelled = none then
      some ((LoginPlayerController.login w.configMap w.login).map fun login =>
        { w with login := login })
    else none
  | .loginResponse i response connected =>
    if i < w.login.requests.length ∧ w.login.travelled = none then
      some ((LoginPlayerController.onLoginResponseReceived env.deserialize env.travelURL
        { w.login with requests := w.login.requests.eraseIdx i } response connected).map
          fun login => { w with login := login })
    else none
  | .lanternManagerBeginPlay =>
    if w.login.travelled ≠ none ∧ w.lanternManager = none then
      some (Startup.lanternManagerBeginPlay env w)
    else none
  | .mqttManagerBeginPlay =>
    if w.login.travelled ≠ none ∧ w.mqttManager = none then
      some (Startup.mqttManagerBeginPlay w)
    else none
  | .connectToServer => w.mqttManager.map fun configMap => Startup.connectToServer w configMap
  | .onConnected bIsSuccess =>
    if w.connectTasks ≠ [] then
      w.mqttManager.map fun configMap => Startup.onConnected w configMap bIsSuccess
    else none
  | .callbackHTTP letter base64 imageFormat picture =>
    w.mqttManager.map fun configMap =>
      Startup.callbackHTTP env w configMap letter base64 imageFormat picture

/-- The steps after `Init`. -/
def Next (env : Env) (w : World) (e : Event) (w' : World) : Prop := step env w e = some (.ok w')

end LanternProject.Config.Startup
