import LanternProject.Engine.Basic
import LanternProject.Pipeline.State

/-! # Logging in

`ALoginPlayerController` asks the license server whether the program may run. `Login` builds the
request from the settings, `OnLoginResponseReceived` reads the answer and travels to the next level
or shows an alert. -/

namespace LanternProject.Login.LoginPlayerController

open LanternProject.Engine.Basic LanternProject.Engine.Str LanternProject.Engine.Json
open LanternProject.Pipeline.State

/-- What the controller writes: the log, the alerts, the requests in flight by their URLs, and the
level it travels to. -/
structure World where
  log : List FString
  alerts : List FString
  requests : List FString
  travelled : Option FString

/-- `LogToFile`. -/
def World.logToFile (w : World) (line : FString) : World := { w with log := w.log ++ [line] }

/-- `ShowAlertMessage`. -/
def World.showAlertMessage (w : World) (message : FString) : World :=
  { w with alerts := w.alerts ++ [message] }

/-- `*ConfigMap.Find(key)`. -/
def findDeref (configMap : List (FString × FString)) (key : FString) : Except Fault FString :=
  match mapFind configMap key with
  | none => .error .nullPointer
  | some value => .ok value

/-- `Login`. -/
def login (configMap : List (FString × FString)) (w : World) : Except Fault World :=
  if configMap.isEmpty then
    .ok ((w.logToFile (LOGTEXT "ALoginPlayerController::Login" 30
      (TEXT "Failed to load config file."))).showAlertMessage (TEXT "설정 파일 읽기 실패"))
  else do
    let licenseURL ← findDeref configMap (TEXT "license_url")
    let appId ← findDeref configMap (TEXT "app_id")
    let license ← findDeref configMap (TEXT "license")
    let url := licenseURL ++ TEXT "?app_id=" ++ appId ++ TEXT "&license=" ++ license
    .ok { w with requests := w.requests ++ [url] }

/-- `OnLoginResponseReceived`; neither the connection nor the parsed object is checked. -/
def onLoginResponseReceived (deserialize : FString → Option FJsonObject) (travelURL : FString)
    (w : World) (response : Option FHttpResponse) (_bConnectedSuccessfully : Bool) :
    Except Fault World :=
  match response with
  | none => .error .nullPointer
  | some response =>
    match deserialize response.content with
    | none => .error .nullPointer
    | some responseObject =>
      let result := getStringField responseObject (TEXT "result")
      if result = TEXT "true" then
        .ok { w.logToFile (LOGTEXT "ALoginPlayerController::OnLoginResponseReceived" 76
          (TEXT "Success to verification license")) with travelled := some travelURL }
      else
        .ok ((w.showAlertMessage (TEXT "인증에 실패하였습니다.")).logToFile
          (LOGTEXT "ALoginPlayerController::OnLoginResponseReceived" 82
            (TEXT "Fail to verification license")))

theorem findDeref_ok {configMap : List (FString × FString)} {key value : FString} :
    findDeref configMap key = .ok value ↔ mapFind configMap key = some value := by
  unfold findDeref
  rcases mapFind configMap key with _ | v
  · simp
  · simp

end LanternProject.Login.LoginPlayerController
