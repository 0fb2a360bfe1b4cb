import LanternProject.Config.Startup
import LanternProject.Pipeline.System

/-! # The lookups of the settings

Eleven keys are looked up from `Init` on without a test of the result. The only tests before them are
that `Config.txt` could be read, for the two of the window, and that `ConfigMap` is not empty, for
the others, which are all read on the way that starts with the login. So the lookups are safe
exactly when every one of these keys is in the file, or there is no file and no setting at all
(`lookups_safe_iff`). -/

namespace LanternProject.Config.Lookups

open LanternProject.Lib.Runs LanternProject.Engine.Basic LanternProject.Engine.Str
open LanternProject.Engine.Json LanternProject.Pipeline LanternProject.Login
open LanternProject.Login.LoginPlayerController (findDeref findDeref_ok)
open LanternProject.Config.LoadConfig LanternProject.Config.Startup

/-! ### The keys -/

/-- The keys the functions look up without a test. -/
def windowKeys : List FString := [TEXT "left", TEXT "top"]
def licenseKeys : List FString := [TEXT "license_url", TEXT "app_id", TEXT "license"]
def speedKeys : List FString := [TEXT "backspeed", TEXT "upspeed", TEXT "sidespeed"]
def brokerKeys : List FString := [TEXT "mqtt_broker_ip", TEXT "mqtt_broker_port"]
def topicKeys : List FString := [TEXT "mqtt_broker_topic"]

/-- Those that are looked up from the login on. -/
def sessionKeys : List FString := licenseKeys ++ speedKeys ++ brokerKeys ++ topicKeys

/-- The keys are all there. -/
def HasKeys (configMap : FConfigMap) (keys : List FString) : Prop :=
  ∀ key ∈ keys, mapFind configMap key ≠ none

instance (configMap : FConfigMap) (keys : List FString) : Decidable (HasKeys configMap keys) :=
  inferInstanceAs (Decidable (∀ key ∈ keys, mapFind configMap key ≠ none))

theorem hasKeys_append {configMap : FConfigMap} {keys keys' : List FString} :
    HasKeys configMap (keys ++ keys') ↔ HasKeys configMap keys ∧ HasKeys configMap keys' :=
  List.forall_mem_append

theorem hasKeys_cons {configMap : FConfigMap} {key : FString} {keys : List FString} :
    HasKeys configMap (key :: keys) ↔ mapFind configMap key ≠ none ∧ HasKeys configMap keys :=
  List.forall_mem_cons

theorem hasKeys_nil (configMap : FConfigMap) : HasKeys configMap [] :=
  fun _ h => absurd h List.not_mem_nil

/-! ### What the functions need -/

/-- The call does not end the process. -/
def Succeeds {α : Type} (r : Except Fault α) : Prop := ∃ a, r = .ok a

theorem succeeds_ok {α : Type} (a : α) : Succeeds (.ok a) := ⟨a, rfl⟩

theorem succeeds_findDeref_bind {α : Type} {configMap : FConfigMap} {key : FString}
    {f : FString → Except Fault α} {P : Prop} (hf : ∀ value, Succeeds (f value) ↔ P) :
    Succeeds (findDeref configMap key >>= f) ↔ mapFind configMap key ≠ none ∧ P := by
  unfold Succeeds
  constructor
  · rintro ⟨a, ha⟩
    obtain ⟨value, hv, hfa⟩ := bind_ok.mp ha
    exact ⟨by simp [findDeref_ok.mp hv], (hf value).mp ⟨a, hfa⟩⟩
  · rintro ⟨hkey, hP⟩
    obtain ⟨value, hv⟩ := Option.ne_none_iff_exists'.mp hkey
    obtain ⟨a, ha⟩ := (hf value).mpr hP
    exact ⟨a, bind_ok.mpr ⟨value, findDeref_ok.mpr hv, ha⟩⟩

theorem succeeds_map {α β : Type} {r : Except Fault α} {f : α → β} :
    Succeeds (r.map f) ↔ Succeeds r := by
  constructor
  · rintro ⟨b, hb⟩
    obtain ⟨a, ha, -⟩ := map_ok.mp hb
    exact ⟨a, ha⟩
  · rintro ⟨a, ha⟩
    exact ⟨f a, map_ok.mpr ⟨a, ha, rfl⟩⟩

theorem not_succeeds_iff {α : Type} {r : Except Fault α} :
    ¬ Succeeds r ↔ ∃ f, r = .error f := by
  rcases r with f | a
  · simp [Succeeds]
  · simp [Succeeds]

section
variable {env : Env} {w w' : World} {configMap : FConfigMap}

theorem moveWindowFunction_succeeds :
    Succeeds (moveWindowFunction env w true) ↔ HasKeys w.configMap windowKeys := by
  unfold moveWindowFunction windowKeys
  rw [if_pos rfl, hasKeys_cons, hasKeys_cons]
  refine succeeds_findDeref_bind fun xPos => ?_
  exact succeeds_findDeref_bind fun yPos =>
    iff_of_true (succeeds_ok _) (hasKeys_nil w.configMap)

theorem login_succeeds {l : LoginPlayerController.World} (h : configMap ≠ []) :
    Succeeds (LoginPlayerController.login configMap l) ↔ HasKeys configMap licenseKeys := by
  have hempty : configMap.isEmpty = false := by simpa using h
  unfold LoginPlayerController.login licenseKeys
  rw [hempty, if_neg Bool.false_ne_true, hasKeys_cons, hasKeys_cons, hasKeys_cons]
  refine succeeds_findDeref_bind fun licenseURL => ?_
  refine succeeds_findDeref_bind fun appId => ?_
  exact succeeds_findDeref_bind fun license =>
    iff_of_true (succeeds_ok _) (hasKeys_nil configMap)

theorem login_succeeds_nil (l : LoginPlayerController.World) :
    Succeeds (LoginPlayerController.login [] l) := succeeds_ok _

theorem lanternManagerBeginPlay_succeeds :
    Succeeds (lanternManagerBeginPlay env w) ↔ HasKeys w.configMap speedKeys := by
  unfold lanternManagerBeginPlay speedKeys
  rw [hasKeys_cons, hasKeys_cons, hasKeys_cons]
  refine succeeds_findDeref_bind fun backSpeed => ?_
  refine succeeds_findDeref_bind fun upSpeed => ?_
  exact succeeds_findDeref_bind fun sideSpeed =>
    iff_of_true (succeeds_ok _) (hasKeys_nil w.configMap)

theorem connectToServer_succeeds :
    Succeeds (connectToServer w configMap) ↔ HasKeys configMap brokerKeys := by
  unfold connectToServer brokerKeys
  rw [hasKeys_cons, hasKeys_cons]
  refine succeeds_findDeref_bind fun ip => ?_
  exact succeeds_findDeref_bind fun port => iff_of_true (succeeds_ok _) (hasKeys_nil configMap)

theorem onConnected_succeeds {bIsSuccess : Bool} :
    Succeeds (onConnected w configMap bIsSuccess) ↔ HasKeys configMap topicKeys := by
  unfold onConnected topicKeys
  rw [hasKeys_cons]
  exact succeeds_findDeref_bind fun topic => iff_of_true (succeeds_ok _) (hasKeys_nil configMap)

/-- A callback needs `app_id`, which the login needs too. -/
theorem callbackHTTP_succeeds {letter : State.World} {base64 imageFormat : FString}
    {picture : State.AActor} (h : HasKeys configMap licenseKeys) :
    Succeeds (callbackHTTP env w configMap letter base64 imageFormat picture) := by
  obtain ⟨appId, hid⟩ := Option.ne_none_iff_exists'.mp (h (TEXT "app_id") (by decide))
  unfold callbackHTTP Spawn.callbackHTTP
  split_ifs
  · exact succeeds_ok _
  · rw [hid]
    exact succeeds_ok _

/-! ### What the functions change -/

theorem moveWindowFunction_ok {window : Bool} (h : moveWindowFunction env w window = .ok w') :
    ∃ position timer, w' = { w with windowPosition := position, moveWindowTimer := timer } ∧
      (timer = true → w.moveWindowTimer = true) := by
  unfold moveWindowFunction at h
  split_ifs at h
  · obtain ⟨xPos, -, h⟩ := bind_ok.mp h
    obtain ⟨yPos, -, h⟩ := bind_ok.mp h
    exact ⟨_, false, (Except.ok.inj h).symm, by simp⟩
  · exact ⟨w.windowPosition, w.moveWindowTimer, (Except.ok.inj h).symm, id⟩

theorem login_ok {l l' : LoginPlayerController.World}
    (h : LoginPlayerController.login configMap l = .ok l') :
    l'.travelled = l.travelled ∧ (l'.requests ≠ [] → l.requests ≠ [] ∨ configMap ≠ []) ∧
      (configMap ≠ [] → l'.requests ≠ []) := by
  unfold LoginPlayerController.login at h
  split_ifs at h with hempty
  · rw [← Except.ok.inj h]
    exact ⟨rfl, Or.inl, fun hm => absurd (by simpa using hempty) hm⟩
  · obtain ⟨licenseURL, -, h⟩ := bind_ok.mp h
    obtain ⟨appId, -, h⟩ := bind_ok.mp h
    obtain ⟨license, -, h⟩ := bind_ok.mp h
    rw [← Except.ok.inj h]
    exact ⟨rfl, fun _ => Or.inr (by simpa using hempty), fun _ => by simp⟩

theorem lanternManagerBeginPlay_ok (h : lanternManagerBeginPlay env w = .ok w') :
    ∃ speeds, w' = { w with lanternManager := some speeds } := by
  obtain ⟨backSpeed, -, h⟩ := bind_ok.mp h
  obtain ⟨upSpeed, -, h⟩ := bind_ok.mp h
  obtain ⟨sideSpeed, -, h⟩ := bind_ok.mp h
  exact ⟨_, (Except.ok.inj h).symm⟩

theorem connectToServer_ok (h : connectToServer w configMap = .ok w') :
    ∃ url, w' = { w with connectTasks := w.connectTasks ++ [url] } := by
  obtain ⟨ip, -, h⟩ := bind_ok.mp h
  obtain ⟨port, -, h⟩ := bind_ok.mp h
  exact ⟨_, (Except.ok.inj h).symm⟩

theorem onConnected_ok {bIsSuccess : Bool} (h : onConnected w configMap bIsSuccess = .ok w') :
    ∃ subscriptions, w' = { w with subscriptions := subscriptions } := by
  obtain ⟨topic, -, h⟩ := bind_ok.mp h
  have heq := Except.ok.inj h
  rcases bIsSuccess with _ | _
  · exact ⟨w.subscriptions, heq.symm⟩
  · exact ⟨_, heq.symm⟩

theorem callbackHTTP_ok {letter : State.World} {base64 imageFormat : FString}
    {picture : State.AActor}
    (h : callbackHTTP env w configMap letter base64 imageFormat picture = .ok w') :
    ∃ callbacks, w' = { w with callbacks := callbacks } := by
  obtain ⟨letter', -, h⟩ := bind_ok.mp h
  exact ⟨_, (Except.ok.inj h).symm⟩

end

/-! ### Runs -/

/-- What stays true after `Init`: the settings are those it loaded, also in the copy of the manager;
the timer is set only if the file was read, and nobody gets past the login without settings. -/
structure Settled (configMap : FConfigMap) (loaded : Bool) (w : World) : Prop where
  same : w.configMap = configMap
  timer : w.moveWindowTimer = true → loaded = true
  asked : w.login.requests ≠ [] → configMap ≠ []
  travelled : w.login.travelled ≠ none → configMap ≠ []
  copied : ∀ copy, w.mqttManager = some copy → copy = configMap ∧ configMap ≠ []

variable {env : Env} {w w' : World} {configMap : FConfigMap} {loaded : Bool} {e : Event}

theorem applyConfig_eq (env : Env) (w : World) :
    ∃ settings, (applyConfig env w).1 = { w with userSettings := settings } := by
  unfold applyConfig
  split_ifs
  · exact ⟨w.userSettings, rfl⟩
  · split
    · exact ⟨w.userSettings, rfl⟩
    · split
      · exact ⟨w.userSettings, rfl⟩
      · split
        · exact ⟨w.userSettings, rfl⟩
        · exact ⟨_, rfl⟩

theorem init_eq (env : Env) (initial : FConfigMap) : ∃ settings,
    init env (created initial) = { created initial with
      configMap := (loadConfig env.fileManager env.filePath initial).1
      userSettings := settings
      moveWindowTimer := (loadConfig env.fileManager env.filePath initial).2 } := by
  rcases hl : loadConfig env.fileManager env.filePath initial with ⟨configMap, loaded⟩
  have hl' : loadConfig env.fileManager env.filePath (created initial).configMap =
      (configMap, loaded) := hl
  unfold init
  rw [hl']
  rcases loaded with _ | _
  · exact ⟨none, rfl⟩
  · obtain ⟨settings, happly⟩ := applyConfig_eq env { created initial with configMap := configMap }
    exact ⟨settings, congrArg (fun w : World => { w with moveWindowTimer := true }) happly⟩

theorem settled_init (env : Env) (initial : FConfigMap) :
    Settled (loadConfig env.fileManager env.filePath initial).1
      (loadConfig env.fileManager env.filePath initial).2 (init env (created initial)) := by
  obtain ⟨settings, hinit⟩ := init_eq env initial
  rw [hinit]
  exact ⟨rfl, id, fun h => absurd rfl h, fun h => absurd rfl h,
    fun copy h => absurd h (by simp [created])⟩

theorem settled_next (h : Settled configMap loaded w) (hn : Next env w e w') :
    Settled configMap loaded w' := by
  unfold Next step at hn
  rcases e with window | - | ⟨i, response, connected⟩ | - | - | - | bIsSuccess |
    ⟨letter, base64, imageFormat, picture⟩
  · simp only [Option.ite_none_right_eq_some, Option.some.injEq] at hn
    obtain ⟨position, timer, rfl, htimer⟩ := moveWindowFunction_ok hn.2
    exact ⟨h.same, fun ht => h.timer (htimer ht), h.asked, h.travelled, h.copied⟩
  · simp only [Option.ite_none_right_eq_some, Option.some.injEq] at hn
    obtain ⟨login, hlogin, rfl⟩ := map_ok.mp hn.2
    obtain ⟨htravel, hrequests, -⟩ := login_ok hlogin
    refine ⟨h.same, h.timer, fun hr => ?_, fun ht => h.travelled (htravel ▸ ht), h.copied⟩
    rcases hrequests hr with hr | hm
    · exact h.asked hr
    · rw [← h.same]
      exact hm
  · simp only [Option.ite_none_right_eq_some, Option.some.injEq] at hn
    obtain ⟨login, hlogin, rfl⟩ := map_ok.mp hn.2
    have hpending : w.login.requests ≠ [] := by
      intro hnil
      have hlen := hn.1.1
      rw [hnil] at hlen
      exact absurd hlen (by simp)
    exact ⟨h.same, h.timer, fun _ => h.asked hpending, fun _ => h.asked hpending, h.copied⟩
  · simp only [Option.ite_none_right_eq_some, Option.some.injEq] at hn
    obtain ⟨speeds, rfl⟩ := lanternManagerBeginPlay_ok hn.2
    exact ⟨h.same, h.timer, h.asked, h.travelled, h.copied⟩
  · simp only [Option.ite_none_right_eq_some, Option.some.injEq] at hn
    obtain ⟨url, rfl⟩ := connectToServer_ok hn.2
    refine ⟨h.same, h.timer, h.asked, h.travelled, fun copy hcopy => ?_⟩
    exact ⟨(Option.some.inj hcopy).symm.trans h.same, h.travelled hn.1.1⟩
  · obtain ⟨copy, -, hq⟩ := Option.map_eq_some_iff.mp hn
    obtain ⟨url, rfl⟩ := connectToServer_ok hq
    exact ⟨h.same, h.timer, h.asked, h.travelled, h.copied⟩
  · simp only [Option.ite_none_right_eq_some] at hn
    obtain ⟨copy, -, hq⟩ := Option.map_eq_some_iff.mp hn.2
    obtain ⟨subscriptions, rfl⟩ := onConnected_ok hq
    exact ⟨h.same, h.timer, h.asked, h.travelled, h.copied⟩
  · obtain ⟨copy, -, hq⟩ := Option.map_eq_some_iff.mp hn
    obtain ⟨callbacks, rfl⟩ := callbackHTTP_ok hq
    exact ⟨h.same, h.timer, h.asked, h.travelled, h.copied⟩

/-- **With all keys no lookup fails**: what one call needs, it has. -/
theorem step_succeeds (h : Settled configMap loaded w)
    (hwindow : loaded = true → HasKeys configMap windowKeys)
    (hsession : configMap ≠ [] → HasKeys configMap sessionKeys) (he : e.LooksUp)
    {r : Except Fault World} (hr : step env w e = some r) : Succeeds r := by
  have hkeys : configMap ≠ [] → HasKeys configMap licenseKeys ∧ HasKeys configMap speedKeys ∧
      HasKeys configMap brokerKeys ∧ HasKeys configMap topicKeys := by
    intro hm
    obtain ⟨⟨⟨hl, hs⟩, hb⟩, ht⟩ := (by simpa only [sessionKeys, hasKeys_append] using hsession hm)
    exact ⟨hl, hs, hb, ht⟩
  unfold step at hr
  rcases e with window | - | ⟨i, response, connected⟩ | - | - | - | bIsSuccess |
    ⟨letter, base64, imageFormat, picture⟩
  · simp only [Option.ite_none_right_eq_some, Option.some.injEq] at hr
    rw [← hr.2]
    rcases window with _ | _
    · exact succeeds_ok w
    · rw [moveWindowFunction_succeeds, h.same]
      exact hwindow (h.timer hr.1)
  · simp only [Option.ite_none_right_eq_some, Option.some.injEq] at hr
    have hlogin : Succeeds (LoginPlayerController.login w.configMap w.login) := by
      by_cases hm : w.configMap = []
      · rw [hm]
        exact login_succeeds_nil w.login
      · rw [login_succeeds hm, h.same]
        exact (hkeys (h.same ▸ hm)).1
    obtain ⟨login, hlogin⟩ := hlogin
    rw [← hr.2, hlogin]
    exact succeeds_ok _
  · exact absurd he id
  · simp only [Option.ite_none_right_eq_some, Option.some.injEq] at hr
    rw [← hr.2, lanternManagerBeginPlay_succeeds, h.same]
    exact (hkeys (h.travelled hr.1.1)).2.1
  · simp only [Option.ite_none_right_eq_some, Option.some.injEq] at hr
    rw [← hr.2, mqttManagerBeginPlay, connectToServer_succeeds, h.same]
    exact (hkeys (h.travelled hr.1.1)).2.2.1
  · obtain ⟨copy, hcopy, rfl⟩ := Option.map_eq_some_iff.mp hr
    obtain ⟨rfl, hm⟩ := h.copied copy hcopy
    exact connectToServer_succeeds.mpr (hkeys hm).2.2.1
  · simp only [Option.ite_none_right_eq_some] at hr
    obtain ⟨copy, hcopy, rfl⟩ := Option.map_eq_some_iff.mp hr.2
    obtain ⟨rfl, hm⟩ := h.copied copy hcopy
    exact onConnected_succeeds.mpr (hkeys hm).2.2.2
  · obtain ⟨copy, hcopy, rfl⟩ := Option.map_eq_some_iff.mp hr
    obtain ⟨rfl, hm⟩ := h.copied copy hcopy
    exact callbackHTTP_succeeds (hkeys hm).1

/-! ### The way to the next level -/

theorem next_login {login : LoginPlayerController.World} (h : w.login.travelled = none)
    (hl : LoginPlayerController.login w.configMap w.login = .ok login) :
    Next env w .login { w with login := login } := by
  have hs : step env w .login = some ((LoginPlayerController.login w.configMap w.login).map
      fun login => { w with login := login }) := if_pos h
  rw [Next, hs, hl]
  rfl

/-- The license server says yes. -/
theorem next_loginResponse_true {content : FString} {object : FJsonObject}
    (hobject : env.deserialize content = some object)
    (htrue : getStringField object (TEXT "result") = TEXT "true")
    (hr : w.login.requests ≠ []) (h : w.login.travelled = none) :
    ∃ login, Next env w (.loginResponse 0 (some ⟨content⟩) true) { w with login := login } ∧
      login.travelled ≠ none := by
  have hlen : 0 < w.login.requests.length := List.length_pos_iff.mpr hr
  have hs : step env w (.loginResponse 0 (some ⟨content⟩) true) =
      some ((LoginPlayerController.onLoginResponseReceived env.deserialize env.travelURL
        { w.login with requests := w.login.requests.eraseIdx 0 } (some ⟨content⟩) true).map
          fun login => { w with login := login }) := if_pos ⟨hlen, h⟩
  unfold LoginPlayerController.onLoginResponseReceived at hs
  simp only [hobject, htrue, if_true] at hs
  exact ⟨_, hs, by simp⟩

/-- Such a server lets the program through if the login has its keys. -/
theorem exists_travelled_run {initial : FConfigMap}
    (hjson : ∃ content object, env.deserialize content = some object ∧
      getStringField object (TEXT "result") = TEXT "true")
    (hm : (init env (created initial)).configMap ≠ [])
    (hkeys : HasKeys (init env (created initial)).configMap licenseKeys) :
    ∃ tr w, Run (Next env) (init env (created initial)) tr w ∧
      w.configMap = (init env (created initial)).configMap ∧ w.login.travelled ≠ none ∧
      w.lanternManager = none ∧ w.mqttManager = none := by
  obtain ⟨content, object, hobject, htrue⟩ := hjson
  obtain ⟨settings, hinit⟩ := init_eq env initial
  have hfresh : (init env (created initial)).login.travelled = none ∧
      (init env (created initial)).lanternManager = none ∧
      (init env (created initial)).mqttManager = none := by
    rw [hinit]
    exact ⟨rfl, rfl, rfl⟩
  obtain ⟨login, hlogin⟩ :=
    (login_succeeds (l := (init env (created initial)).login) hm).mpr hkeys
  obtain ⟨htravel, -, hrequests⟩ := login_ok hlogin
  have hasked : Next env _ _ _ := next_login hfresh.1 hlogin
  obtain ⟨login', hanswered, htravelled⟩ := next_loginResponse_true
    (w := { init env (created initial) with login := login }) hobject htrue (hrequests hm)
    (htravel.trans hfresh.1)
  exact ⟨_, _, (Run.nil.snoc hasked).snoc hanswered, rfl, htravelled, hfresh.2.1, hfresh.2.2⟩

/-! ### The condition -/

/-- The key is there at first, or some line assigns it. -/
def Present (initial : FConfigMap) (lines : List FString) (key : FString) : Prop :=
  mapFind initial key ≠ none ∨ ∃ line ∈ lines, ∃ value, Assigns key value line

/-- Every key is in the file, or there is none and `ConfigMap` stays empty or has the keys of the
session by itself. -/
structure SafeConfig (env : Env) (initial : FConfigMap) : Prop where
  file : ∀ lines, ConfigLines env.fileManager env.filePath lines →
    ∀ key ∈ windowKeys ++ sessionKeys, Present initial lines key
  noFile : (∀ lines, ¬ ConfigLines env.fileManager env.filePath lines) →
    initial = [] ∨ HasKeys initial sessionKeys

theorem loadConfig_of_lines (initial : FConfigMap) {lines : List FString}
    (hlines : ConfigLines env.fileManager env.filePath lines) :
    (loadConfig env.fileManager env.filePath initial).2 = true ∧
    ∀ key ∈ windowKeys ++ sessionKeys,
      (mapFind (loadConfig env.fileManager env.filePath initial).1 key ≠ none ↔
        Present initial lines key) := by
  have hne : ∀ key ∈ windowKeys ++ sessionKeys, key ≠ [] := by decide
  constructor
  · unfold loadConfig
    rw [loadFile_eq_some.mpr hlines]
  · intro key hkey
    exact mapFind_loadConfig_ne_none hlines initial (hne key hkey)

theorem loadConfig_of_noFile {initial : FConfigMap}
    (hno : ∀ lines, ¬ ConfigLines env.fileManager env.filePath lines) :
    loadConfig env.fileManager env.filePath initial = (initial, false) := by
  unfold loadConfig
  rcases hl : loadFile env.fileManager env.filePath (TEXT "Config.txt") with _ | lines
  · rfl
  · exact absurd (loadFile_eq_some.mp hl) (hno lines)

/-- The condition, in terms of what `Init` leaves. -/
theorem safeConfig_iff (env : Env) (initial : FConfigMap) :
    SafeConfig env initial ↔
      ((loadConfig env.fileManager env.filePath initial).2 = true →
        HasKeys (loadConfig env.fileManager env.filePath initial).1 windowKeys) ∧
      ((loadConfig env.fileManager env.filePath initial).1 ≠ [] →
        HasKeys (loadConfig env.fileManager env.filePath initial).1 sessionKeys) := by
  by_cases hex : ∃ lines, ConfigLines env.fileManager env.filePath lines
  · obtain ⟨lines, hlines⟩ := hex
    obtain ⟨hloaded, hpresent⟩ := loadConfig_of_lines initial hlines
    constructor
    · intro h
      have hall : HasKeys (loadConfig env.fileManager env.filePath initial).1
          (windowKeys ++ sessionKeys) :=
        fun key hkey => (hpresent key hkey).mpr (h.file lines hlines key hkey)
      exact ⟨fun _ => (hasKeys_append.mp hall).1, fun _ => (hasKeys_append.mp hall).2⟩
    · rintro ⟨hwindow, hsession⟩
      have hkeys := hwindow hloaded
      have hm : (loadConfig env.fileManager env.filePath initial).1 ≠ [] := by
        intro hnil
        exact hkeys (TEXT "left") (by decide) (by rw [hnil]; rfl)
      have hall := hasKeys_append.mpr ⟨hkeys, hsession hm⟩
      refine ⟨fun lines' hlines' key hkey => ?_, fun hno => absurd hlines (hno lines)⟩
      exact ((loadConfig_of_lines _ hlines').2 key hkey).mp (hall key hkey)
  · have hno : ∀ lines, ¬ ConfigLines env.fileManager env.filePath lines :=
      fun lines hlines => hex ⟨lines, hlines⟩
    rw [loadConfig_of_noFile hno]
    constructor
    · intro h
      refine ⟨fun hf => absurd hf Bool.false_ne_true, fun hm => ?_⟩
      exact (h.noFile hno).resolve_left hm
    · rintro ⟨-, hsession⟩
      refine ⟨fun lines hlines => absurd hlines (hno lines), fun _ => ?_⟩
      by_cases hm : initial = []
      · exact Or.inl hm
      · exact Or.inr (hsession hm)

/-- If no call can fail after the login, the settings have every key of the session: a run leads to
each lookup. -/
theorem hasKeys_session_of_succeeds {initial : FConfigMap}
    (hjson : ∃ content object, env.deserialize content = some object ∧
      getStringField object (TEXT "result") = TEXT "true")
    (hsucceeds : ∀ {tr w}, Run (Next env) (init env (created initial)) tr w → ∀ {e}, e.LooksUp →
      ∀ {r}, step env w e = some r → Succeeds r)
    (hstart : (init env (created initial)).configMap = configMap) (hm : configMap ≠ []) :
    HasKeys configMap sessionKeys := by
  have htravelled : (init env (created initial)).login.travelled = none := by
    obtain ⟨settings, hinit⟩ := init_eq env initial
    rw [hinit]
    rfl
  have hlicense : HasKeys configMap licenseKeys := by
    have hs := hsucceeds (e := .login) Run.nil trivial (if_pos htravelled)
    rwa [succeeds_map, hstart, login_succeeds hm] at hs
  obtain ⟨tr, w, hr, hsame, htravelled, hlantern, hmqtt⟩ :=
    exists_travelled_run hjson (hstart.symm ▸ hm) (hstart.symm ▸ hlicense)
  rw [hstart] at hsame
  have hspeed : HasKeys configMap speedKeys := by
    have hs := hsucceeds (e := .lanternManagerBeginPlay) hr trivial (if_pos ⟨htravelled, hlantern⟩)
    rwa [lanternManagerBeginPlay_succeeds, hsame] at hs
  have hbegin : step env w .mqttManagerBeginPlay = some (mqttManagerBeginPlay w) :=
    if_pos ⟨htravelled, hmqtt⟩
  have hconnect := hsucceeds (e := .mqttManagerBeginPlay) hr trivial hbegin
  have hbroker : HasKeys configMap brokerKeys := by
    have hs := hconnect
    rwa [mqttManagerBeginPlay, connectToServer_succeeds, hsame] at hs
  have htopic : HasKeys configMap topicKeys := by
    obtain ⟨w', hw'⟩ := hconnect
    have hnext : Next env w .mqttManagerBeginPlay w' := by rw [Next, hbegin, hw']
    obtain ⟨url, rfl⟩ := connectToServer_ok hw'
    have hs := hsucceeds (e := .onConnected true) (hr.snoc hnext) trivial (if_pos (by simp))
    rwa [onConnected_succeeds, hsame] at hs
  have hall := hasKeys_append.mpr ⟨hasKeys_append.mpr
    ⟨hasKeys_append.mpr ⟨hlicense, hspeed⟩, hbroker⟩, htopic⟩
  exact hall

/-- **The lookups are safe** in every run exactly if every key looked up is in the file, or there is
no file and nothing else in `ConfigMap` either. -/
theorem lookups_safe_iff (env : Env) (initial : FConfigMap)
    (hjson : ∃ content object, env.deserialize content = some object ∧
      getStringField object (TEXT "result") = TEXT "true") :
    (∀ tr w, Run (Next env) (init env (created initial)) tr w → ∀ e, e.LooksUp →
      ∀ f, step env w e ≠ some (.error f)) ↔ SafeConfig env initial := by
  rw [safeConfig_iff]
  have hsettled := settled_init env initial
  constructor
  · intro h
    -- a call that can come in some run has the keys it needs
    have hsucceeds : ∀ {tr w}, Run (Next env) (init env (created initial)) tr w → ∀ {e}, e.LooksUp →
        ∀ {r}, step env w e = some r → Succeeds r := by
      intro tr w hr e he r hs
      by_contra hfault
      obtain ⟨f, rfl⟩ := not_succeeds_iff.mp hfault
      exact h tr w hr e he f hs
    have hstart := hsettled.same
    constructor
    · intro hloaded
      obtain ⟨settings, hinit⟩ := init_eq env initial
      have htimer : (init env (created initial)).moveWindowTimer = true := by rw [hinit]; exact hloaded
      have hs := hsucceeds (e := .moveWindow true) Run.nil trivial (if_pos htimer)
      rw [moveWindowFunction_succeeds, hstart] at hs
      exact hs
    · intro hm
      exact hasKeys_session_of_succeeds hjson hsucceeds hstart hm
  · rintro ⟨hwindow, hsession⟩ tr w hr e he f hf
    have hw := hr.invariant' hsettled fun s e t hs ht => settled_next hs ht
    exact not_succeeds_iff.mpr ⟨f, rfl⟩ (step_succeeds hw hwindow hsession he hf)

/-! ### Files -/

/-- The number a string of digits stands for. -/
def digits (s : FString) : ℤ := s.foldl (fun n c => 10 * n + (c.toNat - 48)) 0

/-- The text of an answer that says yes. -/
def yesText : FString := TEXT "\x7b\"result\":\"true\"\x7d"

/-- What it is parsed to. -/
def yesObject : FJsonObject := [(TEXT "result", .string (TEXT "true"))]

/-- A machine with these lines in `Config.txt`. -/
def sampleStart (lines : List FString) : Env where
  fileManager := ⟨fun _ => true, fun _ => some lines⟩
  filePath := TEXT "/"
  atoi := digits
  atof := fun s => digits s
  deserialize := fun s => if s = yesText then some yesObject else none
  travelURL := TEXT "MainLevel"
  gameUserSettings := true
  pipeline := Pipeline.System.sampleEnv

/-- A file with all keys. -/
def fullFile : List FString :=
  (windowKeys ++ sessionKeys).map fun key => key ++ TEXT "=1"

theorem lookups_safe_iff_fullFile :
    SafeConfig (sampleStart fullFile) [] ∧
    ∀ tr w, Run (Next (sampleStart fullFile)) (init (sampleStart fullFile) (created [])) tr w →
      ∀ e, e.LooksUp → ∀ f, step (sampleStart fullFile) w e ≠ some (.error f) := by
  have hsafe : SafeConfig (sampleStart fullFile) [] :=
    (safeConfig_iff _ _).mpr ⟨fun _ => by decide +kernel, fun _ => by decide +kernel⟩
  have hjson : ∃ content object, (sampleStart fullFile).deserialize content = some object ∧
      getStringField object (TEXT "result") = TEXT "true" :=
    ⟨yesText, yesObject, by simp [sampleStart], by decide +kernel⟩
  exact ⟨hsafe, (lookups_safe_iff (sampleStart fullFile) [] hjson).mpr hsafe⟩

/-- An empty file: the timer of the window is set and finds no `left`. A file with one line, without
a separator: the login finds settings, but no `license_url`. -/
theorem lookups_fault_emptyFile :
    step (sampleStart []) (init (sampleStart []) (created [])) (.moveWindow true) =
      some (.error .nullPointer) ∧
    step (sampleStart [TEXT "x"]) (init (sampleStart [TEXT "x"]) (created [])) .login =
      some (.error .nullPointer) := by
  constructor
  · rfl
  · rfl

end LanternProject.Config.Lookups
