import LanternProject.Pipeline.State

/-! # Accepting and parsing a message

`CheckIsLanternData` decides on arrival whether a message is a letter; `ParseMessage` reads its
four fields when it is taken from the queue. Both look at the same head; `parsed` is what
`ParseMessage` leaves in the members, which depends on the message alone. -/

namespace LanternProject.Pipeline.Parse

open LanternProject.Engine.Str LanternProject.Engine.Json LanternProject.Pipeline.State

/-- The three fields of the head name a letter. -/
def headIsLetter (head : FJsonObject) : Bool :=
  !(getStringField head (TEXT "apicommand") != TEXT "content" ||
    getStringField head (TEXT "apiaction") != TEXT "letter" ||
    getStringField head (TEXT "apimethod") != TEXT "push")

/-- `CheckIsLanternData`. -/
def checkIsLanternData (env : Env) (w : World) (message : FString) : World × Bool :=
  match env.deserialize message with
  | none => (w.logToFile (LOGTEXT "AMqttManager::CheckIsLanternData" 174
      (TEXT "Message is not Json type")), false)
  | some messageObject =>
    match getObjectField env.missingObject messageObject (TEXT "data") with
    | none => (w, false)
    | some dataObject =>
      match getObjectField env.missingObject dataObject (TEXT "head") with
      | none => (w, false)
      | some headObject => if headIsLetter headObject then (w, true) else (w, false)

/-- `ParseMessage`: the members are cleared first. -/
def parseMessage (env : Env) (w : World) (message : FString) : World × Bool :=
  let w := { w with mqttManager := { w.mqttManager with
    pId := [], text := [], imageURL := [], callbackURL := [] } }
  match env.deserialize message with
  | none => (w.logToFile (LOGTEXT "AMqttManager::ParseMessage" 217
      (TEXT "Message is not Json type")), false)
  | some messageObject =>
    match getObjectField env.missingObject messageObject (TEXT "data") with
    | none => (w, true)
    | some dataObject =>
      match getObjectField env.missingObject dataObject (TEXT "head") with
      | none => (w, false)
      | some headObject =>
        if headIsLetter headObject then
          match getObjectField env.missingObject dataObject (TEXT "body") with
          | none => (w, true)
          | some bodyObject =>
            ({ w with mqttManager := { w.mqttManager with
              pId := getStringField bodyObject (TEXT "pid")
              text := getStringField bodyObject (TEXT "text")
              imageURL := getStringField bodyObject (TEXT "img")
              callbackURL := getStringField bodyObject (TEXT "callback") } }, true)
        else (w, false)

/-- The four fields of a message. -/
structure Fields where
  pId : FString
  text : FString
  imageURL : FString
  callbackURL : FString

/-- The fields the manager holds. -/
def fieldsOf (m : AMqttManager) : Fields := ⟨m.pId, m.text, m.imageURL, m.callbackURL⟩

/-- The object a letter's fields are read from, if `ParseMessage` gets that far. -/
def bodyOf (env : Env) (message : FString) : Option FJsonObject := do
  let messageObject ← env.deserialize message
  let dataObject ← getObjectField env.missingObject messageObject (TEXT "data")
  let headObject ← getObjectField env.missingObject dataObject (TEXT "head")
  if headIsLetter headObject then getObjectField env.missingObject dataObject (TEXT "body")
  else none

/-- What `ParseMessage` reads from a message. -/
def parsed (env : Env) (message : FString) : Fields :=
  match bodyOf env message with
  | none => ⟨[], [], [], []⟩
  | some body => ⟨getStringField body (TEXT "pid"), getStringField body (TEXT "text"),
      getStringField body (TEXT "img"), getStringField body (TEXT "callback")⟩

/-- **`ParseMessage`** sets the four fields to those of the message and may log; nothing else
changes. -/
theorem parseMessage_eq (env : Env) (w : World) (message : FString) :
    ∃ log, (parseMessage env w message).1 = { w with
      mqttManager := { w.mqttManager with
        pId := (parsed env message).pId, text := (parsed env message).text,
        imageURL := (parsed env message).imageURL,
        callbackURL := (parsed env message).callbackURL }
      log := log } := by
  unfold parseMessage parsed bodyOf
  cases hm : env.deserialize message with
  | none => exact ⟨_, rfl⟩
  | some messageObject =>
    cases hd : getObjectField env.missingObject messageObject (TEXT "data") with
    | none => exact ⟨w.log, by simp [hd]⟩
    | some dataObject =>
      cases hh : getObjectField env.missingObject dataObject (TEXT "head") with
      | none => exact ⟨w.log, by simp [hd, hh]⟩
      | some headObject =>
        by_cases hl : headIsLetter headObject = true
        · cases hb : getObjectField env.missingObject dataObject (TEXT "body") with
          | none => exact ⟨w.log, by simp [hd, hh, hl, hb]⟩
          | some bodyObject => exact ⟨w.log, by simp [hd, hh, hl, hb]⟩
        · exact ⟨w.log, by simp [hd, hh, hl]⟩

/-- `CheckIsLanternData` changes nothing but the log. -/
theorem checkIsLanternData_eq (env : Env) (w : World) (message : FString) :
    ∃ log, (checkIsLanternData env w message).1 = { w with log := log } := by
  unfold checkIsLanternData
  split
  · exact ⟨_, rfl⟩
  · split
    · exact ⟨w.log, rfl⟩
    · split
      · exact ⟨w.log, rfl⟩
      · split_ifs <;> exact ⟨w.log, rfl⟩

end LanternProject.Pipeline.Parse
