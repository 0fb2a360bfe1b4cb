import LanternProject.Pipeline.State

/-! # The save object

`ULanternSaveGame` keeps the messages that were not taken yet and the records of the lanterns between
two sessions. -/

namespace LanternProject.Save.LanternSaveGame

open LanternProject.Engine.Str LanternProject.Pipeline.State

/-- `ULanternSaveGame`, with lanterns recorded as `D`. -/
structure ULanternSaveGame (D : Type) where
  mqttMessageArray : List FString
  lanternDataArray : List D

/-- A new save object. -/
def createSaveGame (D : Type) : ULanternSaveGame D := ⟨[], []⟩

variable {D : Type}

/-- `SaveMqttMessageArray`. -/
def saveMqttMessageArray (g : ULanternSaveGame D) (newMqttMessageArray : List FString) :
    ULanternSaveGame D :=
  { g with mqttMessageArray := newMqttMessageArray }

/-- `LoadMqttMessageArray` of the MQTT manager. -/
def setMqttMessageArray (m : AMqttManager) (newMqttMessageArray : List FString) : AMqttManager :=
  { m with mqttMessageArray := newMqttMessageArray, bIsLoading := false }

/-- `LoadMqttMessageArray`. -/
def loadMqttMessageArray (g : ULanternSaveGame D) (m : AMqttManager) :
    ULanternSaveGame D × AMqttManager :=
  let m := setMqttMessageArray m g.mqttMessageArray
  ({ g with mqttMessageArray := [] }, m)

end LanternProject.Save.LanternSaveGame
