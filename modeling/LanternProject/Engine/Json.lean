import LanternProject.Engine.Str

/-! # JSON values of the engine

What the program reads of a JSON text: `FJsonSerializer::Deserialize` gives an object or an invalid
pointer, `GetStringField` and `GetObjectField` read its fields. A field that is missing or of
another type reads as the empty string; for an object field it reads as `missing`, which is the
engine's choice (`none`: an invalid pointer, or some empty object). -/

namespace LanternProject.Engine.Json

open LanternProject.Engine.Str

/-- A JSON value; a number carries the text the engine prints for it. -/
inductive FJsonValue where
  | null
  | boolean (b : Bool)
  | number (t : FString)
  | string (s : FString)
  | array (a : List FJsonValue)
  | object (fields : List (FString × FJsonValue))

/-- The fields of an object. -/
abbrev FJsonObject := List (FString × FJsonValue)

/-- The string a value reads as. -/
def FJsonValue.asString : FJsonValue → FString
  | .null => []
  | .boolean b => if b then TEXT "true" else TEXT "false"
  | .number t => t
  | .string s => s
  | .array _ => []
  | .object _ => []

/-- The object a value reads as. -/
def FJsonValue.asObject (missing : Option FJsonObject) : FJsonValue → Option FJsonObject
  | .object fields => some fields
  | _ => missing

/-- A field; a missing one reads as null. -/
def getField (o : FJsonObject) (name : FString) : FJsonValue := (mapFind o name).getD .null

def getStringField (o : FJsonObject) (name : FString) : FString := (getField o name).asString

def getObjectField (missing : Option FJsonObject) (o : FJsonObject) (name : FString) :
    Option FJsonObject :=
  (getField o name).asObject missing

end LanternProject.Engine.Json
