import LanternProject.Pipeline.System

/-! # The two checks of a message

`CheckIsLanternData` decides when a message arrives, `ParseMessage` decides again when it is taken
from the queue. Both want a head that names a letter (`IsLetter`); a JSON message without a data
object (`NoData`) is refused by the first and passed by the second, which returns false for a
missing head only. -/

namespace LanternProject.Pipeline.Acceptance

open LanternProject.Lib.Runs
open LanternProject.Engine.Basic LanternProject.Engine.Str LanternProject.Engine.Json
open LanternProject.Widget.LanternWidget LanternProject.Pipeline.State
open LanternProject.Pipeline.Parse LanternProject.Pipeline.Spawn LanternProject.Pipeline.Request
open LanternProject.Pipeline.System

/-- The message has a head, and that names a letter. -/
def IsLetter (env : Env) (message : FString) : Prop :=
  ∃ messageObject dataObject headObject, env.deserialize message = some messageObject ∧
    getObjectField env.missingObject messageObject (TEXT "data") = some dataObject ∧
    getObjectField env.missingObject dataObject (TEXT "head") = some headObject ∧
    headIsLetter headObject = true

/-- The message is JSON but has no data object. -/
def NoData (env : Env) (message : FString) : Prop :=
  ∃ messageObject, env.deserialize message = some messageObject ∧
    getObjectField env.missingObject messageObject (TEXT "data") = none

variable {env : Env} {w w' : World} {message : FString}

/-- **What `CheckIsLanternData` accepts.** -/
theorem check_iff (env : Env) (w : World) (message : FString) :
    (checkIsLanternData env w message).2 = true ↔ IsLetter env message := by
  unfold checkIsLanternData IsLetter
  rcases hm : env.deserialize message with _ | messageObject
  · simp
  · rcases hd : getObjectField env.missingObject messageObject (TEXT "data") with _ | dataObject
    · simp [hd]
    · rcases hh : getObjectField env.missingObject dataObject (TEXT "head") with _ | headObject
      · simp [hd, hh]
      · by_cases hl : headIsLetter headObject = true
        · simp [hd, hh, hl]
        · simp [hd, hh, hl]

/-- **What `ParseMessage` accepts.** -/
theorem parse_iff (env : Env) (w : World) (message : FString) :
    (parseMessage env w message).2 = true ↔ IsLetter env message ∨ NoData env message := by
  unfold parseMessage IsLetter NoData
  rcases hm : env.deserialize message with _ | messageObject
  · simp
  · rcases hd : getObjectField env.missingObject messageObject (TEXT "data") with _ | dataObject
    · simp [hd]
    · rcases hh : getObjectField env.missingObject dataObject (TEXT "head") with _ | headObject
      · simp [hd, hh]
      · by_cases hl : headIsLetter headObject = true
        · rcases hb : getObjectField env.missingObject dataObject (TEXT "body") with _ | bodyObject
          · simp [hd, hh, hl, hb]
          · simp [hd, hh, hl, hb]
        · simp [hd, hh, hl]

theorem not_isLetter_of_noData (h : NoData env message) : ¬ IsLetter env message := by
  rintro ⟨messageObject, dataObject, -, hm, hd, -⟩
  obtain ⟨messageObject', hm', hd'⟩ := h
  rw [hm, Option.some.injEq] at hm'
  rw [← hm', hd] at hd'
  cases hd'

/-- The head is accepted and the message has this body. -/
def HasBody (env : Env) (message : FString) (bodyObject : FJsonObject) : Prop :=
  ∃ messageObject dataObject headObject, env.deserialize message = some messageObject ∧
    getObjectField env.missingObject messageObject (TEXT "data") = some dataObject ∧
    getObjectField env.missingObject dataObject (TEXT "head") = some headObject ∧
    headIsLetter headObject = true ∧
    getObjectField env.missingObject dataObject (TEXT "body") = some bodyObject

theorem bodyOf_eq_some {bodyObject : FJsonObject} :
    bodyOf env message = some bodyObject ↔ HasBody env message bodyObject := by
  unfold bodyOf HasBody
  simp only [bind, Option.bind_eq_some_iff, Option.ite_none_right_eq_some]
  constructor
  · rintro ⟨messageObject, hm, dataObject, hd, headObject, hh, hl, hb⟩
    exact ⟨messageObject, dataObject, headObject, hm, hd, hh, hl, hb⟩
  · rintro ⟨messageObject, dataObject, headObject, hm, hd, hh, hl, hb⟩
    exact ⟨messageObject, hm, dataObject, hd, headObject, hh, hl, hb⟩

/-- The fields are those of the message: the strings of its body, or empty if it has none. -/
structure FieldsAre (env : Env) (message : FString) (f : Fields) : Prop where
  body : ∀ bodyObject, HasBody env message bodyObject →
    f = ⟨getStringField bodyObject (TEXT "pid"), getStringField bodyObject (TEXT "text"),
      getStringField bodyObject (TEXT "img"), getStringField bodyObject (TEXT "callback")⟩
  empty : (∀ bodyObject, ¬ HasBody env message bodyObject) → f = ⟨[], [], [], []⟩

/-- `ParseMessage` leaves the fields of the message, whatever was there. -/
theorem fieldsAre_parseMessage (env : Env) (w : World) (message : FString) :
    FieldsAre env message (fieldsOf (parseMessage env w message).1.mqttManager) := by
  obtain ⟨log, hp⟩ := parseMessage_eq env w message
  have hf : fieldsOf (parseMessage env w message).1.mqttManager = parsed env message := by
    rw [hp]
    rfl
  rw [hf]
  constructor
  · intro bodyObject hb
    rw [parsed, bodyOf_eq_some.mpr hb]
  · intro hno
    have hb : bodyOf env message = none :=
      Option.eq_none_iff_forall_ne_some.mpr fun b hb => hno b (bodyOf_eq_some.mp hb)
    rw [parsed, hb]

/-- The two agree on the message, and the fields are its own. -/
structure Agrees (env : Env) (w w' : World) (message : FString) : Prop where
  accepts : (checkIsLanternData env w message).2 = true ↔ (parseMessage env w' message).2 = true
  fields : FieldsAre env message (fieldsOf (parseMessage env w' message).1.mqttManager)

/-- **The two checks agree** exactly on the messages that are no JSON or have a data object;
`ParseMessage` passes what was accepted and sets the fields of the message in any case. -/
theorem agrees_iff (env : Env) (w w' : World) (message : FString) :
    (Agrees env w w' message ↔ ¬ NoData env message) ∧
    ((checkIsLanternData env w message).2 = true → (parseMessage env w' message).2 = true) ∧
    FieldsAre env message (fieldsOf (parseMessage env w' message).1.mqttManager) := by
  refine ⟨⟨?_, ?_⟩, ?_, fieldsAre_parseMessage env w' message⟩
  · rintro ⟨ha, -⟩ hn
    have hp : (parseMessage env w' message).2 = true := (parse_iff env w' message).mpr (Or.inr hn)
    exact not_isLetter_of_noData hn ((check_iff env w message).mp (ha.mpr hp))
  · intro hn
    refine ⟨?_, fieldsAre_parseMessage env w' message⟩
    rw [check_iff, parse_iff]
    exact (or_iff_left hn).symm
  · rw [check_iff, parse_iff]
    exact Or.inl

/-! ### Runs -/

/-- Every message in the queue names a letter. -/
def QueueOfLetters (env : Env) (w : World) : Prop :=
  ∀ message ∈ w.mqttManager.mqttMessageArray, IsLetter env message

theorem queueOfLetters_onMessage (h : QueueOfLetters env w) (topic : FString) :
    QueueOfLetters env (onMessage env w topic message) := by
  obtain ⟨log, hm⟩ := onMessage_eq env w topic message
  rw [hm]
  split_ifs with hc
  · intro m hmem
    rcases List.mem_append.mp hmem with hmem | hmem
    · exact h m hmem
    · rw [List.mem_singleton.mp hmem]
      exact (check_iff env w message).mp hc
  · exact h

theorem queueOfLetters_next {e : Event} (h : QueueOfLetters env w) (hn : Next env w e w') :
    QueueOfLetters env w' := by
  have htail : ∀ m ∈ w.mqttManager.mqttMessageArray.tail, IsLetter env m :=
    fun m hm => h m (List.mem_of_mem_tail hm)
  cases next_cases hn with
  | idle | reject | startTimer | capture | removeAllLantern | failed | spawnImage
  | spawnLantern => exact h
  | ask | spawnText => exact htail
  | accept topic message log =>
    have heq := Except.ok.inj (Option.some.inj hn)
    rw [← heq]
    exact queueOfLetters_onMessage h topic
  | screenshot i now saved task hi =>
    unfold runScreenshotTask
    cases saved <;> exact h

/-- **No message that is taken is rejected by `ParseMessage`**, in any run. -/
theorem parse_queue {types : LanternTypes} {tr : List (World × Event)}
    (hr : Run (Next env) (init types) tr w) :
    ∀ message ∈ w.mqttManager.mqttMessageArray, ∀ w', (parseMessage env w' message).2 = true := by
  have hq : QueueOfLetters env w := hr.invariant' (fun m hm => absurd hm List.not_mem_nil)
    fun s e t hs ht => queueOfLetters_next hs ht
  intro message hm w'
  exact (parse_iff env w' message).mpr (Or.inl (hq message hm))

/-- A JSON message without a data object: `CheckIsLanternData` returns false, `ParseMessage` true. -/
theorem not_agrees_badResponse :
    (checkIsLanternData sampleEnv sampleWorld badResponse.content).2 = false ∧
    (parseMessage sampleEnv sampleWorld badResponse.content).2 = true ∧
    ¬ Agrees sampleEnv sampleWorld sampleWorld badResponse.content := by
  have hc : (checkIsLanternData sampleEnv sampleWorld badResponse.content).2 = false := by
    decide +kernel
  have hp : (parseMessage sampleEnv sampleWorld badResponse.content).2 = true := by decide +kernel
  refine ⟨hc, hp, fun h => ?_⟩
  rw [h.accepts.mpr hp] at hc
  cases hc

end LanternProject.Pipeline.Acceptance
