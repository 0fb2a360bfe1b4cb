import LanternProject.Pipeline.System
import LanternProject.Save.LanternSaveGame

/-! # Sessions

The game instance reads the save object from its slot when a session begins (`init`) and writes it
there when the session ends (`finish`): the queue of the MQTT manager is saved into the object before.
In between the pipeline runs, and the saved messages are loaded into the queue, at least once.

The last four fields of `State` are history and read by no function of the program: the messages
accepted in all sessions, and the numbers of those that were taken from the queue, are in it, and are
saved. -/

namespace LanternProject.Save.Sessions

open LanternProject.Engine.Basic LanternProject.Engine.Str LanternProject.Widget.LanternWidget
open LanternProject.Pipeline.State LanternProject.Pipeline.Spawn LanternProject.Pipeline.Request
open LanternProject.Pipeline.System LanternProject.Save.LanternSaveGame

variable {D : Type}

/-- A session; it does not end before the messages were loaded in it. -/
structure Session (D : Type) where
  saveGame : ULanternSaveGame D
  world : World
  loaded : Bool

/-- The slot, and the session that runs. -/
structure State (D : Type) where
  slot : Option (ULanternSaveGame D)
  session : Option (Session D)
  accepted : List FString
  popped : List ℕ
  queued : List ℕ
  saved : List ℕ

/-- No session has begun yet. -/
def start (D : Type) : State D := ⟨none, none, [], [], [], []⟩

/-- A session begins: the save object is read from the slot, or created. -/
def beginSession (s : State D) (w : World) : Session D :=
  ⟨s.slot.getD (createSaveGame D), w, false⟩

/-- What can happen: a session begins or ends, the pipeline takes a step, a message is requested
otherwise, the saved messages are loaded. -/
inductive Event where
  | init (assets : List WidgetAsset) (choice : SpawnChoice)
  | pipeline (e : Pipeline.System.Event)
  | requestLanternData (choice : SpawnChoice)
  | loadMqttMessageArray
  | finish

/-- The state when the session has got to the world `w`: messages that were accepted meanwhile are in
the queue, those that were requested are not. -/
def afterCall (s : State D) (x : Session D) (w : World) : State D :=
  let requested := w.requested - x.world.requested
  { s with
    session := some { x with world := w }
    accepted := s.accepted ++ w.accepted.drop x.world.accepted.length
    popped := s.popped ++ s.queued.take requested
    queued := (s.queued ++ List.range' s.accepted.length
      (w.accepted.length - x.world.accepted.length)).drop requested }

/-- One event. -/
def step (env : Env) (s : State D) : Event → Option (Except Fault (State D))
  | .init assets choice =>
    match s.session with
    | some _ => none
    | none => some do
      let w ← beginPlay assets choice
      .ok { s with session := some (beginSession s w) }
  | .pipeline e => s.session.bind fun x => (Pipeline.System.step env x.world e).map fun w => do
    let w ← w
    .ok (afterCall s x w)
  | .requestLanternData choice => s.session.map fun x => do
    let w ← requestLanternData env x.world choice
    .ok (afterCall s x w)
  | .loadMqttMessageArray => s.session.map fun x =>
    let (saveGame, mqttManager) := loadMqttMessageArray x.saveGame x.world.mqttManager
    .ok { s with
      session := some ⟨saveGame, { x.world with mqttManager := mqttManager }, true⟩
      queued := s.saved
      saved := [] }
  | .finish =>
    match s.session with
    | none => none
    | some x =>
      if x.loaded then some (.ok { s with
        slot := some (saveMqttMessageArray x.saveGame x.world.mqttManager.mqttMessageArray)
        session := none
        queued := []
        saved := s.queued })
      else none

/-- The steps. -/
def Next (env : Env) (s : State D) (e : Event) (t : State D) : Prop := step env s e = some (.ok t)

/-- The queue of the running session. -/
def queue (s : State D) : List FString :=
  (s.session.map fun x => x.world.mqttManager.mqttMessageArray).getD []

/-- The messages in the save object, or in the slot. -/
def saveObject (s : State D) : List FString :=
  match s.session with
  | some x => x.saveGame.mqttMessageArray
  | none => (s.slot.map fun g => g.mqttMessageArray).getD []

/-! ### What the events do -/

/-- What a call does to the queue: add a message, take the first one, or nothing. -/
inductive QueueStep (w w' : World) : Prop
  | add (message : FString)
      (hq : w'.mqttManager.mqttMessageArray = w.mqttManager.mqttMessageArray ++ [message])
      (ha : w'.accepted = w.accepted ++ [message]) (hr : w'.requested = w.requested)
  | take (message : FString)
      (hq : w.mqttManager.mqttMessageArray = message :: w'.mqttManager.mqttMessageArray)
      (ha : w'.accepted = w.accepted) (hr : w'.requested = w.requested + 1)
  | same (hq : w'.mqttManager.mqttMessageArray = w.mqttManager.mqttMessageArray)
      (ha : w'.accepted = w.accepted) (hr : w'.requested = w.requested)

theorem cons_tail_of_head {queue : List FString} {message : FString}
    (h : queue[0]? = some message) : queue = message :: queue.tail := by
  rcases queue with _ | ⟨first, rest⟩
  · cases h
  · rw [Option.some.inj h]
    rfl

/-- **The pipeline** adds messages to the queue at the end and takes them from the front. -/
theorem queueStep_next {env : Env} {w w' : World} {e : Pipeline.System.Event}
    (h : Pipeline.System.Next env w e w') : QueueStep w w' := by
  rcases Pipeline.System.next_cases h with
    _ | ⟨deltaTime, choice, message, log, hg, hm, hi⟩ |
    ⟨deltaTime, choice, message, log, lantern, types, lanternArray, destroyed, hg, hm⟩ |
    ⟨topic, message, log⟩ | _ | _ | _ | _ | ⟨i, now, saved, task, hi⟩ | _ | _ | _
  case screenshot =>
    unfold runScreenshotTask
    cases saved <;> exact .same rfl rfl rfl
  case ask => exact .take message (cons_tail_of_head hm) rfl rfl
  case spawnText => exact .take message (cons_tail_of_head hm) rfl rfl
  case accept => exact .add message rfl rfl rfl
  all_goals exact .same rfl rfl rfl

theorem queueStep_requestLanternData {env : Env} {w w' : World} {choice : SpawnChoice}
    (h : requestLanternData env w choice = .ok w') : QueueStep w w' := by
  obtain ⟨message, log, hm, ⟨-, rfl⟩ | ⟨-, hs⟩⟩ := requestLanternData_ok h
  · exact .take message (cons_tail_of_head hm) rfl rfl
  · obtain ⟨types, lantern, lanternArray, destroyed, rfl⟩ := spawnLantern_ok hs
    exact .take message (cons_tail_of_head hm) rfl rfl

/-- **What an event does.** -/
inductive Effect (s : State D) : Event → State D → Prop
  | init (assets : List WidgetAsset) (choice : SpawnChoice) (types : LanternTypes)
      (hs : s.session = none) :
      Effect s (.init assets choice)
        { s with session := some (beginSession s (Pipeline.State.init types)) }
  | call (e : Event) (x : Session D) (w : World) (hs : s.session = some x)
      (he : e ≠ .loadMqttMessageArray) (hw : QueueStep x.world w) : Effect s e (afterCall s x w)
  | load (x : Session D) (hs : s.session = some x) :
      Effect s .loadMqttMessageArray
        { s with
          session := some ⟨{ x.saveGame with mqttMessageArray := [] },
            { x.world with mqttManager :=
              setMqttMessageArray x.world.mqttManager x.saveGame.mqttMessageArray }, true⟩
          queued := s.saved
          saved := [] }
  | finish (x : Session D) (hs : s.session = some x) (hl : x.loaded = true) :
      Effect s .finish
        { s with
          slot := some (saveMqttMessageArray x.saveGame x.world.mqttManager.mqttMessageArray)
          session := none
          queued := []
          saved := s.queued }

/-- **Inversion.** -/
theorem next_cases {env : Env} {s t : State D} {e : Event} (h : Next env s e t) : Effect s e t := by
  unfold Next step at h
  rcases e with ⟨assets, choice⟩ | e | choice | _ | _
  · rcases hs : s.session with _ | x
    · simp only [hs, Option.some.injEq] at h
      obtain ⟨w, hw, h⟩ := bind_ok.mp h
      obtain ⟨types, -, rfl⟩ := beginPlay_ok hw
      rw [← Except.ok.inj h]
      exact .init assets choice types hs
    · simp [hs] at h
  · obtain ⟨x, hs, h⟩ := Option.bind_eq_some_iff.mp h
    obtain ⟨r, hr, h⟩ := Option.map_eq_some_iff.mp h
    obtain ⟨w, rfl, h⟩ := bind_ok.mp h
    rw [← Except.ok.inj h]
    exact .call _ x w hs (by simp) (queueStep_next hr)
  · obtain ⟨x, hs, h⟩ := Option.map_eq_some_iff.mp h
    obtain ⟨w, hw, h⟩ := bind_ok.mp h
    rw [← Except.ok.inj h]
    exact .call _ x w hs (by simp) (queueStep_requestLanternData hw)
  · obtain ⟨x, hs, h⟩ := Option.map_eq_some_iff.mp h
    rw [← Except.ok.inj h]
    exact .load x hs
  · rcases hs : s.session with _ | x
    · simp [hs] at h
    · simp only [hs, Option.ite_none_right_eq_some, Option.some.injEq, Except.ok.injEq] at h
      rw [← h.2]
      exact .finish x hs h.1

end LanternProject.Save.Sessions
