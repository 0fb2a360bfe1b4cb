import LanternProject.Save.Sessions

/-! # Restarts

Every accepted message should be taken once, wait in the queue once or be saved once
(`ExactlyOnce`). Accepting, taking, ending a session and beginning the next one keep this
(`exactlyOnce_call`, `exactlyOnce_init`, `exactlyOnce_finish`). Loading does not: it replaces the queue
instead of adding to it, and the messages that wait there are lost (`exactlyOnce_load_iff`). -/

namespace LanternProject.Save.Restarts

open LanternProject.Lib.Runs
open LanternProject.Engine.Basic LanternProject.Engine.Str LanternProject.Widget.LanternWidget
open LanternProject.Pipeline.State
open LanternProject.Pipeline.System (sampleEnv textLetter2)
open LanternProject.Save.LanternSaveGame LanternProject.Save.Sessions

variable {D : Type} {env : Env} {s t : State D} {x : Session D} {w : World} {e : Event}

/-- Every accepted message was taken, is in the queue or is in the save object, and all this once. -/
structure ExactlyOnce (s : State D) : Prop where
  once : (s.popped ++ s.queued ++ s.saved).Perm (List.range s.accepted.length)
  queue_eq : s.queued.map (fun n => s.accepted[n]?) = (queue s).map some
  saveObject_eq : s.saved.map (fun n => s.accepted[n]?) = (saveObject s).map some

/-- Once the messages were loaded, the save object has none. -/
def LoadedAll (s : State D) : Prop := ∀ x, s.session = some x → x.loaded = true → s.saved = []

/-- Messages are only loaded into an empty queue. -/
def LoadsIntoEmpty (s : State D) : Event → Prop
  | .loadMqttMessageArray => queue s = []
  | _ => True

instance (s : State D) (e : Event) : Decidable (LoadsIntoEmpty s e) := by
  cases e <;> unfold LoadsIntoEmpty <;> infer_instance

/-! ### The queue and its numbers -/

section Numbers

theorem queue_of_session (hs : s.session = some x) :
    queue s = x.world.mqttManager.mqttMessageArray := by
  rw [queue, hs]
  rfl

theorem queue_of_none (hs : s.session = none) : queue s = [] := by
  rw [queue, hs]
  rfl

theorem saveObject_of_session (hs : s.session = some x) :
    saveObject s = x.saveGame.mqttMessageArray := by
  rw [saveObject, hs]

theorem saveObject_of_none (hs : s.session = none) :
    saveObject s = (s.slot.getD (createSaveGame D)).mqttMessageArray := by
  rw [saveObject, hs]
  rcases s.slot with _ | g <;> rfl

theorem ExactlyOnce.queued_eq_nil (h : ExactlyOnce s) : s.queued = [] ↔ queue s = [] := by
  have hq := congrArg List.length h.queue_eq
  rw [List.length_map, List.length_map] at hq
  rw [← List.length_eq_zero_iff, hq, List.length_eq_zero_iff]

/-- The numbers are those of accepted messages. -/
theorem ExactlyOnce.lt_length (h : ExactlyOnce s) {n : ℕ} (hn : n ∈ s.queued ∨ n ∈ s.saved) :
    n < s.accepted.length := by
  have hmem : n ∈ s.popped ++ s.queued ++ s.saved := by
    simp only [List.mem_append]
    tauto
  exact List.mem_range.mp (h.once.mem_iff.mp hmem)

/-- A message that is accepted later does not change what the numbers stand for. -/
theorem map_getElem?_append {ns : List ℕ} {accepted : List FString}
    (h : ∀ n ∈ ns, n < accepted.length) (messages : List FString) :
    ns.map (fun n => (accepted ++ messages)[n]?) = ns.map (fun n => accepted[n]?) :=
  List.map_congr_left fun n hn => List.getElem?_append_left (h n hn)

end Numbers

/-! ### Calls -/

section Calls

theorem afterCall_add {message : FString}
    (ha : w.accepted = x.world.accepted ++ [message]) (hr : w.requested = x.world.requested) :
    afterCall s x w = { s with
      session := some { x with world := w }
      accepted := s.accepted ++ [message]
      queued := s.queued ++ [s.accepted.length] } := by
  simp [afterCall, ha, hr]

theorem afterCall_take (ha : w.accepted = x.world.accepted)
    (hr : w.requested = x.world.requested + 1) :
    afterCall s x w = { s with
      session := some { x with world := w }
      popped := s.popped ++ s.queued.take 1
      queued := s.queued.drop 1 } := by
  simp [afterCall, ha, hr]

theorem afterCall_same (ha : w.accepted = x.world.accepted)
    (hr : w.requested = x.world.requested) :
    afterCall s x w = { s with session := some { x with world := w } } := by
  simp [afterCall, ha, hr]

/-- **A message that is accepted** is put in the queue. -/
theorem exactlyOnce_add (h : ExactlyOnce s) (hs : s.session = some x) {message : FString}
    (hq : w.mqttManager.mqttMessageArray = x.world.mqttManager.mqttMessageArray ++ [message])
    (ha : w.accepted = x.world.accepted ++ [message]) (hr : w.requested = x.world.requested) :
    ExactlyOnce (afterCall s x w) := by
  rw [afterCall_add ha hr]
  have hqueue := h.queue_eq
  have hsaved := h.saveObject_eq
  rw [queue_of_session hs] at hqueue
  rw [saveObject_of_session hs] at hsaved
  constructor
  · have hperm : (s.popped ++ (s.queued ++ [s.accepted.length]) ++ s.saved).Perm
        (s.popped ++ s.queued ++ s.saved ++ [s.accepted.length]) := by
      simp only [List.append_assoc]
      exact List.Perm.append_left _ (List.Perm.append_left _ List.perm_append_comm)
    have hrange : List.range (s.accepted ++ [message]).length =
        List.range s.accepted.length ++ [s.accepted.length] := by
      rw [List.length_append, List.length_singleton, List.range_succ]
    rw [hrange]
    exact hperm.trans (h.once.append_right _)
  · change (s.queued ++ [s.accepted.length]).map _ = w.mqttManager.mqttMessageArray.map some
    rw [hq, List.map_append, List.map_append, ← hqueue,
      map_getElem?_append fun n hn => h.lt_length (Or.inl hn)]
    simp
  · change s.saved.map _ = x.saveGame.mqttMessageArray.map some
    rw [← hsaved, map_getElem?_append fun n hn => h.lt_length (Or.inr hn)]

/-- **The message that is taken** is no longer in the queue. -/
theorem exactlyOnce_take (h : ExactlyOnce s) (hs : s.session = some x) {message : FString}
    (hq : x.world.mqttManager.mqttMessageArray = message :: w.mqttManager.mqttMessageArray)
    (ha : w.accepted = x.world.accepted) (hr : w.requested = x.world.requested + 1) :
    ExactlyOnce (afterCall s x w) := by
  rw [afterCall_take ha hr]
  have hqueue := h.queue_eq
  have hsaved := h.saveObject_eq
  rw [queue_of_session hs] at hqueue
  rw [saveObject_of_session hs] at hsaved
  constructor
  · change ((s.popped ++ s.queued.take 1) ++ s.queued.drop 1 ++ s.saved).Perm _
    rw [List.append_assoc s.popped, List.take_append_drop]
    exact h.once
  · change (s.queued.drop 1).map _ = w.mqttManager.mqttMessageArray.map some
    rw [List.map_drop, hqueue, hq]
    rfl
  · exact hsaved

theorem exactlyOnce_same (h : ExactlyOnce s) (hs : s.session = some x)
    (hq : w.mqttManager.mqttMessageArray = x.world.mqttManager.mqttMessageArray)
    (ha : w.accepted = x.world.accepted) (hr : w.requested = x.world.requested) :
    ExactlyOnce (afterCall s x w) := by
  rw [afterCall_same ha hr]
  have hqueue := h.queue_eq
  have hsaved := h.saveObject_eq
  rw [queue_of_session hs, ← hq] at hqueue
  rw [saveObject_of_session hs] at hsaved
  exact ⟨h.once, hqueue, hsaved⟩

/-- **Calls** lose no message and take none twice. -/
theorem exactlyOnce_call (h : ExactlyOnce s) (hs : s.session = some x)
    (hw : QueueStep x.world w) : ExactlyOnce (afterCall s x w) := by
  rcases hw with ⟨message, hq, ha, hr⟩ | ⟨message, hq, ha, hr⟩ | ⟨hq, ha, hr⟩
  · exact exactlyOnce_add h hs hq ha hr
  · exact exactlyOnce_take h hs hq ha hr
  · exact exactlyOnce_same h hs hq ha hr

end Calls

/-! ### Sessions -/

section Sessions

/-- **The next session** begins with what the last one saved. -/
theorem exactlyOnce_init (h : ExactlyOnce s) (hs : s.session = none) (types : LanternTypes) :
    ExactlyOnce
      { s with session := some (beginSession s (Pipeline.State.init types)) } := by
  have hqueue := h.queue_eq
  have hsaved := h.saveObject_eq
  rw [queue_of_none hs] at hqueue
  rw [saveObject_of_none hs] at hsaved
  exact ⟨h.once, hqueue, hsaved⟩

/-- **A session ends** with its queue in the slot, and nothing else was to be saved. -/
theorem exactlyOnce_finish (h : ExactlyOnce s) (hs : s.session = some x) (hsaved : s.saved = []) :
    ExactlyOnce { s with
      slot := some (saveMqttMessageArray x.saveGame x.world.mqttManager.mqttMessageArray)
      session := none
      queued := []
      saved := s.queued } := by
  have hqueue := h.queue_eq
  rw [queue_of_session hs] at hqueue
  constructor
  · have honce := h.once
    rw [hsaved, List.append_nil] at honce
    change (s.popped ++ [] ++ s.queued).Perm _
    rw [List.append_nil]
    exact honce
  · rfl
  · exact hqueue

/-- What a load leaves. -/
def loadedState (s : State D) (x : Session D) : State D :=
  { s with
    session := some ⟨{ x.saveGame with mqttMessageArray := [] },
      { x.world with mqttManager :=
        setMqttMessageArray x.world.mqttManager x.saveGame.mqttMessageArray }, true⟩
    queued := s.saved
    saved := [] }

/-- **A load** keeps all messages exactly if none is in the queue. -/
theorem exactlyOnce_load_iff (h : ExactlyOnce s) (hs : s.session = some x) :
    ExactlyOnce (loadedState s x) ↔ queue s = [] := by
  rw [← h.queued_eq_nil]
  have hsaved := h.saveObject_eq
  rw [saveObject_of_session hs] at hsaved
  constructor
  · intro ht
    -- the load forgets the numbers in the queue, and none of them may be missing
    have hbefore := h.once.length_eq
    have hafter : (s.popped ++ s.saved ++ []).length = _ := ht.once.length_eq
    simp only [List.length_append, List.length_range, List.length_nil] at hbefore hafter
    rw [← List.length_eq_zero_iff]
    change s.popped.length + s.saved.length + 0 = s.accepted.length at hafter
    omega
  · intro hq
    constructor
    · have honce := h.once
      rw [hq, List.append_nil] at honce
      change (s.popped ++ s.saved ++ []).Perm _
      rw [List.append_nil]
      exact honce
    · exact hsaved
    · rfl

end Sessions

/-! ### Runs -/

theorem exactlyOnce_start : ExactlyOnce (start D) := ⟨List.Perm.refl _, rfl, rfl⟩

theorem loadedAll_start : LoadedAll (start D) := fun _ hx => by cases hx

theorem loadedAll_next (hI : LoadedAll s) (h : Next env s e t) : LoadedAll t := by
  rcases next_cases h with ⟨assets, choice, types, hs⟩ | ⟨_, x, w, hs, he, hw⟩ | ⟨x, hs⟩ | ⟨x, hs, hl⟩
  · rintro x hx hl
    cases hx
    cases hl
  · rintro y hy hl
    cases hy
    exact hI x hs hl
  · exact fun _ _ _ => rfl
  · rintro y hy
    cases hy

/-- **One event** keeps all messages exactly if it is no load into a queue with messages. -/
theorem exactlyOnce_next_iff (hI : LoadedAll s) (h : ExactlyOnce s) (hn : Next env s e t) :
    ExactlyOnce t ↔ LoadsIntoEmpty s e := by
  rcases next_cases hn with ⟨assets, choice, types, hs⟩ | ⟨_, x, w, hs, he, hw⟩ | ⟨x, hs⟩ | ⟨x, hs, hl⟩
  case load => exact exactlyOnce_load_iff h hs
  case init => exact iff_of_true (exactlyOnce_init h hs types) trivial
  case finish => exact iff_of_true (exactlyOnce_finish h hs (hI x hs hl)) trivial
  case call =>
    refine iff_of_true (exactlyOnce_call h hs hw) ?_
    rcases e with _ | _ | _ | _ | _
    case loadMqttMessageArray => exact absurd rfl he
    all_goals trivial

/-- **Queued letters survive restarts exactly once** along exactly the runs that load messages only
into an empty queue. -/
theorem exactlyOnce_iff (env : Env) (tr : List (State D × Event)) (s : State D)
    (hr : Run (Next env) (start D) tr s) :
    Always ExactlyOnce tr s ↔ Along LoadsIntoEmpty tr :=
  hr.always_iff_along (A := fun _ _ => True) loadedAll_start exactlyOnce_start
    (fun _ _ _ hI _ _ hs _ => loadedAll_next hI hs)
    (fun _ _ _ hI h _ hs => exactlyOnce_next_iff hI h hs) (fun _ _ => trivial)

/-! ### Two runs -/

/-- The state after the event, if it can happen and does not end the process. -/
def next (env : Env) (s : State D) (e : Event) : Option (State D) :=
  (step env s e).bind Except.toOption

theorem next_of_next (s : State D) (e : Event) (t : State D)
    (h : next env s e = some t) : Next env s e t := bind_toOption_eq_some.mp h

/-- A session begins with one type of lantern. -/
def sampleInit : Event := .init [⟨none, fun _ => [], firstPage⟩] firstChoice

/-- The second letter is accepted in the first session and taken in the second one. -/
def restart : List Event :=
  [sampleInit, .loadMqttMessageArray, .pipeline (.onMessage [] textLetter2), .finish,
    sampleInit, .loadMqttMessageArray, .requestLanternData firstChoice, .finish]

/-- The letter is taken once. -/
theorem exactlyOnce_iff_restart : ∃ tr s, Run (Next sampleEnv) (start Unit) tr s ∧
    tr.map Prod.snd = restart ∧ s.popped = [0] ∧ Always ExactlyOnce tr s := by
  have hplay : (restart.foldlM
      (fun s e => if LoadsIntoEmpty s e then next sampleEnv s e else none) (start Unit)).map
      State.popped = some [0] := by decide +kernel
  obtain ⟨s, hs, hp⟩ := Option.map_eq_some_iff.mp hplay
  obtain ⟨tr, ⟨hr, hA⟩, htr⟩ := run_of_foldlM_along next_of_next restart hs
  exact ⟨tr, s, hr, htr, hp, (exactlyOnce_iff sampleEnv tr s hr).mpr hA⟩

/-- The second letter is accepted before the messages are loaded. -/
def earlyLetter : List Event :=
  [sampleInit, .pipeline (.onMessage [] textLetter2), .loadMqttMessageArray]

/-- **It is lost**: accepted, but neither taken nor in the queue nor in the save object. -/
theorem not_exactlyOnce : ¬ ∀ (env : Env) (tr : List (State Unit × Event)) (s : State Unit),
    Run (Next env) (start Unit) tr s → Always ExactlyOnce tr s := by
  intro h
  have hplay : (earlyLetter.foldlM (next sampleEnv) (start Unit)).map
      (fun s => (s.accepted.length, s.popped ++ s.queued ++ s.saved)) = some (1, []) := by
    decide +kernel
  obtain ⟨s, hs, hlost⟩ := Option.map_eq_some_iff.mp hplay
  obtain ⟨tr, hr, -⟩ := run_of_foldlM next_of_next earlyLetter hs
  have honce := (h sampleEnv tr s hr).last.once.length_eq
  rw [(Prod.mk.inj hlost).1, (Prod.mk.inj hlost).2] at honce
  cases honce

end LanternProject.Save.Restarts
