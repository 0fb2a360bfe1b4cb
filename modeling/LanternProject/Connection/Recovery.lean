import LanternProject.Connection.Model

/-! # Somebody is always reconnecting

Whatever the order of events, the connection is established, or a task is still trying to establish
it, or its loss is still to be handled. The only step after which a task tries no more is a
successful `connect`, which establishes the connection; the only steps that end a connection are
those of a task that is trying, the handling of a loss, and the loss itself (`attended_next`). -/

namespace LanternProject.Connection.Recovery

open LanternProject.Lib.Runs LanternProject.Connection.Model

/-- The task has yet to open its connection. -/
def trying (ph : Phase) : Bool := ph.inProgress && ph != .connecting .startConsuming

/-- Somebody will see to the connection, or it is there. -/
def Attended (s : State) : Prop :=
  s.mqttClient = some true ∨ (∃ ph ∈ s.tasks, trying ph = true) ∨
    .connectionLost ∈ s.gameThread ∨ s.handling ≠ .idle

/-- **One step of a task** leaves it trying, or leaves the connection established, or changes
neither. -/
theorem trying_next {c c' : MqttClient} {outcome : Outcome} {ph ph' : Phase}
    (h : ph.next c outcome = some (ph', c')) :
    trying ph' = true ∨ c' = some true ∨ (trying ph = false ∧ c' = c) := by
  cases ph with
  | queued | sleeping =>
    cases h
    exact Or.inl rfl
  | returned | deleted => cases h
  | posting b =>
    cases h
    cases b
    · exact Or.inl rfl
    · exact Or.inr (Or.inr ⟨rfl, rfl⟩)
  | connecting pc =>
    cases pc with
    | enter =>
      unfold Phase.next at h
      split_ifs at h <;> cases h <;> exact Or.inl rfl
    | check =>
      match c with
      | none | some true | some false =>
        cases h
        exact Or.inl rfl
    | reset =>
      cases h
      exact Or.inl rfl
    | disconnect | create =>
      cases outcome <;> cases h <;> exact Or.inl rfl
    | connect =>
      match c, outcome with
      | none, _ | some _, .fail _ =>
        cases h
        exact Or.inl rfl
      | some _, .ok =>
        cases h
        exact Or.inr (Or.inl rfl)
    | startConsuming =>
      cases outcome with
      | ok =>
        cases h
        exact Or.inr (Or.inr ⟨rfl, rfl⟩)
      | fail closed =>
        cases h
        exact Or.inl rfl

/-- A task that does not try can change without another one ceasing to. -/
theorem exists_trying_set {tasks : List Phase} {i : ℕ} {ph ph' : Phase} (hi : tasks[i]? = some ph)
    (hph : trying ph = false) (h : ∃ p ∈ tasks, trying p = true) :
    ∃ p ∈ tasks.set i ph', trying p = true := by
  obtain ⟨p, hp, ht⟩ := h
  obtain ⟨j, hj⟩ := List.getElem?_of_mem hp
  have hne : i ≠ j := by
    rintro rfl
    rw [hi] at hj
    cases hj
    rw [hph] at ht
    cases ht
  refine ⟨p, List.mem_of_getElem? (i := j) ?_, ht⟩
  rw [List.getElem?_set_ne hne]
  exact hj

theorem attended_connectToServer (s : State) : Attended (connectToServer s) :=
  Or.inr (Or.inl ⟨.queued, List.mem_append_right _ (List.mem_singleton_self _), rfl⟩)

theorem attended_next {s t : State} {e : Event} (h : Attended s) (hn : Next s e t) :
    Attended t := by
  cases next_cases hn with
  | run i outcome ph ph' c hi hnext =>
    rcases trying_next hnext with ht | hc | ⟨hph, rfl⟩
    · have hlt := (List.getElem?_eq_some_iff.mp hi).1
      exact Or.inr (Or.inl ⟨ph', List.mem_set hlt ph', ht⟩)
    · exact Or.inl hc
    · rcases h with hc | ht | hl | hh
      · exact Or.inl hc
      · exact Or.inr (Or.inl (exists_trying_set hi hph ht))
      · exact Or.inr (Or.inr (Or.inl (List.mem_append_left _ hl)))
      · exact Or.inr (Or.inr (Or.inr hh))
  | delete i hi =>
    rcases h with hc | ht | hrest
    · exact Or.inl hc
    · exact Or.inr (Or.inl (exists_trying_set hi rfl ht))
    · exact Or.inr (Or.inr hrest)
  | drop hc => exact Or.inr (Or.inr (Or.inl (List.mem_append_right _ (List.mem_singleton_self _))))
  | notice i b jobs hh hj =>
    rcases h with hc | ht | hl | hne
    · exact Or.inl hc
    · exact Or.inr (Or.inl ht)
    · rw [hj] at hl
      have hl' : .connectionLost ∈ jobs := by simpa using hl
      exact Or.inr (Or.inr (Or.inl hl'))
    · exact absurd hh hne
  | lost jobs hh hj => exact Or.inr (Or.inr (Or.inr (by simp)))
  | disconnected outcome c h hh hc hk => exact Or.inr (Or.inr (Or.inr hk))
  | reconnect | handled | callConnectToServer => exact attended_connectToServer _
  | callReconnectToServer hh => exact h
  | timerFires hh ht =>
    rcases h with hc | ht | hl | hne
    · exact Or.inl hc
    · exact Or.inr (Or.inl ht)
    · exact Or.inr (Or.inr (Or.inl (List.mem_append_left _ hl)))
    · exact Or.inr (Or.inr (Or.inr hne))

/-- **The client is never left disconnected with nobody reconnecting.** -/
theorem never_abandoned (tr : List (State × Event)) (s : State) (hr : Run Next beginPlay tr s) :
    s.mqttClient = some true ∨ (∃ ph ∈ s.tasks, ph.inProgress = true) ∨
      .connectionLost ∈ s.gameThread ∨ s.handling ≠ .idle := by
  have h : Attended s := by
    refine hr.invariant' ?_ fun _ _ _ h hs => attended_next h hs
    exact Or.inr (Or.inl ⟨.queued, List.mem_singleton_self _, rfl⟩)
  rcases h with hc | ⟨ph, hph, ht⟩ | hrest
  · exact Or.inl hc
  · rw [trying, Bool.and_eq_true] at ht
    exact Or.inr (Or.inl ⟨ph, hph, ht.1⟩)
  · exact Or.inr (Or.inr hrest)

/-- A connection that is lost while its task is still in `Connect`, and handled before it
returns. -/
theorem never_abandoned_lost_early : ∃ tr s, Run Next beginPlay tr s ∧
    tr.map Prod.snd = List.replicate 4 (.run 0 .ok) ++
      [.drop, .runJob, .handle .ok, .handle .ok, .run 0 .ok, .run 0 .ok] ∧
    (s.mqttClient = some true ∨ (∃ ph ∈ s.tasks, ph.inProgress = true) ∨
      .connectionLost ∈ s.gameThread ∨ s.handling ≠ .idle) := by
  obtain ⟨s, hp⟩ : ∃ s, play beginPlay (List.replicate 4 (.run 0 .ok) ++
      [.drop, .runJob, .handle .ok, .handle .ok, .run 0 .ok, .run 0 .ok]) = some s := ⟨_, rfl⟩
  obtain ⟨tr, hr, htr⟩ := run_of_play hp
  exact ⟨tr, s, hr, htr, never_abandoned tr s hr⟩

end LanternProject.Connection.Recovery
