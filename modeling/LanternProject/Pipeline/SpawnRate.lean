import LanternProject.Pipeline.Invariants

/-! # How often messages are taken

A tick calls `RequestLanternData` (`Calls`) if the gate is open, the cool-down is over and there is a
message, and only then (`calls_iff`). A call starts the cool-down anew, and only ticks without one
count it down, each by no more than its time: what is left of the cool-down falls no faster than
time passes (`coolDown_next`). So between two calls at least the whole cool-down passes
(`spawn_rate`). Before the start timer fires the gate is closed. -/

namespace LanternProject.Pipeline.SpawnRate

open LanternProject.Lib.Runs
open LanternProject.Engine.Basic LanternProject.Engine.Str LanternProject.Widget.LanternWidget
open LanternProject.Pipeline.State LanternProject.Pipeline.Parse LanternProject.Pipeline.Spawn
open LanternProject.Pipeline.Request LanternProject.Pipeline.System
open LanternProject.Pipeline.Invariants

variable {env : Env} {w w' : World} {e : Event}

/-- The gate is open, the cool-down is over and there is a message. -/
def Ready (w : World) : Prop :=
  w.lanternManager.bIsLoading = false ∧ w.lanternManager.bIsSpawning = false ∧
    w.lanternManager.currentSpawnCoolDown ≤ 0 ∧ hasMessage w = true

/-- The event is a tick that closes the gate and calls `RequestLanternData`. -/
def Calls (env : Env) (w : World) : Event → Prop
  | .tick deltaTime choice =>
    tick env w deltaTime choice = requestLanternData env (gated env w) choice
  | _ => False

instance (w : World) : Decidable (Ready w) := by unfold Ready; infer_instance

/-- The time of an event. -/
def duration : Event → ℚ
  | .tick deltaTime _ => deltaTime
  | _ => 0

/-- The time that passed in some steps. -/
def elapsed (tr : List (World × Event)) : ℚ := (tr.map fun p => duration p.2).sum

/-- The world after a tick that does not call `RequestLanternData`. -/
def cooled (w : World) (deltaTime : ℚ) : World :=
  if w.lanternManager.bIsLoading || w.lanternManager.bIsSpawning then w
  else if w.lanternManager.currentSpawnCoolDown > 0 then
    { w with lanternManager := { w.lanternManager with
      currentSpawnCoolDown := w.lanternManager.currentSpawnCoolDown - deltaTime } }
  else w

/-- `Tick` calls `RequestLanternData` if it is ready to, and else just counts down. -/
theorem tick_eq (env : Env) (w : World) (deltaTime : ℚ) (choice : SpawnChoice) :
    tick env w deltaTime choice =
      if Ready w then requestLanternData env (gated env w) choice else .ok (cooled w deltaTime) := by
  unfold tick cooled
  by_cases h1 : (w.lanternManager.bIsLoading || w.lanternManager.bIsSpawning) = true
  · have hn : ¬ Ready w := by
      rintro ⟨hl, hs, -⟩
      rw [hl, hs] at h1
      exact absurd h1 (by decide)
    rw [if_pos h1, if_neg hn, if_pos h1]
  · rw [if_neg h1, if_neg h1]
    simp only [Bool.or_eq_true, not_or, Bool.not_eq_true] at h1
    by_cases h2 : w.lanternManager.currentSpawnCoolDown > 0
    · have hn : ¬ Ready w := fun h => absurd h.2.2.1 (not_le.mpr h2)
      rw [if_pos h2, if_neg hn, if_pos h2]
    · rw [if_neg h2, if_neg h2]
      by_cases h3 : hasMessage w = true
      · have hr : Ready w := ⟨h1.1, h1.2, not_lt.mp h2, h3⟩
        rw [if_pos h3, if_pos hr]
        rfl
      · have hn : ¬ Ready w := fun h => h3 h.2.2.2
        rw [if_neg h3, if_neg hn]

/-- `RequestLanternData` takes one message. -/
theorem requested_request {choice : SpawnChoice} (h : requestLanternData env w choice = .ok w') :
    w'.requested = w.requested + 1 := by
  obtain ⟨message, log, -, ⟨-, rfl⟩ | ⟨-, hs⟩⟩ := requestLanternData_ok h
  · rfl
  · obtain ⟨types, lantern, lanternArray, destroyed, rfl⟩ := spawnLantern_ok hs
    rfl

/-- A tick that just counts down takes none. -/
theorem requested_cooled (w : World) (deltaTime : ℚ) :
    (cooled w deltaTime).requested = w.requested := by
  unfold cooled
  split_ifs <;> rfl

/-- **When `Tick` calls `RequestLanternData`**: exactly if it is ready to. -/
theorem calls_iff {deltaTime : ℚ} {choice : SpawnChoice} :
    Calls env w (.tick deltaTime choice) ↔ Ready w := by
  show tick env w deltaTime choice = _ ↔ Ready w
  rw [tick_eq]
  constructor
  · intro h
    by_contra hr
    rw [if_neg hr] at h
    have hone := requested_request h.symm
    rw [requested_cooled] at hone
    exact absurd hone (Nat.ne_of_lt (Nat.lt_succ_self _))
  · intro hr
    rw [if_pos hr]

/-- `RequestLanternData` leaves the cool-down as it is. -/
theorem coolDown_request {choice : SpawnChoice} (h : requestLanternData env w choice = .ok w') :
    w'.lanternManager.currentSpawnCoolDown = w.lanternManager.currentSpawnCoolDown := by
  obtain ⟨message, log, -, ⟨-, rfl⟩ | ⟨-, hs⟩⟩ := requestLanternData_ok h
  · rfl
  · obtain ⟨types, lantern, lanternArray, destroyed, rfl⟩ := spawnLantern_ok hs
    rfl

/-- A call of `RequestLanternData` starts the cool-down. -/
theorem coolDown_calls (hc : Calls env w e) (hn : Next env w e w') :
    w'.lanternManager.currentSpawnCoolDown = env.spawnCoolDown := by
  rcases e with ⟨deltaTime, choice⟩ | _ | _ | _ | _ | _ | _ | _
  · simp only [Next, step, Option.ite_none_right_eq_some, Option.some.injEq] at hn
    obtain ⟨-, htick⟩ := hn
    rw [tick_eq, if_pos (calls_iff.mp hc)] at htick
    exact coolDown_request htick
  all_goals exact hc.elim

/-- What is left of the cool-down; it counts no higher than a whole one. -/
def remaining (env : Env) (w : World) : ℚ :=
  min w.lanternManager.currentSpawnCoolDown env.spawnCoolDown

/-- **One step** lets the rest of the cool-down fall by no more than its time. -/
theorem coolDown_next (hn : Next env w e w') :
    remaining env w ≤ remaining env w' + duration e := by
  unfold remaining
  have hsame : w'.lanternManager.currentSpawnCoolDown = w.lanternManager.currentSpawnCoolDown →
      0 ≤ duration e → min w.lanternManager.currentSpawnCoolDown env.spawnCoolDown ≤
        min w'.lanternManager.currentSpawnCoolDown env.spawnCoolDown + duration e := by
    intro hc hd
    rw [hc]
    linarith
  rcases e with ⟨deltaTime, choice⟩ | _ | _ | _ | _ | _ | _ | _
  · have htick := hn
    simp only [Next, step, Option.ite_none_right_eq_some, Option.some.injEq] at htick
    obtain ⟨hd, htick⟩ := htick
    by_cases hr : Ready w
    · have hfull := coolDown_calls (e := .tick deltaTime choice) (calls_iff.mpr hr) hn
      have hle := min_le_right w.lanternManager.currentSpawnCoolDown env.spawnCoolDown
      rw [hfull, min_self]
      show _ ≤ env.spawnCoolDown + deltaTime
      linarith
    · rw [tick_eq, if_neg hr] at htick
      rw [← Except.ok.inj htick]
      unfold cooled
      split_ifs with h1 h2
      · exact le_add_of_nonneg_right hd
      · show _ ≤ min (w.lanternManager.currentSpawnCoolDown - deltaTime) env.spawnCoolDown +
          deltaTime
        rw [← min_add_add_right]
        have hl := min_le_left w.lanternManager.currentSpawnCoolDown env.spawnCoolDown
        have hright := min_le_right w.lanternManager.currentSpawnCoolDown env.spawnCoolDown
        exact le_min (by linarith) (by linarith)
      · exact le_add_of_nonneg_right hd
  all_goals
    refine hsame ?_ le_rfl
    cases next_cases hn <;> first | rfl | (unfold runScreenshotTask; split_ifs <;> rfl)

/-- **The start delay and the spawn rate.** In a run without a Blueprint's `SpawnLantern`, when a
tick calls `RequestLanternData` the start timer has fired, and since any earlier call at least the
cool-down has passed, not counting the time of the two ticks. -/
theorem spawn_rate (env : Env) (types : LanternTypes) (tr : List (World × Event)) (w : World)
    (hr : Run (Next env) (init types) tr w) (ho : Along (fun _ e => e.Own) tr) (e : Event)
    (he : Calls env w e) :
    w.startTimer = false ∧ ∀ before v d between, tr = before ++ (v, d) :: between → Calls env v d →
      env.spawnCoolDown ≤ elapsed between := by
  have hready : Ready w := by
    rcases e with ⟨deltaTime, choice⟩ | _ | _ | _ | _ | _ | _ | _
    · exact calls_iff.mp he
    all_goals exact he.elim
  obtain ⟨-, hopen, hcool, -⟩ := hready
  constructor
  · by_contra ht
    have hclosed := ((gate_run hr ho).timer (by simpa using ht)).1
    rw [hopen] at hclosed
    exact absurd hclosed (by decide)
  · rintro before v d between rfl hd
    obtain ⟨u, -, hs, hbetween⟩ := hr.split
    have hstart : remaining env u = env.spawnCoolDown := by
      unfold remaining
      rw [coolDown_calls hd hs, min_self]
    calc env.spawnCoolDown = remaining env u := hstart.symm
      _ ≤ remaining env w + elapsed between :=
        hbetween.le_add_sum fun _ _ _ hn => coolDown_next hn
      _ ≤ w.lanternManager.currentSpawnCoolDown + elapsed between := by
        have := min_le_left w.lanternManager.currentSpawnCoolDown env.spawnCoolDown
        unfold remaining
        linarith
      _ ≤ elapsed between := by linarith

/-- Two letters arrive; one is taken, and the cool-down passes. -/
def twoLetters : List Event :=
  [.startTimer, .onMessage [] textLetter1, .onMessage [] textLetter2, .tick 0 firstChoice,
    .tick 2 firstChoice]

theorem spawn_rate_twoLetters : ∃ tr w, Run (Next sampleEnv) sampleWorld tr w ∧
    tr.map Prod.snd = twoLetters ∧ Calls sampleEnv w (.tick 0 firstChoice) ∧
    (w.startTimer = false ∧ ∀ before v d between, tr = before ++ (v, d) :: between →
      Calls sampleEnv v d → sampleEnv.spawnCoolDown ≤ elapsed between) := by
  have hp : (play sampleEnv sampleWorld twoLetters).map (fun w => decide (Ready w)) =
      some true := by decide +kernel
  obtain ⟨w, hw, ht⟩ := Option.map_eq_some_iff.mp hp
  have ht : Calls sampleEnv w (.tick 0 firstChoice) := calls_iff.mpr (of_decide_eq_true ht)
  obtain ⟨tr, hr, htr⟩ := run_of_play hw
  refine ⟨tr, w, hr, htr, ht, spawn_rate sampleEnv _ tr w hr ?_ _ ht⟩
  rw [along_events, htr]
  simp [twoLetters, Event.Own]

end LanternProject.Pipeline.SpawnRate
