import LanternProject.Connection.Model

/-! # One attempt at a time

A task is an attempt to connect until its `Connect` succeeds. As long as new attempts are started
by the handling of losses alone, and a connection is lost only after the attempt that opened it is
over (`Quiet`), there is always exactly one of three things: an attempt, a loss still to be
handled, or a connection that an attempt has established (`Balanced`). So a connection is never torn
down by a later attempt (`one_attempt`). The reconnect timer breaks this: nothing clears it, and it
starts an attempt each time it fires (`not_always_one_attempt`). -/

namespace LanternProject.Connection.Attempts

open LanternProject.Lib.Runs LanternProject.Connection.Model

/-- The attempts in progress. -/
def attempts (s : State) : ℕ := s.tasks.countP Phase.inProgress

/-- At most one attempt is in progress; none is once one has succeeded, until its connection drops:
the connection is there, and no timer is left to start another. -/
structure OneAttempt (s : State) : Prop where
  one : attempts s ≤ 1
  rest : s.succeeded = true → attempts s = 0 ∧ s.mqttClient = some true ∧ s.reconnectTimer = false

/-- No Blueprint calls `ConnectToServer` or `ReconnectToServer`, and a connection drops only while
no attempt is in progress. -/
def Quiet (s : State) : Event → Prop
  | .callConnectToServer => False
  | .callReconnectToServer => False
  | .drop => attempts s = 0
  | _ => True

/-! ### The steps of a task -/

/-- **One step of a task**: it goes on, and if it is no attempt it leaves the client alone; or it
succeeds. -/
theorem inProgress_next {c c' : MqttClient} {outcome : Outcome} {ph ph' : Phase}
    (h : ph.next c outcome = some (ph', c')) :
    (ph'.inProgress = ph.inProgress ∧ ph' ≠ .posting true ∧ (ph.inProgress = false → c' = c) ∧
      (ph' = .connecting .startConsuming → c' = some true)) ∨
    (ph = .connecting .startConsuming ∧ ph' = .posting true ∧ c' = c) := by
  cases ph with
  | queued | sleeping =>
    cases h
    exact Or.inl ⟨rfl, by simp, by simp, by simp⟩
  | returned | deleted => cases h
  | posting b =>
    cases h
    cases b <;> exact Or.inl ⟨rfl, by simp, by simp, by simp⟩
  | connecting pc =>
    cases pc with
    | enter =>
      unfold Phase.next at h
      split_ifs at h <;> cases h <;>
        exact Or.inl ⟨rfl, by simp, by simp [Phase.inProgress], by simp⟩
    | check =>
      match c with
      | none | some true | some false =>
        cases h
        exact Or.inl ⟨rfl, by simp, by simp, by simp⟩
    | reset =>
      cases h
      exact Or.inl ⟨rfl, by simp, by simp [Phase.inProgress], by simp⟩
    | disconnect | create =>
      cases outcome <;> cases h <;>
        exact Or.inl ⟨rfl, by simp, by simp [Phase.inProgress], by simp⟩
    | connect =>
      match c, outcome with
      | none, _ | some _, .fail _ | some _, .ok =>
        cases h
        exact Or.inl ⟨rfl, by simp, by simp [Phase.inProgress], by simp⟩
    | startConsuming =>
      cases outcome with
      | ok =>
        cases h
        exact Or.inr ⟨rfl, rfl, rfl⟩
      | fail closed =>
        cases h
        exact Or.inl ⟨rfl, by simp, by simp [Phase.inProgress], by simp⟩

theorem countP_set_task {tasks : List Phase} {i : ℕ} {ph : Phase} (ph' : Phase)
    (hi : tasks[i]? = some ph) :
    (tasks.set i ph').countP Phase.inProgress + (if ph.inProgress then 1 else 0) =
      tasks.countP Phase.inProgress + (if ph'.inProgress then 1 else 0) := by
  obtain ⟨hlt, hget⟩ := List.getElem?_eq_some_iff.mp hi
  rw [List.countP_set hlt, hget]
  by_cases hp : ph.inProgress = true
  · have hpos : 0 < tasks.countP Phase.inProgress :=
      List.countP_pos_iff.mpr ⟨ph, List.mem_of_getElem? hi, hp⟩
    rw [if_pos hp]
    omega
  · rw [if_neg hp]
    omega

/-- Another task in progress makes a second attempt. -/
theorem two_attempts {tasks : List Phase} {i j : ℕ} {ph q : Phase} (hi : tasks[i]? = some ph)
    (hj : tasks[j]? = some q) (hij : i ≠ j) (hph : ph.inProgress = true)
    (hq : q.inProgress = true) : 2 ≤ tasks.countP Phase.inProgress := by
  have hset := countP_set_task .returned hi
  have hmem : q ∈ tasks.set i .returned :=
    List.mem_of_getElem? (i := j) (by rw [List.getElem?_set_ne hij, hj])
  have hpos : 0 < (tasks.set i .returned).countP Phase.inProgress :=
    List.countP_pos_iff.mpr ⟨q, hmem, hq⟩
  rw [if_pos hph] at hset
  simp only [Phase.inProgress] at hset
  simp only [Bool.false_eq_true, if_false] at hset
  omega

/-! ### The balance -/

/-- The losses still to be handled. -/
def losses (s : State) : ℕ :=
  s.gameThread.count .connectionLost + if s.handling = .idle then 0 else 1

/-- There is one attempt, or one loss to be handled, or a connection established by an attempt. -/
structure Balanced (s : State) : Prop where
  timer : s.reconnectTimer = false ∧ .connectToServer ∉ s.gameThread
  balance : attempts s + losses s + (if s.succeeded then 1 else 0) = 1
  up : s.succeeded = true → s.mqttClient = some true
  down : losses s ≠ 0 → s.mqttClient ≠ some true
  consuming : .connecting .startConsuming ∈ s.tasks → s.mqttClient = some true

theorem count_posts (i : ℕ) (ph : Phase) : (ph.posts i).count .connectionLost = 0 := by
  cases ph <;> simp [Phase.posts]

theorem balanced_beginPlay : Balanced beginPlay :=
  ⟨⟨rfl, by simp [beginPlay]⟩, rfl, fun h => (by cases h), fun h => absurd rfl h,
    fun h => (by simp [beginPlay] at h)⟩

/-- A loss is handled: the new task is the only attempt. -/
theorem balanced_handled {s : State} (h : Balanced s) (hh : s.handling = .connecting) :
    Balanced (connectToServer { s with handling := .idle }) := by
  have hbal := h.balance
  have hloss : losses s = s.gameThread.count .connectionLost + 1 := by simp [losses, hh]
  have hloss' : losses (connectToServer { s with handling := .idle }) =
      s.gameThread.count .connectionLost := by simp [losses, connectToServer]
  have hatt : attempts (connectToServer { s with handling := .idle }) = attempts s + 1 := by
    simp [attempts, connectToServer, Phase.inProgress]
  refine ⟨h.timer, ?_, h.up, fun _ => h.down (by omega), fun hc => h.consuming ?_⟩
  · rw [hatt, hloss']
    show attempts s + 1 + s.gameThread.count .connectionLost + (if s.succeeded then 1 else 0) = 1
    omega
  · simpa [connectToServer] using hc

/-! ### A step of a task -/

section Task
variable {s : State} {i : ℕ} {ph ph' : Phase} {c : MqttClient}

/-- The state when task `i` has gone from `ph` to `ph'`. -/
def stepped (s : State) (i : ℕ) (ph ph' : Phase) (c : MqttClient) : State :=
  { s with
    tasks := s.tasks.set i ph'
    mqttClient := c
    gameThread := s.gameThread ++ ph.posts i
    succeeded := s.succeeded || (ph' == .posting true) }

theorem losses_stepped : losses (stepped s i ph ph' c) = losses s := by
  show (s.gameThread ++ ph.posts i).count .connectionLost + _ = _
  rw [List.count_append, count_posts, Nat.add_zero]
  rfl

/-- A task posts nothing but its notification. -/
theorem timer_stepped (h : Balanced s) : (stepped s i ph ph' c).reconnectTimer = false ∧
    .connectToServer ∉ (stepped s i ph ph' c).gameThread := by
  refine ⟨h.timer.1, fun hm => ?_⟩
  rcases List.mem_append.mp hm with hm | hm
  · exact h.timer.2 hm
  · cases ph <;> simp [Phase.posts] at hm

theorem attempts_pos (hi : s.tasks[i]? = some ph) (hp : ph.inProgress = true) : 0 < attempts s :=
  List.countP_pos_iff.mpr ⟨ph, List.mem_of_getElem? hi, hp⟩

theorem not_inProgress (hi : s.tasks[i]? = some ph) (h0 : attempts s = 0) :
    ph.inProgress = false := by
  by_contra hp
  have := attempts_pos hi (by simpa using hp)
  omega

/-- A task about to consume is task `i`, or another one and `i` is no attempt. -/
theorem consuming_set (h : Balanced s) (hi : s.tasks[i]? = some ph)
    (hm : .connecting .startConsuming ∈ s.tasks.set i ph') :
    ph' = .connecting .startConsuming ∨ (ph.inProgress = false ∧ s.mqttClient = some true) := by
  obtain ⟨j, hj⟩ := List.getElem?_of_mem hm
  by_cases hij : i = j
  · subst hij
    rw [List.getElem?_set_self (List.getElem?_eq_some_iff.mp hi).1, Option.some.injEq] at hj
    exact Or.inl hj
  · rw [List.getElem?_set_ne hij] at hj
    refine Or.inr ⟨?_, h.consuming (List.mem_of_getElem? hj)⟩
    by_contra hp
    have htwo : 2 ≤ attempts s := two_attempts hi hj hij (by simpa using hp) rfl
    have hbal := h.balance
    omega

/-- **A task goes on** without success. -/
theorem balanced_goesOn (h : Balanced s) (hi : s.tasks[i]? = some ph)
    (hp : ph'.inProgress = ph.inProgress) (hne : ph' ≠ .posting true)
    (hc : ph.inProgress = false → c = s.mqttClient)
    (hsc : ph' = .connecting .startConsuming → c = some true) :
    Balanced (stepped s i ph ph' c) := by
  have hbal := h.balance
  have hset := countP_set_task ph' hi
  have hs : (stepped s i ph ph' c).succeeded = s.succeeded := by
    show (s.succeeded || (ph' == .posting true)) = s.succeeded
    rw [beq_eq_false_iff_ne.mpr hne, Bool.or_false]
  have hatt : attempts (stepped s i ph ph' c) = attempts s := by
    rw [hp] at hset
    show (s.tasks.set i ph').countP Phase.inProgress = s.tasks.countP Phase.inProgress
    omega
  refine ⟨timer_stepped h, ?_, fun hsucc => ?_, fun hl => ?_, fun hm => ?_⟩
  · rw [hatt, losses_stepped, hs]
    exact hbal
  · rw [hs] at hsucc
    rw [if_pos hsucc] at hbal
    show c = some true
    rw [hc (not_inProgress hi (by omega))]
    exact h.up hsucc
  · rw [losses_stepped] at hl
    show c ≠ some true
    rw [hc (not_inProgress hi (by omega))]
    exact h.down hl
  · rcases consuming_set h hi hm with hsc' | ⟨hp', hup⟩
    · exact hsc hsc'
    · show c = some true
      rw [hc hp']
      exact hup

/-- **An attempt succeeds.** -/
theorem balanced_succeeds (h : Balanced s)
    (hi : s.tasks[i]? = some (.connecting .startConsuming)) :
    Balanced (stepped s i (.connecting .startConsuming) (.posting true) s.mqttClient) := by
  have hbal := h.balance
  have hset := countP_set_task (.posting true) hi
  have hup := h.consuming (List.mem_of_getElem? hi)
  have hone := attempts_pos hi rfl
  have hs : (stepped s i (.connecting .startConsuming) (.posting true)
      s.mqttClient).succeeded = true := by
    show (s.succeeded || _) = true
    simp
  refine ⟨timer_stepped h, ?_, fun _ => hup, fun hl => ?_, fun _ => hup⟩
  · rw [losses_stepped, hs]
    simp only [attempts, stepped, Phase.inProgress, Bool.not_true, Bool.false_eq_true, if_false,
      if_true] at hbal hset hone ⊢
    omega
  · rw [losses_stepped] at hl
    omega

/-- **A step of a task** keeps the balance. -/
theorem balanced_run (h : Balanced s) {outcome : Outcome} (hi : s.tasks[i]? = some ph)
    (hn : ph.next s.mqttClient outcome = some (ph', c)) : Balanced (stepped s i ph ph' c) := by
  rcases inProgress_next hn with ⟨hp, hne, hc, hsc⟩ | ⟨rfl, rfl, rfl⟩
  · exact balanced_goesOn h hi hp hne hc hsc
  · exact balanced_succeeds h hi

end Task

/-- **Every quiet step keeps the balance.** -/
theorem balanced_next {s t : State} {e : Event} (h : Balanced s) (hq : Quiet s e)
    (hn : Next s e t) : Balanced t := by
  have hbal := h.balance
  cases next_cases hn with
  | run i outcome ph ph' c hi hnext => exact balanced_run h hi hnext
  | delete i hi =>
    have hset := countP_set_task .deleted hi
    refine ⟨h.timer, ?_, h.up, h.down, fun hm => ?_⟩
    · simp only [Phase.inProgress, Bool.false_eq_true, if_false] at hset
      simp only [attempts, losses] at hbal ⊢
      omega
    · rcases List.mem_or_eq_of_mem_set hm with hm | hm
      · exact h.consuming hm
      · cases hm
  | drop hc =>
    have hzero : attempts s = 0 := hq
    have hno : losses s = 0 := by
      by_contra hl
      exact h.down hl hc
    refine ⟨⟨h.timer.1, ?_⟩, ?_, fun hs => (by cases hs), fun _ => by simp, fun hm => ?_⟩
    · intro hm
      rcases List.mem_append.mp hm with hm | hm
      · exact h.timer.2 hm
      · simp at hm
    · simp only [attempts, losses] at hzero hno ⊢
      simp only [List.count_append, List.count_singleton_self, Bool.false_eq_true, if_false]
      omega
    · have hpos : 0 < attempts s := List.countP_pos_iff.mpr ⟨_, hm, rfl⟩
      omega
  | notice i b jobs hh hj =>
    have hcount : s.gameThread.count .connectionLost = jobs.count .connectionLost := by simp [hj]
    refine ⟨⟨h.timer.1, fun hm => h.timer.2 ?_⟩, ?_, h.up, fun hl => h.down ?_, h.consuming⟩
    · rw [hj]
      exact List.mem_cons_of_mem _ hm
    · simpa only [attempts, losses, hcount] using hbal
    · simpa only [losses, hcount] using hl
  | lost jobs hh hj =>
    have hcount : s.gameThread.count .connectionLost = jobs.count .connectionLost + 1 := by
      simp [hj]
    have hsame : losses { s with gameThread := jobs, handling := .disconnecting } = losses s := by
      simp [losses, hcount, hh]
    refine ⟨⟨h.timer.1, fun hm => h.timer.2 ?_⟩, ?_, h.up, fun hl => h.down ?_, h.consuming⟩
    · rw [hj]
      exact List.mem_cons_of_mem _ hm
    · rw [hsame]
      exact hbal
    · rwa [hsame] at hl
  | reconnect jobs hh hj => exact absurd (by rw [hj]; exact List.mem_cons_self) h.timer.2
  | disconnected outcome c hd hh hc hk =>
    have hbusy : s.handling ≠ .idle := by
      rcases hh with hh | hh <;> simp [hh]
    have hsame : losses { s with mqttClient := c, handling := hd } = losses s := by
      simp [losses, hbusy, hk]
    have hone : losses s ≠ 0 := by simp [losses, hbusy]
    refine ⟨h.timer, ?_, fun hs => ?_, fun _ => hc (h.down hone), fun hm => ?_⟩
    · rw [hsame]
      exact hbal
    · exact absurd (h.up hs) (h.down hone)
    · exact absurd (h.consuming hm) (h.down hone)
  | handled outcome hh => exact balanced_handled h hh
  | callConnectToServer | callReconnectToServer => exact hq.elim
  | timerFires hh ht =>
    rw [h.timer.1] at ht
    cases ht

/-- **Quiet runs make one attempt at a time and leave an established connection alone.** -/
theorem one_attempt (tr : List (State × Event)) (s : State) (hr : Run Next beginPlay tr s)
    (hq : Along Quiet tr) : Always OneAttempt tr s := by
  have hinv : Always Balanced tr s :=
    hr.invariant balanced_beginPlay (fun _ _ _ h hq hs => balanced_next h hq hs) hq
  have hone : ∀ u, Balanced u → OneAttempt u := by
    intro u h
    have hbal := h.balance
    refine ⟨by omega, fun hs => ⟨?_, h.up hs, h.timer.1⟩⟩
    rw [if_pos hs] at hbal
    omega
  exact ⟨fun p hp => hone _ (hinv.1 p hp), hone _ hinv.2⟩

instance (s : State) (e : Event) : Decidable (Quiet s e) :=
  match e with
  | .drop => inferInstanceAs (Decidable (attempts s = 0))
  | .callConnectToServer | .callReconnectToServer => .isFalse id
  | .run _ _ | .delete _ | .runJob | .handle _ | .timerFires => .isTrue trivial

/-- The connection is lost and established again. -/
def lossRun : List Event :=
  connectRun ++ [.drop, .runJob, .runJob, .handle .ok, .handle .ok, .handle .ok] ++
    List.replicate 6 (.run 1 .ok)

theorem one_attempt_lossRun : ∃ tr s, Run Next beginPlay tr s ∧ tr.map Prod.snd = lossRun ∧
    Always OneAttempt tr s := by
  obtain ⟨s, hs⟩ := Option.isSome_iff_exists.mp (show (lossRun.foldlM (fun s e =>
    if Quiet s e then step s e else none) beginPlay).isSome from by decide)
  obtain ⟨tr, ⟨hr, hq⟩, htr⟩ := run_of_foldlM_along (fun _ _ _ h => h) lossRun hs
  exact ⟨tr, s, hr, htr, one_attempt tr s hr hq⟩

/-- **The reconnect timer starts an attempt while the connection stands**: `ReconnectToServer` is
called, the task connects, the timer fires. -/
theorem not_always_one_attempt :
    ¬ ∀ (tr : List (State × Event)) (s : State), Run Next beginPlay tr s → OneAttempt s := by
  intro h
  have hp : play beginPlay (.callReconnectToServer :: connectRun ++
      [.timerFires, .runJob, .runJob]) =
      some ⟨[.returned, .queued], some true, [], .idle, true, true⟩ := rfl
  obtain ⟨tr, hr, -⟩ := run_of_play hp
  have hrest := (h tr _ hr).rest rfl
  exact absurd hrest.1 (by decide)

end LanternProject.Connection.Attempts
