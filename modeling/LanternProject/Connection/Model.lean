import LanternProject.Lib.Runs

/-! # Connecting to the broker

Three parties share one MQTT client: the background tasks `FMqttAsyncTask`, each in its loop
`DoWork`; the game thread, which runs queued lambdas one after the other; and the network, which
may drop an established connection. A task is a `Phase`; its number is its place in `tasks`. The
calls that can block or throw (`Connect` in a task, `Disconnect` on the game thread) are taken
apart into the steps between which the other parties may act, and each step may fail.

`succeeded` is a history field: a `Connect` succeeded and its connection has not dropped since. -/

namespace LanternProject.Connection.Model

open LanternProject.Lib.Runs

/-- The outcome of a call of the MQTT library; a failed one may have closed the connection. -/
inductive Outcome where
  | ok
  | fail (closed : Bool)
deriving DecidableEq, Repr

/-- The places in `Connect`: the test of `MqttClient`, the one of `MQTT_TRY_BEGIN`, `disconnect`,
`Reset`, `MakeShared`, `connect`, `start_consuming`. -/
inductive ConnectPc where
  | enter
  | check
  | disconnect
  | reset
  | create
  | connect
  | startConsuming
deriving DecidableEq, Repr

/-- The places of a task: in the pool, in `Connect`, about to post its notification, in `Sleep`,
after `DoWork`, after the wrapper deleted it. -/
inductive Phase where
  | queued
  | connecting (pc : ConnectPc)
  | posting (bIsSuccess : Bool)
  | sleeping
  | returned
  | deleted
deriving DecidableEq, Repr

/-- The lambdas queued for the game thread: a notification, which reads the task it belongs to, the
broadcast of a lost connection, the lambda of the reconnect timer. -/
inductive Job where
  | notice (task : ℕ) (bIsSuccess : Bool)
  | connectionLost
  | connectToServer
deriving DecidableEq, Repr

/-- The places in `OnDisconnected`: `disconnect`, `Reset`, `ConnectToServer`. -/
inductive Handling where
  | idle
  | disconnecting
  | resetting
  | connecting
deriving DecidableEq, Repr

/-- `MqttClient`: invalid, or valid and connected or not. -/
abbrev MqttClient := Option Bool

/-- The state shared by the parties. -/
structure State where
  tasks : List Phase
  mqttClient : MqttClient
  gameThread : List Job
  handling : Handling
  reconnectTimer : Bool
  succeeded : Bool
deriving DecidableEq, Repr

/-- After `BeginPlay`: `ConnectToServer` started one task. -/
def beginPlay : State := ⟨[.queued], none, [], .idle, false, false⟩

/-- The connection may be closed by a failing call. -/
def MqttClient.failed (c : MqttClient) (closed : Bool) : MqttClient :=
  if closed then c.map fun _ => false else c

/-- One step of a task: its next phase and the client. -/
def Phase.next (c : MqttClient) (outcome : Outcome) : Phase → Option (Phase × MqttClient)
  | .queued => some (.connecting .enter, c)
  | .connecting .enter =>
    if c.isSome then some (.connecting .check, c) else some (.connecting .create, c)
  | .connecting .check =>
    match c with
    | none => some (.posting false, c)
    | some true => some (.connecting .disconnect, c)
    | some false => some (.connecting .reset, c)
  | .connecting .disconnect =>
    match outcome with
    | .ok => some (.connecting .reset, c.map fun _ => false)
    | .fail closed => some (.posting false, c.failed closed)
  | .connecting .reset => some (.connecting .create, none)
  | .connecting .create =>
    match outcome with
    | .ok => some (.connecting .connect, some false)
    | .fail _ => some (.posting false, c)
  | .connecting .connect =>
    match c, outcome with
    | none, _ => some (.posting false, none)
    | some _, .ok => some (.connecting .startConsuming, some true)
    | some _, .fail closed => some (.posting false, c.failed closed)
  | .connecting .startConsuming =>
    match outcome with
    | .ok => some (.posting true, c)
    | .fail closed => some (.posting false, c.failed closed)
  | .posting bIsSuccess => some (if bIsSuccess then .returned else .sleeping, c)
  | .sleeping => some (.connecting .enter, c)
  | .returned => none
  | .deleted => none

/-- The task waits to start or is still in its loop, and has not succeeded. -/
def Phase.inProgress : Phase → Bool
  | .queued => true
  | .connecting _ => true
  | .posting bIsSuccess => !bIsSuccess
  | .sleeping => true
  | .returned => false
  | .deleted => false

/-- The notification a step of task `i` posts. -/
def Phase.posts (i : ℕ) : Phase → List Job
  | .posting bIsSuccess => [.notice i bIsSuccess]
  | _ => []

/-- `ConnectToServer`: a new task; what follows its early `return` is never reached. -/
def connectToServer (s : State) : State := { s with tasks := s.tasks ++ [.queued] }

/-- `ReconnectToServer`. -/
def reconnectToServer (s : State) : State :=
  if s.reconnectTimer = false then { s with reconnectTimer := true } else s

/-- What can happen. The calls and the timer are on the game thread. -/
inductive Event where
  | run (i : ℕ) (outcome : Outcome)
  | delete (i : ℕ)
  | drop
  | runJob
  | handle (outcome : Outcome)
  | callConnectToServer
  | callReconnectToServer
  | timerFires
deriving DecidableEq, Repr

/-- One event; `none` if it cannot happen. -/
def step (s : State) : Event → Option State
  | .run i outcome => do
    let ph ← s.tasks[i]?
    let (ph', c) ← ph.next s.mqttClient outcome
    return { s with
      tasks := s.tasks.set i ph'
      mqttClient := c
      gameThread := s.gameThread ++ ph.posts i
      succeeded := s.succeeded || (ph' == .posting true) }
  | .delete i =>
    if s.tasks[i]? = some .returned then some { s with tasks := s.tasks.set i .deleted } else none
  | .drop =>
    if s.mqttClient = some true then some { s with
      mqttClient := some false, gameThread := s.gameThread ++ [.connectionLost], succeeded := false }
    else none
  | .runJob =>
    match s.handling, s.gameThread with
    | .idle, .notice _ _ :: jobs => some { s with gameThread := jobs }
    | .idle, .connectionLost :: jobs => some { s with gameThread := jobs, handling := .disconnecting }
    | .idle, .connectToServer :: jobs => some (connectToServer { s with gameThread := jobs })
    | _, _ => none
  | .handle outcome =>
    match s.handling with
    | .idle => none
    | .disconnecting =>
      -- `Disconnect` fails without a client; otherwise `disconnect` may
      match s.mqttClient, outcome with
      | none, _ => some { s with handling := .connecting }
      | some _, .ok => some { s with mqttClient := some false, handling := .resetting }
      | some b, .fail closed => some { s with
          mqttClient := MqttClient.failed (some b) closed, handling := .connecting }
    | .resetting => some { s with mqttClient := none, handling := .connecting }
    | .connecting => some (connectToServer { s with handling := .idle })
  | .callConnectToServer => if s.handling = .idle then some (connectToServer s) else none
  | .callReconnectToServer => if s.handling = .idle then some (reconnectToServer s) else none
  | .timerFires =>
    if s.handling = .idle ∧ s.reconnectTimer = true then
      some { s with gameThread := s.gameThread ++ [.connectToServer] }
    else none

/-- The steps. -/
def Next (s : State) (e : Event) (t : State) : Prop := step s e = some t

/-! ### What the events do -/

/-- **What an event does.** -/
inductive Effect (s : State) : Event → State → Prop
  | run (i : ℕ) (outcome : Outcome) (ph ph' : Phase) (c : MqttClient) (hi : s.tasks[i]? = some ph)
      (hn : ph.next s.mqttClient outcome = some (ph', c)) :
      Effect s (.run i outcome) { s with
        tasks := s.tasks.set i ph'
        mqttClient := c
        gameThread := s.gameThread ++ ph.posts i
        succeeded := s.succeeded || (ph' == .posting true) }
  | delete (i : ℕ) (hi : s.tasks[i]? = some .returned) :
      Effect s (.delete i) { s with tasks := s.tasks.set i .deleted }
  | drop (hc : s.mqttClient = some true) :
      Effect s .drop { s with
        mqttClient := some false, gameThread := s.gameThread ++ [.connectionLost], succeeded := false }
  | notice (i : ℕ) (b : Bool) (jobs : List Job) (hh : s.handling = .idle)
      (hj : s.gameThread = .notice i b :: jobs) : Effect s .runJob { s with gameThread := jobs }
  | lost (jobs : List Job) (hh : s.handling = .idle) (hj : s.gameThread = .connectionLost :: jobs) :
      Effect s .runJob { s with gameThread := jobs, handling := .disconnecting }
  | reconnect (jobs : List Job) (hh : s.handling = .idle)
      (hj : s.gameThread = .connectToServer :: jobs) :
      Effect s .runJob (connectToServer { s with gameThread := jobs })
  | disconnected (outcome : Outcome) (c : MqttClient) (h : Handling)
      (hh : s.handling = .disconnecting ∨ s.handling = .resetting)
      (hc : s.mqttClient ≠ some true → c ≠ some true) (hk : h ≠ .idle) :
      Effect s (.handle outcome) { s with mqttClient := c, handling := h }
  | handled (outcome : Outcome) (hh : s.handling = .connecting) :
      Effect s (.handle outcome) (connectToServer { s with handling := .idle })
  | callConnectToServer (hh : s.handling = .idle) :
      Effect s .callConnectToServer (connectToServer s)
  | callReconnectToServer (hh : s.handling = .idle) :
      Effect s .callReconnectToServer { s with reconnectTimer := true }
  | timerFires (hh : s.handling = .idle) (ht : s.reconnectTimer = true) :
      Effect s .timerFires { s with gameThread := s.gameThread ++ [.connectToServer] }

theorem failed_ne {c : MqttClient} {closed : Bool} (h : c ≠ some true) :
    c.failed closed ≠ some true := by
  unfold MqttClient.failed
  split_ifs
  · simp
  · exact h

/-- **Inversion**: every step has one of these effects. -/
theorem next_cases {s t : State} {e : Event} (h : Next s e t) : Effect s e t := by
  unfold Next step at h
  cases e with
  | run i outcome =>
    obtain ⟨ph, hi, h⟩ := Option.bind_eq_some_iff.mp h
    obtain ⟨⟨ph', c⟩, hn, h⟩ := Option.bind_eq_some_iff.mp h
    cases h
    exact .run i outcome ph ph' c hi hn
  | delete i =>
    obtain ⟨hi, h⟩ := Option.ite_none_right_eq_some.mp h
    cases h
    exact .delete i hi
  | drop =>
    obtain ⟨hc, h⟩ := Option.ite_none_right_eq_some.mp h
    cases h
    exact .drop hc
  | runJob =>
    dsimp only at h
    split at h
    · rename_i i b jobs hh hj
      cases h
      exact .notice i b jobs hh hj
    · rename_i jobs hh hj
      cases h
      exact .lost jobs hh hj
    · rename_i jobs hh hj
      cases h
      exact .reconnect jobs hh hj
    · cases h
  | handle outcome =>
    dsimp only at h
    split at h
    · cases h
    · rename_i hh
      split at h
      · rename_i hc
        cases h
        exact .disconnected _ s.mqttClient .connecting (Or.inl hh) id (by simp)
      · cases h
        exact .disconnected .ok (some false) _ (Or.inl hh) (by simp) (by simp)
      · rename_i b closed hc
        cases h
        exact .disconnected _ _ _ (Or.inl hh) (fun hne => failed_ne (hc ▸ hne)) (by simp)
    · rename_i hh
      cases h
      exact .disconnected outcome none _ (Or.inr hh) (by simp) (by simp)
    · rename_i hh
      cases h
      exact .handled outcome hh
  | callConnectToServer =>
    obtain ⟨hh, h⟩ := Option.ite_none_right_eq_some.mp h
    cases h
    exact .callConnectToServer hh
  | callReconnectToServer =>
    obtain ⟨hh, h⟩ := Option.ite_none_right_eq_some.mp h
    cases h
    have heq : reconnectToServer s = { s with reconnectTimer := true } := by
      unfold reconnectToServer
      split_ifs with ht
      · rfl
      · rw [Bool.not_eq_false] at ht
        rw [← ht]
    rw [heq]
    exact .callReconnectToServer hh
  | timerFires =>
    obtain ⟨⟨hh, ht⟩, h⟩ := Option.ite_none_right_eq_some.mp h
    cases h
    exact .timerFires hh ht

/-- The events, played one after the other. -/
def play (s : State) (es : List Event) : Option State := es.foldlM step s

theorem run_of_play {s t : State} {es : List Event} (h : play s es = some t) :
    ∃ tr, Run Next s tr t ∧ tr.map Prod.snd = es :=
  run_of_foldlM (fun _ _ _ hs => hs) es h

/-- The first task connects: it creates the client, opens the connection and returns. -/
def connectRun : List Event := List.replicate 6 (.run 0 .ok)

end LanternProject.Connection.Model
