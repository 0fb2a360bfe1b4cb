import LanternProject.Lib.Runs
import LanternProject.Mqtt.SocketBuffer

/-! # Keeping connections alive

`MQTTProtocol_keepalive` sends a ping when nothing has been sent or received for the keep alive
interval, and closes the session when a ping is not answered. Times are in milliseconds.

* `dead_detected`: the session of a server that is silent is closed in time.
* `alive_stays`: the session of a server that answers is not closed.
* `never_pinged`: once a ping could not be sent for one and a half intervals and something has been
  received since it was due, the client never pings again and never closes the session for silence. -/

namespace LanternProject.Mqtt.Keepalive

open LanternProject.Lib.Runs LanternProject.Mqtt.SocketBuffer

/-! ### The client -/

/-- What `MQTTProtocol_keepalive` reads of `Clients`. -/
structure Clients where
  connected : Bool
  keepAliveInterval : ℕ
  ping_outstanding : Bool
  ping_due : Bool
  ping_due_time : ℕ
  lastPing : ℕ
  lastSent : ℕ
  lastReceived : ℕ
  pendingWrites : Bool
deriving DecidableEq, Repr

/-- `MQTTProtocol_closeSession`. -/
def MQTTProtocol_closeSession (client : Clients) : Clients :=
  { client with connected := false, ping_outstanding := false, ping_due := false }

/-- A ping is sent, or the session is closed. -/
def sendPing (client : Clients) (now : ℕ) (answer : CompletionCode) : Clients :=
  if answer = .TCPSOCKET_COMPLETE then
    { client with lastSent := now, ping_due := false, lastPing := now, ping_outstanding := true }
  else MQTTProtocol_closeSession client

/-- The body of the loop over the clients. -/
def MQTTProtocol_keepalive (client : Clients) (now : ℕ) (answer : CompletionCode) : Clients :=
  if client.connected = false ∨ client.keepAliveInterval = 0 then client
  else if client.ping_outstanding then
    if client.keepAliveInterval * 1500 ≤ now - client.lastPing ∧
        client.keepAliveInterval * 1500 ≤ now - client.lastReceived then
      MQTTProtocol_closeSession client
    else client
  else if client.ping_due ∧ client.keepAliveInterval * 1500 ≤ now - client.ping_due_time then
    if now - client.ping_due_time ≤ now - client.lastReceived then MQTTProtocol_closeSession client
    else client
  else if client.keepAliveInterval * 1000 ≤ now - client.lastSent then
    if client.pendingWrites = false then sendPing client now answer
    else if client.ping_due = false then { client with ping_due := true, ping_due_time := now }
    else client
  else if client.keepAliveInterval * 1000 ≤ now - client.lastReceived then
    if client.pendingWrites = false then sendPing client now answer else client
  else client

/-- What `setRetryLoopInterval` sets. -/
def retryLoopIntervalms (keepalive : ℕ) : ℕ :=
  if keepalive * 1000 / 10 < 100 then 100
  else if 5000 < keepalive * 1000 / 10 then 5000
  else keepalive * 1000 / 10

/-! ### Time -/

/-- `last` is the time of the last call of `MQTTProtocol_keepalive`, `cycled` that of the last cycle. -/
structure State where
  client : Clients
  now : ℕ
  last : ℕ
  cycled : ℕ
deriving DecidableEq, Repr

/-- A packet is given to the socket, a pending write goes on or is complete, something is received, a
`PINGRESP` is, a cycle of the client's loop ends. -/
inductive Event where
  | sent (answer : CompletionCode)
  | writeContinue
  | writeComplete
  | received
  | pingresp
  | cycle (answer : CompletionCode)
deriving DecidableEq, Repr

/-- `MQTTAsync_retry`. -/
def MQTTAsync_retry (s : State) (answer : CompletionCode) : State :=
  if retryLoopIntervalms s.client.keepAliveInterval ≤ s.now - s.last then
    { s with
      last := s.now
      cycled := s.now
      client := MQTTProtocol_keepalive s.client s.now answer }
  else { s with cycled := s.now }

def happens (s : State) : Event → State
  | .sent .TCPSOCKET_COMPLETE => { s with client := { s.client with lastSent := s.now } }
  | .sent .TCPSOCKET_INTERRUPTED => { s with client := { s.client with pendingWrites := true } }
  | .sent .SOCKET_ERROR => { s with client := MQTTProtocol_closeSession s.client }
  | .writeContinue => { s with client := { s.client with lastSent := s.now } }
  | .writeComplete =>
    { s with client := { s.client with lastSent := s.now, pendingWrites := false } }
  | .received => { s with client := { s.client with lastReceived := s.now } }
  | .pingresp =>
    { s with client := { s.client with lastReceived := s.now, ping_outstanding := false } }
  | .cycle answer => MQTTAsync_retry s answer

/-- An event, after some time. -/
def State.step (s : State) (e : ℕ × Event) : State := happens { s with now := s.now + e.1 } e.2

def Step (s : State) (e : ℕ × Event) (t : State) : Prop := s.step e = t

variable {s s₀ t : State} {tr : List (State × (ℕ × Event))} {δ : ℕ} {client : Clients}

/-! ### Calls -/

/-- A call while a ping is not answered. -/
theorem keepalive_outstanding {now : ℕ} (answer : CompletionCode) (hc : client.connected = true)
    (hk : client.keepAliveInterval ≠ 0) (hping : client.ping_outstanding = true) :
    MQTTProtocol_keepalive client now answer = MQTTProtocol_closeSession client ∨
      MQTTProtocol_keepalive client now answer = client ∧
        ¬(client.keepAliveInterval * 1500 ≤ now - client.lastPing ∧
          client.keepAliveInterval * 1500 ≤ now - client.lastReceived) := by
  unfold MQTTProtocol_keepalive
  rw [if_neg (by simp [hc, hk]), if_pos hping]
  split_ifs with hlate
  · exact Or.inl rfl
  · exact Or.inr ⟨rfl, hlate⟩

/-- A ping that is sent, or not. -/
theorem sendPing_cases (client : Clients) (now : ℕ) (answer : CompletionCode) :
    sendPing client now answer = MQTTProtocol_closeSession client ∨
      sendPing client now answer = { client with
        lastSent := now, ping_due := false, lastPing := now, ping_outstanding := true } := by
  unfold sendPing
  split_ifs
  · exact Or.inr rfl
  · exact Or.inl rfl

/-- A call while no ping is under way and nothing waits to be written. -/
theorem keepalive_waiting {now : ℕ} (answer : CompletionCode) (hc : client.connected = true)
    (hk : client.keepAliveInterval ≠ 0) (hping : client.ping_outstanding = false)
    (hw : client.pendingWrites = false)
    (hdue : client.ping_due = true → client.lastReceived ≤ client.ping_due_time) :
    MQTTProtocol_keepalive client now answer = MQTTProtocol_closeSession client ∨
      MQTTProtocol_keepalive client now answer = { client with
        lastSent := now, ping_due := false, lastPing := now, ping_outstanding := true } ∨
      MQTTProtocol_keepalive client now answer = client ∧
        now - client.lastReceived < client.keepAliveInterval * 1000 := by
  unfold MQTTProtocol_keepalive
  rw [if_neg (by simp [hc, hk]), if_neg (by simp [hping])]
  by_cases hlate : client.ping_due = true ∧
      client.keepAliveInterval * 1500 ≤ now - client.ping_due_time
  · have hle := hdue hlate.1
    rw [if_pos hlate, if_pos (by omega)]
    exact Or.inl rfl
  · rw [if_neg hlate, if_pos hw, if_pos hw]
    split_ifs with hsent hreceived
    · exact (sendPing_cases client now answer).imp id Or.inl
    · exact (sendPing_cases client now answer).imp id Or.inl
    · exact Or.inr (Or.inr ⟨rfl, by omega⟩)

/-- A call changes neither the interval nor what has been received. -/
theorem keepalive_fixed (client : Clients) (now : ℕ) (answer : CompletionCode) :
    (MQTTProtocol_keepalive client now answer).keepAliveInterval = client.keepAliveInterval ∧
      (MQTTProtocol_keepalive client now answer).lastReceived = client.lastReceived := by
  unfold MQTTProtocol_keepalive sendPing
  split_ifs <;> exact ⟨rfl, rfl⟩

/-! ### Time passes -/

/-- The loop of the client runs: cycles are at most `δ` apart, one of them calls
`MQTTProtocol_keepalive` when the interval is over, and nothing has happened in the future. -/
structure Running (δ : ℕ) (s : State) : Prop where
  late : s.now ≤ s.cycled + δ
  cycled : s.cycled ≤ s.now
  called : s.cycled ≤ s.last + retryLoopIntervalms s.client.keepAliveInterval
  last : s.last ≤ s.now
  received : s.client.lastReceived ≤ s.now
  pinged : s.client.lastPing ≤ s.now

/-- The next cycle is in time. -/
def Timely (δ : ℕ) (s : State) (e : ℕ × Event) : Prop := s.now + e.1 ≤ s.cycled + δ

/-- The step without its event. -/
theorem Running.wait (h : Running δ s) {e : ℕ × Event} (htime : Timely δ s e) :
    Running δ { s with now := s.now + e.1 } :=
  ⟨htime, Nat.le_add_right_of_le h.cycled, h.called, Nat.le_add_right_of_le h.last,
    Nat.le_add_right_of_le h.received, Nat.le_add_right_of_le h.pinged⟩

theorem keepalive_lastPing (client : Clients) (now : ℕ) (answer : CompletionCode) :
    (MQTTProtocol_keepalive client now answer).lastPing = client.lastPing ∨
      (MQTTProtocol_keepalive client now answer).lastPing = now := by
  unfold MQTTProtocol_keepalive sendPing
  split_ifs <;> first | exact Or.inl rfl | exact Or.inr rfl

theorem running_step (h : Running δ s) {e : ℕ × Event} (htime : Timely δ s e) :
    Running δ (s.step e) := by
  have hw := h.wait htime
  obtain ⟨d, e⟩ := e
  cases e with
  | sent answer => cases answer <;> exact ⟨hw.late, hw.cycled, hw.called, hw.last, hw.received, hw.pinged⟩
  | writeContinue => exact ⟨hw.late, hw.cycled, hw.called, hw.last, hw.received, hw.pinged⟩
  | writeComplete => exact ⟨hw.late, hw.cycled, hw.called, hw.last, hw.received, hw.pinged⟩
  | received => exact ⟨hw.late, hw.cycled, hw.called, hw.last, le_refl _, hw.pinged⟩
  | pingresp => exact ⟨hw.late, hw.cycled, hw.called, hw.last, le_refl _, hw.pinged⟩
  | cycle answer =>
    simp only [State.step, happens, MQTTAsync_retry]
    split_ifs with hcall
    · obtain ⟨-, hreceived⟩ := keepalive_fixed s.client (s.now + d) answer
      refine ⟨Nat.le_add_right _ _, le_refl _, Nat.le_add_right _ _, le_refl _, ?_, ?_⟩
      · exact hreceived ▸ hw.received
      · rcases keepalive_lastPing s.client (s.now + d) answer with hping | hping
        · exact hping ▸ hw.pinged
        · exact hping.le
    · exact ⟨Nat.le_add_right _ _, le_refl _, by simp only at hcall ⊢; omega, hw.last, hw.received,
        hw.pinged⟩

theorem running_run (hr : Run Step s₀ tr s) (h₀ : Running δ s₀) (hC : Along (Timely δ) tr) :
    Running δ s :=
  (hr.invariant h₀ (fun s e t h htime (hs : s.step e = t) => hs ▸ running_step h htime) hC).last

/-! ### Silent servers -/

/-- Nothing is received, and the socket has written everything when a cycle ends. -/
def Silent (s : State) (e : ℕ × Event) : Prop :=
  match e.2 with
  | .received | .pingresp => False
  | .cycle _ => s.client.pendingWrites = false
  | _ => True

instance (δ : ℕ) (s : State) (e : ℕ × Event) : Decidable (Timely δ s e) :=
  inferInstanceAs (Decidable (_ ≤ _))

instance (s : State) : (e : ℕ × Event) → Decidable (Silent s e)
  | (_, .received) | (_, .pingresp) => inferInstanceAs (Decidable False)
  | (_, .cycle _) => inferInstanceAs (Decidable (s.client.pendingWrites = false))
  | (_, .sent _) | (_, .writeContinue) | (_, .writeComplete) => inferInstanceAs (Decidable True)

/-- How long a call of `MQTTProtocol_keepalive` may be away. -/
def period (δ k : ℕ) : ℕ := retryLoopIntervalms k + δ

/-- **What holds of a client whose server is silent** since `t₀`, with keep alive interval `k`. -/
structure Detecting (δ t₀ k : ℕ) (s : State) : Prop where
  running : Running δ s
  interval : s.client.keepAliveInterval = k
  received : s.client.lastReceived ≤ t₀
  due : s.client.ping_due = true → s.client.lastReceived ≤ s.client.ping_due_time
  waiting : s.client.connected = true → s.client.ping_outstanding = false → s.last < t₀ + k * 1000
  pinged : s.client.connected = true → s.client.ping_outstanding = true →
    s.client.lastPing ≤ t₀ + k * 1000 + period δ k ∧ s.last < t₀ + k * 2500 + period δ k

variable {t₀ k : ℕ}

/-- A closed session is detected. -/
theorem Detecting.closed {s : State} (hr : Running δ s) (hi : s.client.keepAliveInterval = k)
    (hreceived : s.client.lastReceived ≤ t₀)
    (hdue : s.client.ping_due = true → s.client.lastReceived ≤ s.client.ping_due_time)
    (hc : s.client.connected = false) : Detecting δ t₀ k s :=
  ⟨hr, hi, hreceived, hdue, fun h => by simp [hc] at h, fun h => by simp [hc] at h⟩

/-- **A call**: a ping that is not answered in time closes the session, and without one a ping is sent as
soon as the interval is over. -/
theorem detecting_call {now : ℕ} {answer : CompletionCode} (h : Detecting δ t₀ k s) (hk : k ≠ 0)
    (hw : Running δ { s with now := now })
    (hr : Running δ ⟨MQTTProtocol_keepalive s.client now answer, now, now, now⟩)
    (hsilent : s.client.pendingWrites = false) :
    Detecting δ t₀ k ⟨MQTTProtocol_keepalive s.client now answer, now, now, now⟩ := by
  have hk' : s.client.keepAliveInterval ≠ 0 := by rwa [h.interval]
  have hlate : now ≤ s.last + period δ k := by
    have hcalled := hw.called
    have hdelta := hw.late
    simp only [h.interval] at hcalled hdelta
    rw [period]
    omega
  have hreceived := h.received
  have hclosed : MQTTProtocol_keepalive s.client now answer = MQTTProtocol_closeSession s.client →
      Detecting δ t₀ k ⟨MQTTProtocol_keepalive s.client now answer, now, now, now⟩ := by
    intro heq
    rw [heq] at hr ⊢
    exact Detecting.closed hr h.interval h.received (fun hdue => by cases hdue) rfl
  rcases hc : s.client.connected with _ | _
  · have heq : MQTTProtocol_keepalive s.client now answer = s.client := if_pos (Or.inl hc)
    rw [heq] at hr ⊢
    exact Detecting.closed hr h.interval h.received h.due hc
  · rcases hping : s.client.ping_outstanding with _ | _
    · have hlast := h.waiting hc hping
      rcases keepalive_waiting answer hc hk' hping hsilent h.due with heq | heq | ⟨heq, hrecent⟩
      · exact hclosed heq
      · rw [heq] at hr ⊢
        refine ⟨hr, h.interval, h.received, (fun hdue => by cases hdue), (fun _ hno => by cases hno),
          fun _ _ => ⟨?_, ?_⟩⟩
        · show now ≤ _
          omega
        · show now < _
          omega
      · rw [heq] at hr ⊢
        rw [h.interval] at hrecent
        refine ⟨hr, h.interval, h.received, h.due, fun _ _ => ?_, fun _ hyes => ?_⟩
        · show now < _
          omega
        · exact absurd (hping.symm.trans hyes) (by decide)
    · obtain ⟨hpinged, -⟩ := h.pinged hc hping
      rcases keepalive_outstanding answer hc hk' hping with heq | ⟨heq, hnot⟩
      · exact hclosed heq
      · rw [heq] at hr ⊢
        rw [h.interval] at hnot
        refine ⟨hr, h.interval, h.received, h.due, fun _ hno => ?_, fun _ _ => ⟨hpinged, ?_⟩⟩
        · exact absurd (hping.symm.trans hno) (by decide)
        · show now < _
          omega

theorem detecting_step (h : Detecting δ t₀ k s) (hk : k ≠ 0) {e : ℕ × Event} (htime : Timely δ s e)
    (hsilent : Silent s e) : Detecting δ t₀ k (s.step e) := by
  have hr := running_step h.running htime
  have hw := h.running.wait htime
  obtain ⟨d, e⟩ := e
  cases e with
  | sent answer =>
    cases answer with
    | SOCKET_ERROR => exact Detecting.closed hr h.interval h.received (fun hdue => by cases hdue) rfl
    | TCPSOCKET_COMPLETE => exact ⟨hr, h.interval, h.received, h.due, h.waiting, h.pinged⟩
    | TCPSOCKET_INTERRUPTED => exact ⟨hr, h.interval, h.received, h.due, h.waiting, h.pinged⟩
  | writeContinue => exact ⟨hr, h.interval, h.received, h.due, h.waiting, h.pinged⟩
  | writeComplete => exact ⟨hr, h.interval, h.received, h.due, h.waiting, h.pinged⟩
  | received => exact absurd hsilent id
  | pingresp => exact absurd hsilent id
  | cycle answer =>
    have hstep : State.step s (d, .cycle answer)
        = MQTTAsync_retry { s with now := s.now + d } answer := rfl
    rw [hstep, MQTTAsync_retry] at hr ⊢
    split_ifs at hr ⊢ with hcall
    · exact detecting_call (s := s) h hk hw hr hsilent
    · exact ⟨hr, h.interval, h.received, h.due, h.waiting, h.pinged⟩

/-- **A silent server is detected**: in a run whose cycles are in time, let nothing be received any more
and nothing be left unwritten when a cycle ends. Two and a half intervals later, and the time of two calls,
the session is closed, if no ping was due that something has been received since. -/
theorem dead_detected {tr' : List (State × (ℕ × Event))} (h₀ : Running δ s₀)
    (hr : Run Step s₀ tr s) (hC : Along (Timely δ) tr) (hk : s.client.keepAliveInterval ≠ 0)
    (hdue : s.client.ping_due = true → s.client.lastReceived ≤ s.client.ping_due_time)
    (hr' : Run Step s tr' t) (hC' : Along (fun s e => Timely δ s e ∧ Silent s e) tr')
    (htime : s.now + s.client.keepAliveInterval * 2500 + 2 * period δ s.client.keepAliveInterval
      ≤ t.now) : t.client.connected = false := by
  have hs := running_run hr h₀ hC
  have hstart : Detecting δ s.now s.client.keepAliveInterval s := by
    have hlast := hs.last
    have hping := hs.pinged
    exact ⟨hs, rfl, hs.received, hdue, fun _ _ => by omega, fun _ _ => by omega⟩
  have ht := (hr'.invariant hstart (fun s e t h hC (hs : s.step e = t) =>
    hs ▸ detecting_step h hk hC.1 hC.2) hC').last
  rcases hc : t.client.connected with _ | _
  · rfl
  · have hlast : t.last < s.now + s.client.keepAliveInterval * 2500
        + period δ s.client.keepAliveInterval := by
      rcases hping : t.client.ping_outstanding with _ | _
      · have hwaiting := ht.waiting hc hping
        omega
      · exact (ht.pinged hc hping).2
    have hlate := ht.running.late
    have hcalled := ht.running.called
    rw [ht.interval] at hcalled
    have hperiod : period δ s.client.keepAliveInterval
        = retryLoopIntervalms s.client.keepAliveInterval + δ := rfl
    omega

/-- A client with an interval of one second. -/
def sampleStart : State := ⟨⟨true, 1, false, false, 0, 0, 0, 0, false⟩, 0, 0, 0⟩

theorem running_sampleStart : Running 100 sampleStart := by
  constructor <;> decide

def sampleSilence : List (ℕ × Event) := List.replicate 29 (100, .cycle .TCPSOCKET_COMPLETE)

theorem dead_detected_sampleSilence :
    (sampleSilence.foldl State.step sampleStart).client.connected = false := by
  have hr := run_traceOf (fun _ _ => rfl) sampleSilence (Run.nil : Run Step sampleStart [] sampleStart)
  exact dead_detected running_sampleStart Run.nil (along_nil _) (by decide) (by decide) hr
    (by unfold Along; decide) (by decide)

/-! ### Servers that answer -/

/-- No packet fails to be sent, and something has been received in the last one and a half intervals
when a cycle ends. -/
def Alive (s : State) (e : ℕ × Event) : Prop :=
  e.2 ≠ .sent .SOCKET_ERROR ∧ ∀ answer, e.2 = .cycle answer → answer = .TCPSOCKET_COMPLETE ∧
    s.now + e.1 < s.client.lastReceived + s.client.keepAliveInterval * 1500

/-- Such a call does not close the session. -/
theorem keepalive_alive {now : ℕ} (hc : client.connected = true)
    (halive : now < client.lastReceived + client.keepAliveInterval * 1500) :
    (MQTTProtocol_keepalive client now .TCPSOCKET_COMPLETE).connected = true := by
  have hping : (sendPing client now .TCPSOCKET_COMPLETE).connected = true := hc
  unfold MQTTProtocol_keepalive
  -- the branches that close the session need a silence of one and a half intervals
  split_ifs <;> first | exact hc | exact hping | omega

/-- **A server that answers is not given up.** -/
theorem alive_stays (hr : Run Step s₀ tr s) (hC : Along Alive tr)
    (hc : s₀.client.connected = true) : s.client.connected = true := by
  refine (hr.invariant (I := fun s => s.client.connected = true) hc
    (fun s e t hc halive (hs : s.step e = t) => ?_) hC).last
  obtain ⟨d, e⟩ := e
  obtain ⟨hsent, hcycle⟩ := halive
  rw [← hs]
  cases e with
  | sent answer =>
    cases answer with
    | SOCKET_ERROR => exact absurd rfl hsent
    | TCPSOCKET_COMPLETE => exact hc
    | TCPSOCKET_INTERRUPTED => exact hc
  | cycle answer =>
    obtain ⟨rfl, hrecent⟩ := hcycle answer rfl
    simp only [State.step, happens, MQTTAsync_retry]
    split_ifs
    · exact keepalive_alive hc hrecent
    · exact hc
  | _ => exact hc

/-! ### The ping that was due -/

/-- A ping could not be sent for one and a half intervals, and something has been received since. -/
structure Stuck (s : State) : Prop where
  interval : s.client.keepAliveInterval ≠ 0
  outstanding : s.client.ping_outstanding = false
  due : s.client.ping_due = true
  late : s.client.ping_due_time + s.client.keepAliveInterval * 1500 ≤ s.now
  received : s.client.ping_due_time < s.client.lastReceived
  past : s.client.lastReceived ≤ s.now

/-- No packet fails to be sent: that closes the session. -/
def NoneFails (_ : State) (e : ℕ × Event) : Prop := e.2 ≠ .sent .SOCKET_ERROR

/-- Then a call does nothing. -/
theorem Stuck.keepalive {s : State} (h : Stuck s) (answer : CompletionCode) :
    MQTTProtocol_keepalive s.client s.now answer = s.client := by
  have hlate := h.late
  have hreceived := h.received
  have hpast := h.past
  unfold MQTTProtocol_keepalive
  by_cases hc : s.client.connected = false
  · rw [if_pos (Or.inl hc)]
  · rw [if_neg (by simp [hc, h.interval]), if_neg (by simp [h.outstanding]),
      if_pos ⟨h.due, by omega⟩, if_neg (by omega)]

theorem stuck_step (h : Stuck s) {e : ℕ × Event} (hC : NoneFails s e) :
    Stuck (s.step e) ∧ (s.step e).client.connected = s.client.connected ∧
      (s.step e).client.lastPing = s.client.lastPing := by
  have hlate := h.late
  have hreceived := h.received
  have hk := Nat.pos_of_ne_zero h.interval
  obtain ⟨d, e⟩ := e
  have hw : Stuck { s with now := s.now + d } :=
    ⟨h.interval, h.outstanding, h.due, Nat.le_add_right_of_le hlate, hreceived,
      Nat.le_add_right_of_le h.past⟩
  cases e with
  | sent answer =>
    cases answer with
    | SOCKET_ERROR => exact absurd rfl hC
    | TCPSOCKET_COMPLETE => exact ⟨⟨hw.1, hw.2, hw.3, hw.4, hw.5, hw.6⟩, rfl, rfl⟩
    | TCPSOCKET_INTERRUPTED => exact ⟨⟨hw.1, hw.2, hw.3, hw.4, hw.5, hw.6⟩, rfl, rfl⟩
  | writeContinue => exact ⟨⟨hw.1, hw.2, hw.3, hw.4, hw.5, hw.6⟩, rfl, rfl⟩
  | writeComplete => exact ⟨⟨hw.1, hw.2, hw.3, hw.4, hw.5, hw.6⟩, rfl, rfl⟩
  | received =>
    refine ⟨⟨hw.1, hw.2, hw.3, hw.4, ?_, le_refl _⟩, rfl, rfl⟩
    show s.client.ping_due_time < s.now + d
    omega
  | pingresp =>
    refine ⟨⟨hw.1, rfl, hw.3, hw.4, ?_, le_refl _⟩, rfl, rfl⟩
    show s.client.ping_due_time < s.now + d
    omega
  | cycle answer =>
    have hcall := hw.keepalive answer
    have hstep : State.step s (d, .cycle answer)
        = MQTTAsync_retry { s with now := s.now + d } answer := rfl
    rw [hstep, MQTTAsync_retry]
    split_ifs
    · rw [hcall]
      exact ⟨⟨hw.1, hw.2, hw.3, hw.4, hw.5, hw.6⟩, rfl, rfl⟩
    · exact ⟨⟨hw.1, hw.2, hw.3, hw.4, hw.5, hw.6⟩, rfl, rfl⟩

/-- **Never pinged again**: from then on, whatever is sent and received and however long nothing is, the
session stays as it is and no ping is sent, until a packet fails to be sent. -/
theorem never_pinged (h : Stuck s₀) (hr : Run Step s₀ tr s) (hC : Along NoneFails tr) :
    Always (fun t => t.client.connected = s₀.client.connected ∧
      t.client.lastPing = s₀.client.lastPing ∧ t.client.ping_outstanding = false) tr s := by
  have hinv := hr.invariant (I := fun t => Stuck t ∧ t.client.connected = s₀.client.connected ∧
      t.client.lastPing = s₀.client.lastPing) ⟨h, rfl, rfl⟩
    (fun s e t ⟨h, hc, hp⟩ hC (hs : s.step e = t) => by
      obtain ⟨h', hc', hp'⟩ := stuck_step h hC
      exact hs ▸ ⟨h', hc'.trans hc, hp'.trans hp⟩) hC
  exact ⟨fun p hp => ⟨(hinv.1 p hp).2.1, (hinv.1 p hp).2.2, (hinv.1 p hp).1.outstanding⟩,
    hinv.2.2.1, hinv.2.2.2, hinv.2.1.outstanding⟩
/-- A write is pending when a ping is due; then packets are sent and received in time. -/
def sampleBusy : List (ℕ × Event) :=
  [(0, .sent .TCPSOCKET_INTERRUPTED), (1000, .cycle .TCPSOCKET_COMPLETE), (100, .writeComplete),
    (100, .received), (300, .cycle .TCPSOCKET_COMPLETE), (500, .sent .TCPSOCKET_COMPLETE),
    (50, .cycle .TCPSOCKET_COMPLETE), (50, .received), (500, .cycle .TCPSOCKET_COMPLETE)]

/-- The same silence is not detected after it. -/
theorem never_pinged_sampleBusy : (sampleSilence.foldl State.step
    (sampleBusy.foldl State.step sampleStart)).client.connected = true := by
  have hstuck : Stuck (sampleBusy.foldl State.step sampleStart) := by
    constructor <;> decide
  have hr := run_traceOf (fun _ _ => rfl) sampleSilence
    (Run.nil : Run Step (sampleBusy.foldl State.step sampleStart) [] _)
  have hC : Along NoneFails (traceOf State.step (sampleBusy.foldl State.step sampleStart)
      sampleSilence) := by
    unfold Along NoneFails
    decide
  exact (never_pinged hstuck hr hC).last.1

end LanternProject.Mqtt.Keepalive
