import LanternProject.Mqtt.Receiver
import LanternProject.Mqtt.Sender

/-! # The system carries out the handshakes

* `Acts`: what a step of the client is for both handshakes of an id.
* `simulates_step`: a step of the client and its broker is a number of steps of both handshakes of
  each id. -/

namespace LanternProject.Mqtt.Simulation

open LanternProject.Lib LanternProject.Lib.Runs LanternProject.Lib.Handshake
open LanternProject.Mqtt.MQTTPacket LanternProject.Mqtt.SocketBuffer
open LanternProject.Mqtt.MQTTProtocolClient LanternProject.Mqtt.MQTTAsync
open LanternProject.Mqtt.Broker LanternProject.Mqtt.Effects LanternProject.Mqtt.InFlight
open LanternProject.Mqtt.Ends LanternProject.Mqtt.Receiver LanternProject.Mqtt.Sender

variable {i : ℕ} {c c' c'' : Clients}

/-! ### What the client keeps to -/

/-- What holds of the client in every state. -/
structure Inv (c : Clients) : Prop where
  outstanding : Outstanding c
  ready : c.connected = true → Ready c
  queued : c.commands <:+ c.accepted

/-- The handlers leave the commands alone, and queue an answer only while the socket is busy. -/
theorem cycle_keeps (h : Ready c) (ho : Outstanding c) (p : Packet) (now : ℕ) (accepts : Bool)
    (answer : CompletionCode) : Ready (MQTTAsync_cycle c p now accepts answer).2 ∧
      (MQTTAsync_cycle c p now accepts answer).2.commands = c.commands ∧
      (MQTTAsync_cycle c p now accepts answer).2.accepted = c.accepted := by
  have hanswer : ∀ {c₁ : Clients} (type : msgTypes) (j : ℕ), Ready c₁ → c₁.commands = c.commands →
      c₁.accepted = c.accepted → Ready (answerAck c₁ type j answer).2 ∧
        (answerAck c₁ type j answer).2.commands = c.commands ∧
        (answerAck c₁ type j answer).2.accepted = c.accepted := by
    intro c₁ type j hready hcommands haccepted
    have hrest := commands_of_rest (rest_answerAck c₁ type j answer)
    exact ⟨(outgoing_answerAck hready type j answer).1, hrest.1.trans hcommands,
      hrest.2.trans haccepted⟩
  have hprocess : ∀ publish, Ready (Protocol_processPublication c publish accepts) ∧
      (Protocol_processPublication c publish accepts).commands = c.commands ∧
      (Protocol_processPublication c publish accepts).accepted = c.accepted := by
    intro publish
    rcases processPublication_cases c publish accepts with ⟨-, heq⟩ | heq
    · rw [heq]
      exact ⟨h, rfl, rfl⟩
    · rw [heq]
      exact ⟨h, rfl, rfl⟩
  cases p with
  | publish publish =>
    obtain ⟨hready, hcommands, haccepted⟩ := hprocess publish
    unfold MQTTAsync_cycle MQTTProtocol_handlePublishes
    dsimp only
    split_ifs
    · exact ⟨hready, hcommands, haccepted⟩
    · exact hanswer _ _ hready hcommands haccepted
    · exact hanswer _ _ h rfl rfl
    · exact ⟨h, rfl, rfl⟩
  | ack header j =>
    obtain ⟨hacks, hcomps⟩ := confirmed_cases c j
    unfold MQTTAsync_cycle
    dsimp only
    split
    · rcases hcomps with ⟨heq, -⟩ | ⟨m, -, -, -, heq⟩
      · rw [heq]
        exact ⟨h, rfl, rfl⟩
      · rw [heq]
        exact ⟨h, rfl, rfl⟩
    · obtain ⟨msgs, heq, -⟩ := handlePubrecs_cases c j now answer
      rw [heq]
      exact hanswer _ _ h rfl rfl
    · rcases hacks with ⟨heq, -⟩ | ⟨m, -, -, heq⟩
      · rw [heq]
        exact ⟨h, rfl, rfl⟩
      · rw [heq]
        exact ⟨h, rfl, rfl⟩
    · obtain ⟨c₁, heq, hcases⟩ := handlePubrels_cases c ho.held j accepts answer
      rw [heq]
      rcases hcases with ⟨-, rfl⟩ | ⟨m, -, rfl⟩
      · exact hanswer _ _ h rfl rfl
      · obtain ⟨hready, hcommands, haccepted⟩ := hprocess (storedPublish m)
        exact hanswer _ _ hready hcommands haccepted
    · exact ⟨h, rfl, rfl⟩
  | suback header j qoss => exact ⟨h, rfl, rfl⟩
  | unsuback header j => exact ⟨h, rfl, rfl⟩
  | connack header flags rc => exact ⟨h, rfl, rfl⟩
  | headerOnly header => exact ⟨h, rfl, rfl⟩

/-- **What one step of the client is** for both handshakes of an id. -/
structure Acts (i : ℕ) (c c' : Clients) : Prop where
  inv : Inv c'
  recv : ∀ F, RecvMoves i c c' F F
  send : ∀ B, SendMoves i c c' B B

theorem Acts.trans (h : Acts i c c') (h' : Acts i c' c'') : Acts i c c'' :=
  ⟨h'.inv, fun F => (h.recv F).trans (h'.recv F), fun B => (h.send B).trans (h'.send B)⟩

theorem acts_refl (h : Inv c) : Acts i c c :=
  ⟨h, fun _ => recv_same rfl rfl rfl rfl (List.Sublist.refl _) (List.Sublist.refl _),
    fun _ => send_same rfl rfl rfl rfl (List.Sublist.refl _) (List.Sublist.refl _)⟩

theorem Inv.of_rest (h : Inv c) (hrest : rest c' = rest c) (hready : c.connected = true → Ready c') :
    Inv c' := by
  refine ⟨h.outstanding.congr hrest, fun hc => hready (connected_of_rest hrest ▸ hc), ?_⟩
  rw [(commands_of_rest hrest).1, (commands_of_rest hrest).2]
  exact h.queued

theorem acts_retried (h : Inv c) (hc : c.connected = true) (hretried : Retried c c') :
    Acts i c c' :=
  have hready := h.ready hc
  ⟨h.of_rest hretried.rest_eq fun _ => hretried.ready hready, recv_retried hready hretried,
    send_retried hready h.outstanding (Or.inl hc) hretried⟩

theorem acts_close (h : Inv c) (more_to_try : Bool) (answer : CompletionCode) :
    Acts i c (nextOrClose c more_to_try answer) := by
  have hclosed := closed_nextOrClose h.ready more_to_try answer
  refine ⟨⟨outstanding_nextOrClose h.outstanding more_to_try answer, fun hc => ?_, ?_⟩,
    recv_closed hclosed, send_closed hclosed⟩
  · rw [hclosed.connected] at hc
    cases hc
  · rw [hclosed.commands, hclosed.accepted]
    exact h.queued

theorem acts_put (h : Inv c) (hc : c.connected = true) {p : Packet}
    (hforth : forthOf i p = none) (hback : backOf i p = none) (answer : CompletionCode) :
    Acts i c (put c p answer).2 :=
  have hready := h.ready hc
  ⟨h.of_rest (rest_put c p answer) fun _ => (outgoing_put hready p answer).1,
    recv_put hready hback answer, send_put hready hforth answer⟩

theorem acts_processCommand (h : Inv c) (now : ℕ) (answer : CompletionCode) :
    Acts i c (MQTTAsync_processCommand c now answer) := by
  have houtstanding := outstanding_processCommand h.outstanding now answer
  rcases processCommand_cases c now answer with
    heq | ⟨command, commands, responses, hcommands, hc, -, -, heq⟩
  · rw [heq]
    exact acts_refl h
  · have hready := h.ready hc
    have hrest := rest_put (started c command commands responses now)
      (publishPacket (MQTTProtocol_createMessage command now) false) answer
    have hput := outgoing_put (c := started c command commands responses now) hready
      (publishPacket (MQTTProtocol_createMessage command now) false) answer
    rw [heq] at houtstanding ⊢
    refine ⟨⟨houtstanding, fun _ => hput.1, ?_⟩,
      recv_started hready command commands responses now answer,
      send_started hready h.outstanding hc hcommands h.queued responses now answer⟩
    rw [(commands_of_rest hrest).1, (commands_of_rest hrest).2]
    exact (List.suffix_cons command commands).trans (hcommands ▸ h.queued)

theorem acts_send (h : Inv c) {others : ℕ → Bool} {destinationName payload : Bytes} {qos : ℤ}
    {retained : Bool} {rc : ReturnCode}
    (hsend : MQTTAsync_send c others destinationName payload qos retained = some (rc, c')) :
    Acts i c c' := by
  have houtstanding := outstanding_send h.outstanding hsend
  obtain ⟨msgid, -, -, hcases⟩ := send_cases h.outstanding hsend
  rcases hcases with ⟨-, rfl⟩ | ⟨-, -, -, -, j, -, -, rfl⟩
  · exact ⟨⟨houtstanding, h.ready, h.queued⟩,
      fun F => recv_same rfl rfl rfl rfl (List.Sublist.refl _) (List.Sublist.refl _),
      fun B => send_same rfl rfl rfl rfl (List.Sublist.refl _) (List.Sublist.refl _)⟩
  · obtain ⟨l, hl⟩ := h.queued
    have hqueued : ∀ command, c.accepted ++ [command] = l ++ (c.commands ++ [command]) := by
      intro command
      rw [← hl, List.append_assoc]
    refine ⟨⟨houtstanding, h.ready, l, (hqueued _).symm⟩,
      fun F => recv_same rfl rfl rfl rfl (List.Sublist.refl _) (List.Sublist.refl _),
      fun B => send_same rfl rfl rfl ?_ (List.Sublist.refl _) (List.Sublist.refl _)⟩
    rw [startedOf, processed_eq (hqueued _), startedOf, processed_eq hl.symm]

theorem acts_writeComplete (h : Inv c) (answers : List CompletionCode) :
    Acts i c (MQTTProtocol_writeAvailable { c with pendingWrites := false } answers) := by
  obtain ⟨hready, hsub⟩ := outgoing_writeAvailable c answers
  have hrest := rest_writeAvailable c answers
  exact ⟨h.of_rest hrest fun _ => hready,
    fun F => recv_of_rest hrest (hsub.filterMap _) (List.Sublist.refl _),
    fun B => send_of_part (sendPart_of_rest hrest) (hsub.filterMap _) (List.Sublist.refl _)⟩

theorem acts_deliver (h : Inv c) (accepts : Bool) : Acts i c (deliverQueued c accepts) := by
  unfold deliverQueued
  rcases hq : c.messageQueue with _ | ⟨qe, messageQueue⟩
  · exact acts_refl h
  · dsimp only
    split_ifs
    · refine ⟨⟨outstanding_deliverQueued h.outstanding qe messageQueue, h.ready, h.queued⟩,
        fun F => recv_same rfl rfl rfl ?_ (List.Sublist.refl _) (List.Sublist.refl _),
        fun B => send_same rfl rfl rfl rfl (List.Sublist.refl _) (List.Sublist.refl _)⟩
      rw [arrivedOf, arrivedOf, hq, List.append_assoc]
      rfl
    · exact acts_refl h

/-! ### The system -/

/-- The handshake of an id with the broker as the sender. -/
def inbound (i : ℕ) (s : Session) (held : Option Message) : Exchange Message :=
  recvEnd i s.c (s.phase i) (s.down.filterMap (forthOf i)) (s.offered i) held

/-- The handshake of an id with the client as the sender. -/
def outbound (i : ℕ) (s : Session) (phase : Phase Message) : Exchange Message :=
  sendEnd i s.c (s.held i) (s.down.filterMap (backOf i)) (s.received i) phase

/-- The steps of a handshake, whose ends forget what is under way only if `P`. -/
abbrev MovesIf (P : Prop) : Exchange Message → Exchange Message → Prop :=
  Relation.ReflTransGen fun x y => Handshake.Step x y ∨ P ∧ y = x.reset

theorem movesIf_of_moves {x y : Exchange Message} (h : Moves x y) (P : Prop) : MovesIf P x y :=
  Relation.ReflTransGen.mono (fun _ _ hs => Or.inl hs) _ _ h

/-- What a step of the system is for the two handshakes of an id. -/
structure Simulates (P : Prop) (i : ℕ) (s t : Session) : Prop where
  recv : ∀ held, (Live s.c → held = heldOf s.c.inboundMsgs i) →
    ∃ held', (Live t.c → held' = heldOf t.c.inboundMsgs i) ∧
      MovesIf P (inbound i s held) (inbound i t held')
  send : ∀ phase, (Live s.c → phase = phaseOf s.c.outboundMsgs i) →
    ∃ phase', (Live t.c → phase' = phaseOf t.c.outboundMsgs i) ∧
      MovesIf P (outbound i s phase) (outbound i t phase')

variable {s t : Session} {P : Prop}

theorem Simulates.trans {u : Session} (h : Simulates P i s t) (h' : Simulates P i t u) :
    Simulates P i s u := by
  constructor
  · intro held hheld
    obtain ⟨held', hheld', hmoves⟩ := h.recv held hheld
    obtain ⟨held'', hheld'', hmoves'⟩ := h'.recv held' hheld'
    exact ⟨held'', hheld'', hmoves.trans hmoves'⟩
  · intro phase hphase
    obtain ⟨phase', hphase', hmoves⟩ := h.send phase hphase
    obtain ⟨phase'', hphase'', hmoves'⟩ := h'.send phase' hphase'
    exact ⟨phase'', hphase'', hmoves.trans hmoves'⟩

/-- A step of the client alone. -/
theorem simulates_acts (P : Prop) (h : Acts i s.c c') : Simulates P i s { s with c := c' } := by
  constructor
  · intro held hheld
    obtain ⟨held', hheld', hmoves⟩ := h.recv _ (s.phase i) (s.offered i) held hheld
    exact ⟨held', hheld', movesIf_of_moves hmoves P⟩
  · intro phase hphase
    obtain ⟨phase', hphase', hmoves⟩ := h.send _ (s.held i) (s.received i) phase hphase
    exact ⟨phase', hphase', movesIf_of_moves hmoves P⟩

theorem filterMap_cons_toList {α β : Type} (f : α → Option β) (a : α) (l : List α) :
    (a :: l).filterMap f = (f a).toList ++ l.filterMap f := by
  rcases h : f a with _ | b <;> simp [h]

/-- The client handles the first packet that is under way to it. -/
theorem simulates_cycle (P : Prop) (h : Inv s.c) (hc : s.c.connected = true) {p : Packet}
    {down : List Packet} (hdown : s.down = p :: down) (now : ℕ) (accepts : Bool)
    (answer : CompletionCode) : Simulates P i s
      { s with c := (MQTTAsync_cycle s.c p now accepts answer).2, down := down } := by
  have hready := h.ready hc
  constructor
  · intro held hheld
    obtain ⟨held', hheld', hmoves⟩ := recv_cycle hready h.outstanding hc p now accepts answer
      (down.filterMap (forthOf i)) (s.phase i) (s.offered i) held hheld
    refine ⟨held', hheld', ?_⟩
    unfold inbound
    rw [hdown, filterMap_cons_toList]
    exact movesIf_of_moves hmoves P
  · intro phase hphase
    obtain ⟨phase', hphase', hmoves⟩ := send_cycle hready h.outstanding hc p now accepts answer
      (down.filterMap (backOf i)) (s.held i) (s.received i) phase hphase
    refine ⟨phase', hphase', ?_⟩
    unfold outbound
    rw [hdown, filterMap_cons_toList]
    exact movesIf_of_moves hmoves P

/-- A step of the broker alone, that is one of the sender and one of the receiver or none. -/
theorem simulates_broker (P : Prop) (hc : t.c = s.c)
    (hrecv : ∀ held, Moves (inbound i s held) (inbound i t held))
    (hsend : ∀ phase, Moves (outbound i s phase) (outbound i t phase)) : Simulates P i s t := by
  constructor
  · intro held hheld
    exact ⟨held, hc ▸ hheld, movesIf_of_moves (hrecv held) P⟩
  · intro phase hphase
    exact ⟨phase, hc ▸ hphase, movesIf_of_moves (hsend phase) P⟩

/-- What the broker sends besides the handshakes. -/
theorem not_ofHandshake {p : Packet} (h : ofHandshake p = false) (i : ℕ) :
    forthOf i p = none ∧ backOf i p = none := by
  cases p with
  | publish publish =>
    have hqos : publish.header.qos ≠ 2 := by simpa [ofHandshake] using h
    simp [forthOf, backOf, hqos]
  | ack header j =>
    simp only [ofHandshake, List.mem_cons, List.not_mem_nil, or_false, decide_eq_false_iff_not,
      not_or] at h
    simp [forthOf, backOf, h.1, h.2.1, h.2.2]
  | _ => exact ⟨rfl, rfl⟩

/-- **The broker publishes.** -/
theorem simulates_offer (P : Prop) {j : ℕ} (hidle : s.phase j = .idle) (a : Message) :
    Simulates P i s { s with
      phase := Function.update s.phase j (.offering a)
      offered := Function.update s.offered j (s.offered j ++ [a])
      down := s.down ++ [brokerPublish j a false] } := by
  refine simulates_broker P rfl (fun held => ?_) fun phase => ?_
  · by_cases hi : j = i
    · subst hi
      have hoffer := Handshake.Step.offer (inbound j s held) a hidle
      refine .single ?_
      simpa [inbound, recvEnd, forthOf, brokerPublish] using hoffer
    · have hforth : forthOf i (brokerPublish j a false) = none := by
        simp [forthOf, brokerPublish, hi]
      refine steps_lose ?_ rfl ?_ (List.Sublist.refl _) ?_ rfl
      all_goals simp [inbound, recvEnd, hforth, Function.update_of_ne (Ne.symm hi)]
  · refine steps_lose rfl rfl (List.Sublist.refl _) ?_ rfl rfl
    simp [outbound, sendEnd, backOf, brokerPublish]

/-- **The broker repeats.** -/
theorem simulates_again (P : Prop) (j : ℕ) (dup : Bool) :
    Simulates P i s { s with down := s.down ++ brokerAgain j dup (s.phase j) } := by
  refine simulates_broker P rfl (fun held => ?_) fun phase => ?_
  · by_cases hi : j = i
    · subst hi
      have hagain := Handshake.Step.again (inbound j s held)
      have hforth : (brokerAgain j dup (s.phase j)).filterMap (forthOf j) = (s.phase j).again := by
        rcases s.phase j with _ | a | a <;>
          simp [brokerAgain, brokerPublish, forthOf, ackPacket, Phase.again]
      refine .single ?_
      simpa [inbound, recvEnd, hforth] using hagain
    · have hforth : (brokerAgain j dup (s.phase j)).filterMap (forthOf i) = [] := by
        rcases s.phase j with _ | a | a <;>
          simp [brokerAgain, brokerPublish, forthOf, ackPacket, hi]
      refine steps_lose rfl rfl ?_ (List.Sublist.refl _) rfl rfl
      simp [inbound, recvEnd, hforth]
  · have hback : (brokerAgain j dup (s.phase j)).filterMap (backOf i) = [] := by
      rcases s.phase j with _ | a | a <;>
        simp [brokerAgain, brokerPublish, backOf, ackPacket]
    refine steps_lose rfl rfl (List.Sublist.refl _) ?_ rfl rfl
    simp [outbound, sendEnd, hback]

/-- What is on the way to the broker when it has read a packet. -/
theorem outgoing_read {β : Type} (f : Packet → Option β) {p : Packet} {net : List Packet}
    (hnet : c.net = p :: net) : (outgoing c).filterMap f
      = (f p).toList ++ (outgoing { c with net := net }).filterMap f := by
  rw [outgoing, hnet, List.cons_append, filterMap_cons_toList]
  rfl

/-- An acknowledgement that is none of a handshake. -/
theorem brokerReads_other {header : Header} (h1 : header.type ≠ .PUBREC) (h2 : header.type ≠ .PUBREL)
    (h3 : header.type ≠ .PUBCOMP) (j : ℕ) : s.brokerReads (.ack header j) = s := by
  unfold Session.brokerReads
  dsimp only
  split
  · next h => exact absurd h h1
  · next h => exact absurd h h2
  · next h => exact absurd h h3
  · rfl

/-- **The broker reads** as the sender: a confirmation, or nothing of this handshake. -/
theorem recv_read {p : Packet} {net : List Packet} (hnet : s.c.net = p :: net)
    (held : Option Message) : Moves (inbound i s held)
      (inbound i ({ s with c := { s.c with net := net } }.brokerReads p) held) := by
  have hback := outgoing_read (backOf i) hnet
  -- without a confirmation the packet is lost to this handshake
  have hskip : ∀ t : Session, t.c = { s.c with net := net } → t.phase i = s.phase i →
      t.offered = s.offered → t.down.filterMap (forthOf i) = s.down.filterMap (forthOf i) →
      Moves (inbound i s held) (inbound i t held) := by
    intro t hc hphase hoffered hdown
    refine steps_lose hphase rfl ?_ ?_ (congrFun hoffered i) ?_
    · simp [inbound, recvEnd, hdown]
    · simp [inbound, recvEnd, hback, hc]
    · simp [inbound, recvEnd, hc, arrivedOf]
  cases p with
  | publish publish =>
    unfold Session.brokerReads
    dsimp only
    split_ifs
    · refine hskip _ rfl rfl rfl ?_
      simp [List.filterMap_append, forthOf_ackPacket]
    · exact hskip _ rfl rfl rfl rfl
  | ack header j =>
    by_cases h1 : header.type = .PUBREC
    · simp only [Session.brokerReads, h1]
      by_cases hi : j = i
      · subst hi
        have hheld := Handshake.Step.held (inbound j s held)
          ((outgoing { s.c with net := net }).filterMap (backOf j))
          (hback.trans (by simp [backOf, h1]))
        refine .single ?_
        simpa [inbound, recvEnd, forthOf_ackPacket, arrivedOf] using hheld
      · refine hskip _ rfl (Function.update_of_ne (Ne.symm hi) _ _) rfl ?_
        simp [List.filterMap_append, forthOf_ackPacket, hi]
    · by_cases h3 : header.type = .PUBCOMP
      · simp only [Session.brokerReads, h3]
        by_cases hi : j = i
        · subst hi
          have hreleased := Handshake.Step.released (inbound j s held)
            ((outgoing { s.c with net := net }).filterMap (backOf j))
            (hback.trans (by simp [backOf, h3]))
          refine .single ?_
          simpa [inbound, recvEnd, arrivedOf] using hreleased
        · exact hskip _ rfl (Function.update_of_ne (Ne.symm hi) _ _) rfl rfl
      · by_cases h2 : header.type = .PUBREL
        · simp only [Session.brokerReads, h2]
          refine hskip _ rfl rfl rfl ?_
          simp [List.filterMap_append, forthOf_ackPacket]
        · rw [brokerReads_other h1 h2 h3]
          exact hskip _ rfl rfl rfl rfl
  | _ => exact hskip _ rfl rfl rfl rfl

/-- **The broker reads** as the receiver: a message, a release, or nothing of this handshake. -/
theorem send_read {p : Packet} {net : List Packet} (hnet : s.c.net = p :: net)
    (phase : Phase Message) : Moves (outbound i s phase)
      (outbound i ({ s with c := { s.c with net := net } }.brokerReads p) phase) := by
  have hforth := outgoing_read (forthOf i) hnet
  have hskip : ∀ t : Session, t.c = { s.c with net := net } → t.held i = s.held i →
      t.received i = s.received i → t.down.filterMap (backOf i) = s.down.filterMap (backOf i) →
      Moves (outbound i s phase) (outbound i t phase) := by
    intro t hc hheld hreceived hdown
    refine steps_lose rfl hheld ?_ ?_ ?_ hreceived
    · simp [outbound, sendEnd, hforth, hc]
    · simp [outbound, sendEnd, hdown]
    · simp [outbound, sendEnd, hc, startedOf, processed]
  cases p with
  | publish publish =>
    unfold Session.brokerReads
    dsimp only
    split_ifs with hqos
    · by_cases hi : publish.msgId = i
      · subst hi
        have hitem := Handshake.Step.item (outbound publish.msgId s phase)
          ⟨publish.topic, publish.payload, publish.header.retain⟩
          ((outgoing { s.c with net := net }).filterMap (forthOf publish.msgId))
          (hforth.trans (by simp [forthOf, hqos]))
        refine .single ?_
        simpa [outbound, sendEnd, backOf_ackPacket, startedOf, processed] using hitem
      · refine hskip _ rfl (Function.update_of_ne (Ne.symm hi) _ _) rfl ?_
        simp [List.filterMap_append, backOf_ackPacket, hi]
    · exact hskip _ rfl rfl rfl rfl
  | ack header j =>
    by_cases h2 : header.type = .PUBREL
    · simp only [Session.brokerReads, h2]
      by_cases hi : j = i
      · subst hi
        have hrelease := Handshake.Step.release (outbound j s phase)
          ((outgoing { s.c with net := net }).filterMap (forthOf j))
          (hforth.trans (by simp [forthOf, h2]))
        refine .single ?_
        simpa [outbound, sendEnd, backOf_ackPacket, startedOf, processed] using hrelease
      · refine hskip _ rfl (Function.update_of_ne (Ne.symm hi) _ _)
          (Function.update_of_ne (Ne.symm hi) _ _) ?_
        simp [List.filterMap_append, backOf_ackPacket, hi]
    · by_cases h1 : header.type = .PUBREC
      · simp only [Session.brokerReads, h1]
        refine hskip _ rfl rfl rfl ?_
        simp [List.filterMap_append, backOf_ackPacket]
      · by_cases h3 : header.type = .PUBCOMP
        · simp only [Session.brokerReads, h3]
          exact hskip _ rfl rfl rfl rfl
        · rw [brokerReads_other h1 h2 h3]
          exact hskip _ rfl rfl rfl rfl
  | _ => exact hskip _ rfl rfl rfl rfl

/-- The broker reads; what the client keeps stays. -/
theorem simulates_read (P : Prop) {p : Packet} {net : List Packet} (hnet : s.c.net = p :: net) :
    Simulates P i s ({ s with c := { s.c with net := net } }.brokerReads p) := by
  have hc := brokerReads_c { s with c := { s.c with net := net } } p
  constructor
  · intro held hheld
    exact ⟨held, hc ▸ hheld, movesIf_of_moves (recv_read hnet held) P⟩
  · intro phase hphase
    exact ⟨phase, hc ▸ hphase, movesIf_of_moves (send_read hnet phase) P⟩

/-- What else the broker sends. -/
theorem simulates_other (P : Prop) {p : Packet} (hp : ofHandshake p = false) :
    Simulates P i s { s with down := s.down ++ [p] } := by
  obtain ⟨hforth, hback⟩ := not_ofHandshake hp i
  refine simulates_broker P rfl (fun held => ?_) fun phase => ?_
  · refine steps_lose rfl rfl ?_ (List.Sublist.refl _) rfl rfl
    simp [inbound, recvEnd, hforth]
  · refine steps_lose rfl rfl (List.Sublist.refl _) ?_ rfl rfl
    simp [outbound, sendEnd, hback]

/-- **A new connection**: both ways are empty; both ends keep the session, or forget it. -/
theorem simulates_resumed (h : Inv s.c) (hqueue : s.c.outboundQueue = [])
    (sessionPresent : Bool) :
    Inv (resumed (s.reconnect sessionPresent).c sessionPresent) ∧
    (resumed (s.reconnect sessionPresent).c sessionPresent).connected = true ∧
    Simulates (s.keeps sessionPresent = false) i s { s.reconnect sessionPresent with
      c := resumed (s.reconnect sessionPresent).c sessionPresent } := by
  have hinv : Inv { s.c with net := [] } :=
    ⟨h.outstanding.congr rfl, fun _ hne => absurd hqueue hne, h.queued⟩
  have hresumed := outstanding_resumed hinv.outstanding sessionPresent
  rcases hkeeps : s.keeps sessionPresent with _ | _
  · have hclean : (s.c.cleansession || !sessionPresent) = true := by
      rcases hcs : s.c.cleansession with _ | _
      · simpa [Session.keeps, hcs] using hkeeps
      · rfl
    have hreconnect : s.reconnect sessionPresent = { s with
        c := { s.c with net := [] }, down := [], phase := fun _ => .idle, held := fun _ => none } :=
      if_neg (by simp [hkeeps])
    have hc : resumed { s.c with net := [] } sessionPresent
        = MQTTAsync_cleanSession { s.c with net := [], connected := true } := if_pos hclean
    rw [hreconnect]
    dsimp only
    rw [hc] at hresumed ⊢
    refine ⟨⟨hresumed, fun _ hne => absurd hqueue hne, h.queued⟩, rfl, ?_, ?_⟩
    · intro held hheld
      refine ⟨none, fun _ => rfl, .single (Or.inr ⟨rfl, ?_⟩)⟩
      simp [inbound, recvEnd, outgoing, hqueue, arrivedOf, Exchange.reset, MQTTAsync_cleanSession]
    · intro phase hphase
      refine ⟨.idle, fun _ => rfl, .single (Or.inr ⟨rfl, ?_⟩)⟩
      simp [outbound, sendEnd, outgoing, hqueue, startedOf, processed, Exchange.reset,
        MQTTAsync_cleanSession]
  · obtain ⟨hclean, hpresent⟩ : s.c.cleansession = false ∧ sessionPresent = true := by
      simpa [Session.keeps] using hkeeps
    have hreconnect : s.reconnect sessionPresent
        = { s with c := { s.c with net := [] }, down := [] } := if_pos hkeeps
    have hc : resumed { s.c with net := [] } sessionPresent
        = { s.c with net := [], connected := true } := if_neg (by simp [hclean, hpresent])
    rw [hreconnect]
    dsimp only
    rw [hc] at hresumed ⊢
    refine ⟨⟨hresumed, fun _ hne => absurd hqueue hne, h.queued⟩, rfl, ?_, ?_⟩
    · intro held hheld
      refine ⟨held, fun _ => hheld (Or.inr hclean), movesIf_of_moves ?_ _⟩
      refine steps_lose rfl rfl ?_ ?_ rfl rfl
      · simp [inbound, recvEnd]
      · simp [inbound, recvEnd, outgoing, hqueue]
    · intro phase hphase
      refine ⟨phase, fun _ => hphase (Or.inr hclean), movesIf_of_moves ?_ _⟩
      refine steps_lose rfl rfl ?_ ?_ rfl rfl
      · simp [outbound, sendEnd, outgoing, hqueue]
      · simp [outbound, sendEnd]

/-- After retries the session may have been closed. -/
theorem acts_of_retried (h : Inv c) (hc : c.connected = true) (hretried : Retried c c')
    {more_to_try : Bool} {answer : CompletionCode}
    (hcases : c'' = c' ∨ c'' = nextOrClose c' more_to_try answer) : Acts i c c'' := by
  have hacts := acts_retried (i := i) h hc hretried
  rcases hcases with rfl | rfl
  · exact hacts
  · exact hacts.trans (acts_close hacts.inv more_to_try answer)

/-- Without a connection nothing is repeated. -/
theorem retryOrClose_disconnected (hc : c.connected = false) (now : ℕ) (doRetry regardless more_to_try : Bool)
    (answers : List CompletionCode) (answer : CompletionCode) :
    retryOrClose now c doRetry regardless more_to_try answers answer = c := by
  simp [retryOrClose, MQTTProtocol_retry, hc]

/-- **One step of the system** is a number of steps of both handshakes of each id; only a connection
that does not keep the session makes their ends forget. -/
theorem simulates_step {e : Event} (h : Inv s.c) (hq : QueueEmpty s e) (hs : Broker.Step s e t) :
    Inv t.c ∧ ∀ i, Simulates (¬Keeps s e) i s t := by
  unfold Broker.Step at hs
  -- a step of the client alone
  have hacts : ∀ c', (∀ i, Acts i s.c c') → Inv c' ∧
      ∀ i, Simulates (¬Keeps s e) i s { s with c := c' } :=
    fun c' hc' => ⟨(hc' 0).inv, fun i => simulates_acts _ (hc' i)⟩
  cases e with
  | send others destinationName payload qos retained =>
    obtain ⟨⟨rc, c⟩, hsend, rfl⟩ := Option.map_eq_some_iff.mp hs
    exact hacts c fun _ => acts_send h hsend
  | processCommand now answer =>
    obtain rfl := Option.some.inj hs
    exact hacts _ fun _ => acts_processCommand h now answer
  | receive now accepts answer =>
    rcases hdown : s.down with _ | ⟨p, down⟩
    · simp [Session.step, hdown] at hs
    · simp only [Session.step, hdown] at hs
      split_ifs at hs with hc
      obtain rfl := Option.some.inj hs
      obtain ⟨hready, hcommands, haccepted⟩ :=
        cycle_keeps (h.ready hc) h.outstanding p now accepts answer
      refine ⟨⟨outstanding_cycle h.outstanding p now accepts answer, fun _ => hready, ?_⟩,
        fun i => simulates_cycle _ h hc hdown now accepts answer⟩
      rw [hcommands, haccepted]
      exact h.queued
  | writeComplete answers =>
    simp only [Session.step] at hs
    split_ifs at hs
    obtain rfl := Option.some.inj hs
    exact hacts _ fun _ => acts_writeComplete h answers
  | retry now doRetry more_to_try answers answer =>
    obtain rfl := Option.some.inj hs
    rcases hc : s.c.connected with _ | _
    · rw [retryOrClose_disconnected hc]
      exact hacts s.c fun _ => acts_refl h
    · obtain ⟨c', hretried, hcases⟩ :=
        retryOrClose_cases now s.c doRetry false more_to_try answers answer
      exact hacts _ fun _ => acts_of_retried h hc hretried hcases
  | ping answer =>
    simp only [Session.step] at hs
    split_ifs at hs with hc
    obtain rfl := Option.some.inj hs
    exact hacts _ fun _ => acts_put h hc rfl rfl answer
  | deliver accepts =>
    obtain rfl := Option.some.inj hs
    exact hacts _ fun _ => acts_deliver h accepts
  | close more_to_try answer =>
    obtain rfl := Option.some.inj hs
    exact hacts _ fun _ => acts_close h more_to_try answer
  | connect sessionPresent more_to_try answers answer =>
    simp only [Session.step] at hs
    split_ifs at hs
    obtain rfl := Option.some.inj hs
    obtain ⟨c', hretried, hcases⟩ := completeConnection_cases (s.reconnect sessionPresent).c
      sessionPresent more_to_try answers answer
    have hresumed := fun i => simulates_resumed (i := i) h hq sessionPresent
    obtain ⟨hinv, hc, -⟩ := hresumed 0
    have hacts' := fun i => acts_of_retried (i := i) hinv hc hretried hcases
    have hkeeps : (s.keeps sessionPresent = false) =
        ¬Keeps s (.connect sessionPresent more_to_try answers answer) := by
      simp [Keeps]
    refine ⟨(hacts' 0).inv, fun i => ?_⟩
    rw [← hkeeps]
    exact (hresumed i).2.2.trans (simulates_acts _ (hacts' i))
  | offer j a =>
    simp only [Session.step] at hs
    split at hs
    · next hidle =>
      obtain rfl := Option.some.inj hs
      exact ⟨h, fun i => simulates_offer _ hidle a⟩
    · cases hs
  | again j dup =>
    obtain rfl := Option.some.inj hs
    exact ⟨h, fun i => simulates_again _ j dup⟩
  | read =>
    rcases hnet : s.c.net with _ | ⟨p, net⟩
    · simp [Session.step, hnet] at hs
    · simp only [Session.step, hnet, Option.some.injEq] at hs
      subst hs
      refine ⟨?_, fun i => simulates_read _ hnet⟩
      rw [brokerReads_c]
      exact ⟨h.outstanding.congr rfl, h.ready, h.queued⟩
  | other p =>
    simp only [Session.step] at hs
    split_ifs at hs with hp
    obtain rfl := Option.some.inj hs
    exact ⟨h, fun i => simulates_other _ (by simpa using hp)⟩

end LanternProject.Mqtt.Simulation
