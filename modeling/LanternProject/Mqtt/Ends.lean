import LanternProject.Mqtt.InFlight

/-! # The two handshakes of a message id

Under each message id, a client and its broker carry out two handshakes of quality of service 2: one
in which the broker is the sender, one in which the client is. The client's end of the first is the
message it keeps in `inboundMsgs`, that of the second the one in `outboundMsgs`. Here is what its
packets and its state are for both, and that a step that does not concern an end leaves it alone. -/

namespace LanternProject.Mqtt.Ends

open LanternProject.Lib LanternProject.Lib.Runs LanternProject.Lib.Handshake
open LanternProject.Mqtt.MQTTPacket LanternProject.Mqtt.SocketBuffer
open LanternProject.Mqtt.MQTTProtocolClient LanternProject.Mqtt.MQTTAsync
open LanternProject.Mqtt.Broker LanternProject.Mqtt.Effects LanternProject.Mqtt.InFlight

/-! ### The two handshakes of an id -/

/-- A packet as what a sender sends under the id `i`. -/
def forthOf (i : ℕ) : Packet → Option (Forth Message)
  | .publish publish =>
    if publish.header.qos = 2 ∧ publish.msgId = i then
      some (.item ⟨publish.topic, publish.payload, publish.header.retain⟩)
    else none
  | .ack header msgId => if header.type = .PUBREL ∧ msgId = i then some .release else none
  | _ => none

/-- A packet as what a receiver sends under the id `i`. -/
def backOf (i : ℕ) : Packet → Option Back
  | .ack header msgId =>
    if msgId = i then
      if header.type = .PUBREC then some .held
      else if header.type = .PUBCOMP then some .released
      else none
    else none
  | _ => none

/-- What a message says. -/
def content (m : Messages) : Message := ⟨m.publish.topic, m.publish.payload, m.retain⟩

/-- Where a message is as that of a sender. -/
def phase (m : Messages) : Phase Message :=
  if m.qos = 2 then
    if m.nextMessageType = some .PUBREC then .offering (content m) else .releasing (content m)
  else .idle

/-- Where the client is as the sender. -/
def phaseOf (msgs : List Messages) (i : ℕ) : Phase Message :=
  ((findMsg msgs i).map phase).getD .idle

/-- What the client holds as the receiver. -/
def heldOf (msgs : List Messages) (i : ℕ) : Option Message := (findMsg msgs i).map content

/-- A message for the application that came under the id `i`. -/
def entryOf (i : ℕ) (qe : qEntry) : Option Message :=
  if qe.qos = 2 ∧ qe.msgid = i then some ⟨qe.topicName, qe.payload, qe.retained⟩ else none

/-- What has arrived for the application. -/
def arrivedOf (c : Clients) (i : ℕ) : List Message :=
  (c.delivered ++ c.messageQueue).filterMap (entryOf i)

/-- A command to publish under the id `i`. -/
def commandOf (i : ℕ) (command : MQTTAsync_command) : Option Message :=
  if command.qos = 2 ∧ command.token = i then
    some ⟨command.destinationName, command.payload, command.retained⟩
  else none

/-- The accepted commands that have been processed. -/
def processed (c : Clients) : List MQTTAsync_command :=
  c.accepted.take (c.accepted.length - c.commands.length)

/-- What the client has been given to send, and has started to send. -/
def startedOf (c : Clients) (i : ℕ) : List Message := (processed c).filterMap (commandOf i)

/-- The client still has its end of the session. -/
def Live (c : Clients) : Prop := c.connected = true ∨ c.cleansession = false

/-- The handshake with the client as the receiver. -/
def recvEnd (i : ℕ) (c : Clients) (phase : Phase Message) (forth : List (Forth Message))
    (offered : List Message) (held : Option Message) : Exchange Message :=
  ⟨phase, held, forth, (outgoing c).filterMap (backOf i), offered, arrivedOf c i⟩

/-- The handshake with the client as the sender. -/
def sendEnd (i : ℕ) (c : Clients) (held : Option Message) (back : List Back)
    (received : List Message) (phase : Phase Message) : Exchange Message :=
  ⟨phase, held, (outgoing c).filterMap (forthOf i), back, startedOf c i, received⟩

abbrev Moves : Exchange Message → Exchange Message → Prop :=
  Relation.ReflTransGen Handshake.Step

/-- The client takes steps of the receiver, while it reads `forth` up to `forth'`. -/
def RecvMoves (i : ℕ) (c c' : Clients) (forth forth' : List (Forth Message)) : Prop :=
  ∀ phase offered held, (Live c → held = heldOf c.inboundMsgs i) →
    ∃ held', (Live c' → held' = heldOf c'.inboundMsgs i) ∧
      Moves (recvEnd i c phase forth offered held) (recvEnd i c' phase forth' offered held')

/-- The client takes steps of the sender, while it reads `back` up to `back'`. -/
def SendMoves (i : ℕ) (c c' : Clients) (back back' : List Back) : Prop :=
  ∀ held received phase, (Live c → phase = phaseOf c.outboundMsgs i) →
    ∃ phase', (Live c' → phase' = phaseOf c'.outboundMsgs i) ∧
      Moves (sendEnd i c held back received phase) (sendEnd i c' held back' received phase')

variable {i : ℕ} {c c' c'' : Clients}

theorem RecvMoves.trans {F F' F'' : List (Forth Message)} (h : RecvMoves i c c' F F')
    (h' : RecvMoves i c' c'' F' F'') : RecvMoves i c c'' F F'' := by
  intro phase offered held hheld
  obtain ⟨held', hheld', hmoves⟩ := h phase offered held hheld
  obtain ⟨held'', hheld'', hmoves'⟩ := h' phase offered held' hheld'
  exact ⟨held'', hheld'', hmoves.trans hmoves'⟩

theorem SendMoves.trans {B B' B'' : List Back} (h : SendMoves i c c' B B')
    (h' : SendMoves i c' c'' B' B'') : SendMoves i c c'' B B'' := by
  intro held received phase hphase
  obtain ⟨phase', hphase', hmoves⟩ := h held received phase hphase
  obtain ⟨phase'', hphase'', hmoves'⟩ := h' held received phase' hphase'
  exact ⟨phase'', hphase'', hmoves.trans hmoves'⟩

/-! ### What touches one end leaves the other alone -/

/-- What the client keeps as the receiver. -/
def recvPart (c : Clients) : Bool × Bool × List Messages × List qEntry :=
  (c.connected, c.cleansession, c.inboundMsgs, c.delivered ++ c.messageQueue)

/-- What the client keeps as the sender. -/
def sendPart (c : Clients) :
    Bool × Bool × List Messages × List MQTTAsync_command × List MQTTAsync_command :=
  (c.connected, c.cleansession, c.outboundMsgs.map untouched, c.commands, c.accepted)

theorem recvPart_rest (c : Clients) : recvPart (rest c) = recvPart c := rfl

theorem sendPart_rest (c : Clients) : sendPart (rest c) = sendPart c := by
  simp [sendPart, rest, Function.comp_def, untouched]

theorem recvPart_of_rest (h : rest c' = rest c) : recvPart c' = recvPart c := by
  rw [← recvPart_rest c', h, recvPart_rest]

theorem sendPart_of_rest (h : rest c' = rest c) : sendPart c' = sendPart c := by
  rw [← sendPart_rest c', h, sendPart_rest]

/-- The time of a message does not matter. -/
theorem phaseOf_untouched (msgs : List Messages) (i : ℕ) :
    phaseOf (msgs.map untouched) i = phaseOf msgs i := by
  have hfind : findMsg (msgs.map untouched) i = (findMsg msgs i).map untouched := by
    simp only [findMsg, List.find?_map]
    rfl
  rw [phaseOf, hfind, Option.map_map]
  rfl

/-- A step that does not concern the receiver; answers may be lost. -/
theorem recv_same {F F' : List (Forth Message)} (hconnected : c'.connected = c.connected)
    (hclean : c'.cleansession = c.cleansession)
    (hheld' : heldOf c'.inboundMsgs i = heldOf c.inboundMsgs i)
    (harrived : arrivedOf c' i = arrivedOf c i)
    (hback : ((outgoing c').filterMap (backOf i)).Sublist ((outgoing c).filterMap (backOf i)))
    (hforth : F'.Sublist F) : RecvMoves i c c' F F' := by
  intro phase offered held hheld
  refine ⟨held, ?_, steps_lose rfl rfl hforth hback rfl harrived⟩
  unfold Live
  rw [hconnected, hclean, hheld']
  exact hheld

/-- A step that does not concern the sender. -/
theorem send_same {B B' : List Back} (hconnected : c'.connected = c.connected)
    (hclean : c'.cleansession = c.cleansession)
    (hphase' : phaseOf c'.outboundMsgs i = phaseOf c.outboundMsgs i)
    (hstarted : startedOf c' i = startedOf c i)
    (hforth : ((outgoing c').filterMap (forthOf i)).Sublist ((outgoing c).filterMap (forthOf i)))
    (hback : B'.Sublist B) : SendMoves i c c' B B' := by
  intro held received phase hphase
  refine ⟨phase, ?_, steps_lose rfl rfl hforth hback hstarted rfl⟩
  unfold Live
  rw [hconnected, hclean, hphase']
  exact hphase

theorem recv_of_rest {F F' : List (Forth Message)} (h : rest c' = rest c)
    (hback : ((outgoing c').filterMap (backOf i)).Sublist ((outgoing c).filterMap (backOf i)))
    (hforth : F'.Sublist F) : RecvMoves i c c' F F' := by
  have hpart := recvPart_of_rest h
  simp only [recvPart, Prod.mk.injEq] at hpart
  obtain ⟨hconnected, hclean, hmsgs, harrived⟩ := hpart
  exact recv_same hconnected hclean (by rw [hmsgs]) (by rw [arrivedOf, harrived, arrivedOf]) hback
    hforth

theorem send_of_part {B B' : List Back} (h : sendPart c' = sendPart c)
    (hforth : ((outgoing c').filterMap (forthOf i)).Sublist ((outgoing c).filterMap (forthOf i)))
    (hback : B'.Sublist B) : SendMoves i c c' B B' := by
  simp only [sendPart, Prod.mk.injEq] at h
  obtain ⟨hconnected, hclean, hmsgs, hcommands, haccepted⟩ := h
  refine send_same hconnected hclean ?_ ?_ hforth hback
  · rw [← phaseOf_untouched, hmsgs, phaseOf_untouched]
  · rw [startedOf, processed, hcommands, haccepted, startedOf, processed]

/-- What a packet is for the receiver, if it is sent. -/
theorem back_extends {p : Packet} (h : Extends p c c') (i : ℕ) :
    ((outgoing c').filterMap (backOf i)).Sublist
      ((outgoing c).filterMap (backOf i) ++ (backOf i p).toList) := by
  obtain ⟨-, l, hl, hcases⟩ := h
  rw [hl, List.filterMap_append]
  refine List.Sublist.append_left ?_ _
  rcases hcases with rfl | rfl
  · simp
  · rcases hback : backOf i p with _ | b <;> simp [hback]

/-- What a packet is for the sender, if it is sent. -/
theorem forth_extends {p : Packet} (h : Extends p c c') (i : ℕ) :
    ((outgoing c').filterMap (forthOf i)).Sublist
      ((outgoing c).filterMap (forthOf i) ++ (forthOf i p).toList) := by
  obtain ⟨-, l, hl, hcases⟩ := h
  rw [hl, List.filterMap_append]
  refine List.Sublist.append_left ?_ _
  rcases hcases with rfl | rfl
  · simp
  · rcases hforth : forthOf i p with _ | b <;> simp [hforth]

theorem backOf_ackPacket (type : msgTypes) (i j : ℕ) : backOf i (ackPacket type j) =
    if j = i then
      if type = .PUBREC then some .held else if type = .PUBCOMP then some .released else none
    else none := rfl

theorem forthOf_ackPacket (type : msgTypes) (i j : ℕ) : forthOf i (ackPacket type j) =
    if type = .PUBREL ∧ j = i then some .release else none := rfl

theorem forthOf_publishPacket (m : Messages) (dup : Bool) (i : ℕ) :
    forthOf i (publishPacket m dup) =
      if m.qos = 2 ∧ m.msgid = i then some (.item (content m)) else none := rfl

theorem outgoing_processPublication (c : Clients) (publish : Publish) (accepts : Bool) :
    outgoing (Protocol_processPublication c publish accepts) = outgoing c ∧
      (Ready c → Ready (Protocol_processPublication c publish accepts)) ∧
      sendPart (Protocol_processPublication c publish accepts) = sendPart c := by
  rcases processPublication_cases c publish accepts with ⟨-, h⟩ | h
  · rw [h]
    exact ⟨rfl, id, rfl⟩
  · rw [h]
    exact ⟨rfl, id, rfl⟩

/-- The commands that have been processed are the first ones of those accepted. -/
theorem processed_eq {l : List MQTTAsync_command} (h : c.accepted = l ++ c.commands) :
    processed c = l := by
  rw [processed, h, List.length_append, Nat.add_sub_cancel_right, List.take_left]

/-- The commands that have been processed and those that wait are the ones accepted. -/
theorem startedOf_append (h : c.commands <:+ c.accepted) (i : ℕ) :
    startedOf c i ++ c.commands.filterMap (commandOf i) = c.accepted.filterMap (commandOf i) := by
  obtain ⟨l, hl⟩ := h
  rw [startedOf, processed_eq hl.symm, ← List.filterMap_append, hl]

end LanternProject.Mqtt.Ends
