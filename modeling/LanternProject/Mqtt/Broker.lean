import LanternProject.Lib.Handshake
import LanternProject.Lib.Runs
import LanternProject.Mqtt.MQTTAsync

/-! # A client and its broker

The system: a client, the packets under way between it and the broker, and a broker that keeps the
rules of quality of service 2. Under each message id the broker is the sender of one handshake and
the receiver of another one; what else it sends is arbitrary. A connection carries packets in order.
When it is lost the broker may still read what is under way; with the next one both ways are empty.

The session is kept from one connection to the next if the client does not ask for a clean one and
the broker still has it; otherwise both ends forget it. -/

namespace LanternProject.Mqtt.Broker

open LanternProject.Lib.Handshake LanternProject.Lib.Runs
open LanternProject.Mqtt.MQTTPacket LanternProject.Mqtt.SocketBuffer
open LanternProject.Mqtt.MQTTProtocolClient LanternProject.Mqtt.MQTTAsync

/-- What the parties of an exchange care about. -/
structure Message where
  topic : Bytes
  payload : Bytes
  retained : Bool
deriving DecidableEq, Repr

/-- The client, what is under way to it, and the broker: by message id, where its handshakes as the
sender are, what it was given to send, what it holds as the receiver, what it has passed on. -/
structure Session where
  c : Clients
  down : List Packet
  phase : ℕ → Phase Message
  offered : ℕ → List Message
  held : ℕ → Option Message
  received : ℕ → List Message

/-- A client that is connected for the first time. -/
def Clients.initial (cleansession : Bool) (retryInterval maxInflightMessages : ℕ)
    (maxBufferedMessages : ℤ) : Clients where
  msgID := 0
  connected := true
  cleansession := cleansession
  retryInterval := retryInterval
  connect_count := 0
  connect_sent := 0
  maxInflightMessages := maxInflightMessages
  inboundMsgs := []
  outboundMsgs := []
  messageQueue := []
  outboundQueue := []
  commands := []
  responses := []
  noBufferedMessages := 0
  maxBufferedMessages := maxBufferedMessages
  pendingWrites := false
  net := []
  delivered := []
  accepted := []

/-- A first connection. -/
def Session.initial (c : Clients) : Session :=
  ⟨c, [], fun _ => .idle, fun _ => [], fun _ => none, fun _ => []⟩

/-! ### The broker -/

/-- The broker publishes a message. -/
def brokerPublish (i : ℕ) (a : Message) (dup : Bool) : Packet :=
  .publish ⟨⟨.PUBLISH, dup, 2, a.retained⟩, a.topic, i, a.payload⟩

/-- What the broker repeats under an id. -/
def brokerAgain (i : ℕ) (dup : Bool) : Phase Message → List Packet
  | .idle => []
  | .offering a => [brokerPublish i a dup]
  | .releasing _ => [ackPacket .PUBREL i]

/-- The broker reads a packet of the client, and answers it. -/
def Session.brokerReads (s : Session) : Packet → Session
  | .publish publish =>
    if publish.header.qos = 2 then
      { s with
        held := Function.update s.held publish.msgId
          (some ⟨publish.topic, publish.payload, publish.header.retain⟩)
        down := s.down ++ [ackPacket .PUBREC publish.msgId] }
    else s
  | .ack header i =>
    match header.type with
    | .PUBREC =>
      { s with
        phase := Function.update s.phase i (s.phase i).confirm
        down := s.down ++ [ackPacket .PUBREL i] }
    | .PUBREL =>
      { s with
        received := Function.update s.received i (s.received i ++ (s.held i).toList)
        held := Function.update s.held i none
        down := s.down ++ [ackPacket .PUBCOMP i] }
    | .PUBCOMP => { s with phase := Function.update s.phase i (s.phase i).finish }
    | _ => s
  | _ => s

/-- A packet that belongs to a handshake. -/
def ofHandshake : Packet → Bool
  | .publish publish => publish.header.qos = 2
  | .ack header _ => header.type ∈ [msgTypes.PUBREC, .PUBREL, .PUBCOMP]
  | _ => false

/-! ### Steps -/

/-- The events: those of the client's application and threads, with the answers of the network and of
the callback, and those of the broker. -/
inductive Event where
  | send (others : ℕ → Bool) (destinationName payload : Bytes) (qos : ℤ) (retained : Bool)
  | processCommand (now : ℕ) (answer : CompletionCode)
  | receive (now : ℕ) (accepts : Bool) (answer : CompletionCode)
  | writeComplete (answers : List CompletionCode)
  | retry (now : ℕ) (doRetry more_to_try : Bool) (answers : List CompletionCode)
      (answer : CompletionCode)
  | ping (answer : CompletionCode)
  | deliver (accepts : Bool)
  | close (more_to_try : Bool) (answer : CompletionCode)
  | connect (sessionPresent more_to_try : Bool) (answers : List CompletionCode)
      (answer : CompletionCode)
  | offer (i : ℕ) (a : Message)
  | again (i : ℕ) (dup : Bool)
  | read
  | other (p : Packet)

/-- Whether both ends keep the session when they connect. -/
def Session.keeps (s : Session) (sessionPresent : Bool) : Bool :=
  !s.c.cleansession && sessionPresent

/-- Both ways are empty, and a broker that has no session for the client starts a new one. -/
def Session.reconnect (s : Session) (sessionPresent : Bool) : Session :=
  if s.keeps sessionPresent then { s with c := { s.c with net := [] }, down := [] }
  else
    { s with
      c := { s.c with net := [] }
      down := []
      phase := fun _ => .idle
      held := fun _ => none }

def Session.step (s : Session) : Event → Option Session
  | .send others destinationName payload qos retained =>
    (MQTTAsync_send s.c others destinationName payload qos retained).map fun r =>
      { s with c := r.2 }
  | .processCommand now answer => some { s with c := MQTTAsync_processCommand s.c now answer }
  | .receive now accepts answer =>
    match s.down with
    | [] => none
    | p :: down =>
      if s.c.connected then
        some { s with c := (MQTTAsync_cycle s.c p now accepts answer).2, down := down }
      else none
  | .writeComplete answers =>
    if s.c.connected ∧ s.c.pendingWrites then
      some { s with c := MQTTProtocol_writeAvailable { s.c with pendingWrites := false } answers }
    else none
  | .retry now doRetry more_to_try answers answer =>
    some { s with c := retryOrClose now s.c doRetry false more_to_try answers answer }
  | .ping answer =>
    if s.c.connected then
      some { s with c := (put s.c (.headerOnly ⟨.PINGREQ, false, 0, false⟩) answer).2 }
    else none
  | .deliver accepts => some { s with c := deliverQueued s.c accepts }
  | .close more_to_try answer => some { s with c := nextOrClose s.c more_to_try answer }
  | .connect sessionPresent more_to_try answers answer =>
    if s.c.connected then none
    else
      let s := s.reconnect sessionPresent
      some { s with
        c := MQTTAsync_completeConnection s.c sessionPresent more_to_try answers answer }
  | .offer i a =>
    match s.phase i with
    | .idle =>
      some { s with
        phase := Function.update s.phase i (.offering a)
        offered := Function.update s.offered i (s.offered i ++ [a])
        down := s.down ++ [brokerPublish i a false] }
    | _ => none
  | .again i dup => some { s with down := s.down ++ brokerAgain i dup (s.phase i) }
  | .read =>
    match s.c.net with
    | [] => none
    | p :: net => some ({ s with c := { s.c with net := net } }.brokerReads p)
  | .other p => if ofHandshake p then none else some { s with down := s.down ++ [p] }

def Step (s : Session) (e : Event) (t : Session) : Prop := s.step e = some t

/-- No answer is left in `outboundQueue` when a connection is made. Nothing empties the queue when the
connection before it is lost; what is left in it would be sent on the new one, after what is sent
there first. -/
def QueueEmpty (s : Session) : Event → Prop
  | .connect _ _ _ _ => s.c.outboundQueue = []
  | _ => True

/-- The session is never cleaned. -/
def Keeps (s : Session) : Event → Prop
  | .connect sessionPresent _ _ _ => s.keeps sessionPresent
  | _ => True

instance (s : Session) (e : Event) : Decidable (QueueEmpty s e) :=
  match e with
  | .connect _ _ _ _ => inferInstanceAs (Decidable (s.c.outboundQueue = []))
  | .send .. | .processCommand .. | .receive .. | .writeComplete .. | .retry .. | .ping ..
  | .deliver .. | .close .. | .offer .. | .again .. | .read | .other .. => .isTrue trivial

instance (s : Session) (e : Event) : Decidable (Keeps s e) :=
  match e with
  | .connect sessionPresent _ _ _ => inferInstanceAs (Decidable (s.keeps sessionPresent = true))
  | .send .. | .processCommand .. | .receive .. | .writeComplete .. | .retry .. | .ping ..
  | .deliver .. | .close .. | .offer .. | .again .. | .read | .other .. => .isTrue trivial

/-- A client that keeps its session. -/
def sampleStart : Session := Session.initial (Clients.initial false 0 10 100)

/-- A message each way under the id `1`. The connection is lost when the first one has been read, and
made again; another one is offered and not read. -/
def sampleRun : List Event :=
  [.offer 1 ⟨[97], [1], false⟩, .receive 0 true .TCPSOCKET_COMPLETE,
    .close false .TCPSOCKET_COMPLETE, .connect true false [] .TCPSOCKET_COMPLETE,
    .again 1 true, .receive 0 true .TCPSOCKET_COMPLETE, .read,
    .receive 0 true .TCPSOCKET_COMPLETE, .read,
    .send (fun _ => false) [98] [2] 2 false, .processCommand 0 .TCPSOCKET_INTERRUPTED, .read,
    .writeComplete [], .receive 0 true .TCPSOCKET_COMPLETE, .read,
    .offer 1 ⟨[97], [3], false⟩]

theorem run_sampleRun : ∃ tr s, Run Step sampleStart tr s ∧ tr.map Prod.snd = sampleRun ∧
    Along QueueEmpty tr ∧ Along Keeps tr := by
  obtain ⟨s, hs⟩ := Option.isSome_iff_exists.mp (show (sampleRun.foldlM (fun s e =>
    if QueueEmpty s e ∧ Keeps s e then s.step e else none) sampleStart).isSome from by
      decide +kernel)
  obtain ⟨tr, ⟨hr, hC⟩, htr⟩ := run_of_foldlM_along (fun _ _ _ h => h) sampleRun hs
  exact ⟨tr, s, hr, htr, fun p hp => (hC p hp).1, fun p hp => (hC p hp).2⟩

end LanternProject.Mqtt.Broker
