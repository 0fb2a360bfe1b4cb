import LanternProject.Mqtt.MessageIds
import LanternProject.Mqtt.SocketBuffer

/-! # The message exchanges of a client

A message of quality of service 1 or 2 is kept in `outboundMsgs` until its exchange is over, one of
quality 2 that arrives is kept in `inboundMsgs` until it is released. `MQTTProtocol_handle*` answer a
packet, `MQTTProtocol_retries` repeats what is under way.

A packet is given to the socket by `put`; the network's part is the completion code. Until the socket
has written all of a packet it takes no other one, and answers are kept in `outboundQueue`.
Persistence is not used, the version is 3.1.1. The callbacks `onSuccess` and `onFailure` of a command
are left out, and with them what a client keeps of commands of quality of service 0. -/

namespace LanternProject.Mqtt.MQTTProtocolClient

open LanternProject.Mqtt.MQTTPacket LanternProject.Mqtt.SocketBuffer LanternProject.Mqtt.MessageIds

/-- What is published. -/
structure Publications where
  topic : Bytes
  payload : Bytes
deriving DecidableEq, Repr

/-- A message under way; `nextMessageType` is not set for quality of service 1. -/
structure Messages where
  msgid : ℕ
  qos : Fin 4
  retain : Bool
  publish : Publications
  lastTouch : ℕ
  nextMessageType : Option msgTypes
deriving DecidableEq, Repr

/-- An answer that waits for the socket. -/
structure AckRequest where
  messageId : ℕ
  ackType : msgTypes
deriving DecidableEq, Repr

/-- A message for the application: an `MQTTAsync_message` and its topic. -/
structure qEntry where
  topicName : Bytes
  payload : Bytes
  qos : Fin 4
  retained : Bool
  dup : Bool
  msgid : ℕ
deriving DecidableEq, Repr

/-- A publish command of the application. -/
structure MQTTAsync_command where
  token : ℕ
  destinationName : Bytes
  payload : Bytes
  qos : Fin 4
  retained : Bool
deriving DecidableEq, Repr

/-- The client of the protocol and the `MQTTAsyncs` it belongs to. `pendingWrites` says whether its
socket still has part of a packet to write, `net` are the packets given to the socket that have not
been read at the other end. `delivered` are the messages the application has accepted, `accepted`
the commands it was allowed to give. -/
structure Clients where
  msgID : ℕ
  connected : Bool
  cleansession : Bool
  retryInterval : ℕ
  connect_count : ℕ
  connect_sent : ℕ
  maxInflightMessages : ℕ
  inboundMsgs : List Messages
  outboundMsgs : List Messages
  messageQueue : List qEntry
  outboundQueue : List AckRequest
  commands : List MQTTAsync_command
  responses : List MQTTAsync_command
  noBufferedMessages : ℤ
  maxBufferedMessages : ℤ
  pendingWrites : Bool
  net : List Packet
  delivered : List qEntry
  accepted : List MQTTAsync_command
deriving DecidableEq, Repr

/-! ### Giving packets to the socket -/

def Socket_noPendingWrites (c : Clients) : Bool := !c.pendingWrites

/-- A packet is given to the socket: it takes none while one is not written, it fails, or it takes
the packet and writes it at once or not. -/
def put (c : Clients) (p : Packet) (answer : CompletionCode) : CompletionCode × Clients :=
  if Socket_noPendingWrites c then
    match answer with
    | .SOCKET_ERROR => (.SOCKET_ERROR, c)
    | .TCPSOCKET_COMPLETE => (.TCPSOCKET_COMPLETE, { c with net := c.net ++ [p] })
    | .TCPSOCKET_INTERRUPTED =>
      (.TCPSOCKET_INTERRUPTED, { c with net := c.net ++ [p], pendingWrites := true })
  else (.SOCKET_ERROR, c)

/-- The packet `MQTTPacket_send_ack` sends. -/
def ackPacket (type : msgTypes) (msgid : ℕ) : Packet :=
  .ack ⟨type, false, if type = .PUBREL then 1 else 0, false⟩ msgid

/-- The packet `MQTTPacket_send_publish` sends for a message. -/
def publishPacket (m : Messages) (dup : Bool) : Packet :=
  .publish ⟨⟨.PUBLISH, dup, m.qos, m.retain⟩, m.publish.topic, m.msgid, m.publish.payload⟩

def MQTTProtocol_queueAck (c : Clients) (ackType : msgTypes) (msgId : ℕ) : Clients :=
  { c with outboundQueue := c.outboundQueue ++ [⟨msgId, ackType⟩] }

/-- How every handler ends: the answer is queued if the socket is busy and sent if not. -/
def answerAck (c : Clients) (type : msgTypes) (msgId : ℕ) (answer : CompletionCode) :
    CompletionCode × Clients :=
  if Socket_noPendingWrites c then put c (ackPacket type msgId) answer
  else (.TCPSOCKET_COMPLETE, MQTTProtocol_queueAck c type msgId)

/-- The loop of `MQTTProtocol_writeAvailable`, until a send is not complete. -/
def writeAvailableLoop : List AckRequest → List CompletionCode → Clients → Clients
  | [], _, c => c
  | ackReq :: queue, answers, c =>
    let (rc, c) := put c (ackPacket ackReq.ackType ackReq.messageId)
      (answers.headD .TCPSOCKET_COMPLETE)
    if rc = .TCPSOCKET_COMPLETE then writeAvailableLoop queue answers.tail c else c

/-- The socket has written everything: what was queued is sent, and what cannot be sent dropped. -/
def MQTTProtocol_writeAvailable (c : Clients) (answers : List CompletionCode) : Clients :=
  { writeAvailableLoop c.outboundQueue answers c with outboundQueue := [] }

/-! ### Messages by their id -/

/-- `ListFindItem` with `messageIDCompare`: the first message with an id. -/
def findMsg (msgs : List Messages) (msgid : ℕ) : Option Messages :=
  msgs.find? fun m => m.msgid = msgid

/-- `ListRemove` of the message found. -/
def removeMsg (msgs : List Messages) (msgid : ℕ) : List Messages :=
  msgs.eraseP fun m => m.msgid = msgid

/-- The message found is changed in place. -/
def updateMsg (f : Messages → Messages) (msgid : ℕ) : List Messages → List Messages
  | [] => []
  | m :: msgs => if m.msgid = msgid then f m :: msgs else m :: updateMsg f msgid msgs

/-- A message that arrives replaces the one with its id, or is appended. -/
def storeMsg (m : Messages) : List Messages → List Messages
  | [] => [m]
  | msg :: msgs => if msg.msgid = m.msgid then m :: msgs else msg :: storeMsg m msgs

/-! ### Publishing -/

/-- The message that is kept for a publish command. -/
def MQTTProtocol_createMessage (publish : MQTTAsync_command) (now : ℕ) : Messages :=
  ⟨publish.token, publish.qos, publish.retained, ⟨publish.destinationName, publish.payload⟩, now,
    if publish.qos = 2 then some .PUBREC else none⟩

/-- A message of quality of service 1 or 2 is kept until it is confirmed; it is sent. -/
def MQTTProtocol_startPublish (c : Clients) (publish : MQTTAsync_command) (now : ℕ)
    (answer : CompletionCode) : CompletionCode × Clients :=
  let m := MQTTProtocol_createMessage publish now
  let outboundMsgs := if 0 < publish.qos then c.outboundMsgs ++ [m] else c.outboundMsgs
  put { c with outboundMsgs := outboundMsgs } (publishPacket m false) answer

/-! ### Packets that arrive -/

/-- The message the application gets; one of quality of service 2 is never marked as a duplicate. -/
def arrivedMessage (publish : Publish) : qEntry :=
  ⟨publish.topic, publish.payload, publish.header.qos, publish.header.retain,
    if publish.header.qos = 2 then false else publish.header.dup, publish.msgId⟩

/-- A message is handed to the application, or queued if the application refuses it or others wait
already; `accepts` is what the callback returns. -/
def Protocol_processPublication (c : Clients) (publish : Publish) (accepts : Bool) : Clients :=
  let mm := arrivedMessage publish
  if c.messageQueue = [] ∧ c.connected ∧ accepts then { c with delivered := c.delivered ++ [mm] }
  else { c with messageQueue := c.messageQueue ++ [mm] }

/-- The message that is kept for a publication until it is released. -/
def receivedMessage (publish : Publish) : Messages :=
  ⟨publish.msgId, publish.header.qos, publish.header.retain, ⟨publish.topic, publish.payload⟩, 0,
    some .PUBREL⟩

def MQTTProtocol_handlePublishes (c : Clients) (publish : Publish) (accepts : Bool)
    (answer : CompletionCode) : CompletionCode × Clients :=
  if publish.header.qos = 0 then
    (.TCPSOCKET_COMPLETE, Protocol_processPublication c publish accepts)
  else if publish.header.qos = 1 then
    answerAck (Protocol_processPublication c publish accepts) .PUBACK publish.msgId answer
  else if publish.header.qos = 2 then
    answerAck { c with inboundMsgs := storeMsg (receivedMessage publish) c.inboundMsgs } .PUBREC
      publish.msgId answer
  else (.TCPSOCKET_COMPLETE, c)

def MQTTProtocol_handlePubacks (c : Clients) (msgId : ℕ) : CompletionCode × Clients :=
  match findMsg c.outboundMsgs msgId with
  | none => (.TCPSOCKET_COMPLETE, c)
  | some m =>
    if m.qos = 1 then
      (.TCPSOCKET_COMPLETE, { c with outboundMsgs := removeMsg c.outboundMsgs msgId })
    else (.TCPSOCKET_COMPLETE, c)

/-- The change `MQTTProtocol_handlePubrecs` makes to a message. -/
def released (now : ℕ) (m : Messages) : Messages :=
  { m with nextMessageType := some .PUBCOMP, lastTouch := now }

/-- A `PUBREL` is sent whatever was found. -/
def MQTTProtocol_handlePubrecs (c : Clients) (msgId : ℕ) (now : ℕ) (answer : CompletionCode) :
    CompletionCode × Clients :=
  let c :=
    match findMsg c.outboundMsgs msgId with
    | none => c
    | some m =>
      if m.qos = 2 ∧ m.nextMessageType = some .PUBREC then
        { c with outboundMsgs := updateMsg (released now) msgId c.outboundMsgs }
      else c
  answerAck c .PUBREL msgId answer

/-- A `PUBCOMP` is sent whatever was found. -/
def MQTTProtocol_handlePubrels (c : Clients) (msgId : ℕ) (accepts : Bool)
    (answer : CompletionCode) : CompletionCode × Clients :=
  let c :=
    match findMsg c.inboundMsgs msgId with
    | none => c
    | some m =>
      if m.qos = 2 ∧ m.nextMessageType = some .PUBREL then
        let publish : Publish :=
          ⟨⟨.RESERVED, false, m.qos, m.retain⟩, m.publish.topic, m.msgid, m.publish.payload⟩
        let c := Protocol_processPublication c publish accepts
        { c with inboundMsgs := removeMsg c.inboundMsgs msgId }
      else c
  answerAck c .PUBCOMP msgId answer

def MQTTProtocol_handlePubcomps (c : Clients) (msgId : ℕ) : CompletionCode × Clients :=
  match findMsg c.outboundMsgs msgId with
  | none => (.TCPSOCKET_COMPLETE, c)
  | some m =>
    if m.qos = 2 ∧ m.nextMessageType = some .PUBCOMP then
      (.TCPSOCKET_COMPLETE, { c with outboundMsgs := removeMsg c.outboundMsgs msgId })
    else (.TCPSOCKET_COMPLETE, c)

/-! ### Retries -/

/-- A retry after a connect is counted. -/
def countRetry (regardless : Bool) (c : Clients) : Clients :=
  if regardless then { c with connect_sent := c.connect_sent + 1 } else c

/-- The body of the loop in `MQTTProtocol_retries`, for the message at place `k`. If a send fails, or
that of a `PUBREL` is not complete, the session is to be closed. -/
def retryMessage (now : ℕ) (regardless : Bool) (k : ℕ) (m : Messages) (answer : CompletionCode)
    (c : Clients) : Bool × Clients :=
  if regardless ∨ max c.retryInterval 10 * 1000 < now - m.lastTouch then
    let c := countRetry regardless c
    let touched := c.outboundMsgs.set k { m with lastTouch := now }
    if m.qos = 1 ∨ (m.qos = 2 ∧ m.nextMessageType = some .PUBREC) then
      let (rc, c) := put c (publishPacket m true) answer
      if rc = .SOCKET_ERROR then (true, c) else (false, { c with outboundMsgs := touched })
    else if 0 < m.qos ∧ m.nextMessageType = some .PUBCOMP then
      let (rc, c) := put c (ackPacket .PUBREL m.msgid) answer
      if rc = .TCPSOCKET_COMPLETE then (false, { c with outboundMsgs := touched }) else (true, c)
    else (false, c)
  else (false, c)

/-- The loop for the messages from place `k` on. It ends when the client is not connected any more or
a write is pending. -/
def retriesLoop (now : ℕ) (regardless : Bool) : ℕ → ℕ → List CompletionCode → Clients →
    Bool × Clients
  | 0, _, _, c => (false, c)
  | n + 1, k, answers, c =>
    if c.connected && Socket_noPendingWrites c then
      match c.outboundMsgs[k]? with
      | none => (false, c)
      | some m =>
        let (close, c) := retryMessage now regardless k m (answers.headD .TCPSOCKET_COMPLETE) c
        if close then (true, c) else retriesLoop now regardless n (k + 1) answers.tail c
    else (false, c)

/-- Whether the session is to be closed. A `retryInterval` of `0` turns retries off but for those
after a connect. -/
def MQTTProtocol_retries (now : ℕ) (c : Clients) (regardless : Bool)
    (answers : List CompletionCode) : Bool × Clients :=
  if !regardless && c.retryInterval = 0 && c.connect_sent = c.connect_count then (false, c)
  else
    let c := if regardless then { c with connect_count := c.outboundMsgs.length } else c
    let regardless := regardless || c.connect_sent < c.connect_count
    retriesLoop now regardless c.outboundMsgs.length 0 answers c

/-- `MQTTProtocol_retry` for this client. -/
def MQTTProtocol_retry (now : ℕ) (c : Clients) (doRetry regardless : Bool)
    (answers : List CompletionCode) : Bool × Clients :=
  if c.connected && Socket_noPendingWrites c && doRetry then
    MQTTProtocol_retries now c regardless answers
  else (false, c)

end LanternProject.Mqtt.MQTTProtocolClient
