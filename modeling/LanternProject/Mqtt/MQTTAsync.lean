import LanternProject.Mqtt.MQTTProtocolClient
import LanternProject.Mqtt.Utf8

/-! # The asynchronous client

The application gives its messages to `MQTTAsync_send`, which puts them into a queue of commands; the
sending thread processes them one by one. The receiving thread reads packets, calls their handlers,
delivers queued messages, repeats what is under way and closes and completes connections.

A send that fails is followed by closing the session: this is a step of its own, `nextOrClose`. A
search for a message id that does not end is `none`. Publications are the only commands here: the
responses are those of publications with quality of service 1 or 2. -/

namespace LanternProject.Mqtt.MQTTAsync

open LanternProject.Mqtt.MQTTPacket LanternProject.Mqtt.SocketBuffer LanternProject.Mqtt.MessageIds
open LanternProject.Mqtt.MQTTProtocolClient LanternProject.Mqtt.Utf8

/-! ### Commands -/

/-- The return codes of `MQTTAsync_send`. -/
inductive ReturnCode where
  | MQTTASYNC_SUCCESS
  | MQTTASYNC_DISCONNECTED
  | MQTTASYNC_BAD_UTF8_STRING
  | MQTTASYNC_BAD_QOS
  | MQTTASYNC_NO_MORE_MSGIDS
  | MQTTASYNC_MAX_BUFFERED_MESSAGES
deriving DecidableEq, Repr

/-- An id is in use; `others` are the ids of commands that are not modelled here: those of other
clients, and subscriptions that wait, or whose responses do. -/
def inUse (c : Clients) (others : ℕ → Bool) (msgid : ℕ) : Bool :=
  c.commands.any (·.token = msgid) || c.outboundMsgs.any (·.msgid = msgid) ||
    c.responses.any (·.token = msgid) || others msgid

def MQTTAsync_assignMsgId (c : Clients) (others : ℕ → Bool) : Option (ℕ × Clients) :=
  (assignMsgId (inUse c others) c.msgID).map fun msgid =>
    (msgid, if msgid = 0 then c else { c with msgID := msgid })

/-- The token of a message: its id, or `0` for quality of service 0. -/
def newToken (c : Clients) (others : ℕ → Bool) (qos : ℤ) : Option (ℕ × Clients) :=
  if 0 < qos then MQTTAsync_assignMsgId c others else some (0, c)

def MQTTAsync_addCommand (c : Clients) (command : MQTTAsync_command) : Clients :=
  { c with
    commands := c.commands ++ [command]
    noBufferedMessages := c.noBufferedMessages + 1
    accepted := c.accepted ++ [command] }

/-- The application sends a message. -/
def MQTTAsync_send (c : Clients) (others : ℕ → Bool) (destinationName payload : Bytes) (qos : ℤ)
    (retained : Bool) : Option (ReturnCode × Clients) :=
  if !c.connected then some (.MQTTASYNC_DISCONNECTED, c)
  else if !MQTT_UTF8_validateString destinationName then some (.MQTTASYNC_BAD_UTF8_STRING, c)
  else if qos < 0 ∨ 2 < qos then some (.MQTTASYNC_BAD_QOS, c)
  else
    match newToken c others qos with
    | none => none
    | some (msgid, c) =>
      if 0 < qos ∧ msgid = 0 then some (.MQTTASYNC_NO_MORE_MSGIDS, c)
      else if c.maxBufferedMessages ≤ c.noBufferedMessages then
        some (.MQTTASYNC_MAX_BUFFERED_MESSAGES, c)
      else
        some (.MQTTASYNC_SUCCESS, MQTTAsync_addCommand c
          ⟨msgid, cString destinationName, payload, Fin.ofNat 4 qos.toNat, retained⟩)

/-- The first command is processed, if the client is connected, no write is pending, and not too many
messages are under way. A command whose packet is sent waits for a response. One with quality of
service 0 waits until its packet is written, under no id and with no message under way; such
responses are left out. -/
def MQTTAsync_processCommand (c : Clients) (now : ℕ) (answer : CompletionCode) : Clients :=
  match c.commands with
  | [] => c
  | command :: commands =>
    if c.connected && Socket_noPendingWrites c then
      if MAX_MSG_ID - 1 ≤ c.outboundMsgs.length then c
      else if 0 < command.qos ∧ c.maxInflightMessages ≤ c.outboundMsgs.length then c
      else
        let c := { c with commands := commands, noBufferedMessages := c.noBufferedMessages - 1 }
        let (rc, c) := MQTTProtocol_startPublish c command now answer
        if command.qos = 0 ∨ rc = .SOCKET_ERROR then c
        else { c with responses := c.responses ++ [command] }
    else c

/-! ### Connections -/

/-- The response that waits under an id is over. -/
def removeResponse (c : Clients) (msgid : ℕ) : Clients :=
  { c with responses := c.responses.eraseP fun command => command.token = msgid }

def MQTTAsync_cleanSession (c : Clients) : Clients :=
  { c with inboundMsgs := [], outboundMsgs := [], msgID := 0, responses := [] }

/-- What `MQTTPacket_send_disconnect` sends. -/
def disconnectPacket : Packet := .headerOnly ⟨.DISCONNECT, false, 0, false⟩

def MQTTAsync_closeOnly (c : Clients) (answer : CompletionCode) : Clients :=
  let c := if c.connected && Socket_noPendingWrites c then (put c disconnectPacket answer).2 else c
  { c with connected := false, pendingWrites := false }

def MQTTAsync_closeSession (c : Clients) (answer : CompletionCode) : Clients :=
  let c := MQTTAsync_closeOnly c answer
  if c.cleansession then MQTTAsync_cleanSession c else c

/-- With another address to try the session is not closed. -/
def nextOrClose (c : Clients) (more_to_try : Bool) (answer : CompletionCode) : Clients :=
  if more_to_try then MQTTAsync_closeOnly c answer else MQTTAsync_closeSession c answer

/-- `MQTTProtocol_retry`, and the closing of the session inside it. -/
def retryOrClose (now : ℕ) (c : Clients) (doRetry regardless more_to_try : Bool)
    (answers : List CompletionCode) (answer : CompletionCode) : Clients :=
  let (close, c) := MQTTProtocol_retry now c doRetry regardless answers
  if close then nextOrClose c more_to_try answer else c

/-- A connection is there; a session that is not kept is cleaned, what was under way in one that is
kept is sent again. -/
def MQTTAsync_completeConnection (c : Clients) (sessionPresent more_to_try : Bool)
    (answers : List CompletionCode) (answer : CompletionCode) : Clients :=
  let c := { c with connected := true }
  let c := if c.cleansession || !sessionPresent then MQTTAsync_cleanSession c else c
  if 0 < c.outboundMsgs.length then
    let c := { c with outboundMsgs := c.outboundMsgs.map fun m => { m with lastTouch := 0 } }
    retryOrClose 0 c true true more_to_try answers answer
  else c

/-! ### The receiving thread -/

/-- The handler of a packet. A confirmation ends the response that waits under its id, and so do the
answers to subscriptions. -/
def MQTTAsync_cycle (c : Clients) (pack : Packet) (now : ℕ) (accepts : Bool)
    (answer : CompletionCode) : CompletionCode × Clients :=
  match pack with
  | .publish publish => MQTTProtocol_handlePublishes c publish accepts answer
  | .ack header msgId =>
    match header.type with
    | .PUBCOMP =>
      let (rc, c) := MQTTProtocol_handlePubcomps c msgId
      (rc, removeResponse c msgId)
    | .PUBREC => MQTTProtocol_handlePubrecs c msgId now answer
    | .PUBACK =>
      let (rc, c) := MQTTProtocol_handlePubacks c msgId
      (rc, removeResponse c msgId)
    | .PUBREL => MQTTProtocol_handlePubrels c msgId accepts answer
    | _ => (.TCPSOCKET_COMPLETE, c)
  | .suback _ msgId _ => (.TCPSOCKET_COMPLETE, removeResponse c msgId)
  | .unsuback _ msgId => (.TCPSOCKET_COMPLETE, removeResponse c msgId)
  | _ => (.TCPSOCKET_COMPLETE, c)

/-- A queued message is delivered. -/
def deliverQueued (c : Clients) (accepts : Bool) : Clients :=
  match c.messageQueue with
  | [] => c
  | qe :: messageQueue =>
    if accepts then { c with messageQueue := messageQueue, delivered := c.delivered ++ [qe] } else c

end LanternProject.Mqtt.MQTTAsync
