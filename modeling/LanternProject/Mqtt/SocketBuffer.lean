import LanternProject.Mqtt.MQTTPacket

/-! # Reading packets from sockets

`MQTTPacket_Factory` reads a packet from a socket that does not block: a read may give part of what
was asked for, or nothing yet. What has been read of an unfinished packet is kept in a
`socket_queue`: the header bytes, which the next call reads again, and the data. A packet that is
under way without interruption is in the *default queue*, one for all sockets; an interruption turns
it into a queue of its socket.

`recv` is played by the list of answers the network gives; an exhausted list is a network that has
nothing yet. -/

namespace LanternProject.Mqtt.SocketBuffer

open LanternProject.Engine.Basic LanternProject.Mqtt.MQTTPacket

/-- A socket; no socket is `0`. -/
abbrev SOCKET := ℕ

/-- What has been read of a packet. `fixed_header` are the first `headerlen` bytes of the header,
`index` is the place the next one is read again from, `buf` are the first `datalen` bytes of the
data, in a buffer of `buflen` bytes. -/
structure socket_queue where
  socket : SOCKET
  index : ℕ
  fixed_header : Bytes
  buflen : ℕ
  buf : Bytes
deriving DecidableEq, Repr

/-- The default queue and the queues of the sockets. -/
structure Queues where
  def_queue : socket_queue
  queues : SOCKET → Option socket_queue

def SocketBuffer_newDefQ : socket_queue := ⟨0, 0, [], 0, []⟩

def SocketBuffer_initialize : Queues := ⟨SocketBuffer_newDefQ, fun _ => none⟩

/-- The queue that holds what has been read from a socket. -/
def Queues.current (s : Queues) (socket : SOCKET) : socket_queue :=
  (s.queues socket).getD s.def_queue

/-- The queued data, the size of the buffer it is in, made large enough for `bytes` bytes. -/
def SocketBuffer_getQueuedData (s : Queues) (socket : SOCKET) (bytes : ℕ) : (Bytes × ℕ) × Queues :=
  match s.queues socket with
  | some queue =>
    let buflen := max queue.buflen bytes
    ((queue.buf, buflen),
      { s with queues := Function.update s.queues socket (some { queue with buflen := buflen }) })
  | none =>
    let buflen := max s.def_queue.buflen bytes
    (([], buflen), { s with def_queue := { s.def_queue with buflen := buflen } })

/-- Whether there is a queued character. -/
inductive QueuedChar where
  | char (c : UInt8)
  | interrupted
  | full
deriving DecidableEq, Repr

def SocketBuffer_getQueuedChar (s : Queues) (socket : SOCKET) : QueuedChar × Queues :=
  match s.queues socket with
  | none => (.interrupted, s)
  | some queue =>
    match queue.fixed_header[queue.index]? with
    | some c =>
      (.char c, { s with
        queues := Function.update s.queues socket (some { queue with index := queue.index + 1 }) })
    | none => if 4 < queue.index then (.full, s) else (.interrupted, s)

/-- A read of the data was interrupted when `buf` had been read. -/
def SocketBuffer_interrupted (s : Queues) (socket : SOCKET) (buf : Bytes) : Queues :=
  match s.queues socket with
  | some queue =>
    { s with
      queues := Function.update s.queues socket (some { queue with index := 0, buf := buf }) }
  | none =>
    { def_queue := SocketBuffer_newDefQ
      queues := Function.update s.queues socket
        (some { s.def_queue with socket := socket, index := 0, buf := buf }) }

/-- The packet is complete; its queue becomes the default one. -/
def SocketBuffer_complete (s : Queues) (socket : SOCKET) : Queues :=
  { def_queue :=
      { s.current socket with socket := 0, index := 0, fixed_header := [], buf := [] }
    queues := Function.update s.queues socket none }

/-- A header byte was read. -/
def SocketBuffer_queueChar (s : Queues) (socket : SOCKET) (c : UInt8) : Queues :=
  match s.queues socket with
  | some curq =>
    if 4 < curq.index then s
    else
      { s with
        queues := Function.update s.queues socket (some { curq with
          index := curq.index + 1
          fixed_header := curq.fixed_header.take curq.index ++ [c] }) }
  | none =>
    if s.def_queue.socket = 0 then
      { s with
        def_queue := { s.def_queue with
          socket := socket, index := 1, fixed_header := [c], buf := [] } }
    else if s.def_queue.socket ≠ socket ∨ 4 < s.def_queue.index then s
    else
      { s with
        def_queue := { s.def_queue with
          index := s.def_queue.index + 1
          fixed_header := s.def_queue.fixed_header.take s.def_queue.index ++ [c] } }

/-- The socket was closed. -/
def SocketBuffer_cleanup (s : Queues) (socket : SOCKET) : Queues :=
  { def_queue :=
      if s.def_queue.socket = socket then
        { s.def_queue with socket := 0, index := 0, fixed_header := [], buf := [] }
      else s.def_queue
    queues := Function.update s.queues socket none }

/-! ### The network -/

/-- The answer to a `recv`: so many bytes can be read now, none meaning that it would block; the
other side closed the connection; another error. -/
inductive Answer where
  | avail (n : ℕ)
  | closed
  | failed
deriving DecidableEq, Repr

/-- What `recv` gives. -/
inductive Received where
  | data (bs : Bytes)
  | wouldBlock
  | closed
  | failed
deriving DecidableEq, Repr

/-- The queues, the bytes that have arrived on the socket being read, the answers to come. -/
structure Reading where
  s : Queues
  incoming : Bytes
  answers : List Answer

/-- At most `n` bytes, and at least one, if there are any. -/
def recv (r : Reading) (n : ℕ) : Received × Reading :=
  match r.answers with
  | [] => (.wouldBlock, r)
  | .avail k :: answers =>
    match r.incoming.take (min n k) with
    | [] => (.wouldBlock, { r with answers := answers })
    | bs => (.data bs, { r with incoming := r.incoming.drop (min n k), answers := answers })
  | .closed :: answers => (.closed, { r with answers := answers })
  | .failed :: answers => (.failed, { r with answers := answers })

/-- The completion codes. -/
inductive CompletionCode where
  | TCPSOCKET_COMPLETE
  | TCPSOCKET_INTERRUPTED
  | SOCKET_ERROR
deriving DecidableEq, Repr

/-- What reading something gave: the thing, an interruption, or an error. -/
inductive Outcome (α : Type) where
  | complete (a : α)
  | interrupted
  | error
deriving DecidableEq, Repr

def Socket_getch (r : Reading) (socket : SOCKET) : Outcome UInt8 × Reading :=
  match SocketBuffer_getQueuedChar r.s socket with
  | (.char c, s) => (.complete c, { r with s := s })
  | (.full, s) => (.error, { r with s := s })
  | (.interrupted, s) =>
    match recv { r with s := s } 1 with
    | (.data bs, r) =>
      match bs with
      | [c] => (.complete c, { r with s := SocketBuffer_queueChar r.s socket c })
      | _ => (.error, r)
    | (.wouldBlock, r) => (.interrupted, { r with s := SocketBuffer_interrupted r.s socket [] })
    | (.closed, r) => (.error, r)
    | (.failed, r) => (.error, r)

/-- The end of `Socket_getdata`, when `buf` is what has been read of the data. Writing beyond the
buffer is a fault. -/
def getdataEnd (r : Reading) (socket : SOCKET) (bytes buflen : ℕ) (buf : Bytes) :
    Except Fault (Option Bytes × Reading) :=
  if buflen < buf.length then .error .bufferOverrun
  else if buf.length = bytes then .ok (some buf, { r with s := SocketBuffer_complete r.s socket })
  else .ok (some buf, { r with s := SocketBuffer_interrupted r.s socket buf })

/-- The data of a packet as far as it has been read, or an error. -/
def Socket_getdata (r : Reading) (socket : SOCKET) (bytes : ℕ) :
    Except Fault (Option Bytes × Reading) :=
  if bytes = 0 then .ok (some [], { r with s := SocketBuffer_complete r.s socket })
  else
    let ((buf, buflen), s) := SocketBuffer_getQueuedData r.s socket bytes
    if bytes < buf.length then .error .bufferOverrun
    else
      match recv { r with s := s } (bytes - buf.length) with
      | (.data bs, r) => getdataEnd r socket bytes buflen (buf ++ bs)
      | (.wouldBlock, r) => getdataEnd r socket bytes buflen buf
      | (.closed, r) => .ok (none, r)
      | (.failed, r) => .ok (none, r)

/-- The loop of `MQTTPacket_decode`, which reads at most `n` more digits. -/
def decodeLoop (socket : SOCKET) : ℕ → ℕ → ℕ → Reading → Outcome ℕ × Reading
  | 0, _, _, r => (.error, r)
  | n + 1, multiplier, value, r =>
    match Socket_getch r socket with
    | (.complete c, r) =>
      let value := value + c.toNat % 128 * multiplier
      if 128 ≤ c.toNat then decodeLoop socket n (multiplier * 128) value r
      else (.complete value, r)
    | (.interrupted, r) => (.interrupted, r)
    | (.error, r) => (.error, r)

def MQTTPacket_decode (r : Reading) (socket : SOCKET) : Outcome ℕ × Reading :=
  decodeLoop socket MAX_NO_OF_REMAINING_LENGTH_BYTES 1 0 r

/-- The first half of `MQTTPacket_Factory`: the header byte, the remaining length, the data. -/
def readFrame (r : Reading) (socket : SOCKET) : Except Fault (Outcome Frame × Reading) :=
  match Socket_getch r socket with
  | (.interrupted, r) => .ok (.interrupted, r)
  | (.error, r) => .ok (.error, r)
  | (.complete c, r) =>
    match MQTTPacket_decode r socket with
    | (.interrupted, r) => .ok (.interrupted, r)
    | (.error, r) => .ok (.error, r)
    | (.complete remaining_length, r) => do
      match ← Socket_getdata r socket remaining_length with
      | (none, r) => return (.error, r)
      | (some data, r) =>
        if data.length < remaining_length then return (.interrupted, r)
        else return (.complete (Header.ofByte c, data), r)

/-- The packet, if there is one, and the completion code. -/
def MQTTPacket_Factory (r : Reading) (socket : SOCKET) :
    Except Fault ((Option Packet × CompletionCode) × Reading) := do
  match ← readFrame r socket with
  | (.interrupted, r) => return ((none, .TCPSOCKET_INTERRUPTED), r)
  | (.error, r) => return ((none, .SOCKET_ERROR), r)
  | (.complete (header, data), r) =>
    match ← parse header data with
    | .ignored => return ((none, .TCPSOCKET_COMPLETE), r)
    | .bad => return ((none, .SOCKET_ERROR), r)
    | .packet p => return ((some p, .TCPSOCKET_COMPLETE), r)

end LanternProject.Mqtt.SocketBuffer
