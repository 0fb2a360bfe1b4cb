import LanternProject.Engine.Basic
import LanternProject.Lib.Frames

/-! # The packets of the MQTT client

A packet on the wire is a header byte, the *remaining length* in digits of seven bits, and that many
bytes of data. `MQTTPacket_send`, `MQTTPacket_sends` and the functions over them make the buffers
that are written; the functions of the table `new_packets` take the data of a packet apart. The
client speaks MQTT 3.1.1; what the source does for version 5 is left out.

The data is what is left between `curdata` and `enddata`; reading beyond it is a fault. -/

namespace LanternProject.Mqtt.MQTTPacket

open LanternProject.Engine.Basic LanternProject.Lib.Frames

abbrev Bytes := List UInt8

/-- The codes of packets; the first one is reserved. -/
inductive msgTypes where
  | RESERVED
  | CONNECT
  | CONNACK
  | PUBLISH
  | PUBACK
  | PUBREC
  | PUBREL
  | PUBCOMP
  | SUBSCRIBE
  | SUBACK
  | UNSUBSCRIBE
  | UNSUBACK
  | PINGREQ
  | PINGRESP
  | DISCONNECT
  | AUTH
deriving DecidableEq, Repr

namespace msgTypes

/-- The codes in order. -/
def all : List msgTypes :=
  [RESERVED, CONNECT, CONNACK, PUBLISH, PUBACK, PUBREC, PUBREL, PUBCOMP, SUBSCRIBE, SUBACK,
    UNSUBSCRIBE, UNSUBACK, PINGREQ, PINGRESP, DISCONNECT, AUTH]

def code : msgTypes → ℕ
  | RESERVED => 0
  | CONNECT => 1
  | CONNACK => 2
  | PUBLISH => 3
  | PUBACK => 4
  | PUBREC => 5
  | PUBREL => 6
  | PUBCOMP => 7
  | SUBSCRIBE => 8
  | SUBACK => 9
  | UNSUBSCRIBE => 10
  | UNSUBACK => 11
  | PINGREQ => 12
  | PINGRESP => 13
  | DISCONNECT => 14
  | AUTH => 15

/-- The type with a code of four bits. -/
def ofCode (n : Fin 16) : msgTypes := all.get n

theorem code_lt (t : msgTypes) : t.code < 16 := by
  cases t <;> decide

theorem ofCode_code (t : msgTypes) : ofCode ⟨t.code, t.code_lt⟩ = t := by
  cases t <;> rfl

end msgTypes

/-- Numbers of two bits have literals. -/
scoped instance neZero_four : NeZero 4 := ⟨by decide⟩

/-- The bits of the header byte. -/
structure Header where
  type : msgTypes
  dup : Bool
  qos : Fin 4
  retain : Bool
deriving DecidableEq, Repr

/-- The whole byte. -/
def Header.cbByte (h : Header) : UInt8 :=
  UInt8.ofNat (16 * h.type.code + 8 * h.dup.toNat + 2 * h.qos + h.retain.toNat)

/-- The bits of a byte. -/
def Header.ofByte (b : UInt8) : Header where
  type := msgTypes.ofCode ⟨b.toNat / 16, by have := b.toNat_lt; omega⟩
  dup := b.toNat / 8 % 2 = 1
  qos := ⟨b.toNat / 2 % 4, by omega⟩
  retain := b.toNat % 2 = 1

@[simp] theorem Header.ofByte_cbByte (h : Header) : Header.ofByte h.cbByte = h := by
  obtain ⟨type, dup, qos, retain⟩ := h
  have hcode := type.code_lt
  have hqos := qos.isLt
  have hdup := Bool.toNat_lt dup
  have hretain := Bool.toNat_lt retain
  have hbyte : (Header.cbByte ⟨type, dup, qos, retain⟩).toNat
      = 16 * type.code + 8 * dup.toNat + 2 * qos + retain.toNat := by
    simp only [Header.cbByte, UInt8.toNat_ofNat']
    omega
  simp only [Header.ofByte, hbyte, Header.mk.injEq]
  refine ⟨?_, ?_, ?_, ?_⟩
  · conv_rhs => rw [← type.ofCode_code]
    congr 2
    omega
  · cases dup <;> simp <;> omega
  · apply Fin.ext
    show _ / 2 % 4 = (qos : ℕ)
    omega
  · cases retain <;> simp <;> omega

/-! ### Numbers -/

/-- A number as two bytes. -/
def writeInt (anInt : ℕ) : Bytes := [UInt8.ofNat (anInt / 256), UInt8.ofNat (anInt % 256)]

def readInt : Bytes → Except Fault (ℕ × Bytes)
  | a :: b :: rest => .ok (256 * a.toNat + b.toNat, rest)
  | _ => .error .bufferOverrun

@[simp] theorem length_writeInt (n : ℕ) : (writeInt n).length = 2 := rfl

theorem readInt_writeInt {n : ℕ} (h : n < 65536) (rest : Bytes) :
    readInt (writeInt n ++ rest) = .ok (n, rest) := by
  simp only [writeInt, List.cons_append, List.nil_append, readInt, UInt8.toNat_ofNat']
  congr 2
  omega

/-- The digits of the remaining length, the last one without the top bit. -/
def MQTTPacket_encode (length : ℕ) : Bytes :=
  if length / 128 = 0 then [UInt8.ofNat (length % 128)]
  else UInt8.ofNat (length % 128 + 128) :: MQTTPacket_encode (length / 128)
termination_by length
decreasing_by omega

/-- `MAX_NO_OF_REMAINING_LENGTH_BYTES`. -/
def MAX_NO_OF_REMAINING_LENGTH_BYTES : ℕ := 4

/-- The number in the first bytes, of which at most `digits` are read, and the bytes after it. -/
def decodeDigits : ℕ → Bytes → Option (ℕ × Bytes)
  | 0, _ => none
  | _ + 1, [] => none
  | digits + 1, c :: rest =>
    if c.toNat < 128 then some (c.toNat, rest)
    else (decodeDigits digits rest).map fun p => (c.toNat - 128 + 128 * p.1, p.2)

/-- What is encoded in `digits` bytes is decoded from them. -/
theorem decodeDigits_encode (rest : Bytes) : ∀ (digits length : ℕ), length < 128 ^ (digits + 1) →
    decodeDigits (digits + 1) (MQTTPacket_encode length ++ rest) = some (length, rest) := by
  intro digits
  induction digits with
  | zero =>
    intro length h
    rw [MQTTPacket_encode, if_pos (by omega)]
    have hbyte : (UInt8.ofNat (length % 128)).toNat = length := by
      rw [UInt8.toNat_ofNat']
      omega
    simp only [List.cons_append, List.nil_append, decodeDigits, hbyte]
    rw [if_pos (by omega)]
  | succ digits ih =>
    intro length h
    rw [MQTTPacket_encode]
    split_ifs with hlast
    · have hbyte : (UInt8.ofNat (length % 128)).toNat = length := by
        rw [UInt8.toNat_ofNat']
        omega
      simp only [List.cons_append, List.nil_append, decodeDigits, hbyte]
      rw [if_pos (by omega)]
    · have hbyte : (UInt8.ofNat (length % 128 + 128)).toNat = length % 128 + 128 := by
        rw [UInt8.toNat_ofNat']
        omega
      have hrest := ih (length / 128) (by rw [pow_succ] at h; omega)
      rw [List.cons_append, decodeDigits, hbyte, if_neg (by omega), hrest]
      simp only [Option.map_some, Option.some.injEq, Prod.mk.injEq, and_true]
      omega

/-! ### What is received -/

structure Publish where
  header : Header
  topic : Bytes
  msgId : ℕ
  payload : Bytes
deriving DecidableEq, Repr

/-- The packets the client takes apart: `Publish`, `Ack`, `Connack`, `Suback`, `Unsuback` and the
packets with a header only. -/
inductive Packet where
  | publish (pack : Publish)
  | ack (header : Header) (msgId : ℕ)
  | connack (header : Header) (flags rc : UInt8)
  | suback (header : Header) (msgId : ℕ) (qoss : Bytes)
  | unsuback (header : Header) (msgId : ℕ)
  | headerOnly (header : Header)
deriving DecidableEq, Repr

/-- A string with its length before it; nothing if the length is wrong. -/
def readUTFlen (curdata : Bytes) : Except Fault (Option (Bytes × Bytes)) :=
  if 1 < curdata.length then do
    let (len, curdata) ← readInt curdata
    if len ≤ curdata.length then return some (curdata.take len, curdata.drop len)
    else return none
  else return none

def MQTTPacket_publish (aHeader : Header) (data : Bytes) : Except Fault (Option Packet) := do
  match ← readUTFlen data with
  | none => return none
  | some (topic, curdata) =>
    if 0 < aHeader.qos then
      if curdata.length < 2 then return none
      else
        let (msgId, curdata) ← readInt curdata
        return some (.publish ⟨aHeader, topic, msgId, curdata⟩)
    else return some (.publish ⟨aHeader, topic, 0, curdata⟩)

def MQTTPacket_ack (aHeader : Header) (data : Bytes) : Except Fault (Option Packet) :=
  if data.length < 2 then return none
  else do
    let (msgId, _) ← readInt data
    return some (.ack aHeader msgId)

/-- A byte; reading beyond the end is a fault. -/
def readChar : Bytes → Except Fault (UInt8 × Bytes)
  | c :: rest => .ok (c, rest)
  | [] => .error .bufferOverrun

def MQTTPacket_connack (aHeader : Header) (data : Bytes) : Except Fault (Option Packet) :=
  if data.length < 2 then return none
  else do
    let (flags, curdata) ← readChar data
    let (rc, _) ← readChar curdata
    return some (.connack aHeader flags rc)

def MQTTPacket_suback (aHeader : Header) (data : Bytes) : Except Fault (Option Packet) :=
  if data.length < 2 then return none
  else do
    let (msgId, qoss) ← readInt data
    if qoss.length = 0 then return none
    else return some (.suback aHeader msgId qoss)

def MQTTPacket_unsuback (aHeader : Header) (data : Bytes) : Except Fault (Option Packet) :=
  if data.length < 2 then return none
  else do
    let (msgId, _) ← readInt data
    return some (.unsuback aHeader msgId)

def MQTTPacket_header_only (aHeader : Header) (_ : Bytes) : Except Fault (Option Packet) :=
  return some (.headerOnly aHeader)

/-- The functions that take packets apart, by the code of the packet. -/
def new_packets : msgTypes → Option (Header → Bytes → Except Fault (Option Packet))
  | .RESERVED => none
  | .CONNECT => none
  | .CONNACK => some MQTTPacket_connack
  | .PUBLISH => some MQTTPacket_publish
  | .PUBACK => some MQTTPacket_ack
  | .PUBREC => some MQTTPacket_ack
  | .PUBREL => some MQTTPacket_ack
  | .PUBCOMP => some MQTTPacket_ack
  | .SUBSCRIBE => none
  | .SUBACK => some MQTTPacket_suback
  | .UNSUBSCRIBE => none
  | .UNSUBACK => some MQTTPacket_unsuback
  | .PINGREQ => some MQTTPacket_header_only
  | .PINGRESP => some MQTTPacket_header_only
  | .DISCONNECT => some MQTTPacket_ack
  | .AUTH => some MQTTPacket_ack

/-- What becomes of a packet that was read. -/
inductive Parsed where
  | ignored
  | bad
  | packet (p : Packet)
deriving DecidableEq, Repr

/-- The end of `MQTTPacket_Factory`: the packet of a header and its data. -/
def parse (header : Header) (data : Bytes) : Except Fault Parsed :=
  if header.type.code < msgTypes.CONNECT.code ∨ msgTypes.DISCONNECT.code ≤ header.type.code then
    return .ignored
  else
    match new_packets header.type with
    | none => return .ignored
    | some f => do
      match ← f header data with
      | none => return .bad
      | some p => return .packet p

/-! ### What is sent -/

/-- The part of the buffer a C string uses. -/
def cString (s : Bytes) : Bytes := s.takeWhile (· ≠ 0)

/-- The buffers of a packet, the first one with the header and the remaining length. -/
def MQTTPacket_sends (header : Header) (bufs : List Bytes) : List Bytes :=
  (header.cbByte :: MQTTPacket_encode (bufs.map List.length).sum) :: bufs

/-- A packet with one buffer. -/
def MQTTPacket_send (header : Header) (buffer : Bytes) : List Bytes :=
  MQTTPacket_sends header [buffer]

def MQTTPacket_send_publish (pack : Publish) (dup : Bool) (qos : Fin 4) (retained : Bool) :
    List Bytes :=
  let topic := cString pack.topic
  let header : Header := ⟨.PUBLISH, dup, qos, retained⟩
  if 0 < qos then
    MQTTPacket_sends header [writeInt topic.length, topic, writeInt pack.msgId, pack.payload]
  else MQTTPacket_sends header [writeInt topic.length, topic, pack.payload]

def MQTTPacket_send_ack (type : msgTypes) (msgid : ℕ) (dup : Bool) : List Bytes :=
  MQTTPacket_send ⟨type, dup, if type = .PUBREL then 1 else 0, false⟩ (writeInt msgid)

def MQTTPacket_send_puback (msgid : ℕ) : List Bytes := MQTTPacket_send_ack .PUBACK msgid false
def MQTTPacket_send_pubrec (msgid : ℕ) : List Bytes := MQTTPacket_send_ack .PUBREC msgid false
def MQTTPacket_send_pubrel (msgid : ℕ) (dup : Bool) : List Bytes :=
  MQTTPacket_send_ack .PUBREL msgid dup
def MQTTPacket_send_pubcomp (msgid : ℕ) : List Bytes := MQTTPacket_send_ack .PUBCOMP msgid false
def MQTTPacket_send_pingreq : List Bytes := MQTTPacket_send ⟨.PINGREQ, false, 0, false⟩ []

/-! ### Reading stays within the data -/

/-- A sequence of computations that do not fault. -/
theorem bind_ok_of {α β : Type} {x : Except Fault α} {f : α → Except Fault β}
    (hx : ∃ a, x = .ok a) (hf : ∀ a, ∃ b, f a = .ok b) : ∃ b, (x >>= f) = .ok b := by
  obtain ⟨a, ha⟩ := hx
  obtain ⟨b, hb⟩ := hf a
  exact ⟨b, bind_ok.mpr ⟨a, ha, hb⟩⟩

theorem readInt_ok {data : Bytes} (h : ¬ data.length < 2) : ∃ p, readInt data = .ok p := by
  match data with
  | [] => exact absurd (by simp) h
  | [a] => exact absurd (by simp) h
  | a :: b :: rest => exact ⟨_, rfl⟩

theorem readUTFlen_ok (curdata : Bytes) : ∃ r, readUTFlen curdata = .ok r := by
  unfold readUTFlen
  split_ifs with h
  · refine bind_ok_of (readInt_ok (by omega)) fun p => ?_
    dsimp only
    split_ifs
    · exact ⟨_, rfl⟩
    · exact ⟨_, rfl⟩
  · exact ⟨_, rfl⟩

theorem publish_ok (aHeader : Header) (data : Bytes) :
    ∃ r, MQTTPacket_publish aHeader data = .ok r := by
  refine bind_ok_of (readUTFlen_ok data) fun string => ?_
  rcases string with _ | ⟨topic, curdata⟩
  · exact ⟨_, rfl⟩
  · dsimp only
    split_ifs with hqos hlen
    · exact ⟨_, rfl⟩
    · exact bind_ok_of (readInt_ok hlen) fun _ => ⟨_, rfl⟩
    · exact ⟨_, rfl⟩

theorem ack_ok (aHeader : Header) (data : Bytes) : ∃ r, MQTTPacket_ack aHeader data = .ok r := by
  unfold MQTTPacket_ack
  split_ifs with hlen
  · exact ⟨_, rfl⟩
  · exact bind_ok_of (readInt_ok hlen) fun _ => ⟨_, rfl⟩

theorem connack_ok (aHeader : Header) (data : Bytes) :
    ∃ r, MQTTPacket_connack aHeader data = .ok r := by
  unfold MQTTPacket_connack
  match data with
  | [] => exact ⟨_, rfl⟩
  | [_] => exact ⟨_, rfl⟩
  | flags :: rc :: rest => exact ⟨some (.connack aHeader flags rc), by simp [readChar, bind, Except.bind]; rfl⟩

theorem suback_ok (aHeader : Header) (data : Bytes) :
    ∃ r, MQTTPacket_suback aHeader data = .ok r := by
  unfold MQTTPacket_suback
  split_ifs with hlen
  · exact ⟨_, rfl⟩
  · refine bind_ok_of (readInt_ok hlen) fun p => ?_
    dsimp only
    split_ifs
    · exact ⟨_, rfl⟩
    · exact ⟨_, rfl⟩

theorem unsuback_ok (aHeader : Header) (data : Bytes) :
    ∃ r, MQTTPacket_unsuback aHeader data = .ok r := by
  unfold MQTTPacket_unsuback
  split_ifs with hlen
  · exact ⟨_, rfl⟩
  · exact bind_ok_of (readInt_ok hlen) fun _ => ⟨_, rfl⟩

/-- The functions of the table do not fault. -/
theorem new_packets_ok {t : msgTypes} {f : Header → Bytes → Except Fault (Option Packet)}
    (hf : new_packets t = some f) (aHeader : Header) (data : Bytes) : ∃ r, f aHeader data = .ok r := by
  cases t <;> simp only [new_packets, reduceCtorEq, Option.some.injEq] at hf <;> subst hf
  · exact connack_ok aHeader data
  · exact publish_ok aHeader data
  · exact ack_ok aHeader data
  · exact ack_ok aHeader data
  · exact ack_ok aHeader data
  · exact ack_ok aHeader data
  · exact suback_ok aHeader data
  · exact unsuback_ok aHeader data
  · exact ⟨_, rfl⟩
  · exact ⟨_, rfl⟩
  · exact ack_ok aHeader data
  · exact ack_ok aHeader data

/-- **Every packet is taken apart within its data**, whatever the other side sent. -/
theorem parse_ok (header : Header) (data : Bytes) : ∃ r, parse header data = .ok r := by
  unfold parse
  split_ifs
  · exact ⟨_, rfl⟩
  · split
    · exact ⟨_, rfl⟩
    · rename_i f hf
      refine bind_ok_of (new_packets_ok hf header data) fun r => ?_
      cases r with
      | none => exact ⟨_, rfl⟩
      | some p => exact ⟨_, rfl⟩

/-! ### Frames -/

/-- A packet as it is read: the header and the data. -/
abbrev Frame := Header × Bytes

/-- The first frame of a stream. -/
def nextFrame : Bytes → Option (Frame × Bytes)
  | [] => none
  | c :: rest =>
    (decodeDigits MAX_NO_OF_REMAINING_LENGTH_BYTES rest).bind fun p =>
      if p.1 ≤ p.2.length then some ((Header.ofByte c, p.2.take p.1), p.2.drop p.1) else none

theorem decodeDigits_shorter : ∀ {digits : ℕ} {l r : Bytes} {n : ℕ},
    decodeDigits digits l = some (n, r) → r.length < l.length
  | 0, _, _, _, h => by simp [decodeDigits] at h
  | _ + 1, [], _, _, h => by simp [decodeDigits] at h
  | digits + 1, c :: rest, r, n, h => by
    rw [decodeDigits] at h
    split_ifs at h with hc
    · obtain ⟨-, rfl⟩ := Prod.mk.inj (Option.some.inj h)
      simp
    · obtain ⟨⟨m, r'⟩, hrest, hp⟩ := Option.map_eq_some_iff.mp h
      obtain ⟨-, rfl⟩ := Prod.mk.inj hp
      have hlt := decodeDigits_shorter hrest
      simp only [List.length_cons]
      omega

theorem decodeDigits_append (t : Bytes) : ∀ {digits : ℕ} {l r : Bytes} {n : ℕ},
    decodeDigits digits l = some (n, r) → decodeDigits digits (l ++ t) = some (n, r ++ t)
  | 0, _, _, _, h => by simp [decodeDigits] at h
  | _ + 1, [], _, _, h => by simp [decodeDigits] at h
  | digits + 1, c :: rest, r, n, h => by
    rw [decodeDigits] at h
    rw [List.cons_append, decodeDigits]
    split_ifs at h ⊢ with hc
    · obtain ⟨rfl, rfl⟩ := Prod.mk.inj (Option.some.inj h)
      rfl
    · obtain ⟨⟨m, r'⟩, hrest, hp⟩ := Option.map_eq_some_iff.mp h
      obtain ⟨rfl, rfl⟩ := Prod.mk.inj hp
      rw [decodeDigits_append t hrest]
      rfl

theorem nextFrame_eq_some {l r : Bytes} {header : Header} {data : Bytes} :
    nextFrame l = some ((header, data), r) ↔ ∃ c rest rest', l = c :: rest ∧
      decodeDigits MAX_NO_OF_REMAINING_LENGTH_BYTES rest = some (data.length, rest') ∧
      header = Header.ofByte c ∧ rest' = data ++ r := by
  cases l with
  | nil => simp [nextFrame]
  | cons c rest =>
    simp only [nextFrame, Option.bind_eq_some_iff, Prod.exists]
    constructor
    · rintro ⟨n, rest', hdigits, hlen⟩
      split_ifs at hlen with hle
      simp only [Option.some.injEq, Prod.mk.injEq] at hlen
      obtain ⟨⟨rfl, rfl⟩, rfl⟩ := hlen
      refine ⟨c, rest, rest', rfl, ?_, rfl, (List.take_append_drop _ _).symm⟩
      rw [hdigits, List.length_take, min_eq_left hle]
    · rintro ⟨c', rest₀, rest', hl, hdigits, rfl, rfl⟩
      obtain ⟨rfl, rfl⟩ := List.cons.inj hl
      exact ⟨_, _, hdigits, by simp⟩

/-- The frames of the stream a socket carries. -/
def framing : Framing UInt8 Frame where
  next := nextFrame
  shorter := by
    rintro l ⟨header, data⟩ r h
    obtain ⟨c, rest, rest', rfl, hdigits, -, rfl⟩ := nextFrame_eq_some.mp h
    have hlt := decodeDigits_shorter hdigits
    simp only [List.length_cons, List.length_append] at hlt ⊢
    omega
  stable := by
    rintro l ⟨header, data⟩ r t h
    obtain ⟨c, rest, rest', rfl, hdigits, rfl, rfl⟩ := nextFrame_eq_some.mp h
    exact nextFrame_eq_some.mpr ⟨c, rest ++ t, data ++ (r ++ t), rfl, by
      rw [decodeDigits_append t hdigits, List.append_assoc], rfl, rfl⟩

@[simp] theorem framing_next : framing.next = nextFrame := rfl

/-- What is on the wire for a frame. -/
def frameBytes (f : Frame) : Bytes := f.1.cbByte :: MQTTPacket_encode f.2.length ++ f.2

theorem flatten_sends (header : Header) (bufs : List Bytes) :
    (MQTTPacket_sends header bufs).flatten = frameBytes (header, bufs.flatten) := by
  simp [MQTTPacket_sends, frameBytes, List.length_flatten]

/-- **A frame comes back**, if its length can be told to the other side. -/
theorem nextFrame_frameBytes (f : Frame) (t : Bytes) (h : f.2.length < 2 ^ 28) :
    nextFrame (frameBytes f ++ t) = some (f, t) := by
  obtain ⟨header, data⟩ := f
  refine nextFrame_eq_some.mpr ⟨header.cbByte, MQTTPacket_encode data.length ++ (data ++ t),
    data ++ t, by simp [frameBytes], ?_, by simp, rfl⟩
  exact decodeDigits_encode _ 3 _ (by simpa using h)

end LanternProject.Mqtt.MQTTPacket
