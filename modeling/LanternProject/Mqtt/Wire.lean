import LanternProject.Mqtt.MQTTPacket

/-! # The packets a client sends come back

What `MQTTPacket_send_publish`, `MQTTPacket_send_ack` and `MQTTPacket_send_pingreq` put on the wire
is taken apart by the functions of the table `new_packets` into the packet it was made from, if its
parts fit their places: a topic is a C string of less than 2¹⁶ bytes, a message id has two bytes, the
remaining length has at most four digits. -/

namespace LanternProject.Mqtt.Wire

open LanternProject.Engine.Basic LanternProject.Mqtt.MQTTPacket

/-- The buffers a client sends for a packet; it sends no answers to connections and
subscriptions. -/
def buffers : Packet → List Bytes
  | .publish pack =>
    MQTTPacket_send_publish pack pack.header.dup pack.header.qos pack.header.retain
  | .ack header msgId => MQTTPacket_send_ack header.type msgId header.dup
  | .headerOnly header => MQTTPacket_send header []
  | .connack _ _ _ => []
  | .suback _ _ _ => []
  | .unsuback _ _ => []

/-- The header and the data in these buffers. -/
def frameOf : Packet → Frame
  | .publish pack =>
    (pack.header, writeInt pack.topic.length ++ (pack.topic
      ++ ((if 0 < pack.header.qos then writeInt pack.msgId else []) ++ pack.payload)))
  | .ack header msgId => (header, writeInt msgId)
  | .headerOnly header => (header, [])
  | .connack header _ _ => (header, [])
  | .suback header _ _ => (header, [])
  | .unsuback header _ => (header, [])

/-- The parts of a packet fit their places, and its bits are those its function sets. -/
def WellFormed : Packet → Prop
  | .publish pack => pack.header.type = .PUBLISH ∧ 0 ∉ pack.topic ∧ pack.topic.length < 2 ^ 16 ∧
      pack.msgId < 2 ^ 16 ∧ (pack.header.qos = 0 → pack.msgId = 0)
  | .ack header msgId => header.type ∈ [msgTypes.PUBACK, .PUBREC, .PUBREL, .PUBCOMP] ∧
      header.qos = (if header.type = .PUBREL then 1 else 0) ∧ header.retain = false ∧ msgId < 2 ^ 16
  | .headerOnly header => header.type = .PINGREQ
  | _ => False

/-- The other side can read the packet. -/
def Sendable (p : Packet) : Prop := WellFormed p ∧ (frameOf p).2.length < 2 ^ 28

/-- A string without a `NUL` is its own C string. -/
theorem cString_eq {s : Bytes} (h : 0 ∉ s) : cString s = s := by
  refine List.takeWhile_eq_self_iff.mpr fun c hc => ?_
  simpa using fun h0 : c = 0 => h (h0 ▸ hc)

/-- The first buffer is that of the header. -/
theorem sends_buffers {p : Packet} (h : WellFormed p) :
    MQTTPacket_sends (frameOf p).1 (buffers p).tail = buffers p := by
  match p, h with
  | .publish ⟨⟨type, dup, qos, retain⟩, topic, msgId, payload⟩, h =>
    obtain ⟨rfl, -⟩ : type = .PUBLISH ∧ _ := h
    simp only [buffers, MQTTPacket_send_publish, frameOf]
    split_ifs
    · rfl
    · rfl
  | .ack ⟨type, dup, qos, retain⟩ msgId, h =>
    obtain ⟨-, rfl, rfl, -⟩ : _ ∧ qos = (if type = .PUBREL then 1 else 0) ∧ retain = false ∧ _ := h
    rfl
  | .headerOnly header, _ => rfl

/-- The other buffers are the data. -/
theorem flatten_tail_buffers {p : Packet} (h : WellFormed p) :
    (buffers p).tail.flatten = (frameOf p).2 := by
  match p, h with
  | .publish ⟨⟨type, dup, qos, retain⟩, topic, msgId, payload⟩, h =>
    obtain ⟨-, htopic, -⟩ : _ ∧ 0 ∉ topic ∧ _ := h
    simp only [buffers, MQTTPacket_send_publish, cString_eq htopic, frameOf]
    split_ifs with hqos
    · simp [MQTTPacket_sends]
    · simp [MQTTPacket_sends]
  | .ack header msgId, _ => simp [buffers, MQTTPacket_send_ack, MQTTPacket_send, MQTTPacket_sends, frameOf]
  | .headerOnly header, _ => simp [buffers, MQTTPacket_send, MQTTPacket_sends, frameOf]

/-- **What is sent** is the header, the remaining length and the data. -/
theorem flatten_buffers {p : Packet} (h : WellFormed p) :
    (buffers p).flatten = frameBytes (frameOf p) := by
  rw [← sends_buffers h, flatten_sends, flatten_tail_buffers h]

/-! ### Taking a frame apart -/

theorem readUTFlen_append {topic : Bytes} (h : topic.length < 2 ^ 16) (rest : Bytes) :
    readUTFlen (writeInt topic.length ++ (topic ++ rest)) = .ok (some (topic, rest)) := by
  have hread := readInt_writeInt h (topic ++ rest)
  unfold readUTFlen
  rw [if_pos (by simp; omega), hread]
  simp [bind, Except.bind, pure, Except.pure]

theorem publish_frameOf {pack : Publish} (h : WellFormed (.publish pack)) :
    MQTTPacket_publish pack.header (frameOf (.publish pack)).2 = .ok (some (.publish pack)) := by
  obtain ⟨header, topic, msgId, payload⟩ := pack
  obtain ⟨-, -, htopic, hid, hid0⟩ := h
  have hstring := readUTFlen_append htopic ((if 0 < header.qos then writeInt msgId else []) ++ payload)
  simp only [MQTTPacket_publish, frameOf, hstring, bind, Except.bind]
  by_cases hqos : 0 < header.qos
  · have hread := readInt_writeInt hid payload
    simp only [if_pos hqos, hread]
    rw [if_neg (by simp; omega)]
    rfl
  · have hzero : msgId = 0 := hid0 (Fin.le_zero_iff.mp (not_lt.mp hqos))
    simp only [if_neg hqos, hzero]
    rfl

theorem ack_frameOf {header : Header} {msgId : ℕ} (h : msgId < 2 ^ 16) :
    MQTTPacket_ack header (frameOf (.ack header msgId)).2 = .ok (some (.ack header msgId)) := by
  have hread := readInt_writeInt h []
  rw [List.append_nil] at hread
  simp only [MQTTPacket_ack, frameOf, hread, bind, Except.bind]
  rfl

/-- **The packet is the one that was sent.** -/
theorem parse_frameOf {p : Packet} (h : WellFormed p) :
    parse (frameOf p).1 (frameOf p).2 = .ok (.packet p) := by
  match p, h with
  | .publish pack, h =>
    have htype : pack.header.type = .PUBLISH := h.1
    have hpack := publish_frameOf h
    unfold parse
    rw [if_neg (by rw [show (frameOf (.publish pack)).1 = pack.header from rfl, htype]; decide)]
    rw [show (frameOf (.publish pack)).1 = pack.header from rfl, htype]
    simp only [new_packets, hpack, bind, Except.bind]
    rfl
  | .ack header msgId, h =>
    obtain ⟨htype, -, -, hid⟩ := h
    have hpack := @ack_frameOf header _ hid
    unfold parse
    simp only [List.mem_cons, List.not_mem_nil, or_false] at htype
    rcases htype with htype | htype | htype | htype
    all_goals
      simp only [frameOf] at hpack ⊢
      simp only [htype, new_packets, hpack, bind, Except.bind]
      rfl
  | .headerOnly header, h =>
    have htype : header.type = .PINGREQ := h
    unfold parse
    simp only [frameOf, htype, new_packets, MQTTPacket_header_only, bind, Except.bind]
    rfl

/-- **Round trip**: whatever follows it on the wire, the packet that was sent is read. -/
theorem roundtrip {p : Packet} (h : Sendable p) (t : Bytes) :
    nextFrame ((buffers p).flatten ++ t) = some (frameOf p, t) ∧
      parse (frameOf p).1 (frameOf p).2 = .ok (.packet p) := by
  rw [flatten_buffers h.1]
  exact ⟨nextFrame_frameBytes _ _ h.2, parse_frameOf h.1⟩

/-- A message of quality of service 2 on the topic `a/b`. -/
def samplePublish : Packet := .publish ⟨⟨.PUBLISH, false, 2, false⟩, [97, 47, 98], 300, [1, 2, 3]⟩

theorem sendable_samplePublish : Sendable samplePublish := by
  refine ⟨⟨rfl, ?_, ?_, ?_, ?_⟩, ?_⟩ <;> decide

theorem roundtrip_samplePublish :
    nextFrame ((buffers samplePublish).flatten ++ [208]) = some (frameOf samplePublish, [208]) ∧
      parse (frameOf samplePublish).1 (frameOf samplePublish).2 = .ok (.packet samplePublish) :=
  roundtrip sendable_samplePublish [208]

end LanternProject.Mqtt.Wire
