import LanternProject.Mqtt.Broker

/-! # What the operations of a client do

What is given to the socket or waits in `outboundQueue` is *outgoing*: it reaches the broker in this
order or not at all. Sending changes nothing else (`rest`). Each operation has one lemma about the
outgoing packets and one about the rest, and what follows uses these.

* `outgoing_put`, `outgoing_answerAck`, `outgoing_writeAvailable`, `outgoing_retries`.
* `rest_put`, `rest_answerAck`, `rest_writeAvailable`, `rest_retries`. -/

namespace LanternProject.Mqtt.Effects

open LanternProject.Mqtt.MQTTPacket LanternProject.Mqtt.SocketBuffer
open LanternProject.Mqtt.MQTTProtocolClient LanternProject.Mqtt.MQTTAsync LanternProject.Mqtt.Broker

/-! ### Messages by their id -/

section Messages
variable {msgs : List Messages} {m : Messages} {i j : ℕ}

theorem findMsg_msgid (h : findMsg msgs i = some m) : m.msgid = i := by
  simpa using List.find?_some h

theorem findMsg_mem (h : findMsg msgs i = some m) : m ∈ msgs := List.mem_of_find?_eq_some h

theorem findMsg_eq_none : findMsg msgs i = none ↔ i ∉ msgs.map Messages.msgid := by
  simp only [findMsg, List.find?_eq_none, decide_eq_true_eq, List.mem_map, not_exists, not_and]

theorem findMsg_append (msgs' : List Messages) (i : ℕ) :
    findMsg (msgs ++ msgs') i = (findMsg msgs i).or (findMsg msgs' i) := List.find?_append

/-- With different ids a message is found by its own. -/
theorem findMsg_of_mem (h : (msgs.map Messages.msgid).Nodup) (hm : m ∈ msgs) :
    findMsg msgs m.msgid = some m := by
  induction msgs with
  | nil => simp at hm
  | cons m' msgs ih =>
    obtain ⟨hnot, hnodup⟩ := List.nodup_cons.mp h
    rw [findMsg, List.find?_cons]
    rcases List.mem_cons.mp hm with rfl | hm
    · simp
    · have hne : m'.msgid ≠ m.msgid := by
        intro heq
        exact hnot (heq ▸ List.mem_map_of_mem hm)
      simpa [hne, findMsg] using ih hnodup hm

/-- Erasing the first element with a value erases the first such value. -/
theorem map_eraseP {α : Type} (f : α → ℕ) (l : List α) (j : ℕ) :
    (l.eraseP fun x => f x = j).map f = (l.map f).erase j := by
  induction l with
  | nil => rfl
  | cons x l ih =>
    rw [List.eraseP_cons, List.map_cons, List.erase_cons]
    by_cases h : f x = j
    · simp [h]
    · simpa [h] using ih

theorem map_removeMsg (msgs : List Messages) (j : ℕ) :
    (removeMsg msgs j).map Messages.msgid = (msgs.map Messages.msgid).erase j :=
  map_eraseP Messages.msgid msgs j

theorem findMsg_removeMsg_self (h : (msgs.map Messages.msgid).Nodup) (j : ℕ) :
    findMsg (removeMsg msgs j) j = none := by
  rw [findMsg_eq_none, map_removeMsg]
  exact h.not_mem_erase

theorem findMsg_removeMsg_ne (msgs : List Messages) (h : i ≠ j) :
    findMsg (removeMsg msgs j) i = findMsg msgs i := by
  induction msgs with
  | nil => rfl
  | cons m msgs ih =>
    rw [removeMsg, List.eraseP_cons]
    by_cases hj : m.msgid = j
    · have hi : m.msgid ≠ i := fun hi => h (hi.symm.trans hj)
      simp [findMsg, hj, Ne.symm h]
    · by_cases hi : m.msgid = i
      · simp [findMsg, hi, h]
      · simpa [findMsg, removeMsg, hi, hj] using ih

theorem map_updateMsg {f : Messages → Messages} (hf : ∀ m, (f m).msgid = m.msgid) (j : ℕ) :
    (updateMsg f j msgs).map Messages.msgid = msgs.map Messages.msgid := by
  induction msgs with
  | nil => rfl
  | cons m msgs ih =>
    rw [updateMsg]
    split_ifs with h
    · simp [hf]
    · simpa using ih

theorem findMsg_updateMsg {f : Messages → Messages} (hf : ∀ m, (f m).msgid = m.msgid) (i j : ℕ) :
    findMsg (updateMsg f j msgs) i =
      if i = j then (findMsg msgs i).map f else findMsg msgs i := by
  induction msgs with
  | nil => simp [updateMsg, findMsg]
  | cons m msgs ih =>
    rw [updateMsg]
    by_cases hj : m.msgid = j
    · by_cases hi : i = j
      · simp [findMsg, hj, hi, hf]
      · have hne : j ≠ i := fun h => hi h.symm
        simp [findMsg, hj, hi, hne, hf]
    · by_cases hi : m.msgid = i
      · have hne : i ≠ j := fun h => hj (hi.trans h)
        simp [findMsg, hi, hne]
      · simpa [findMsg, hi, hj] using ih

theorem mem_updateMsg {f : Messages → Messages} (h : m ∈ updateMsg f j msgs) :
    m ∈ msgs ∨ ∃ m', findMsg msgs j = some m' ∧ m = f m' := by
  induction msgs with
  | nil => simp [updateMsg] at h
  | cons m' msgs ih =>
    rw [updateMsg] at h
    split_ifs at h with hj
    · rcases List.mem_cons.mp h with rfl | h
      · exact Or.inr ⟨m', by simp [findMsg, hj], rfl⟩
      · exact Or.inl (List.mem_cons_of_mem _ h)
    · rcases List.mem_cons.mp h with rfl | h
      · exact Or.inl List.mem_cons_self
      · rcases ih h with h | ⟨m'', hm'', rfl⟩
        · exact Or.inl (List.mem_cons_of_mem _ h)
        · exact Or.inr ⟨m'', by simpa [findMsg, hj] using hm'', rfl⟩

theorem findMsg_storeMsg (m : Messages) (i : ℕ) :
    findMsg (storeMsg m msgs) i = if i = m.msgid then some m else findMsg msgs i := by
  induction msgs with
  | nil => by_cases h : m.msgid = i <;> simp [storeMsg, findMsg, h, Ne.symm]
  | cons m' msgs ih =>
    rw [storeMsg]
    by_cases hm : m'.msgid = m.msgid
    · by_cases hi : i = m.msgid
      · simp [findMsg, hm, hi]
      · have hne : m.msgid ≠ i := fun h => hi h.symm
        simp [findMsg, hm, hi, hne]
    · by_cases hi : m'.msgid = i
      · have hne : i ≠ m.msgid := fun h => hm (hi.trans h)
        simp [findMsg, hi, hne]
      · simpa [findMsg, hi, hm] using ih

theorem mem_storeMsg {m' : Messages} (h : m' ∈ storeMsg m msgs) : m' = m ∨ m' ∈ msgs := by
  induction msgs with
  | nil => exact Or.inl (by simpa [storeMsg] using h)
  | cons m'' msgs ih =>
    rw [storeMsg] at h
    split_ifs at h
    · rcases List.mem_cons.mp h with rfl | h
      · exact Or.inl rfl
      · exact Or.inr (List.mem_cons_of_mem _ h)
    · rcases List.mem_cons.mp h with rfl | h
      · exact Or.inr List.mem_cons_self
      · exact (ih h).imp id (List.mem_cons_of_mem _)

/-- Storing a message does not make its id occur twice. -/
theorem nodup_storeMsg (h : (msgs.map Messages.msgid).Nodup) (m : Messages) :
    ((storeMsg m msgs).map Messages.msgid).Nodup := by
  induction msgs with
  | nil => simp [storeMsg]
  | cons m' msgs ih =>
    obtain ⟨hnot, hnodup⟩ := List.nodup_cons.mp h
    rw [storeMsg]
    split_ifs with hm
    · rw [List.map_cons, ← hm]
      exact List.nodup_cons.mpr ⟨hnot, hnodup⟩
    · refine List.nodup_cons.mpr ⟨fun hmem => ?_, ih hnodup⟩
      obtain ⟨m'', hm'', heq⟩ := List.mem_map.mp hmem
      rcases mem_storeMsg hm'' with rfl | hm''
      · exact hm heq.symm
      · exact hnot (heq ▸ List.mem_map_of_mem hm'')

end Messages

/-! ### What sending leaves alone -/

/-- A message but for the time it was sent last. -/
def untouched (m : Messages) : Messages := { m with lastTouch := 0 }

/-- A client but for its socket and the bookkeeping of retries. -/
def rest (c : Clients) : Clients :=
  { c with
    net := []
    pendingWrites := false
    outboundQueue := []
    connect_count := 0
    connect_sent := 0
    outboundMsgs := c.outboundMsgs.map untouched }

theorem connected_of_rest {c c' : Clients} (h : rest c' = rest c) : c'.connected = c.connected := by
  have hconnected := congrArg Clients.connected h
  exact hconnected

theorem commands_of_rest {c c' : Clients} (h : rest c' = rest c) :
    c'.commands = c.commands ∧ c'.accepted = c.accepted := by
  have hcommands := congrArg Clients.commands h
  have haccepted := congrArg Clients.accepted h
  exact ⟨hcommands, haccepted⟩

/-- The packet of a queued answer. -/
def queued (ackReq : AckRequest) : Packet := ackPacket ackReq.ackType ackReq.messageId

/-- What is on the way to the broker. -/
def outgoing (c : Clients) : List Packet := c.net ++ c.outboundQueue.map queued

/-- Answers wait only while the socket is busy. -/
def Ready (c : Clients) : Prop := c.outboundQueue ≠ [] → c.pendingWrites = true

variable {c : Clients}

theorem Ready.queue_eq (h : Ready c) (hw : c.pendingWrites = false) : c.outboundQueue = [] := by
  by_contra hne
  exact absurd (h hne) (by simp [hw])

/-- Nothing is sent, or the packet is. -/
theorem put_cases (c : Clients) (p : Packet) (answer : CompletionCode) :
    put c p answer = (.SOCKET_ERROR, c) ∨
      c.pendingWrites = false ∧ ∃ rc b, rc ≠ .SOCKET_ERROR ∧
        put c p answer = (rc, { c with net := c.net ++ [p], pendingWrites := b }) := by
  rcases hw : c.pendingWrites with _ | _
  · cases answer with
    | SOCKET_ERROR => exact Or.inl (by simp [put, Socket_noPendingWrites, hw])
    | TCPSOCKET_COMPLETE =>
      refine Or.inr ⟨rfl, .TCPSOCKET_COMPLETE, false, by simp, ?_⟩
      rw [← hw]
      simp [put, Socket_noPendingWrites, hw]
    | TCPSOCKET_INTERRUPTED =>
      exact Or.inr ⟨rfl, .TCPSOCKET_INTERRUPTED, true, by simp,
        by simp [put, Socket_noPendingWrites, hw]⟩
  · exact Or.inl (by simp [put, Socket_noPendingWrites, hw])

theorem rest_put (c : Clients) (p : Packet) (answer : CompletionCode) :
    rest (put c p answer).2 = rest c := by
  rcases put_cases c p answer with h | ⟨-, rc, b, -, h⟩
  · rw [h]
  · rw [h]
    rfl

/-- The outgoing packets are followed by `p`, or by nothing. -/
def Extends (p : Packet) (c c' : Clients) : Prop :=
  Ready c' ∧ ∃ l, outgoing c' = outgoing c ++ l ∧ (l = [] ∨ l = [p])

theorem outgoing_put (h : Ready c) (p : Packet) (answer : CompletionCode) :
    Extends p c (put c p answer).2 := by
  rcases put_cases c p answer with hput | ⟨hw, rc, b, -, hput⟩
  · rw [hput]
    exact ⟨h, [], by simp, Or.inl rfl⟩
  · have hq := h.queue_eq hw
    rw [hput]
    exact ⟨fun hne => absurd hq hne, [p], by simp [outgoing, hq], Or.inr rfl⟩

theorem rest_answerAck (c : Clients) (type : msgTypes) (i : ℕ) (answer : CompletionCode) :
    rest (answerAck c type i answer).2 = rest c := by
  unfold answerAck
  split_ifs
  · exact rest_put c _ _
  · rfl

theorem outgoing_answerAck (h : Ready c) (type : msgTypes) (i : ℕ) (answer : CompletionCode) :
    Extends (ackPacket type i) c (answerAck c type i answer).2 := by
  unfold answerAck
  split_ifs with hw
  · exact outgoing_put h _ _
  · have hpending : c.pendingWrites = true := by simpa [Socket_noPendingWrites] using hw
    exact ⟨fun _ => hpending, [ackPacket type i],
      by simp [outgoing, MQTTProtocol_queueAck, queued], Or.inr rfl⟩

/-- The loop sends the first ones of the queued answers. -/
theorem writeAvailableLoop_eq : ∀ (queue : List AckRequest) (answers : List CompletionCode)
    (c : Clients), ∃ l b, l.Sublist (queue.map queued) ∧
      writeAvailableLoop queue answers c = { c with net := c.net ++ l, pendingWrites := b }
  | [], _, c => ⟨[], c.pendingWrites, by simp, by simp [writeAvailableLoop]⟩
  | ackReq :: queue, answers, c => by
    rw [writeAvailableLoop]
    rcases put_cases c (ackPacket ackReq.ackType ackReq.messageId)
      (answers.headD .TCPSOCKET_COMPLETE) with h | ⟨-, rc, b, -, h⟩
    · rw [h]
      exact ⟨[], c.pendingWrites, by simp, by simp⟩
    · rw [h]
      dsimp only
      split_ifs
      · obtain ⟨l, b', hl, heq⟩ := writeAvailableLoop_eq queue answers.tail
          { c with net := c.net ++ [ackPacket ackReq.ackType ackReq.messageId], pendingWrites := b }
        exact ⟨queued ackReq :: l, b', by simpa using hl, by simp [heq, queued]⟩
      · exact ⟨[queued ackReq], b, by simp, rfl⟩

theorem rest_writeAvailable (c : Clients) (answers : List CompletionCode) :
    rest (MQTTProtocol_writeAvailable { c with pendingWrites := false } answers) = rest c := by
  obtain ⟨l, b, -, heq⟩ :=
    writeAvailableLoop_eq c.outboundQueue answers { c with pendingWrites := false }
  rw [MQTTProtocol_writeAvailable, heq]
  rfl

/-- What was outgoing still is, but for answers that are dropped. -/
theorem outgoing_writeAvailable (c : Clients) (answers : List CompletionCode) :
    Ready (MQTTProtocol_writeAvailable { c with pendingWrites := false } answers) ∧
      (outgoing (MQTTProtocol_writeAvailable { c with pendingWrites := false } answers)).Sublist
        (outgoing c) := by
  obtain ⟨l, b, hl, heq⟩ :=
    writeAvailableLoop_eq c.outboundQueue answers { c with pendingWrites := false }
  rw [MQTTProtocol_writeAvailable, heq]
  exact ⟨fun hne => absurd rfl hne, by simpa [outgoing] using hl⟩

/-! ### Confirmations that arrive -/

/-- **A message is confirmed**: it waits for the end of the exchange from now on, if it waited for
the confirmation. A `PUBREL` is sent in any case. -/
theorem handlePubrecs_cases (c : Clients) (j now : ℕ) (answer : CompletionCode) :
    ∃ msgs, (MQTTProtocol_handlePubrecs c j now answer).2
        = (answerAck { c with outboundMsgs := msgs } .PUBREL j answer).2 ∧
      (msgs = c.outboundMsgs ∧ (∀ m, findMsg c.outboundMsgs j = some m →
          ¬(m.qos = 2 ∧ m.nextMessageType = some .PUBREC)) ∨
        ∃ m, findMsg c.outboundMsgs j = some m ∧ m.qos = 2 ∧ m.nextMessageType = some .PUBREC ∧
          msgs = updateMsg (released now) j c.outboundMsgs) := by
  unfold MQTTProtocol_handlePubrecs
  rcases hm : findMsg c.outboundMsgs j with _ | m
  · exact ⟨c.outboundMsgs, rfl, Or.inl ⟨rfl, by simp⟩⟩
  · dsimp only
    by_cases hwaits : m.qos = 2 ∧ m.nextMessageType = some .PUBREC
    · rw [if_pos hwaits]
      exact ⟨_, rfl, Or.inr ⟨m, rfl, hwaits.1, hwaits.2, rfl⟩⟩
    · rw [if_neg hwaits]
      refine ⟨c.outboundMsgs, rfl, Or.inl ⟨rfl, fun m' hm' => ?_⟩⟩
      rwa [← Option.some.inj hm']

/-- **A message is over** by a `PUBACK` if it is of quality of service 1, by a `PUBCOMP` if it is of
quality 2 and waits for it. -/
theorem confirmed_cases (c : Clients) (j : ℕ) :
    ((MQTTProtocol_handlePubacks c j).2 = c ∧
        (∀ m, findMsg c.outboundMsgs j = some m → m.qos ≠ 1) ∨
      ∃ m, findMsg c.outboundMsgs j = some m ∧ m.qos = 1 ∧
        (MQTTProtocol_handlePubacks c j).2
          = { c with outboundMsgs := removeMsg c.outboundMsgs j }) ∧
    ((MQTTProtocol_handlePubcomps c j).2 = c ∧
        (∀ m, findMsg c.outboundMsgs j = some m →
          ¬(m.qos = 2 ∧ m.nextMessageType = some .PUBCOMP)) ∨
      ∃ m, findMsg c.outboundMsgs j = some m ∧ m.qos = 2 ∧ m.nextMessageType = some .PUBCOMP ∧
        (MQTTProtocol_handlePubcomps c j).2
          = { c with outboundMsgs := removeMsg c.outboundMsgs j }) := by
  unfold MQTTProtocol_handlePubacks MQTTProtocol_handlePubcomps
  rcases findMsg c.outboundMsgs j with _ | m
  · exact ⟨Or.inl ⟨rfl, by simp⟩, Or.inl ⟨rfl, by simp⟩⟩
  · dsimp only
    constructor
    · split_ifs with hqos
      · exact Or.inr ⟨m, rfl, hqos, rfl⟩
      · exact Or.inl ⟨rfl, fun m' hm' => Option.some.inj hm' ▸ hqos⟩
    · split_ifs with hwaits
      · exact Or.inr ⟨m, rfl, hwaits.1, hwaits.2, rfl⟩
      · exact Or.inl ⟨rfl, fun m' hm' => Option.some.inj hm' ▸ hwaits⟩

/-! ### Messages that arrive -/

/-- A message that arrives is delivered, if none waits, or waits itself. -/
theorem processPublication_cases (c : Clients) (publish : Publish) (accepts : Bool) :
    (c.messageQueue = [] ∧ Protocol_processPublication c publish accepts
        = { c with delivered := c.delivered ++ [arrivedMessage publish] }) ∨
      Protocol_processPublication c publish accepts
        = { c with messageQueue := c.messageQueue ++ [arrivedMessage publish] } := by
  unfold Protocol_processPublication
  by_cases h : c.messageQueue = [] ∧ c.connected ∧ accepts
  · exact Or.inl ⟨h.1, if_pos h⟩
  · exact Or.inr (if_neg h)

theorem processPublication_inbound (c : Clients) (publish : Publish) (accepts : Bool) :
    (Protocol_processPublication c publish accepts).inboundMsgs = c.inboundMsgs := by
  rcases processPublication_cases c publish accepts with ⟨-, h⟩ | h <;> rw [h]

/-- In either case it is the last one of those that have arrived. -/
theorem processPublication_arrived (c : Clients) (publish : Publish) (accepts : Bool) :
    (Protocol_processPublication c publish accepts).delivered
        ++ (Protocol_processPublication c publish accepts).messageQueue
      = c.delivered ++ c.messageQueue ++ [arrivedMessage publish] := by
  rcases processPublication_cases c publish accepts with ⟨hq, h⟩ | h
  · rw [h]
    simp [hq]
  · rw [h]
    simp

/-- The packet a stored message came with, as it is passed on. -/
def storedPublish (m : Messages) : Publish :=
  ⟨⟨.RESERVED, false, m.qos, m.retain⟩, m.publish.topic, m.msgid, m.publish.payload⟩

/-- **A release**: the message is passed on and forgotten, if it is there. -/
theorem handlePubrels_cases (c : Clients)
    (hheld : ∀ m ∈ c.inboundMsgs, m.qos = 2 ∧ m.nextMessageType = some .PUBREL) (j : ℕ)
    (accepts : Bool) (answer : CompletionCode) :
    ∃ c₁, (MQTTProtocol_handlePubrels c j accepts answer).2 = (answerAck c₁ .PUBCOMP j answer).2 ∧
      (findMsg c.inboundMsgs j = none ∧ c₁ = c ∨ ∃ m, findMsg c.inboundMsgs j = some m ∧
        c₁ = { Protocol_processPublication c (storedPublish m) accepts with
          inboundMsgs := removeMsg c.inboundMsgs j }) := by
  refine ⟨_, rfl, ?_⟩
  rcases hm : findMsg c.inboundMsgs j with _ | m
  · exact Or.inl ⟨rfl, rfl⟩
  · refine Or.inr ⟨m, rfl, ?_⟩
    dsimp only
    rw [if_pos (hheld m (findMsg_mem hm)), processPublication_inbound]
    rfl

/-! ### Retries -/

/-- A packet that repeats what is under way. -/
def Repeats (msgs : List Messages) (p : Packet) : Prop :=
  ∃ m ∈ msgs.map untouched,
    p = publishPacket m true ∧ (m.qos = 1 ∨ m.qos = 2 ∧ m.nextMessageType = some .PUBREC) ∨
      p = ackPacket .PUBREL m.msgid ∧ m.qos ≠ 1 ∧ m.nextMessageType = some .PUBCOMP

theorem map_set_untouched {msgs : List Messages} {k now : ℕ} {m : Messages}
    (h : msgs[k]? = some m) :
    (msgs.set k { m with lastTouch := now }).map untouched = msgs.map untouched := by
  obtain ⟨hk, rfl⟩ := List.getElem?_eq_some_iff.mp h
  have hk' : k < (msgs.map untouched).length := by simpa using hk
  have hm : untouched { msgs[k] with lastTouch := now } = (msgs.map untouched)[k] := by
    simp [untouched]
  rw [List.map_set, hm, List.set_getElem_self]

/-- What retries do: the rest stays, the outgoing packets are followed by repetitions. -/
structure Retried (c c' : Clients) : Prop where
  rest_eq : rest c' = rest c
  ready : Ready c → Ready c'
  outgoing : Ready c → ∃ l, Effects.outgoing c' = Effects.outgoing c ++ l ∧
    ∀ p ∈ l, Repeats c.outboundMsgs p

theorem Retried.refl (c : Clients) : Retried c c := ⟨rfl, id, fun _ => ⟨[], by simp, by simp⟩⟩

theorem Retried.trans {c c' c'' : Clients} (h : Retried c c') (h' : Retried c' c'') :
    Retried c c'' := by
  refine ⟨h'.rest_eq.trans h.rest_eq, fun hc => h'.ready (h.ready hc), fun hc => ?_⟩
  obtain ⟨l, hl, hP⟩ := h.outgoing hc
  obtain ⟨l', hl', hP'⟩ := h'.outgoing (h.ready hc)
  refine ⟨l ++ l', by rw [hl', hl, List.append_assoc], fun p hp => ?_⟩
  rcases List.mem_append.mp hp with hp | hp
  · exact hP p hp
  · have hmsgs : c'.outboundMsgs.map untouched = c.outboundMsgs.map untouched :=
      congrArg Clients.outboundMsgs h.rest_eq
    unfold Repeats
    rw [← hmsgs]
    exact hP' p hp

/-- One message of the list is repeated. -/
theorem retried_put {c : Clients} {p : Packet} (hp : Repeats c.outboundMsgs p)
    (answer : CompletionCode) : Retried c (put c p answer).2 := by
  refine ⟨rest_put c p answer, fun h => (outgoing_put h p answer).1, fun h => ?_⟩
  obtain ⟨l, hl, hl'⟩ := (outgoing_put h p answer).2
  refine ⟨l, hl, fun q hq => ?_⟩
  rcases hl' with rfl | rfl
  · simp at hq
  · exact List.mem_singleton.mp hq ▸ hp

/-- Only the times and the counters change. -/
theorem retried_touch {c c' : Clients} (hrest : rest c' = rest c) (hnet : c'.net = c.net)
    (hw : c'.pendingWrites = c.pendingWrites) (hq : c'.outboundQueue = c.outboundQueue) :
    Retried c c' := by
  refine ⟨hrest, fun h => ?_, fun _ => ⟨[], ?_, by simp⟩⟩
  · unfold Ready
    rw [hw, hq]
    exact h
  · simp [Effects.outgoing, hnet, hq]

/-- One message is repeated, or not. -/
theorem retried_message {c : Clients} {k : ℕ} {m : Messages} (hm : c.outboundMsgs[k]? = some m)
    (now : ℕ) (regardless : Bool) (answer : CompletionCode) :
    Retried c (retryMessage now regardless k m answer c).2 := by
  unfold retryMessage
  by_cases hdue : regardless ∨ max c.retryInterval 10 * 1000 < now - m.lastTouch
  · rw [if_pos hdue]
    dsimp only
    obtain ⟨hcount, hmsgs⟩ : Retried c (countRetry regardless c) ∧
        (countRetry regardless c).outboundMsgs = c.outboundMsgs := by
      unfold countRetry
      split_ifs
      · exact ⟨retried_touch rfl rfl rfl rfl, rfl⟩
      · exact ⟨Retried.refl c, rfl⟩
    generalize countRetry regardless c = c₀ at hcount hmsgs ⊢
    rw [← hmsgs] at hm
    have hmem : untouched m ∈ c₀.outboundMsgs.map untouched :=
      List.mem_map_of_mem (List.mem_of_getElem? hm)
    -- after a packet has been sent, the time of the message is set
    have hsend : ∀ p, Repeats c₀.outboundMsgs p → Retried c (put c₀ p answer).2 ∧
        Retried c { (put c₀ p answer).2 with
          outboundMsgs := c₀.outboundMsgs.set k { m with lastTouch := now } } := by
      intro p hp
      have hput := hcount.trans (retried_put hp answer)
      refine ⟨hput, hput.trans (retried_touch ?_ rfl rfl rfl)⟩
      have hmap : (put c₀ p answer).2.outboundMsgs.map untouched = c₀.outboundMsgs.map untouched :=
        congrArg Clients.outboundMsgs (rest_put c₀ p answer)
      simp only [rest, map_set_untouched hm, hmap]
    split_ifs with hpub hfail hrel hdone
    · exact (hsend _ ⟨_, hmem, Or.inl ⟨rfl, hpub⟩⟩).1
    · exact (hsend _ ⟨_, hmem, Or.inl ⟨rfl, hpub⟩⟩).2
    · have hqos : m.qos ≠ 1 := fun h => hpub (Or.inl h)
      exact (hsend _ ⟨_, hmem, Or.inr ⟨rfl, hqos, hrel.2⟩⟩).2
    · have hqos : m.qos ≠ 1 := fun h => hpub (Or.inl h)
      exact (hsend _ ⟨_, hmem, Or.inr ⟨rfl, hqos, hrel.2⟩⟩).1
    · exact hcount
  · rw [if_neg hdue]
    exact Retried.refl c

/-- **The loop of the retries**, by induction on the messages that are left. -/
theorem retried_loop (now : ℕ) (regardless : Bool) : ∀ (n k : ℕ) (answers : List CompletionCode)
    (c : Clients), Retried c (retriesLoop now regardless n k answers c).2
  | 0, _, _, c => Retried.refl c
  | n + 1, k, answers, c => by
    rw [retriesLoop]
    split_ifs with hgo
    · rcases hm : c.outboundMsgs[k]? with _ | m
      · exact Retried.refl c
      · have hmessage := retried_message hm now regardless (answers.headD .TCPSOCKET_COMPLETE)
        dsimp only
        split_ifs
        · exact hmessage
        · exact hmessage.trans (retried_loop now regardless n (k + 1) answers.tail _)
    · exact Retried.refl c

theorem retried_retry (now : ℕ) (c : Clients) (doRetry regardless : Bool)
    (answers : List CompletionCode) :
    Retried c (MQTTProtocol_retry now c doRetry regardless answers).2 := by
  unfold MQTTProtocol_retry MQTTProtocol_retries
  split_ifs
  · exact Retried.refl c
  · have hcount : Retried c { c with connect_count := c.outboundMsgs.length } :=
      retried_touch rfl rfl rfl rfl
    exact hcount.trans (retried_loop now _ _ 0 answers _)
  · exact retried_loop now _ _ 0 answers c
  · exact Retried.refl c

/-- After the retries the session is closed, or it is not. -/
theorem retryOrClose_cases (now : ℕ) (c : Clients) (doRetry regardless more_to_try : Bool)
    (answers : List CompletionCode) (answer : CompletionCode) :
    ∃ c', Retried c c' ∧
      (retryOrClose now c doRetry regardless more_to_try answers answer = c' ∨
        retryOrClose now c doRetry regardless more_to_try answers answer
          = nextOrClose c' more_to_try answer) := by
  refine ⟨_, retried_retry now c doRetry regardless answers, ?_⟩
  rcases hclose : (MQTTProtocol_retry now c doRetry regardless answers).1 with _ | _
  · exact Or.inl (by simp [retryOrClose, hclose])
  · exact Or.inr (by simp [retryOrClose, hclose])

/-! ### Connections -/

/-- The client when a connection is there, before anything is repeated. -/
def resumed (c : Clients) (sessionPresent : Bool) : Clients :=
  if c.cleansession || !sessionPresent then MQTTAsync_cleanSession { c with connected := true }
  else { c with connected := true }

/-- Then what is under way is repeated; only that may close the session again. -/
theorem completeConnection_cases (c : Clients) (sessionPresent more_to_try : Bool)
    (answers : List CompletionCode) (answer : CompletionCode) :
    ∃ c', Retried (resumed c sessionPresent) c' ∧
      (MQTTAsync_completeConnection c sessionPresent more_to_try answers answer = c' ∨
        MQTTAsync_completeConnection c sessionPresent more_to_try answers answer
          = nextOrClose c' more_to_try answer) := by
  have htouch : Retried (resumed c sessionPresent) { resumed c sessionPresent with
      outboundMsgs := (resumed c sessionPresent).outboundMsgs.map untouched } := by
    refine retried_touch ?_ rfl rfl rfl
    simp [rest, Function.comp_def, untouched]
  obtain ⟨c', hretried, hcases⟩ := retryOrClose_cases 0 { resumed c sessionPresent with
    outboundMsgs := (resumed c sessionPresent).outboundMsgs.map untouched } true true more_to_try
    answers answer
  by_cases hmsgs : 0 < (resumed c sessionPresent).outboundMsgs.length
  · exact ⟨c', htouch.trans hretried, hcases.imp (if_pos hmsgs).trans (if_pos hmsgs).trans⟩
  · exact ⟨_, Retried.refl _, Or.inl (if_neg hmsgs)⟩

/-- The last packet of a connection, if it can be sent. -/
theorem closeOnly_cases (c : Clients) (answer : CompletionCode) :
    MQTTAsync_closeOnly c answer = { c with connected := false, pendingWrites := false } ∨
      c.connected ∧ c.pendingWrites = false ∧ MQTTAsync_closeOnly c answer = { c with
        net := c.net ++ [disconnectPacket], connected := false, pendingWrites := false } := by
  unfold MQTTAsync_closeOnly
  split_ifs with hready
  · rcases put_cases c disconnectPacket answer with hput | ⟨hw, rc, b, -, hput⟩
    · exact Or.inl (by rw [hput])
    · exact Or.inr ⟨(Bool.and_eq_true_iff.mp hready).1, hw, by rw [hput]⟩
  · exact Or.inl rfl

/-- With another address to try a session that is to be clean is not cleaned yet. -/
theorem nextOrClose_cases (c : Clients) (more_to_try : Bool) (answer : CompletionCode) :
    nextOrClose c more_to_try answer = MQTTAsync_closeOnly c answer ∨
      c.cleansession ∧
        nextOrClose c more_to_try answer = MQTTAsync_cleanSession (MQTTAsync_closeOnly c answer) := by
  have hclean : (MQTTAsync_closeOnly c answer).cleansession = c.cleansession := by
    rcases closeOnly_cases c answer with h | ⟨-, -, h⟩ <;> rw [h]
  unfold nextOrClose MQTTAsync_closeSession
  by_cases hmore : more_to_try
  · exact Or.inl (if_pos hmore)
  · rw [if_neg hmore]
    by_cases hc : (MQTTAsync_closeOnly c answer).cleansession
    · exact Or.inr ⟨hclean ▸ hc, if_pos hc⟩
    · exact Or.inl (if_neg hc)

/-- **A closed connection**: the session stays unless it is to be clean, and what was on the way stays
on the way, with a last packet perhaps. -/
structure Closed (c c' : Clients) : Prop where
  connected : c'.connected = false
  cleansession : c'.cleansession = c.cleansession
  inbound : c.cleansession = false → c'.inboundMsgs = c.inboundMsgs
  outbound : c.cleansession = false → c'.outboundMsgs = c.outboundMsgs
  arrived : c'.delivered ++ c'.messageQueue = c.delivered ++ c.messageQueue
  commands : c'.commands = c.commands
  accepted : c'.accepted = c.accepted
  outgoing : Effects.outgoing c' = Effects.outgoing c ∨
    Effects.outgoing c' = Effects.outgoing c ++ [disconnectPacket]

theorem closed_nextOrClose (h : c.connected = true → Ready c) (more_to_try : Bool)
    (answer : CompletionCode) : Closed c (nextOrClose c more_to_try answer) := by
  have hclose : Closed c (MQTTAsync_closeOnly c answer) := by
    rcases closeOnly_cases c answer with heq | ⟨hconnected, hw, heq⟩
    · rw [heq]
      exact ⟨rfl, rfl, fun _ => rfl, fun _ => rfl, rfl, rfl, rfl, Or.inl rfl⟩
    · have hq := (h hconnected).queue_eq hw
      rw [heq]
      exact ⟨rfl, rfl, fun _ => rfl, fun _ => rfl, rfl, rfl, rfl, Or.inr (by simp [outgoing, hq])⟩
  rcases nextOrClose_cases c more_to_try answer with heq | ⟨hclean, heq⟩
  · rwa [heq]
  · rw [heq]
    exact ⟨hclose.connected, hclose.cleansession, fun h0 => by simp [hclean] at h0,
      fun h0 => by simp [hclean] at h0, hclose.arrived, hclose.commands, hclose.accepted,
      hclose.outgoing⟩

end LanternProject.Mqtt.Effects
