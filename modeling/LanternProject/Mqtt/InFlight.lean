import LanternProject.Mqtt.Effects

/-! # What is outstanding

The messages a client has accepted and not finished, its ids and the responses of its publications
with quality of service 1 or 2, over whole runs.

* `outstanding_run`: at all times the ids in use are different ones between `1` and `MAX_MSG_ID`, such
  a response waits for a message that is under way, the buffered messages are counted right, and there
  are not more of them, nor more messages under way, than allowed.
* `send_cases`: a message that is sent gets an id that is free.
* `assign_ends`: the search for such an id ends. -/

namespace LanternProject.Mqtt.InFlight

open LanternProject.Lib.Runs
open LanternProject.Mqtt.MQTTPacket LanternProject.Mqtt.SocketBuffer LanternProject.Mqtt.MessageIds
open LanternProject.Mqtt.MQTTProtocolClient LanternProject.Mqtt.MQTTAsync LanternProject.Mqtt.Broker
open LanternProject.Mqtt.Effects

/-- The ids of the messages under way and of those that wait to be sent. -/
def ids (c : Clients) : List ℕ :=
  c.outboundMsgs.map Messages.msgid
    ++ (c.commands.filter fun command => 0 < command.qos).map MQTTAsync_command.token

/-- **What is outstanding**: the ids, the responses, what each message waits for, and the numbers. -/
structure Outstanding (c : Clients) : Prop where
  lastId : c.msgID ≤ MAX_MSG_ID
  range : ∀ i ∈ ids c, 1 ≤ i ∧ i ≤ MAX_MSG_ID
  distinct : (ids c).Nodup
  tokens : (c.responses.map MQTTAsync_command.token).Nodup
  responses : ∀ i ∈ c.responses.map MQTTAsync_command.token, i ∈ c.outboundMsgs.map Messages.msgid
  waits : ∀ m ∈ c.outboundMsgs, m.qos = 1 ∨ m.qos = 2 ∧
    (m.nextMessageType = some .PUBREC ∨ m.nextMessageType = some .PUBCOMP)
  qos : ∀ command ∈ c.commands, command.qos ≤ 2
  inbound : (c.inboundMsgs.map Messages.msgid).Nodup
  held : ∀ m ∈ c.inboundMsgs, m.qos = 2 ∧ m.nextMessageType = some .PUBREL
  buffered : c.noBufferedMessages = c.commands.length
  room : (c.commands.length : ℤ) ≤ max 0 c.maxBufferedMessages
  inflight : c.outboundMsgs.length ≤ c.maxInflightMessages
  fresh : c.msgID = 0 → ((ids c).length : ℤ) ≤ max 0 c.maxBufferedMessages
  tokenless : ∀ command ∈ c.commands, command.qos = 0 → command.token = 0

variable {c c' : Clients}

theorem ids_rest (c : Clients) : ids (rest c) = ids c := by
  simp [ids, rest, Function.comp_def, untouched]

theorem outstanding_rest : Outstanding (rest c) ↔ Outstanding c := by
  have hmap : (rest c).outboundMsgs.map Messages.msgid = c.outboundMsgs.map Messages.msgid := by
    simp [rest, Function.comp_def, untouched]
  constructor
  · intro h
    exact ⟨h.lastId, ids_rest c ▸ h.range, ids_rest c ▸ h.distinct, h.tokens, hmap ▸ h.responses,
      fun m hm => h.waits (untouched m) (List.mem_map_of_mem hm), h.qos, h.inbound, h.held,
      h.buffered, h.room, by simpa [rest] using h.inflight, ids_rest c ▸ h.fresh, h.tokenless⟩
  · intro h
    refine ⟨h.lastId, (ids_rest c).symm ▸ h.range, (ids_rest c).symm ▸ h.distinct, h.tokens,
      hmap.symm ▸ h.responses, ?_, h.qos, h.inbound, h.held, h.buffered, h.room,
      by simpa [rest] using h.inflight, (ids_rest c).symm ▸ h.fresh, h.tokenless⟩
    intro m' hm'
    obtain ⟨m, hm, rfl⟩ := List.mem_map.mp hm'
    exact h.waits m hm

/-- It does not depend on the socket and the retries. -/
theorem Outstanding.congr (h : Outstanding c) (hrest : rest c' = rest c) : Outstanding c' :=
  outstanding_rest.mp (hrest ▸ outstanding_rest.mpr h)

theorem Outstanding.setConnected (h : Outstanding c) (connected : Bool) :
    Outstanding { c with connected := connected } :=
  ⟨h.lastId, h.range, h.distinct, h.tokens, h.responses, h.waits, h.qos, h.inbound, h.held,
    h.buffered, h.room, h.inflight, h.fresh, h.tokenless⟩

theorem Outstanding.nodup (h : Outstanding c) : (c.outboundMsgs.map Messages.msgid).Nodup :=
  (List.nodup_append.mp h.distinct).1

/-! ### Sending -/

/-- An id that is not in use is neither that of a message nor that of a command. -/
theorem not_inUse {others : ℕ → Bool} {i : ℕ} (h : inUse c others i = false) :
    i ∉ ids c ∧ others i = false := by
  simp only [inUse, Bool.or_eq_false_iff, List.any_eq_false, decide_eq_true_eq] at h
  obtain ⟨⟨⟨hcommands, hmsgs⟩, -⟩, hothers⟩ := h
  refine ⟨fun hi => ?_, hothers⟩
  rcases List.mem_append.mp hi with hi | hi
  · obtain ⟨m, hm, rfl⟩ := List.mem_map.mp hi
    exact hmsgs m hm rfl
  · obtain ⟨command, hcommand, rfl⟩ := List.mem_map.mp hi
    exact hcommands command (List.mem_of_mem_filter hcommand) rfl

/-- An id that is given is free. -/
theorem assignMsgId_some (h : Outstanding c) {others : ℕ → Bool} {msgid : ℕ}
    (hassign : MQTTAsync_assignMsgId c others = some (msgid, c')) :
    (msgid = 0 ∧ c' = c) ∨ 1 ≤ msgid ∧ msgid ≤ MAX_MSG_ID ∧ msgid ∉ ids c ∧ others msgid = false ∧
      c' = { c with msgID := msgid } := by
  obtain ⟨i, hi, heq⟩ := Option.map_eq_some_iff.mp hassign
  obtain ⟨rfl, rfl⟩ := Prod.mk.inj heq
  by_cases h0 : i = 0
  · exact Or.inl ⟨h0, by simp [h0]⟩
  · obtain ⟨hpos, hmax, hfree⟩ := free_of_assign h.lastId hi h0
    obtain ⟨hids, hothers⟩ := not_inUse hfree
    exact Or.inr ⟨hpos, hmax, hids, hothers, if_neg h0⟩

theorem Outstanding.setMsgID (h : Outstanding c) {msgid : ℕ} (hmax : msgid ≤ MAX_MSG_ID)
    (h0 : msgid = 0 → c.msgID = 0) : Outstanding { c with msgID := msgid } :=
  ⟨hmax, h.range, h.distinct, h.tokens, h.responses, h.waits, h.qos, h.inbound, h.held,
    h.buffered, h.room, h.inflight, fun heq => h.fresh (h0 heq), h.tokenless⟩

/-- A command with a free id, or one that needs none, is added. -/
theorem outstanding_addCommand (h : Outstanding c) {command : MQTTAsync_command}
    (hqos : command.qos ≤ 2)
    (hid : 0 < command.qos → 1 ≤ command.token ∧ command.token ≤ MAX_MSG_ID ∧
      command.token ∉ ids c ∧ c.msgID ≠ 0)
    (hzero : command.qos = 0 → command.token = 0)
    (hroom : c.noBufferedMessages < c.maxBufferedMessages) :
    Outstanding (MQTTAsync_addCommand c command) := by
  have hids : ids (MQTTAsync_addCommand c command)
      = ids c ++ if 0 < command.qos then [command.token] else [] := by
    by_cases hpos : 0 < command.qos <;>
      simp [ids, MQTTAsync_addCommand, List.filter_append, hpos]
  refine ⟨h.lastId, fun i hi => ?_, ?_, h.tokens, h.responses, h.waits, ?_, h.inbound, h.held, ?_, ?_,
    h.inflight, fun h0 => ?_, ?_⟩
  · rw [hids] at hi
    rcases List.mem_append.mp hi with hi | hi
    · exact h.range i hi
    · split_ifs at hi with hpos
      · obtain rfl := List.mem_singleton.mp hi
        exact ⟨(hid hpos).1, (hid hpos).2.1⟩
      · simp at hi
  · rw [hids]
    split_ifs with hpos
    · refine List.nodup_append.mpr ⟨h.distinct, List.nodup_singleton _, ?_⟩
      rintro i hi _ hj rfl
      obtain rfl := List.mem_singleton.mp hj
      exact (hid hpos).2.2.1 hi
    · simpa using h.distinct
  · intro command' hcommand'
    rcases List.mem_append.mp hcommand' with hcommand' | hcommand'
    · exact h.qos command' hcommand'
    · obtain rfl := List.mem_singleton.mp hcommand'
      exact hqos
  · simp [MQTTAsync_addCommand, h.buffered]
  · have hlen := h.buffered
    simp only [MQTTAsync_addCommand, List.length_append, List.length_singleton]
    push_cast
    omega
  · rw [hids]
    split_ifs with hpos
    · exact absurd h0 (hid hpos).2.2.2
    · rw [List.append_nil]
      exact h.fresh h0
  · intro command' hcommand'
    rcases List.mem_append.mp hcommand' with hcommand' | hcommand'
    · exact h.tokenless command' hcommand'
    · obtain rfl := List.mem_singleton.mp hcommand'
      exact hzero

/-- What a message gets as its token. -/
theorem newToken_some (h : Outstanding c) {others : ℕ → Bool} {qos : ℤ} {i : ℕ}
    (hnew : newToken c others qos = some (i, c')) :
    ∃ msgid ≤ MAX_MSG_ID, c' = { c with msgID := msgid } ∧ (msgid = 0 → c.msgID = 0) ∧
      (0 < qos → i ≠ 0 → msgid = i ∧ 1 ≤ i ∧ i ≤ MAX_MSG_ID ∧ i ∉ ids c ∧ others i = false) ∧
      (¬0 < qos → i = 0) := by
  unfold newToken at hnew
  split_ifs at hnew with hpos
  · rcases assignMsgId_some h hnew with ⟨rfl, rfl⟩ | ⟨h1, hmax, hids, hothers, rfl⟩
    · exact ⟨_, h.lastId, rfl, id, fun _ h0 => absurd rfl h0, fun hneg => absurd hpos hneg⟩
    · exact ⟨i, hmax, rfl, by omega, fun _ _ => ⟨rfl, h1, hmax, hids, hothers⟩,
        fun hneg => absurd hpos hneg⟩
  · obtain ⟨rfl, rfl⟩ := Prod.mk.inj (Option.some.inj hnew)
    exact ⟨_, h.lastId, rfl, id, fun hpos' => absurd hpos' hpos, fun _ => rfl⟩

/-- **A message is sent**: it is refused, or becomes a command with an id that was free. -/
theorem send_cases (h : Outstanding c) {others : ℕ → Bool} {destinationName payload : Bytes}
    {qos : ℤ} {retained : Bool} {rc : ReturnCode}
    (hsend : MQTTAsync_send c others destinationName payload qos retained = some (rc, c')) :
    ∃ msgid ≤ MAX_MSG_ID, (msgid = 0 → c.msgID = 0) ∧
      ((rc ≠ .MQTTASYNC_SUCCESS ∧ c' = { c with msgID := msgid }) ∨
        rc = .MQTTASYNC_SUCCESS ∧ c.noBufferedMessages < c.maxBufferedMessages ∧
        0 ≤ qos ∧ qos ≤ 2 ∧ ∃ i, (¬0 < qos → i = 0) ∧
          (0 < qos → msgid = i ∧ 1 ≤ i ∧ i ≤ MAX_MSG_ID ∧ i ∉ ids c ∧ others i = false) ∧
          c' = MQTTAsync_addCommand { c with msgID := msgid }
            ⟨i, cString destinationName, payload, Fin.ofNat 4 qos.toNat, retained⟩) := by
  unfold MQTTAsync_send at hsend
  split_ifs at hsend with hconnected hutf8 hqos
  · obtain ⟨rfl, rfl⟩ := Prod.mk.inj (Option.some.inj hsend)
    exact ⟨_, h.lastId, id, Or.inl ⟨by simp, rfl⟩⟩
  · obtain ⟨rfl, rfl⟩ := Prod.mk.inj (Option.some.inj hsend)
    exact ⟨_, h.lastId, id, Or.inl ⟨by simp, rfl⟩⟩
  · obtain ⟨rfl, rfl⟩ := Prod.mk.inj (Option.some.inj hsend)
    exact ⟨_, h.lastId, id, Or.inl ⟨by simp, rfl⟩⟩
  rcases hnew : newToken c others qos with _ | ⟨i, c₁⟩
  · simp [hnew] at hsend
  rw [hnew] at hsend
  dsimp only at hsend
  obtain ⟨msgid, hmax, rfl, hzero, hfree, hnone⟩ := newToken_some h hnew
  refine ⟨msgid, hmax, hzero, ?_⟩
  split_ifs at hsend with hids hfull
  · obtain ⟨rfl, rfl⟩ := Prod.mk.inj (Option.some.inj hsend)
    exact Or.inl ⟨by simp, rfl⟩
  · obtain ⟨rfl, rfl⟩ := Prod.mk.inj (Option.some.inj hsend)
    exact Or.inl ⟨by simp, rfl⟩
  · obtain ⟨rfl, rfl⟩ := Prod.mk.inj (Option.some.inj hsend)
    exact Or.inr ⟨rfl, not_le.mp hfull, by omega, by omega, i, hnone,
      fun hpos => hfree hpos fun h0 => hids ⟨hpos, h0⟩, rfl⟩

/-- The quality of service as the command has it. -/
theorem pos_ofNat_qos {qos : ℤ} (h0 : 0 ≤ qos) (h2 : qos ≤ 2) :
    (Fin.ofNat 4 qos.toNat : Fin 4) ≤ 2 ∧ (0 < (Fin.ofNat 4 qos.toNat : Fin 4) ↔ 0 < qos) := by
  have hcases : qos = 0 ∨ qos = 1 ∨ qos = 2 := by omega
  rcases hcases with rfl | rfl | rfl <;> decide

theorem outstanding_send (h : Outstanding c) {others : ℕ → Bool} {destinationName payload : Bytes}
    {qos : ℤ} {retained : Bool} {rc : ReturnCode}
    (hsend : MQTTAsync_send c others destinationName payload qos retained = some (rc, c')) :
    Outstanding c' := by
  obtain ⟨msgid, hmax, hzero, hcases⟩ := send_cases h hsend
  rcases hcases with ⟨-, rfl⟩ | ⟨-, hroom, h0, h2, i, hnone, hfree, rfl⟩
  · exact h.setMsgID hmax hzero
  · obtain ⟨hle, hpos⟩ := pos_ofNat_qos h0 h2
    refine outstanding_addCommand (h.setMsgID hmax hzero) hle (fun hq => ?_) (fun hq => ?_) hroom
    · obtain ⟨rfl, h1, hmax', hids, -⟩ := hfree (hpos.mp hq)
      exact ⟨h1, hmax', hids, by simp only; omega⟩
    · refine hnone fun hq' => ?_
      have hlt := hpos.mpr hq'
      exact absurd hq (Fin.pos_iff_ne_zero.mp hlt)

/-! ### Processing commands -/

/-- A command is taken from the queue, and its message is under way. -/
def started (c : Clients) (command : MQTTAsync_command) (commands responses : List MQTTAsync_command)
    (now : ℕ) : Clients :=
  { c with
    commands := commands
    noBufferedMessages := c.noBufferedMessages - 1
    outboundMsgs :=
      if 0 < command.qos then c.outboundMsgs ++ [MQTTProtocol_createMessage command now]
      else c.outboundMsgs
    responses := responses }

theorem put_responses (c : Clients) (p : Packet) (answer : CompletionCode)
    (command : MQTTAsync_command) :
    (put { c with responses := c.responses ++ [command] } p answer).2
      = { (put c p answer).2 with responses := (put c p answer).2.responses ++ [command] } := by
  unfold put Socket_noPendingWrites
  split_ifs
  · cases answer <;> rfl
  · rfl

/-- **What processing a command does**: nothing, or its message is started and its packet given to
the socket. -/
theorem processCommand_cases (c : Clients) (now : ℕ) (answer : CompletionCode) :
    MQTTAsync_processCommand c now answer = c ∨ ∃ command commands responses,
      c.commands = command :: commands ∧ c.connected ∧
      (0 < command.qos → c.outboundMsgs.length < c.maxInflightMessages) ∧
      (responses = c.responses ∨ 0 < command.qos ∧ responses = c.responses ++ [command]) ∧
      MQTTAsync_processCommand c now answer = (put (started c command commands responses now)
        (publishPacket (MQTTProtocol_createMessage command now) false) answer).2 := by
  unfold MQTTAsync_processCommand
  rcases hcommands : c.commands with _ | ⟨command, commands⟩
  · exact Or.inl rfl
  dsimp only
  by_cases hready : c.connected && Socket_noPendingWrites c
  swap
  · exact Or.inl (if_neg hready)
  rw [if_pos hready]
  by_cases hids : MAX_MSG_ID - 1 ≤ c.outboundMsgs.length
  · exact Or.inl (if_pos hids)
  rw [if_neg hids]
  by_cases hflight : 0 < command.qos ∧ c.maxInflightMessages ≤ c.outboundMsgs.length
  · exact Or.inl (if_pos hflight)
  rw [if_neg hflight]
  obtain ⟨hconnected, hwrites⟩ := Bool.and_eq_true_iff.mp hready
  have hlt : 0 < command.qos → c.outboundMsgs.length < c.maxInflightMessages := by
    intro hpos
    by_contra hge
    exact hflight ⟨hpos, not_lt.mp hge⟩
  have hstart : MQTTProtocol_startPublish
        { c with commands := commands, noBufferedMessages := c.noBufferedMessages - 1 } command now
        answer
      = put (started c command commands c.responses now)
        (publishPacket (MQTTProtocol_createMessage command now) false) answer := rfl
  rw [hstart]
  by_cases hresp : command.qos = 0 ∨ (put (started c command commands c.responses now)
    (publishPacket (MQTTProtocol_createMessage command now) false) answer).1 = .SOCKET_ERROR
  · exact Or.inr ⟨command, commands, c.responses, rfl, hconnected, hlt, Or.inl rfl, if_pos hresp⟩
  · have hpos : 0 < command.qos := Fin.pos_iff_ne_zero.mpr fun h0 => hresp (Or.inl h0)
    have hput := put_responses (started c command commands c.responses now)
      (publishPacket (MQTTProtocol_createMessage command now) false) answer command
    exact Or.inr ⟨command, commands, c.responses ++ [command], rfl, hconnected, hlt,
      Or.inr ⟨hpos, rfl⟩, (if_neg hresp).trans hput.symm⟩

/-- **A command is processed**: its id goes from the command to the message. -/
theorem outstanding_processCommand (h : Outstanding c) (now : ℕ) (answer : CompletionCode) :
    Outstanding (MQTTAsync_processCommand c now answer) := by
  rcases processCommand_cases c now answer with
    heq | ⟨command, commands, responses, hcommands, -, hlt, hresp, heq⟩
  · rwa [heq]
  rw [heq]
  refine Outstanding.congr ?_ (rest_put _ _ _)
  have hids : ids (started c command commands responses now) = ids c := by
    by_cases hpos : 0 < command.qos <;>
      simp [ids, started, hcommands, hpos, MQTTProtocol_createMessage]
  have hqos := h.qos command (hcommands ▸ List.mem_cons_self)
  have hold : ∀ i ∈ c.outboundMsgs.map Messages.msgid,
      i ∈ (started c command commands responses now).outboundMsgs.map Messages.msgid := by
    intro i hi
    simp only [started]
    split_ifs
    · rw [List.map_append]
      exact List.mem_append_left _ hi
    · exact hi
  refine ⟨h.lastId, hids ▸ h.range, hids ▸ h.distinct, ?_, ?_, ?_, ?_, h.inbound, h.held, ?_, ?_, ?_,
    hids ▸ h.fresh, ?_⟩
  · rcases hresp with rfl | ⟨hpos, rfl⟩
    · exact h.tokens
    · -- the id of the command is none of a message, so none of a response
      have hnew : command.token ∉ c.outboundMsgs.map Messages.msgid := by
        intro hmem
        refine (List.nodup_append.mp h.distinct).2.2 _ hmem command.token ?_ rfl
        rw [hcommands]
        exact List.mem_map_of_mem (by simp [hpos])
      simp only [started, List.map_append, List.map_cons, List.map_nil]
      refine List.nodup_append.mpr ⟨h.tokens, List.nodup_singleton _, ?_⟩
      rintro i hi _ hj rfl
      obtain rfl := List.mem_singleton.mp hj
      exact hnew (h.responses _ hi)
  · intro i hi
    rcases hresp with rfl | ⟨hpos, rfl⟩
    · exact hold i (h.responses i hi)
    · simp only [started, List.map_append, List.map_cons, List.map_nil, List.mem_append,
        List.mem_singleton] at hi
      rcases hi with hi | rfl
      · exact hold i (h.responses i hi)
      · simp [started, hpos, MQTTProtocol_createMessage]
  · intro m hm
    simp only [started] at hm
    split_ifs at hm with hpos
    · rcases List.mem_append.mp hm with hm | hm
      · exact h.waits m hm
      · obtain rfl := List.mem_singleton.mp hm
        have hq : command.qos = 1 ∨ command.qos = 2 := by omega
        rcases hq with hq | hq
        · exact Or.inl hq
        · exact Or.inr ⟨hq, Or.inl (by simp [MQTTProtocol_createMessage, hq])⟩
    · exact h.waits m hm
  · intro command' hcommand'
    exact h.qos command' (hcommands ▸ List.mem_cons_of_mem _ hcommand')
  · have hlen := h.buffered
    rw [hcommands, List.length_cons] at hlen
    simp only [started]
    omega
  · have hroom := h.room
    rw [hcommands, List.length_cons] at hroom
    simp only [started]
    omega
  · simp only [started]
    split_ifs with hpos
    · rw [List.length_append, List.length_singleton]
      exact hlt hpos
    · exact h.inflight
  · intro command' hcommand'
    exact h.tokenless command' (hcommands ▸ List.mem_cons_of_mem _ hcommand')

/-! ### Packets that arrive -/

theorem map_removeResponse (c : Clients) (msgid : ℕ) :
    (removeResponse c msgid).responses.map MQTTAsync_command.token
      = (c.responses.map MQTTAsync_command.token).erase msgid :=
  map_eraseP MQTTAsync_command.token c.responses msgid

/-- A response is over, and possibly its message. -/
theorem Outstanding.remove (h : Outstanding c) {msgid : ℕ} {outboundMsgs : List Messages}
    (hmsgs : outboundMsgs = c.outboundMsgs ∨ outboundMsgs = removeMsg c.outboundMsgs msgid) :
    Outstanding (removeResponse { c with outboundMsgs := outboundMsgs } msgid) := by
  have hsub : outboundMsgs.Sublist c.outboundMsgs := by
    rcases hmsgs with rfl | rfl
    · exact List.Sublist.refl _
    · exact List.eraseP_sublist
  have hids : (ids (removeResponse { c with outboundMsgs := outboundMsgs } msgid)).Sublist (ids c) :=
    (hsub.map _).append_right _
  refine ⟨h.lastId, fun i hi => h.range i (hids.subset hi), hids.nodup h.distinct, ?_, ?_,
    fun m hm => h.waits m (hsub.subset hm), h.qos, h.inbound, h.held, h.buffered, h.room,
    hsub.length_le.trans h.inflight, fun h0 => ?_, h.tokenless⟩
  · rw [map_removeResponse]
    exact h.tokens.erase _
  · intro i hi
    rw [map_removeResponse] at hi
    obtain ⟨hne, hi⟩ := h.tokens.mem_erase_iff.mp hi
    have hold := h.responses i hi
    rcases hmsgs with rfl | rfl
    · exact hold
    · show i ∈ (removeMsg c.outboundMsgs msgid).map Messages.msgid
      rw [map_removeMsg]
      exact (List.mem_erase_of_ne hne).mpr hold
  · have hle := hids.length_le
    have hfresh := h.fresh h0
    show ((ids (removeResponse { c with outboundMsgs := outboundMsgs } msgid)).length : ℤ)
      ≤ max 0 c.maxBufferedMessages
    omega

theorem Outstanding.setInbound (h : Outstanding c) {inboundMsgs : List Messages}
    (hnodup : (inboundMsgs.map Messages.msgid).Nodup)
    (hheld : ∀ m ∈ inboundMsgs, m.qos = 2 ∧ m.nextMessageType = some .PUBREL) :
    Outstanding { c with inboundMsgs := inboundMsgs } :=
  ⟨h.lastId, h.range, h.distinct, h.tokens, h.responses, h.waits, h.qos, hnodup, hheld, h.buffered,
    h.room, h.inflight, h.fresh, h.tokenless⟩

theorem Outstanding.processPublication (h : Outstanding c) (publish : Publish) (accepts : Bool) :
    Outstanding (Protocol_processPublication c publish accepts) := by
  rcases processPublication_cases c publish accepts with ⟨-, heq⟩ | heq
  all_goals
    rw [heq]
    exact ⟨h.lastId, h.range, h.distinct, h.tokens, h.responses, h.waits, h.qos, h.inbound, h.held,
      h.buffered, h.room, h.inflight, h.fresh, h.tokenless⟩

theorem outstanding_handlePublishes (h : Outstanding c) (publish : Publish) (accepts : Bool)
    (answer : CompletionCode) :
    Outstanding (MQTTProtocol_handlePublishes c publish accepts answer).2 := by
  unfold MQTTProtocol_handlePublishes
  split_ifs with h0 h1 h2
  · exact h.processPublication publish accepts
  · exact (h.processPublication publish accepts).congr (rest_answerAck _ _ _ _)
  · refine Outstanding.congr (h.setInbound (nodup_storeMsg h.inbound _) fun m hm => ?_)
      (rest_answerAck _ _ _ _)
    rcases mem_storeMsg hm with rfl | hm
    · exact ⟨h2, rfl⟩
    · exact h.held m hm
  · exact h

theorem outstanding_handlePubrecs (h : Outstanding c) (i now : ℕ) (answer : CompletionCode) :
    Outstanding (MQTTProtocol_handlePubrecs c i now answer).2 := by
  obtain ⟨msgs, heq, hcases⟩ := handlePubrecs_cases c i now answer
  rw [heq]
  refine Outstanding.congr ?_ (rest_answerAck _ _ _ _)
  rcases hcases with ⟨rfl, -⟩ | ⟨m, hm, hqos, -, rfl⟩
  · exact h
  · have hmap := @map_updateMsg c.outboundMsgs (released now) (fun _ => rfl) i
    have hids : ids { c with outboundMsgs := updateMsg (released now) i c.outboundMsgs } = ids c := by
      simp only [ids, hmap]
    refine ⟨h.lastId, hids ▸ h.range, hids ▸ h.distinct, h.tokens, hmap ▸ h.responses, ?_, h.qos,
      h.inbound, h.held, h.buffered, h.room, ?_, hids ▸ h.fresh, h.tokenless⟩
    · intro m' hm'
      rcases mem_updateMsg hm' with hm' | ⟨m', hfound, rfl⟩
      · exact h.waits m' hm'
      · obtain rfl := Option.some.inj (hm.symm.trans hfound)
        exact Or.inr ⟨hqos, Or.inr rfl⟩
    · have hlen := congrArg List.length hmap
      simp only [List.length_map] at hlen
      exact hlen ▸ h.inflight

theorem outstanding_handlePubrels (h : Outstanding c) (i : ℕ) (accepts : Bool)
    (answer : CompletionCode) : Outstanding (MQTTProtocol_handlePubrels c i accepts answer).2 := by
  obtain ⟨c₁, heq, hcases⟩ := handlePubrels_cases c h.held i accepts answer
  rw [heq]
  refine Outstanding.congr ?_ (rest_answerAck _ _ _ _)
  rcases hcases with ⟨-, rfl⟩ | ⟨m, -, rfl⟩
  · exact h
  · have hsub : (removeMsg c.inboundMsgs i).Sublist c.inboundMsgs := List.eraseP_sublist
    exact (h.processPublication _ accepts).setInbound ((hsub.map _).nodup h.inbound)
      fun m hm => h.held m (hsub.subset hm)

/-- **A packet is handled.** -/
theorem outstanding_cycle (h : Outstanding c) (p : Packet) (now : ℕ) (accepts : Bool)
    (answer : CompletionCode) : Outstanding (MQTTAsync_cycle c p now accepts answer).2 := by
  cases p with
  | publish publish => exact outstanding_handlePublishes h publish accepts answer
  | ack header i =>
    obtain ⟨hacks, hcomps⟩ := confirmed_cases c i
    unfold MQTTAsync_cycle
    dsimp only
    split
    · rcases hcomps with ⟨heq, -⟩ | ⟨m, -, -, -, heq⟩
      · rw [heq]
        exact h.remove (Or.inl rfl)
      · rw [heq]
        exact h.remove (Or.inr rfl)
    · exact outstanding_handlePubrecs h i now answer
    · rcases hacks with ⟨heq, -⟩ | ⟨m, -, -, heq⟩
      · rw [heq]
        exact h.remove (Or.inl rfl)
      · rw [heq]
        exact h.remove (Or.inr rfl)
    · exact outstanding_handlePubrels h i accepts answer
    · exact h
  | suback header i qoss => exact h.remove (Or.inl rfl)
  | unsuback header i => exact h.remove (Or.inl rfl)
  | connack header flags rc => exact h
  | headerOnly header => exact h

theorem outstanding_deliverQueued (h : Outstanding c) (qe : qEntry) (messageQueue : List qEntry) :
    Outstanding { c with messageQueue := messageQueue, delivered := c.delivered ++ [qe] } :=
  ⟨h.lastId, h.range, h.distinct, h.tokens, h.responses, h.waits, h.qos, h.inbound, h.held,
    h.buffered, h.room, h.inflight, h.fresh, h.tokenless⟩

/-! ### Connections -/

theorem outstanding_cleanSession (h : Outstanding c) : Outstanding (MQTTAsync_cleanSession c) := by
  have hids : (ids (MQTTAsync_cleanSession c)).Sublist (ids c) := by
    simp [ids, MQTTAsync_cleanSession]
  refine ⟨Nat.zero_le _, fun i hi => h.range i (hids.subset hi), hids.nodup h.distinct, ?_, ?_, ?_,
    h.qos, ?_, ?_, h.buffered, h.room, Nat.zero_le _, fun _ => ?_, h.tokenless⟩
  iterate 5 simp [MQTTAsync_cleanSession]
  have hlen := List.length_filter_le (fun command => decide (0 < command.qos)) c.commands
  have hroom := h.room
  simp only [ids, MQTTAsync_cleanSession, List.map_nil, List.nil_append, List.length_map]
  omega

theorem outstanding_nextOrClose (h : Outstanding c) (more_to_try : Bool) (answer : CompletionCode) :
    Outstanding (nextOrClose c more_to_try answer) := by
  have hclose : Outstanding (MQTTAsync_closeOnly c answer) := by
    rcases closeOnly_cases c answer with heq | ⟨-, -, heq⟩
    · rw [heq]
      exact (h.setConnected false).congr rfl
    · rw [heq]
      exact (h.setConnected false).congr rfl
  rcases nextOrClose_cases c more_to_try answer with heq | ⟨-, heq⟩
  · rwa [heq]
  · rw [heq]
    exact outstanding_cleanSession hclose

/-- After retries the session may have been closed. -/
theorem Outstanding.retried (h : Outstanding c) {c' c'' : Clients} (hretried : Retried c c')
    {more_to_try : Bool} {answer : CompletionCode}
    (hcases : c'' = c' ∨ c'' = nextOrClose c' more_to_try answer) : Outstanding c'' := by
  have h' := h.congr hretried.rest_eq
  rcases hcases with rfl | rfl
  · exact h'
  · exact outstanding_nextOrClose h' more_to_try answer

theorem outstanding_resumed (h : Outstanding c) (sessionPresent : Bool) :
    Outstanding (resumed c sessionPresent) := by
  unfold resumed
  split_ifs
  · exact outstanding_cleanSession (h.setConnected true)
  · exact h.setConnected true

/-! ### Whole runs -/

theorem outstanding_initial (cleansession : Bool) (retryInterval maxInflightMessages : ℕ)
    (maxBufferedMessages : ℤ) : Outstanding
      (Clients.initial cleansession retryInterval maxInflightMessages maxBufferedMessages) := by
  constructor <;> simp [Clients.initial, ids]

/-- The broker does not touch the client but for reading what it has sent. -/
theorem brokerReads_c (s : Session) (p : Packet) : (s.brokerReads p).c = s.c := by
  cases p with
  | publish publish =>
    unfold Session.brokerReads
    dsimp only
    split_ifs <;> rfl
  | ack header i =>
    unfold Session.brokerReads
    dsimp only
    split <;> rfl
  | _ => rfl

/-- **One step** keeps what is outstanding in order. -/
theorem outstanding_step {s t : Session} {e : Event} (h : Outstanding s.c) (hs : Step s e t) :
    Outstanding t.c := by
  unfold Step at hs
  cases e with
  | send others destinationName payload qos retained =>
    obtain ⟨⟨rc, c⟩, hsend, rfl⟩ := Option.map_eq_some_iff.mp hs
    exact outstanding_send h hsend
  | processCommand now answer =>
    obtain rfl := Option.some.inj hs
    exact outstanding_processCommand h now answer
  | receive now accepts answer =>
    rcases hdown : s.down with _ | ⟨p, down⟩
    · simp [Session.step, hdown] at hs
    · simp only [Session.step, hdown] at hs
      split_ifs at hs
      obtain rfl := Option.some.inj hs
      exact outstanding_cycle h p now accepts answer
  | writeComplete answers =>
    simp only [Session.step] at hs
    split_ifs at hs
    obtain rfl := Option.some.inj hs
    exact h.congr (rest_writeAvailable s.c answers)
  | retry now doRetry more_to_try answers answer =>
    obtain rfl := Option.some.inj hs
    obtain ⟨c', hretried, hcases⟩ :=
      retryOrClose_cases now s.c doRetry false more_to_try answers answer
    exact h.retried hretried hcases
  | ping answer =>
    simp only [Session.step] at hs
    split_ifs at hs
    obtain rfl := Option.some.inj hs
    exact h.congr (rest_put s.c _ answer)
  | deliver accepts =>
    obtain rfl := Option.some.inj hs
    show Outstanding (deliverQueued s.c accepts)
    unfold deliverQueued
    split
    · exact h
    · split_ifs
      · exact outstanding_deliverQueued h _ _
      · exact h
  | close more_to_try answer =>
    obtain rfl := Option.some.inj hs
    exact outstanding_nextOrClose h more_to_try answer
  | connect sessionPresent more_to_try answers answer =>
    simp only [Session.step] at hs
    split_ifs at hs
    obtain rfl := Option.some.inj hs
    have hreconnect : Outstanding (s.reconnect sessionPresent).c := by
      unfold Session.reconnect
      split_ifs
      · exact h.congr rfl
      · exact h.congr rfl
    obtain ⟨c', hretried, hcases⟩ := completeConnection_cases (s.reconnect sessionPresent).c
      sessionPresent more_to_try answers answer
    exact (outstanding_resumed hreconnect sessionPresent).retried hretried hcases
  | offer i a =>
    simp only [Session.step] at hs
    split at hs
    · obtain rfl := Option.some.inj hs
      exact h
    · cases hs
  | again i dup =>
    obtain rfl := Option.some.inj hs
    exact h
  | read =>
    rcases hnet : s.c.net with _ | ⟨p, net⟩
    · simp [Session.step, hnet] at hs
    · simp only [Session.step, hnet, Option.some.injEq] at hs
      obtain rfl := hs
      rw [brokerReads_c]
      exact h.congr rfl
  | other p =>
    simp only [Session.step] at hs
    split_ifs at hs
    obtain rfl := Option.some.inj hs
    exact h

section Runs
variable {s : Session} {tr : List (Session × Event)} {cleansession : Bool}
  {retryInterval maxInflightMessages : ℕ} {maxBufferedMessages : ℤ}

/-- What is outstanding at the end of a run. -/
theorem outstanding_last (hr : Run Step (Session.initial (Clients.initial cleansession retryInterval
      maxInflightMessages maxBufferedMessages)) tr s) : Outstanding s.c :=
  hr.invariant' (I := fun s => Outstanding s.c) (outstanding_initial _ _ _ _)
    fun _ _ _ h hs => outstanding_step h hs

/-- **What is outstanding in every state of every run.** -/
theorem outstanding_run (hr : Run Step (Session.initial (Clients.initial cleansession retryInterval
      maxInflightMessages maxBufferedMessages)) tr s) : Always (fun s => Outstanding s.c) tr s :=
  hr.invariant (C := fun _ _ => True) (outstanding_initial _ _ _ _)
    (fun _ _ _ h _ hs => outstanding_step h hs) fun _ _ => trivial

theorem outstanding_run_sampleRun : ∃ tr s, Run Step sampleStart tr s ∧
    tr.map Prod.snd = sampleRun ∧ Always (fun s => Outstanding s.c) tr s := by
  obtain ⟨tr, s, hr, htr, -⟩ := run_sampleRun
  exact ⟨tr, s, hr, htr, outstanding_run hr⟩

/-- **The search for an id ends**, in any state of any run, unless the commands the client may buffer
and the ids of `others` can be all ids. A client whose last id is `0` has nothing else outstanding. -/
theorem assign_ends (hr : Run Step (Session.initial (Clients.initial cleansession retryInterval
      maxInflightMessages maxBufferedMessages)) tr s) {others : ℕ → Bool} {l : List ℕ}
    (hl : ∀ i, others i → i ∈ l)
    (hroom : l.length + max 0 s.c.maxBufferedMessages < MAX_MSG_ID) :
    MQTTAsync_assignMsgId s.c others ≠ none := by
  have h := outstanding_last hr
  intro hnone
  obtain ⟨h0, hall⟩ := used_of_endless h.lastId (Option.map_eq_none_iff.mp hnone)
  -- all ids are among those that are outstanding and the others
  have hmem : Finset.Icc 1 MAX_MSG_ID ⊆ (ids s.c ++ l).toFinset := by
    intro i hi
    obtain ⟨h1, hmax⟩ := Finset.mem_Icc.mp hi
    rw [List.mem_toFinset, List.mem_append]
    have hused := hall i h1 hmax
    simp only [inUse, Bool.or_eq_true_iff, List.any_eq_true, decide_eq_true_eq] at hused
    rcases hused with ((⟨command, hcommand, rfl⟩ | ⟨m, hm, rfl⟩) | ⟨command, hcommand, rfl⟩) | ho
    · have hpos : 0 < command.qos := by
        refine Fin.pos_iff_ne_zero.mpr fun hq => ?_
        rw [h.tokenless command hcommand hq] at h1
        omega
      exact Or.inl (List.mem_append_right _ (List.mem_map_of_mem (by simp [hcommand, hpos])))
    · exact Or.inl (List.mem_append_left _ (List.mem_map_of_mem hm))
    · exact Or.inl (List.mem_append_left _ (h.responses _ (List.mem_map_of_mem hcommand)))
    · exact Or.inr (hl i ho)
  have hcard := (Finset.card_le_card hmem).trans (List.toFinset_card_le _)
  rw [Nat.card_Icc, List.length_append] at hcard
  have hfresh := h.fresh h0
  omega

/-- Ten subscriptions are under way when the client starts. -/
theorem assign_ends_start :
    MQTTAsync_assignMsgId sampleStart.c (fun i => decide (i ∈ List.range' 1 10)) ≠ none :=
  assign_ends (Run.nil : Run Step sampleStart [] sampleStart) (fun _ hi => of_decide_eq_true hi)
    (by decide)

end Runs

end LanternProject.Mqtt.InFlight
