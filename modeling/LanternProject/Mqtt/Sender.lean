import LanternProject.Mqtt.Ends

/-! # The client as the sender

* `send_cycle`: a packet that is handled is a step of the sender, if it is one of its packets.
* `send_started`: a message that is started is offered to the broker.
* `send_retried`: what is repeated is what the sender repeats.
* `send_put`, `send_closed`: what the client does besides is none. -/

namespace LanternProject.Mqtt.Sender

open LanternProject.Lib LanternProject.Lib.Runs LanternProject.Lib.Handshake
open LanternProject.Mqtt.MQTTPacket LanternProject.Mqtt.SocketBuffer
open LanternProject.Mqtt.MQTTProtocolClient LanternProject.Mqtt.MQTTAsync
open LanternProject.Mqtt.Broker LanternProject.Mqtt.Effects LanternProject.Mqtt.InFlight
open LanternProject.Mqtt.Ends

variable {i : ℕ} {c c' c'' : Clients}

/-! ### Packets that arrive -/

theorem phaseOf_removeMsg_ne (msgs : List Messages) {j : ℕ} (h : i ≠ j) :
    phaseOf (removeMsg msgs j) i = phaseOf msgs i := by
  rw [phaseOf, findMsg_removeMsg_ne msgs h, phaseOf]

theorem phaseOf_removeMsg_self {msgs : List Messages} (h : (msgs.map Messages.msgid).Nodup) (j : ℕ) :
    phaseOf (removeMsg msgs j) j = .idle := by
  rw [phaseOf, findMsg_removeMsg_self h]
  rfl

/-- An answer that is none of the sender's. -/
theorem send_answerAck (h : Ready c) {type : msgTypes} (htype : type ≠ .PUBREL) (j : ℕ)
    (answer : CompletionCode) {B B' : List Back} (hback : B'.Sublist B) :
    SendMoves i c (answerAck c type j answer).2 B B' := by
  refine send_of_part (sendPart_of_rest (rest_answerAck c type j answer)) ?_ hback
  have hforth := forth_extends (outgoing_answerAck h type j answer) i
  have hnone : forthOf i (ackPacket type j) = none := by
    simp [forthOf_ackPacket, htype]
  rwa [hnone, Option.toList_none, List.append_nil] at hforth

/-- The phase after a `PUBREC`, whatever was found. -/
theorem phaseOf_confirm {msgs msgs' : List Messages} {j now : ℕ}
    (hcases : msgs' = msgs ∧ (∀ m, findMsg msgs j = some m →
        ¬(m.qos = 2 ∧ m.nextMessageType = some .PUBREC)) ∨
      ∃ m, findMsg msgs j = some m ∧ m.qos = 2 ∧ m.nextMessageType = some .PUBREC ∧
        msgs' = updateMsg (released now) j msgs) (i : ℕ) :
    phaseOf msgs' i = if i = j then (phaseOf msgs j).confirm else phaseOf msgs i := by
  rcases hcases with ⟨rfl, hnot⟩ | ⟨m, hm, hqos, hnext, rfl⟩
  · split_ifs with hi
    · subst hi
      rcases hm : findMsg msgs' i with _ | m
      · simp [phaseOf, hm, Phase.confirm]
      · by_cases hqos : m.qos = 2
        · have hnext : m.nextMessageType ≠ some .PUBREC := fun hnext => hnot m hm ⟨hqos, hnext⟩
          simp [phaseOf, hm, phase, hqos, hnext, Phase.confirm]
        · simp [phaseOf, hm, phase, hqos, Phase.confirm]
    · rfl
  · rw [phaseOf, findMsg_updateMsg (f := released now) (fun _ => rfl)]
    split_ifs with hi
    · subst hi
      simp [phaseOf, hm, phase, hqos, hnext, released, content, Phase.confirm]
    · rfl

/-- **A confirmation arrives**: the sender goes on to the release. -/
theorem send_handlePubrecs (h : Ready c) (hc : c.connected = true) (j now : ℕ)
    (answer : CompletionCode) {header : Header} (hheader : header.type = .PUBREC) (B : List Back) :
    SendMoves i c (MQTTProtocol_handlePubrecs c j now answer).2
      ((backOf i (.ack header j)).toList ++ B) B := by
  obtain ⟨msgs, heq, hcases⟩ := handlePubrecs_cases c j now answer
  have hphase' := phaseOf_confirm hcases i
  have hready : Ready { c with outboundMsgs := msgs } := h
  have hforth := forth_extends (outgoing_answerAck hready .PUBREL j answer) i
  have hpart := sendPart_of_rest (rest_answerAck { c with outboundMsgs := msgs } .PUBREL j answer)
  rw [heq]
  generalize (answerAck { c with outboundMsgs := msgs } .PUBREL j answer).2 = c' at hforth hpart ⊢
  simp only [sendPart, Prod.mk.injEq] at hpart
  obtain ⟨hconnected, hclean, hmsgs, hcommands, haccepted⟩ := hpart
  have hphase : phaseOf c'.outboundMsgs i = phaseOf msgs i := by
    rw [← phaseOf_untouched, hmsgs, phaseOf_untouched]
  have hstarted : startedOf c' i = startedOf c i := by
    rw [startedOf, processed, hcommands, haccepted, startedOf, processed]
  rw [forthOf_ackPacket] at hforth
  intro held received phase hlive
  obtain rfl := hlive (Or.inl hc)
  refine ⟨phaseOf msgs i, fun _ => hphase.symm, ?_⟩
  rw [hphase']
  by_cases hi : j = i
  · subst hi
    have hheld := Handshake.Step.held
      (sendEnd j c held (.held :: B) received (phaseOf c.outboundMsgs j)) B rfl
    have hback : (backOf j (.ack header j)).toList ++ B = .held :: B := by
      simp [backOf, hheader]
    rw [hback, if_pos rfl]
    refine (Relation.ReflTransGen.single hheld).trans
      (steps_lose rfl rfl ?_ (List.Sublist.refl _) hstarted rfl)
    rwa [if_pos ⟨rfl, rfl⟩] at hforth
  · rw [if_neg (Ne.symm hi)]
    refine steps_lose rfl rfl ?_ (List.sublist_append_right _ _) hstarted rfl
    rwa [if_neg (fun hj => hi hj.2), Option.toList_none, List.append_nil] at hforth

/-- **The last confirmation arrives**: the message is over. -/
theorem send_handlePubcomps (ho : Outstanding c) (hc : c.connected = true) (j : ℕ)
    {header : Header} (hheader : header.type = .PUBCOMP) (B : List Back) :
    SendMoves i c (removeResponse (MQTTProtocol_handlePubcomps c j).2 j)
      ((backOf i (.ack header j)).toList ++ B) B := by
  have hcomps := (confirmed_cases c j).2
  intro held received phase hlive
  obtain rfl := hlive (Or.inl hc)
  by_cases hi : j = i
  · subst hi
    have hreleased := Handshake.Step.released
      (sendEnd j c held (.released :: B) received (phaseOf c.outboundMsgs j)) B rfl
    have hback : (backOf j (.ack header j)).toList ++ B = .released :: B := by
      simp [backOf, hheader]
    rw [hback]
    refine ⟨(phaseOf c.outboundMsgs j).finish, fun _ => ?_, ?_⟩
    · rcases hcomps with ⟨heq, hnot⟩ | ⟨m, hm, hqos, hnext, heq⟩
      · rw [heq]
        show (phaseOf c.outboundMsgs j).finish = phaseOf c.outboundMsgs j
        rcases hm : findMsg c.outboundMsgs j with _ | m
        · simp [phaseOf, hm, Phase.finish]
        · rcases ho.waits m (findMsg_mem hm) with hqos | ⟨hqos, hnext | hnext⟩
          · simp [phaseOf, hm, Ends.phase, hqos, Phase.finish]
          · simp [phaseOf, hm, Ends.phase, hqos, hnext, Phase.finish]
          · exact absurd ⟨hqos, hnext⟩ (hnot m hm)
      · rw [heq]
        show (phaseOf c.outboundMsgs j).finish = phaseOf (removeMsg c.outboundMsgs j) j
        rw [phaseOf_removeMsg_self ho.nodup]
        simp [phaseOf, hm, Ends.phase, hqos, hnext, Phase.finish]
    · rcases hcomps with ⟨heq, -⟩ | ⟨m, -, -, -, heq⟩
      · rw [heq]
        exact .single hreleased
      · rw [heq]
        exact .single hreleased
  · have hphase : phaseOf (removeResponse (MQTTProtocol_handlePubcomps c j).2 j).outboundMsgs i
        = phaseOf c.outboundMsgs i := by
      rcases hcomps with ⟨heq, -⟩ | ⟨m, -, -, -, heq⟩
      · rw [heq]
        rfl
      · rw [heq]
        exact phaseOf_removeMsg_ne c.outboundMsgs (Ne.symm hi)
    refine ⟨phaseOf c.outboundMsgs i, fun _ => hphase.symm, ?_⟩
    rcases hcomps with ⟨heq, -⟩ | ⟨m, -, -, -, heq⟩
    all_goals
      rw [heq]
      exact steps_lose rfl rfl (List.Sublist.refl _) (List.sublist_append_right _ _) rfl rfl

/-- A message of quality of service 1 is none of the sender's. -/
theorem send_handlePubacks (ho : Outstanding c) (j : ℕ) {B B' : List Back} (hback : B'.Sublist B) :
    SendMoves i c (removeResponse (MQTTProtocol_handlePubacks c j).2 j) B B' := by
  rcases (confirmed_cases c j).1 with ⟨heq, -⟩ | ⟨m, hm, hqos, heq⟩
  · rw [heq]
    exact send_same rfl rfl rfl rfl (List.Sublist.refl _) hback
  · rw [heq]
    refine send_same rfl rfl ?_ rfl (List.Sublist.refl _) hback
    show phaseOf (removeMsg c.outboundMsgs j) i = phaseOf c.outboundMsgs i
    by_cases hi : i = j
    · subst hi
      rw [phaseOf_removeMsg_self ho.nodup]
      simp [phaseOf, hm, phase, hqos]
    · exact phaseOf_removeMsg_ne c.outboundMsgs hi

/-- **A packet that is handled is a step of the sender**, if it is one of its packets. -/
theorem send_cycle (h : Ready c) (ho : Outstanding c) (hc : c.connected = true) (p : Packet)
    (now : ℕ) (accepts : Bool) (answer : CompletionCode) (B : List Back) :
    SendMoves i c (MQTTAsync_cycle c p now accepts answer).2 ((backOf i p).toList ++ B) B := by
  have hskip : B.Sublist ((backOf i p).toList ++ B) := List.sublist_append_right _ _
  have hother : ∀ responses inboundMsgs, SendMoves i c
      { c with responses := responses, inboundMsgs := inboundMsgs } ((backOf i p).toList ++ B) B :=
    fun _ _ => send_same rfl rfl rfl rfl (List.Sublist.refl _) hskip
  have hprocess : ∀ publish, SendMoves i c (Protocol_processPublication c publish accepts)
      ((backOf i p).toList ++ B) B := by
    intro publish
    obtain ⟨hout, -, hpart⟩ := outgoing_processPublication c publish accepts
    exact send_of_part hpart (by rw [hout]) hskip
  cases p with
  | publish publish =>
    unfold MQTTAsync_cycle MQTTProtocol_handlePublishes
    dsimp only
    split_ifs with h0 h1 h2
    · exact hprocess publish
    · have hready := (outgoing_processPublication c publish accepts).2.1 h
      exact (hprocess publish).trans
        (send_answerAck hready (by decide) publish.msgId answer (List.Sublist.refl _))
    · exact (hother c.responses (storeMsg (receivedMessage publish) c.inboundMsgs)).trans
        (send_answerAck (c := { c with
          inboundMsgs := storeMsg (receivedMessage publish) c.inboundMsgs }) h (by decide)
          publish.msgId answer (List.Sublist.refl _))
    · exact hother c.responses c.inboundMsgs
  | ack header j =>
    unfold MQTTAsync_cycle
    dsimp only
    split
    · next htype => exact send_handlePubcomps ho hc j htype B
    · next htype => exact send_handlePubrecs h hc j now answer htype B
    · exact send_handlePubacks ho j hskip
    · obtain ⟨c₁, heq, hcases⟩ := handlePubrels_cases c ho.held j accepts answer
      rw [heq]
      rcases hcases with ⟨-, rfl⟩ | ⟨m, -, rfl⟩
      · exact send_answerAck h (by decide) j answer hskip
      · have hready := (outgoing_processPublication c (storedPublish m) accepts).2.1 h
        have hremove : ∀ c₀ inboundMsgs, SendMoves i c₀ { c₀ with inboundMsgs := inboundMsgs } B B :=
          fun _ _ => send_same rfl rfl rfl rfl (List.Sublist.refl _) (List.Sublist.refl _)
        exact ((hprocess (storedPublish m)).trans (hremove _ _)).trans
          (send_answerAck (c := { Protocol_processPublication c (storedPublish m) accepts with
            inboundMsgs := removeMsg c.inboundMsgs j }) hready (by decide) j answer
            (List.Sublist.refl _))
    · exact hother c.responses c.inboundMsgs
  | suback header j qoss => exact hother _ c.inboundMsgs
  | unsuback header j => exact hother _ c.inboundMsgs
  | connack header flags rc => exact hother c.responses c.inboundMsgs
  | headerOnly header => exact hother c.responses c.inboundMsgs

/-! ### What the client sends of its own -/

/-- A packet that belongs to no handshake. -/
theorem send_put (h : Ready c) {p : Packet} (hp : forthOf i p = none) (answer : CompletionCode)
    (B : List Back) : SendMoves i c (put c p answer).2 B B := by
  refine send_of_part (sendPart_of_rest (rest_put c p answer)) ?_ (List.Sublist.refl _)
  have hforth := forth_extends (outgoing_put h p answer) i
  rwa [hp, Option.toList_none, List.append_nil] at hforth

/-- What is repeated under an id is what its sender repeats. -/
theorem again_of_repeats (ho : Outstanding c) {p : Packet} (hp : Repeats c.outboundMsgs p)
    {x : Forth Message} (hx : forthOf i p = some x) : (phaseOf c.outboundMsgs i).again = [x] := by
  obtain ⟨_, hmem, hp⟩ := hp
  obtain ⟨m, hm, rfl⟩ := List.mem_map.mp hmem
  have hphase : m.msgid = i → phaseOf c.outboundMsgs i = phase m := by
    rintro rfl
    rw [phaseOf, findMsg_of_mem ho.nodup hm]
    rfl
  rcases hp with ⟨rfl, hpub⟩ | ⟨rfl, hqos, hnext⟩
  · rw [forthOf_publishPacket] at hx
    split_ifs at hx with hid
    obtain ⟨hqos, hid⟩ : m.qos = 2 ∧ m.msgid = i := hid
    obtain rfl := Option.some.inj hx
    have hnext : m.nextMessageType = some .PUBREC := by
      rcases hpub with h1 | ⟨-, hnext⟩
      · have h1 : m.qos = 1 := h1
        rw [hqos] at h1
        exact absurd h1 (by decide)
      · exact hnext
    rw [hphase hid]
    simp [phase, hqos, hnext, Phase.again, content, untouched]
  · rw [forthOf_ackPacket] at hx
    split_ifs at hx with hid
    obtain rfl := Option.some.inj hx
    have hqos' : m.qos = 2 := by
      rcases ho.waits m hm with h1 | ⟨h2, -⟩
      · exact absurd h1 hqos
      · exact h2
    have hnext : m.nextMessageType = some .PUBCOMP := hnext
    rw [hphase hid.2]
    simp [phase, hqos', hnext, Phase.again]

/-- **Repetitions** are what the sender repeats. -/
theorem send_retried (h : Ready c) (ho : Outstanding c) (hc : Live c) (hretried : Retried c c')
    (B : List Back) : SendMoves i c c' B B := by
  have hpart := sendPart_of_rest hretried.rest_eq
  simp only [sendPart, Prod.mk.injEq] at hpart
  obtain ⟨hconnected, hclean, hmsgs, hcommands, haccepted⟩ := hpart
  have hphase : phaseOf c'.outboundMsgs i = phaseOf c.outboundMsgs i := by
    rw [← phaseOf_untouched, hmsgs, phaseOf_untouched]
  have hstarted : startedOf c' i = startedOf c i := by
    rw [startedOf, processed, hcommands, haccepted, startedOf, processed]
  obtain ⟨l, hl, hrepeats⟩ := hretried.outgoing h
  intro held received phase hlive
  obtain rfl := hlive hc
  refine ⟨phaseOf c.outboundMsgs i, fun _ => hphase.symm, ?_⟩
  have hagain : ∀ x ∈ l.filterMap (forthOf i), (phaseOf c.outboundMsgs i).again = [x] := by
    intro x hx
    obtain ⟨p, hp, hx⟩ := List.mem_filterMap.mp hx
    exact again_of_repeats ho (hrepeats p hp) hx
  refine (steps_again (sendEnd i c held B received (phaseOf c.outboundMsgs i)) hagain).trans
    (steps_lose rfl rfl ?_ (List.Sublist.refl _) hstarted rfl)
  show ((outgoing c').filterMap (forthOf i)).Sublist
    ((outgoing c).filterMap (forthOf i) ++ l.filterMap (forthOf i))
  rw [hl, List.filterMap_append]

/-- A connection is closed: the client may forget its end. -/
theorem send_closed (hclosed : Closed c c') (B : List Back) : SendMoves i c c' B B := by
  intro held received phase hphase
  refine ⟨phase, fun hlive => ?_, steps_lose rfl rfl ?_ (List.Sublist.refl _) ?_ rfl⟩
  · have hclean : c.cleansession = false := by
      rcases hlive with hlive | hlive
      · rw [hclosed.connected] at hlive
        cases hlive
      · rwa [hclosed.cleansession] at hlive
    rw [hclosed.outbound hclean]
    exact hphase (Or.inr hclean)
  · show ((outgoing c').filterMap (forthOf i)).Sublist ((outgoing c).filterMap (forthOf i))
    rcases hclosed.outgoing with hout | hout
    · rw [hout]
    · rw [hout, List.filterMap_append]
      simp [forthOf, disconnectPacket]
  · show startedOf c' i = startedOf c i
    rw [startedOf, processed, hclosed.commands, hclosed.accepted, startedOf, processed]

/-! ### Commands -/

/-- The id of a command is none of those under way. -/
theorem findMsg_command (ho : Outstanding c) {command : MQTTAsync_command}
    (hcommand : command ∈ c.commands) (hpos : 0 < command.qos) :
    findMsg c.outboundMsgs command.token = none := by
  rw [findMsg_eq_none]
  intro hmem
  refine (List.nodup_append.mp ho.distinct).2.2 _ hmem command.token ?_ rfl
  exact List.mem_map_of_mem (by simp [hcommand, hpos])

/-- The phase of an id when a message is started. -/
theorem phaseOf_started (ho : Outstanding c) {command : MQTTAsync_command}
    {commands : List MQTTAsync_command} (hcommands : c.commands = command :: commands)
    (responses : List MQTTAsync_command) (now i : ℕ) :
    phaseOf (started c command commands responses now).outboundMsgs i =
      if command.qos = 2 ∧ command.token = i then
        .offering ⟨command.destinationName, command.payload, command.retained⟩
      else phaseOf c.outboundMsgs i := by
  by_cases hpos : 0 < command.qos
  · have hnew := findMsg_command ho (hcommands ▸ List.mem_cons_self) hpos
    have hmsgs : (started c command commands responses now).outboundMsgs
        = c.outboundMsgs ++ [MQTTProtocol_createMessage command now] := by
      simp [started, hpos]
    rw [hmsgs, phaseOf, findMsg_append]
    by_cases hid : command.token = i
    · subst hid
      rw [hnew]
      by_cases hqos : command.qos = 2
      · simp [findMsg, MQTTProtocol_createMessage, phase, hqos, content]
      · rw [phaseOf, hnew]
        simp [findMsg, MQTTProtocol_createMessage, phase, hqos]
    · have hnone : findMsg [MQTTProtocol_createMessage command now] i = none := by
        simp [findMsg, MQTTProtocol_createMessage, hid]
      rw [hnone, Option.or_none, if_neg (fun h => hid h.2), phaseOf]
  · have hqos : command.qos ≠ 2 := by
      rintro h2
      rw [h2] at hpos
      exact hpos (by decide)
    rw [if_neg (fun h => hqos h.1)]
    simp [started, hpos]

/-- **A message is started**: it is offered to the broker. -/
theorem send_started (h : Ready c) (ho : Outstanding c) (hc : c.connected = true)
    {command : MQTTAsync_command} {commands : List MQTTAsync_command}
    (hcommands : c.commands = command :: commands) (hqueued : c.commands <:+ c.accepted)
    (responses : List MQTTAsync_command) (now : ℕ) (answer : CompletionCode) (B : List Back) :
    SendMoves i c (put (started c command commands responses now)
      (publishPacket (MQTTProtocol_createMessage command now) false) answer).2 B B := by
  obtain ⟨l, hl⟩ := hqueued
  have hstarted : startedOf (started c command commands responses now) i
      = startedOf c i ++ (commandOf i command).toList := by
    have hbefore : processed c = l := processed_eq hl.symm
    have hafter : processed (started c command commands responses now) = l ++ [command] := by
      refine processed_eq ?_
      show c.accepted = l ++ [command] ++ commands
      rw [← hl, hcommands, List.append_assoc]
      rfl
    rw [startedOf, hafter, startedOf, hbefore, List.filterMap_append]
    rcases hcommand : commandOf i command with _ | a <;> simp [hcommand]
  have hphase := phaseOf_started ho hcommands responses now i
  have hforth := forth_extends (outgoing_put (c := started c command commands responses now) h
    (publishPacket (MQTTProtocol_createMessage command now) false) answer) i
  have hpart := sendPart_of_rest (rest_put (started c command commands responses now)
    (publishPacket (MQTTProtocol_createMessage command now) false) answer)
  generalize (put (started c command commands responses now)
    (publishPacket (MQTTProtocol_createMessage command now) false) answer).2 = c' at hforth hpart ⊢
  simp only [sendPart, Prod.mk.injEq] at hpart
  obtain ⟨hconnected, hclean, hmsgs, hcommands', haccepted⟩ := hpart
  have hphase' : phaseOf c'.outboundMsgs i
      = phaseOf (started c command commands responses now).outboundMsgs i := by
    rw [← phaseOf_untouched, hmsgs, phaseOf_untouched]
  have hstarted' : startedOf c' i = startedOf (started c command commands responses now) i := by
    rw [startedOf, processed, hcommands', haccepted, startedOf, processed]
  have hpacket : forthOf i (publishPacket (MQTTProtocol_createMessage command now) false) =
      if command.qos = 2 ∧ command.token = i then
        some (.item ⟨command.destinationName, command.payload, command.retained⟩)
      else none := rfl
  rw [hpacket] at hforth
  by_cases hi : command.qos = 2 ∧ command.token = i
  · have hidle : phaseOf c.outboundMsgs i = .idle := by
      have hnew := findMsg_command ho (hcommands ▸ List.mem_cons_self) (hi.1 ▸ by decide)
      rw [phaseOf, ← hi.2, hnew]
      rfl
    intro held received phase hlive
    obtain rfl := hlive (Or.inl hc)
    refine ⟨_, fun _ => rfl, ?_⟩
    rw [hidle, hphase', hphase, if_pos hi]
    have hoffer := Handshake.Step.offer (sendEnd i c held B received .idle)
      ⟨command.destinationName, command.payload, command.retained⟩ rfl
    refine (Relation.ReflTransGen.single hoffer).trans
      (steps_lose rfl rfl ?_ (List.Sublist.refl _) (hstarted'.trans (hstarted.trans ?_)) rfl)
    · rwa [if_pos hi] at hforth
    · rw [commandOf, if_pos hi]
      rfl
  · refine send_same hconnected hclean ?_ ?_ ?_ (List.Sublist.refl _)
    · rw [hphase', hphase, if_neg hi]
    · rw [hstarted', hstarted, commandOf, if_neg hi, Option.toList_none, List.append_nil]
    · rwa [if_neg hi, Option.toList_none, List.append_nil] at hforth

end LanternProject.Mqtt.Sender
