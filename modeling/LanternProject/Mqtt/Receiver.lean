import LanternProject.Mqtt.Ends

/-! # The client as the receiver

* `recv_cycle`: a packet that is handled is a step of the receiver, if it is one of its packets.
* `recv_put`, `recv_retried`, `recv_started`, `recv_closed`: what the client does besides is none. -/

namespace LanternProject.Mqtt.Receiver

open LanternProject.Lib LanternProject.Lib.Runs LanternProject.Lib.Handshake
open LanternProject.Mqtt.MQTTPacket LanternProject.Mqtt.SocketBuffer
open LanternProject.Mqtt.MQTTProtocolClient LanternProject.Mqtt.MQTTAsync
open LanternProject.Mqtt.Broker LanternProject.Mqtt.Effects LanternProject.Mqtt.InFlight
open LanternProject.Mqtt.Ends

variable {i : ℕ} {c c' c'' : Clients}

/-! ### Packets that arrive -/

/-- **A message is stored** and confirmed. -/
theorem recv_store (h : Ready c) {publish : Publish} (hqos : publish.header.qos = 2)
    (answer : CompletionCode) (F : List (Forth Message)) :
    RecvMoves i c (answerAck { c with
        inboundMsgs := storeMsg (receivedMessage publish) c.inboundMsgs } .PUBREC publish.msgId
      answer).2 ((forthOf i (.publish publish)).toList ++ F) F := by
  have hready : Ready { c with
      inboundMsgs := storeMsg (receivedMessage publish) c.inboundMsgs } := h
  have hpart := recvPart_of_rest (rest_answerAck { c with
    inboundMsgs := storeMsg (receivedMessage publish) c.inboundMsgs } .PUBREC publish.msgId answer)
  have hback := back_extends (outgoing_answerAck hready .PUBREC publish.msgId answer) i
  generalize (answerAck { c with inboundMsgs := storeMsg (receivedMessage publish) c.inboundMsgs }
    .PUBREC publish.msgId answer).2 = c' at hpart hback ⊢
  simp only [recvPart, Prod.mk.injEq] at hpart
  obtain ⟨hconnected, hclean, hmsgs, harrived⟩ := hpart
  have heq : arrivedOf c' i = arrivedOf c i := by rw [arrivedOf, harrived, arrivedOf]
  have hfind : findMsg c'.inboundMsgs i =
      if i = publish.msgId then some (receivedMessage publish) else findMsg c.inboundMsgs i := by
    rw [hmsgs]
    exact findMsg_storeMsg (receivedMessage publish) i
  rw [backOf_ackPacket] at hback
  intro phase offered held hheld
  by_cases hi : publish.msgId = i
  · refine ⟨some (content (receivedMessage publish)), fun _ => ?_, ?_⟩
    · rw [heldOf, hfind, if_pos hi.symm]
      rfl
    · have hitem := Handshake.Step.item
        (recvEnd i c phase (.item (content (receivedMessage publish)) :: F) offered held)
        (content (receivedMessage publish)) F rfl
      have hforth : (forthOf i (.publish publish)).toList ++ F
          = .item (content (receivedMessage publish)) :: F := by
        simp [forthOf, hqos, hi, content, receivedMessage]
      rw [hforth]
      refine (Relation.ReflTransGen.single hitem).trans (steps_lose rfl rfl (List.Sublist.refl _) ?_
        rfl heq)
      rwa [if_pos hi, if_pos rfl] at hback
  · refine ⟨held, fun hlive => ?_, ?_⟩
    · rw [heldOf, hfind, if_neg (Ne.symm hi)]
      refine hheld ?_
      unfold Live at hlive ⊢
      rwa [hconnected, hclean] at hlive
    · refine steps_lose rfl rfl (List.sublist_append_right _ _) ?_ rfl heq
      rwa [if_neg hi, Option.toList_none, List.append_nil] at hback

/-- **A message is released**, and passed on if it is there. -/
theorem recv_handlePubrels (h : Ready c) (ho : Outstanding c) (hc : c.connected = true) (j : ℕ)
    (accepts : Bool) (answer : CompletionCode) {header : Header} (hheader : header.type = .PUBREL)
    (F : List (Forth Message)) :
    RecvMoves i c (MQTTProtocol_handlePubrels c j accepts answer).2
      ((forthOf i (.ack header j)).toList ++ F) F := by
  obtain ⟨c₁, heq, hcases⟩ := handlePubrels_cases c ho.held j accepts answer
  -- what the message that is released is for this id
  have hsend : outgoing c₁ = outgoing c ∧ Ready c₁ ∧ c₁.connected = c.connected ∧
      c₁.cleansession = c.cleansession := by
    rcases hcases with ⟨-, rfl⟩ | ⟨m, -, rfl⟩
    · exact ⟨rfl, h, rfl, rfl⟩
    · rcases processPublication_cases c (storedPublish m) accepts with ⟨-, hp⟩ | hp
      · rw [hp]
        exact ⟨rfl, h, rfl, rfl⟩
      · rw [hp]
        exact ⟨rfl, h, rfl, rfl⟩
  obtain ⟨hout, hready, hconnected, hclean⟩ := hsend
  have hback := back_extends (outgoing_answerAck hready .PUBCOMP j answer) i
  have hpart := recvPart_of_rest (rest_answerAck c₁ .PUBCOMP j answer)
  rw [heq]
  generalize (answerAck c₁ .PUBCOMP j answer).2 = c' at hback hpart ⊢
  simp only [recvPart, Prod.mk.injEq] at hpart
  obtain ⟨hconnected', hclean', hmsgs, harrived⟩ := hpart
  have heq' : arrivedOf c' i = arrivedOf c₁ i := by rw [arrivedOf, harrived, arrivedOf]
  rw [backOf_ackPacket, hout] at hback
  intro phase offered held hheld
  by_cases hi : j = i
  · subst hi
    obtain rfl := hheld (Or.inl hc)
    refine ⟨none, fun _ => ?_, ?_⟩
    · rw [hmsgs]
      rcases hcases with ⟨hnone, rfl⟩ | ⟨m, -, rfl⟩
      · rw [heldOf, hnone]
        rfl
      · rw [heldOf, findMsg_removeMsg_self ho.inbound]
        rfl
    · have hrelease := Handshake.Step.release
        (recvEnd j c phase (.release :: F) offered (heldOf c.inboundMsgs j)) F rfl
      have hforth : (forthOf j (.ack header j)).toList ++ F = .release :: F := by
        simp [forthOf, hheader]
      rw [hforth]
      refine (Relation.ReflTransGen.single hrelease).trans (steps_lose rfl rfl
        (List.Sublist.refl _) ?_ rfl (heq'.trans ?_))
      · rwa [if_pos rfl, if_neg (by decide), if_pos rfl] at hback
      · rcases hcases with ⟨hnone, rfl⟩ | ⟨m, hm, rfl⟩
        · show arrivedOf c₁ j = arrivedOf c₁ j ++ (heldOf c₁.inboundMsgs j).toList
          rw [heldOf, hnone]
          simp
        · show _ = arrivedOf c j ++ (heldOf c.inboundMsgs j).toList
          have hentry : entryOf j (arrivedMessage (storedPublish m)) = some (content m) := by
            have hqos := (ho.held m (findMsg_mem hm)).1
            have hid := findMsg_msgid hm
            simp [entryOf, arrivedMessage, storedPublish, hqos, hid, content]
          rw [arrivedOf, processPublication_arrived, List.filterMap_append, heldOf, hm]
          simp [hentry, arrivedOf]
  · refine ⟨held, fun hlive => ?_, ?_⟩
    · rw [hheld (Or.inl hc), hmsgs]
      rcases hcases with ⟨-, rfl⟩ | ⟨m, -, rfl⟩
      · rfl
      · rw [heldOf, heldOf, findMsg_removeMsg_ne _ (Ne.symm hi)]
    · refine steps_lose rfl rfl (List.sublist_append_right _ _) ?_ rfl (heq'.trans ?_)
      · rwa [if_neg hi, Option.toList_none, List.append_nil] at hback
      · rcases hcases with ⟨-, rfl⟩ | ⟨m, hm, rfl⟩
        · rfl
        · have hentry : entryOf i (arrivedMessage (storedPublish m)) = none := by
            have hid := findMsg_msgid hm
            simp [entryOf, arrivedMessage, storedPublish, hid, hi]
          show _ = arrivedOf c i
          rw [arrivedOf, processPublication_arrived, List.filterMap_append]
          simp [hentry, arrivedOf]

/-- A message of another quality of service is none of the receiver's. -/
theorem arrivedOf_processPublication {publish : Publish} (hqos : publish.header.qos ≠ 2)
    (accepts : Bool) : arrivedOf (Protocol_processPublication c publish accepts) i = arrivedOf c i := by
  have hentry : entryOf i (arrivedMessage publish) = none := by
    simp [entryOf, arrivedMessage, hqos]
  rw [arrivedOf, processPublication_arrived, List.filterMap_append]
  simp [hentry, arrivedOf]

/-- A message of another quality of service arrives. -/
theorem recv_processPublication {publish : Publish} (hqos : publish.header.qos ≠ 2) (accepts : Bool)
    {F F' : List (Forth Message)} (hforth : F'.Sublist F) :
    RecvMoves i c (Protocol_processPublication c publish accepts) F F' := by
  obtain ⟨hout, -, hpart⟩ := outgoing_processPublication c publish accepts
  simp only [sendPart, Prod.mk.injEq] at hpart
  refine recv_same hpart.1 hpart.2.1 ?_ (arrivedOf_processPublication hqos accepts) ?_ hforth
  · rw [processPublication_inbound]
  · rw [hout]

/-- An answer that is none of the receiver's. -/
theorem recv_answerAck (h : Ready c) {type : msgTypes} (htype : type ≠ .PUBREC ∧ type ≠ .PUBCOMP)
    (j : ℕ) (answer : CompletionCode) {F F' : List (Forth Message)} (hforth : F'.Sublist F) :
    RecvMoves i c (answerAck c type j answer).2 F F' := by
  refine recv_of_rest (rest_answerAck c type j answer) ?_ hforth
  have hback := back_extends (outgoing_answerAck h type j answer) i
  have hnone : backOf i (ackPacket type j) = none := by
    simp [backOf_ackPacket, htype.1, htype.2]
  rwa [hnone, Option.toList_none, List.append_nil] at hback

/-- **A packet that is handled is a step of the receiver**, if it is one of its packets. -/
theorem recv_cycle (h : Ready c) (ho : Outstanding c) (hc : c.connected = true) (p : Packet)
    (now : ℕ) (accepts : Bool) (answer : CompletionCode) (F : List (Forth Message)) :
    RecvMoves i c (MQTTAsync_cycle c p now accepts answer).2 ((forthOf i p).toList ++ F) F := by
  have hskip : F.Sublist ((forthOf i p).toList ++ F) := List.sublist_append_right _ _
  -- the responses and the outbound messages are none of the receiver's
  have hother : ∀ responses msgs, RecvMoves i c
      { c with responses := responses, outboundMsgs := msgs } ((forthOf i p).toList ++ F) F :=
    fun _ _ => recv_same rfl rfl rfl rfl (List.Sublist.refl _) hskip
  cases p with
  | publish publish =>
    unfold MQTTAsync_cycle MQTTProtocol_handlePublishes
    dsimp only
    split_ifs with h0 h1 h2
    · exact recv_processPublication (by simp [h0]) accepts hskip
    · have hready := (outgoing_processPublication c publish accepts).2.1 h
      exact (recv_processPublication (by simp [h1]) accepts hskip).trans
        (recv_answerAck hready (by decide) publish.msgId answer (List.Sublist.refl _))
    · exact recv_store h h2 answer F
    · exact hother c.responses c.outboundMsgs
  | ack header j =>
    obtain ⟨hacks, hcomps⟩ := confirmed_cases c j
    unfold MQTTAsync_cycle
    dsimp only
    split
    · rcases hcomps with ⟨heq, -⟩ | ⟨m, -, -, -, heq⟩
      · rw [heq]
        exact hother _ c.outboundMsgs
      · rw [heq]
        exact hother _ _
    · obtain ⟨msgs, heq, -⟩ := handlePubrecs_cases c j now answer
      rw [heq]
      exact (hother c.responses msgs).trans
        (recv_answerAck (c := { c with outboundMsgs := msgs }) h (by decide) j answer
          (List.Sublist.refl _))
    · rcases hacks with ⟨heq, -⟩ | ⟨m, -, -, heq⟩
      · rw [heq]
        exact hother _ c.outboundMsgs
      · rw [heq]
        exact hother _ _
    · next htype => exact recv_handlePubrels h ho hc j accepts answer htype F
    · exact hother c.responses c.outboundMsgs
  | suback header j qoss => exact hother _ c.outboundMsgs
  | unsuback header j => exact hother _ c.outboundMsgs
  | connack header flags rc => exact hother c.responses c.outboundMsgs
  | headerOnly header => exact hother c.responses c.outboundMsgs

/-! ### What the client does besides -/

/-- A packet that belongs to no handshake. -/
theorem recv_put (h : Ready c) {p : Packet} (hp : backOf i p = none) (answer : CompletionCode)
    (F : List (Forth Message)) : RecvMoves i c (put c p answer).2 F F := by
  refine recv_of_rest (rest_put c p answer) ?_ (List.Sublist.refl _)
  have hback := back_extends (outgoing_put h p answer) i
  rwa [hp, Option.toList_none, List.append_nil] at hback

/-- Repetitions are none of the receiver's. -/
theorem recv_retried (h : Ready c) (hretried : Retried c c') (F : List (Forth Message)) :
    RecvMoves i c c' F F := by
  refine recv_of_rest hretried.rest_eq ?_ (List.Sublist.refl _)
  obtain ⟨l, hl, hrepeats⟩ := hretried.outgoing h
  have hnone : l.filterMap (backOf i) = [] := by
    rw [List.filterMap_eq_nil_iff]
    intro p hp
    obtain ⟨m, -, ⟨rfl, -⟩ | ⟨rfl, -⟩⟩ := hrepeats p hp
    · rfl
    · simp [backOf_ackPacket]
  rw [hl, List.filterMap_append, hnone, List.append_nil]

/-- A connection is closed: the client may forget its end. -/
theorem recv_closed (hclosed : Closed c c') (F : List (Forth Message)) : RecvMoves i c c' F F := by
  intro phase offered held hheld
  refine ⟨held, fun hlive => ?_, steps_lose rfl rfl (List.Sublist.refl _) ?_ rfl ?_⟩
  · have hclean : c.cleansession = false := by
      rcases hlive with hlive | hlive
      · rw [hclosed.connected] at hlive
        cases hlive
      · rwa [hclosed.cleansession] at hlive
    rw [hclosed.inbound hclean]
    exact hheld (Or.inr hclean)
  · show ((outgoing c').filterMap (backOf i)).Sublist ((outgoing c).filterMap (backOf i))
    rcases hclosed.outgoing with hout | hout
    · rw [hout]
    · rw [hout, List.filterMap_append]
      simp [backOf, disconnectPacket]
  · exact (congrArg (List.filterMap (entryOf i)) hclosed.arrived)

theorem recv_started (h : Ready c) (command : MQTTAsync_command)
    (commands responses : List MQTTAsync_command) (now : ℕ) (answer : CompletionCode)
    (F : List (Forth Message)) :
    RecvMoves i c (put (started c command commands responses now)
      (publishPacket (MQTTProtocol_createMessage command now) false) answer).2 F F := by
  have hstart : RecvMoves i c (started c command commands responses now) F F :=
    recv_same rfl rfl rfl rfl (List.Sublist.refl _) (List.Sublist.refl _)
  exact hstart.trans (recv_put (c := started c command commands responses now) h rfl answer F)

end LanternProject.Mqtt.Receiver
