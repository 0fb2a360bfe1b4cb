import LanternProject.Mqtt.Effects
import LanternProject.Mqtt.ListCalls

/-! # The messages of a client in memory

A client keeps the messages it sends and those it holds in two of the linked lists. The handlers find a
message by its id, take it as the current element and remove it, change it or put another one in its
place.

* `kept_step`: each handler does to the linked lists what it does to the lists of messages.
* `messages_kept`: in every run the linked lists hold the messages of the client, and no handler uses an
  invalid pointer. -/

namespace LanternProject.Mqtt.MessageLists

open LanternProject.Lib.DoublyLinked LanternProject.Lib.Runs
open LanternProject.Mqtt.MQTTPacket LanternProject.Mqtt.SocketBuffer
open LanternProject.Mqtt.MQTTProtocolClient LanternProject.Mqtt.Effects
open LanternProject.Mqtt.LinkedList LanternProject.Mqtt.Lists LanternProject.Mqtt.ListCalls

/-- A message with its address. -/
abbrev Stored := ℕ × Messages

/-! ### The handlers on the lists -/

def messageIDCompare (msgid : ℕ) (a : Stored) : Bool := decide (a.2.msgid = msgid)

/-- The comparison of `ListRemove`, which is given the message itself. -/
def sameMessage (m : Stored) (a : Stored) : Bool := decide (a.1 = m.1)

/-- `MQTTProtocol_handlePublishes`: the message replaces that with its id, or is appended. -/
def storeMessage (mem : Memory Stored) (l : ℕ) (m : Stored) (size : ℕ) (newel : Ptr) :
    Except MemoryFault (Memory Stored) := do
  let (listElem, mem) ← mem.find l (messageIDCompare m.2.msgid)
  if listElem = none then mem.append l m size (some newel)
  else
    let msg ← mem.content listElem
    let mem ← mem.insert l m size listElem (some newel)
    let (_, mem) ← mem.unlink l (sameMessage msg)
    return mem

/-- `MQTTProtocol_handlePubacks`, `MQTTProtocol_handlePubrels` and `MQTTProtocol_handlePubcomps`: the
message with the id is removed if it is `expected`. -/
def removeMessage (mem : Memory Stored) (l : ℕ) (msgid : ℕ) (expected : Messages → Bool) :
    Except MemoryFault (Memory Stored) := do
  let (rc, mem) ← mem.find l (messageIDCompare msgid)
  if rc = none then return mem
  else
    let m ← mem.content (← mem.current l)
    if expected m.2 then
      let (_, mem) ← mem.unlink l (sameMessage m)
      return mem
    else return mem

/-- `MQTTProtocol_handlePubrecs`: the message with the id is changed if it is `expected`. -/
def changeMessage (mem : Memory Stored) (l : ℕ) (msgid : ℕ) (expected : Messages → Bool)
    (f : Messages → Messages) : Except MemoryFault (Memory Stored) := do
  let mem ← mem.forget l
  let (rc, mem) ← mem.find l (messageIDCompare msgid)
  if rc = none then return mem
  else
    let current ← mem.current l
    let m ← mem.content current
    if expected m.2 then mem.modify current fun a => (a.1, f a.2)
    else return mem

/-! ### Messages and elements -/

/-- The message with an id is removed if it is `expected`. -/
def removed (expected : Messages → Bool) (i : ℕ) (msgs : List Messages) : List Messages :=
  match findMsg msgs i with
  | none => msgs
  | some m => if expected m then removeMsg msgs i else msgs

/-- The message with an id is changed if it is `expected`. -/
def changed (expected : Messages → Bool) (f : Messages → Messages) (i : ℕ) (msgs : List Messages) :
    List Messages :=
  match findMsg msgs i with
  | none => msgs
  | some m => if expected m then updateMsg f i msgs else msgs

/-- The messages of a list. -/
def messages (x : ListSpec Stored) : List Messages := x.entries.map fun y => y.2.2

section Found
variable {x : ListSpec Stored} {ys zs : List (Ptr × Stored)} {p : Ptr} {a : Stored} {i : ℕ}
  {msgs₁ msgs₂ : List Messages} {m m' : Messages}

theorem findMsg_split (h : i ∉ msgs₁.map Messages.msgid) (hm : m.msgid = i) :
    findMsg (msgs₁ ++ m :: msgs₂) i = some m := by
  rw [findMsg_append, findMsg_eq_none.mpr h, Option.none_or, findMsg, List.find?_cons]
  simp [hm]

theorem removeMsg_split (h : i ∉ msgs₁.map Messages.msgid) (hm : m.msgid = i) :
    removeMsg (msgs₁ ++ m :: msgs₂) i = msgs₁ ++ msgs₂ := by
  induction msgs₁ with
  | nil => simp [removeMsg, hm]
  | cons m₁ msgs₁ ih =>
    rw [List.map_cons, List.mem_cons, not_or] at h
    have hne : ¬m₁.msgid = i := fun heq => h.1 heq.symm
    simpa [removeMsg, hne] using ih h.2

theorem updateMsg_split (f : Messages → Messages) (h : i ∉ msgs₁.map Messages.msgid)
    (hm : m.msgid = i) : updateMsg f i (msgs₁ ++ m :: msgs₂) = msgs₁ ++ f m :: msgs₂ := by
  induction msgs₁ with
  | nil => simp [updateMsg, hm]
  | cons m₁ msgs₁ ih =>
    rw [List.map_cons, List.mem_cons, not_or] at h
    have hne : ¬m₁.msgid = i := fun heq => h.1 heq.symm
    simp [updateMsg, hne, ih h.2]

theorem storeMsg_split (h : m'.msgid ∉ msgs₁.map Messages.msgid) (hm : m.msgid = m'.msgid) :
    storeMsg m' (msgs₁ ++ m :: msgs₂) = msgs₁ ++ m' :: msgs₂ := by
  induction msgs₁ with
  | nil => simp [storeMsg, hm]
  | cons m₁ msgs₁ ih =>
    rw [List.map_cons, List.mem_cons, not_or] at h
    have hne : ¬m₁.msgid = m'.msgid := fun heq => h.1 heq.symm
    simp [storeMsg, hne, ih h.2]

theorem storeMsg_new {msgs : List Messages} (h : m'.msgid ∉ msgs.map Messages.msgid) :
    storeMsg m' msgs = msgs ++ [m'] := by
  induction msgs with
  | nil => rfl
  | cons m₁ msgs ih =>
    rw [List.map_cons, List.mem_cons, not_or] at h
    have hne : ¬m₁.msgid = m'.msgid := fun heq => h.1 heq.symm
    simp [storeMsg, hne, ih h.2]

/-- No element has the id. -/
theorem not_found (h : x.found (messageIDCompare i) = none) :
    i ∉ (messages x).map Messages.msgid := by
  rw [ListSpec.found, Option.or_eq_none_iff] at h
  have hnone := List.find?_eq_none.mp h.2
  simp only [messages, List.map_map, List.mem_map, not_exists, not_and]
  intro y hy heq
  exact hnone y hy (decide_eq_true heq)

/-- **The element found** is the one with the id, whichever is looked at first. -/
theorem found_split (hnodup : ((messages x).map Messages.msgid).Nodup)
    (h : x.found (messageIDCompare i) = some (p, a)) : ∃ ys zs, x.entries = ys ++ (p, a) :: zs ∧
      a.2.msgid = i ∧ i ∉ (ys.map fun y => y.2.2).map Messages.msgid := by
  obtain ⟨hmem, hid⟩ := found_mem h
  obtain ⟨ys, zs, hxs⟩ := List.append_of_mem hmem
  have hi : a.2.msgid = i := of_decide_eq_true hid
  refine ⟨ys, zs, hxs, hi, fun hys => ?_⟩
  rw [messages, hxs, List.map_append, List.map_append, List.nodup_append] at hnodup
  exact hnodup.2.2 i hys i (by simp [hi]) rfl

/-- The element looked at first. -/
theorem found_current {test : Stored → Bool} (hcurrent : x.current = some p)
    (hxs : x.entries = ys ++ (p, a) :: zs) (hnodup : (addresses x.entries).Nodup)
    (ha : test a = true) : x.found test = some (p, a) := by
  rw [hxs] at hnodup
  have hfind : (x.entries.find? fun y => x.current = some y.1) = some (p, a) := by
    simp only [hcurrent, Option.some.injEq, hxs, find_address hnodup]
  simp [ListSpec.found, hfind, ha]

end Found

/-! ### One list -/

section One
variable {mem : Memory Stored} {s : Specs Stored} {l : ℕ} {x : ListSpec Stored} {newel : Ptr} {i : ℕ}

/-- Memory when the list at `l` has become `x`. -/
def At (mem : Memory Stored) (s : Specs Stored) (l : ℕ) (x : ListSpec Stored) : Prop :=
  Rep mem (Function.update s l (some x))

theorem Rep.at (hr : Rep mem s) (hl : s l = some x) : At mem s l x := by
  rwa [At, update_same hl]

theorem At.nodup (h : At mem s l x) : (addresses x.entries).Nodup := by
  obtain ⟨_, -, hx⟩ := h.list (Function.update_self _ _ _)
  exact hx.linked.nodup

theorem At.find (h : At mem s l x) (test : Stored → Bool) :
    ∃ mem', mem.find l test = .ok ((x.find test).1, mem') ∧ At mem' s l (x.find test).2 := by
  have hfind := find_spec h (Function.update_self _ _ _) test
  simpa only [At, Function.update_idem] using hfind

theorem At.unlink (h : At mem s l x) (test : Stored → Bool) :
    ∃ mem', mem.unlink l test = .ok ((x.unlink test).1, mem') ∧ At mem' s l (x.unlink test).2 := by
  have hunlink := unlink_spec h (Function.update_self _ _ _) test
  simpa only [At, Function.update_idem] using hunlink

theorem At.forget (h : At mem s l x) :
    ∃ mem', mem.forget l = .ok mem' ∧ At mem' s l { x with current := none } := by
  have hforget := forget_spec h (Function.update_self _ _ _)
  simpa only [At, Function.update_idem] using hforget

theorem At.modify (h : At mem s l x) {p : Ptr} (hp : p ∈ addresses x.entries) (f : Stored → Stored) :
    ∃ mem', mem.modify (some p) f = .ok mem' ∧ At mem' s l (x.modify p f) := by
  have hmodify := modify_spec h (Function.update_self _ _ _) hp f
  simpa only [At, Function.update_idem] using hmodify

theorem At.insert (h : At mem s l x) {index : Option Ptr} (hindex : ∀ q ∈ index, q ∈ addresses x.entries)
    (hp : Unused (Function.update s l (some x)) newel) (m : Stored) (size : ℕ) :
    ∃ mem', mem.insert l m size index (some newel) = .ok mem' ∧
      At mem' s l (x.insert index newel m size) := by
  have hinsert := insert_spec h (Function.update_self _ _ _) hindex hp m size
  simpa only [At, Function.update_idem] using hinsert

theorem At.append (h : At mem s l x) (hp : Unused (Function.update s l (some x)) newel) (m : Stored)
    (size : ℕ) : ∃ mem', mem.append l m size (some newel) = .ok mem' ∧
      At mem' s l (x.insert none newel m size) := by
  have happend := append_spec h (Function.update_self _ _ _) hp m size
  simpa only [At, Function.update_idem] using happend

theorem At.content {ys zs : List (Ptr × Stored)} {p : Ptr} {a : Stored} (h : At mem s l x)
    (hxs : x.entries = ys ++ (p, a) :: zs) : mem.content (some p) = .ok a := by
  obtain ⟨b, hcontent, hb⟩ := content_spec h (Function.update_self _ _ _) (p := p) (by simp [hxs])
  rw [contentAt_of_split hxs h.nodup] at hb
  rw [hcontent, Option.some.inj hb]

theorem At.current (h : At mem s l x) : mem.current l = .ok x.current :=
  current_spec h (Function.update_self _ _ _)

/-- Which element is the current one does not matter for what is in use. -/
theorem unused_current (hp : Unused (Function.update s l (some x)) newel) (current : Option Ptr) :
    Unused (Function.update s l (some { x with current := current })) newel := by
  intro k y hk
  by_cases hkl : k = l
  · obtain rfl := hkl
    rw [Function.update_self] at hk
    obtain rfl := Option.some.inj hk
    exact hp k x (Function.update_self _ _ _)
  · rw [Function.update_of_ne hkl] at hk
    exact hp k y ((Function.update_of_ne hkl _ _).trans hk)

/-- What a search leaves: the element found is the current one. -/
theorem find_found {p : Ptr} {a : Stored} {test : Stored → Bool} (h : x.found test = some (p, a)) :
    x.find test = (some p, { x with current := some p }) := by
  simp [ListSpec.find, h]

theorem find_none {test : Stored → Bool} (h : x.found test = none) : x.find test = (none, x) := by
  simp [ListSpec.find, h]

/-- The current element is removed. -/
theorem unlink_current {ys zs : List (Ptr × Stored)} {p : Ptr} {a : Stored}
    (hcurrent : x.current = some p) (hxs : x.entries = ys ++ (p, a) :: zs)
    (hnodup : (addresses x.entries).Nodup) :
    messages (x.unlink (sameMessage a)).2 = messages ⟨ys ++ zs, none, 0⟩ := by
  have hfound : x.found (sameMessage a) = some (p, a) :=
    found_current hcurrent hxs hnodup (decide_eq_true rfl)
  rw [hxs] at hnodup
  simp only [ListSpec.unlink, hfound, messages, hxs, filter_entries hnodup]

/-- The content of one element is changed. -/
theorem messages_modify {ys zs : List (Ptr × Stored)} {p : Ptr} {a : Stored}
    (hxs : x.entries = ys ++ (p, a) :: zs) (hnodup : (addresses x.entries).Nodup) (g : Stored → Stored) :
    messages (x.modify p g) = (ys.map fun y => y.2.2) ++ (g a).2 :: zs.map fun y => y.2.2 := by
  have hmodified : (x.modify p g).entries = ys ++ (p, g a) :: zs := by
    rw [hxs] at hnodup
    rw [ListSpec.modify, hxs, modify_entries hnodup]
  simp [messages, hmodified]

/-- **A search by id** finds nothing, or makes the message with the id the current element. -/
theorem find_message (h : At mem s l x) (hnodup : ((messages x).map Messages.msgid).Nodup) (i : ℕ) :
    (∃ mem', mem.find l (messageIDCompare i) = .ok (none, mem') ∧ At mem' s l x ∧
        i ∉ (messages x).map Messages.msgid) ∨
      ∃ mem' ys p a zs, mem.find l (messageIDCompare i) = .ok (some p, mem') ∧
        At mem' s l { x with current := some p } ∧ mem'.content (some p) = .ok a ∧
        x.entries = ys ++ (p, a) :: zs ∧
        messages x = (ys.map fun y => y.2.2) ++ a.2 :: (zs.map fun y => y.2.2) ∧
        a.2.msgid = i ∧ i ∉ (ys.map fun y => y.2.2).map Messages.msgid := by
  obtain ⟨mem', hfind, h'⟩ := h.find (messageIDCompare i)
  rcases hfound : x.found (messageIDCompare i) with _ | ⟨p, a⟩
  · rw [find_none hfound] at hfind h'
    exact Or.inl ⟨mem', hfind, h', not_found hfound⟩
  · obtain ⟨ys, zs, hxs, hi, hys⟩ := found_split hnodup hfound
    rw [find_found hfound] at hfind h'
    refine Or.inr ⟨mem', ys, p, a, zs, hfind, h', ?_, hxs, ?_, hi, hys⟩
    · exact h'.content (x := { x with current := some p }) hxs
    · simp [messages, hxs]

/-- **A message is removed.** -/
theorem removeMessage_spec (h : At mem s l x) (hnodup : ((messages x).map Messages.msgid).Nodup)
    (i : ℕ) (expected : Messages → Bool) : ∃ mem' x', removeMessage mem l i expected = .ok mem' ∧
      At mem' s l x' ∧ messages x' = removed expected i (messages x) := by
  rcases find_message h hnodup i with ⟨mem₁, hfind, h₁, hnone⟩ |
    ⟨mem₁, ys, p, a, zs, hfind, h₁, hcontent, hxs, hmsgs, hi, hys⟩
  · refine ⟨mem₁, x, ?_, h₁, ?_⟩
    · simp only [removeMessage, hfind, bind, Except.bind, if_true]
      rfl
    · rw [removed, findMsg_eq_none.mpr hnone]
  · rw [removed, hmsgs, findMsg_split hys hi]
    by_cases ha : expected a.2 = true
    · obtain ⟨mem₂, hunlink, h₂⟩ := h₁.unlink (sameMessage a)
      refine ⟨mem₂, _, ?_, h₂, ?_⟩
      · simp only [removeMessage, hfind, bind, Except.bind, reduceCtorEq, if_false, h₁.current, hcontent,
          ha, if_true, hunlink]
        rfl
      · rw [unlink_current (x := { x with current := some p }) rfl hxs h₁.nodup]
        simp [messages, ha, removeMsg_split hys hi]
    · refine ⟨mem₁, _, ?_, h₁, ?_⟩
      · simp only [removeMessage, hfind, bind, Except.bind, reduceCtorEq, if_false, h₁.current, hcontent, ha]
        rfl
      · simp [messages, hxs, ha]

/-- **A message is changed in place.** -/
theorem changeMessage_spec (h : At mem s l x) (hnodup : ((messages x).map Messages.msgid).Nodup)
    (i : ℕ) (expected : Messages → Bool) (f : Messages → Messages) :
    ∃ mem' x', changeMessage mem l i expected f = .ok mem' ∧
      At mem' s l x' ∧ messages x' = changed expected f i (messages x) := by
  obtain ⟨mem₀, hforget, h₀⟩ := h.forget
  -- the current element is not looked at: the messages are the same
  rcases find_message h₀ hnodup i with ⟨mem₁, hfind, h₁, hnone⟩ |
    ⟨mem₁, ys, p, a, zs, hfind, h₁, hcontent, hxs, hmsgs, hi, hys⟩
  · refine ⟨mem₁, _, ?_, h₁, ?_⟩
    · simp only [changeMessage, hforget, hfind, bind, Except.bind, if_true]
      rfl
    · have hx : i ∉ (messages x).map Messages.msgid := hnone
      rw [changed, findMsg_eq_none.mpr hx]
      rfl
  · have hx : messages x = (ys.map fun y => y.2.2) ++ a.2 :: (zs.map fun y => y.2.2) := hmsgs
    rw [changed, hx, findMsg_split hys hi]
    by_cases ha : expected a.2 = true
    · have hp : p ∈ addresses x.entries := by
        have hsplit : x.entries = ys ++ (p, a) :: zs := hxs
        simp [hsplit]
      obtain ⟨mem₂, hmodify, h₂⟩ := h₁.modify hp fun a => (a.1, f a.2)
      refine ⟨mem₂, _, ?_, h₂, ?_⟩
      · simp only [changeMessage, hforget, hfind, bind, Except.bind, reduceCtorEq, if_false, h₁.current,
          hcontent, ha, if_true, hmodify]
      · rw [messages_modify (x := { x with current := some p }) hxs h₁.nodup]
        simp [ha, updateMsg_split f hys hi]
    · refine ⟨mem₁, _, ?_, h₁, ?_⟩
      · simp only [changeMessage, hforget, hfind, bind, Except.bind, reduceCtorEq, if_false, h₁.current,
          hcontent, ha]
        rfl
      · show messages x = _
        rw [hx]
        simp [ha]

/-- **A message replaces the one with its id**, or is appended. -/
theorem storeMessage_spec (h : At mem s l x) (hnodup : ((messages x).map Messages.msgid).Nodup)
    (hp : Unused (Function.update s l (some x)) newel) (m : Stored) (size : ℕ) :
    ∃ mem' x', storeMessage mem l m size newel = .ok mem' ∧ At mem' s l x' ∧
      messages x' = storeMsg m.2 (messages x) := by
  rcases find_message h hnodup m.2.msgid with ⟨mem₁, hfind, h₁, hnone⟩ |
    ⟨mem₁, ys, p, a, zs, hfind, h₁, hcontent, hxs, hmsgs, hi, hys⟩
  · obtain ⟨mem₂, happend, h₂⟩ := h₁.append hp m size
    refine ⟨mem₂, _, ?_, h₂, ?_⟩
    · simp only [storeMessage, hfind, bind, Except.bind, if_true, happend]
    · rw [storeMsg_new hnone]
      simp [messages, ListSpec.insert, insertBefore_none]
  · have hindex : ∀ q ∈ some p, q ∈ addresses x.entries := by
      intro q hq
      obtain rfl := Option.some.inj hq
      simp [hxs]
    obtain ⟨mem₂, hinsert, h₂⟩ := h₁.insert hindex (unused_current hp (some p)) m size
    obtain ⟨mem₃, hunlink, h₃⟩ := h₂.unlink (sameMessage a)
    refine ⟨mem₃, _, ?_, h₃, ?_⟩
    · simp only [storeMessage, hfind, bind, Except.bind, reduceCtorEq, if_false, hcontent, hinsert,
        hunlink]
      rfl
    · have hinserted : ({ x with current := some p }.insert (some p) newel m size).entries
          = (ys ++ [(newel, m)]) ++ (p, a) :: zs := by
        have hpys : p ∉ addresses ys := not_mem_before (hxs ▸ h.nodup)
        simp [ListSpec.insert, hxs, insertBefore_some (newel, m) hpys]
      rw [unlink_current rfl hinserted h₂.nodup, hmsgs, storeMsg_split hys hi]
      simp [messages]

end One

/-! ### The client -/

/-- What a handler is called for, with the answers of the network and the application, and the addresses
of a new message and its element. -/
inductive MessageEvent
  | start (publish : MQTTAsync_command) (now : ℕ) (answer : CompletionCode) (m size : ℕ) (newel : Ptr)
  | publish (publish : Publish) (accepts : Bool) (answer : CompletionCode) (m size : ℕ) (newel : Ptr)
  | puback (msgId : ℕ)
  | pubrec (msgId now : ℕ) (answer : CompletionCode)
  | pubrel (msgId : ℕ) (accepts : Bool) (answer : CompletionCode)
  | pubcomp (msgId : ℕ)

/-- The handler on the client. -/
def clientStep (c : Clients) : MessageEvent → Clients
  | .start publish now answer _ _ _ => (MQTTProtocol_startPublish c publish now answer).2
  | .publish publish accepts answer _ _ _ => (MQTTProtocol_handlePublishes c publish accepts answer).2
  | .puback msgId => (MQTTProtocol_handlePubacks c msgId).2
  | .pubrec msgId now answer => (MQTTProtocol_handlePubrecs c msgId now answer).2
  | .pubrel msgId accepts answer => (MQTTProtocol_handlePubrels c msgId accepts answer).2
  | .pubcomp msgId => (MQTTProtocol_handlePubcomps c msgId).2

/-- The addresses of `outboundMsgs` and `inboundMsgs`. -/
def outboundMsgs : ℕ := 0

def inboundMsgs : ℕ := 1

/-- The handler on memory. -/
def memoryStep (mem : Memory Stored) : MessageEvent → Except MemoryFault (Memory Stored)
  | .start publish now _ m size newel =>
    if 0 < publish.qos then
      mem.append outboundMsgs (m, MQTTProtocol_createMessage publish now) size (some newel)
    else return mem
  | .publish publish _ _ m size newel =>
    if publish.header.qos = 2 then
      storeMessage mem inboundMsgs (m, receivedMessage publish) size newel
    else return mem
  | .puback msgId => removeMessage mem outboundMsgs msgId fun m => m.qos = 1
  | .pubrec msgId now _ =>
    changeMessage mem outboundMsgs msgId (fun m => m.qos = 2 ∧ m.nextMessageType = some .PUBREC)
      (released now)
  | .pubrel msgId _ _ =>
    removeMessage mem inboundMsgs msgId fun m => m.qos = 2 ∧ m.nextMessageType = some .PUBREL
  | .pubcomp msgId =>
    removeMessage mem outboundMsgs msgId fun m => m.qos = 2 ∧ m.nextMessageType = some .PUBCOMP

/-- A client with its lists in memory. -/
structure Kept where
  mem : Memory Stored
  c : Clients

def Kept.step (k : Kept) (e : MessageEvent) : Except MemoryFault Kept := do
  return ⟨← memoryStep k.mem e, clientStep k.c e⟩

def KeptStep (k : Kept) (e : MessageEvent) (k' : Kept) : Prop := k.step e = .ok k'

/-- The lists of a client that has no messages. -/
def Kept.start (c : Clients) : Kept :=
  ⟨(Memory.start.create outboundMsgs).create inboundMsgs, { c with outboundMsgs := [], inboundMsgs := [] }⟩

/-- What `malloc` gives is free, and a message that is sent has an id that no other one has. -/
def Proper (k : Kept) : MessageEvent → Prop
  | .start publish _ _ _ _ newel =>
    k.mem.heap newel = none ∧ publish.token ∉ k.c.outboundMsgs.map Messages.msgid
  | .publish _ _ _ _ _ newel => k.mem.heap newel = none
  | _ => True

instance (k : Kept) : (e : MessageEvent) → Decidable (Proper k e)
  | .start .. => inferInstanceAs (Decidable (_ ∧ _))
  | .publish _ _ _ _ _ newel => inferInstanceAs (Decidable (k.mem.heap newel = none))
  | .puback _ | .pubrec .. | .pubrel .. | .pubcomp _ => inferInstanceAs (Decidable True)

/-- The two lists. -/
def both (x y : ListSpec Stored) : Specs Stored :=
  Function.update (Function.update (fun _ => none) outboundMsgs (some x)) inboundMsgs (some y)

/-- **Memory holds the messages of the client**, and nothing else. -/
structure Keeps (k : Kept) (x y : ListSpec Stored) : Prop where
  rep : Rep k.mem (both x y)
  outbound : messages x = k.c.outboundMsgs
  inbound : messages y = k.c.inboundMsgs
  distinct : (k.c.outboundMsgs.map Messages.msgid).Nodup
  held : (k.c.inboundMsgs.map Messages.msgid).Nodup

section Client
variable {k k' : Kept} {x y x' y' : ListSpec Stored} {c : Clients} {mem : Memory Stored}

theorem both_outbound : both x y outboundMsgs = some x := rfl

theorem both_inbound : both x y inboundMsgs = some y := rfl

theorem update_outbound : Function.update (both x y) outboundMsgs (some x') = both x' y := by
  rw [both, Function.update_comm (by decide), Function.update_idem]
  rfl

theorem update_inbound : Function.update (both x y) inboundMsgs (some y') = both x y' := by
  rw [both, Function.update_idem]
  rfl

theorem keeps_start (c : Clients) : Keeps (Kept.start c) ListSpec.empty ListSpec.empty := by
  refine ⟨?_, rfl, rfl, List.nodup_nil, List.nodup_nil⟩
  have hr := create_spec rep_start (α := Stored) (l := outboundMsgs) rfl
  exact create_spec hr (l := inboundMsgs) rfl

/-- What `malloc` gives is in none of the lists. -/
theorem unused_of_free {s : Specs Stored} {p : Ptr} (hr : Rep mem s) (hp : mem.heap p = none) :
    Unused s p := by
  intro l x hl hmem
  obtain ⟨_, -, hx⟩ := hr.list hl
  have hsome := hx.linked.seg.allocated p hmem
  rw [hp] at hsome
  cases hsome

/-! Sending leaves the messages alone. -/

@[simp] theorem put_messages (c : Clients) (p : Packet) (answer : CompletionCode) :
    (put c p answer).2.outboundMsgs = c.outboundMsgs ∧
      (put c p answer).2.inboundMsgs = c.inboundMsgs := by
  rcases put_cases c p answer with h | ⟨-, rc, b, -, h⟩ <;> simp [h]

@[simp] theorem answerAck_messages (c : Clients) (type : msgTypes) (i : ℕ) (answer : CompletionCode) :
    (answerAck c type i answer).2.outboundMsgs = c.outboundMsgs ∧
      (answerAck c type i answer).2.inboundMsgs = c.inboundMsgs := by
  unfold answerAck
  split_ifs
  · exact put_messages c _ _
  · exact ⟨rfl, rfl⟩

@[simp] theorem processPublication_messages (c : Clients) (publish : Publish) (accepts : Bool) :
    (Protocol_processPublication c publish accepts).outboundMsgs = c.outboundMsgs ∧
      (Protocol_processPublication c publish accepts).inboundMsgs = c.inboundMsgs := by
  unfold Protocol_processPublication
  split_ifs <;> exact ⟨rfl, rfl⟩

/-- A handler for the messages that are sent. -/
theorem Keeps.outbound_step (h : Keeps k x y) {c' : Clients} {mem' : Memory Stored}
    (hat : At mem' (both x y) outboundMsgs x') (hout : messages x' = c'.outboundMsgs)
    (hdistinct : (c'.outboundMsgs.map Messages.msgid).Nodup) (hin : c'.inboundMsgs = k.c.inboundMsgs) :
    Keeps ⟨mem', c'⟩ x' y := by
  rw [At, update_outbound] at hat
  exact ⟨hat, hout, h.inbound.trans hin.symm, hdistinct, hin ▸ h.held⟩

/-- A handler for the messages that are held. -/
theorem Keeps.inbound_step (h : Keeps k x y) {c' : Clients} {mem' : Memory Stored}
    (hat : At mem' (both x y) inboundMsgs y') (hin : messages y' = c'.inboundMsgs)
    (hheld : (c'.inboundMsgs.map Messages.msgid).Nodup) (hout : c'.outboundMsgs = k.c.outboundMsgs) :
    Keeps ⟨mem', c'⟩ x y' := by
  rw [At, update_inbound] at hat
  exact ⟨hat, h.outbound.trans hout.symm, hin, hout ▸ h.distinct, hheld⟩

/-- A handler that leaves the lists alone. -/
theorem Keeps.same (h : Keeps k x y) {c' : Clients} (hout : c'.outboundMsgs = k.c.outboundMsgs)
    (hin : c'.inboundMsgs = k.c.inboundMsgs) : Keeps ⟨k.mem, c'⟩ x y :=
  ⟨h.rep, h.outbound.trans hout.symm, h.inbound.trans hin.symm, hout ▸ h.distinct, hin ▸ h.held⟩

theorem nodup_removed {expected : Messages → Bool} {msgs : List Messages}
    (h : (msgs.map Messages.msgid).Nodup) (i : ℕ) :
    ((removed expected i msgs).map Messages.msgid).Nodup := by
  rcases hm : findMsg msgs i with _ | m
  · simpa only [removed, hm] using h
  · simp only [removed, hm]
    split_ifs
    · rw [map_removeMsg]
      exact h.erase i
    · exact h

theorem nodup_changed {expected : Messages → Bool} {f : Messages → Messages} {msgs : List Messages}
    (hf : ∀ m, (f m).msgid = m.msgid) (h : (msgs.map Messages.msgid).Nodup) (i : ℕ) :
    ((changed expected f i msgs).map Messages.msgid).Nodup := by
  rcases hm : findMsg msgs i with _ | m
  · simpa only [changed, hm] using h
  · simp only [changed, hm]
    split_ifs
    · rwa [map_updateMsg hf]
    · exact h

theorem released_msgid (now : ℕ) (m : Messages) : (released now m).msgid = m.msgid := rfl

/-! What the handlers do to the messages. -/

theorem handlePublishes_messages (c : Clients) (publish : Publish) (accepts : Bool)
    (answer : CompletionCode) :
    (MQTTProtocol_handlePublishes c publish accepts answer).2.inboundMsgs
        = (if publish.header.qos = 2 then storeMsg (receivedMessage publish) c.inboundMsgs
          else c.inboundMsgs) ∧
      (MQTTProtocol_handlePublishes c publish accepts answer).2.outboundMsgs = c.outboundMsgs := by
  unfold MQTTProtocol_handlePublishes
  by_cases h₀ : publish.header.qos = 0
  · simp [h₀]
  · by_cases h₁ : publish.header.qos = 1
    · simp [h₁]
    · by_cases h₂ : publish.header.qos = 2 <;> simp [h₀, h₁, h₂]

theorem handlePubacks_messages (c : Clients) (i : ℕ) :
    (MQTTProtocol_handlePubacks c i).2.outboundMsgs = removed (fun m => m.qos = 1) i c.outboundMsgs ∧
      (MQTTProtocol_handlePubacks c i).2.inboundMsgs = c.inboundMsgs := by
  unfold MQTTProtocol_handlePubacks removed
  rcases findMsg c.outboundMsgs i with _ | m
  · exact ⟨rfl, rfl⟩
  · by_cases hm : m.qos = 1 <;> simp [hm]

theorem handlePubcomps_messages (c : Clients) (i : ℕ) :
    (MQTTProtocol_handlePubcomps c i).2.outboundMsgs
        = removed (fun m => m.qos = 2 ∧ m.nextMessageType = some .PUBCOMP) i c.outboundMsgs ∧
      (MQTTProtocol_handlePubcomps c i).2.inboundMsgs = c.inboundMsgs := by
  unfold MQTTProtocol_handlePubcomps removed
  rcases findMsg c.outboundMsgs i with _ | m
  · exact ⟨rfl, rfl⟩
  · by_cases hm : m.qos = 2 ∧ m.nextMessageType = some .PUBCOMP <;> simp [hm]

theorem handlePubrecs_messages (c : Clients) (i now : ℕ) (answer : CompletionCode) :
    (MQTTProtocol_handlePubrecs c i now answer).2.outboundMsgs
        = changed (fun m => m.qos = 2 ∧ m.nextMessageType = some .PUBREC) (released now) i
          c.outboundMsgs ∧
      (MQTTProtocol_handlePubrecs c i now answer).2.inboundMsgs = c.inboundMsgs := by
  unfold MQTTProtocol_handlePubrecs changed
  rcases findMsg c.outboundMsgs i with _ | m
  · exact answerAck_messages c _ _ _
  · by_cases hm : m.qos = 2 ∧ m.nextMessageType = some .PUBREC <;> simp [hm]

theorem handlePubrels_messages (c : Clients) (i : ℕ) (accepts : Bool) (answer : CompletionCode) :
    (MQTTProtocol_handlePubrels c i accepts answer).2.inboundMsgs
        = removed (fun m => m.qos = 2 ∧ m.nextMessageType = some .PUBREL) i c.inboundMsgs ∧
      (MQTTProtocol_handlePubrels c i accepts answer).2.outboundMsgs = c.outboundMsgs := by
  unfold MQTTProtocol_handlePubrels removed
  rcases findMsg c.inboundMsgs i with _ | m
  · exact (answerAck_messages c _ _ _).symm
  · by_cases hm : m.qos = 2 ∧ m.nextMessageType = some .PUBREL <;> simp [hm]

/-- **One handler**: it uses no invalid pointer, and the lists are those of the client again. -/
theorem kept_step (h : Keeps k x y) {e : MessageEvent} (hproper : Proper k e) :
    ∃ mem' x' y', memoryStep k.mem e = .ok mem' ∧ Keeps ⟨mem', clientStep k.c e⟩ x' y' := by
  have hout := Rep.at h.rep (both_outbound (x := x) (y := y))
  have hin := Rep.at h.rep (both_inbound (x := x) (y := y))
  have hdistinct := h.distinct
  have hheld := h.held
  rw [← h.outbound] at hdistinct
  rw [← h.inbound] at hheld
  cases e with
  | start publish now answer m size newel =>
    obtain ⟨hfree, hnew⟩ := hproper
    have hput : (clientStep k.c (.start publish now answer m size newel)).outboundMsgs
        = (if 0 < publish.qos then k.c.outboundMsgs ++ [MQTTProtocol_createMessage publish now]
          else k.c.outboundMsgs) ∧
        (clientStep k.c (.start publish now answer m size newel)).inboundMsgs = k.c.inboundMsgs :=
      put_messages _ _ _
    by_cases hqos : 0 < publish.qos
    · rw [if_pos hqos] at hput
      have hunused := unused_of_free hout hfree
      obtain ⟨mem', happend, hat⟩ := hout.append hunused (m, MQTTProtocol_createMessage publish now) size
      refine ⟨mem', _, y, ?_, h.outbound_step hat ?_ ?_ hput.2⟩
      · simp only [memoryStep, if_pos hqos, happend]
      · rw [hput.1, ← h.outbound]
        simp [messages, ListSpec.insert, insertBefore_none]
      · rw [hput.1, List.map_append]
        show (k.c.outboundMsgs.map Messages.msgid ++ [publish.token]).Nodup
        rw [← List.concat_eq_append]
        exact h.distinct.concat hnew
    · rw [if_neg hqos] at hput
      exact ⟨k.mem, x, y, by simp only [memoryStep, if_neg hqos]; rfl, h.same hput.1 hput.2⟩
  | publish publish accepts answer m size newel =>
    obtain ⟨hinbound, houtbound⟩ := handlePublishes_messages k.c publish accepts answer
    by_cases hqos : publish.header.qos = 2
    · rw [if_pos hqos] at hinbound
      have hunused := unused_of_free hin hproper
      obtain ⟨mem', y', hstore, hat, hmsgs⟩ :=
        storeMessage_spec hin hheld hunused (m, receivedMessage publish) size
      rw [h.inbound] at hmsgs
      refine ⟨mem', x, y', ?_, h.inbound_step hat (hmsgs.trans hinbound.symm) ?_ houtbound⟩
      · simp only [memoryStep, if_pos hqos, hstore]
      · show ((MQTTProtocol_handlePublishes k.c publish accepts answer).2.inboundMsgs.map
          Messages.msgid).Nodup
        rw [hinbound]
        exact nodup_storeMsg h.held _
    · rw [if_neg hqos] at hinbound
      exact ⟨k.mem, x, y, by simp only [memoryStep, if_neg hqos]; rfl, h.same houtbound hinbound⟩
  | puback msgId =>
    obtain ⟨mem', x', hrun, hat, hmsgs⟩ := removeMessage_spec hout hdistinct msgId fun m => m.qos = 1
    obtain ⟨houtbound, hinbound⟩ := handlePubacks_messages k.c msgId
    rw [h.outbound, ← houtbound] at hmsgs
    exact ⟨mem', x', y, hrun, h.outbound_step hat hmsgs (houtbound ▸ nodup_removed h.distinct msgId)
      hinbound⟩
  | pubrec msgId now answer =>
    obtain ⟨mem', x', hrun, hat, hmsgs⟩ := changeMessage_spec hout hdistinct msgId
      (fun m => m.qos = 2 ∧ m.nextMessageType = some .PUBREC) (released now)
    obtain ⟨houtbound, hinbound⟩ := handlePubrecs_messages k.c msgId now answer
    rw [h.outbound, ← houtbound] at hmsgs
    exact ⟨mem', x', y, hrun, h.outbound_step hat hmsgs
      (houtbound ▸ nodup_changed (released_msgid now) h.distinct msgId) hinbound⟩
  | pubrel msgId accepts answer =>
    obtain ⟨mem', y', hrun, hat, hmsgs⟩ := removeMessage_spec hin hheld msgId
      fun m => m.qos = 2 ∧ m.nextMessageType = some .PUBREL
    obtain ⟨hinbound, houtbound⟩ := handlePubrels_messages k.c msgId accepts answer
    rw [h.inbound, ← hinbound] at hmsgs
    exact ⟨mem', x, y', hrun, h.inbound_step hat hmsgs (hinbound ▸ nodup_removed h.held msgId)
      houtbound⟩
  | pubcomp msgId =>
    obtain ⟨mem', x', hrun, hat, hmsgs⟩ := removeMessage_spec hout hdistinct msgId
      fun m => m.qos = 2 ∧ m.nextMessageType = some .PUBCOMP
    obtain ⟨houtbound, hinbound⟩ := handlePubcomps_messages k.c msgId
    rw [h.outbound, ← houtbound] at hmsgs
    exact ⟨mem', x', y, hrun, h.outbound_step hat hmsgs (houtbound ▸ nodup_removed h.distinct msgId)
      hinbound⟩

theorem keeps_run {tr : List (Kept × MessageEvent)} (hr : Run KeptStep (Kept.start c) tr k)
    (hC : Along Proper tr) : ∃ x y, Keeps k x y := by
  have hinv := hr.invariant (I := fun k => ∃ x y, Keeps k x y) ⟨_, _, keeps_start c⟩
    (fun k e k' ⟨x, y, h⟩ hproper hs => by
      obtain ⟨mem', x', y', hrun, hk⟩ := kept_step h hproper
      obtain rfl : ⟨mem', clientStep k.c e⟩ = k' := by
        simp only [KeptStep, Kept.step, hrun, bind, Except.bind] at hs
        exact Except.ok.inj hs
      exact ⟨x', y', hk⟩) hC
  exact hinv.last

/-- **The linked lists hold the messages of the client** after every run of the handlers, and the next
handler finds no invalid pointer and no loop that does not end. -/
theorem messages_kept {tr : List (Kept × MessageEvent)} (hr : Run KeptStep (Kept.start c) tr k)
    (hC : Along Proper tr) {e : MessageEvent} (he : Proper k e) :
    (∃ x y, Rep k.mem (both x y) ∧ messages x = k.c.outboundMsgs ∧ messages y = k.c.inboundMsgs) ∧
      ∃ k', KeptStep k e k' := by
  obtain ⟨x, y, h⟩ := keeps_run hr hC
  obtain ⟨mem', x', y', hrun, hk⟩ := kept_step h he
  refine ⟨⟨x, y, h.rep, h.outbound, h.inbound⟩, ⟨mem', clientStep k.c e⟩, ?_⟩
  simp only [KeptStep, Kept.step, hrun, bind, Except.bind]
  rfl

end Client

/-- A message is sent, another one arrives twice, and both are confirmed. -/
def sampleEvents : List MessageEvent :=
  [.start ⟨1, [97], [104], 2, false⟩ 0 .TCPSOCKET_COMPLETE 500 40 1,
    .publish ⟨⟨.PUBLISH, false, 2, false⟩, [97], 7, [105]⟩ true .TCPSOCKET_COMPLETE 600 40 2,
    .pubrec 1 5 .TCPSOCKET_COMPLETE,
    .publish ⟨⟨.PUBLISH, true, 2, false⟩, [97], 7, [105]⟩ true .TCPSOCKET_COMPLETE 700 40 3,
    .pubrel 7 true .TCPSOCKET_COMPLETE,
    .pubcomp 1]

theorem keptStep_of_toOption (k : Kept) (e : MessageEvent) (k' : Kept)
    (h : (k.step e).toOption = some k') : KeptStep k e k' := by
  rcases hs : k.step e with fault | k''
  · simp [hs, Except.toOption] at h
  · simp only [hs, Except.toOption, Option.some.injEq] at h
    rw [KeptStep, hs, h]

theorem run_sampleEvents : ∃ tr k, (Run KeptStep (Kept.start Broker.sampleStart.c) tr k ∧
    Along Proper tr) ∧ tr.map Prod.snd = sampleEvents := by
  have hsome : (sampleEvents.foldlM (fun k e => if Proper k e then (k.step e).toOption else none)
      (Kept.start Broker.sampleStart.c)).isSome = true := by decide
  obtain ⟨k, hk⟩ := Option.isSome_iff_exists.mp hsome
  obtain ⟨tr, hr, htr⟩ := run_of_foldlM_along keptStep_of_toOption sampleEvents hk
  exact ⟨tr, k, hr, htr⟩

theorem messages_kept_sampleEvents : ∃ tr k, Run KeptStep (Kept.start Broker.sampleStart.c) tr k ∧
    tr.map Prod.snd = sampleEvents ∧
    (∃ x y, Rep k.mem (both x y) ∧ messages x = k.c.outboundMsgs ∧ messages y = k.c.inboundMsgs) ∧
      ∃ k', KeptStep k (.puback 1) k' := by
  obtain ⟨tr, k, ⟨hr, hC⟩, htr⟩ := run_sampleEvents
  exact ⟨tr, k, hr, htr, messages_kept hr hC (e := .puback 1) trivial⟩

end LanternProject.Mqtt.MessageLists
