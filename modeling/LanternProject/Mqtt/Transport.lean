import LanternProject.Mqtt.Broker
import LanternProject.Mqtt.Writing

/-! # A connection carries packets

For the exchanges of a client a connection is a queue of packets: `put` appends one to it, the other
end takes them off one by one. Here are the bytes below: packets are written through a socket that
takes them in parts, the network carries bytes in order, the other end reads them in pieces.

* `not_refused`: a stream of packets that were written is never taken for something else.
* `link_simulates`: the bytes carry out the queue of packets, with the same completion codes.
* `factory_accepts`: the other end never gives the connection up for what it reads. -/

namespace LanternProject.Mqtt.Transport

open LanternProject.Lib.Frames LanternProject.Lib.Runs
open LanternProject.Engine.Basic LanternProject.Mqtt.MQTTPacket LanternProject.Mqtt.SocketBuffer
open LanternProject.Mqtt.Reading LanternProject.Mqtt.Wire LanternProject.Mqtt.Writing
open LanternProject.Mqtt.MQTTProtocolClient

/-! ### Streams of packets -/

/-- The packets that are written begin no stream that is refused. -/
theorem not_refused {ps : List Packet} (hps : ∀ p ∈ ps, Sendable p) {l : Bytes}
    (hl : l <+: (ps.map frameOf).flatMap frameBytes) : ¬Refused l := by
  obtain ⟨t, ht⟩ := hl
  rcases ps with _ | ⟨p, ps⟩
  · obtain ⟨rfl, -⟩ := List.append_eq_nil_iff.mp ht
    rintro (⟨c, ds, rest, hnil, -⟩ | ⟨f, rest, hnil, -⟩)
    · cases hnil
    · cases hnil
  · have hp := hps p List.mem_cons_self
    rw [List.map_cons, List.flatMap_cons] at ht
    have hnext := nextFrame_frameBytes (frameOf p) ((ps.map frameOf).flatMap frameBytes) hp.2
    rw [← ht] at hnext
    rintro (⟨c, ds, rest, rfl, hlen, htop⟩ | ⟨f, rest, hf, hbad⟩)
    · -- the digits of the length come to an end
      have hdigits : decodeDigits MAX_NO_OF_REMAINING_LENGTH_BYTES (ds ++ (rest ++ t)) = none :=
        hlen ▸ decodeDigits_top _ htop
      simp only [List.cons_append, List.append_assoc, nextFrame, hdigits] at hnext
      cases hnext
    · obtain ⟨rfl, -⟩ := Prod.mk.inj (Option.some.inj ((framing.stable t hf).symm.trans hnext))
      rw [parse_frameOf hp.1] at hbad
      cases hbad

/-! ### The bytes -/

/-- A connection: the socket of one end, the sockets of the other one, and the packets given to the
first with the completion codes. -/
structure Link where
  w : Writer
  t : Connections
  log : List (Packet × CompletionCode)

def Link.initial : Link := ⟨Writer.initial, Connections.initial, []⟩

/-- The packets the socket has accepted. -/
def Link.sent (l : Link) : List Packet :=
  (l.log.filter fun x => x.2 ≠ .SOCKET_ERROR).map Prod.fst

/-- A packet is written, a pending write goes on, some bytes are carried, the other end reads, or does
something with its other sockets. -/
inductive LinkEvent where
  | put (p : Packet) (answer : WriteAnswer)
  | continueWrites (answer : WriteAnswer)
  | carry (n : ℕ)
  | read (avail : List ℕ)
  | elsewhere (e : Event)

/-- The socket an event is about. -/
def socketOf : Event → SOCKET
  | .arrive socket _ => socket
  | .read socket _ => socket
  | .close socket => socket

variable {k : SOCKET}

/-- One step, with socket `k` at the other end. -/
def Link.step (k : SOCKET) (l : Link) : LinkEvent → Except Fault Link
  | .put p answer =>
    let r := Socket_putdatas l.w (frameOf p).1 (buffers p).tail answer
    return { l with w := r.2, log := l.log ++ [(p, r.1)] }
  | .continueWrites answer => do return { l with w := ← Socket_continueWrites l.w answer }
  | .carry n => do
    let bytes := (l.w.wire.drop (l.t.arrived k).length).take n
    return { l with t := ← l.t.step (.arrive k bytes) }
  | .read avail => do return { l with t := ← l.t.step (.read k (avail.map .avail)) }
  | .elsewhere e => do return { l with t := ← l.t.step e }

def LinkStep (k : SOCKET) (l : Link) (e : LinkEvent) (l' : Link) : Prop := l.step k e = .ok l'

/-- The connection stands: its packets fit the format, no write fails, and it is not closed. -/
def Stands (k : SOCKET) (_ : Link) : LinkEvent → Prop
  | .put p _ => Sendable p
  | .continueWrites answer => answer ≠ .failed
  | .carry _ => True
  | .read _ => True
  | .elsewhere e => socketOf e ≠ k

/-- **What holds of the bytes.** -/
structure Carried (k : SOCKET) (l : Link) : Prop where
  faithful : Faithful l.w
  reading : Inv l.t
  accepted : l.w.accepted = l.sent.map frameOf
  sendable : ∀ p ∈ l.sent, Sendable p
  arrived : l.t.arrived k <+: l.w.wire

variable {l l' : Link}

theorem carried_initial : Carried k Link.initial :=
  ⟨faithful_initial, inv_initial, rfl, by simp [Link.initial, Link.sent], List.prefix_refl _⟩

theorem Carried.packets (h : Carried k l) : l.t.packets k <+: l.sent :=
  prefix_of_carried h.faithful h.reading h.arrived h.accepted h.sendable

/-- What is queued and has arrived is the rest of the stream. -/
theorem Carried.not_refused (h : Carried k l) {frames : List Frame} {pending : Bytes}
    (hread : HasRead l.t k frames pending) : ¬Refused (pending ++ l.t.incoming k) := by
  have hwire : l.t.arrived k <+: (l.sent.map frameOf).flatMap frameBytes :=
    h.arrived.trans ⟨l.w.unsent, h.accepted ▸ h.faithful.wire⟩
  have hlen : ∀ f ∈ l.sent.map frameOf, f.2.length < 2 ^ 28 := by
    intro f hf
    obtain ⟨p, hp, rfl⟩ := List.mem_map.mp hf
    exact (h.sendable p hp).2
  obtain ⟨more, hsent, hrest⟩ :=
    hread.reads.of_written (fun f t hf => nextFrame_frameBytes f t hf) rfl hlen hwire
  obtain ⟨first, others, hsplit, -, rfl⟩ := List.map_eq_append_iff.mp hsent
  exact Transport.not_refused (fun p hp => h.sendable p (hsplit ▸ List.mem_append_right _ hp)) hrest

/-! ### The queue of packets -/

/-- A connection as a queue: the client that has given packets to its socket, the packets read at the
other end, the completion codes. -/
structure Channel where
  c : Clients
  read : List Packet
  log : List (Packet × CompletionCode)

/-- A packet is put into the queue, the pending write comes to its end, the first packet is read. -/
inductive Channel.Step : Channel → Channel → Prop
  | put (ch : Channel) (p : Packet) (answer : CompletionCode) :
      Step ch ⟨(put ch.c p answer).2, ch.read, ch.log ++ [(p, (put ch.c p answer).1)]⟩
  | written (ch : Channel) : Step ch { ch with c := { ch.c with pendingWrites := false } }
  | read (ch : Channel) (p : Packet) (net : List Packet) (h : ch.c.net = p :: net) :
      Step ch { ch with c := { ch.c with net := net }, read := ch.read ++ [p] }

/-- The queue a connection carries out, for a client that is otherwise `c`. -/
def Link.channel (k : SOCKET) (c : Clients) (l : Link) : Channel where
  c := { c with
    pendingWrites := l.w.write_pending
    net := l.sent.drop (l.t.packets k).length }
  read := l.t.packets k
  log := l.log

/-- **A packet is put** into the socket. -/
theorem putdatas_cases (w : Writer) (header : Header) (bufs : List Bytes) (answer : WriteAnswer) :
    (Socket_putdatas w header bufs answer = (.SOCKET_ERROR, w)) ∨
    w.write_pending = false ∧ ∃ rc w', Socket_putdatas w header bufs answer = (rc, w') ∧
      rc ≠ .SOCKET_ERROR ∧ w'.accepted = w.accepted ++ [(header, bufs.flatten)] ∧
      w'.write_pending = decide (rc = .TCPSOCKET_INTERRUPTED) ∧ w.wire <+: w'.wire := by
  unfold Socket_putdatas
  rcases hpending : w.write_pending with _ | _
  · rw [if_neg (by simp [Writing.Socket_noPendingWrites, hpending])]
    dsimp only
    rcases hwrite : Socket_writev w.wire (MQTTPacket_sends header bufs) answer with _ | ⟨bytes, wire⟩
    · exact Or.inl rfl
    · dsimp only
      have hwire := (writev_some hwrite).2.2
      split_ifs with hdone
      · exact Or.inr ⟨rfl, _, _, rfl, by simp, rfl, rfl, hwire⟩
      · exact Or.inr ⟨rfl, _, _, rfl, by simp, rfl, rfl, hwire⟩
  · rw [if_pos (by simp [Writing.Socket_noPendingWrites, hpending])]
    exact Or.inl rfl

/-- What another socket does leaves this one alone. -/
theorem elsewhere_step {t t' : Connections} {e : Event} (hk : socketOf e ≠ k)
    (h : t.step e = .ok t') : t'.arrived k = t.arrived k ∧ t'.packets k = t.packets k := by
  have hclose : ∀ (t : Connections) {j : SOCKET}, j ≠ k →
      (t.close j).arrived k = t.arrived k ∧ (t.close j).packets k = t.packets k :=
    fun t j hj => ⟨Function.update_of_ne hj.symm _ _, Function.update_of_ne hj.symm _ _⟩
  cases e with
  | arrive j bytes =>
    obtain rfl := Except.ok.inj h
    exact ⟨Function.update_of_ne (Ne.symm hk) _ _, rfl⟩
  | close j =>
    obtain rfl := Except.ok.inj h
    exact hclose t hk
  | read j answers =>
    simp only [Connections.step, Connections.read] at h
    split_ifs at h
    · obtain rfl := Except.ok.inj h
      exact ⟨rfl, rfl⟩
    · rcases hfactory : MQTTPacket_Factory ⟨t.s, t.incoming j, answers⟩ j with _ | ⟨⟨pack, error⟩, r⟩
      · rw [hfactory] at h
        cases h
      · rw [hfactory] at h
        simp only [bind, Except.bind] at h
        split_ifs at h
        · obtain rfl := Except.ok.inj h
          exact hclose { t with s := r.s } hk
        · obtain rfl := Except.ok.inj h
          exact ⟨rfl, Function.update_of_ne (Ne.symm hk) _ _⟩

/-- **The other end reads**: it does not give up the connection, and reads a packet or none. -/
theorem Carried.read (h : Carried k l) (hk : k ≠ 0) (avail : List ℕ) :
    ∃ pack error r, MQTTPacket_Factory ⟨l.t.s, l.t.incoming k, avail.map .avail⟩ k
        = .ok ((pack, error), r) ∧ error ≠ .SOCKET_ERROR ∧
      l.t.step (.read k (avail.map .avail)) = .ok { l.t with
        s := r.s
        incoming := Function.update l.t.incoming k r.incoming
        packets := Function.update l.t.packets k (l.t.packets k ++ pack.toList) } := by
  obtain ⟨frames, pending, hread⟩ := h.reading k
  obtain ⟨pack, error, r, hfactory, -, herror, -⟩ :=
    factory_spec (r := ⟨l.t.s, l.t.incoming k, avail.map .avail⟩) hk hread.ready
  have hup : NetworkUp ⟨l.t.s, l.t.incoming k, avail.map .avail⟩ := by
    intro a ha
    obtain ⟨n, -, rfl⟩ := List.mem_map.mp ha
    exact ⟨n, rfl⟩
  have hne : error ≠ .SOCKET_ERROR := fun he => h.not_refused hread ((herror he).2 hup)
  refine ⟨pack, error, r, hfactory, hne, ?_⟩
  simp only [Connections.step, Connections.read, if_neg hk, hfactory, bind, Except.bind, if_neg hne]
  rfl

/-- The packets accepted, with one more answer. -/
theorem sent_concat (l : Link) (w : Writer) (p : Packet) (rc : CompletionCode) :
    ({ l with w := w, log := l.log ++ [(p, rc)] } : Link).sent
      = l.sent ++ if rc = .SOCKET_ERROR then [] else [p] := by
  by_cases hrc : rc = .SOCKET_ERROR
  · simp [Link.sent, hrc]
  · simp [Link.sent, hrc]

/-- **One step** keeps what holds of the bytes. -/
theorem carried_step {e : LinkEvent} (hk : k ≠ 0) (h : Carried k l) (hC : Stands k l e)
    (hs : LinkStep k l e l') : Carried k l' := by
  unfold LinkStep at hs
  cases e with
  | put p answer =>
    obtain rfl := Except.ok.inj hs
    have hp : Sendable p := hC
    have hfaithful := faithful_putdatas h.faithful (frameOf p).1 (buffers p).tail answer
    rcases putdatas_cases l.w (frameOf p).1 (buffers p).tail answer with
      heq | ⟨-, rc, w', heq, hrc, haccepted, -, hwire⟩
    · rw [heq] at hfaithful ⊢
      have hsent := sent_concat l l.w p .SOCKET_ERROR
      rw [if_pos rfl, List.append_nil] at hsent
      exact ⟨hfaithful, h.reading, hsent ▸ h.accepted, hsent ▸ h.sendable, h.arrived⟩
    · rw [heq] at hfaithful ⊢
      have hsent := sent_concat l w' p rc
      rw [if_neg hrc] at hsent
      refine ⟨hfaithful, h.reading, ?_, ?_, h.arrived.trans hwire⟩
      · rw [hsent, haccepted, h.accepted, flatten_tail_buffers hp.1, List.map_append]
        rfl
      · rw [hsent]
        intro q hq
        rcases List.mem_append.mp hq with hq | hq
        · exact h.sendable q hq
        · rwa [List.mem_singleton.mp hq]
  | continueWrites answer =>
    obtain ⟨w', hw', hfaithful, haccepted, hwire, -⟩ := faithful_continueWrites h.faithful hC
    simp only [Link.step, hw', bind, Except.bind] at hs
    obtain rfl := Except.ok.inj hs
    exact ⟨hfaithful, h.reading, haccepted.trans h.accepted, h.sendable, h.arrived.trans hwire⟩
  | carry n =>
    obtain rfl := Except.ok.inj hs
    obtain ⟨t', ht', hinv⟩ := inv_step h.reading
      (.arrive k ((l.w.wire.drop (l.t.arrived k).length).take n))
    obtain rfl := Except.ok.inj ht'
    refine ⟨h.faithful, hinv, h.accepted, h.sendable, ?_⟩
    obtain ⟨rest, hrest⟩ := h.arrived
    simp only [Function.update_self, ← hrest, List.drop_left]
    exact (List.prefix_append_right_inj _).mpr (List.take_prefix n rest)
  | read avail =>
    obtain ⟨t', ht', hinv⟩ := inv_step h.reading (.read k (avail.map .avail))
    obtain ⟨pack, error, r, -, -, hstep⟩ := h.read hk avail
    simp only [Link.step, hstep, bind, Except.bind] at hs
    obtain rfl := Except.ok.inj hs
    obtain rfl := Except.ok.inj (hstep.symm.trans ht')
    exact ⟨h.faithful, hinv, h.accepted, h.sendable, h.arrived⟩
  | elsewhere e =>
    obtain ⟨t', ht', hinv⟩ := inv_step h.reading e
    simp only [Link.step, ht', bind, Except.bind] at hs
    obtain rfl := Except.ok.inj hs
    refine ⟨h.faithful, hinv, h.accepted, h.sendable, ?_⟩
    rw [(elsewhere_step hC ht').1]
    exact h.arrived

theorem put_failed (c : Clients) (p : Packet) : put c p .SOCKET_ERROR = (.SOCKET_ERROR, c) := by
  unfold put
  split_ifs
  · rfl
  · rfl

theorem put_taken {c : Clients} (hc : c.pendingWrites = false) (p : Packet) {rc : CompletionCode}
    (hrc : rc ≠ .SOCKET_ERROR) : put c p rc
      = (rc, { c with
          net := c.net ++ [p]
          pendingWrites := decide (rc = .TCPSOCKET_INTERRUPTED) }) := by
  cases rc with
  | SOCKET_ERROR => exact absurd rfl hrc
  | TCPSOCKET_COMPLETE => simp [put, MQTTProtocolClient.Socket_noPendingWrites, hc]
  | TCPSOCKET_INTERRUPTED => simp [put, MQTTProtocolClient.Socket_noPendingWrites, hc]

/-- **One step** of the bytes is one of the queue, or none. -/
theorem channel_step {e : LinkEvent} (hk : k ≠ 0) (h : Carried k l) (hC : Stands k l e)
    (hs : LinkStep k l e l') (c : Clients) :
    Relation.ReflTransGen Channel.Step (l.channel k c) (l'.channel k c) := by
  have h' := carried_step hk h hC hs
  unfold LinkStep at hs
  cases e with
  | put p answer =>
    obtain rfl := Except.ok.inj hs
    rcases putdatas_cases l.w (frameOf p).1 (buffers p).tail answer with
      heq | ⟨hpending, rc, w', heq, hrc, -, hpending', -⟩
    · have hput := Channel.Step.put (l.channel k c) p .SOCKET_ERROR
      have hsent := sent_concat l l.w p .SOCKET_ERROR
      rw [put_failed] at hput
      rw [if_pos rfl, List.append_nil] at hsent
      refine .single ?_
      simpa only [Link.channel, heq, hsent] using hput
    · have hput := Channel.Step.put (l.channel k c) p rc
      have hsent := sent_concat l w' p rc
      have hlen := h.packets.length_le
      rw [put_taken hpending p hrc] at hput
      rw [if_neg hrc] at hsent
      refine .single ?_
      simpa only [Link.channel, heq, hsent, hpending', List.drop_append_of_le_length hlen] using hput
  | continueWrites answer =>
    obtain ⟨w', hw', -, -, -, hpending⟩ := faithful_continueWrites h.faithful hC
    simp only [Link.step, hw', bind, Except.bind] at hs
    obtain rfl := Except.ok.inj hs
    rcases hpending with hpending | hpending
    · have heq : Link.channel k c { l with w := w' } = l.channel k c := by
        simp only [Link.channel, hpending, Link.sent]
      rw [heq]
    · have hwritten := Channel.Step.written (l.channel k c)
      refine .single ?_
      simpa only [Link.channel, hpending, Link.sent] using hwritten
  | carry n =>
    obtain rfl := Except.ok.inj hs
    exact .refl
  | read avail =>
    obtain ⟨pack, error, r, -, -, hstep⟩ := h.read hk avail
    simp only [Link.step, hstep, bind, Except.bind] at hs
    obtain rfl := Except.ok.inj hs
    have hpackets := h'.packets
    simp only [Function.update_self] at hpackets
    cases pack with
    | none =>
      have heq : Link.channel k c { l with t := { l.t with
          s := r.s
          incoming := Function.update l.t.incoming k r.incoming
          packets := Function.update l.t.packets k (l.t.packets k ++ none.toList) } }
          = l.channel k c := by
        simp only [Link.channel, Function.update_self, Option.toList, List.append_nil, Link.sent]
      rw [heq]
    | some p =>
      obtain ⟨rest, hrest⟩ := hpackets
      replace hrest : l.t.packets k ++ [p] ++ rest = l.sent := hrest
      have hnet : l.sent.drop (l.t.packets k).length = p :: rest := by
        rw [← hrest, List.append_assoc, List.drop_left]
        rfl
      have hnet' : l.sent.drop (l.t.packets k ++ [p]).length = rest := by
        rw [← hrest, List.drop_left]
      have hread := Channel.Step.read (l.channel k c) p rest hnet
      rw [← hnet'] at hread
      refine .single ?_
      simpa only [Link.channel, Function.update_self, Option.toList, Link.sent] using hread
  | elsewhere e =>
    obtain ⟨t', ht', -⟩ := inv_step h.reading e
    simp only [Link.step, ht', bind, Except.bind] at hs
    obtain rfl := Except.ok.inj hs
    have heq : Link.channel k c { l with t := t' } = l.channel k c := by
      simp only [Link.channel, (elsewhere_step hC ht').2, Link.sent]
    rw [heq]

/-! ### Whole runs -/

variable {tr : List (Link × LinkEvent)}

theorem carried_run (hk : k ≠ 0) (hr : Run (LinkStep k) Link.initial tr l)
    (hC : Along (Stands k) tr) : Carried k l :=
  (hr.invariant carried_initial (fun _ _ _ h hC hs => carried_step hk h hC hs) hC).last

/-- A message is written in two pieces, carried in three and read in between. -/
def sampleLink : List LinkEvent :=
  [.put samplePublish (.wrote 3), .carry 2, .read [1, 1, 1], .continueWrites (.wrote 20), .carry 3,
    .read [1, 1], .carry 20, .read [20]]

theorem run_sampleLink : ∃ tr l, Run (LinkStep 1) Link.initial tr l ∧ tr.map Prod.snd = sampleLink ∧
    Along (Stands 1) tr := by
  obtain ⟨l, hl⟩ := Option.isSome_iff_exists.mp (show (sampleLink.foldlM (fun (l : Link) e =>
    (l.step 1 e).toOption) Link.initial).isSome from by decide +kernel)
  obtain ⟨tr, hr, htr⟩ := run_of_foldlM (fun _ _ _ => eq_ok_of_toOption) _ hl
  have hC : ∀ e ∈ tr.map Prod.snd, Stands 1 Link.initial e := by
    rw [htr]
    simp [sampleLink, Stands, sendable_samplePublish]
  exact ⟨tr, l, hr, htr, along_events.mpr hC⟩

/-- **The bytes carry out the queue**: whatever the network takes and gives, and wherever reads and
writes are interrupted, a connection does what a queue of packets does, with the same completion codes
and the same packets read. -/
theorem link_simulates (hk : k ≠ 0) (hr : Run (LinkStep k) Link.initial tr l)
    (hC : Along (Stands k) tr) (c : Clients) :
    Relation.ReflTransGen Channel.Step ⟨{ c with pendingWrites := false, net := [] }, [], []⟩
      (l.channel k c) :=
  hr.simulates (f := Link.channel k c) (I := Carried k) carried_initial
    (fun _ _ _ h hC hs => carried_step hk h hC hs)
    (fun _ _ _ h hC hs => channel_step hk h hC hs c) hC

theorem link_simulates_sampleLink : ∃ tr l, Run (LinkStep 1) Link.initial tr l ∧
    tr.map Prod.snd = sampleLink ∧
    Relation.ReflTransGen Channel.Step
      ⟨{ Broker.sampleStart.c with pendingWrites := false, net := [] }, [], []⟩
      (l.channel 1 Broker.sampleStart.c) := by
  obtain ⟨tr, l, hr, htr, hC⟩ := run_sampleLink
  exact ⟨tr, l, hr, htr, link_simulates (by decide) hr hC Broker.sampleStart.c⟩

/-- **Nothing is refused**: after any run, however what was written is cut, the other end reads a packet
or waits for more, and never gives up the connection. -/
theorem factory_accepts (hk : k ≠ 0) (hr : Run (LinkStep k) Link.initial tr l)
    (hC : Along (Stands k) tr) (avail : List ℕ) :
    ∃ pack error r, MQTTPacket_Factory ⟨l.t.s, l.t.incoming k, avail.map .avail⟩ k
      = .ok ((pack, error), r) ∧ error ≠ .SOCKET_ERROR := by
  obtain ⟨pack, error, r, hfactory, herror, -⟩ := (carried_run hk hr hC).read hk avail
  exact ⟨pack, error, r, hfactory, herror⟩

theorem factory_accepts_sampleLink : ∃ tr l, Run (LinkStep 1) Link.initial tr l ∧
    tr.map Prod.snd = sampleLink ∧
    ∃ pack error r, MQTTPacket_Factory ⟨l.t.s, l.t.incoming 1, [5].map .avail⟩ 1
      = .ok ((pack, error), r) ∧ error ≠ .SOCKET_ERROR := by
  obtain ⟨tr, l, hr, htr, hC⟩ := run_sampleLink
  exact ⟨tr, l, hr, htr, factory_accepts (by decide) hr hC [5]⟩

end LanternProject.Mqtt.Transport
