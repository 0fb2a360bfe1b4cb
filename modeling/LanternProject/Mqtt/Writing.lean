import LanternProject.Mqtt.Reading
import LanternProject.Mqtt.Wire

/-! # Writing packets to a socket

`Socket_putdatas` gives the buffers of a packet to a socket that does not block. If the network takes
only a part, the buffers are kept as a `pending_writes` and `Socket_continueWrite` offers the rest
whenever the socket is ready; until then no other packet is accepted.

* `flatten_remainingIovecs`: what is offered again is what was not written.
* `faithful_run`: as long as no continued write fails, the wire carries the accepted packets one after
  the other, and what is missing of the last one is pending.
* `packets_prefix`: if a connection carries the bytes in order, the packets read at its other end are
  the first of the packets accepted here. -/

namespace LanternProject.Mqtt.Writing

open LanternProject.Lib.Frames LanternProject.Lib.Runs
open LanternProject.Engine.Basic LanternProject.Mqtt.MQTTPacket LanternProject.Mqtt.SocketBuffer
open LanternProject.Mqtt.Reading LanternProject.Mqtt.Wire

/-- The buffers of a packet of which only `bytes` of `total` bytes have been written. -/
structure pending_writes where
  total : ℕ
  bytes : ℕ
  iovecs : List Bytes
deriving DecidableEq, Repr

/-- One socket: its entries in `writes` and in `write_pending`, the bytes the network took, and all
the packets accepted. -/
structure Writer where
  writes : Option pending_writes
  write_pending : Bool
  wire : Bytes
  accepted : List Frame

def Writer.initial : Writer := ⟨none, false, [], []⟩

/-- What the network answers to a write: how many bytes it takes, that it would block, an error. -/
inductive WriteAnswer where
  | wrote (n : ℕ)
  | wouldBlock
  | failed
deriving DecidableEq, Repr

/-- The bytes written, if there was no error, and the wire with them. -/
def Socket_writev (wire : Bytes) (iovecs : List Bytes) : WriteAnswer → Option (ℕ × Bytes)
  | .wrote n => some (min n iovecs.flatten.length, wire ++ iovecs.flatten.take n)
  | .wouldBlock => some (0, wire)
  | .failed => none

def Socket_noPendingWrites (w : Writer) : Bool := !w.write_pending

/-- The buffers `MQTTPacket_sends` made are written; the packet is accepted if this does not fail. -/
def Socket_putdatas (w : Writer) (header : Header) (bufs : List Bytes) (answer : WriteAnswer) :
    CompletionCode × Writer :=
  if !Socket_noPendingWrites w then (.SOCKET_ERROR, w)
  else
    let iovecs := MQTTPacket_sends header bufs
    let total := (iovecs.map List.length).sum
    match Socket_writev w.wire iovecs answer with
    | none => (.SOCKET_ERROR, w)
    | some (bytes, wire) =>
      let w := { w with wire := wire, accepted := w.accepted ++ [(header, bufs.flatten)] }
      if bytes = total then (.TCPSOCKET_COMPLETE, w)
      else
        (.TCPSOCKET_INTERRUPTED,
          { w with writes := some ⟨total, bytes, iovecs⟩, write_pending := true })

/-- The loop over the buffers in `Socket_continueWrite`; `curbuflen` is the length of those before. -/
def remainingIovecs (bytes : ℕ) : ℕ → List Bytes → List Bytes
  | _, [] => []
  | curbuflen, iovec :: iovecs =>
    (if bytes ≤ curbuflen then [iovec]
      else if bytes < curbuflen + iovec.length then [iovec.drop (bytes - curbuflen)]
      else []) ++ remainingIovecs bytes (curbuflen + iovec.length) iovecs

/-- The completion codes of `Socket_continueWrite`: `0`, `1`, `-1`. -/
inductive Continued where
  | incomplete
  | complete
  | error
deriving DecidableEq, Repr

/-- The entry in `writes` is used without a check. -/
def Socket_continueWrite (w : Writer) (answer : WriteAnswer) : Except Fault (Continued × Writer) :=
  match w.writes with
  | none => .error .nullPointer
  | some pw =>
    match Socket_writev w.wire (remainingIovecs pw.bytes 0 pw.iovecs) answer with
    | none => .ok (.error, w)
    | some (bytes, wire) =>
      let w := { w with wire := wire, writes := some { pw with bytes := pw.bytes + bytes } }
      if pw.bytes + bytes = pw.total then .ok (.complete, w) else .ok (.incomplete, w)

/-- `Socket_continueWrites` for this socket, if a write is pending: a write that is complete or failed
is removed. -/
def Socket_continueWrites (w : Writer) (answer : WriteAnswer) : Except Fault Writer :=
  if w.write_pending then do
    let (rc, w) ← Socket_continueWrite w answer
    if rc = .incomplete then return w
    else return { w with writes := none, write_pending := false }
  else return w

/-- `Socket_close`; a new connection may use the socket. -/
def Socket_close (_ : Writer) : Writer := Writer.initial

/-! ### What is offered again -/

/-- **What is offered again** is what has not been written. -/
theorem flatten_remainingIovecs (bytes : ℕ) : ∀ (curbuflen : ℕ) (iovecs : List Bytes),
    (remainingIovecs bytes curbuflen iovecs).flatten = iovecs.flatten.drop (bytes - curbuflen)
  | _, [] => by simp [remainingIovecs]
  | curbuflen, iovec :: iovecs => by
    rw [remainingIovecs, List.flatten_append, flatten_remainingIovecs bytes, List.flatten_cons,
      List.drop_append]
    split_ifs with hwhole hpart
    · have h0 : bytes - curbuflen = 0 := by omega
      have h0' : bytes - (curbuflen + iovec.length) = 0 := by omega
      simp [h0, h0']
    · have h0 : bytes - (curbuflen + iovec.length) = 0 := by omega
      have h0' : bytes - curbuflen - iovec.length = 0 := by omega
      simp [h0, h0']
    · have hall : iovec.drop (bytes - curbuflen) = [] := by
        rw [List.drop_eq_nil_iff]
        omega
      have heq : bytes - curbuflen - iovec.length = bytes - (curbuflen + iovec.length) := by omega
      simp [hall, heq]

/-- What the network took is a first part of what was offered. -/
theorem writev_some {wire wire' : Bytes} {iovecs : List Bytes} {answer : WriteAnswer} {bytes : ℕ}
    (h : Socket_writev wire iovecs answer = some (bytes, wire')) :
    bytes ≤ iovecs.flatten.length ∧ wire' ++ iovecs.flatten.drop bytes = wire ++ iovecs.flatten ∧
      wire <+: wire' := by
  cases answer with
  | failed => cases h
  | wouldBlock =>
    obtain ⟨rfl, rfl⟩ := Prod.mk.inj (Option.some.inj h)
    simp
  | wrote n =>
    obtain ⟨rfl, rfl⟩ := Prod.mk.inj (Option.some.inj h)
    refine ⟨min_le_right _ _, ?_, List.prefix_append _ _⟩
    rw [List.append_assoc]
    congr 1
    rcases le_total n iovecs.flatten.length with hle | hle
    · rw [min_eq_left hle, List.take_append_drop]
    · rw [min_eq_right hle, List.take_of_length_le hle, List.drop_length, List.append_nil]

/-- What of the accepted packets is not on the wire yet. -/
def Writer.unsent (w : Writer) : Bytes :=
  match w.writes with
  | none => []
  | some pw => pw.iovecs.flatten.drop pw.bytes

/-- **The wire carries the accepted packets**, and the two lists of pending writes agree. -/
structure Faithful (w : Writer) : Prop where
  pending : w.write_pending = w.writes.isSome
  total : ∀ pw ∈ w.writes, pw.total = pw.iovecs.flatten.length ∧ pw.bytes ≤ pw.total
  wire : w.wire ++ w.unsent = w.accepted.flatMap frameBytes

theorem faithful_initial : Faithful Writer.initial := ⟨rfl, by simp [Writer.initial], rfl⟩

/-- **A packet is accepted** only after all those before it are written. -/
theorem faithful_putdatas {w : Writer} (h : Faithful w) (header : Header) (bufs : List Bytes)
    (answer : WriteAnswer) : Faithful (Socket_putdatas w header bufs answer).2 := by
  rcases hpending : w.write_pending with _ | _
  · have hnone : w.writes = none := by simpa [hpending] using h.pending
    have hwire : w.wire = w.accepted.flatMap frameBytes := by
      simpa [Writer.unsent, hnone] using h.wire
    have hflat := flatten_sends header bufs
    unfold Socket_putdatas
    rw [if_neg (by simp [Socket_noPendingWrites, hpending])]
    dsimp only
    rcases hwrite : Socket_writev w.wire (MQTTPacket_sends header bufs) answer with _ | ⟨bytes, wire⟩
    · exact h
    · obtain ⟨hle, heq, -⟩ := writev_some hwrite
      have hlen := List.length_flatten (L := MQTTPacket_sends header bufs)
      have hall : wire ++ (MQTTPacket_sends header bufs).flatten.drop bytes
          = (w.accepted ++ [(header, bufs.flatten)]).flatMap frameBytes := by
        rw [heq, hwire, hflat]
        simp
      dsimp only
      split_ifs with hdone
      · refine ⟨h.pending, by simp [hnone], ?_⟩
        rw [hdone, ← hlen, List.drop_length] at hall
        simpa [Writer.unsent, hnone] using hall
      · refine ⟨rfl, fun pw hpw => ?_, hall⟩
        obtain rfl := Option.some.inj hpw
        exact ⟨hlen.symm, hlen ▸ hle⟩
  · unfold Socket_putdatas
    rw [if_pos (by simp [Socket_noPendingWrites, hpending])]
    exact h

/-- **A continued write** never fails for want of an entry, and writes what is missing. -/
theorem faithful_continueWrites {w : Writer} (h : Faithful w) {answer : WriteAnswer}
    (hok : answer ≠ .failed) : ∃ w', Socket_continueWrites w answer = .ok w' ∧ Faithful w' ∧
      w'.accepted = w.accepted ∧ w.wire <+: w'.wire ∧
      (w'.write_pending = w.write_pending ∨ w'.write_pending = false) := by
  rcases hpending : w.write_pending with _ | _
  · exact ⟨w, by simp only [Socket_continueWrites, hpending]; rfl, h, rfl, List.prefix_refl _,
      Or.inr hpending⟩
  · obtain ⟨pw, hpw⟩ : ∃ pw, w.writes = some pw := by
      rw [← Option.isSome_iff_exists, ← h.pending, hpending]
    obtain ⟨htotal, hbytes⟩ := h.total pw hpw
    rcases hwrite : Socket_writev w.wire (remainingIovecs pw.bytes 0 pw.iovecs) answer
      with _ | ⟨bytes, wire⟩
    · cases answer <;> simp [Socket_writev] at hwrite hok
    · obtain ⟨hle, heq, hprefix⟩ := writev_some hwrite
      rw [flatten_remainingIovecs, Nat.sub_zero] at hle heq
      rw [List.length_drop] at hle
      have hall : wire ++ pw.iovecs.flatten.drop (pw.bytes + bytes)
          = w.accepted.flatMap frameBytes := by
        rw [← h.wire, Writer.unsent, hpw, ← heq, List.drop_drop]
      by_cases hdone : pw.bytes + bytes = pw.total
      · refine ⟨{ w with wire := wire, writes := none, write_pending := false }, ?_, ⟨rfl, ?_, ?_⟩, rfl,
          hprefix, Or.inr rfl⟩
        · simp only [Socket_continueWrites, hpending, if_true, Socket_continueWrite, hpw, hwrite,
            hdone, bind, Except.bind]
          rfl
        · simp
        · rw [hdone, htotal, List.drop_length] at hall
          exact hall
      · refine ⟨{ w with wire := wire, writes := some { pw with bytes := pw.bytes + bytes } }, ?_,
          ⟨?_, ?_, hall⟩, rfl, hprefix, Or.inl hpending⟩
        · simp only [Socket_continueWrites, hpending, if_true, Socket_continueWrite, hpw, hwrite,
            hdone, if_false, bind, Except.bind]
          rfl
        · simp [hpending]
        · intro pw' hpw'
          obtain rfl := Option.some.inj hpw'
          exact ⟨htotal, by simp only; omega⟩

/-! ### Whole runs -/

/-- A packet is written, a pending write goes on, the connection is closed and made anew. -/
inductive WriteEvent where
  | put (header : Header) (bufs : List Bytes) (answer : WriteAnswer)
  | continueWrites (answer : WriteAnswer)
  | close

def Writer.step (w : Writer) : WriteEvent → Except Fault Writer
  | .put header bufs answer => return (Socket_putdatas w header bufs answer).2
  | .continueWrites answer => Socket_continueWrites w answer
  | .close => return Socket_close w

def WriteStep (w : Writer) (e : WriteEvent) (w' : Writer) : Prop := w.step e = .ok w'

/-- No continued write fails: if one does, the rest of the packet is given up and the connection is
closed. -/
def NotFailed (_ : Writer) (e : WriteEvent) : Prop := e ≠ .continueWrites .failed

variable {w : Writer} {tr : List (Writer × WriteEvent)}

theorem faithful_step (h : Faithful w) {e : WriteEvent} (hok : NotFailed w e) :
    ∃ w', w.step e = .ok w' ∧ Faithful w' := by
  cases e with
  | put header bufs answer => exact ⟨_, rfl, faithful_putdatas h header bufs answer⟩
  | continueWrites answer =>
    obtain ⟨w', hw', hfaithful, -⟩ :=
      @faithful_continueWrites w h answer fun he => hok (he ▸ rfl)
    exact ⟨w', hw', hfaithful⟩
  | close => exact ⟨_, rfl, faithful_initial⟩

/-- **In every run the wire carries the accepted packets**, one after the other; what is missing of the
last one is pending. -/
theorem faithful_run (hr : Run WriteStep Writer.initial tr w) (hok : Along NotFailed tr) :
    Faithful w :=
  (hr.invariant faithful_initial (fun w e w' h hC hs => by
    obtain ⟨u, hu, hfaithful⟩ := faithful_step h hC
    obtain rfl : u = w' := Except.ok.inj (hu.symm.trans hs)
    exact hfaithful) hok).last

/-- What is read of a first part of the bytes on the wire. -/
theorem prefix_of_carried {t : Connections} {k : SOCKET} {ps : List Packet} (h : Faithful w)
    (ht : Inv t) (hnet : t.arrived k <+: w.wire) (hsent : w.accepted = ps.map frameOf)
    (hps : ∀ p ∈ ps, Sendable p) : t.packets k <+: ps := by
  obtain ⟨frames, pending, hread⟩ := ht k
  have hwire : t.arrived k <+: w.accepted.flatMap frameBytes := hnet.trans ⟨w.unsent, h.wire⟩
  have hlen : ∀ f ∈ w.accepted, f.2.length < 2 ^ 28 := by
    intro f hf
    rw [hsent] at hf
    obtain ⟨p, hp, rfl⟩ := List.mem_map.mp hf
    exact (hps p hp).2
  obtain ⟨more, haccepted, -⟩ :=
    hread.reads.of_written (fun f t hf => nextFrame_frameBytes f t hf) rfl hlen hwire
  have hall : (ps.map frameOf).filterMap packetOf = ps := by
    rw [List.filterMap_map]
    refine (List.filterMap_congr fun p hp => ?_).trans List.filterMap_some
    simp [packetOf, parse_frameOf (hps p hp).1]
  rw [hread.packets, ← hall, ← hsent, haccepted, List.filterMap_append]
  exact List.prefix_append _ _

/-- **From end to end**: let the connection give socket `k` of one side a first part of the bytes
that are on the wire of the other side. Then the packets read are the first of those accepted. -/
theorem packets_prefix {t : Connections} {tr' : List (Connections × Event)} {k : SOCKET}
    (hr : Run WriteStep Writer.initial tr w) (hok : Along NotFailed tr)
    (hr' : Run Step Connections.initial tr' t) (hnet : t.arrived k <+: w.wire) {ps : List Packet}
    (hsent : w.accepted = ps.map frameOf) (hps : ∀ p ∈ ps, Sendable p) : t.packets k <+: ps :=
  prefix_of_carried (faithful_run hr hok) (inv_run hr') hnet hsent hps

/-- The socket takes three bytes, then the rest of the packet. -/
def sampleWrites : List WriteEvent :=
  [.put (frameOf samplePublish).1 [(frameOf samplePublish).2] (.wrote 3),
    .continueWrites (.wrote 20)]

/-- They are read in other pieces. -/
def sampleReads : List Event :=
  [.arrive 1 [52, 10, 0], .read 1 [.avail 1, .avail 1, .avail 1],
    .arrive 1 [3, 97, 47, 98, 1, 44, 1, 2, 3], .read 1 [.avail 10]]

/-- What is on the wire for it. -/
def sampleBytes : Bytes := [52, 10, 0, 3, 97, 47, 98, 1, 44, 1, 2, 3]

theorem packets_prefix_samplePublish : ∃ tr w tr' t, Run WriteStep Writer.initial tr w ∧
    Run Step Connections.initial tr' t ∧ tr.map Prod.snd = sampleWrites ∧
    tr'.map Prod.snd = sampleReads ∧ t.packets 1 <+: [samplePublish] := by
  have hwrites : (sampleWrites.foldlM (fun (w : Writer) e => (w.step e).toOption)
      Writer.initial).map (fun w => (w.wire, w.accepted)) =
        some (sampleBytes, [samplePublish].map frameOf) := by decide +kernel
  obtain ⟨w, hw, hresult⟩ := Option.map_eq_some_iff.mp hwrites
  obtain ⟨hwire, haccepted⟩ := Prod.mk.inj hresult
  obtain ⟨t, ht, harrived⟩ : ∃ t, sampleReads.foldlM (fun t e => (t.step e).toOption)
      Connections.initial = some t ∧ t.arrived 1 = sampleBytes := ⟨_, rfl, by decide⟩
  obtain ⟨tr, hr, htr⟩ := run_of_foldlM (fun _ _ _ => eq_ok_of_toOption) _ hw
  obtain ⟨tr', hr', htr'⟩ := run_of_foldlM (fun _ _ _ => eq_ok_of_toOption) _ ht
  have hok : ∀ e ∈ tr.map Prod.snd, e ≠ .continueWrites .failed := by
    rw [htr]
    simp [sampleWrites]
  have hnet : t.arrived 1 <+: w.wire := by rw [harrived, hwire]
  have hsendable : ∀ p ∈ [samplePublish], Sendable p := by
    simpa using sendable_samplePublish
  exact ⟨tr, w, tr', t, hr, hr', htr, htr',
    packets_prefix hr (along_events.mpr hok) hr' hnet haccepted hsendable⟩

end LanternProject.Mqtt.Writing
