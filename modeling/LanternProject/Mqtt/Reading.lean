import LanternProject.Lib.Runs
import LanternProject.Mqtt.SocketBuffer

/-! # The packets read do not depend on the network

The bytes that arrive on a socket are read in as many calls of `MQTTPacket_Factory` as it takes, with
any interruptions, and calls for other sockets in between.

* `Unfinished`: what a queue may hold between two calls.
* `readFrame_spec`: what a call takes from what is queued and what has arrived.
* `packets_eq`: the packets read from a socket are those of the stream that arrived on it, and what
  is not read yet is still queued or still to be read.
* `same_packets`: what was read of a stream depends on the stream only. -/

namespace LanternProject.Mqtt.Reading

open LanternProject.Lib.Frames LanternProject.Lib.Runs
open LanternProject.Engine.Basic LanternProject.Mqtt.MQTTPacket LanternProject.Mqtt.SocketBuffer

/-! ### Queues -/

/-- The default queue is not in use. -/
structure Idle (s : Queues) : Prop where
  socket : s.def_queue.socket = 0
  index : s.def_queue.index = 0
  header : s.def_queue.fixed_header = []
  buf : s.def_queue.buf = []

/-- After a failed read, closing the socket leaves the default queue unused. -/
def Cleanable (s : Queues) (socket : SOCKET) : Prop := Idle s ∨ s.def_queue.socket = socket

/-- The other sockets have the queues they had. -/
def Others (s s' : Queues) (socket : SOCKET) : Prop := ∀ k ≠ socket, s'.queues k = s.queues k

theorem Others.refl (s : Queues) (socket : SOCKET) : Others s s socket := fun _ _ => rfl

theorem Others.trans {s s' s'' : Queues} {socket : SOCKET} (h : Others s s' socket)
    (h' : Others s' s'' socket) : Others s s'' socket :=
  fun k hk => (h' k hk).trans (h k hk)

theorem Others.update {s : Queues} {socket : SOCKET} {q : Option socket_queue} {d : socket_queue} :
    Others s ⟨d, Function.update s.queues socket q⟩ socket :=
  fun _ hk => Function.update_of_ne hk _ _

/-- At most `n` more digits of a remaining length of which `value` is known, the next digit counting
`multiplier`, and the data read: either the digits go on and there is no data, or they are all there
and data is missing. -/
def Digits (n multiplier value : ℕ) (ds buf : Bytes) : Prop :=
  ((∀ d ∈ ds, 128 ≤ d.toNat) ∧ ds.length ≤ n ∧ buf = []) ∨
    ∃ m, decodeDigits n ds = some (m, []) ∧ buf.length < value + m * multiplier

/-- **What a queue may hold between two calls**: the first part of a packet. -/
def Unfinished (header buf : Bytes) : Prop :=
  (header = [] ∧ buf = []) ∨
    ∃ c ds, header = c :: ds ∧ Digits MAX_NO_OF_REMAINING_LENGTH_BYTES 1 0 ds buf

theorem decodeDigits_nil (n : ℕ) : decodeDigits n [] = none := by
  cases n <;> rfl

theorem Digits.buf_eq_nil {n multiplier value : ℕ} {buf : Bytes}
    (h : Digits n multiplier value [] buf) : buf = [] := by
  rcases h with ⟨-, -, h⟩ | ⟨m, hm, -⟩
  · exact h
  · simp [decodeDigits_nil] at hm

/-- After a digit with the top bit. -/
theorem Digits.tail {n multiplier value : ℕ} {d : UInt8} {ds buf : Bytes}
    (h : Digits (n + 1) multiplier value (d :: ds) buf) (hd : 128 ≤ d.toNat) :
    Digits n (multiplier * 128) (value + d.toNat % 128 * multiplier) ds buf := by
  rcases h with ⟨htop, hlen, hbuf⟩ | ⟨m, hm, hbuf⟩
  · exact Or.inl ⟨fun x hx => htop x (List.mem_cons_of_mem _ hx), by simpa using hlen, hbuf⟩
  · rw [decodeDigits, if_neg (by omega)] at hm
    obtain ⟨⟨k, rest⟩, hk, hp⟩ := Option.map_eq_some_iff.mp hm
    obtain ⟨rfl, rfl⟩ := Prod.mk.inj hp
    refine Or.inr ⟨k, hk, ?_⟩
    have hdigit : d.toNat % 128 = d.toNat - 128 := by
      have hlt := d.toNat_lt
      omega
    calc buf.length < value + (d.toNat - 128 + 128 * k) * multiplier := hbuf
      _ = _ := by rw [hdigit]; ring

/-- After the last digit. -/
theorem Digits.last {n multiplier value : ℕ} {d : UInt8} {ds buf : Bytes}
    (h : Digits (n + 1) multiplier value (d :: ds) buf) (hd : ¬ 128 ≤ d.toNat) :
    ds = [] ∧ buf.length < value + d.toNat % 128 * multiplier := by
  rcases h with ⟨htop, -, -⟩ | ⟨m, hm, hbuf⟩
  · exact absurd (htop d List.mem_cons_self) hd
  · rw [decodeDigits, if_pos (by omega)] at hm
    obtain ⟨rfl, rfl⟩ := Prod.mk.inj (Option.some.inj hm)
    exact ⟨rfl, by rwa [Nat.mod_eq_of_lt (by omega)]⟩

theorem decodeDigits_open : ∀ {n : ℕ} {ds : Bytes}, (∀ d ∈ ds, 128 ≤ d.toNat) →
    decodeDigits n ds = none
  | 0, _, _ => rfl
  | _ + 1, [], _ => rfl
  | n + 1, d :: ds, h => by
    have hd := h d List.mem_cons_self
    rw [decodeDigits, if_neg (by omega), decodeDigits_open fun x hx => h x (List.mem_cons_of_mem _ hx)]
    rfl

/-- Too many digits. -/
theorem decodeDigits_top (rest : Bytes) : ∀ {ds : Bytes}, (∀ d ∈ ds, 128 ≤ d.toNat) →
    decodeDigits ds.length (ds ++ rest) = none
  | [], _ => rfl
  | d :: ds, h => by
    have hd := h d List.mem_cons_self
    rw [List.length_cons, List.cons_append, decodeDigits, if_neg (by omega),
      decodeDigits_top rest fun x hx => h x (List.mem_cons_of_mem _ hx)]
    rfl

/-- The first part of a packet is no packet. -/
theorem nextFrame_unfinished {header buf : Bytes} (h : Unfinished header buf) :
    nextFrame (header ++ buf) = none := by
  rcases h with ⟨rfl, rfl⟩ | ⟨c, ds, rfl, ⟨htop, -, rfl⟩ | ⟨m, hm, hbuf⟩⟩
  · rfl
  · simp [nextFrame, decodeDigits_open htop]
  · have happ := decodeDigits_append buf hm
    rw [List.nil_append] at happ
    simp only [List.cons_append, nextFrame, happ, Option.bind_some]
    rw [if_neg (by omega)]

/-! ### One byte -/

/-- **In the middle of a call**: of the header, `hd` has been read in this call, `more` are queued
bytes that will be read again, `data` is what is queued of the data. -/
structure Mid (s : Queues) (socket : SOCKET) (hd more data : Bytes) : Prop where
  index : (s.current socket).index = hd.length
  header : (s.current socket).fixed_header = hd ++ more
  buf : (s.current socket).buf = data
  queued : (s.queues socket).isSome → Idle s
  fresh : s.queues socket = none → more = [] ∧ data = [] ∧
    (hd = [] ∧ Idle s ∨ hd ≠ [] ∧ s.def_queue.socket = socket)

/-- What is queued for a socket between two calls. -/
structure Waiting (s : Queues) (socket : SOCKET) (header data : Bytes) : Prop where
  idle : Idle s
  queue : ∃ q, s.queues socket = some q ∧ q.index = 0 ∧ q.fixed_header = header ∧ q.buf = data

variable {s : Queues} {r : Reading} {socket : SOCKET} {hd more data pending : Bytes} {c : UInt8}

theorem current_some {q : socket_queue} (h : s.queues socket = some q) : s.current socket = q := by
  simp [Queues.current, h]

theorem current_none (h : s.queues socket = none) : s.current socket = s.def_queue := by
  simp [Queues.current, h]

theorem Mid.cleanable (h : Mid s socket hd more data) : Cleanable s socket := by
  rcases hq : s.queues socket with _ | q
  · rcases (h.fresh hq).2.2 with ⟨-, hidle⟩ | ⟨-, hsocket⟩
    · exact Or.inl hidle
    · exact Or.inr hsocket
  · exact Or.inl (h.queued (by simp [hq]))

/-- The queue of a socket in the middle of a call. -/
theorem mid_some {q : socket_queue} (hq : s.queues socket = some q) :
    Mid s socket hd more data ↔ Idle s ∧ q.index = hd.length ∧ q.fixed_header = hd ++ more ∧
      q.buf = data := by
  constructor
  · intro h
    have hcur := current_some hq
    exact ⟨h.queued (by simp [hq]), hcur ▸ h.index, hcur ▸ h.header, hcur ▸ h.buf⟩
  · rintro ⟨hidle, hindex, hheader, hbuf⟩
    have hcur := current_some hq
    exact ⟨by rw [hcur, hindex], by rw [hcur, hheader], by rw [hcur, hbuf], fun _ => hidle,
      fun hn => by simp [hq] at hn⟩

theorem Waiting.mid (h : Waiting s socket more data) : Mid s socket [] more data := by
  obtain ⟨hidle, q, hq, hindex, hheader, hbuf⟩ := h
  exact (mid_some hq).mpr ⟨hidle, hindex, by simpa using hheader, hbuf⟩

theorem Idle.mid (h : Idle s) (hq : s.queues socket = none) : Mid s socket [] [] [] := by
  have hcur := current_none hq
  exact ⟨by rw [hcur, h.index]; rfl, by rw [hcur, h.header]; rfl, by rw [hcur, h.buf],
    fun hsome => by simp [hq] at hsome, fun _ => ⟨rfl, rfl, Or.inl ⟨rfl, h⟩⟩⟩

theorem Idle.congr {s' : Queues} (h : Idle s) (hd : s'.def_queue = s.def_queue) : Idle s' :=
  ⟨by rw [hd, h.socket], by rw [hd, h.index], by rw [hd, h.header], by rw [hd, h.buf]⟩

/-- A queued byte is read again. -/
theorem getQueuedChar_cons (h : Mid s socket hd (c :: more) data) :
    ∃ s', SocketBuffer_getQueuedChar s socket = (.char c, s') ∧ Others s s' socket ∧
      Mid s' socket (hd ++ [c]) more data := by
  rcases hq : s.queues socket with _ | q
  · exact absurd (h.fresh hq).1 (by simp)
  · obtain ⟨hidle, hindex, hheader, hbuf⟩ := (mid_some hq).mp h
    have hget : q.fixed_header[q.index]? = some c := by
      rw [hheader, hindex]
      simp
    refine ⟨⟨s.def_queue, Function.update s.queues socket (some { q with index := q.index + 1 })⟩,
      by simp only [SocketBuffer_getQueuedChar, hq, hget], Others.update, ?_⟩
    exact (mid_some (q := { q with index := q.index + 1 }) (Function.update_self _ _ _)).mpr
      ⟨hidle.congr rfl, by simp [hindex], by simp [hheader], hbuf⟩

/-- All queued bytes have been read again. -/
theorem getQueuedChar_nil (h : Mid s socket hd [] data) (hlen : hd.length < 5) :
    SocketBuffer_getQueuedChar s socket = (.interrupted, s) := by
  rcases hq : s.queues socket with _ | q
  · simp [SocketBuffer_getQueuedChar, hq]
  · obtain ⟨-, hindex, hheader, -⟩ := (mid_some hq).mp h
    have hget : q.fixed_header[q.index]? = none := by
      rw [hheader, hindex]
      simp
    simp only [SocketBuffer_getQueuedChar, hq, hget]
    rw [if_neg (by omega)]

theorem queueChar_mid (hs0 : socket ≠ 0) (h : Mid s socket hd [] []) (hlen : hd.length < 5)
    (c : UInt8) : Others s (SocketBuffer_queueChar s socket c) socket ∧
      Mid (SocketBuffer_queueChar s socket c) socket (hd ++ [c]) [] [] := by
  rcases hq : s.queues socket with _ | q
  · have hcur := current_none hq
    have hindex : s.def_queue.index = hd.length := hcur ▸ h.index
    have hheader : s.def_queue.fixed_header = hd := by simpa [hcur] using h.header
    have hbuf : s.def_queue.buf = [] := hcur ▸ h.buf
    have hne : hd ++ [c] ≠ [] := by simp
    rcases (h.fresh hq).2.2 with ⟨rfl, hidle⟩ | ⟨hne', hsocket⟩
    · simp only [SocketBuffer_queueChar, hq, hidle.socket, if_true]
      refine ⟨fun _ _ => rfl, ⟨?_, ?_, ?_, ?_, ?_⟩⟩
      all_goals simp [Queues.current, hq]
    · have hsocket0 : s.def_queue.socket ≠ 0 := by rwa [hsocket]
      simp only [SocketBuffer_queueChar, hq]
      rw [if_neg hsocket0, if_neg (by rw [hsocket, hindex]; simp; omega)]
      refine ⟨fun _ _ => rfl, ⟨?_, ?_, ?_, ?_, ?_⟩⟩
      · simp [Queues.current, hq, hindex]
      · simp [Queues.current, hq, hindex, hheader]
      · simp [Queues.current, hq, hbuf]
      · simp [hq]
      · simp [hsocket]
  · obtain ⟨hidle, hindex, hheader, hbuf⟩ := (mid_some hq).mp h
    simp only [SocketBuffer_queueChar, hq]
    rw [if_neg (by omega)]
    refine ⟨Others.update, (mid_some (Function.update_self _ _ _)).mpr ⟨hidle.congr rfl, ?_⟩⟩
    simp [hindex, hheader, hbuf]

/-- An interruption keeps the header. -/
theorem interrupted_waiting (h : Mid s socket hd [] data) (data' : Bytes) :
    Others s (SocketBuffer_interrupted s socket data') socket ∧
      Waiting (SocketBuffer_interrupted s socket data') socket hd data' := by
  rcases hq : s.queues socket with _ | q
  · have hheader : s.def_queue.fixed_header = hd := by
      simpa [current_none hq] using h.header
    simp only [SocketBuffer_interrupted, hq]
    exact ⟨Others.update, ⟨rfl, rfl, rfl, rfl⟩, _, Function.update_self _ _ _, rfl, hheader, rfl⟩
  · obtain ⟨hidle, hindex, hheader, hbuf⟩ := (mid_some hq).mp h
    simp only [SocketBuffer_interrupted, hq]
    exact ⟨Others.update, hidle.congr rfl, _, Function.update_self _ _ _, rfl, by simpa using hheader,
      rfl⟩

/-- `recv` gives the first of the bytes that have arrived. -/
theorem recv_data {r r' : Reading} {n : ℕ} {bs : Bytes} (h : recv r n = (.data bs, r')) :
    r'.s = r.s ∧ r.incoming = bs ++ r'.incoming ∧ bs ≠ [] ∧ bs.length ≤ n := by
  unfold recv at h
  split at h
  · cases h
  · rename_i k answers _
    split at h
    · cases h
    · rename_i bs' hne
      obtain ⟨hbs, rfl⟩ := Prod.mk.inj h
      cases hbs
      refine ⟨rfl, (List.take_append_drop _ _).symm, fun hnil => hne hnil, ?_⟩
      rw [List.length_take]
      omega
  · cases h
  · cases h

/-- Otherwise it takes nothing. -/
theorem recv_other {r r' : Reading} {n : ℕ} {x : Received} (h : recv r n = (x, r'))
    (hx : ∀ bs, x ≠ .data bs) : r'.s = r.s ∧ r'.incoming = r.incoming := by
  unfold recv at h
  split at h
  · cases h
    exact ⟨rfl, rfl⟩
  · split at h
    · cases h
      exact ⟨rfl, rfl⟩
    · cases h
      exact absurd rfl (hx _)
  · cases h
    exact ⟨rfl, rfl⟩
  · cases h
    exact ⟨rfl, rfl⟩

/-- The network neither fails nor ends the connection during a call. -/
def NetworkUp (r : Reading) : Prop := ∀ a ∈ r.answers, ∃ n, a = .avail n

theorem recv_up {r r' : Reading} {n : ℕ} {x : Received} (h : recv r n = (x, r')) (hup : NetworkUp r) :
    NetworkUp r' ∧ x ≠ .closed ∧ x ≠ .failed := by
  unfold recv at h
  split at h
  · cases h
    exact ⟨hup, by simp, by simp⟩
  · rename_i k answers hanswers
    have hrest : ∀ a ∈ answers, ∃ n, a = .avail n :=
      fun a ha => hup a (hanswers ▸ List.mem_cons_of_mem _ ha)
    split at h
    · cases h
      exact ⟨hrest, by simp, by simp⟩
    · cases h
      exact ⟨hrest, by simp, by simp⟩
  · rename_i answers hanswers
    obtain ⟨n, hn⟩ := hup .closed (by simp [hanswers])
    cases hn
  · rename_i answers hanswers
    obtain ⟨n, hn⟩ := hup .failed (by simp [hanswers])
    cases hn

/-- **One header byte**: it is read again from the queue, or taken from what has arrived; an
interruption keeps what has been read; only the network fails. -/
theorem getch_spec (hs0 : socket ≠ 0) (h : Mid r.s socket hd more data) (hlen : hd.length < 5)
    (hdata : more = [] → data = []) :
    ∃ o r', Socket_getch r socket = (o, r') ∧ Others r.s r'.s socket ∧
      (NetworkUp r → NetworkUp r') ∧
      match o with
      | .complete c => ∃ more', (more = c :: more' ∨ more = [] ∧ more' = []) ∧
          more ++ r.incoming = c :: more' ++ r'.incoming ∧ Mid r'.s socket (hd ++ [c]) more' data
      | .interrupted => more = [] ∧ r'.incoming = r.incoming ∧ Waiting r'.s socket hd []
      | .error => Cleanable r'.s socket ∧ ¬NetworkUp r := by
  rcases more with _ | ⟨c, more⟩
  · obtain rfl := hdata rfl
    have hqueued := getQueuedChar_nil h hlen
    rcases hrecv : recv r 1 with ⟨x, r₁⟩
    have hup := fun h => recv_up hrecv h
    cases x with
    | data bs =>
      obtain ⟨hs, hinc, hne, hle⟩ := recv_data hrecv
      obtain ⟨c, rfl⟩ : ∃ c, bs = [c] := by
        match bs, hne, hle with
        | [c], _, _ => exact ⟨c, rfl⟩
      obtain ⟨hothers, hmid⟩ := queueChar_mid hs0 h hlen c
      rw [← hs] at hothers hmid
      refine ⟨.complete c, { r₁ with s := SocketBuffer_queueChar r₁.s socket c }, ?_,
        hs ▸ hothers, fun h => (hup h).1, [], Or.inr ⟨rfl, rfl⟩, hinc, hmid⟩
      simp only [Socket_getch, hqueued, hrecv]
    | wouldBlock =>
      obtain ⟨hs, hinc⟩ := recv_other hrecv (by simp)
      obtain ⟨hothers, hwait⟩ := interrupted_waiting h []
      rw [← hs] at hothers hwait
      refine ⟨.interrupted, { r₁ with s := SocketBuffer_interrupted r₁.s socket [] }, ?_,
        hs ▸ hothers, fun h => (hup h).1, rfl, hinc, hwait⟩
      simp only [Socket_getch, hqueued, hrecv]
    | closed =>
      obtain ⟨hs, -⟩ := recv_other hrecv (by simp)
      refine ⟨.error, r₁, ?_, hs ▸ Others.refl _ _, fun h => (hup h).1, hs ▸ h.cleanable,
        fun h => (hup h).2.1 rfl⟩
      simp only [Socket_getch, hqueued, hrecv]
    | failed =>
      obtain ⟨hs, -⟩ := recv_other hrecv (by simp)
      refine ⟨.error, r₁, ?_, hs ▸ Others.refl _ _, fun h => (hup h).1, hs ▸ h.cleanable,
        fun h => (hup h).2.2 rfl⟩
      simp only [Socket_getch, hqueued, hrecv]
  · obtain ⟨s', hget, hothers, hmid⟩ := getQueuedChar_cons h
    refine ⟨.complete c, { r with s := s' }, ?_, hothers, id, more, Or.inl rfl, rfl, hmid⟩
    simp only [Socket_getch, hget]

/-! ### The remaining length -/

/-- **The digits of the remaining length**, with what an interruption keeps of them. -/
theorem decodeLoop_spec (hs0 : socket ≠ 0) : ∀ {n multiplier value : ℕ} {r : Reading} {hd more : Bytes},
    Mid r.s socket hd more data → hd.length + n ≤ 5 → Digits n multiplier value more data →
    ∃ o r', decodeLoop socket n multiplier value r = (o, r') ∧ Others r.s r'.s socket ∧
      (NetworkUp r → NetworkUp r') ∧
      match o with
      | .complete v => ∃ ds m, decodeDigits n ds = some (m, []) ∧ v = value + m * multiplier ∧
          more ++ r.incoming = ds ++ r'.incoming ∧ Mid r'.s socket (hd ++ ds) [] data ∧
          (data = [] ∨ data.length < v)
      | .interrupted => ∃ ds, (∀ d ∈ ds, 128 ≤ d.toNat) ∧ ds.length < n ∧
          more ++ r.incoming = ds ++ r'.incoming ∧ Waiting r'.s socket (hd ++ ds) [] ∧ data = []
      | .error => Cleanable r'.s socket ∧ (NetworkUp r → ∃ ds rest, (∀ d ∈ ds, 128 ≤ d.toNat) ∧
          ds.length = n ∧ more ++ r.incoming = ds ++ rest) := by
  intro n
  induction n with
  | zero =>
    intro multiplier value r hd more hmid _ _
    exact ⟨.error, r, rfl, Others.refl _ _, id, hmid.cleanable, fun _ => ⟨[], _, by simp, rfl, rfl⟩⟩
  | succ n ih =>
    intro multiplier value r hd more hmid hlen hdigits
    obtain ⟨o, r₁, hget, hothers, hup, ho⟩ := getch_spec hs0 hmid (by omega)
      (fun hmore => (hmore ▸ hdigits).buf_eq_nil)
    cases o with
    | interrupted =>
      obtain ⟨rfl, hinc, hwait⟩ := ho
      refine ⟨.interrupted, r₁, by simp only [decodeLoop, hget], hothers, hup, [], by simp, by simp, ?_,
        ?_, hdigits.buf_eq_nil⟩
      · simp [hinc]
      · simpa using hwait
    | error =>
      exact ⟨.error, r₁, by simp only [decodeLoop, hget], hothers, hup, ho.1, fun h => absurd h ho.2⟩
    | complete c =>
      obtain ⟨more', hmore, hstream, hmid'⟩ := ho
      by_cases hc : 128 ≤ c.toNat
      · have hdigits' : Digits n (multiplier * 128) (value + c.toNat % 128 * multiplier) more' data := by
          rcases hmore with rfl | ⟨rfl, rfl⟩
          · exact hdigits.tail hc
          · exact Or.inl ⟨by simp, by simp, hdigits.buf_eq_nil⟩
        obtain ⟨o, r₂, hloop, hothers', hup', ho⟩ := ih hmid' (by simp; omega) hdigits'
        refine ⟨o, r₂, by simp only [decodeLoop, hget, if_pos hc, hloop], hothers.trans hothers',
          fun h => hup' (hup h), ?_⟩
        cases o with
        | error =>
          refine ⟨ho.1, fun h => ?_⟩
          obtain ⟨ds, rest, htop, hds, hinc⟩ := ho.2 (hup h)
          refine ⟨c :: ds, rest, ?_, by simpa using hds, ?_⟩
          · simpa using ⟨hc, htop⟩
          · rw [hstream, List.cons_append, hinc, List.cons_append]
        | interrupted =>
          obtain ⟨ds, htop, hds, hinc, hwait, hdata⟩ := ho
          refine ⟨c :: ds, ?_, by simpa using hds, ?_, ?_, hdata⟩
          · simpa using ⟨hc, htop⟩
          · rw [hstream, List.cons_append, hinc, List.cons_append]
          · rwa [List.append_assoc] at hwait
        | complete v =>
          obtain ⟨ds, m, hm, rfl, hinc, hmid₂, hv⟩ := ho
          refine ⟨c :: ds, c.toNat - 128 + 128 * m, ?_, ?_, ?_, ?_, hv⟩
          · rw [decodeDigits, if_neg (by omega), hm]
            rfl
          · have hdigit : c.toNat % 128 = c.toNat - 128 := by
              have hlt := c.toNat_lt
              omega
            rw [hdigit]
            ring
          · rw [hstream, List.cons_append, hinc, List.cons_append]
          · rwa [List.append_assoc] at hmid₂
      · have hlast : more' = [] ∧
            (data = [] ∨ data.length < value + c.toNat % 128 * multiplier) := by
          rcases hmore with rfl | ⟨rfl, rfl⟩
          · exact ⟨(hdigits.last hc).1, Or.inr (hdigits.last hc).2⟩
          · exact ⟨rfl, Or.inl hdigits.buf_eq_nil⟩
        obtain ⟨rfl, hv⟩ := hlast
        refine ⟨.complete _, r₁, by simp only [decodeLoop, hget, if_neg hc], hothers, hup, [c],
          c.toNat, ?_, ?_, by simpa using hstream, hmid', hv⟩
        · rw [decodeDigits, if_pos (by omega)]
        · rw [Nat.mod_eq_of_lt (by omega)]

/-! ### The data -/

theorem complete_idle (s : Queues) (socket : SOCKET) : Idle (SocketBuffer_complete s socket) :=
  ⟨rfl, rfl, rfl, rfl⟩

/-- The queued data, in a buffer that is large enough. -/
theorem getQueuedData_spec (h : Mid s socket hd more data) (hne : hd ≠ []) (bytes : ℕ) :
    ∃ buflen s', SocketBuffer_getQueuedData s socket bytes = ((data, buflen), s') ∧ bytes ≤ buflen ∧
      Others s s' socket ∧ Mid s' socket hd more data := by
  rcases hq : s.queues socket with _ | q
  · have hcur := current_none hq
    obtain ⟨rfl, rfl, hdef⟩ := h.fresh hq
    have hsocket : s.def_queue.socket = socket := by
      rcases hdef with ⟨hnil, -⟩ | ⟨-, hsocket⟩
      · exact absurd hnil hne
      · exact hsocket
    refine ⟨max s.def_queue.buflen bytes,
      { s with def_queue := { s.def_queue with buflen := max s.def_queue.buflen bytes } },
      by simp only [SocketBuffer_getQueuedData, hq], le_max_right _ _, fun _ _ => rfl, ?_⟩
    have hcur' : (Queues.current
        { s with def_queue := { s.def_queue with buflen := max s.def_queue.buflen bytes } } socket)
        = { s.def_queue with buflen := max s.def_queue.buflen bytes } := current_none hq
    refine ⟨by rw [hcur', ← h.index, hcur], by rw [hcur', ← h.header, hcur],
      by rw [hcur', ← h.buf, hcur], fun hsome => ?_, fun _ => ⟨rfl, rfl, Or.inr ⟨hne, hsocket⟩⟩⟩
    simp [hq] at hsome
  · obtain ⟨hidle, hindex, hheader, hbuf⟩ := (mid_some hq).mp h
    refine ⟨max q.buflen bytes, ⟨s.def_queue,
      Function.update s.queues socket (some { q with buflen := max q.buflen bytes })⟩,
      by simp only [SocketBuffer_getQueuedData, hq, hbuf], le_max_right _ _, Others.update, ?_⟩
    exact (mid_some (q := { q with buflen := max q.buflen bytes }) (Function.update_self _ _ _)).mpr
      ⟨hidle.congr rfl, hindex, hheader, hbuf⟩

/-- The end of `Socket_getdata` keeps what has been read. -/
theorem getdataEnd_spec {bytes buflen : ℕ} {got : Bytes} (h : Mid r.s socket hd [] data)
    (hlen : got.length ≤ bytes) (hbuflen : bytes ≤ buflen) :
    ∃ r', getdataEnd r socket bytes buflen got = .ok (some got, r') ∧ Others r.s r'.s socket ∧
      r'.incoming = r.incoming ∧
      (got.length = bytes → Idle r'.s ∧ r'.s.queues socket = none) ∧
      (got.length < bytes → Waiting r'.s socket hd got) := by
  unfold getdataEnd
  rw [if_neg (by omega)]
  split_ifs with hall
  · exact ⟨_, rfl, Others.update, rfl,
      fun _ => ⟨complete_idle _ _, Function.update_self _ _ _⟩, fun hlt => by omega⟩
  · obtain ⟨hothers, hwait⟩ := interrupted_waiting h got
    exact ⟨_, rfl, hothers, rfl, fun heq => absurd heq hall, fun _ => hwait⟩

/-- **The data**: what was queued and what `recv` gives, never beyond the buffer. -/
theorem getdata_spec {bytes : ℕ} (h : Mid r.s socket hd [] data) (hne : hd ≠ [])
    (hdata : data = [] ∨ data.length < bytes) :
    ∃ o r', Socket_getdata r socket bytes = .ok (o, r') ∧ Others r.s r'.s socket ∧
      match o with
      | none => Cleanable r'.s socket ∧ ¬NetworkUp r
      | some got => data ++ r.incoming = got ++ r'.incoming ∧ got.length ≤ bytes ∧
          (got.length = bytes → Idle r'.s ∧ r'.s.queues socket = none) ∧
          (got.length < bytes → Waiting r'.s socket hd got) := by
  unfold Socket_getdata
  split_ifs with hbytes
  · refine ⟨some [], _, rfl, Others.update, ?_, by simp, fun _ => ⟨complete_idle _ _, ?_⟩, ?_⟩
    · rcases hdata with rfl | hlt
      · rfl
      · omega
    · exact Function.update_self _ _ _
    · simp [hbytes]
  · obtain ⟨buflen, s', hget, hbuflen, hothers, hmid⟩ := getQueuedData_spec h hne bytes
    have hshort : data.length < bytes := by
      rcases hdata with rfl | hlt
      · exact Nat.pos_of_ne_zero hbytes
      · exact hlt
    rw [hget]
    dsimp only
    rw [if_neg (by omega)]
    rcases hrecv : recv { r with s := s' } (bytes - data.length) with ⟨x, r₁⟩
    have hup : NetworkUp r → _ := fun h => recv_up hrecv h
    cases x with
    | data bs =>
      obtain ⟨hs, hinc, -, hle⟩ := recv_data hrecv
      replace hs : r₁.s = s' := hs
      rw [← hs] at hothers hmid
      have hlen : (data ++ bs).length ≤ bytes := by
        rw [List.length_append]
        omega
      obtain ⟨r', hend, hothers', hinc', hall, hpart⟩ := getdataEnd_spec hmid hlen hbuflen
      refine ⟨_, r', hend, hothers.trans hothers', ?_, hlen, hall, hpart⟩
      rw [hinc', List.append_assoc, ← hinc]
    | wouldBlock =>
      obtain ⟨hs, hinc⟩ := recv_other hrecv (by simp)
      replace hs : r₁.s = s' := hs
      rw [← hs] at hothers hmid
      obtain ⟨r', hend, hothers', hinc', hall, hpart⟩ := getdataEnd_spec hmid hshort.le hbuflen
      refine ⟨_, r', hend, hothers.trans hothers', ?_, hshort.le, hall, hpart⟩
      rw [hinc', hinc]
    | closed =>
      obtain ⟨hs, -⟩ := recv_other hrecv (by simp)
      replace hs : r₁.s = s' := hs
      rw [← hs] at hothers hmid
      exact ⟨none, r₁, rfl, hothers, hmid.cleanable, fun h => (hup h).2.1 rfl⟩
    | failed =>
      obtain ⟨hs, -⟩ := recv_other hrecv (by simp)
      replace hs : r₁.s = s' := hs
      rw [← hs] at hothers hmid
      exact ⟨none, r₁, rfl, hothers, hmid.cleanable, fun h => (hup h).2.2 rfl⟩

/-! ### A call -/

/-- **Between two calls**: the default queue is unused, and `pending` are the bytes of the socket
that are queued, the first part of a packet. -/
structure Ready (s : Queues) (socket : SOCKET) (pending : Bytes) : Prop where
  idle : Idle s
  queued : (s.queues socket = none ∧ pending = []) ∨
    ∃ header data, Waiting s socket header data ∧ Unfinished header data ∧ pending = header ++ data

theorem Ready.next (h : Ready s socket pending) : nextFrame pending = none := by
  rcases h.queued with ⟨-, rfl⟩ | ⟨header, data, -, hun, rfl⟩
  · rfl
  · exact nextFrame_unfinished hun

/-- The queue at the start of a call. -/
theorem Ready.mid (h : Ready s socket pending) : ∃ header data, Mid s socket [] header data ∧
    Unfinished header data ∧ pending = header ++ data := by
  rcases h.queued with ⟨hq, rfl⟩ | ⟨header, data, hwait, hun, rfl⟩
  · exact ⟨[], [], h.idle.mid hq, Or.inl ⟨rfl, rfl⟩, rfl⟩
  · exact ⟨header, data, hwait.mid, hun, rfl⟩

theorem Waiting.ready (h : Waiting s socket hd data) (hun : Unfinished hd data) :
    Ready s socket (hd ++ data) :=
  ⟨h.idle, Or.inr ⟨hd, data, h, hun, rfl⟩⟩

/-- The data queued comes after the digits queued: if there is any, they are the digits read. -/
theorem stream_eq {ds more incoming incoming' : Bytes} {n m : ℕ}
    (hdigits : Digits n 1 0 more data) (hm : decodeDigits n ds = some (m, []))
    (hstream : more ++ incoming = ds ++ incoming') :
    more ++ (data ++ incoming) = ds ++ (data ++ incoming') := by
  rcases hdigits with ⟨-, -, rfl⟩ | ⟨m', hm', -⟩
  · exact hstream
  · have h := decodeDigits_append incoming hm'
    have h' := decodeDigits_append incoming' hm
    rw [hstream, h'] at h
    obtain ⟨-, hinc⟩ := Prod.mk.inj (Option.some.inj h)
    rw [List.nil_append, List.nil_append] at hinc
    subst hinc
    rw [List.append_cancel_right hstream]

/-- The stream goes on with a remaining length of too many digits. -/
def TooLong (l : Bytes) : Prop :=
  ∃ c ds rest, l = c :: (ds ++ rest) ∧ ds.length = MAX_NO_OF_REMAINING_LENGTH_BYTES ∧
    ∀ d ∈ ds, 128 ≤ d.toNat

/-- **What a call of `MQTTPacket_Factory` reads**: it never writes beyond a buffer; it takes the next
packet off what is queued and what has arrived, or it keeps everything it read queued. -/
theorem readFrame_spec (hs0 : socket ≠ 0) (h : Ready r.s socket pending) :
    ∃ o r', readFrame r socket = .ok (o, r') ∧ Others r.s r'.s socket ∧
      match o with
      | .complete f => nextFrame (pending ++ r.incoming) = some (f, r'.incoming) ∧
          Ready r'.s socket []
      | .interrupted => ∃ pending', Ready r'.s socket pending' ∧
          pending ++ r.incoming = pending' ++ r'.incoming
      | .error => Cleanable r'.s socket ∧ (NetworkUp r → TooLong (pending ++ r.incoming)) := by
  obtain ⟨header, data, hmid, hun, rfl⟩ := h.mid
  have hnil : header = [] → data = [] := by
    rcases hun with ⟨-, hdata⟩ | ⟨c, ds, rfl, -⟩
    · exact fun _ => hdata
    · simp
  obtain ⟨o, r₁, hget, hothers₁, hup₁, ho⟩ := getch_spec hs0 hmid (by simp) hnil
  cases o with
  | error =>
    exact ⟨.error, r₁, by simp only [readFrame, hget], hothers₁, ho.1, fun h => absurd h ho.2⟩
  | interrupted =>
    obtain ⟨rfl, hinc, hwait⟩ := ho
    obtain rfl := hnil rfl
    refine ⟨.interrupted, r₁, by simp only [readFrame, hget], hothers₁, [] ++ [],
      hwait.ready (Or.inl ⟨rfl, rfl⟩), by rw [hinc]⟩
  | complete c =>
    obtain ⟨more, hmore, hstream₁, hmid₁⟩ := ho
    have hdigits : Digits MAX_NO_OF_REMAINING_LENGTH_BYTES 1 0 more data := by
      rcases hmore with rfl | ⟨rfl, rfl⟩
      · rcases hun with ⟨hcons, -⟩ | ⟨c', ds, hcons, hds⟩
        · simp at hcons
        · obtain ⟨rfl, rfl⟩ := List.cons.inj hcons
          exact hds
      · exact Or.inl ⟨by simp, by simp, hnil rfl⟩
    have hwhole : header ++ (data ++ r.incoming) = c :: (more ++ (data ++ r₁.incoming)) := by
      rcases hmore with rfl | ⟨rfl, rfl⟩
      · rw [List.append_cancel_left hstream₁, List.cons_append]
      · rw [hnil rfl]
        simpa using hstream₁
    obtain ⟨o, r₂, hdecode, hothers₂, hup₂, ho⟩ := decodeLoop_spec hs0 hmid₁
      (n := MAX_NO_OF_REMAINING_LENGTH_BYTES) (by simp [MAX_NO_OF_REMAINING_LENGTH_BYTES]) hdigits
    have hothers := hothers₁.trans hothers₂
    cases o with
    | error =>
      refine ⟨.error, r₂, by simp only [readFrame, hget, MQTTPacket_decode, hdecode], hothers, ho.1,
        fun h => ?_⟩
      obtain ⟨ds, rest, htop, hlen, hstream₂⟩ := ho.2 (hup₁ h)
      rcases hdigits with ⟨-, -, rfl⟩ | ⟨m, hm, -⟩
      · exact ⟨c, ds, rest, by rw [List.append_assoc, hwhole, List.nil_append, hstream₂], hlen, htop⟩
      · -- the queued digits are all there
        have happ := decodeDigits_append r₁.incoming hm
        rw [hstream₂, ← hlen, decodeDigits_top rest htop] at happ
        cases happ
    | interrupted =>
      obtain ⟨ds, htop, hlen, hstream₂, hwait, rfl⟩ := ho
      refine ⟨.interrupted, r₂, by simp only [readFrame, hget, MQTTPacket_decode, hdecode], hothers,
        (c :: ds) ++ [], hwait.ready (Or.inr ⟨c, ds, rfl, Or.inl ⟨htop, hlen.le, rfl⟩⟩), ?_⟩
      rw [List.append_assoc, hwhole]
      simpa using hstream₂
    | complete v =>
      obtain ⟨ds, m, hm, hvm, hstream₂, hmid₂, hv⟩ := ho
      obtain rfl : v = m := by omega
      have hwhole₂ := stream_eq hdigits hm hstream₂
      obtain ⟨o, r₃, hdata, hothers₃, ho⟩ := getdata_spec hmid₂ (by simp) hv
      cases o with
      | none =>
        refine ⟨.error, r₃, ?_, hothers.trans hothers₃, ho.1, fun h => absurd (hup₂ (hup₁ h)) ho.2⟩
        simp only [readFrame, hget, MQTTPacket_decode, hdecode, hdata, bind, Except.bind]
        rfl
      | some got =>
        obtain ⟨hgot, hlen, hall, hpart⟩ := ho
        have hstream : header ++ (data ++ r.incoming) = (c :: ds) ++ (got ++ r₃.incoming) := by
          rw [hwhole, hwhole₂, hgot, List.cons_append]
        by_cases hshort : got.length < v
        · refine ⟨.interrupted, r₃, ?_, hothers.trans hothers₃, (c :: ds) ++ got,
            (hpart hshort).ready (Or.inr ⟨c, ds, rfl, Or.inr ⟨v, hm, by omega⟩⟩), ?_⟩
          · simp only [readFrame, hget, MQTTPacket_decode, hdecode, hdata, bind, Except.bind,
              if_pos hshort]
            rfl
          · rw [List.append_assoc, List.append_assoc, hstream]
        · have hexact : got.length = v := by omega
          obtain ⟨hidle, hnone⟩ := hall hexact
          refine ⟨.complete (Header.ofByte c, got), r₃, ?_, hothers.trans hothers₃, ?_, hidle,
            Or.inl ⟨hnone, rfl⟩⟩
          · simp only [readFrame, hget, MQTTPacket_decode, hdecode, hdata, bind, Except.bind,
              if_neg hshort]
            rfl
          · rw [List.append_assoc, hstream]
            refine nextFrame_eq_some.mpr ⟨c, ds ++ (got ++ r₃.incoming), got ++ r₃.incoming, rfl, ?_,
              rfl, rfl⟩
            rw [hexact]
            exact decodeDigits_append _ hm

/-! ### All sockets -/

/-- The packet of a frame, if the client has a use for it. -/
def packetOf (f : Frame) : Option Packet :=
  match parse f.1 f.2 with
  | .ok (.packet p) => some p
  | _ => none

/-- The stream goes on with something that is no packet. -/
def Refused (l : Bytes) : Prop :=
  TooLong l ∨ ∃ f rest, nextFrame l = some (f, rest) ∧ parse f.1 f.2 = .ok .bad

/-- **A call of `MQTTPacket_Factory`** without an error reads nothing more, or the next packet. -/
theorem factory_spec (hs0 : socket ≠ 0) (h : Ready r.s socket pending) :
    ∃ pack error r', MQTTPacket_Factory r socket = .ok ((pack, error), r') ∧
      Others r.s r'.s socket ∧
      (error = .SOCKET_ERROR → Cleanable r'.s socket ∧ (NetworkUp r → Refused (pending ++ r.incoming))) ∧
      (error ≠ .SOCKET_ERROR →
        (pack = none ∧ ∃ pending', Ready r'.s socket pending' ∧
          pending ++ r.incoming = pending' ++ r'.incoming) ∨
        ∃ f, pack = packetOf f ∧ nextFrame (pending ++ r.incoming) = some (f, r'.incoming) ∧
          Ready r'.s socket []) := by
  obtain ⟨o, r', hread, hothers, ho⟩ := readFrame_spec hs0 h
  cases o with
  | interrupted =>
    refine ⟨none, .TCPSOCKET_INTERRUPTED, r', ?_, hothers, fun he => (by cases he),
      fun _ => Or.inl ⟨rfl, ho⟩⟩
    rw [MQTTPacket_Factory, hread]
    rfl
  | error =>
    refine ⟨none, .SOCKET_ERROR, r', ?_, hothers, fun _ => ⟨ho.1, fun h => Or.inl (ho.2 h)⟩,
      fun he => absurd rfl he⟩
    rw [MQTTPacket_Factory, hread]
    rfl
  | complete f =>
    obtain ⟨header, data⟩ := f
    obtain ⟨x, hx⟩ := parse_ok header data
    have hfactory : MQTTPacket_Factory r socket = (match x with
        | .ignored => .ok ((none, .TCPSOCKET_COMPLETE), r')
        | .bad => .ok ((none, .SOCKET_ERROR), r')
        | .packet p => .ok ((some p, .TCPSOCKET_COMPLETE), r')) := by
      simp only [MQTTPacket_Factory, hread, hx, bind, Except.bind]
      cases x <;> rfl
    cases x with
    | ignored =>
      refine ⟨none, .TCPSOCKET_COMPLETE, r', hfactory, hothers, fun he => (by cases he),
        fun _ => Or.inr ⟨(header, data), ?_, ho⟩⟩
      simp only [packetOf, hx]
    | bad =>
      exact ⟨none, .SOCKET_ERROR, r', hfactory, hothers,
        fun _ => ⟨Or.inl ho.2.idle, fun _ => Or.inr ⟨_, _, ho.1, hx⟩⟩, fun he => absurd rfl he⟩
    | packet p =>
      refine ⟨some p, .TCPSOCKET_COMPLETE, r', hfactory, hothers, fun he => (by cases he),
        fun _ => Or.inr ⟨(header, data), ?_, ho⟩⟩
      simp only [packetOf, hx]

/-- The connections: what is queued and what has arrived but is not read; for every connection, as
long as it is open, all the bytes that have arrived on it and all the packets read. -/
structure Connections where
  s : Queues
  incoming : SOCKET → Bytes
  arrived : SOCKET → Bytes
  packets : SOCKET → List Packet

def Connections.initial : Connections where
  s := SocketBuffer_initialize
  incoming := fun _ => []
  arrived := fun _ => []
  packets := fun _ => []

/-- Bytes arrive on a socket, a packet is read from it, it is closed. -/
inductive Event where
  | arrive (socket : SOCKET) (bytes : Bytes)
  | read (socket : SOCKET) (answers : List Answer)
  | close (socket : SOCKET)

/-- `Socket_close`; the socket may be used for a new connection. -/
def Connections.close (t : Connections) (socket : SOCKET) : Connections where
  s := SocketBuffer_cleanup t.s socket
  incoming := Function.update t.incoming socket []
  arrived := Function.update t.arrived socket []
  packets := Function.update t.packets socket []

/-- What `MQTTAsync_cycle` does with the socket that is ready, if there is one; after an error the
connection is closed. -/
def Connections.read (t : Connections) (socket : SOCKET) (answers : List Answer) :
    Except Fault Connections :=
  if socket = 0 then return t
  else do
    let ((pack, error), r) ← MQTTPacket_Factory ⟨t.s, t.incoming socket, answers⟩ socket
    if error = .SOCKET_ERROR then return { t with s := r.s }.close socket
    else
      return { t with
        s := r.s
        incoming := Function.update t.incoming socket r.incoming
        packets := Function.update t.packets socket (t.packets socket ++ pack.toList) }

def Connections.step (t : Connections) : Event → Except Fault Connections
  | .arrive socket bytes =>
    return { t with
      incoming := Function.update t.incoming socket (t.incoming socket ++ bytes)
      arrived := Function.update t.arrived socket (t.arrived socket ++ bytes) }
  | .read socket answers => t.read socket answers
  | .close socket => return t.close socket

/-- **What has been read of a stream**: `frames`, and `pending` is queued. -/
structure HasRead (t : Connections) (k : SOCKET) (frames : List Frame) (pending : Bytes) : Prop where
  ready : Ready t.s k pending
  reads : Reads framing (t.arrived k) frames (pending ++ t.incoming k)
  packets : t.packets k = frames.filterMap packetOf

/-- Every connection has read a first part of its stream. -/
def Inv (t : Connections) : Prop := ∀ k, ∃ frames pending, HasRead t k frames pending

theorem inv_initial : Inv Connections.initial := fun _ =>
  ⟨[], [], ⟨⟨rfl, rfl, rfl, rfl⟩, Or.inl ⟨rfl, rfl⟩⟩, Reads.nil _, rfl⟩

theorem Inv.idle {t : Connections} (h : Inv t) : Idle t.s := by
  obtain ⟨frames, pending, hk⟩ := h 0
  exact hk.ready.idle

theorem Ready.others {s' : Queues} {k : SOCKET} (h : Ready s k pending) (hidle : Idle s')
    (hk : s'.queues k = s.queues k) : Ready s' k pending := by
  refine ⟨hidle, ?_⟩
  rcases h.queued with ⟨hq, rfl⟩ | ⟨header, data, hwait, hun, rfl⟩
  · exact Or.inl ⟨hk.trans hq, rfl⟩
  · obtain ⟨q, hq, hrest⟩ := hwait.queue
    exact Or.inr ⟨header, data, ⟨hidle, q, hk.trans hq, hrest⟩, hun, rfl⟩

/-- A connection whose queue, stream and packets stay as they are. -/
theorem HasRead.others {t t' : Connections} {k : SOCKET} {frames : List Frame}
    (h : HasRead t k frames pending) (hidle : Idle t'.s) (hq : t'.s.queues k = t.s.queues k)
    (hi : t'.incoming k = t.incoming k) (ha : t'.arrived k = t.arrived k)
    (hp : t'.packets k = t.packets k) : HasRead t' k frames pending :=
  ⟨h.ready.others hidle hq, by rw [hi, ha]; exact h.reads, by rw [hp, h.packets]⟩

theorem cleanup_idle (h : Cleanable s socket) : Idle (SocketBuffer_cleanup s socket) := by
  unfold SocketBuffer_cleanup
  split_ifs with hsocket
  · exact ⟨rfl, rfl, rfl, rfl⟩
  · rcases h with hidle | hsocket'
    · exact hidle.congr rfl
    · exact absurd hsocket' hsocket

/-- A closed connection starts anew, the other ones stay as they are. -/
theorem inv_close {t : Connections} (h : Inv t) {s' : Queues} (hc : Cleanable s' socket)
    (hothers : Others t.s s' socket) : Inv ({ t with s := s' }.close socket) := by
  intro k
  have hidle : Idle (Connections.close { t with s := s' } socket).s := cleanup_idle hc
  by_cases hk : k = socket
  · subst hk
    refine ⟨[], [], ⟨hidle, Or.inl ⟨Function.update_self _ _ _, rfl⟩⟩, ?_, Function.update_self _ _ _⟩
    simp only [Connections.close, Function.update_self]
    exact Reads.nil _
  · obtain ⟨frames, pending, hread⟩ := h k
    refine ⟨frames, pending, hread.others hidle ?_ (Function.update_of_ne hk _ _)
      (Function.update_of_ne hk _ _) (Function.update_of_ne hk _ _)⟩
    exact (Function.update_of_ne hk _ _).trans (hothers k hk)

/-- **One step** never writes beyond a buffer and keeps to the streams. -/
theorem inv_step {t : Connections} (h : Inv t) (e : Event) : ∃ t', t.step e = .ok t' ∧ Inv t' := by
  cases e with
  | arrive socket bytes =>
    refine ⟨_, rfl, fun k => ?_⟩
    obtain ⟨frames, pending, hread⟩ := h k
    by_cases hk : k = socket
    · subst hk
      refine ⟨frames, pending, hread.ready, ?_, hread.packets⟩
      simp only [Function.update_self, ← List.append_assoc]
      exact hread.reads.append bytes
    · exact ⟨frames, pending, hread.others h.idle rfl (Function.update_of_ne hk _ _)
        (Function.update_of_ne hk _ _) rfl⟩
  | close socket => exact ⟨_, rfl, inv_close h (Or.inl h.idle) (Others.refl _ _)⟩
  | read socket answers =>
    by_cases hs0 : socket = 0
    · exact ⟨t, by simp only [Connections.step, Connections.read, if_pos hs0]; rfl, h⟩
    obtain ⟨frames, pending, hread⟩ := h socket
    obtain ⟨pack, error, r, hfactory, hothers, herror, hok⟩ :=
      factory_spec (r := ⟨t.s, t.incoming socket, answers⟩) hs0 hread.ready
    by_cases he : error = .SOCKET_ERROR
    · refine ⟨_, ?_, inv_close h (herror he).1 hothers⟩
      simp only [Connections.step, Connections.read, if_neg hs0, hfactory, bind, Except.bind,
        if_pos he]
      rfl
    · refine ⟨{ t with
          s := r.s
          incoming := Function.update t.incoming socket r.incoming
          packets := Function.update t.packets socket (t.packets socket ++ pack.toList) }, ?_, ?_⟩
      · simp only [Connections.step, Connections.read, if_neg hs0, hfactory, bind, Except.bind,
          if_neg he]
        rfl
      · have hnew : ∃ frames' pending', Ready r.s socket pending' ∧
            Reads framing (t.arrived socket) frames' (pending' ++ r.incoming) ∧
            t.packets socket ++ pack.toList = frames'.filterMap packetOf := by
          rcases hok he with ⟨rfl, pending', hready, hstream⟩ | ⟨f, rfl, hnext, hready⟩
          · exact ⟨frames, pending', hready, hstream ▸ hread.reads, by simpa using hread.packets⟩
          · refine ⟨frames ++ [f], [], hready, hread.reads.snoc hnext, ?_⟩
            rw [List.filterMap_append, ← hread.packets]
            rcases hp : packetOf f with _ | p
            · simp [hp]
            · simp [hp]
        obtain ⟨frames', pending', hready, hreads, hpackets⟩ := hnew
        intro k
        by_cases hk : k = socket
        · subst hk
          exact ⟨frames', pending', hready, by simpa using hreads, by simpa using hpackets⟩
        · obtain ⟨framesk, pendingk, hreadk⟩ := h k
          exact ⟨framesk, pendingk, hreadk.others hready.idle (hothers k hk)
            (Function.update_of_ne hk _ _) rfl (Function.update_of_ne hk _ _)⟩

/-! ### Whole runs -/

/-- The steps that do not fault. -/
def Step (t : Connections) (e : Event) (t' : Connections) : Prop := t.step e = .ok t'

variable {tr : List (Connections × Event)} {t : Connections}

theorem inv_run (hr : Run Step Connections.initial tr t) : Inv t :=
  hr.invariant' inv_initial fun t e t' h hs => by
    obtain ⟨u, hu, hinv⟩ := inv_step h e
    obtain rfl : u = t' := Except.ok.inj (hu.symm.trans hs)
    exact hinv

/-- **Reading never leaves its buffers**: after any run every call can be made. -/
theorem step_ok (hr : Run Step Connections.initial tr t) (e : Event) : ∃ t', t.step e = .ok t' := by
  obtain ⟨t', ht', -⟩ := inv_step (inv_run hr) e
  exact ⟨t', ht'⟩

/-- An answer to a ping that arrives in two pieces; a packet of another socket comes in between. -/
def samplePieces : List Event :=
  [.arrive 1 [208], .read 1 [.avail 1], .arrive 2 [208, 0], .read 2 [.avail 1, .avail 1],
    .arrive 1 [0], .read 1 [.avail 1]]

/-- It arrives at once. -/
def sampleWhole : List Event := [.arrive 1 [208, 0], .read 1 [.avail 1, .avail 5]]

/-- A computation that did not fault. -/
theorem eq_ok_of_toOption {α : Type} {x : Except Fault α} {a : α} (h : x.toOption = some a) :
    x = .ok a := by
  cases x with
  | error => cases h
  | ok => exact congrArg Except.ok (Option.some.inj h)

theorem run_samples : ∃ tr t tr' t', Run Step Connections.initial tr t ∧
    Run Step Connections.initial tr' t' ∧ tr.map Prod.snd = samplePieces ∧
    tr'.map Prod.snd = sampleWhole ∧ t.arrived 1 = t'.arrived 1 ∧ t.incoming 1 = [] ∧
    t'.incoming 1 = [] := by
  obtain ⟨t, ht, hall⟩ : ∃ t, samplePieces.foldlM (fun t e => (t.step e).toOption)
      Connections.initial = some t ∧
      t.arrived 1 = [208, 0] ∧ t.incoming 1 = [] := ⟨_, rfl, by decide, by decide⟩
  obtain ⟨t', ht', hall'⟩ : ∃ t, sampleWhole.foldlM (fun t e => (t.step e).toOption)
      Connections.initial = some t ∧
      t.arrived 1 = [208, 0] ∧ t.incoming 1 = [] := ⟨_, rfl, by decide, by decide⟩
  obtain ⟨tr, hr, htr⟩ := run_of_foldlM (fun _ _ _ => eq_ok_of_toOption) _ ht
  obtain ⟨tr', hr', htr'⟩ := run_of_foldlM (fun _ _ _ => eq_ok_of_toOption) _ ht'
  exact ⟨tr, t, tr', t', hr, hr', htr, htr', hall.1.trans hall'.1.symm, hall.2, hall'.2⟩

theorem step_ok_samplePieces : ∃ tr t, Run Step Connections.initial tr t ∧
    tr.map Prod.snd = samplePieces ∧ ∃ t', t.step (.read 1 [.avail 1]) = .ok t' := by
  obtain ⟨tr, t, -, -, hr, -, htr, -⟩ := run_samples
  exact ⟨tr, t, hr, htr, step_ok hr (.read 1 [.avail 1])⟩

/-- **The packets read are those of the stream**, and the rest of it is queued or still to be read. -/
theorem packets_eq (hr : Run Step Connections.initial tr t) (k : SOCKET) :
    ∃ frames pending, Reads framing (t.arrived k) frames (pending ++ t.incoming k) ∧
      nextFrame pending = none ∧ t.packets k = frames.filterMap packetOf := by
  obtain ⟨frames, pending, h⟩ := inv_run hr k
  exact ⟨frames, pending, h.reads, h.ready.next, h.packets⟩

/-- **The packets depend on the stream alone**: however two streams with the same bytes were cut by
the network and whatever else was read in between, once both are read the packets are the same. -/
theorem same_packets {tr' : List (Connections × Event)} {t' : Connections}
    (hr : Run Step Connections.initial tr t) (hr' : Run Step Connections.initial tr' t')
    {k k' : SOCKET} (harrived : t.arrived k = t'.arrived k') (hread : t.incoming k = [])
    (hread' : t'.incoming k' = []) : t.packets k = t'.packets k' := by
  obtain ⟨frames, pending, hreads, hnext, hpackets⟩ := packets_eq hr k
  obtain ⟨frames', pending', hreads', hnext', hpackets'⟩ := packets_eq hr' k'
  rw [hread, List.append_nil] at hreads
  rw [hread', List.append_nil, ← harrived] at hreads'
  obtain ⟨rfl, -⟩ := hreads.unique hnext hreads' hnext'
  rw [hpackets, hpackets']

theorem same_packets_samples : ∃ tr t tr' t', Run Step Connections.initial tr t ∧
    Run Step Connections.initial tr' t' ∧ tr.map Prod.snd = samplePieces ∧
    tr'.map Prod.snd = sampleWhole ∧ t.packets 1 = t'.packets 1 := by
  obtain ⟨tr, t, tr', t', hr, hr', htr, htr', harrived, hread, hread'⟩ := run_samples
  exact ⟨tr, t, tr', t', hr, hr', htr, htr', same_packets hr hr' harrived hread hread'⟩

end LanternProject.Mqtt.Reading
