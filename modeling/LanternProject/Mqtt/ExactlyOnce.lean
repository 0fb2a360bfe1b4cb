import LanternProject.Mqtt.Simulation

/-! # Exactly once

* `simulates`: every run of the system carries out both handshakes of each message id.
* `delivered_exactly_once`, `published_exactly_once`: while the session is kept, what arrives at the
  application, or is passed on by the broker, is what was offered, in order, but for one message.
* `delivered_at_most_once`, `published_at_most_once`: with sessions that are cleaned it is still a
  subsequence. -/

namespace LanternProject.Mqtt.ExactlyOnce

open LanternProject.Lib LanternProject.Lib.Runs LanternProject.Lib.Handshake
open LanternProject.Mqtt.MQTTPacket LanternProject.Mqtt.SocketBuffer
open LanternProject.Mqtt.MQTTProtocolClient LanternProject.Mqtt.MQTTAsync
open LanternProject.Mqtt.Broker LanternProject.Mqtt.Effects LanternProject.Mqtt.InFlight
open LanternProject.Mqtt.Ends LanternProject.Mqtt.Simulation

variable {i : ℕ} {c : Clients} {s t : Session} {P : Prop}

theorem movesIf_mono {Q : Prop} (h : P → Q) {x y : Exchange Message} (hm : MovesIf P x y) :
    MovesIf Q x y :=
  Relation.ReflTransGen.mono (fun _ _ hs => hs.imp id fun ⟨hp, hreset⟩ => ⟨h hp, hreset⟩) _ _ hm

/-- Both handshakes of each id are carried out; their ends forget what is under way only if `P`. -/
def CarriedOut (P : Prop) (s : Session) : Prop :=
  Inv s.c ∧ ∀ i,
    (∃ held, (Live s.c → held = heldOf s.c.inboundMsgs i) ∧
      MovesIf P Exchange.empty (inbound i s held)) ∧
    ∃ phase, (Live s.c → phase = phaseOf s.c.outboundMsgs i) ∧
      MovesIf P Exchange.empty (outbound i s phase)

variable {tr : List (Session × Event)} {cleansession : Bool}
  {retryInterval maxInflightMessages : ℕ} {maxBufferedMessages : ℤ}

/-- **Every run** carries out both handshakes of each id. -/
theorem simulates (hr : Run Broker.Step (Session.initial (Clients.initial cleansession retryInterval
      maxInflightMessages maxBufferedMessages)) tr s)
    (hC : Along (fun s e => QueueEmpty s e ∧ (¬Keeps s e → P)) tr) : CarriedOut P s := by
  refine (hr.invariant (I := CarriedOut P) ⟨?_, fun i => ⟨⟨none, fun _ => rfl, .refl⟩,
    .idle, fun _ => rfl, .refl⟩⟩ ?_ hC).last
  · exact ⟨outstanding_initial _ _ _ _, fun _ hne => absurd rfl hne, List.suffix_refl _⟩
  · rintro s e t ⟨hinv, hboth⟩ ⟨hq, hP⟩ hs
    obtain ⟨hinv', hsim⟩ := simulates_step hinv hq hs
    refine ⟨hinv', fun i => ?_⟩
    obtain ⟨⟨held, hheld, hmoves⟩, phase, hphase, hmoves'⟩ := hboth i
    obtain ⟨held', hheld', hstep⟩ := (hsim i).recv held hheld
    obtain ⟨phase', hphase', hstep'⟩ := (hsim i).send phase hphase
    exact ⟨⟨held', hheld', hmoves.trans (movesIf_mono hP hstep)⟩,
      phase', hphase', hmoves'.trans (movesIf_mono hP hstep')⟩

theorem along_and {C : Session → Event → Prop} (hq : Along QueueEmpty tr) (hC : Along C tr)
    (h : ∀ s e, C s e → ¬Keeps s e → P) :
    Along (fun s e => QueueEmpty s e ∧ (¬Keeps s e → P)) tr :=
  fun p hp => ⟨hq p hp, h _ _ (hC p hp)⟩

/-- Nothing is forgotten. -/
theorem moves_of_movesIf {x y : Exchange Message} (h : MovesIf False x y) : Moves x y :=
  Relation.ReflTransGen.mono (fun _ _ hs => hs.resolve_right fun h => h.1) _ _ h

theorem stepOrReset_of_movesIf {x y : Exchange Message} (h : MovesIf True x y) :
    Relation.ReflTransGen StepOrReset x y := by
  refine Relation.ReflTransGen.mono (fun x y hs => ?_) _ _ h
  rcases hs with hs | ⟨-, rfl⟩
  · exact .step hs
  · exact .reset x

/-- **Exactly once, to the application**: while the session is kept, what has arrived under an id is
what the broker was given to send, in order, but for one message; and all of it when the broker's
exchange is over. -/
theorem delivered_exactly_once (hr : Run Broker.Step (Session.initial (Clients.initial cleansession
      retryInterval maxInflightMessages maxBufferedMessages)) tr s) (hq : Along QueueEmpty tr)
    (hk : Along Keeps tr) (i : ℕ) :
    ∃ rest, arrivedOf s.c i ++ rest = s.offered i ∧ rest.length ≤ 1 ∧
      (s.phase i = .idle → rest = []) := by
  have hcarried := simulates hr (along_and (P := False) hq hk fun _ _ h hnot => hnot h)
  obtain ⟨⟨held, -, hmoves⟩, -⟩ := hcarried.2 i
  exact ⟨_, delivered_eq (moves_of_movesIf hmoves), length_underWay _, fun h => underWay_idle h⟩

theorem delivered_exactly_once_sampleRun : ∃ tr s, Run Broker.Step sampleStart tr s ∧
    tr.map Prod.snd = sampleRun ∧ ∃ rest, arrivedOf s.c 1 ++ rest = s.offered 1 ∧ rest.length ≤ 1 ∧
      (s.phase 1 = .idle → rest = []) := by
  obtain ⟨tr, s, hr, htr, hq, hk⟩ := run_sampleRun
  exact ⟨tr, s, hr, htr, delivered_exactly_once hr hq hk 1⟩

/-- **Exactly once, to the broker**: while the session is kept, what the broker has passed on under an
id, one message at most and the commands that wait are the messages the client has accepted, in
order; and no message is missing when none is kept under the id. -/
theorem published_exactly_once (hr : Run Broker.Step (Session.initial (Clients.initial cleansession
      retryInterval maxInflightMessages maxBufferedMessages)) tr s) (hq : Along QueueEmpty tr)
    (hk : Along Keeps tr) (i : ℕ) :
    ∃ rest, s.received i ++ rest ++ s.c.commands.filterMap (commandOf i)
        = s.c.accepted.filterMap (commandOf i) ∧ rest.length ≤ 1 ∧
      (Live s.c → findMsg s.c.outboundMsgs i = none → rest = []) := by
  have hcarried := simulates hr (along_and (P := False) hq hk fun _ _ h hnot => hnot h)
  obtain ⟨-, phase, hphase, hmoves⟩ := hcarried.2 i
  refine ⟨(outbound i s phase).underWay, ?_, length_underWay _,
    fun hlive hnone => underWay_idle ?_⟩
  · exact (congrArg (· ++ _) (delivered_eq (moves_of_movesIf hmoves))).trans
      (startedOf_append hcarried.1.queued i)
  · show phase = .idle
    rw [hphase hlive, phaseOf, hnone]
    rfl

theorem published_exactly_once_sampleRun : ∃ tr s, Run Broker.Step sampleStart tr s ∧
    tr.map Prod.snd = sampleRun ∧ ∃ rest, s.received 1 ++ rest ++ s.c.commands.filterMap (commandOf 1)
        = s.c.accepted.filterMap (commandOf 1) ∧ rest.length ≤ 1 ∧
      (Live s.c → findMsg s.c.outboundMsgs 1 = none → rest = []) := by
  obtain ⟨tr, s, hr, htr, hq, hk⟩ := run_sampleRun
  exact ⟨tr, s, hr, htr, published_exactly_once hr hq hk 1⟩

/-- **At most once, to the application**, in order, whatever is cleaned. -/
theorem delivered_at_most_once (hr : Run Broker.Step (Session.initial (Clients.initial cleansession
      retryInterval maxInflightMessages maxBufferedMessages)) tr s) (hq : Along QueueEmpty tr) (i : ℕ) :
    (arrivedOf s.c i).Sublist (s.offered i) := by
  have hcarried := simulates hr (along_and (P := True) hq hq fun _ _ _ _ => trivial)
  obtain ⟨⟨held, -, hmoves⟩, -⟩ := hcarried.2 i
  exact delivered_sublist (stepOrReset_of_movesIf hmoves)

theorem delivered_at_most_once_sampleRun : ∃ tr s, Run Broker.Step sampleStart tr s ∧
    tr.map Prod.snd = sampleRun ∧ (arrivedOf s.c 1).Sublist (s.offered 1) := by
  obtain ⟨tr, s, hr, htr, hq, -⟩ := run_sampleRun
  exact ⟨tr, s, hr, htr, delivered_at_most_once hr hq 1⟩

/-- **At most once, to the broker**, in order, whatever is cleaned. -/
theorem published_at_most_once (hr : Run Broker.Step (Session.initial (Clients.initial cleansession
      retryInterval maxInflightMessages maxBufferedMessages)) tr s) (hq : Along QueueEmpty tr) (i : ℕ) :
    (s.received i).Sublist (s.c.accepted.filterMap (commandOf i)) := by
  have hcarried := simulates hr (along_and (P := True) hq hq fun _ _ _ _ => trivial)
  obtain ⟨-, phase, -, hmoves⟩ := hcarried.2 i
  have hsub : (s.received i).Sublist (startedOf s.c i) := delivered_sublist (stepOrReset_of_movesIf hmoves)
  rw [← startedOf_append hcarried.1.queued i]
  exact hsub.trans (List.sublist_append_left _ _)

theorem published_at_most_once_sampleRun : ∃ tr s, Run Broker.Step sampleStart tr s ∧
    tr.map Prod.snd = sampleRun ∧
    (s.received 1).Sublist (s.c.accepted.filterMap (commandOf 1)) := by
  obtain ⟨tr, s, hr, htr, hq, -⟩ := run_sampleRun
  exact ⟨tr, s, hr, htr, published_at_most_once hr hq 1⟩

end LanternProject.Mqtt.ExactlyOnce
