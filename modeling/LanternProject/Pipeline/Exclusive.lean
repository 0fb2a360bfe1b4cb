import LanternProject.Lib.Fifo
import LanternProject.Pipeline.Invariants

/-! # One message at a time

Driven by its own events, the pipeline is a server that takes the accepted messages one at a time,
in order of arrival (`serverOf`, `simulates_next`): taking a message and spawning its lantern at
once is a `take` and a `serve`, waiting for an image is being busy, and a response without a result
abandons the message. The fields a lantern is made from are those of the message served, since no
other message is parsed while the request is in flight (`OwnLantern`). -/

namespace LanternProject.Pipeline.Exclusive

open LanternProject.Lib.Runs LanternProject.Lib.Fifo
open LanternProject.Engine.Basic LanternProject.Engine.Str LanternProject.Widget.LanternWidget
open LanternProject.Pipeline.State LanternProject.Pipeline.Parse LanternProject.Pipeline.Spawn
open LanternProject.Pipeline.Request LanternProject.Pipeline.System
open LanternProject.Pipeline.Invariants

variable {env : Env} {w w' : World} {e : Event}

/-! ### The server -/

/-- The pipeline as a server of the numbers of the accepted messages. -/
def serverOf (w : World) : Server ℕ where
  arrived := List.range w.accepted.length
  taken := w.requested
  busy := w.imageRequests.head?.map ImageRequest.issuer
  served := w.spawned.filterMap Spawn.origin

/-- The message at the head of the queue can be taken. -/
theorem step_take (hb : Books env w) (hg : w.imageRequests = []) {message : FString}
    (hm : w.mqttManager.mqttMessageArray[0]? = some message) :
    Step (serverOf w) { serverOf w with taken := w.requested + 1, busy := some w.requested } := by
  refine Step.take (serverOf w) w.requested ?_ ?_
  · simp [serverOf, hg]
  · have hlt := (List.getElem?_eq_some_iff.mp (hb.head hm)).1
    show (List.range w.accepted.length)[w.requested]? = some w.requested
    rw [List.getElem?_range hlt]

/-- The only image request is the one the server is busy with. -/
theorem busy_eq (h : OneRequest w) {i : ℕ} {request : ImageRequest}
    (hi : w.imageRequests[i]? = some request) : (serverOf w).busy = some request.issuer := by
  simp [serverOf, (h.of_answer hi).2.1]

/-- **Every step is a step of the server**, two, or none. -/
theorem simulates_next (hb : Books env w) (hg : OneRequest w) (ho : e.Own)
    (hn : Next env w e w') : Steps (serverOf w) (serverOf w') := by
  cases next_cases hn with
  | idle | reject | startTimer | capture | removeAllLantern => exact .refl
  | ask deltaTime choice message log hg' hm hi =>
    have hnil := hg.of_open hg'
    have heq : serverOf { taken env (gated env w) message with
        log := log
        imageRequests := w.imageRequests ++ [⟨(parsed env message).imageURL, w.requested⟩] } =
        { serverOf w with taken := w.requested + 1, busy := some w.requested } := by
      simp [serverOf, taken, gated, hnil]
    rw [heq]
    exact .single (step_take hb hnil hm)
  | spawnText deltaTime choice message log lantern types lanternArray destroyed hg' hm =>
    have hnil := hg.of_open hg'
    have heq : serverOf (afterSpawn env { taken env (gated env w) message with log := log }
        ⟨none, (parsed env message).text, lantern, some w.requested⟩ types lanternArray destroyed) =
        { serverOf w with
          taken := w.requested + 1, busy := none
          served := (serverOf w).served ++ [w.requested] } := by
      simp [serverOf, afterSpawn, taken, gated, hnil]
    rw [heq]
    exact .tail (.single (step_take hb hnil hm)) (Step.serve _ w.requested rfl)
  | accept topic message log =>
    have heq : serverOf { w with
        mqttManager := { w.mqttManager with
          mqttMessageArray := w.mqttManager.mqttMessageArray ++ [message] }
        accepted := w.accepted ++ [message]
        log := log } =
        { serverOf w with arrived := (serverOf w).arrived ++ [w.accepted.length] } := by
      simp [serverOf, List.range_succ]
    rw [heq]
    exact .single (Step.arrive _ _)
  | failed i request response connected choice log hi hk =>
    have heq : serverOf { answered w i request response with log := log } =
        { serverOf w with busy := none } := by
      simp [serverOf, answered, (hg.of_answer hi).1]
    rw [heq]
    exact .single (Step.abandon _ request.issuer (busy_eq hg hi))
  | spawnImage i request response connected choice log result lantern types lanternArray destroyed
      hi hk hr =>
    have heq : serverOf (afterSpawn env { answered w i request (some response) with log := log }
        ⟨resultImage env result, w.mqttManager.text, lantern, some request.issuer⟩ types
        lanternArray destroyed) =
        { serverOf w with
          busy := none, served := (serverOf w).served ++ [request.issuer] } := by
      simp [serverOf, afterSpawn, answered, (hg.of_answer hi).1]
    rw [heq]
    exact .single (Step.serve _ request.issuer (busy_eq hg hi))
  | screenshot i now saved task hi =>
    unfold runScreenshotTask
    cases saved <;> exact .refl
  | spawnLantern => exact ho.elim

/-! ### The lanterns -/

/-- The lantern was made for the message `m`: from its text and the response to its request. -/
def OwnLantern (env : Env) (w : World) (s : Spawn) (m : ℕ) : Prop :=
  s.origin = some m ∧ ∃ message, w.accepted[m]? = some message ∧
    s.text = (parsed env message).text ∧
    ∀ image, s.image = some image → ∃ response result, (m, response) ∈ w.responses ∧
      resultOf env (some response) = some result ∧ resultImage env result = some image

/-- Later messages and responses change nothing about it. -/
theorem OwnLantern.mono {s : Spawn} {m : ℕ} (h : OwnLantern env w s m)
    (ha : w.accepted <+: w'.accepted) (hr : w.responses ⊆ w'.responses) :
    OwnLantern env w' s m := by
  obtain ⟨ho, message, hm, ht, hi⟩ := h
  refine ⟨ho, message, getElem?_of_prefix ha hm, ht, fun image him => ?_⟩
  obtain ⟨response, result, hmem, h⟩ := hi image him
  exact ⟨response, result, hr hmem, h⟩

/-- **Every lantern is made for a message**, by every own step. -/
theorem ownLantern_next (hb : Books env w) (hg : OneRequest w)
    (h : ∀ s ∈ w.spawned, ∃ m, OwnLantern env w s m) (ho : e.Own) (hn : Next env w e w') :
    ∀ s ∈ w'.spawned, ∃ m, OwnLantern env w' s m := by
  have hold : ∀ s ∈ w.spawned, ∃ m, OwnLantern env w' s m := by
    intro s hs
    obtain ⟨ha, -, hr⟩ := grows_next hn
    obtain ⟨m, hm⟩ := h s hs
    exact ⟨m, hm.mono ha hr.subset⟩
  cases next_cases hn with
  | idle | reject | startTimer | capture | removeAllLantern | ask | accept | failed => exact hold
  | spawnText deltaTime choice message log lantern types lanternArray destroyed hg' hm =>
    intro s hs
    rcases List.mem_append.mp hs with hs | hs
    · exact hold s hs
    · rw [List.mem_singleton.mp hs]
      exact ⟨w.requested, rfl, message, hb.head hm, rfl, fun image him => (by cases him)⟩
  | spawnImage i request response connected choice log result lantern types lanternArray destroyed
      hi hk hr =>
    intro s hs
    rcases List.mem_append.mp hs with hs | hs
    · exact hold s hs
    · rw [List.mem_singleton.mp hs]
      obtain ⟨message, hm, hf⟩ := fields_of_request hb hg (List.mem_of_getElem? hi)
      refine ⟨request.issuer, rfl, message, hm, congrArg Fields.text hf, fun image him => ?_⟩
      exact ⟨response, result, List.mem_append_right _ (by simp), hr, him⟩
  | screenshot i now saved task hi =>
    unfold runScreenshotTask at hold ⊢
    cases saved <;> exact hold
  | spawnLantern => exact ho.elim

theorem map_origin {l : List Spawn} (h : ∀ s ∈ l, ∃ m, s.origin = some m) :
    l.map Spawn.origin = (l.filterMap Spawn.origin).map some := by
  induction l with
  | nil => rfl
  | cons s l ih =>
    obtain ⟨m, hm⟩ := h s List.mem_cons_self
    rw [List.map_cons, List.filterMap_cons_some hm, List.map_cons, hm,
      ih fun s hs => h s (List.mem_cons_of_mem _ hs)]

/-- **One message at a time.** In every state of a run of the pipeline's own events: at most one
image request is in flight, and the fields held are those of its message; the messages of the
lanterns are a subsequence of those accepted; every lantern has the text of its message, and its
image, if any, is that of the response to its request; and no event indexes the queue outside its
bounds. -/
theorem one_message_at_a_time (env : Env) (types : LanternTypes) (tr : List (World × Event))
    (w : World) (hr : Run (Next env) (init types) tr w) (ho : Along (fun _ e => e.Own) tr) :
    (w.imageRequests.length ≤ 1 ∧ ∀ r ∈ w.imageRequests, ∃ message,
      w.accepted[r.issuer]? = some message ∧ fieldsOf w.mqttManager = parsed env message) ∧
    (∃ served : List ℕ, w.spawned.map Spawn.origin = served.map some ∧
      served.Sublist (List.range w.accepted.length)) ∧
    (∀ s ∈ w.spawned, ∃ m message, s.origin = some m ∧ w.accepted[m]? = some message ∧
      s.text = (parsed env message).text ∧
      ∀ image, s.image = some image → ∃ response result, (m, response) ∈ w.responses ∧
        resultOf env (some response) = some result ∧ resultImage env result = some image) ∧
    ∀ e, step env w e ≠ some (.error (.indexOutOfRange .mqttMessageArray)) := by
  have hb := books_run hr
  have hg := (gate_run hr ho).one
  have hown : ∀ s ∈ w.spawned, ∃ m, OwnLantern env w s m := by
    refine (hr.invariant (I := fun w => (Books env w ∧ Gate w) ∧
      ∀ s ∈ w.spawned, ∃ m, OwnLantern env w s m) ?_ ?_ ho).last.2
    · exact ⟨⟨books_init env types, gate_init types⟩, fun s hs => (by cases hs)⟩
    · rintro u e u' ⟨⟨hb, hg⟩, h⟩ ho hs
      exact ⟨⟨books_next hb hs, gate_next hg ho hs⟩, ownLantern_next hb hg.one h ho hs⟩
  have hsim : Steps (serverOf (init types)) (serverOf w) := by
    refine hr.simulates (I := fun w => Books env w ∧ Gate w) ?_ ?_ ?_ ho
    · exact ⟨books_init env types, gate_init types⟩
    · exact fun u e u' h ho hs => ⟨books_next h.1 hs, gate_next h.2 ho hs⟩
    · exact fun u e u' h ho hs => simulates_next h.1 h.2.one ho hs
  refine ⟨⟨?_, fun r hr => fields_of_request hb hg hr⟩, ?_, fun s hs => ?_, fun e he => ?_⟩
  · rcases hg with hnil | ⟨r, hr, -, -⟩
    · simp [hnil]
    · simp [hr]
  · refine ⟨w.spawned.filterMap Spawn.origin, map_origin fun s hs => ?_, served_sublist hsim⟩
    obtain ⟨m, hm⟩ := hown s hs
    exact ⟨m, hm.1⟩
  · obtain ⟨m, hm, message, h⟩ := hown s hs
    exact ⟨m, message, hm, h⟩
  · rcases step_error he with h | h <;> cases h

theorem one_message_at_a_time_imageRun : ∃ tr w, Run (Next sampleEnv) sampleWorld tr w ∧
    tr.map Prod.snd = imageRun goodResponse ∧
    ∃ served : List ℕ, w.spawned.map Spawn.origin = served.map some ∧
      served.Sublist (List.range w.accepted.length) := by
  obtain ⟨w, hp⟩ := exists_imageRun_good
  obtain ⟨tr, hr, htr⟩ := run_of_play hp
  refine ⟨tr, w, hr, htr, (one_message_at_a_time sampleEnv _ tr w hr ?_).2.1⟩
  rw [along_events, htr]
  exact own_imageRun goodResponse

end LanternProject.Pipeline.Exclusive
