import LanternProject.Pipeline.System

/-! # Invariants of the pipeline

`Books` holds in every run: the queue is the rest of the accepted messages, and the manager holds
the fields of the message taken last. `OneRequest` holds as long as nobody but the pipeline itself
opens the gate: there is at most one image request, it is for the message taken last, and while it
is in flight the gate is closed. -/

namespace LanternProject.Pipeline.Invariants

open LanternProject.Lib.Runs
open LanternProject.Engine.Str LanternProject.Widget.LanternWidget LanternProject.Pipeline.State
open LanternProject.Pipeline.Parse LanternProject.Pipeline.Spawn LanternProject.Pipeline.Request
open LanternProject.Pipeline.System

variable {env : Env} {w w' : World} {e : Event}

/-! ### The histories -/

theorem getElem?_of_prefix {α : Type} {l l' : List α} (h : l <+: l') {i : ℕ} {a : α}
    (hi : l[i]? = some a) : l'[i]? = some a := by
  obtain ⟨t, rfl⟩ := h
  rw [List.getElem?_append_left (List.getElem?_eq_some_iff.mp hi).1]
  exact hi

/-- The accepted messages, the lanterns and the responses only grow. -/
theorem grows_next (hn : Next env w e w') : w.accepted <+: w'.accepted ∧
    w.spawned <+: w'.spawned ∧ w.responses <+: w'.responses := by
  cases next_cases hn with
  | idle | reject | startTimer | capture | removeAllLantern | ask =>
    exact ⟨List.prefix_rfl, List.prefix_rfl, List.prefix_rfl⟩
  | accept => exact ⟨List.prefix_append _ _, List.prefix_rfl, List.prefix_rfl⟩
  | spawnText | spawnLantern => exact ⟨List.prefix_rfl, List.prefix_append _ _, List.prefix_rfl⟩
  | failed => exact ⟨List.prefix_rfl, List.prefix_rfl, List.prefix_append _ _⟩
  | spawnImage => exact ⟨List.prefix_rfl, List.prefix_append _ _, List.prefix_append _ _⟩
  | screenshot i now saved task hi =>
    unfold runScreenshotTask
    cases saved <;> exact ⟨List.prefix_rfl, List.prefix_rfl, List.prefix_rfl⟩

/-! ### The queue and the fields -/

/-- The fields after the first `n` of the messages are parsed. -/
def lastFields (env : Env) (accepted : List FString) : ℕ → Fields
  | 0 => ⟨[], [], [], []⟩
  | n + 1 => (accepted[n]?.map (parsed env)).getD ⟨[], [], [], []⟩

theorem lastFields_succ {accepted : List FString} {n : ℕ} {message : FString}
    (h : accepted[n]? = some message) : lastFields env accepted (n + 1) = parsed env message := by
  simp [lastFields, h]

theorem lastFields_append {accepted l : List FString} {n : ℕ} (h : n ≤ accepted.length) :
    lastFields env (accepted ++ l) n = lastFields env accepted n := by
  cases n with
  | zero => rfl
  | succ n => simp [lastFields, List.getElem?_append_left (show n < accepted.length by omega)]

/-- The queue, the fields and the numbers of the messages agree. -/
structure Books (env : Env) (w : World) : Prop where
  requested_le : w.requested ≤ w.accepted.length
  queue : w.mqttManager.mqttMessageArray = w.accepted.drop w.requested
  fields : fieldsOf w.mqttManager = lastFields env w.accepted w.requested
  issuers : ∀ r ∈ w.imageRequests, r.issuer < w.requested
  origins : ∀ s ∈ w.spawned, ∀ m, s.origin = some m → m < w.requested

theorem books_init (env : Env) (types : LanternTypes) : Books env (init types) :=
  ⟨le_rfl, rfl, rfl, fun r hr => (by cases hr), fun s hs => (by cases hs)⟩

/-- The head of the queue is the message with number `requested`. -/
theorem Books.head (h : Books env w) {message : FString}
    (hm : w.mqttManager.mqttMessageArray[0]? = some message) :
    w.accepted[w.requested]? = some message := by
  rw [h.queue, List.getElem?_drop] at hm
  simpa using hm

theorem Books.taken (h : Books env w) {message : FString} (log : List FString)
    (hm : w.mqttManager.mqttMessageArray[0]? = some message) :
    Books env { taken env (gated env w) message with log := log } := by
  have hget := h.head hm
  have hlt : w.requested < w.accepted.length := (List.getElem?_eq_some_iff.mp hget).1
  refine ⟨hlt, ?_, (lastFields_succ hget).symm, fun r hr => Nat.lt_succ_of_lt (h.issuers r hr),
    fun s hs m hsm => Nat.lt_succ_of_lt (h.origins s hs m hsm)⟩
  show w.mqttManager.mqttMessageArray.tail = w.accepted.drop (w.requested + 1)
  rw [h.queue, List.tail_drop]

theorem Books.afterSpawn (h : Books env w) {s : Spawn} {types : LanternTypes}
    {lanternArray destroyed : List ℕ} (hs : ∀ m, s.origin = some m → m < w.requested) :
    Books env (afterSpawn env w s types lanternArray destroyed) := by
  refine ⟨h.requested_le, h.queue, h.fields, h.issuers, fun s' hs' m hm => ?_⟩
  rcases List.mem_append.mp hs' with hs' | hs'
  · exact h.origins s' hs' m hm
  · rw [List.mem_singleton.mp hs'] at hm
    exact hs m hm

theorem Books.answered (h : Books env w) {i : ℕ} {request : ImageRequest}
    {response : Option FHttpResponse} {log : List FString} :
    Books env { answered w i request response with log := log } :=
  ⟨h.requested_le, h.queue, h.fields, fun r hr => h.issuers r (List.mem_of_mem_eraseIdx hr),
    h.origins⟩

/-- **Every step keeps the books.** -/
theorem books_next (h : Books env w) (hn : Next env w e w') : Books env w' := by
  cases next_cases hn with
  | idle | reject | startTimer | capture | removeAllLantern =>
    exact ⟨h.requested_le, h.queue, h.fields, h.issuers, h.origins⟩
  | ask deltaTime choice message log hg hm hi =>
    have ht := h.taken log hm
    refine ⟨ht.requested_le, ht.queue, ht.fields, fun r hr => ?_, ht.origins⟩
    rcases List.mem_append.mp hr with hr | hr
    · exact ht.issuers r hr
    · rw [List.mem_singleton.mp hr]
      exact Nat.lt_succ_self w.requested
  | spawnText deltaTime choice message log lantern types lanternArray destroyed hg hm =>
    refine (h.taken log hm).afterSpawn fun m hm => ?_
    cases hm
    exact Nat.lt_succ_self w.requested
  | accept topic message log =>
    refine ⟨?_, ?_, ?_, h.issuers, h.origins⟩
    · show w.requested ≤ (w.accepted ++ [message]).length
      rw [List.length_append]
      exact h.requested_le.trans (Nat.le_add_right _ _)
    · show w.mqttManager.mqttMessageArray ++ [message] = (w.accepted ++ [message]).drop w.requested
      rw [h.queue, List.drop_append_of_le_length h.requested_le]
    · show fieldsOf w.mqttManager = lastFields env (w.accepted ++ [message]) w.requested
      rw [h.fields, lastFields_append h.requested_le]
  | failed i request response connected choice log hi hk => exact h.answered
  | spawnImage i request response connected choice log result lantern types lanternArray destroyed
      hi hk hr =>
    refine h.answered.afterSpawn fun m hm => ?_
    cases hm
    exact h.issuers request (List.mem_of_getElem? hi)
  | screenshot i now saved task hi =>
    unfold runScreenshotTask
    cases saved <;> exact ⟨h.requested_le, h.queue, h.fields, h.issuers, h.origins⟩
  | spawnLantern image text choice lantern types lanternArray destroyed =>
    exact h.afterSpawn fun m hm => (by cases hm)

theorem books_run {types : LanternTypes} {tr : List (World × Event)}
    (hr : Run (Next env) (init types) tr w) : Books env w :=
  hr.invariant' (books_init env types) fun _ _ _ h hs => books_next h hs

/-! ### The gate -/

/-- The event opens the gate without serving a message. -/
def Opens : Event → Prop
  | .startTimer => True
  | .spawnLantern _ _ _ => True
  | _ => False

/-- At most one image request, for the message taken last, behind the closed gate. -/
def OneRequest (w : World) : Prop :=
  w.imageRequests = [] ∨ ∃ r, w.imageRequests = [r] ∧ r.issuer + 1 = w.requested ∧
    w.lanternManager.bIsSpawning = true

/-- With the gate open there is no request. -/
theorem OneRequest.of_open (h : OneRequest w) (hg : w.lanternManager.bIsSpawning = false) :
    w.imageRequests = [] := by
  rcases h with h | ⟨r, -, -, hs⟩
  · exact h
  · rw [hg] at hs
    cases hs

/-- The request answered is the only one. -/
theorem OneRequest.of_answer (h : OneRequest w) {i : ℕ} {request : ImageRequest}
    (hi : w.imageRequests[i]? = some request) :
    w.imageRequests.eraseIdx i = [] ∧ w.imageRequests = [request] ∧
      request.issuer + 1 = w.requested := by
  rcases h with h | ⟨r, hr, hq, -⟩
  · rw [h] at hi
    cases hi
  · rw [hr] at hi ⊢
    cases i with
    | zero =>
      cases hi
      exact ⟨rfl, rfl, hq⟩
    | succ i => cases hi

/-- The message of the request in flight is the one whose fields the manager holds. -/
theorem fields_of_request (hb : Books env w) (hg : OneRequest w) {r : ImageRequest}
    (hr : r ∈ w.imageRequests) :
    ∃ message, w.accepted[r.issuer]? = some message ∧
      fieldsOf w.mqttManager = parsed env message := by
  obtain ⟨i, hi⟩ := List.getElem?_of_mem hr
  have hq := (hg.of_answer hi).2.2
  have hlt : r.issuer < w.accepted.length := by
    have := hb.requested_le
    omega
  have hm : w.accepted[r.issuer]? = some w.accepted[r.issuer] := List.getElem?_eq_getElem hlt
  exact ⟨_, hm, by rw [hb.fields, ← hq, lastFields_succ hm]⟩

/-- While the request is in flight the gate is closed. -/
theorem OneRequest.closed (h : OneRequest w) {i : ℕ} {request : ImageRequest}
    (hi : w.imageRequests[i]? = some request) : w.lanternManager.bIsSpawning = true := by
  rcases h with h | ⟨r, -, -, hs⟩
  · rw [h] at hi
    cases hi
  · exact hs

/-- **The gate keeps the requests apart**, if it is opened from outside only without a request. -/
theorem oneRequest_next (h : OneRequest w) (hc : Opens e → w.imageRequests = [])
    (hn : Next env w e w') : OneRequest w' := by
  cases next_cases hn with
  | idle | accept | reject | capture | removeAllLantern => exact h
  | ask deltaTime choice message log hg hm hi =>
    right
    refine ⟨⟨(parsed env message).imageURL, w.requested⟩, ?_, rfl, rfl⟩
    show w.imageRequests ++ [_] = _
    rw [h.of_open hg]
    rfl
  | spawnText deltaTime choice message log lantern types lanternArray destroyed hg hm =>
    exact Or.inl (h.of_open hg)
  | startTimer ht => exact Or.inl (hc trivial)
  | failed i request response connected choice log hi hk => exact Or.inl (h.of_answer hi).1
  | spawnImage i request response connected choice log result lantern types lanternArray destroyed
      hi hk hr =>
    exact Or.inl (h.of_answer hi).1
  | screenshot i now saved task hi =>
    unfold runScreenshotTask
    cases saved <;> exact h
  | spawnLantern image text choice lantern types lanternArray destroyed =>
    exact Or.inl (hc trivial)

/-- Until the start timer fires nothing is requested. -/
structure Gate (w : World) : Prop where
  timer : w.startTimer = true → w.lanternManager.bIsSpawning = true ∧ w.imageRequests = []
  one : OneRequest w

theorem gate_init (types : LanternTypes) : Gate (init types) := ⟨fun _ => ⟨rfl, rfl⟩, Or.inl rfl⟩

/-- The pipeline's own events keep the gate. -/
theorem gate_next (h : Gate w) (ho : e.Own) (hn : Next env w e w') : Gate w' := by
  have hone : OneRequest w' := by
    refine oneRequest_next h.one (fun hop => ?_) hn
    cases next_cases hn with
    | startTimer ht => exact (h.timer ht).2
    | spawnLantern => exact ho.elim
    | _ => exact hop.elim
  refine ⟨?_, hone⟩
  cases next_cases hn with
  | idle | accept | reject | capture | removeAllLantern => exact h.timer
  | ask deltaTime choice message log hg hm hi =>
    intro ht
    have hs := (h.timer ht).1
    rw [hg] at hs
    cases hs
  | spawnText deltaTime choice message log lantern types lanternArray destroyed hg hm =>
    intro ht
    have hs := (h.timer ht).1
    rw [hg] at hs
    cases hs
  | startTimer ht =>
    intro ht
    cases ht
  | failed i request response connected choice log hi hk =>
    intro ht
    have hs := (h.timer ht).2
    rw [hs] at hi
    cases hi
  | spawnImage i request response connected choice log result lantern types lanternArray destroyed
      hi hk hr =>
    intro ht
    have hs := (h.timer ht).2
    rw [hs] at hi
    cases hi
  | screenshot i now saved task hi =>
    unfold runScreenshotTask
    cases saved <;> exact h.timer
  | spawnLantern => exact ho.elim

theorem gate_run {types : LanternTypes} {tr : List (World × Event)}
    (hr : Run (Next env) (init types) tr w) (ho : Along (fun _ e => e.Own) tr) : Gate w :=
  (hr.invariant (gate_init types) (fun _ _ _ h ho hs => gate_next h ho hs) ho).last

end LanternProject.Pipeline.Invariants
