import LanternProject.Pipeline.Invariants

/-! # The callbacks

Every capture sends the picture to the callback URL the manager holds, with the pid it holds. In a
run of the pipeline's own events that is right: the picture shows the lantern of the message parsed
last, and no message is answered twice (`CallbacksRight`). It stays right with calls from outside
as long as these come while no callback URL is held, and the gate is opened from outside only while
no image request is in flight (`Allowed`, `callbacks_right`). -/

namespace LanternProject.Pipeline.Callback

open LanternProject.Lib.Runs
open LanternProject.Engine.Str LanternProject.Widget.LanternWidget LanternProject.Pipeline.State
open LanternProject.Pipeline.Parse LanternProject.Pipeline.Spawn LanternProject.Pipeline.Request
open LanternProject.Pipeline.System LanternProject.Pipeline.Invariants

variable {env : Env} {w w' : World} {e : Event}

/-- The callback has the picture of the lantern of its message, and the pid and the URL of it. -/
def PostRight (env : Env) (w : World) (p : CallbackPost) : Prop :=
  ∃ n s message, p.picture = .lantern n ∧ w.spawned[n]? = some s ∧ s.origin = some p.message ∧
    w.accepted[p.message]? = some message ∧ p.url = (parsed env message).callbackURL ∧
    p.content = callbackBody env (parsed env message).pId p.picture

/-- Every callback is right, no message has two, and the fields of the message whose image is
requested are still there. -/
structure CallbacksRight (env : Env) (w : World) : Prop where
  right : ∀ p ∈ w.callbacks, PostRight env w p
  once : (w.callbacks.map CallbackPost.message).Nodup
  pending : ∀ r ∈ w.imageRequests, ∃ message, w.accepted[r.issuer]? = some message ∧
    fieldsOf w.mqttManager = parsed env message

/-- Calls from outside come while no callback URL is held, and the gate is opened from outside
while no image is requested. -/
def Allowed (w : World) : Event → Prop
  | .spawnLantern _ _ _ => w.imageRequests = [] ∧ w.mqttManager.callbackURL = []
  | .capture _ => w.mqttManager.callbackURL = []
  | .startTimer => w.imageRequests = []
  | _ => True

instance (w : World) (e : Event) : Decidable (Allowed w e) :=
  match e with
  | .spawnLantern _ _ _ =>
    inferInstanceAs (Decidable (w.imageRequests = [] ∧ w.mqttManager.callbackURL = []))
  | .capture _ => inferInstanceAs (Decidable (w.mqttManager.callbackURL = []))
  | .startTimer => inferInstanceAs (Decidable (w.imageRequests = []))
  | .tick _ _ => .isTrue trivial
  | .onMessage _ _ => .isTrue trivial
  | .imageResponse _ _ _ _ => .isTrue trivial
  | .screenshotTask _ _ _ => .isTrue trivial
  | .removeAllLantern => .isTrue trivial

/-! ### The invariant -/

/-- Every callback is right, and was sent for a message before `bound`, in their order. -/
structure PostsBelow (env : Env) (w : World) (bound : ℕ) : Prop where
  right : ∀ p ∈ w.callbacks, PostRight env w p
  order : (w.callbacks.map CallbackPost.message).Pairwise (· < ·)
  below : ∀ p ∈ w.callbacks, p.message < bound

/-- The messages that may have been answered: all taken, but for the one being served. -/
def answerable (w : World) : ℕ :=
  match w.imageRequests with
  | [] => w.requested
  | r :: _ => r.issuer

theorem PostRight.mono {p : CallbackPost} (h : PostRight env w p) (ha : w.accepted <+: w'.accepted)
    (hs : w.spawned <+: w'.spawned) : PostRight env w' p := by
  obtain ⟨n, s, message, hp, hn, ho, hm, h⟩ := h
  exact ⟨n, s, message, hp, getElem?_of_prefix hs hn, ho, getElem?_of_prefix ha hm, h⟩

/-- Nothing is sent: only the histories grow. -/
theorem PostsBelow.mono {b b' : ℕ} (h : PostsBelow env w b) (hc : w'.callbacks = w.callbacks)
    (ha : w.accepted <+: w'.accepted) (hs : w.spawned <+: w'.spawned) (hb : b ≤ b') :
    PostsBelow env w' b' := by
  refine ⟨?_, ?_, ?_⟩
  · rw [hc]
    exact fun p hp => (h.right p hp).mono ha hs
  · rw [hc]
    exact h.order
  · rw [hc]
    exact fun p hp => (h.below p hp).trans_le hb

/-- The lantern of the message parsed last is spawned and captured. -/
theorem PostsBelow.afterSpawn {m : ℕ} {message : FString} (s : Spawn) (types : LanternTypes)
    (lanternArray destroyed : List ℕ) (h : PostsBelow env w m) (hq : w.requested = m + 1)
    (hm : w.accepted[m]? = some message) (hf : fieldsOf w.mqttManager = parsed env message)
    (hs : s.origin = some m) :
    PostsBelow env (afterSpawn env w s types lanternArray destroyed) (m + 1) := by
  set w1 := Spawn.afterSpawn env w s types lanternArray destroyed with hw1
  have hold : ∀ p ∈ w.callbacks, PostRight env w1 p :=
    fun p hp => (h.right p hp).mono List.prefix_rfl (List.prefix_append _ _)
  have hnew : ∀ p ∈ postsOf env w (.lantern w.spawned.length),
      p.message = m ∧ PostRight env w1 p := by
    intro p hp
    unfold postsOf at hp
    split_ifs at hp
    · cases hp
    · rw [List.mem_singleton.mp hp]
      have hmsg : w.requested - 1 = m := by omega
      refine ⟨hmsg, w.spawned.length, s, message, rfl, ?_, ?_, ?_, ?_, ?_⟩
      · show (w.spawned ++ [s])[w.spawned.length]? = some s
        simp
      · rw [hs, hmsg]
      · show w.accepted[w.requested - 1]? = some message
        rw [hmsg]
        exact hm
      · exact congrArg Fields.callbackURL hf
      · show callbackBody env w.mqttManager.pId _ = callbackBody env (parsed env message).pId _
        rw [show w.mqttManager.pId = (parsed env message).pId from congrArg Fields.pId hf]
  refine ⟨fun p hp => ?_, ?_, fun p hp => ?_⟩
  · rcases List.mem_append.mp hp with hp | hp
    · exact hold p hp
    · exact (hnew p hp).2
  · show ((w.callbacks ++ postsOf env w (.lantern w.spawned.length)).map
      CallbackPost.message).Pairwise (· < ·)
    rw [List.map_append, List.pairwise_append]
    refine ⟨h.order, ?_, ?_⟩
    · unfold postsOf
      split_ifs <;> simp
    · intro a ha b hb
      obtain ⟨p, hp, rfl⟩ := List.mem_map.mp ha
      obtain ⟨q, hq', rfl⟩ := List.mem_map.mp hb
      rw [(hnew q hq').1]
      exact h.below p hp
  · rcases List.mem_append.mp hp with hp | hp
    · exact (h.below p hp).trans (Nat.lt_succ_self m)
    · rw [(hnew p hp).1]
      exact Nat.lt_succ_self m

theorem postsOf_nil {target : AActor} (h : w.mqttManager.callbackURL = []) :
    postsOf env w target = [] := if_pos h

/-- **Every allowed step** keeps the callbacks right. -/
theorem postsBelow_next (hb : Books env w) (hg : OneRequest w)
    (h : PostsBelow env w (answerable w)) (ha : Allowed w e) (hn : Next env w e w') :
    PostsBelow env w' (answerable w') := by
  obtain ⟨hacc, hsp, -⟩ := grows_next hn
  cases next_cases hn with
  | idle | reject | accept | removeAllLantern => exact h.mono rfl hacc hsp le_rfl
  | startTimer => exact h.mono rfl hacc hsp le_rfl
  | ask deltaTime choice message log hg' hm hi =>
    have hnil := hg.of_open hg'
    have hans : answerable w = w.requested := by simp [answerable, hnil]
    refine h.mono rfl hacc hsp ?_
    rw [hans]
    simp [answerable, hnil]
  | spawnText deltaTime choice message log lantern types lanternArray destroyed hg' hm =>
    have hnil := hg.of_open hg'
    have hans : answerable w = w.requested := by simp [answerable, hnil]
    have h1 : PostsBelow env { taken env (gated env w) message with log := log } w.requested :=
      h.mono rfl List.prefix_rfl List.prefix_rfl hans.le
    have h2 := h1.afterSpawn ⟨none, (parsed env message).text, lantern, some w.requested⟩ types
      lanternArray destroyed rfl (hb.head hm) rfl rfl
    have hans' : answerable (Spawn.afterSpawn env
        { taken env (gated env w) message with log := log }
        ⟨none, (parsed env message).text, lantern, some w.requested⟩ types lanternArray destroyed) =
        w.requested + 1 := by
      simp [answerable, Spawn.afterSpawn, taken, gated, hnil]
    rw [hans']
    exact h2
  | failed i request response connected choice log hi hk =>
    obtain ⟨hnil, hone, hq⟩ := hg.of_answer hi
    refine h.mono rfl hacc hsp ?_
    simp only [answerable, hone, answered] at hnil ⊢
    rw [hnil]
    show request.issuer ≤ w.requested
    omega
  | spawnImage i request response connected choice log result lantern types lanternArray destroyed
      hi hk hr =>
    obtain ⟨hnil, hone, hq⟩ := hg.of_answer hi
    obtain ⟨message, hm, hf⟩ := fields_of_request hb hg (List.mem_of_getElem? hi)
    have hans : answerable w = request.issuer := by simp [answerable, hone]
    have h1 : PostsBelow env { answered w i request (some response) with log := log }
        request.issuer := h.mono rfl List.prefix_rfl List.prefix_rfl hans.le
    have h2 := h1.afterSpawn
      ⟨resultImage env result, w.mqttManager.text, lantern, some request.issuer⟩ types lanternArray
      destroyed hq.symm hm hf rfl
    have hans' : answerable (Spawn.afterSpawn env
        { answered w i request (some response) with log := log }
        ⟨resultImage env result, w.mqttManager.text, lantern, some request.issuer⟩ types
        lanternArray destroyed) = request.issuer + 1 := by
      simp [answerable, Spawn.afterSpawn, answered, hnil, hq]
    rw [hans']
    exact h2
  | screenshot i now saved task hi =>
    unfold runScreenshotTask at hacc hsp ⊢
    cases saved <;> exact h.mono rfl hacc hsp le_rfl
  | spawnLantern image text choice lantern types lanternArray destroyed =>
    refine h.mono ?_ hacc hsp le_rfl
    show w.callbacks ++ postsOf env w _ = w.callbacks
    rw [postsOf_nil ha.2, List.append_nil]
  | capture target =>
    refine h.mono ?_ hacc hsp le_rfl
    show w.callbacks ++ postsOf env w target = w.callbacks
    rw [postsOf_nil ha, List.append_nil]

/-- **Allowed runs send the right callbacks.** -/
theorem callbacks_right (env : Env) (types : LanternTypes) (tr : List (World × Event)) (w : World)
    (hr : Run (Next env) (init types) tr w) (ha : Along Allowed tr) :
    Always (CallbacksRight env) tr w := by
  have hinv : Always (fun w => (Books env w ∧ OneRequest w) ∧ PostsBelow env w (answerable w))
      tr w := by
    refine hr.invariant (C := Allowed) ?_ ?_ ha
    · exact ⟨⟨books_init env types, Or.inl rfl⟩, fun p hp => (by cases hp), List.Pairwise.nil,
        fun p hp => (by cases hp)⟩
    · rintro u e u' ⟨⟨hb, hg⟩, h⟩ ha hs
      refine ⟨⟨books_next hb hs, oneRequest_next hg (fun hop => ?_) hs⟩,
        postsBelow_next hb hg h ha hs⟩
      cases e with
      | startTimer => exact ha
      | spawnLantern => exact ha.1
      | _ => exact hop.elim
  have hright : ∀ u, ((Books env u ∧ OneRequest u) ∧ PostsBelow env u (answerable u)) →
      CallbacksRight env u := by
    rintro u ⟨⟨hb, hg⟩, h⟩
    exact ⟨h.right, h.order.imp (fun hlt => Nat.ne_of_lt hlt),
      fun r hr => fields_of_request hb hg hr⟩
  exact ⟨fun p hp => hright _ (hinv.1 p hp), hright _ hinv.2⟩

/-- A Blueprint spawns a lantern before the first letter is taken. -/
theorem callbacks_right_early_spawn : ∃ tr w, Run (Next sampleEnv) sampleWorld tr w ∧
    tr.map Prod.snd = [.spawnLantern none (TEXT "B") firstChoice, .startTimer,
      .onMessage [] textLetter1, .tick 0 firstChoice] ∧ Always (CallbacksRight sampleEnv) tr w := by
  obtain ⟨w, hp⟩ := Option.isSome_iff_exists.mp (show (List.foldlM (fun w e =>
      if Allowed w e then next sampleEnv w e else none) sampleWorld
      [.spawnLantern none (TEXT "B") firstChoice, .startTimer, .onMessage [] textLetter1,
        .tick 0 firstChoice]).isSome from by decide +kernel)
  obtain ⟨tr, ⟨hr, ha⟩, htr⟩ := run_of_foldlM_along next_of_next _ hp
  exact ⟨tr, w, hr, htr, callbacks_right sampleEnv _ tr w hr ha⟩

/-- **A message can be answered twice**: a Blueprint spawns a lantern after the letter's own. -/
theorem not_always_callbacksRight : ¬ ∀ (env : Env) (types : LanternTypes)
    (tr : List (World × Event)) (w : World), Run (Next env) (init types) tr w →
      CallbacksRight env w := by
  intro h
  have hp : (play sampleEnv sampleWorld [.startTimer, .onMessage [] textLetter1,
      .tick 0 firstChoice, .spawnLantern none (TEXT "B") firstChoice]).map (fun w =>
        w.callbacks.map CallbackPost.message) = some [0, 0] := by
    decide +kernel
  obtain ⟨w, hw, hv⟩ := Option.map_eq_some_iff.mp hp
  obtain ⟨tr, hr, -⟩ := run_of_play hw
  have honce := (h sampleEnv _ tr w hr).once
  rw [hv] at honce
  exact absurd honce (by decide)

end LanternProject.Pipeline.Callback
