import LanternProject.Pipeline.Invariants

/-! # The names of the screenshots

A background task writes the picture it was started with, but takes the name of the file from the
pid the manager holds when it runs. The file is named for the message of the lantern on the picture
(`FileRight`) exactly if the message parsed last has the same pid as that message (`InTime`); hence
`files_right_iff` for whole runs. -/

namespace LanternProject.Pipeline.Screenshot

open LanternProject.Lib.Runs
open LanternProject.Engine.Str LanternProject.Widget.LanternWidget LanternProject.Pipeline.State
open LanternProject.Pipeline.Parse LanternProject.Pipeline.Spawn LanternProject.Pipeline.Request
open LanternProject.Pipeline.System LanternProject.Pipeline.Invariants

variable {env : Env} {w w' : World} {e : Event}

/-- The actor is a lantern made for the message. -/
def MadeFor (w : World) (target : AActor) (message : FString) : Prop :=
  ∃ n s m, target = .lantern n ∧ w.spawned[n]? = some s ∧ s.origin = some m ∧
    w.accepted[m]? = some message

/-- The message was parsed last. -/
def LastParsed (w : World) (message : FString) : Prop :=
  ∃ n, w.requested = n + 1 ∧ w.accepted[n]? = some message

/-- The file has the picture of the lantern of a message, and its name is the pid of it. -/
def FileRight (env : Env) (w : World) (f : ScreenshotFile) : Prop :=
  ∃ message, MadeFor w f.target message ∧
    f.imageName = (parsed env message).pId ++ TEXT "." ++ TEXT "jpg" ∧
    f.data = env.compressImage (TEXT "jpg") ⟨f.target⟩

def FilesRight (env : Env) (w : World) : Prop := ∀ f ∈ w.screenshotFiles, FileRight env w f

/-- If the event writes a screenshot, the message parsed last has the pid of the message whose
lantern is on it. -/
def InTime (env : Env) (w : World) : Event → Prop
  | .screenshotTask i _ true => ∀ task, w.screenshotTasks[i]? = some task →
      ∃ message last, MadeFor w task.target message ∧ LastParsed w last ∧
        (parsed env last).pId = (parsed env message).pId
  | _ => True

/-! ### The tasks -/

/-- The tasks hold the pictures of their actors. -/
def TasksOk (env : Env) (w : World) : Prop := ∀ t ∈ w.screenshotTasks,
  t.imageFormat = TEXT "jpg" ∧ t.compressedData = env.compressImage (TEXT "jpg") ⟨t.target⟩

theorem tasksOk_append {l : List ScreenshotTask} {target : AActor}
    (h : ∀ t ∈ l, t.imageFormat = TEXT "jpg" ∧
      t.compressedData = env.compressImage (TEXT "jpg") ⟨t.target⟩) :
    ∀ t ∈ l ++ tasksOf env target, t.imageFormat = TEXT "jpg" ∧
      t.compressedData = env.compressImage (TEXT "jpg") ⟨t.target⟩ := by
  intro t ht
  rcases List.mem_append.mp ht with ht | ht
  · exact h t ht
  · unfold tasksOf at ht
    split_ifs at ht
    · cases ht
    · rw [List.mem_singleton.mp ht]
      exact ⟨rfl, rfl⟩

theorem tasksOk_next (h : TasksOk env w) (hn : Next env w e w') : TasksOk env w' := by
  cases next_cases hn with
  | idle | reject | accept | startTimer | removeAllLantern | ask | failed => exact h
  | spawnText | spawnImage | spawnLantern | capture => exact tasksOk_append h
  | screenshot i now saved task hi =>
    unfold runScreenshotTask
    cases saved <;> exact fun t ht => h t (List.mem_of_mem_eraseIdx ht)

/-! ### The files -/

theorem MadeFor.mono {target : AActor} {message : FString} (h : MadeFor w target message)
    (ha : w.accepted <+: w'.accepted) (hs : w.spawned <+: w'.spawned) :
    MadeFor w' target message := by
  obtain ⟨n, s, m, ht, hn, hm, hmsg⟩ := h
  exact ⟨n, s, m, ht, getElem?_of_prefix hs hn, hm, getElem?_of_prefix ha hmsg⟩

/-- Once a lantern was made for a message, some message was parsed last. -/
theorem exists_lastParsed (hb : Books env w) {target : AActor} {message : FString}
    (h : MadeFor w target message) : ∃ last, LastParsed w last := by
  obtain ⟨n, s, m, -, hn, hm, -⟩ := h
  have hlt := hb.origins s (List.mem_of_getElem? hn) m hm
  have hle := hb.requested_le
  obtain ⟨k, hk⟩ : ∃ k, w.requested = k + 1 := ⟨w.requested - 1, by omega⟩
  exact ⟨_, k, hk, List.getElem?_eq_getElem (by omega)⟩

theorem pId_of_lastParsed (hb : Books env w) {last : FString} (h : LastParsed w last) :
    w.mqttManager.pId = (parsed env last).pId := by
  obtain ⟨n, hn, hl⟩ := h
  have hf := hb.fields
  rw [hn, lastFields_succ hl] at hf
  exact congrArg Fields.pId hf

/-- **One step** keeps the files right exactly if it writes none or is in time. -/
theorem filesRight_next (hb : Books env w) (ht : TasksOk env w) (h : FilesRight env w)
    (hn : Next env w e w') : FilesRight env w' ↔ InTime env w e := by
  have hold : ∀ f ∈ w.screenshotFiles, FileRight env w' f := by
    intro f hf
    obtain ⟨ha, hs, -⟩ := grows_next hn
    obtain ⟨message, hm, hf⟩ := h f hf
    exact ⟨message, hm.mono ha hs, hf⟩
  cases next_cases hn with
  | idle | reject | accept | startTimer | removeAllLantern | ask | failed | spawnText | spawnImage |
    spawnLantern | capture => exact ⟨fun _ => trivial, fun _ => hold⟩
  | screenshot i now saved task hi =>
    cases saved with
    | false => exact ⟨fun _ => trivial, fun _ => hold⟩
    | true =>
      obtain ⟨hfmt, hdata⟩ := ht task (List.mem_of_getElem? hi)
      constructor
      · intro hr task' hi'
        cases Option.some.inj (hi.symm.trans hi')
        obtain ⟨message, hm, hname, -⟩ := hr _ (List.mem_append_right _ (List.mem_singleton_self _))
        obtain ⟨last, hl⟩ := exists_lastParsed hb hm
        refine ⟨message, last, hm, hl, ?_⟩
        have hpid : w.mqttManager.pId ++ TEXT "." ++ task.imageFormat =
            (parsed env message).pId ++ TEXT "." ++ TEXT "jpg" := hname
        rw [hfmt, List.append_left_inj, List.append_left_inj] at hpid
        rw [← pId_of_lastParsed hb hl, hpid]
      · intro hc f hf
        rcases List.mem_append.mp hf with hf | hf
        · exact hold f hf
        · obtain ⟨message, last, hm, hl, hpid⟩ := hc task hi
          rw [List.mem_singleton.mp hf]
          refine ⟨message, hm, ?_, hdata⟩
          show w.mqttManager.pId ++ TEXT "." ++ task.imageFormat = _
          rw [hfmt, pId_of_lastParsed hb hl, hpid]

/-- **The screenshots are named right exactly as long as every task runs in time.** -/
theorem files_right_iff (env : Env) (types : LanternTypes) (tr : List (World × Event)) (w : World)
    (hr : Run (Next env) (init types) tr w) :
    Always (FilesRight env) tr w ↔ Along (InTime env) tr := by
  refine hr.always_iff_along (I := fun w => Books env w ∧ TasksOk env w) (A := fun _ _ => True)
    ?_ ?_ ?_ ?_ (fun _ _ => trivial)
  · exact ⟨books_init env types, fun t ht => (by cases ht)⟩
  · exact fun f hf => (by cases hf)
  · exact fun u e u' hI _ _ hs _ => ⟨books_next hI.1 hs, tasksOk_next hI.2 hs⟩
  · exact fun u e u' hI h _ hs => filesRight_next hI.1 hI.2 h hs

/-- Two letters arrive and are taken, then the task of the first runs. -/
def lateRun : List Event :=
  [.startTimer, .onMessage [] textLetter1, .onMessage [] textLetter2, .tick 0 firstChoice,
    .tick 2 firstChoice, .tick 0 firstChoice, .screenshotTask 0 ⟨2025, 1, 1⟩ true]

theorem files_right_iff_lateRun : ∃ tr w, Run (Next sampleEnv) sampleWorld tr w ∧
    tr.map Prod.snd = lateRun ∧
    (Always (FilesRight sampleEnv) tr w ↔ Along (InTime sampleEnv) tr) := by
  obtain ⟨w, hp⟩ : ∃ w, play sampleEnv sampleWorld lateRun = some w :=
    Option.isSome_iff_exists.mp (by decide +kernel)
  obtain ⟨tr, hr, htr⟩ := run_of_play hp
  exact ⟨tr, w, hr, htr, files_right_iff sampleEnv _ tr w hr⟩

/-- **A screenshot can be named for another message**: the picture of the first lantern is written
under the pid of the second message. -/
theorem not_always_filesRight : ¬ ∀ (env : Env) (types : LanternTypes)
    (tr : List (World × Event)) (w : World), Run (Next env) (init types) tr w →
      FilesRight env w := by
  intro h
  have hp : (play sampleEnv sampleWorld lateRun).map (fun w =>
      (w.screenshotFiles.map fun f => (f.imageName, f.target), w.spawned.map Spawn.origin,
        w.accepted)) =
        some ([(TEXT "2.jpg", .lantern 0)], [some 0, some 1], [textLetter1, textLetter2]) := by
    decide +kernel
  obtain ⟨w, hw, hv⟩ := Option.map_eq_some_iff.mp hp
  simp only [Prod.mk.injEq] at hv
  obtain ⟨hfiles, hspawned, haccepted⟩ := hv
  obtain ⟨tr, hr, -⟩ := run_of_play hw
  obtain ⟨f, hf, hname⟩ := List.mem_map.mp (hfiles ▸ List.mem_singleton_self _)
  obtain ⟨message, ⟨n, s, m, ht, hn, hm, hmsg⟩, hpid, -⟩ := h sampleEnv _ tr w hr f hf
  -- the lantern on the picture is the first, made for the first message
  have hn0 : n = 0 := by
    have := ht.symm.trans (congrArg Prod.snd hname)
    simpa using this
  have hm0 : m = 0 := by
    have h0 : (w.spawned.map Spawn.origin)[n]? = some s.origin := by simp [hn]
    rw [hspawned, hn0, hm] at h0
    simpa using h0.symm
  rw [haccepted, hm0] at hmsg
  cases hmsg
  have hbad : TEXT "2.jpg" = (parsed sampleEnv textLetter1).pId ++ TEXT "." ++ TEXT "jpg" :=
    (congrArg Prod.fst hname).symm.trans hpid
  exact absurd hbad (by decide +kernel)

end LanternProject.Pipeline.Screenshot
