import LanternProject.Pipeline.Invariants

/-! # Who opens the gate again

While `bIsSpawning` is set, `Tick` takes no message. It is cleared by the start timer and by
`SpawnLantern`, which is called for a message at once or when its image request completes; but of
the ways a request completes only one calls it (`ImageResponseOk`), the others log and return. So
the gate is never closed for good (`Reopens`) exactly as long as every response is of that kind
(`reopens_iff`). -/

namespace LanternProject.Pipeline.Reopening

open LanternProject.Lib.Runs
open LanternProject.Engine.Str LanternProject.Widget.LanternWidget LanternProject.Pipeline.State
open LanternProject.Pipeline.Parse LanternProject.Pipeline.Spawn LanternProject.Pipeline.Request
open LanternProject.Pipeline.System LanternProject.Pipeline.Invariants

variable {env : Env} {w w' : World} {e : Event}

/-- While the gate is closed, something that will open it is pending. -/
def Reopens (w : World) : Prop :=
  w.lanternManager.bIsSpawning = true → w.startTimer = true ∨ w.imageRequests ≠ []

/-- If the event completes an image request, the response has a result. -/
def ResponseOk (env : Env) : Event → Prop
  | .imageResponse _ response connected _ => ImageResponseOk env response connected
  | _ => True

/-- **One step** leaves the gate to be opened exactly unless it is a response without a result. -/
theorem reopens_next (hg : Gate w) (h : Reopens w) (ho : e.Own) (hn : Next env w e w') :
    Reopens w' ↔ ResponseOk env e := by
  cases next_cases hn with
  | idle | accept | reject | capture | removeAllLantern => exact ⟨fun _ => trivial, fun _ => h⟩
  | ask deltaTime choice message log hg hm hi =>
    exact ⟨fun _ => trivial, fun _ _ => Or.inr (List.append_ne_nil_of_right_ne_nil _ (by simp))⟩
  | spawnText deltaTime choice message log lantern types lanternArray destroyed hg hm =>
    exact ⟨fun _ => trivial, fun _ hs => (by cases hs)⟩
  | startTimer ht => exact ⟨fun _ => trivial, fun _ hs => (by cases hs)⟩
  | failed i request response connected choice log hi hk =>
    refine ⟨fun hr => ?_, fun hr => absurd hr hk⟩
    -- the only request is gone, the gate still closed, the timer long over
    exfalso
    obtain ⟨hnone, hone, -⟩ := hg.one.of_answer hi
    rcases hr (hg.one.closed hi) with ht | hne
    · have hnil := (hg.timer ht).2
      rw [hone] at hnil
      cases hnil
    · exact hne hnone
  | spawnImage i request response connected choice log result lantern types lanternArray destroyed
      hi hk hr =>
    exact ⟨fun _ => hk, fun _ hs => (by cases hs)⟩
  | screenshot i now saved task hi =>
    refine ⟨fun _ => trivial, fun _ => ?_⟩
    unfold runScreenshotTask
    cases saved <;> exact h
  | spawnLantern => exact ho.elim

/-- **The gate stays to be opened exactly as long as every image request completes with a
result.** -/
theorem reopens_iff (env : Env) (types : LanternTypes) (tr : List (World × Event)) (w : World)
    (hr : Run (Next env) (init types) tr w) (ho : Along (fun _ e => e.Own) tr) :
    Always Reopens tr w ↔ Along (fun _ e => ResponseOk env e) tr :=
  hr.always_iff_along (A := fun _ e => e.Own) (gate_init types) (fun _ => Or.inl rfl)
    (fun _ _ _ hg _ ho hs _ => gate_next hg ho hs)
    (fun _ _ _ hg h ho hs => reopens_next hg h ho hs) ho

theorem reopens_iff_goodResponse : ∃ tr w, Run (Next sampleEnv) sampleWorld tr w ∧
    tr.map Prod.snd = imageRun goodResponse ∧ Always Reopens tr w := by
  obtain ⟨w, hp⟩ := exists_imageRun_good
  obtain ⟨tr, hr, htr⟩ := run_of_play hp
  refine ⟨tr, w, hr, htr, (reopens_iff sampleEnv _ tr w hr ?_).mpr ?_⟩
  · rw [along_events, htr]
    exact own_imageRun goodResponse
  · rw [along_events, htr]
    intro e he
    simp only [imageRun, List.mem_cons, List.not_mem_nil, or_false] at he
    rcases he with rfl | rfl | rfl | rfl
    · trivial
    · trivial
    · trivial
    · have hsome : (resultOf sampleEnv (some goodResponse)).isSome := by decide +kernel
      exact ⟨rfl, Option.isSome_iff_ne_none.mp hsome⟩

/-- **The gate can stay closed for good**: the response has status 00400. -/
theorem not_always_reopens : ¬ ∀ (env : Env) (types : LanternTypes) (tr : List (World × Event))
    (w : World), Run (Next env) (init types) tr w → Along (fun _ e => e.Own) tr → Reopens w := by
  intro h
  have hp : (play sampleEnv sampleWorld (imageRun badResponse)).map (fun w =>
      (w.lanternManager.bIsSpawning, w.startTimer, w.imageRequests.isEmpty)) =
        some (true, false, true) := by decide +kernel
  obtain ⟨w, hw, hv⟩ := Option.map_eq_some_iff.mp hp
  simp only [Prod.mk.injEq, List.isEmpty_iff] at hv
  obtain ⟨tr, hr, htr⟩ := run_of_play hw
  have ho : Along (fun _ e => e.Own) tr := by
    rw [along_events, htr]
    exact own_imageRun badResponse
  rcases h sampleEnv _ tr w hr ho hv.1 with ht | hne
  · rw [hv.2.1] at ht
    cases ht
  · exact hne hv.2.2

end LanternProject.Pipeline.Reopening
