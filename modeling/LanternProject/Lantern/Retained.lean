import LanternProject.Lib.Recent
import LanternProject.Lantern.System

/-! # Which lanterns are kept

`LanternArray` holds the last 500 lanterns that `SpawnLantern` spawned since the last
`RemoveAllLantern` (`spawnedSince`), in this order, and a lantern is alive exactly as long as it is
in the array (`Kept`): every other one, the one of `BeginPlay` included, has been destroyed. -/

namespace LanternProject.Lantern.Retained

open LanternProject.Lib.Runs LanternProject.Lib.Recent
open LanternProject.Engine.Basic LanternProject.Engine.Str LanternProject.Engine.Vector
open LanternProject.Widget.LanternWidget
open LanternProject.Lantern.LanternActor LanternProject.Lantern.Texture
open LanternProject.Lantern.Level LanternProject.Lantern.LanternManager
open LanternProject.Lantern.SaveData LanternProject.Lantern.System

variable {K : Type} [Field K] [LinearOrder K]

/-- The lanterns spawned since they were last removed, after one more step. -/
def sinceStep (ns : List ℕ) (p : State K × Event K) : List ℕ :=
  match p.2 with
  | .spawnLantern _ _ _ _ => ns ++ [p.1.world.lanterns.length]
  | .removeAllLantern => []
  | _ => ns

/-- The lanterns that `SpawnLantern` spawned since the last `RemoveAllLantern`, in this order. -/
def spawnedSince (tr : List (State K × Event K)) : List ℕ := tr.foldl sinceStep []

/-- The array holds the last 500 of `ns`, and exactly these are alive. -/
structure Kept (w : World K) (ns : List ℕ) : Prop where
  array : w.lanternArray = ns.rtake 500
  nodup : ns.Nodup
  lt : ∀ n ∈ ns, n < w.lanterns.length
  alive : ∀ n, aliveAt w n = some true ↔ n ∈ w.lanternArray

variable {w w' : World K} {ns : List ℕ} {setting : Setting K} {s s' : State K} {e : Event K}

omit [Field K] [LinearOrder K] in
theorem Kept.array_nodup (h : Kept w ns) : w.lanternArray.Nodup := by
  rw [h.array]
  exact (rtake_suffix 500 ns).sublist.nodup h.nodup

omit [Field K] [LinearOrder K] in
/-- What leaves the array and the lanterns' lives alone keeps this. -/
theorem kept_same (h : Kept w ns) (harray : w'.lanternArray = w.lanternArray)
    (hlen : w'.lanterns.length = w.lanterns.length) (halive : ∀ n, aliveAt w' n = aliveAt w n) :
    Kept w' ns := by
  refine ⟨harray.trans h.array, h.nodup, fun n hn => ?_, fun n => ?_⟩
  · rw [hlen]
    exact h.lt n hn
  · rw [halive, harray]
    exact h.alive n

/-- What `JustSpawnLantern` leaves: one more lantern, alive. -/
theorem aliveAt_justSpawnLantern {env : LanternActor.Env K} {m : ALanternManager K}
    {image : Option UTexture2D} {text : FString} {choice : LanternChoice K}
    {notices : List Notice} {n : ℕ}
    (hj : justSpawnLantern env m w image text choice notices = .ok (w', n)) :
    n = w.lanterns.length ∧ w'.lanternArray = w.lanternArray ∧
      w'.lanterns.length = w.lanterns.length + 1 ∧
      ∀ k, aliveAt w' k = if k = n then some true else aliveAt w k := by
  obtain ⟨hn, classes, lanternClass, types, letter, textures, texture, v, -, -, hv, -, rfl⟩ :=
    justSpawnLantern_ok hj
  have hnotified : OnlyNeighbors (placed m w types lanternClass) v :=
    hv ▸ onlyNeighbors_foldl onlyNeighbors_notify notices _
  refine ⟨hn, hnotified.lanternArray, ?_, fun k => ?_⟩
  · rw [length_modify]
    show v.lanterns.length = _
    rw [hnotified.length]
    simp [placed]
  · rw [aliveAt_modify _ _ _ (alive_outfitted m _ _ _ _ _)]
    show aliveAt v k = _
    rw [hnotified.aliveAt, hn, aliveAt_placed]

omit [Field K] [LinearOrder K] in
theorem lanternArray_kept (w : World K) (n : ℕ) :
    (kept w n).lanternArray = push 500 w.lanternArray n := by
  unfold kept push
  split_ifs <;> rfl

omit [Field K] [LinearOrder K] in
theorem length_kept (w : World K) (n : ℕ) : (kept w n).lanterns.length = w.lanterns.length := by
  unfold kept
  split_ifs
  · exact length_destroy w _
  · rfl

omit [Field K] [LinearOrder K] in
theorem types_kept (w : World K) (n : ℕ) : (kept w n).types = w.types := by
  unfold kept
  split_ifs
  · exact types_destroy w _
  · rfl

omit [Field K] [LinearOrder K] in
/-- If the array is full its first lantern is destroyed, and no other. -/
theorem aliveAt_kept (w : World K) (n k : ℕ) :
    aliveAt (kept w n) k = some true ↔
      aliveAt w k = some true ∧ ¬ (w.lanternArray.length = 500 ∧ w.lanternArray.head? = some k) := by
  unfold kept
  split_ifs with h500
  · have hhead : w.lanternArray.head? = some k ↔ k = w.lanternArray.headD 0 := by
      rcases harray : w.lanternArray with _ | ⟨first, rest⟩
      · rw [harray] at h500
        exact absurd h500 (by norm_num)
      · rw [List.head?_cons, List.headD_cons, Option.some.injEq, eq_comm]
    show aliveAt (destroy w _) k = some true ↔ _
    rw [aliveAt_destroy, hhead]
    by_cases hk : k = w.lanternArray.headD 0
    · rw [if_pos hk]
      constructor
      · intro he
        obtain ⟨_, -, hfalse⟩ := Option.map_eq_some_iff.mp he
        exact absurd hfalse (by decide)
      · rintro ⟨-, hnot⟩
        exact absurd ⟨h500, hk⟩ hnot
    · rw [if_neg hk]
      exact ⟨fun ha => ⟨ha, fun hnot => hk hnot.2⟩, And.left⟩
  · exact ⟨fun ha => ⟨ha, fun hnot => h500 hnot.1⟩, And.left⟩

/-- **Spawning** keeps the last 500. -/
theorem kept_spawn {env : LanternActor.Env K} {m : ALanternManager K}
    {image : Option UTexture2D} {text : FString} {choice : LanternChoice K}
    {notices : List Notice} {n : ℕ} (h : Kept w ns)
    (hj : justSpawnLantern env m w image text choice notices = .ok (w', n)) :
    Kept (kept w' n) (ns ++ [w.lanterns.length]) := by
  obtain ⟨rfl, harray, hlen, halive⟩ := aliveAt_justSpawnLantern hj
  have hnot : w.lanterns.length ∉ ns := fun hmem => absurd (h.lt _ hmem) (lt_irrefl _)
  have hnot' : w.lanterns.length ∉ w.lanternArray := by
    rw [h.array]
    exact fun hmem => hnot ((rtake_suffix 500 ns).subset hmem)
  refine ⟨?_, ?_, fun k hk => ?_, fun k => ?_⟩
  · rw [lanternArray_kept, harray, h.array, push_rtake (by norm_num)]
  · rw [List.nodup_append]
    refine ⟨h.nodup, List.nodup_singleton _, fun a ha b hb he => ?_⟩
    rw [List.mem_singleton.mp hb] at he
    exact hnot (he ▸ ha)
  · rw [length_kept, hlen]
    rcases List.mem_append.mp hk with hk | hk
    · have := h.lt k hk
      omega
    · rw [List.mem_singleton.mp hk]
      omega
  · rw [aliveAt_kept, lanternArray_kept, harray, mem_push_iff h.array_nodup hnot', halive]
    refine and_congr_left fun _ => ?_
    by_cases hk : k = w.lanterns.length
    · rw [if_pos hk]
      exact ⟨fun _ => Or.inr hk, fun _ => rfl⟩
    · rw [if_neg hk, h.alive]
      exact ⟨Or.inl, fun hmem => hmem.resolve_right hk⟩

omit [Field K] [LinearOrder K] in
/-- **Removing** destroys all of them. -/
theorem kept_removeAll (h : Kept w ns) : Kept (removeAllLantern w) [] := by
  refine ⟨rfl, List.nodup_nil, fun n hn => absurd hn (by simp), fun n => ?_⟩
  show aliveAt (w.lanternArray.foldl destroy w) n = some true ↔ n ∈ []
  rw [aliveAt_destroyAll]
  split_ifs with hn
  · simp
  · rw [h.alive]
    simp [hn]

omit [Field K] [LinearOrder K] in
theorem aliveAt_indexed (lanternArray ms : List ℕ) (w : World K) (n : ℕ) :
    aliveAt (indexed lanternArray ms w) n = aliveAt w n :=
  map_getElem?_indexed (fun _ _ => rfl) lanternArray ms w n

/-- **One step** keeps the last 500 lanterns. -/
theorem kept_next (h : Kept s.world ns) (hl : e.LoadsNone) (hs : Next setting s e s') :
    Kept s'.world (sinceStep ns (s, e)) := by
  rcases next_cases hl hs with ⟨image, text, choice, notices, w, n, hj⟩ | _ |
    ⟨_, lantern, told, w, he, hm⟩ | p | p | ⟨_, ts, he, -⟩ | ⟨lanternArray, records⟩
  · exact kept_spawn h hj
  · exact kept_removeAll h
  · have hsince : sinceStep ns (s, e) = ns := by
      rcases he with ⟨deltaTime, notices, rfl, -⟩ | ⟨location, rfl, -⟩ <;> rfl
    rw [hsince]
    exact kept_same h hm.same.lanternArray hm.same.length hm.same.alive
  · have hp := onlyNeighbors_beginOverlap s.world p
    exact kept_same h hp.lanternArray hp.length hp.aliveAt
  · have hp := onlyNeighbors_endOverlap s.world p
    exact kept_same h hp.lanternArray hp.length hp.aliveAt
  · have hsince : sinceStep ns (s, e) = ns := by
      rcases he with ⟨letter, drawSize, rfl⟩ | ⟨base64String, imageFormatString, rfl⟩ <;> rfl
    rw [hsince]
    exact kept_same h rfl rfl fun _ => rfl
  · exact kept_same h rfl (length_indexed _ _ _) (aliveAt_indexed _ _ _)

/-- After `BeginPlay` its lantern is destroyed. -/
theorem kept_beginPlay {assets : List WidgetAsset} {choice : LanternChoice K}
    {notices : List Notice} (h : beginPlay setting assets choice notices = .ok s) :
    Kept s.world [] := by
  obtain ⟨w, hw, h⟩ := bind_ok.mp h
  obtain ⟨⟨v, n⟩, hj, hd⟩ := bind_ok.mp hw
  obtain ⟨hn, harray, hlen, halive⟩ := aliveAt_justSpawnLantern hj
  rw [← Except.ok.inj h, ← Except.ok.inj hd]
  refine ⟨?_, List.nodup_nil, fun k hk => absurd hk (by simp), fun k => ?_⟩
  · show (destroy v n).lanternArray = _
    rw [lanternArray_destroy, harray]
    rfl
  · show aliveAt (destroy v n) k = some true ↔ k ∈ (destroy v n).lanternArray
    have hnone : aliveAt (emptyLevel assets : World K) k = none := rfl
    rw [aliveAt_destroy, lanternArray_destroy, harray, halive, hnone]
    by_cases hk : k = n
    · simp [hk, emptyLevel]
    · simp [hk, emptyLevel]

/-- The same over a run. -/
theorem kept_run {s₀ : State K} {tr : List (State K × Event K)} (h₀ : Kept s₀.world [])
    (hr : Run (Next setting) s₀ tr s) (hl : Along (fun _ e => e.LoadsNone) tr) :
    Kept s.world (spawnedSince tr) := by
  induction hr with
  | nil => exact h₀
  | snoc _ hs ih =>
    obtain ⟨hl, he⟩ := along_snoc.mp hl
    have hstep := kept_next (ih hl) he hs
    rw [spawnedSince, List.foldl_append]
    exact hstep

/-- **The last 500 lanterns are kept.** After `BeginPlay`, as long as none are loaded, the array holds
in spawn order the last 500, or all if there are fewer, of the lanterns that `SpawnLantern` spawned
since the last `RemoveAllLantern`; it has no duplicates; the lanterns in it are alive, and all others
ever spawned are destroyed. -/
theorem keeps_last_500 (setting : Setting K) (assets : List WidgetAsset) (choice : LanternChoice K)
    (notices : List Notice) (s₀ : State K) (tr : List (State K × Event K)) (s : State K)
    (h₀ : beginPlay setting assets choice notices = .ok s₀) (hr : Run (Next setting) s₀ tr s)
    (hl : Along (fun _ e => e.LoadsNone) tr) :
    s.world.lanternArray = (spawnedSince tr).rtake 500 ∧
      s.world.lanternArray.length = min (spawnedSince tr).length 500 ∧
      s.world.lanternArray.Nodup ∧
      (∀ n ∈ s.world.lanternArray, ∃ l, s.world.lanterns[n]? = some l ∧ l.alive = true) ∧
      ∀ (n : ℕ) (l : ALanternActor K), s.world.lanterns[n]? = some l →
        n ∉ s.world.lanternArray → l.alive = false := by
  have hk := kept_run (kept_beginPlay h₀) hr hl
  refine ⟨hk.array, ?_, hk.array_nodup, fun n hn => ?_, fun n l hnl hn => ?_⟩
  · rw [hk.array, length_rtake, min_comm]
  · exact Option.map_eq_some_iff.mp ((hk.alive n).mpr hn)
  · by_contra halive
    refine hn ((hk.alive n).mp ?_)
    rw [aliveAt, hnl, Option.map_some, Option.some.injEq]
    simpa using halive

/-- The lantern of the sample setting can always be spawned once more. -/
theorem next_sampleSpawn {s : State ℚ} (h : s.world.types.widgets.length = 1) :
    ∃ t, Next sampleSetting s sampleSpawn t ∧ t.world.types.widgets.length = 1 ∧
      t.world.lanterns.length = s.world.lanterns.length + 1 := by
  obtain ⟨v, n, hj, htypes⟩ : ∃ v n, justSpawnLantern sampleEngine sampleManager s.world none
      (TEXT "A") sampleChoice [] = .ok (v, n) ∧
      v.types.widgets.length = s.world.types.widgets.length :=
    justSpawnLantern_total rfl rfl (h ▸ Nat.one_pos) (fun _ => le_refl 4) none _ []
  have hs : spawnLantern sampleEngine sampleManager s.world none (TEXT "A") sampleChoice [] =
      .ok (kept v n) := by
    rw [spawnLantern_eq, hj]
    rfl
  obtain ⟨-, -, hlen, -⟩ := aliveAt_justSpawnLantern hj
  refine ⟨{ s with world := kept v n }, bind_ok.mpr ⟨_, hs, rfl⟩, ?_, ?_⟩
  · show (kept v n).types.widgets.length = 1
    rw [types_kept, htypes, h]
  · show (kept v n).lanterns.length = _
    rw [length_kept, hlen]

/-- Two lanterns are removed and then `n` are spawned. -/
theorem exists_run_spawns (n : ℕ) : ∃ s₀ tr s,
    beginPlay sampleSetting sampleAssets sampleChoice [] = .ok s₀ ∧
    Run (Next sampleSetting) s₀ tr s ∧ tr.map Prod.snd =
      [sampleSpawn, sampleSpawn, .removeAllLantern] ++ List.replicate n sampleSpawn ∧
    spawnedSince tr = List.range' 3 n ∧
    s.world.types.widgets.length = 1 ∧ s.world.lanterns.length = 3 + n := by
  induction n with
  | zero =>
    have hplayed : (playFromStart [sampleSpawn, sampleSpawn]).map (fun s =>
        ((removeAllLantern s.world).types.widgets.length,
          (removeAllLantern s.world).lanterns.length)) = some (1, 3) := by
      decide +kernel
    obtain ⟨s, hp, hvalues⟩ := Option.map_eq_some_iff.mp hplayed
    obtain ⟨hw, hl⟩ := Prod.mk.inj hvalues
    obtain ⟨s₀, tr, h₀, hr, htr⟩ := run_of_playFromStart hp
    have hs : Next sampleSetting s .removeAllLantern { s with world := removeAllLantern s.world } :=
      rfl
    refine ⟨s₀, tr ++ [(s, .removeAllLantern)], _, h₀, hr.snoc hs, ?_, ?_, hw, hl⟩
    · rw [List.map_append, htr]
      rfl
    · rw [spawnedSince, List.foldl_append]
      rfl
  | succ n ih =>
    obtain ⟨s₀, tr, s, h₀, hr, htr, hsince, hw, hl⟩ := ih
    obtain ⟨t, hs, hw', hl'⟩ := next_sampleSpawn hw
    refine ⟨s₀, tr ++ [(s, sampleSpawn)], t, h₀, hr.snoc hs, ?_, ?_, hw', by omega⟩
    · rw [List.map_append, htr, List.replicate_succ', List.append_assoc]
      rfl
    · rw [spawnedSince, List.foldl_append, ← spawnedSince, hsince, List.range'_1_concat, ← hl]
      rfl

/-- Of 501 lanterns spawned after a removal the first is evicted. -/
theorem keeps_last_500_evicted : ∃ s₀ tr s, Run (Next sampleSetting) s₀ tr s ∧ tr.map Prod.snd =
      [sampleSpawn, sampleSpawn, .removeAllLantern] ++ List.replicate 501 sampleSpawn ∧
    s.world.lanternArray = List.range' 4 500 ∧
    ∀ l, s.world.lanterns[3]? = some l → l.alive = false := by
  obtain ⟨s₀, tr, s, h₀, hr, htr, hsince, -⟩ := exists_run_spawns 501
  have hl : Along (fun _ e => e.LoadsNone) tr := by
    rw [along_events, htr]
    intro e he
    rcases List.mem_append.mp he with he | he
    · simp only [List.mem_cons, List.not_mem_nil, or_false] at he
      rcases he with rfl | rfl | rfl <;> trivial
    · rw [List.eq_of_mem_replicate he]
      trivial
  obtain ⟨harray, -, -, -, hdead⟩ := keeps_last_500 sampleSetting _ _ _ s₀ tr s h₀ hr hl
  have hkept : s.world.lanternArray = List.range' 4 500 := by
    rw [harray, hsince, List.rtake, List.length_range', List.drop_range']
  refine ⟨s₀, tr, s, hr, htr, hkept, fun l hl => hdead 3 l hl ?_⟩
  rw [hkept, List.mem_range'_1]
  omega

end LanternProject.Lantern.Retained
