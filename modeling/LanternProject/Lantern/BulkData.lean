import LanternProject.Lantern.Loading
import LanternProject.Lantern.System

/-! # Who unlocks the bulk data

`TextureFromWidget`, `Base64ToTexture2D` and `SaveData` unlock the bulk data they locked before they
return, so that it can be locked again. `LoadLantern` does not: a mip it has filled stays locked
(`locked_loadable`), and saving a lantern that it restored locks it a second time. -/

namespace LanternProject.Lantern.BulkData

open LanternProject.Lib.Runs
open LanternProject.Engine.Basic LanternProject.Engine.Str LanternProject.Engine.Vector
open LanternProject.Widget.LanternWidget LanternProject.Save.LanternSaveGame
open LanternProject.Lantern.LanternActor LanternProject.Lantern.Texture
open LanternProject.Lantern.Level LanternProject.Lantern.LanternManager
open LanternProject.Lantern.SaveData LanternProject.Lantern.Loading
open LanternProject.Lantern.System LanternProject.Lantern.Tick

variable {K : Type}

/-- The bulk data of every texture is unlocked. -/
def Unlocked (ts : Textures) : Prop := ∀ mip ∈ ts, mip.locked = false

/-- Nothing was locked while it was locked, or unlocked while it was not. -/
def LocksOk {α : Type} (x : Except Fault α) : Prop := x ≠ .error .lockStatus

/-! ### Faults -/

section Faults
variable {α β : Type} {w : World K} {ts : Textures}

theorem locksOk_ok (a : α) : LocksOk (.ok a : Except Fault α) := fun h => by cases h

theorem locksOk_bind {x : Except Fault α} {f : α → Except Fault β} (hx : LocksOk x)
    (hf : ∀ a, x = .ok a → LocksOk (f a)) : LocksOk (x >>= f) := by
  intro h
  rcases bind_error.mp h with h | ⟨a, ha, h⟩
  · exact hx h
  · exact hf a ha h

theorem locksOk_index (name : ArrayName) (l : List α) (i : ℕ) : LocksOk (index name l i) := by
  intro h
  cases (index_error.mp h).2

theorem locksOk_indexInt (name : ArrayName) (l : List α) (i : ℤ) : LocksOk (indexInt name l i) := by
  intro h
  cases (indexInt_error.mp h).2

theorem locksOk_actor (w : World K) (n : ℕ) : LocksOk (w.actor n) := by
  intro h
  cases (actor_error.mp h).2

theorem locksOk_actors (w : World K) : ∀ ns : List ℕ, LocksOk (ns.mapM w.actor)
  | [] => locksOk_ok _
  | n :: ns => by
    rw [List.mapM_cons]
    exact locksOk_bind (locksOk_actor w n) fun l _ =>
      locksOk_bind (locksOk_actors w ns) fun ls _ => locksOk_ok _

theorem locksOk_textureFromWidget (env : LanternActor.Env K) (ts : Textures) (letter : Letter)
    (drawSize : ℕ × ℕ) : LocksOk (textureFromWidget env ts letter drawSize) := by
  rw [textureFromWidget_eq]
  split_ifs
  · exact locksOk_ok _
  · exact fun h => by cases h
  · exact locksOk_ok _

theorem locksOk_base64ToTexture2D (decoders : Pipeline.State.Env) (ts : Textures)
    (base64String imageFormatString : FString) :
    LocksOk (base64ToTexture2D decoders ts base64String imageFormatString) := by
  unfold base64ToTexture2D
  split
  · exact locksOk_ok _
  · unfold createTransient
    split_ifs
    · dsimp only
      rw [lock_memcpyTo_unlock_new]
      split_ifs
      · exact locksOk_ok _
      · exact fun h => by cases h
    · exact locksOk_ok _

/-- Saving locks a texture that is unlocked. -/
theorem locksOk_saveTexture (hu : Unlocked ts) (texture : Option ℕ) :
    LocksOk (saveTexture ts texture) := by
  rcases texture with _ | t
  · exact locksOk_ok _
  · rcases hmip : ts[t]? with _ | mip
    · rw [saveTexture, hmip]
      exact fun h => by cases h
    · rw [saveTexture_eq]
      · exact locksOk_ok _
      · rintro t' ht
        obtain rfl := Option.some.inj ht
        exact ⟨mip, hmip, hu mip (List.mem_of_getElem? hmip)⟩

theorem locksOk_overlappedIndices (w : World K) : ∀ ns : List ℕ, LocksOk (overlappedIndices w ns)
  | [] => locksOk_ok _
  | n :: ns => locksOk_bind (locksOk_actor w n) fun _ _ =>
      locksOk_bind (locksOk_overlappedIndices w ns) fun _ _ => locksOk_ok _

theorem locksOk_saveData (hu : Unlocked w.textures) (n : ℕ) : LocksOk (saveData w n) := by
  refine locksOk_bind (locksOk_actor w n) fun l _ => ?_
  rcases l.material with _ | texture
  · exact fun h => by cases h
  · exact locksOk_bind (locksOk_saveTexture hu texture) fun saved _ =>
      locksOk_bind (locksOk_overlappedIndices w _) fun is _ => locksOk_ok _

theorem locksOk_setLanternArrayIndices (lanternArray : List ℕ) : ∀ (ns : List ℕ) (w : World K),
    LocksOk (setLanternArrayIndices lanternArray w ns)
  | [], _ => locksOk_ok _
  | n :: ns, w => locksOk_bind (locksOk_bind (locksOk_actor w n) fun _ _ => locksOk_ok _)
      fun w' _ => locksOk_setLanternArrayIndices lanternArray ns w'

theorem locksOk_addLanternData : ∀ (ns : List ℕ) (g : ULanternSaveGame (FLanternData K)),
    Unlocked w.textures → LocksOk (addLanternData w g ns)
  | [], _, _ => locksOk_ok _
  | n :: ns, g, hu => by
    refine locksOk_bind (locksOk_saveData hu n) fun saved hs => ?_
    -- a lantern that was saved left the level as it was
    obtain ⟨l, -, hl, -⟩ := id (saveData_ok hs)
    rw [saveData_eq hl (saveData_ok hs)] at hs
    rw [← Except.ok.inj hs]
    exact locksOk_addLanternData ns _ hu

theorem locksOk_saveLanternArray (hu : Unlocked w.textures) (g : ULanternSaveGame (FLanternData K))
    (lanternArray : List ℕ) : LocksOk (saveLanternArray w g lanternArray) := by
  refine locksOk_bind (locksOk_setLanternArrayIndices lanternArray lanternArray w) fun w' h => ?_
  rw [setLanternArrayIndices_eq lanternArray (setLanternArrayIndices_ok lanternArray h)] at h
  rw [← Except.ok.inj h]
  exact locksOk_addLanternData lanternArray g hu

variable [Field K] [LinearOrder K]

theorem locksOk_justSpawnLantern (env : LanternActor.Env K) (m : ALanternManager K) (w : World K)
    (image : Option UTexture2D) (text : FString) (choice : LanternChoice K)
    (notices : List Notice) : LocksOk (justSpawnLantern env m w image text choice notices) := by
  refine locksOk_bind (locksOk_index _ _ _) fun classes _ => locksOk_bind ?_ fun types _ =>
    locksOk_bind (locksOk_index _ _ _) fun c _ =>
      locksOk_bind (locksOk_textureFromWidget env _ _ _) fun texture _ => locksOk_ok _
  intro h
  cases justSpawnLantern_error h

theorem locksOk_spawnLantern (env : LanternActor.Env K) (m : ALanternManager K) (w : World K)
    (image : Option UTexture2D) (text : FString) (choice : LanternChoice K)
    (notices : List Notice) : LocksOk (spawnLantern env m w image text choice notices) := by
  refine locksOk_bind (locksOk_justSpawnLantern env m w image text choice notices) fun v _ =>
    locksOk_bind ?_ fun w' _ => locksOk_ok _
  unfold makeRoom
  split_ifs
  · exact locksOk_bind (locksOk_index _ _ _) fun first _ => locksOk_ok _
  · exact locksOk_ok _

/-- A load locks new textures only. -/
theorem locksOk_loadLanternData (m : ALanternManager K) (w : World K) (d : FLanternData K)
    (notices : LoadNotices) : LocksOk (loadLanternData m w d notices) := by
  refine locksOk_bind (locksOk_index _ _ _) fun classes _ =>
    locksOk_bind (locksOk_index _ _ _) fun c _ => ?_
  dsimp only
  split
  · exact fun h => by cases h
  · unfold createTransient
    split_ifs
    · dsimp only
      rw [lock_memcpyTo_new]
      split_ifs
      · exact locksOk_ok _
      · exact fun h => by cases h
    · exact fun h => by cases h

theorem locksOk_loadLanterns (m : ALanternManager K) (notices : ℕ → LoadNotices) :
    ∀ (ds : List (FLanternData K)) (w : World K) (i : ℕ), LocksOk (loadLanterns m notices w i ds)
  | [], _, _ => locksOk_ok _
  | d :: ds, w, i => locksOk_bind (locksOk_loadLanternData m w d (notices i)) fun w' _ =>
      locksOk_loadLanterns m notices ds w' (i + 1)

omit [Field K] [LinearOrder K] in
theorem locksOk_addNeighbors : ∀ (is : List ℕ) (w : World K) (i : ℕ), LocksOk (addNeighbors w i is)
  | [], _, _ => locksOk_ok _
  | _ :: is, w, i => locksOk_bind (locksOk_index _ _ _) fun lantern _ =>
      locksOk_bind (locksOk_indexInt _ _ _) fun _ _ =>
        locksOk_bind (locksOk_actor w lantern) fun _ _ => locksOk_addNeighbors is _ i

omit [Field K] [LinearOrder K] in
theorem locksOk_addAllNeighbors (ds : List (FLanternData K)) : ∀ (is : List ℕ) (w : World K),
    LocksOk (addAllNeighbors ds w is)
  | [], _ => locksOk_ok _
  | i :: is, w => locksOk_bind (locksOk_index _ _ _) fun _ _ =>
      locksOk_bind (locksOk_addNeighbors _ w i) fun w' _ => locksOk_addAllNeighbors ds is w'

theorem locksOk_loadLantern (m : ALanternManager K) (w : World K) (ds : List (FLanternData K))
    (notices : ℕ → LoadNotices) : LocksOk (loadLantern m w ds notices) :=
  locksOk_bind (locksOk_loadLanterns m notices ds w 0) fun w' _ => locksOk_addAllNeighbors ds _ w'

end Faults

/-! ### One event -/

variable [Field K] [LinearOrder K] {setting : Setting K} {s s' : State K} {e : Event K}

theorem locksOk_tickLantern (env : LanternActor.Env K) (w : World K)
    (lantern : ℕ) (deltaTime : K) (notices : TickNotices) :
    LocksOk (tickLantern env w lantern deltaTime notices) := by
  refine locksOk_bind (locksOk_bind (locksOk_actor _ _) fun l _ => ?_) fun r _ => locksOk_ok _
  dsimp only
  split_ifs
  · exact locksOk_bind (locksOk_actor _ _) fun l' _ =>
      locksOk_bind (locksOk_actors _ _) fun ls _ => locksOk_ok _
  · exact locksOk_ok _

/-- **While all textures are unlocked**, no event locks a locked one or unlocks an unlocked one. -/
theorem locksOk_step (hu : Unlocked s.world.textures) (e : Event K) : LocksOk (step setting s e) := by
  rcases e with ⟨image, text, choice, notices⟩ | _ | ⟨lantern, deltaTime, notices⟩ |
    ⟨lantern, location⟩ | p | p | ⟨letter, drawSize⟩ | ⟨base64String, imageFormatString⟩ |
    lanternArray | ⟨ds, notices⟩ | notices
  · exact locksOk_bind (locksOk_spawnLantern _ _ _ _ _ _ _) fun w _ => locksOk_ok _
  · exact locksOk_ok _
  · refine locksOk_bind ?_ fun w _ => locksOk_ok _
    exact locksOk_tickLantern setting.env s.world lantern deltaTime notices
  · exact locksOk_ok _
  · exact locksOk_ok _
  · exact locksOk_ok _
  · exact locksOk_bind (locksOk_textureFromWidget _ _ _ _) fun r _ => locksOk_ok _
  · exact locksOk_bind (locksOk_base64ToTexture2D _ _ _ _) fun r _ => locksOk_ok _
  · exact locksOk_bind (locksOk_saveLanternArray hu _ _) fun r _ => locksOk_ok _
  · exact locksOk_bind (locksOk_loadLantern _ _ _ _) fun w _ => locksOk_ok _
  · refine locksOk_bind ?_ fun r _ => locksOk_ok _
    exact locksOk_bind (locksOk_loadLantern _ _ _ _) fun w _ => locksOk_ok _

theorem unlocked_textured {ts ts' : Textures} (hu : Unlocked ts) (h : Textured ts ts') :
    Unlocked ts' := by
  rcases h with rfl | ⟨mip, hmip, rfl⟩
  · exact hu
  · intro mip' hmem
    rcases List.mem_append.mp hmem with hmem | hmem
    · exact hu mip' hmem
    · rw [List.mem_singleton.mp hmem]
      exact hmip

omit [Field K] [LinearOrder K] in
/-- The mip a record is loaded into stays locked. -/
theorem locked_loadable {m : ALanternManager K} (r : Loadable m) : r.mip.locked = true := by
  obtain ⟨sizeX, sizeY, -, -, hmip⟩ := mipOf_eq_some.mp r.mip_eq
  rw [hmip]
  rfl

/-- **A load** leaves the textures unlocked exactly if it loads nothing. -/
theorem unlocked_loadLantern {m : ALanternManager K} {w w' : World K} {ds : List (FLanternData K)}
    {notices : ℕ → LoadNotices} (hu : Unlocked w.textures)
    (h : loadLantern m w ds notices = .ok w') : Unlocked w'.textures ↔ ds = [] := by
  obtain ⟨rs, rfl, hrs⟩ := loadLantern_ok h
  rw [hrs.textures, textures_restoredAll, List.map_eq_nil_iff]
  constructor
  · intro hall
    rcases rs with _ | ⟨r, rs⟩
    · rfl
    · have hlocked := hall r.mip (List.mem_append_right _ List.mem_cons_self)
      rw [locked_loadable r] at hlocked
      cases hlocked
  · rintro rfl
    rw [List.map_nil, List.append_nil]
    exact hu

/-- The event restores no lantern. -/
def RestoresNone (s : State K) : Event K → Prop
  | .loadLantern lanternDataArray _ => lanternDataArray = []
  | .loadLanternArray _ => s.saveGame.lanternDataArray = []
  | _ => True

/-- What `JustSpawnLantern` does to the textures. -/
theorem textured_justSpawnLantern {env : LanternActor.Env K} {m : ALanternManager K}
    {w w' : World K} {image : Option UTexture2D} {text : FString} {choice : LanternChoice K}
    {notices : List Notice} {n : ℕ}
    (hj : justSpawnLantern env m w image text choice notices = .ok (w', n)) :
    Textured w.textures w'.textures := by
  obtain ⟨-, classes, c, types, letter, textures, texture, v, -, -, hv, htex, rfl⟩ :=
    justSpawnLantern_ok hj
  have hsame : v.textures = w.textures := by
    rw [hv]
    exact (onlyNeighbors_foldl onlyNeighbors_notify notices _).textures
  rw [hsame] at htex
  rcases textureFromWidget_ok htex with ⟨-, hts⟩ | ⟨mip, -, hmip, hts⟩
  · exact Or.inl hts
  · exact Or.inr ⟨mip, hmip, hts⟩

omit [Field K] [LinearOrder K] in
theorem textures_kept (w : World K) (n : ℕ) : (kept w n).textures = w.textures := by
  unfold kept
  split_ifs
  · exact textures_destroy w _
  · rfl

/-- **One step** leaves the textures unlocked exactly if it restores no lantern. -/
theorem unlocked_next (hu : Unlocked s.world.textures) (hs : Next setting s e s') :
    Unlocked s'.world.textures ↔ RestoresNone s e := by
  by_cases hl : e.LoadsNone
  · have hnone : RestoresNone s e := by
      rcases e with _ | _ | _ | _ | _ | _ | _ | _ | _ | _ | _ <;> trivial
    refine ⟨fun _ => hnone, fun _ => ?_⟩
    rcases next_cases hl hs with ⟨image, text, choice, notices, w, n, hj⟩ | _ |
      ⟨_, lantern, told, w, he, hm⟩ | p | p | ⟨_, ts, he, ht⟩ | ⟨lanternArray, records⟩
    · show Unlocked (kept w n).textures
      rw [textures_kept]
      exact unlocked_textured hu (textured_justSpawnLantern hj)
    · show Unlocked (s.world.lanternArray.foldl destroy s.world).textures
      rw [textures_destroyAll]
      exact hu
    · show Unlocked w.textures
      rw [hm.same.textures]
      exact hu
    · show Unlocked (beginOverlap s.world p).textures
      rw [(onlyNeighbors_beginOverlap s.world p).textures]
      exact hu
    · exact hu
    · exact unlocked_textured hu ht
    · exact hu
  · rcases e with _ | _ | _ | _ | _ | _ | _ | _ | _ | ⟨ds, notices⟩ | notices
    case loadLantern =>
      obtain ⟨w, hw, h⟩ := bind_ok.mp hs
      rw [← Except.ok.inj h]
      exact unlocked_loadLantern hu hw
    case loadLanternArray =>
      obtain ⟨r, hr, h⟩ := bind_ok.mp hs
      obtain ⟨w, hw, hr⟩ := bind_ok.mp hr
      rw [← Except.ok.inj h, ← Except.ok.inj hr]
      exact unlocked_loadLantern hu hw
    all_goals exact absurd trivial hl

/-! ### Over a run -/

/-- Every texture is unlocked between two operations, and none of these locks a locked one or
unlocks an unlocked one. -/
def Disciplined (setting : Setting K) (s : State K) : Prop :=
  Unlocked s.world.textures ∧ ∀ e, LocksOk (step setting s e)

theorem disciplined_iff : Disciplined setting s ↔ Unlocked s.world.textures :=
  ⟨fun h => h.1, fun h => ⟨h, locksOk_step h⟩⟩

theorem unlocked_beginPlay {assets : List WidgetAsset} {choice : LanternChoice K}
    {notices : List Notice} (h : beginPlay setting assets choice notices = .ok s) :
    Unlocked s.world.textures := by
  obtain ⟨w, hw, h⟩ := bind_ok.mp h
  obtain ⟨⟨v, n⟩, hj, hd⟩ := bind_ok.mp hw
  rw [← Except.ok.inj h, ← Except.ok.inj hd]
  show Unlocked (destroy v n).textures
  rw [textures_destroy]
  exact unlocked_textured (fun mip hmip => absurd hmip (by simp [emptyLevel]))
    (textured_justSpawnLantern hj)

/-- **The lock discipline holds exactly as long as no lantern is restored**, whatever the save object
holds at first. -/
theorem disciplined_iff_restores_none (setting : Setting K) (assets : List WidgetAsset)
    (choice : LanternChoice K) (notices : List Notice) (s₀ : State K)
    (g : ULanternSaveGame (FLanternData K)) (tr : List (State K × Event K)) (s : State K)
    (h₀ : beginPlay setting assets choice notices = .ok s₀)
    (hr : Run (Next setting) { s₀ with saveGame := g } tr s) :
    Always (Disciplined setting) tr s ↔ Along RestoresNone tr := by
  have hstart : Disciplined setting { s₀ with saveGame := g } :=
    disciplined_iff.mpr (unlocked_beginPlay h₀ : Unlocked s₀.world.textures)
  refine hr.always_iff_along (I := fun _ => True) (A := fun _ _ => True) trivial hstart
    (fun _ _ _ _ _ _ _ _ => trivial) (fun s e t _ hP _ hs => ?_) fun _ _ => trivial
  rw [disciplined_iff]
  exact unlocked_next (disciplined_iff.mp hP) hs

/-- A lantern is spawned, saved and removed, -/
def sampleSaved : List (Event ℚ) := [sampleSpawn, sampleSave, .removeAllLantern]

theorem disciplined_iff_restores_none_save : ∃ s₀ tr s,
    Run (Next sampleSetting) s₀ tr s ∧ tr.map Prod.snd = sampleSaved ∧
    Always (Disciplined sampleSetting) tr s := by
  obtain ⟨s, hp⟩ : ∃ s, playFromStart sampleSaved = some s :=
    Option.isSome_iff_exists.mp (by decide +kernel)
  obtain ⟨s₀, tr, h₀, hr, htr⟩ := run_of_playFromStart hp
  refine ⟨s₀, tr, s, hr, htr, (disciplined_iff_restores_none sampleSetting _ _ _ s₀ s₀.saveGame tr s
    h₀ hr).mpr fun p hp => ?_⟩
  have he : p.2 ∈ sampleSaved := htr ▸ List.mem_map_of_mem hp
  rcases p with ⟨u, e⟩
  simp only [sampleSaved, List.mem_cons, List.not_mem_nil, or_false] at he
  rcases he with rfl | rfl | rfl
  · trivial
  · trivial
  · trivial

/-- and restored. -/
def sampleRestore : List (Event ℚ) := sampleSaved ++ [.loadLanternArray fun _ => ⟨[], []⟩]

/-- The restored lantern cannot be saved again. -/
theorem restored_not_disciplined : ∃ s₀ tr s,
    beginPlay sampleSetting sampleAssets sampleChoice [] = .ok s₀ ∧
    Run (Next sampleSetting) s₀ tr s ∧ tr.map Prod.snd = sampleRestore ∧
    s.world.lanternArray = [2] ∧ ¬ Disciplined sampleSetting s ∧
    (saveLanternArray s.world s.saveGame [2]).isOk = false := by
  have hplayed : (playFromStart sampleRestore).map (fun s => (s.world.lanternArray,
      s.world.textures.map (·.locked), (saveLanternArray s.world s.saveGame [2]).isOk)) =
      some ([2], [false, false, true], false) := by decide +kernel
  obtain ⟨s, hs, hvalues⟩ := Option.map_eq_some_iff.mp hplayed
  obtain ⟨s₀, tr, h₀, hr, htr⟩ := run_of_playFromStart hs
  obtain ⟨harray, hrest⟩ := Prod.mk.inj hvalues
  obtain ⟨hlocked, hfault⟩ := Prod.mk.inj hrest
  refine ⟨s₀, tr, s, h₀, hr, htr, harray, fun hd => ?_, hfault⟩
  have hall : ∀ b ∈ s.world.textures.map (·.locked), b = false := by
    intro b hb
    obtain ⟨mip, hmip, rfl⟩ := List.mem_map.mp hb
    exact hd.1 mip hmip
  rw [hlocked] at hall
  exact absurd (hall true (by decide)) (by decide)

end LanternProject.Lantern.BulkData
