import LanternProject.Lantern.System

/-! # What the save object holds

`SaveLanternArray` appends to the records that are there, and only a load empties them. So the records
are those of the saved lanterns (`Describes`) only if there were none before, and a second save in a
row appends every record again. -/

namespace LanternProject.Lantern.Saved

open LanternProject.Lib.Runs
open LanternProject.Engine.Basic LanternProject.Save.LanternSaveGame
open LanternProject.Lantern.LanternActor LanternProject.Lantern.Texture
open LanternProject.Lantern.Level LanternProject.Lantern.LanternManager
open LanternProject.Lantern.SaveData LanternProject.Lantern.System

variable {K : Type}

/-- The record is that of the lantern, and names its neighbours by their places. -/
def Describes (w : World K) (lanternArray : List ℕ) (lantern : ℕ) (lanternData : FLanternData K) :
    Prop :=
  ∃ l, w.lanterns[lantern]? = some l ∧
    lanternData = { recordOf w l with
      overlappedLanternIndexArray := lanternData.overlappedLanternIndexArray } ∧
    lanternData.overlappedLanternIndexArray.map (fun k => lanternArray[k]?) =
      l.neighborArray.map some

/-- The neighbours of a lantern of the array are in the array. -/
def NeighborsListed (w : World K) (lanternArray : List ℕ) : Prop :=
  ∀ n ∈ lanternArray, ∀ o ∈ neighbors w n, o ∈ lanternArray

variable {w w' : World K} {g g' : ULanternSaveGame (FLanternData K)} {lanternArray : TArray ℕ}

/-- **After a save** the records describe the saved lanterns exactly if there were none before, and
the neighbours of these lanterns were saved as well. -/
theorem describes_iff (h : saveLanternArray w g lanternArray.elems = .ok (w', g')) :
    List.Forall₂ (Describes w lanternArray.elems) lanternArray.elems g'.lanternDataArray ↔
      g.lanternDataArray = [] ∧ NeighborsListed w lanternArray.elems := by
  obtain ⟨hs, rfl, records, hrec, rfl⟩ := saveLanternArray_cases h
  have hlen : lanternArray.elems.length = records.length := hrec.length_eq
  constructor
  · intro hall
    have hnone : g.lanternDataArray = [] := by
      have htotal := hall.length_eq
      rw [List.length_append] at htotal
      exact List.length_eq_zero_iff.mp (by omega)
    refine ⟨hnone, fun n hn o ho => ?_⟩
    obtain ⟨i, hi, rfl⟩ := List.getElem_of_mem hn
    have hi' : i < (g.lanternDataArray ++ records).length := by
      rw [hnone, List.nil_append]
      omega
    obtain ⟨l, hl, -, hindices⟩ := hall.get hi hi'
    rw [List.get_eq_getElem] at hl
    rw [neighbors_of_getElem? hl] at ho
    -- the place recorded for the neighbour is one of the array
    have hmem : some o ∈ l.neighborArray.map some := List.mem_map_of_mem ho
    rw [← hindices] at hmem
    obtain ⟨k, -, hk⟩ := List.mem_map.mp hmem
    exact List.mem_of_getElem? hk
  · rintro ⟨hnone, hlisted⟩
    show List.Forall₂ _ _ (g.lanternDataArray ++ records)
    rw [hnone, List.nil_append]
    refine (List.forall₂_iff_zip.mpr ⟨hlen, fun {n d} hnd => ?_⟩)
    have hn : n ∈ lanternArray.elems := (List.of_mem_zip hnd).1
    obtain ⟨l, hl, rfl⟩ := isRecord_indexed ((List.forall₂_iff_zip.mp hrec).2 hnd)
    have hin : ∀ o ∈ l.neighborArray, o ∈ lanternArray.elems ∧ o < w.lanterns.length := by
      intro o ho
      refine ⟨hlisted n hn o (by rwa [neighbors_of_getElem? hl]), ?_⟩
      obtain ⟨l', texture, hl', -, -, hlt⟩ := hs n hn
      rw [Option.some.inj (hl.symm.trans hl')] at ho
      exact hlt o ho
    refine ⟨l, hl, rfl, ?_⟩
    rw [overlapped_recordOf lanternArray.num_lt hin]
    exact getElem?_idxOf_map fun o ho => (hin o ho).1

/-- **A second save** appends as many records as the first. -/
theorem save_again (h : saveLanternArray w g lanternArray.elems = .ok (w', g')) :
    ∃ w'' g'', saveLanternArray w' g' lanternArray.elems = .ok (w'', g'') ∧
      g''.lanternDataArray.length = g'.lanternDataArray.length + lanternArray.elems.length := by
  obtain ⟨hs, rfl, records, -, rfl⟩ := saveLanternArray_cases h
  obtain ⟨again, hagain, heq⟩ := saveLanternArray_eq
    (w := indexed lanternArray.elems lanternArray.elems w)
    { g with lanternDataArray := g.lanternDataArray ++ records }
    fun n hn => (saveable_indexed lanternArray.elems n).mpr (hs n hn)
  exact ⟨_, _, heq, by rw [List.length_append, ← hagain.length_eq]⟩

/-! ### Along a run -/

variable [Field K] [LinearOrder K] {setting : Setting K} {s t : State K} {e : Event K}

/-- If the event saves lanterns, the records describe these lanterns and no others afterwards. -/
def SavesExactly (setting : Setting K) (s : State K) (e : Event K) : Prop :=
  match e with
  | .saveLanternArray lanternArray => ∀ t, Next setting s e t →
    List.Forall₂ (Describes s.world lanternArray.elems) lanternArray.elems t.saveGame.lanternDataArray
  | _ => True

/-- If the event saves lanterns, the same save right after it would not change the records. -/
def SavesOnce (setting : Setting K) (s : State K) (e : Event K) : Prop :=
  match e with
  | .saveLanternArray _ => ∀ t u, Next setting s e t → Next setting t e u →
    u.saveGame.lanternDataArray = t.saveGame.lanternDataArray
  | _ => True

/-- If the event saves lanterns, there are no records yet, and their neighbours are saved too. -/
def SavesAfresh (s : State K) : Event K → Prop
  | .saveLanternArray lanternArray =>
    s.saveGame.lanternDataArray = [] ∧ NeighborsListed s.world lanternArray.elems
  | _ => True

/-- The event saves no lantern. -/
def SavesNone : Event K → Prop
  | .saveLanternArray lanternArray => lanternArray.elems = []
  | _ => True

theorem next_saveLanternArray {lanternArray : TArray ℕ} :
    Next setting s (.saveLanternArray lanternArray) t ↔
      saveLanternArray s.world s.saveGame lanternArray.elems = .ok (t.world, t.saveGame) := by
  unfold Next step
  rw [bind_ok]
  constructor
  · rintro ⟨⟨w, g⟩, hs, ht⟩
    rw [← Except.ok.inj ht]
    exact hs
  · intro hs
    exact ⟨(t.world, t.saveGame), hs, rfl⟩

theorem savesExactly_iff (hs : Next setting s e t) : SavesExactly setting s e ↔ SavesAfresh s e := by
  rcases e with _ | _ | _ | _ | _ | _ | _ | _ | lanternArray | _ | _
  case saveLanternArray =>
    have hsave := next_saveLanternArray.mp hs
    constructor
    · intro h
      exact (describes_iff hsave).mp (h t hs)
    · intro h t' ht'
      exact (describes_iff (next_saveLanternArray.mp ht')).mpr h
  all_goals exact Iff.rfl

theorem savesOnce_iff (hs : Next setting s e t) : SavesOnce setting s e ↔ SavesNone e := by
  rcases e with _ | _ | _ | _ | _ | _ | _ | _ | lanternArray | _ | _
  case saveLanternArray =>
    obtain ⟨w, g, hagain, hlen⟩ := save_again (next_saveLanternArray.mp hs)
    constructor
    · intro h
      have hsame := congrArg List.length (h t ⟨w, g⟩ hs (next_saveLanternArray.mpr hagain))
      have hlen' : g.lanternDataArray.length = t.saveGame.lanternDataArray.length := hsame
      exact List.length_eq_zero_iff.mp (by omega)
    · intro h t' u ht' hu
      have hnil : lanternArray.elems = [] := h
      obtain ⟨-, -, records, hrec, hg⟩ := saveLanternArray_cases (next_saveLanternArray.mp hu)
      rw [hnil] at hrec
      cases hrec
      rw [hg]
      exact List.append_nil _
  all_goals exact Iff.rfl

/-- **Saving is exact exactly as long as every save finds no records** and saves the neighbours too;
saving twice is the same as saving once exactly if nothing is saved. -/
theorem saves_exactly_iff (setting : Setting K) (s₀ : State K) (tr : List (State K × Event K))
    (s : State K) (hr : Run (Next setting) s₀ tr s) :
    (Along (SavesExactly setting) tr ↔ Along SavesAfresh tr) ∧
      (Along (SavesOnce setting) tr ↔ Along (fun _ e => SavesNone e) tr) :=
  ⟨hr.along_congr fun _ _ _ hs => savesExactly_iff hs,
    hr.along_congr fun _ _ _ hs => savesOnce_iff hs⟩

instance (s : State K) (e : Event K) : Decidable (SavesAfresh s e) :=
  match e with
  | .saveLanternArray lanternArray => inferInstanceAs (Decidable (s.saveGame.lanternDataArray = [] ∧
      ∀ n ∈ lanternArray.elems, ∀ o ∈ neighbors s.world n, o ∈ lanternArray.elems))
  | .spawnLantern _ _ _ _ | .removeAllLantern | .tick _ _ _ | .move _ _ | .beginOverlap _
  | .endOverlap _ | .textureFromWidget _ _ | .base64ToTexture2D _ _ | .loadLantern _ _
  | .loadLanternArray _ => isTrue trivial

/-- Two lanterns, one the neighbour of the other, are saved. -/
theorem saves_exactly_iff_pair : ∃ s₀ tr s, Run (Next sampleSetting) s₀ tr s ∧
    tr.map Prod.snd = samplePair ++ [.saveLanternArray sampleArray] ∧
    neighbors s.world 2 = [1] ∧
    s.saveGame.lanternDataArray.map FLanternData.overlappedLanternIndexArray = [[], [0]] ∧
    Along (SavesExactly sampleSetting) tr := by
  obtain ⟨s₀, h₀⟩ : ∃ s₀, beginPlay sampleSetting sampleAssets sampleChoice [] = .ok s₀ := ⟨_, rfl⟩
  have hplayed : ((samplePair ++ [Event.saveLanternArray sampleArray]).foldlM (fun s e =>
      if SavesAfresh s e then next sampleSetting s e else none) s₀).map (fun s : State ℚ =>
        (neighbors s.world 2,
          s.saveGame.lanternDataArray.map FLanternData.overlappedLanternIndexArray)) =
      some ([1], [[], [0]]) := by
    obtain rfl := Except.ok.inj h₀
    decide +kernel
  obtain ⟨s, hs, hvalues⟩ := Option.map_eq_some_iff.mp hplayed
  obtain ⟨hneighbors, hrecords⟩ := Prod.mk.inj hvalues
  obtain ⟨tr, ⟨hr, hfresh⟩, htr⟩ := run_of_foldlM_along (next_of_next sampleSetting) _ hs
  exact ⟨s₀, tr, s, hr, htr, hneighbors, hrecords,
    (saves_exactly_iff sampleSetting s₀ tr s hr).1.mpr hfresh⟩

/-- A lantern saved twice in a row is recorded twice. -/
theorem not_saves_exactly : ∃ s₀ tr s,
    beginPlay sampleSetting sampleAssets sampleChoice [] = .ok s₀ ∧
    Run (Next sampleSetting) s₀ tr s ∧
    tr.map Prod.snd = [sampleSpawn, sampleSave, sampleSave] ∧
    s.saveGame.lanternDataArray.length = 2 ∧ ¬ Along (SavesExactly sampleSetting) tr ∧
    ¬ Along (SavesOnce sampleSetting) tr := by
  have hplayed : (playFromStart [sampleSpawn, sampleSave]).map (fun s =>
      (s.saveGame.lanternDataArray.length, (next sampleSetting s sampleSave).map fun s =>
        s.saveGame.lanternDataArray.length)) = some (1, some 2) := by decide +kernel
  obtain ⟨u, hu, hvalues⟩ := Option.map_eq_some_iff.mp hplayed
  obtain ⟨hone, htwo⟩ := Prod.mk.inj hvalues
  obtain ⟨s, hs, htwo⟩ := Option.map_eq_some_iff.mp htwo
  obtain ⟨s₀, tr, h₀, hr, htr⟩ := run_of_playFromStart hu
  have hstep := next_of_next sampleSetting u sampleSave s hs
  refine ⟨s₀, tr ++ [(u, sampleSave)], s, h₀, hr.snoc hstep, by simp [htr], htwo,
    fun hexact => ?_, fun honce => ?_⟩
  · obtain ⟨hnil, -⟩ := (savesExactly_iff hstep).mp (along_snoc.mp hexact).2
    rw [hnil] at hone
    cases hone
  · have hnone : SavesNone sampleSave := (savesOnce_iff hstep).mp (along_snoc.mp honce).2
    cases hnone

end LanternProject.Lantern.Saved
