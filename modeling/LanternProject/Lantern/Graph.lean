import LanternProject.Lantern.Noticed
import LanternProject.Lantern.System

/-! # Neighbours saved and loaded

A load writes the neighbours of a restored lantern twice: what the engine tells it while lanterns are
spawned and moved, and at the end the recorded neighbours, without looking whether they are there
(`neighbors_loadLantern`). So a neighbour comes back once exactly if the engine does not tell of it,
and no other lantern becomes one exactly if the engine tells of none. -/

namespace LanternProject.Lantern.Graph

open LanternProject.Engine.Basic LanternProject.Engine.Vector
open LanternProject.Save.LanternSaveGame
open LanternProject.Lantern.LanternActor LanternProject.Lantern.Texture
open LanternProject.Lantern.Level LanternProject.Lantern.LanternManager
open LanternProject.Lantern.SaveData LanternProject.Lantern.Loading
open LanternProject.Lantern.Noticed LanternProject.Lantern.System

variable {K : Type} {w w' : World K}

/-! ### The second loop -/

/-- The level where the lantern `n` has more neighbours. -/
def gain (w : World K) (n : ℕ) (ns : List ℕ) : World K :=
  w.modify n fun l => { l with neighborArray := l.neighborArray ++ ns }

theorem gain_nil (w : World K) (n : ℕ) : gain w n [] = w := by
  refine World.ext rfl rfl (List.ext_getElem? fun k => ?_) rfl rfl
  rw [gain, getElem?_modify]
  simp

theorem gain_gain (w : World K) (n : ℕ) (ns ns' : List ℕ) :
    gain (gain w n ns) n ns' = gain w n (ns ++ ns') := by
  unfold gain
  rw [modify_modify]
  simp only [List.append_assoc]

theorem neighbors_gain {n : ℕ} (hn : n < w.lanterns.length) (ns : List ℕ) (k : ℕ) :
    neighbors (gain w n ns) k = neighbors w k ++ if k = n then ns else [] := by
  unfold neighbors gain
  rw [getElem?_modify]
  by_cases hk : k = n
  · rw [hk, List.getElem?_eq_getElem hn]
    simp
  · have hnk : ¬ n = k := fun h => hk h.symm
    simp [hk, hnk]

theorem addNeighbors_eq {i n : ℕ} : ∀ (places : List ℕ) {w : World K},
    w.lanternArray[i]? = some n → n < w.lanterns.length → w.lanternArray.length < 2 ^ 31 →
    (∀ k ∈ places, k < w.lanternArray.length) →
      addNeighbors w i places = .ok (gain w n (places.map (w.lanternArray.getD · 0)))
  | [], w, _, _, _, _ => by rw [addNeighbors, List.map_nil, gain_nil]
  | k :: places, w, hi, hn, hlen, hplaces => by
    have hk : k < w.lanternArray.length := hplaces k List.mem_cons_self
    have hindex : indexInt .lanternArray w.lanternArray (toInt32 k) =
        .ok (w.lanternArray.getD k 0) := by
      rw [indexInt_ok, toInt32_of_lt (by omega), Int.toNat_natCast, List.getD_eq_getElem _ _ hk]
      exact ⟨by omega, List.getElem?_eq_getElem hk⟩
    have hact : w.actor n = .ok w.lanterns[n] := actor_ok.mpr (List.getElem?_eq_getElem hn)
    have hrest := addNeighbors_eq places (w := gain w n [w.lanternArray.getD k 0]) hi
      (by rwa [gain, length_modify]) hlen fun k hk => hplaces k (List.mem_cons_of_mem _ hk)
    rw [gain_gain] at hrest
    simp only [addNeighbors, index_ok.mpr hi, hindex, hact, bind, Except.bind]
    exact hrest

/-- The places in the record at place `i`. -/
def placesAt (lanternDataArray : List (FLanternData K)) (i : ℕ) : List ℕ :=
  ((lanternDataArray[i]?).map (·.overlappedLanternIndexArray)).getD []

/-- Each lantern of the places `is` gets the neighbours of its record, in addition. -/
theorem addAllNeighbors_eq {ds : List (FLanternData K)} {n : ℕ}
    (hplaces : ∀ d ∈ ds, ∀ k ∈ d.overlappedLanternIndexArray, k < ds.length)
    (hlen : ds.length < 2 ^ 31) : ∀ (is : List ℕ) {w : World K},
      w.lanternArray = List.range' n ds.length → n + ds.length ≤ w.lanterns.length → is.Nodup →
      (∀ i ∈ is, i < ds.length) →
        ∃ w', addAllNeighbors ds w is = .ok w' ∧ ∀ i, neighbors w' (n + i) =
          neighbors w (n + i) ++ if i ∈ is then (placesAt ds i).map (n + ·) else []
  | [], w, _, _, _, _ => ⟨w, rfl, fun i => by simp⟩
  | i :: is, w, harray, hlanterns, hnodup, his => by
    obtain ⟨hnot, hnodup⟩ := List.nodup_cons.mp hnodup
    have hi : i < ds.length := his i List.mem_cons_self
    have hd : ds[i]? = some ds[i] := List.getElem?_eq_getElem hi
    have hlength : w.lanternArray.length = ds.length := by rw [harray, List.length_range']
    have hat : ∀ k < ds.length, w.lanternArray[k]? = some (n + k) := by
      intro k hk
      rw [harray, List.getElem?_range' hk, Nat.one_mul]
    have hthis : ∀ k ∈ ds[i].overlappedLanternIndexArray, k < ds.length :=
      hplaces _ (List.getElem_mem hi)
    have hone := addNeighbors_eq ds[i].overlappedLanternIndexArray (hat i hi) (by omega)
      (by omega) (by rwa [hlength])
    have hnumbers : ds[i].overlappedLanternIndexArray.map (w.lanternArray.getD · 0) =
        (placesAt ds i).map (n + ·) := by
      rw [placesAt, hd]
      refine List.map_congr_left fun k hk => ?_
      rw [List.getD_eq_getElem?_getD, hat k (hthis k hk)]
      rfl
    rw [hnumbers] at hone
    obtain ⟨w', hrest, hneighbors⟩ := addAllNeighbors_eq hplaces hlen is
      (w := gain w (n + i) ((placesAt ds i).map (n + ·))) harray
      (by rwa [gain, length_modify]) hnodup fun k hk => his k (List.mem_cons_of_mem _ hk)
    refine ⟨w', ?_, fun j => ?_⟩
    · simp only [addAllNeighbors, index_ok.mpr hd, bind, Except.bind, hone, hrest]
    · rw [hneighbors, neighbors_gain (by omega)]
      by_cases hj : j = i
      · rw [hj, if_pos rfl, if_neg hnot, List.append_nil, if_pos List.mem_cons_self]
      · have hne : ¬ n + j = n + i := by omega
        rw [if_neg hne, List.append_nil]
        simp [hj]

section Loaded
variable [Field K] [LinearOrder K] {m : ALanternManager K}

/-- **Neighbours after a load** into an empty array: those the engine told of, then the recorded. -/
theorem neighbors_loadLantern {ds : List (FLanternData K)} {rs : List (Loadable m)}
    (hrs : rs.map (·.data) = ds) (hempty : w.lanternArray = [])
    (hplaces : ∀ d ∈ ds, ∀ k ∈ d.overlappedLanternIndexArray, k < ds.length)
    (hlen : ds.length < 2 ^ 31) (notices : ℕ → LoadNotices) :
    ∃ w', loadLantern m w ds notices = .ok w' ∧ OnlyNeighbors (rs.foldl restoredIn w) w' ∧
      ∀ i < ds.length, neighbors w' (w.lanterns.length + i) =
        neighbors (loadedAll notices w 0 rs) (w.lanterns.length + i) ++
          (placesAt ds i).map (w.lanterns.length + ·) := by
  have honly := onlyNeighbors_loadedAll notices rs w 0
  have hlength : rs.length = ds.length := by rw [← hrs, List.length_map]
  have harray : (loadedAll notices w 0 rs).lanternArray =
      List.range' w.lanterns.length ds.length := by
    rw [honly.lanternArray, lanternArray_restoredAll, hempty, List.nil_append, hlength]
  have hlanterns : w.lanterns.length + ds.length ≤ (loadedAll notices w 0 rs).lanterns.length := by
    rw [honly.length, length_restoredAll, hlength]
  obtain ⟨w', hload, hneighbors⟩ := addAllNeighbors_eq hplaces hlen (List.range ds.length) harray
    hlanterns List.nodup_range fun i hi => List.mem_range.mp hi
  refine ⟨w', ?_, honly.trans (onlyNeighbors_addAllNeighbors hload), fun i hi => ?_⟩
  · refine bind_ok.mpr ⟨_, loadLanterns_ok.mpr ⟨rs, hrs, rfl⟩, ?_⟩
    rw [harray, List.length_range']
    exact hload
  · rw [hneighbors, if_pos (List.mem_range.mpr hi)]

end Loaded

/-! ### There and back -/

section RoundTrip
variable [Field K] [LinearOrder K] {m : ALanternManager K} {w₀ w₁ : World K}
  {g : ULanternSaveGame (FLanternData K)} {lanternArray : TArray ℕ}

/-- The lantern can be saved, and its record can be loaded. -/
def Restorable (m : ALanternManager K) (w : World K) (n : ℕ) : Prop :=
  Saveable w n ∧ ∃ l mip, w.lanterns[n]? = some l ∧
    (classOf m l.typeIndex l.variationIndex).isSome ∧ textureOf w l = some mip ∧
    0 < mip.sizeX ∧ 0 < mip.sizeY

/-- The lantern `n'` is where the lantern `n` was, and of its type and variation. -/
def SameLantern (w : World K) (n : ℕ) (w' : World K) (n' : ℕ) : Prop :=
  ∃ l l', w.lanterns[n]? = some l ∧ w'.lanterns[n']? = some l' ∧ l'.location = l.location ∧
    l'.typeIndex = l.typeIndex ∧ l'.variationIndex = l.variationIndex

omit [Field K] [LinearOrder K] in
/-- The records of restorable lanterns can be loaded, and only those. -/
theorem loadables_of_restorable {ds : List (FLanternData K)}
    (hsave : ∀ n ∈ lanternArray.elems, Saveable w₀ n)
    (hrec : List.Forall₂ (IsRecord (indexed lanternArray.elems lanternArray.elems w₀))
      lanternArray.elems ds) :
    (∃ rs : List (Loadable m), rs.map (·.data) = ds) ↔
      ∀ n ∈ lanternArray.elems, Restorable m w₀ n := by
  rw [loadables_iff]
  constructor
  · intro h n hn
    obtain ⟨i, hi, rfl⟩ := List.getElem_of_mem hn
    have hi' : i < ds.length := hrec.length_eq ▸ hi
    obtain ⟨l, hl, hd⟩ := isRecord_indexed (hrec.get hi hi')
    obtain ⟨hclass, hmip⟩ := h ds[i] (List.getElem_mem hi')
    rw [List.get_eq_getElem] at hd
    rw [hd] at hclass hmip
    obtain ⟨mip, htex, hpos⟩ := isSome_mipOf_recordOf.mp hmip
    exact ⟨hsave _ hn, l, mip, hl, hclass, htex, hpos⟩
  · intro h d hd
    obtain ⟨i, hi, rfl⟩ := List.getElem_of_mem hd
    have hi' : i < lanternArray.elems.length := hrec.length_eq ▸ hi
    obtain ⟨l, hl, hd⟩ := isRecord_indexed (hrec.get hi' hi)
    rw [List.get_eq_getElem] at hd hl
    obtain ⟨-, l', mip, hl', hclass, htex, hpos⟩ := h _ (List.getElem_mem hi')
    obtain rfl := Option.some.inj (hl.symm.trans hl')
    rw [hd]
    exact ⟨hclass, isSome_mipOf_recordOf.mpr ⟨mip, htex, hpos⟩⟩

omit [Field K] [LinearOrder K] in
/-- The record at a place of the array. -/
theorem record_at {ds : List (FLanternData K)}
    (hrec : List.Forall₂ (IsRecord (indexed lanternArray.elems lanternArray.elems w₀))
      lanternArray.elems ds) {i n : ℕ} (hi : lanternArray.elems[i]? = some n) :
    ∃ l, w₀.lanterns[n]? = some l ∧
      ds[i]? = some (recordOf (indexed lanternArray.elems lanternArray.elems w₀) l) := by
  obtain ⟨hlt, rfl⟩ := List.getElem?_eq_some_iff.mp hi
  have hlt' : i < ds.length := hrec.length_eq ▸ hlt
  obtain ⟨l, hl, hd⟩ := isRecord_indexed (hrec.get hlt hlt')
  refine ⟨l, hl, ?_⟩
  rw [← hd]
  exact List.getElem?_eq_getElem hlt'

omit [Field K] [LinearOrder K] in
/-- The places in it are those of the neighbours. -/
theorem placesAt_eq {ds : List (FLanternData K)}
    (hsave : ∀ n ∈ lanternArray.elems, Saveable w₀ n)
    (hclosed : ∀ n ∈ lanternArray.elems, ∀ o ∈ neighbors w₀ n, o ∈ lanternArray.elems)
    (hrec : List.Forall₂ (IsRecord (indexed lanternArray.elems lanternArray.elems w₀))
      lanternArray.elems ds) {i n : ℕ} (hi : lanternArray.elems[i]? = some n) :
    placesAt ds i = (neighbors w₀ n).map fun o => lanternArray.elems.idxOf o := by
  have hmem : n ∈ lanternArray.elems := List.mem_of_getElem? hi
  obtain ⟨l, hl, hd⟩ := record_at hrec hi
  rw [placesAt, hd, neighbors_of_getElem? hl, Option.map_some, Option.getD_some,
    overlapped_recordOf lanternArray.num_lt]
  intro o ho
  obtain ⟨l', texture, hl', -, -, hlanterns⟩ := hsave n hmem
  obtain rfl := Option.some.inj (hl.symm.trans hl')
  exact ⟨hclosed n hmem o (by rwa [neighbors_of_getElem? hl]), hlanterns o ho⟩

omit [Field K] [LinearOrder K] in
/-- They are places of records. -/
theorem places_lt {ds : List (FLanternData K)}
    (hsave : ∀ n ∈ lanternArray.elems, Saveable w₀ n)
    (hclosed : ∀ n ∈ lanternArray.elems, ∀ o ∈ neighbors w₀ n, o ∈ lanternArray.elems)
    (hrec : List.Forall₂ (IsRecord (indexed lanternArray.elems lanternArray.elems w₀))
      lanternArray.elems ds) :
    ∀ d ∈ ds, ∀ k ∈ d.overlappedLanternIndexArray, k < ds.length := by
  intro d hd k hk
  obtain ⟨i, hi⟩ := List.getElem?_of_mem hd
  have hlen : lanternArray.elems.length = ds.length := hrec.length_eq
  have hlt : i < lanternArray.elems.length := hlen ▸ (List.getElem?_eq_some_iff.mp hi).1
  have hplace := placesAt_eq hsave hclosed hrec (List.getElem?_eq_getElem hlt)
  rw [placesAt, hi, Option.map_some, Option.getD_some] at hplace
  rw [hplace, List.mem_map] at hk
  obtain ⟨o, ho, rfl⟩ := hk
  rw [← hlen]
  exact List.idxOf_lt_length_iff.mpr (hclosed _ (List.getElem_mem hlt) o ho)

omit [Field K] [LinearOrder K] in
/-- What is loaded for a place of the array. -/
theorem loadable_at {ds : List (FLanternData K)} {rs : List (Loadable m)}
    (hrs : rs.map (·.data) = ds)
    (hrec : List.Forall₂ (IsRecord (indexed lanternArray.elems lanternArray.elems w₀))
      lanternArray.elems ds) {i n : ℕ} (hi : lanternArray.elems[i]? = some n) :
    ∃ l r, w₀.lanterns[n]? = some l ∧ rs[i]? = some r ∧
      r.data = recordOf (indexed lanternArray.elems lanternArray.elems w₀) l := by
  obtain ⟨l, hl, hd⟩ := record_at hrec hi
  rw [← hrs, List.getElem?_map] at hd
  obtain ⟨r, hr, hdata⟩ := Option.map_eq_some_iff.mp hd
  exact ⟨l, r, hl, hr, hdata⟩

omit [Field K] [LinearOrder K] in
theorem location_at {ds : List (FLanternData K)} {rs : List (Loadable m)}
    (hrs : rs.map (·.data) = ds)
    (hrec : List.Forall₂ (IsRecord (indexed lanternArray.elems lanternArray.elems w₀))
      lanternArray.elems ds) (i : ℕ) : (rs[i]?).map (·.data.transform.location) =
      (lanternArray.elems[i]?).bind (locationOf w₀) := by
  rcases hi : lanternArray.elems[i]? with _ | n
  · have hlen : rs.length = lanternArray.elems.length := by
      rw [hrec.length_eq, ← hrs, List.length_map]
    rw [List.getElem?_eq_none_iff] at hi
    rw [List.getElem?_eq_none (by omega)]
    rfl
  · obtain ⟨l, r, hl, hr, hdata⟩ := loadable_at hrs hrec hi
    rw [hr, Option.map_some, hdata, Option.bind_some, locationOf, hl]
    rfl

omit [Field K] [LinearOrder K] in
/-- The places of different lanterns are different. -/
theorem count_map_idxOf {arr ns : List ℕ} (hnodup : ns.Nodup) (hin : ∀ o ∈ ns, o ∈ arr) {j o : ℕ}
    (hj : arr[j]? = some o) :
    (ns.map fun o => arr.idxOf o).count j = if o ∈ ns ∧ arr.idxOf o = j then 1 else 0 := by
  have hmap : (ns.map fun o => arr.idxOf o).Nodup :=
    hnodup.map_on fun a ha b hb hab => (List.idxOf_inj (hin a ha)).mp hab
  have hmem : j ∈ (ns.map fun o => arr.idxOf o) ↔ o ∈ ns ∧ arr.idxOf o = j := by
    rw [List.mem_map]
    constructor
    · rintro ⟨o', ho', rfl⟩
      rw [List.getElem?_idxOf (hin o' ho')] at hj
      obtain rfl := Option.some.inj hj
      exact ⟨ho', rfl⟩
    · rintro ⟨ho, hidx⟩
      exact ⟨o, ho, hidx⟩
  rw [hmap.count, if_congr hmem rfl rfl]

open Classical in
/-- **What saving and loading restorable lanterns gives**: lantern number `j` is listed once if the
engine told of it, and once if it was recorded. -/
theorem saved_and_loaded (hg : g.lanternDataArray = [])
    (hnodup : ∀ n ∈ lanternArray.elems, (neighbors w₀ n).Nodup)
    (hclosed : ∀ n ∈ lanternArray.elems, ∀ o ∈ neighbors w₀ n, o ∈ lanternArray.elems)
    (hempty : w₁.lanternArray = []) (begins : ℕ → Bool → List Overlap)
    (hrestore : ∀ n ∈ lanternArray.elems, Restorable m w₀ n) :
    ∃ w g' w' g'', saveLanternArray w₀ g lanternArray.elems = .ok (w, g') ∧
      loadLanternArray m w₁ g' (noticesOf begins) = .ok (w', g'') ∧
      w'.lanternArray = List.range' w₁.lanterns.length lanternArray.elems.length ∧
      (∀ i n : ℕ, lanternArray.elems[i]? = some n →
        SameLantern w₀ n w' (w₁.lanterns.length + i)) ∧
      ∀ i j n o : ℕ, lanternArray.elems[i]? = some n → lanternArray.elems[j]? = some o →
        (neighbors w' (w₁.lanterns.length + i)).count (w₁.lanterns.length + j) =
          (if Told m w₀ lanternArray.elems w₁.lanterns.length begins i j then 1 else 0) +
            if o ∈ neighbors w₀ n ∧ lanternArray.elems.idxOf o = j then 1 else 0 := by
  have hsave : ∀ n ∈ lanternArray.elems, Saveable w₀ n := fun n hn => (hrestore n hn).1
  obtain ⟨ds, hrec, hsaved⟩ := saveLanternArray_eq g hsave
  rw [hg, List.nil_append] at hsaved
  have hlen : lanternArray.elems.length = ds.length := hrec.length_eq
  obtain ⟨rs, hrs⟩ := (loadables_of_restorable hsave hrec).mpr hrestore
  obtain ⟨w', hload, honly, hneighbors⟩ := neighbors_loadLantern hrs hempty
    (places_lt hsave hclosed hrec) (hlen ▸ lanternArray.num_lt) (noticesOf begins)
  have hlength : rs.length = lanternArray.elems.length := by
    rw [hlen, ← hrs, List.length_map]
  have hspots := location_at hrs hrec
  have hnone : ∀ i, neighbors w₁ (w₁.lanterns.length + i) = [] := by
    intro i
    rw [neighbors, List.getElem?_eq_none (by omega)]
    rfl
  refine ⟨_, _, w', { g with lanternDataArray := [] }, hsaved, ?_, ?_, fun i n hi => ?_,
    fun i j n o hi hj => ?_⟩
  · exact bind_ok.mpr ⟨w', hload, rfl⟩
  · rw [honly.lanternArray, lanternArray_restoredAll, hempty, List.nil_append, hlength]
  · obtain ⟨l, r, hl, hr, hdata⟩ := loadable_at hrs hrec hi
    obtain ⟨ns, ticks, hl'⟩ := honly.getElem? (getElem?_restoredAll hr w₁).1
    refine ⟨l, _, hl, hl', ?_, ?_, ?_⟩
    · exact congrArg (·.transform.location) hdata
    · exact congrArg (·.typeIndex) hdata
    · exact congrArg (·.variationIndex) hdata
  · have hlt : i < ds.length := hlen ▸ (List.getElem?_eq_some_iff.mp hi).1
    have hmem : n ∈ lanternArray.elems := List.mem_of_getElem? hi
    have htold : w₁.lanterns.length + j ∈ neighbors (loadedAll (noticesOf begins) w₁ 0 rs)
        (w₁.lanterns.length + i) ↔
          Told m w₀ lanternArray.elems w₁.lanterns.length begins i j := by
      rw [mem_neighbors_loadedAll, hnone, ← told_iff hspots hlength]
      simp only [List.not_mem_nil, false_or, Nat.zero_add]
    have hone : (neighbors (loadedAll (noticesOf begins) w₁ 0 rs)
        (w₁.lanterns.length + i)).Nodup := by
      refine nodup_neighbors_loadedAll begins rs 0 ?_
      rw [hnone]
      exact List.nodup_nil
    rw [hneighbors i hlt, List.count_append, hone.count, if_congr htold rfl rfl,
      List.count_map_of_injective _ _ (add_right_injective w₁.lanterns.length),
      placesAt_eq hsave hclosed hrec hi, count_map_idxOf (hnodup n hmem) (hclosed n hmem) hj]

/-- What was saved and loaded could be restored. -/
theorem restorable_of_loaded {w w' : World K} {g' g'' : ULanternSaveGame (FLanternData K)}
    {notices : ℕ → LoadNotices} (hg : g.lanternDataArray = [])
    (hsave : saveLanternArray w₀ g lanternArray.elems = .ok (w, g'))
    (hload : loadLanternArray m w₁ g' notices = .ok (w', g'')) :
    ∀ n ∈ lanternArray.elems, Restorable m w₀ n := by
  obtain ⟨hsaveable, rfl, ds, hrec, rfl⟩ := saveLanternArray_cases hsave
  obtain ⟨v, hv, -⟩ := bind_ok.mp hload
  obtain ⟨rs, hrs, -⟩ := loadLantern_ok hv
  rw [hg] at hrs
  exact (loadables_of_restorable (m := m) hsaveable hrec).mp ⟨rs, hrs⟩

omit [Field K] [LinearOrder K] in
/-- A neighbour that is listed when it is told of and when it is recorded here is listed as often as
before exactly if it is told of where it is not recorded. -/
theorem told_or_recorded_iff {told neighbor here : Prop} [Decidable told] [Decidable neighbor]
    [Decidable here] :
    ((if told then 1 else 0) + (if neighbor ∧ here then 1 else 0) = (if neighbor then 1 else 0 : ℕ)) ↔
      (told ↔ neighbor ∧ ¬ here) := by
  by_cases htold : told
  · by_cases hn : neighbor
    · simp [htold, hn]
    · simp [htold, hn]
  · by_cases hn : neighbor
    · simp [htold, hn]
    · simp [htold, hn]

/-- The neighbour graph comes back: as many lanterns in the same order, each as often a neighbour of
each as before. -/
def RoundTrips (m : ALanternManager K) (w₀ : World K) (g : ULanternSaveGame (FLanternData K))
    (lanternArray : TArray ℕ) (w₁ : World K) (notices : ℕ → LoadNotices) : Prop :=
  ∃ w g' w' g'', saveLanternArray w₀ g lanternArray.elems = .ok (w, g') ∧
    loadLanternArray m w₁ g' notices = .ok (w', g'') ∧
    w'.lanternArray.length = lanternArray.elems.length ∧
    (∀ i n n' : ℕ, lanternArray.elems[i]? = some n → w'.lanternArray[i]? = some n' →
      SameLantern w₀ n w' n') ∧
    ∀ i j n o n' o' : ℕ, lanternArray.elems[i]? = some n → lanternArray.elems[j]? = some o →
      w'.lanternArray[i]? = some n' → w'.lanternArray[j]? = some o' →
        (neighbors w' n').count o' = (neighbors w₀ n).count o

/-- **The neighbour graph round-trips exactly if** the lanterns can be restored and, of the restored
lanterns, the engine tells none of another that is behind: of no pair `i`, `j` at all if the array
lists no lantern twice, else just of the later places of a neighbour. -/
theorem roundTrips_iff (m : ALanternManager K) (w₀ : World K)
    (g : ULanternSaveGame (FLanternData K)) (lanternArray : TArray ℕ) (w₁ : World K)
    (begins : ℕ → Bool → List Overlap) (hg : g.lanternDataArray = [])
    (hnodup : ∀ n ∈ lanternArray.elems, (neighbors w₀ n).Nodup)
    (hclosed : ∀ n ∈ lanternArray.elems, ∀ o ∈ neighbors w₀ n, o ∈ lanternArray.elems)
    (hempty : w₁.lanternArray = []) :
    RoundTrips m w₀ g lanternArray w₁ (noticesOf begins) ↔
      (∀ n ∈ lanternArray.elems, Restorable m w₀ n) ∧
      ∀ i j n o : ℕ, lanternArray.elems[i]? = some n → lanternArray.elems[j]? = some o →
        (Told m w₀ lanternArray.elems w₁.lanterns.length begins i j ↔
          o ∈ neighbors w₀ n ∧ lanternArray.elems.idxOf o ≠ j) := by
  classical
  have hcount : ∀ i j n o : ℕ, lanternArray.elems[i]? = some n →
      ((if Told m w₀ lanternArray.elems w₁.lanterns.length begins i j then 1 else 0) +
          (if o ∈ neighbors w₀ n ∧ lanternArray.elems.idxOf o = j then 1 else 0) =
        (neighbors w₀ n).count o ↔
      (Told m w₀ lanternArray.elems w₁.lanterns.length begins i j ↔
        o ∈ neighbors w₀ n ∧ lanternArray.elems.idxOf o ≠ j)) := by
    intro i j n o hi
    rw [(hnodup n (List.mem_of_getElem? hi)).count]
    exact told_or_recorded_iff
  -- what has been saved and loaded is known, if every lantern could be restored
  have hvalue := saved_and_loaded (m := m) hg hnodup hclosed hempty begins
  constructor
  · rintro ⟨w, g', w', g'', hsave, hload, -, -, hsame⟩
    have hrestore := restorable_of_loaded hg hsave hload
    refine ⟨hrestore, fun i j n o hi hj => ?_⟩
    obtain ⟨u, g₁, u', g₂, hsave', hload', harray, -, hcounts⟩ := hvalue hrestore
    rw [hsave, Except.ok.injEq, Prod.mk.injEq] at hsave'
    obtain ⟨-, rfl⟩ := hsave'
    rw [hload, Except.ok.injEq, Prod.mk.injEq] at hload'
    obtain ⟨rfl, -⟩ := hload'
    have hat : ∀ k : ℕ, k < lanternArray.elems.length →
        w'.lanternArray[k]? = some (w₁.lanterns.length + k) := by
      intro k hk
      rw [harray, List.getElem?_range' hk, Nat.one_mul]
    have hcount' := hsame i j n o _ _ hi hj
      (hat i (List.getElem?_eq_some_iff.mp hi).1) (hat j (List.getElem?_eq_some_iff.mp hj).1)
    rw [hcounts i j n o hi hj] at hcount'
    exact (hcount i j n o hi).mp hcount'
  · rintro ⟨hrestore, htold⟩
    obtain ⟨w, g', w', g'', hsave, hload, harray, hlanterns, hcounts⟩ := hvalue hrestore
    have hat : ∀ {k n' n : ℕ}, lanternArray.elems[k]? = some n → w'.lanternArray[k]? = some n' →
        n' = w₁.lanterns.length + k := by
      intro k n' n hk hk'
      rw [harray, List.getElem?_range' (List.getElem?_eq_some_iff.mp hk).1, Nat.one_mul] at hk'
      exact (Option.some.inj hk').symm
    refine ⟨w, g', w', g'', hsave, hload, by rw [harray, List.length_range'], ?_, ?_⟩
    · intro i n n' hi hi'
      rw [hat hi hi']
      exact hlanterns i n hi
    · intro i j n o n' o' hi hj hi' hj'
      rw [hat hi hi', hat hj hj', hcounts i j n o hi hj]
      exact (hcount i j n o hi).mpr (htold i j n o hi hj)

end RoundTrip

/-- What is restored of this, when the engine tells of pairs. -/
def sampleRestored (s : State ℚ) (begins : ℕ → Bool → List Overlap) :
    Option (World ℚ × ULanternSaveGame (FLanternData ℚ)) :=
  (saveLanternArray s.world s.saveGame sampleArray.elems).toOption.bind fun saved =>
    (loadLanternArray sampleManager (removeAllLantern s.world) saved.2
      (noticesOf begins)).toOption

/-- Nothing is told. -/
def silence (_ : ℕ) (_ : Bool) : List Overlap := []

/-- The second restored lantern is told of the first, when it is moved to where they overlap. -/
def sampleNotice (k : ℕ) (moved : Bool) : List Overlap :=
  if k = 1 ∧ moved = true then [⟨4, 3, 0⟩] else []

theorem roundTrips_iff_silence : ∃ s, playFromStart samplePair = some s ∧
    neighbors s.world 2 = [1] ∧ RoundTrips sampleManager s.world s.saveGame sampleArray
      (removeAllLantern s.world) (noticesOf silence) := by
  have hplayed : (playFromStart samplePair).map (fun s => (neighbors s.world 1, neighbors s.world 2,
      s.saveGame.lanternDataArray, (sampleRestored s silence).isSome)) =
      some ([], [1], [], true) := by decide +kernel
  obtain ⟨s, hs, hvalues⟩ := Option.map_eq_some_iff.mp hplayed
  obtain ⟨h1, hrest⟩ := Prod.mk.inj hvalues
  obtain ⟨h2, hrest⟩ := Prod.mk.inj hrest
  obtain ⟨hg, hsome⟩ := Prod.mk.inj hrest
  obtain ⟨⟨w', g''⟩, hrestored⟩ := Option.isSome_iff_exists.mp hsome
  obtain ⟨⟨w, g'⟩, hsave, hload⟩ := Option.bind_eq_some_iff.mp hrestored
  have hmem : ∀ n ∈ sampleArray.elems, n = 1 ∨ n = 2 := by decide
  refine ⟨s, hs, h2, (roundTrips_iff sampleManager s.world s.saveGame sampleArray
    (removeAllLantern s.world) silence hg ?_ ?_ rfl).mpr ⟨restorable_of_loaded hg
      (toOption_eq_some.mp hsave) (toOption_eq_some.mp hload), fun i j n o hi hj => ?_⟩⟩
  · intro n hn
    rcases hmem n hn with rfl | rfl
    · rw [h1]
      decide
    · rw [h2]
      decide
  · intro n hn
    rcases hmem n hn with rfl | rfl
    · rw [h1]
      decide
    · rw [h2]
      decide
  · have hidx : sampleArray.elems.idxOf o = j := by
      obtain ⟨hlt, rfl⟩ := List.getElem?_eq_some_iff.mp hj
      exact List.Nodup.idxOf_getElem (by decide) j hlt
    constructor
    · rintro ⟨k, -, moved, p, hp, -⟩
      exact absurd hp List.not_mem_nil
    · rintro ⟨-, hne⟩
      exact absurd hidx hne

/-- The first lantern comes back as a neighbour of the second twice. -/
theorem not_roundTrips : ∃ s, playFromStart samplePair = some s ∧
    s.world.lanternArray = sampleArray.elems ∧ s.saveGame.lanternDataArray = [] ∧
    neighbors s.world 1 = [] ∧ neighbors s.world 2 = [1] ∧
    ¬ RoundTrips sampleManager s.world s.saveGame sampleArray (removeAllLantern s.world)
      (noticesOf sampleNotice) := by
  have hplayed : (playFromStart samplePair).map (fun s => ((s.world.lanternArray,
      s.saveGame.lanternDataArray), (neighbors s.world 1, neighbors s.world 2),
      (sampleRestored s sampleNotice).map fun r => (r.1.lanternArray, neighbors r.1 4))) =
      some (([1, 2], []), ([], [1]), some ([3, 4], [3, 3])) := by decide +kernel
  obtain ⟨s, hs, hvalues⟩ := Option.map_eq_some_iff.mp hplayed
  obtain ⟨hstate, hrest⟩ := Prod.mk.inj hvalues
  obtain ⟨hneighbors, hrestored⟩ := Prod.mk.inj hrest
  obtain ⟨harray, hg⟩ := Prod.mk.inj hstate
  obtain ⟨h1, h2⟩ := Prod.mk.inj hneighbors
  refine ⟨s, hs, harray, hg, h1, h2, ?_⟩
  rintro ⟨w, g', w', g'', hsave, hload, -, -, hsame⟩
  rw [sampleRestored, hsave] at hrestored
  simp only [Except.toOption, Option.bind_some, hload, Option.map_some, Option.some.injEq,
    Prod.mk.injEq] at hrestored
  obtain ⟨harray', h4⟩ := hrestored
  have hcount := hsame 1 0 2 1 4 3 rfl rfl (by rw [harray']; rfl) (by rw [harray']; rfl)
  rw [h4, h2] at hcount
  exact absurd hcount (by decide)

end LanternProject.Lantern.Graph
