import LanternProject.Lantern.Graph

/-! # The places a load goes through

`LoadLantern` appends the restored lanterns to `LanternArray`, then goes through the whole array with
one index for the array and for the records, and takes the recorded places as places of the array.
These are the same places only if the array was empty: otherwise the second loop leaves the records
behind (`addAllNeighbors_ok`). A place of a neighbour that was not saved with the others is whatever
the neighbour was told last. -/

namespace LanternProject.Lantern.LoadPlaces

open LanternProject.Engine.Basic LanternProject.Engine.Vector
open LanternProject.Save.LanternSaveGame
open LanternProject.Lantern.LanternActor LanternProject.Lantern.Texture
open LanternProject.Lantern.Level LanternProject.Lantern.LanternManager
open LanternProject.Lantern.SaveData LanternProject.Lantern.Loading
open LanternProject.Lantern.Noticed LanternProject.Lantern.Graph
open LanternProject.Lantern.System

variable {K : Type} {w w' v : World K}

/-! ### What the second loop needs -/

theorem addNeighbors_ok : ∀ {places : List ℕ} {w w' : World K} {i : ℕ},
    addNeighbors w i places = .ok w' →
      ∀ k ∈ places, 0 ≤ toInt32 k ∧ (toInt32 k).toNat < w.lanternArray.length
  | [], _, _, _, _ => fun k hk => absurd hk List.not_mem_nil
  | k :: places, w, w', i, h => by
    obtain ⟨lantern, -, h⟩ := bind_ok.mp h
    obtain ⟨newNeighborLantern, hnew, h⟩ := bind_ok.mp h
    obtain ⟨l, -, h⟩ := bind_ok.mp h
    obtain ⟨hnonneg, hplace⟩ := indexInt_ok.mp hnew
    have hrest := addNeighbors_ok h
    intro j hj
    rcases List.mem_cons.mp hj with rfl | hj
    · exact ⟨hnonneg, (List.getElem?_eq_some_iff.mp hplace).1⟩
    · exact hrest j hj

/-- If the second loop gets to its end, there is a record for every place it visits, and the recorded
places are places of the array. -/
theorem addAllNeighbors_ok {ds : List (FLanternData K)} : ∀ {is : List ℕ} {w w' : World K},
    addAllNeighbors ds w is = .ok w' → ∀ i ∈ is, ∃ d, ds[i]? = some d ∧
      ∀ k ∈ d.overlappedLanternIndexArray,
        0 ≤ toInt32 k ∧ (toInt32 k).toNat < w.lanternArray.length
  | [], _, _, _ => fun i hi => absurd hi List.not_mem_nil
  | i :: is, w, w', h => by
    obtain ⟨d, hd, h⟩ := bind_ok.mp h
    obtain ⟨v, hv, h⟩ := bind_ok.mp h
    have hrest := addAllNeighbors_ok h
    have harray : v.lanternArray = w.lanternArray := (onlyNeighbors_addNeighbors hv).lanternArray
    intro j hj
    rcases List.mem_cons.mp hj with rfl | hj
    · exact ⟨d, index_ok.mp hd, addNeighbors_ok hv⟩
    · obtain ⟨d', hd', hplaces⟩ := hrest j hj
      exact ⟨d', hd', fun k hk => harray ▸ hplaces k hk⟩

section Loaded
variable [Field K] [LinearOrder K] {m : ALanternManager K}

/-- The first loop indexes neither of the two arrays. -/
theorem loadLanternData_error {d : FLanternData K} {notices : LoadNotices} {e : Fault}
    (h : loadLanternData m w d notices = .error e) :
    e ≠ .indexOutOfRange .lanternArray ∧ e ≠ .indexOutOfRange .lanternDataArray := by
  have hother : ∀ {e' : Fault}, e' = e → e' ≠ .indexOutOfRange .lanternArray →
      e' ≠ .indexOutOfRange .lanternDataArray → e ≠ .indexOutOfRange .lanternArray ∧
        e ≠ .indexOutOfRange .lanternDataArray := by
    rintro e' rfl h h'
    exact ⟨h, h'⟩
  unfold loadLanternData at h
  rcases bind_error.mp h with h | ⟨classes, -, h⟩
  · exact hother (index_error.mp h).2.symm (by decide) (by decide)
  rcases bind_error.mp h with h | ⟨c, -, h⟩
  · exact hother (index_error.mp h).2.symm (by decide) (by decide)
  dsimp only at h
  split at h
  · exact hother (Except.error.inj h) (by decide) (by decide)
  · rename_i sizeX sizeY hsize
    unfold createTransient at h
    by_cases hpos : 0 < sizeX ∧ 0 < sizeY
    · simp only [if_pos hpos] at h
      rw [lock_memcpyTo_new] at h
      split_ifs at h
      exact hother (Except.error.inj h) (by decide) (by decide)
    · simp only [if_neg hpos] at h
      exact hother (Except.error.inj h) (by decide) (by decide)

theorem loadLanterns_error {notices : ℕ → LoadNotices} {e : Fault} :
    ∀ {ds : List (FLanternData K)} {w : World K} {i : ℕ},
      loadLanterns m notices w i ds = .error e →
        e ≠ .indexOutOfRange .lanternArray ∧ e ≠ .indexOutOfRange .lanternDataArray
  | [], _, _, h => by cases h
  | d :: ds, w, i, h => by
    rcases bind_error.mp h with h | ⟨v, -, h⟩
    · exact loadLanternData_error h
    · exact loadLanterns_error h

/-! ### A right load -/

/-- What the second loop is to do with the level `v` of the first: no lantern that was there before
gets a neighbour, and every restored lantern those restored lanterns whose records its places refer
to. -/
structure SecondLoopRight (w : World K) (ds : List (FLanternData K)) (v w' : World K) : Prop where
  kept : ∀ old ∈ w.lanternArray, neighbors w' old = neighbors v old
  restored : ∀ i d, ds[i]? = some d → ∃ n os,
    v.lanternArray[w.lanternArray.length + i]? = some n ∧ neighbors w' n = neighbors v n ++ os ∧
    List.Forall₂ (fun k o => k < ds.length ∧ v.lanternArray[w.lanternArray.length + k]? = some o)
      d.overlappedLanternIndexArray os

/-- `LoadLantern` indexes both arrays inside their bounds, and if its first loop restores every record
its second loop gets to its end and is right. -/
structure LoadRight (m : ALanternManager K) (w : World K) (ds : List (FLanternData K))
    (notices : ℕ → LoadNotices) : Prop where
  lanternArray : loadLantern m w ds notices ≠ .error (.indexOutOfRange .lanternArray)
  lanternDataArray : loadLantern m w ds notices ≠ .error (.indexOutOfRange .lanternDataArray)
  secondLoop : ∀ v, loadLanterns m notices w 0 ds = .ok v →
    ∃ w', loadLantern m w ds notices = .ok w' ∧ SecondLoopRight w ds v w'

theorem lanternArray_loadedAll {ds : List (FLanternData K)} {rs : List (Loadable m)}
    (hrs : rs.map (·.data) = ds) (notices : ℕ → LoadNotices) (w : World K) :
    (loadedAll notices w 0 rs).lanternArray =
      w.lanternArray ++ List.range' w.lanterns.length ds.length := by
  rw [(onlyNeighbors_loadedAll notices rs w 0).lanternArray, lanternArray_restoredAll, ← hrs,
    List.length_map]

/-- A right load of records that can be restored was one into an empty array, with places of
records. -/
theorem empty_of_loadRight {ds : List (FLanternData K)} {rs : List (Loadable m)}
    (hrs : rs.map (·.data) = ds) {notices : ℕ → LoadNotices} (h : LoadRight m w ds notices) :
    w.lanternArray = [] ∧ ∀ d ∈ ds, ∀ k ∈ d.overlappedLanternIndexArray,
      0 ≤ toInt32 k ∧ (toInt32 k).toNat < ds.length := by
  have hfirst : loadLanterns m notices w 0 ds = .ok (loadedAll notices w 0 rs) :=
    loadLanterns_ok.mpr ⟨rs, hrs, rfl⟩
  obtain ⟨w', hload, -⟩ := h.secondLoop _ hfirst
  obtain ⟨v, hv, hsecond⟩ := bind_ok.mp hload
  obtain rfl := Except.ok.inj (hfirst.symm.trans hv)
  have harray := lanternArray_loadedAll hrs notices w
  have hlen : (loadedAll notices w 0 rs).lanternArray.length =
      w.lanternArray.length + ds.length := by
    rw [harray, List.length_append, List.length_range']
  have hvisits := addAllNeighbors_ok hsecond
  have hempty : w.lanternArray = [] := by
    by_contra hne
    have hpos : 0 < w.lanternArray.length := List.length_pos_iff.mpr hne
    obtain ⟨d, hd, -⟩ := hvisits ds.length (List.mem_range.mpr (by omega))
    exact absurd (List.getElem?_eq_some_iff.mp hd).1 (by omega)
  refine ⟨hempty, fun d hd k hk => ?_⟩
  obtain ⟨i, hi⟩ := List.getElem?_of_mem hd
  have hlt := (List.getElem?_eq_some_iff.mp hi).1
  obtain ⟨d', hd', hplaces⟩ := hvisits i (List.mem_range.mpr (by omega))
  obtain rfl := Option.some.inj (hi.symm.trans hd')
  have hk' := hplaces k hk
  rw [hlen, hempty, List.length_nil, Nat.zero_add] at hk'
  exact hk'

/-- A load into an empty array, with places of records, is right. -/
theorem loadRight_of_empty {ds : List (FLanternData K)} {rs : List (Loadable m)}
    (hrs : rs.map (·.data) = ds) (hempty : w.lanternArray = [])
    (hplaces : ∀ d ∈ ds, ∀ k ∈ d.overlappedLanternIndexArray, k < ds.length)
    (hlen : ds.length < 2 ^ 31) (notices : ℕ → LoadNotices) : LoadRight m w ds notices := by
  obtain ⟨w', hload, -, hneighbors⟩ := neighbors_loadLantern hrs hempty hplaces hlen notices
  have hne : ∀ e, loadLantern m w ds notices ≠ .error e := by
    intro e he
    rw [hload] at he
    cases he
  refine ⟨hne _, hne _, fun v hv => ⟨w', hload, ?_, ?_⟩⟩
  · intro old hold
    rw [hempty] at hold
    exact absurd hold List.not_mem_nil
  · intro i d hd
    have hfirst : loadLanterns m notices w 0 ds = .ok (loadedAll notices w 0 rs) :=
      loadLanterns_ok.mpr ⟨rs, hrs, rfl⟩
    obtain rfl := Except.ok.inj (hfirst.symm.trans hv)
    have hat : ∀ k < ds.length, (loadedAll notices w 0 rs).lanternArray[w.lanternArray.length + k]? =
        some (w.lanterns.length + k) := by
      intro k hk
      rw [lanternArray_loadedAll hrs, hempty, List.nil_append, List.length_nil, Nat.zero_add,
        List.getElem?_range' hk, Nat.one_mul]
    have hi := (List.getElem?_eq_some_iff.mp hd).1
    refine ⟨_, _, hat i hi, hneighbors i hi, ?_⟩
    rw [placesAt, hd, Option.map_some, Option.getD_some, List.forall₂_map_right_iff,
      List.forall₂_same]
    intro k hk
    have hk' := hplaces d (List.mem_of_getElem? hd) k hk
    exact ⟨hk', hat k hk'⟩

end Loaded

/-! ### Recorded places -/

section Recorded
variable {w₀ w₁ : World K} {lanternArray : TArray ℕ} {ds : List (FLanternData K)}
  {g g' : ULanternSaveGame (FLanternData K)}

/-- The neighbour is saved with the others, or was told a place among them before. -/
def HasPlace (w : World K) (lanternArray : List ℕ) (o : ℕ) : Prop :=
  o ∈ lanternArray ∨ toUInt32 (placeOf w o) < lanternArray.length

theorem placeOf_indexed_of_notMem {o : ℕ} {arr : List ℕ} (ho : o ∉ arr) :
    placeOf (indexed arr arr w) o = placeOf w o := by
  unfold placeOf
  rw [getElem?_indexed, Option.map_map]
  congr 2
  funext l
  rw [Function.comp_apply, if_neg ho]

/-- The place recorded of a neighbour is one of a record exactly if it has a place. -/
theorem recorded_lt_iff {o : ℕ} (ho : o < w₀.lanterns.length) :
    toUInt32 (placeOf (indexed lanternArray.elems lanternArray.elems w₀) o) <
        lanternArray.elems.length ↔ HasPlace w₀ lanternArray.elems o := by
  have hlen := lanternArray.num_lt
  by_cases hmem : o ∈ lanternArray.elems
  · have hidx := List.idxOf_lt_length_iff.mpr hmem
    rw [placeOf_indexed hmem ho, toUInt32_natCast (by omega)]
    exact iff_of_true hidx (Or.inl hmem)
  · rw [placeOf_indexed_of_notMem hmem]
    exact (or_iff_right hmem).symm

theorem places_iff (hsave : ∀ n ∈ lanternArray.elems, Saveable w₀ n)
    (hrec : List.Forall₂ (IsRecord (indexed lanternArray.elems lanternArray.elems w₀))
      lanternArray.elems ds) :
    (∀ d ∈ ds, ∀ k ∈ d.overlappedLanternIndexArray, k < ds.length) ↔
      ∀ n ∈ lanternArray.elems, ∀ o ∈ neighbors w₀ n, HasPlace w₀ lanternArray.elems o := by
  have hlength : lanternArray.elems.length = ds.length := hrec.length_eq
  have hneighbor : ∀ {n l}, n ∈ lanternArray.elems → w₀.lanterns[n]? = some l →
      ∀ o ∈ l.neighborArray, o < w₀.lanterns.length := by
    intro n l hn hl
    obtain ⟨l', texture, hl', -, -, hlanterns⟩ := hsave n hn
    obtain rfl := Option.some.inj (hl.symm.trans hl')
    exact hlanterns
  constructor
  · intro h n hn o ho
    obtain ⟨i, hi⟩ := List.getElem?_of_mem hn
    obtain ⟨l, hl, hd⟩ := record_at hrec hi
    rw [neighbors_of_getElem? hl] at ho
    have hplace := h _ (List.mem_of_getElem? hd) _ (List.mem_map_of_mem ho)
    rw [← hlength] at hplace
    exact (recorded_lt_iff (hneighbor hn hl o ho)).mp hplace
  · intro h d hd k hk
    obtain ⟨i, hi⟩ := List.getElem?_of_mem hd
    have hlt : i < lanternArray.elems.length := hlength ▸ (List.getElem?_eq_some_iff.mp hi).1
    obtain ⟨l, hl, hd'⟩ := record_at hrec (List.getElem?_eq_getElem hlt)
    obtain rfl := Option.some.inj (hi.symm.trans hd')
    obtain ⟨o, ho, rfl⟩ := List.mem_map.mp hk
    have hmem := List.getElem_mem hlt
    rw [← hlength]
    refine (recorded_lt_iff (hneighbor hmem hl o ho)).mpr (h _ hmem o ?_)
    rwa [neighbors_of_getElem? hl]

theorem toUInt32_lt (i : ℤ) : toUInt32 i < 2 ^ 32 := by
  unfold toUInt32
  omega

/-- The places in the records are 32-bit numbers. -/
theorem recorded_lt_word
    (hrec : List.Forall₂ (IsRecord (indexed lanternArray.elems lanternArray.elems w₀))
      lanternArray.elems ds) :
    ∀ d ∈ ds, ∀ k ∈ d.overlappedLanternIndexArray, k < 2 ^ 32 := by
  intro d hd k hk
  obtain ⟨i, hi⟩ := List.getElem?_of_mem hd
  have hlt : i < lanternArray.elems.length :=
    hrec.length_eq ▸ (List.getElem?_eq_some_iff.mp hi).1
  obtain ⟨l, -, hd'⟩ := record_at hrec (List.getElem?_eq_getElem hlt)
  obtain rfl := Option.some.inj (hi.symm.trans hd')
  obtain ⟨o, -, rfl⟩ := List.mem_map.mp hk
  exact toUInt32_lt _

theorem lt_of_toInt32_lt {k n : ℕ} (hk : k < 2 ^ 32) (h : 0 ≤ toInt32 k ∧ (toInt32 k).toNat < n) :
    k < n := by
  unfold toInt32 at h
  split_ifs at h
  · omega
  · omega

end Recorded

section Claim
variable [Field K] [LinearOrder K]

/-- **A load is right exactly if** some record cannot be restored, so that the second loop is never
reached, or `LanternArray` was empty and every neighbour of a saved lantern has a place among the
saved. -/
theorem loadRight_iff (m : ALanternManager K) (w₀ w w₁ : World K)
    (g g' : ULanternSaveGame (FLanternData K)) (lanternArray : TArray ℕ)
    (notices : ℕ → LoadNotices) (hg : g.lanternDataArray = [])
    (hsave : saveLanternArray w₀ g lanternArray.elems = .ok (w, g')) :
    LoadRight m w₁ g'.lanternDataArray notices ↔
      (¬ ∀ n ∈ lanternArray.elems, Restorable m w₀ n) ∨
      (w₁.lanternArray = [] ∧
        ∀ n ∈ lanternArray.elems, ∀ o ∈ neighbors w₀ n, HasPlace w₀ lanternArray.elems o) := by
  obtain ⟨hsaveable, rfl, ds, hrec, rfl⟩ := saveLanternArray_cases hsave
  dsimp only
  rw [hg, List.nil_append]
  have hlen : ds.length < 2 ^ 31 := hrec.length_eq ▸ lanternArray.num_lt
  have hloadable := loadables_of_restorable (m := m) hsaveable hrec
  by_cases hrestore : ∀ n ∈ lanternArray.elems, Restorable m w₀ n
  · obtain ⟨rs, hrs⟩ := hloadable.mpr hrestore
    rw [or_iff_right (not_not.mpr hrestore), ← places_iff hsaveable hrec]
    constructor
    · intro h
      obtain ⟨hempty, hplaces⟩ := empty_of_loadRight hrs h
      exact ⟨hempty, fun d hd k hk =>
        lt_of_toInt32_lt (recorded_lt_word hrec d hd k hk) (hplaces d hd k hk)⟩
    · rintro ⟨hempty, hplaces⟩
      exact loadRight_of_empty hrs hempty hplaces hlen notices
  · refine iff_of_true ?_ (Or.inl hrestore)
    rcases hfirst : loadLanterns m notices w₁ 0 ds with e | v
    · obtain ⟨hne, hne'⟩ := loadLanterns_error hfirst
      have hload : loadLantern m w₁ ds notices = .error e := bind_error.mpr (Or.inl hfirst)
      refine ⟨?_, ?_, fun v hv => ?_⟩
      · rw [hload]
        exact fun h => hne (Except.error.inj h)
      · rw [hload]
        exact fun h => hne' (Except.error.inj h)
      · rw [hfirst] at hv
        cases hv
    · obtain ⟨rs, hrs, -⟩ := loadLanterns_ok.mp hfirst
      exact absurd (hloadable.mp ⟨rs, hrs⟩) hrestore

end Claim

/-! ### Two lanterns -/

theorem loadRight_iff_removed : ∃ s w g', playFromStart samplePair = some s ∧
    saveLanternArray s.world s.saveGame sampleArray.elems = .ok (w, g') ∧
    LoadRight sampleManager (removeAllLantern s.world) g'.lanternDataArray (noticesOf silence) := by
  have hplayed : (playFromStart samplePair).map (fun s => (neighbors s.world 1, neighbors s.world 2,
      s.saveGame.lanternDataArray,
      (saveLanternArray s.world s.saveGame sampleArray.elems).toOption.isSome)) =
      some ([], [1], [], true) := by decide +kernel
  obtain ⟨s, hs, hvalues⟩ := Option.map_eq_some_iff.mp hplayed
  obtain ⟨h1, hrest⟩ := Prod.mk.inj hvalues
  obtain ⟨h2, hrest⟩ := Prod.mk.inj hrest
  obtain ⟨hg, hsome⟩ := Prod.mk.inj hrest
  obtain ⟨⟨w, g'⟩, hsaved⟩ := Option.isSome_iff_exists.mp hsome
  have hsave := toOption_eq_some.mp hsaved
  refine ⟨s, w, g', hs, hsave, (loadRight_iff sampleManager s.world w (removeAllLantern s.world)
    s.saveGame g' sampleArray (noticesOf silence) hg hsave).mpr (Or.inr ⟨rfl, ?_⟩)⟩
  intro n hn o ho
  have hmem : ∀ n ∈ sampleArray.elems, n = 1 ∨ n = 2 := by decide
  rcases hmem n hn with rfl | rfl
  · rw [h1] at ho
    exact absurd ho List.not_mem_nil
  · rw [h2] at ho
    rw [List.mem_singleton.mp ho]
    exact Or.inl (by decide)

/-- The two are loaded while they are still in the array: the second loop has no record for the third
place. -/
theorem not_loadRight_kept : ∃ s w g', playFromStart samplePair = some s ∧
    s.saveGame.lanternDataArray = [] ∧ s.world.lanternArray = sampleArray.elems ∧
    saveLanternArray s.world s.saveGame sampleArray.elems = .ok (w, g') ∧
    ¬ LoadRight sampleManager s.world g'.lanternDataArray (noticesOf silence) := by
  have hplayed : (playFromStart samplePair).map (fun s => (s.saveGame.lanternDataArray,
      s.world.lanternArray,
      (saveLanternArray s.world s.saveGame sampleArray.elems).toOption.map fun saved =>
        match loadLantern sampleManager s.world saved.2.lanternDataArray (noticesOf silence) with
        | .ok _ => none
        | .error e => some e)) =
      some ([], [1, 2], some (some (.indexOutOfRange .lanternDataArray))) := by decide +kernel
  obtain ⟨s, hs, hvalues⟩ := Option.map_eq_some_iff.mp hplayed
  obtain ⟨hg, hrest⟩ := Prod.mk.inj hvalues
  obtain ⟨harray, hfault⟩ := Prod.mk.inj hrest
  obtain ⟨⟨w, g'⟩, hsaved, hfault⟩ := Option.map_eq_some_iff.mp hfault
  refine ⟨s, w, g', hs, hg, harray, toOption_eq_some.mp hsaved, fun h => ?_⟩
  rcases hload : loadLantern sampleManager s.world g'.lanternDataArray (noticesOf silence) with e | v
  · rw [hload] at hfault
    have he := Option.some.inj hfault
    rw [he] at hload
    exact h.lanternDataArray hload
  · rw [hload] at hfault
    cases hfault

end LanternProject.Lantern.LoadPlaces
