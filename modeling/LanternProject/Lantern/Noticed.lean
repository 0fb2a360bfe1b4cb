import LanternProject.Lantern.Loading

/-! # Lanterns that are told of others while they are loaded

While lanterns are restored the engine tells them which pairs begin to overlap. A lantern then lists
the other one of the pair if that is behind at this moment (`Told`), and does not list it twice
(`mem_neighbors_loadedAll`, `nodup_neighbors_loadedAll`). -/

namespace LanternProject.Lantern.Noticed

open LanternProject.Engine.Basic LanternProject.Engine.Str LanternProject.Engine.Vector
open LanternProject.Save.LanternSaveGame
open LanternProject.Lantern.LanternActor LanternProject.Lantern.Texture
open LanternProject.Lantern.Level LanternProject.Lantern.LanternManager
open LanternProject.Lantern.SaveData LanternProject.Lantern.Loading

variable {K : Type} {w w' : World K}

/-! ### Pairs that begin one after the other -/

section Begins
variable [LinearOrder K]

theorem behind_iff (p : Overlap) : Behind w p ↔
    ∃ x y, locationOf w p.mesh = some x ∧ locationOf w p.other = some y ∧ y.x < x.x := by
  constructor
  · rintro ⟨l, other, hl, hother, hlt⟩
    exact ⟨_, _, by rw [locationOf, hl]; rfl, by rw [locationOf, hother]; rfl, hlt⟩
  · rintro ⟨x, y, hx, hy, hlt⟩
    obtain ⟨l, hl, rfl⟩ := Option.map_eq_some_iff.mp hx
    obtain ⟨other, hother, rfl⟩ := Option.map_eq_some_iff.mp hy
    exact ⟨l, other, hl, hother, hlt⟩

theorem behind_congr (h : ∀ n, locationOf w' n = locationOf w n) (p : Overlap) :
    Behind w' p ↔ Behind w p := by
  rw [behind_iff, behind_iff, h, h]

/-- The pair tells the lantern `n` of the lantern `o`, which is behind. -/
def Tells (w : World K) (n o : ℕ) (p : Overlap) : Prop := p.mesh = n ∧ p.other = o ∧ Behind w p

theorem tells_congr (h : ∀ n, locationOf w' n = locationOf w n) (n o : ℕ) (p : Overlap) :
    Tells w' n o p ↔ Tells w n o p :=
  and_congr_right fun _ => and_congr_right fun _ => behind_congr h p

theorem mem_neighbors_beginOverlap (w : World K) (p : Overlap) (n o : ℕ) :
    o ∈ neighbors (beginOverlap w p) n ↔ o ∈ neighbors w n ∨ Tells w n o p := by
  rw [neighbors_beginOverlap]
  split_ifs with hadd
  · rw [List.mem_append, List.mem_singleton]
    constructor
    · rintro (ho | ho)
      · exact Or.inl ho
      · exact Or.inr ⟨hadd.1.symm, ho.symm, hadd.2.1⟩
    · rintro (ho | ⟨-, ho, -⟩)
      · exact Or.inl ho
      · exact Or.inr ho.symm
  · constructor
    · exact Or.inl
    · rintro (ho | ⟨hn, ho, hbehind⟩)
      · exact ho
      · by_contra hnot
        exact hadd ⟨hn.symm, hbehind, by rwa [ho]⟩

/-- The level after the pairs begin. -/
def beginAll (w : World K) (ps : List Overlap) : World K := (ps.map Notice.begins).foldl notify w

theorem beginAll_cons (w : World K) (p : Overlap) (ps : List Overlap) :
    beginAll w (p :: ps) = beginAll (beginOverlap w p) ps := rfl

theorem onlyNeighbors_beginAll (w : World K) (ps : List Overlap) :
    OnlyNeighbors w (beginAll w ps) := onlyNeighbors_foldl onlyNeighbors_notify _ w

/-- **Who is a neighbour after pairs began.** -/
theorem mem_neighbors_beginAll (n o : ℕ) : ∀ (ps : List Overlap) (w : World K),
    o ∈ neighbors (beginAll w ps) n ↔ o ∈ neighbors w n ∨ ∃ p ∈ ps, Tells w n o p
  | [], w => by simp [beginAll]
  | p :: ps, w => by
    have hsame : ∀ q, Tells (beginOverlap w p) n o q ↔ Tells w n o q :=
      tells_congr (locationOf_onlyNeighbors (onlyNeighbors_beginOverlap w p)) n o
    rw [beginAll_cons, mem_neighbors_beginAll n o ps, mem_neighbors_beginOverlap, or_assoc]
    simp only [hsame, List.mem_cons, exists_eq_or_imp]

theorem nodup_neighbors_beginAll {n : ℕ} : ∀ (ps : List Overlap) {w : World K},
    (neighbors w n).Nodup → (neighbors (beginAll w ps) n).Nodup
  | [], _, h => h
  | p :: ps, _, h => nodup_neighbors_beginAll ps (nodup_neighbors_beginOverlap h p)

end Begins

/-! ### Neighbours while lanterns are loaded -/

section Loading
variable [Field K] [LinearOrder K] {m : ALanternManager K}

/-- The pairs that begin while lantern number `k` is spawned, and while it is moved. -/
def noticesOf (begins : ℕ → Bool → List Overlap) (k : ℕ) : LoadNotices where
  atSpawn := (begins k false).map Notice.begins
  atMove := (begins k true).map Notice.begins

omit [LinearOrder K] in
theorem neighbors_placedFor (w : World K) (r : Loadable m) (n : ℕ) :
    neighbors (placedFor w r) n = neighbors w n := by
  unfold neighbors placedFor
  dsimp only
  rw [getElem?_concat_ite]
  split_ifs with hn
  · rw [hn, List.getElem?_eq_none le_rfl]
    rfl
  · rfl

omit [LinearOrder K] in
theorem locationOf_placedFor (w : World K) (r : Loadable m) (n : ℕ) :
    locationOf (placedFor w r) n =
      if n = w.lanterns.length then some m.actorLocation else locationOf w n := by
  unfold locationOf placedFor
  dsimp only
  rw [getElem?_concat_ite]
  split_ifs <;> rfl

theorem locationOf_restoredIn (w : World K) (r : Loadable m) (n : ℕ) :
    locationOf (restoredIn w r) n =
      if n = w.lanterns.length then some r.data.transform.location else locationOf w n := by
  unfold locationOf restoredIn
  dsimp only
  rw [getElem?_concat_ite]
  split_ifs <;> rfl

theorem neighbors_outfittedIn (v : World K) (k : ℕ) (r : Loadable m) (n : ℕ) :
    neighbors (outfittedIn v k r) n = neighbors v n :=
  neighbors_modify (w := { v with textures := v.textures ++ [r.mip] })
    (neighborArray_outfittedFrom r v.textures.length) n

/-- While record number `k` is loaded, the lantern `n` is told of the lantern `o`. -/
def ToldAt (begins : ℕ → Bool → List Overlap) (w : World K) (r : Loadable m) (k n o : ℕ) : Prop :=
  (∃ p ∈ begins k false, Tells (placedFor w r) n o p) ∨
    ∃ p ∈ begins k true, Tells (restoredIn w r) n o p

theorem toldAt_congr (h : OnlyNeighbors w w') {begins : ℕ → Bool → List Overlap} {r : Loadable m}
    {k n o : ℕ} : ToldAt begins w' r k n o ↔ ToldAt begins w r k n o := by
  have hplaced : ∀ p, Tells (placedFor w' r) n o p ↔ Tells (placedFor w r) n o p := by
    refine tells_congr (fun j => ?_) n o
    rw [locationOf_placedFor, locationOf_placedFor, h.length, locationOf_onlyNeighbors h]
  have hrestored : ∀ p, Tells (restoredIn w' r) n o p ↔ Tells (restoredIn w r) n o p := by
    refine tells_congr (fun j => ?_) n o
    rw [locationOf_restoredIn, locationOf_restoredIn, h.length, locationOf_onlyNeighbors h]
  simp only [ToldAt, hplaced, hrestored]

/-- **Who is a neighbour after one load.** -/
theorem mem_neighbors_loaded (w : World K) (r : Loadable m) (begins : ℕ → Bool → List Overlap)
    (k n o : ℕ) : o ∈ neighbors (loaded w r (noticesOf begins k)) n ↔
      o ∈ neighbors w n ∨ ToldAt begins w r k n o := by
  have hmoved : ∀ p, Tells (outfittedIn (beginAll (placedFor w r) (begins k false))
      w.lanterns.length r) n o p ↔ Tells (restoredIn w r) n o p := by
    refine tells_congr (fun j => ?_) n o
    obtain ⟨ns, ticks, hj⟩ := onlyNeighbors_outfittedIn
      (onlyNeighbors_beginAll (placedFor w r) (begins k false)) j
    rw [locationOf, locationOf, hj, Option.map_map]
    rfl
  show o ∈ neighbors (beginAll (outfittedIn (beginAll (placedFor w r) (begins k false))
      w.lanterns.length r) (begins k true)) n ↔ _
  rw [mem_neighbors_beginAll, neighbors_outfittedIn, mem_neighbors_beginAll, neighbors_placedFor,
    or_assoc]
  simp only [hmoved, ToldAt]

theorem nodup_neighbors_loaded {n : ℕ} (h : (neighbors w n).Nodup) (r : Loadable m)
    (begins : ℕ → Bool → List Overlap) (k : ℕ) :
    (neighbors (loaded w r (noticesOf begins k)) n).Nodup := by
  refine nodup_neighbors_beginAll (begins k true)
    (w := outfittedIn (beginAll (placedFor w r) (begins k false)) w.lanterns.length r) ?_
  rw [neighbors_outfittedIn]
  refine nodup_neighbors_beginAll (begins k false) ?_
  rw [neighbors_placedFor]
  exact h

/-- **Who is a neighbour after all loads.** -/
theorem mem_neighbors_loadedAll (begins : ℕ → Bool → List Overlap) (n o : ℕ) :
    ∀ (rs : List (Loadable m)) (w : World K) (i : ℕ),
      o ∈ neighbors (loadedAll (noticesOf begins) w i rs) n ↔ o ∈ neighbors w n ∨
        ∃ k r, rs[k]? = some r ∧ ToldAt begins ((rs.take k).foldl restoredIn w) r (i + k) n o
  | [], w, i => by simp [loadedAll]
  | r :: rs, w, i => by
    -- later lanterns find the first one where its record put it
    have hlater : ∀ (k : ℕ) (r' : Loadable m), ToldAt begins ((rs.take k).foldl restoredIn
          (loaded w r (noticesOf begins i))) r' (i + 1 + k) n o ↔
        ToldAt begins (((r :: rs).take (k + 1)).foldl restoredIn w) r' (i + (k + 1)) n o := by
      intro k r'
      rw [Nat.add_assoc, Nat.add_comm 1 k]
      exact toldAt_congr (onlyNeighbors_restoredAll _ (onlyNeighbors_loaded w r _))
    rw [loadedAll, mem_neighbors_loadedAll begins n o rs, mem_neighbors_loaded, or_assoc]
    refine or_congr_right ?_
    constructor
    · rintro (hfirst | ⟨k, r', hk, htold⟩)
      · exact ⟨0, r, rfl, hfirst⟩
      · exact ⟨k + 1, r', hk, (hlater k r').mp htold⟩
    · rintro ⟨_ | k, r', hk, htold⟩
      · obtain rfl := Option.some.inj hk
        exact Or.inl htold
      · exact Or.inr ⟨k, r', hk, (hlater k r').mpr htold⟩

theorem nodup_neighbors_loadedAll {n : ℕ} (begins : ℕ → Bool → List Overlap) :
    ∀ (rs : List (Loadable m)) {w : World K} (i : ℕ), (neighbors w n).Nodup →
      (neighbors (loadedAll (noticesOf begins) w i rs) n).Nodup
  | [], _, _, h => h
  | r :: rs, _, i, h =>
    nodup_neighbors_loadedAll begins rs (i + 1) (nodup_neighbors_loaded h r begins i)

/-! ### Where the restored lanterns are -/

/-- Where lantern number `i` is while lantern number `k` is spawned, and when it was moved. -/
def locationWhile (m : ALanternManager K) (w : World K) (lanternArray : List ℕ) (k : ℕ)
    (moved : Bool) (i : ℕ) : Option (FVector K) :=
  if i < k ∨ i = k ∧ moved = true then (lanternArray[i]?).bind (locationOf w)
  else if i = k then some m.actorLocation else none

theorem locationOf_restoredAll (rs : List (Loadable m)) (w : World K) (i : ℕ) :
    locationOf (rs.foldl restoredIn w) (w.lanterns.length + i) =
      (rs[i]?).map (·.data.transform.location) := by
  rw [locationOf, lanterns_restoredAll, List.getElem?_append_right (by omega),
    Nat.add_sub_cancel_left, List.getElem?_mapIdx, Option.map_map]
  rfl

theorem length_restoredAll (rs : List (Loadable m)) (w : World K) :
    (rs.foldl restoredIn w).lanterns.length = w.lanterns.length + rs.length := by
  rw [lanterns_restoredAll, List.length_append, List.length_mapIdx]

section Places
variable {w₀ w₁ : World K} {lanternArray : List ℕ} {rs : List (Loadable m)}

theorem locationOf_take (hspots : ∀ i : ℕ, (rs[i]?).map (·.data.transform.location) =
      (lanternArray[i]?).bind (locationOf w₀)) (k i : ℕ) :
    locationOf ((rs.take k).foldl restoredIn w₁) (w₁.lanterns.length + i) =
      if i < k then (lanternArray[i]?).bind (locationOf w₀) else none := by
  rw [locationOf_restoredAll, List.getElem?_take]
  split_ifs
  · exact hspots i
  · rfl

/-- The lanterns are where their records put them. -/
theorem locationOf_while (w₁ : World K) (hspots : ∀ i : ℕ, (rs[i]?).map (·.data.transform.location) =
      (lanternArray[i]?).bind (locationOf w₀)) {k : ℕ} {r : Loadable m} (hr : rs[k]? = some r)
    (i : ℕ) :
    locationOf (placedFor ((rs.take k).foldl restoredIn w₁) r) (w₁.lanterns.length + i) =
        locationWhile m w₀ lanternArray k false i ∧
      locationOf (restoredIn ((rs.take k).foldl restoredIn w₁) r) (w₁.lanterns.length + i) =
        locationWhile m w₀ lanternArray k true i := by
  have hk : k < rs.length := (List.getElem?_eq_some_iff.mp hr).1
  have hlen : ((rs.take k).foldl restoredIn w₁).lanterns.length = w₁.lanterns.length + k := by
    rw [length_restoredAll, List.length_take, min_eq_left hk.le]
  have hlast : w₁.lanterns.length + i = w₁.lanterns.length + k ↔ i = k := by omega
  have hspot : some r.data.transform.location = (lanternArray[k]?).bind (locationOf w₀) := by
    rw [← hspots k, hr]
    rfl
  rw [locationOf_placedFor, locationOf_restoredIn, hlen, locationOf_take hspots]
  unfold locationWhile
  rcases Nat.lt_trichotomy i k with hlt | rfl | hgt
  · have hne : i ≠ k := hlt.ne
    simp [hlt, hne]
  · simp [hspot]
  · have hne : i ≠ k := hgt.ne'
    have hnlt : ¬ i < k := by omega
    simp [hne, hnlt]

/-- The engine tells lantern number `i` that it begins to overlap lantern number `j`, which is behind
it then; the lanterns are numbered from `n` on. -/
def Told (m : ALanternManager K) (w : World K) (lanternArray : List ℕ) (n : ℕ)
    (begins : ℕ → Bool → List Overlap) (i j : ℕ) : Prop :=
  ∃ k < lanternArray.length, ∃ moved, ∃ p ∈ begins k moved, p.mesh = n + i ∧ p.other = n + j ∧
    ∃ x y, locationWhile m w lanternArray k moved i = some x ∧
      locationWhile m w lanternArray k moved j = some y ∧ y.x < x.x

theorem told_iff (hspots : ∀ i : ℕ, (rs[i]?).map (·.data.transform.location) =
      (lanternArray[i]?).bind (locationOf w₀)) (hlen : rs.length = lanternArray.length)
    (begins : ℕ → Bool → List Overlap) (i j : ℕ) :
    (∃ k r, rs[k]? = some r ∧ ToldAt begins ((rs.take k).foldl restoredIn w₁) r k
      (w₁.lanterns.length + i) (w₁.lanterns.length + j)) ↔
      Told m w₀ lanternArray w₁.lanterns.length begins i j := by
  have hat : ∀ (k : ℕ) (r : Loadable m), rs[k]? = some r →
      (ToldAt begins ((rs.take k).foldl restoredIn w₁) r k
        (w₁.lanterns.length + i) (w₁.lanterns.length + j) ↔
      ∃ moved, ∃ p ∈ begins k moved, p.mesh = w₁.lanterns.length + i ∧
        p.other = w₁.lanterns.length + j ∧ ∃ x y,
          locationWhile m w₀ lanternArray k moved i = some x ∧
          locationWhile m w₀ lanternArray k moved j = some y ∧ y.x < x.x) := by
    intro k r hr
    obtain ⟨hi, hi'⟩ := locationOf_while w₁ hspots hr i
    obtain ⟨hj, hj'⟩ := locationOf_while w₁ hspots hr j
    rw [Bool.exists_bool, ToldAt]
    refine or_congr ?_ ?_
    · refine exists_congr fun p => and_congr_right fun _ => ?_
      refine and_congr_right fun hmesh => and_congr_right fun hother => ?_
      rw [behind_iff, hmesh, hother, hi, hj]
    · refine exists_congr fun p => and_congr_right fun _ => ?_
      refine and_congr_right fun hmesh => and_congr_right fun hother => ?_
      rw [behind_iff, hmesh, hother, hi', hj']
  constructor
  · rintro ⟨k, r, hr, htold⟩
    exact ⟨k, hlen ▸ (List.getElem?_eq_some_iff.mp hr).1, (hat k r hr).mp htold⟩
  · rintro ⟨k, hk, htold⟩
    have hr : rs[k]? = some rs[k] := List.getElem?_eq_getElem (hlen ▸ hk)
    exact ⟨k, rs[k], hr, (hat k _ hr).mpr htold⟩

end Places

end Loading

end LanternProject.Lantern.Noticed
