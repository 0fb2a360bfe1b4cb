import LanternProject.Lantern.Neighbors
import LanternProject.Lantern.Noticed

/-! # Who flies in front

A lantern is in front of those it lists when it is told of them (`InFront`). The engine's notices,
spawning, removing and saving keep this; so does a lantern that moves, if it does not get back to one
it lists or up to one that lists it (`inFront_modify`). -/

namespace LanternProject.Lantern.Order

open LanternProject.Engine.Str LanternProject.Engine.Vector LanternProject.Widget.LanternWidget
open LanternProject.Engine.Basic
open LanternProject.Lantern.LanternActor LanternProject.Lantern.LanternManager
open LanternProject.Lantern.Level LanternProject.Lantern.Neighbors LanternProject.Lantern.Noticed
open LanternProject.Lantern.SaveData

variable {K : Type} [Field K] [LinearOrder K] {env : LanternActor.Env K} {w w' : World K}
  {l : ALanternActor K}

/-- Every neighbour is behind. -/
def InFront (w : World K) : Prop :=
  ∀ n, ∀ o ∈ neighbors w n,
    ∃ p q, locationOf w n = some p ∧ locationOf w o = some q ∧ q.x < p.x

omit [Field K] in
/-- Nobody is in front of itself. -/
theorem InFront.ne (h : InFront w) {n o : ℕ} (ho : o ∈ neighbors w n) : n ≠ o := by
  rintro rfl
  obtain ⟨p, q, hp, hq, hlt⟩ := h n n ho
  rw [Option.some.inj (hp.symm.trans hq)] at hlt
  exact lt_irrefl _ hlt

/-! ### What leaves the order alone -/

omit [Field K] in
/-- The lanterns that were there stay where they are, and nobody gets a neighbour. -/
theorem inFront_of_fewer (h : InFront w)
    (hlocation : ∀ n p, locationOf w n = some p → locationOf w' n = some p)
    (hneighbors : ∀ n, ∀ o ∈ neighbors w' n, o ∈ neighbors w n) : InFront w' := by
  intro n o ho
  obtain ⟨p, q, hp, hq, hlt⟩ := h n o (hneighbors n o ho)
  exact ⟨p, q, hlocation n p hp, hlocation o q hq, hlt⟩

omit [Field K] in
/-- **A notice**: a pair that begins adds who is behind. -/
theorem inFront_notify (h : InFront w) (notice : Notice) : InFront (notify w notice) := by
  have hlocation := locationOf_onlyNeighbors (onlyNeighbors_notify w notice)
  rcases notice with p | p
  · intro n o ho
    rw [hlocation, hlocation]
    rcases (mem_neighbors_beginOverlap w p n o).mp ho with ho | ⟨rfl, rfl, hbehind⟩
    · exact h n o ho
    · exact (behind_iff p).mp hbehind
  · refine inFront_of_fewer h (fun n p hp => (hlocation n).trans hp) fun n o ho => ?_
    exact ((mem_neighbors_endAll n o [p] w).mp ho).1

omit [Field K] in
theorem inFront_notices : ∀ (notices : List Notice) {w : World K}, InFront w →
    InFront (notices.foldl notify w)
  | [], _, h => h
  | notice :: notices, _, h => inFront_notices notices (inFront_notify h notice)

omit [Field K] in
theorem inFront_destroy (h : InFront w) (n : ℕ) : InFront (destroy w n) := by
  have hended := onlyNeighbors_foldl onlyNeighbors_endOverlap (pairsOf w n) w
  have hlocation : ∀ m, locationOf (destroy w n) m = locationOf w m := by
    intro m
    rw [← locationOf_onlyNeighbors hended m]
    exact locationOf_modify (f := fun l => { l with alive := false }) (fun _ => rfl) _ n m
  have hneighbors : ∀ m,
      neighbors (destroy w n) m = neighbors ((pairsOf w n).foldl endOverlap w) m :=
    neighbors_modify fun _ => rfl
  refine inFront_of_fewer h (fun m p hp => (hlocation m).trans hp) fun m o ho => ?_
  rw [hneighbors] at ho
  exact ((mem_neighbors_endAll m o _ w).mp ho).1

omit [Field K] in
theorem inFront_destroyAll : ∀ (ns : List ℕ) {w : World K}, InFront w →
    InFront (ns.foldl destroy w)
  | [], _, h => h
  | n :: ns, _, h => inFront_destroyAll ns (inFront_destroy h n)

omit [Field K] in
theorem inFront_indexed (h : InFront w) (lanternArray ns : List ℕ) :
    InFront (indexed lanternArray ns w) := by
  have hlocation : ∀ n, locationOf (indexed lanternArray ns w) n = locationOf w n :=
    map_getElem?_indexed (fun _ _ => rfl) lanternArray ns w
  refine inFront_of_fewer h (fun n p hp => (hlocation n).trans hp) fun n o ho => ?_
  rw [neighbors_indexed] at ho
  exact ho

/-- **Spawning** a lantern, which the engine may tell of others. -/
theorem inFront_justSpawnLantern {m : ALanternManager K} {image : Option UTexture2D}
    {text : FString} {choice : LanternChoice K} {notices : List Notice} {n : ℕ} (h : InFront w)
    (hj : justSpawnLantern env m w image text choice notices = .ok (w', n)) : InFront w' := by
  obtain ⟨-, classes, lanternClass, types, letter, textures, texture, v, -, -, hv, -, rfl⟩ :=
    justSpawnLantern_ok hj
  have hplaced : InFront (placed m w types lanternClass) := by
    refine inFront_of_fewer h (fun k p hp => ?_) fun k o ho => ?_
    · have hk : k ≠ w.lanterns.length := by
        rintro rfl
        rw [locationOf, List.getElem?_eq_none le_rfl] at hp
        exact absurd hp (by simp)
      rw [locationOf, placed]
      dsimp only
      rw [getElem?_concat_of_ne hk]
      exact hp
    · rw [neighbors_placed] at ho
      exact ho
  have hnotified : InFront v := hv ▸ inFront_notices notices hplaced
  refine inFront_of_fewer hnotified (fun k p hp => ?_) fun k o ho => ?_
  · rw [← hp]
    exact locationOf_modify (w := { v with textures := textures }) (location_outfitted m _ _ _ _ _) _ k
  · rw [neighbors_modify (neighborArray_outfitted m _ _ _ _ _)] at ho
    exact ho

/-! ### Moves -/

omit [Field K] [LinearOrder K] in
theorem locationOf_moved {f : ALanternActor K → ALanternActor K} {n : ℕ}
    (hl : w.lanterns[n]? = some l) (m : ℕ) :
    locationOf (w.modify n f) m = if n = m then some (f l).location else locationOf w m := by
  rw [locationOf, getElem?_modify, Option.map_map]
  split_ifs with hm
  · subst hm
    rw [hl]
    rfl
  · rfl

omit [Field K] in
/-- **A lantern moves**, not back if it has neighbours, and not up to a lantern that lists it. -/
theorem inFront_modify (h : InFront w) {f : ALanternActor K → ALanternActor K} (hf : OnlyMoves f)
    {n : ℕ} (hl : w.lanterns[n]? = some l)
    (hforward : neighbors w n ≠ [] → l.location.x ≤ (f l).location.x)
    (hlisted : ∀ m p, n ∈ neighbors w m → locationOf w m = some p → (f l).location.x < p.x) :
    InFront (w.modify n f) := by
  have hat : locationOf w n = some l.location := by
    rw [locationOf, hl]
    rfl
  intro m o ho
  rw [neighbors_modify hf.neighborArray] at ho
  rw [locationOf_moved hl, locationOf_moved hl]
  obtain ⟨p, q, hp, hq, hlt⟩ := h m o ho
  by_cases hm : n = m
  · -- it was in front of its neighbours and moves on
    subst hm
    obtain rfl := Option.some.inj (hat.symm.trans hp)
    rw [if_pos rfl, if_neg (h.ne ho)]
    exact ⟨_, q, rfl, hq, hlt.trans_le (hforward (List.ne_nil_of_mem ho))⟩
  · rw [if_neg hm]
    by_cases ho' : n = o
    · subst ho'
      rw [if_pos rfl]
      exact ⟨p, _, hp, rfl, hlisted m p ho hp⟩
    · rw [if_neg ho']
      exact ⟨p, q, hp, hq, hlt⟩

omit [Field K] in
/-- **A move that keeps X** keeps the order. -/
theorem inFront_sideways (h : InFront w) {f : ALanternActor K → ALanternActor K} (hf : OnlyMoves f)
    (hx : ∀ l, (f l).location.x = l.location.x) (n : ℕ) : InFront (w.modify n f) := by
  rcases hl : w.lanterns[n]? with _ | l
  · have hsame : ∀ m, locationOf (w.modify n f) m = locationOf w m := by
      intro m
      rw [locationOf, getElem?_modify, Option.map_map, locationOf]
      by_cases hm : n = m
      · rw [← hm, hl]
        rfl
      · simp only [hm, if_false, Function.comp_def]
    refine inFront_of_fewer h (fun m p hp => (hsame m).trans hp) fun m o ho => ?_
    rwa [neighbors_modify hf.neighborArray] at ho
  · refine inFront_modify h hf hl (fun _ => (hx l).ge) fun m p hn hp => ?_
    obtain ⟨p', q, hp', hq, hlt⟩ := h m n hn
    rw [locationOf, hl, Option.map_some] at hq
    rw [hx, Option.some.inj hq, ← Option.some.inj (hp'.symm.trans hp)]
    exact hlt

end LanternProject.Lantern.Order
