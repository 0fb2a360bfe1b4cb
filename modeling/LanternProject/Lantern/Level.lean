import LanternProject.Lantern.LanternActor
import LanternProject.Lantern.Texture

/-! # The lanterns of a level

`World` holds every lantern that was ever spawned, by its number, the array of the manager, the
textures, and the pairs of overlapping components the engine keeps: in a pair the mesh of one lantern
overlaps a component of another. The engine tells the first lantern of a pair when it begins and when
it ends, and before a lantern is gone it ends all the pairs it is in (`destroy`).

`neighbors_beginOverlap` and `neighbors_endOverlap` say what these notices do to the neighbours of a
lantern; they do nothing else (`OnlyNeighbors`). -/

namespace LanternProject.Lantern.Level

open LanternProject.Engine.Basic LanternProject.Engine.Vector
open LanternProject.Widget.LanternWidget
open LanternProject.Lantern.LanternActor LanternProject.Lantern.Texture

variable {K : Type}

/-- The mesh of a lantern overlaps a component of another lantern. -/
structure Overlap where
  mesh : ℕ
  other : ℕ
  component : ℕ
deriving DecidableEq

/-- The level. -/
@[ext]
structure World (K : Type) where
  types : LanternTypes
  textures : Textures
  lanterns : List (ALanternActor K)
  lanternArray : List ℕ
  overlaps : List Overlap

/-- The lantern a pointer points to. -/
def World.actor (w : World K) (n : ℕ) : Except Fault (ALanternActor K) :=
  match w.lanterns[n]? with
  | some l => .ok l
  | none => .error .nullPointer

/-- The world with one lantern changed. -/
def World.modify (w : World K) (n : ℕ) (f : ALanternActor K → ALanternActor K) : World K :=
  { w with lanterns := w.lanterns.modify n f }

/-- `OnLanternMeshEndOverlap` of the lantern `self`, with the lantern `other`. -/
def onLanternMeshEndOverlap (w : World K) (self other : ℕ) : World K :=
  w.modify self fun l =>
    if other ∈ l.neighborArray then
      { l with neighborArray := l.neighborArray.filter fun o => o ≠ other }
    else l

/-- A pair ends to overlap. -/
def endOverlap (w : World K) (p : Overlap) : World K :=
  onLanternMeshEndOverlap { w with overlaps := w.overlaps.filter fun q => q ≠ p } p.mesh p.other

/-- The pairs a lantern is in. -/
def pairsOf (w : World K) (n : ℕ) : List Overlap :=
  w.overlaps.filter fun p => p.mesh = n ∨ p.other = n

/-- `Destroy` of a lantern. -/
def destroy (w : World K) (n : ℕ) : World K :=
  ((pairsOf w n).foldl endOverlap w).modify n fun l => { l with alive := false }

/-! ### Lanterns -/

theorem actor_ok {w : World K} {n : ℕ} {l : ALanternActor K} :
    w.actor n = .ok l ↔ w.lanterns[n]? = some l := by
  unfold World.actor
  rcases w.lanterns[n]? with _ | l'
  · simp
  · simp

theorem actor_error {w : World K} {n : ℕ} {e : Fault} :
    w.actor n = .error e ↔ w.lanterns[n]? = none ∧ e = .nullPointer := by
  unfold World.actor
  rcases w.lanterns[n]? with _ | l'
  · simp [eq_comm]
  · simp

/-- The lanterns some pointers point to. -/
theorem actors_ok {w : World K} : ∀ {ns : List ℕ} {ls : List (ALanternActor K)},
    ns.mapM w.actor = .ok ls → ls.map some = ns.map (w.lanterns[·]?)
  | [], _, h => by
    cases h
    rfl
  | n :: ns, _, h => by
    rw [List.mapM_cons] at h
    obtain ⟨l, hl, h⟩ := bind_ok.mp h
    obtain ⟨ls, hls, h⟩ := bind_ok.mp h
    rw [← Except.ok.inj h, List.map_cons, List.map_cons, actors_ok hls, actor_ok.mp hl]

theorem getElem?_modify (w : World K) (n m : ℕ) (f : ALanternActor K → ALanternActor K) :
    (w.modify n f).lanterns[m]? = (w.lanterns[m]?).map fun l => if n = m then f l else l := by
  unfold World.modify
  rw [List.getElem?_modify]
  by_cases h : n = m
  · simp [h]
  · simp [h]

theorem getElem?_concat_of_ne {α : Type} {l : List α} {a : α} {k : ℕ} (hk : k ≠ l.length) :
    (l ++ [a])[k]? = l[k]? := by
  rcases Nat.lt_or_ge k l.length with hlt | hge
  · exact List.getElem?_append_left hlt
  · have hlen : (l ++ [a]).length ≤ k := by
      rw [List.length_append, List.length_singleton]
      omega
    rw [List.getElem?_eq_none hlen, List.getElem?_eq_none hge]

theorem getElem?_concat_ite {α : Type} (l : List α) (a : α) (k : ℕ) :
    (l ++ [a])[k]? = if k = l.length then some a else l[k]? := by
  split_ifs with hk
  · rw [hk, List.getElem?_concat_length]
  · exact getElem?_concat_of_ne hk

/-- What `f` keeps of a lantern is kept of all. -/
theorem map_getElem?_modify {α : Type} {g : ALanternActor K → α}
    {f : ALanternActor K → ALanternActor K} (hf : ∀ l, g (f l) = g l) (w : World K) (n m : ℕ) :
    ((w.modify n f).lanterns[m]?).map g = (w.lanterns[m]?).map g := by
  rw [getElem?_modify, Option.map_map]
  congr 1
  funext l
  by_cases h : n = m
  · simp [h, hf]
  · simp [h]

theorem length_modify (w : World K) (n : ℕ) (f : ALanternActor K → ALanternActor K) :
    (w.modify n f).lanterns.length = w.lanterns.length := List.length_modify _ _ _

/-- The neighbours of a lantern. -/
def neighbors (w : World K) (n : ℕ) : List ℕ := ((w.lanterns[n]?).map (·.neighborArray)).getD []

theorem neighbors_of_getElem? {w : World K} {n : ℕ} {l : ALanternActor K}
    (h : w.lanterns[n]? = some l) : neighbors w n = l.neighborArray := by
  rw [neighbors, h]
  rfl

theorem neighbors_modify {w : World K} {n : ℕ} {f : ALanternActor K → ALanternActor K}
    (hf : ∀ l, (f l).neighborArray = l.neighborArray) (m : ℕ) :
    neighbors (w.modify n f) m = neighbors w m := by
  unfold neighbors
  rw [map_getElem?_modify hf]

/-- The lantern with other neighbours, possibly ticking now. -/
def withNeighbors (l : ALanternActor K) (neighborArray : List ℕ) (tickEnabled : Bool) :
    ALanternActor K :=
  { l with neighborArray := neighborArray, tickEnabled := tickEnabled }

/-- The worlds differ in overlapping pairs and neighbours only. -/
structure OnlyNeighbors (w w' : World K) : Prop where
  types : w'.types = w.types
  textures : w'.textures = w.textures
  lanternArray : w'.lanternArray = w.lanternArray
  lanterns : ∀ m : ℕ, ∃ (ns : List ℕ) (ticks : Bool),
    w'.lanterns[m]? = (w.lanterns[m]?).map (withNeighbors · ns ticks)

theorem OnlyNeighbors.refl (w : World K) : OnlyNeighbors w w := by
  refine ⟨rfl, rfl, rfl, fun m => ?_⟩
  rcases h : w.lanterns[m]? with _ | l
  · exact ⟨[], false, rfl⟩
  · exact ⟨l.neighborArray, l.tickEnabled, rfl⟩

theorem OnlyNeighbors.trans {w₁ w₂ w₃ : World K} (h : OnlyNeighbors w₁ w₂)
    (h' : OnlyNeighbors w₂ w₃) : OnlyNeighbors w₁ w₃ := by
  refine ⟨h'.types.trans h.types, h'.textures.trans h.textures,
    h'.lanternArray.trans h.lanternArray, fun m => ?_⟩
  obtain ⟨ns, ticks, hm⟩ := h.lanterns m
  obtain ⟨ns', ticks', hm'⟩ := h'.lanterns m
  refine ⟨ns', ticks', ?_⟩
  rw [hm', hm, Option.map_map]
  rfl

/-- What holds of a lantern apart from its neighbours is kept. -/
theorem OnlyNeighbors.getElem? {w w' : World K} (h : OnlyNeighbors w w') {m : ℕ}
    {l : ALanternActor K} (hl : w.lanterns[m]? = some l) :
    ∃ ns ticks, w'.lanterns[m]? = some (withNeighbors l ns ticks) := by
  obtain ⟨ns, ticks, hm⟩ := h.lanterns m
  rw [hl] at hm
  exact ⟨ns, ticks, hm⟩

theorem OnlyNeighbors.length {w w' : World K} (h : OnlyNeighbors w w') :
    w'.lanterns.length = w.lanterns.length := by
  have key : ∀ m, w'.lanterns.length ≤ m ↔ w.lanterns.length ≤ m := by
    intro m
    obtain ⟨ns, ticks, hm⟩ := h.lanterns m
    rw [← List.getElem?_eq_none_iff, ← List.getElem?_eq_none_iff, hm, Option.map_eq_none_iff]
  have h1 := key w.lanterns.length
  have h2 := key w'.lanterns.length
  omega

theorem onlyNeighbors_foldl {α : Type} {f : World K → α → World K}
    (hf : ∀ w a, OnlyNeighbors w (f w a)) : ∀ (as : List α) (w : World K),
      OnlyNeighbors w (as.foldl f w)
  | [], w => OnlyNeighbors.refl w
  | a :: as, w => (hf w a).trans (onlyNeighbors_foldl hf as (f w a))

/-! ### Pairs that end -/

theorem onlyNeighbors_modify {w : World K} {n : ℕ} {f : ALanternActor K → ALanternActor K}
    (hf : ∀ l, ∃ ns ticks, f l = withNeighbors l ns ticks) : OnlyNeighbors w (w.modify n f) := by
  refine ⟨rfl, rfl, rfl, fun m => ?_⟩
  rw [getElem?_modify]
  rcases w.lanterns[m]? with _ | l
  · exact ⟨[], false, rfl⟩
  · by_cases h : n = m
    · obtain ⟨ns, ticks, hl⟩ := hf l
      refine ⟨ns, ticks, ?_⟩
      rw [Option.map_some, if_pos h, hl]
      rfl
    · refine ⟨l.neighborArray, l.tickEnabled, ?_⟩
      rw [Option.map_some, if_neg h]
      rfl

theorem onlyNeighbors_endOverlap (w : World K) (p : Overlap) :
    OnlyNeighbors w (endOverlap w p) := by
  have hover : OnlyNeighbors w { w with overlaps := w.overlaps.filter fun q => q ≠ p } :=
    ⟨rfl, rfl, rfl, (OnlyNeighbors.refl w).lanterns⟩
  refine hover.trans (onlyNeighbors_modify fun l => ?_)
  split_ifs
  · exact ⟨_, _, rfl⟩
  · exact ⟨l.neighborArray, l.tickEnabled, rfl⟩

/-- **A pair that ends** removes the other lantern. -/
theorem neighbors_endOverlap (w : World K) (p : Overlap) (m : ℕ) :
    neighbors (endOverlap w p) m =
      if m = p.mesh then (neighbors w m).filter fun o => o ≠ p.other else neighbors w m := by
  unfold endOverlap onLanternMeshEndOverlap neighbors
  rw [getElem?_modify]
  dsimp only
  rcases w.lanterns[m]? with _ | l
  · simp
  · by_cases hm : m = p.mesh
    · rw [if_pos hm, Option.map_some, if_pos hm.symm]
      split_ifs with ho
      · rfl
      · have hsame : l.neighborArray.filter (fun o => o ≠ p.other) = l.neighborArray := by
          rw [List.filter_eq_self]
          intro o hmem
          have hne : o ≠ p.other := fun he => ho (he ▸ hmem)
          simpa using hne
        exact hsame.symm
    · rw [if_neg hm, Option.map_some, if_neg (fun h => hm h.symm)]

/-- **What `Destroy` does**: end the pairs of the lantern, and mark it destroyed. -/
theorem onlyNeighbors_destroy (w : World K) (n : ℕ) : ∃ w', OnlyNeighbors w w' ∧
    destroy w n = w'.modify n fun l => { l with alive := false } :=
  ⟨_, onlyNeighbors_foldl onlyNeighbors_endOverlap _ _, rfl⟩

theorem lanternArray_destroy (w : World K) (n : ℕ) :
    (destroy w n).lanternArray = w.lanternArray := by
  obtain ⟨w', h, hd⟩ := onlyNeighbors_destroy w n
  rw [hd]
  exact h.lanternArray

theorem types_destroy (w : World K) (n : ℕ) : (destroy w n).types = w.types := by
  obtain ⟨w', h, hd⟩ := onlyNeighbors_destroy w n
  rw [hd]
  exact h.types

theorem textures_destroy (w : World K) (n : ℕ) : (destroy w n).textures = w.textures := by
  obtain ⟨w', h, hd⟩ := onlyNeighbors_destroy w n
  rw [hd]
  exact h.textures

theorem length_destroy (w : World K) (n : ℕ) :
    (destroy w n).lanterns.length = w.lanterns.length := by
  obtain ⟨w', h, hd⟩ := onlyNeighbors_destroy w n
  rw [hd, length_modify]
  exact h.length

/-- Whether a lantern was destroyed; `none` if there is no such lantern. -/
def aliveAt (w : World K) (n : ℕ) : Option Bool := (w.lanterns[n]?).map (·.alive)

theorem OnlyNeighbors.aliveAt {w w' : World K} (h : OnlyNeighbors w w') (n : ℕ) :
    aliveAt w' n = aliveAt w n := by
  obtain ⟨ns, ticks, hn⟩ := h.lanterns n
  rw [Level.aliveAt, Level.aliveAt, hn, Option.map_map]
  rfl

theorem aliveAt_modify (w : World K) (n m : ℕ) {f : ALanternActor K → ALanternActor K}
    (hf : ∀ l, (f l).alive = l.alive) : aliveAt (w.modify n f) m = aliveAt w m :=
  map_getElem?_modify hf w n m

theorem aliveAt_destroy (w : World K) (n m : ℕ) :
    aliveAt (destroy w n) m =
      if m = n then (aliveAt w m).map fun _ => false else aliveAt w m := by
  obtain ⟨w', h, hd⟩ := onlyNeighbors_destroy w n
  rw [hd, ← h.aliveAt m, aliveAt, aliveAt, getElem?_modify, Option.map_map]
  by_cases hm : m = n
  · subst hm
    rw [if_pos rfl, Option.map_map]
    simp [Function.comp_def]
  · rw [if_neg hm]
    congr 1
    funext l
    have hnm : ¬ n = m := fun h => hm h.symm
    simp [hnm]

theorem aliveAt_destroyAll : ∀ (ns : List ℕ) (w : World K) (m : ℕ),
    aliveAt (ns.foldl destroy w) m =
      if m ∈ ns then (aliveAt w m).map fun _ => false else aliveAt w m
  | [], _, _ => by simp
  | n :: ns, w, m => by
    rw [List.foldl_cons, aliveAt_destroyAll ns (destroy w n) m, aliveAt_destroy]
    by_cases hn : m = n
    · by_cases hns : m ∈ ns
      · simp [hn, Option.map_map, Function.comp_def]
      · simp [hn]
    · simp [hn]

theorem length_destroyAll : ∀ (ns : List ℕ) (w : World K),
    (ns.foldl destroy w).lanterns.length = w.lanterns.length
  | [], _ => rfl
  | n :: ns, w => by rw [List.foldl_cons, length_destroyAll ns, length_destroy]

theorem textures_destroyAll : ∀ (ns : List ℕ) (w : World K),
    (ns.foldl destroy w).textures = w.textures
  | [], _ => rfl
  | n :: ns, w => by rw [List.foldl_cons, textures_destroyAll ns, textures_destroy]

/-! ### Where lanterns are -/

/-- Where a lantern is. -/
def locationOf (w : World K) (n : ℕ) : Option (FVector K) := (w.lanterns[n]?).map (·.location)

theorem locationOf_onlyNeighbors {w w' : World K} (h : OnlyNeighbors w w') (n : ℕ) :
    locationOf w' n = locationOf w n := by
  obtain ⟨ns, ticks, hn⟩ := h.lanterns n
  rw [locationOf, locationOf, hn, Option.map_map]
  rfl

theorem locationOf_modify {f : ALanternActor K → ALanternActor K}
    (hf : ∀ l, (f l).location = l.location) (w : World K) (n m : ℕ) :
    locationOf (w.modify n f) m = locationOf w m := map_getElem?_modify hf w n m

/-! ### Pairs that begin -/

variable [LinearOrder K]

/-- `OnLanternMeshBeginOverlap` of the lantern `self`, with the lantern `other`. -/
def onLanternMeshBeginOverlap (w : World K) (self other : ℕ) : World K :=
  match w.lanterns[self]?, w.lanterns[other]? with
  | some l, some otherLantern =>
    if other ∉ l.neighborArray ∧ otherLantern.location.x < l.location.x then
      w.modify self fun l =>
        { l with neighborArray := l.neighborArray ++ [other], tickEnabled := true }
    else w
  | _, _ => w

/-- A pair begins to overlap. -/
def beginOverlap (w : World K) (p : Overlap) : World K :=
  onLanternMeshBeginOverlap { w with overlaps := w.overlaps ++ [p] } p.mesh p.other

/-- What the engine tells a lantern. -/
inductive Notice where
  | begins (p : Overlap)
  | ends (p : Overlap)
deriving DecidableEq

/-- The world after a notice. -/
def notify (w : World K) : Notice → World K
  | .begins p => beginOverlap w p
  | .ends p => endOverlap w p

theorem onlyNeighbors_beginOverlap (w : World K) (p : Overlap) :
    OnlyNeighbors w (beginOverlap w p) := by
  have hover : OnlyNeighbors w { w with overlaps := w.overlaps ++ [p] } :=
    ⟨rfl, rfl, rfl, (OnlyNeighbors.refl w).lanterns⟩
  unfold beginOverlap onLanternMeshBeginOverlap
  split
  · split_ifs
    · exact hover.trans (onlyNeighbors_modify fun l => ⟨_, _, rfl⟩)
    · exact hover
  · exact hover

theorem onlyNeighbors_notify (w : World K) (n : Notice) : OnlyNeighbors w (notify w n) := by
  rcases n with p | p
  · exact onlyNeighbors_beginOverlap w p
  · exact onlyNeighbors_endOverlap w p

/-- The other lantern of the pair is behind the first. -/
def Behind (w : World K) (p : Overlap) : Prop :=
  ∃ l other, w.lanterns[p.mesh]? = some l ∧ w.lanterns[p.other]? = some other ∧
    other.location.x < l.location.x

open Classical in
/-- **A pair that begins** adds the other lantern, if it is behind and not there yet. -/
theorem neighbors_beginOverlap (w : World K) (p : Overlap) (m : ℕ) :
    neighbors (beginOverlap w p) m =
      if m = p.mesh ∧ Behind w p ∧ p.other ∉ neighbors w m then neighbors w m ++ [p.other]
      else neighbors w m := by
  unfold beginOverlap onLanternMeshBeginOverlap
  dsimp only
  rcases hl : w.lanterns[p.mesh]? with _ | l
  · have hn : ¬ Behind w p := by
      rintro ⟨l, other, hl', -, -⟩
      rw [hl] at hl'
      exact absurd hl' (by simp)
    rw [if_neg (fun h => hn h.2.1)]
    rfl
  rcases ho : w.lanterns[p.other]? with _ | other
  · have hn : ¬ Behind w p := by
      rintro ⟨l, other, -, ho', -⟩
      rw [ho] at ho'
      exact absurd ho' (by simp)
    rw [if_neg (fun h => hn h.2.1)]
    rfl
  have hb : Behind w p ↔ other.location.x < l.location.x := by
    constructor
    · rintro ⟨l', other', hl', ho', hlt⟩
      rw [hl] at hl'
      rw [ho] at ho'
      rw [Option.some.inj hl', Option.some.inj ho']
      exact hlt
    · exact fun hlt => ⟨l, other, hl, ho, hlt⟩
  have hmesh : neighbors w p.mesh = l.neighborArray := neighbors_of_getElem? hl
  dsimp only
  by_cases hadd : p.other ∉ l.neighborArray ∧ other.location.x < l.location.x
  · rw [if_pos hadd]
    unfold neighbors
    rw [getElem?_modify]
    by_cases hm : p.mesh = m
    · subst hm
      rw [if_pos ⟨rfl, hb.mpr hadd.2, by rw [hl]; exact hadd.1⟩]
      simp [hl]
    · rw [if_neg (fun h => hm h.1.symm)]
      simp [hm]
  · rw [if_neg hadd]
    have hn : ¬ (m = p.mesh ∧ Behind w p ∧ p.other ∉ neighbors w m) := by
      rintro ⟨rfl, hbeh, hnot⟩
      rw [hmesh] at hnot
      exact hadd ⟨hnot, hb.mp hbeh⟩
    rw [if_neg hn]
    rfl

/-- So nobody is listed twice. -/
theorem nodup_neighbors_beginOverlap {w : World K} {n : ℕ} (h : (neighbors w n).Nodup)
    (p : Overlap) : (neighbors (beginOverlap w p) n).Nodup := by
  rw [neighbors_beginOverlap]
  split_ifs with hadd
  · rw [List.nodup_append]
    refine ⟨h, List.nodup_singleton _, fun a ha b hb he => ?_⟩
    rw [List.mem_singleton.mp hb] at he
    exact hadd.2.2 (he ▸ ha)
  · exact h

end LanternProject.Lantern.Level
