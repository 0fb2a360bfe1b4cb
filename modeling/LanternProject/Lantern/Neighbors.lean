import LanternProject.Lantern.Retained

/-! # Who is a neighbour

The engine tells a lantern of every pair it is the mesh of, when the pair begins and when it ends;
`Legal` says that it does so in turn, between two lanterns that are there. The notices do not say
which component overlapped, so a lantern can lose a neighbour that it still overlaps otherwise; but
every neighbour belongs to an open pair (`Linked`), and the pairs of a destroyed lantern are ended.
So a neighbour is alive, hence in the array, and its place there is what a save records. -/

namespace LanternProject.Lantern.Neighbors

open LanternProject.Lib.Runs LanternProject.Lib.Recent
open LanternProject.Engine.Basic LanternProject.Engine.Str LanternProject.Engine.Vector
open LanternProject.Widget.LanternWidget LanternProject.Save.LanternSaveGame
open LanternProject.Lantern.LanternActor LanternProject.Lantern.Texture
open LanternProject.Lantern.Level LanternProject.Lantern.LanternManager
open LanternProject.Lantern.SaveData LanternProject.Lantern.System
open LanternProject.Lantern.Retained LanternProject.Lantern.Tick

variable {K : Type}

/-! ### What the engine may tell -/

/-- The pairs after a notice. -/
def overlapsAfter (overlaps : List Overlap) : Notice → List Overlap
  | .begins p => overlaps ++ [p]
  | .ends p => overlaps.filter fun q => q ≠ p

/-- A pair begins that is not open, between two lanterns that are there; an open pair ends. -/
def LegalNotice (alive : ℕ → Prop) (overlaps : List Overlap) : Notice → Prop
  | .begins p => p.mesh ≠ p.other ∧ alive p.mesh ∧ alive p.other ∧ p ∉ overlaps
  | .ends p => p ∈ overlaps

/-- The same for notices one after the other. -/
def LegalNotices (alive : ℕ → Prop) : List Overlap → List Notice → Prop
  | _, [] => True
  | overlaps, notice :: notices =>
    LegalNotice alive overlaps notice ∧ LegalNotices alive (overlapsAfter overlaps notice) notices

/-- The notices of an event are legal; those of a spawn may be about the new lantern. -/
def Legal (s : State K) : Event K → Prop
  | .spawnLantern _ _ _ notices =>
    LegalNotices (fun n => aliveAt s.world n = some true ∨ n = s.world.lanterns.length)
      s.world.overlaps notices
  | .beginOverlap p => LegalNotice (fun n => aliveAt s.world n = some true) s.world.overlaps (.begins p)
  | .endOverlap p => LegalNotice (fun n => aliveAt s.world n = some true) s.world.overlaps (.ends p)
  | .tick _ _ notices =>
    LegalNotices (fun n => aliveAt s.world n = some true) s.world.overlaps notices.all
  | _ => True

instance (alive : ℕ → Prop) [DecidablePred alive] (overlaps : List Overlap) (notice : Notice) :
    Decidable (LegalNotice alive overlaps notice) :=
  match notice with
  | .begins p =>
    inferInstanceAs (Decidable (p.mesh ≠ p.other ∧ alive p.mesh ∧ alive p.other ∧ p ∉ overlaps))
  | .ends p => inferInstanceAs (Decidable (p ∈ overlaps))

instance decidableLegalNotices (alive : ℕ → Prop) [DecidablePred alive] : ∀ (overlaps : List Overlap)
    (notices : List Notice), Decidable (LegalNotices alive overlaps notices)
  | _, [] => isTrue trivial
  | overlaps, notice :: notices =>
    have := decidableLegalNotices alive (overlapsAfter overlaps notice) notices
    inferInstanceAs (Decidable (LegalNotice alive overlaps notice ∧ _))

instance (s : State K) (e : Event K) : Decidable (Legal s e) :=
  match e with
  | .spawnLantern _ _ _ notices => decidableLegalNotices
      (fun n => aliveAt s.world n = some true ∨ n = s.world.lanterns.length)
      s.world.overlaps notices
  | .beginOverlap p => inferInstanceAs (Decidable
      (LegalNotice (fun n => aliveAt s.world n = some true) s.world.overlaps (.begins p)))
  | .endOverlap p => inferInstanceAs (Decidable
      (LegalNotice (fun n => aliveAt s.world n = some true) s.world.overlaps (.ends p)))
  | .tick _ _ notices => decidableLegalNotices (fun n => aliveAt s.world n = some true)
      s.world.overlaps notices.all
  | .removeAllLantern | .move _ _ | .textureFromWidget _ _ | .base64ToTexture2D _ _
  | .saveLanternArray _ | .loadLantern _ _ | .loadLanternArray _ => isTrue trivial

instance (e : Event K) : Decidable e.LoadsNone :=
  match e with
  | .loadLantern _ _ | .loadLanternArray _ => isFalse id
  | .spawnLantern _ _ _ _ | .removeAllLantern | .tick _ _ _ | .move _ _ | .beginOverlap _
  | .endOverlap _ | .textureFromWidget _ _ | .base64ToTexture2D _ _ | .saveLanternArray _ =>
    isTrue trivial

/-! ### The pairs of a level -/

/-- Neighbours are listed once and belong to open pairs, and open pairs to living lanterns. -/
structure Linked (w : World K) : Prop where
  nodup : ∀ n, (neighbors w n).Nodup
  open_pair : ∀ n, ∀ o ∈ neighbors w n, ∃ p ∈ w.overlaps, p.mesh = n ∧ p.other = o
  ne : ∀ p ∈ w.overlaps, p.mesh ≠ p.other
  alive : ∀ p ∈ w.overlaps, aliveAt w p.mesh = some true ∧ aliveAt w p.other = some true

variable {w w' : World K}

/-- What leaves pairs, neighbours and lives alone keeps this. -/
theorem linked_same (h : Linked w) (hpairs : w'.overlaps = w.overlaps)
    (hneighbors : ∀ n, neighbors w' n = neighbors w n)
    (halive : ∀ n, aliveAt w n = some true → aliveAt w' n = some true) : Linked w' := by
  refine ⟨fun n => ?_, fun n o ho => ?_, fun p hp => ?_, fun p hp => ?_⟩
  · rw [hneighbors]
    exact h.nodup n
  · rw [hneighbors] at ho
    rw [hpairs]
    exact h.open_pair n o ho
  · rw [hpairs] at hp
    exact h.ne p hp
  · rw [hpairs] at hp
    obtain ⟨hm, ho⟩ := h.alive p hp
    exact ⟨halive _ hm, halive _ ho⟩

theorem overlaps_endOverlap (w : World K) (p : Overlap) :
    (endOverlap w p).overlaps = w.overlaps.filter fun q => q ≠ p := rfl

/-- **A pair that ends** takes the neighbour with it; the other neighbours have pairs of their own. -/
theorem linked_endOverlap (h : Linked w) (p : Overlap) : Linked (endOverlap w p) := by
  have hmem : ∀ q, q ∈ (endOverlap w p).overlaps ↔ q ∈ w.overlaps ∧ q ≠ p := by
    intro q
    rw [overlaps_endOverlap, List.mem_filter, decide_eq_true_eq]
  have hlives : ∀ n, aliveAt (endOverlap w p) n = aliveAt w n :=
    (onlyNeighbors_endOverlap w p).aliveAt
  refine ⟨fun n => ?_, fun n o ho => ?_, fun q hq => ?_, fun q hq => ?_⟩
  · rw [neighbors_endOverlap]
    split_ifs
    · exact (h.nodup n).filter _
    · exact h.nodup n
  · rw [neighbors_endOverlap] at ho
    by_cases hn : n = p.mesh
    · rw [if_pos hn, List.mem_filter, decide_eq_true_eq] at ho
      obtain ⟨q, hq, hqm, hqo⟩ := h.open_pair n o ho.1
      have hqp : q ≠ p := fun he => ho.2 (by rw [← hqo, he])
      exact ⟨q, (hmem q).mpr ⟨hq, hqp⟩, hqm, hqo⟩
    · rw [if_neg hn] at ho
      obtain ⟨q, hq, hqm, hqo⟩ := h.open_pair n o ho
      have hqp : q ≠ p := fun he => hn (by rw [← hqm, he])
      exact ⟨q, (hmem q).mpr ⟨hq, hqp⟩, hqm, hqo⟩
  · exact h.ne q ((hmem q).mp hq).1
  · rw [hlives, hlives]
    exact h.alive q ((hmem q).mp hq).1

theorem linked_endAll : ∀ (ps : List Overlap) {w : World K}, Linked w → Linked (ps.foldl endOverlap w)
  | [], _, h => h
  | p :: ps, _, h => linked_endAll ps (linked_endOverlap h p)

theorem mem_overlaps_endAll (q : Overlap) : ∀ (ps : List Overlap) (w : World K),
    q ∈ (ps.foldl endOverlap w).overlaps ↔ q ∈ w.overlaps ∧ q ∉ ps
  | [], w => by simp
  | p :: ps, w => by
    rw [List.foldl_cons, mem_overlaps_endAll q ps, overlaps_endOverlap, List.mem_filter,
      decide_eq_true_eq, List.mem_cons, not_or, and_assoc]

/-- **Endings** remove whoever they are about. -/
theorem mem_neighbors_endAll (n o : ℕ) : ∀ (ps : List Overlap) (w : World K),
    o ∈ neighbors (ps.foldl endOverlap w) n ↔
      o ∈ neighbors w n ∧ ¬ ∃ p ∈ ps, p.mesh = n ∧ p.other = o
  | [], w => by simp
  | q :: ps, w => by
    have hone : o ∈ neighbors (endOverlap w q) n ↔
        o ∈ neighbors w n ∧ ¬ (q.mesh = n ∧ q.other = o) := by
      rw [neighbors_endOverlap]
      split_ifs with hn
      · rw [List.mem_filter, decide_eq_true_eq, hn]
        simp only [true_and, eq_comm]
      · have hne : ¬ q.mesh = n := fun h => hn h.symm
        simp only [hne, false_and, not_false_eq_true, and_true]
    rw [List.foldl_cons, mem_neighbors_endAll n o ps, hone]
    simp only [List.mem_cons, exists_eq_or_imp, not_or, and_assoc]

/-- **Destroying** a lantern leaves no pair it was in. -/
theorem linked_destroy (h : Linked w) (n : ℕ) : Linked (destroy w n) := by
  have hended := linked_endAll (pairsOf w n) h
  have hout : ∀ q ∈ (destroy w n).overlaps, q.mesh ≠ n ∧ q.other ≠ n := by
    intro q hq
    obtain ⟨hmem, hnot⟩ := (mem_overlaps_endAll q (pairsOf w n) w).mp hq
    rw [pairsOf, List.mem_filter, decide_eq_true_eq] at hnot
    exact not_or.mp fun hor => hnot ⟨hmem, hor⟩
  have hnb : ∀ m, neighbors (destroy w n) m = neighbors ((pairsOf w n).foldl endOverlap w) m :=
    neighbors_modify fun _ => rfl
  have hlives : ∀ m, m ≠ n →
      aliveAt (destroy w n) m = aliveAt ((pairsOf w n).foldl endOverlap w) m := by
    intro m hm
    rw [aliveAt_destroy, if_neg hm]
    exact ((onlyNeighbors_foldl onlyNeighbors_endOverlap _ _).aliveAt m).symm
  refine ⟨fun m => ?_, fun m o ho => ?_, hended.ne, fun q hq => ?_⟩
  · rw [hnb]
    exact hended.nodup m
  · rw [hnb] at ho
    exact hended.open_pair m o ho
  · obtain ⟨hm, ho⟩ := hout q hq
    rw [hlives _ hm, hlives _ ho]
    exact hended.alive q hq

theorem linked_destroyAll : ∀ (ns : List ℕ) {w : World K}, Linked w → Linked (ns.foldl destroy w)
  | [], _, h => h
  | n :: ns, _, h => linked_destroyAll ns (linked_destroy h n)

theorem neighbors_indexed (lanternArray ns : List ℕ) (w : World K) (n : ℕ) :
    neighbors (indexed lanternArray ns w) n = neighbors w n := by
  unfold neighbors
  rw [map_getElem?_indexed fun _ _ => rfl]

theorem linked_indexed (h : Linked w) (lanternArray ns : List ℕ) :
    Linked (indexed lanternArray ns w) := by
  refine linked_same h rfl (neighbors_indexed lanternArray ns w) fun n hn => ?_
  rw [aliveAt_indexed]
  exact hn

variable [LinearOrder K]

theorem overlaps_beginOverlap (w : World K) (p : Overlap) :
    (beginOverlap w p).overlaps = w.overlaps ++ [p] := by
  unfold beginOverlap onLanternMeshBeginOverlap
  split
  · split_ifs <;> rfl
  · rfl

/-- **A pair that begins** is there for the neighbour it adds. -/
theorem linked_beginOverlap (h : Linked w) {p : Overlap} (hne : p.mesh ≠ p.other)
    (hmesh : aliveAt w p.mesh = some true) (hother : aliveAt w p.other = some true) :
    Linked (beginOverlap w p) := by
  have hmem : ∀ q, q ∈ (beginOverlap w p).overlaps ↔ q ∈ w.overlaps ∨ q = p := by
    intro q
    rw [overlaps_beginOverlap, List.mem_append, List.mem_singleton]
  have hlives : ∀ n, aliveAt (beginOverlap w p) n = aliveAt w n :=
    (onlyNeighbors_beginOverlap w p).aliveAt
  have hold : ∀ n, ∀ o ∈ neighbors w n,
      ∃ q ∈ (beginOverlap w p).overlaps, q.mesh = n ∧ q.other = o := by
    intro n o ho
    obtain ⟨q, hq, hpair⟩ := h.open_pair n o ho
    exact ⟨q, (hmem q).mpr (Or.inl hq), hpair⟩
  refine ⟨fun n => ?_, fun n o ho => ?_, fun q hq => ?_, fun q hq => ?_⟩
  · exact nodup_neighbors_beginOverlap (h.nodup n) p
  · rw [neighbors_beginOverlap] at ho
    split_ifs at ho with hadd
    · rcases List.mem_append.mp ho with ho | ho
      · exact hold n o ho
      · exact ⟨p, (hmem p).mpr (Or.inr rfl), hadd.1.symm, (List.mem_singleton.mp ho).symm⟩
    · exact hold n o ho
  · rcases (hmem q).mp hq with hq | rfl
    · exact h.ne q hq
    · exact hne
  · rw [hlives, hlives]
    rcases (hmem q).mp hq with hq | rfl
    · exact h.alive q hq
    · exact ⟨hmesh, hother⟩

theorem linked_notify (h : Linked w) {notice : Notice}
    (hl : LegalNotice (fun n => aliveAt w n = some true) w.overlaps notice) :
    Linked (notify w notice) := by
  rcases notice with p | p
  · obtain ⟨hne, hmesh, hother, -⟩ := hl
    exact linked_beginOverlap h hne hmesh hother
  · exact linked_endOverlap h p

theorem overlaps_notify (w : World K) (notice : Notice) :
    (notify w notice).overlaps = overlapsAfter w.overlaps notice := by
  rcases notice with p | p
  · exact overlaps_beginOverlap w p
  · rfl

/-- Legal notices, one after the other. -/
theorem linked_notices (alive : ℕ → Prop) : ∀ (notices : List Notice) {w : World K}, Linked w →
    (∀ n, alive n → aliveAt w n = some true) → LegalNotices alive w.overlaps notices →
      Linked (notices.foldl notify w)
  | [], _, h, _, _ => h
  | notice :: notices, w, h, halive, hl => by
    obtain ⟨hn, hns⟩ := hl
    have hone : LegalNotice (fun n => aliveAt w n = some true) w.overlaps notice := by
      rcases notice with p | p
      · obtain ⟨hne, hmesh, hother, hp⟩ := hn
        exact ⟨hne, halive _ hmesh, halive _ hother, hp⟩
      · exact hn
    rw [List.foldl_cons]
    refine linked_notices alive notices (linked_notify h hone) (fun n ha => ?_) ?_
    · rw [(onlyNeighbors_notify w notice).aliveAt]
      exact halive n ha
    · rw [overlaps_notify]
      exact hns

/-- The first of legal notices are legal. -/
theorem LegalNotices.shorter {alive : ℕ → Prop} : ∀ {ns ns' : List Notice}
    {overlaps : List Overlap}, LegalNotices alive overlaps ns' → ns <+: ns' →
      LegalNotices alive overlaps ns
  | [], _, _, _, _ => trivial
  | n :: ns, [], _, _, h => absurd h (by simp)
  | n :: ns, n' :: ns', _, hl, h => by
    obtain ⟨rfl, hrest⟩ := List.cons_prefix_cons.mp h
    exact ⟨hl.1, hl.2.shorter hrest⟩

/-- **Moves** of a lantern under legal notices. -/
theorem linked_moves (alive : ℕ → Prop) {lantern : ℕ} {ns : List Notice} (h : Linked w)
    (hm : Moves lantern w ns w') (halive : ∀ n, alive n → aliveAt w n = some true)
    (hl : LegalNotices alive w.overlaps ns) : Linked w' := by
  induction hm with
  | refl => exact h
  | move hf _ ih =>
    refine ih (linked_same h rfl (neighbors_modify hf.neighborArray) fun n hn => ?_)
      (fun n ha => ?_) hl
    · rw [aliveAt_modify _ _ _ hf.alive]
      exact hn
    · rw [aliveAt_modify _ _ _ hf.alive]
      exact halive n ha
  | @notice w w' ns n _ ih =>
    have hone := linked_notices alive [n] h halive ⟨hl.1, trivial⟩
    refine ih hone (fun k ha => ?_) ?_
    · rw [(onlyNeighbors_notify w n).aliveAt]
      exact halive k ha
    · rw [overlaps_notify]
      exact hl.2

/-! ### Over a run -/

variable [Field K] {ns : List ℕ} {setting : Setting K} {s s' : State K} {e : Event K}

/-- **Spawning** under legal notices. -/
theorem linked_justSpawnLantern {env : LanternActor.Env K} {m : ALanternManager K}
    {image : Option UTexture2D} {text : FString} {choice : LanternChoice K}
    {notices : List Notice} {n : ℕ} (h : Linked w)
    (hl : LegalNotices (fun n => aliveAt w n = some true ∨ n = w.lanterns.length) w.overlaps notices)
    (hj : justSpawnLantern env m w image text choice notices = .ok (w', n)) : Linked w' := by
  obtain ⟨hn, classes, lanternClass, types, letter, textures, texture, v, -, -, hv, -, rfl⟩ :=
    justSpawnLantern_ok hj
  have hplaced : Linked (placed m w types lanternClass) := by
    refine linked_same h rfl (neighbors_placed m w types lanternClass) fun n hn => ?_
    rw [aliveAt_placed, hn]
    split_ifs <;> rfl
  have hnotified : Linked v := by
    rw [hv]
    refine linked_notices _ notices hplaced (fun n ha => ?_) hl
    rw [aliveAt_placed]
    split_ifs with hlen
    · rfl
    · exact ha.resolve_right hlen
  refine linked_same hnotified rfl (fun k => ?_) fun k hk => ?_
  · exact neighbors_modify (w := { v with textures := textures })
      (neighborArray_outfitted m _ _ _ _ _) k
  · rw [aliveAt_modify _ _ _ (alive_outfitted m _ _ _ _ _)]
    exact hk

/-- **One step** keeps the neighbours linked. -/
theorem linked_next (h : Linked s.world) (hl : e.LoadsNone) (hlegal : Legal s e)
    (hs : Next setting s e s') : Linked s'.world := by
  rcases next_cases hl hs with ⟨image, text, choice, notices, w, n, hj⟩ | _ |
    ⟨_, lantern, told, w, he, hm⟩ | p | p | ⟨_, ts, he, -⟩ | ⟨lanternArray, records⟩
  · have hspawned := linked_justSpawnLantern h hlegal hj
    show Linked (kept w n)
    unfold kept
    split_ifs
    · exact linked_same (linked_destroy hspawned _) rfl (fun _ => rfl) fun _ => id
    · exact linked_same hspawned rfl (fun _ => rfl) fun _ => id
  · exact linked_same (linked_destroyAll _ h) rfl (fun _ => rfl) fun _ => id
  · refine linked_moves _ h hm (fun _ => id) ?_
    rcases he with ⟨deltaTime, notices, rfl, hprefix⟩ | ⟨location, rfl, rfl⟩
    · exact hlegal.shorter hprefix
    · trivial
  · exact linked_beginOverlap h hlegal.1 hlegal.2.1 hlegal.2.2.1
  · exact linked_endOverlap h p
  · exact linked_same h rfl (fun _ => rfl) fun _ => id
  · exact linked_indexed h lanternArray.elems lanternArray.elems

omit [LinearOrder K] [Field K] in
theorem linked_emptyLevel (assets : List WidgetAsset) : Linked (emptyLevel assets : World K) := by
  refine ⟨fun n => ?_, fun n o ho => ?_, fun p hp => ?_, fun p hp => ?_⟩
  · exact List.nodup_nil
  · exact absurd ho (List.not_mem_nil)
  · exact absurd hp (List.not_mem_nil)
  · exact absurd hp (List.not_mem_nil)

/-- Nothing overlaps the lantern of `BeginPlay`, which is alone. -/
theorem linked_beginPlay {assets : List WidgetAsset} {choice : LanternChoice K}
    (h : beginPlay setting assets choice [] = .ok s) : Linked s.world := by
  obtain ⟨w, hw, h⟩ := bind_ok.mp h
  obtain ⟨⟨v, n⟩, hj, hd⟩ := bind_ok.mp hw
  have hlegal : LegalNotices (fun n => aliveAt (emptyLevel assets : World K) n = some true ∨
      n = (emptyLevel assets : World K).lanterns.length) (emptyLevel assets : World K).overlaps [] :=
    trivial
  have hspawned : Linked v := linked_justSpawnLantern (linked_emptyLevel assets) hlegal hj
  rw [← Except.ok.inj h, ← Except.ok.inj hd]
  exact linked_destroy hspawned n

/-- The same over a run. -/
theorem linked_run {s₀ : State K} {tr : List (State K × Event K)} (h₀ : Linked s₀.world)
    (hr : Run (Next setting) s₀ tr s) (hl : Along (fun s e => e.LoadsNone ∧ Legal s e) tr) :
    Linked s.world :=
  (hr.invariant (I := fun s => Linked s.world) h₀
    (fun _ _ _ h hl hs => linked_next h hl.1 hl.2 hs) hl).last

/-- The record names by their places exactly the neighbours of the lantern. -/
def NamesNeighbors (w : World K) (lantern : ℕ) (lanternData : FLanternData K) : Prop :=
  ∃ l, w.lanterns[lantern]? = some l ∧
    (∀ k ∈ lanternData.overlappedLanternIndexArray, k < w.lanternArray.length) ∧
    lanternData.overlappedLanternIndexArray.map (fun k => w.lanternArray[k]?) =
      l.neighborArray.map some

/-- **Neighbours are alive, and saved by their places.** As long as no lanterns are loaded and the
engine ends and begins pairs in turn: no lantern lists itself or a lantern twice, all it lists are
alive and in the array, and whatever `SaveLanternArray` records of it are the places in the array of
its neighbours. -/
theorem neighbors_alive (setting : Setting K) (assets : List WidgetAsset) (choice : LanternChoice K)
    (s₀ : State K) (tr : List (State K × Event K)) (s : State K)
    (h₀ : beginPlay setting assets choice [] = .ok s₀) (hr : Run (Next setting) s₀ tr s)
    (hl : Along (fun s e => e.LoadsNone ∧ Legal s e) tr) :
    (∀ (n : ℕ) (l : ALanternActor K), s.world.lanterns[n]? = some l →
      n ∉ l.neighborArray ∧ l.neighborArray.Nodup ∧
      ∀ o ∈ l.neighborArray, o ∈ s.world.lanternArray ∧
        ∃ other, s.world.lanterns[o]? = some other ∧ other.alive = true) ∧
    ∀ g w' g', saveLanternArray s.world g s.world.lanternArray = .ok (w', g') →
      ∃ records, g' = { g with lanternDataArray := g.lanternDataArray ++ records } ∧
        List.Forall₂ (NamesNeighbors s.world) s.world.lanternArray records := by
  have hlinked := linked_run (linked_beginPlay h₀) hr hl
  have hkept := kept_run (kept_beginPlay h₀) hr fun p hp => (hl p hp).1
  have halive : ∀ (n : ℕ) (l : ALanternActor K), s.world.lanterns[n]? = some l →
      ∀ o ∈ l.neighborArray, aliveAt s.world o = some true ∧ n ≠ o := by
    intro n l hnl o ho
    rw [← neighbors_of_getElem? hnl] at ho
    obtain ⟨p, hp, rfl, rfl⟩ := hlinked.open_pair n o ho
    exact ⟨(hlinked.alive p hp).2, hlinked.ne p hp⟩
  refine ⟨fun n l hnl => ⟨fun hself => ?_, ?_, fun o ho => ?_⟩, fun g w' g' hsave => ?_⟩
  · exact (halive n l hnl n hself).2 rfl
  · rw [← neighbors_of_getElem? hnl]
    exact hlinked.nodup n
  · have hal := (halive n l hnl o ho).1
    exact ⟨(hkept.alive o).mp hal, Option.map_eq_some_iff.mp hal⟩
  · obtain ⟨-, rfl, records, hrec, rfl⟩ := saveLanternArray_cases hsave
    refine ⟨records, rfl, hrec.imp fun n lanternData hr => ?_⟩
    obtain ⟨l, hnl, rfl⟩ := isRecord_indexed hr
    have hin : ∀ o ∈ l.neighborArray,
        o ∈ s.world.lanternArray ∧ o < s.world.lanterns.length := by
      intro o ho
      have hal := (halive n l hnl o ho).1
      obtain ⟨other, hother, -⟩ := Option.map_eq_some_iff.mp hal
      exact ⟨(hkept.alive o).mp hal, (List.getElem?_eq_some_iff.mp hother).1⟩
    have hlen : s.world.lanternArray.length < 2 ^ 31 := by
      rw [hkept.array, length_rtake]
      exact (min_le_left _ _).trans_lt (by norm_num)
    refine ⟨l, hnl, fun k hk => ?_, ?_⟩
    · rw [overlapped_recordOf hlen hin] at hk
      obtain ⟨o, ho, rfl⟩ := List.mem_map.mp hk
      exact List.idxOf_lt_length_iff.mpr (hin o ho).1
    · rw [overlapped_recordOf hlen hin]
      exact getElem?_idxOf_map fun o ho => (hin o ho).1

theorem neighbors_alive_samplePair : ∃ s₀ tr s, Run (Next sampleSetting) s₀ tr s ∧
    tr.map Prod.snd = samplePair ∧ s.world.lanternArray = [1, 2] ∧
    ∃ l, s.world.lanterns[2]? = some l ∧ l.neighborArray = [1] ∧ 2 ∉ l.neighborArray ∧
    ∃ w' g', saveLanternArray s.world s.saveGame s.world.lanternArray = .ok (w', g') ∧
      List.Forall₂ (NamesNeighbors s.world) s.world.lanternArray g'.lanternDataArray := by
  obtain ⟨s₀, h₀⟩ : ∃ s₀, beginPlay sampleSetting sampleAssets sampleChoice [] = .ok s₀ := ⟨_, rfl⟩
  have hplayed : (samplePair.foldlM (fun s e =>
      if e.LoadsNone ∧ Legal s e then next sampleSetting s e else none) s₀).map (fun s =>
        (s.world.lanternArray, neighbors s.world 2, s.saveGame.lanternDataArray,
          (saveLanternArray s.world s.saveGame s.world.lanternArray).toOption.isSome)) =
      some ([1, 2], [1], [], true) := by
    obtain rfl := Except.ok.inj h₀
    decide +kernel
  obtain ⟨s, hs, hvalues⟩ := Option.map_eq_some_iff.mp hplayed
  obtain ⟨tr, ⟨hr, hl⟩, htr⟩ :=
    run_of_foldlM_along (next_of_next sampleSetting) samplePair hs
  obtain ⟨harray, hrest⟩ := Prod.mk.inj hvalues
  obtain ⟨hneighbors, hrest⟩ := Prod.mk.inj hrest
  obtain ⟨hempty, hsome⟩ := Prod.mk.inj hrest
  obtain ⟨⟨w', g'⟩, hsave⟩ := Option.isSome_iff_exists.mp hsome
  obtain ⟨hall, hsaved⟩ := neighbors_alive sampleSetting _ _ s₀ tr s h₀ hr hl
  rcases hl2 : s.world.lanterns[2]? with _ | l
  · rw [neighbors, hl2] at hneighbors
    exact absurd hneighbors (by decide)
  · rw [neighbors_of_getElem? hl2] at hneighbors
    have hsave' := toOption_eq_some.mp hsave
    obtain ⟨records, hg', hnames⟩ := hsaved _ _ _ hsave'
    refine ⟨s₀, tr, s, hr, htr, harray, l, hl2, hneighbors,
      (hall 2 l hl2).1, w', g', hsave', ?_⟩
    rw [hg', hempty]
    exact hnames

end LanternProject.Lantern.Neighbors
