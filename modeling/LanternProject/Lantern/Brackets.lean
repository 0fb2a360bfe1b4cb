import LanternProject.Lantern.Neighbors

/-! # Overlapping brackets

The `LanternMesh` of a lantern overlaps the `LanternMesh` and the `BlankMesh` of another, each from a
beginning to an end of its own, and of two `LanternMesh`es both lanterns are told. A lantern lists the
other once, however many of its components it overlaps: any of the pairs that begins can add it, if
it is behind at that moment, and any that ends removes it.

So a neighbour can be gone while it still overlaps, and two lanterns that overtake each other between
two beginnings can list each other. `brackets_iff` says exactly which steps do that (`Harmless`); none
does where only the `LanternMesh`es overlap (`harmless_of_meshes`). -/

namespace LanternProject.Lantern.Brackets

open LanternProject.Lib.Runs LanternProject.Engine.Basic LanternProject.Engine.Vector
open LanternProject.Lantern.LanternActor LanternProject.Lantern.LanternManager
open LanternProject.Lantern.Level LanternProject.Lantern.Neighbors
open LanternProject.Lantern.System

variable {K : Type}

/-! ### Pairs of components -/

/-- The components of a lantern that overlap. -/
def lanternMesh : ℕ := 0
def blankMesh : ℕ := 1

/-- Two components of two lanterns; two `BlankMesh`es tell nobody. -/
inductive ComponentPair where
  | meshes (a b : ℕ)
  | meshBlank (mesh other : ℕ)
deriving DecidableEq

/-- Who is told of the pair: each lantern whose `LanternMesh` is in it. -/
def ComponentPair.told : ComponentPair → List Overlap
  | .meshes a b => [⟨a, b, lanternMesh⟩, ⟨b, a, lanternMesh⟩]
  | .meshBlank mesh other => [⟨mesh, other, blankMesh⟩]

/-- Nobody is told twice of a pair. -/
theorem eq_of_told {c : ComponentPair} {p q : Overlap} (hp : p ∈ c.told) (hq : q ∈ c.told)
    (hmesh : q.mesh = p.mesh) (hother : q.other = p.other) : q = p := by
  have hcomponent : q.component = p.component := by
    rcases c with ⟨a, b⟩ | ⟨mesh, other⟩
    · have hall : ∀ r ∈ (ComponentPair.meshes a b).told, r.component = lanternMesh := by
        simp [ComponentPair.told]
      rw [hall p hp, hall q hq]
    · rw [List.mem_singleton.mp hp, List.mem_singleton.mp hq]
  obtain ⟨m, o, k⟩ := q
  obtain ⟨m', o', k'⟩ := p
  simp only at hmesh hother hcomponent
  rw [hmesh, hother, hcomponent]

/-- What happens: a lantern moves, and pairs of components begin and end to overlap. -/
inductive Event (K : Type) where
  | moves (lantern : ℕ) (location : FVector K) (yaw : K)
  | begins (c : ComponentPair)
  | ends (c : ComponentPair)

/-- A component pair begins that does not overlap, of two lanterns that are there, or one ends that
does. -/
def Legal (w : World K) : Event K → Prop
  | .moves _ _ _ => True
  | .begins c => ∀ p ∈ c.told, p ∉ w.overlaps ∧ p.mesh ≠ p.other ∧
      p.mesh < w.lanterns.length ∧ p.other < w.lanterns.length
  | .ends c => ∀ p ∈ c.told, p ∈ w.overlaps

variable [LinearOrder K]

/-- The level after an event. -/
def step (w : World K) : Event K → World K
  | .moves lantern location yaw => w.modify lantern fun l => moved l location yaw
  | .begins c => c.told.foldl beginOverlap w
  | .ends c => c.told.foldl endOverlap w

/-- The steps. -/
def Next (w : World K) (e : Event K) (w' : World K) : Prop := w' = step w e

theorem next_step (w : World K) (e : Event K) : Next w e (step w e) := rfl

/-- Each move of a `Tick` is a movement; what the engine tells with it are events after it. -/
theorem next_of_onlyMoves {w : World K} {n : ℕ} {l : ALanternActor K}
    {f : ALanternActor K → ALanternActor K} (hf : OnlyMoves f) (hl : w.lanterns[n]? = some l) :
    ∃ location yaw, Next w (.moves n location yaw) (w.modify n f) := by
  obtain ⟨location, yaw, hmoved⟩ := hf l
  refine ⟨location, yaw, ?_⟩
  rw [Next]
  refine World.ext rfl rfl (List.ext_getElem? fun k => ?_) rfl rfl
  rw [step, getElem?_modify, getElem?_modify]
  by_cases hk : n = k
  · subst hk
    rw [hl, Option.map_some, Option.map_some, if_pos rfl, if_pos rfl, hmoved]
  · simp only [if_neg hk]

/-! ### What the notices of a pair do -/

theorem behind_beginOverlap (w : World K) (q p : Overlap) :
    Behind (beginOverlap w q) p ↔ Behind w p := by
  have honly := onlyNeighbors_beginOverlap w q
  obtain ⟨ns, ticks, hmesh⟩ := honly.lanterns p.mesh
  obtain ⟨ns', ticks', hother⟩ := honly.lanterns p.other
  unfold Behind
  rw [hmesh, hother]
  constructor
  · rintro ⟨l', other', hl', ho', hlt⟩
    obtain ⟨l, hl, rfl⟩ := Option.map_eq_some_iff.mp hl'
    obtain ⟨other, ho, rfl⟩ := Option.map_eq_some_iff.mp ho'
    exact ⟨l, other, hl, ho, hlt⟩
  · rintro ⟨l, other, hl, ho, hlt⟩
    rw [hl, ho]
    exact ⟨_, _, rfl, rfl, hlt⟩

/-- **Beginnings** add who is behind. -/
theorem mem_neighbors_beginAll (n o : ℕ) : ∀ (ps : List Overlap) (w : World K),
    o ∈ neighbors (ps.foldl beginOverlap w) n ↔
      o ∈ neighbors w n ∨ ∃ p ∈ ps, p.mesh = n ∧ p.other = o ∧ Behind w p
  | [], w => by simp
  | q :: ps, w => by
    have hone : o ∈ neighbors (beginOverlap w q) n ↔
        o ∈ neighbors w n ∨ (q.mesh = n ∧ q.other = o ∧ Behind w q) := by
      rw [neighbors_beginOverlap]
      split_ifs with hadd
      · rw [List.mem_append, List.mem_singleton]
        constructor
        · rintro (h | rfl)
          · exact Or.inl h
          · exact Or.inr ⟨hadd.1.symm, rfl, hadd.2.1⟩
        · rintro (h | ⟨-, h, -⟩)
          · exact Or.inl h
          · exact Or.inr h.symm
      · constructor
        · exact Or.inl
        · rintro (h | ⟨rfl, rfl, hbehind⟩)
          · exact h
          · by_contra hnot
            exact hadd ⟨rfl, hbehind, hnot⟩
    rw [List.foldl_cons, mem_neighbors_beginAll n o ps, hone]
    simp only [behind_beginOverlap, List.mem_cons, exists_eq_or_imp, or_assoc]

theorem mem_overlaps_beginAll (q : Overlap) : ∀ (ps : List Overlap) (w : World K),
    q ∈ (ps.foldl beginOverlap w).overlaps ↔ q ∈ w.overlaps ∨ q ∈ ps
  | [], w => by simp
  | p :: ps, w => by
    rw [List.foldl_cons, mem_overlaps_beginAll q ps, overlaps_beginOverlap, List.mem_append,
      List.mem_singleton, List.mem_cons, or_assoc]

theorem neighbors_moves (w : World K) (lantern : ℕ) (location : FVector K) (yaw : K) (n : ℕ) :
    neighbors (step w (.moves lantern location yaw)) n = neighbors w n :=
  neighbors_modify (f := fun l => moved l location yaw) (fun _ => rfl) n

/-! ### The two promises -/

/-- Nobody leaves a lantern that its `LanternMesh` still overlaps after the step. -/
def Stays (w : World K) (e : Event K) : Prop :=
  ∀ n, ∀ o ∈ neighbors w n, (∃ p ∈ (step w e).overlaps, p.mesh = n ∧ p.other = o) →
    o ∈ neighbors (step w e) n

/-- No two lanterns list each other. -/
def OneSided (w : World K) : Prop := ∀ n, ∀ o ∈ neighbors w n, n ∉ neighbors w o

/-- The step breaks neither: no pair begins of a lantern that is listed by the one behind it, and no
pair ends of a neighbour while another pair of the two overlaps. -/
def Harmless (w : World K) : Event K → Prop
  | .moves _ _ _ => True
  | .begins c => ∀ p ∈ c.told, Behind w p → p.mesh ∉ neighbors w p.other
  | .ends c => ∀ p ∈ c.told, p.other ∈ neighbors w p.mesh →
      ∀ q ∈ w.overlaps, q.mesh = p.mesh → q.other = p.other → q = p

variable {w w₀ : World K} {e : Event K} {c : ComponentPair}

theorem not_behind_both {p q : Overlap} (hmesh : q.mesh = p.other) (hother : q.other = p.mesh)
    (hp : Behind w p) : ¬ Behind w q := by
  rintro ⟨l', other', hl', ho', hlt'⟩
  obtain ⟨l, other, hl, ho, hlt⟩ := hp
  rw [hmesh] at hl'
  rw [hother] at ho'
  obtain rfl := Option.some.inj (ho.symm.trans hl')
  obtain rfl := Option.some.inj (hl.symm.trans ho')
  exact lt_asymm hlt hlt'

/-- **A beginning** keeps both promises exactly if it is harmless. -/
theorem begins_iff (h : OneSided w) :
    Stays w (.begins c) ∧ OneSided (step w (.begins c)) ↔ Harmless w (.begins c) := by
  have hmem : ∀ n o, o ∈ neighbors (step w (.begins c)) n ↔
      o ∈ neighbors w n ∨ ∃ p ∈ c.told, p.mesh = n ∧ p.other = o ∧ Behind w p :=
    fun n o => mem_neighbors_beginAll n o c.told w
  constructor
  · rintro ⟨-, hone⟩ p hp hbehind hlists
    have hadded : p.other ∈ neighbors (step w (.begins c)) p.mesh :=
      (hmem _ _).mpr (Or.inr ⟨p, hp, rfl, rfl, hbehind⟩)
    exact hone _ _ hadded ((hmem _ _).mpr (Or.inl hlists))
  · intro hharmless
    refine ⟨fun n o ho _ => (hmem n o).mpr (Or.inl ho), fun n o ho hn => ?_⟩
    rcases (hmem n o).mp ho with ho | ⟨p, hp, rfl, rfl, hbehind⟩
    · rcases (hmem o n).mp hn with hn | ⟨q, hq, rfl, rfl, hbehind⟩
      · exact h n o ho hn
      · exact hharmless q hq hbehind ho
    · rcases (hmem _ _).mp hn with hn | ⟨q, hq, hmesh, hother, hbehind'⟩
      · exact hharmless p hp hbehind hn
      · exact not_behind_both hmesh hother hbehind hbehind'

/-- **An ending** keeps both promises exactly if it is harmless. -/
theorem ends_iff (h : OneSided w) :
    Stays w (.ends c) ∧ OneSided (step w (.ends c)) ↔ Harmless w (.ends c) := by
  have hmem : ∀ n o, o ∈ neighbors (step w (.ends c)) n ↔
      o ∈ neighbors w n ∧ ¬ ∃ p ∈ c.told, p.mesh = n ∧ p.other = o :=
    fun n o => mem_neighbors_endAll n o c.told w
  have hopen : ∀ q, q ∈ (step w (.ends c)).overlaps ↔ q ∈ w.overlaps ∧ q ∉ c.told :=
    fun q => mem_overlaps_endAll q c.told w
  constructor
  · rintro ⟨hstays, -⟩ p hp hlists q hq hmesh hother
    by_contra hne
    have hleft : q ∈ (step w (.ends c)).overlaps :=
      (hopen q).mpr ⟨hq, fun hqc => hne (eq_of_told hp hqc hmesh hother)⟩
    have hkept := hstays p.mesh p.other hlists ⟨q, hleft, hmesh, hother⟩
    exact ((hmem _ _).mp hkept).2 ⟨p, hp, rfl, rfl⟩
  · intro hharmless
    refine ⟨?_, fun n o ho hn => h n o ((hmem n o).mp ho).1 ((hmem o n).mp hn).1⟩
    rintro n o ho ⟨q, hq, rfl, rfl⟩
    obtain ⟨hq, hnot⟩ := (hopen q).mp hq
    refine (hmem _ _).mpr ⟨ho, ?_⟩
    rintro ⟨p, hp, hmesh, hother⟩
    rw [← hmesh, ← hother] at ho
    exact hnot (hharmless p hp ho q hq hmesh.symm hother.symm ▸ hp)

/-- **A step** keeps both promises exactly if it is harmless. -/
theorem step_iff (h : OneSided w) : Stays w e ∧ OneSided (step w e) ↔ Harmless w e := by
  rcases e with ⟨lantern, location, yaw⟩ | c | c
  · have hsame := neighbors_moves w lantern location yaw
    refine ⟨fun _ => trivial, fun _ => ⟨fun n o ho _ => ?_, fun n o ho => ?_⟩⟩
    · rw [hsame]
      exact ho
    · rw [hsame] at ho ⊢
      exact h n o ho
  · exact begins_iff h
  · exact ends_iff h

/-- **Neighbours stay while they overlap, and are never mutual, exactly** in the runs all of whose
steps are harmless. -/
theorem brackets_iff (w₀ w : World K) (tr : List (World K × Event K))
    (h₀ : ∀ n, neighbors w₀ n = []) (hr : Run Next w₀ tr w) :
    Along Stays tr ∧ Always OneSided tr w ↔ Along Harmless tr := by
  have hone : OneSided w₀ := by
    intro n o ho
    rw [h₀] at ho
    exact absurd ho List.not_mem_nil
  refine hr.always_along_iff (I := fun _ => True) (A := fun _ _ => True) trivial hone
    (fun _ _ _ _ _ _ _ _ => trivial) ?_ fun _ _ => trivial
  rintro w e _ - h - rfl
  exact step_iff h

/-! ### Where only the meshes overlap -/

/-- Only `LanternMesh`es overlap, and neighbours do. -/
structure MeshesOverlap (w : World K) : Prop where
  listed : ∀ n, ∀ o ∈ neighbors w n, ⟨n, o, lanternMesh⟩ ∈ w.overlaps
  both : ∀ n o, ⟨n, o, lanternMesh⟩ ∈ w.overlaps → ⟨o, n, lanternMesh⟩ ∈ w.overlaps
  mesh : ∀ p ∈ w.overlaps, p.component = lanternMesh

/-- The event is about no `BlankMesh`. -/
def Event.OfMeshes : Event K → Prop
  | .moves _ _ _ => True
  | .begins c => ∃ a b, c = .meshes a b
  | .ends c => ∃ a b, c = .meshes a b

theorem mem_told_meshes {a b : ℕ} {p : Overlap} : p ∈ (ComponentPair.meshes a b).told ↔
    (p.mesh = a ∧ p.other = b ∨ p.mesh = b ∧ p.other = a) ∧ p.component = lanternMesh := by
  obtain ⟨m, o, k⟩ := p
  simp only [ComponentPair.told, List.mem_cons, List.not_mem_nil, or_false, Overlap.mk.injEq]
  tauto

theorem meshesOverlap_step (h : MeshesOverlap w) (he : e.OfMeshes) : MeshesOverlap (step w e) := by
  rcases e with ⟨lantern, location, yaw⟩ | c | c
  · refine ⟨fun n o ho => ?_, h.both, h.mesh⟩
    rw [neighbors_moves] at ho
    exact h.listed n o ho
  · obtain ⟨a, b, rfl⟩ := he
    have hopen : ∀ q, q ∈ (step w (.begins (.meshes a b))).overlaps ↔
        q ∈ w.overlaps ∨ q ∈ (ComponentPair.meshes a b).told :=
      fun q => mem_overlaps_beginAll q _ w
    refine ⟨fun n o ho => ?_, fun n o ho => ?_, fun p hp => ?_⟩
    · rw [hopen]
      rcases (mem_neighbors_beginAll n o _ w).mp ho with ho | ⟨p, hp, rfl, rfl, -⟩
      · exact Or.inl (h.listed n o ho)
      · exact Or.inr (mem_told_meshes.mpr ⟨(mem_told_meshes.mp hp).1, rfl⟩)
    · rw [hopen] at ho ⊢
      refine ho.imp (h.both n o) fun ho => ?_
      rw [mem_told_meshes] at ho ⊢
      exact ⟨ho.1.symm.imp And.symm And.symm, rfl⟩
    · exact ((hopen p).mp hp).elim (h.mesh p) fun hp => (mem_told_meshes.mp hp).2
  · obtain ⟨a, b, rfl⟩ := he
    have hopen : ∀ q, q ∈ (step w (.ends (.meshes a b))).overlaps ↔
        q ∈ w.overlaps ∧ q ∉ (ComponentPair.meshes a b).told :=
      fun q => mem_overlaps_endAll q _ w
    refine ⟨fun n o ho => ?_, fun n o ho => ?_, fun p hp => h.mesh p ((hopen p).mp hp).1⟩
    · obtain ⟨ho, hnot⟩ := (mem_neighbors_endAll n o _ w).mp ho
      exact (hopen _).mpr ⟨h.listed n o ho, fun htold => hnot ⟨_, htold, rfl, rfl⟩⟩
    · rw [hopen] at ho ⊢
      refine ⟨h.both n o ho.1, fun htold => ho.2 ?_⟩
      rw [mem_told_meshes] at htold ⊢
      exact ⟨htold.1.symm.imp And.symm And.symm, rfl⟩

theorem harmless_step_of_meshes (h : MeshesOverlap w) (hl : Legal w e) (he : e.OfMeshes) :
    Harmless w e := by
  have hdetermined : ∀ {p q : Overlap}, q.component = p.component → q.mesh = p.mesh →
      q.other = p.other → q = p := by
    rintro ⟨m, o, k⟩ ⟨m', o', k'⟩ rfl rfl rfl
    rfl
  rcases e with ⟨lantern, location, yaw⟩ | c | c
  · trivial
  · obtain ⟨a, b, rfl⟩ := he
    intro p hp _ hlists
    have hother := h.both _ _ (h.listed p.other p.mesh hlists)
    have hsame : p = ⟨p.mesh, p.other, lanternMesh⟩ :=
      hdetermined (mem_told_meshes.mp hp).2 rfl rfl
    exact (hl p hp).1 (hsame ▸ hother)
  · obtain ⟨a, b, rfl⟩ := he
    intro p hp _ q hq hmesh hother
    exact hdetermined ((h.mesh q hq).trans (mem_told_meshes.mp hp).2.symm) hmesh hother

/-- **Where only the meshes overlap, no step harms.** -/
theorem harmless_of_meshes {tr : List (World K × Event K)} (h₀ : ∀ n, neighbors w₀ n = [])
    (hopen : w₀.overlaps = []) (hr : Run Next w₀ tr w) (hl : Along Legal tr)
    (he : Along (fun _ e => Event.OfMeshes e) tr) : Along Harmless tr := by
  have hstart : MeshesOverlap w₀ := by
    refine ⟨fun n o ho => ?_, fun n o ho => ?_, fun p hp => ?_⟩
    · rw [h₀] at ho
      exact absurd ho List.not_mem_nil
    · rw [hopen] at ho
      exact absurd ho List.not_mem_nil
    · rw [hopen] at hp
      exact absurd hp List.not_mem_nil
  have hstep : ∀ (v : World K) (e : Event K) (v' : World K), MeshesOverlap v → e.OfMeshes →
      Next v e v' → MeshesOverlap v' := by
    rintro v e _ hv he rfl
    exact meshesOverlap_step hv he
  have hall := hr.invariant hstart hstep he
  exact fun p hp => harmless_step_of_meshes (hall.1 p hp) (hl p hp) (he p hp)

/-! ### Two lanterns -/

/-- Two lanterns, the first a little behind the second. -/
def sampleTwo : World ℚ :=
  { (emptyLevel sampleAssets : World ℚ) with
    lanterns := [spawnActor ⟨true, 1, 1, 1⟩ 0 0, spawnActor ⟨true, 1, 1, 1⟩ ⟨1, 0, 0⟩ 0] }

theorem neighbors_sampleTwo (n : ℕ) : neighbors sampleTwo n = [] := by
  rcases n with _ | _ | n
  · rfl
  · rfl
  · rfl

instance (w : World ℚ) (e : Event ℚ) : Decidable (Legal w e) :=
  match e with
  | .moves _ _ _ => isTrue trivial
  | .begins c => inferInstanceAs (Decidable (∀ p ∈ c.told, p ∉ w.overlaps ∧ p.mesh ≠ p.other ∧
      p.mesh < w.lanterns.length ∧ p.other < w.lanterns.length))
  | .ends c => inferInstanceAs (Decidable (∀ p ∈ c.told, p ∈ w.overlaps))

/-- The meshes begin to overlap, the lantern behind overtakes, and they end. -/
def samplePassing : List (Event ℚ) :=
  [.begins (.meshes 1 0), .moves 0 ⟨2, 0, 0⟩ 0, .ends (.meshes 1 0)]

theorem brackets_iff_passing : Run Next sampleTwo (traceOf step sampleTwo samplePassing)
      (samplePassing.foldl step sampleTwo) ∧
    Along Stays (traceOf step sampleTwo samplePassing) ∧
    Always OneSided (traceOf step sampleTwo samplePassing) (samplePassing.foldl step sampleTwo) := by
  have hr := run_traceOf next_step samplePassing (Run.nil : Run Next sampleTwo [] sampleTwo)
  have hl : Along Legal (traceOf step sampleTwo samplePassing) := by
    unfold Along
    decide +kernel
  have he : Along (fun _ e => Event.OfMeshes e) (traceOf step sampleTwo samplePassing) := by
    intro p hp
    simp only [samplePassing, traceOf, List.mem_cons, List.not_mem_nil, or_false] at hp
    rcases hp with rfl | rfl | rfl
    · exact ⟨1, 0, rfl⟩
    · trivial
    · exact ⟨1, 0, rfl⟩
  exact ⟨hr, (brackets_iff _ _ _ neighbors_sampleTwo hr).mpr
    (harmless_of_meshes neighbors_sampleTwo rfl hr hl he)⟩

/-- The lantern that overtook meets the `BlankMesh` of the other, and leaves it. -/
def sampleMeeting : List (Event ℚ) :=
  [.begins (.meshes 1 0), .moves 0 ⟨2, 0, 0⟩ 0, .begins (.meshBlank 0 1), .ends (.meshBlank 0 1)]

/-- Each lists the other when the second pair begins, and the first loses the other when it ends,
although the meshes still overlap. -/
theorem not_stays_oneSided : Run Next sampleTwo (traceOf step sampleTwo sampleMeeting)
      (sampleMeeting.foldl step sampleTwo) ∧
    Along Legal (traceOf step sampleTwo sampleMeeting) ∧
    ¬ Along Stays (traceOf step sampleTwo sampleMeeting) ∧
    ¬ Always OneSided (traceOf step sampleTwo sampleMeeting) (sampleMeeting.foldl step sampleTwo) := by
  have hr := run_traceOf next_step sampleMeeting (Run.nil : Run Next sampleTwo [] sampleTwo)
  have hl : Along Legal (traceOf step sampleTwo sampleMeeting) := by
    unfold Along
    decide +kernel
  let met := (sampleMeeting.take 3).foldl step sampleTwo
  have hmet : (met, .ends (.meshBlank 0 1)) ∈ traceOf step sampleTwo sampleMeeting :=
    List.mem_cons_of_mem _ (List.mem_cons_of_mem _ (List.mem_cons_of_mem _ List.mem_cons_self))
  have hmutual : 1 ∈ neighbors met 0 ∧ 0 ∈ neighbors met 1 := by decide +kernel
  refine ⟨hr, hl, fun h => ?_, fun h => h.1 _ hmet 0 1 hmutual.1 hmutual.2⟩
  have hopen : (⟨0, 1, lanternMesh⟩ : Overlap) ∈
      (step met (.ends (.meshBlank 0 1))).overlaps := by decide +kernel
  have hstays := h _ hmet 0 1 hmutual.1 ⟨_, hopen, rfl, rfl⟩
  have hgone : 1 ∉ neighbors (step met (.ends (.meshBlank 0 1))) 0 := by decide +kernel
  exact hgone hstays

end LanternProject.Lantern.Brackets
