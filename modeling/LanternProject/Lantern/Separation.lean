import LanternProject.Lantern.Noticed
import LanternProject.Lantern.System

/-! # Divisions by zero in a separation

`GetSeparation` divides the way to each neighbour by its length, and the sum by the number of the
neighbours. When a `Tick` has flown a lantern to the very place of a neighbour, the separation is no
number, and neither is the lantern's location from there on. And a `Tick` that has counted neighbours
may lose them all with the pairs that end while it flies.

`FliesClear` says that a `Tick` does neither, and `separates_iff` that this is exact. -/

namespace LanternProject.Lantern.Separation

open LanternProject.Engine.Basic LanternProject.Engine.Vector
open LanternProject.Lantern.LanternActor LanternProject.Lantern.Level
open LanternProject.Lantern.System LanternProject.Lantern.Tick

variable {K : Type} [Field K] [LinearOrder K]

/-! ### Divisions by zero -/

/-- A quotient; dividing by zero gives no number. -/
def divided (v : FVector K) (k : K) : Option (FVector K) := if k = 0 then none else some (v / k)

/-- What the loop of `GetSeparation` does for a neighbour. -/
def addCurrent (env : LanternActor.Env K) (l : ALanternActor K) (separation neighbor : FVector K) :
    Option (FVector K) := do
  let current := l.location - neighbor
  let current ← divided current (env.length current)
  some (separation + current)

/-- `GetSeparation`, if all it divides by are numbers other than zero. -/
def checkedSeparation (env : LanternActor.Env K) (l : ALanternActor K)
    (neighbors : List (FVector K)) : Option (FVector K) := do
  let separation ← neighbors.foldlM (addCurrent env l) 0
  divided separation (neighbors.length : K)

theorem divided_eq_some_iff {v u : FVector K} {k : K} :
    divided v k = some u ↔ k ≠ 0 ∧ v / k = u := by
  unfold divided
  split_ifs with hk
  · simp [hk]
  · simp [hk]

variable {env : LanternActor.Env K} {l : ALanternActor K}

theorem foldlM_addCurrent_eq_some_iff {v : FVector K} : ∀ (ns : List (FVector K))
    (s : FVector K), ns.foldlM (addCurrent env l) s = some v ↔
      (∀ neighbor ∈ ns, env.length (l.location - neighbor) ≠ 0) ∧
      ns.foldl (fun separation neighbor =>
        let current := l.location - neighbor
        separation + current / env.length current) s = v
  | [], s => by simp
  | neighbor :: ns, s => by
    have hone : ∀ u, addCurrent env l s neighbor = some u ↔
        env.length (l.location - neighbor) ≠ 0 ∧
          s + (l.location - neighbor) / env.length (l.location - neighbor) = u := by
      intro u
      unfold addCurrent
      rw [Option.bind_eq_bind, Option.bind_eq_some_iff]
      constructor
      · rintro ⟨current, hcurrent, hu⟩
        obtain ⟨hne, rfl⟩ := divided_eq_some_iff.mp hcurrent
        exact ⟨hne, Option.some.inj hu⟩
      · rintro ⟨hne, hu⟩
        exact ⟨_, divided_eq_some_iff.mpr ⟨hne, rfl⟩, congrArg some hu⟩
    rw [List.foldlM_cons, Option.bind_eq_bind, Option.bind_eq_some_iff, List.foldl_cons,
      List.forall_mem_cons]
    constructor
    · rintro ⟨u, hu, hrest⟩
      obtain ⟨hne, rfl⟩ := (hone u).mp hu
      obtain ⟨hall, hv⟩ := (foldlM_addCurrent_eq_some_iff ns _).mp hrest
      exact ⟨⟨hne, hall⟩, hv⟩
    · rintro ⟨⟨hne, hall⟩, hv⟩
      exact ⟨_, (hone _).mpr ⟨hne, rfl⟩, (foldlM_addCurrent_eq_some_iff ns _).mpr ⟨hall, hv⟩⟩

/-- **The separation is a number** exactly if there are neighbours and none is at the lantern. -/
theorem checkedSeparation_eq_some_iff {neighbors : List (FVector K)} {v : FVector K} :
    checkedSeparation env l neighbors = some v ↔
      ((∀ neighbor ∈ neighbors, env.length (l.location - neighbor) ≠ 0) ∧
        (neighbors.length : K) ≠ 0) ∧ l.getSeparation env neighbors = v := by
  unfold checkedSeparation ALanternActor.getSeparation
  rw [Option.bind_eq_bind, Option.bind_eq_some_iff]
  constructor
  · rintro ⟨separation, hfold, hdivided⟩
    obtain ⟨hall, rfl⟩ := (foldlM_addCurrent_eq_some_iff neighbors 0).mp hfold
    obtain ⟨hcount, hv⟩ := divided_eq_some_iff.mp hdivided
    exact ⟨⟨hall, hcount⟩, hv⟩
  · rintro ⟨⟨hall, hcount⟩, hv⟩
    exact ⟨_, (foldlM_addCurrent_eq_some_iff neighbors 0).mpr ⟨hall, rfl⟩,
      divided_eq_some_iff.mpr ⟨hcount, hv⟩⟩

/-! ### The separation of a tick -/

/-- Every call of `GetSeparation` in the step gives a number. -/
def Separates (env : LanternActor.Env K) (w : World K) : Event K → Prop
  | .tick lantern deltaTime notices => ∀ w' call,
      tickCall env w lantern deltaTime notices = .ok (w', some call) →
      checkedSeparation env call.lantern call.neighbors ≠ none
  | _ => True

/-- The lantern lists others, and none that is at `p`. -/
def Clear (w : World K) (n : ℕ) (p : FVector K) : Prop :=
  neighbors w n ≠ [] ∧ ∀ o ∈ neighbors w n, locationOf w o ≠ some p

/-- A lantern with neighbours still lists some when it has flown, and none that is where it is. -/
def FliesClear (env : LanternActor.Env K) (w : World K) : Event K → Prop
  | .tick lantern deltaTime notices =>
    let turned := turnLantern env w lantern notices
    ∀ l ∈ turned.lanterns[lantern]?, l.neighborArray ≠ [] →
      Clear (flyLantern turned lantern l.location deltaTime notices) lantern (flight l deltaTime)
  | _ => True

variable {w w' : World K} {setting : Setting K} {s s' : State K} {e : Event K}

omit [Field K] [LinearOrder K] in
/-- The locations a tick is given are those of the neighbours. -/
theorem mem_locations_iff {ns : List ℕ} {ls : List (ALanternActor K)}
    (h : ls.map some = ns.map (w.lanterns[·]?)) (q : FVector K) :
    q ∈ ls.map (·.location) ↔ ∃ o ∈ ns, locationOf w o = some q := by
  have hmem : ∀ l, l ∈ ls ↔ ∃ o ∈ ns, w.lanterns[o]? = some l := by
    intro l
    have hsome : l ∈ ls ↔ some l ∈ ls.map some := by simp
    rw [hsome, h, List.mem_map]
  simp only [List.mem_map, hmem, locationOf, Option.map_eq_some_iff]
  constructor
  · rintro ⟨l, ⟨o, ho, hl⟩, hq⟩
    exact ⟨o, ho, l, hl, hq⟩
  · rintro ⟨o, ho, l, hl, hq⟩
    exact ⟨l, ⟨o, ho, hl⟩, hq⟩

omit [Field K] [LinearOrder K] in
theorem length_of_map_some {ns : List ℕ} {ls : List (ALanternActor K)}
    (h : ls.map some = ns.map (w.lanterns[·]?)) : ls.length = ns.length := by
  simpa using congrArg List.length h

/-- Where the lantern is when it has flown. -/
theorem locationOf_flyLantern (deltaTime : K) {n : ℕ} {notices : TickNotices}
    (hl : (turnLantern env w n notices).lanterns[n]? = some l) :
    locationOf (flyLantern (turnLantern env w n notices) n l.location deltaTime notices) n =
      some (flight l deltaTime) := by
  have hturned : ∃ l₀, w.lanterns[n]? = some l₀ := by
    have hlength := (moves_turnLantern env w n notices).same.length
    have hlt := (List.getElem?_eq_some_iff.mp hl).1
    exact ⟨_, List.getElem?_eq_getElem (hlength ▸ hlt)⟩
  obtain ⟨l₀, hl₀⟩ := hturned
  obtain ⟨ns, ticks, hl'⟩ := lantern_turnLantern env notices hl₀
  obtain rfl := Option.some.inj (hl.symm.trans hl')
  obtain ⟨ns', ticks', hflown⟩ :=
    lantern_flyLantern deltaTime notices ⟨ns, ticks, hl'⟩
  have hflight := location_flyBack env l₀ deltaTime
  exact (congrArg (Option.map (·.location)) hflown).trans (congrArg some hflight)

/-- **A separation is a number exactly** if the flight before it keeps clear of the neighbours. -/
theorem separates_iff [IsStrictOrderedRing K] (hzero : ∀ v, setting.env.length v = 0 ↔ v = 0)
    (h : Next setting s e s') :
    Separates setting.env s.world e ↔ FliesClear setting.env s.world e := by
  cases e with
  | tick lantern deltaTime notices =>
    obtain ⟨w, ht, -⟩ := bind_ok.mp h
    obtain ⟨call, ht⟩ := tickLantern_ok ht
    obtain ⟨l, v, hl, rfl, hcases⟩ := tickCall_ok ht
    have hflight := locationOf_flyLantern deltaTime hl
    constructor
    · intro hall l' hl' hne
      obtain rfl := Option.some.inj (hl.symm.trans hl')
      rcases hcases with ⟨hnil, -, -⟩ | ⟨-, l', neighborActors, hl', hactors, -, rfl⟩
      · exact absurd hnil hne
      obtain ⟨separation, hseparation⟩ := Option.ne_none_iff_exists'.mp (hall w _ ht)
      obtain ⟨⟨hapart, hcount⟩, -⟩ := checkedSeparation_eq_some_iff.mp hseparation
      rw [locationOf, hl', Option.map_some, Option.some.injEq] at hflight
      rw [Clear, neighbors_of_getElem? hl']
      refine ⟨fun hnone => hcount ?_, fun o ho hat => ?_⟩
      · rw [List.length_map, length_of_map_some hactors, hnone, List.length_nil, Nat.cast_zero]
      · refine hapart _ ((mem_locations_iff hactors _).mpr ⟨o, ho, hat⟩) ?_
        rw [hzero, sub_eq_zero_iff]
        exact hflight
    · intro hclear w' call' ht'
      obtain ⟨-, hcall⟩ := Prod.mk.inj (Except.ok.inj (ht.symm.trans ht'))
      rcases hcases with ⟨-, -, rfl⟩ | ⟨hne, l', neighborActors, hl', hactors, -, rfl⟩
      · cases hcall
      obtain rfl := Option.some.inj hcall
      obtain ⟨hsome, hapart⟩ := hclear l hl hne
      rw [locationOf, hl', Option.map_some, Option.some.injEq] at hflight
      rw [neighbors_of_getElem? hl'] at hsome hapart
      rw [Option.ne_none_iff_exists']
      refine ⟨_, checkedSeparation_eq_some_iff.mpr ⟨⟨fun q hq hat => ?_, ?_⟩, rfl⟩⟩
      · obtain ⟨o, ho, hq⟩ := (mem_locations_iff hactors q).mp hq
        rw [hzero, sub_eq_zero_iff] at hat
        exact hapart o ho (hq.trans (congrArg some (hat.symm.trans hflight)))
      · rw [List.length_map, length_of_map_some hactors]
        exact Nat.cast_ne_zero.mpr fun hnone => hsome (List.length_eq_zero_iff.mp hnone)
  | _ => exact Iff.rfl

end LanternProject.Lantern.Separation
