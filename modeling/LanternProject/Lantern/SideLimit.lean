import LanternProject.Lantern.System

/-! # How far a lantern goes sideways

A `Tick` moves a lantern sideways twice, each time if it is inside a limit: by its `BackDirection`
inside a width that grows from nothing to `WidthLimit` while it flies back, and away from its
neighbours inside `WidthLimit` itself. Outside of both it stays, so it leaves `WidthLimit` by what one
`Tick` moves it at most (`side_limit`) — unless the first width is the larger one. It grows on where
the lantern is pushed beyond its distance, and a lantern that is outside `WidthLimit` then drifts on. -/

namespace LanternProject.Lantern.SideLimit

open LanternProject.Lib.Runs LanternProject.Engine.Basic LanternProject.Engine.Vector
open LanternProject.Lantern.LanternActor

variable {K : Type} [Field K] [LinearOrder K]

/-- The ticks of a lantern. -/
def Next (env : LanternActor.Env K) (l : ALanternActor K) (t : TickInput K)
    (l' : ALanternActor K) : Prop :=
  l' = tickBy env l t

/-- At most `n` neighbours are counted, the separation is an average if there are any, and a
`DeltaTime` of at most `d`. -/
structure Timely (n : ℕ) (d : K) (t : TickInput K) : Prop where
  count : t.neighborCount ≤ n
  average : 0 < t.neighborCount → t.neighbors ≠ []
  nonneg : 0 ≤ t.deltaTime
  le : t.deltaTime ≤ d

/-- How far the lantern is from its base sideways. -/
def side (l : ALanternActor K) : K := |l.location.y - l.baseLocation.y|

/-- `CurrentWidthLimit`. -/
def currentWidthLimit (l : ALanternActor K) : K :=
  lerp 0 l.widthLimit (|l.location.x - l.baseLocation.x| / l.distance)

/-- `WidthLimit`, and what one `Tick` moves a lantern sideways. -/
def sideLimit (l : ALanternActor K) (n : ℕ) (d : K) : K :=
  l.widthLimit + |l.sideSpeed| * d * (|l.backDirection.y| + ((n : K) + 1) ^ 2)

/-- The lantern is not between `WidthLimit` and a larger `CurrentWidthLimit`. -/
def Guarded (l : ALanternActor K) : Prop := side l < currentWidthLimit l → side l < l.widthLimit

/-! ### One tick -/

/-- What flying back does sideways. -/
theorem location_y_flyBack (env : LanternActor.Env K) (l : ALanternActor K) (deltaTime : K) :
    (l.flyBack env deltaTime).location.y = l.location.y + if side l < currentWidthLimit l then
      l.backDirection.y * l.sideSpeed * deltaTime else 0 := by
  rw [location_flyBack]
  rfl

/-- What keeping away does sideways. -/
theorem location_y_keepAway (l : ALanternActor K) (actorLocation : FVector K) (neighborCount : ℕ)
    (separation : FVector K) (deltaTime : K) :
    (l.keepAway actorLocation neighborCount separation deltaTime).location.y = l.location.y +
      if |actorLocation.y - l.baseLocation.y| < l.widthLimit then
        separation.y * l.sideSpeed *
          (((neighborCount + 1 : ℕ) : K) * ((neighborCount + 1 : ℕ) : K)) * deltaTime
      else 0 := by
  unfold ALanternActor.keepAway ALanternActor.keepSide ALanternActor.keepBack
    ALanternActor.addActorWorldOffset
  dsimp only
  split_ifs
  · simp
  · simp

/-- **Outside of both limits** a lantern stays. -/
theorem location_y_tick_outside {l : ALanternActor K} (env : LanternActor.Env K)
    (hguarded : Guarded l) (hout : l.widthLimit ≤ side l) (t : TickInput K) :
    (tickBy env l t).location.y = l.location.y := by
  have hy := location_y_flyBack env l t.deltaTime
  have hwidth : ¬ side l < currentWidthLimit l := fun hin => absurd (hguarded hin) hout.not_gt
  rw [if_neg hwidth, add_zero] at hy
  obtain ⟨location, yaw, hfly⟩ := onlyMoves_flyBack t.deltaTime env l
  dsimp only at hfly
  rw [tickBy, ALanternActor.tick]
  rw [hfly] at hy ⊢
  split_ifs
  · have hstays : ¬ |l.location.y - (moved l location yaw).baseLocation.y| <
        (moved l location yaw).widthLimit := hout.not_gt
    rw [location_y_keepAway, if_neg hstays, add_zero]
    exact hy
  · exact hy

section Bounded
variable [IsStrictOrderedRing K] {env : LanternActor.Env K}

/-- **The separation** is no longer than the vectors it is the average of. -/
theorem abs_getSeparation_y_le (hlength : ∀ v, |v.y| ≤ env.length v) (l : ALanternActor K)
    {neighbors : List (FVector K)} (hne : neighbors ≠ []) :
    |(l.getSeparation env neighbors).y| ≤ 1 := by
  have hone : ∀ v : FVector K, v.y / env.length v ∈ Set.Icc (-1) 1 := by
    intro v
    have hpos : 0 ≤ env.length v := (abs_nonneg _).trans (hlength v)
    rw [Set.mem_Icc, ← abs_le, abs_div, abs_of_nonneg hpos]
    exact div_le_one_of_le₀ (hlength v) hpos
  exact abs_le.mpr (coord_getSeparation_mem_Icc (c := FVector.y) rfl (fun _ _ => rfl)
    (fun _ _ => rfl) hne fun neighbor _ => hone (l.location - neighbor))

theorem abs_ite_zero_le {p : Prop} [Decidable p] {a b : K} (h : |a| ≤ b) (hb : 0 ≤ b) :
    |if p then a else 0| ≤ b := by
  split_ifs
  · exact h
  · rwa [abs_zero]

/-- What flying back moves a lantern sideways at most. -/
theorem abs_location_y_flyBack_sub_le (env : LanternActor.Env K) (l : ALanternActor K)
    {deltaTime d : K} (hpos : 0 ≤ deltaTime) (hd : deltaTime ≤ d) :
    |(l.flyBack env deltaTime).location.y - l.location.y| ≤
      |l.sideSpeed| * d * |l.backDirection.y| := by
  have hd' : 0 ≤ d := hpos.trans hd
  rw [location_y_flyBack, add_sub_cancel_left]
  refine abs_ite_zero_le ?_ (by positivity)
  rw [abs_mul, abs_mul, abs_of_nonneg hpos]
  calc |l.backDirection.y| * |l.sideSpeed| * deltaTime
      ≤ |l.backDirection.y| * |l.sideSpeed| * d := by gcongr
    _ = |l.sideSpeed| * d * |l.backDirection.y| := by ring

/-- What keeping away moves it at most. -/
theorem abs_location_y_keepAway_sub_le (l : ALanternActor K) (actorLocation : FVector K)
    {separation : FVector K} (hseparation : |separation.y| ≤ 1) {neighborCount n : ℕ}
    {deltaTime d : K} (hcount : neighborCount ≤ n) (hpos : 0 ≤ deltaTime) (hd : deltaTime ≤ d) :
    |(l.keepAway actorLocation neighborCount separation deltaTime).location.y - l.location.y| ≤
      |l.sideSpeed| * d * ((n : K) + 1) ^ 2 := by
  have hd' : 0 ≤ d := hpos.trans hd
  have hn : (neighborCount : K) ≤ n := Nat.cast_le.mpr hcount
  rw [location_y_keepAway, add_sub_cancel_left]
  refine abs_ite_zero_le ?_ (by positivity)
  rw [abs_mul, abs_mul, abs_mul, abs_of_nonneg hpos, abs_mul_self, Nat.cast_add_one]
  calc |separation.y| * |l.sideSpeed| *
        (((neighborCount : K) + 1) * ((neighborCount : K) + 1)) * deltaTime
      ≤ 1 * |l.sideSpeed| * (((n : K) + 1) * ((n : K) + 1)) * d := by gcongr
    _ = |l.sideSpeed| * d * ((n : K) + 1) ^ 2 := by ring

/-- **What one tick moves a lantern sideways** at most. -/
theorem abs_location_y_tick_sub_le (hlength : ∀ v, |v.y| ≤ env.length v) {n : ℕ} {d : K}
    {t : TickInput K} (ht : Timely n d t) (l : ALanternActor K) :
    |(tickBy env l t).location.y - l.location.y| ≤
      |l.sideSpeed| * d * (|l.backDirection.y| + ((n : K) + 1) ^ 2) := by
  have hd' : 0 ≤ d := ht.nonneg.trans ht.le
  have hback := abs_location_y_flyBack_sub_le env l ht.nonneg ht.le
  obtain ⟨location, yaw, hfly⟩ := onlyMoves_flyBack t.deltaTime env l
  dsimp only at hfly
  rw [tickBy, ALanternActor.tick]
  rw [hfly] at hback ⊢
  rw [mul_add]
  split_ifs with hcount
  · have hseparation :=
      abs_getSeparation_y_le hlength (moved l location yaw) (ht.average hcount)
    have haway := abs_location_y_keepAway_sub_le (moved l location yaw) l.location hseparation
      ht.count ht.nonneg ht.le
    change _ ≤ |l.sideSpeed| * d * ((n : K) + 1) ^ 2 at haway
    have htriangle := abs_sub_le ((moved l location yaw).keepAway l.location t.neighborCount
      ((moved l location yaw).getSeparation env t.neighbors) t.deltaTime).location.y
      (moved l location yaw).location.y l.location.y
    linarith
  · have hpush : 0 ≤ |l.sideSpeed| * d * ((n : K) + 1) ^ 2 := by positivity
    linarith

/-! ### All ticks -/

/-- The lantern has moved, and is inside its limit. -/
def Within (l₀ : ALanternActor K) (n : ℕ) (d : K) (l : ALanternActor K) : Prop :=
  (∃ location yaw, l = moved l₀ location yaw) ∧ side l ≤ sideLimit l₀ n d

/-- **A tick that is guarded** keeps the lantern inside its limit: it moves it from inside
`WidthLimit`, or not at all. -/
theorem within_tick (hlength : ∀ v, |v.y| ≤ env.length v) {l₀ l l' : ALanternActor K} {n : ℕ} {d : K}
    {t : TickInput K} (h : Within l₀ n d l) (hguarded : Guarded l) (ht : Timely n d t)
    (hs : Next env l t l') : Within l₀ n d l' := by
  obtain ⟨⟨location, yaw, rfl⟩, hside⟩ := h
  obtain ⟨location', yaw', htick⟩ := onlyMoves_tick t.neighborCount t.deltaTime env t.neighbors
    (moved l₀ location yaw)
  change tickBy env (moved l₀ location yaw) t = moved _ _ _ at htick
  have hl' : l' = moved l₀ location' yaw' := hs.trans htick
  refine ⟨⟨location', yaw', hl'⟩, ?_⟩
  by_cases hout : l₀.widthLimit ≤ side (moved l₀ location yaw)
  · have hy := location_y_tick_outside env hguarded hout t
    rw [htick] at hy
    have hsame : side l' = side (moved l₀ location yaw) := by
      rw [hl', side, side]
      exact congrArg (fun y => |y - l₀.baseLocation.y|) hy
    exact hsame.trans_le hside
  · have hmove := abs_location_y_tick_sub_le hlength ht (moved l₀ location yaw)
    rw [htick] at hmove
    have htriangle := abs_sub_le location'.y location.y l₀.baseLocation.y
    have hin : |location.y - l₀.baseLocation.y| < l₀.widthLimit := lt_of_not_ge hout
    rw [hl']
    change |location'.y - l₀.baseLocation.y| ≤ l₀.widthLimit + _
    change |location'.y - location.y| ≤ |l₀.sideSpeed| * d * (|l₀.backDirection.y| + _) at hmove
    linarith

/-- **A lantern whose ticks are guarded** leaves `WidthLimit` by no more than one tick moves it. -/
theorem side_limit (env : LanternActor.Env K) (hlength : ∀ v, |v.y| ≤ env.length v)
    (l₀ l : ALanternActor K) (n : ℕ) (d : K) (tr : List (ALanternActor K × TickInput K))
    (hstart : l₀.location.y = l₀.baseLocation.y) (hwidth : 0 ≤ l₀.widthLimit)
    (hr : Run (Next env) l₀ tr l) (hticked : tr ≠ []) (htimely : Along (fun _ t => Timely n d t) tr)
    (hguarded : Along (fun l _ => Guarded l) tr) : side l ≤ sideLimit l₀ n d := by
  have hd : 0 ≤ d := by
    obtain ⟨p, hp⟩ := List.exists_mem_of_ne_nil tr hticked
    exact (htimely p hp).nonneg.trans (htimely p hp).le
  have hinside : Within l₀ n d l₀ := by
    refine ⟨⟨l₀.location, l₀.yaw, rfl⟩, ?_⟩
    rw [side, hstart, sub_self, abs_zero, sideLimit]
    positivity
  have hboth : Along (fun l t => Guarded l ∧ Timely n d t) tr :=
    fun p hp => ⟨hguarded p hp, htimely p hp⟩
  exact (hr.invariant hinside (fun l t l' h hc hs => within_tick hlength h hc.1 hc.2 hs)
    hboth).last.2

/-- A lantern that has not passed its distance is guarded. -/
theorem guarded_of_le_distance {l : ALanternActor K} (hwidth : 0 ≤ l.widthLimit)
    (hdistance : 0 < l.distance) (hx : |l.location.x - l.baseLocation.x| ≤ l.distance) :
    Guarded l := by
  intro hin
  have hle : currentWidthLimit l ≤ l.widthLimit := by
    rw [currentWidthLimit, lerp, sub_zero, zero_add]
    exact mul_le_of_le_one_left hwidth ((div_le_one hdistance).mpr hx)
  exact hin.trans_le hle

end Bounded

/-! ### A fast lantern -/

/-- The length of a vector along an axis. -/
def sampleAxes : LanternActor.Env ℚ :=
  { System.sampleEngine with length := fun v => |v.x| + |v.y| + |v.z| }

theorem abs_y_le_length (v : FVector ℚ) : |v.y| ≤ sampleAxes.length v := by
  have hx := abs_nonneg v.x
  have hz := abs_nonneg v.z
  change |v.y| ≤ |v.x| + |v.y| + |v.z|
  linarith

/-- A lantern that flies back at the given speed, in ticks of one second. -/
def sampleLantern (backSpeed : ℚ) : ALanternActor ℚ :=
  { spawnActor ⟨true, 0, 1, backSpeed⟩ 0 0 with
    backDirection := ⟨3 / 5, 4 / 5, 0⟩
    widthLimit := 1
    distance := 1 }
def sampleTick : TickInput ℚ := ⟨0, [], 1⟩
def sampleNear : TickInput ℚ := ⟨1, [0], 1⟩

theorem next_tickBy (l : ALanternActor ℚ) (t : TickInput ℚ) :
    Next sampleAxes l t (tickBy sampleAxes l t) := rfl

instance (l : ALanternActor ℚ) : Decidable (Guarded l) :=
  inferInstanceAs (Decidable (side l < currentWidthLimit l → side l < l.widthLimit))

theorem timely_iff {n : ℕ} {d : ℚ} {t : TickInput ℚ} : Timely n d t ↔ t.neighborCount ≤ n ∧
    (0 < t.neighborCount → t.neighbors ≠ []) ∧ 0 ≤ t.deltaTime ∧ t.deltaTime ≤ d :=
  ⟨fun h => ⟨h.count, h.average, h.nonneg, h.le⟩, fun h => ⟨h.1, h.2.1, h.2.2.1, h.2.2.2⟩⟩

instance (n : ℕ) (d : ℚ) (t : TickInput ℚ) : Decidable (Timely n d t) :=
  decidable_of_iff' _ timely_iff

/-- The traces of two ticks, the second one with a neighbour, and of five. -/
def sampleSlow := traceOf (tickBy sampleAxes) (sampleLantern 1) [sampleTick, sampleNear]
def sampleFast := traceOf (tickBy sampleAxes) (sampleLantern 100) (List.replicate 5 sampleTick)

theorem side_limit_slow : ∃ l, Run (Next sampleAxes) (sampleLantern 1) sampleSlow l ∧
    side l = 12 / 5 ∧ side l ≤ sideLimit (sampleLantern 1) 1 1 := by
  have hr := run_traceOf next_tickBy [sampleTick, sampleNear]
    (Run.nil : Run (Next sampleAxes) (sampleLantern 1) [] _)
  have htimely : ∀ p ∈ sampleSlow, Timely 1 1 p.2 := by decide +kernel
  have hguarded : ∀ p ∈ sampleSlow, Guarded p.1 := by decide +kernel
  exact ⟨_, hr, by decide +kernel, side_limit sampleAxes abs_y_le_length _ _ 1 1 _ rfl
    (by decide +kernel) hr (List.cons_ne_nil _ _) htimely hguarded⟩

/-- The lantern is far beyond its distance after one tick, and drifts on when it is outside
`WidthLimit`. -/
theorem not_side_limit : ∃ l, Run (Next sampleAxes) (sampleLantern 100) sampleFast l ∧
    Along (fun _ t => Timely 0 1 t) sampleFast ∧
    (sampleLantern 100).location.y = (sampleLantern 100).baseLocation.y ∧
    0 ≤ (sampleLantern 100).widthLimit ∧ 0 < (sampleLantern 100).distance ∧
    ¬ side l ≤ sideLimit (sampleLantern 100) 0 1 := by
  have hr := run_traceOf next_tickBy (List.replicate 5 sampleTick)
    (Run.nil : Run (Next sampleAxes) (sampleLantern 100) [] _)
  have htimely : ∀ p ∈ sampleFast, Timely 0 1 p.2 := by decide +kernel
  exact ⟨_, hr, htimely, rfl, by decide +kernel, by decide +kernel, by decide +kernel⟩

end LanternProject.Lantern.SideLimit
