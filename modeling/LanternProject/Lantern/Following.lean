import LanternProject.Lantern.Order
import LanternProject.Lantern.Separation
import LanternProject.Lantern.SideLimit

/-! # Keeping away from the neighbours

A lantern is behind the one that lists it when it is added, so the separation is a number then; but
both fly on, and nothing asks again. As long as nobody catches up with a lantern that lists it, and
nobody flies away from all it lists (`StaysBehind`), all neighbours stay behind (`inFront_next`) and
every separation is a number (`separates_of_staysBehind`). -/

namespace LanternProject.Lantern.Following

open LanternProject.Lib.Runs LanternProject.Engine.Basic LanternProject.Engine.Vector
open LanternProject.Engine.Str LanternProject.Widget.LanternWidget
open LanternProject.Lantern.LanternActor LanternProject.Lantern.LanternManager
open LanternProject.Lantern.Level LanternProject.Lantern.Neighbors LanternProject.Lantern.Noticed
open LanternProject.Lantern.SaveData LanternProject.Lantern.System LanternProject.Lantern.Tick
open LanternProject.Lantern.Separation LanternProject.Lantern.Order
open LanternProject.Lantern.SideLimit (sampleAxes)

variable {K : Type} [Field K] [LinearOrder K] {env : LanternActor.Env K} {w w' : World K}
  {l : ALanternActor K} {setting : Setting K} {s s' : State K} {e : Event K}

/-! ### Who stays behind -/

/-- The greatest push a lantern can get from its neighbours. -/
def greatestPush (l : ALanternActor K) (deltaTime : K) : K :=
  if l.neighborArray = [] then 0
  else l.backSpeed * ((l.neighborArray.length + 1 : ℕ) : K) ^ 2 * deltaTime

/-- The engine tells the lantern `n` that it begins to overlap the lantern `o`. -/
def Begins (n o : ℕ) : Notice → Prop
  | .begins p => p.mesh = n ∧ p.other = o
  | .ends _ => False

/-- It tells it that it ends to overlap that lantern. -/
def Ends (n o : ℕ) : Notice → Prop
  | .begins _ => False
  | .ends p => p.mesh = n ∧ p.other = o

/-- A lantern with neighbours does not fly back towards them, nor is pushed there, and does not lose
all of them while it flies. -/
structure LeavesBehind (lantern : ℕ) (l : ALanternActor K) (deltaTime : K) (notices : TickNotices) :
    Prop where
  forward : 0 ≤ l.backDirection.x * l.backSpeed * deltaTime
  pushed : 0 ≤ l.backSpeed * deltaTime
  left : ∃ o ∈ l.neighborArray, ∀ notice ∈ notices.flying, ¬ Ends lantern o notice

/-- A lantern that another one lists, or is told of while this one flies behind it, does not get to
that one, however it is pushed. -/
def CatchesNobody (w : World K) (lantern : ℕ) (l : ALanternActor K) (deltaTime : K)
    (notices : TickNotices) : Prop :=
  ∀ n < w.lanterns.length, ∀ p ∈ locationOf w n,
    (lantern ∈ neighbors w n ∨
      (∃ notice ∈ notices.flying, Begins n lantern notice) ∧ (flight l deltaTime).x < p.x) →
    (flight l deltaTime).x + greatestPush l deltaTime < p.x

/-- Nobody catches up, and nobody flies away from all it lists. -/
def StaysBehind (env : LanternActor.Env K) (w : World K) : Event K → Prop
  | .tick lantern deltaTime notices =>
    let turned := turnLantern env w lantern notices
    ∀ l ∈ turned.lanterns[lantern]?,
      (l.neighborArray ≠ [] → LeavesBehind lantern l deltaTime notices) ∧
      CatchesNobody turned lantern l deltaTime notices
  | _ => True

/-- Lanterns are moved by their ticks only, and none are loaded. -/
def ByTicks : Event K → Prop
  | .move _ _ => False
  | .loadLantern _ _ => False
  | .loadLanternArray _ => False
  | _ => True

omit [Field K] [LinearOrder K] in
theorem loadsNone_of_byTicks (h : ByTicks e) : e.LoadsNone := by
  cases e with
  | loadLantern _ _ => exact h
  | loadLanternArray _ => exact h
  | _ => trivial

/-! ### Ticks -/

omit [Field K] in
theorem backSpeed_moves {lantern : ℕ} {ns : List Notice} (hm : Moves lantern w ns w') (n : ℕ) :
    (w'.lanterns[n]?).map (·.backSpeed) = (w.lanterns[n]?).map (·.backSpeed) := by
  induction hm with
  | refl => rfl
  | move hf _ ih =>
    refine ih.trans (map_getElem?_modify (fun l => ?_) _ _ n)
    obtain ⟨location, yaw, hl⟩ := hf l
    rw [hl]
    rfl
  | @notice w w' ns notice _ ih =>
    obtain ⟨ns', ticks, hn⟩ := (onlyNeighbors_notify w notice).lanterns n
    rw [ih, hn, Option.map_map]
    rfl

omit [Field K] in
/-- A neighbour stays with whom no pair ends. -/
theorem listed_moves {lantern n o : ℕ} {ns : List Notice} (hm : Moves lantern w ns w')
    (ho : o ∈ neighbors w n) (hns : ∀ notice ∈ ns, ¬ Ends n o notice) : o ∈ neighbors w' n := by
  induction hm with
  | refl => exact ho
  | move hf _ ih =>
    refine ih ?_ hns
    rwa [neighbors_modify hf.neighborArray]
  | @notice w w' ns notice _ ih =>
    refine ih ?_ fun notice' hmem => hns notice' (List.mem_cons_of_mem _ hmem)
    rcases notice with p | p
    · exact (mem_neighbors_beginOverlap w p n o).mpr (Or.inl ho)
    · refine (mem_neighbors_endAll n o [p] w).mpr ⟨ho, ?_⟩
      rintro ⟨q, hq, hends⟩
      rw [List.mem_singleton.mp hq] at hends
      exact hns _ List.mem_cons_self hends

omit [LinearOrder K] in
/-- What keeping away does in X. -/
theorem location_x_keepBack (l : ALanternActor K) (neighborCount : ℕ) (separation : FVector K)
    (deltaTime : K) : (l.keepBack neighborCount separation deltaTime).location.x = l.location.x +
      separation.x * (l.backSpeed * ((neighborCount + 1 : ℕ) : K) ^ 2 * deltaTime) := by
  unfold ALanternActor.keepBack ALanternActor.addActorWorldOffset
  simp only [add_x, mul_x]
  ring

/-- While the lantern `n` flies in the level `w₀`: it is at `x`, and whoever lists it is beyond what it
can reach. -/
structure Flying (w₀ : World K) (n : ℕ) (x reach : K) (w : World K) : Prop where
  front : InFront w
  spot : (locationOf w n).map (·.x) = some x
  others : ∀ m ≠ n, locationOf w m = locationOf w₀ m
  listed : ∀ m p, n ∈ neighbors w m → locationOf w m = some p → reach < p.x

/-- Whoever is told of the lantern while it is at `x` is beyond what it can reach. -/
def ToldBeyond (w₀ : World K) (n : ℕ) (x reach : K) (ns : List Notice) : Prop :=
  ∀ notice ∈ ns, ∀ m p, Begins m n notice → locationOf w₀ m = some p → x < p.x → reach < p.x

variable {w₀ : World K} {n : ℕ} {x reach : K}

omit [Field K] in
theorem flying_notices : ∀ {ns : List Notice} {w : World K}, Flying w₀ n x reach w →
    ToldBeyond w₀ n x reach ns → Flying w₀ n x reach (ns.foldl notify w)
  | [], _, h, _ => h
  | notice :: ns, w, h, htold => by
    have hlocation := locationOf_onlyNeighbors (onlyNeighbors_notify w notice)
    have hone : Flying w₀ n x reach (notify w notice) := by
      refine ⟨inFront_notify h.front notice, (congrArg _ (hlocation n)).trans h.spot,
        fun m hm => (hlocation m).trans (h.others m hm), fun m p hn hp => ?_⟩
      rw [hlocation] at hp
      rcases notice with q | q
      · rcases (mem_neighbors_beginOverlap w q m n).mp hn with hn | ⟨hmesh, hother, hbehind⟩
        · exact h.listed m p hn hp
        · -- it is told of the lantern, which is behind it
          obtain ⟨p', y, hp', hy, hlt⟩ := (behind_iff q).mp hbehind
          rw [hmesh] at hp'
          rw [hother] at hy
          have hx := h.spot
          rw [hy, Option.map_some, Option.some.injEq] at hx
          rw [hx, Option.some.inj (hp'.symm.trans hp)] at hlt
          have hm : m ≠ n := by
            rintro rfl
            rw [← hx, Option.some.inj (hy.symm.trans hp)] at hlt
            exact lt_irrefl _ hlt
          rw [h.others m hm] at hp
          exact htold _ List.mem_cons_self m p ⟨hmesh, hother⟩ hp hlt
      · exact h.listed m p ((mem_neighbors_endAll m n [q] w).mp hn).1 hp
    rw [List.foldl_cons]
    exact flying_notices hone fun notice' hmem => htold notice' (List.mem_cons_of_mem _ hmem)

omit [Field K] in
/-- A move that keeps X, and what the engine tells with it. -/
theorem flying_moveActor (h : Flying w₀ n x reach w) {f : ALanternActor K → ALanternActor K}
    (hf : OnlyMoves f) (hx : ∀ l, (f l).location.x = l.location.x) {ns : List Notice}
    (htold : ToldBeyond w₀ n x reach ns) : Flying w₀ n x reach (moveActor w n f ns) := by
  obtain ⟨spot, hspot, hatx⟩ := Option.map_eq_some_iff.mp h.spot
  obtain ⟨l, hl, rfl⟩ := Option.map_eq_some_iff.mp hspot
  refine flying_notices ⟨inFront_sideways h.front hf hx n, ?_, fun m hm => ?_, fun m p hn hp => ?_⟩
    htold
  · rw [locationOf_moved hl, if_pos rfl, Option.map_some, hx, hatx]
  · rw [locationOf_moved hl, if_neg hm.symm]
    exact h.others m hm
  · rw [neighbors_modify hf.neighborArray] at hn
    rw [locationOf_moved hl, if_neg (h.front.ne hn).symm] at hp
    exact h.listed m p hn hp

section Ordered
variable [IsStrictOrderedRing K]

/-- A lantern does not fly back towards its neighbours. -/
theorem location_x_le_flight {deltaTime : K}
    (hforward : 0 ≤ l.backDirection.x * l.backSpeed * deltaTime) :
    l.location.x ≤ (flight l deltaTime).x := by
  unfold flight
  dsimp only
  split_ifs
  · exact le_add_of_nonneg_right hforward
  · exact (add_zero _).ge

theorem greatestPush_nonneg (deltaTime : K)
    (hpushed : l.neighborArray ≠ [] → 0 ≤ l.backSpeed * deltaTime) :
    0 ≤ greatestPush l deltaTime := by
  unfold greatestPush
  split_ifs with hnil
  · exact le_rfl
  · rw [mul_right_comm]
    exact mul_nonneg (hpushed hnil) (sq_nonneg _)

variable {deltaTime : K} {notices : TickNotices}

omit [IsStrictOrderedRing K] in
theorem location_x_moveBack (l : ALanternActor K) (deltaTime : K) :
    (l.moveBack l.location deltaTime).location.x = (flight l deltaTime).x := by
  unfold ALanternActor.moveBack ALanternActor.currentDistance ALanternActor.addActorWorldOffset flight
  dsimp only
  split_ifs
  · simp
  · simp

omit [IsStrictOrderedRing K] in
theorem location_x_moveSide (l : ALanternActor K) (actorLocation : FVector K) (deltaTime : K) :
    (l.moveSide actorLocation deltaTime).location.x = l.location.x := by
  unfold ALanternActor.moveSide ALanternActor.addActorWorldOffset
  split_ifs
  · simp
  · rfl

omit [IsStrictOrderedRing K] [LinearOrder K] in
theorem location_x_moveUp (l : ALanternActor K) (deltaTime : K) :
    (l.moveUp deltaTime).location.x = l.location.x := by
  simp [ALanternActor.moveUp, ALanternActor.addActorWorldOffset]

omit [IsStrictOrderedRing K] in
theorem location_x_keepSide (l : ALanternActor K) (actorLocation : FVector K) (neighborCount : ℕ)
    (separation : FVector K) (deltaTime : K) :
    (l.keepSide actorLocation neighborCount separation deltaTime).location.x = l.location.x := by
  unfold ALanternActor.keepSide ALanternActor.addActorWorldOffset
  dsimp only
  split_ifs
  · simp
  · rfl

/-- **Flying back** a lantern does not get to those it lists or to those that list it. -/
theorem flying_moveBack (h : InFront w) (hl : w.lanterns[n]? = some l)
    (hforward : neighbors w n ≠ [] → 0 ≤ l.backDirection.x * l.backSpeed * deltaTime)
    (hreach : (flight l deltaTime).x ≤ reach)
    (hlisted : ∀ m p, n ∈ neighbors w m → locationOf w m = some p → reach < p.x) :
    Flying w n (flight l deltaTime).x reach (w.modify n (·.moveBack l.location deltaTime)) := by
  have hx := location_x_moveBack l deltaTime
  have hmoves := onlyMoves_moveBack l.location deltaTime
  refine ⟨inFront_modify h hmoves hl (fun hne => ?_) fun m p hn hp => ?_, ?_, fun m hm => ?_,
    fun m p hn hp => ?_⟩
  · rw [hx]
    exact location_x_le_flight (hforward hne)
  · rw [hx]
    exact hreach.trans_lt (hlisted m p hn hp)
  · rw [locationOf_moved hl, if_pos rfl, Option.map_some, hx]
  · rw [locationOf_moved hl, if_neg hm.symm]
  · rw [neighbors_modify hmoves.neighborArray] at hn
    rw [locationOf_moved hl, if_neg (h.ne hn).symm] at hp
    exact hlisted m p hn hp

/-- **While it flies** a lantern leaves its neighbours behind and catches up with nobody. -/
theorem flying_flyLantern (h : InFront w) (hl : w.lanterns[n]? = some l)
    (hleaves : l.neighborArray ≠ [] → LeavesBehind n l deltaTime notices)
    (hcatches : CatchesNobody w n l deltaTime notices) :
    Flying w n (flight l deltaTime).x ((flight l deltaTime).x + greatestPush l deltaTime)
      (flyLantern w n l.location deltaTime notices) := by
  have hlt : ∀ m p, locationOf w m = some p → m < w.lanterns.length := by
    intro m p hp
    obtain ⟨l', hl', -⟩ := Option.map_eq_some_iff.mp hp
    exact (List.getElem?_eq_some_iff.mp hl').1
  have hpush := greatestPush_nonneg deltaTime fun hne => (hleaves hne).pushed
  have htold : ∀ ns, (∀ notice ∈ ns, notice ∈ notices.flying) → ToldBeyond w n (flight l deltaTime).x
      ((flight l deltaTime).x + greatestPush l deltaTime) ns :=
    fun ns hns notice hmem m p hb hp hbeyond =>
      hcatches m (hlt m p hp) p hp (Or.inr ⟨⟨notice, hns notice hmem, hb⟩, hbeyond⟩)
  have hback := flying_moveBack h hl
    (fun hne => (hleaves ((neighbors_of_getElem? hl) ▸ hne)).forward)
    (le_add_of_nonneg_right hpush) fun m p hn hp => hcatches m (hlt m p hp) p hp (Or.inl hn)
  have hflying := flying_notices hback
    (htold notices.atBack (by simp +contextual [TickNotices.flying]))
  have hside := flying_moveActor hflying (onlyMoves_moveSide l.location deltaTime)
    (fun l' => location_x_moveSide l' _ _)
    (htold notices.atSide (by simp +contextual [TickNotices.flying]))
  have hheight := flying_moveActor hside (onlyMoves_moveToHeight l.location) (fun _ => rfl)
    (htold notices.atHeight (by simp +contextual [TickNotices.flying]))
  exact flying_moveActor hheight (onlyMoves_moveUp deltaTime) (fun l' => location_x_moveUp l' _)
    (htold notices.atUp (by simp +contextual [TickNotices.flying]))

/-- **While it keeps away** a lantern goes on, but not up to whoever lists it. -/
theorem inFront_keepLantern (h : Flying w₀ n x reach w) (hl : w.lanterns[n]? = some l)
    {actorLocation separation : FVector K} {neighborCount : ℕ}
    (hmean : separation.x ∈ Set.Icc 0 1) (hpushed : 0 ≤ l.backSpeed * deltaTime)
    (hreach : reach = x + l.backSpeed * ((neighborCount + 1 : ℕ) : K) ^ 2 * deltaTime) :
    InFront (keepLantern w n actorLocation neighborCount separation deltaTime notices) := by
  have hspot := h.spot
  rw [locationOf, hl, Option.map_some, Option.map_some, Option.some.injEq] at hspot
  have hforward : 0 ≤ l.backSpeed * ((neighborCount + 1 : ℕ) : K) ^ 2 * deltaTime := by
    rw [mul_right_comm]
    exact mul_nonneg hpushed (sq_nonneg _)
  have hx := location_x_keepBack l neighborCount separation deltaTime
  have hback : InFront (moveActor w n (·.keepBack neighborCount separation deltaTime)
      notices.atKeepBack) := by
    refine inFront_notices _ (inFront_modify h.front (onlyMoves_keepBack _ _ _) hl (fun _ => ?_)
      fun m p hn hp => ?_)
    · rw [hx]
      exact le_add_of_nonneg_right (mul_nonneg hmean.1 hforward)
    · rw [hx, hspot]
      exact (add_le_add_right (mul_le_of_le_one_left hforward hmean.2) x).trans_lt
        (hreach ▸ h.listed m p hn hp)
  exact inFront_notices _ (inFront_sideways hback (onlyMoves_keepSide _ _ _ _)
    (fun l' => location_x_keepSide l' _ _ _ _) n)

/-- The separation from lanterns that are behind is forward. -/
theorem getSeparation_x_mem_Icc (hlength : ∀ v, |v.x| ≤ env.length v) {ns : List (FVector K)}
    (hne : ns ≠ []) (hbehind : ∀ q ∈ ns, q.x ≤ l.location.x) :
    (l.getSeparation env ns).x ∈ Set.Icc 0 1 := by
  refine coord_getSeparation_mem_Icc (c := FVector.x) rfl (fun _ _ => rfl) (fun _ _ => rfl) hne
    fun q hq => ?_
  have hway : 0 ≤ (l.location - q).x := sub_nonneg.mpr (hbehind q hq)
  have hle := hlength (l.location - q)
  rw [abs_of_nonneg hway] at hle
  exact ⟨div_nonneg hway (hway.trans hle), div_le_one_of_le₀ hle (hway.trans hle)⟩

omit [IsStrictOrderedRing K] in
theorem inFront_turnLantern (h : InFront w) (env : LanternActor.Env K) (n : ℕ)
    (notices : TickNotices) : InFront (turnLantern env w n notices) :=
  inFront_notices _ (inFront_sideways h (onlyMoves_turn env) (fun _ => rfl) n)

/-- In front of its neighbours, a lantern flies clear of them. -/
theorem fliesClear_of_inFront (h : InFront w) (hk : StaysBehind env w e) : FliesClear env w e := by
  cases e with
  | tick n deltaTime notices =>
    intro l hl hne
    obtain ⟨hleaves, hcatches⟩ := hk l hl
    have hflown := flying_flyLantern (inFront_turnLantern h env n notices) hl hleaves hcatches
    obtain ⟨o, ho, hleft⟩ := (hleaves hne).left
    have hlisted := listed_moves
      (moves_flyLantern (turnLantern env w n notices) n l.location deltaTime notices)
      ((neighbors_of_getElem? hl).symm ▸ ho) hleft
    refine ⟨List.ne_nil_of_mem hlisted, fun o ho hat => ?_⟩
    obtain ⟨p, q, hp, hq, hlt⟩ := hflown.front n o ho
    have hspot := hflown.spot
    rw [hp, Option.map_some, Option.some.injEq] at hspot
    rw [hspot, Option.some.inj (hq.symm.trans hat)] at hlt
    exact lt_irrefl _ hlt
  | _ => trivial

/-- **A tick in which nobody catches up** leaves all neighbours behind. -/
theorem inFront_tick (hlength : ∀ v, |v.x| ≤ env.length v) (h : InFront w) {call : Option (Call K)}
    (hk : StaysBehind env w (.tick n deltaTime notices))
    (ht : tickCall env w n deltaTime notices = .ok (w', call)) : InFront w' := by
  have hclear := fliesClear_of_inFront h hk
  obtain ⟨l, v, hl, rfl, hcases⟩ := tickCall_ok ht
  obtain ⟨hleaves, hcatches⟩ := hk l hl
  have hflown := flying_flyLantern (inFront_turnLantern h env n notices) hl hleaves hcatches
  rcases hcases with ⟨-, rfl, -⟩ | ⟨hne, l', neighborActors, hl', hactors, rfl, -⟩
  · exact hflown.front
  have hspeed : l'.backSpeed = l.backSpeed := by
    have hsame := backSpeed_moves
      (moves_flyLantern (turnLantern env w n notices) n l.location deltaTime notices) n
    rw [hl, hl', Option.map_some, Option.map_some] at hsame
    exact Option.some.inj hsame
  refine inFront_keepLantern hflown hl' (getSeparation_x_mem_Icc hlength ?_ fun q hq => ?_) ?_ ?_
  · have hsome := (hclear l hl hne).1
    rw [neighbors_of_getElem? hl'] at hsome
    rw [← List.length_pos_iff, List.length_map, length_of_map_some hactors]
    exact List.length_pos_iff.mpr hsome
  · obtain ⟨o, ho, hoq⟩ := (mem_locations_iff hactors q).mp hq
    rw [← neighbors_of_getElem? hl'] at ho
    obtain ⟨p, q', hp, hq', hlt⟩ := hflown.front n o ho
    rw [locationOf, hl', Option.map_some] at hp
    rw [Option.some.inj (hoq.symm.trans hq'), Option.some.inj hp]
    exact hlt.le
  · rw [hspeed]
    exact (hleaves hne).pushed
  · rw [hspeed, greatestPush, if_neg hne]

/-- **One step** in which nobody catches up. -/
theorem inFront_next (hlength : ∀ v, |v.x| ≤ setting.env.length v) (h : InFront s.world)
    (hb : ByTicks e) (hk : StaysBehind setting.env s.world e) (hs : Next setting s e s') :
    InFront s'.world := by
  have hl : e.LoadsNone := loadsNone_of_byTicks hb
  by_cases htick : ∃ n deltaTime notices, e = .tick n deltaTime notices
  · obtain ⟨n, deltaTime, notices, rfl⟩ := htick
    obtain ⟨w, ht, hs⟩ := bind_ok.mp hs
    obtain ⟨call, hc⟩ := tickLantern_ok ht
    rw [← Except.ok.inj hs]
    exact inFront_tick hlength h hk hc
  · rcases next_cases hl hs with ⟨image, text, choice, notices, w, n, hj⟩ | _ |
      ⟨_, lantern, told, w, he, -⟩ | p | p | ⟨_, ts, he, -⟩ | ⟨lanternArray, records⟩
    · have hspawned := inFront_justSpawnLantern h hj
      show InFront (kept w n)
      unfold kept
      split_ifs
      · exact inFront_destroy hspawned _
      · exact hspawned
    · exact inFront_destroyAll _ h
    · rcases he with ⟨deltaTime, notices, rfl, -⟩ | ⟨location, rfl, -⟩
      · exact absurd ⟨lantern, deltaTime, notices, rfl⟩ htick
      · exact hb.elim
    · exact inFront_notify h (.begins p)
    · exact inFront_notify h (.ends p)
    · exact h
    · exact inFront_indexed h lanternArray.elems lanternArray.elems

omit [IsStrictOrderedRing K] in
theorem inFront_beginPlay {assets : List WidgetAsset} {choice : LanternChoice K}
    {notices : List Notice} (h : beginPlay setting assets choice notices = .ok s) :
    InFront s.world := by
  have hempty : InFront (emptyLevel assets : World K) :=
    fun n o ho => absurd ho List.not_mem_nil
  obtain ⟨w, hw, h⟩ := bind_ok.mp h
  obtain ⟨⟨v, n⟩, hj, hd⟩ := bind_ok.mp hw
  rw [← Except.ok.inj h, ← Except.ok.inj hd]
  exact inFront_destroy (inFront_justSpawnLantern hempty hj) n

/-- **When the separations are numbers**: exactly in the runs in which every tick flies clear of the
lantern's neighbours; in particular in those in which nobody catches up with a lantern that lists it or
flies away from all it lists, where all neighbours stay behind. -/
theorem separates_of_staysBehind (setting : Setting K)
    (hlength : ∀ v, |v.x| ≤ setting.env.length v) (hzero : ∀ v, setting.env.length v = 0 ↔ v = 0)
    (assets : List WidgetAsset) (choice : LanternChoice K) (notices : List Notice)
    (s₀ : State K) (tr : List (State K × Event K)) (s : State K)
    (h₀ : beginPlay setting assets choice notices = .ok s₀) (hr : Run (Next setting) s₀ tr s)
    (hb : Along (fun _ => ByTicks) tr) :
    (Along (fun s e => Separates setting.env s.world e) tr ↔
      Along (fun s e => FliesClear setting.env s.world e) tr) ∧
    (Along (fun s e => StaysBehind setting.env s.world e) tr →
      Along (fun s e => Separates setting.env s.world e) tr ∧
      Always (fun s => InFront s.world) tr s) := by
  have hiff := hr.along_congr fun u e u' hs => separates_iff hzero (s := u) (e := e) hs
  refine ⟨hiff, fun hk => ?_⟩
  have hboth : Along (fun s e => ByTicks e ∧ StaysBehind setting.env s.world e) tr :=
    fun p hp => ⟨hb p hp, hk p hp⟩
  have hall := hr.invariant (I := fun s => InFront s.world) (inFront_beginPlay h₀)
    (fun u e u' h hc hs => inFront_next hlength h hc.1 hc.2 hs) hboth
  exact ⟨hiff.mpr fun p hp => fliesClear_of_inFront (hall.1 p hp) (hk p hp), hall⟩

end Ordered

/-! ### Slow and fast lanterns -/

instance (e : Event K) : Decidable (ByTicks e) :=
  match e with
  | .move _ _ | .loadLantern _ _ | .loadLanternArray _ => isFalse id
  | .spawnLantern _ _ _ _ | .removeAllLantern | .tick _ _ _ | .beginOverlap _ | .endOverlap _
  | .textureFromWidget _ _ | .base64ToTexture2D _ _ | .saveLanternArray _ => isTrue trivial

instance (n o : ℕ) (notice : Notice) : Decidable (Begins n o notice) :=
  match notice with
  | .begins p => inferInstanceAs (Decidable (p.mesh = n ∧ p.other = o))
  | .ends _ => isFalse id

instance (n o : ℕ) (notice : Notice) : Decidable (Ends n o notice) :=
  match notice with
  | .begins _ => isFalse id
  | .ends p => inferInstanceAs (Decidable (p.mesh = n ∧ p.other = o))

theorem leavesBehind_iff {n : ℕ} {deltaTime : K} {notices : TickNotices} :
    LeavesBehind n l deltaTime notices ↔ 0 ≤ l.backDirection.x * l.backSpeed * deltaTime ∧
      0 ≤ l.backSpeed * deltaTime ∧
      ∃ o ∈ l.neighborArray, ∀ notice ∈ notices.flying, ¬ Ends n o notice :=
  ⟨fun h => ⟨h.forward, h.pushed, h.left⟩, fun h => ⟨h.1, h.2.1, h.2.2⟩⟩

instance (n : ℕ) (l : ALanternActor K) (deltaTime : K) (notices : TickNotices) :
    Decidable (LeavesBehind n l deltaTime notices) := decidable_of_iff' _ leavesBehind_iff

instance (w : World K) (n : ℕ) (l : ALanternActor K) (deltaTime : K) (notices : TickNotices) :
    Decidable (CatchesNobody w n l deltaTime notices) := by
  unfold CatchesNobody
  infer_instance

instance (env : LanternActor.Env K) (w : World K) (e : Event K) :
    Decidable (StaysBehind env w e) :=
  match e with
  | .tick n deltaTime notices => inferInstanceAs (Decidable
      (∀ l ∈ (turnLantern env w n notices).lanterns[n]?,
        (l.neighborArray ≠ [] → LeavesBehind n l deltaTime notices) ∧
        CatchesNobody (turnLantern env w n notices) n l deltaTime notices))
  | .spawnLantern _ _ _ _ | .removeAllLantern | .move _ _ | .beginOverlap _ | .endOverlap _
  | .textureFromWidget _ _ | .base64ToTexture2D _ _ | .saveLanternArray _ | .loadLantern _ _
  | .loadLanternArray _ => isTrue trivial

instance (env : LanternActor.Env ℚ) (w : World ℚ) (e : Event ℚ) : Decidable (FliesClear env w e) :=
  match e with
  | .tick n deltaTime notices => inferInstanceAs (Decidable
      (∀ l ∈ (turnLantern env w n notices).lanterns[n]?, l.neighborArray ≠ [] →
        neighbors (flyLantern (turnLantern env w n notices) n l.location deltaTime notices) n ≠ [] ∧
        ∀ o ∈ neighbors (flyLantern (turnLantern env w n notices) n l.location deltaTime notices) n,
          locationOf (flyLantern (turnLantern env w n notices) n l.location deltaTime notices) o ≠
            some (flight l deltaTime)))
  | .spawnLantern _ _ _ _ | .removeAllLantern | .move _ _ | .beginOverlap _ | .endOverlap _
  | .textureFromWidget _ _ | .base64ToTexture2D _ _ | .saveLanternArray _ | .loadLantern _ _
  | .loadLanternArray _ => isTrue trivial

/-- Lanterns of two speeds, which fly straight back for a long way. -/
def sampleFlock : Setting ℚ :=
  { sampleSetting with
    env := sampleAxes
    manager := { sampleManager with
      backSpeed := -1
      targetLocation := ⟨8, 0, 0⟩
      upLimitLocation := ⟨8, 0, 1⟩
      rightLimitLocation := ⟨8, 1, 0⟩
      distance := 8
      lanternTypeArray := [[⟨true, 1, 1, 1⟩, ⟨true, 1, 1, 7⟩]] } }

theorem abs_x_le_length (v : FVector ℚ) : |v.x| ≤ sampleFlock.env.length v := by
  have hy := abs_nonneg v.y
  have hz := abs_nonneg v.z
  change |v.x| ≤ |v.x| + |v.y| + |v.z|
  linarith

theorem length_eq_zero_iff (v : FVector ℚ) : sampleFlock.env.length v = 0 ↔ v = 0 := by
  have hx := abs_nonneg v.x
  have hy := abs_nonneg v.y
  have hz := abs_nonneg v.z
  change |v.x| + |v.y| + |v.z| = 0 ↔ v = 0
  rw [add_eq_zero_iff_of_nonneg (add_nonneg hx hy) hz, add_eq_zero_iff_of_nonneg hx hy,
    abs_eq_zero, abs_eq_zero, abs_eq_zero, FVector.ext_iff, and_assoc]
  rfl

/-- A lantern flies back for a second, and one of the given variation is spawned behind it and overlaps
it. -/
def sampleMeeting (variationIndex : ℕ) : List (Event ℚ) :=
  [.spawnLantern none (TEXT "A") sampleChoice [], .tick 1 1 noNotices,
    .spawnLantern none (TEXT "B") ⟨⟨0, variationIndex, firstPage⟩, 0, 0⟩
      [.begins ⟨1, 2, 0⟩, .begins ⟨2, 1, 0⟩]]

/-- Both fly on; the first one begins to overlap another component of the second while it flies. -/
def sampleFrames (variationIndex : ℕ) : List (Event ℚ) :=
  sampleMeeting variationIndex ++ [.tick 1 1 { noNotices with atBack := [.begins ⟨1, 2, 1⟩] },
    .tick 2 1 noNotices]

/-- The first one flies on, and in another tick it flies away from the second. -/
def sampleNext : Event ℚ := .tick 1 1 noNotices
def sampleParting : Event ℚ :=
  .tick 1 1 { noNotices with atBack := [.ends ⟨1, 2, 0⟩, .ends ⟨2, 1, 0⟩] }

theorem separates_of_staysBehind_slow : ∃ s₀ tr s,
    beginPlay sampleFlock sampleAssets sampleChoice [] = .ok s₀ ∧
    Run (Next sampleFlock) s₀ tr s ∧ tr.map Prod.snd = sampleFrames 0 ++ [sampleNext] ∧
    neighbors s.world 1 = [2] ∧
    Along (fun s e => Separates sampleFlock.env s.world e) tr := by
  obtain ⟨s₀, h₀⟩ : ∃ s₀, beginPlay sampleFlock sampleAssets sampleChoice [] = .ok s₀ := ⟨_, rfl⟩
  have hplayed : ((sampleFrames 0 ++ [sampleNext]).foldlM (fun s e =>
      if ByTicks e ∧ StaysBehind sampleFlock.env s.world e then next sampleFlock s e else none)
        s₀).map (fun s => neighbors s.world 1) = some [2] := by
    obtain rfl := Except.ok.inj h₀
    decide +kernel
  obtain ⟨s, hs, hneighbors⟩ := Option.map_eq_some_iff.mp hplayed
  obtain ⟨tr, ⟨hr, hc⟩, htr⟩ := run_of_foldlM_along (next_of_next sampleFlock) _ hs
  have hall := separates_of_staysBehind sampleFlock abs_x_le_length length_eq_zero_iff _ _ _ s₀ tr s
    h₀ hr fun p hp => (hc p hp).1
  exact ⟨s₀, tr, s, h₀, hr, htr, hneighbors, (hall.2 fun p hp => (hc p hp).2).1⟩

/-- A run that ends with a tick that does not fly clear. -/
theorem exists_run_not_separates {s₀ : State ℚ} {es : List (Event ℚ)} {e : Event ℚ}
    (hb : ByTicks e)
    (h : (es.foldlM (fun s e => if ByTicks e then next sampleFlock s e else none) s₀).map (fun s =>
      ((next sampleFlock s e).isSome, decide (FliesClear sampleFlock.env s.world e))) =
        some (true, false)) : ∃ tr s, Run (Next sampleFlock) s₀ tr s ∧ tr.map Prod.snd = es ++ [e] ∧
      Along (fun _ => ByTicks) tr ∧
      ¬ Along (fun s e => Separates sampleFlock.env s.world e) tr := by
  obtain ⟨u, hu, hvalues⟩ := Option.map_eq_some_iff.mp h
  obtain ⟨tr, ⟨hr, hc⟩, htr⟩ := run_of_foldlM_along (next_of_next sampleFlock) _ hu
  obtain ⟨hsome, hnot⟩ := Prod.mk.inj hvalues
  obtain ⟨s, hs⟩ := Option.isSome_iff_exists.mp hsome
  have hstep := next_of_next _ _ _ _ hs
  refine ⟨_, s, hr.snoc hstep, ?_, along_snoc.mpr ⟨hc, hb⟩, fun hall => ?_⟩
  · rw [List.map_append, htr]
    rfl
  · exact of_decide_eq_false hnot ((separates_iff length_eq_zero_iff hstep).mp (along_snoc.mp hall).2)

/-- **Two ways to no number**: a lantern flies away from the only one it lists, and one that is seven
times as fast is where the flight of the other one ends in the third frame. -/
theorem not_separates : ∃ s₀, beginPlay sampleFlock sampleAssets sampleChoice [] = .ok s₀ ∧
    (∃ tr s, Run (Next sampleFlock) s₀ tr s ∧ tr.map Prod.snd = sampleMeeting 0 ++ [sampleParting] ∧
      Along (fun _ => ByTicks) tr ∧
      ¬ Along (fun s e => Separates sampleFlock.env s.world e) tr) ∧
    ∃ tr s, Run (Next sampleFlock) s₀ tr s ∧ tr.map Prod.snd = sampleFrames 1 ++ [sampleNext] ∧
      Along (fun _ => ByTicks) tr ∧
      ¬ Along (fun s e => Separates sampleFlock.env s.world e) tr := by
  obtain ⟨s₀, h₀⟩ : ∃ s₀, beginPlay sampleFlock sampleAssets sampleChoice [] = .ok s₀ := ⟨_, rfl⟩
  refine ⟨s₀, h₀, exists_run_not_separates trivial ?_, exists_run_not_separates trivial ?_⟩
  · obtain rfl := Except.ok.inj h₀
    decide +kernel
  · obtain rfl := Except.ok.inj h₀
    decide +kernel

end LanternProject.Lantern.Following
