import LanternProject.Lantern.Level

/-! # The ticks of the lanterns

A `Tick` moves its lantern up to seven times. With each move the engine finds out which pairs begin and
end to overlap, and tells the lanterns at once, before the `Tick` goes on. So the neighbours that
`GetSeparation` reads need not be those that were counted when the `Tick` began.

A `Tick` is moves of the one lantern and notices (`moves_tickCall`), and the lantern gets to where
`tick` of the actor takes it (`locationOf_tickCall`). -/

namespace LanternProject.Lantern.Tick

open LanternProject.Engine.Basic LanternProject.Engine.Vector
open LanternProject.Lantern.LanternActor LanternProject.Lantern.Level

variable {K : Type} [Field K] [LinearOrder K]

/-- What the engine tells the lanterns with each of the moves of a `Tick`; nothing with one that the
`Tick` leaves out. -/
structure TickNotices where
  atTurn : List Notice
  atBack : List Notice
  atSide : List Notice
  atHeight : List Notice
  atUp : List Notice
  atKeepBack : List Notice
  atKeepSide : List Notice

/-- Between the count of the neighbours and `GetSeparation`. -/
def TickNotices.flying (notices : TickNotices) : List Notice :=
  notices.atBack ++ notices.atSide ++ notices.atHeight ++ notices.atUp

/-- After `GetSeparation`. -/
def TickNotices.keeping (notices : TickNotices) : List Notice :=
  notices.atKeepBack ++ notices.atKeepSide

def TickNotices.all (notices : TickNotices) : List Notice :=
  notices.atTurn ++ notices.flying ++ notices.keeping

/-- The engine tells nothing. -/
def noNotices : TickNotices := ⟨[], [], [], [], [], [], []⟩

/-- The lantern moves, and the engine tells the lanterns what it finds. -/
def moveActor (w : World K) (lantern : ℕ) (move : ALanternActor K → ALanternActor K)
    (notices : List Notice) : World K :=
  notices.foldl notify (w.modify lantern move)

/-- The lantern turns. -/
def turnLantern (env : LanternActor.Env K) (w : World K) (lantern : ℕ) (notices : TickNotices) :
    World K :=
  moveActor w lantern (·.turn env) notices.atTurn

/-- It flies back. -/
def flyLantern (w : World K) (lantern : ℕ) (actorLocation : FVector K) (deltaTime : K)
    (notices : TickNotices) : World K :=
  let w := moveActor w lantern (·.moveBack actorLocation deltaTime) notices.atBack
  let w := moveActor w lantern (·.moveSide actorLocation deltaTime) notices.atSide
  let w := moveActor w lantern (·.moveToHeight actorLocation) notices.atHeight
  moveActor w lantern (·.moveUp deltaTime) notices.atUp

/-- It keeps away from its neighbours. -/
def keepLantern (w : World K) (lantern : ℕ) (actorLocation : FVector K) (neighborCount : ℕ)
    (separation : FVector K) (deltaTime : K) (notices : TickNotices) : World K :=
  let w := moveActor w lantern (·.keepBack neighborCount separation deltaTime) notices.atKeepBack
  moveActor w lantern (·.keepSide actorLocation neighborCount separation deltaTime)
    notices.atKeepSide

/-- A call of `GetSeparation`: the lantern, and the locations of its neighbours. -/
structure Call (K : Type) where
  lantern : ALanternActor K
  neighbors : List (FVector K)

/-- `Tick` of a lantern, and the call of `GetSeparation` in it. -/
def tickCall (env : LanternActor.Env K) (w : World K) (lantern : ℕ) (deltaTime : K)
    (notices : TickNotices) : Except Fault (World K × Option (Call K)) := do
  let w := turnLantern env w lantern notices
  let l ← w.actor lantern
  let actorLocation := l.location
  let neighborCount := l.neighborArray.length
  let w := flyLantern w lantern actorLocation deltaTime notices
  if neighborCount > 0 then
    let l ← w.actor lantern
    let neighborActors ← l.neighborArray.mapM w.actor
    let call : Call K := ⟨l, neighborActors.map (·.location)⟩
    let separation := call.lantern.getSeparation env call.neighbors
    .ok (keepLantern w lantern actorLocation neighborCount separation deltaTime notices, some call)
  else .ok (w, none)

/-- `Tick` of a lantern. -/
def tickLantern (env : LanternActor.Env K) (w : World K) (lantern : ℕ) (deltaTime : K)
    (notices : TickNotices) : Except Fault (World K) := do
  let (w, _) ← tickCall env w lantern deltaTime notices
  .ok w

variable {env : LanternActor.Env K} {w w' : World K} {lantern : ℕ} {deltaTime : K}
  {notices : TickNotices} {call : Option (Call K)}

theorem tickLantern_ok (h : tickLantern env w lantern deltaTime notices = .ok w') :
    ∃ call, tickCall env w lantern deltaTime notices = .ok (w', call) := by
  obtain ⟨⟨v, call⟩, hc, h⟩ := bind_ok.mp h
  rw [← Except.ok.inj h]
  exact ⟨call, hc⟩

/-- **Inversion**: a lantern without neighbours flies, one with neighbours flies and keeps away. -/
theorem tickCall_ok (h : tickCall env w lantern deltaTime notices = .ok (w', call)) :
    ∃ (l : ALanternActor K) (v : World K),
      (turnLantern env w lantern notices).lanterns[lantern]? = some l ∧
      v = flyLantern (turnLantern env w lantern notices) lantern l.location deltaTime notices ∧
      (l.neighborArray = [] ∧ w' = v ∧ call = none ∨
        l.neighborArray ≠ [] ∧ ∃ (l' : ALanternActor K) (neighborActors : List (ALanternActor K)),
          v.lanterns[lantern]? = some l' ∧
          neighborActors.map some = l'.neighborArray.map (v.lanterns[·]?) ∧
          w' = keepLantern v lantern l.location l.neighborArray.length
            (l'.getSeparation env (neighborActors.map (·.location))) deltaTime notices ∧
          call = some ⟨l', neighborActors.map (·.location)⟩) := by
  obtain ⟨l, hl, h⟩ := bind_ok.mp h
  refine ⟨l, _, actor_ok.mp hl, rfl, ?_⟩
  dsimp only at h
  split_ifs at h with hcount
  · obtain ⟨l', hl', h⟩ := bind_ok.mp h
    obtain ⟨neighborActors, hactors, h⟩ := bind_ok.mp h
    obtain ⟨rfl, rfl⟩ := Prod.mk.inj (Except.ok.inj h)
    exact Or.inr ⟨List.length_pos_iff.mp hcount, l', neighborActors, actor_ok.mp hl',
      actors_ok hactors, rfl, rfl⟩
  · obtain ⟨rfl, rfl⟩ := Prod.mk.inj (Except.ok.inj h)
    exact Or.inl ⟨List.length_eq_zero_iff.mp (by omega), rfl, rfl⟩

/-! ### Moves and notices -/

/-- The lantern moves and the lanterns are told of the notices, one after the other. -/
inductive Moves (lantern : ℕ) : World K → List Notice → World K → Prop
  | refl (w : World K) : Moves lantern w [] w
  | move {w w' : World K} {ns : List Notice} {f : ALanternActor K → ALanternActor K}
      (hf : OnlyMoves f) (h : Moves lantern (w.modify lantern f) ns w') : Moves lantern w ns w'
  | notice {w w' : World K} {ns : List Notice} {n : Notice} (h : Moves lantern (notify w n) ns w') :
      Moves lantern w (n :: ns) w'

omit [Field K] in
theorem Moves.trans {w₁ w₂ w₃ : World K} {ns ns' : List Notice} (h : Moves lantern w₁ ns w₂)
    (h' : Moves lantern w₂ ns' w₃) : Moves lantern w₁ (ns ++ ns') w₃ := by
  induction h with
  | refl => exact h'
  | move hf _ ih => exact .move hf (ih h')
  | notice _ ih => exact .notice (ih h')

omit [Field K] in
theorem moves_notices : ∀ (ns : List Notice) (w : World K), Moves lantern w ns (ns.foldl notify w)
  | [], w => .refl w
  | _ :: ns, _ => .notice (moves_notices ns _)

omit [Field K] in
theorem moves_moveActor {f : ALanternActor K → ALanternActor K} (hf : OnlyMoves f) (w : World K)
    (lantern : ℕ) (ns : List Notice) : Moves lantern w ns (moveActor w lantern f ns) :=
  .move hf (moves_notices ns _)

theorem moves_turnLantern (env : LanternActor.Env K) (w : World K) (lantern : ℕ)
    (notices : TickNotices) : Moves lantern w notices.atTurn (turnLantern env w lantern notices) :=
  moves_moveActor (onlyMoves_turn env) w lantern _

theorem moves_flyLantern (w : World K) (lantern : ℕ) (actorLocation : FVector K) (deltaTime : K)
    (notices : TickNotices) :
    Moves lantern w notices.flying (flyLantern w lantern actorLocation deltaTime notices) :=
  (((moves_moveActor (onlyMoves_moveBack _ _) w lantern _).trans
    (moves_moveActor (onlyMoves_moveSide _ _) _ lantern _)).trans
      (moves_moveActor (onlyMoves_moveToHeight _) _ lantern _)).trans
        (moves_moveActor (onlyMoves_moveUp _) _ lantern _)

theorem moves_keepLantern (w : World K) (lantern : ℕ) (actorLocation : FVector K) (neighborCount : ℕ)
    (separation : FVector K) (deltaTime : K) (notices : TickNotices) :
    Moves lantern w notices.keeping
      (keepLantern w lantern actorLocation neighborCount separation deltaTime notices) :=
  (moves_moveActor (onlyMoves_keepBack _ _ _) w lantern _).trans
    (moves_moveActor (onlyMoves_keepSide _ _ _ _) _ lantern _)

/-- **A tick is moves and notices**: all notices, or those before `GetSeparation`. -/
theorem moves_tickCall (h : tickCall env w lantern deltaTime notices = .ok (w', call)) :
    ∃ ns, ns <+: notices.all ∧ Moves lantern w ns w' := by
  obtain ⟨l, v, -, rfl, hcases⟩ := tickCall_ok h
  have hflown := (moves_turnLantern env w lantern notices).trans
    (moves_flyLantern _ lantern l.location deltaTime notices)
  rcases hcases with ⟨-, rfl, -⟩ | ⟨-, l', neighborActors, -, -, rfl, -⟩
  · exact ⟨_, List.prefix_append _ _, hflown⟩
  · exact ⟨_, List.prefix_rfl, hflown.trans (moves_keepLantern _ lantern _ _ _ _ _)⟩

/-- What moves of one lantern and notices leave alone. -/
structure SameLanterns (lantern : ℕ) (w w' : World K) : Prop where
  textures : w'.textures = w.textures
  lanternArray : w'.lanternArray = w.lanternArray
  length : w'.lanterns.length = w.lanterns.length
  alive : ∀ n, aliveAt w' n = aliveAt w n
  others : ∀ n ≠ lantern, locationOf w' n = locationOf w n

omit [Field K] in
theorem Moves.same {ns : List Notice} (h : Moves lantern w ns w') : SameLanterns lantern w w' := by
  induction h with
  | refl => exact ⟨rfl, rfl, rfl, fun _ => rfl, fun _ _ => rfl⟩
  | @move w w' ns f hf _ ih =>
    refine ⟨ih.textures, ih.lanternArray, ih.length.trans (length_modify _ _ _),
      fun n => (ih.alive n).trans (aliveAt_modify _ _ _ hf.alive),
      fun n hn => (ih.others n hn).trans ?_⟩
    rw [locationOf, getElem?_modify]
    simp [hn.symm, locationOf]
  | @notice w w' ns n _ ih =>
    have hone := onlyNeighbors_notify w n
    exact ⟨ih.textures.trans hone.textures, ih.lanternArray.trans hone.lanternArray,
      ih.length.trans hone.length, fun n => (ih.alive n).trans (hone.aliveAt n),
      fun n hn => (ih.others n hn).trans (locationOf_onlyNeighbors hone n)⟩

/-! ### Where a tick takes its lantern -/

/-- A move that does not read the neighbours. -/
def Blind (f : ALanternActor K → ALanternActor K) : Prop :=
  ∀ l ns ticks, f (withNeighbors l ns ticks) = withNeighbors (f l) ns ticks

omit [Field K] [LinearOrder K] in
theorem Blind.guarded {f : ALanternActor K → ALanternActor K} (hf : Blind f)
    {p : ALanternActor K → Prop} [DecidablePred p]
    (hp : ∀ l ns ticks, p (withNeighbors l ns ticks) ↔ p l) :
    Blind fun l => if p l then f l else l := by
  intro l ns ticks
  by_cases h : p l
  · dsimp only
    rw [if_pos h, if_pos ((hp l ns ticks).mpr h), hf]
  · dsimp only
    rw [if_neg h, if_neg fun h' => h ((hp l ns ticks).mp h')]

theorem blind_moveBack (actorLocation : FVector K) (deltaTime : K) :
    Blind fun l : ALanternActor K => l.moveBack actorLocation deltaTime :=
  Blind.guarded (fun _ _ _ => rfl) fun _ _ _ => Iff.rfl

theorem blind_moveSide (actorLocation : FVector K) (deltaTime : K) :
    Blind fun l : ALanternActor K => l.moveSide actorLocation deltaTime :=
  Blind.guarded (fun _ _ _ => rfl) fun _ _ _ => Iff.rfl

theorem blind_keepSide (actorLocation : FVector K) (neighborCount : ℕ) (separation : FVector K)
    (deltaTime : K) : Blind fun l : ALanternActor K =>
      l.keepSide actorLocation neighborCount separation deltaTime :=
  Blind.guarded (fun _ _ _ => rfl) fun _ _ _ => Iff.rfl

omit [Field K] in
theorem lantern_moveActor {f : ALanternActor K → ALanternActor K} (hf : Blind f)
    {l : ALanternActor K} (hl : ∃ ns ticks, w.lanterns[lantern]? = some (withNeighbors l ns ticks))
    (ns : List Notice) : ∃ ns' ticks',
      (moveActor w lantern f ns).lanterns[lantern]? = some (withNeighbors (f l) ns' ticks') := by
  obtain ⟨before, ticks, hl⟩ := hl
  have hmoved : (w.modify lantern f).lanterns[lantern]? =
      some (withNeighbors (f l) before ticks) := by
    rw [getElem?_modify, hl, Option.map_some, if_pos rfl, hf]
  obtain ⟨after, ticks', hafter⟩ :=
    (onlyNeighbors_foldl onlyNeighbors_notify ns (w.modify lantern f)).getElem? hmoved
  exact ⟨after, ticks', hafter⟩

theorem lantern_turnLantern (env : LanternActor.Env K) (notices : TickNotices)
    {l : ALanternActor K} (hl : w.lanterns[lantern]? = some l) :
    ∃ ns ticks, (turnLantern env w lantern notices).lanterns[lantern]? =
      some (withNeighbors (l.turn env) ns ticks) :=
  lantern_moveActor (fun _ _ _ => rfl) ⟨l.neighborArray, l.tickEnabled, hl⟩ _

theorem lantern_flyLantern (deltaTime : K) (notices : TickNotices) {l : ALanternActor K}
    (hl : ∃ ns ticks, w.lanterns[lantern]? = some (withNeighbors (l.turn env) ns ticks)) :
    ∃ ns ticks, (flyLantern w lantern l.location deltaTime notices).lanterns[lantern]? =
      some (withNeighbors (l.flyBack env deltaTime) ns ticks) := by
  have hback := lantern_moveActor (blind_moveBack l.location deltaTime) hl notices.atBack
  have hside := lantern_moveActor (blind_moveSide l.location deltaTime) hback notices.atSide
  have hheight := lantern_moveActor (f := (·.moveToHeight l.location)) (fun _ _ _ => rfl) hside
    notices.atHeight
  exact lantern_moveActor (fun _ _ _ => rfl) hheight notices.atUp

theorem lantern_keepLantern (deltaTime : K) (notices : TickNotices) {l : ALanternActor K}
    (hl : ∃ ns ticks, w.lanterns[lantern]? = some (withNeighbors l ns ticks))
    (actorLocation : FVector K) (neighborCount : ℕ) (separation : FVector K) :
    ∃ ns ticks, (keepLantern w lantern actorLocation neighborCount separation deltaTime
        notices).lanterns[lantern]? = some (withNeighbors
          (l.keepAway actorLocation neighborCount separation deltaTime) ns ticks) := by
  have hback := lantern_moveActor (f := (·.keepBack neighborCount separation deltaTime))
    (fun _ _ _ => rfl) hl notices.atKeepBack
  exact lantern_moveActor (blind_keepSide actorLocation neighborCount separation deltaTime) hback
    notices.atKeepSide

/-- **A tick takes the lantern where `tick` takes the actor**, with the neighbours counted when it has
turned, and the separation from those that are left when it is called for. -/
theorem locationOf_tickCall {l : ALanternActor K} (hl : w.lanterns[lantern]? = some l)
    (h : tickCall env w lantern deltaTime notices = .ok (w', call)) :
    locationOf w' lantern = some (l.tick env (neighbors (turnLantern env w lantern notices)
      lantern).length (call.elim [] Call.neighbors) deltaTime).location := by
  obtain ⟨l₁, v, hl₁, rfl, hcases⟩ := tickCall_ok h
  have hturned := lantern_turnLantern env notices hl
  have hflown := lantern_flyLantern deltaTime notices hturned
  obtain ⟨ns, ticks, hl₁'⟩ := hturned
  obtain rfl := Option.some.inj (hl₁.symm.trans hl₁')
  rw [neighbors_of_getElem? hl₁, locationOf, ALanternActor.tick]
  rcases hcases with ⟨hnone, rfl, rfl⟩ | ⟨hsome, l', neighborActors, hl', -, rfl, rfl⟩
  · obtain ⟨ns', ticks', hl'⟩ := hflown
    have hcount : ¬ (withNeighbors (l.turn env) ns ticks).neighborArray.length > 0 := by simp [hnone]
    rw [if_neg hcount]
    exact congrArg (Option.map (·.location)) hl'
  · obtain ⟨ns', ticks', hkept⟩ := lantern_keepLantern deltaTime notices hflown l.location
      (withNeighbors (l.turn env) ns ticks).neighborArray.length
      (l'.getSeparation env (neighborActors.map (·.location)))
    obtain ⟨ns'', ticks'', hl''⟩ := hflown
    obtain rfl := Option.some.inj (hl'.symm.trans hl'')
    rw [if_pos (List.length_pos_iff.mpr hsome)]
    exact congrArg (Option.map (·.location)) hkept

end LanternProject.Lantern.Tick
