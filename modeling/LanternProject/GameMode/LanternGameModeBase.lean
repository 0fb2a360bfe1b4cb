import LanternProject.Lantern.LanternManager

/-! # The game mode

`InitGame` gives the player starts of the level to the types of pawn their tags name, and sets up the
type that the config names. `ChoosePlayerStart` then gives the player start of that type to every
player, or leaves the choice to the engine. `Atoi` is a parameter. An iterator over the actors of a
class the level has none of points to null, as `InitGame` tests it.

What is left out of `InitGame`: the call of the engine's own, and the game instance, which is there. -/

namespace LanternProject.GameMode.LanternGameModeBase

open LanternProject.Engine.Basic LanternProject.Engine.Str LanternProject.Engine.Vector
open LanternProject.Lantern.LanternManager

variable {K : Type}

/-- A player start, by its number among the actors. -/
structure APlayerStart where
  actor : ℕ
  playerStartTag : FString
  actorNameOrLabel : FString

/-- A type of pawn; its class is known by its name. -/
structure FPawnType (K : Type) where
  pawnClass : Option FString
  upLimitLocation : FVector K
  rightLimitLocation : FVector K
  targetLocation : FVector K
  spawnLocation : FVector K
  playerStart : Option ℕ

/-- `ALanternGameModeBase`. -/
structure ALanternGameModeBase (K : Type) where
  pawnTypeIndex : Int32
  pawnTypeArray : TArray (FPawnType K)
  defaultPawnClass : Option FString

/-- The game mode, what it reads and writes, and the log. -/
structure World (K : Type) where
  gameMode : ALanternGameModeBase K
  playerStarts : List APlayerStart
  lanternManager : Option (ALanternManager K)
  configMap : List (FString × FString)
  log : List FString

/-- What `ChoosePlayerStart` returns: what the engine chooses for the player, or an actor. -/
inductive PlayerStartChoice where
  | super (player : ℕ)
  | playerStart (actor : Option ℕ)
deriving DecidableEq

namespace World

/-- The world before `InitGame`. -/
def start (pawnTypeArray : TArray (FPawnType K)) (defaultPawnClass : Option FString)
    (playerStarts : List APlayerStart) (lanternManager : Option (ALanternManager K))
    (configMap : List (FString × FString)) : World K :=
  ⟨⟨-1, pawnTypeArray, defaultPawnClass⟩, playerStarts, lanternManager, configMap, []⟩

/-- `PawnTypeArray.Num()`. -/
def num (w : World K) : ℤ := w.gameMode.pawnTypeArray.elems.length

/-- `PawnTypeArray[i]`. -/
def pawnType (w : World K) (i : Int32) : Except Fault (FPawnType K) :=
  indexInt .pawnTypeArray w.gameMode.pawnTypeArray.elems i.toInt

/-- `LogToFile`. -/
def logToFile (w : World K) (line : FString) : World K := { w with log := w.log ++ [line] }

/-- The array with the type `i` replaced. -/
def setPawnType (w : World K) (i : Int32) (pawnType : FPawnType K) : World K :=
  { w with gameMode := { w.gameMode with pawnTypeArray :=
    ⟨w.gameMode.pawnTypeArray.elems.set i.toInt.toNat pawnType, by
      rw [List.length_set]
      exact w.gameMode.pawnTypeArray.num_lt⟩ } }

end World

/-- The first loop of `InitGame`. -/
def setPlayerStarts (atoi : FString → Int32) (w : World K) :
    List APlayerStart → Except Fault (World K)
  | [] => .ok w
  | it :: playerStarts =>
    let playerStartIndex := atoi it.playerStartTag
    if w.num ≤ playerStartIndex.toInt then
      setPlayerStarts atoi (w.logToFile (LOGTEXT "ALanternGameModeBase::InitGame" 27
        (it.actorNameOrLabel ++ TEXT " is bigger than pawntype array length"))) playerStarts
    else do
      let pawnType ← w.pawnType playerStartIndex
      setPlayerStarts atoi
        (w.setPawnType playerStartIndex { pawnType with playerStart := some it.actor }) playerStarts

/-- `InitGame` from where the type is known to be below the length of the array. -/
def applyPawnType (w : World K) : Except Fault (World K) := do
  let pawnType ← w.pawnType w.gameMode.pawnTypeIndex
  let w := { w with gameMode := { w.gameMode with defaultPawnClass := pawnType.pawnClass } }
  match w.gameMode.defaultPawnClass with
  | none => .error .nullPointer
  | some defaultPawnClass =>
    let w := w.logToFile (LOGTEXT "ALanternGameModeBase::InitGame" 53
      (TEXT "PawnClass Name : " ++ defaultPawnClass))
    match w.lanternManager with
    | none => .ok (w.logToFile (LOGTEXT "ALanternGameModeBase::InitGame" 58
        (TEXT "Level has no LanternManager")))
    | some lanternManager => do
      let pawnType ← w.pawnType w.gameMode.pawnTypeIndex
      .ok { w with lanternManager := some ((lanternManager.setLimitLocation pawnType.upLimitLocation
        pawnType.rightLimitLocation pawnType.targetLocation).setSpawnLocation
          pawnType.spawnLocation) }

/-- `InitGame`. -/
def initGame (atoi : FString → Int32) (w : World K) : Except Fault (World K) := do
  let w ← setPlayerStarts atoi w w.playerStarts
  if w.num ≤ 0 then .ok w
  else
    match mapFind w.configMap (TEXT "PawnType") with
    | none => .ok (w.logToFile (LOGTEXT "ALanternGameModeBase::InitGame" 40
        (TEXT "Config has no PawnType field")))
    | some pPawnType =>
      -- the index is stored before it is tested
      let w := { w with gameMode := { w.gameMode with pawnTypeIndex := atoi pPawnType } }
      if w.num ≤ w.gameMode.pawnTypeIndex.toInt then
        .ok (w.logToFile (LOGTEXT "ALanternGameModeBase::InitGame" 47
          (TEXT "PawnTypeIndex is invalid")))
      else applyPawnType w

/-- `ChoosePlayerStart`. -/
def choosePlayerStart (w : World K) (player : ℕ) : Except Fault (World K × PlayerStartChoice) :=
  if 0 < w.num ∧ w.gameMode.pawnTypeIndex ≠ -1 then do
    let pawnType ← w.pawnType w.gameMode.pawnTypeIndex
    let w := if pawnType.playerStart.isSome then w
      else w.logToFile (LOGTEXT "ALanternGameModeBase::ChoosePlayerStart_Implementation" 81
        (TEXT "Player Start Location is invalid"))
    .ok (w, .playerStart pawnType.playerStart)
  else .ok (w, .super player)

/-- One call for every player. -/
def choosePlayerStarts (w : World K) : List ℕ → Except Fault (World K × List PlayerStartChoice)
  | [] => .ok (w, [])
  | player :: players => do
    let (w, choice) ← choosePlayerStart w player
    let (w, choices) ← choosePlayerStarts w players
    .ok (w, choice :: choices)

/-- `InitGame`, and then the calls. -/
def play (atoi : FString → Int32) (w : World K) (players : List ℕ) :
    Except Fault (World K × List PlayerStartChoice) := do
  let w ← initGame atoi w
  choosePlayerStarts w players

end LanternProject.GameMode.LanternGameModeBase
