import LanternProject.GameMode.LanternGameModeBase

/-! # Which types of pawn are indexed

The loop of `InitGame` and its test of `PawnTypeIndex` compare with the length of the array only: a
negative index passes both. An index that the second test rejects stays in the member, and
`ChoosePlayerStart`, which only knows `-1` for no type, uses it. -/

namespace LanternProject.GameMode.PawnType

open LanternProject.Engine.Basic LanternProject.Engine.Str
open LanternProject.Lantern.LanternManager LanternProject.GameMode.LanternGameModeBase

variable {K : Type} {atoi : FString → Int32} {w w' : World K}

/-- An array is indexed outside its bounds. -/
def outOfRange : Fault := .indexOutOfRange .pawnTypeArray

/-- The type the config names. -/
def configuredType (atoi : FString → Int32) (configMap : List (FString × FString)) : Option Int32 :=
  (mapFind configMap (TEXT "PawnType")).map atoi

/-- The index is one of the array. -/
def InRange (w : World K) (i : Int32) : Prop := 0 ≤ i.toInt ∧ i.toInt < w.num

/-- `InitGame` and the calls only index the array inside its bounds, and if the config names no type of
the array, every call leaves the choice to the engine. -/
structure IndexSafe (atoi : FString → Int32) (w : World K) (players : List ℕ) : Prop where
  bounds : play atoi w players ≠ .error outOfRange
  default : (∀ i, configuredType atoi w.configMap = some i → ¬ InRange w i) →
    ∃ w', play atoi w players = .ok (w', players.map .super)

/-- No tag is negative; and if there are types and the config names one, it is not negative either and
below the length, or no player ever asks. -/
structure WellConfigured (atoi : FString → Int32) (w : World K) (players : List ℕ) : Prop where
  tags : ∀ it ∈ w.playerStarts, 0 ≤ (atoi it.playerStartTag).toInt
  type : w.num = 0 ∨ ∀ i, configuredType atoi w.configMap = some i →
    0 ≤ i.toInt ∧ (i.toInt < w.num ∨ players = [])

/-! ### Elements -/

theorem num_nonneg (w : World K) : 0 ≤ w.num := Int.natCast_nonneg _

theorem pawnType_ok {i : Int32} (h : InRange w i) : ∃ pawnType, w.pawnType i = .ok pawnType := by
  obtain ⟨h0, hlt⟩ := h
  unfold World.num at hlt
  have hlt : i.toInt.toNat < w.gameMode.pawnTypeArray.elems.length := by omega
  exact ⟨_, indexInt_ok.mpr ⟨h0, List.getElem?_eq_getElem hlt⟩⟩

theorem pawnType_error {i : Int32} (h : ¬ InRange w i) : w.pawnType i = .error outOfRange := by
  refine indexInt_error.mpr ⟨?_, rfl⟩
  by_cases h0 : 0 ≤ i.toInt
  · have hge : w.num ≤ i.toInt := not_lt.mp fun hlt => h ⟨h0, hlt⟩
    unfold World.num at hge
    exact Or.inr (List.getElem?_eq_none (by omega))
  · exact Or.inl (by omega)

/-! ### The player starts -/

/-- What the loop leaves as it was. -/
structure SameType (w w' : World K) : Prop where
  index : w'.gameMode.pawnTypeIndex = w.gameMode.pawnTypeIndex
  num : w'.num = w.num
  configMap : w'.configMap = w.configMap

theorem SameType.trans {w'' : World K} (h : SameType w w') (h' : SameType w' w'') :
    SameType w w'' :=
  ⟨h'.index.trans h.index, h'.num.trans h.num, h'.configMap.trans h.configMap⟩

theorem sameType_logToFile (w : World K) (line : FString) : SameType w (w.logToFile line) :=
  ⟨rfl, rfl, rfl⟩

theorem sameType_setPawnType (w : World K) (i : Int32) (pawnType : FPawnType K) :
    SameType w (w.setPawnType i pawnType) := by
  refine ⟨rfl, ?_, rfl⟩
  unfold World.num World.setPawnType
  rw [List.length_set]

/-- **The loop** ends if no tag is negative. -/
theorem setPlayerStarts_ok : ∀ (playerStarts : List APlayerStart) (w : World K),
    (∀ it ∈ playerStarts, 0 ≤ (atoi it.playerStartTag).toInt) →
    ∃ w', setPlayerStarts atoi w playerStarts = .ok w' ∧ SameType w w'
  | [], w, _ => ⟨w, rfl, rfl, rfl, rfl⟩
  | it :: playerStarts, w, h => by
    have hit := h it List.mem_cons_self
    have hrest : ∀ it ∈ playerStarts, 0 ≤ (atoi it.playerStartTag).toInt :=
      fun it hmem => h it (List.mem_cons_of_mem _ hmem)
    unfold setPlayerStarts
    dsimp only
    split_ifs with hge
    · obtain ⟨w', hw', hsame⟩ := setPlayerStarts_ok playerStarts (w.logToFile _) hrest
      exact ⟨w', hw', (sameType_logToFile w _).trans hsame⟩
    · obtain ⟨pawnType, hp⟩ := pawnType_ok ⟨hit, not_le.mp hge⟩
      obtain ⟨w', hw', hsame⟩ := setPlayerStarts_ok playerStarts
        (w.setPawnType (atoi it.playerStartTag) { pawnType with playerStart := some it.actor }) hrest
      exact ⟨w', bind_ok.mpr ⟨pawnType, hp, hw'⟩, (sameType_setPawnType w _ _).trans hsame⟩

/-- **A negative tag** is used as an index. -/
theorem setPlayerStarts_error : ∀ (playerStarts : List APlayerStart) (w : World K),
    (∃ it ∈ playerStarts, (atoi it.playerStartTag).toInt < 0) →
    setPlayerStarts atoi w playerStarts = .error outOfRange
  | [], _, ⟨_, hmem, _⟩ => by cases hmem
  | it :: playerStarts, w, ⟨start, hmem, hneg⟩ => by
    have hnum := num_nonneg w
    unfold setPlayerStarts
    dsimp only
    rcases List.mem_cons.mp hmem with rfl | hmem
    · have hlt : ¬ w.num ≤ (atoi start.playerStartTag).toInt := by omega
      rw [if_neg hlt]
      exact bind_error.mpr (Or.inl (pawnType_error fun h => by have := h.1; omega))
    · split_ifs with hge
      · exact setPlayerStarts_error playerStarts _ ⟨start, hmem, hneg⟩
      · by_cases hr : InRange w (atoi it.playerStartTag)
        · obtain ⟨pawnType, hp⟩ := pawnType_ok hr
          exact bind_error.mpr (Or.inr ⟨pawnType, hp,
            setPlayerStarts_error playerStarts _ ⟨start, hmem, hneg⟩⟩)
        · exact bind_error.mpr (Or.inl (pawnType_error hr))

/-! ### The calls -/

/-- **Without a type** the engine chooses. -/
theorem choosePlayerStarts_super (h : ¬ (0 < w.num ∧ w.gameMode.pawnTypeIndex ≠ -1)) :
    ∀ players : List ℕ, choosePlayerStarts w players = .ok (w, players.map .super)
  | [] => rfl
  | player :: players => by
    have hchoose : choosePlayerStart w player = .ok (w, .super player) := if_neg h
    refine bind_ok.mpr ⟨_, hchoose, ?_⟩
    exact bind_ok.mpr ⟨_, choosePlayerStarts_super h players, rfl⟩

/-- **With a type of the array** every call indexes inside its bounds. -/
theorem choosePlayerStarts_ok : ∀ (players : List ℕ) (w : World K),
    InRange w w.gameMode.pawnTypeIndex →
    ∃ w' choices, choosePlayerStarts w players = .ok (w', choices)
  | [], w, _ => ⟨w, [], rfl⟩
  | player :: players, w, h => by
    have hstep : ∃ w' choice, choosePlayerStart w player = .ok (w', choice) ∧ SameType w w' := by
      unfold choosePlayerStart
      split_ifs with hc
      · obtain ⟨pawnType, hp⟩ := pawnType_ok h
        refine ⟨_, _, bind_ok.mpr ⟨pawnType, hp, rfl⟩, ?_⟩
        split_ifs
        · exact ⟨rfl, rfl, rfl⟩
        · exact sameType_logToFile w _
      · exact ⟨w, .super player, rfl, rfl, rfl, rfl⟩
    obtain ⟨v, choice, hv, hsame⟩ := hstep
    have hr : InRange v v.gameMode.pawnTypeIndex := by
      unfold InRange
      rw [hsame.index, hsame.num]
      exact h
    obtain ⟨w', choices, hw'⟩ := choosePlayerStarts_ok players v hr
    exact ⟨w', choice :: choices, bind_ok.mpr ⟨_, hv, bind_ok.mpr ⟨_, hw', rfl⟩⟩⟩

/-- **With any other index** than `-1` the first call indexes outside them. -/
theorem choosePlayerStarts_error (hnum : 0 < w.num) (hi : w.gameMode.pawnTypeIndex ≠ -1)
    (hr : ¬ InRange w w.gameMode.pawnTypeIndex) (player : ℕ) (players : List ℕ) :
    choosePlayerStarts w (player :: players) = .error outOfRange := by
  have hchoose : choosePlayerStart w player = .error outOfRange := by
    unfold choosePlayerStart
    rw [if_pos ⟨hnum, hi⟩]
    exact bind_error.mpr (Or.inl (pawnType_error hr))
  exact bind_error.mpr (Or.inl hchoose)

/-! ### `InitGame` -/

/-- **A type of the array** is set up, if it has a class. -/
theorem applyPawnType_ok (h : InRange w w.gameMode.pawnTypeIndex) :
    applyPawnType w = .error .nullPointer ∨ ∃ w', applyPawnType w = .ok w' ∧ SameType w w' := by
  obtain ⟨pawnType, hp⟩ := pawnType_ok h
  have hbind : ∀ f : FPawnType K → Except Fault (World K),
      (w.pawnType w.gameMode.pawnTypeIndex >>= f) = f pawnType := fun f => by
    rw [hp]
    rfl
  unfold applyPawnType
  rw [hbind]
  dsimp only
  rcases hc : pawnType.pawnClass with _ | defaultPawnClass
  · exact Or.inl rfl
  · right
    dsimp only [World.logToFile]
    rcases hm : w.lanternManager with _ | lanternManager
    · exact ⟨_, rfl, rfl, rfl, rfl⟩
    · exact ⟨_, bind_ok.mpr ⟨pawnType, hp, rfl⟩, rfl, rfl, rfl⟩

theorem applyPawnType_error (h : ¬ InRange w w.gameMode.pawnTypeIndex) :
    applyPawnType w = .error outOfRange :=
  bind_error.mpr (Or.inl (pawnType_error h))

/-- The world whose config was read. -/
def withIndex (w : World K) (i : Int32) : World K :=
  { w with gameMode := { w.gameMode with pawnTypeIndex := i } }

section InitGame
variable {v : World K} {i : Int32}

/-- **No type** is configured. -/
theorem initGame_none (hv : setPlayerStarts atoi w w.playerStarts = .ok v)
    (h : v.num = 0 ∨ configuredType atoi v.configMap = none) :
    ∃ w', initGame atoi w = .ok w' ∧ SameType v w' := by
  unfold initGame
  rw [hv]
  change ∃ w', (if v.num ≤ 0 then _ else _) = Except.ok w' ∧ _
  by_cases hnum : v.num ≤ 0
  · rw [if_pos hnum]
    exact ⟨v, rfl, rfl, rfl, rfl⟩
  · have hnone : mapFind v.configMap (TEXT "PawnType") = none := by
      rcases h with h | h
      · omega
      · exact Option.map_eq_none_iff.mp h
    rw [if_neg hnum, hnone]
    exact ⟨_, rfl, sameType_logToFile v _⟩

/-- **A type** is configured. -/
theorem initGame_some (hv : setPlayerStarts atoi w w.playerStarts = .ok v) (hnum : 0 < v.num)
    (h : configuredType atoi v.configMap = some i) :
    initGame atoi w = if v.num ≤ i.toInt then
      .ok ((withIndex v i).logToFile (LOGTEXT "ALanternGameModeBase::InitGame" 47
        (TEXT "PawnTypeIndex is invalid")))
      else applyPawnType (withIndex v i) := by
  obtain ⟨pPawnType, hp, rfl⟩ := Option.map_eq_some_iff.mp h
  unfold initGame
  rw [hv]
  change (if v.num ≤ 0 then _ else _) = _
  rw [if_neg (by omega), hp]
  rfl

end InitGame

/-! ### `InitGame` and the calls -/

section Play
variable {v : World K} {players : List ℕ} {i : Int32}

theorem toInt_neg_one : (-1 : Int32).toInt = -1 := by decide

theorem play_tags (h : ∃ it ∈ w.playerStarts, (atoi it.playerStartTag).toInt < 0) :
    play atoi w players = .error outOfRange :=
  bind_error.mpr (Or.inl (bind_error.mpr (Or.inl (setPlayerStarts_error _ w h))))

/-- **No type**: every call leaves the choice to the engine. -/
theorem play_none (players : List ℕ) (hv : setPlayerStarts atoi w w.playerStarts = .ok v)
    (hi : v.num = 0 ∨ v.gameMode.pawnTypeIndex = -1)
    (h : v.num = 0 ∨ configuredType atoi v.configMap = none) :
    ∃ w', play atoi w players = .ok (w', players.map .super) := by
  obtain ⟨w', hw', hsame⟩ := initGame_none hv h
  have hsuper : ¬ (0 < w'.num ∧ w'.gameMode.pawnTypeIndex ≠ -1) := by
    rintro ⟨hnum, hne⟩
    rw [hsame.num] at hnum
    rw [hsame.index] at hne
    rcases hi with hi | hi
    · omega
    · exact hne hi
  exact ⟨w', bind_ok.mpr ⟨w', hw', choosePlayerStarts_super hsuper players⟩⟩

/-- **A type of the array**: no call faults. -/
theorem play_inRange (hv : setPlayerStarts atoi w w.playerStarts = .ok v)
    (h : configuredType atoi v.configMap = some i) (hr : InRange v i) :
    play atoi w players ≠ .error outOfRange := by
  have hnum : 0 < v.num := by
    obtain ⟨h0, hlt⟩ := hr
    omega
  have hinit := initGame_some hv hnum h
  rw [if_neg (not_le.mpr hr.2)] at hinit
  have hr' : InRange (withIndex v i) (withIndex v i).gameMode.pawnTypeIndex := hr
  intro hplay
  rcases applyPawnType_ok hr' with hnull | ⟨w', hw', hsame⟩
  · rw [hnull] at hinit
    rw [play, hinit] at hplay
    cases hplay
  · rw [hw'] at hinit
    have hr'' : InRange w' w'.gameMode.pawnTypeIndex := by
      unfold InRange
      rw [hsame.index, hsame.num]
      exact hr'
    obtain ⟨w'', choices, hok⟩ := choosePlayerStarts_ok players w' hr''
    rw [play, hinit] at hplay
    rw [show choosePlayerStarts w' players = _ from hplay] at hok
    cases hok

/-- **A negative type** is used as an index by `InitGame`. -/
theorem play_negative (hv : setPlayerStarts atoi w w.playerStarts = .ok v) (hnum : 0 < v.num)
    (h : configuredType atoi v.configMap = some i) (hneg : i.toInt < 0) :
    play atoi w players = .error outOfRange := by
  have hinit := initGame_some hv hnum h
  rw [if_neg (by omega)] at hinit
  have hr : ¬ InRange (withIndex v i) (withIndex v i).gameMode.pawnTypeIndex := by
    rintro ⟨h0, -⟩
    change 0 ≤ i.toInt at h0
    omega
  rw [applyPawnType_error hr] at hinit
  exact bind_error.mpr (Or.inl hinit)

/-- **A type that is too large** is used as an index by the first call. -/
theorem play_tooLarge (hv : setPlayerStarts atoi w w.playerStarts = .ok v) (hnum : 0 < v.num)
    (h : configuredType atoi v.configMap = some i) (hge : v.num ≤ i.toInt) (player : ℕ) :
    play atoi w (player :: players) = .error outOfRange := by
  have hinit := initGame_some hv hnum h
  rw [if_pos hge] at hinit
  refine bind_error.mpr (Or.inr ⟨_, hinit, ?_⟩)
  have hnum' : 0 < ((withIndex v i).logToFile (LOGTEXT "ALanternGameModeBase::InitGame" 47
      (TEXT "PawnTypeIndex is invalid"))).num := hnum
  refine choosePlayerStarts_error hnum' ?_ ?_ player players
  · change i ≠ -1
    rintro rfl
    rw [toInt_neg_one] at hge
    omega
  · rintro ⟨-, hlt⟩
    change i.toInt < v.num at hlt
    omega

/-- It is harmless if nobody asks. -/
theorem play_tooLarge_nil (hv : setPlayerStarts atoi w w.playerStarts = .ok v) (hnum : 0 < v.num)
    (h : configuredType atoi v.configMap = some i) (hge : v.num ≤ i.toInt) :
    ∃ w', play atoi w [] = .ok (w', []) := by
  have hinit := initGame_some hv hnum h
  rw [if_pos hge] at hinit
  exact ⟨_, bind_ok.mpr ⟨_, hinit, rfl⟩⟩

/-- **A type is configured**: the bounds are kept exactly if it is one of the array, or too large and
nobody asks. -/
theorem play_some_iff (players : List ℕ) (hv : setPlayerStarts atoi w w.playerStarts = .ok v)
    (hnum : 0 < v.num) (h : configuredType atoi v.configMap = some i) :
    play atoi w players ≠ .error outOfRange ↔ 0 ≤ i.toInt ∧ (i.toInt < v.num ∨ players = []) := by
  rcases lt_or_ge i.toInt 0 with hneg | h0
  · exact iff_of_false (fun hplay => hplay (play_negative hv hnum h hneg)) (by omega)
  · rcases lt_or_ge i.toInt v.num with hlt | hge
    · exact iff_of_true (play_inRange hv h ⟨h0, hlt⟩) ⟨h0, Or.inl hlt⟩
    · rcases players with _ | ⟨player, players⟩
      · refine iff_of_true ?_ ⟨h0, Or.inr rfl⟩
        obtain ⟨w', hw'⟩ := play_tooLarge_nil hv hnum h hge
        rw [hw']
        intro hplay
        cases hplay
      · refine iff_of_false (fun hplay => hplay (play_tooLarge hv hnum h hge player)) ?_
        rintro ⟨-, hlt | hnil⟩
        · omega
        · cases hnil

end Play

/-- **No type** is configured: the calls are safe if no tag is negative. -/
theorem indexSafe_none {v : World K} {players : List ℕ}
    (hv : setPlayerStarts atoi w w.playerStarts = .ok v) (hi : v.gameMode.pawnTypeIndex = -1)
    (h : v.num = 0 ∨ configuredType atoi v.configMap = none) : IndexSafe atoi w players := by
  obtain ⟨w', hw'⟩ := play_none players hv (Or.inr hi) h
  refine ⟨?_, fun _ => ⟨w', hw'⟩⟩
  rw [hw']
  intro hplay
  cases hplay

/-- **A type is configured**: it decides. -/
theorem indexSafe_some_iff {v : World K} {players : List ℕ} {i : Int32}
    (hv : setPlayerStarts atoi w w.playerStarts = .ok v) (hsame : SameType w v) (hnum : 0 < w.num)
    (h : configuredType atoi w.configMap = some i) :
    IndexSafe atoi w players ↔ 0 ≤ i.toInt ∧ (i.toInt < w.num ∨ players = []) := by
  have hnum' := hnum
  have h' := h
  rw [← hsame.num] at hnum'
  rw [← hsame.configMap] at h'
  have hiff := play_some_iff players hv hnum' h'
  rw [hsame.num] at hiff
  constructor
  · exact fun hs => hiff.mp hs.bounds
  · intro hc
    refine ⟨hiff.mpr hc, fun hout => ?_⟩
    -- a type that is not one of the array is too large, and then nobody asks
    have hge : w.num ≤ i.toInt := not_lt.mp fun hlt => hout i h ⟨hc.1, hlt⟩
    obtain rfl : players = [] := hc.2.resolve_left (not_lt.mpr hge)
    rw [← hsame.num] at hge
    exact play_tooLarge_nil hv hnum' h' hge

/-- **The pawn types are indexed inside their bounds**, and a type that is absent or none of the array
leaves the choice to the engine, exactly if no tag and no type is negative and no type is too large. -/
theorem indexSafe_iff (atoi : FString → Int32) (pawnTypeArray : TArray (FPawnType K))
    (defaultPawnClass : Option FString) (playerStarts : List APlayerStart)
    (lanternManager : Option (ALanternManager K)) (configMap : List (FString × FString))
    (players : List ℕ) :
    let w := World.start pawnTypeArray defaultPawnClass playerStarts lanternManager configMap
    IndexSafe atoi w players ↔ WellConfigured atoi w players := by
  intro w
  have hindex : w.gameMode.pawnTypeIndex = -1 := rfl
  by_cases htags : ∀ it ∈ w.playerStarts, 0 ≤ (atoi it.playerStartTag).toInt
  · obtain ⟨v, hv, hsame⟩ := setPlayerStarts_ok w.playerStarts w htags
    rcases hi : configuredType atoi w.configMap with _ | i
    · refine iff_of_true ?_ ⟨htags, Or.inr fun i h => ?_⟩
      · rw [← hsame.configMap] at hi
        exact indexSafe_none hv (hsame.index.trans hindex) (Or.inr hi)
      · rw [hi] at h
        cases h
    · rcases (num_nonneg w).eq_or_lt with hzero | hnum
      · refine iff_of_true ?_ ⟨htags, Or.inl hzero.symm⟩
        exact indexSafe_none hv (hsame.index.trans hindex) (Or.inl (hsame.num.trans hzero.symm))
      · rw [indexSafe_some_iff hv hsame hnum hi]
        constructor
        · intro h
          refine ⟨htags, Or.inr fun j hj => ?_⟩
          obtain rfl := Option.some.inj (hi.symm.trans hj)
          exact h
        · rintro ⟨-, hzero | htype⟩
          · omega
          · exact htype i hi
  · have hneg : ∃ it ∈ w.playerStarts, (atoi it.playerStartTag).toInt < 0 := by
      by_contra hnone
      exact htags fun it hit => not_lt.mp fun hlt => hnone ⟨it, hit, hlt⟩
    exact iff_of_false (fun h => h.bounds (play_tags hneg)) fun h => htags h.tags

/-! ### A config -/

/-- `Atoi` of digits, with a minus sign or without. -/
def sampleAtoi (s : FString) : Int32 :=
  let value := fun digits : FString =>
    digits.foldl (fun n (c : TCHAR) => 10 * n + (c.toNat - 48 : ℤ)) (0 : ℤ)
  if s.head? = some 45 then Int32.ofInt (-value s.tail) else Int32.ofInt (value s)

/-- One type of pawn. -/
def sampleTypes : TArray (FPawnType ℚ) :=
  ⟨[⟨some (TEXT "P"), 0, 0, 0, 0, none⟩], by decide⟩

/-- **The type `1`** of one: the test rejects it, and the first player is still given its start. -/
theorem not_indexSafe : ¬ ∀ (atoi : FString → Int32) (pawnTypeArray : TArray (FPawnType ℚ))
    (defaultPawnClass : Option FString) (playerStarts : List APlayerStart)
    (lanternManager : Option (ALanternManager ℚ)) (configMap : List (FString × FString))
    (players : List ℕ),
    IndexSafe atoi (World.start pawnTypeArray defaultPawnClass playerStarts lanternManager configMap)
      players := by
  intro h
  have hsafe := h sampleAtoi sampleTypes none [] none [(TEXT "PawnType", TEXT "1")] [0]
  have htype : configuredType sampleAtoi [(TEXT "PawnType", TEXT "1")] = some 1 := by decide
  exact hsafe.bounds (play_tooLarge (i := 1) rfl (by decide) htype (by decide) 0)

end LanternProject.GameMode.PawnType
