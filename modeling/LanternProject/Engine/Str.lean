import LanternProject.Lib.Overwriting
import Mathlib.Data.List.Basic

/-! # Strings of the engine

`FString` is a sequence of 16-bit code units. The operations here are those the program calls:
`Left`, `Mid`, `Find`, `Split` and `Replace`, the latter three ignoring the case of letters as the
engine does unless told otherwise, and `Find` and `Add` of a `TMap` with string keys, which ignores
it too. Only the letters `A`–`Z` are folded: every pattern and key the program itself passes is
ASCII. -/

namespace LanternProject.Engine.Str

open LanternProject.Lib

/-- A code unit. -/
abbrev TCHAR := UInt16

/-- A string of the engine. -/
abbrev FString := List TCHAR

/-- A literal. -/
def TEXT (s : String) : FString := s.toList.map fun c => UInt16.ofNat c.toNat

/-- Lower case of a letter. -/
def toLower (c : TCHAR) : TCHAR := if 65 ≤ c ∧ c ≤ 90 then c + 32 else c

/-- Equality ignoring case. -/
def equalsIgnoreCase (a b : FString) : Bool := a.map toLower == b.map toLower

/-- `s` starts with `pre`, ignoring case. -/
def startsWith (pre s : FString) : Bool := equalsIgnoreCase pre (s.take pre.length)

/-- The first `n` code units. -/
def left (s : FString) (n : ℕ) : FString := s.take n

/-- The `n` code units from position `start`. -/
def mid (s : FString) (start n : ℕ) : FString := (s.drop start).take n

/-- The position of the first occurrence. -/
def find (sub : FString) : FString → Option ℕ
  | [] => none
  | c :: s => if startsWith sub (c :: s) then some 0 else (find sub s).map (· + 1)

/-- The parts before and after the first occurrence of `inS`; `none` leaves the outputs of the
caller as they are. -/
def split (s inS : FString) : Option (FString × FString) :=
  (find inS s).map fun pos => (s.take pos, s.drop (pos + inS.length))

/-- The scan of `replace`: `skip` units of an occurrence are still to be passed over. -/
def replaceGo (search replacement : FString) : ℕ → FString → FString
  | _, [] => []
  | skip + 1, _ :: s => replaceGo search replacement skip s
  | 0, c :: s =>
    if startsWith search (c :: s) then
      replacement ++ replaceGo search replacement (search.length - 1) s
    else c :: replaceGo search replacement 0 s

/-- Every occurrence of `search`, from left to right, becomes `replacement`. -/
def replace (s search replacement : FString) : FString :=
  if search.isEmpty then s else replaceGo search replacement 0 s

/-- The decimal digits of a number. -/
def fromInt (n : ℕ) : FString := TEXT (toString n)

/-- The value of a key in a `TMap` with string keys. -/
def mapFind {α : Type} (m : List (FString × α)) (key : FString) : Option α :=
  (m.find? fun p => equalsIgnoreCase p.1 key).map Prod.snd

/-- `Add` of a `TMap` with string keys. -/
def mapAdd {α : Type} (m : List (FString × α)) (key : FString) (value : α) : List (FString × α) :=
  Overwriting.add (List.map toLower) m key value

/-- A line of the log with the place it was written from. -/
def LOGTEXT (function : String) (line : ℕ) (text : FString) : FString :=
  TEXT "[" ++ (TEXT function ++ TEXT "(" ++ fromInt line ++ TEXT ")") ++ TEXT "]\t" ++ text

theorem left_ne_nil {s : FString} {n : ℕ} (hs : s ≠ []) (hn : n ≠ 0) : left s n ≠ [] := by
  simp [left, List.take_eq_nil_iff, hs, hn]

theorem mid_ne_nil {s : FString} {start n : ℕ} (hs : start < s.length) (hn : n ≠ 0) :
    mid s start n ≠ [] := by
  simp only [mid, ne_eq, List.take_eq_nil_iff, List.drop_eq_nil_iff]
  omega

/-- Replacing by a text leaves no text empty. -/
theorem replace_ne_nil {s search replacement : FString} (hs : s ≠ []) (hr : replacement ≠ []) :
    replace s search replacement ≠ [] := by
  unfold replace
  split_ifs with h
  · exact hs
  · obtain ⟨c, s, rfl⟩ := List.exists_cons_of_ne_nil hs
    unfold replaceGo
    split_ifs
    · simp [hr]
    · simp

theorem equalsIgnoreCase_iff {a b : FString} :
    equalsIgnoreCase a b = true ↔ a.map toLower = b.map toLower := by simp [equalsIgnoreCase]

/-- A map is one with keys in lower case. -/
theorem mapFind_eq {α : Type} (m : List (FString × α)) (key : FString) :
    mapFind m key = Overwriting.find (List.map toLower) m key := by
  unfold mapFind Overwriting.find
  congr 2
  funext p
  rw [Bool.eq_iff_iff, equalsIgnoreCase_iff]
  exact decide_eq_true_iff.symm

/-! ### Characters that are no letters -/

theorem toNat_toLower (c : TCHAR) :
    (toLower c).toNat = if 65 ≤ c.toNat ∧ c.toNat ≤ 90 then c.toNat + 32 else c.toNat := by
  unfold toLower
  simp only [UInt16.le_iff_toNat_le, UInt16.toNat_ofNat]
  split_ifs with h
  · rw [UInt16.toNat_add]
    simp at h ⊢
    omega
  · rfl

/-- The character is no letter. -/
def Caseless (c : TCHAR) : Prop :=
  (c.toNat < 65 ∨ 90 < c.toNat) ∧ (c.toNat < 97 ∨ 122 < c.toNat)

instance (c : TCHAR) : Decidable (Caseless c) :=
  inferInstanceAs (Decidable ((c.toNat < 65 ∨ 90 < c.toNat) ∧ (c.toNat < 97 ∨ 122 < c.toNat)))

theorem Caseless.toLower_eq_iff {c : TCHAR} (hc : Caseless c) (x : TCHAR) :
    toLower c = toLower x ↔ c = x := by
  obtain ⟨hupper, hlower⟩ := hc
  rw [← UInt16.toNat_inj, ← UInt16.toNat_inj, toNat_toLower, toNat_toLower]
  split_ifs <;> omega

/-- Cutting a string at a character that is no letter. -/
theorem split_singleton {c : TCHAR} (hc : Caseless c) {s l r : FString} :
    split s [c] = some (l, r) ↔ s = l ++ c :: r ∧ c ∉ l := by
  induction s generalizing l with
  | nil => simp [split, find]
  | cons x s ih =>
    have hstart : startsWith [c] (x :: s) = true ↔ c = x := by
      simp [startsWith, equalsIgnoreCase_iff, hc.toLower_eq_iff]
    by_cases hx : c = x
    · have hfind : find [c] (x :: s) = some 0 := if_pos (hstart.mpr hx)
      have hsplit : split (x :: s) [c] = some ([], s) := by simp [split, hfind]
      rw [hsplit, Option.some.injEq, Prod.mk.injEq]
      constructor
      · rintro ⟨rfl, rfl⟩
        simp [hx]
      · rintro ⟨hs, hl⟩
        rcases l with _ | ⟨y, l⟩
        · exact ⟨rfl, (List.cons.inj hs).2⟩
        · have hy : x = y := (List.cons.inj hs).1
          exact absurd (by simp [hx, hy]) hl
    · have hfind : find [c] (x :: s) = (find [c] s).map (· + 1) :=
        if_neg fun h => hx (hstart.mp h)
      have hsplit : split (x :: s) [c] = (split s [c]).map fun p => (x :: p.1, p.2) := by
        simp [split, hfind, Function.comp_def]
      rw [hsplit, Option.map_eq_some_iff]
      constructor
      · rintro ⟨⟨l', r'⟩, hs, he⟩
        obtain ⟨rfl, rfl⟩ := Prod.mk.inj he
        obtain ⟨rfl, hl⟩ := ih.mp hs
        exact ⟨rfl, by simp [hx, hl]⟩
      · rintro ⟨hs, hl⟩
        rcases l with _ | ⟨y, l⟩
        · exact absurd (List.cons.inj hs).1.symm hx
        · obtain ⟨rfl, htail⟩ := List.cons.inj hs
          have hl' : c ∉ l := fun h => hl (List.mem_cons_of_mem _ h)
          exact ⟨(l, r), ih.mpr ⟨htail, hl'⟩, rfl⟩

/-- Cutting at the first separator. -/
theorem split_append {c : TCHAR} (hc : Caseless c) {l r : FString} (hl : c ∉ l) :
    split (l ++ c :: r) [c] = some (l, r) := (split_singleton hc).mpr ⟨rfl, hl⟩

end LanternProject.Engine.Str
