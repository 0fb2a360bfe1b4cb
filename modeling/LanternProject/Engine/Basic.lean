import Mathlib

/-! # Faults, textures and image formats -/

namespace LanternProject.Engine.Basic

/-- The arrays the program indexes. -/
inductive ArrayName where
  | mqttMessageArray
  | lanternTypeArray
  | lanternArray
  | lanternClass
  | lanternDataArray
  | pawnTypeArray
deriving DecidableEq, Repr

/-- What ends the process: an invalid pointer is dereferenced, an array is indexed outside its
bounds or is to have a negative `Num`, bulk data is locked while it is locked or unlocked while it is
not, or more is copied than there is. -/
inductive Fault where
  | nullPointer
  | indexOutOfRange (array : ArrayName)
  | invalidArrayNum
  | lockStatus
  | bufferOverrun
deriving DecidableEq, Repr

/-- A texture: its size and the bytes written into its first mip. -/
structure UTexture2D where
  sizeX : ℕ
  sizeY : ℕ
  mip : List UInt8
deriving DecidableEq, Repr

/-- The formats the image wrapper is asked for. -/
inductive EImageFormat where
  | JPEG
  | PNG
deriving DecidableEq, Repr

/-- An element of an array of the program. -/
def index {α : Type} (name : ArrayName) (l : List α) (i : ℕ) : Except Fault α :=
  match l[i]? with
  | some a => .ok a
  | none => .error (.indexOutOfRange name)

theorem index_error {α : Type} {name : ArrayName} {l : List α} {i : ℕ} {e : Fault} :
    index name l i = .error e ↔ l[i]? = none ∧ e = .indexOutOfRange name := by
  unfold index
  cases h : l[i]? with
  | none => simp [eq_comm]
  | some b => simp

theorem index_ok {α : Type} {name : ArrayName} {l : List α} {i : ℕ} {a : α} :
    index name l i = .ok a ↔ l[i]? = some a := by
  unfold index
  cases h : l[i]? with
  | none => simp
  | some b => simp

/-- An element at a signed position. -/
def indexInt {α : Type} (name : ArrayName) (l : List α) (i : ℤ) : Except Fault α :=
  if i < 0 then .error (.indexOutOfRange name) else index name l i.toNat

theorem indexInt_ok {α : Type} {name : ArrayName} {l : List α} {i : ℤ} {a : α} :
    indexInt name l i = .ok a ↔ 0 ≤ i ∧ l[i.toNat]? = some a := by
  unfold indexInt
  split_ifs with h
  · constructor
    · intro he
      cases he
    · rintro ⟨h0, -⟩
      omega
  · rw [index_ok]
    exact ⟨fun he => ⟨by omega, he⟩, fun he => he.2⟩

theorem indexInt_error {α : Type} {name : ArrayName} {l : List α} {i : ℤ} {e : Fault} :
    indexInt name l i = .error e ↔ (i < 0 ∨ l[i.toNat]? = none) ∧ e = .indexOutOfRange name := by
  unfold indexInt
  split_ifs with h
  · simp [h, eq_comm]
  · simp [h, index_error]

/-- An array of the engine: its `Num` is an `int32`. -/
structure TArray (α : Type) where
  elems : List α
  num_lt : elems.length < 2 ^ 31

/-- The conversions between `int32` and `uint32`. -/
def toUInt32 (i : ℤ) : ℕ := (i % 2 ^ 32).toNat
def toInt32 (n : ℕ) : ℤ := if n < 2 ^ 31 then n else n - 2 ^ 32

theorem toUInt32_natCast {n : ℕ} (h : n < 2 ^ 31) : toUInt32 n = n := by
  unfold toUInt32
  omega

theorem toInt32_of_lt {n : ℕ} (h : n < 2 ^ 31) : toInt32 n = n := if_pos h

/-- A sequence of two computations succeeds exactly when both do. -/
theorem bind_ok {α β : Type} {x : Except Fault α} {f : α → Except Fault β} {b : β} :
    (x >>= f) = .ok b ↔ ∃ a, x = .ok a ∧ f a = .ok b := by
  cases x with
  | error e => simp [bind, Except.bind]
  | ok a => simp [bind, Except.bind]

/-- It faults exactly when one of the two does. -/
theorem bind_error {α β : Type} {x : Except Fault α} {f : α → Except Fault β} {e : Fault} :
    (x >>= f) = .error e ↔ x = .error e ∨ ∃ a, x = .ok a ∧ f a = .error e := by
  cases x with
  | error e' => simp [bind, Except.bind]
  | ok a => simp [bind, Except.bind]

theorem map_ok {α β : Type} {x : Except Fault α} {f : α → β} {b : β} :
    x.map f = .ok b ↔ ∃ a, x = .ok a ∧ f a = b := by
  rcases x with e | a
  · simp [Except.map]
  · simp [Except.map]

theorem toOption_eq_some {α : Type} {x : Except Fault α} {a : α} :
    x.toOption = some a ↔ x = .ok a := by
  rcases x with e | b
  · simp [Except.toOption]
  · simp [Except.toOption]

/-- The result of a step that can happen and does not fault. -/
theorem bind_toOption_eq_some {α : Type} {x : Option (Except Fault α)} {a : α} :
    x.bind Except.toOption = some a ↔ x = some (.ok a) := by
  rcases x with _ | r
  · simp
  · rw [Option.bind_some, toOption_eq_some, Option.some.injEq]

end LanternProject.Engine.Basic
