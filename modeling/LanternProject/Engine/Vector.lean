import LanternProject.Engine.Basic

/-! # Vectors

Locations and directions, over any field of coordinates: all arithmetic is exact. -/

namespace LanternProject.Engine.Vector

/-- A vector. -/
@[ext]
structure FVector (K : Type) where
  x : K
  y : K
  z : K
deriving DecidableEq, Repr

variable {K : Type} [Field K]

instance : Zero (FVector K) := ⟨⟨0, 0, 0⟩⟩

instance : Add (FVector K) := ⟨fun a b => ⟨a.x + b.x, a.y + b.y, a.z + b.z⟩⟩

instance : Sub (FVector K) := ⟨fun a b => ⟨a.x - b.x, a.y - b.y, a.z - b.z⟩⟩

instance : HMul (FVector K) K (FVector K) := ⟨fun a k => ⟨a.x * k, a.y * k, a.z * k⟩⟩

instance : HDiv (FVector K) K (FVector K) := ⟨fun a k => ⟨a.x / k, a.y / k, a.z / k⟩⟩

@[simp] theorem zero_x : (0 : FVector K).x = 0 := rfl
@[simp] theorem add_x (a b : FVector K) : (a + b).x = a.x + b.x := rfl
@[simp] theorem sub_x (a b : FVector K) : (a - b).x = a.x - b.x := rfl
@[simp] theorem mul_x (a : FVector K) (k : K) : (a * k).x = a.x * k := rfl
@[simp] theorem div_x (a : FVector K) (k : K) : (a / k).x = a.x / k := rfl

@[simp] theorem zero_y : (0 : FVector K).y = 0 := rfl
@[simp] theorem add_y (a b : FVector K) : (a + b).y = a.y + b.y := rfl
@[simp] theorem sub_y (a b : FVector K) : (a - b).y = a.y - b.y := rfl
@[simp] theorem mul_y (a : FVector K) (k : K) : (a * k).y = a.y * k := rfl
@[simp] theorem div_y (a : FVector K) (k : K) : (a / k).y = a.y / k := rfl

@[simp] theorem zero_z : (0 : FVector K).z = 0 := rfl
@[simp] theorem add_z (a b : FVector K) : (a + b).z = a.z + b.z := rfl
@[simp] theorem sub_z (a b : FVector K) : (a - b).z = a.z - b.z := rfl
@[simp] theorem mul_z (a : FVector K) (k : K) : (a * k).z = a.z * k := rfl

theorem sub_eq_zero_iff {a b : FVector K} : a - b = 0 ↔ a = b := by
  simp [FVector.ext_iff, sub_eq_zero]

/-- `FMath::Lerp`. -/
def lerp (a b alpha : K) : K := a + alpha * (b - a)

end LanternProject.Engine.Vector
