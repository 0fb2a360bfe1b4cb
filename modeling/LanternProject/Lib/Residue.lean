import Mathlib

/-! # Results that depend on what memory held before

A computation that is given memory as it was found is a function of that memory, its *residue*. Its
result is *determined* if it is the same for every residue. A buffer that is made uninitialized and
then filled from its start is determined exactly if it is filled to its end
(`determined_overwrite_iff`), and a list of records, each made in memory of its own, exactly if every
record is (`determined_mapIdx_iff`). -/

namespace LanternProject.Lib.Residue

variable {α β ρ : Type}

/-- The result is the same whatever the memory held. -/
def Determined (f : ρ → β) : Prop := ∀ residue residue', f residue = f residue'

/-! ### Buffers -/

/-- `n` cells as they were found. -/
def alloc (heap : ℕ → α) (n : ℕ) : List α := (List.range n).map heap

/-- The cells with the first ones overwritten. -/
def overwrite (memory data : List α) : List α := data ++ memory.drop data.length

@[simp] theorem length_alloc (heap : ℕ → α) (n : ℕ) : (alloc heap n).length = n := by
  rw [alloc, List.length_map, List.length_range]

theorem length_overwrite {memory data : List α} (h : data.length ≤ memory.length) :
    (overwrite memory data).length = memory.length := by
  rw [overwrite, List.length_append, List.length_drop]
  omega

theorem take_overwrite (memory data : List α) :
    (overwrite memory data).take data.length = data := List.take_left

theorem getElem?_overwrite_alloc {heap : ℕ → α} {n k : ℕ} {data : List α} (hk : data.length ≤ k)
    (hn : k < n) : (overwrite (alloc heap n) data)[k]? = some (heap k) := by
  rw [overwrite, List.getElem?_append_right hk, List.getElem?_drop, alloc, List.getElem?_map,
    Nat.add_sub_cancel' hk, List.getElem?_range hn, Option.map_some]

/-- **A buffer is determined exactly if it is filled to its end.** -/
theorem determined_overwrite_iff [Nontrivial α] {n : ℕ} {data : List α} (h : data.length ≤ n) :
    Determined (fun heap : ℕ → α => overwrite (alloc heap n) data) ↔ data.length = n := by
  constructor
  · intro hdet
    by_contra hne
    have hlt : data.length < n := by omega
    obtain ⟨a, b, hab⟩ := exists_pair_ne α
    have hcell := congrArg (·[data.length]?) (hdet (fun _ => a) fun _ => b)
    simp only [getElem?_overwrite_alloc le_rfl hlt, Option.some.injEq] at hcell
    exact hab hcell
  · intro hfull heap heap'
    have hrest : ∀ heap : ℕ → α, (alloc heap n).drop data.length = [] := by
      intro heap
      rw [List.drop_eq_nil_iff, length_alloc, hfull]
    simp only [overwrite, hrest]

/-! ### Records -/

/-- **A list of records is determined exactly if every record is.** -/
theorem determined_mapIdx_iff (f : ρ → α → β) (l : List α) :
    Determined (fun residue : ℕ → ρ => l.mapIdx fun i a => f (residue i) a) ↔
      ∀ a ∈ l, Determined fun r => f r a := by
  constructor
  · intro hdet a ha r r'
    obtain ⟨i, hi⟩ := List.getElem?_of_mem ha
    have hrecord := congrArg (·[i]?) (hdet (fun _ => r) fun _ => r')
    simp only [List.getElem?_mapIdx, hi, Option.map_some, Option.some.injEq] at hrecord
    exact hrecord
  · intro hdet residue residue'
    refine List.ext_getElem? fun i => ?_
    rw [List.getElem?_mapIdx, List.getElem?_mapIdx]
    rcases hi : l[i]? with _ | a
    · rfl
    · exact congrArg some (hdet a (List.mem_of_getElem? hi) _ _)

end LanternProject.Lib.Residue
