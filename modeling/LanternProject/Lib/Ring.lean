import Mathlib.Data.List.Basic
import Mathlib.Logic.Function.Basic

/-! # A ring of segments

A sequence is kept in `n` segments used in turn: new entries go to the end of segment `i`; when it
is full the next one is emptied and used. Read from segment `i + 1` round to `i` (`entries`), the ring
holds the newest part of the sequence: an entry added is added at the end (`entries_push`), and a turn
drops the oldest segment (`entries_turn`). Stepping back over an empty segment loses nothing
(`entries_back`). -/

namespace LanternProject.Lib.Ring

variable {α : Type*} {n i : ℕ} {segs : ℕ → List α}

/-- The entries of the ring, oldest first, if segment `i` is in use. -/
def entries (n : ℕ) (segs : ℕ → List α) (i : ℕ) : List α :=
  (List.range n).flatMap fun k => segs ((i + 1 + k) % n)

/-- The segments between `i` and itself, once round. -/
def between (m : ℕ) (segs : ℕ → List α) (i : ℕ) : List α :=
  (List.range m).flatMap fun k => segs ((i + 1 + k) % (m + 1))

theorem entries_eq_last {m : ℕ} (hi : i < m + 1) :
    entries (m + 1) segs i = between m segs i ++ segs i := by
  have hlast : (i + 1 + m) % (m + 1) = i := by
    rw [show i + 1 + m = i + (m + 1) by omega, Nat.add_mod_right, Nat.mod_eq_of_lt hi]
  rw [entries, List.range_succ, List.flatMap_append, List.flatMap_singleton, hlast, between]

theorem entries_eq_first {m : ℕ} :
    entries (m + 1) segs i = segs ((i + 1) % (m + 1)) ++ between m segs ((i + 1) % (m + 1)) := by
  rw [entries, List.range_succ_eq_map, List.flatMap_cons, List.flatMap_map, Nat.add_zero, between]
  congr 2
  funext k
  congr 1
  rw [show i + 1 + Nat.succ k = i + 1 + (1 + k) by omega, Nat.add_assoc ((i + 1) % (m + 1)),
    Nat.mod_add_mod]

/-- The segments between do not include `i`. -/
theorem between_update {m : ℕ} (hi : i < m + 1) (l : List α) :
    between m (Function.update segs i l) i = between m segs i := by
  unfold between
  refine List.flatMap_congr fun k hk => Function.update_of_ne ?_ _ _
  rw [List.mem_range] at hk
  intro h
  rcases Nat.lt_or_ge (i + 1 + k) (m + 1) with hlt | hge
  · rw [Nat.mod_eq_of_lt hlt] at h
    omega
  · rw [Nat.mod_eq_sub_mod hge, Nat.mod_eq_of_lt (by omega)] at h
    omega

/-- **An entry is added at the end.** -/
theorem entries_push (hi : i < n) (a : α) :
    entries n (Function.update segs i (segs i ++ [a])) i = entries n segs i ++ [a] := by
  obtain ⟨m, rfl⟩ : ∃ m, n = m + 1 := ⟨n - 1, by omega⟩
  rw [entries_eq_last hi, entries_eq_last hi, between_update hi, Function.update_self,
    List.append_assoc]

/-- **A turn drops the oldest segment.** -/
theorem entries_turn (hn : 0 < n) :
    entries n segs i =
      segs ((i + 1) % n) ++ entries n (Function.update segs ((i + 1) % n) []) ((i + 1) % n) := by
  obtain ⟨m, rfl⟩ : ∃ m, n = m + 1 := ⟨n - 1, by omega⟩
  have hlt : (i + 1) % (m + 1) < m + 1 := Nat.mod_lt _ hn
  rw [entries_eq_first, entries_eq_last hlt, between_update hlt, Function.update_self,
    List.append_nil]

/-- **Stepping back over an empty segment.** -/
theorem entries_back (hn : 0 < n) (h : segs ((i + 1) % n) = []) :
    entries n segs i = entries n segs ((i + 1) % n) := by
  have hturn : entries n segs i = segs ((i + 1) % n) ++
      entries n (Function.update segs ((i + 1) % n) []) ((i + 1) % n) := entries_turn hn
  rw [h, List.nil_append] at hturn
  rw [hturn, ← h, Function.update_eq_self]

/-- What a turn leaves is the end of what was there. -/
theorem entries_turn_suffix (hn : 0 < n) :
    entries n (Function.update segs ((i + 1) % n) []) ((i + 1) % n) <:+ entries n segs i :=
  ⟨segs ((i + 1) % n), (entries_turn hn).symm⟩

end LanternProject.Lib.Ring
