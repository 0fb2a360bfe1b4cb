import Mathlib.Data.List.DropRight
import Mathlib.Data.List.Nodup

/-! # Keeping the newest

A list that keeps at most `n` elements drops its first one before a new one is added (`push`). After
any number of additions it holds, in order, the newest `n` of all that were added (`push_rtake`). -/

namespace LanternProject.Lib.Recent

variable {α : Type*} {n : ℕ} {l : List α} {a b : α}

/-- Add an element; if there are `n` already the first is dropped. -/
def push (n : ℕ) (l : List α) (a : α) : List α :=
  if l.length = n then l.tail ++ [a] else l ++ [a]

theorem length_rtake (n : ℕ) (l : List α) : (l.rtake n).length = min n l.length := by
  rw [List.rtake, List.length_drop]
  omega

theorem rtake_suffix (n : ℕ) (l : List α) : l.rtake n <:+ l := List.drop_suffix _ _

theorem rtake_of_length_le (h : l.length ≤ n) : l.rtake n = l := by
  have hz : l.length - n = 0 := by omega
  rw [List.rtake, hz, List.drop_zero]

/-- **The newest `n` are kept.** -/
theorem push_rtake (hn : 0 < n) (l : List α) (a : α) :
    push n (l.rtake n) a = (l ++ [a]).rtake n := by
  obtain ⟨k, rfl⟩ : ∃ k, n = k + 1 := ⟨n - 1, by omega⟩
  have hlen := length_rtake (k + 1) l
  rw [List.rtake_concat_succ, push]
  split_ifs with h
  · have hdrop : (l.rtake (k + 1)).tail = l.rtake k := by
      rw [List.rtake, List.rtake, List.tail_drop]
      congr 1
      omega
    rw [hdrop]
  · rw [rtake_of_length_le (by omega : l.length ≤ k + 1), rtake_of_length_le (by omega : l.length ≤ k)]

theorem mem_tail_iff (hl : l.Nodup) : b ∈ l.tail ↔ b ∈ l ∧ l.head? ≠ some b := by
  rcases l with _ | ⟨c, l⟩
  · simp
  · have hc : c ∉ l := (List.nodup_cons.mp hl).1
    rw [List.tail_cons, List.head?_cons, List.mem_cons, ne_eq, Option.some.injEq]
    constructor
    · intro h
      exact ⟨Or.inr h, fun he => hc (he ▸ h)⟩
    · rintro ⟨h | h, hne⟩
      · exact absurd h.symm hne
      · exact h

/-- **What is there after an addition**: the old and the new, but not what was dropped. -/
theorem mem_push_iff (hl : l.Nodup) (ha : a ∉ l) :
    b ∈ push n l a ↔ (b ∈ l ∨ b = a) ∧ ¬ (l.length = n ∧ l.head? = some b) := by
  have hnew : b = a → l.head? ≠ some b := by
    rintro rfl hb
    exact ha (List.mem_of_mem_head? hb)
  unfold push
  split_ifs with hlen
  · rw [List.mem_append, List.mem_singleton, mem_tail_iff hl]
    tauto
  · rw [List.mem_append, List.mem_singleton]
    tauto

end LanternProject.Lib.Recent
