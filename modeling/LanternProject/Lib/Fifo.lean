import Mathlib.Data.List.Basic
import Mathlib.Logic.Relation

/-! # A server that takes one item at a time, in order of arrival

Items of any type arrive in a sequence; the server takes them from the front, works on at most one,
and either serves it or abandons it. Whatever the order of arrivals and of the server's steps, the
items served are a subsequence of the items that arrived (`served_sublist`), and the item being
worked on is the one taken last (`Server.Ok`). -/

namespace LanternProject.Lib.Fifo

variable {α : Type*}

/-- The items that arrived, how many of them were taken, the item worked on, the items served. -/
structure Server (α : Type*) where
  arrived : List α
  taken : ℕ
  busy : Option α
  served : List α

/-- Nothing has arrived yet. -/
def Server.empty : Server α := ⟨[], 0, none, []⟩

/-- The steps of a server. -/
inductive Step : Server α → Server α → Prop
  | arrive (s : Server α) (a : α) : Step s { s with arrived := s.arrived ++ [a] }
  | take (s : Server α) (a : α) (hb : s.busy = none) (ha : s.arrived[s.taken]? = some a) :
      Step s { s with taken := s.taken + 1, busy := some a }
  | serve (s : Server α) (a : α) (hb : s.busy = some a) :
      Step s { s with busy := none, served := s.served ++ [a] }
  | abandon (s : Server α) (a : α) (hb : s.busy = some a) : Step s { s with busy := none }

/-- A run of the server. -/
abbrev Steps : Server α → Server α → Prop := Relation.ReflTransGen Step

/-- The served items come, in order, from those taken before the one worked on. -/
structure Server.Ok (s : Server α) : Prop where
  taken_le : s.taken ≤ s.arrived.length
  idle : s.busy = none → s.served.Sublist (s.arrived.take s.taken)
  busy : ∀ a, s.busy = some a → ∃ n, s.taken = n + 1 ∧ s.arrived[n]? = some a ∧
    s.served.Sublist (s.arrived.take n)

theorem ok_empty : (Server.empty : Server α).Ok :=
  ⟨Nat.zero_le _, fun _ => List.Sublist.refl _, fun _ h => by cases h⟩

theorem ok_step {s t : Server α} (h : s.Ok) (hs : Step s t) : t.Ok := by
  obtain ⟨hle, hidle, hbusy⟩ := h
  cases hs with
  | arrive a =>
    have hget : ∀ n < s.arrived.length, (s.arrived ++ [a]).take n = s.arrived.take n :=
      fun n hn => List.take_append_of_le_length (by omega)
    refine ⟨by simp; omega, fun hb => ?_, fun b hb => ?_⟩
    · show s.served.Sublist ((s.arrived ++ [a]).take s.taken)
      rw [List.take_append_of_le_length hle]
      exact hidle hb
    · obtain ⟨n, hn, hbn, hsub⟩ := hbusy b hb
      refine ⟨n, hn, ?_, ?_⟩
      · show (s.arrived ++ [a])[n]? = some b
        rw [List.getElem?_append_left (by omega)]
        exact hbn
      · show s.served.Sublist ((s.arrived ++ [a]).take n)
        rw [hget n (by omega)]
        exact hsub
  | take a hb ha =>
    have hlt : s.taken < s.arrived.length := (List.getElem?_eq_some_iff.mp ha).1
    refine ⟨hlt, fun h => (by cases h), fun b hb' => ?_⟩
    cases hb'
    exact ⟨s.taken, rfl, ha, hidle hb⟩
  | serve a hb =>
    obtain ⟨n, hn, han, hsub⟩ := hbusy a hb
    refine ⟨hle, fun _ => ?_, fun b h => (by cases h)⟩
    show (s.served ++ [a]).Sublist (s.arrived.take s.taken)
    rw [hn, List.take_add_one, han]
    exact hsub.append (List.Sublist.refl _)
  | abandon a hb =>
    obtain ⟨n, hn, -, hsub⟩ := hbusy a hb
    refine ⟨hle, fun _ => ?_, fun b h => (by cases h)⟩
    show s.served.Sublist (s.arrived.take s.taken)
    exact hsub.trans (List.take_sublist_take_left (by omega))

theorem ok_steps {s t : Server α} (h : s.Ok) (hs : Steps s t) : t.Ok := by
  induction hs with
  | refl => exact h
  | tail _ hs ih => exact ok_step ih hs

theorem Server.Ok.served_sublist {s : Server α} (h : s.Ok) : s.served.Sublist s.arrived := by
  rcases hb : s.busy with _ | a
  · exact (h.idle hb).trans (List.take_sublist _ _)
  · obtain ⟨n, -, -, hsub⟩ := h.busy a hb
    exact hsub.trans (List.take_sublist _ _)

/-- **What is served is a subsequence of what arrived.** -/
theorem served_sublist {s : Server α} (hs : Steps Server.empty s) : s.served.Sublist s.arrived :=
  (ok_steps ok_empty hs).served_sublist

end LanternProject.Lib.Fifo
