import Mathlib.Data.List.Infix

/-! # Frames in a stream

A stream of symbols carries one frame after the other. A `Framing` takes the first frame off a
stream: what it takes does not depend on what comes after it.

* `Reads l as r`: the frames `as` can be taken off `l`, and then `r` is left.
* `Reads.append`: more of the stream does not change the frames already read.
* `Reads.unique`: if no frame is left on either side, the frames and the rest are determined.
* `reads_flatMap`: the frames of a stream of written frames are the ones that were written.
* `Reads.of_written`: the frames of a part of such a stream are the first ones. -/

namespace LanternProject.Lib.Frames

variable {β α : Type*}

/-- How a frame is taken off a stream. -/
structure Framing (β α : Type*) where
  next : List β → Option (α × List β)
  shorter : ∀ {l a r}, next l = some (a, r) → r.length < l.length
  stable : ∀ {l a r} (t), next l = some (a, r) → next (l ++ t) = some (a, r ++ t)

/-- The frames `as` are taken off `l` and leave `r`. -/
inductive Reads (F : Framing β α) : List β → List α → List β → Prop
  | nil (l : List β) : Reads F l [] l
  | cons {l l' r : List β} {a : α} {as : List α} (h : F.next l = some (a, l'))
      (hr : Reads F l' as r) : Reads F l (a :: as) r

variable {F : Framing β α} {l r : List β} {as : List α}

/-- What is left is an end of the stream. -/
theorem Reads.length_le (h : Reads F l as r) : r.length + as.length ≤ l.length := by
  induction h with
  | nil l => simp
  | cons h _ ih =>
    have hlt := F.shorter h
    simp only [List.length_cons]
    omega

theorem Reads.eq_of_nil (h : Reads F l [] r) : r = l := by
  cases h
  rfl

theorem Reads.append (h : Reads F l as r) (t : List β) : Reads F (l ++ t) as (r ++ t) := by
  induction h with
  | nil l => exact Reads.nil _
  | cons h _ ih => exact Reads.cons (F.stable t h) ih

theorem Reads.trans {r' : List β} {as' : List α} (h : Reads F l as r) (h' : Reads F r as' r') :
    Reads F l (as ++ as') r' := by
  induction h with
  | nil l => exact h'
  | cons h _ ih => exact Reads.cons h (ih h')

/-- One more frame. -/
theorem Reads.snoc {r' : List β} {a : α} (h : Reads F l as r) (h' : F.next r = some (a, r')) :
    Reads F l (as ++ [a]) r' := h.trans (Reads.cons h' (Reads.nil r'))

/-- One of two readings of a stream goes on from where the other one stopped. -/
theorem Reads.comparable {r' : List β} {as' : List α} (h : Reads F l as r)
    (h' : Reads F l as' r') (hlen : as.length ≤ as'.length) :
    ∃ more, as' = as ++ more ∧ Reads F r more r' := by
  induction h generalizing as' with
  | nil l => exact ⟨as', rfl, h'⟩
  | cons h _ ih =>
    cases h' with
    | nil => simp at hlen
    | cons h₂ hr₂ =>
      obtain ⟨rfl, rfl⟩ := Prod.mk.inj (Option.some.inj (h.symm.trans h₂))
      obtain ⟨more, rfl, hmore⟩ := ih hr₂ (by simpa using hlen)
      exact ⟨more, rfl, hmore⟩

theorem Reads.nil_of_next (hn : F.next l = none) (h : Reads F l as r) : as = [] ∧ r = l := by
  cases h with
  | nil => exact ⟨rfl, rfl⟩
  | cons h => exact absurd (h.symm.trans hn) (by simp)

/-- **The frames of a stream**, once no more can be taken off. -/
theorem Reads.unique {r' : List β} {as' : List α} (h : Reads F l as r) (hn : F.next r = none)
    (h' : Reads F l as' r') (hn' : F.next r' = none) : as = as' ∧ r = r' := by
  rcases le_total as.length as'.length with hle | hle
  · obtain ⟨more, rfl, hmore⟩ := h.comparable h' hle
    obtain ⟨rfl, rfl⟩ := hmore.nil_of_next hn
    simp
  · obtain ⟨more, rfl, hmore⟩ := h'.comparable h hle
    obtain ⟨rfl, rfl⟩ := hmore.nil_of_next hn'
    simp

/-- Fewer symbols give a first part of the frames. -/
theorem Reads.prefix_of_prefix {l' r' : List β} {as' : List α} (h : Reads F l as r)
    (h' : Reads F l' as' r') (hn' : F.next r' = none) (hl : l <+: l') : as <+: as' := by
  obtain ⟨t, rfl⟩ := hl
  have hlong := h.append t
  rcases le_total as.length as'.length with hle | hle
  · obtain ⟨more, rfl, -⟩ := hlong.comparable h' hle
    exact List.prefix_append _ _
  · obtain ⟨more, rfl, hmore⟩ := h'.comparable hlong hle
    obtain ⟨rfl, -⟩ := hmore.nil_of_next hn'
    simp

section Written
variable {write : α → List β} {ok : α → Prop}

/-- What was written frame by frame is read frame by frame, whatever comes after it. -/
theorem reads_flatMap (hw : ∀ a t, ok a → F.next (write a ++ t) = some (a, t)) (t : List β) :
    ∀ (as : List α), (∀ a ∈ as, ok a) → Reads F (as.flatMap write ++ t) as t
  | [], _ => Reads.nil t
  | a :: as, h => by
    rw [List.flatMap_cons, List.append_assoc]
    exact Reads.cons (hw a _ (h a List.mem_cons_self))
      (reads_flatMap hw t as fun b hb => h b (List.mem_cons_of_mem _ hb))

/-- **A part of what was written** gives the first of the frames, and what is left begins the others. -/
theorem Reads.of_written (hw : ∀ a t, ok a → F.next (write a ++ t) = some (a, t))
    (hempty : F.next [] = none) {sent : List α} (hok : ∀ a ∈ sent, ok a)
    (hl : l <+: sent.flatMap write) (h : Reads F l as r) :
    ∃ more, sent = as ++ more ∧ r <+: more.flatMap write := by
  have hsent := reads_flatMap hw [] sent hok
  rw [List.append_nil] at hsent
  obtain ⟨more, rfl⟩ := h.prefix_of_prefix hsent hempty hl
  obtain ⟨t, ht⟩ := hl
  have hlong := h.append t
  have hwritten := reads_flatMap hw (more.flatMap write) as
    fun a ha => hok a (List.mem_append_left _ ha)
  rw [← List.flatMap_append, ← ht] at hwritten
  obtain ⟨none, hnone, hrest⟩ := hlong.comparable hwritten (Nat.le_refl _)
  obtain rfl := List.append_right_eq_self.mp hnone.symm
  exact ⟨more, rfl, t, hrest.eq_of_nil.symm⟩

end Written

end LanternProject.Lib.Frames
