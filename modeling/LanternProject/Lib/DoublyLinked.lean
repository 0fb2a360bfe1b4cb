import Mathlib.Data.List.Nodup
import Mathlib.Logic.Function.Basic

/-! # Doubly linked lists in a heap

The nodes of a list are cells of a heap; each has the addresses of the ones before and after it. A
`Seg h before xs after` is a part of such a list: the cells `xs`, with their contents, between the
cells at `before` and `after`.

* `seg_append`: a list can be cut anywhere.
* `Seg.congr`: cells of other lists do not matter.
* `Represents.setContent`: a content is changed in place.
* `Represents.insert`: a new cell is linked in between two parts.
* `Represents.remove`: a cell is taken out. -/

namespace LanternProject.Lib.DoublyLinked

/-- A cell of a list. -/
structure Node (P α : Type*) where
  prev : Option P
  next : Option P
  content : α

abbrev Heap (P α : Type*) := P → Option (Node P α)

variable {P α : Type*}

/-- The address of the first cell, if there is one, and of what comes after the list otherwise. -/
def firstOf : List (P × α) → Option P → Option P
  | [], after => after
  | (p, _) :: _, _ => some p

/-- The address of the last cell, if there is one, and of what comes before the list otherwise. -/
def lastOf : Option P → List (P × α) → Option P
  | before, [] => before
  | _, (p, _) :: xs => lastOf (some p) xs

/-- The addresses of the cells. -/
def addresses (xs : List (P × α)) : List P := xs.map Prod.fst

/-- The cells `xs` are linked, between `before` and `after`. -/
def Seg (h : Heap P α) : Option P → List (P × α) → Option P → Prop
  | _, [], _ => True
  | before, (p, a) :: xs, after =>
    h p = some ⟨before, firstOf xs after, a⟩ ∧ Seg h (some p) xs after

variable {h h' : Heap P α} {before after : Option P} {xs ys zs : List (P × α)} {p : P} {a : α}

@[simp] theorem addresses_nil : addresses ([] : List (P × α)) = [] := rfl

@[simp] theorem addresses_cons (x : P × α) (xs : List (P × α)) :
    addresses (x :: xs) = x.1 :: addresses xs := rfl

@[simp] theorem addresses_append (xs ys : List (P × α)) :
    addresses (xs ++ ys) = addresses xs ++ addresses ys := List.map_append

@[simp] theorem firstOf_nil (after : Option P) : firstOf ([] : List (P × α)) after = after := rfl

@[simp] theorem firstOf_cons (x : P × α) (xs : List (P × α)) (after : Option P) :
    firstOf (x :: xs) after = some x.1 := rfl

@[simp] theorem lastOf_nil (before : Option P) : lastOf before ([] : List (P × α)) = before := rfl

theorem firstOf_append (xs ys : List (P × α)) (after : Option P) :
    firstOf (xs ++ ys) after = firstOf xs (firstOf ys after) := by
  cases xs <;> rfl

theorem lastOf_append : ∀ (before : Option P) (xs ys : List (P × α)),
    lastOf before (xs ++ ys) = lastOf (lastOf before xs) ys
  | _, [], _ => rfl
  | _, (p, _) :: xs, ys => lastOf_append (some p) xs ys

@[simp] theorem lastOf_concat (before : Option P) (xs : List (P × α)) (x : P × α) :
    lastOf before (xs ++ [x]) = some x.1 := lastOf_append before xs [x]

theorem firstOf_mem {q : P} (hq : firstOf xs none = some q) : q ∈ addresses xs := by
  cases xs with
  | nil => cases hq
  | cons x xs =>
    obtain rfl := Option.some.inj hq
    exact List.mem_cons_self

theorem lastOf_mem {q : P} (hq : lastOf none xs = some q) : q ∈ addresses xs := by
  rcases List.eq_nil_or_concat xs with rfl | ⟨ys, x, rfl⟩
  · cases hq
  · rw [List.concat_eq_append, lastOf_concat] at hq
    obtain rfl := Option.some.inj hq
    simp

/-- **A list can be cut anywhere.** -/
theorem seg_append : ∀ {before : Option P} {xs : List (P × α)},
    Seg h before (xs ++ ys) after ↔
      Seg h before xs (firstOf ys after) ∧ Seg h (lastOf before xs) ys after
  | before, [] => by simp [Seg]
  | before, (p, a) :: xs => by
    simp only [List.cons_append, Seg, lastOf, firstOf_append, and_assoc]
    rw [seg_append]

/-- Only the cells of the list matter. -/
theorem Seg.congr : ∀ {before : Option P} {xs : List (P × α)}, Seg h before xs after →
    (∀ p ∈ addresses xs, h' p = h p) → Seg h' before xs after
  | _, [], _, _ => trivial
  | _, (p, _) :: _, hseg, heq =>
    ⟨(heq p List.mem_cons_self).trans hseg.1, hseg.2.congr fun q hq => heq q (List.mem_cons_of_mem _ hq)⟩

/-- The cells of the list are allocated. -/
theorem Seg.allocated : ∀ {before : Option P} {xs : List (P × α)}, Seg h before xs after →
    ∀ p ∈ addresses xs, (h p).isSome
  | _, [], _, _, hp => absurd hp List.not_mem_nil
  | _, (q, _) :: _, hseg, p, hp => by
    rcases List.mem_cons.mp hp with rfl | hp
    · exact hseg.1 ▸ rfl
    · exact hseg.2.allocated p hp

/-! ### Whole lists -/

/-- The cells `xs`, linked and distinct, are the list from `first` to `last`. -/
structure Represents (h : Heap P α) (first last : Option P) (xs : List (P × α)) : Prop where
  first : first = firstOf xs none
  last : last = lastOf none xs
  seg : Seg h none xs none
  nodup : (addresses xs).Nodup

variable {first last : Option P}

theorem Represents.congr (hr : Represents h first last xs) (heq : ∀ p ∈ addresses xs, h' p = h p) :
    Represents h' first last xs :=
  ⟨hr.first, hr.last, hr.seg.congr heq, hr.nodup⟩

/-- The cell in between two parts. -/
theorem Represents.cell (hr : Represents h first last (ys ++ (p, a) :: zs)) :
    h p = some ⟨lastOf none ys, firstOf zs none, a⟩ := (seg_append.mp hr.seg).2.1

/-! ### Contents -/

section Contents
variable [DecidableEq P]

/-- The content of a cell is changed. -/
def setContent (h : Heap P α) : Option P → (α → α) → Heap P α
  | none, _ => h
  | some p, f => Function.update h p ((h p).map fun n => { n with content := f n.content })

theorem setContent_of_ne {q : Option P} (hq : q ≠ some p) (f : α → α) : setContent h q f p = h p := by
  cases q with
  | none => rfl
  | some q => exact Function.update_of_ne (fun heq => hq (congrArg some heq.symm)) _ _

/-- **The content of a cell is changed in place.** -/
theorem Represents.setContent (hr : Represents h first last (ys ++ (p, a) :: zs)) (f : α → α) :
    Represents (setContent h (some p) f) first last (ys ++ (p, f a) :: zs) := by
  obtain ⟨hys, hp, hzs⟩ := seg_append.mp hr.seg
  have hnodup := hr.nodup
  rw [addresses_append, addresses_cons, List.nodup_append, List.nodup_cons] at hnodup
  obtain ⟨-, ⟨hmem, -⟩, hdisjoint⟩ := hnodup
  refine ⟨?_, ?_, seg_append.mpr ⟨?_, ?_, ?_⟩, ?_⟩
  · rw [hr.first, firstOf_append, firstOf_append]
    rfl
  · rw [hr.last, lastOf_append, lastOf_append]
    rfl
  · refine hys.congr fun q hq => setContent_of_ne ?_ f
    intro heq
    obtain rfl := Option.some.inj heq
    exact hdisjoint p hq p List.mem_cons_self rfl
  · simp [DoublyLinked.setContent, hp]
  · refine hzs.congr fun q hq => setContent_of_ne ?_ f
    intro heq
    obtain rfl := Option.some.inj heq
    exact hmem hq
  · have haddresses : addresses (ys ++ (p, f a) :: zs) = addresses (ys ++ (p, a) :: zs) := by simp
    rw [haddresses]
    exact hr.nodup

end Contents

/-! ### Links -/

section Links
variable [DecidableEq P]

/-- The link to the next cell is changed. -/
def setNext (h : Heap P α) : Option P → Option P → Heap P α
  | none, _ => h
  | some p, v => Function.update h p ((h p).map fun n => { n with next := v })

/-- The link to the cell before is changed. -/
def setPrev (h : Heap P α) : Option P → Option P → Heap P α
  | none, _ => h
  | some p, v => Function.update h p ((h p).map fun n => { n with prev := v })

theorem setNext_of_ne {q : Option P} (hq : q ≠ some p) (v : Option P) : setNext h q v p = h p := by
  cases q with
  | none => rfl
  | some q => exact Function.update_of_ne (fun heq => hq (congrArg some heq.symm)) _ _

theorem setPrev_of_ne {q : Option P} (hq : q ≠ some p) (v : Option P) : setPrev h q v p = h p := by
  cases q with
  | none => rfl
  | some q => exact Function.update_of_ne (fun heq => hq (congrArg some heq.symm)) _ _

/-- The last cell is linked to another one. -/
theorem Seg.setNext (hseg : Seg h before xs after) (hnodup : (addresses xs).Nodup) (v : Option P) :
    Seg (setNext h (lastOf none xs) v) before xs v := by
  rcases List.eq_nil_or_concat xs with rfl | ⟨ys, ⟨q, b⟩, rfl⟩
  · trivial
  · rw [List.concat_eq_append] at *
    rw [lastOf_concat]
    rw [seg_append] at hseg ⊢
    obtain ⟨hys, hq, -⟩ := hseg
    rw [addresses_append, List.nodup_append] at hnodup
    refine ⟨hys.congr fun p hp => setNext_of_ne ?_ v, ?_, trivial⟩
    · rintro heq
      obtain rfl := Option.some.inj heq
      exact hnodup.2.2 q hp q (by simp) rfl
    · simp [DoublyLinked.setNext, hq]

/-- The first cell is linked to another one. -/
theorem Seg.setPrev (hseg : Seg h before xs after) (hnodup : (addresses xs).Nodup) (v : Option P) :
    Seg (setPrev h (firstOf xs none) v) v xs after := by
  cases xs with
  | nil => trivial
  | cons x xs =>
    obtain ⟨q, b⟩ := x
    obtain ⟨hq, hxs⟩ := hseg
    refine ⟨by simp [DoublyLinked.setPrev, hq], hxs.congr fun p hp => setPrev_of_ne ?_ v⟩
    rintro heq
    obtain rfl := Option.some.inj heq
    exact (List.nodup_cons.mp hnodup).1 hp

/-- **A new cell is linked in** between two parts. -/
theorem Represents.insert (hr : Represents h first last (ys ++ zs)) (hp : p ∉ addresses (ys ++ zs)) :
    Represents (setNext (setPrev (Function.update h p (some ⟨lastOf none ys, firstOf zs none, a⟩))
        (firstOf zs none) (some p)) (lastOf none ys) (some p))
      (firstOf ys (some p)) (lastOf (some p) zs) (ys ++ (p, a) :: zs) := by
  obtain ⟨hys, hzs⟩ := seg_append.mp hr.seg
  have hnodup := hr.nodup
  rw [addresses_append, List.nodup_append] at hnodup
  obtain ⟨hnodup₁, hnodup₂, hdisjoint⟩ := hnodup
  rw [addresses_append, List.mem_append, not_or] at hp
  refine ⟨by simp [firstOf_append], by simp [lastOf_append, lastOf], ?_, ?_⟩
  · have hne₁ : lastOf none ys ≠ some p := fun heq => hp.1 (lastOf_mem heq)
    have hne₂ : firstOf zs none ≠ some p := fun heq => hp.2 (firstOf_mem heq)
    refine seg_append.mpr ⟨?_, ?_, ?_⟩
    · have hys' : Seg (setPrev (Function.update h p (some ⟨lastOf none ys, firstOf zs none, a⟩))
          (firstOf zs none) (some p)) none ys (firstOf zs none) := by
        refine hys.congr fun q hq => ?_
        have hq₁ : firstOf zs none ≠ some q := fun heq => hdisjoint q hq q (firstOf_mem heq) rfl
        rw [setPrev_of_ne hq₁, Function.update_of_ne]
        rintro rfl
        exact hp.1 hq
      exact hys'.setNext hnodup₁ (some p)
    · rw [setNext_of_ne hne₁, setPrev_of_ne hne₂, Function.update_self]
    · have hzs' : Seg (setPrev (Function.update h p (some ⟨lastOf none ys, firstOf zs none, a⟩))
          (firstOf zs none) (some p)) (some p) zs none := by
        have hupdate : Seg (Function.update h p (some ⟨lastOf none ys, firstOf zs none, a⟩))
            (lastOf none ys) zs none := by
          refine hzs.congr fun q hq => ?_
          rw [Function.update_of_ne]
          rintro rfl
          exact hp.2 hq
        exact hupdate.setPrev hnodup₂ (some p)
      refine hzs'.congr fun q hq => setNext_of_ne ?_ _
      intro heq
      exact hdisjoint q (lastOf_mem heq) q hq rfl
  · rw [addresses_append, addresses_cons, List.nodup_append, List.nodup_cons]
    refine ⟨hnodup₁, ⟨hp.2, hnodup₂⟩, fun q hq r hr => ?_⟩
    rcases List.mem_cons.mp hr with rfl | hr
    · rintro rfl
      exact hp.1 hq
    · exact hdisjoint q hq r hr

/-- **A cell is taken out.** -/
theorem Represents.remove (hr : Represents h first last (ys ++ (p, a) :: zs)) :
    Represents (Function.update (setPrev (setNext h (lastOf none ys) (firstOf zs none))
        (firstOf zs none) (lastOf none ys)) p none)
      (firstOf (ys ++ zs) none) (lastOf none (ys ++ zs)) (ys ++ zs) := by
  obtain ⟨hys, -, hzs⟩ := seg_append.mp hr.seg
  have hnodup := hr.nodup
  rw [addresses_append, addresses_cons, List.nodup_append, List.nodup_cons] at hnodup
  obtain ⟨hnodup₁, ⟨hp₂, hnodup₂⟩, hdisjoint⟩ := hnodup
  have hp₁ : p ∉ addresses ys := fun hp => hdisjoint p hp p List.mem_cons_self rfl
  replace hdisjoint : ∀ q ∈ addresses ys, ∀ r ∈ addresses zs, q ≠ r :=
    fun q hq r hr => hdisjoint q hq r (List.mem_cons_of_mem _ hr)
  refine ⟨rfl, rfl, seg_append.mpr ⟨?_, ?_⟩, ?_⟩
  · refine (Seg.setNext hys hnodup₁ (firstOf zs none)).congr fun q hq => ?_
    have hq₁ : firstOf zs none ≠ some q := fun heq => hdisjoint q hq q (firstOf_mem heq) rfl
    rw [Function.update_of_ne, setPrev_of_ne hq₁]
    rintro rfl
    exact hp₁ hq
  · have hzs' : Seg (setNext h (lastOf none ys) (firstOf zs none)) (some p) zs none := by
      refine hzs.congr fun q hq => setNext_of_ne ?_ _
      intro heq
      exact hdisjoint q (lastOf_mem heq) q hq rfl
    refine (Seg.setPrev hzs' hnodup₂ (lastOf none ys)).congr fun q hq => ?_
    rw [Function.update_of_ne]
    rintro rfl
    exact hp₂ hq
  · rw [addresses_append, List.nodup_append]
    exact ⟨hnodup₁, hnodup₂, hdisjoint⟩

/-- Linking a cell in leaves the cells of other lists alone. -/
theorem insert_of_not_mem {n : Node P α} {v w : Option P} {q : P} (hq : q ≠ p)
    (hmem : q ∉ addresses (ys ++ zs)) :
    setNext (setPrev (Function.update h p (some n)) (firstOf zs none) v) (lastOf none ys) w q = h q := by
  rw [addresses_append, List.mem_append, not_or] at hmem
  rw [setNext_of_ne fun heq => hmem.1 (lastOf_mem heq),
    setPrev_of_ne fun heq => hmem.2 (firstOf_mem heq), Function.update_of_ne hq]

/-- Taking a cell out leaves the cells of other lists alone. -/
theorem remove_of_not_mem {v w : Option P} {q : P} (hq : q ≠ p) (hmem : q ∉ addresses (ys ++ zs)) :
    Function.update (setPrev (setNext h (lastOf none ys) v) (firstOf zs none) w) p none q = h q := by
  rw [addresses_append, List.mem_append, not_or] at hmem
  rw [Function.update_of_ne hq, setPrev_of_ne fun heq => hmem.2 (firstOf_mem heq),
    setNext_of_ne fun heq => hmem.1 (lastOf_mem heq)]

end Links

end LanternProject.Lib.DoublyLinked
