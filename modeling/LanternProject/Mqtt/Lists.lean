import LanternProject.Mqtt.LinkedList

/-! # The lists hold what they are given

What the operations of `LinkedList.c` do to the contents of a list, and that the elements and their
links always represent it.

* `ListSpec`: a list as the sequence of its elements, with the operations on it.
* `*_spec`: each operation, on the memory, does the one of the specification, uses no invalid pointer
  and leaves the elements of other lists alone. -/

namespace LanternProject.Mqtt.Lists

open LanternProject.Lib.DoublyLinked LanternProject.Mqtt.LinkedList

variable {α : Type}

/-! ### Specification -/

/-- A list: its elements in order, the current one, the sum of the sizes. -/
structure ListSpec (α : Type) where
  entries : List (Ptr × α)
  current : Option Ptr
  size : ℕ

namespace ListSpec

def empty : ListSpec α := ⟨[], none, 0⟩

/-- The elements with a new one before that at `index`, or at the end. -/
def insertBefore (index : Option Ptr) (x : Ptr × α) : List (Ptr × α) → List (Ptr × α)
  | [] => [x]
  | y :: ys => if index = some y.1 then x :: y :: ys else y :: insertBefore index x ys

def insert (x : ListSpec α) (index : Option Ptr) (newel : Ptr) (content : α) (size : ℕ) :
    ListSpec α :=
  { x with entries := insertBefore index (newel, content) x.entries, size := x.size + size }

/-- What a search finds: the current element, or the first one. -/
def found (x : ListSpec α) (test : α → Bool) : Option (Ptr × α) :=
  ((x.entries.find? fun y => x.current = some y.1).filter fun y => test y.2).or
    (x.entries.find? fun y => test y.2)

def find (x : ListSpec α) (test : α → Bool) : Option Ptr × ListSpec α :=
  ((x.found test).map Prod.fst, { x with current := ((x.found test).map Prod.fst).or x.current })

/-- The element after that at `p`. -/
def after (p : Ptr) : List (Ptr × α) → Option Ptr
  | [] => none
  | y :: ys => if y.1 = p then firstOf ys none else after p ys

def next (x : ListSpec α) (pos : Option Ptr) : Option Ptr :=
  match pos with
  | none => firstOf x.entries none
  | some p => after p x.entries

def unlink (x : ListSpec α) (test : α → Bool) : Option α × ListSpec α :=
  match x.found test with
  | none => (none, x)
  | some (p, a) => (some a, { x with
      entries := x.entries.filter fun y => y.1 ≠ p
      current := if x.current = some p then after p x.entries else x.current })

def detachHead (x : ListSpec α) : Option α × ListSpec α :=
  match x.entries with
  | [] => (none, x)
  | (p, a) :: ys => (some a, { x with
      entries := ys
      current := if x.current = some p then firstOf ys none else x.current })

def popTail (x : ListSpec α) : Option α × ListSpec α :=
  match x.entries.getLast? with
  | none => (none, x)
  | some (p, a) => (some a, { x with
      entries := x.entries.dropLast
      current := if x.current = some p then lastOf none x.entries.dropLast else x.current })

/-- The content of the element at `p`. -/
def contentAt (p : Ptr) (x : ListSpec α) : Option α :=
  (x.entries.find? fun y => p = y.1).map Prod.snd

def modify (p : Ptr) (f : α → α) (x : ListSpec α) : ListSpec α :=
  { x with entries := x.entries.map fun y => if y.1 = p then (y.1, f y.2) else y }

end ListSpec

/-! ### Representation -/

/-- **The elements in memory are those of the list.** -/
structure Holds (h : Heap Ptr α) (l : CList) (x : ListSpec α) : Prop where
  linked : Represents h l.first l.last x.entries
  count : l.count = x.entries.length
  current : l.current = x.current
  mem : ∀ p ∈ x.current, p ∈ addresses x.entries
  size : l.size = x.size

/-- **What an operation does**: the elements in memory are those of the new list, what was in the list
and is no more is freed, and nothing else changes. -/
structure Does (h h' : Heap Ptr α) (l' : CList) (x x' : ListSpec α) : Prop where
  holds : Holds h' l' x'
  outside : ∀ q ∉ addresses x'.entries, h' q = if q ∈ addresses x.entries then none else h q

variable {h h' : Heap Ptr α} {l : CList} {x : ListSpec α} {xs ys zs : List (Ptr × α)} {p : Ptr} {a : α}
  {test : α → Bool}

theorem Holds.congr (hx : Holds h l x) (heq : ∀ p ∈ addresses x.entries, h' p = h p) :
    Holds h' l x :=
  ⟨hx.linked.congr heq, hx.count, hx.current, hx.mem, hx.size⟩

/-- An operation that only looks at the elements. -/
theorem Holds.does (hx : Holds h l x) : Does h h l x x :=
  ⟨hx, fun _ hq => (if_neg hq).symm⟩

theorem holds_empty (h : Heap Ptr α) : Holds h ListZero (ListSpec.empty : ListSpec α) :=
  ⟨⟨rfl, rfl, trivial, List.nodup_nil⟩, rfl, rfl, by simp [ListSpec.empty], rfl⟩

/-- The elements at their places. -/
theorem exists_split (hp : p ∈ addresses xs) : ∃ ys a zs, xs = ys ++ (p, a) :: zs := by
  obtain ⟨⟨q, a⟩, hmem, rfl⟩ := List.mem_map.mp hp
  obtain ⟨ys, zs, rfl⟩ := List.append_of_mem hmem
  exact ⟨ys, a, zs, rfl⟩

/-- The other elements are at other places. -/
theorem others_ne (hnodup : (addresses (ys ++ (p, a) :: zs)).Nodup) : ∀ y ∈ ys ++ zs, y.1 ≠ p := by
  rw [addresses_append, addresses_cons, List.nodup_append, List.nodup_cons] at hnodup
  obtain ⟨-, ⟨hp, -⟩, hdisjoint⟩ := hnodup
  intro y hy
  rcases List.mem_append.mp hy with hy | hy
  · exact hdisjoint y.1 (List.mem_map_of_mem hy) p List.mem_cons_self
  · have hmem : y.1 ∈ addresses zs := List.mem_map_of_mem hy
    exact ne_of_mem_of_not_mem hmem hp

theorem not_mem_before (hnodup : (addresses (ys ++ (p, a) :: zs)).Nodup) : p ∉ addresses ys := by
  intro hp
  obtain ⟨y, hy, heq⟩ := List.mem_map.mp hp
  exact others_ne hnodup y (List.mem_append_left _ hy) heq

theorem firstOf_eq_none : firstOf xs none = none ↔ xs = [] := by
  cases xs <;> simp

theorem lastOf_eq_none : lastOf none xs = none ↔ xs = [] := by
  rcases List.eq_nil_or_concat xs with rfl | ⟨ys, y, rfl⟩
  · simp
  · simp [List.concat_eq_append]

/-! ### Using memory -/

section Memory
variable {q : Ptr} {e : ListElement α}

theorem deref_ok (hq : h q = some e) : deref h (some q) = .ok e := by
  simp only [deref, hq]

theorem writeNext_ok (hq : h q = some e) (v : Option Ptr) :
    writeNext h (some q) v = .ok (setNext h (some q) v) := by
  rw [writeNext, deref_ok hq]
  rfl

theorem writePrev_ok (hq : h q = some e) (v : Option Ptr) :
    writePrev h (some q) v = .ok (setPrev h (some q) v) := by
  rw [writePrev, deref_ok hq]
  rfl

theorem free_ok (hq : h q = some e) : free h (some q) = .ok (Function.update h q none) := by
  rw [free, deref_ok hq]
  rfl

end Memory

/-- The last element of a part can be used. -/
theorem lastOf_cell {first last : Option Ptr} (hr : Represents h first last (ys ++ zs)) {q : Ptr}
    (hq : lastOf none ys = some q) : ∃ e, h q = some e ∧ q ∈ addresses ys := by
  have hmem := lastOf_mem hq
  have hsome := hr.seg.allocated q (by rw [addresses_append]; exact List.mem_append_left _ hmem)
  obtain ⟨e, he⟩ := Option.isSome_iff_exists.mp hsome
  exact ⟨e, he, hmem⟩

/-- The first element of a part can be used. -/
theorem firstOf_cell {first last : Option Ptr} (hr : Represents h first last (ys ++ zs)) {q : Ptr}
    (hq : firstOf zs none = some q) : ∃ e, h q = some e ∧ q ∈ addresses zs := by
  have hmem := firstOf_mem hq
  have hsome := hr.seg.allocated q (by rw [addresses_append]; exact List.mem_append_right _ hmem)
  obtain ⟨e, he⟩ := Option.isSome_iff_exists.mp hsome
  exact ⟨e, he, hmem⟩

/-! ### New elements -/

theorem insertBefore_none (y : Ptr × α) : ∀ xs : List (Ptr × α),
    ListSpec.insertBefore none y xs = xs ++ [y]
  | [] => rfl
  | _ :: xs => by simp [ListSpec.insertBefore, insertBefore_none y xs]

theorem insertBefore_some {q : Ptr} {b : α} (y : Ptr × α) : ∀ {ys : List (Ptr × α)},
    q ∉ addresses ys → ListSpec.insertBefore (some q) y (ys ++ (q, b) :: zs) = ys ++ y :: (q, b) :: zs
  | [], _ => by simp [ListSpec.insertBefore]
  | (r, c) :: ys, hq => by
    rw [addresses_cons, List.mem_cons, not_or] at hq
    simp only [List.cons_append, ListSpec.insertBefore, Option.some.injEq]
    rw [if_neg hq.1, insertBefore_some y hq.2]

theorem mem_insert {index : Option Ptr} {size : ℕ} {q : Ptr} :
    q ∈ addresses (x.insert index p a size).entries ↔ q = p ∨ q ∈ addresses x.entries := by
  show q ∈ addresses (ListSpec.insertBefore index (p, a) x.entries) ↔ _
  induction x.entries with
  | nil => simp [ListSpec.insertBefore]
  | cons y ys ih =>
    rw [ListSpec.insertBefore]
    by_cases hy : index = some y.1
    · simp [hy]
    · rw [if_neg hy, addresses_cons, List.mem_cons, ih, addresses_cons, List.mem_cons]
      tauto

/-- A new element anywhere in the list. -/
theorem does_insert {index : Option Ptr} (hx : Holds h l x)
    (hxs : x.entries = ys ++ zs) (hp : p ∉ addresses (ys ++ zs))
    (hindex : ListSpec.insertBefore index (p, a) x.entries = ys ++ (p, a) :: zs) (size : ℕ) :
    Does h (setNext (setPrev (Function.update h p (some ⟨lastOf none ys, firstOf zs none, a⟩))
        (firstOf zs none) (some p)) (lastOf none ys) (some p))
      ⟨firstOf ys (some p), lastOf (some p) zs, l.current, l.count + 1, l.size + size⟩
      x (x.insert index p a size) := by
  have hr := Represents.insert (a := a) (hxs ▸ hx.linked) hp
  refine ⟨⟨?_, ?_, hx.current, fun q hq => ?_, ?_⟩, fun q hq => ?_⟩
  · show Represents _ _ _ (ListSpec.insertBefore index (p, a) x.entries)
    rwa [hindex]
  · show l.count + 1 = (ListSpec.insertBefore index (p, a) x.entries).length
    rw [hindex, hx.count, hxs]
    simp
    omega
  · exact mem_insert.mpr (Or.inr (hx.mem q hq))
  · show l.size + size = x.size + size
    rw [hx.size]
  · obtain ⟨hqp, hqs⟩ := not_or.mp (mem_insert.not.mp hq)
    rw [if_neg hqs]
    exact insert_of_not_mem hqp (hxs ▸ hqs)

/-- **A new element at the end.** -/
theorem appendNoMalloc_spec (hx : Holds h l x) (hp : p ∉ addresses x.entries) (size : ℕ) :
    ∃ h' l', ListAppendNoMalloc h l a p size = .ok (h', l') ∧
      Does h h' l' x (x.insert none p a size) := by
  have hlinked := hx.linked
  have hxs := (List.append_nil x.entries).symm
  rw [hxs] at hlinked hp
  have hdoes := does_insert hx hxs hp (insertBefore_none (p, a) x.entries) size
  rcases hempty : l.first with _ | first
  · have hnil : x.entries = [] := firstOf_eq_none.mp (hx.linked.first ▸ hempty)
    refine ⟨_, _, ?_, hdoes⟩
    simp only [ListAppendNoMalloc, hempty, hx.linked.last, hnil]
    rfl
  · obtain ⟨last, hlast⟩ : ∃ last, lastOf none x.entries = some last := by
      refine Option.ne_none_iff_exists'.mp fun hnone => ?_
      rw [hx.linked.first, firstOf_eq_none.mpr (lastOf_eq_none.mp hnone)] at hempty
      cases hempty
    obtain ⟨e, he, hmem⟩ := lastOf_cell hlinked hlast
    have hne : last ≠ p := by
      rintro rfl
      exact hp (by simpa using hmem)
    have hcell : Function.update h p (some ⟨some last, none, a⟩) last = some e :=
      (Function.update_of_ne hne _ _).trans he
    have hfirst : firstOf x.entries (some p) = some first := by
      rw [hx.linked.first] at hempty
      revert hempty
      cases x.entries <;> simp
    refine ⟨_, _, ?_, hdoes⟩
    simp only [ListAppendNoMalloc, hempty, hx.linked.last, hlast, hfirst, writeNext_ok hcell, bind,
      Except.bind, reduceCtorEq, if_false]
    rfl

/-- **A new element before another one.** -/
theorem insert_spec (hx : Holds h l x) (hp : p ∉ addresses x.entries) {index : Option Ptr}
    (hindex : ∀ q ∈ index, q ∈ addresses x.entries) (size : ℕ) :
    ∃ h' l', ListInsert h l a size index (some p) = .ok (h', l') ∧
      Does h h' l' x (x.insert index p a size) := by
  rcases index with _ | q
  · obtain ⟨h', l', happend, hdoes⟩ := appendNoMalloc_spec hx hp size
    exact ⟨h', l', by simpa only [ListInsert, if_true] using happend, hdoes⟩
  · obtain ⟨ys, b, zs, hxs⟩ := exists_split (hindex q rfl)
    have hlinked := hx.linked
    rw [hxs] at hlinked hp
    have hq : q ∉ addresses ys := not_mem_before hlinked.nodup
    have hbefore : ListSpec.insertBefore (some q) (p, a) x.entries = ys ++ (p, a) :: (q, b) :: zs := by
      rw [hxs, insertBefore_some (p, a) hq]
    have hdoes := does_insert hx hxs hp hbefore size
    have hqp : q ≠ p := by
      rintro rfl
      exact hp (by simp)
    have hcell := hlinked.cell
    have hcell' : Function.update h p (some ⟨lastOf none ys, some q, a⟩) q = _ :=
      (Function.update_of_ne hqp _ _).trans hcell
    have hlast : l.last = lastOf (some p) ((q, b) :: zs) := by
      rw [hx.linked.last, hxs, lastOf_append]
      rfl
    rcases hprev : lastOf none ys with _ | prev
    · obtain rfl := lastOf_eq_none.mp hprev
      rw [lastOf_nil] at hcell hcell'
      refine ⟨_, _, ?_, hdoes⟩
      simp only [ListInsert, reduceCtorEq, if_false, deref_ok hcell, bind, Except.bind,
        writePrev_ok hcell', hlast]
      rfl
    · obtain ⟨e, he, hmem⟩ := lastOf_cell hlinked hprev
      have hne : prev ≠ p := by
        rintro rfl
        exact hp (by rw [addresses_append]; exact List.mem_append_left _ hmem)
      have hprevq : some q ≠ some prev := fun heq => hq (Option.some.inj heq ▸ hmem)
      have hcell₂ : setPrev (Function.update h p (some ⟨some prev, some q, a⟩)) (some q) (some p) prev
          = some e := by
        rw [setPrev_of_ne hprevq, Function.update_of_ne hne, he]
      have hfirst : l.first = firstOf ys (some p) := by
        rw [hx.linked.first, hxs]
        cases ys with
        | nil => cases hprev
        | cons => rfl
      refine ⟨_, _, ?_, hdoes⟩
      rw [hprev] at hcell hcell'
      simp only [ListInsert, reduceCtorEq, if_false, deref_ok hcell, bind, Except.bind,
        writePrev_ok hcell', writeNext_ok hcell₂, hfirst, hlast, hprev]
      rfl

/-! ### Searches -/

/-- The element after a part. -/
theorem nextElement_spec (hr : Represents h l.first l.last (ys ++ zs)) :
    ListNextElement h l (lastOf none ys) = .ok (firstOf zs none) := by
  rcases List.eq_nil_or_concat ys with rfl | ⟨ys, ⟨q, b⟩, rfl⟩
  · simp only [ListNextElement, lastOf_nil, if_true, hr.first]
    rfl
  · rw [List.concat_eq_append, List.append_assoc] at hr
    have hcell := hr.cell
    rw [List.concat_eq_append, lastOf_concat]
    simp only [ListNextElement, reduceCtorEq, if_false, deref_ok hcell, bind, Except.bind]
    rfl

/-- **The loop** finds the first of the elements that are left, by induction on them. -/
theorem findLoop_spec : ∀ {zs ys : List (Ptr × α)} {turns : ℕ},
    Represents h l.first l.last (ys ++ zs) → zs.length < turns →
    findLoop h l test turns (lastOf none ys) = .ok ((zs.find? fun y => test y.2).map Prod.fst)
  | zs, ys, 0, _, hturns => absurd hturns (Nat.not_lt_zero _)
  | [], ys, turns + 1, hr, _ => by
    simp only [findLoop, nextElement_spec hr, bind, Except.bind, firstOf_nil, if_true]
    rfl
  | (p, a) :: zs, ys, turns + 1, hr, hturns => by
    simp only [findLoop, nextElement_spec hr, bind, Except.bind, firstOf_cons, reduceCtorEq, if_false,
      deref_ok hr.cell]
    by_cases ha : test a = true
    · rw [if_pos ha, List.find?_cons, ha]
      rfl
    · rw [if_neg ha, List.find?_cons, Bool.eq_false_of_not_eq_true ha]
      have hrest : findLoop h l test turns (lastOf none (ys ++ [(p, a)]))
          = .ok ((zs.find? fun y => test y.2).map Prod.fst) :=
        findLoop_spec (by simpa using hr) (by simpa using hturns)
      rwa [lastOf_concat] at hrest

theorem findFromStart_spec (hx : Holds h l x) : findFromStart h l test
    = .ok ((x.entries.find? fun y => test y.2).map Prod.fst, { l with
        current := ((x.entries.find? fun y => test y.2).map Prod.fst).or l.current }) := by
  have hloop : findLoop h l test (l.count + 1) (lastOf none ([] : List (Ptr × α)))
      = .ok ((x.entries.find? fun y => test y.2).map Prod.fst) :=
    findLoop_spec hx.linked (Nat.lt_succ_of_le (Nat.le_of_eq hx.count.symm))
  rw [lastOf_nil] at hloop
  simp only [findFromStart, hloop, bind, Except.bind]
  generalize (x.entries.find? fun y => test y.2).map Prod.fst = rc
  cases rc with
  | none => rfl
  | some q => rfl

theorem find_address (hnodup : (addresses (ys ++ (p, a) :: zs)).Nodup) :
    ((ys ++ (p, a) :: zs).find? fun y => p = y.1) = some (p, a) := by
  have hnone : (ys.find? fun y => p = y.1) = none := by
    refine List.find?_eq_none.mpr fun y hy heq => ?_
    exact others_ne hnodup y (List.mem_append_left _ hy) (of_decide_eq_true heq).symm
  rw [List.find?_append, hnone]
  simp

theorem found_mem (hfound : x.found test = some (p, a)) : (p, a) ∈ x.entries ∧ test a = true := by
  unfold ListSpec.found at hfound
  rcases Option.or_eq_some_iff.mp hfound with h | ⟨-, h⟩
  · obtain ⟨h, ha⟩ := Option.filter_eq_some_iff.mp h
    exact ⟨List.mem_of_find?_eq_some h, ha⟩
  · exact ⟨List.mem_of_find?_eq_some h, by simpa using List.find?_some h⟩

/-- **A search** finds what the specification says. -/
theorem findItem_spec (hx : Holds h l x) (test : α → Bool) : ListFindItem h l test
    = .ok ((x.find test).1, { l with current := (x.find test).2.current }) := by
  rcases hcurrent : x.current with _ | p
  · have hnone : (x.entries.find? fun y => (none : Option Ptr) = some y.1) = none := by simp
    simp only [ListFindItem, hx.current, hcurrent, if_true, findFromStart_spec hx, ListSpec.find,
      ListSpec.found, hnone, Option.filter_none, Option.none_or]
  · obtain ⟨ys, b, zs, hxs⟩ := exists_split (hx.mem p hcurrent)
    have hlinked := hx.linked
    rw [hxs] at hlinked
    have hfind : (x.entries.find? fun y => some p = some y.1) = some (p, b) := by
      simp only [Option.some.injEq, hxs, find_address hlinked.nodup]
    simp only [ListFindItem, hx.current, hcurrent, reduceCtorEq, if_false, deref_ok hlinked.cell, bind,
      Except.bind, ListSpec.find, ListSpec.found, hfind]
    by_cases hb : test b = true
    · simp only [hb, if_true, Option.filter_some, Option.some_or, Option.map_some]
      rw [← hcurrent, ← hx.current]
      rfl
    · simp only [hb, Bool.false_eq_true, if_false, Option.filter_some, Option.none_or,
        findFromStart_spec hx, hx.current, hcurrent]

/-- What is found becomes the current element. -/
theorem find_does (hx : Holds h l x) (test : α → Bool) :
    Does h h { l with current := (x.find test).2.current } x (x.find test).2 := by
  refine ⟨⟨hx.linked, hx.count, rfl, fun p hp => ?_, hx.size⟩, hx.does.outside⟩
  simp only [ListSpec.find] at hp ⊢
  rcases hfound : x.found test with _ | ⟨q, a⟩
  · rw [hfound] at hp
    exact hx.mem p hp
  · rw [hfound] at hp
    obtain rfl := Option.some.inj hp
    exact List.mem_map_of_mem (found_mem hfound).1

/-! ### Contents -/

theorem modify_entries (hnodup : (addresses (ys ++ (p, a) :: zs)).Nodup) (f : α → α) :
    (ys ++ (p, a) :: zs).map (fun y => if y.1 = p then (y.1, f y.2) else y) = ys ++ (p, f a) :: zs := by
  have hothers : ∀ y ∈ ys ++ zs, (if y.1 = p then (y.1, f y.2) else y) = id y :=
    fun y hy => if_neg (others_ne hnodup y hy)
  rw [List.map_append, List.map_cons, if_pos rfl,
    List.map_congr_left fun y hy => hothers y (List.mem_append_left _ hy),
    List.map_congr_left fun y hy => hothers y (List.mem_append_right _ hy), List.map_id, List.map_id]

@[simp] theorem addresses_modify (p : Ptr) (f : α → α) (x : ListSpec α) :
    addresses (x.modify p f).entries = addresses x.entries := by
  simp only [addresses, ListSpec.modify, List.map_map]
  refine List.map_congr_left fun y _ => ?_
  by_cases hy : y.1 = p <;> simp [hy]

theorem contentAt_of_split (hxs : x.entries = ys ++ (p, a) :: zs)
    (hnodup : (addresses x.entries).Nodup) : x.contentAt p = some a := by
  rw [hxs] at hnodup
  rw [ListSpec.contentAt, hxs, find_address hnodup]
  rfl

/-- **A content is changed in place.** -/
theorem modify_does (hx : Holds h l x) (hp : p ∈ addresses x.entries) (f : α → α) :
    Does h (setContent h (some p) f) l x (x.modify p f) := by
  obtain ⟨ys, a, zs, hxs⟩ := exists_split hp
  have hlinked := hx.linked
  rw [hxs] at hlinked
  refine ⟨⟨?_, ?_, hx.current, fun q hq => ?_, hx.size⟩, fun q hq => ?_⟩
  · rw [ListSpec.modify, hxs, modify_entries hlinked.nodup]
    exact hlinked.setContent f
  · rw [hx.count, ListSpec.modify, List.length_map]
  · rw [addresses_modify]
    exact hx.mem q hq
  · rw [addresses_modify] at hq
    rw [if_neg hq, setContent_of_ne]
    intro heq
    exact hq (Option.some.inj heq ▸ hp)

/-! ### Removals -/

section Removal
variable {first last : Option Ptr}

/-- The cells around the one that is removed are others. -/
theorem Represents.ne_around (hr : Represents h first last (ys ++ (p, a) :: zs)) :
    lastOf none ys ≠ some p ∧ firstOf zs none ≠ some p ∧
      ∀ q, firstOf zs none = some q → lastOf none ys ≠ some q := by
  have hnodup := hr.nodup
  rw [addresses_append, addresses_cons, List.nodup_append, List.nodup_cons] at hnodup
  obtain ⟨-, ⟨hp, -⟩, hdisjoint⟩ := hnodup
  refine ⟨fun heq => ?_, fun heq => hp (firstOf_mem heq), fun q hq heq => ?_⟩
  · exact hdisjoint p (lastOf_mem heq) p List.mem_cons_self rfl
  · exact hdisjoint q (lastOf_mem heq) q (List.mem_cons_of_mem _ (firstOf_mem hq)) rfl

theorem unlinkForward_spec (hr : Represents h l.first l.last (ys ++ (p, a) :: zs))
    (hcurrent : l.current = some p) : unlinkForward h l
      = .ok (setNext h (lastOf none ys) (firstOf zs none), firstOf (ys ++ zs) none) := by
  simp only [unlinkForward, hcurrent, deref_ok hr.cell, bind, Except.bind]
  rcases hprev : lastOf none ys with _ | prev
  · obtain rfl := lastOf_eq_none.mp hprev
    rfl
  · obtain ⟨e, he, -⟩ := lastOf_cell hr hprev
    have hfirst : l.first = firstOf (ys ++ zs) none := by
      rw [hr.first]
      cases ys with
      | nil => cases hprev
      | cons => rfl
    simp only [reduceCtorEq, if_false, writeNext_ok he, hfirst]
    rfl

theorem unlinkBackward_spec (hr : Represents h l.first l.last (ys ++ (p, a) :: zs))
    (hcurrent : l.current = some p) :
    unlinkBackward (setNext h (lastOf none ys) (firstOf zs none)) l
      = .ok (setPrev (setNext h (lastOf none ys) (firstOf zs none)) (firstOf zs none) (lastOf none ys),
          lastOf none (ys ++ zs)) := by
  obtain ⟨hne, -, haround⟩ := Represents.ne_around hr
  have hcell := (setNext_of_ne hne (firstOf zs none)).trans hr.cell
  simp only [unlinkBackward, hcurrent, deref_ok hcell, bind, Except.bind]
  have hsplit : ys ++ (p, a) :: zs = (ys ++ [(p, a)]) ++ zs := by simp
  rcases hnext : firstOf zs none with _ | next
  · obtain rfl := firstOf_eq_none.mp hnext
    rw [List.append_nil]
    rfl
  · obtain ⟨e, he, -⟩ := firstOf_cell (hsplit ▸ hr) hnext
    have hlast : l.last = lastOf none (ys ++ zs) := by
      rw [hr.last, lastOf_append, lastOf_append]
      cases zs with
      | nil => cases hnext
      | cons => rfl
    have he' := (setNext_of_ne (haround next hnext) (some next)).trans he
    simp only [reduceCtorEq, if_false, writePrev_ok he', hlast]
    rfl

/-- The list without the element, whose links have been changed and which has been freed. -/
theorem does_remove (hx : Holds h l x) (hxs : x.entries = ys ++ (p, a) :: zs) {current : Option Ptr}
    (hmem : ∀ q ∈ current, q ∈ addresses (ys ++ zs)) :
    Does h (Function.update (setPrev (setNext h (lastOf none ys) (firstOf zs none))
        (firstOf zs none) (lastOf none ys)) p none)
      ⟨firstOf (ys ++ zs) none, lastOf none (ys ++ zs), current, l.count - 1, l.size⟩
      x ⟨ys ++ zs, current, x.size⟩ := by
  have hlinked := hx.linked
  rw [hxs] at hlinked
  refine ⟨⟨hlinked.remove, ?_, rfl, hmem, hx.size⟩, fun q hq => ?_⟩
  · show l.count - 1 = (ys ++ zs).length
    rw [hx.count, hxs]
    simp
  · by_cases hqp : q = p
    · obtain rfl := hqp
      rw [Function.update_self, if_pos (by simp [hxs])]
    · rw [remove_of_not_mem hqp hq, if_neg]
      rw [hxs, addresses_append, addresses_cons, List.mem_append, List.mem_cons]
      rw [addresses_append, List.mem_append] at hq
      tauto

/-- The current element is one that is left. -/
theorem current_mem (hx : Holds h l x) (hxs : x.entries = ys ++ (p, a) :: zs) {v : Option Ptr}
    (hv : ∀ q ∈ v, q ∈ addresses (ys ++ zs)) (q : Ptr)
    (hq : q ∈ if x.current = some p then v else x.current) : q ∈ addresses (ys ++ zs) := by
  by_cases hcurrent : x.current = some p
  · rw [if_pos hcurrent] at hq
    exact hv q hq
  · rw [if_neg hcurrent] at hq
    have hmem := hx.mem q hq
    have hqp : q ≠ p := fun heq => hcurrent (heq ▸ hq)
    rw [hxs, addresses_append, addresses_cons, List.mem_append, List.mem_cons] at hmem
    rw [addresses_append, List.mem_append]
    tauto

theorem filter_entries (hnodup : (addresses (ys ++ (p, a) :: zs)).Nodup) :
    (ys ++ (p, a) :: zs).filter (fun y => y.1 ≠ p) = ys ++ zs := by
  have hothers : ∀ y ∈ ys ++ zs, decide (y.1 ≠ p) = true := by simpa using others_ne hnodup
  rw [List.filter_append, List.filter_cons_of_neg (by simp), ← List.filter_append,
    List.filter_eq_self.mpr hothers]

theorem after_eq : ∀ {ys : List (Ptr × α)}, p ∉ addresses ys →
    ListSpec.after p (ys ++ (p, a) :: zs) = firstOf zs none
  | [], _ => by simp [ListSpec.after]
  | (q, b) :: ys, hp => by
    rw [addresses_cons, List.mem_cons, not_or] at hp
    simp only [List.cons_append, ListSpec.after]
    rw [if_neg (Ne.symm hp.1), after_eq hp.2]

/-- **The element found is removed**; the search goes on after it if it was the current one. -/
theorem unlink_spec (hx : Holds h l x) (test : α → Bool) : ∃ h' l',
    ListUnlink h l test = .ok ((x.unlink test).1, h', l') ∧ Does h h' l' x (x.unlink test).2 := by
  have hfind := findItem_spec hx test
  rcases hfound : x.found test with _ | ⟨p, a⟩
  · have hl : { l with current := x.current } = l := by rw [← hx.current]
    simp only [ListSpec.find, hfound, Option.map_none, Option.none_or, hl] at hfind
    refine ⟨h, l, ?_, ?_⟩
    · simp only [ListUnlink, hfind, bind, Except.bind, if_true, ListSpec.unlink, hfound]
      rfl
    · simpa only [ListSpec.unlink, hfound] using hx.does
  · obtain ⟨ys, zs, hxs⟩ := List.append_of_mem (found_mem hfound).1
    have hlinked := hx.linked
    rw [hxs] at hlinked
    obtain ⟨hne₁, hne₂, -⟩ := Represents.ne_around hlinked
    have hp : p ∉ addresses ys := not_mem_before hlinked.nodup
    simp only [ListSpec.find, hfound, Option.map_some, Option.some_or] at hfind
    have hforward := unlinkForward_spec (l := { l with current := some p }) hlinked rfl
    have hbackward := unlinkBackward_spec (l := { l with current := some p }) hlinked rfl
    have hcell : setPrev (setNext h (lastOf none ys) (firstOf zs none)) (firstOf zs none)
        (lastOf none ys) p = some ⟨lastOf none ys, firstOf zs none, a⟩ := by
      rw [setPrev_of_ne hne₂, setNext_of_ne hne₁, hlinked.cell]
    have hunlink : x.unlink test = (some a, ⟨ys ++ zs,
        if x.current = some p then firstOf zs none else x.current, x.size⟩) := by
      simp only [ListSpec.unlink, hfound, hxs, filter_entries hlinked.nodup, after_eq hp]
    have hnext : ∀ q ∈ firstOf zs none, q ∈ addresses (ys ++ zs) := fun q hq => by
      rw [addresses_append]
      exact List.mem_append_right _ (firstOf_mem hq)
    rw [hunlink]
    refine ⟨_, _, ?_, does_remove hx hxs (current_mem hx hxs hnext)⟩
    simp only [ListUnlink, hfind, bind, Except.bind, reduceCtorEq, if_false, hforward, hbackward,
      deref_ok hcell, free_ok hcell, hx.current]
    rfl

/-- The last element when the first one is gone. -/
theorem last_rest (hnodup : (addresses ((p, a) :: zs)).Nodup) :
    (if lastOf none ((p, a) :: zs) = some p then none else lastOf none ((p, a) :: zs))
      = lastOf none zs := by
  rcases List.eq_nil_or_concat zs with rfl | ⟨zs, ⟨q, b⟩, rfl⟩
  · simp [lastOf]
  · have hne : q ≠ p := by
      rintro rfl
      simp at hnodup
    rw [List.concat_eq_append, ← List.cons_append, lastOf_concat, lastOf_concat,
      if_neg fun heq => hne (Option.some.inj heq)]

/-- **The first element is removed.** -/
theorem detachHead_spec (hx : Holds h l x) : ∃ h' l',
    ListDetachHead h l = .ok (x.detachHead.1, h', l') ∧ Does h h' l' x x.detachHead.2 := by
  rcases hxs : x.entries with _ | ⟨⟨p, a⟩, zs⟩
  · refine ⟨h, l, ?_, ?_⟩
    · simp only [ListDetachHead, hx.count, hxs, ListSpec.detachHead, List.length_nil, lt_irrefl, if_false]
      rfl
    · simpa only [ListSpec.detachHead, hxs] using hx.does
  · have hsplit : x.entries = [] ++ (p, a) :: zs := hxs
    have hlinked := hx.linked
    rw [hsplit] at hlinked
    have hcell : h p = some ⟨none, firstOf zs none, a⟩ := hlinked.cell
    have hfirst : l.first = some p := hlinked.first
    have hcount : 0 < l.count := by
      rw [hx.count, hxs]
      exact Nat.succ_pos _
    have hmem : ∀ q ∈ firstOf zs none, q ∈ addresses ([] ++ zs) := fun q hq => firstOf_mem hq
    have hdoes := does_remove hx hsplit (current_mem hx hsplit hmem)
    have hlast : (if l.last = some p then none else l.last) = lastOf none zs := by
      rw [hx.linked.last, hxs]
      exact last_rest hlinked.nodup
    have hdetach : x.detachHead = (some a, ⟨zs,
        if x.current = some p then firstOf zs none else x.current, x.size⟩) := by
      simp only [ListSpec.detachHead, hxs]
    rw [hdetach]
    refine ⟨_, _, ?_, hdoes⟩
    simp only [ListDetachHead, if_pos hcount, hfirst, deref_ok hcell, bind, Except.bind, hlast,
      hx.current]
    rcases hnext : firstOf zs none with _ | next
    · simp only [if_true, pure, Except.pure, free_ok hcell]
      rw [firstOf_eq_none.mp hnext]
      rfl
    · have hparts : Represents h l.first l.last ([(p, a)] ++ zs) := hlinked
      obtain ⟨e, he, -⟩ := firstOf_cell hparts hnext
      have hne : some next ≠ some p := hnext ▸ (Represents.ne_around hlinked).2.1
      have hcell' := (setPrev_of_ne (h := h) hne none).trans hcell
      simp only [reduceCtorEq, if_false, writePrev_ok he, free_ok hcell', List.nil_append, hnext]
      rfl

/-- The first element when the last one is gone. -/
theorem first_rest (hnodup : (addresses (ys ++ [(p, a)])).Nodup) :
    (if firstOf (ys ++ [(p, a)]) none = some p then none else firstOf (ys ++ [(p, a)]) none)
      = firstOf ys none := by
  cases ys with
  | nil => simp
  | cons y ys =>
    have hne : y.1 ≠ p := by
      rintro rfl
      simp at hnodup
    rw [List.cons_append, firstOf_cons, firstOf_cons, if_neg fun heq => hne (Option.some.inj heq)]

/-- **The last element is removed.** -/
theorem popTail_spec (hx : Holds h l x) : ∃ h' l',
    ListPopTail h l = .ok (x.popTail.1, h', l') ∧ Does h h' l' x x.popTail.2 := by
  obtain hxs | ⟨ys, ⟨p, a⟩, hxs⟩ := List.eq_nil_or_concat x.entries
  · refine ⟨h, l, ?_, ?_⟩
    · simp only [ListPopTail, hx.count, hxs, ListSpec.popTail, List.length_nil, lt_irrefl, if_false]
      rfl
    · simpa only [ListSpec.popTail, hxs, List.getLast?_nil] using hx.does
  · rw [List.concat_eq_append] at hxs
    have hlinked := hx.linked
    rw [hxs] at hlinked
    have hcell : h p = some ⟨lastOf none ys, none, a⟩ := hlinked.cell
    have hlast : l.last = some p := hlinked.last.trans (lastOf_concat _ _ _)
    have hcount : 0 < l.count := by
      rw [hx.count, hxs, List.length_append]
      exact Nat.succ_pos _
    have hmem : ∀ q ∈ lastOf none ys, q ∈ addresses (ys ++ []) := fun q hq => by
      rw [List.append_nil]
      exact lastOf_mem hq
    have hdoes := does_remove hx hxs (current_mem hx hxs hmem)
    have hfirst : (if l.first = some p then none else l.first) = firstOf ys none := by
      rw [hx.linked.first, hxs]
      exact first_rest hlinked.nodup
    have hpop : x.popTail = (some a, ⟨ys ++ [],
        if x.current = some p then lastOf none ys else x.current, x.size⟩) := by
      simp only [ListSpec.popTail, hxs, List.getLast?_concat, List.dropLast_concat, List.append_nil]
    rw [hpop]
    refine ⟨_, _, ?_, hdoes⟩
    simp only [ListPopTail, if_pos hcount, hlast, deref_ok hcell, bind, Except.bind, hfirst, hx.current,
      List.append_nil]
    rcases hprev : lastOf none ys with _ | prev
    · simp only [if_true, pure, Except.pure, free_ok hcell]
      rfl
    · obtain ⟨e, he, -⟩ := lastOf_cell hlinked hprev
      have hne : some prev ≠ some p := hprev ▸ (Represents.ne_around hlinked).1
      have hcell' := (setNext_of_ne (h := h) hne none).trans hcell
      simp only [reduceCtorEq, if_false, writeNext_ok he, free_ok hcell']
      rfl

/-- The loop frees the elements of a part, by induction on them. -/
theorem emptyLoop_spec : ∀ {h : Heap Ptr α} {zs : List (Ptr × α)} {before : Option Ptr} {turns : ℕ},
    Seg h before zs none → (addresses zs).Nodup → zs.length < turns →
    ∃ h', emptyLoop h turns (firstOf zs none) = .ok h' ∧ (∀ q ∈ addresses zs, h' q = none) ∧
      ∀ q ∉ addresses zs, h' q = h q
  | _, _, _, 0, _, _, hturns => absurd hturns (Nat.not_lt_zero _)
  | h, [], _, turns + 1, _, _, _ => ⟨h, rfl, by simp, fun _ _ => rfl⟩
  | h, (p, a) :: zs, before, turns + 1, hseg, hnodup, hturns => by
    obtain ⟨hp, hseg⟩ := hseg
    obtain ⟨hmem, hnodup⟩ := List.nodup_cons.mp hnodup
    have hseg' : Seg (Function.update h p none) (some p) zs none :=
      hseg.congr fun q hq => Function.update_of_ne (ne_of_mem_of_not_mem hq hmem) _ _
    obtain ⟨h', hloop, hfreed, hframe⟩ := emptyLoop_spec hseg' hnodup (Nat.lt_of_succ_lt_succ hturns)
    refine ⟨h', ?_, fun q hq => ?_, fun q hq => ?_⟩
    · simp only [emptyLoop, firstOf_cons, reduceCtorEq, if_false, deref_ok hp, free_ok hp, bind,
        Except.bind, hloop]
    · rcases List.mem_cons.mp hq with rfl | hq
      · exact (hframe _ hmem).trans (Function.update_self _ _ _)
      · exact hfreed q hq
    · obtain ⟨hqp, hqs⟩ := not_or.mp (List.mem_cons.not.mp hq)
      exact (hframe q hqs).trans (Function.update_of_ne hqp _ _)

theorem unlink_subset {q : Ptr} (hq : q ∈ addresses (x.unlink test).2.entries) :
    q ∈ addresses x.entries := by
  rw [ListSpec.unlink] at hq
  rcases hfound : x.found test with _ | ⟨p, a⟩
  · simpa only [hfound] using hq
  · simp only [hfound] at hq
    exact (List.filter_sublist.map Prod.fst).subset hq

theorem detachHead_subset {q : Ptr} (hq : q ∈ addresses x.detachHead.2.entries) :
    q ∈ addresses x.entries := by
  rw [ListSpec.detachHead] at hq
  rcases hxs : x.entries with _ | ⟨⟨p, a⟩, ys⟩
  · simp only [hxs] at hq
    exact absurd hq List.not_mem_nil
  · simp only [hxs] at hq
    exact List.mem_cons_of_mem _ hq

theorem popTail_subset {q : Ptr} (hq : q ∈ addresses x.popTail.2.entries) :
    q ∈ addresses x.entries := by
  rw [ListSpec.popTail] at hq
  rcases hlast : x.entries.getLast? with _ | ⟨p, a⟩
  · simpa only [hlast] using hq
  · simp only [hlast] at hq
    exact ((List.dropLast_sublist x.entries).map Prod.fst).subset hq

/-- **All elements are removed**, and nothing stays allocated. -/
theorem empty_spec (hx : Holds h l x) :
    ∃ h', ListEmpty h l = .ok (h', ListZero) ∧ Does h h' ListZero x ListSpec.empty := by
  obtain ⟨h', hloop, hfreed, hframe⟩ := emptyLoop_spec hx.linked.seg hx.linked.nodup
    (Nat.lt_succ_of_le (Nat.le_of_eq hx.count.symm))
  refine ⟨h', ?_, holds_empty h', fun q _ => ?_⟩
  · simp only [ListEmpty, hx.linked.first, hloop, bind, Except.bind]
    rfl
  · by_cases hq : q ∈ addresses x.entries
    · rw [if_pos hq, hfreed q hq]
    · rw [if_neg hq, hframe q hq]

end Removal

end LanternProject.Mqtt.Lists
