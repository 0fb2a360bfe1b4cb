import LanternProject.Mqtt.Lists

/-! # Many lists in one memory

The elements of all the lists of the client lie in one memory. A run is a sequence of calls on any of
the lists.

* `calls_refine`: in every run of legal calls no invalid pointer is used and every loop ends, each call
  returns what the specification says, and memory holds the lists of the specification and nothing
  else. -/

namespace LanternProject.Mqtt.ListCalls

open LanternProject.Lib.DoublyLinked LanternProject.Mqtt.LinkedList LanternProject.Mqtt.Lists

variable {α : Type}

/-! ### Memory -/

/-- The elements, and the lists by their addresses. -/
structure Memory (α : Type) where
  heap : Heap Ptr α
  lists : ℕ → Option CList

namespace Memory

def start : Memory α := ⟨fun _ => none, fun _ => none⟩

def list (m : Memory α) (l : ℕ) : Except MemoryFault CList :=
  match m.lists l with
  | none => .error .invalidPointer
  | some aList => .ok aList

def store (m : Memory α) (l : ℕ) (h : Heap Ptr α) (aList : CList) : Memory α :=
  ⟨h, Function.update m.lists l (some aList)⟩

/-- `ListInitialize`; `l` is what `malloc` gives. -/
def create (m : Memory α) (l : ℕ) : Memory α := m.store l m.heap ListZero

def append (m : Memory α) (l : ℕ) (content : α) (size : ℕ) (newel : Option Ptr) :
    Except MemoryFault (Memory α) := do
  let (h, aList) ← ListAppend m.heap (← m.list l) content size newel
  return m.store l h aList

def insert (m : Memory α) (l : ℕ) (content : α) (size : ℕ) (index newel : Option Ptr) :
    Except MemoryFault (Memory α) := do
  let (h, aList) ← ListInsert m.heap (← m.list l) content size index newel
  return m.store l h aList

def next (m : Memory α) (l : ℕ) (pos : Option Ptr) : Except MemoryFault (Option Ptr) := do
  ListNextElement m.heap (← m.list l) pos

def find (m : Memory α) (l : ℕ) (test : α → Bool) : Except MemoryFault (Option Ptr × Memory α) := do
  let (rc, aList) ← ListFindItem m.heap (← m.list l) test
  return (rc, m.store l m.heap aList)

def unlink (m : Memory α) (l : ℕ) (test : α → Bool) : Except MemoryFault (Option α × Memory α) := do
  let (rc, h, aList) ← ListUnlink m.heap (← m.list l) test
  return (rc, m.store l h aList)

def detachHead (m : Memory α) (l : ℕ) : Except MemoryFault (Option α × Memory α) := do
  let (rc, h, aList) ← ListDetachHead m.heap (← m.list l)
  return (rc, m.store l h aList)

def popTail (m : Memory α) (l : ℕ) : Except MemoryFault (Option α × Memory α) := do
  let (rc, h, aList) ← ListPopTail m.heap (← m.list l)
  return (rc, m.store l h aList)

def empty (m : Memory α) (l : ℕ) : Except MemoryFault (Memory α) := do
  let (h, aList) ← ListEmpty m.heap (← m.list l)
  return m.store l h aList

/-- `ListFree`. -/
def free (m : Memory α) (l : ℕ) : Except MemoryFault (Memory α) := do
  let (h, _) ← ListEmpty m.heap (← m.list l)
  return ⟨h, Function.update m.lists l none⟩

/-- The content of an element is read. -/
def content (m : Memory α) (p : Option Ptr) : Except MemoryFault α := do
  return (← deref m.heap p).content

/-- The content of an element is changed in place. -/
def modify (m : Memory α) (p : Option Ptr) (f : α → α) : Except MemoryFault (Memory α) := do
  let _ ← deref m.heap p
  return { m with heap := setContent m.heap p f }

/-- `list->current`. -/
def current (m : Memory α) (l : ℕ) : Except MemoryFault (Option Ptr) := do
  return (← m.list l).current

/-- `list->current = NULL`. -/
def forget (m : Memory α) (l : ℕ) : Except MemoryFault (Memory α) := do
  return m.store l m.heap { ← m.list l with current := none }

end Memory

/-! ### Specification -/

abbrev Specs (α : Type) := ℕ → Option (ListSpec α)

/-- No list has an element at the address. -/
def Unused (s : Specs α) (p : Ptr) : Prop := ∀ l x, s l = some x → p ∉ addresses x.entries

/-- **Memory holds the lists**, which share no elements, and no other elements. -/
structure Rep (m : Memory α) (s : Specs α) : Prop where
  held : ∀ l, Option.Rel (Holds m.heap) (m.lists l) (s l)
  disjoint : ∀ {l k x y}, s l = some x → s k = some y → l ≠ k →
    ∀ p ∈ addresses x.entries, p ∉ addresses y.entries
  used : ∀ p, m.heap p ≠ none → ¬ Unused s p

variable {m : Memory α} {s : Specs α} {l : ℕ} {x x' : ListSpec α} {h' : Heap Ptr α} {l' : CList}

theorem rep_start : Rep (Memory.start : Memory α) fun _ => none :=
  ⟨fun _ => Option.Rel.none, fun h => absurd h (by simp), fun _ h => absurd rfl h⟩

theorem Rep.list (hr : Rep m s) (hl : s l = some x) :
    ∃ aList, m.list l = .ok aList ∧ Holds m.heap aList x := by
  have hheld := hr.held l
  rw [hl] at hheld
  generalize hlist : m.lists l = aList at hheld
  rcases hheld with ⟨hheld⟩
  rename_i aList
  exact ⟨aList, by rw [Memory.list, hlist], hheld⟩

/-- **One list changes.** -/
theorem Rep.store (hr : Rep m s) (hl : s l = some x) (hdoes : Does m.heap h' l' x x')
    (hnew : ∀ q ∈ addresses x'.entries, q ∈ addresses x.entries ∨ Unused s q) :
    Rep (m.store l h' l') (Function.update s l (some x')) := by
  have hother : ∀ {k y}, s k = some y → l ≠ k → ∀ q ∈ addresses y.entries,
      q ∉ addresses x.entries ∧ q ∉ addresses x'.entries := by
    intro k y hk hne q hq
    have hqx : q ∉ addresses x.entries := fun hqx => hr.disjoint hl hk hne q hqx hq
    exact ⟨hqx, fun hqx' => (hnew q hqx').elim hqx fun hunused => hunused k y hk hq⟩
  refine ⟨fun k => ?_, ?_, fun q hq hunused => ?_⟩
  · by_cases hk : k = l
    · obtain rfl := hk
      simp only [Memory.store, Function.update_self]
      exact Option.Rel.some hdoes.holds
    · simp only [Memory.store, Function.update_of_ne hk]
      have hheld := hr.held k
      generalize hy : s k = y at hheld
      generalize m.lists k = aList at hheld
      rcases hheld with ⟨hheld⟩ | _
      · refine Option.Rel.some (hheld.congr fun q hq => ?_)
        obtain ⟨hqx, hqx'⟩ := hother hy (Ne.symm hk) q hq
        rw [hdoes.outside q hqx', if_neg hqx]
      · exact Option.Rel.none
  · intro i j y z hi hj hne q hqy hqz
    by_cases hil : i = l
    · obtain rfl := hil
      rw [Function.update_self] at hi
      obtain rfl := Option.some.inj hi
      rw [Function.update_of_ne (Ne.symm hne)] at hj
      exact (hother hj hne q hqz).2 hqy
    · rw [Function.update_of_ne hil] at hi
      by_cases hjl : j = l
      · obtain rfl := hjl
        rw [Function.update_self] at hj
        obtain rfl := Option.some.inj hj
        exact (hother hi (Ne.symm hne) q hqy).2 hqz
      · rw [Function.update_of_ne hjl] at hj
        exact hr.disjoint hi hj hne q hqy hqz
  · have hqx' := hunused l x' (Function.update_self _ _ _)
    change h' q ≠ none at hq
    rw [hdoes.outside q hqx'] at hq
    by_cases hqx : q ∈ addresses x.entries
    · exact hq (if_pos hqx)
    · rw [if_neg hqx] at hq
      refine hr.used q hq fun k y hk hqy => ?_
      by_cases hkl : k = l
      · obtain rfl := hkl
        obtain rfl := Option.some.inj (hl.symm.trans hk)
        exact hqx hqy
      · exact hunused k y ((Function.update_of_ne hkl _ _).trans hk) hqy

/-- A list is given up. -/
theorem Rep.drop (hr : Rep m s) (hl : s l = some x) (hx : x.entries = []) :
    Rep ⟨m.heap, Function.update m.lists l none⟩ (Function.update s l none) := by
  have hlists : ∀ {k y}, Function.update s l none k = some y → s k = some y := by
    intro k y hk
    by_cases hkl : k = l
    · obtain rfl := hkl
      rw [Function.update_self] at hk
      cases hk
    · rwa [Function.update_of_ne hkl] at hk
  refine ⟨fun k => ?_, fun hi hj => hr.disjoint (hlists hi) (hlists hj), fun q hq hunused => ?_⟩
  · by_cases hk : k = l
    · obtain rfl := hk
      simp only [Function.update_self]
      exact Option.Rel.none
    · simp only [Function.update_of_ne hk]
      exact hr.held k
  · refine hr.used q hq fun k y hk hqy => ?_
    by_cases hkl : k = l
    · obtain rfl := hkl
      obtain rfl := Option.some.inj (hl.symm.trans hk)
      simp [hx] at hqy
    · exact hunused k y ((Function.update_of_ne hkl _ _).trans hk) hqy

/-- A list is made. -/
theorem create_spec (hr : Rep m s) (hl : s l = none) :
    Rep (m.create l) (Function.update s l (some ListSpec.empty)) := by
  have hlists : ∀ {k y}, Function.update s l (some ListSpec.empty) k = some y →
      s k = some y ∨ y = ListSpec.empty := by
    intro k y hk
    by_cases hkl : k = l
    · obtain rfl := hkl
      rw [Function.update_self] at hk
      exact Or.inr (Option.some.inj hk).symm
    · rw [Function.update_of_ne hkl] at hk
      exact Or.inl hk
  refine ⟨fun k => ?_, ?_, fun q hq hunused => hr.used q hq fun k y hk hqy => ?_⟩
  · by_cases hk : k = l
    · obtain rfl := hk
      simp only [Memory.create, Memory.store, Function.update_self]
      exact Option.Rel.some (holds_empty m.heap)
    · simp only [Memory.create, Memory.store, Function.update_of_ne hk]
      exact hr.held k
  · intro i j y z hi hj hne q hqy
    rcases hlists hi with hi | rfl
    · rcases hlists hj with hj | rfl
      · exact hr.disjoint hi hj hne q hqy
      · exact List.not_mem_nil
    · exact absurd hqy List.not_mem_nil
  · have hkl : k ≠ l := fun hkl => by
      rw [hkl, hl] at hk
      cases hk
    exact hunused k y ((Function.update_of_ne hkl _ _).trans hk) hqy

/-! ### The operations -/

section Operations
variable {index pos : Option Ptr} {p : Ptr}

theorem update_same (hl : s l = some x) : Function.update s l (some x) = s := by
  rw [← hl, Function.update_eq_self]

theorem insert_spec (hr : Rep m s) (hl : s l = some x) (hindex : ∀ q ∈ index, q ∈ addresses x.entries)
    (hp : Unused s p) (content : α) (size : ℕ) : ∃ m', m.insert l content size index (some p) = .ok m' ∧
      Rep m' (Function.update s l (some (x.insert index p content size))) := by
  obtain ⟨aList, hlist, hx⟩ := hr.list hl
  obtain ⟨h', l', hinsert, hdoes⟩ := Lists.insert_spec (a := content) hx (hp l x hl) hindex size
  refine ⟨m.store l h' l', ?_, hr.store hl hdoes fun q hq => ?_⟩
  · simp only [Memory.insert, hlist, hinsert, bind, Except.bind]
    rfl
  · rcases mem_insert.mp hq with rfl | hq
    · exact Or.inr hp
    · exact Or.inl hq

theorem append_spec (hr : Rep m s) (hl : s l = some x) (hp : Unused s p) (content : α) (size : ℕ) :
    ∃ m', m.append l content size (some p) = .ok m' ∧
      Rep m' (Function.update s l (some (x.insert none p content size))) := by
  have hnone : ∀ q ∈ (none : Option Ptr), q ∈ addresses x.entries := by simp
  obtain ⟨m', hinsert, hrep⟩ := insert_spec hr hl hnone hp content size
  exact ⟨m', by simpa only [Memory.append, Memory.insert, ListAppend, ListInsert, if_true] using hinsert,
    hrep⟩

theorem store_same (hr : Rep m s) (hl : s l = some x) {aList : CList} (hx : Holds m.heap aList x) :
    Rep (m.store l m.heap aList) s := by
  have hrep := hr.store hl hx.does fun q hq => Or.inl hq
  rwa [update_same hl] at hrep

/-- `malloc` failed. -/
theorem insert_none (hr : Rep m s) (hl : s l = some x) (content : α) (size : ℕ) (index : Option Ptr) :
    ∃ m', m.insert l content size index none = .ok m' ∧ Rep m' s := by
  obtain ⟨aList, hlist, hx⟩ := hr.list hl
  refine ⟨m.store l m.heap aList, ?_, store_same hr hl hx⟩
  simp only [Memory.insert, hlist, bind, Except.bind]
  rfl

theorem append_none (hr : Rep m s) (hl : s l = some x) (content : α) (size : ℕ) :
    ∃ m', m.append l content size none = .ok m' ∧ Rep m' s := by
  obtain ⟨m', hinsert, hrep⟩ := insert_none hr hl content size none
  exact ⟨m', by simpa only [Memory.append, Memory.insert, ListAppend, ListInsert] using hinsert, hrep⟩

theorem next_spec (hr : Rep m s) (hl : s l = some x) (hpos : ∀ q ∈ pos, q ∈ addresses x.entries) :
    m.next l pos = .ok (x.next pos) := by
  obtain ⟨aList, hlist, hx⟩ := hr.list hl
  simp only [Memory.next, hlist, bind, Except.bind]
  rcases pos with _ | q
  · have hparts : Represents m.heap aList.first aList.last ([] ++ x.entries) := hx.linked
    exact nextElement_spec hparts
  · obtain ⟨ys, a, zs, hxs⟩ := exists_split (hpos q rfl)
    have hlinked := hx.linked
    have hsplit : x.entries = (ys ++ [(q, a)]) ++ zs := by simp [hxs]
    have hnext := nextElement_spec (hsplit ▸ hlinked)
    rw [lastOf_concat] at hnext
    rw [hxs] at hlinked
    rw [hnext, ListSpec.next, hxs, after_eq (not_mem_before hlinked.nodup)]

theorem find_spec (hr : Rep m s) (hl : s l = some x) (test : α → Bool) :
    ∃ m', m.find l test = .ok ((x.find test).1, m') ∧
      Rep m' (Function.update s l (some (x.find test).2)) := by
  obtain ⟨aList, hlist, hx⟩ := hr.list hl
  refine ⟨_, ?_, hr.store hl (find_does hx test) fun q hq => Or.inl hq⟩
  simp only [Memory.find, hlist, findItem_spec hx test, bind, Except.bind]
  rfl

theorem unlink_spec (hr : Rep m s) (hl : s l = some x) (test : α → Bool) :
    ∃ m', m.unlink l test = .ok ((x.unlink test).1, m') ∧
      Rep m' (Function.update s l (some (x.unlink test).2)) := by
  obtain ⟨aList, hlist, hx⟩ := hr.list hl
  obtain ⟨h', l', hunlink, hdoes⟩ := Lists.unlink_spec hx test
  refine ⟨m.store l h' l', ?_, hr.store hl hdoes fun q hq => Or.inl (unlink_subset hq)⟩
  simp only [Memory.unlink, hlist, hunlink, bind, Except.bind]
  rfl

theorem detachHead_spec (hr : Rep m s) (hl : s l = some x) :
    ∃ m', m.detachHead l = .ok (x.detachHead.1, m') ∧
      Rep m' (Function.update s l (some x.detachHead.2)) := by
  obtain ⟨aList, hlist, hx⟩ := hr.list hl
  obtain ⟨h', l', hdetach, hdoes⟩ := Lists.detachHead_spec hx
  refine ⟨m.store l h' l', ?_, hr.store hl hdoes fun q hq => Or.inl (detachHead_subset hq)⟩
  simp only [Memory.detachHead, hlist, hdetach, bind, Except.bind]
  rfl

theorem popTail_spec (hr : Rep m s) (hl : s l = some x) :
    ∃ m', m.popTail l = .ok (x.popTail.1, m') ∧
      Rep m' (Function.update s l (some x.popTail.2)) := by
  obtain ⟨aList, hlist, hx⟩ := hr.list hl
  obtain ⟨h', l', hpop, hdoes⟩ := Lists.popTail_spec hx
  refine ⟨m.store l h' l', ?_, hr.store hl hdoes fun q hq => Or.inl (popTail_subset hq)⟩
  simp only [Memory.popTail, hlist, hpop, bind, Except.bind]
  rfl

theorem empty_spec (hr : Rep m s) (hl : s l = some x) : ∃ m', m.empty l = .ok m' ∧
    Rep m' (Function.update s l (some ListSpec.empty)) := by
  obtain ⟨aList, hlist, hx⟩ := hr.list hl
  obtain ⟨h', hempty, hdoes⟩ := Lists.empty_spec hx
  refine ⟨m.store l h' ListZero, ?_, hr.store hl hdoes fun q hq => absurd hq List.not_mem_nil⟩
  simp only [Memory.empty, hlist, hempty, bind, Except.bind]
  rfl

theorem free_spec (hr : Rep m s) (hl : s l = some x) : ∃ m', m.free l = .ok m' ∧
    Rep m' (Function.update s l none) := by
  obtain ⟨aList, hlist, hx⟩ := hr.list hl
  obtain ⟨h', hempty, hdoes⟩ := Lists.empty_spec hx
  have hrep := hr.store hl hdoes fun q hq => absurd hq List.not_mem_nil
  have hdrop := hrep.drop (Function.update_self _ _ _) rfl
  simp only [Memory.store, Function.update_idem] at hdrop
  refine ⟨_, ?_, hdrop⟩
  simp only [Memory.free, hlist, hempty, bind, Except.bind]
  rfl

theorem deref_spec (hr : Rep m s) (hl : s l = some x) (hp : p ∈ addresses x.entries) :
    ∃ e, deref m.heap (some p) = .ok e ∧ x.contentAt p = some e.content := by
  obtain ⟨aList, -, hx⟩ := hr.list hl
  obtain ⟨ys, a, zs, hxs⟩ := exists_split hp
  have hlinked := hx.linked
  have hcontent := contentAt_of_split hxs hlinked.nodup
  rw [hxs] at hlinked
  exact ⟨_, deref_ok hlinked.cell, hcontent⟩

theorem content_spec (hr : Rep m s) (hl : s l = some x) (hp : p ∈ addresses x.entries) :
    ∃ a, m.content (some p) = .ok a ∧ x.contentAt p = some a := by
  obtain ⟨e, hderef, hcontent⟩ := deref_spec hr hl hp
  refine ⟨e.content, ?_, hcontent⟩
  simp only [Memory.content, hderef, bind, Except.bind]
  rfl

theorem modify_spec (hr : Rep m s) (hl : s l = some x) (hp : p ∈ addresses x.entries) (f : α → α) :
    ∃ m', m.modify (some p) f = .ok m' ∧ Rep m' (Function.update s l (some (x.modify p f))) := by
  obtain ⟨aList, hlist, hx⟩ := hr.list hl
  obtain ⟨e, hderef, -⟩ := deref_spec hr hl hp
  have hrep := hr.store hl (modify_does hx hp f) fun q hq => Or.inl (by simpa using hq)
  have hsame : Function.update m.lists l (some aList) = m.lists := by
    rw [Memory.list] at hlist
    rcases hlists : m.lists l with _ | aList'
    · simp [hlists] at hlist
    · simp only [hlists, Except.ok.injEq] at hlist
      rw [← hlist, ← hlists, Function.update_eq_self]
  rw [Memory.store, hsame] at hrep
  refine ⟨_, ?_, hrep⟩
  simp only [Memory.modify, hderef, bind, Except.bind]
  rfl

theorem current_spec (hr : Rep m s) (hl : s l = some x) : m.current l = .ok x.current := by
  obtain ⟨aList, hlist, hx⟩ := hr.list hl
  simp only [Memory.current, hlist, bind, Except.bind, hx.current]
  rfl

theorem forget_spec (hr : Rep m s) (hl : s l = some x) : ∃ m', m.forget l = .ok m' ∧
    Rep m' (Function.update s l (some { x with current := none })) := by
  obtain ⟨aList, hlist, hx⟩ := hr.list hl
  have hforgot : Does m.heap m.heap { aList with current := none } x { x with current := none } :=
    ⟨⟨hx.linked, hx.count, rfl, by simp, hx.size⟩, hx.does.outside⟩
  refine ⟨_, ?_, hr.store hl hforgot fun q hq => Or.inl hq⟩
  simp only [Memory.forget, hlist, bind, Except.bind]
  rfl

end Operations

/-! ### Runs -/

/-- A call on the list at `l`; `newel` is what `malloc` gives. -/
inductive Call (α : Type)
  | create (l : ℕ)
  | append (l : ℕ) (content : α) (size : ℕ) (newel : Option Ptr)
  | insert (l : ℕ) (content : α) (size : ℕ) (index newel : Option Ptr)
  | next (l : ℕ) (pos : Option Ptr)
  | find (l : ℕ) (test : α → Bool)
  | unlink (l : ℕ) (test : α → Bool)
  | detachHead (l : ℕ)
  | popTail (l : ℕ)
  | empty (l : ℕ)
  | free (l : ℕ)
  | content (l : ℕ) (p : Ptr)
  | modify (l : ℕ) (p : Ptr) (f : α → α)
  | forget (l : ℕ)

inductive Result (α : Type)
  | done
  | element (p : Option Ptr)
  | content (a : Option α)
deriving DecidableEq

def exec (m : Memory α) : Call α → Except MemoryFault (Result α × Memory α)
  | .create l => return (.done, m.create l)
  | .append l content size newel => do
    return (.element newel, ← m.append l content size newel)
  | .insert l content size index newel => do
    return (.element newel, ← m.insert l content size index newel)
  | .next l pos => do return (.element (← m.next l pos), m)
  | .find l test => do
    let (rc, m) ← m.find l test
    return (.element rc, m)
  | .unlink l test => do
    let (rc, m) ← m.unlink l test
    return (.content rc, m)
  | .detachHead l => do
    let (rc, m) ← m.detachHead l
    return (.content rc, m)
  | .popTail l => do
    let (rc, m) ← m.popTail l
    return (.content rc, m)
  | .empty l => do return (.done, ← m.empty l)
  | .free l => do return (.done, ← m.free l)
  | .content _ p => do return (.content (some (← m.content (some p))), m)
  | .modify _ p f => do return (.done, ← m.modify (some p) f)
  | .forget l => do return (.done, ← m.forget l)

def execAll (m : Memory α) : List (Call α) → Except MemoryFault (List (Result α) × Memory α)
  | [] => return ([], m)
  | c :: cs => do
    let (r, m) ← exec m c
    let (rs, m) ← execAll m cs
    return (r :: rs, m)

def Call.list : Call α → ℕ
  | .create l | .append l _ _ _ | .insert l _ _ _ _ | .next l _ | .find l _ | .unlink l _
  | .detachHead l | .popTail l | .empty l | .free l | .content l _ | .modify l _ _ | .forget l => l

/-- What a call does to its list. -/
def callList (x : ListSpec α) : Call α → Result α × Option (ListSpec α)
  | .create _ => (.done, some ListSpec.empty)
  | .append _ _ _ none => (.element none, some x)
  | .append _ content size (some p) => (.element (some p), some (x.insert none p content size))
  | .insert _ _ _ _ none => (.element none, some x)
  | .insert _ content size index (some p) =>
    (.element (some p), some (x.insert index p content size))
  | .next _ pos => (.element (x.next pos), some x)
  | .find _ test => (.element (x.find test).1, some (x.find test).2)
  | .unlink _ test => (.content (x.unlink test).1, some (x.unlink test).2)
  | .detachHead _ => (.content x.detachHead.1, some x.detachHead.2)
  | .popTail _ => (.content x.popTail.1, some x.popTail.2)
  | .empty _ => (.done, some ListSpec.empty)
  | .free _ => (.done, none)
  | .content _ p => (.content (x.contentAt p), some x)
  | .modify _ p f => (.done, some (x.modify p f))
  | .forget _ => (.done, some { x with current := none })

def specCall (s : Specs α) (c : Call α) : Result α × Specs α :=
  let r := callList ((s c.list).getD ListSpec.empty) c
  (r.1, Function.update s c.list r.2)

def specAll (s : Specs α) : List (Call α) → List (Result α) × Specs α
  | [] => ([], s)
  | c :: cs => ((specCall s c).1 :: (specAll (specCall s c).2 cs).1, (specAll (specCall s c).2 cs).2)

/-- The elements a call is given are in its list. -/
def Within (x : ListSpec α) : Call α → Prop
  | .insert _ _ _ index _ => ∀ q ∈ index, q ∈ addresses x.entries
  | .next _ pos => ∀ q ∈ pos, q ∈ addresses x.entries
  | .content _ p | .modify _ p _ => p ∈ addresses x.entries
  | _ => True

/-- What `malloc` gives is not in use. -/
def Fresh (s : Specs α) : Call α → Prop
  | .append _ _ _ newel | .insert _ _ _ _ newel => ∀ p ∈ newel, Unused s p
  | _ => True

/-- **How the lists are used**: a list is made before it is used and given up at most once, and elements
are used as long as they are in it. -/
def Legal (s : Specs α) (c : Call α) : Prop :=
  Fresh s c ∧ match c with
    | .create l => s l = none
    | c => ∃ x, s c.list = some x ∧ Within x c

def LegalAll (s : Specs α) : List (Call α) → Prop
  | [] => True
  | c :: cs => Legal s c ∧ LegalAll (specCall s c).2 cs

theorem specCall_eq {c : Call α} (hl : s c.list = some x) :
    specCall s c = ((callList x c).1, Function.update s c.list (callList x c).2) := by
  rw [specCall, hl]
  rfl

/-- A call that leaves its list as it is. -/
theorem specCall_same {c : Call α} (hl : s c.list = some x) (hsame : (callList x c).2 = some x) :
    specCall s c = ((callList x c).1, s) := by
  rw [specCall_eq hl, hsame, update_same hl]

/-- **One call**, for each kind of call by what its operation does. -/
theorem exec_spec (hr : Rep m s) {c : Call α} (hlegal : Legal s c) :
    ∃ m', exec m c = .ok ((specCall s c).1, m') ∧ Rep m' (specCall s c).2 := by
  obtain ⟨hfresh, hlegal⟩ := hlegal
  cases c with
  | create l => exact ⟨_, rfl, create_spec hr hlegal⟩
  | append l content size newel =>
    obtain ⟨x, hl, -⟩ := hlegal
    rcases newel with _ | p
    · obtain ⟨m', happend, hrep⟩ := append_none (l := l) hr hl content size
      rw [specCall_same hl rfl]
      exact ⟨m', by simp only [exec, happend, bind, Except.bind]; rfl, hrep⟩
    · obtain ⟨m', happend, hrep⟩ := append_spec (l := l) hr hl (hfresh p rfl) content size
      rw [specCall_eq hl]
      exact ⟨m', by simp only [exec, happend, bind, Except.bind]; rfl, hrep⟩
  | insert l content size index newel =>
    obtain ⟨x, hl, hindex⟩ := hlegal
    rcases newel with _ | p
    · obtain ⟨m', hinsert, hrep⟩ := insert_none (l := l) hr hl content size index
      rw [specCall_same hl rfl]
      exact ⟨m', by simp only [exec, hinsert, bind, Except.bind]; rfl, hrep⟩
    · obtain ⟨m', hinsert, hrep⟩ := insert_spec (l := l) hr hl hindex (hfresh p rfl) content size
      rw [specCall_eq hl]
      exact ⟨m', by simp only [exec, hinsert, bind, Except.bind]; rfl, hrep⟩
  | next l pos =>
    obtain ⟨x, hl, hpos⟩ := hlegal
    rw [specCall_same hl rfl]
    exact ⟨m, by simp only [exec, next_spec (l := l) hr hl hpos, bind, Except.bind]; rfl, hr⟩
  | find l test =>
    obtain ⟨x, hl, -⟩ := hlegal
    obtain ⟨m', hfind, hrep⟩ := find_spec (l := l) hr hl test
    rw [specCall_eq hl]
    exact ⟨m', by simp only [exec, hfind, bind, Except.bind]; rfl, hrep⟩
  | unlink l test =>
    obtain ⟨x, hl, -⟩ := hlegal
    obtain ⟨m', hunlink, hrep⟩ := unlink_spec (l := l) hr hl test
    rw [specCall_eq hl]
    exact ⟨m', by simp only [exec, hunlink, bind, Except.bind]; rfl, hrep⟩
  | detachHead l =>
    obtain ⟨x, hl, -⟩ := hlegal
    obtain ⟨m', hdetach, hrep⟩ := detachHead_spec (l := l) hr hl
    rw [specCall_eq hl]
    exact ⟨m', by simp only [exec, hdetach, bind, Except.bind]; rfl, hrep⟩
  | popTail l =>
    obtain ⟨x, hl, -⟩ := hlegal
    obtain ⟨m', hpop, hrep⟩ := popTail_spec (l := l) hr hl
    rw [specCall_eq hl]
    exact ⟨m', by simp only [exec, hpop, bind, Except.bind]; rfl, hrep⟩
  | empty l =>
    obtain ⟨x, hl, -⟩ := hlegal
    obtain ⟨m', hempty, hrep⟩ := empty_spec (l := l) hr hl
    rw [specCall_eq hl]
    exact ⟨m', by simp only [exec, hempty, bind, Except.bind]; rfl, hrep⟩
  | free l =>
    obtain ⟨x, hl, -⟩ := hlegal
    obtain ⟨m', hfree, hrep⟩ := free_spec (l := l) hr hl
    rw [specCall_eq hl]
    exact ⟨m', by simp only [exec, hfree, bind, Except.bind]; rfl, hrep⟩
  | content l p =>
    obtain ⟨x, hl, hp⟩ := hlegal
    obtain ⟨a, hcontent, hat⟩ := content_spec (l := l) hr hl hp
    rw [specCall_same hl rfl, callList, hat]
    exact ⟨m, by simp only [exec, hcontent, bind, Except.bind]; rfl, hr⟩
  | modify l p f =>
    obtain ⟨x, hl, hp⟩ := hlegal
    obtain ⟨m', hmodify, hrep⟩ := modify_spec (l := l) hr hl hp f
    rw [specCall_eq hl]
    exact ⟨m', by simp only [exec, hmodify, bind, Except.bind]; rfl, hrep⟩
  | forget l =>
    obtain ⟨x, hl, -⟩ := hlegal
    obtain ⟨m', hforget, hrep⟩ := forget_spec (l := l) hr hl
    rw [specCall_eq hl]
    exact ⟨m', by simp only [exec, hforget, bind, Except.bind]; rfl, hrep⟩

/-- A run from any memory, by induction on the calls. -/
theorem execAll_spec : ∀ {m : Memory α} {s : Specs α} (cs : List (Call α)), Rep m s → LegalAll s cs →
    ∃ m', execAll m cs = .ok ((specAll s cs).1, m') ∧ Rep m' (specAll s cs).2
  | m, _, [], hr, _ => ⟨m, rfl, hr⟩
  | m, s, c :: cs, hr, hlegal => by
    obtain ⟨m₁, hexec, hr₁⟩ := exec_spec hr hlegal.1
    obtain ⟨m₂, hrest, hr₂⟩ := execAll_spec cs hr₁ hlegal.2
    refine ⟨m₂, ?_, hr₂⟩
    simp only [execAll, hexec, hrest, bind, Except.bind]
    rfl

/-- **Every run of calls does what the specification says**: no invalid pointer is used, every loop
ends, and memory holds the lists and nothing else. -/
theorem calls_refine (cs : List (Call α)) (hlegal : LegalAll (fun _ => none) cs) :
    ∃ m', execAll Memory.start cs = .ok ((specAll (fun _ => none) cs).1, m') ∧
      Rep m' (specAll (fun _ => none) cs).2 :=
  execAll_spec cs rep_start hlegal

/-- Two lists; an element is put before another one and removed while it is the current one. -/
def sampleCalls : List (Call ℕ) :=
  [.create 0, .append 0 7 4 (some 1), .create 1, .append 1 9 4 (some 2), .insert 0 8 4 (some 1) (some 3),
    .find 0 (· = 8), .unlink 0 (· = 8), .next 0 none, .free 1]

theorem legal_sampleCalls : LegalAll (fun _ => none) sampleCalls := by
  simp only [sampleCalls, LegalAll, Legal, Fresh, Within, Unused, specCall, callList, Call.list,
    ListSpec.insert, ListSpec.empty, Function.update_apply]
  refine ⟨by simp, by simp, by simp, ⟨?_, by simp⟩, ⟨?_, by simp [ListSpec.insertBefore]⟩, by simp,
    by simp, by simp, by simp, trivial⟩
  all_goals
    rintro p hp l x hl
    obtain rfl := Option.some.inj hp
    split_ifs at hl <;> cases hl <;> decide

theorem calls_refine_sampleCalls : LegalAll (fun _ => none) sampleCalls ∧
    ∃ m', execAll Memory.start sampleCalls = .ok ([.done, .element (some 1), .done, .element (some 2),
        .element (some 3), .element (some 3), .content (some 8), .element (some 1), .done], m') ∧
      Rep m' (specAll (fun _ => none) sampleCalls).2 :=
  ⟨legal_sampleCalls, calls_refine sampleCalls legal_sampleCalls⟩

end LanternProject.Mqtt.ListCalls
