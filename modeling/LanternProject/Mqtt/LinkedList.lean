import LanternProject.Lib.DoublyLinked
import LanternProject.Lib.Runs
import Mathlib.Tactic.Common

/-! # The lists of the MQTT client

`LinkedList.c`: doubly linked lists whose elements are allocated one by one. A list also keeps a
`current` element, where the next search starts, the number of its elements and the sum of the sizes
given for them. `malloc` is played by the address it gives, or none.

The contents are values here: whether an operation also frees the content is left to its callers. -/

namespace LanternProject.Mqtt.LinkedList

open LanternProject.Lib.DoublyLinked

abbrev Ptr := ℕ

abbrev ListElement (α : Type) := Node Ptr α

/-- `List`. -/
structure CList where
  first : Option Ptr
  last : Option Ptr
  current : Option Ptr
  count : ℕ
  size : ℕ
deriving DecidableEq, Repr

/-- What goes wrong: a pointer that is `NULL` or to freed memory is used, a loop does not end. -/
inductive MemoryFault where
  | invalidPointer
  | endless
deriving DecidableEq, Repr

variable {α : Type}

/-! ### Memory -/

def deref (h : Heap Ptr α) : Option Ptr → Except MemoryFault (ListElement α)
  | none => .error .invalidPointer
  | some p =>
    match h p with
    | none => .error .invalidPointer
    | some e => .ok e

def writeNext (h : Heap Ptr α) (p v : Option Ptr) : Except MemoryFault (Heap Ptr α) := do
  let _ ← deref h p
  return setNext h p v

def writePrev (h : Heap Ptr α) (p v : Option Ptr) : Except MemoryFault (Heap Ptr α) := do
  let _ ← deref h p
  return setPrev h p v

def free (h : Heap Ptr α) : Option Ptr → Except MemoryFault (Heap Ptr α)
  | none => return h
  | some p => do
    let _ ← deref h (some p)
    return Function.update h p none

/-! ### The operations -/

def ListZero : CList := ⟨none, none, none, 0, 0⟩

def ListAppendNoMalloc (h : Heap Ptr α) (aList : CList) (content : α) (newel : Ptr) (size : ℕ) :
    Except MemoryFault (Heap Ptr α × CList) := do
  let h := Function.update h newel (some ⟨aList.last, none, content⟩)
  let (h, first) ←
    if aList.first = none then pure (h, some newel)
    else do pure (← writeNext h aList.last (some newel), aList.first)
  return (h, { aList with
    first := first, last := some newel, count := aList.count + 1, size := aList.size + size })

def ListAppend (h : Heap Ptr α) (aList : CList) (content : α) (size : ℕ) (newel : Option Ptr) :
    Except MemoryFault (Heap Ptr α × CList) :=
  match newel with
  | none => .ok (h, aList)
  | some newel => ListAppendNoMalloc h aList content newel size

def ListInsert (h : Heap Ptr α) (aList : CList) (content : α) (size : ℕ) (index : Option Ptr)
    (newel : Option Ptr) : Except MemoryFault (Heap Ptr α × CList) :=
  match newel with
  | none => .ok (h, aList)
  | some newel =>
    if index = none then ListAppendNoMalloc h aList content newel size
    else do
      let prev := (← deref h index).prev
      let h := Function.update h newel (some ⟨prev, index, content⟩)
      let h ← writePrev h index (some newel)
      let (h, first) ←
        if prev = none then pure (h, some newel)
        else do pure (← writeNext h prev (some newel), aList.first)
      return (h, { aList with
        first := first, count := aList.count + 1, size := aList.size + size })

def ListNextElement (h : Heap Ptr α) (aList : CList) (pos : Option Ptr) :
    Except MemoryFault (Option Ptr) :=
  if pos = none then return aList.first
  else return (← deref h pos).next

/-- The loop of `ListFindItem`; `test` compares a content with the one that is looked for. -/
def findLoop (h : Heap Ptr α) (aList : CList) (test : α → Bool) :
    ℕ → Option Ptr → Except MemoryFault (Option Ptr)
  | 0, _ => .error .endless
  | turns + 1, current => do
    let current ← ListNextElement h aList current
    if current = none then return none
    else if test (← deref h current).content then return current
    else findLoop h aList test turns current

/-- The search from the first element. -/
def findFromStart (h : Heap Ptr α) (aList : CList) (test : α → Bool) :
    Except MemoryFault (Option Ptr × CList) := do
  let rc ← findLoop h aList test (aList.count + 1) none
  return (rc, if rc = none then aList else { aList with current := rc })

def ListFindItem (h : Heap Ptr α) (aList : CList) (test : α → Bool) :
    Except MemoryFault (Option Ptr × CList) :=
  if aList.current = none then findFromStart h aList test
  else do
    if test (← deref h aList.current).content then return (aList.current, aList)
    else findFromStart h aList test

/-- The first half of `ListUnlink`: the link to the element after `current` in the one before it, or
in the list. -/
def unlinkForward (h : Heap Ptr α) (aList : CList) :
    Except MemoryFault (Heap Ptr α × Option Ptr) := do
  let e ← deref h aList.current
  if e.prev = none then return (h, e.next)
  else return (← writeNext h e.prev e.next, aList.first)

/-- The other half: the link to the element before `current`. -/
def unlinkBackward (h : Heap Ptr α) (aList : CList) :
    Except MemoryFault (Heap Ptr α × Option Ptr) := do
  let e ← deref h aList.current
  if e.next = none then return (h, e.prev)
  else return (← writePrev h e.next e.prev, aList.last)

/-- The content of the element that was removed, if there was one. -/
def ListUnlink (h : Heap Ptr α) (aList : CList) (test : α → Bool) :
    Except MemoryFault (Option α × Heap Ptr α × CList) := do
  let saved := aList.current
  let (rc, aList) ← ListFindItem h aList test
  if rc = none then return (none, h, aList)
  else
    let (h, first) ← unlinkForward h aList
    let (h, last) ← unlinkBackward h aList
    let e ← deref h aList.current
    let h ← free h aList.current
    return (some e.content, h, { aList with
      first := first
      last := last
      current := if saved = aList.current then e.next else saved
      count := aList.count - 1 })

def ListDetachHead (h : Heap Ptr α) (aList : CList) :
    Except MemoryFault (Option α × Heap Ptr α × CList) :=
  if 0 < aList.count then do
    let first ← deref h aList.first
    let h ← if first.next = none then pure h else writePrev h first.next none
    let h ← free h aList.first
    return (some first.content, h, { aList with
      first := first.next
      last := if aList.last = aList.first then none else aList.last
      current := if aList.current = aList.first then first.next else aList.current
      count := aList.count - 1 })
  else return (none, h, aList)

def ListPopTail (h : Heap Ptr α) (aList : CList) :
    Except MemoryFault (Option α × Heap Ptr α × CList) :=
  if 0 < aList.count then do
    let last ← deref h aList.last
    let h ← if last.prev = none then pure h else writeNext h last.prev none
    let h ← free h aList.last
    return (some last.content, h, { aList with
      first := if aList.first = aList.last then none else aList.first
      last := last.prev
      current := if aList.current = aList.last then last.prev else aList.current
      count := aList.count - 1 })
  else return (none, h, aList)

/-- The loop of `ListEmpty`. -/
def emptyLoop (h : Heap Ptr α) : ℕ → Option Ptr → Except MemoryFault (Heap Ptr α)
  | 0, _ => .error .endless
  | turns + 1, first =>
    if first = none then return h
    else do
      let next := (← deref h first).next
      let h ← free h first
      emptyLoop h turns next

def ListEmpty (h : Heap Ptr α) (aList : CList) :
    Except MemoryFault (Heap Ptr α × CList) := do
  let h ← emptyLoop h (aList.count + 1) aList.first
  return (h, ListZero)

end LanternProject.Mqtt.LinkedList
