/-!
# Bounded stacks

A stack holds at most `capacity` entries, counted from the bottom.  The bound is part of the type, so
every operation keeps it: a push onto a full stack is refused and changes nothing.

`hasRoom pops count` predicts, without touching the stack, whether `count` pushes would succeed
after `pops` pops; that is what lets an instruction be checked before any of its effects.
-/

namespace TwoStack

/-- A stack of bounded depth; the last entry is the top. -/
structure Stack (α : Type) where
  capacity : Nat
  entries : Array α
  size_le : entries.size ≤ capacity
  deriving Repr

namespace Stack

variable {α : Type}

/-- The empty stack of a given capacity. -/
def empty (capacity : Nat) : Stack α := ⟨capacity, #[], Nat.zero_le _⟩

/-- The number of entries. -/
def depth (stack : Stack α) : Nat := stack.entries.size

def isEmpty (stack : Stack α) : Bool := stack.entries.isEmpty

/-- The entries, bottom first. -/
def toList (stack : Stack α) : List α := stack.entries.toList

/-- Puts an entry on top, unless the stack is full. -/
def push? (stack : Stack α) (entry : α) : Option (Stack α) :=
  if h : stack.entries.size < stack.capacity then
    some ⟨stack.capacity, stack.entries.push entry, Array.size_push entry ▸ h⟩
  else
    none

/-- Puts an entry on top; a full stack stays as it is. -/
def push (stack : Stack α) (entry : α) : Stack α := (stack.push? entry).getD stack

/-- Removes the top entry; an empty stack stays as it is. -/
def pop (stack : Stack α) : Stack α :=
  ⟨stack.capacity, stack.entries.pop, by
    have := stack.size_le
    simp only [Array.size_pop]
    omega⟩

/-- Removes `count` entries, or all of them if there are fewer. -/
def drop (stack : Stack α) : Nat → Stack α
  | 0 => stack
  | count + 1 => stack.pop.drop count

/-- The entry that lies `below` places below the top. -/
def peek? (stack : Stack α) (below : Nat) : Option α :=
  if below < stack.entries.size then stack.entries[stack.entries.size - 1 - below]? else none

/-- The top entry. -/
def top? (stack : Stack α) : Option α := stack.entries.back?

/-- Whether `count` more entries fit after `pops` pops. -/
def hasRoom (stack : Stack α) (pops count : Nat) : Bool :=
  decide (stack.entries.size - pops + count ≤ stack.capacity)

theorem toList_push?_of_depth_lt {stack : Stack α} (h : stack.depth < stack.capacity) (entry : α) :
    (stack.push? entry).map toList = some (stack.toList ++ [entry]) := by
  unfold depth at h
  simp [push?, h, toList]

theorem push?_eq_none_iff (stack : Stack α) (entry : α) :
    stack.push? entry = none ↔ stack.depth = stack.capacity := by
  have := stack.size_le
  unfold push? depth
  split <;> simp <;> omega

/-- The entry `below` places below the top is the entry at that index from the end. -/
theorem peek?_eq (stack : Stack α) (below : Nat) :
    stack.peek? below = stack.toList.reverse[below]? := by
  unfold peek? toList
  split
  · next h =>
    rw [List.getElem?_reverse (by simpa using h)]
    simp
  · next h =>
    rw [List.getElem?_eq_none (by simpa using h)]

theorem top?_eq (stack : Stack α) : stack.top? = stack.peek? 0 := by
  rw [peek?_eq, top?, toList, Array.back?]
  by_cases h : stack.entries.size = 0
  · simp [h]
  · rw [List.getElem?_reverse (by simpa using Nat.pos_of_ne_zero h)]
    simp

@[simp]
theorem toList_pop (stack : Stack α) : stack.pop.toList = stack.toList.dropLast := by
  simp [pop, toList]

end Stack

end TwoStack
