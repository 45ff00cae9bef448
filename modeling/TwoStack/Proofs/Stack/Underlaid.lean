import TwoStack.Proofs.Stack.TopFirst

/-!
# Stacks with entries beneath them

`Stack.Underlaid base stack taller` says that `taller` is `stack` with the entries of `base` beneath
it, and with at least as much room above it.  Whatever looks at a stack from the top, and does not
look deeper than the stack is, finds the same on both; and as long as a push has room and a pop has
an entry, the two stay above each other.

With nothing beneath it the taller stack differs only in its capacity, and the bounds on the depth
are not needed.
-/

namespace TwoStack

variable {α : Type} {base : List α} {stack taller : Stack α}

/-- The taller stack is the other one with the entries of `base`, listed bottom first, beneath it.
It has at least as much room. -/
structure Stack.Underlaid (base : List α) (stack taller : Stack α) : Prop where
  entries : taller.toList = base ++ stack.toList
  capacity : stack.capacity + base.length ≤ taller.capacity

/-! ## Looking at both -/

theorem Stack.Underlaid.topFirst_eq (beneath : Stack.Underlaid base stack taller) :
    taller.topFirst = stack.topFirst ++ base.reverse := by
  rw [Stack.topFirst, beneath.entries, List.reverse_append, Stack.topFirst]

theorem Stack.Underlaid.depth_eq (beneath : Stack.Underlaid base stack taller) :
    taller.depth = stack.depth + base.length := by
  rw [← Stack.length_topFirst, beneath.topFirst_eq, List.length_append, List.length_reverse,
    Stack.length_topFirst]

/-- What lies within the depth of the stack lies at the same place below both tops. -/
theorem Stack.Underlaid.peek?_eq (beneath : Stack.Underlaid base stack taller) {below : Nat}
    (within : below < stack.depth) : taller.peek? below = stack.peek? below := by
  rw [Stack.peek?_eq_topFirst, Stack.peek?_eq_topFirst, beneath.topFirst_eq,
    List.getElem?_append_left (by rwa [Stack.length_topFirst])]

theorem Stack.Underlaid.peek?_eq_of_nil (beneath : Stack.Underlaid [] stack taller) (below : Nat) :
    taller.peek? below = stack.peek? below := by
  rw [Stack.peek?_eq_topFirst, Stack.peek?_eq_topFirst, beneath.topFirst_eq, List.reverse_nil,
    List.append_nil]

/-- An entry that is not found is one below the stack, and beneath it the taller stack may go
on. -/
theorem Stack.Underlaid.peek?_eq_or (beneath : Stack.Underlaid base stack taller) (below : Nat) :
    taller.peek? below = stack.peek? below ∨ stack.peek? below = none ∧ base ≠ [] := by
  rcases Nat.lt_or_ge below stack.depth with within | deeper
  · exact .inl (beneath.peek?_eq within)
  · rcases Decidable.em (base = []) with rfl | under
    · exact .inl (beneath.peek?_eq_of_nil below)
    · refine .inr ⟨?_, under⟩
      rw [Stack.peek?_eq_topFirst, List.getElem?_eq_none_iff, Stack.length_topFirst]
      exact deeper

theorem Stack.Underlaid.hasRoom (beneath : Stack.Underlaid base stack taller)
    (room : stack.depth < stack.capacity) : taller.depth < taller.capacity := by
  have capacity := beneath.capacity
  rw [beneath.depth_eq]
  omega

/-! ## Changing both -/

theorem Stack.toList_push (stack : Stack α) (room : stack.depth < stack.capacity) (entry : α) :
    (stack.push entry).toList = stack.toList ++ [entry] := by
  have pushed := Stack.topFirst_push (stack.length_topFirst ▸ room) entry
  rw [Stack.topFirst, Stack.topFirst, List.reverse_eq_iff] at pushed
  rw [pushed, List.reverse_cons, List.reverse_reverse]

theorem Stack.Underlaid.push (beneath : Stack.Underlaid base stack taller)
    (room : stack.depth < stack.capacity) (entry : α) :
    Stack.Underlaid base (stack.push entry) (taller.push entry) where
  entries := by
    rw [taller.toList_push (beneath.hasRoom room), stack.toList_push room, beneath.entries,
      List.append_assoc]
  capacity := by
    rw [Stack.capacity_push, Stack.capacity_push]
    exact beneath.capacity

theorem Stack.Underlaid.pop (beneath : Stack.Underlaid base stack taller)
    (nonempty : 0 < stack.depth) : Stack.Underlaid base stack.pop taller.pop where
  entries := by
    have held : stack.toList ≠ [] := List.ne_nil_of_length_pos nonempty
    rw [Stack.toList_pop, Stack.toList_pop, beneath.entries,
      List.dropLast_append_of_ne_nil held]
  capacity := beneath.capacity

theorem Stack.depth_pop (stack : Stack α) : stack.pop.depth = stack.depth - 1 := by
  rw [← Stack.length_topFirst, Stack.topFirst_pop, List.length_tail, Stack.length_topFirst]

theorem Stack.Underlaid.drop (beneath : Stack.Underlaid base stack taller) {count : Nat}
    (enough : count ≤ stack.depth) :
    Stack.Underlaid base (stack.drop count) (taller.drop count) := by
  induction count generalizing stack taller with
  | zero => exact beneath
  | succ count ih =>
      refine ih (beneath.pop (Nat.lt_of_lt_of_le (Nat.succ_pos count) enough)) ?_
      rw [Stack.depth_pop]
      omega

end TwoStack
