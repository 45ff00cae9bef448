import TwoStack.Stack

/-!
# Stacks listed from the top

`Stack.topFirst` lists the entries of a stack with the top first, so that a push is a `cons`, a pop
is a `tail`, and the entry `below` places below the top is the one at index `below`.  Every
operation of a stack has one lemma here that says what it does to this list and to the capacity.
-/

namespace TwoStack

variable {α : Type}

/-- The entries of a stack, top first. -/
def Stack.topFirst (stack : Stack α) : List α := stack.toList.reverse

theorem Stack.length_topFirst (stack : Stack α) : stack.topFirst.length = stack.depth := by
  simp [Stack.topFirst, Stack.toList, Stack.depth]

theorem Stack.length_topFirst_le (stack : Stack α) : stack.topFirst.length ≤ stack.capacity := by
  rw [Stack.length_topFirst]
  exact stack.size_le

theorem Stack.peek?_eq_topFirst (stack : Stack α) (below : Nat) :
    stack.peek? below = stack.topFirst[below]? :=
  stack.peek?_eq below

theorem Stack.top?_eq_topFirst (stack : Stack α) : stack.top? = stack.topFirst.head? := by
  rw [Stack.top?_eq, Stack.peek?_eq_topFirst, List.head?_eq_getElem?]

theorem Stack.isEmpty_eq_topFirst (stack : Stack α) : stack.isEmpty = stack.topFirst.isEmpty := by
  simp [Stack.isEmpty, Stack.topFirst, Stack.toList]

theorem Stack.isEmpty_eq_top? (stack : Stack α) : stack.isEmpty = stack.top?.isNone := by
  rw [Stack.isEmpty_eq_topFirst, Stack.top?_eq_topFirst]
  cases stack.topFirst <;> rfl

/-- There is room for one more entry exactly when the stack is not full. -/
theorem Stack.hasRoom_one (stack : Stack α) :
    stack.hasRoom 0 1 = decide (stack.topFirst.length < stack.capacity) := by
  rw [Stack.length_topFirst]
  rfl

/-- A push onto a stack that is not full puts the entry in front. -/
theorem Stack.topFirst_push {stack : Stack α} (room : stack.topFirst.length < stack.capacity)
    (entry : α) : (stack.push entry).topFirst = entry :: stack.topFirst := by
  have pushed := Stack.toList_push?_of_depth_lt (stack.length_topFirst ▸ room) entry
  obtain ⟨grown, accepted, listed⟩ := Option.map_eq_some_iff.1 pushed
  simp [Stack.topFirst, Stack.push, accepted, listed]

/-- A pop takes back a push onto a stack that is not full. -/
theorem Stack.pop_push {stack : Stack α} (room : stack.depth < stack.capacity) (entry : α) :
    (stack.push entry).pop = stack := by
  rcases stack with ⟨capacity, entries, bound⟩
  have free : entries.size < capacity := room
  simp [Stack.push, Stack.push?, Stack.pop, free]

theorem Stack.topFirst_pop (stack : Stack α) : stack.pop.topFirst = stack.topFirst.tail := by
  simp [Stack.topFirst]

theorem Stack.topFirst_drop (stack : Stack α) (count : Nat) :
    (stack.drop count).topFirst = stack.topFirst.drop count := by
  induction count generalizing stack with
  | zero => rfl
  | succ count ih =>
      rw [Stack.drop, ih, Stack.topFirst_pop, List.drop_tail]

/-- After a push nothing is on a stack but what was there before and the entry. -/
theorem Stack.mem_of_mem_push {stack : Stack α} {entry other : α}
    (found : other ∈ (stack.push entry).toList) : other ∈ stack.toList ∨ other = entry := by
  unfold Stack.push Stack.push? at found
  split at found
  · rw [Option.getD_some, Stack.toList, Array.toList_push, List.mem_append,
      List.mem_singleton] at found
    exact found
  · exact .inl found

theorem Stack.mem_of_mem_pop {stack : Stack α} {entry : α} (found : entry ∈ stack.pop.toList) :
    entry ∈ stack.toList := by
  rw [Stack.toList_pop] at found
  exact (List.dropLast_sublist _).mem found

/-! ## Capacities -/

@[simp] theorem Stack.capacity_push (stack : Stack α) (entry : α) :
    (stack.push entry).capacity = stack.capacity := by
  unfold Stack.push Stack.push?
  split <;> rfl

@[simp] theorem Stack.capacity_pop (stack : Stack α) : stack.pop.capacity = stack.capacity := rfl

@[simp] theorem Stack.capacity_drop (stack : Stack α) (count : Nat) :
    (stack.drop count).capacity = stack.capacity := by
  induction count generalizing stack with
  | zero => rfl
  | succ count ih => rw [Stack.drop, ih, Stack.capacity_pop]

end TwoStack
