import TwoStack.Proofs.Stack.Underlaid
import TwoStack.Proofs.Word.Counting

/-!
# Stacks under requests

A stack is asked to push and to pop in any order.  What it refuses leaves it as it is, so after any
requests its entries are those of a plain list that was asked for the accepted ones only
(`Stack.toList_performAll`).  Everything else that can be asked of a stack is said by this list and
the capacity (`Stack.behaves_as_list`).

`hasRoom` only compares two numbers.  That it predicts the fate of pushes to come is the agreement
of that comparison with `Stack.Takes`, which pushes one value after the other
(`Stack.hasRoom_eq_true_iff_takes`).
-/

namespace TwoStack

/-- What a stack is asked for. -/
inductive StackRequest (α : Type) where
  | push (entry : α)
  | pop
  deriving DecidableEq, Repr

/-- A plain list after a request; its last entry is the top. -/
def StackRequest.apply {α : Type} (entries : List α) : StackRequest α → List α
  | push entry => entries ++ [entry]
  | pop => entries.dropLast

namespace Stack

variable {α : Type}

/-! ## Requests -/

/-- The stack after a request; a push that is refused changes nothing. -/
def perform (stack : Stack α) : StackRequest α → Stack α
  | .push entry => stack.push entry
  | .pop => stack.pop

/-- The stack after some requests. -/
def performAll (stack : Stack α) (requests : List (StackRequest α)) : Stack α :=
  requests.foldl perform stack

/-- Whether a request is accepted; only pushes can be refused. -/
def accepts (stack : Stack α) : StackRequest α → Bool
  | .push entry => (stack.push? entry).isSome
  | .pop => true

/-- Those of some requests that are accepted, each by the stack after the requests before it. -/
def accepted (stack : Stack α) : List (StackRequest α) → List (StackRequest α)
  | [] => []
  | request :: rest =>
    if stack.accepts request then request :: (stack.perform request).accepted rest
    else (stack.perform request).accepted rest

theorem push_of_push?_eq_none {stack : Stack α} {entry : α} (full : stack.push? entry = none) :
    stack.push entry = stack := by
  rw [push, full, Option.getD_none]

theorem perform_of_refused {stack : Stack α} {request : StackRequest α}
    (refused : stack.accepts request = false) : stack.perform request = stack := by
  cases request with
  | push entry =>
      rw [accepts, Option.isSome_eq_false_iff, Option.isNone_iff_eq_none] at refused
      exact push_of_push?_eq_none refused
  | pop => cases refused

theorem toList_perform_of_accepted {stack : Stack α} {request : StackRequest α}
    (accepted : stack.accepts request = true) :
    (stack.perform request).toList = request.apply stack.toList := by
  cases request with
  | push entry =>
      have room : stack.depth < stack.capacity := by
        have := stack.size_le
        rw [accepts, Option.isSome_iff_ne_none, ne_eq, push?_eq_none_iff] at accepted
        unfold depth at accepted ⊢
        omega
      exact stack.toList_push room entry
  | pop => exact stack.toList_pop

@[simp] theorem capacity_perform (stack : Stack α) (request : StackRequest α) :
    (stack.perform request).capacity = stack.capacity := by
  cases request with
  | push entry => exact stack.capacity_push entry
  | pop => rfl

@[simp] theorem capacity_performAll (stack : Stack α) (requests : List (StackRequest α)) :
    (stack.performAll requests).capacity = stack.capacity := by
  induction requests generalizing stack with
  | nil => rfl
  | cons request rest ih =>
      rw [performAll, List.foldl_cons]
      exact (ih _).trans (stack.capacity_perform request)

/-- The entries are those of a plain list that is not asked for what was refused. -/
theorem toList_performAll (stack : Stack α) (requests : List (StackRequest α)) :
    (stack.performAll requests).toList =
      (stack.accepted requests).foldl StackRequest.apply stack.toList := by
  induction requests generalizing stack with
  | nil => rfl
  | cons request rest ih =>
      rw [performAll, List.foldl_cons, accepted]
      split
      · next accepted =>
          rw [List.foldl_cons, ← toList_perform_of_accepted accepted]
          exact ih _
      · next refused =>
          rw [perform_of_refused (Bool.not_eq_true _ ▸ refused)]
          exact ih stack

theorem drop_eq_performAll (stack : Stack α) (pops : Nat) :
    stack.drop pops = stack.performAll (List.replicate pops .pop) := by
  induction pops generalizing stack with
  | zero => rfl
  | succ pops ih => exact ih stack.pop

/-! ## Looking below the top -/

/-- An entry lies so many places below the top as there are entries above it. -/
theorem peek?_eq_some_iff {stack : Stack α} {below : Nat} {entry : α} :
    stack.peek? below = some entry ↔
      ∃ beneath above, stack.toList = beneath ++ entry :: above ∧ above.length = below := by
  rw [peek?_eq]
  constructor
  · intro found
    obtain ⟨inside, found⟩ := List.getElem?_eq_some_iff.1 found
    refine ⟨(stack.toList.reverse.drop (below + 1)).reverse,
      (stack.toList.reverse.take below).reverse, ?_, ?_⟩
    · have cut := List.take_append_drop below stack.toList.reverse
      rw [List.drop_eq_getElem_cons inside, found] at cut
      have turned := congrArg List.reverse cut
      rw [List.reverse_reverse, List.reverse_append, List.reverse_cons, List.append_assoc,
        List.singleton_append] at turned
      exact turned.symm
    · rw [List.length_reverse, List.length_take]
      omega
  · rintro ⟨beneath, above, spelled, rfl⟩
    rw [spelled, List.reverse_append, List.reverse_cons, List.append_assoc,
      List.getElem?_append_right (Nat.le_of_eq List.length_reverse), List.length_reverse,
      Nat.sub_self]
    rfl

theorem peek?_eq_none_iff {stack : Stack α} {below : Nat} :
    stack.peek? below = none ↔ stack.depth ≤ below := by
  rw [peek?_eq_topFirst, List.getElem?_eq_none_iff, length_topFirst]

/-! ## Room -/

/-- All of the values can be pushed, one after the other. -/
def Takes (stack : Stack α) : List α → Prop
  | [] => True
  | value :: rest => ∃ next, stack.push? value = some next ∧ next.Takes rest

theorem depth_of_push? {stack next : Stack α} {entry : α} (pushed : stack.push? entry = some next) :
    next.depth = stack.depth + 1 ∧ next.capacity = stack.capacity := by
  unfold push? at pushed
  split at pushed
  · cases pushed
    exact ⟨Array.size_push entry, rfl⟩
  · cases pushed

theorem takes_iff {stack : Stack α} {values : List α} :
    stack.Takes values ↔ stack.depth + values.length ≤ stack.capacity := by
  induction values generalizing stack with
  | nil => exact iff_of_true trivial stack.size_le
  | cons value rest ih =>
      rw [Takes, List.length_cons]
      constructor
      · rintro ⟨next, pushed, taken⟩
        obtain ⟨depth, capacity⟩ := depth_of_push? pushed
        rw [ih, depth, capacity] at taken
        omega
      · intro room
        have free : stack.push? value ≠ none := by
          rw [ne_eq, push?_eq_none_iff]
          omega
        obtain ⟨next, pushed⟩ := Option.ne_none_iff_exists'.1 free
        obtain ⟨depth, capacity⟩ := depth_of_push? pushed
        refine ⟨next, pushed, ih.2 ?_⟩
        rw [depth, capacity]
        omega

theorem depth_drop (stack : Stack α) (pops : Nat) :
    (stack.drop pops).depth = stack.depth - pops := by
  rw [← length_topFirst, topFirst_drop, List.length_drop, length_topFirst]

/-- There is room for values exactly if all of them can be pushed. -/
theorem hasRoom_eq_true_iff_takes (stack : Stack α) (pops : Nat) (values : List α) :
    stack.hasRoom pops values.length = true ↔ (stack.drop pops).Takes values := by
  rw [hasRoom, decide_eq_true_iff, takes_iff, depth_drop, capacity_drop]
  rfl

theorem hasRoom_eq_true_iff_forall_takes [Nonempty α] (stack : Stack α) (pops count : Nat) :
    stack.hasRoom pops count = true ↔
      ∀ values : List α, values.length = count → (stack.drop pops).Takes values := by
  constructor
  · intro room values length
    rw [← length] at room
    exact (stack.hasRoom_eq_true_iff_takes pops values).1 room
  · intro taken
    -- Some value has to be pushed so many times, so the entries need an inhabited type.
    obtain ⟨value⟩ := ‹Nonempty α›
    have spare := taken (List.replicate count value) List.length_replicate
    rwa [← hasRoom_eq_true_iff_takes, List.length_replicate] at spare

/-! ## Stacks as lists -/

/-- A stack of some capacity that is a list with a bound: whatever is asked of it is said by the
list. -/
structure IsList (stack : Stack α) (capacity : Nat) (entries : List α) : Prop where
  contents : stack.toList = entries
  depth_eq : stack.depth = entries.length
  capacity_eq : stack.capacity = capacity
  depth_le : stack.depth ≤ capacity
  isEmpty : stack.isEmpty = true ↔ entries = []
  /-- An entry is found so many places below the top as there are entries above it. -/
  peek : ∀ below entry, stack.peek? below = some entry ↔
    ∃ beneath above, entries = beneath ++ entry :: above ∧ above.length = below
  missing : ∀ below, stack.peek? below = none ↔ stack.depth ≤ below
  top : stack.top? = stack.peek? 0
  /-- A push is refused exactly if the stack is full, and then changes nothing. -/
  refused : ∀ entry, stack.push? entry = none ↔ stack.depth = capacity
  unchanged : ∀ entry, stack.push? entry = none → stack.push entry = stack
  pushed : ∀ entry next, stack.push? entry = some next →
    next.toList = entries ++ [entry] ∧ next.capacity = capacity
  popped : stack.pop.toList = entries.dropLast
  drop : ∀ pops, stack.drop pops = stack.performAll (List.replicate pops .pop)
  /-- Room is predicted exactly, for these values as for any others. -/
  room : ∀ pops values, stack.hasRoom pops values.length = true ↔ (stack.drop pops).Takes values
  predicts : Nonempty α → ∀ pops count, stack.hasRoom pops count = true ↔
    ∀ values : List α, values.length = count → (stack.drop pops).Takes values
  /-- No register of 64 bits overflows over numbers of 63 bits. -/
  peekCounted : ∀ below, below < 9223372036854775808 →
    stack.peekCounted? 18446744073709551616 below = some (stack.peek? below)
  roomCounted : ∀ pops count, capacity < 9223372036854775808 → count < 9223372036854775808 →
    stack.hasRoomCounted? 18446744073709551616 pops count = some (stack.hasRoom pops count)

theorem isList (stack : Stack α) : stack.IsList stack.capacity stack.toList where
  contents := rfl
  depth_eq := rfl
  capacity_eq := rfl
  depth_le := stack.size_le
  isEmpty := by
    rw [Stack.isEmpty, Array.isEmpty_iff, toList, Array.toList_eq_nil_iff]
  peek _ _ := peek?_eq_some_iff
  missing _ := peek?_eq_none_iff
  top := stack.top?_eq
  refused := stack.push?_eq_none_iff
  unchanged _ := push_of_push?_eq_none
  pushed := by
    intro entry next pushed
    refine ⟨?_, (depth_of_push? pushed).2⟩
    have accepted : stack.accepts (.push entry) = true := Option.isSome_of_eq_some pushed
    have listed := toList_perform_of_accepted accepted
    rwa [perform, push, pushed, Option.getD_some] at listed
  popped := stack.toList_pop
  drop := stack.drop_eq_performAll
  room := stack.hasRoom_eq_true_iff_takes
  predicts nonempty := stack.hasRoom_eq_true_iff_forall_takes
  peekCounted _ small := stack.peekCounted?_eq (by omega)
  roomCounted pops _ few small := hasRoomCounted?_eq (by omega) pops

/-- After any requests a new stack is the plain list that was asked for the accepted ones. -/
theorem behaves_as_list (capacity : Nat) (requests : List (StackRequest α)) :
    ((empty capacity).performAll requests).IsList capacity
      (((empty capacity).accepted requests).foldl StackRequest.apply []) := by
  have behaves := ((empty capacity).performAll requests).isList
  rwa [toList_performAll, capacity_performAll] at behaves

/-- The second push is refused, and a pop too many does no harm. -/
example :
    ((empty 1).performAll [.push 5, .push 6, .pop, .pop, .push 7]).toList = [7] ∧
      (empty 1).accepted [.push 5, .push 6, .pop, .pop, .push 7] =
        [.push 5, .pop, .pop, .push 7] := by
  decide

end Stack

end TwoStack
