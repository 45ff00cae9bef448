import TwoStack.Proofs.Machine.Attempt

/-!
# Effects that a machine admits

`Machine.commit` does not check anything: a push onto a full stack is dropped, a pop of an empty one
does nothing.  Neither happens.  What an instruction does was planned, and a plan is made only after
the operands were found and the room was checked, so the stacks hold all that the effects take off
them and have room for all that they put there (`Machine.Attempts.admits`).
-/

namespace TwoStack

variable {machine : Machine}

/-! ## What the checks say -/

theorem Machine.topFirst_of_operand {word : Word} (found : machine.operand 0 = .ok word) :
    word :: machine.data.topFirst.drop 1 = machine.data.topFirst := by
  rw [Machine.operand, Stack.peek?_eq_topFirst] at found
  cases listed : machine.data.topFirst with
  | nil => simp [listed] at found
  | cons top rest => simp_all

theorem Machine.top?_of_operand {word : Word}
    (found : machine.operand 0 = .ok word) : machine.data.top? = some word := by
  rw [Stack.top?_eq_topFirst, ← Machine.topFirst_of_operand found]
  rfl

theorem Machine.lt_depth_of_operand {below : Nat} {word : Word}
    (found : machine.operand below = .ok word) : below < machine.data.topFirst.length := by
  rw [Machine.operand, Stack.peek?_eq_topFirst] at found
  split at found
  · next listed => exact (List.getElem?_eq_some_iff.1 listed).1
  · cases found

/-- Popping a word makes room for one. -/
theorem Machine.room_of_operand {below : Nat} {word : Word}
    (found : machine.operand below = .ok word) :
    (machine.data.topFirst.drop (below + 1)).length < machine.data.capacity := by
  have inside := Machine.lt_depth_of_operand found
  have depth := machine.data.length_topFirst_le
  rw [List.length_drop]
  omega

section Room

variable {α : Type}

theorem Machine.requireRoom_eq (stack : Stack α) :
    Machine.requireRoom stack =
      if stack.topFirst.length < stack.capacity then .ok () else .error .stackOverflow := by
  rw [Machine.requireRoom, Stack.hasRoom_one]
  simp only [decide_eq_true_eq]

theorem Machine.requireRoom_of_lt {stack : Stack α} (room : stack.depth < stack.capacity) :
    Machine.requireRoom stack = .ok () :=
  if_pos (decide_eq_true room)

theorem Machine.lt_of_requireRoom {stack : Stack α} (room : Machine.requireRoom stack = .ok ()) :
    stack.depth < stack.capacity := by
  rw [Machine.requireRoom_eq, Stack.length_topFirst] at room
  split at room
  · next free => exact free
  · cases room

end Room

/-! ## What the effects need -/

/-- The stacks hold what the effects take off them, and have room for what they put there. -/
structure Machine.Admits (machine : Machine) (effects : Effects) : Prop where
  pops : effects.pops ≤ machine.data.depth
  push : ∀ word, effects.push = some word →
    (machine.data.drop effects.pops).depth < (machine.data.drop effects.pops).capacity
  back : ∀ address, effects.returns = .push address →
    machine.returns.depth < machine.returns.capacity
  held : effects.returns = .pop → 0 < machine.returns.depth

/-- Effects that take the operands off the data stack and then put at most one word there. -/
theorem Machine.admits_of_operand {below next : Nat} {word : Word} {push : Option Word}
    {write : Option (Nat × Word)} (found : machine.operand below = .ok word) :
    machine.Admits { next, pops := below + 1, push, write } where
  pops := machine.data.length_topFirst ▸ Machine.lt_depth_of_operand found
  push _ _ := by
    rw [← Stack.length_topFirst, Stack.topFirst_drop, Stack.capacity_drop]
    exact Machine.room_of_operand found
  back := nofun
  held := nofun

theorem Machine.admits_of_room {next : Nat} {push : Option Word}
    (room : Machine.requireRoom machine.data = .ok ()) : machine.Admits { next, push } where
  pops := Nat.zero_le _
  push _ _ := Machine.lt_of_requireRoom room
  back := nofun
  held := nofun

/-- Effects that leave both stacks alone. -/
theorem Machine.admits_still {next : Nat} {halts : Bool} : machine.Admits { next, halts } :=
  ⟨Nat.zero_le _, nofun, nofun, nofun⟩

theorem Machine.Plans.admits {instruction : Instruction} {effects : Effects} {use : ConsoleUse}
    (plans : machine.Plans instruction effects use) : machine.Admits effects := by
  cases plans with
  | nop => exact Machine.admits_still
  | binary top below => exact Machine.admits_of_operand below
  | unary top => exact Machine.admits_of_operand top
  | jmp top inside => exact Machine.admits_of_operand top
  | jz top below inside => exact Machine.admits_of_operand below
  | jnz top below inside => exact Machine.admits_of_operand below
  | push room => exact Machine.admits_of_room room
  | rm top => exact Machine.admits_of_operand top
  | pushIp top nonnegative room =>
      have found := machine.data.length_topFirst ▸ Machine.lt_depth_of_operand top
      exact ⟨found, nofun, fun _ _ => Machine.lt_of_requireRoom room, nofun⟩
  | popIp top inside =>
      refine ⟨Nat.zero_le _, nofun, nofun, fun _ => ?_⟩
      rw [Stack.top?_eq_topFirst, List.head?_eq_getElem?] at top
      rw [← Stack.length_topFirst]
      exact (List.getElem?_eq_some_iff.1 top).1
  | rmIp nonempty =>
      refine ⟨Nat.zero_le _, nofun, nofun, fun _ => ?_⟩
      rw [Stack.isEmpty_eq_topFirst, List.isEmpty_eq_false_iff] at nonempty
      rw [← Stack.length_topFirst]
      exact List.length_pos_iff.2 nonempty
  | pushPm top inside read => exact Machine.admits_of_operand top
  | popPm top below inside => exact Machine.admits_of_operand below
  | input room => exact Machine.admits_of_room room
  | peek top => exact Machine.admits_still
  | halt => exact Machine.admits_still

/-- `INPUT` has checked the room for the word that it receives. -/
theorem Machine.Plans.admits_input {instruction : Instruction} {effects : Effects}
    (plans : machine.Plans instruction effects .input) (word : Word) :
    machine.Admits { effects with push := some word } := by
  cases plans with
  | input room => exact Machine.admits_of_room room

/-- What an instruction does was planned, except for the word that `INPUT` receives. -/
theorem Machine.Attempts.exists_plans {σ : Type} [Console σ] {console next : σ}
    {instruction : Instruction} {effects : Effects}
    (attempts : machine.Attempts console (.completed instruction effects) next) :
    ∃ use planned, machine.Plans instruction planned use ∧ planned.write = effects.write ∧
      (instruction.opcode ≠ .input → planned = effects) := by
  cases attempts with
  | silent decoded plans => exact ⟨_, _, plans, rfl, fun _ => rfl⟩
  | received decoded plans read =>
      exact ⟨_, _, plans, rfl, fun other => absurd plans.opcode_of_input other⟩
  | sent decoded plans written => exact ⟨_, _, plans, rfl, fun _ => rfl⟩

/-- An instruction is done only on a machine that admits what it does. -/
theorem Machine.Attempts.admits {σ : Type} [Console σ] {console next : σ}
    {instruction : Instruction} {effects : Effects}
    (attempts : machine.Attempts console (.completed instruction effects) next) :
    machine.Admits effects := by
  cases attempts with
  | silent decoded plans => exact plans.admits
  | received decoded plans read => exact plans.admits_input _
  | sent decoded plans written => exact plans.admits

end TwoStack
