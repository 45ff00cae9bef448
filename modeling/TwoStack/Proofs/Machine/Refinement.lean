import TwoStack.Console.Scripted
import TwoStack.Proofs.Machine.Effects
import TwoStack.Proofs.Machine.Reference

/-!
# The machine refines the one-phase interpreter

A step of the machine and a step of the interpreter of `TwoStack.Proofs.Machine.Reference` cannot be
told apart: a step raises a fault exactly when the interpreter stops at a check, with the same code,
and otherwise memory, both stacks, the instruction pointer and the console are the same afterwards
(`Machine.step_eq_reference`).

The interpreter pops where the machine looks.  `Machine.popped` is what is left of the registers
once some operands are gone, and `Reference.run_popWord_popped` ties the next pop to the next
look.  With it each instruction is followed through both executions, one lemma of `Machine.Agrees`
for each.
-/

namespace TwoStack

variable {σ : Type}

/-! ## Both sides of an instruction -/

section Phases

variable {machine : Machine}

/-- The registers with the instruction pointer at `ip` and the top `popped` words taken off. -/
def Machine.popped (machine : Machine) (ip popped : Nat) : Registers :=
  { machine.registers with ip, data := machine.data.topFirst.drop popped }

/-- The interpreter pops the operand that the machine looks at. -/
theorem Reference.run_popWord_popped {α : Type} (ip popped : Nat) (console : σ)
    (next : Word → Exec σ α) :
    (popWord >>= next) (machine.popped ip popped) console =
      match machine.operand popped with
      | .ok word => next word (machine.popped ip (popped + 1)) console
      | .error code => (.error code, console) := by
  rw [run_popWord_bind, Machine.operand, Stack.peek?_eq_topFirst]
  dsimp only [Machine.popped]
  cases listed : machine.data.topFirst[popped]? with
  | none => rw [List.drop_eq_nil_of_le (List.getElem?_eq_none_iff.1 listed)]
  | some word =>
      obtain ⟨inside, here⟩ := List.getElem?_eq_some_iff.1 listed
      rw [List.drop_eq_getElem_cons inside, here]

theorem Reference.run_pushWord_popped (fits : machine.Fits) (ip popped : Nat) (word : Word)
    (console : σ) (room : (machine.data.topFirst.drop popped).length < machine.data.capacity) :
    pushWord word (machine.popped ip popped) console =
      (.ok ((), { machine.popped ip popped with
        data := word :: machine.data.topFirst.drop popped }), console) := by
  rw [run_pushWord, if_pos (fits.data ▸ room)]
  rfl

/-- The second phase of an instruction, given its plan. -/
def Machine.perform [Console σ] :
    Except FaultCode (Effects × ConsoleUse) → σ → Except FaultCode Effects × σ
  | .error code, console => (.error code, console)
  | .ok (effects, .none), console => (.ok effects, console)
  | .ok (effects, .input), console =>
    match Console.read console with
    | (.ok word, console) => (.ok { effects with push := some word }, console)
    | (.error _, console) => (.error .malformedInput, console)
  | .ok (effects, .output word), console =>
    match Console.write console word with
    | (.ok (), console) => (.ok effects, console)
    | (.error _, console) => (.error .outputFailed, console)

theorem Machine.execute_eq_perform [Console σ] (instruction : Instruction) (console : σ) :
    machine.execute instruction console = Machine.perform (machine.plan instruction) console := by
  unfold Machine.execute Machine.perform
  rcases machine.plan instruction with _ | ⟨_, _ | _ | _⟩ <;> rfl

/-- What the two phases come to, as an outcome of the interpreter. -/
def Machine.executed (machine : Machine) (instruction : Instruction) :
    Except FaultCode Effects × σ → Except FaultCode (Unit × Registers) × σ
  | (.ok effects, console) =>
    (.ok ((), (machine.after (.completed instruction effects)).registers), console)
  | (.error code, console) => (.error code, console)

theorem Machine.executed_ok (running : machine.status = .running) (instruction : Instruction)
    (effects : Effects) (console : σ) :
    machine.executed instruction (.ok effects, console) =
      (.ok ((), { (machine.commit effects).registers with halted := effects.halts }), console) := by
  rcases machine with ⟨memory, data, returns, ip, steps, status, config⟩
  dsimp at running
  subst running
  rcases effects with ⟨pops, push, back, write, next, halts⟩
  cases halts <;> by_cases outside : memorySize ≤ next <;>
    simp [Machine.executed, Machine.after, Machine.commit, Machine.registers, outside]

/-- An instruction that only takes words off the data stack. -/
theorem Machine.executed_pops (running : machine.status = .running) (instruction : Instruction)
    (next pops : Nat) (console : σ) :
    machine.executed instruction (.ok { next, pops }, console) =
      (.ok ((), machine.popped next pops), console) := by
  rw [Machine.executed_ok running]
  simp [Machine.popped, Machine.registers, Machine.commit, running, Stack.topFirst_drop]

/-- An instruction that in the end puts a word on the data stack. -/
theorem Machine.executed_push (running : machine.status = .running) (instruction : Instruction)
    (next pops : Nat) (word : Word) (console : σ)
    (room : (machine.data.topFirst.drop pops).length < machine.data.capacity) :
    machine.executed instruction (.ok { next, pops, push := some word }, console) =
      (.ok ((), { machine.popped next pops with
        data := word :: machine.data.topFirst.drop pops }), console) := by
  have listed : ((machine.data.drop pops).push word).topFirst =
      word :: machine.data.topFirst.drop pops := by
    rw [← Stack.topFirst_drop] at room ⊢
    exact Stack.topFirst_push (by rwa [Stack.capacity_drop]) word
  rw [Machine.executed_ok running]
  simp [Machine.popped, Machine.registers, Machine.commit, running, listed]

theorem ok_bind {ε α β : Type} (value : α) (next : α → Except ε β) :
    (Except.ok value >>= next) = next value := rfl

theorem pure_ok {ε α : Type} (value : α) : (pure value : Except ε α) = .ok value := rfl

/-- The interpreter executes an instruction as the two phases of the machine do. -/
def Machine.Agrees [Console σ] (machine : Machine) (instruction : Instruction) (console : σ) :
    Prop :=
  Reference.execute instruction (machine.popped (machine.ip + instruction.size) 0) console =
    machine.executed instruction (machine.execute instruction console)

section Instructions

open Reference

variable [Console σ] {operand : Option Word} {console : σ}

theorem Machine.Agrees.nop (running : machine.status = .running) :
    machine.Agrees ⟨.nop, operand⟩ console := by
  rw [Machine.Agrees, Machine.execute_eq_perform]
  generalize nextIp : machine.ip + Instruction.size ⟨.nop, operand⟩ = next
  simp only [Reference.execute, Machine.plan, nextIp]
  exact (executed_pops running _ next 0 console).symm

theorem Machine.Agrees.binary (fits : machine.Fits) (running : machine.status = .running)
    (op : BinaryOp) :
    machine.Agrees ⟨.binary op, operand⟩ console := by
  rw [Machine.Agrees, Machine.execute_eq_perform]
  generalize nextIp : machine.ip + Instruction.size ⟨.binary op, operand⟩ = next
  simp only [Reference.execute, Machine.plan, run_popWord_popped, nextIp]
  cases top : machine.operand 0 with
  | error code => rfl
  | ok y =>
    simp only [ok_bind]
    cases second : machine.operand 1 with
    | error code => rfl
    | ok x =>
      have room := room_of_operand second
      simp only [run_pushWord_popped fits next _ _ console room]
      exact (executed_push running _ next _ _ console room).symm

theorem Machine.Agrees.unary (fits : machine.Fits) (running : machine.status = .running)
    (op : UnaryOp) :
    machine.Agrees ⟨.unary op, operand⟩ console := by
  rw [Machine.Agrees, Machine.execute_eq_perform]
  generalize nextIp : machine.ip + Instruction.size ⟨.unary op, operand⟩ = next
  simp only [Reference.execute, Machine.plan, run_popWord_popped, nextIp]
  cases top : machine.operand 0 with
  | error code => rfl
  | ok x =>
    have room := room_of_operand top
    simp only [run_pushWord_popped fits next _ _ console room]
    exact (executed_push running _ next _ _ console room).symm

theorem Machine.Agrees.jmp (running : machine.status = .running) :
    machine.Agrees ⟨.jmp, operand⟩ console := by
  rw [Machine.Agrees, Machine.execute_eq_perform]
  generalize machine.ip + Instruction.size ⟨.jmp, operand⟩ = next
  simp only [Reference.execute, Machine.plan, run_popWord_popped]
  cases top : machine.operand 0 with
  | error code => rfl
  | ok target =>
    simp only [ok_bind, run_requireCode_bind _ _ _ rfl]
    cases codeAddress target.toInt with
    | error code => rfl
    | ok target => exact (executed_pops running _ target 1 console).symm

theorem Machine.Agrees.jz (running : machine.status = .running) :
    machine.Agrees ⟨.jz, operand⟩ console := by
  rw [Machine.Agrees, Machine.execute_eq_perform]
  generalize nextIp : machine.ip + Instruction.size ⟨.jz, operand⟩ = next
  simp only [Reference.execute, Machine.plan, run_popWord_popped, nextIp]
  cases top : machine.operand 0 with
  | error code => rfl
  | ok target =>
    simp only [ok_bind]
    cases second : machine.operand 1 with
    | error code => rfl
    | ok tested =>
      simp only [ok_bind, run_requireCode_bind _ _ _ rfl]
      cases codeAddress target.toInt with
      | error code => rfl
      | ok target =>
        by_cases zero : tested = 0
        · simp only [if_pos zero]
          exact (executed_pops running _ target 2 console).symm
        · simp only [if_neg zero]
          exact (executed_pops running _ next 2 console).symm

theorem Machine.Agrees.jnz (running : machine.status = .running) :
    machine.Agrees ⟨.jnz, operand⟩ console := by
  rw [Machine.Agrees, Machine.execute_eq_perform]
  generalize nextIp : machine.ip + Instruction.size ⟨.jnz, operand⟩ = next
  simp only [Reference.execute, Machine.plan, run_popWord_popped, nextIp]
  cases top : machine.operand 0 with
  | error code => rfl
  | ok target =>
    simp only [ok_bind]
    cases second : machine.operand 1 with
    | error code => rfl
    | ok tested =>
      simp only [ok_bind, run_requireCode_bind _ _ _ rfl]
      cases codeAddress target.toInt with
      | error code => rfl
      | ok target =>
        by_cases zero : tested = 0
        · simp only [if_pos zero, if_neg (fun different : tested ≠ 0 => different zero)]
          exact (executed_pops running _ next 2 console).symm
        · simp only [if_neg zero, if_pos zero]
          exact (executed_pops running _ target 2 console).symm

theorem Machine.Agrees.push (fits : machine.Fits) (running : machine.status = .running) :
    machine.Agrees ⟨.push, operand⟩ console := by
  rw [Machine.Agrees, Machine.execute_eq_perform]
  generalize nextIp : machine.ip + Instruction.size ⟨.push, operand⟩ = next
  have dataLimit : (machine.popped next 0).config.dataCapacity = machine.data.capacity :=
    fits.data.symm
  simp only [Reference.execute, Machine.plan, run_requireDataRoom_bind, requireRoom_eq, dataLimit,
    nextIp]
  by_cases room : machine.data.topFirst.length < machine.data.capacity
  · rw [if_pos room, if_pos (by exact room)]
    cases operand with
    | none => rfl
    | some word =>
      simp only [run_pushWord_popped fits next 0 word console room]
      exact (executed_push running _ next 0 word console room).symm
  · rw [if_neg room, if_neg (by exact room)]
    rfl

theorem Machine.Agrees.rm (running : machine.status = .running) :
    machine.Agrees ⟨.rm, operand⟩ console := by
  rw [Machine.Agrees, Machine.execute_eq_perform]
  generalize nextIp : machine.ip + Instruction.size ⟨.rm, operand⟩ = next
  simp only [Reference.execute, Machine.plan, run_popWord_popped, nextIp]
  cases top : machine.operand 0 with
  | error code => rfl
  | ok word => exact (executed_pops running _ next 1 console).symm

theorem Machine.Agrees.pushIp (fits : machine.Fits) (running : machine.status = .running) :
    machine.Agrees ⟨.pushIp, operand⟩ console := by
  rw [Machine.Agrees, Machine.execute_eq_perform]
  generalize nextIp : machine.ip + Instruction.size ⟨.pushIp, operand⟩ = next
  have returnLimit : (machine.popped next 1).config.returnCapacity = machine.returns.capacity :=
    fits.returns.symm
  simp only [Reference.execute, Machine.plan, run_popWord_popped, nextIp]
  cases top : machine.operand 0 with
  | error code => rfl
  | ok target =>
    simp only [ok_bind, run_require_bind, run_pushReturn, requireRoom_eq, returnLimit]
    by_cases negative : target < 0
    · rw [if_neg (Int32.not_le.2 negative), if_pos negative]
      rfl
    · rw [if_pos (Int32.not_lt.1 negative), if_neg negative]
      by_cases room : machine.returns.topFirst.length < machine.returns.capacity
      · rw [if_pos (by exact room), if_pos room]
        refine Eq.trans ?_ (executed_ok running _ _ console).symm
        simp [Machine.popped, Machine.registers, Machine.commit, running, Stack.topFirst_drop,
          Stack.topFirst_push room]
      · rw [if_neg (by exact room), if_neg room]
        rfl

theorem Machine.Agrees.popIp (running : machine.status = .running) :
    machine.Agrees ⟨.popIp, operand⟩ console := by
  rw [Machine.Agrees, Machine.execute_eq_perform]
  generalize machine.ip + Instruction.size ⟨.popIp, operand⟩ = next
  simp only [Reference.execute, Machine.plan, run_popReturn_bind, Stack.top?_eq_topFirst]
  have same : (machine.popped next 0).returns = machine.returns.topFirst := rfl
  rw [same]
  cases listed : machine.returns.topFirst with
  | nil => rfl
  | cons address rest =>
    simp only [List.head?_cons]
    cases checked : codeAddress address with
    | error code =>
      rw [run_requireCode_bind _ _ _ checked]
      rfl
    | ok target =>
      rw [run_requireCode_bind _ _ _ checked]
      refine Eq.trans ?_ (executed_ok running _ _ console).symm
      simp [Machine.popped, Machine.registers, Machine.commit, running, Stack.drop,
        Stack.topFirst_pop, listed, jump, run_modify]

theorem Machine.Agrees.rmIp (running : machine.status = .running) :
    machine.Agrees ⟨.rmIp, operand⟩ console := by
  rw [Machine.Agrees, Machine.execute_eq_perform]
  generalize nextIp : machine.ip + Instruction.size ⟨.rmIp, operand⟩ = next
  simp only [Reference.execute, Machine.plan, run_popReturn_bind, Stack.isEmpty_eq_topFirst, nextIp]
  have same : (machine.popped next 0).returns = machine.returns.topFirst := rfl
  rw [same]
  cases listed : machine.returns.topFirst with
  | nil => rfl
  | cons address rest =>
    refine Eq.trans ?_ (executed_ok running _ _ console).symm
    simp [Machine.popped, Machine.registers, Machine.commit, running, Stack.drop,
      Stack.topFirst_pop, listed, run_pure]

theorem Machine.Agrees.pushPm (fits : machine.Fits) (running : machine.status = .running) :
    machine.Agrees ⟨.pushPm, operand⟩ console := by
  rw [Machine.Agrees, Machine.execute_eq_perform]
  generalize nextIp : machine.ip + Instruction.size ⟨.pushPm, operand⟩ = next
  simp only [Reference.execute, Machine.plan, run_popWord_popped, nextIp]
  cases top : machine.operand 0 with
  | error code => rfl
  | ok address =>
    simp only [ok_bind, run_load_bind]
    cases wordAddress address.toInt with
    | error code => rfl
    | ok place =>
      simp only [ok_bind]
      have same : (machine.popped next 1).memory = machine.memory := rfl
      rw [same]
      cases machine.memory.readWord? place with
      | none => rfl
      | some word =>
        have room := room_of_operand top
        simp only [run_pushWord_popped fits next _ _ console room]
        exact (executed_push running _ next _ _ console room).symm

theorem Machine.Agrees.popPm (running : machine.status = .running) :
    machine.Agrees ⟨.popPm, operand⟩ console := by
  rw [Machine.Agrees, Machine.execute_eq_perform]
  generalize nextIp : machine.ip + Instruction.size ⟨.popPm, operand⟩ = next
  simp only [Reference.execute, Machine.plan, run_popWord_popped, nextIp]
  cases top : machine.operand 0 with
  | error code => rfl
  | ok word =>
    simp only [ok_bind]
    cases second : machine.operand 1 with
    | error code => rfl
    | ok address =>
      simp only [ok_bind, run_store]
      cases inside : wordAddress address.toInt with
      | error code => rfl
      | ok place =>
        have stored := machine.memory.writeWord?_of_fits (eq_of_wordAddress inside).2 word
        refine Eq.trans ?_ (executed_ok running _ _ console).symm
        simp [Machine.popped, Machine.registers, Machine.commit, running, Stack.topFirst_drop,
          stored]

theorem Machine.Agrees.input (fits : machine.Fits) (running : machine.status = .running) :
    machine.Agrees ⟨.input, operand⟩ console := by
  rw [Machine.Agrees, Machine.execute_eq_perform]
  generalize nextIp : machine.ip + Instruction.size ⟨.input, operand⟩ = next
  have dataLimit : (machine.popped next 0).config.dataCapacity = machine.data.capacity :=
    fits.data.symm
  simp only [Reference.execute, Machine.plan, run_requireDataRoom_bind, requireRoom_eq, dataLimit,
    nextIp]
  by_cases room : machine.data.topFirst.length < machine.data.capacity
  · rw [if_pos room, if_pos (by exact room)]
    simp only [ok_bind, pure_ok, Machine.perform, run_readConsole_bind]
    rcases Console.read console with ⟨_ | word, console⟩
    · rfl
    · simp only [run_pushWord_popped fits next 0 word console room]
      exact (executed_push running _ next 0 word console room).symm
  · rw [if_neg room, if_neg (by exact room)]
    rfl

theorem Machine.Agrees.peek (fits : machine.Fits) (running : machine.status = .running) :
    machine.Agrees ⟨.peek, operand⟩ console := by
  rw [Machine.Agrees, Machine.execute_eq_perform]
  generalize nextIp : machine.ip + Instruction.size ⟨.peek, operand⟩ = next
  simp only [Reference.execute, Machine.plan, run_popWord_popped, nextIp]
  cases top : machine.operand 0 with
  | error code => rfl
  | ok word =>
    simp only [ok_bind, pure_ok, Machine.perform, run_writeConsole_bind]
    rcases Console.write console word with ⟨_ | _, console⟩
    · rfl
    · have room := room_of_operand top
      have listed := topFirst_of_operand top
      simp only [run_pushWord_popped fits next _ word console room]
      refine Eq.trans ?_ (executed_pops running _ next 0 console).symm
      rw [listed]
      rfl

theorem Machine.Agrees.halt (running : machine.status = .running) :
    machine.Agrees ⟨.halt, operand⟩ console := by
  rw [Machine.Agrees, Machine.execute_eq_perform]
  generalize nextIp : machine.ip + Instruction.size ⟨.halt, operand⟩ = next
  simp only [Reference.execute, Machine.plan, nextIp]
  refine Eq.trans ?_ (executed_ok running _ _ console).symm
  simp [Machine.popped, Machine.registers, Machine.commit, running, Stack.drop, run_modify]

theorem Machine.agrees (fits : machine.Fits) (running : machine.status = .running)
    (instruction : Instruction) (console : σ) : machine.Agrees instruction console := by
  rcases instruction with ⟨opcode, operand⟩
  cases opcode with
  | nop => exact .nop running
  | binary op => exact .binary fits running op
  | unary op => exact .unary fits running op
  | jmp => exact .jmp running
  | jz => exact .jz running
  | jnz => exact .jnz running
  | push => exact .push fits running
  | rm => exact .rm running
  | pushIp => exact .pushIp fits running
  | popIp => exact .popIp running
  | rmIp => exact .rmIp running
  | pushPm => exact .pushPm fits running
  | popPm => exact .popPm running
  | input => exact .input fits running
  | peek => exact .peek fits running
  | halt => exact .halt running

end Instructions

end Phases

/-! ## Steps -/

section Steps

variable [Console σ]

/-- What a step comes to, as an outcome of the interpreter: the code of the fault, or the registers
afterwards; and the console. -/
def Machine.observed (result : StepOutcome × Machine × Host σ) :
    Except FaultCode (Unit × Registers) × σ :=
  match result.1 with
  | .faulted fault => (.error fault.code, result.2.2.console)
  | .retired _ | .halted | .endOfMemory => (.ok ((), result.2.1.registers), result.2.2.console)

/-- A step of a reachable running machine is a step of the one-phase interpreter. -/
theorem Machine.step_eq_reference {machine : Machine} (reachable : machine.Reachable)
    (running : machine.status = .running) (host : Host σ) :
    Machine.observed (machine.step host) = Reference.step machine.registers host.console := by
  have sameBytes : machine.registers.memory.bytes = machine.memory.bytes := rfl
  have sameIp : machine.registers.ip = machine.ip := rfl
  rw [Machine.observed, Machine.step_outcome_of_running running,
    Machine.step_machine_of_running running, Machine.step_console_of_running running,
    Reference.step, Reference.run_get_bind, Machine.attempt, sameBytes, sameIp]
  cases Instruction.decode machine.memory.bytes machine.ip with
  | error cause =>
      cases cause with
      | outOfRange =>
          have same : { machine with status := .endOfMemory }.registers = machine.registers := by
            simp [Machine.registers, running]
          simp only [Machine.outcome, Machine.after, same]
          rfl
      | unknownOpcode byte => rfl
      | truncatedOperand => rfl
  | ok instruction =>
      have executed := Machine.agrees reachable.fits running instruction host.console
      have moved : (Reference.jump (machine.ip + instruction.size) >>= fun _ =>
            Reference.execute instruction) machine.registers host.console =
          Reference.execute instruction (machine.popped (machine.ip + instruction.size) 0)
            host.console := rfl
      dsimp only
      rw [moved, executed]
      rcases machine.execute instruction host.console with ⟨code | effects, console⟩
      · rfl
      · dsimp only [Machine.executed]
        split
        · next fault raised => exact absurd raised (Machine.outcome_completed_ne_faulted _ _ _ _)
        · rfl
        · rfl
        · rfl

/-- With no room for the operand of `PUSH`, and a console that would answer. -/
theorem Machine.step_eq_reference_without_room :
    let machine := Machine.load ⟨#[0x0D, 0, 0, 0, 5], by decide⟩ { dataCapacity := 0 }
    let host : Host Scripted := .ofConsole (Scripted.ofInputs [7]) (.empty ⟨[], none⟩)
    machine.Reachable ∧ machine.status = .running ∧
      Machine.observed (machine.step host) = Reference.step machine.registers host.console :=
  ⟨.load _ _, rfl, Machine.step_eq_reference (.load _ _) rfl _⟩

end Steps

end TwoStack
