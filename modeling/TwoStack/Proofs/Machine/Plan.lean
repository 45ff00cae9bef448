import TwoStack.Machine.Execute

/-!
# Plans

`Machine.plan` treats all instructions in one function.  `Machine.Plans` says the same with one case
for each instruction: the operands that were found, the addresses and the room that were checked,
and the effects that follow.  Every plan is one of these cases and every case is a plan
(`Machine.plan_eq_ok_iff`), so a fact about all plans is shown case by case, and what one
instruction does is read off its case.

An instruction that is refused at this stage is never refused for the console's sake
(`Machine.plan_sparesConsole`): the console has not been asked yet.
-/

namespace TwoStack

theorem bind_eq_ok_iff {ε α β : Type} {first : Except ε α} {next : α → Except ε β} {result : β} :
    (first >>= next) = .ok result ↔ ∃ value, first = .ok value ∧ next value = .ok result := by
  cases first with
  | error cause => exact ⟨nofun, nofun⟩
  | ok value =>
      constructor
      · exact fun done => ⟨value, rfl, done⟩
      · rintro ⟨_, ⟨⟩, done⟩
        exact done

theorem bind_eq_error_iff {ε α β : Type} {first : Except ε α} {next : α → Except ε β} {cause : ε} :
    (first >>= next) = .error cause ↔
      first = .error cause ∨ ∃ value, first = .ok value ∧ next value = .error cause := by
  cases first with
  | error other =>
      constructor
      · rintro ⟨⟩
        exact .inl rfl
      · rintro (⟨⟨⟩⟩ | ⟨_, ⟨⟩, _⟩)
        rfl
  | ok value =>
      constructor
      · exact fun failed => .inr ⟨value, rfl, failed⟩
      · rintro (⟨⟨⟩⟩ | ⟨_, ⟨⟩, failed⟩)
        exact failed

/-! ## What a plan can be -/

/-- The plans of a machine, one case for each instruction. -/
inductive Machine.Plans (machine : Machine) : Instruction → Effects → ConsoleUse → Prop
  | nop {operand : Option Word} : Plans machine ⟨.nop, operand⟩ { next := machine.ip + 1 } .none
  | binary {operand : Option Word} {op : BinaryOp} {x y : Word}
    (top : machine.operand 0 = .ok y) (below : machine.operand 1 = .ok x) :
    Plans machine ⟨.binary op, operand⟩
      { next := machine.ip + 1, pops := 2, push := some (op.apply x y) } .none
  | unary {operand : Option Word} {op : UnaryOp} {x : Word} (top : machine.operand 0 = .ok x) :
    Plans machine ⟨.unary op, operand⟩
      { next := machine.ip + 1, pops := 1, push := some (op.apply x) } .none
  | jmp {operand : Option Word} {target : Word} {address : Nat}
    (top : machine.operand 0 = .ok target) (inside : codeAddress target.toInt = .ok address) :
    Plans machine ⟨.jmp, operand⟩ { next := address, pops := 1 } .none
  | jz {operand : Option Word} {target tested : Word} {address : Nat}
    (top : machine.operand 0 = .ok target) (below : machine.operand 1 = .ok tested)
    (inside : codeAddress target.toInt = .ok address) :
    Plans machine ⟨.jz, operand⟩
      { next := if tested = 0 then address else machine.ip + 1, pops := 2 } .none
  | jnz {operand : Option Word} {target tested : Word} {address : Nat}
    (top : machine.operand 0 = .ok target) (below : machine.operand 1 = .ok tested)
    (inside : codeAddress target.toInt = .ok address) :
    Plans machine ⟨.jnz, operand⟩
      { next := if tested = 0 then machine.ip + 1 else address, pops := 2 } .none
  | push {word : Word} (room : Machine.requireRoom machine.data = .ok ()) :
    Plans machine ⟨.push, some word⟩ { next := machine.ip + 5, push := some word } .none
  | rm {operand : Option Word} {word : Word} (top : machine.operand 0 = .ok word) :
    Plans machine ⟨.rm, operand⟩ { next := machine.ip + 1, pops := 1 } .none
  | pushIp {operand : Option Word} {target : Word} (top : machine.operand 0 = .ok target)
    (nonnegative : ¬target < 0) (room : Machine.requireRoom machine.returns = .ok ()) :
    Plans machine ⟨.pushIp, operand⟩
      { next := machine.ip + 1, pops := 1, returns := .push target.toInt.toNat } .none
  | popIp {operand : Option Word} {address next : Nat} (top : machine.returns.top? = some address)
    (inside : codeAddress address = .ok next) :
    Plans machine ⟨.popIp, operand⟩ { next, returns := .pop } .none
  | rmIp {operand : Option Word} (nonempty : machine.returns.isEmpty = false) :
    Plans machine ⟨.rmIp, operand⟩ { next := machine.ip + 1, returns := .pop } .none
  | pushPm {operand : Option Word} {source word : Word} {address : Nat}
    (top : machine.operand 0 = .ok source) (inside : wordAddress source.toInt = .ok address)
    (read : machine.memory.readWord? address = some word) :
    Plans machine ⟨.pushPm, operand⟩
      { next := machine.ip + 1, pops := 1, push := some word } .none
  | popPm {operand : Option Word} {word target : Word} {address : Nat}
    (top : machine.operand 0 = .ok word) (below : machine.operand 1 = .ok target)
    (inside : wordAddress target.toInt = .ok address) :
    Plans machine ⟨.popPm, operand⟩
      { next := machine.ip + 1, pops := 2, write := some (address, word) } .none
  | input {operand : Option Word} (room : Machine.requireRoom machine.data = .ok ()) :
    Plans machine ⟨.input, operand⟩ { next := machine.ip + 1 } .input
  | peek {operand : Option Word} {word : Word} (top : machine.operand 0 = .ok word) :
    Plans machine ⟨.peek, operand⟩ { next := machine.ip + 1 } (.output word)
  | halt {operand : Option Word} :
    Plans machine ⟨.halt, operand⟩ { next := machine.ip + 1, halts := true } .none

theorem lt_memorySize_of_codeAddress {address : Int} {place : Nat}
    (inside : codeAddress address = .ok place) : place < memorySize := by
  unfold codeAddress at inside
  split at inside
  · cases inside
    omega
  · cases inside

section Plans

variable {machine : Machine} {instruction : Instruction} {effects : Effects} {use : ConsoleUse}

theorem Machine.plans_of_plan (planned : machine.plan instruction = .ok (effects, use)) :
    machine.Plans instruction effects use := by
  rcases instruction with ⟨opcode, operand⟩
  cases opcode with
  | nop =>
      cases planned
      exact .nop
  | binary op =>
      obtain ⟨y, top, planned⟩ := bind_eq_ok_iff.1 planned
      obtain ⟨x, below, planned⟩ := bind_eq_ok_iff.1 planned
      cases planned
      exact .binary top below
  | unary op =>
      obtain ⟨x, top, planned⟩ := bind_eq_ok_iff.1 planned
      cases planned
      exact .unary top
  | jmp =>
      obtain ⟨target, top, planned⟩ := bind_eq_ok_iff.1 planned
      obtain ⟨address, inside, planned⟩ := bind_eq_ok_iff.1 planned
      cases planned
      exact .jmp top inside
  | jz =>
      obtain ⟨target, top, planned⟩ := bind_eq_ok_iff.1 planned
      obtain ⟨tested, below, planned⟩ := bind_eq_ok_iff.1 planned
      obtain ⟨address, inside, planned⟩ := bind_eq_ok_iff.1 planned
      cases planned
      exact .jz top below inside
  | jnz =>
      obtain ⟨target, top, planned⟩ := bind_eq_ok_iff.1 planned
      obtain ⟨tested, below, planned⟩ := bind_eq_ok_iff.1 planned
      obtain ⟨address, inside, planned⟩ := bind_eq_ok_iff.1 planned
      cases planned
      exact .jnz top below inside
  | push =>
      obtain ⟨_, room, planned⟩ := bind_eq_ok_iff.1 planned
      cases operand with
      | none => cases planned
      | some word =>
          cases planned
          exact .push room
  | rm =>
      obtain ⟨word, top, planned⟩ := bind_eq_ok_iff.1 planned
      cases planned
      exact .rm top
  | pushIp =>
      obtain ⟨target, top, planned⟩ := bind_eq_ok_iff.1 planned
      by_cases negative : target < 0
      · rw [if_pos negative] at planned
        cases planned
      · rw [if_neg negative] at planned
        obtain ⟨_, room, planned⟩ := bind_eq_ok_iff.1 planned
        cases planned
        exact .pushIp top negative room
  | popIp =>
      cases top : machine.returns.top? with
      | none =>
          rw [Machine.plan, top] at planned
          cases planned
      | some address =>
          rw [Machine.plan, top] at planned
          obtain ⟨next, inside, planned⟩ := bind_eq_ok_iff.1 planned
          cases planned
          exact .popIp top inside
  | rmIp =>
      cases nonempty : machine.returns.isEmpty with
      | true =>
          rw [Machine.plan, nonempty] at planned
          cases planned
      | false =>
          rw [Machine.plan, nonempty] at planned
          cases planned
          exact .rmIp nonempty
  | pushPm =>
      obtain ⟨source, top, planned⟩ := bind_eq_ok_iff.1 planned
      obtain ⟨address, inside, planned⟩ := bind_eq_ok_iff.1 planned
      split at planned
      · next word read =>
          cases planned
          exact .pushPm top inside read
      · cases planned
  | popPm =>
      obtain ⟨word, top, planned⟩ := bind_eq_ok_iff.1 planned
      obtain ⟨target, below, planned⟩ := bind_eq_ok_iff.1 planned
      obtain ⟨address, inside, planned⟩ := bind_eq_ok_iff.1 planned
      cases planned
      exact .popPm top below inside
  | input =>
      obtain ⟨_, room, planned⟩ := bind_eq_ok_iff.1 planned
      cases planned
      exact .input room
  | peek =>
      obtain ⟨word, top, planned⟩ := bind_eq_ok_iff.1 planned
      cases planned
      exact .peek top
  | halt =>
      cases planned
      exact .halt

theorem Machine.Plans.plan_eq (plans : machine.Plans instruction effects use) :
    machine.plan instruction = .ok (effects, use) := by
  cases plans with
  | nop => rfl
  | binary top below => exact bind_eq_ok_iff.2 ⟨_, top, bind_eq_ok_iff.2 ⟨_, below, rfl⟩⟩
  | unary top => exact bind_eq_ok_iff.2 ⟨_, top, rfl⟩
  | jmp top inside => exact bind_eq_ok_iff.2 ⟨_, top, bind_eq_ok_iff.2 ⟨_, inside, rfl⟩⟩
  | jz top below inside =>
      refine bind_eq_ok_iff.2 ⟨_, top, bind_eq_ok_iff.2 ⟨_, below, ?_⟩⟩
      exact bind_eq_ok_iff.2 ⟨_, inside, rfl⟩
  | jnz top below inside =>
      refine bind_eq_ok_iff.2 ⟨_, top, bind_eq_ok_iff.2 ⟨_, below, ?_⟩⟩
      exact bind_eq_ok_iff.2 ⟨_, inside, rfl⟩
  | push room => exact bind_eq_ok_iff.2 ⟨_, room, rfl⟩
  | rm top => exact bind_eq_ok_iff.2 ⟨_, top, rfl⟩
  | pushIp top nonnegative room =>
      refine bind_eq_ok_iff.2 ⟨_, top, ?_⟩
      rw [if_neg nonnegative]
      exact bind_eq_ok_iff.2 ⟨_, room, rfl⟩
  | popIp top inside =>
      rw [Machine.plan, top]
      exact bind_eq_ok_iff.2 ⟨_, inside, rfl⟩
  | rmIp nonempty =>
      rw [Machine.plan, nonempty]
      rfl
  | pushPm top inside read =>
      refine bind_eq_ok_iff.2 ⟨_, top, bind_eq_ok_iff.2 ⟨_, inside, ?_⟩⟩
      rw [read]
      rfl
  | popPm top below inside =>
      refine bind_eq_ok_iff.2 ⟨_, top, bind_eq_ok_iff.2 ⟨_, below, ?_⟩⟩
      exact bind_eq_ok_iff.2 ⟨_, inside, rfl⟩
  | input room => exact bind_eq_ok_iff.2 ⟨_, room, rfl⟩
  | peek top => exact bind_eq_ok_iff.2 ⟨_, top, rfl⟩
  | halt => rfl

theorem Machine.plan_eq_ok_iff :
    machine.plan instruction = .ok (effects, use) ↔ machine.Plans instruction effects use :=
  ⟨Machine.plans_of_plan, Machine.Plans.plan_eq⟩

/-- A plan goes on behind the instruction or at an address in memory. -/
theorem Machine.Plans.next_le (plans : machine.Plans instruction effects use)
    (fits : machine.ip + instruction.size ≤ memorySize) : effects.next ≤ memorySize := by
  cases plans with
  | nop => exact fits
  | binary top below => exact fits
  | unary top => exact fits
  | jmp top inside => exact Nat.le_of_lt (lt_memorySize_of_codeAddress inside)
  | jz top below inside =>
      dsimp only
      split
      · exact Nat.le_of_lt (lt_memorySize_of_codeAddress inside)
      · exact fits
  | jnz top below inside =>
      dsimp only
      split
      · exact fits
      · exact Nat.le_of_lt (lt_memorySize_of_codeAddress inside)
  | push room => exact fits
  | rm top => exact fits
  | pushIp top nonnegative room => exact fits
  | popIp top inside => exact Nat.le_of_lt (lt_memorySize_of_codeAddress inside)
  | rmIp nonempty => exact fits
  | pushPm top inside read => exact fits
  | popPm top below inside => exact fits
  | input room => exact fits
  | peek top => exact fits
  | halt => exact fits

/-- Only `HALT` halts, and it changes nothing but the instruction pointer. -/
theorem Machine.Plans.of_halts (plans : machine.Plans instruction effects use)
    (halts : effects.halts = true) :
    instruction.opcode = .halt ∧ effects = { next := machine.ip + 1, halts := true } := by
  cases plans with
  | halt => exact ⟨rfl, rfl⟩
  | _ => cases halts

/-- An address that is put on the instruction stack was a word that is not negative. -/
theorem Machine.Plans.lt_of_returns (plans : machine.Plans instruction effects use) {address : Nat}
    (pushed : effects.returns = .push address) : address < 2147483648 := by
  cases plans with
  | @pushIp operand target top nonnegative room =>
      cases pushed
      have bound := target.toInt_lt
      omega
  | _ => cases pushed

theorem Machine.Plans.opcode_of_input (plans : machine.Plans instruction effects .input) :
    instruction.opcode = .input := by
  cases plans
  rfl

theorem Machine.Plans.opcode_of_output {word : Word}
    (plans : machine.Plans instruction effects (.output word)) :
    instruction.opcode = .peek ∧ machine.operand 0 = .ok word := by
  cases plans with
  | peek top => exact ⟨rfl, top⟩

end Plans

/-! ## Refusals before the console is asked -/

/-- A computation that does not fail for the console's sake. -/
def SparesConsole {α : Type} (result : Except FaultCode α) : Prop :=
  ∀ code, result = .error code → code.faultClass ≠ .console

section Refusals

variable {α β : Type}

theorem sparesConsole_pure (value : α) : SparesConsole (pure value) := nofun

theorem sparesConsole_throw (code : FaultCode) (other : code.faultClass ≠ .console) :
    SparesConsole (throw code : Except FaultCode α) := by
  rintro _ ⟨⟩
  exact other

theorem SparesConsole.bind {first : Except FaultCode α} {next : α → Except FaultCode β}
    (start : SparesConsole first) (rest : ∀ value, SparesConsole (next value)) :
    SparesConsole (first >>= next) := by
  intro code failed
  rcases bind_eq_error_iff.1 failed with failed | ⟨value, _, failed⟩
  · exact start code failed
  · exact rest value code failed

theorem Machine.operand_sparesConsole (machine : Machine) (below : Nat) :
    SparesConsole (machine.operand below) := by
  unfold Machine.operand
  split
  · exact sparesConsole_pure _
  · exact sparesConsole_throw _ nofun

theorem Machine.requireRoom_sparesConsole (stack : Stack α) :
    SparesConsole (Machine.requireRoom stack) := by
  unfold Machine.requireRoom
  split
  · exact sparesConsole_pure _
  · exact sparesConsole_throw _ nofun

theorem codeAddress_sparesConsole (address : Int) : SparesConsole (codeAddress address) := by
  unfold codeAddress
  split
  · exact sparesConsole_pure _
  · exact sparesConsole_throw _ nofun

theorem wordAddress_sparesConsole (address : Int) : SparesConsole (wordAddress address) := by
  unfold wordAddress
  split
  · exact sparesConsole_pure _
  · exact sparesConsole_throw _ nofun

theorem Machine.plan_sparesConsole (machine : Machine) (instruction : Instruction) :
    SparesConsole (machine.plan instruction) := by
  have operand := machine.operand_sparesConsole
  have room {α : Type} (stack : Stack α) := Machine.requireRoom_sparesConsole stack
  rcases instruction with ⟨opcode, word⟩
  cases opcode with
  | nop => exact sparesConsole_pure _
  | binary op => exact (operand 0).bind fun _ => (operand 1).bind fun _ => sparesConsole_pure _
  | unary op => exact (operand 0).bind fun _ => sparesConsole_pure _
  | jmp =>
      exact (operand 0).bind fun _ => (codeAddress_sparesConsole _).bind fun _ =>
        sparesConsole_pure _
  | jz =>
      exact (operand 0).bind fun _ => (operand 1).bind fun _ =>
        (codeAddress_sparesConsole _).bind fun _ => sparesConsole_pure _
  | jnz =>
      exact (operand 0).bind fun _ => (operand 1).bind fun _ =>
        (codeAddress_sparesConsole _).bind fun _ => sparesConsole_pure _
  | push =>
      refine (room machine.data).bind fun _ => ?_
      cases word with
      | none => exact sparesConsole_throw _ nofun
      | some word => exact sparesConsole_pure _
  | rm => exact (operand 0).bind fun _ => sparesConsole_pure _
  | pushIp =>
      refine (operand 0).bind fun target => ?_
      by_cases negative : target < 0
      · rw [if_pos negative]
        exact (sparesConsole_throw (.addressOutOfBounds _) nofun).bind fun _ =>
          (room _).bind fun _ => sparesConsole_pure _
      · rw [if_neg negative]
        exact (room machine.returns).bind fun _ => sparesConsole_pure _
  | popIp =>
      cases top : machine.returns.top? with
      | none =>
          rw [Machine.plan, top]
          exact sparesConsole_throw .instructionStackUnderflow nofun
      | some address =>
          rw [Machine.plan, top]
          exact (codeAddress_sparesConsole _).bind fun _ => sparesConsole_pure _
  | rmIp =>
      cases nonempty : machine.returns.isEmpty with
      | true =>
          rw [Machine.plan, nonempty]
          exact (sparesConsole_throw .instructionStackUnderflow nofun).bind fun _ =>
            sparesConsole_pure _
      | false =>
          rw [Machine.plan, nonempty]
          exact sparesConsole_pure _
  | pushPm =>
      refine (operand 0).bind fun _ => (wordAddress_sparesConsole _).bind fun _ => ?_
      split
      · exact sparesConsole_pure _
      · exact sparesConsole_throw _ nofun
  | popPm =>
      exact (operand 0).bind fun _ => (operand 1).bind fun _ =>
        (wordAddress_sparesConsole _).bind fun _ => sparesConsole_pure _
  | input => exact (room machine.data).bind fun _ => sparesConsole_pure _
  | peek => exact (operand 0).bind fun _ => sparesConsole_pure _
  | halt => exact sparesConsole_pure _

end Refusals

end TwoStack
