import TwoStack.Console
import TwoStack.Machine

/-!
# Executing one instruction

An instruction is executed in three parts.  `Machine.plan` looks at the machine only: it reads the
operands without popping them, checks every address and the room on the stacks, and says what the
instruction will do and what it needs from the console.  `Machine.execute` then turns to the console.
`Machine.commit` applies the effects.  Since nothing is changed before every check has passed, and
the console is asked last, an instruction that is refused leaves no trace.

Operands are checked from the top of the stack down, and an address once all operands are there.
-/

namespace TwoStack

/-- What happens to the instruction stack. -/
inductive ReturnChange where
  | keep
  | push (address : Nat)
  | pop
  deriving DecidableEq, Repr

/-- Everything that an instruction does to a machine. -/
structure Effects where
  /-- The number of words taken off the data stack. -/
  pops : Nat := 0
  /-- The word put on the data stack after that. -/
  push : Option Word := none
  returns : ReturnChange := .keep
  /-- The word stored in memory, with its address. -/
  write : Option (Nat × Word) := none
  /-- The address of the next instruction. -/
  next : Nat
  halts : Bool := false
  deriving DecidableEq, Repr

/-- What an instruction needs from the console. -/
inductive ConsoleUse where
  | none
  /-- A word, which will be put on the data stack. -/
  | input
  /-- A place for a word. -/
  | output (word : Word)
  deriving DecidableEq, Repr

namespace Machine

/-- The word that lies `below` places below the top of the data stack. -/
def operand (machine : Machine) (below : Nat) : Except FaultCode Word :=
  match machine.data.peek? below with
  | some word => .ok word
  | none => .error .dataStackUnderflow

/-- Checks that one more entry fits on a stack. -/
def requireRoom {α : Type} (stack : Stack α) : Except FaultCode Unit :=
  if stack.hasRoom 0 1 then .ok () else .error .stackOverflow

/-- Checks an instruction against the machine, and says what it will do. -/
def plan (machine : Machine) (instruction : Instruction) : Except FaultCode (Effects × ConsoleUse) := do
  let next := machine.ip + instruction.size
  match instruction.opcode with
  | .nop => return ({ next }, .none)
  | .binary op =>
    let y ← machine.operand 0
    let x ← machine.operand 1
    return ({ next, pops := 2, push := op.apply x y }, .none)
  | .unary op =>
    let x ← machine.operand 0
    return ({ next, pops := 1, push := op.apply x }, .none)
  | .jmp =>
    let target ← machine.operand 0
    return ({ next := ← codeAddress target.toInt, pops := 1 }, .none)
  | .jz =>
    let target ← machine.operand 0
    let tested ← machine.operand 1
    let target ← codeAddress target.toInt
    return ({ next := if tested = 0 then target else next, pops := 2 }, .none)
  | .jnz =>
    let target ← machine.operand 0
    let tested ← machine.operand 1
    let target ← codeAddress target.toInt
    return ({ next := if tested = 0 then next else target, pops := 2 }, .none)
  | .push =>
    requireRoom machine.data
    match instruction.operand with
    | some word => return ({ next, push := word }, .none)
    | none => throw .truncatedOperand
  | .rm =>
    let _ ← machine.operand 0
    return ({ next, pops := 1 }, .none)
  | .pushIp =>
    let target ← machine.operand 0
    if target < 0 then throw (.addressOutOfBounds target.toInt)
    requireRoom machine.returns
    return ({ next, pops := 1, returns := .push target.toInt.toNat }, .none)
  | .popIp =>
    match machine.returns.top? with
    | some address => return ({ next := ← codeAddress address, returns := .pop }, .none)
    | none => throw .instructionStackUnderflow
  | .rmIp =>
    if machine.returns.isEmpty then throw .instructionStackUnderflow
    return ({ next, returns := .pop }, .none)
  | .pushPm =>
    let source ← machine.operand 0
    let address ← wordAddress source.toInt
    match machine.memory.readWord? address with
    | some word => return ({ next, pops := 1, push := word }, .none)
    | none => throw (.addressOutOfBounds source.toInt)
  | .popPm =>
    let word ← machine.operand 0
    let target ← machine.operand 1
    let address ← wordAddress target.toInt
    return ({ next, pops := 2, write := (address, word) }, .none)
  | .input =>
    requireRoom machine.data
    return ({ next }, .input)
  | .peek =>
    let word ← machine.operand 0
    return ({ next }, .output word)
  | .halt => return ({ next, halts := true }, .none)

/-- Checks an instruction and, when nothing else stands against it, turns to the console. -/
def execute {σ : Type} [Console σ] (machine : Machine) (instruction : Instruction) (console : σ) :
    Except FaultCode Effects × σ :=
  match machine.plan instruction with
  | .error code => (.error code, console)
  | .ok (effects, .none) => (.ok effects, console)
  | .ok (effects, .input) =>
    match Console.read console with
    | (.ok word, console) => (.ok { effects with push := some word }, console)
    | (.error _, console) => (.error .malformedInput, console)
  | .ok (effects, .output word) =>
    match Console.write console word with
    | (.ok (), console) => (.ok effects, console)
    | (.error _, console) => (.error .outputFailed, console)

/-- Applies the effects of an instruction and counts it as retired.  An effect that cannot be applied
in full changes nothing. -/
def commit : Machine → Effects → Machine
  | ⟨memory, data, returns, _, steps, status, config⟩, effects =>
    { memory := match effects.write with
        | some (address, word) => (memory.writeWord? address word).getD memory
        | none => memory
      data := match effects.push with
        | some word => (data.drop effects.pops).push word
        | none => data.drop effects.pops
      returns := match effects.returns with
        | .keep => returns
        | .push address => returns.push address
        | .pop => returns.pop
      ip := effects.next
      steps := steps + 1
      status
      config }

end Machine

end TwoStack
