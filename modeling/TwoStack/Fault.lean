import TwoStack.Disassembly

/-!
# Faults

A fault ends a run for good.  Its code says what was asked for in vain, its address is that of the
instruction that asked, and its snapshot shows the registers as they were before that instruction.
-/

namespace TwoStack

/-- The part of the machine whose rules a fault violates. -/
inductive FaultClass where
  /-- A stack is empty or full. -/
  | stack
  /-- An address lies outside memory. -/
  | memory
  /-- There is no complete instruction at the instruction pointer. -/
  | decode
  /-- The console gave no value or took none. -/
  | console
  deriving DecidableEq, Repr

/-- The reasons why an instruction is refused. -/
inductive FaultCode where
  | dataStackUnderflow
  | instructionStackUnderflow
  | stackOverflow
  /-- A jump target, a return address or a word lies outside memory. -/
  | addressOutOfBounds (address : Int)
  | unknownOpcode (byte : UInt8)
  | truncatedOperand
  | malformedInput
  | outputFailed
  deriving DecidableEq, Repr

namespace FaultClass

/-- The name of a class in fault reports. -/
def name : FaultClass → String
  | stack => "stack"
  | memory => "memory"
  | decode => "decode"
  | console => "console"

end FaultClass

namespace FaultCode

/-- The wording of a fault. -/
def message : FaultCode → String
  | dataStackUnderflow => "attempted to pop empty data stack"
  | instructionStackUnderflow => "attempted to pop empty instruction stack"
  | stackOverflow => "stack capacity exceeded"
  | addressOutOfBounds address => s!"address {address} is out of bounds"
  | unknownOpcode byte => s!"unknown instruction 0x{hexByte byte}"
  | truncatedOperand => "PUSH used without a proper operand"
  | malformedInput => "invalid input"
  | outputFailed => "failed to write output"

/-- The wording of a fault of the instruction at an address. -/
def messageAt (code : FaultCode) (address : Nat) : String :=
  s!"{code.message} ; instruction #{address}"

/-- The class of a fault. -/
def faultClass : FaultCode → FaultClass
  | dataStackUnderflow | instructionStackUnderflow | stackOverflow => .stack
  | addressOutOfBounds _ => .memory
  | unknownOpcode _ | truncatedOperand => .decode
  | malformedInput | outputFailed => .console

end FaultCode

/-- The registers and stacks of a machine at one moment; stacks are listed bottom first. -/
structure Snapshot where
  ip : Nat
  dataStack : Array Word
  returnStack : Array Nat
  steps : Nat
  deriving DecidableEq, Repr

namespace Snapshot

/-- A snapshot in three lines: the registers, the data stack, the instruction stack. -/
def text (snapshot : Snapshot) : String :=
  let data := snapshot.dataStack.foldl (fun text word => text ++ " " ++ word.text) ""
  let returns := snapshot.returnStack.foldl (fun text address => text ++ " " ++ toString address) ""
  s!"IP = {snapshot.ip}  steps = {snapshot.steps}\nDS (bottom..top):{data}\nIS (bottom..top):{returns}"

end Snapshot

/-- A fault, where it arose, and the machine just before it. -/
structure Fault where
  code : FaultCode
  address : Nat
  snapshot : Snapshot
  deriving DecidableEq, Repr

namespace Fault

/-- The wording of a fault with the address of its instruction. -/
def message (fault : Fault) : String := fault.code.messageAt fault.address

end Fault

end TwoStack
