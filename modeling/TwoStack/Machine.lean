import TwoStack.Image
import TwoStack.Log
import TwoStack.Stack

/-!
# The machine

A machine has program memory, a data stack of words and an instruction stack of addresses, the
address of the next instruction, and the number of instructions retired so far.  It runs until an
instruction halts it, until the instruction pointer leaves memory, or until a fault.
-/

namespace TwoStack

/-- The number of entries a stack holds unless something else is asked for. -/
def defaultStackCapacity : Nat := 4096

/-- The limits of a machine. -/
structure Config where
  /-- The number of instructions after which a run pauses. -/
  maxSteps : Option Nat := none
  dataCapacity : Nat := defaultStackCapacity
  returnCapacity : Nat := defaultStackCapacity
  deriving DecidableEq, Repr

/-- Whether a machine goes on, and why it does not. -/
inductive Status where
  | running
  | halted
  /-- The instruction pointer has left memory. -/
  | endOfMemory
  | faulted (fault : Fault)
  deriving DecidableEq, Repr

/-- A status without the particulars of the fault. -/
inductive RunState where
  | running
  | halted
  | endOfMemory
  | faultLatched (code : FaultCode)
  deriving DecidableEq, Repr

namespace RunState

/-- Whether a machine in this state never executes again. -/
def isTerminal : RunState → Bool
  | running => false
  | halted | endOfMemory | faultLatched _ => true

end RunState

namespace Status

/-- The status without the particulars of the fault. -/
def runState : Status → RunState
  | running => .running
  | halted => .halted
  | endOfMemory => .endOfMemory
  | faulted fault => .faultLatched fault.code

/-- The fault that stopped the machine. -/
def fault? : Status → Option Fault
  | faulted fault => some fault
  | running | halted | endOfMemory => none

end Status

/-- A machine at one moment. -/
structure Machine where
  memory : Memory
  data : Stack Word
  returns : Stack Nat
  ip : Nat
  steps : Nat
  status : Status
  config : Config

namespace Machine

/-- The target of the notes about machines. -/
def noteTarget : String := "qproc_core::machine"

/-- A machine with a program at address `0`, empty stacks, and nothing executed yet. -/
def load (program : Image) (config : Config) : Machine :=
  { memory := .ofBytes program.bytes
    data := .empty config.dataCapacity
    returns := .empty config.returnCapacity
    ip := 0
    steps := 0
    status := .running
    config }

/-- Loads a program and makes a note of it. -/
def boot (program : Image) (config : Config) (journal : Journal) : Machine × Journal :=
  (load program config, journal.add .debug noteTarget fun _ =>
    s!"machine ready: {program.size} byte image, stacks {config.dataCapacity}/{config.returnCapacity}")

/-- The registers and stacks as they are now. -/
def snapshot (machine : Machine) : Snapshot :=
  { ip := machine.ip
    dataStack := machine.data.entries
    returnStack := machine.returns.entries
    steps := machine.steps }

end Machine

end TwoStack
