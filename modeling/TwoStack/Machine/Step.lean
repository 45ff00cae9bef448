import TwoStack.Host
import TwoStack.Machine.Execute

/-!
# Steps

A running machine attempts the instruction at its instruction pointer.  `Machine.attempt` says how
that goes, with the console; `Machine.after` is the machine afterwards; and `Host.observe` tells the
observers.  The three do not depend on each other in any other way, so observers cannot influence a
run.  A machine that has stopped answers every further step in the same way and touches nothing.
-/

namespace TwoStack

/-- How the attempt to execute one instruction went. -/
inductive Attempt where
  /-- The instruction pointer lies outside memory. -/
  | outside
  /-- The bytes at the instruction pointer are no instruction. -/
  | unreadable (code : FaultCode)
  /-- The instruction was refused. -/
  | refused (instruction : Instruction) (code : FaultCode)
  /-- The instruction can be committed. -/
  | completed (instruction : Instruction) (effects : Effects)
  deriving DecidableEq, Repr

/-- What one step comes to. -/
inductive StepOutcome where
  /-- The instruction is done, and the machine goes on. -/
  | retired (opcode : Opcode)
  | halted
  | endOfMemory
  | faulted (fault : Fault)
  deriving DecidableEq, Repr

namespace Machine

variable {σ : Type}

/-- Reads the instruction at the instruction pointer and executes it without changing the machine. -/
def attempt [Console σ] (machine : Machine) (console : σ) : Attempt × σ :=
  match Instruction.decode machine.memory.bytes machine.ip with
  | .error .outOfRange => (.outside, console)
  | .error (.unknownOpcode byte) => (.unreadable (.unknownOpcode byte), console)
  | .error .truncatedOperand => (.unreadable .truncatedOperand, console)
  | .ok instruction =>
    match machine.execute instruction console with
    | (.ok effects, console) => (.completed instruction effects, console)
    | (.error code, console) => (.refused instruction code, console)

/-- The machine stopped by a fault of the instruction at its instruction pointer. -/
def raise (machine : Machine) (code : FaultCode) : Machine :=
  { machine with status := .faulted ⟨code, machine.ip, machine.snapshot⟩ }

/-- The machine after an attempt. -/
def after (machine : Machine) : Attempt → Machine
  | .outside => { machine with status := .endOfMemory }
  | .unreadable code => machine.raise code
  | .refused _ code => machine.raise code
  | .completed _ effects =>
    let machine := machine.commit effects
    if effects.halts then { machine with status := .halted }
    else if memorySize ≤ machine.ip then { machine with status := .endOfMemory }
    else machine

/-- What an attempt comes to, given the machine after it. -/
def outcome (machine : Machine) : Attempt → StepOutcome
  | .outside => .endOfMemory
  | .unreadable code | .refused _ code => .faulted ⟨code, machine.ip, machine.snapshot⟩
  | .completed instruction effects =>
    if effects.halts then .halted
    else if memorySize ≤ machine.ip then .endOfMemory
    else .retired instruction.opcode

end Machine

namespace Host

variable {σ : Type}

/-- Tells the observers that the instruction at `ip` starts. -/
def started (host : Host σ) (ip : Nat) (instruction : Instruction) : Host σ :=
  (host.emit (.start ip instruction)).note .trace Machine.noteTarget fun _ =>
    s!"{fivePlaces ip} {instruction.text}"

/-- Tells the observers that the instruction at `ip` raised a fault. -/
def faulted (host : Host σ) (ip : Nat) (code : FaultCode) : Host σ :=
  (host.note .warn Machine.noteTarget fun _ => code.messageAt ip).emit (.fault ip code)

/-- Tells the observers about an attempt at the instruction at `ip`, given the machine after it. -/
def observe (host : Host σ) (ip : Nat) (attempt : Attempt) (machine : Machine) : Host σ :=
  match attempt with
  | .outside => host
  | .unreadable code => host.faulted ip code
  | .refused instruction code => (host.started ip instruction).faulted ip code
  | .completed instruction effects =>
    let host := (host.started ip instruction).emit (.retired ip machine.ip machine.data.depth)
    if effects.halts then
      host.note .debug Machine.noteTarget fun _ => s!"halted at {ip} after {machine.steps} steps"
    else if memorySize ≤ machine.ip then
      host.note .debug Machine.noteTarget fun _ =>
        s!"ran off the end of memory after {machine.steps} steps"
    else
      host

end Host

namespace Machine

variable {σ : Type}

/-- Executes one instruction, unless the machine has stopped. -/
def step [Console σ] (machine : Machine) (host : Host σ) : StepOutcome × Machine × Host σ :=
  match machine.status with
  | .halted => (.halted, machine, host)
  | .endOfMemory => (.endOfMemory, machine, host)
  | .faulted fault => (.faulted fault, machine, host)
  | .running =>
    let ip := machine.ip
    let host := host.present fun _ => machine.memory.frame
    let (attempt, console) := machine.attempt host.console
    let machine := machine.after attempt
    (machine.outcome attempt, machine, { host with console }.observe ip attempt machine)

end Machine

end TwoStack
