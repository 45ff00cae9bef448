import TwoStack.Machine.Step

/-!
# Runs

A run is a series of steps that ends at a boundary or at a fault.  A machine with a step limit also
pauses after that many instructions; the next run goes on from there.  The limit is looked at before
each step, so a machine that halts with its last allowed instruction has halted, and a machine that
has stopped is not paused.

The number of steps of a run has no bound that could be computed from the machine.  `runFor` makes at
most as many attempts as it is told and otherwise answers `none`, with the machine where it stands.
-/

namespace TwoStack

/-- Where a run ends without a fault. -/
inductive Boundary where
  | halted
  | endOfMemory
  | stepLimit
  deriving DecidableEq, Repr

/-- The end of a run, with the number of instructions that it retired. -/
inductive RunResult where
  | stopped (boundary : Boundary) (steps : Nat)
  | faulted (fault : Fault)
  deriving DecidableEq, Repr

namespace Machine

variable {σ : Type}

/-- Whether a machine that can go on has used up its limit in a run that began after `start`
instructions. -/
def atLimit (machine : Machine) (start : Nat) : Bool :=
  machine.status.runState == .running
    && machine.config.maxSteps.any fun limit => decide (limit ≤ machine.steps - start)

/-- Goes on with a run that began after `start` instructions, for at most `fuel` attempts. -/
def runFrom [Console σ] (start : Nat) :
    Nat → Machine → Host σ → Option RunResult × Machine × Host σ
  | 0, machine, host => (none, machine, host)
  | fuel + 1, machine, host =>
    if machine.atLimit start then
      (some (.stopped .stepLimit (machine.steps - start)), machine, host)
    else
      match machine.step host with
      | (.retired _, machine, host) => runFrom start fuel machine host
      | (.halted, machine, host) =>
        (some (.stopped .halted (machine.steps - start)), machine, host)
      | (.endOfMemory, machine, host) =>
        (some (.stopped .endOfMemory (machine.steps - start)), machine, host)
      | (.faulted fault, machine, host) => (some (.faulted fault), machine, host)

/-- Runs a machine for at most `fuel` attempts. -/
def runFor [Console σ] (fuel : Nat) (machine : Machine) (host : Host σ) :
    Option RunResult × Machine × Host σ :=
  machine.runFrom machine.steps fuel host

/-- More attempts than any run lives to make. -/
def patience : Nat := 4611686018427387904

/-- Runs a machine to its end. -/
def run [Console σ] (machine : Machine) (host : Host σ) : Option RunResult × Machine × Host σ :=
  machine.runFor patience host

end Machine

end TwoStack
