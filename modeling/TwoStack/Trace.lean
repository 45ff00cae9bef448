import TwoStack.Fault
import TwoStack.Log

/-!
# Traces

A machine reports what it does as events: an instruction starts, and then it either retires or
raises a fault.  A fault without a start before it means that there was no instruction to start.
Events are collected, or passed on to the journal as lines of text.
-/

namespace TwoStack

/-- What a machine reports about one instruction. -/
inductive TraceEvent where
  /-- The instruction at `ip` has been read and is about to be executed. -/
  | start (ip : Nat) (instruction : Instruction)
  /-- The instruction at `ip` is done; `next` comes after it, with `depth` words on the data stack. -/
  | retired (ip next depth : Nat)
  /-- The instruction at `ip` was refused. -/
  | fault (ip : Nat) (code : FaultCode)
  deriving DecidableEq, Repr

namespace TraceEvent

/-- An event as a line of text. -/
def text : TraceEvent → String
  | start ip instruction => s!"{fivePlaces ip}: {instruction.text}"
  | retired _ next depth => s!"       -> {fivePlaces next} (DS depth {depth})"
  | fault ip code => s!"{fivePlaces ip}: fault: {code.message}"

end TraceEvent

/-- Where events go. -/
inductive TraceSink where
  /-- Events are collected in order. -/
  | recorder (events : Array TraceEvent)
  /-- Events become notes about `target`. -/
  | notes (target : String)
  deriving DecidableEq, Repr

end TwoStack
