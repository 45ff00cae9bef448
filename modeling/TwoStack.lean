import TwoStack.Console.Scripted
import TwoStack.Json.Parser
import TwoStack.Main
import TwoStack.Proofs.Assembly.Account
import TwoStack.Proofs.Assembly.Calls
import TwoStack.Proofs.Assembly.Completion
import TwoStack.Proofs.Assembly.Extension
import TwoStack.Proofs.Assembly.FirstError
import TwoStack.Proofs.Assembly.History
import TwoStack.Proofs.Assembly.InstructionStream
import TwoStack.Proofs.Assembly.Linking
import TwoStack.Proofs.Assembly.Relabeling
import TwoStack.Proofs.Assembly.Relocation
import TwoStack.Proofs.Assembly.Slots
import TwoStack.Proofs.Assembly.TwoPass
import TwoStack.Proofs.Assembly.Unfailing
import TwoStack.Proofs.Console.Accounting
import TwoStack.Proofs.Console.Delivery
import TwoStack.Proofs.Console.Interchange
import TwoStack.Proofs.Disassembly.Inverse
import TwoStack.Proofs.Disassembly.Linear
import TwoStack.Proofs.Disassembly.RoundTrip
import TwoStack.Proofs.Disk.AllOrNothing
import TwoStack.Proofs.Display.Pixels
import TwoStack.Proofs.Json.Lossless
import TwoStack.Proofs.Json.Reading
import TwoStack.Proofs.Machine.Atomicity
import TwoStack.Proofs.Machine.Attempt
import TwoStack.Proofs.Machine.Forward
import TwoStack.Proofs.Machine.Invariant
import TwoStack.Proofs.Machine.LastWrite
import TwoStack.Proofs.Machine.Linkage
import TwoStack.Proofs.Machine.Observers
import TwoStack.Proofs.Machine.Plan
import TwoStack.Proofs.Machine.Reachable
import TwoStack.Proofs.Machine.Reference
import TwoStack.Proofs.Machine.Refinement
import TwoStack.Proofs.Machine.StackFrame
import TwoStack.Proofs.Machine.StepLimit
import TwoStack.Proofs.Machine.Stopping
import TwoStack.Proofs.Machine.StraightOn
import TwoStack.Proofs.Machine.Strict
import TwoStack.Proofs.Memory.Words
import TwoStack.Proofs.Source.Labels
import TwoStack.Proofs.Source.Runs
import TwoStack.Proofs.Stack.Requests
import TwoStack.Proofs.Text.Literal
import TwoStack.Proofs.Word.Counting
import TwoStack.Proofs.Word.Integers
