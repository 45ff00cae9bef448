import TwoStack.Console.Stream
import TwoStack.Json.Form
import TwoStack.Json.Printer
import TwoStack.Machine.Run
import TwoStack.Png
import TwoStack.Tools.Arguments
import TwoStack.Tools.Session

/-!
# The machine on the command line

Loads an image and runs it, with standard input and output as its console.  Afterwards the last
frame can be saved as a picture and the registers as JSON, whether or not the run ended in a fault.
-/

namespace TwoStack.EmulatorTool

/-- The target of the tool's notes. -/
def noteTarget : String := "qproc_emu"

/-- How the tool is called. -/
def usage : String :=
  "usage: ROM [--max-steps STEPS] [--frame PICTURE] [--dump-state STATE] [--trace]"

/-- The options of the tool. -/
def options : List OptionSpec :=
  [{ long := "max-steps", takesValue := true }, { long := "frame", takesValue := true },
    { long := "dump-state", takesValue := true }, { long := "trace", takesValue := false }]

/-- What is asked of the tool. -/
structure Request where
  rom : String
  maxSteps : Option Nat
  /-- Where to save the last frame. -/
  picture : Option String
  /-- Where to save the registers. -/
  state : Option String
  trace : Bool
  deriving DecidableEq, Repr

/-- Reads a number of steps, of at most 64 bits; a plus may stand before it. -/
def stepCount? (text : String) : Option Nat := do
  let digits := match text.toList with
    | '+' :: digits => digits
    | digits => digits
  let count ← Numeral.natural? 10 digits
  if count < 18446744073709551616 then return count else none

/-- Reads the arguments of the tool. -/
def request? (arguments : List String) : Option Request := do
  let arguments ← Arguments.read? options arguments
  match arguments.operands with
  | [rom] =>
    let maxSteps ← match arguments.value? "max-steps" with
      | some text => (stepCount? text).map some
      | none => some none
    return ⟨rom, maxSteps, arguments.value? "frame", arguments.value? "dump-state",
      arguments.has "trace"⟩
  | _ => none

/-- Saves the frame shown last; if none has been shown, the frame that would be. -/
def saveFrame (session : Session) (screen : Option Screen) (machine : Machine) (path : String) :
    Except SessionEnd Session :=
  let frame := (screen.bind Screen.last).getD machine.memory.frame
  match session.disk.writeFile path (Png.encode frame.picture) with
  | .error cause => .error (session.fail s!"failed to write {path}: {cause.message}")
  | .ok disk => .ok ({ session with disk }.note .debug noteTarget s!"saved frame to {path}")

/-- Saves the registers and stacks. -/
def saveState (session : Session) (machine : Machine) (path : String) : Except SessionEnd Session :=
  let text := (JsonForm.toJson machine.snapshot).print .indented
  match session.disk.writeFile path text.toUTF8.data with
  | .error cause => .error (session.fail s!"failed to create {path}: {cause.message}")
  | .ok disk => .ok { session with disk }

/-- Reports how a run ended. -/
def report (session : Session) : RunResult → SessionEnd
  | .stopped boundary steps =>
    let text := match boundary with
      | .halted => s!"halted after {steps} steps"
      | .endOfMemory => s!"ran off the end of memory after {steps} steps"
      | .stepLimit => s!"stopped at step limit after {steps} steps"
    (session.note .info noteTarget text).finish 0
  | .faulted fault =>
    (session.complain s!"error: {fault.code.faultClass.name} fault: {fault.message}").fail
      fault.snapshot.text

/-- Does what is asked after a run: saves the frame, saves the registers, reports the end. -/
def conclude (session : Session) (request : Request) (screen : Option Screen) (machine : Machine)
    (result : RunResult) : Except SessionEnd SessionEnd := do
  let session ← match request.picture with
    | some path => saveFrame session screen machine path
    | none => .ok session
  let session ← match request.state with
    | some path => saveState session machine path
    | none => .ok session
  return report session result

/-- Loads an image and runs it; there is no end if the run has none. -/
def execute (session : Session) (request : Request) (input : List UInt8) : Option SessionEnd :=
  let config : Config := { maxSteps := request.maxSteps }
  match Machine.bootFile session.disk request.rom config session.journal with
  | (.error error, journal) => (session.flush journal).fail error.report
  | (.ok machine, journal) =>
    let host : Host Stream :=
      { console := .ofInput input .unlimited
        screen := request.picture.map fun _ => .blank
        trace := if request.trace then some (.notes noteTarget) else none
        journal }
    match machine.run host with
    | (none, _, _) => none
    | (some result, machine, host) =>
      let session := (session.flush host.journal).print host.console.sink.text
      match conclude session request host.screen machine result with
      | .ok ended | .error ended => some ended

/-- Runs the tool. -/
def run (disk : Disk) (arguments : List String) (input : List UInt8) (log : Option String) :
    Option SessionEnd :=
  match request? arguments with
  | some request =>
    execute (Session.start disk log (if request.trace then "info,qproc_emu=debug" else "info"))
      request input
  | none => (Session.start disk log "info").misuse usage

end TwoStack.EmulatorTool
