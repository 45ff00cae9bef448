import TwoStack.Console
import TwoStack.Display
import TwoStack.Trace

/-!
# The host of a machine

The host is everything outside the machine that a step may touch: the console that instructions talk
to, and three observers, which only watch.  A screen is shown the frame buffer, a trace is told the
events, and the journal takes notes.
-/

namespace TwoStack

/-- A console and the observers of a machine. -/
structure Host (σ : Type) where
  console : σ
  screen : Option Screen
  trace : Option TraceSink
  journal : Journal

namespace Host

variable {σ : Type}

/-- A host with a console, and without screen or trace. -/
def ofConsole (console : σ) (journal : Journal) : Host σ := ⟨console, none, none, journal⟩

/-- Shows a frame on the screen, if there is one. -/
def present (host : Host σ) (frame : Unit → Frame) : Host σ :=
  match host.screen with
  | some screen => { host with screen := some (screen.present (frame ())) }
  | none => host

/-- Tells the trace an event, if there is a trace. -/
def emit (host : Host σ) (event : TraceEvent) : Host σ :=
  match host with
  | ⟨console, screen, some (.recorder events), journal⟩ =>
    ⟨console, screen, some (.recorder (events.push event)), journal⟩
  | ⟨console, screen, some (.notes target), journal⟩ =>
    ⟨console, screen, some (.notes target), journal.add .debug target fun _ => event.text⟩
  | ⟨console, screen, none, journal⟩ => ⟨console, screen, none, journal⟩

/-- Makes a note in the journal. -/
def note (host : Host σ) (level : Log.Level) (target : String) (text : Unit → String) : Host σ :=
  { host with journal := host.journal.add level target text }

end Host

end TwoStack
