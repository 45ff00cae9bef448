import TwoStack.Text.Numeral
import TwoStack.Text.Quoted

/-!
# Consoles

`INPUT` takes one word from the console and `PEEK` gives it one.  Whatever can do both, and may fail
at either, is a console; the machine is written for all of them at once.
-/

namespace TwoStack

/-- The reasons why a console gives no word or takes none. -/
inductive ConsoleError where
  /-- The next word of the text is not the numeral of a machine word. -/
  | malformed (token : String)
  /-- No input is left. -/
  | closed
  /-- A line of input is not UTF-8. -/
  | undecodable
  /-- The output has no room for the whole line. -/
  | sinkFull
  /-- The output was stored but not passed on. -/
  | flushRefused
  deriving DecidableEq, Repr

namespace ConsoleError

/-- The wording of a console error. -/
def message : ConsoleError → String
  | malformed token => "not a 32-bit integer: " ++ Quoted.quote token
  | closed => "input stream closed"
  | undecodable => "stream did not contain valid UTF-8"
  | sinkFull => "failed to write whole buffer"
  | flushRefused => "flush refused"

end ConsoleError

/-- States of a console: each request is answered, and leaves a new state. -/
class Console (σ : Type) where
  /-- Takes one word from the console. -/
  read : σ → Except ConsoleError Word × σ
  /-- Gives the console one word. -/
  write : σ → Word → Except ConsoleError Unit × σ

/-- A console of either of two kinds. -/
instance {σ τ : Type} [Console σ] [Console τ] : Console (σ ⊕ τ) where
  read
    | .inl console => let (answer, console) := Console.read console; (answer, .inl console)
    | .inr console => let (answer, console) := Console.read console; (answer, .inr console)
  write
    | .inl console, word =>
      let (answer, console) := Console.write console word; (answer, .inl console)
    | .inr console, word =>
      let (answer, console) := Console.write console word; (answer, .inr console)

end TwoStack
