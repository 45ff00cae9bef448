import TwoStack.Console

/-!
# Scripted consoles

A scripted console answers `INPUT` from a list of words and collects what `PEEK` gives it.  It never
refuses output, and refuses input only when the list is used up.
-/

namespace TwoStack

/-- The words still to be read, and the words written so far. -/
structure Scripted where
  inputs : List Word
  outputs : Array Word
  deriving DecidableEq, Repr

namespace Scripted

/-- A console that will answer with the given words. -/
def ofInputs (inputs : List Word) : Scripted := ⟨inputs, #[]⟩

/-- Takes the first word of the list. -/
def read : Scripted → Except ConsoleError Word × Scripted
  | ⟨[], outputs⟩ => (.error .closed, ⟨[], outputs⟩)
  | ⟨word :: inputs, outputs⟩ => (.ok word, ⟨inputs, outputs⟩)

/-- Appends a word to the output. -/
def write : Scripted → Word → Except ConsoleError Unit × Scripted
  | ⟨inputs, outputs⟩, word => (.ok (), ⟨inputs, outputs.push word⟩)

instance : Console Scripted := ⟨read, write⟩

end Scripted

end TwoStack
