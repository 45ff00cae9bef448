import TwoStack.Log.Filter
import TwoStack.Text.Field

/-!
# The journal

Parts of the program note what they do.  A note has a level, the target that it is about and a text;
the journal keeps the notes that its filter admits, in order.
-/

namespace TwoStack

namespace Log

/-- One entry of the journal. -/
structure Note where
  level : Level
  target : String
  text : String
  deriving DecidableEq, Repr

namespace Note

/-- A note as it is shown, with the level padded to the width of the longest.  The further lines of a
text are indented. -/
def shown (note : Note) : String :=
  let text := s!"[{padRight 5 note.level.name} {note.target}] {note.text}"
  "\n    ".intercalate (text.splitOn "\n")

end Note

end Log

/-- A filter and the notes that passed it. -/
structure Journal where
  filter : Log.Filter
  notes : Array Log.Note
  deriving DecidableEq, Repr

namespace Journal

/-- An empty journal. -/
def empty (filter : Log.Filter) : Journal := ⟨filter, #[]⟩

/-- Adds a note if the filter admits it; the text is asked for only when its level is kept. -/
def add (journal : Journal) (level : Log.Level) (target : String) (text : Unit → String) : Journal :=
  if (journal.filter.threshold target).admits level then
    let text := text ()
    if journal.filter.admitsText text then
      { journal with notes := journal.notes.push ⟨level, target, text⟩ }
    else
      journal
  else
    journal

end Journal

end TwoStack
