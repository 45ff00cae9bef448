/-!
# Lines

A line of a text ends with a line feed, and a carriage return before the line feed belongs to the line
end.  What follows the last line feed is a line only if there is something.
-/

namespace TwoStack

/-- A line without the carriage return at its end. -/
def withoutReturn (line : String) : String :=
  if line.toList.getLast? = some '\r' then String.ofList line.toList.dropLast else line

/-- The lines of a text. -/
def linesOf (text : String) : List String :=
  let lines := text.splitOn "\n"
  lines.dropLast.map withoutReturn ++ (lines.getLast?.toList.filter fun line => !line.isEmpty)

end TwoStack
