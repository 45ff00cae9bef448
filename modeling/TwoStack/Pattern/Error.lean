import TwoStack.Text.Lines

/-!
# Errors of patterns

A pattern that cannot be read is shown with marks under the part that is wrong, and for some errors
under an earlier part as well.  A pattern of several lines is shown with the numbers of its lines.
-/

namespace TwoStack

/-- A place in a pattern, by line and column, both counted from one. -/
structure Position where
  line : Nat := 1
  column : Nat := 1
  deriving DecidableEq, Repr, Inhabited

/-- A part of a pattern, from a place up to another. -/
structure Stretch where
  start : Position
  stop : Position
  deriving DecidableEq, Repr, Inhabited

namespace Position

/-- The place after a character. -/
def after (position : Position) (c : Char) : Position :=
  if c = '\n' then ⟨position.line + 1, 1⟩ else ⟨position.line, position.column + 1⟩

/-- The empty part at a place. -/
def stretch (position : Position) : Stretch := ⟨position, position⟩

/-- Whether a place comes before another. -/
def before (a b : Position) : Bool := a.line < b.line || a.line == b.line && a.column < b.column

end Position

namespace Stretch

/-- Whether a part begins before another, or begins with it and ends before it. -/
def before (a b : Stretch) : Bool :=
  a.start.before b.start || a.start == b.start && a.stop.before b.stop

/-- Whether a part lies on one line. -/
def onOneLine (stretch : Stretch) : Bool := stretch.start.line == stretch.stop.line

end Stretch

/-- The number of levels to which the parts of a pattern can be nested. -/
def nestingLimit : Nat := 250

/-- The number of bytes that an automaton for a pattern can occupy. -/
def patternSizeLimit : Nat := 10485760

/-- What can be wrong with a pattern. -/
inductive PatternFlaw where
  | classEscape
  | classOrder
  | classBoundary
  | classOpen
  | countTooLarge
  | hexEmpty
  | hexNoCharacter
  | hexDigit
  | escapeCut
  | escapeUnknown
  | negationDangling
  | flagRepeated
  | negationRepeated
  | flagsCut
  | flagUnknown
  | nameRepeated
  | nameEmpty
  | nameCharacter
  | nameCut
  | groupOpen
  | groupNotOpen
  | nestedTooDeep
  | countOrder
  | countMissing
  | countOpen
  | nothingToRepeat
  | boundaryOpen
  | boundaryUnknown
  | boundaryCut
  | propertyLetter
  | backreference
  | lookAround
  | propertyOfBytes
  | bytesNotText
  | propertyUnknown
  | propertyValueUnknown
  | shortClassUnknown
  | casesUnknown
  deriving DecidableEq, Repr

namespace PatternFlaw

/-- The wording of what is wrong. -/
def message : PatternFlaw → String
  | classEscape => "invalid escape sequence found in character class"
  | classOrder => "invalid character class range, the start must be <= the end"
  | classBoundary => "invalid range boundary, must be a literal"
  | classOpen => "unclosed character class"
  | countTooLarge => "decimal literal invalid"
  | hexEmpty => "hexadecimal literal empty"
  | hexNoCharacter => "hexadecimal literal is not a Unicode scalar value"
  | hexDigit => "invalid hexadecimal digit"
  | escapeCut => "incomplete escape sequence, reached end of pattern prematurely"
  | escapeUnknown => "unrecognized escape sequence"
  | negationDangling => "dangling flag negation operator"
  | flagRepeated => "duplicate flag"
  | negationRepeated => "flag negation operator repeated"
  | flagsCut => "expected flag but got end of regex"
  | flagUnknown => "unrecognized flag"
  | nameRepeated => "duplicate capture group name"
  | nameEmpty => "empty capture group name"
  | nameCharacter => "invalid capture group character"
  | nameCut => "unclosed capture group name"
  | groupOpen => "unclosed group"
  | groupNotOpen => "unopened group"
  | nestedTooDeep => s!"exceed the maximum number of nested parentheses/brackets ({nestingLimit})"
  | countOrder => "invalid repetition count range, the start must be <= the end"
  | countMissing => "repetition quantifier expects a valid decimal"
  | countOpen => "unclosed counted repetition"
  | nothingToRepeat => "repetition operator missing expression"
  | boundaryOpen =>
    "special word boundary assertion is either unclosed or contains an invalid character"
  | boundaryUnknown =>
    "unrecognized special word boundary assertion, "
      ++ "valid choices are: start, end, start-half or end-half"
  | boundaryCut =>
    "found either the beginning of a special word boundary or a bounded repetition on a \\b "
      ++ "with an opening brace, but no closing brace"
  | propertyLetter => "invalid Unicode character class"
  | backreference => "backreferences are not supported"
  | lookAround => "look-around, including look-ahead and look-behind, is not supported"
  | propertyOfBytes => "Unicode not allowed here"
  | bytesNotText => "pattern can match invalid UTF-8"
  | propertyUnknown => "Unicode property not found"
  | propertyValueUnknown => "Unicode property value not found"
  | shortClassUnknown =>
    "Unicode-aware Perl class not found (make sure the unicode-perl feature is enabled)"
  | casesUnknown =>
    "Unicode-aware case insensitivity matching is not available "
      ++ "(make sure the unicode-case feature is enabled)"

end PatternFlaw

/-- The reasons why a text cannot be used as a pattern. -/
inductive PatternError where
  /-- A part of the pattern is wrong, possibly because of an earlier part. -/
  | flawed (flaw : PatternFlaw) (part : Stretch) (earlier : Option Stretch)
  /-- An automaton for the pattern takes too much room. -/
  | tooLarge
  /-- The pattern has conditions on words of any characters. -/
  | wordsUnknown
  deriving DecidableEq, Repr

namespace PatternError

/-- Blanks up to a column and marks from there, given the marks so far. -/
def mark (marks : List Char) (part : Stretch) : List Char :=
  marks ++ List.replicate (part.start.column - 1 - marks.length) ' '
    ++ List.replicate (max 1 (part.stop.column - part.start.column)) '^'

/-- The marks under a line, if there are any. -/
def marksUnder (parts : List Stretch) (line : Nat) : Option (List Char) :=
  match parts.filter fun part => part.onOneLine && part.start.line == line with
  | [] => none
  | parts => some (parts.foldl mark [])

/-- The lines of a pattern with marks under its parts. -/
def marked (pattern : String) (parts : List Stretch) : String :=
  let lines := linesOf pattern
  let count := if pattern.toList.getLast? = some '\n' then lines.length + 1 else lines.length
  let width := if count ≤ 1 then 0 else (toString count).length
  let margin := if width = 0 then 4 else width + 2
  let shown := lines.zipIdx.map fun (line, i) =>
    let number := toString (i + 1)
    let lead :=
      if width = 0 then "    "
      else String.ofList (List.replicate (width - number.length) ' ') ++ number ++ ": "
    let under := match marksUnder parts (i + 1) with
      | some marks => String.ofList (List.replicate margin ' ' ++ marks) ++ "\n"
      | none => ""
    lead ++ line ++ "\n" ++ under
  String.join shown

/-- Where a part of several lines begins and ends. -/
def extent (part : Stretch) : String :=
  s!"on line {part.start.line} (column {part.start.column}) through "
    ++ s!"line {part.stop.line} (column {part.stop.column - 1})"

/-- The wording of an error, with the pattern. -/
def message (pattern : String) : PatternError → String
  | tooLarge => s!"Compiled regex exceeds size limit of {patternSizeLimit} bytes."
  | wordsUnknown => "error building NFA"
  | flawed flaw part earlier =>
    let parts := match earlier with
      | none => [part]
      | some other => if other.before part then [other, part] else [part, other]
    let heading := "regex parse error:\n"
    if pattern.contains '\n' then
      let rule := String.ofList (List.replicate 79 '~') ++ "\n"
      let extents := match parts.filter fun part => !part.onOneLine with
        | [] => ""
        | parts => "\n".intercalate (parts.map extent) ++ "\n"
      heading ++ rule ++ marked pattern parts ++ rule ++ extents ++ "error: " ++ flaw.message
    else
      heading ++ marked pattern parts ++ "error: " ++ flaw.message

end PatternError

end TwoStack
