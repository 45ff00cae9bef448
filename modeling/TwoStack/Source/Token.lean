/-!
# Tokens of source text

A semicolon starts a comment that runs to the end of its line.  What is left of the lines is cut at
ASCII white space, and the maximal runs in between are the tokens.  A token knows where it stands:
its line and column, counted in characters from one, and its place among all tokens.

The scanner reads one character at a time, so a text can be scanned in parts: scanning `s ++ t` is
scanning `t` from where scanning `s` arrived.
-/

namespace TwoStack

/-- Where a token stands in the source. -/
structure Location where
  /-- The line, counted from one. -/
  line : Nat
  /-- The column of the first character, counted from one. -/
  column : Nat
  /-- The number of tokens before this one. -/
  index : Nat
  deriving DecidableEq, Repr, Inhabited

namespace Location

/-- A location as it appears in messages. -/
def text (location : Location) : String := s!"{location.line}:{location.column}"

/-- Whether a location comes before another one: by line, then by column, then by index. -/
def before (a b : Location) : Bool :=
  a.line < b.line
    || a.line == b.line && (a.column < b.column || a.column == b.column && a.index < b.index)

end Location

/-- A run of characters and where it stands. -/
structure Token where
  text : String
  location : Location
  deriving DecidableEq, Repr, Inhabited

/-- The ASCII characters that separate tokens: blank, tab, line feed, form feed, carriage return. -/
def isSeparator (c : Char) : Bool :=
  c == ' ' || c == '\t' || c == '\n' || c == '\x0C' || c == '\r'

/-- A scan under way: where the next character stands, and what has been found so far. -/
structure Scanner where
  line : Nat := 1
  column : Nat := 1
  /-- Whether the next character is part of a comment. -/
  comment : Bool := false
  /-- The characters of the token that has begun, last one first. -/
  word : List Char := []
  /-- The column where that token began. -/
  start : Nat := 1
  tokens : Array Token := #[]
  deriving Repr

namespace Scanner

/-- Ends the token that has begun, if there is one. -/
def close (scanner : Scanner) : Scanner :=
  match scanner with
  | ⟨line, column, comment, word, start, tokens⟩ =>
    if word.isEmpty then
      ⟨line, column, comment, word, start, tokens⟩
    else
      ⟨line, column, comment, [], start,
        tokens.push ⟨String.ofList word.reverse, ⟨line, start, tokens.size⟩⟩⟩

/-- Goes on to the next column. -/
def advance (scanner : Scanner) : Scanner := { scanner with column := scanner.column + 1 }

/-- Goes on to the first column of the next line, where no comment is open. -/
def nextLine (scanner : Scanner) : Scanner :=
  { scanner with line := scanner.line + 1, column := 1, comment := false }

/-- Takes a character into the token that has begun, or begins one. -/
def extend (scanner : Scanner) (c : Char) : Scanner :=
  { scanner with
    word := c :: scanner.word
    start := if scanner.word.isEmpty then scanner.column else scanner.start }

/-- Reads one character. -/
def feed (scanner : Scanner) (c : Char) : Scanner :=
  if c = '\n' then scanner.close.nextLine
  else if scanner.comment then scanner.advance
  else if c = ';' then { scanner.close.advance with comment := true }
  else if isSeparator c then scanner.close.advance
  else (scanner.extend c).advance

/-- Reads the characters of a text in order. -/
def feedAll (scanner : Scanner) (text : List Char) : Scanner := text.foldl feed scanner

theorem feedAll_append (scanner : Scanner) (s t : List Char) :
    scanner.feedAll (s ++ t) = (scanner.feedAll s).feedAll t :=
  List.foldl_append

end Scanner

/-- The tokens of a source text, in order. -/
def tokenize (source : String) : Array Token :=
  (Scanner.feedAll {} source.toList).close.tokens

end TwoStack
