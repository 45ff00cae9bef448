import TwoStack.Pattern.Error
import TwoStack.Text.Blank

/-!
# Reading a pattern

A cursor stands between two characters of a pattern.  A pattern can be written freely: then blanks,
and comments from `#` to the end of the line, are left out between its parts.
-/

namespace TwoStack

/-- A place in a pattern, with what is known there. -/
structure Cursor where
  /-- The characters from here on. -/
  rest : List Char
  position : Position := {}
  /-- Whether blanks and comments are left out. -/
  free : Bool := false
  /-- The names of the groups so far, and where they are written. -/
  names : List (String × Stretch) := []
  deriving Repr

namespace Cursor

/-- The place after the next character. -/
def advance (cursor : Cursor) : Cursor :=
  match cursor.rest with
  | [] => cursor
  | c :: rest => { cursor with rest, position := cursor.position.after c }

/-- Leaves out blanks and comments, given whether a comment has begun. -/
def skipFrom (comment : Bool) (position : Position) : List Char → Position × List Char
  | [] => (position, [])
  | c :: rest =>
    if comment then skipFrom (c != '\n') (position.after c) rest
    else if isBlank c then skipFrom false (position.after c) rest
    else if c = '#' then skipFrom true (position.after c) rest
    else (position, c :: rest)

/-- The place after blanks and comments, if they are left out. -/
def skip (cursor : Cursor) : Cursor :=
  if cursor.free then
    let (position, rest) := skipFrom false cursor.position cursor.rest
    { cursor with position, rest }
  else cursor

/-- The characters after blanks, where `#` counts as a blank once; none if nothing else follows. -/
def afterBlanks? (comment : Bool) : List Char → Option (List Char)
  | [] => none
  | c :: rest =>
    if isBlank c then afterBlanks? comment rest
    else if !comment && c == '#' then afterBlanks? true rest
    else some (c :: rest)

/-- The character that comes after the next one. -/
def second? (cursor : Cursor) : Option Char :=
  let rest := cursor.rest.drop 1
  if cursor.free then ((afterBlanks? false rest).getD rest).head? else rest.head?

/-- Takes at most `count` characters as long as they satisfy a condition.  What is left out between
them is left out after the last one as well. -/
def takeWhile (p : Char → Bool) : Nat → Cursor → List Char × Cursor
  | 0, cursor => ([], cursor)
  | count + 1, cursor =>
    match cursor.rest with
    | [] => ([], cursor)
    | c :: _ =>
      if p c then
        let (taken, cursor) := takeWhile p count cursor.advance.skip
        (c :: taken, cursor)
      else ([], cursor)

end Cursor

/-- Reading a part of a pattern: it moves the cursor, or finds what is wrong. -/
abbrev Reading := StateT Cursor (Except PatternError)

namespace Reading

/-- Where the cursor stands. -/
def here : Reading Position := return (← get).position

/-- The next character. -/
def peek? : Reading (Option Char) := return (← get).rest.head?

/-- Moves past the next character. -/
def advance : Reading Unit := modify Cursor.advance

/-- Moves past blanks and comments, if they are left out. -/
def skip : Reading Unit := modify Cursor.skip

/-- Moves past the next character and what is left out after it. -/
def next : Reading Unit := do
  advance
  skip

/-- Where the next character stands. -/
def nextPart : Reading Stretch := do
  let cursor ← get
  return ⟨cursor.position, cursor.advance.position⟩

/-- The part from a place up to here. -/
def since (start : Position) : Reading Stretch := return ⟨start, ← here⟩

/-- Stops because a part is wrong. -/
def fail {α : Type} (flaw : PatternFlaw) (part : Stretch) : Reading α :=
  throw (.flawed flaw part none)

/-- Moves past a text, if it comes next. -/
def take (text : String) : Reading Bool := do
  if text.toList.isPrefixOf (← get).rest then
    modify fun cursor => text.toList.foldl (fun cursor _ => cursor.advance) cursor
    return true
  else return false

/-- Takes characters as long as they satisfy a condition. -/
def takeWhile (p : Char → Bool) : Reading (List Char) := do
  let cursor ← get
  let (taken, cursor) := cursor.takeWhile p cursor.rest.length
  set cursor
  return taken

/-- Takes characters as long as they satisfy a condition, and leaves nothing out between them. -/
def takeClosely (p : Char → Bool) : Reading (List Char) := do
  let cursor ← get
  let (taken, after) := { cursor with free := false }.takeWhile p cursor.rest.length
  set { after with free := cursor.free }
  return taken

end Reading

end TwoStack
