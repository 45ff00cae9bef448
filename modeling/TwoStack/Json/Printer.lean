import TwoStack.Json

/-!
# JSON text

Values are printed on one line without blanks, or spread over lines with two blanks for each level.
In strings only quotes, backslashes and control characters are escaped.
-/

namespace TwoStack.Json

/-- How the parts of arrays and objects are set apart. -/
inductive Layout where
  /-- Nothing stands between the parts. -/
  | compact
  /-- Every part has a line of its own. -/
  | indented
  deriving DecidableEq, Repr

namespace Layout

/-- What stands before a part at a depth. -/
def gap : Layout → Nat → List Char
  | compact, _ => []
  | indented, depth => '\n' :: List.replicate (2 * depth) ' '

/-- What stands after the colon of a member. -/
def afterColon : Layout → List Char
  | compact => []
  | indented => [' ']

end Layout

/-- A character in a string. -/
def escape (c : Char) : List Char :=
  match c with
  | '"' => ['\\', '"']
  | '\\' => ['\\', '\\']
  | '\x08' => ['\\', 'b']
  | '\x0C' => ['\\', 'f']
  | '\n' => ['\\', 'n']
  | '\r' => ['\\', 'r']
  | '\t' => ['\\', 't']
  | c =>
    if c.toNat < 0x20 then
      ['\\', 'u', '0', '0', Nat.digitChar (c.toNat / 16), Nat.digitChar (c.toNat % 16)]
    else
      [c]

/-- A string between quotes; one without text is a lone surrogate. -/
def quoted : Option String → List Char
  | some text => '"' :: text.toList.flatMap escape ++ ['"']
  | none => ['"', '\\', 'u', 'd', '8', '0', '0', '"']

mutual

/-- A value at a depth. -/
def chars (layout : Layout) (depth : Nat) : Json → List Char
  | null => ['n', 'u', 'l', 'l']
  | bool true => ['t', 'r', 'u', 'e']
  | bool false => ['f', 'a', 'l', 's', 'e']
  | integer value => value.repr.toList
  | real => ['-', '0']
  | string text => quoted text
  | array [] => ['[', ']']
  | array (item :: items) =>
    '[' :: layout.gap (depth + 1) ++ chars layout (depth + 1) item
      ++ itemChars layout (depth + 1) items ++ layout.gap depth ++ [']']
  | object [] => ['{', '}']
  | object ((name, value) :: members) =>
    '{' :: layout.gap (depth + 1) ++ quoted name ++ ':' :: layout.afterColon
      ++ chars layout (depth + 1) value ++ memberChars layout (depth + 1) members
      ++ layout.gap depth ++ ['}']

/-- The items of an array after the first. -/
def itemChars (layout : Layout) (depth : Nat) : List Json → List Char
  | [] => []
  | item :: items =>
    ',' :: layout.gap depth ++ chars layout depth item ++ itemChars layout depth items

/-- The members of an object after the first. -/
def memberChars (layout : Layout) (depth : Nat) : List (Option String × Json) → List Char
  | [] => []
  | (name, value) :: members =>
    ',' :: layout.gap depth ++ quoted name ++ ':' :: layout.afterColon
      ++ chars layout depth value ++ memberChars layout depth members

end

/-- A value as text. -/
def print (layout : Layout) (value : Json) : String := String.ofList (chars layout 0 value)

end TwoStack.Json
