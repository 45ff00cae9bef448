import TwoStack.Pattern.Error

/-!
# The parts of a pattern

A pattern as it is written: characters, classes of characters and assertions, put together by
sequence, choice, repetition and groups.  Every part knows where it stands, because what is wrong
with a pattern may only be found once all of it has been read.  How deep the parts are nested is
limited, and `PatternTree.tooDeep?` finds the first part that is nested too deep.
-/

namespace TwoStack

/-- What can be switched on and off in a pattern. -/
inductive PatternFlag where
  | caseless
  | multiline
  | dotAll
  | swapGreed
  | unicode
  | carriageReturns
  | free
  deriving DecidableEq, Repr

namespace PatternFlag

/-- The flag with a given letter. -/
def ofLetter? : Char → Option PatternFlag
  | 'i' => some caseless
  | 'm' => some multiline
  | 's' => some dotAll
  | 'U' => some swapGreed
  | 'u' => some unicode
  | 'R' => some carriageReturns
  | 'x' => some free
  | _ => none

end PatternFlag

/-- The flags that are switched, each with whether it is switched on. -/
abbrev FlagChange := List (PatternFlag × Bool)

/-- Conditions on a place in a text. -/
inductive Assertion where
  | lineStart
  | lineEnd
  | textStart
  | textEnd
  | wordBoundary
  | noWordBoundary
  | wordStart
  | wordEnd
  | wordStartHalf
  | wordEndHalf
  deriving DecidableEq, Repr

/-- A character in a pattern. -/
structure Literal where
  char : Char
  /-- Whether it is written as `\x` and two digits, which can also mean a byte. -/
  byte : Bool
  part : Stretch
  deriving DecidableEq, Repr

/-- Classes with a letter of their own. -/
inductive ShortClass where
  | digit
  | space
  | word
  deriving DecidableEq, Repr

/-- A class of characters that has no smaller classes in it. -/
inductive ClassItem where
  | literal (literal : Literal)
  | interval (first last : Literal) (part : Stretch)
  | ascii (intervals : List (Nat × Nat)) (negated : Bool) (part : Stretch)
  | short (kind : ShortClass) (negated : Bool) (part : Stretch)
  | property (name : List Char) (negated : Bool) (part : Stretch)
  deriving DecidableEq, Repr

/-- How two classes are combined. -/
inductive ClassOperation where
  | intersection
  | difference
  | distinction
  deriving DecidableEq, Repr

/-- What stands between brackets. -/
inductive ClassTree where
  | item (item : ClassItem)
  | bracket (negated : Bool) (body : ClassTree) (part : Stretch)
  | union (items : List ClassTree) (part : Stretch)
  | combination (operation : ClassOperation) (left right : ClassTree) (part : Stretch)
  deriving Repr, Inhabited

/-- A pattern as it is written. -/
inductive PatternTree where
  | empty (part : Stretch)
  | flags (change : FlagChange) (part : Stretch)
  | literal (literal : Literal)
  | dot (part : Stretch)
  | assertion (assertion : Assertion) (part : Stretch)
  | item (item : ClassItem)
  | bracket (tree : ClassTree)
  /-- At least so many times, and at most so many if there is a limit; `swapped` if a question mark
  follows. -/
  | repetition (swapped : Bool) (tree : PatternTree) (least : Nat) (most : Option Nat)
    (part : Stretch)
  /-- A group, which is captured if it begins with nothing or with a name. -/
  | group (captured : Bool) (change : FlagChange) (tree : PatternTree) (part : Stretch)
  | sequence (trees : List PatternTree) (part : Stretch)
  | choice (trees : List PatternTree) (part : Stretch)
  deriving Repr, Inhabited

namespace ClassItem

/-- Where a class stands. -/
def part : ClassItem → Stretch
  | literal l => l.part
  | interval _ _ part | ascii _ _ part | short _ _ part | property _ _ part => part

end ClassItem

namespace ClassTree

/-- Where a class stands. -/
def part : ClassTree → Stretch
  | item leaf => leaf.part
  | bracket _ _ part | union _ part | combination _ _ _ part => part

mutual

/-- The first part that is nested deeper than a number of levels. -/
def tooDeep? (levels : Nat) : ClassTree → Option Stretch
  | item _ => none
  | bracket _ body part => if levels = 0 then some part else body.tooDeep? (levels - 1)
  | union [] _ => none
  | union items part => if levels = 0 then some part else anyTooDeep? (levels - 1) items
  | combination _ left right part =>
    if levels = 0 then some part
    else left.tooDeep? (levels - 1) <|> right.tooDeep? (levels - 1)

/-- The first part of several that is nested deeper than a number of levels. -/
def anyTooDeep? (levels : Nat) : List ClassTree → Option Stretch
  | [] => none
  | tree :: trees => tree.tooDeep? levels <|> anyTooDeep? levels trees

end

end ClassTree

namespace PatternTree

/-- Where a part stands. -/
def part : PatternTree → Stretch
  | literal l => l.part
  | item leaf => leaf.part
  | bracket tree => tree.part
  | empty part | flags _ part | dot part | assertion _ part | repetition _ _ _ _ part
  | group _ _ _ part | sequence _ part | choice _ part => part

mutual

/-- The first part that is nested deeper than a number of levels. -/
def tooDeep? (levels : Nat) : PatternTree → Option Stretch
  | empty _ | flags _ _ | literal _ | dot _ | assertion _ _ | item _ => none
  | bracket tree => tree.tooDeep? levels
  | repetition _ tree _ _ part | group _ _ tree part =>
    if levels = 0 then some part else tree.tooDeep? (levels - 1)
  | sequence trees part | choice trees part =>
    if levels = 0 then some part else anyTooDeep? (levels - 1) trees

/-- The first part of several that is nested deeper than a number of levels. -/
def anyTooDeep? (levels : Nat) : List PatternTree → Option Stretch
  | [] => none
  | tree :: trees => tree.tooDeep? levels <|> anyTooDeep? levels trees

end

end PatternTree

end TwoStack
