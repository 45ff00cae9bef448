import TwoStack.Pattern.CharSet
import TwoStack.Pattern.Error

/-!
# Patterns

A pattern as it is searched for.  `Pattern.ofSequence`, `Pattern.ofChoice`, `Pattern.ofRepetition` and
`Pattern.ofSet` put patterns together in their shortest form: parts that are always empty are left
out of a sequence, literals that stand side by side are one literal, a choice between characters is
a set, and what all the sequences of a choice begin with stands before the choice.  The form matters
because the room for a pattern is limited.
-/

namespace TwoStack

/-- Conditions on a word before or after a place. -/
inductive WordLook where
  | boundary
  | noBoundary
  | start
  | stop
  | startHalf
  | stopHalf
  deriving DecidableEq, Repr

/-- Conditions on the characters before and after a place. -/
inductive Look where
  | textStart
  | textEnd
  /-- At a line feed or at an end of the text. -/
  | lineStart
  | lineEnd
  /-- At a line feed, at a carriage return or at an end of the text, but not between the two. -/
  | anyLineStart
  | anyLineEnd
  /-- On words of ASCII characters, or of any characters. -/
  | word (ascii : Bool) (condition : WordLook)
  deriving DecidableEq, Repr

/-- A pattern to search for. -/
inductive Pattern where
  | empty
  | literal (chars : List Char)
  /-- A character of a set; whether the set was written as one of bytes is all that tells two equal
  sets apart. -/
  | oneOf (bytes : Bool) (set : CharSet)
  | look (condition : Look)
  | sequence (first second : Pattern)
  /-- One of several literals. -/
  | literals (choices : List (List Char))
  | choice (first second : Pattern)
  /-- At least so many times, and at most so many if there is a limit.  A lazy repetition prefers
  few times, which does not matter to whether it occurs. -/
  | repetition ( isLazy : Bool) (pattern : Pattern) (least : Nat) (most : Option Nat)
  /-- A group that is told from all others by the place where it opens. -/
  | group (opened : Position) (pattern : Pattern)
  deriving DecidableEq, Repr

namespace Pattern

/-- The pattern that never fits. -/
def never : Pattern := oneOf true .empty

/-- Whether a pattern fits empty parts of a text only. -/
def onlyEmpty : Pattern → Bool
  | empty | look _ => true
  | literal _ | oneOf _ _ | literals _ => false
  | sequence first second | choice first second => first.onlyEmpty && second.onlyEmpty
  | repetition _ pattern _ most => pattern.onlyEmpty && most.isSome
  | group _ pattern => pattern.onlyEmpty

/-- The least number of characters that a pattern fits, unless some part of it never fits. -/
def leastLength? : Pattern → Option Nat
  | empty | look _ => some 0
  | literal chars => some chars.length
  | oneOf _ set => if set.isEmpty then none else some 1
  | literals choices => (choices.map List.length).min?
  | sequence first second => do return (← first.leastLength?) + (← second.leastLength?)
  | choice first second => do return min (← first.leastLength?) (← second.leastLength?)
  | repetition _ pattern least _ => pattern.leastLength?.map (least * ·)
  | group _ pattern => pattern.leastLength?

/-- Whether a pattern holds only where a condition holds first. -/
def beginsWith (condition : Look) : Pattern → Bool
  | look other => other == condition
  | sequence first second =>
    first.beginsWith condition || first.onlyEmpty && second.beginsWith condition
  | choice first second => first.beginsWith condition && second.beginsWith condition
  | repetition _ pattern least _ => least != 0 && pattern.beginsWith condition
  | group _ pattern => pattern.beginsWith condition
  | empty | literal _ | oneOf _ _ | literals _ => false

/-- Whether a pattern holds only where a condition holds last. -/
def endsWith (condition : Look) : Pattern → Bool
  | look other => other == condition
  | sequence first second =>
    second.endsWith condition || second.onlyEmpty && first.endsWith condition
  | choice first second => first.endsWith condition && second.endsWith condition
  | repetition _ pattern least _ => least != 0 && pattern.endsWith condition
  | group _ pattern => pattern.endsWith condition
  | empty | literal _ | oneOf _ _ | literals _ => false

/-- Whether some condition in a pattern is on words of any characters. -/
def asksForWords : Pattern → Bool
  | look (.word ascii _) => !ascii
  | look _ | empty | literal _ | oneOf _ _ | literals _ => false
  | sequence first second | choice first second => first.asksForWords || second.asksForWords
  | repetition _ pattern _ _ | group _ pattern => pattern.asksForWords

/-- The parts of a sequence. -/
def parts : Pattern → List Pattern
  | empty => []
  | sequence first second => first.parts ++ second.parts
  | pattern => [pattern]

/-- What a choice is made from. -/
def alternatives : Pattern → List Pattern
  | choice first second => first.alternatives ++ second.alternatives
  | literals choices => choices.map literal
  | pattern => [pattern]

/-- The number of parts of all kinds. -/
def nodes : Pattern → Nat
  | empty | literal _ | oneOf _ _ | look _ => 1
  | literals choices => choices.length + 1
  | sequence first second | choice first second => first.nodes + second.nodes + 1
  | repetition _ pattern _ _ | group _ pattern => pattern.nodes + 1

/-- The set of the characters that a pattern fits, if it fits single characters only. -/
def asSet? : Pattern → Option CharSet
  | literal [c] => some (.single c.toNat)
  | oneOf _ set => some set
  | _ => none

/-- The characters of a literal. -/
def asLiteral? : Pattern → Option (List Char)
  | literal chars => some chars
  | _ => none

/-- A character of a set. -/
def ofSet (bytes : Bool) (set : CharSet) : Pattern :=
  match set.ranges with
  | [] => never
  | [(first, last)] => if first = last then literal [Char.ofNat first] else oneOf bytes set
  | _ => oneOf bytes set

/-- Puts a part before others; two literals become one. -/
def joinTo (part : Pattern) (parts : List Pattern) : List Pattern :=
  match part, parts with
  | literal chars, literal more :: parts => literal (chars ++ more) :: parts
  | part, parts => part :: parts

/-- One part after the other. -/
def chain : List Pattern → Pattern
  | [] => empty
  | [part] => part
  | part :: parts => sequence part (chain parts)

/-- One pattern after the other, in the shortest form. -/
def ofSequence (patterns : List Pattern) : Pattern :=
  chain ((patterns.flatMap parts).foldr joinTo [])

/-- One or another. -/
def fork : List Pattern → Pattern
  | [] => never
  | [pattern] => pattern
  | pattern :: patterns => choice pattern (fork patterns)

/-- What two lists begin with. -/
def commonFront : List Pattern → List Pattern → List Pattern
  | a :: as, b :: bs => if a = b then a :: commonFront as bs else []
  | _, _ => []

/-- What the parts of all patterns begin with; a pattern that is no sequence has no parts. -/
def sharedParts (patterns : List Pattern) : List Pattern :=
  let partsOf (pattern : Pattern) : List Pattern :=
    match pattern with
    | sequence _ _ => pattern.parts
    | _ => []
  match patterns.map partsOf with
  | [] => []
  | first :: others => others.foldl commonFront first

/-- One pattern or another, where shared parts are taken out at most so many times. -/
def ofChoiceWithin : Nat → List Pattern → Pattern
  | 0, patterns => fork patterns
  | steps + 1, patterns =>
    match patterns.flatMap alternatives with
    | [] => never
    | [pattern] => pattern
    | patterns =>
      match patterns.mapM asSet?, patterns.mapM asLiteral?, sharedParts patterns with
      | some sets, _, _ => ofSet false (sets.foldl CharSet.union .empty)
      | none, some choices, _ => literals choices
      | none, none, [] => fork patterns
      | none, none, shared =>
        let rests := patterns.map fun pattern => ofSequence (pattern.parts.drop shared.length)
        ofSequence (shared ++ [ofChoiceWithin steps rests])

/-- One pattern or another, in the shortest form.  Every step takes some parts out of the choice. -/
def ofChoice (patterns : List Pattern) : Pattern :=
  ofChoiceWithin (patterns.foldl (fun count pattern => count + pattern.nodes) 1) patterns

/-- A pattern several times, in the shortest form.  What is always empty need not be there more than
once. -/
def ofRepetition ( isLazy : Bool) (pattern : Pattern) (least : Nat) (most : Option Nat) : Pattern :=
  let once := pattern.onlyEmpty
  let least := if once then min least 1 else least
  let most := if once then some (most.elim 1 (min · 1)) else most
  if least = 0 && most = some 0 then empty
  else if least = 1 && most = some 1 then pattern
  else repetition isLazy pattern least most

end Pattern

end TwoStack
