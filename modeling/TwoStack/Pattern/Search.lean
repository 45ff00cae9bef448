import TwoStack.Pattern.Basic

/-!
# Searching for a pattern

`Pattern.ends` says where the parts of a text can end that begin at given places and fit a pattern.
Places are counted from zero and kept in ascending order, each once, so a repetition can stop as
soon as it reaches no new place.  Conditions look only at the characters on both sides of a place.
-/

namespace TwoStack

/-- Whether a condition on words holds between two characters, given which of them are in words. -/
def WordLook.holds (condition : WordLook) (before after : Bool) : Bool :=
  match condition with
  | boundary => before != after
  | noBoundary => before == after
  | start => !before && after
  | stop => before && !after
  | startHalf => !before
  | stopHalf => !after

namespace Look

/-- Whether there is a character and it is one of the ASCII characters that words consist of. -/
def isWordPart (c : Option Char) : Bool := c.any fun c => c.isAlphanum || c == '_'

/-- Whether a condition holds between two characters, where there may be none.  Words have ASCII
characters only, since patterns that ask for others are refused. -/
def holds (look : Look) (before after : Option Char) : Bool :=
  match look with
  | textStart => before.isNone
  | textEnd => after.isNone
  | lineStart => before.isNone || before == some '\n'
  | lineEnd => after.isNone || after == some '\n'
  | anyLineStart =>
    before.isNone || before == some '\n' || before == some '\r' && after != some '\n'
  | anyLineEnd =>
    after.isNone || after == some '\r' || after == some '\n' && before != some '\r'
  | word _ condition => condition.holds (isWordPart before) (isWordPart after)

end Look

namespace Pattern

/-- The places of both of two ascending lists. -/
def merge : List Nat → List Nat → List Nat
  | [], places => places
  | places, [] => places
  | i :: is, j :: js =>
    if i < j then i :: merge is (j :: js)
    else if j < i then j :: merge (i :: is) js
    else i :: merge is js
  termination_by is js => is.length + js.length

/-- The places after exactly `count` steps; steps that lead nowhere new are not taken. -/
def iterate (step : List Nat → List Nat) : Nat → List Nat → List Nat
  | 0, places => places
  | count + 1, places =>
    let next := step places
    if next = places then places else iterate step count next

/-- The places that at most `count` steps from `front` reach, and those reached before. -/
def reach (step : List Nat → List Nat) : Nat → List Nat → List Nat → List Nat
  | 0, _, reached => reached
  | count + 1, front, reached =>
    match (step front).filter fun i => !reached.contains i with
    | [] => reached
    | next => reach step count next (merge next reached)

/-- Whether a text continues with given characters at a place. -/
def continuesWith (text : Array Char) (i : Nat) : List Char → Bool
  | [] => true
  | c :: chars => text[i]? == some c && continuesWith text (i + 1) chars

/-- Where the parts of a text end that begin at the given places and are a given literal. -/
def literalEnds (text : Array Char) (chars : List Char) (places : List Nat) : List Nat :=
  (places.filter fun i => continuesWith text i chars).map fun i => i + chars.length

/-- Where the parts of a text end that begin at the given places and fit a pattern. -/
def ends (text : Array Char) : Pattern → List Nat → List Nat
  | empty, places => places
  | literal chars, places => literalEnds text chars places
  | oneOf _ set, places =>
    (places.filter fun i => text[i]?.any fun c => set.contains c.toNat).map fun i => i + 1
  | look condition, places =>
    places.filter fun i => condition.holds (if i = 0 then none else text[i - 1]?) text[i]?
  | sequence first second, places => ends text second (ends text first places)
  | literals choices, places =>
    choices.foldl (fun found chars => merge found (literalEnds text chars places)) []
  | choice first second, places => merge (ends text first places) (ends text second places)
  | repetition _ pattern least most, places =>
    let places := iterate (ends text pattern) least places
    reach (ends text pattern) (most.elim (text.size + 1) fun most => most - least) places places
  | group _ pattern, places => ends text pattern places

/-- Whether some part of a text fits a pattern. -/
def occursIn (pattern : Pattern) (text : String) : Bool :=
  let chars := text.toList.toArray
  !(pattern.ends chars (List.range (chars.size + 1))).isEmpty

end Pattern

end TwoStack
