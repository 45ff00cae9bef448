import TwoStack.Pattern.Automaton
import TwoStack.Pattern.Parser
import TwoStack.Pattern.Search

/-!
# From the parts of a pattern to its meaning

What a part means depends on the flags that are on where it stands.  A directive holds up to the end
of the group around it, over bars as well; a group may switch flags for itself.

Nothing is known about characters outside ASCII but their numbers.  So as long as the flag for Unicode
is on, there are no properties, no classes with a letter of their own and no variants in case, and
whatever asks for one is wrong.  Without the flag, classes are sets of bytes, and they may hold ASCII
only, since a pattern is searched for in text.
-/

namespace TwoStack

/-- The flags that are on. -/
structure PatternMode where
  caseless : Bool := false
  multiline : Bool := false
  dotAll : Bool := false
  swapGreed : Bool := false
  carriageReturns : Bool := false
  unicode : Bool := true
  deriving DecidableEq, Repr

/-- A class of characters. -/
structure CharClass where
  set : CharSet
  /-- Whether the class has the case variants of its members for sure. -/
  closed : Bool
  deriving DecidableEq, Repr

namespace CharClass

/-- The class without members. -/
def empty : CharClass := ⟨.empty, true⟩

/-- What is not in a class. -/
def complement (a : CharClass) : CharClass := { a with set := a.set.complement }

/-- What is in one of two classes or in both. -/
def union (a b : CharClass) : CharClass := ⟨a.set.union b.set, a.closed && b.closed⟩

/-- Combines two classes. -/
def combine (operation : ClassOperation) (a b : CharClass) : CharClass :=
  let set := match operation with
    | .intersection => a.set.intersection b.set
    | .difference => a.set.difference b.set
    | .distinction => a.set.distinction b.set
  ⟨set, a.closed && b.closed⟩

end CharClass

namespace PatternMode

/-- Switches flags. -/
def change (mode : PatternMode) (change : FlagChange) : PatternMode :=
  change.foldl (fun mode (flag, on) =>
    match flag with
    | .caseless => { mode with caseless := on }
    | .multiline => { mode with multiline := on }
    | .dotAll => { mode with dotAll := on }
    | .swapGreed => { mode with swapGreed := on }
    | .carriageReturns => { mode with carriageReturns := on }
    | .unicode => { mode with unicode := on }
    | .free => mode) mode

/-- A class with the case variants of its members, if case does not matter. -/
def fold (mode : PatternMode) (cls : CharClass) (part : Stretch) : Except PatternError CharClass :=
  if !mode.caseless then .ok cls
  else if !mode.unicode then .ok ⟨cls.set.asciiCaseless, true⟩
  else if cls.closed || cls.set.isEmpty then .ok ⟨cls.set, true⟩
  else .error (.flawed .casesUnknown part none)

/-- Takes in case variants, and then the complement if a class is negated.  A class of bytes has to
be ASCII. -/
def finish (mode : PatternMode) (cls : CharClass) (negated : Bool) (part : Stretch) :
    Except PatternError CharClass := do
  let folded ← mode.fold cls part
  let cls := if negated then folded.complement else folded
  if mode.unicode || cls.set.isAscii then return cls
  else throw (.flawed .bytesNotText part none)

/-- The ASCII digits, blanks and word characters. -/
def shortClass : ShortClass → CharSet
  | .digit => .interval 0x30 0x39
  | .space => .ofIntervals [(0x09, 0x0D), (0x20, 0x20)]
  | .word => .ofIntervals [(0x30, 0x39), (0x41, 0x5A), (0x5F, 0x5F), (0x61, 0x7A)]

/-- The name of a property in its plain spelling: in lower case, and without `is` in front, blanks,
hyphens, underscores and characters outside ASCII. -/
def plainName (name : List Char) : List Char :=
  let name := match name with
    | i :: s :: rest => if i.toLower = 'i' && s.toLower = 's' then rest else name
    | _ => name
  (name.filter fun c => c.toNat < 0x80 && c != ' ' && c != '-' && c != '_').map Char.toLower

/-- What is wrong with a property.  No property is known; three names can only be those of a value
that a property has. -/
def propertyFlaw (name : List Char) : PatternFlaw :=
  if ["cf", "sc", "lc"].contains (String.ofList (plainName name)) then .propertyValueUnknown
  else .propertyUnknown

/-- The code point of a character between brackets; without the flag for Unicode it has to be
ASCII. -/
def bracketed (mode : PatternMode) (literal : Literal) : Except PatternError Nat :=
  if mode.unicode || literal.char.toNat < 0x80 then .ok literal.char.toNat
  else if literal.byte then .error (.flawed .bytesNotText literal.part none)
  else .error (.flawed .propertyOfBytes literal.part none)

/-- What a class without smaller classes stands for.  Between brackets the case of characters is seen
to when the brackets close. -/
def item (mode : PatternMode) : ClassItem → Except PatternError CharClass
  | .literal literal => return ⟨.single (← mode.bracketed literal), false⟩
  | .interval first last _ =>
    return ⟨.interval (← mode.bracketed first) (← mode.bracketed last), false⟩
  | .ascii intervals negated part => mode.finish ⟨.ofIntervals intervals, false⟩ negated part
  | .short kind negated part =>
    if mode.unicode then throw (.flawed .shortClassUnknown part none)
    else
      let set := shortClass kind
      let set := if negated then set.complement else set
      if set.isAscii then return ⟨set, false⟩ else throw (.flawed .bytesNotText part none)
  | .property name _ part =>
    throw (.flawed (if mode.unicode then propertyFlaw name else .propertyOfBytes) part none)

mutual

/-- What a class stands for. -/
def classOf (mode : PatternMode) : ClassTree → Except PatternError CharClass
  | .item leaf => mode.item leaf
  | .bracket negated body part => do
    mode.finish (← mode.classOf body) negated part
  | .union items _ => mode.classOfAll items
  | .combination operation left right _ => do
    let first ← mode.classOf left
    let second ← mode.classOf right
    let second ← mode.fold second right.part
    let first ← mode.fold first left.part
    return first.combine operation second

/-- What several classes stand for together. -/
def classOfAll (mode : PatternMode) : List ClassTree → Except PatternError CharClass
  | [] => return .empty
  | tree :: trees => do
    let first ← mode.classOf tree
    return first.union (← mode.classOfAll trees)

end

/-- The characters that a dot stands for. -/
def dot (mode : PatternMode) (part : Stretch) : Except PatternError CharSet :=
  if !mode.unicode then .error (.flawed .bytesNotText part none)
  else if mode.dotAll then .ok (.complement .empty)
  else if mode.carriageReturns then .ok (.complement (.ofIntervals [(0x0A, 0x0A), (0x0D, 0x0D)]))
  else .ok (.complement (.single 0x0A))

/-- What a character stands for outside of brackets. -/
def char (mode : PatternMode) (literal : Literal) : Except PatternError Pattern :=
  if mode.unicode then
    if mode.caseless then .error (.flawed .casesUnknown literal.part none)
    else .ok (.literal [literal.char])
  else if literal.byte && 0x80 ≤ literal.char.toNat then
    .error (.flawed .bytesNotText literal.part none)
  else if mode.caseless && literal.char.isAlpha then
    .ok (.ofSet true (CharSet.single literal.char.toNat).asciiCaseless)
  else .ok (.literal [literal.char])

/-- The condition that an assertion stands for. -/
def look (mode : PatternMode) : Assertion → Look
  | .lineStart =>
    if !mode.multiline then .textStart
    else if mode.carriageReturns then .anyLineStart else .lineStart
  | .lineEnd =>
    if !mode.multiline then .textEnd
    else if mode.carriageReturns then .anyLineEnd else .lineEnd
  | .textStart => .textStart
  | .textEnd => .textEnd
  | .wordBoundary => .word (!mode.unicode) .boundary
  | .noWordBoundary => .word (!mode.unicode) .noBoundary
  | .wordStart => .word (!mode.unicode) .start
  | .wordEnd => .word (!mode.unicode) .stop
  | .wordStartHalf => .word (!mode.unicode) .startHalf
  | .wordEndHalf => .word (!mode.unicode) .stopHalf

end PatternMode

namespace PatternTree

mutual

/-- What a part means, and the flags that are on after it. -/
def meaning (mode : PatternMode) : PatternTree → Except PatternError (Pattern × PatternMode)
  | empty _ => return (.empty, mode)
  | flags change _ => return (.empty, mode.change change)
  | literal l => return (← mode.char l, mode)
  | dot part => return (.oneOf false (← mode.dot part), mode)
  | assertion condition _ => return (.look (mode.look condition), mode)
  | item leaf => do
    let cls ← mode.item leaf
    return (.ofSet (!mode.unicode) cls.set, mode)
  | bracket tree => do
    let cls ← mode.classOf tree
    return (.ofSet (!mode.unicode) cls.set, mode)
  | repetition swapped tree least most _ => do
    let (pattern, mode) ← tree.meaning mode
    return (.ofRepetition (swapped != mode.swapGreed) pattern least most, mode)
  | group captured change tree part => do
    let (pattern, _) ← tree.meaning (mode.change change)
    return (if captured then .group part.start pattern else pattern, mode)
  | sequence trees _ => do
    let (patterns, mode) ← meanings mode trees
    return (.ofSequence patterns, mode)
  | choice trees _ => do
    let (patterns, mode) ← meanings mode trees
    return (.ofChoice patterns, mode)

/-- What several parts mean, each with the flags that are on after the one before it. -/
def meanings (mode : PatternMode) :
    List PatternTree → Except PatternError (List Pattern × PatternMode)
  | [] => return ([], mode)
  | tree :: trees => do
    let (pattern, mode) ← tree.meaning mode
    let (patterns, mode) ← meanings mode trees
    return (pattern :: patterns, mode)

end

end PatternTree

namespace Pattern

/-- Reads a pattern.  Both automata for it have to fit into their room, and the one that reads forward
is made first. -/
def ofText (text : String) : Except PatternError Pattern := do
  let tree ← PatternTree.ofText text
  let (pattern, _) ← tree.meaning {}
  if patternSizeLimit < pattern.automatonSize .forward then throw .tooLarge
  if pattern.asksForWords then throw .wordsUnknown
  if patternSizeLimit < pattern.automatonSize .backward then throw .tooLarge
  return pattern

end Pattern

end TwoStack
