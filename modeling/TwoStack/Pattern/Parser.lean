import TwoStack.Pattern.Cursor
import TwoStack.Pattern.Tree
import TwoStack.Text.Numeral
import TwoStack.Unicode.Property

/-!
# From the text of a pattern to its parts

A pattern is read once, from the left, and reading stops at the first part that is wrong.  Whatever
nests is read with fuel; the length of the pattern bounds how deep it can nest.
-/

namespace TwoStack

namespace Reading

/-- The characters that mean themselves after a backslash because they mean something else alone, and
all other characters of ASCII that are neither letters nor digits nor angle brackets. -/
def escapesItself (c : Char) : Bool :=
  c.toNat < 0x80 && !c.isAlphanum && c != '<' && c != '>'

/-- Reads a number in a repetition: digits between blanks.  What is wrong with the number is only
reported when the number is used. -/
def readCount : Reading (Except PatternError Nat) := do
  let _ ← takeWhile isBlank
  let start ← here
  let digits ← takeWhile (Numeral.isDigit 10)
  let part ← since start
  let _ ← takeWhile isBlank
  if digits.isEmpty then return .error (.flawed .countMissing part none)
  else if Numeral.value 10 digits < 4294967296 then return .ok (Numeral.value 10 digits)
  else return .error (.flawed .countTooLarge part none)

/-- A character given by its number, if there is one. -/
def numbered? (digits : List Char) : Option Char :=
  let n := Numeral.value 16 digits
  if n.isValidChar then some (Char.ofNat n) else none

/-- Takes exactly `count` hexadecimal digits; the next character exists. -/
def readDigits : Nat → Reading (List Char)
  | 0 => return []
  | count + 1 => do
    match ← peek? with
    | some c =>
      if Numeral.isDigit 16 c then
        next
        if count ≠ 0 && (← peek?).isNone then fail .escapeCut (← here).stretch
        return c :: (← readDigits count)
      else fail .hexDigit (← nextPart)
    | none => fail .escapeCut (← here).stretch

/-- Reads the number of a character after `x`, `u` or `U`: as many digits as the letter asks for, or
any number of digits in braces. -/
def readNumbered (start : Position) (digits : Nat) : Reading Literal := do
  next
  match ← peek? with
  | none => fail .escapeCut (← here).stretch
  | some '\x7B' =>
    let brace ← here
    let inside := (← nextPart).stop
    next
    let number ← takeWhile (Numeral.isDigit 16)
    match ← peek? with
    | none => fail .escapeCut (← since brace)
    | some '\x7D' =>
      let stop ← here
      next
      if number.isEmpty then fail .hexEmpty (← since brace)
      else
        match numbered? number with
        | some char => return ⟨char, false, ← since start⟩
        | none => fail .hexNoCharacter ⟨inside, stop⟩
    | some _ => fail .hexDigit (← nextPart)
  | some _ =>
    let first ← here
    let number ← readDigits digits
    match numbered? number with
    | some char => return ⟨char, digits == 2, ← since start⟩
    | none => fail .hexNoCharacter (← since first)

/-- Reads a property after `p` or `P`: a letter, or a name in braces. -/
def readProperty (start : Position) (negated : Bool) : Reading ClassItem := do
  next
  match ← peek? with
  | none => fail .escapeCut (← here).stretch
  | some '\x7B' =>
    next
    let text ← takeWhile (· != '\x7D')
    if (← peek?).isNone then fail .escapeCut (← here).stretch
    advance
    return .property text negated (← since start)
  | some '\\' => fail .propertyLetter (← nextPart)
  | some c =>
    next
    return .property [c] negated (← since start)

/-- Reads the name of a word boundary in braces.  Without a letter or a hyphen after the brace there
is none, and the brace begins a repetition. -/
def readBoundary (start : Position) : Reading (Option Assertion) := do
  let isPart (c : Char) : Bool := c.isAlpha || c == '-'
  let before ← get
  next
  match ← peek? with
  | none => fail .boundaryCut (← since start)
  | some c =>
    if isPart c then
      let inside ← here
      let name ← takeWhile isPart
      if (← peek?) ≠ some '\x7D' then fail .boundaryOpen (← since before.position)
      let part ← since inside
      advance
      match String.ofList name with
      | "start" => return some .wordStart
      | "end" => return some .wordEnd
      | "start-half" => return some .wordStartHalf
      | "end-half" => return some .wordEndHalf
      | _ => fail .boundaryUnknown part
    else
      set before
      return none

/-- Reads what follows a backslash. -/
def readEscape : Reading PatternTree := do
  let start ← here
  advance
  match ← peek? with
  | none => fail .escapeCut (← since start)
  | some c =>
    let short (kind : ShortClass) (negated : Bool) : Reading PatternTree := do
      advance
      return .item (.short kind negated (← since start))
    let literal (char : Char) : Reading PatternTree := do
      advance
      return .literal ⟨char, false, ← since start⟩
    let assertion (assertion : Assertion) : Reading PatternTree := do
      advance
      return .assertion assertion (← since start)
    match c with
    | 'x' => return .literal (← readNumbered start 2)
    | 'u' => return .literal (← readNumbered start 4)
    | 'U' => return .literal (← readNumbered start 8)
    | 'p' => return .item (← readProperty start false)
    | 'P' => return .item (← readProperty start true)
    | 'd' => short .digit false
    | 'D' => short .digit true
    | 's' => short .space false
    | 'S' => short .space true
    | 'w' => short .word false
    | 'W' => short .word true
    | 'a' => literal '\x07'
    | 'f' => literal '\x0C'
    | 't' => literal '\t'
    | 'n' => literal '\n'
    | 'r' => literal '\r'
    | 'v' => literal '\x0B'
    | 'A' => assertion .textStart
    | 'z' => assertion .textEnd
    | 'B' => assertion .noWordBoundary
    | '<' => assertion .wordStart
    | '>' => assertion .wordEnd
    | 'b' =>
      advance
      let named ← if (← peek?) = some '\x7B' then readBoundary start else pure none
      return .assertion (named.getD .wordBoundary) (← since start)
    | c =>
      if c.isDigit then fail .backreference ⟨start, (← nextPart).stop⟩
      else if escapesItself c then literal c
      else
        advance
        fail .escapeUnknown (← since start)

/-- Reads a character, a class with a letter of its own or an assertion. -/
def readAtom : Reading PatternTree := do
  let part ← nextPart
  match ← peek? with
  | some '\\' => readEscape
  | some '.' =>
    advance
    return .dot part
  | some '^' =>
    advance
    return .assertion .lineStart part
  | some '$' =>
    advance
    return .assertion .lineEnd part
  | some char =>
    advance
    return .literal ⟨char, false, part⟩
  | none => return .empty part

/-- The classes that have a name between brackets. -/
def namedClasses : List (String × List (Nat × Nat)) :=
  [("alnum", [(0x30, 0x39), (0x41, 0x5A), (0x61, 0x7A)]), ("alpha", [(0x41, 0x5A), (0x61, 0x7A)]),
    ("ascii", [(0, 0x7F)]), ("blank", [(0x09, 0x09), (0x20, 0x20)]),
    ("cntrl", [(0, 0x1F), (0x7F, 0x7F)]), ("digit", [(0x30, 0x39)]), ("graph", [(0x21, 0x7E)]),
    ("lower", [(0x61, 0x7A)]), ("print", [(0x20, 0x7E)]),
    ("punct", [(0x21, 0x2F), (0x3A, 0x40), (0x5B, 0x60), (0x7B, 0x7E)]),
    ("space", [(0x09, 0x0D), (0x20, 0x20)]), ("upper", [(0x41, 0x5A)]),
    ("word", [(0x30, 0x39), (0x41, 0x5A), (0x5F, 0x5F), (0x61, 0x7A)]),
    ("xdigit", [(0x30, 0x39), (0x41, 0x46), (0x61, 0x66)])]

/-- The class that is named between `[:` and `:]` at the front of a text, whether it is negated, and
the number of characters it is written in. -/
def namedClass? (text : List Char) : Option (List (Nat × Nat) × Bool × Nat) :=
  let named (negated : Bool) (text : List Char) :=
    let name := text.takeWhile (· != ':')
    match text.dropWhile (· != ':') with
    | ':' :: ']' :: _ => (namedClasses.lookup (String.ofList name)).map fun intervals =>
        (intervals, negated, name.length + if negated then 5 else 4)
    | _ => none
  match text with
  | '[' :: ':' :: '^' :: text => named true text
  | '[' :: ':' :: text => named false text
  | _ => none

/-- Reads a character or a class with a letter of its own between brackets. -/
def readClassAtom : Reading PatternTree := do
  let part ← nextPart
  match ← peek? with
  | some '\\' => readEscape
  | some char =>
    advance
    return .literal ⟨char, false, part⟩
  | none => return .empty part

/-- A part that can stand between brackets. -/
def classItem : PatternTree → Reading ClassItem
  | .literal literal => return .literal literal
  | .item item => return item
  | tree => fail .classEscape tree.part

/-- A part that an interval can begin or end with. -/
def intervalEnd : PatternTree → Reading Literal
  | .literal literal => return literal
  | tree => fail .classBoundary tree.part

/-- Reads a character, an interval or a class with a letter of its own between brackets, given the
part where the brackets open. -/
def readClassItem (opened : Stretch) : Reading ClassItem := do
  let first ← readClassAtom
  skip
  let cursor ← get
  match cursor.rest.head? with
  | none => fail .classOpen opened
  | some c =>
    if c != '-' || cursor.second? == some ']' || cursor.second? == some '-' then classItem first
    else
      next
      if (← peek?).isNone then fail .classOpen opened
      let last ← readClassAtom
      let part : Stretch := ⟨first.part.start, last.part.stop⟩
      let first ← intervalEnd first
      let last ← intervalEnd last
      if last.char < first.char then fail .classOrder part
      return .interval first last part

/-- The items between brackets, last one first, as one class, given where they begin. -/
def classOf (items : List ClassTree) (start : Position) : ClassTree :=
  match items with
  | [tree] => tree
  | items =>
    let items := items.reverse
    match items.head?, items.getLast? with
    | some first, some last => .union items ⟨first.part.start, last.part.stop⟩
    | _, _ => .union [] start.stretch

/-- Combines a class with the one before it, if there is one. -/
def combine (before : Option (ClassOperation × ClassTree)) (tree : ClassTree) : ClassTree :=
  match before with
  | none => tree
  | some (operation, left) =>
    .combination operation left tree ⟨left.part.start, tree.part.stop⟩

/-- Reads hyphens at the front of a class; each is a character of it. -/
def readHyphens (start : Position) : Nat → Reading (List ClassTree)
  | 0 => return []
  | count + 1 => do
    if (← peek?) = some '-' then
      let part ← nextPart
      next
      if (← peek?).isNone then fail .classOpen start.stretch
      return (← readHyphens start count) ++ [.item (.literal ⟨'-', false, part⟩)]
    else return []

/-- The operation that two equal characters stand for between brackets. -/
def classOperation? (cursor : Cursor) : Option ClassOperation :=
  match cursor.rest with
  | '&' :: '&' :: _ => some .intersection
  | '-' :: '-' :: _ => some .difference
  | '~' :: '~' :: _ => some .distinction
  | _ => none

mutual

/-- Reads a class in brackets. -/
def readClass : Nat → Reading ClassTree
  | 0 => return default
  | fuel + 1 => do
    let start ← here
    next
    if (← peek?).isNone then fail .classOpen (← since start)
    let negated := (← peek?) == some '^'
    if negated then
      next
      if (← peek?).isNone then fail .classOpen (← since start)
    let first ← here
    let hyphens ← readHyphens start (← get).rest.length
    let mut items := hyphens
    if hyphens.isEmpty && (← peek?) == some ']' then
      let part ← nextPart
      items := [.item (.literal ⟨']', false, part⟩)]
      next
      if (← peek?).isNone then fail .classOpen (← since start)
    let body ← readClassBody fuel (← since start) none items first
    return .bracket negated body (← since start)

/-- Reads what stands between brackets, and the bracket that closes them, given the class before the
last operation and the items since, last one first. -/
def readClassBody : Nat → Stretch → Option (ClassOperation × ClassTree) → List ClassTree → Position →
    Reading ClassTree
  | 0, _, _, _, _ => return default
  | fuel + 1, opened, before, items, start => do
    skip
    let cursor ← get
    match cursor.rest.head? with
    | none => fail .classOpen opened
    | some ']' =>
      advance
      return combine before (classOf items start)
    | some '[' =>
      match namedClass? cursor.rest with
      | some (intervals, negated, length) =>
        modify fun cursor => length.fold (fun _ _ cursor => cursor.advance) cursor
        let item := ClassItem.ascii intervals negated (← since cursor.position)
        readClassBody fuel opened before (.item item :: items) start
      | none =>
        let nested ← readClass fuel
        readClassBody fuel opened before (nested :: items) start
    | some _ =>
      match classOperation? cursor with
      | some operation =>
        advance
        advance
        let tree := combine before (classOf items start)
        readClassBody fuel opened (some (operation, tree)) [] (← here)
      | none =>
        let item ← readClassItem opened
        readClassBody fuel opened before (.item item :: items) start

end

/-- Reads the flags of a group up to the colon or the parenthesis after them, given those before,
last one first, with their places, and the place of the minus sign. -/
def readFlags : Nat → List (PatternFlag × Bool × Stretch) → Option Stretch → Bool →
    Reading (List (PatternFlag × Bool × Stretch) × Option Stretch)
  | 0, flags, minus, _ => return (flags, minus)
  | fuel + 1, flags, minus, dangling => do
    match ← peek? with
    | none => fail .flagsCut (← here).stretch
    | some ':' | some ')' =>
      match dangling, minus with
      | true, some part => fail .negationDangling part
      | _, _ => return (flags, minus)
    | some c =>
      let part ← nextPart
      if c = '-' then
        match minus with
        | some earlier => throw (.flawed .negationRepeated part (some earlier))
        | none =>
          advance
          readFlags fuel flags (some part) true
      else
        match PatternFlag.ofLetter? c with
        | none => fail .flagUnknown part
        | some flag =>
          match flags.find? fun other => other.1 == flag with
          | some (_, _, earlier) => throw (.flawed .flagRepeated part (some earlier))
          | none =>
            advance
            readFlags fuel ((flag, minus.isNone, part) :: flags) minus false

/-- Whether a character can stand in the name of a group. -/
def isNamePart (first : Bool) (c : Char) : Bool :=
  c == '_' || Unicode.Property.isAlphabetic c.toNat
    || !first && (c == '.' || c == '[' || c == ']' || Unicode.Property.isNumeric c.toNat)

/-- Reads the name of a group and the angle bracket after it. -/
def readName : Reading Unit := do
  let start ← here
  if (← peek?).isNone then fail .nameCut start.stretch
  let first ← takeClosely fun c => isNamePart true c
  let more ← takeClosely fun c => isNamePart false c && !first.isEmpty
  match ← peek? with
  | none => fail .nameCut (← here).stretch
  | some '>' =>
    let part ← since start
    advance
    let name := String.ofList (first ++ more)
    if name.isEmpty then fail .nameEmpty start.stretch
    match (← get).names.lookup name with
    | some earlier => throw (.flawed .nameRepeated part (some earlier))
    | none => modify fun cursor => { cursor with names := cursor.names ++ [(name, part)] }
  | some _ => fail .nameCharacter (← nextPart)

/-- What a group begins with. -/
inductive Opening where
  /-- Flags for the rest of the group around it. -/
  | directive (change : FlagChange)
  /-- A group with flags of its own. -/
  | group (captured : Bool) (change : FlagChange)

/-- Reads what a group begins with, after its parenthesis. -/
def readOpening (opened : Stretch) : Reading Opening := do
  skip
  if (← take "?=") || (← take "?!") || (← take "?<=") || (← take "?<!") then
    fail .lookAround (← since opened.start)
  let inside ← here
  if (← take "?P<") || (← take "?<") then
    readName
    return .group true []
  else if ← take "?" then
    if (← peek?).isNone then fail .groupOpen opened
    let (flags, minus) ← readFlags ((← get).rest.length + 1) [] none false
    let change := flags.reverse.map fun (flag, on, _) => (flag, on)
    let closed := (← peek?) == some ')'
    advance
    if closed then
      if flags.isEmpty && minus.isNone then fail .nothingToRepeat inside.stretch
      return .directive change
    else return .group false change
  else return .group true []

/-- Reads the question mark that may follow a repetition. -/
def readGreed : Reading Bool := do
  if (← peek?) = some '?' then
    advance
    return true
  else return false

/-- The last part of a sequence and the parts before it, if it can be repeated. -/
def repeated (parts : List PatternTree) : Reading (PatternTree × List PatternTree) := do
  match parts with
  | [] | .empty _ :: _ | .flags _ _ :: _ => fail .nothingToRepeat (← here).stretch
  | tree :: parts => return (tree, parts)

/-- Reads a number of repetitions in braces. -/
def readCounts (tree : PatternTree) : Reading PatternTree := do
  let start ← here
  next
  if (← peek?).isNone then fail .countOpen (← since start)
  let least ← readCount
  let (least, most) ← match ← peek? with
    | none => fail .countOpen (← since start)
    | some ',' => do
      next
      match ← peek? with
      | none => fail .countOpen (← since start)
      | some '\x7D' => pure (← least, none)
      | some _ =>
        let least ← least
        let most ← readCount
        let most ← most
        pure (least, some most)
    | some _ =>
      let least ← least
      pure (least, some least)
  if (← peek?) ≠ some '\x7D' then fail .countOpen (← since start)
  next
  let swapped ← readGreed
  if most.any fun most => most < least then fail .countOrder (← since start)
  return .repetition swapped tree least most ⟨tree.part.start, ← here⟩

/-- Reads a sign of repetition: at least so many times, and at most so many if there is a limit. -/
def readSign (tree : PatternTree) (least : Nat) (most : Option Nat) : Reading PatternTree := do
  advance
  let swapped ← readGreed
  return .repetition swapped tree least most ⟨tree.part.start, ← here⟩

/-- Parts in order as one part, given the part of the pattern that they are. -/
def sequenceOf (parts : List PatternTree) (part : Stretch) : PatternTree :=
  match parts with
  | [] => .empty part
  | [tree] => tree
  | parts => .sequence parts part

mutual

/-- Reads a sequence of parts, given those before, last one first. -/
def readSequence : Nat → Position → List PatternTree → Reading PatternTree
  | 0, start, _ => return .empty start.stretch
  | fuel + 1, start, parts => do
    skip
    match ← peek? with
    | none | some ')' | some '|' => return sequenceOf parts.reverse (← since start)
    | some '(' => readSequence fuel start ((← readGroup fuel) :: parts)
    | some '[' => readSequence fuel start (.bracket (← readClass fuel) :: parts)
    | some '?' =>
      let (tree, parts) ← repeated parts
      readSequence fuel start ((← readSign tree 0 (some 1)) :: parts)
    | some '*' =>
      let (tree, parts) ← repeated parts
      readSequence fuel start ((← readSign tree 0 none) :: parts)
    | some '+' =>
      let (tree, parts) ← repeated parts
      readSequence fuel start ((← readSign tree 1 none) :: parts)
    | some '\x7B' =>
      let (tree, parts) ← repeated parts
      readSequence fuel start ((← readCounts tree) :: parts)
    | some _ => readSequence fuel start ((← readAtom) :: parts)

/-- Reads sequences with bars between them, given those before, last one first. -/
def readChoice : Nat → Position → List PatternTree → Reading PatternTree
  | 0, start, _ => return .empty start.stretch
  | fuel + 1, start, trees => do
    let tree ← readSequence fuel (← here) []
    if (← peek?) = some '|' then
      advance
      readChoice fuel start (tree :: trees)
    else if trees.isEmpty then return tree
    else return .choice (tree :: trees).reverse (← since start)

/-- Reads a group or a directive. -/
def readGroup : Nat → Reading PatternTree
  | 0 => return default
  | fuel + 1 => do
    let opened ← nextPart
    let free := (← get).free
    advance
    match ← readOpening opened with
    | .directive change =>
      modify fun cursor => { cursor with free := (change.lookup .free).getD free }
      return .flags change (← since opened.start)
    | .group captured change =>
      modify fun cursor => { cursor with free := (change.lookup .free).getD free }
      let tree ← readChoice fuel (← here) []
      if (← peek?).isNone then fail .groupOpen opened
      modify fun cursor => { cursor with free }
      advance
      return .group captured change tree (← since opened.start)

end

/-- Reads a whole pattern. -/
def readPattern : Reading PatternTree := do
  let tree ← readChoice (3 * (← get).rest.length + 3) (← here) []
  if (← peek?) = some ')' then fail .groupNotOpen (← nextPart)
  match tree.tooDeep? nestingLimit with
  | some part => fail .nestedTooDeep part
  | none => return tree

end Reading

/-- The parts of a pattern. -/
def PatternTree.ofText (text : String) : Except PatternError PatternTree :=
  Reading.readPattern.run' ⟨text.toList, {}, false, []⟩

end TwoStack
