import TwoStack.Pattern.Basic
import TwoStack.Unicode.ByteRanges

/-!
# The room for a pattern

A pattern is searched for by two automata over the bytes of a text, one that reads forward and one
that reads backward.  `Pattern.automatonSize` is the number of bytes that such an automaton occupies:
each state takes 32, and what leads on from it takes more where there is more than one way.  A part
that ends where ways fork takes room for one more way as soon as something follows it.
-/

namespace TwoStack

/-- The way in which an automaton reads a text. -/
inductive Direction where
  | forward
  | backward
  deriving DecidableEq, Repr

/-- The room for a part of an automaton. -/
structure Room where
  bytes : Nat
  /-- Whether the part ends where ways fork. -/
  forked : Bool := false
  deriving DecidableEq, Repr

namespace Room

/-- The bytes of a state. -/
def state : Nat := 32

/-- The bytes of a way from a state on that reads a range of bytes. -/
def step : Nat := 8

/-- The bytes of a way from a fork on. -/
def way : Nat := 4

/-- The sum of several sizes. -/
def total (sizes : List Nat) : Nat := sizes.foldl (· + ·) 0

/-- The way from the end of a part on, if it needs room. -/
def onward (room : Room) : Nat := if room.forked then way else 0

/-- The bytes of a part and of the way on from it. -/
def led (room : Room) : Nat := room.bytes + room.onward

/-- A part and another that is read after it. -/
def followedBy (first second : Room) : Room := ⟨first.led + second.bytes, second.forked⟩

/-- A part so many times. -/
def times (room : Room) : Nat → Room
  | 0 => ⟨state, false⟩
  | count + 1 => ⟨count * room.led + room.bytes, room.forked⟩

/-- A part at least so many times, and at most so many if there is a limit.  Going round any number of
times takes more if a part may be empty, because then it could go round without reading. -/
def repeated (room : Room) (mayBeEmpty : Bool) (least : Nat) : Option Nat → Room
  | none =>
    if least = 0 then
      if mayBeEmpty then ⟨room.led + 3 * state + 4 * way, false⟩
      else ⟨room.led + state + way, true⟩
    else ⟨(room.times least).led + state + way, true⟩
  | some most =>
    if least = most then room.times least
    else if most = 1 then ⟨room.led + 2 * state + 2 * way, false⟩
    else
      ⟨(room.times least).led + state + (most - least) * (room.led + state + 2 * way), false⟩

/-- Splits a list where the empty list stands; empty lists at its front count as one. -/
def chunks (rests : List (List UInt8)) : List (List (List UInt8)) :=
  split (if rests.head? = some [] then [] :: rests.dropWhile List.isEmpty else rests)
where
  /-- Splits a list at every empty list. -/
  split : List (List UInt8) → List (List (List UInt8))
    | [] => [[]]
    | [] :: rests => [] :: split rests
    | rest :: rests =>
      match split rests with
      | [] => [[rest]]
      | chunk :: chunks => (rest :: chunk) :: chunks

/-- What follows each of the first bytes of some rests. -/
def branches (rests : List (List UInt8)) : List (List (List UInt8)) :=
  (rests.filterMap List.head?).eraseDups.map fun byte =>
    rests.filterMap fun
      | first :: rest => if first = byte then some rest else none
      | [] => none

/-- The bytes of a place in the tree of some literals, given what is left of each literal there, up
to a depth.  A literal that ends at a place parts the others into those before it and those after
it.  Where nothing is left all literals end in one state. -/
def treeBytes : Nat → List (List UInt8) → Nat
  | 0, _ => 0
  | depth + 1, rests =>
    let chunks := chunks rests
    let sizes := chunks.map fun chunk =>
      match branches chunk with
      | [] => 0
      | branches =>
        let below := branches.map fun rests =>
          if rests.all List.isEmpty then 0 else treeBytes depth rests
        way + state + (if branches.length = 1 then 0 else step * branches.length) + total below
    state + way * (chunks.length - 1) + total sizes

/-- One of several literals. -/
def literals (choices : List (List UInt8)) : Room :=
  ⟨state + treeBytes ((choices.map List.length).foldl max 0 + 1) choices, false⟩

/-- The places in the tree of some rows of byte ranges where something follows, each given by what
follows, up to a depth.  Equal places are one. -/
def places : Nat → List Unicode.ByteRow → List (List Unicode.ByteRow)
  | 0, _ => []
  | depth + 1, rows =>
    let heads := (rows.filterMap List.head?).eraseDups
    if heads.isEmpty then []
    else
      let below := heads.flatMap fun head =>
        places depth (rows.filterMap fun row => if row.head? = some head then row.tail? else none)
      (rows :: below).eraseDups

/-- A character of a set.  The rows of byte ranges for the set share what they end with if they are
read forward, and what they begin with if they are read backward. -/
def oneOf (direction : Direction) (set : CharSet) : Room :=
  if set.isAscii then ⟨2 * state + step * set.ranges.length, false⟩
  else
    let rows := set.ranges.flatMap fun (first, last) => Unicode.byteRanges first last
    match direction with
    | .forward =>
      let sizes := (places 4 rows).map fun rows =>
        state + step * (rows.filterMap List.head?).eraseDups.length
      ⟨state + total sizes, false⟩
    | .backward =>
      let fronts := (rows.flatMap fun row =>
        (List.range row.length).map fun i => row.take (i + 1)).eraseDups
      ⟨2 * state + state * fronts.length + way * rows.length, false⟩

end Room

namespace Pattern

/-- Whether a pattern is a choice. -/
def isChoice : Pattern → Bool
  | choice _ _ => true
  | _ => false

/-- The bytes of a character in UTF-8. -/
def encoded (chars : List Char) : List UInt8 := chars.flatMap String.utf8EncodeChar

/-- The room for a pattern in an automaton. -/
def room (direction : Direction) : Pattern → Room
  | empty | look _ => ⟨Room.state, false⟩
  | literal chars => ⟨Room.state * (encoded chars).length, false⟩
  | oneOf _ set => .oneOf direction set
  | sequence first second =>
    match direction with
    | .forward => (first.room direction).followedBy (second.room direction)
    | .backward => (second.room direction).followedBy (first.room direction)
  | literals choices =>
    match direction with
    | .forward => .literals (choices.map encoded)
    | .backward => .literals (choices.map fun chars => (encoded chars).reverse)
  | choice first second =>
    let first := first.room direction
    let rest := second.room direction
    let rest := if second.isChoice then rest.bytes else 2 * Room.state + rest.led + Room.way
    ⟨first.led + Room.way + rest, false⟩
  | repetition _ pattern least most =>
    let mayBeEmpty := pattern.leastLength?.getD 0 == 0
    (pattern.room direction).repeated mayBeEmpty least most
  | group _ pattern =>
    match direction with
    | .forward => ⟨(pattern.room direction).led + 2 * Room.state, false⟩
    | .backward => pattern.room direction

/-- The bytes of the automaton for a pattern.  Unless a pattern is bound to the end of the text where
reading begins, the automaton skips bytes in front of it; only the forward one marks where the pattern
begins and ends. -/
def automatonSize (pattern : Pattern) (direction : Direction) : Nat :=
  let bound := match direction with
    | .forward => pattern.beginsWith .textStart
    | .backward => pattern.endsWith .textEnd
  let front := if bound then Room.state else 3 * Room.state + Room.step + 2 * Room.way
  let marks := match direction with
    | .forward => 2 * Room.state
    | .backward => 0
  front + marks + (pattern.room direction).led + Room.state

end Pattern

end TwoStack
