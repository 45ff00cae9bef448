import TwoStack.Text.Blank
import TwoStack.Text.Numeral

/-!
# Tables of code points

A property of characters is kept as the code points at which it changes.  `Runs` says where each run
of code points of one value begins; `Bounds` is a set, which is entered and left in turn.  Both are
searched by halving, and both are written as text, with code points in lower-case hexadecimal digits.
-/

namespace TwoStack.Unicode

/-- The number of entries of an ascending sequence that are at most `n`, given that all below `low`
are and none from `high` on is. -/
def countUpTo (entry : Nat → Nat) (n low high : Nat) : Nat :=
  if low < high then
    if entry ((low + high) / 2) ≤ n then countUpTo entry n ((low + high) / 2 + 1) high
    else countUpTo entry n low ((low + high) / 2)
  else low
  termination_by high - low

/-- A character that is part of a code point in a table. -/
def isTableDigit (c : Char) : Bool := Numeral.isDigit 16 c && !c.isUpper

/-- The code points at which runs begin, in ascending order, each with the value of its run. -/
structure Runs (α : Type) where
  entries : Array (Nat × α)

namespace Runs

variable {α : Type}

/-- Reads a table in which each entry is a code point followed by letters that stand for a value. -/
def ofText (value? : List Char → Option α) (text : String) : Runs α :=
  ⟨((words text).filterMap fun word =>
    (value? (word.toList.dropWhile isTableDigit)).map fun value =>
      (Numeral.value 16 (word.toList.takeWhile isTableDigit), value)).toArray⟩

/-- The value of the run that a code point is in. -/
def value? (runs : Runs α) (n : Nat) : Option α :=
  let count := countUpTo (fun i => (runs.entries[i]?.map Prod.fst).getD 0) n 0 runs.entries.size
  if count = 0 then none else runs.entries[count - 1]?.map Prod.snd

end Runs

/-- The code points at which a set is entered and left in turn, in ascending order. -/
structure Bounds where
  entries : Array Nat

namespace Bounds

/-- Reads a table of code points. -/
def ofText (text : String) : Bounds :=
  ⟨((words text).map fun word => Numeral.value 16 word.toList).toArray⟩

/-- Whether a code point is in the set. -/
def contains (bounds : Bounds) (n : Nat) : Bool :=
  countUpTo (fun i => bounds.entries[i]?.getD 0) n 0 bounds.entries.size % 2 == 1

end Bounds

end TwoStack.Unicode
