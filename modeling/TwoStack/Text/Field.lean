/-!
# Fields of fixed width

Numbers and texts that are printed in columns.  A text that is wider than its column is printed
whole.
-/

namespace TwoStack

/-- A byte in two upper-case hexadecimal digits. -/
def hexByte (byte : UInt8) : String :=
  String.ofList [(Nat.digitChar (byte.toNat / 16)).toUpper, (Nat.digitChar (byte.toNat % 16)).toUpper]

/-- A number with zeros in front up to five places. -/
def fivePlaces (number : Nat) : String :=
  let digits := toString number
  String.ofList (List.replicate (5 - digits.length) '0') ++ digits

/-- A text with blanks after it up to a width. -/
def padRight (width : Nat) (text : String) : String :=
  text ++ String.ofList (List.replicate (width - text.length) ' ')

end TwoStack
