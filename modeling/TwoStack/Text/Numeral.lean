import TwoStack.Word

/-!
# Numerals

Written numbers are ASCII digits, most significant first, after an optional sign.  A numeral denotes
an integer of any size; whether that integer is a machine word is asked afterwards, so a numeral
that is too large is still known to be a numeral.
-/

namespace TwoStack

namespace Numeral

/-- The value of a digit; the letters `a … f` of either case follow nine. -/
def digit? (c : Char) : Option Nat :=
  if '0' ≤ c ∧ c ≤ '9' then some (c.toNat - '0'.toNat)
  else if 'a' ≤ c ∧ c ≤ 'f' then some (c.toNat - 'a'.toNat + 10)
  else if 'A' ≤ c ∧ c ≤ 'F' then some (c.toNat - 'A'.toNat + 10)
  else none

/-- A character is a digit of a base when its value is below the base. -/
def isDigit (base : Nat) (c : Char) : Bool := (digit? c).any (· < base)

/-- The number that digits denote, most significant first. -/
def value (base : Nat) (digits : List Char) : Nat :=
  digits.foldl (fun n c => base * n + (digit? c).getD 0) 0

/-- The number that a text of one or more digits denotes. -/
def natural? (base : Nat) (text : List Char) : Option Nat :=
  if !text.isEmpty && text.all (isDigit base) then some (value base text) else none

/-- Splits off one leading sign: whether it is a minus, and the text after it. -/
def sign : List Char → Bool × List Char
  | '-' :: rest => (true, rest)
  | '+' :: rest => (false, rest)
  | text => (false, text)

/-- Negates a number that stands after a minus. -/
def signed (negative : Bool) (magnitude : Nat) : Int :=
  if negative then -magnitude else magnitude

/-- The integer that an optional sign and decimal digits denote. -/
def integer? (text : List Char) : Option Int :=
  let (negative, digits) := sign text
  (natural? 10 digits).map (signed negative)

end Numeral

namespace Word

/-- The word with a given value, if the value lies in the range of words. -/
def ofInt? (value : Int) : Option Word :=
  if -2147483648 ≤ value ∧ value ≤ 2147483647 then some (Int32.ofInt value) else none

/-- A word in decimal digits, after a minus when it is negative. -/
def text (value : Word) : String := toString value.toInt

/-- The word that an optional sign and decimal digits denote, if it is one. -/
def ofText? (text : String) : Option Word := do
  ofInt? (← Numeral.integer? text.toList)

theorem ofInt?_toInt (value : Word) : ofInt? value.toInt = some value := by
  have h₀ := Int32.le_toInt value
  have h₁ := Int32.toInt_lt value
  rw [ofInt?, if_pos (by omega), Int32.ofInt_toInt]

end Word

end TwoStack
