import TwoStack.Json
import TwoStack.Text.Numeral

/-!
# Reading JSON text

The parser takes one value off the front of a text and returns the rest.  Blanks may stand before
every part.  A number has no zeros in front, and a string no control characters; a surrogate that is
escaped alone makes a string without text.  The depth of a value is bounded by the length of its
text, which is where the fuel comes from.
-/

namespace TwoStack.Json

/-- Leaves out the blanks that a text begins with. -/
def skipBlanks (text : List Char) : List Char :=
  text.dropWhile fun c => c == ' ' || c == '\t' || c == '\n' || c == '\r'

/-- Takes digits off the front of a text. -/
def takeDigits (text : List Char) : List Char × List Char :=
  (text.takeWhile (Numeral.isDigit 10), text.dropWhile (Numeral.isDigit 10))

/-- Takes a fraction off the front of a text, if one begins there: whether there was one, and the
rest. -/
def takeFraction? : List Char → Option (Bool × List Char)
  | '.' :: text =>
    let (digits, rest) := takeDigits text
    if digits.isEmpty then none else some (true, rest)
  | text => some (false, text)

/-- Takes an exponent off the front of a text, if one begins there: whether there was one, and the
rest. -/
def takeExponent? (text : List Char) : Option (Bool × List Char) :=
  let exponent (text : List Char) :=
    let (digits, rest) := takeDigits (Numeral.sign text).2
    if digits.isEmpty then none else some (true, rest)
  match text with
  | 'e' :: text => exponent text
  | 'E' :: text => exponent text
  | text => some (false, text)

/-- Takes a number off the front of a text, given whether a minus stands before it. -/
def takeNumber? (negative : Bool) (text : List Char) : Option (Json × List Char) := do
  let (digits, rest) := takeDigits text
  if digits.isEmpty || digits.length > 1 && digits.head? == some '0' then none
  else
    let (fraction, rest) ← takeFraction? rest
    let (exponent, rest) ← takeExponent? rest
    let magnitude := Numeral.value 10 digits
    if fraction || exponent || negative && magnitude == 0 then return (real, rest)
    else return (integer (Numeral.signed negative magnitude), rest)

/-- The number that four hexadecimal digits denote. -/
def hex4? (a b c d : Char) : Option Nat := Numeral.natural? 16 [a, b, c, d]

/-- Takes the inside of a string and the quote after it off the front of a text, and appends the
code units to those before, last one first. -/
def takeUnits? (units : List Nat) : List Char → Option (List Nat × List Char)
  | [] => none
  | '"' :: rest => some (units.reverse, rest)
  | '\\' :: '"' :: rest => takeUnits? ('"'.toNat :: units) rest
  | '\\' :: '\\' :: rest => takeUnits? ('\\'.toNat :: units) rest
  | '\\' :: '/' :: rest => takeUnits? ('/'.toNat :: units) rest
  | '\\' :: 'b' :: rest => takeUnits? (0x08 :: units) rest
  | '\\' :: 'f' :: rest => takeUnits? (0x0C :: units) rest
  | '\\' :: 'n' :: rest => takeUnits? (0x0A :: units) rest
  | '\\' :: 'r' :: rest => takeUnits? (0x0D :: units) rest
  | '\\' :: 't' :: rest => takeUnits? (0x09 :: units) rest
  | '\\' :: 'u' :: a :: b :: c :: d :: rest =>
    match hex4? a b c d with
    | some unit => takeUnits? (unit :: units) rest
    | none => none
  | '\\' :: _ => none
  | c :: rest => if c.toNat < 0x20 then none else takeUnits? (c.toNat :: units) rest

/-- The text of code units, in which two surrogates stand for one character; none if a surrogate
stands alone. -/
def decodeUnits? (text : List Char) : List Nat → Option String
  | [] => some (String.ofList text.reverse)
  | [unit] =>
    if 0xD800 ≤ unit ∧ unit ≤ 0xDFFF then none
    else some (String.ofList (Char.ofNat unit :: text).reverse)
  | high :: low :: units =>
    if 0xD800 ≤ high ∧ high ≤ 0xDBFF then
      if 0xDC00 ≤ low ∧ low ≤ 0xDFFF then
        decodeUnits? (Char.ofNat (0x10000 + (high - 0xD800) * 0x400 + (low - 0xDC00)) :: text) units
      else none
    else if 0xDC00 ≤ high ∧ high ≤ 0xDFFF then none
    else decodeUnits? (Char.ofNat high :: text) (low :: units)

/-- Takes a string off the front of a text, after its first quote. -/
def takeString? (text : List Char) : Option (Option String × List Char) := do
  let (units, rest) ← takeUnits? [] text
  return (decodeUnits? [] units, rest)

mutual

/-- Takes a value off the front of a text. -/
def takeValue? : Nat → List Char → Option (Json × List Char)
  | 0, _ => none
  | fuel + 1, text =>
    match skipBlanks text with
    | 'n' :: 'u' :: 'l' :: 'l' :: rest => some (null, rest)
    | 't' :: 'r' :: 'u' :: 'e' :: rest => some (bool true, rest)
    | 'f' :: 'a' :: 'l' :: 's' :: 'e' :: rest => some (bool false, rest)
    | '"' :: rest => (takeString? rest).map fun (content, rest) => (string content, rest)
    | '[' :: rest =>
      match skipBlanks rest with
      | ']' :: rest => some (array [], rest)
      | rest => (takeItems? fuel rest).map fun (items, rest) => (array items, rest)
    | '{' :: rest =>
      match skipBlanks rest with
      | '}' :: rest => some (object [], rest)
      | rest => (takeMembers? fuel rest).map fun (members, rest) => (object members, rest)
    | '-' :: rest => takeNumber? true rest
    | rest => takeNumber? false rest

/-- Takes the items of an array, and the bracket after them, off the front of a text. -/
def takeItems? : Nat → List Char → Option (List Json × List Char)
  | 0, _ => none
  | fuel + 1, text => do
    let (item, rest) ← takeValue? fuel text
    match skipBlanks rest with
    | ']' :: rest => return ([item], rest)
    | ',' :: rest =>
      let (items, rest) ← takeItems? fuel rest
      return (item :: items, rest)
    | _ => none

/-- Takes the members of an object, and the brace after them, off the front of a text. -/
def takeMembers? : Nat → List Char → Option (List (Option String × Json) × List Char)
  | 0, _ => none
  | fuel + 1, text =>
    match skipBlanks text with
    | '"' :: rest => do
      let (name, rest) ← takeString? rest
      match skipBlanks rest with
      | ':' :: rest =>
        let (value, rest) ← takeValue? fuel rest
        match skipBlanks rest with
        | '}' :: rest => return ([(name, value)], rest)
        | ',' :: rest =>
          let (members, rest) ← takeMembers? fuel rest
          return ((name, value) :: members, rest)
        | _ => none
      | _ => none
    | _ => none

end

/-- The value that a whole text denotes. -/
def parse? (text : String) : Option Json :=
  match takeValue? (2 * text.length + 2) text.toList with
  | some (value, rest) => if (skipBlanks rest).isEmpty then some value else none
  | none => none

end TwoStack.Json
