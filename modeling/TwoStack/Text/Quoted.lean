import TwoStack.Unicode.Property

/-!
# Quoted text in messages

A text shown in a message stands between double quotes.  Quotes and backslashes are escaped by a
backslash, four control characters have a letter of their own, and every other character that does
not stand on the page by itself is written as its number in hexadecimal digits between braces.
-/

namespace TwoStack.Quoted

open Unicode

/-- The categories of characters that leave no mark, or of which no mark is known. -/
def unseen : List Category := [.cc, .cf, .cs, .co, .cn, .zl, .zp, .zs]

/-- Whether a character stands on the page by itself: it leaves a mark or is the blank, and it is no
mark that extends the character before it. -/
def standsAlone (c : Char) : Bool :=
  let n := c.toNat
  c == ' ' || !unseen.contains (Category.of n) && !Property.isFiller n
    && !(Property.isMark n && Property.isGraphemeExtend n)

/-- The spelling of one character between quotes. -/
def escape (c : Char) : List Char :=
  match c with
  | '"' => ['\\', '"']
  | '\\' => ['\\', '\\']
  | '\x00' => ['\\', '0']
  | '\t' => ['\\', 't']
  | '\r' => ['\\', 'r']
  | '\n' => ['\\', 'n']
  | c => if standsAlone c then [c] else '\\' :: 'u' :: '{' :: Nat.toDigits 16 c.toNat ++ ['}']

/-- A text between quotes. -/
def quote (text : String) : String :=
  String.ofList ('"' :: text.toList.flatMap escape ++ ['"'])

end TwoStack.Quoted
