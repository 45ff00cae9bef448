/-!
# Blank characters and words

`isBlank` is the Unicode property White_Space.  The words of a text are its maximal runs of
characters that are not blank, in order.
-/

namespace TwoStack

/-- The characters with the property White_Space. -/
def isBlank (c : Char) : Bool :=
  let n := c.toNat
  (0x09 ≤ n && n ≤ 0x0D) || n == 0x20 || n == 0x85 || n == 0xA0 || n == 0x1680
    || (0x2000 ≤ n && n ≤ 0x200A) || n == 0x2028 || n == 0x2029 || n == 0x202F || n == 0x205F
    || n == 0x3000

/-- Adds a word that is spelled backwards, unless it is empty. -/
def closeWord (word : List Char) (words : List String) : List String :=
  if word.isEmpty then words else String.ofList word.reverse :: words

/-- Reads on in a text, given the word begun so far and the words before it, both backwards. -/
def wordsFrom (word : List Char) (words : List String) : List Char → List String
  | [] => (closeWord word words).reverse
  | c :: rest =>
    if isBlank c then wordsFrom [] (closeWord word words) rest
    else wordsFrom (c :: word) words rest

/-- The maximal runs of characters that are not blank. -/
def words (text : String) : List String := wordsFrom [] [] text.toList

/-- A text without the blank characters that it begins and ends with. -/
def withoutOuterBlanks (text : String) : String :=
  String.ofList (((text.toList.dropWhile isBlank).reverse.dropWhile isBlank).reverse)

end TwoStack
