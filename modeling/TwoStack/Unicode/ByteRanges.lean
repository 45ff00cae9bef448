/-!
# Ranges of characters as ranges of bytes

In UTF-8 a character is a leading byte and up to three bytes with six bits each.  The characters of a
range are those whose bytes lie in one of a few rows of byte ranges, and `byteRanges` finds the rows
in ascending order.
-/

namespace TwoStack.Unicode

/-- A row of byte ranges, one for each byte of a character. -/
abbrev ByteRow := List (Nat × Nat)

/-- The number of values that `count` bytes of six bits each can have. -/
def valuesOf : Nat → Nat
  | 0 => 1
  | count + 1 => 64 * valuesOf count

/-- The rows for the values from `first` to `last`, which have their lowest bits in `count` bytes of
six bits each, and the other bits in a byte that counts up from `lead`.  Where the range begins or
ends inside of what one first byte stands for, that byte has rows of its own. -/
def rowsFrom : (count lead first last : Nat) → List ByteRow
  | 0, lead, first, last => [[(lead + first, lead + last)]]
  | count + 1, lead, first, last =>
    let block := valuesOf (count + 1)
    let rowsIn (byte first last : Nat) : List ByteRow :=
      (rowsFrom count 0x80 first last).map fun row => (lead + byte, lead + byte) :: row
    let low := first / block
    let high := last / block
    if low = high then rowsIn low (first % block) (last % block)
    else
      let cutLow := first % block != 0
      let cutHigh := last % block != block - 1
      let start := if cutLow then low + 1 else low
      let stop := if cutHigh then high else high + 1
      let below := if cutLow then rowsIn low (first % block) (block - 1) else []
      let above := if cutHigh then rowsIn high 0 (last % block) else []
      let between :=
        if start < stop then
          [(lead + start, lead + (stop - 1)) :: List.replicate (count + 1) (0x80, 0xBF)]
        else []
      below ++ between ++ above

/-- The characters that have the same number of bytes and the same kind of leading byte: the first
and the last code point, the number of bytes after the leading one, and what it counts up from.  There
are none between D7FF and E000. -/
def encodedLengths : List (Nat × Nat × Nat × Nat) :=
  [(0, 0x7F, 0, 0), (0x80, 0x7FF, 1, 0xC0), (0x800, 0xD7FF, 2, 0xE0), (0xE000, 0xFFFF, 2, 0xE0),
    (0x10000, 0x10FFFF, 3, 0xF0)]

/-- The rows for the characters from `first` to `last`. -/
def byteRanges (first last : Nat) : List ByteRow :=
  encodedLengths.flatMap fun (low, high, count, lead) =>
    if max first low ≤ min last high then rowsFrom count lead (max first low) (min last high)
    else []

end TwoStack.Unicode
