/-!
# Sets of characters

A set of characters is kept as the ranges of code points that it consists of, in ascending order and
with a gap between any two, so that a set has one form only.  `CharSet.contains` says what is in a
set.
-/

namespace TwoStack

/-- A set of code points, as ascending ranges with gaps between them. -/
structure CharSet where
  ranges : List (Nat × Nat)
  deriving DecidableEq, Repr

namespace CharSet

/-- The last code point. -/
def lastCode : Nat := 0x10FFFF

/-- The set without members. -/
def empty : CharSet := ⟨[]⟩

/-- Whether a code point is in a set. -/
def contains (set : CharSet) (n : Nat) : Bool := set.ranges.any fun (low, high) => low ≤ n && n ≤ high

/-- Whether a set has no members. -/
def isEmpty (set : CharSet) : Bool := set.ranges.isEmpty

/-- Adds a range to ascending ranges, and joins it with those that it meets. -/
def insert (first last : Nat) : List (Nat × Nat) → List (Nat × Nat)
  | [] => [(first, last)]
  | (low, high) :: ranges =>
    if last + 1 < low then (first, last) :: (low, high) :: ranges
    else if high + 1 < first then (low, high) :: insert first last ranges
    else insert (min first low) (max last high) ranges

/-- The ranges between ascending ranges, from a code point on. -/
def gaps (low : Nat) : List (Nat × Nat) → List (Nat × Nat)
  | [] => if low ≤ lastCode then [(low, lastCode)] else []
  | (first, last) :: ranges =>
    if low < first then (low, first - 1) :: gaps (last + 1) ranges else gaps (last + 1) ranges

/-- The code points from `first` to `last`. -/
def interval (first last : Nat) : CharSet := if first ≤ last then ⟨[(first, last)]⟩ else empty

/-- The set of one code point. -/
def single (n : Nat) : CharSet := interval n n

/-- What is in one of two sets or in both. -/
def union (a b : CharSet) : CharSet :=
  ⟨b.ranges.foldl (fun ranges (first, last) => insert first last ranges) a.ranges⟩

/-- The union of intervals. -/
def ofIntervals (intervals : List (Nat × Nat)) : CharSet :=
  intervals.foldl (fun set (first, last) => set.union (interval first last)) empty

/-- What is not in a set. -/
def complement (a : CharSet) : CharSet := ⟨gaps 0 a.ranges⟩

/-- What is in both of two sets. -/
def intersection (a b : CharSet) : CharSet := (a.complement.union b.complement).complement

/-- What is in `a` and not in `b`. -/
def difference (a b : CharSet) : CharSet := a.intersection b.complement

/-- What is in one of two sets only. -/
def distinction (a b : CharSet) : CharSet := (a.union b).difference (a.intersection b)

/-- A set with the other case of its ASCII letters. -/
def asciiCaseless (a : CharSet) : CharSet :=
  let lower := (a.intersection (interval 0x41 0x5A)).ranges.map fun (first, last) =>
    (first + 0x20, last + 0x20)
  let upper := (a.intersection (interval 0x61 0x7A)).ranges.map fun (first, last) =>
    (first - 0x20, last - 0x20)
  a.union (ofIntervals (lower ++ upper))

/-- Whether a set has ASCII characters only. -/
def isAscii (set : CharSet) : Bool := set.ranges.all fun (_, last) => last < 0x80

end CharSet

end TwoStack
