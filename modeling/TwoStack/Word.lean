/-!
# Machine words

A word is 32 bits in two's complement, and sums, differences and negations wrap.  A shift by an
amount outside `0 … 31` moves every bit out: to the left nothing is left, to the right only the
sign fill is.

In memory a word is four bytes, most significant first.  `Word.byte` and `Word.ofBytes` are the two
directions; both go through the natural number below `2 ^ 32` that the bits denote, and
`byte_ofBytes` and `ofBytes_byte` say that they are inverse.
-/

namespace TwoStack

/-- A machine word: 32 bits in two's complement. -/
abbrev Word := Int32

namespace Word

/-- Shifts to the left; every bit leaves the word when the amount is not one of `0 … 31`. -/
def shiftLeft (value amount : Word) : Word :=
  if 0 ≤ amount ∧ amount < 32 then value <<< amount else 0

/-- Shifts to the right and repeats the sign; only the sign remains when the amount is not one of
`0 … 31`. -/
def shiftRight (value amount : Word) : Word :=
  if 0 ≤ amount ∧ amount < 32 then value >>> amount
  else if value < 0 then -1 else 0

/-- The number of bytes of a word in memory. -/
def size : Nat := 4

/-- The bits of a word as a natural number below `2 ^ 32`. -/
def bits (value : Word) : Nat := value.toUInt32.toNat

/-- What the `i`-th byte of a word counts for. -/
def weight : Nat → Nat
  | 0 => 16777216
  | 1 => 65536
  | 2 => 256
  | _ => 1

/-- The `i`-th byte of a word in memory, most significant first. -/
def byte (value : Word) (i : Nat) : UInt8 := UInt8.ofNat (value.bits / weight i)

/-- The word that four bytes denote, most significant first. -/
def ofBytes (b₀ b₁ b₂ b₃ : UInt8) : Word :=
  (UInt32.ofNat (((b₀.toNat * 256 + b₁.toNat) * 256 + b₂.toNat) * 256 + b₃.toNat)).toInt32

/-- The four bytes of a word, most significant first. -/
def toBytes (value : Word) : Array UInt8 :=
  #[value.byte 0, value.byte 1, value.byte 2, value.byte 3]

theorem bits_lt (value : Word) : value.bits < 4294967296 :=
  value.toUInt32.toNat_lt

theorem bits_ofBytes (b₀ b₁ b₂ b₃ : UInt8) :
    bits (ofBytes b₀ b₁ b₂ b₃) =
      ((b₀.toNat * 256 + b₁.toNat) * 256 + b₂.toNat) * 256 + b₃.toNat := by
  have h₀ := b₀.toNat_lt
  have h₁ := b₁.toNat_lt
  have h₂ := b₂.toNat_lt
  have h₃ := b₃.toNat_lt
  simp only [bits, ofBytes, UInt32.toUInt32_toInt32, UInt32.toNat_ofNat']
  omega

theorem ofBytes_byte (value : Word) :
    ofBytes (value.byte 0) (value.byte 1) (value.byte 2) (value.byte 3) = value := by
  have h := bits_lt value
  have hn : (((value.byte 0).toNat * 256 + (value.byte 1).toNat) * 256 + (value.byte 2).toNat) * 256
      + (value.byte 3).toNat = value.bits := by
    simp only [byte, weight, UInt8.toNat_ofNat']
    omega
  rw [ofBytes, hn, bits, UInt32.ofNat_toNat, Int32.toInt32_toUInt32]

theorem byte_ofBytes (b₀ b₁ b₂ b₃ : UInt8) :
    toBytes (ofBytes b₀ b₁ b₂ b₃) = #[b₀, b₁, b₂, b₃] := by
  have h₀ := b₀.toNat_lt
  have h₁ := b₁.toNat_lt
  have h₂ := b₂.toNat_lt
  have h₃ := b₃.toNat_lt
  simp only [toBytes, byte, weight, bits_ofBytes, Array.mk.injEq, List.cons.injEq, and_true,
    ← UInt8.toNat_inj, UInt8.toNat_ofNat']
  omega

end Word

end TwoStack
