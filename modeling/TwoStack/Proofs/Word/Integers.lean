import Mathlib.Data.Int.Bitwise
import Mathlib.Data.Int.ModEq
import Mathlib.Data.Rat.Floor
import TwoStack.Arithmetic

/-!
# Operations on words as operations on integers

`Word.Operations` says what each operation on words does to the integers that the words stand for.
Sums, differences, negations and shifts to the left give the one word that is congruent to the
integer result modulo `2 ^ 32` (`Word.Represents`).  The bitwise operations act on each of the 32
bits in two's complement.  A shift to the right divides by a power of two and rounds down.

The last two hold for every amount that is not negative, also where the machine moves all bits out
of the word, so shifts one after the other add up (`Word.shiftLeft_shiftLeft`,
`Word.shiftRight_shiftRight`).
-/

namespace TwoStack

/-! ## The laws -/

/-- The word is the only one that is congruent to an integer modulo `2 ^ 32`. -/
def Word.Represents (word : Word) (value : Int) : Prop :=
  ∀ other : Word, other.toInt ≡ value [ZMOD 2 ^ 32] ↔ other = word

/-- The `i`-th bit of a word in two's complement, the lowest first. -/
def Word.bit (word : Word) (i : Nat) : Bool := word.toInt.testBit i

/-- What the operations make of two words. -/
structure Word.Operations (x y : Word) : Prop where
  add : (BinaryOp.add.apply x y).Represents (x.toInt + y.toInt)
  sub : (BinaryOp.sub.apply x y).Represents (x.toInt - y.toInt)
  neg : (UnaryOp.neg.apply x).Represents (-x.toInt)
  and : ∀ i < 32, (BinaryOp.and.apply x y).bit i = (x.bit i && y.bit i)
  or : ∀ i < 32, (BinaryOp.or.apply x y).bit i = (x.bit i || y.bit i)
  xor : ∀ i < 32, (BinaryOp.xor.apply x y).bit i = (x.bit i ^^ y.bit i)
  not : ∀ i < 32, (UnaryOp.not.apply x).bit i = !x.bit i
  shl : 0 ≤ y.toInt → (BinaryOp.shl.apply x y).Represents (x.toInt * 2 ^ y.toInt.toNat)
  shl_out : y.toInt < 0 ∨ 32 ≤ y.toInt → BinaryOp.shl.apply x y = 0
  shr : 0 ≤ y.toInt → (BinaryOp.shr.apply x y).toInt = ⌊(x.toInt : ℚ) / 2 ^ y.toInt.toNat⌋
  shr_negative : y.toInt < 0 → (BinaryOp.shr.apply x y).toInt = ⌊(x.toInt : ℚ) / 2 ^ 32⌋
  shr_out : y.toInt < 0 ∨ 32 ≤ y.toInt →
    BinaryOp.shr.apply x y = if x.toInt < 0 then -1 else 0

namespace Word

variable {x y m n : Word}

/-! ## Residues -/

theorem represents_ofInt (value : Int) : Word.Represents (Int32.ofInt value) value := by
  intro other
  have wrapped (z : Int) : z.bmod (2 ^ 32) % 2 ^ 32 = z % 2 ^ 32 := Int.bmod_emod
  constructor
  · intro congruent
    rw [Int.ModEq] at congruent
    rw [← Int32.ofInt_toInt other, Int32.ofInt_eq_iff_bmod_eq_toInt, Int32.toInt_ofInt,
      ← Int.emod_bmod other.toInt, ← Int.emod_bmod value]
    exact congrArg (fun residue => Int.bmod residue (2 ^ 32)) congruent
  · rintro rfl
    rw [Int32.toInt_ofInt, Int.ModEq]
    exact wrapped value

theorem Represents.eq_ofInt {word : Word} {value : Int} (represents : word.Represents value) :
    word = Int32.ofInt value :=
  (represents_ofInt value word).1 ((represents word).2 rfl)

/-- Congruent integers are represented by the same word. -/
theorem Represents.congr {word : Word} {value other : Int} (represents : word.Represents value)
    (congruent : value ≡ other [ZMOD 2 ^ 32]) : word.Represents other := fun third =>
  ⟨fun same => (represents third).1 (same.trans congruent.symm),
    fun same => ((represents third).2 same).trans congruent⟩

theorem Represents.unique {word other : Word} {value : Int} (represents : word.Represents value)
    (others : other.Represents value) : word = other :=
  represents.eq_ofInt.trans others.eq_ofInt.symm

theorem add_represents (x y : Word) : Word.Represents (x + y) (x.toInt + y.toInt) := by
  rw [← Int32.ofInt_toInt x, ← Int32.ofInt_toInt y, ← Int32.ofInt_add, Int32.ofInt_toInt,
    Int32.ofInt_toInt]
  exact represents_ofInt _

theorem sub_represents (x y : Word) : Word.Represents (x - y) (x.toInt - y.toInt) := by
  rw [← Int32.ofInt_toInt x, ← Int32.ofInt_toInt y, ← Int32.ofInt_sub, Int32.ofInt_toInt,
    Int32.ofInt_toInt]
  exact represents_ofInt _

theorem neg_represents (x : Word) : Word.Represents (-x) (-x.toInt) := by
  rw [← Int32.ofInt_toInt x, ← Int32.ofInt_neg, Int32.ofInt_toInt]
  exact represents_ofInt _

/-! ## Bits -/

/-- The bits of a word below the sign extension. -/
theorem bit_eq_getLsbD {i : Nat} (inside : i < 32) (word : Word) :
    word.bit i = word.toBitVec.getLsbD i := by
  have integer : word.toInt = word.toBitVec.toInt := rfl
  have below : word.toBitVec.toNat < 2 ^ 32 := word.toBitVec.isLt
  rw [bit, integer, BitVec.toInt_eq_toNat_cond, BitVec.getLsbD]
  split
  · rfl
  · -- a negative integer has the complement of the bits of the number below its opposite
    have negative : (word.toBitVec.toNat : Int) - (2 ^ 32 : Nat) =
        Int.negSucc (2 ^ 32 - (word.toBitVec.toNat + 1)) := by omega
    rw [negative, Int.testBit, Nat.testBit_two_pow_sub_succ below, decide_eq_true inside,
      Bool.true_and, Bool.not_not]

theorem bit_and {i : Nat} (inside : i < 32) (x y : Word) :
    Word.bit (x &&& y) i = (x.bit i && y.bit i) := by
  rw [bit_eq_getLsbD inside, bit_eq_getLsbD inside, bit_eq_getLsbD inside, Int32.toBitVec_and,
    BitVec.getLsbD_and]

theorem bit_or {i : Nat} (inside : i < 32) (x y : Word) :
    Word.bit (x ||| y) i = (x.bit i || y.bit i) := by
  rw [bit_eq_getLsbD inside, bit_eq_getLsbD inside, bit_eq_getLsbD inside, Int32.toBitVec_or,
    BitVec.getLsbD_or]

theorem bit_xor {i : Nat} (inside : i < 32) (x y : Word) :
    Word.bit (x ^^^ y) i = (x.bit i ^^ y.bit i) := by
  rw [bit_eq_getLsbD inside, bit_eq_getLsbD inside, bit_eq_getLsbD inside, Int32.toBitVec_xor,
    BitVec.getLsbD_xor]

theorem bit_not {i : Nat} (inside : i < 32) (x : Word) : Word.bit (~~~x) i = !x.bit i := by
  rw [bit_eq_getLsbD inside, bit_eq_getLsbD inside, Int32.toBitVec_not, BitVec.getLsbD_not,
    decide_eq_true inside, Bool.true_and]

/-! ## Shifts inside the word -/

/-- The amounts by which some bits stay in the word. -/
theorem inside_iff : 0 ≤ n ∧ n < 32 ↔ 0 ≤ n.toInt ∧ n.toInt < 32 := by
  rw [Int32.le_iff_toInt_le, Int32.lt_iff_toInt_lt]
  exact Iff.rfl

/-- An amount inside the word is taken as it is. -/
theorem toNat_smod (inside : 0 ≤ n.toInt ∧ n.toInt < 32) :
    (n.toBitVec.smod 32).toNat = n.toInt.toNat := by
  have integer : n.toInt = n.toBitVec.toInt := rfl
  have kept : (n.toBitVec.smod 32).toInt = n.toInt := by
    rw [BitVec.toInt_smod, ← integer, Int.fmod_eq_emod_of_nonneg _ (by decide)]
    exact Int.emod_eq_of_lt inside.1 inside.2
  have signed := BitVec.toInt_eq_toNat_cond (n.toBitVec.smod 32)
  have below := (n.toBitVec.smod 32).isLt
  split at signed <;> omega

theorem shiftLeft_of_inside (inside : 0 ≤ n.toInt ∧ n.toInt < 32) (x : Word) :
    shiftLeft x n = x <<< n := by
  rw [shiftLeft, if_pos (inside_iff.2 inside)]

theorem shiftRight_of_inside (inside : 0 ≤ n.toInt ∧ n.toInt < 32) (x : Word) :
    shiftRight x n = x >>> n := by
  rw [shiftRight, if_pos (inside_iff.2 inside)]

theorem shiftLeft_of_outside (outside : n.toInt < 0 ∨ 32 ≤ n.toInt) (x : Word) :
    shiftLeft x n = 0 := by
  rw [shiftLeft, if_neg]
  rw [inside_iff]
  omega

theorem shiftRight_of_outside (outside : n.toInt < 0 ∨ 32 ≤ n.toInt) (x : Word) :
    shiftRight x n = if x.toInt < 0 then -1 else 0 := by
  have sign : x < 0 ↔ x.toInt < 0 := Int32.lt_iff_toInt_lt
  rw [shiftRight, if_neg]
  · simp only [sign]
  · rw [inside_iff]
    omega

/-- Moving the bits of a word up multiplies by a power of two. -/
theorem shiftLeft_eq_ofInt (inside : 0 ≤ n.toInt ∧ n.toInt < 32) (x : Word) :
    x <<< n = Int32.ofInt (x.toInt * 2 ^ n.toInt.toNat) := by
  have power : (Int32.ofInt (2 ^ n.toInt.toNat)).toBitVec = BitVec.twoPow 32 n.toInt.toNat := by
    apply BitVec.eq_of_toNat_eq
    rw [Int32.toBitVec_ofInt, ← Nat.cast_two, ← Nat.cast_pow, BitVec.ofInt_natCast,
      BitVec.toNat_ofNat, BitVec.toNat_twoPow]
  rw [Int32.ofInt_mul, Int32.ofInt_toInt, ← Int32.toBitVec_inj, Int32.toBitVec_shiftLeft,
    BitVec.shiftLeft_eq', toNat_smod inside, BitVec.shiftLeft_eq_mul_twoPow, Int32.toBitVec_mul,
    power]

/-! ## Shifts by any amount -/

/-- Of an integer that is divided by something at least as large only the sign is left. -/
theorem ediv_eq_sign {value divisor : Int} (least : -divisor ≤ value) (most : value < divisor) :
    value / divisor = if value < 0 then -1 else 0 := by
  split
  · next negative => exact Int.ediv_eq_neg_one_of_neg_of_le negative (by omega)
  · next nonnegative => exact Int.ediv_eq_zero_of_lt (by omega) most

/-- No bit is left when a word is divided by `2 ^ 32` or more. -/
theorem toInt_ediv_pow {k : Nat} (large : 32 ≤ k) (x : Word) :
    x.toInt / 2 ^ k = if x.toInt < 0 then -1 else 0 := by
  have power : (2 : Int) ^ 32 ≤ 2 ^ k := pow_le_pow_right₀ (by decide) large
  have least := Int32.le_toInt x
  have most := Int32.toInt_lt x
  exact ediv_eq_sign (by omega) (by omega)

/-- A shift to the left multiplies by a power of two, also when no bit stays in the word. -/
theorem shiftLeft_represents (nonnegative : 0 ≤ n.toInt) (x : Word) :
    Word.Represents (shiftLeft x n) (x.toInt * 2 ^ n.toInt.toNat) := by
  rcases lt_or_ge n.toInt 32 with inside | outside
  · rw [shiftLeft_of_inside ⟨nonnegative, inside⟩, shiftLeft_eq_ofInt ⟨nonnegative, inside⟩]
    exact represents_ofInt _
  · rw [shiftLeft_of_outside (.inr outside)]
    have zero : Word.Represents (Int32.ofInt 0) 0 := represents_ofInt 0
    refine zero.congr (Int.modEq_iff_dvd.2 ?_)
    rw [Int.sub_zero]
    exact Dvd.dvd.mul_left (pow_dvd_pow 2 (by omega)) x.toInt

/-- A shift to the right divides by a power of two and rounds down. -/
theorem toInt_shiftRight (nonnegative : 0 ≤ n.toInt) (x : Word) :
    (shiftRight x n).toInt = x.toInt / 2 ^ n.toInt.toNat := by
  rcases lt_or_ge n.toInt 32 with inside | outside
  · have integer : (x >>> n).toInt = (x >>> n).toBitVec.toInt := rfl
    rw [shiftRight_of_inside ⟨nonnegative, inside⟩, integer, Int32.toBitVec_shiftRight,
      BitVec.toInt_sshiftRight', Int.shiftRight_eq_div_pow, toNat_smod ⟨nonnegative, inside⟩,
      Nat.cast_pow]
    rfl
  · rw [shiftRight_of_outside (.inr outside), toInt_ediv_pow (by omega)]
    split
    · rfl
    · rfl

/-- A shift to the right by a negative amount leaves the sign, as a division by `2 ^ 32` does. -/
theorem toInt_shiftRight_of_negative (negative : n.toInt < 0) (x : Word) :
    (shiftRight x n).toInt = x.toInt / 2 ^ 32 := by
  rw [shiftRight_of_outside (.inl negative), toInt_ediv_pow (le_refl 32)]
  split
  · rfl
  · rfl

/-- Division by a power of two that rounds down. -/
theorem floor_div_pow (value : Int) (k : Nat) : ⌊(value : ℚ) / 2 ^ k⌋ = value / 2 ^ k := by
  have floor := Rat.floor_intCast_div_natCast value (2 ^ k)
  rwa [Nat.cast_pow, Nat.cast_pow] at floor

/-! ## Shifts one after the other -/

theorem toInt_add_of_fits (nonnegative : 0 ≤ m.toInt + n.toInt)
    (fits : m.toInt + n.toInt ≤ 2 ^ 31 - 1) : (m + n).toInt = m.toInt + n.toInt := by
  rw [Int32.toInt_add]
  exact Int.bmod_eq_of_le (by omega) (by omega)

theorem shiftLeft_shiftLeft (first : 0 ≤ m.toInt) (second : 0 ≤ n.toInt)
    (fits : m.toInt + n.toInt ≤ 2 ^ 31 - 1) (x : Word) :
    shiftLeft (shiftLeft x m) n = shiftLeft x (m + n) := by
  have sum := toInt_add_of_fits (by omega) fits
  have once := (shiftLeft_represents first x _).2 rfl
  have total := shiftLeft_represents (n := m + n) (by omega) x
  rw [sum, Int.toNat_add first second, pow_add, ← mul_assoc] at total
  exact ((shiftLeft_represents second (shiftLeft x m)).congr (once.mul_right _)).unique total

theorem shiftRight_shiftRight (first : 0 ≤ m.toInt) (second : 0 ≤ n.toInt)
    (fits : m.toInt + n.toInt ≤ 2 ^ 31 - 1) (x : Word) :
    shiftRight (shiftRight x m) n = shiftRight x (m + n) := by
  have sum := toInt_add_of_fits (by omega) fits
  rw [← Int32.toInt_inj, toInt_shiftRight second, toInt_shiftRight first,
    toInt_shiftRight (by omega), sum, Int.toNat_add first second, pow_add,
    Int.ediv_ediv_of_nonneg (by positivity)]

/-- The operations on words do to the integers of the words what their names say, and shifts in one
direction add up as long as the amount is a word. -/
theorem operations_on_integers (x y m n : Word) :
    Operations x y ∧
      (0 ≤ m.toInt → 0 ≤ n.toInt → m.toInt + n.toInt ≤ 2 ^ 31 - 1 →
        BinaryOp.shl.apply (BinaryOp.shl.apply x m) n = BinaryOp.shl.apply x (m + n) ∧
          BinaryOp.shr.apply (BinaryOp.shr.apply x m) n = BinaryOp.shr.apply x (m + n)) := by
  refine ⟨?_, fun first second fits =>
    ⟨shiftLeft_shiftLeft first second fits x, shiftRight_shiftRight first second fits x⟩⟩
  exact
    { add := add_represents x y
      sub := sub_represents x y
      neg := neg_represents x
      and := fun _ inside => bit_and inside x y
      or := fun _ inside => bit_or inside x y
      xor := fun _ inside => bit_xor inside x y
      not := fun _ inside => bit_not inside x
      shl := fun nonnegative => shiftLeft_represents nonnegative x
      shl_out := fun outside => shiftLeft_of_outside outside x
      shr := fun nonnegative => by
        rw [floor_div_pow]
        exact toInt_shiftRight nonnegative x
      shr_negative := fun negative => by
        rw [floor_div_pow]
        exact toInt_shiftRight_of_negative negative x
      shr_out := fun outside => shiftRight_of_outside outside x }

/-- Two shifts by twenty bits move all bits of the least word out. -/
theorem operations_on_integers_across :
    let x : Word := -2147483648
    BinaryOp.shl.apply (BinaryOp.shl.apply x 20) 20 = 0 ∧
      BinaryOp.shr.apply (BinaryOp.shr.apply x 20) 20 = -1 := by
  intro x
  have composed := (operations_on_integers x 0 20 20).2 (by decide) (by decide) (by decide)
  exact ⟨composed.1.trans (by decide), composed.2.trans (by decide)⟩

end Word

end TwoStack
