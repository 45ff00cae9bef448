import Mathlib.Data.Nat.Digits.Defs
import Mathlib.Tactic.Ring
import TwoStack.Proofs.Source.Meaning
import TwoStack.Proofs.Source.Slices
import TwoStack.Proofs.Text.Decimal

/-!
# Integer literals

`IntegerLiteral text value` is the grammar of integer literals with the integers that they denote:
an optional sign, then decimal digits, or `0x` and hexadecimal digits, and the sum of the digits
with their weights.  The integer may be of any size.  `integerLiteral?` finds exactly that
(`integerLiteral?_eq_some_iff`).

Whether a literal is a machine word is asked afterwards, so a literal that is too large is refused
as a literal and never taken for a label (`literals_exact`).  It makes no difference if the text is
cut by the offsets of its bytes and the magnitude is counted in a register of 64 bits, where
counting fails when the register overflows: a magnitude that is lost in this way is far outside the
range of words, whatever the sign (`wordLiteralSliced?_eq`).

The numerals of an input have decimal digits only (`Word.ofText?_eq_some_iff`).
-/

namespace TwoStack

/-! ## The grammar -/

/-- The digits of a base that is at most sixteen, in the order of their values. -/
def lowerDigits : List Char :=
  ['0', '1', '2', '3', '4', '5', '6', '7', '8', '9', 'a', 'b', 'c', 'd', 'e', 'f']

/-- The same digits, with capital letters. -/
def upperDigits : List Char :=
  ['0', '1', '2', '3', '4', '5', '6', '7', '8', '9', 'A', 'B', 'C', 'D', 'E', 'F']

/-- A character is a digit of a base with a value. -/
def DigitOf (base : Nat) (c : Char) (value : Nat) : Prop :=
  value < base ∧ (lowerDigits[value]? = some c ∨ upperDigits[value]? = some c)

/-- What may stand in front of a number, and the factor it stands for. -/
inductive SignOf : List Char → Int → Prop
  | none : SignOf [] 1
  | plus : SignOf ['+'] 1
  | minus : SignOf ['-'] (-1)

/-- What may stand in front of digits to tell their base. -/
inductive MarkOf : List Char → Nat → Prop
  | none : MarkOf [] 10
  | lower : MarkOf ['0', 'x'] 16
  | upper : MarkOf ['0', 'X'] 16

/-- One or more digits of a base, most significant first, and the number that they denote. -/
def Denotes (base : Nat) (digits : List Char) (n : Nat) : Prop :=
  digits ≠ [] ∧ ∃ values, List.Forall₂ (DigitOf base) digits values ∧
    n = Nat.ofDigits base values.reverse

/-- An integer literal, and the integer that it denotes. -/
inductive IntegerLiteral (text : String) (value : Int) : Prop
  | written {sign mark digits : List Char} {factor : Int} {base n : Nat}
    (signed : SignOf sign factor) (marked : MarkOf mark base)
    (spelled : text.toList = sign ++ mark ++ digits) (denotes : Denotes base digits n)
    (valued : value = factor * n)

/-- The word that a literal denotes: nothing if the text is no literal, and a literal without a word
if its integer is no word. -/
def wordLiteral? (text : String) : Option (Option Word) := (integerLiteral? text).map Word.ofInt?

/-! ## Digits -/

namespace Numeral

theorem digit?_of_getElem? {c : Char} {value : Nat}
    (listed : lowerDigits[value]? = some c ∨ upperDigits[value]? = some c) :
    digit? c = some value := by
  have lower : ∀ entry ∈ lowerDigits.zipIdx, digit? entry.1 = some entry.2 := by decide
  have upper : ∀ entry ∈ upperDigits.zipIdx, digit? entry.1 = some entry.2 := by decide
  rcases listed with listed | listed
  · exact lower (c, value) (List.mk_mem_zipIdx_iff_getElem?.2 listed)
  · exact upper (c, value) (List.mk_mem_zipIdx_iff_getElem?.2 listed)

/-- A digit is the character at a distance from the first one of its kind. -/
theorem eq_ofNat_add {first last c : Char} (range : first ≤ c ∧ c ≤ last) :
    ∃ distance, distance ≤ last.toNat - first.toNat ∧ c.toNat - first.toNat = distance ∧
      c = Char.ofNat (first.toNat + distance) := by
  have least : first.toNat ≤ c.toNat := range.1
  have most : c.toNat ≤ last.toNat := range.2
  refine ⟨c.toNat - first.toNat, by omega, rfl, ?_⟩
  rw [Nat.add_sub_cancel' least, Char.ofNat_toNat]

theorem getElem?_of_digit? {c : Char} {value : Nat} (read : digit? c = some value) :
    lowerDigits[value]? = some c ∨ upperDigits[value]? = some c := by
  have decimal : ∀ distance ≤ 9, lowerDigits[distance]? = some (Char.ofNat (48 + distance)) := by
    decide
  have lower : ∀ distance ≤ 5, lowerDigits[distance + 10]? = some (Char.ofNat (97 + distance)) := by
    decide
  have upper : ∀ distance ≤ 5, upperDigits[distance + 10]? = some (Char.ofNat (65 + distance)) := by
    decide
  unfold digit? at read
  split at read
  · next range =>
      obtain ⟨distance, bound, value, spelled⟩ := eq_ofNat_add range
      rw [value, Option.some.injEq] at read
      rw [← read, spelled]
      exact .inl (decimal distance bound)
  · split at read
    · next range =>
        obtain ⟨distance, bound, value, spelled⟩ := eq_ofNat_add range
        rw [value, Option.some.injEq] at read
        rw [← read, spelled]
        exact .inl (lower distance bound)
    · split at read
      · next range =>
          obtain ⟨distance, bound, value, spelled⟩ := eq_ofNat_add range
          rw [value, Option.some.injEq] at read
          rw [← read, spelled]
          exact .inr (upper distance bound)
      · cases read

theorem digitOf_iff {base : Nat} {c : Char} {value : Nat} :
    DigitOf base c value ↔ digit? c = some value ∧ value < base := by
  constructor
  · intro digit
    exact ⟨digit?_of_getElem? digit.2, digit.1⟩
  · intro digit
    exact ⟨digit.2, getElem?_of_digit? digit.1⟩

theorem isDigit_iff {base : Nat} {c : Char} :
    isDigit base c = true ↔ ∃ value, DigitOf base c value := by
  rw [isDigit, Option.any_eq_true]
  simp only [digitOf_iff, decide_eq_true_eq]

/-- The fold over digits adds them up with their weights. -/
theorem foldl_of_forall₂ {base : Nat} {digits : List Char} {values : List Nat}
    (spelled : List.Forall₂ (DigitOf base) digits values) (start : Nat) :
    digits.foldl (fun n c => base * n + (digit? c).getD 0) start =
      base ^ values.length * start + Nat.ofDigits base values.reverse := by
  induction spelled generalizing start with
  | nil => simp
  | @cons c value digits values digit spelled ih =>
      rw [List.foldl_cons, ih, (digitOf_iff.1 digit).1, Option.getD_some, List.reverse_cons,
        Nat.ofDigits_append, Nat.ofDigits_singleton, List.length_reverse, List.length_cons]
      ring

theorem value_of_forall₂ {base : Nat} {digits : List Char} {values : List Nat}
    (spelled : List.Forall₂ (DigitOf base) digits values) :
    value base digits = Nat.ofDigits base values.reverse := by
  rw [value, foldl_of_forall₂ spelled, Nat.mul_zero, Nat.zero_add]

theorem exists_values {base : Nat} {digits : List Char}
    (all : ∀ c ∈ digits, isDigit base c = true) :
    ∃ values, List.Forall₂ (DigitOf base) digits values := by
  induction digits with
  | nil => exact ⟨[], .nil⟩
  | cons c digits ih =>
      rw [List.forall_mem_cons] at all
      obtain ⟨value, digit⟩ := isDigit_iff.1 all.1
      obtain ⟨values, spelled⟩ := ih all.2
      exact ⟨value :: values, .cons digit spelled⟩

theorem isDigit_of_forall₂ {base : Nat} {digits : List Char} {values : List Nat}
    (spelled : List.Forall₂ (DigitOf base) digits values) :
    ∀ c ∈ digits, isDigit base c = true := by
  induction spelled with
  | nil => exact List.forall_mem_nil _
  | cons digit _ ih => exact List.forall_mem_cons.2 ⟨isDigit_iff.2 ⟨_, digit⟩, ih⟩

theorem natural?_eq_some_iff {base : Nat} {digits : List Char} {n : Nat} :
    natural? base digits = some n ↔ Denotes base digits n := by
  have readable : (!digits.isEmpty && digits.all (isDigit base)) = true ↔
      digits ≠ [] ∧ ∀ c ∈ digits, isDigit base c = true := by
    simp
  unfold natural?
  split
  · next valid =>
      rw [readable] at valid
      obtain ⟨values, spelled⟩ := exists_values valid.2
      rw [Option.some.injEq]
      constructor
      · intro same
        exact ⟨valid.1, values, spelled, same ▸ value_of_forall₂ spelled⟩
      · rintro ⟨_, others, listed, same⟩
        rw [same, value_of_forall₂ listed]
  · next invalid =>
      refine ⟨nofun, fun denotes => ?_⟩
      obtain ⟨nonempty, values, spelled, _⟩ := denotes
      exact absurd (readable.2 ⟨nonempty, isDigit_of_forall₂ spelled⟩) invalid

/-! ## Signs and marks -/

theorem exists_signOf (text : List Char) :
    ∃ front factor, SignOf front factor ∧ text = front ++ (sign text).2 ∧
      ∀ n, signed (sign text).1 n = factor * (n : Int) := by
  unfold sign
  split
  · exact ⟨['-'], -1, .minus, rfl, fun n => by simp [signed]⟩
  · exact ⟨['+'], 1, .plus, rfl, fun n => by simp [signed]⟩
  · exact ⟨[], 1, .none, rfl, fun n => by simp [signed]⟩

/-- A sign is cut off what begins with a digit. -/
theorem sign_append {front : List Char} {factor : Int} (signs : SignOf front factor) {c : Char}
    (digit : isDigit 16 c = true) (rest : List Char) :
    ∃ negative, sign (front ++ c :: rest) = (negative, c :: rest) ∧
      ∀ n, signed negative n = factor * (n : Int) := by
  cases signs with
  | none =>
      refine ⟨false, ?_, fun n => by simp [signed]⟩
      unfold sign
      split
      · next minus =>
          rw [List.nil_append, List.cons.injEq] at minus
          rw [minus.1] at digit
          exact absurd digit (by decide)
      · next plus =>
          rw [List.nil_append, List.cons.injEq] at plus
          rw [plus.1] at digit
          exact absurd digit (by decide)
      · rfl
  | plus => exact ⟨false, rfl, fun n => by simp [signed]⟩
  | minus => exact ⟨true, rfl, fun n => by simp [signed]⟩

/-- The base and the digits of a number without a sign. -/
def radix : List Char → Nat × List Char
  | '0' :: 'x' :: digits | '0' :: 'X' :: digits => (16, digits)
  | digits => (10, digits)

theorem exists_markOf (body : List Char) :
    ∃ mark, MarkOf mark (radix body).1 ∧ body = mark ++ (radix body).2 := by
  unfold radix
  split
  · exact ⟨_, .lower, rfl⟩
  · exact ⟨_, .upper, rfl⟩
  · exact ⟨_, .none, rfl⟩

theorem pos_of_markOf {mark : List Char} {base : Nat} (marked : MarkOf mark base) : 0 < base := by
  cases marked with
  | none => decide
  | lower => decide
  | upper => decide

theorem radix_append {mark digits : List Char} {base : Nat} (marked : MarkOf mark base)
    (all : ∀ c ∈ digits, isDigit base c = true) : radix (mark ++ digits) = (base, digits) := by
  cases marked with
  | none =>
      -- a second character `x` is no decimal digit
      rw [List.nil_append]
      unfold radix
      split
      · exact absurd (all 'x' (by simp)) (by decide)
      · exact absurd (all 'X' (by simp)) (by decide)
      · rfl
  | lower => rfl
  | upper => rfl

theorem isDigit_of_le {base other : Nat} (order : base ≤ other) {c : Char}
    (digit : isDigit base c = true) : isDigit other c = true := by
  obtain ⟨value, below, listed⟩ := isDigit_iff.1 digit
  exact isDigit_iff.2 ⟨value, by omega, listed⟩

end Numeral

theorem integerLiteral?_eq (text : String) :
    integerLiteral? text =
      (Numeral.natural? (Numeral.radix (Numeral.sign text.toList).2).1
        (Numeral.radix (Numeral.sign text.toList).2).2).map
          (Numeral.signed (Numeral.sign text.toList).1) := by
  unfold integerLiteral?
  rcases Numeral.sign text.toList with ⟨negative, body⟩
  dsimp only
  split
  · rfl
  · rfl
  · rw [Numeral.radix]
    · assumption
    · assumption

/-- A text is read as a literal with a value exactly if it is one. -/
theorem integerLiteral?_eq_some_iff {text : String} {value : Int} :
    integerLiteral? text = some value ↔ IntegerLiteral text value := by
  rw [integerLiteral?_eq, Option.map_eq_some_iff]
  constructor
  · rintro ⟨n, read, valued⟩
    obtain ⟨front, factor, signs, cut, signed⟩ := Numeral.exists_signOf text.toList
    obtain ⟨mark, marked, split⟩ := Numeral.exists_markOf (Numeral.sign text.toList).2
    refine .written signs marked ?_ (Numeral.natural?_eq_some_iff.1 read) ?_
    · rw [List.append_assoc, ← split]
      exact cut
    · rw [← valued, signed]
  · intro literal
    cases literal with
    | @written front mark digits factor base n signs marked spelled denotes valued =>
        have read := Numeral.natural?_eq_some_iff.2 denotes
        obtain ⟨nonempty, values, listed, _⟩ := denotes
        have all := Numeral.isDigit_of_forall₂ listed
        -- what follows the sign begins with a digit, be it the first of the mark
        obtain ⟨c, rest, begins, digit⟩ :
            ∃ c rest, mark ++ digits = c :: rest ∧ Numeral.isDigit 16 c = true := by
          cases marked with
          | none =>
              obtain ⟨c, rest, rfl⟩ := List.exists_cons_of_ne_nil nonempty
              exact ⟨c, rest, rfl, Numeral.isDigit_of_le (by decide) (all c List.mem_cons_self)⟩
          | lower => exact ⟨_, _, rfl, by decide⟩
          | upper => exact ⟨_, _, rfl, by decide⟩
        obtain ⟨negative, cut, signed⟩ := Numeral.sign_append signs digit rest
        rw [← begins, ← List.append_assoc, ← spelled] at cut
        refine ⟨n, ?_, ?_⟩
        · rw [cut, Numeral.radix_append marked all]
          exact read
        · rw [cut, signed, valued]

/-! ## Counting in a register -/

namespace Numeral

/-- Counts the digits of a number in a register that holds the numbers below a limit. -/
def countBelow? (limit base : Nat) : Nat → List Char → Option Nat
  | n, [] => some n
  | n, c :: digits =>
    if base * n + (digit? c).getD 0 < limit then
      countBelow? limit base (base * n + (digit? c).getD 0) digits
    else
      none

theorem le_foldl {base : Nat} (positive : 0 < base) (digits : List Char) (start : Nat) :
    start ≤ digits.foldl (fun n c => base * n + (digit? c).getD 0) start := by
  induction digits generalizing start with
  | nil => exact Nat.le_refl start
  | cons c digits ih =>
      have grown : start ≤ base * start := Nat.le_mul_of_pos_left start positive
      have later := ih (base * start + (digit? c).getD 0)
      rw [List.foldl_cons]
      omega

/-- The register overflows exactly if the number is too large for it. -/
theorem countBelow?_eq {limit base : Nat} (positive : 0 < base) (digits : List Char) {start : Nat}
    (small : start < limit) :
    countBelow? limit base start digits =
      if digits.foldl (fun n c => base * n + (digit? c).getD 0) start < limit then
        some (digits.foldl (fun n c => base * n + (digit? c).getD 0) start)
      else
        none := by
  induction digits generalizing start with
  | nil => exact (if_pos small).symm
  | cons c digits ih =>
      have later := le_foldl positive digits (base * start + (digit? c).getD 0)
      rw [countBelow?, List.foldl_cons]
      split
      · next fits => exact ih fits
      · next overflow => exact (if_neg (by omega)).symm

end Numeral

theorem Word.ofInt?_eq_none {value : Int}
    (outside : ¬(-2147483648 ≤ value ∧ value < 2147483648)) : Word.ofInt? value = none :=
  if_neg fun inside => outside ⟨inside.1, by omega⟩

theorem Word.exists_ofInt? {value : Int} (least : -2147483648 ≤ value)
    (most : value < 2147483648) : ∃ word, Word.ofInt? value = some word ∧ word.toInt = value := by
  refine ⟨Int32.ofInt value, if_pos ⟨least, by omega⟩, ?_⟩
  exact Int32.toInt_ofInt_of_le least most

theorem radixSliced?_eq (body : List Char) :
    radixSliced? (String.ofList body) =
      some ((Numeral.radix body).1, String.ofList (Numeral.radix body).2) := by
  rcases radixSliced?_cases body with ⟨digits, marked, cut⟩ | ⟨unmarked, cut⟩
  · rcases marked with rfl | rfl
    · exact cut
    · exact cut
  · rw [cut, Numeral.radix]
    · exact fun digits => (unmarked digits).1
    · exact fun digits => (unmarked digits).2

/-- The word that a literal denotes, where the literal is cut by the offsets of its bytes and its
magnitude is counted in 64 bits with a sign. -/
def wordLiteralSliced? (text : String) : Option (Option (Option Word)) := do
  let (negative, body) ← signSliced? text
  let (base, digits) ← radixSliced? body
  if !digits.toList.isEmpty && digits.toList.all (Numeral.isDigit base) then
    return some ((Numeral.countBelow? 9223372036854775808 base 0 digits.toList).bind fun n =>
      Word.ofInt? (Numeral.signed negative n))
  else
    return none

/-- No literal is cut inside a character, and a magnitude that does not fit in 64 bits belongs to
no word. -/
theorem wordLiteralSliced?_eq (text : String) :
    wordLiteralSliced? text = some (wordLiteral? text) := by
  rw [wordLiteralSliced?, signSliced?_eq, wordLiteral?, integerLiteral?_eq]
  rcases Numeral.sign text.toList with ⟨negative, body⟩
  dsimp only [Option.bind_eq_bind, Option.bind_some]
  rw [radixSliced?_eq]
  have positive : 0 < (Numeral.radix body).1 := by
    obtain ⟨mark, marked, _⟩ := Numeral.exists_markOf body
    exact Numeral.pos_of_markOf marked
  revert positive
  rcases Numeral.radix body with ⟨base, digits⟩
  intro positive
  dsimp only [Option.bind_some] at positive ⊢
  rw [String.toList_ofList, Numeral.natural?]
  split
  · rw [Numeral.countBelow?_eq positive digits (by decide), ← Numeral.value]
    split
    · rfl
    · next overflow =>
        refine congrArg (fun word => some (some word)) (Word.ofInt?_eq_none ?_).symm
        unfold Numeral.signed
        split
        · omega
        · omega
  · rfl

/-! ## Words in decimal digits -/

/-- A word in decimal digits, with an optional sign. -/
inductive DecimalWord (text : String) (word : Word) : Prop
  | written {sign digits : List Char} {factor : Int} {n : Nat} (signed : SignOf sign factor)
    (spelled : text.toList = sign ++ digits) (denotes : Denotes 10 digits n)
    (valued : word.toInt = factor * n)

theorem Word.ofInt?_eq_some_iff {value : Int} {word : Word} :
    Word.ofInt? value = some word ↔ word.toInt = value := by
  constructor
  · intro read
    unfold Word.ofInt? at read
    split at read
    · next inside =>
        cases read
        exact Int32.toInt_ofInt_of_le inside.1 (by omega)
    · cases read
  · intro same
    rw [← same]
    exact Word.ofInt?_toInt word

theorem Word.ofText?_eq_some_iff {text : String} {word : Word} :
    Word.ofText? text = some word ↔ DecimalWord text word := by
  have stepwise : Word.ofText? text = some word ↔
      ∃ n, Numeral.natural? 10 (Numeral.sign text.toList).2 = some n ∧
        Numeral.signed (Numeral.sign text.toList).1 n = word.toInt := by
    rw [Word.ofText?, Numeral.integer?]
    simp only [Option.bind_eq_bind, Option.bind_eq_some_iff, Option.map_eq_some_iff,
      Word.ofInt?_eq_some_iff]
    constructor
    · rintro ⟨value, ⟨n, read, rfl⟩, same⟩
      exact ⟨n, read, same.symm⟩
    · rintro ⟨n, read, same⟩
      exact ⟨_, ⟨n, read, rfl⟩, same.symm⟩
  rw [stepwise]
  constructor
  · rintro ⟨n, read, valued⟩
    obtain ⟨front, factor, signs, cut, signed⟩ := Numeral.exists_signOf text.toList
    exact .written signs cut (Numeral.natural?_eq_some_iff.1 read)
      (valued.symm.trans (signed n))
  · rintro ⟨signs, spelled, denotes, valued⟩
    have read := Numeral.natural?_eq_some_iff.2 denotes
    obtain ⟨nonempty, values, listed, _⟩ := denotes
    obtain ⟨c, rest, rfl⟩ := List.exists_cons_of_ne_nil nonempty
    have digit := Numeral.isDigit_of_forall₂ listed c List.mem_cons_self
    obtain ⟨negative, cut, signed⟩ :=
      Numeral.sign_append signs (Numeral.isDigit_of_le (by decide) digit) rest
    rw [← spelled] at cut
    rw [cut, valued]
    exact ⟨_, read, signed _⟩

/-! ## Literals and words -/

/-- What is known about a text that may be a literal: it is read as one exactly if it is one, and
its integer is a word or else out of range. -/
structure ReadsExactly (text : String) : Prop where
  grammar : wordLiteral? text ≠ none ↔ ∃ value, IntegerLiteral text value
  unique : ∀ value other, IntegerLiteral text value → IntegerLiteral text other → value = other
  word : ∀ value, IntegerLiteral text value → -2147483648 ≤ value → value < 2147483648 →
    ∃ word, word.toInt = value ∧ wordLiteral? text = some (some word) ∧
      ∀ keyword, Operand.ofText keyword text = .ok (.literal word)
  outside : ∀ value, IntegerLiteral text value → ¬(-2147483648 ≤ value ∧ value < 2147483648) →
    wordLiteral? text = some none ∧
      ∀ keyword, Operand.ofText keyword text = .error (.integerOutOfRange text)
  sliced : wordLiteralSliced? text = some (wordLiteral? text)

/-- Literals of any length are read with their exact values, and those that are no words are
refused; every word in decimal digits is read back. -/
theorem literals_exact :
    (∀ text, ReadsExactly text) ∧
      ∀ word : Word, IntegerLiteral word.text word.toInt ∧
        wordLiteral? word.text = some (some word) := by
  constructor
  · intro text
    have read {value : Int} (literal : IntegerLiteral text value) :
        wordLiteral? text = some (Word.ofInt? value) := by
      rw [wordLiteral?, integerLiteral?_eq_some_iff.2 literal, Option.map_some]
    constructor
    · rw [wordLiteral?, ne_eq, Option.map_eq_none_iff, ← ne_eq, Option.ne_none_iff_exists']
      simp only [integerLiteral?_eq_some_iff]
    · intro value other literal second
      rw [← integerLiteral?_eq_some_iff] at literal second
      exact Option.some.inj (literal.symm.trans second)
    · intro value literal least most
      obtain ⟨word, fits, same⟩ := Word.exists_ofInt? least most
      refine ⟨word, same, by rw [read literal, fits], fun keyword => ?_⟩
      exact Operand.ofText_of_means keyword (.literal (integerLiteral?_eq_some_iff.2 literal) fits)
    · intro value literal outside
      have lost := Word.ofInt?_eq_none outside
      refine ⟨by rw [read literal, lost], fun keyword => ?_⟩
      exact Operand.ofText_of_wrong
        (.integerOutOfRange (integerLiteral?_eq_some_iff.2 literal) lost)
    · exact wordLiteralSliced?_eq text
  · intro word
    have read := word.integerLiteral?_text
    refine ⟨integerLiteral?_eq_some_iff.1 read, ?_⟩
    rw [wordLiteral?, read, Option.map_some, Word.ofInt?_toInt]

/-- The least word in hexadecimal digits, with zeros in front; without the sign it is out of
range. -/
theorem literals_exact_least :
    IntegerLiteral "-0X0080000000" (-2147483648) ∧
      (∃ word : Word, word.toInt = -2147483648 ∧ wordLiteral? "-0X0080000000" = some (some word)) ∧
      IntegerLiteral "0X0080000000" 2147483648 ∧ wordLiteral? "0X0080000000" = some none := by
  have least : IntegerLiteral "-0X0080000000" (-2147483648) :=
    integerLiteral?_eq_some_iff.1 (by decide +kernel)
  have large : IntegerLiteral "0X0080000000" 2147483648 :=
    integerLiteral?_eq_some_iff.1 (by decide +kernel)
  obtain ⟨word, same, read, _⟩ := (literals_exact.1 _).word _ least (by decide) (by decide)
  exact ⟨least, ⟨word, same, read⟩, large, ((literals_exact.1 _).outside _ large (by decide)).1⟩

end TwoStack
