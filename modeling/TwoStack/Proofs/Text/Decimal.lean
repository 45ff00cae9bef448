import Mathlib.Tactic.Common
import TwoStack.Source.Statement

/-!
# Decimal numerals

A machine word is printed in decimal digits, after a minus when it is negative.  What is printed is
read back as a literal with the same value (`Word.integerLiteral?_text`): the digits denote the
magnitude, the sign is the only one, and no such text looks like a hexadecimal numeral.
-/

namespace TwoStack

namespace Numeral

theorem digit?_of_isDigit {c : Char} (decimal : c.isDigit = true) :
    digit? c = some (c.toNat - '0'.toNat) := by
  have range : '0' ≤ c ∧ c ≤ '9' := by simpa [Char.isDigit, Char.le_def] using decimal
  rw [digit?, if_pos range]

theorem isDigit_of_isDigit {c : Char} (decimal : c.isDigit = true) : isDigit 10 c = true := by
  have range := Char.isDigit_iff_toNat.1 decimal
  have below : c.toNat - '0'.toNat < 10 := by
    have nine : '9'.toNat = '0'.toNat + 9 := rfl
    omega
  rw [isDigit, digit?_of_isDigit decimal]
  simpa using below

theorem foldl_value {digits : List Char} (decimal : ∀ c ∈ digits, c.isDigit = true) (start : Nat) :
    digits.foldl (fun n c => 10 * n + (digit? c).getD 0) start =
      Nat.ofDigitChars 10 digits start := by
  induction digits generalizing start with
  | nil => rfl
  | cons c digits ih =>
      rw [List.forall_mem_cons] at decimal
      rw [List.foldl_cons, Nat.ofDigitChars_cons, digit?_of_isDigit decimal.1, Option.getD_some]
      exact ih decimal.2 _

theorem isDigit_of_mem_toDigits {n : Nat} {c : Char} (listed : c ∈ Nat.toDigits 10 n) :
    c.isDigit = true :=
  Nat.isDigit_of_mem_toDigits (by decide) (by decide) listed

theorem value_toDigits (n : Nat) : value 10 (Nat.toDigits 10 n) = n := by
  rw [value, foldl_value fun _ => isDigit_of_mem_toDigits, Nat.ofDigitChars_ten_toDigits]

theorem natural?_toDigits (n : Nat) : natural? 10 (Nat.toDigits 10 n) = some n := by
  rw [natural?, if_pos, value_toDigits]
  rw [Bool.and_eq_true, List.all_eq_true]
  exact ⟨by simp, fun c listed => isDigit_of_isDigit (isDigit_of_mem_toDigits listed)⟩

/-- Only zero begins with the digit zero. -/
theorem head?_toDigits_ne_zero {n : Nat} (positive : 0 < n) :
    (Nat.toDigits 10 n).head? ≠ some '0' := by
  induction n using Nat.strongRecOn with
  | ind n ih =>
      rcases Nat.lt_or_ge n 10 with small | large
      · rw [Nat.toDigits_of_lt_base small]
        have table : ∀ d : Fin 10, 0 < d.val → [Nat.digitChar d.val].head? ≠ some '0' := by decide
        exact table ⟨n, small⟩ positive
      · have higher := ih (n / 10) (by omega) (by omega)
        obtain ⟨c, rest, begins⟩ :=
          List.exists_cons_of_ne_nil (Nat.toDigits_ne_nil (b := 10) (n := n / 10))
        rw [begins] at higher
        rw [Nat.toDigits_of_base_le (by decide) large, begins]
        exact higher

theorem sign_toDigits (n : Nat) : sign (Nat.toDigits 10 n) = (false, Nat.toDigits 10 n) := by
  have decimal (c : Char) (listed : c ∈ Nat.toDigits 10 n) := isDigit_of_mem_toDigits listed
  unfold sign
  split
  · next minus => exact absurd (decimal '-' (minus ▸ List.mem_cons_self)) (by decide)
  · next plus => exact absurd (decimal '+' (plus ▸ List.mem_cons_self)) (by decide)
  · rfl

end Numeral

/-- Decimal digits after a sign, or without one, are a literal. -/
theorem integerLiteral?_of_sign {text : String} {negative : Bool} {n : Nat}
    (signed : Numeral.sign text.toList = (negative, Nat.toDigits 10 n)) :
    integerLiteral? text = some (Numeral.signed negative n) := by
  have decimal (c : Char) (listed : c ∈ Nat.toDigits 10 n) := Numeral.isDigit_of_mem_toDigits listed
  have second (c d : Char) (rest : List Char) (body : Nat.toDigits 10 n = c :: d :: rest) :
      d.isDigit = true :=
    decimal d (body ▸ List.mem_cons_of_mem _ List.mem_cons_self)
  rw [integerLiteral?, signed]
  dsimp only
  split
  · next lower => exact absurd (second _ _ _ lower) (by decide)
  · next upper => exact absurd (second _ _ _ upper) (by decide)
  · rw [Numeral.natural?_toDigits, Option.map_some]

theorem Numeral.toList_repr (value : Int) :
    value.repr.toList =
      if 0 ≤ value then Nat.toDigits 10 value.toNat
      else '-' :: Nat.toDigits 10 (-value).toNat := by
  rw [Int.repr_eq_if]
  split
  · rw [Nat.toList_repr]
  · rw [String.toList_append, Nat.toList_repr]
    rfl

theorem Word.toList_text (word : Word) :
    word.text.toList =
      if 0 ≤ word.toInt then Nat.toDigits 10 word.toInt.toNat
      else '-' :: Nat.toDigits 10 (-word.toInt).toNat := by
  rw [Word.text, Int.toString_eq_repr, Numeral.toList_repr]

/-- A printed word is the digits of its magnitude after its sign. -/
theorem Word.exists_sign_text (word : Word) :
    ∃ negative n, Numeral.sign word.text.toList = (negative, Nat.toDigits 10 n) ∧
      Numeral.signed negative n = word.toInt := by
  have spelled := word.toList_text
  by_cases positive : 0 ≤ word.toInt
  · rw [if_pos positive] at spelled
    refine ⟨false, word.toInt.toNat, ?_, Int.toNat_of_nonneg positive⟩
    rw [spelled]
    exact Numeral.sign_toDigits _
  · rw [if_neg positive] at spelled
    refine ⟨true, (-word.toInt).toNat, by rw [spelled]; rfl, ?_⟩
    rw [Numeral.signed, if_pos rfl]
    omega

/-- A printed word is a literal that denotes it. -/
theorem Word.integerLiteral?_text (word : Word) : integerLiteral? word.text = some word.toInt := by
  obtain ⟨negative, n, signed, same⟩ := word.exists_sign_text
  rw [integerLiteral?_of_sign signed, same]

/-- A printed word is read back. -/
theorem Word.ofText?_text (word : Word) : Word.ofText? word.text = some word := by
  obtain ⟨negative, n, signed, same⟩ := word.exists_sign_text
  have integer : Numeral.integer? word.text.toList = some word.toInt := by
    rw [Numeral.integer?, signed]
    dsimp only
    rw [Numeral.natural?_toDigits, Option.map_some, same]
  rw [Word.ofText?, integer]
  exact Word.ofInt?_toInt word

/-- A printed word has only digits and a minus in it. -/
theorem Word.isDigit_or_minus {word : Word} {c : Char} (listed : c ∈ word.text.toList) :
    c.isDigit = true ∨ c = '-' := by
  rw [Word.toList_text] at listed
  split at listed
  · exact .inl (Numeral.isDigit_of_mem_toDigits listed)
  · rcases List.mem_cons.1 listed with minus | listed
    · exact .inr minus
    · exact .inl (Numeral.isDigit_of_mem_toDigits listed)

theorem Word.toList_text_ne_nil (word : Word) : word.text.toList ≠ [] := by
  rw [Word.toList_text]
  split
  · exact Nat.toDigits_ne_nil
  · exact List.cons_ne_nil _ _

end TwoStack
