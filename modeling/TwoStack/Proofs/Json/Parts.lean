import Mathlib.Data.List.DropRight
import TwoStack.Json.Parser
import TwoStack.Json.Printer
import TwoStack.Proofs.Text.Decimal

/-!
# Parts of JSON text

Blanks, numbers and strings are read back as they are printed.  The parser takes each of them off
the front of a text, so what is said here is said with an arbitrary rest behind the printed part.
Only a number could go on into that rest, and it does not: what stands behind a value inside another
one is a comma, a bracket, a brace or the end of the line (`Json.Closes`).
-/

namespace TwoStack.Json

/-! ## Blanks -/

/-- The blanks between the parts of a text. -/
def isBlank (c : Char) : Bool := c == ' ' || c == '\t' || c == '\n' || c == '\r'

theorem skipBlanks_append {blanks : List Char} (blank : ∀ c ∈ blanks, isBlank c = true)
    (text : List Char) : skipBlanks (blanks ++ text) = skipBlanks text :=
  List.dropWhile_append_of_pos blank

theorem skipBlanks_cons {c : Char} (solid : isBlank c = false) (rest : List Char) :
    skipBlanks (c :: rest) = c :: rest :=
  List.dropWhile_cons_of_neg (Bool.eq_false_iff.1 solid)

theorem skipBlanks_skipBlanks (text : List Char) :
    skipBlanks (skipBlanks text) = skipBlanks text :=
  List.dropWhile_idempotent _ text

theorem isBlank_of_mem_gap {layout : Layout} {depth : Nat} {c : Char}
    (listed : c ∈ layout.gap depth) : isBlank c = true := by
  cases layout with
  | compact => cases listed
  | indented =>
      rcases List.mem_cons.1 listed with rfl | listed
      · rfl
      · rw [List.eq_of_mem_replicate listed]
        rfl

theorem skipBlanks_gap (layout : Layout) (depth : Nat) (text : List Char) :
    skipBlanks (layout.gap depth ++ text) = skipBlanks text :=
  skipBlanks_append (fun _ => isBlank_of_mem_gap) text

theorem skipBlanks_afterColon (layout : Layout) (text : List Char) :
    skipBlanks (layout.afterColon ++ text) = skipBlanks text := by
  apply skipBlanks_append
  intro c listed
  cases layout with
  | compact => cases listed
  | indented =>
      rw [List.mem_singleton.1 listed]
      rfl

theorem isBlank_of_isDigit {c : Char} (digit : c.isDigit = true) : isBlank c = false := by
  cases blank : isBlank c with
  | false => rfl
  | true =>
      simp only [isBlank, Bool.or_eq_true, beq_iff_eq] at blank
      rcases blank with ((rfl | rfl) | rfl) | rfl <;> exact absurd digit (by decide)

/-! ## Numbers -/

/-- What stands behind a value: nothing, or what ends a part. -/
def Closes (rest : List Char) : Prop := ∀ c ∈ rest.head?, c ∈ [',', ']', '}', '\n']

theorem closes_nil : Closes [] := nofun

theorem closes_cons {c : Char} (closing : c ∈ [',', ']', '}', '\n']) (rest : List Char) :
    Closes (c :: rest) := by
  intro d first
  cases first
  exact closing

theorem closes_gap {layout : Layout} {depth : Nat} {rest : List Char} (closes : Closes rest) :
    Closes (layout.gap depth ++ rest) := by
  cases layout with
  | compact => exact closes
  | indented => exact closes_cons (by decide) _

theorem Closes.takeDigits {rest digits : List Char} (closes : Closes rest)
    (decimal : ∀ c ∈ digits, Numeral.isDigit 10 c = true) :
    takeDigits (digits ++ rest) = (digits, rest) := by
  have stop : rest.takeWhile (Numeral.isDigit 10) = [] ∧
      rest.dropWhile (Numeral.isDigit 10) = rest := by
    cases rest with
    | nil => exact ⟨rfl, rfl⟩
    | cons c rest =>
        have closing : [',', ']', '}', '\n'].all (fun d => !Numeral.isDigit 10 d) = true := rfl
        have other : ¬Numeral.isDigit 10 c = true := by
          simpa using List.all_eq_true.1 closing c (closes c rfl)
        exact ⟨List.takeWhile_cons_of_neg other, List.dropWhile_cons_of_neg other⟩
  rw [Json.takeDigits, List.takeWhile_append_of_pos decimal, List.dropWhile_append_of_pos decimal,
    stop.1, stop.2, List.append_nil]

theorem Closes.takeFraction? {rest : List Char} (closes : Closes rest) :
    takeFraction? rest = some (false, rest) := by
  unfold Json.takeFraction?
  split
  · exact absurd (closes '.' rfl) (by decide)
  · rfl

theorem Closes.takeExponent? {rest : List Char} (closes : Closes rest) :
    takeExponent? rest = some (false, rest) := by
  unfold Json.takeExponent?
  dsimp only
  split
  · exact absurd (closes 'e' rfl) (by decide)
  · exact absurd (closes 'E' rfl) (by decide)
  · rfl

/-- The digits of a number are taken whole. -/
theorem takeNumber?_toDigits {rest : List Char} (closes : Closes rest) (negative : Bool) (n : Nat) :
    takeNumber? negative (Nat.toDigits 10 n ++ rest) =
      if negative && n == 0 then some (real, rest)
      else some (integer (Numeral.signed negative n), rest) := by
  have decimal (c : Char) (listed : c ∈ Nat.toDigits 10 n) :=
    Numeral.isDigit_of_isDigit (Numeral.isDigit_of_mem_toDigits listed)
  have shape : ((Nat.toDigits 10 n).isEmpty || decide ((Nat.toDigits 10 n).length > 1) &&
      (Nat.toDigits 10 n).head? == some '0') = false := by
    rw [Bool.or_eq_false_iff, Bool.and_eq_false_iff]
    refine ⟨by simp, ?_⟩
    rcases Nat.eq_zero_or_pos n with rfl | positive
    · exact .inl rfl
    · exact .inr (beq_false_of_ne (Numeral.head?_toDigits_ne_zero positive))
  rw [takeNumber?, closes.takeDigits decimal]
  simp only [shape, closes.takeFraction?, closes.takeExponent?, Numeral.value_toDigits,
    Option.bind_eq_bind, Option.bind_some, Bool.false_or, Bool.false_eq_true, if_false]
  split
  · rfl
  · rfl

/-! ## Strings -/

/-- A character that needs no escape is taken as it is. -/
theorem takeUnits?_plain {c : Char} (quote : c ≠ '"') (backslash : c ≠ '\\')
    (printable : ¬c.toNat < 0x20) (units : List Nat) (rest : List Char) :
    takeUnits? units (c :: rest) = takeUnits? (c.toNat :: units) rest := by
  rw [takeUnits?, if_neg printable]
  · exact quote
  -- every other case of the reader begins with a backslash
  all_goals
    intros
    exact backslash ‹_›

/-- An escaped character is taken as its code unit. -/
theorem takeUnits?_escape (c : Char) (units : List Nat) (rest : List Char) :
    takeUnits? units (escape c ++ rest) = takeUnits? (c.toNat :: units) rest := by
  unfold escape
  split
  · rfl
  · rfl
  · rfl
  · rfl
  · rfl
  · rfl
  · rfl
  · next quote backslash _ _ _ _ _ =>
      split
      · next control =>
          have table : ∀ n : Fin 32, hex4? '0' '0' (Nat.digitChar (n.val / 16))
              (Nat.digitChar (n.val % 16)) = some n.val := by decide
          simp only [List.cons_append, List.nil_append]
          rw [takeUnits?, table ⟨c.toNat, control⟩]
      · next printable => exact takeUnits?_plain quote backslash printable units rest

theorem takeUnits?_flatMap_escape (text : List Char) (units : List Nat) (rest : List Char) :
    takeUnits? units (text.flatMap escape ++ '"' :: rest) =
      some (units.reverse ++ text.map Char.toNat, rest) := by
  induction text generalizing units with
  | nil => rw [List.flatMap_nil, List.nil_append, takeUnits?, List.map_nil, List.append_nil]
  | cons c text ih =>
      rw [List.flatMap_cons, List.append_assoc, takeUnits?_escape, ih, List.reverse_cons,
        List.append_assoc, List.map_cons, List.singleton_append]

/-- No character is a surrogate. -/
theorem toNat_lt_or_gt (c : Char) : c.toNat < 0xD800 ∨ 0xDFFF < c.toNat := by
  rcases c.valid with below | above
  · exact .inl below
  · exact .inr above.1

/-- The code units of characters denote the characters. -/
theorem decodeUnits?_map_toNat (text before : List Char) :
    decodeUnits? before (text.map Char.toNat) = some (String.ofList (before.reverse ++ text)) := by
  induction text generalizing before with
  | nil => rw [List.map_nil, decodeUnits?, List.append_nil]
  | cons c text ih =>
      have surrogate := toNat_lt_or_gt c
      cases text with
      | nil =>
          rw [List.map_cons, List.map_nil, decodeUnits?, if_neg (by omega), Char.ofNat_toNat,
            List.reverse_cons]
      | cons d text =>
          rw [List.map_cons, List.map_cons, decodeUnits?, if_neg (by omega), if_neg (by omega),
            ← List.map_cons, ih, Char.ofNat_toNat, List.reverse_cons, List.append_assoc,
            List.singleton_append]

/-- A quoted string is read back after its first quote. -/
theorem takeString?_quoted (content : Option String) (rest : List Char) :
    ∃ inner, quoted content ++ rest = '"' :: inner ∧ takeString? inner = some (content, rest) := by
  cases content with
  | none => exact ⟨_, rfl, rfl⟩
  | some text =>
      refine ⟨text.toList.flatMap escape ++ '"' :: rest, ?_, ?_⟩
      · simp only [quoted, List.cons_append, List.append_assoc, List.nil_append]
      · rw [takeString?, takeUnits?_flatMap_escape, List.reverse_nil, List.nil_append]
        simp only [Option.bind_eq_bind, Option.bind_some, Option.pure_def,
          decodeUnits?_map_toNat, List.reverse_nil, List.nil_append, String.ofList_toList]

end TwoStack.Json
