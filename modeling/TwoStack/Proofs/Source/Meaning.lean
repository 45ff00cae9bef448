import Mathlib.Tactic.Common
import TwoStack.Source.Statement

/-!
# What a token means

`Head.ofText` and `Operand.ofText` try one thing after the other.  Here each answer gets a
condition on the text alone, so that statements about source texts need not speak about the order
of the tries: a head is a keyword, or a declaration `name:` of a name that is not empty and not
reserved; an operand is an integer literal in the range of words, or the name of a label; and each
error has its own cause.

The cases exclude each other because keywords are spelled in capital letters, so none of them ends
in a colon or is a literal, and no literal ends in a colon.
-/

namespace TwoStack

/-! ## Keywords -/

theorem Opcode.mnemonic_of_ofMnemonic? {text : String} {opcode : Opcode}
    (found : Opcode.ofMnemonic? text = some opcode) : opcode.mnemonic = text := by
  have matched := Array.find?_some found
  exact eq_of_beq matched

theorem Keyword.name_ofOpcode (opcode : Opcode) :
    (Keyword.ofOpcode opcode).name = opcode.mnemonic := by
  cases opcode <;> rfl

theorem Keyword.name_of_ofName? {text : String} {keyword : Keyword}
    (found : Keyword.ofName? text = some keyword) : keyword.name = text := by
  unfold Keyword.ofName? at found
  split at found
  · next opcode spelled =>
      cases found
      rw [Keyword.name_ofOpcode, Opcode.mnemonic_of_ofMnemonic? spelled]
  · split at found
    · next called =>
        cases found
        exact called.symm
    · cases found

/-- Only the operand keywords come from `PUSH` and `CALL`. -/
theorem Keyword.plain_ne_push {text : String} {opcode : Opcode}
    (found : Keyword.ofName? text = some (.plain opcode)) : opcode ≠ .push := by
  unfold Keyword.ofName? at found
  split at found
  · next other spelled =>
      rintro rfl
      cases other <;> cases found
  · split at found <;> cases found

/-- Keywords are spelled in capital letters, at least one, and what they spell is no literal. -/
theorem Keyword.spelling (keyword : Keyword) :
    keyword.name.toList.isEmpty = false ∧ keyword.name.toList.all Char.isUpper = true ∧
      (integerLiteral? keyword.name).isNone = true := by
  cases keyword with
  | plain opcode =>
      cases opcode with
      | binary op => cases op <;> decide
      | unary op => cases op <;> decide
      | _ => decide
  | operand keyword => cases keyword <;> decide

theorem Keyword.name_ne_empty (keyword : Keyword) : keyword.name.toList ≠ [] :=
  List.isEmpty_eq_false_iff.1 keyword.spelling.1

theorem Keyword.isUpper_of_mem_name (keyword : Keyword) :
    ∀ c ∈ keyword.name.toList, c.isUpper = true :=
  List.all_eq_true.1 keyword.spelling.2.1

theorem Keyword.integerLiteral?_name (keyword : Keyword) : integerLiteral? keyword.name = none :=
  Option.isNone_iff_eq_none.1 keyword.spelling.2.2

theorem isReserved_eq_true_iff {text : String} :
    isReserved text = true ↔ ∃ keyword, Keyword.ofName? text = some keyword :=
  Option.isSome_iff_exists

theorem isReserved_eq_false_iff {text : String} :
    isReserved text = false ↔ Keyword.ofName? text = none := by
  rw [isReserved, Option.isSome_eq_false_iff, Option.isNone_iff_eq_none]

theorem isUpper_of_isReserved {text : String} (reserved : isReserved text = true) :
    ∀ c ∈ text.toList, c.isUpper = true := by
  obtain ⟨keyword, found⟩ := isReserved_eq_true_iff.1 reserved
  rw [← Keyword.name_of_ofName? found]
  exact keyword.isUpper_of_mem_name

/-! ## Colons -/

theorem withoutColon?_eq_some_iff {text name : String} :
    withoutColon? text = some name ↔ text = name ++ ":" := by
  unfold withoutColon?
  constructor
  · intro cut
    split at cut
    · next last =>
        cases cut
        apply String.toList_inj.1
        obtain ⟨front, spelled⟩ := List.getLast?_eq_some_iff.1 last
        simp [spelled]
    · cases cut
  · rintro rfl
    simp

theorem withoutColon?_eq_none_iff {text : String} :
    withoutColon? text = none ↔ ∀ name, text ≠ name ++ ":" := by
  rw [Option.eq_none_iff_forall_ne_some]
  exact forall_congr' fun name => not_congr withoutColon?_eq_some_iff

theorem isReserved_append_colon (name : String) : isReserved (name ++ ":") = false := by
  by_contra reserved
  rw [Bool.not_eq_false] at reserved
  have upper := isUpper_of_isReserved reserved ':' (by rw [String.toList_append]; simp)
  exact absurd upper (by decide)

/-! ## Heads -/

/-- A text that declares a label: a name that is not empty and not reserved, and a colon. -/
structure Declares (text name : String) : Prop where
  spelled : text = name ++ ":"
  nonempty : name ≠ ""
  free : isReserved name = false

/-- What is wrong with a text in front of a statement. -/
inductive Head.Wrong (text : String) : SourceError → Prop
  | unknownSymbol (free : isReserved text = false) (bare : ∀ name, text ≠ name ++ ":") :
    Wrong text (.unknownSymbol text)
  | emptyLabel (spelled : text = ":") : Wrong text .emptyLabel
  | reservedLabel {name : String} (spelled : text = name ++ ":")
    (reserved : isReserved name = true) : Wrong text (.reservedLabel name)

theorem Head.ofText_of_keyword {text : String} {keyword : Keyword}
    (written : Keyword.ofName? text = some keyword) :
    Head.ofText text = .ok (.keyword keyword) := by
  rw [Head.ofText, written]

theorem Head.ofText_of_declares {text name : String} (declares : Declares text name) :
    Head.ofText text = .ok (.label name) := by
  obtain ⟨rfl, nonempty, free⟩ := declares
  have unwritten := isReserved_eq_false_iff.1 (isReserved_append_colon name)
  have cut := withoutColon?_eq_some_iff.2 (rfl : name ++ ":" = name ++ ":")
  simp [Head.ofText, unwritten, cut, nonempty, free]

theorem Head.ofText_of_wrong {text : String} {error : SourceError} (wrong : Head.Wrong text error) :
    Head.ofText text = .error error := by
  cases wrong with
  | unknownSymbol free bare =>
      have uncut := withoutColon?_eq_none_iff.2 bare
      simp [Head.ofText, isReserved_eq_false_iff.1 free, uncut]
  | emptyLabel spelled =>
      subst spelled
      decide
  | @reservedLabel name spelled reserved =>
      subst spelled
      have unwritten := isReserved_eq_false_iff.1 (isReserved_append_colon name)
      have cut := withoutColon?_eq_some_iff.2 (rfl : name ++ ":" = name ++ ":")
      have nonempty : name ≠ "" := by
        rintro rfl
        exact absurd reserved (by decide)
      simp [Head.ofText, unwritten, cut, nonempty, reserved]

/-- In front of a statement stands a keyword, or a declaration, or something wrong. -/
theorem Head.keyword_or_declares_or_wrong (text : String) :
    (∃ keyword, Keyword.ofName? text = some keyword) ∨ (∃ name, Declares text name) ∨
      ∃ error, Head.Wrong text error := by
  rcases reserved : isReserved text with _ | _
  · by_cases colon : ∃ name, text = name ++ ":"
    · obtain ⟨name, spelled⟩ := colon
      rcases taken : isReserved name with _ | _
      · by_cases nonempty : name = ""
        · subst nonempty
          exact .inr (.inr ⟨_, .emptyLabel spelled⟩)
        · exact .inr (.inl ⟨name, spelled, nonempty, taken⟩)
      · exact .inr (.inr ⟨_, .reservedLabel spelled taken⟩)
    · rw [not_exists] at colon
      exact .inr (.inr ⟨_, .unknownSymbol reserved colon⟩)
  · exact .inl (isReserved_eq_true_iff.1 reserved)

/-! ## Literals -/

theorem Numeral.natural?_eq_none_of_mem {base : Nat} {text : List Char} {c : Char}
    (listed : c ∈ text) (strange : Numeral.isDigit base c = false) :
    Numeral.natural? base text = none := by
  rw [Numeral.natural?, if_neg]
  intro read
  rw [Bool.and_eq_true, List.all_eq_true] at read
  rw [read.2 c listed] at strange
  cases strange

/-- A literal has no colon in it. -/
theorem integerLiteral?_eq_none_of_colon {text : String} (listed : ':' ∈ text.toList) :
    integerLiteral? text = none := by
  have kept : ':' ∈ (Numeral.sign text.toList).2 := by
    unfold Numeral.sign
    split
    · next rest spelled => simpa [spelled] using listed
    · next rest spelled => simpa [spelled] using listed
    · exact listed
  unfold integerLiteral?
  rcases signed : Numeral.sign text.toList with ⟨negative, body⟩
  rw [signed] at kept
  dsimp only at kept ⊢
  rw [Option.map_eq_none_iff]
  split
  · exact Numeral.natural?_eq_none_of_mem (by simpa using kept) (by decide)
  · exact Numeral.natural?_eq_none_of_mem (by simpa using kept) (by decide)
  · exact Numeral.natural?_eq_none_of_mem kept (by decide)

/-- A literal is not a keyword. -/
theorem isReserved_eq_false_of_literal {text : String} {value : Int}
    (read : integerLiteral? text = some value) : isReserved text = false := by
  by_contra reserved
  rw [Bool.not_eq_false] at reserved
  obtain ⟨keyword, found⟩ := isReserved_eq_true_iff.1 reserved
  rw [← Keyword.name_of_ofName? found, keyword.integerLiteral?_name] at read
  cases read

/-! ## Operands -/

/-- What a text means as an operand: an integer literal in the range of words, or else the name of a
label, which is any other text that is not reserved and does not end in a colon. -/
inductive Operand.Means (text : String) : Operand → Prop
  | literal {value : Int} {word : Word} (read : integerLiteral? text = some value)
    (fits : Word.ofInt? value = some word) : Means text (.literal word)
  | label (free : isReserved text = false) (bare : ∀ name, text ≠ name ++ ":")
    (unread : integerLiteral? text = none) : Means text (.label text)

/-- What is wrong with a text as an operand. -/
inductive Operand.Wrong (keyword : OperandKeyword) (text : String) : SourceError → Prop
  | operandIsKeyword (reserved : isReserved text = true) :
    Wrong keyword text (.operandIsKeyword text)
  | missingOperand {name : String} (spelled : text = name ++ ":") :
    Wrong keyword text (.missingOperand keyword)
  | integerOutOfRange {value : Int} (read : integerLiteral? text = some value)
    (outside : Word.ofInt? value = none) : Wrong keyword text (.integerOutOfRange text)

theorem withoutColon?_eq_none_of_literal {text : String} {value : Int}
    (read : integerLiteral? text = some value) : withoutColon? text = none := by
  rw [withoutColon?_eq_none_iff]
  rintro name rfl
  rw [integerLiteral?_eq_none_of_colon (by rw [String.toList_append]; simp)] at read
  cases read

theorem Operand.ofText_of_means {text : String} {value : Operand} (keyword : OperandKeyword)
    (means : Operand.Means text value) : Operand.ofText keyword text = .ok value := by
  cases means with
  | literal read fits =>
      simp [Operand.ofText, isReserved_eq_false_of_literal read,
        withoutColon?_eq_none_of_literal read, read, fits]
  | label free bare unread =>
      simp [Operand.ofText, free, withoutColon?_eq_none_iff.2 bare, unread]

theorem Operand.ofText_of_wrong {text : String} {keyword : OperandKeyword} {error : SourceError}
    (wrong : Operand.Wrong keyword text error) : Operand.ofText keyword text = .error error := by
  cases wrong with
  | operandIsKeyword reserved => simp [Operand.ofText, reserved]
  | @missingOperand name spelled =>
      subst spelled
      have cut := withoutColon?_eq_some_iff.2 (rfl : name ++ ":" = name ++ ":")
      simp [Operand.ofText, isReserved_append_colon, cut]
  | integerOutOfRange read outside =>
      simp [Operand.ofText, isReserved_eq_false_of_literal read,
        withoutColon?_eq_none_of_literal read, read, outside]

/-- An operand means something, or something is wrong with it. -/
theorem Operand.means_or_wrong (keyword : OperandKeyword) (text : String) :
    (∃ value, Operand.Means text value) ∨ ∃ error, Operand.Wrong keyword text error := by
  rcases reserved : isReserved text with _ | _
  · by_cases colon : ∃ name, text = name ++ ":"
    · obtain ⟨name, spelled⟩ := colon
      exact .inr ⟨_, .missingOperand spelled⟩
    · rw [not_exists] at colon
      rcases read : integerLiteral? text with _ | value
      · exact .inl ⟨_, .label reserved colon read⟩
      · rcases fits : Word.ofInt? value with _ | word
        · exact .inr ⟨_, .integerOutOfRange read fits⟩
        · exact .inl ⟨_, .literal read fits⟩
  · exact .inr ⟨_, .operandIsKeyword reserved⟩

end TwoStack
