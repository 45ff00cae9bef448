import TwoStack.Proofs.Source.Relabeling
import TwoStack.Proofs.Text.Literal

/-!
# Declared and referred to

A label is declared in front of a statement and referred to as an operand, and the two places have
readers of their own.  Which texts each of them takes for a label is said by the text alone
(`declarable_iff`, `referable_iff`), so the two can be compared (`labels_agree`).

Whatever can be referred to can be declared, but for the empty text, which is no token.  The other
way round two kinds of names are lost: a name that ends in a colon is refused as an operand, and a
name that is spelled like an integer is taken for the integer.
-/

namespace TwoStack

/-! ## What the readers answer -/

/-- What a text means in front of a statement. -/
inductive Head.Means (text : String) : Head → Prop
  | keyword {keyword : Keyword} (written : Keyword.ofName? text = some keyword) :
    Means text (.keyword keyword)
  | label {name : String} (declares : Declares text name) : Means text (.label name)

theorem Head.ofText_eq_ok_iff {text : String} {head : Head} :
    Head.ofText text = .ok head ↔ Head.Means text head := by
  constructor
  · intro read
    rcases Head.keyword_or_declares_or_wrong text with
      ⟨keyword, written⟩ | ⟨name, declares⟩ | ⟨cause, wrong⟩
    · rw [Head.ofText_of_keyword written] at read
      cases read
      exact .keyword written
    · rw [Head.ofText_of_declares declares] at read
      cases read
      exact .label declares
    · rw [Head.ofText_of_wrong wrong] at read
      cases read
  · intro means
    cases means with
    | keyword written => exact Head.ofText_of_keyword written
    | label declares => exact Head.ofText_of_declares declares

theorem Operand.ofText_eq_ok_iff {keyword : OperandKeyword} {text : String} {operand : Operand} :
    Operand.ofText keyword text = .ok operand ↔ Operand.Means text operand := by
  constructor
  · intro read
    rcases Operand.means_or_wrong keyword text with ⟨other, means⟩ | ⟨cause, wrong⟩
    · rw [Operand.ofText_of_means keyword means] at read
      cases read
      exact means
    · rw [Operand.ofText_of_wrong wrong] at read
      cases read
  · exact Operand.ofText_of_means keyword

/-! ## Names -/

/-- Some text in front of a statement declares the label. -/
def Declarable (name : String) : Prop := ∃ text, Head.ofText text = .ok (.label name)

/-- Some text as an operand refers to the label. -/
def Referable (name : String) : Prop :=
  ∃ keyword text, Operand.ofText keyword text = .ok (.label name)

/-- A text with a colon at its end. -/
def EndsInColon (text : String) : Prop := ∃ stem, text = stem ++ ":"

/-- A text that matches the grammar of integer literals, in the range of words or not. -/
def IsLiteral (text : String) : Prop := ∃ value, IntegerLiteral text value

theorem not_isLiteral_iff {text : String} : ¬IsLiteral text ↔ integerLiteral? text = none := by
  rw [IsLiteral, Option.eq_none_iff_forall_ne_some, not_exists]
  exact forall_congr' fun value => not_congr integerLiteral?_eq_some_iff.symm

theorem not_endsInColon_iff {text : String} :
    ¬EndsInColon text ↔ ∀ stem, text ≠ stem ++ ":" :=
  not_exists

theorem declarable_iff {name : String} :
    Declarable name ↔ name ≠ "" ∧ isReserved name = false := by
  simp only [Declarable, Head.ofText_eq_ok_iff]
  constructor
  · intro ⟨text, means⟩
    cases means with
    | label declares => exact ⟨declares.nonempty, declares.free⟩
  · intro ⟨nonempty, free⟩
    exact ⟨name ++ ":", .label ⟨rfl, nonempty, free⟩⟩

/-- An operand that refers to a label spells the name of this label. -/
theorem Operand.ofText_eq_label_iff {keyword : OperandKeyword} {text name : String} :
    Operand.ofText keyword text = .ok (.label name) ↔
      name = text ∧ isReserved text = false ∧ ¬EndsInColon text ∧ ¬IsLiteral text := by
  rw [Operand.ofText_eq_ok_iff, not_endsInColon_iff, not_isLiteral_iff]
  constructor
  · intro means
    cases means with
    | label free bare unread => exact ⟨rfl, free, bare, unread⟩
  · rintro ⟨rfl, free, bare, unread⟩
    exact .label free bare unread

theorem referable_iff {name : String} :
    Referable name ↔ isReserved name = false ∧ ¬EndsInColon name ∧ ¬IsLiteral name := by
  simp only [Referable, Operand.ofText_eq_label_iff]
  constructor
  · rintro ⟨_, text, rfl, kept⟩
    exact kept
  · intro kept
    exact ⟨.push, name, rfl, kept⟩

/-- But for the empty text, which is no token, a name that can be referred to is good in both
places. -/
theorem referable_iff_isName {name : String} (nonempty : name ≠ "") :
    Referable name ↔ IsName name := by
  rw [referable_iff, not_endsInColon_iff, not_isLiteral_iff]
  constructor
  · rintro ⟨free, bare, unread⟩
    exact ⟨nonempty, free, bare, unread⟩
  · intro named
    exact ⟨named.free, named.bare, named.unread⟩

/-! ## Both places -/

/-- Declaring and referring to a label go together. -/
structure LabelsAgree : Prop where
  /-- An operand that refers to a label spells its name, and the same name can be declared. -/
  used : ∀ name, name ≠ "" → ∀ keyword label,
    Operand.ofText keyword name = .ok (.label label) →
      label = name ∧ Head.ofText (name ++ ":") = .ok (.label name)
  /-- A name that is declared refers to its label after both keywords, unless it ends in a colon or
  is a literal. -/
  declared : ∀ text name, Head.ofText text = .ok (.label name) → ∀ keyword,
    Operand.ofText keyword name = .ok (.label name) ↔ ¬(EndsInColon name ∨ IsLiteral name)
  /-- No other text refers to a label whose own name does not. -/
  lost : ∀ name, Declarable name → (¬Referable name ↔ EndsInColon name ∨ IsLiteral name)
  /-- The names that are good in one place and in the other one are told by their texts. -/
  names : ∀ name, (Declarable name ↔ name ≠ "" ∧ isReserved name = false) ∧
    (name ≠ "" → (Referable name ↔ Declarable name ∧ ¬EndsInColon name ∧ ¬IsLiteral name))
  /-- A keyword is neither a label nor an integer as an operand, and it is refused as a keyword. -/
  keywords : ∀ text keyword, Head.ofText text = .ok (.keyword keyword) → ∀ owner,
    (∀ operand, Operand.ofText owner text ≠ .ok operand) ∧
      Operand.ofText owner text = .error (.operandIsKeyword text)

theorem labels_agree : LabelsAgree where
  used := by
    intro name nonempty keyword label read
    obtain ⟨rfl, kept⟩ := Operand.ofText_eq_label_iff.1 read
    have named := (referable_iff_isName nonempty).1 (referable_iff.2 kept)
    exact ⟨rfl, Head.ofText_of_declares named.declares⟩
  declared := by
    intro text name read keyword
    have free := (declarable_iff.1 ⟨text, read⟩).2
    rw [Operand.ofText_eq_label_iff, not_or, and_iff_right rfl, and_iff_right free]
  lost := by
    intro name declarable
    have free := (declarable_iff.1 declarable).2
    rw [referable_iff, and_iff_right free, ← not_or, not_not]
  names := by
    intro name
    refine ⟨declarable_iff, fun nonempty => ?_⟩
    rw [referable_iff, declarable_iff, and_iff_right nonempty]
  keywords := by
    intro text keyword read owner
    have reserved : isReserved text = true := by
      cases Head.ofText_eq_ok_iff.1 read with
      | keyword written => exact isReserved_eq_true_iff.2 ⟨keyword, written⟩
    have refused : Operand.ofText owner text = .error (.operandIsKeyword text) :=
      Operand.ofText_of_wrong (.operandIsKeyword reserved)
    refine ⟨fun operand taken => ?_, refused⟩
    rw [refused] at taken
    cases taken

/-- Signs and marks without digits are names, and a name with a colon at its end is lost. -/
example :
    Operand.ofText .push "-" = .ok (.label "-") ∧ Operand.ofText .call "0x" = .ok (.label "0x") ∧
      Head.ofText "a::" = .ok (.label "a:") ∧
      Operand.ofText .push "a:" = .error (.missingOperand .push) := by
  decide

end TwoStack
