import Mathlib.Data.Set.Function
import TwoStack.Proofs.Source.Reading
import TwoStack.Proofs.Source.Scan

/-!
# Relabelled texts

Two texts may differ in the names of their labels and in everything between their tokens.
`Relabels` compares their tokens one by one: a declaration and an operand that is a label have the
new name, every other token that is read has the same text, and what stands behind a malformed
statement does not matter.

Such texts are read alike (`Relabels.exists_begins`).  Their statements correspond one to one
(`Statement.Renamed`), each token has the index of its counterpart, and reading ends at their ends
or at the same error.
-/

namespace TwoStack

/-! ## Names -/

/-- A text that can name a label in front of a colon, and as an operand.  Nothing is said about
white space and semicolons, because the texts are those of tokens. -/
structure IsName (name : String) : Prop where
  nonempty : name ≠ ""
  free : isReserved name = false
  bare : ∀ other, name ≠ other ++ ":"
  unread : integerLiteral? name = none

theorem IsName.declares {name : String} (named : IsName name) : Declares (name ++ ":") name :=
  ⟨rfl, named.nonempty, named.free⟩

theorem IsName.means {name : String} (named : IsName name) : Operand.Means name (.label name) :=
  .label named.free named.bare named.unread

/-! ## Texts that differ in names -/

section Relabels

variable (rename : String → String) (names : Set String)

/-- Two series of tokens with the same texts, but that labels, all of them from `names`, are called
by other names.  Statements that are malformed in the same way may be followed by anything. -/
inductive Relabels : List Token → List Token → Prop
  | done : Relabels [] []
  | label {token other : Token} {name : String} {rest others : List Token}
    (declares : Declares token.text name) (listed : name ∈ names)
    (renamed : other.text = rename name ++ ":") (more : Relabels rest others) :
    Relabels (token :: rest) (other :: others)
  | plain {token other : Token} {opcode : Opcode} {rest others : List Token}
    (written : Keyword.ofName? token.text = some (.plain opcode)) (same : other.text = token.text)
    (more : Relabels rest others) : Relabels (token :: rest) (other :: others)
  | literal {token operand other another : Token} {keyword : OperandKeyword} {word : Word}
    {rest others : List Token} (written : Keyword.ofName? token.text = some (.operand keyword))
    (same : other.text = token.text) (means : Operand.Means operand.text (.literal word))
    (kept : another.text = operand.text) (more : Relabels rest others) :
    Relabels (token :: operand :: rest) (other :: another :: others)
  | name {token operand other another : Token} {keyword : OperandKeyword} {name : String}
    {rest others : List Token} (written : Keyword.ofName? token.text = some (.operand keyword))
    (same : other.text = token.text) (means : Operand.Means operand.text (.label name))
    (listed : name ∈ names) (renamed : another.text = rename name) (more : Relabels rest others) :
    Relabels (token :: operand :: rest) (other :: another :: others)
  | head {token other : Token} {cause : SourceError} {rest others : List Token}
    (wrong : Head.Wrong token.text cause) (alike : Head.Wrong other.text cause) :
    Relabels (token :: rest) (other :: others)
  | missing {token other : Token} {keyword : OperandKeyword}
    (written : Keyword.ofName? token.text = some (.operand keyword))
    (same : other.text = token.text) : Relabels [token] [other]
  | operand {token operand other another : Token} {keyword : OperandKeyword} {cause : SourceError}
    {rest others : List Token} (written : Keyword.ofName? token.text = some (.operand keyword))
    (same : other.text = token.text) (wrong : Operand.Wrong keyword operand.text cause)
    (alike : Operand.Wrong keyword another.text cause) :
    Relabels (token :: operand :: rest) (other :: another :: others)

/-- The same operand, but for the name of a label. -/
inductive Operand.Renamed : Operand → Operand → Prop
  | literal (word : Word) : Renamed (.literal word) (.literal word)
  | label {name : String} (listed : name ∈ names) : Renamed (.label name) (.label (rename name))

/-- Two statements that differ in the name of a label and in the places of their tokens. -/
inductive Statement.Renamed : Statement → Statement → Prop
  | label {name : String} {token other : Token} (listed : name ∈ names)
    (same : token.location.index = other.location.index) :
    Renamed (.label name token) (.label (rename name) other)
  | plain (opcode : Opcode) (token other : Token) :
    Renamed (.plain opcode token) (.plain opcode other)
  | operand (keyword : OperandKeyword) {target goal : Operand}
    {token operandToken other another : Token} (called : target.Renamed rename names goal)
    (same : token.location.index = other.location.index)
    (alike : operandToken.location.index = another.location.index) :
    Renamed (.operand keyword target token operandToken) (.operand keyword goal other another)

end Relabels

/-! ## Corresponding errors -/

/-- The label that an error is about. -/
def SourceError.label? : SourceError → Option String
  | duplicateLabel name _ => some name
  | undeclaredLabel name => some name
  | _ => none

/-- Errors that differ in the name of a label and in the place of its first declaration, which is
at the same token. -/
inductive SourceError.Renamed (rename : String → String) : SourceError → SourceError → Prop
  | duplicateLabel (name : String) {first other : Location} (same : first.index = other.index) :
    Renamed rename (.duplicateLabel name first) (.duplicateLabel (rename name) other)
  | undeclaredLabel (name : String) :
    Renamed rename (.undeclaredLabel name) (.undeclaredLabel (rename name))
  | same {cause : SourceError} (unlabeled : cause.label? = none) : Renamed rename cause cause

/-- Errors with corresponding causes that point at tokens with the same index, or at none. -/
structure AssemblyError.Renamed (rename : String → String) (error other : AssemblyError) :
    Prop where
  cause : error.cause.Renamed rename other.cause
  index : error.location.map Location.index = other.location.map Location.index

/-- An error that is not about a label, at two tokens with the same index. -/
theorem AssemblyError.renamed_at {rename : String → String} {cause : SourceError}
    {token other : Token} (unlabeled : cause.label? = none)
    (same : token.location.index = other.location.index) :
    AssemblyError.Renamed rename ⟨cause, some token.location⟩ ⟨cause, some other.location⟩ :=
  ⟨.same unlabeled, congrArg some same⟩

theorem Head.Wrong.label?_eq_none {text : String} {cause : SourceError}
    (wrong : Head.Wrong text cause) : cause.label? = none := by
  cases wrong <;> rfl

theorem Operand.Wrong.label?_eq_none {keyword : OperandKeyword} {text : String}
    {cause : SourceError} (wrong : Operand.Wrong keyword text cause) : cause.label? = none := by
  cases wrong <;> rfl

/-! ## Reading relabelled texts -/

/-- Tokens whose indices count up from `start`. -/
def Numbered (start : Nat) (tokens : List Token) : Prop :=
  ∀ (i : Nat) (token : Token), tokens[i]? = some token → token.location.index = start + i

theorem Numbered.cons {start : Nat} {token : Token} {tokens : List Token}
    (numbered : Numbered start (token :: tokens)) :
    token.location.index = start ∧ Numbered (start + 1) tokens := by
  refine ⟨numbered 0 token rfl, fun i other found => ?_⟩
  have index := numbered (i + 1) other found
  omega

theorem numbered_tokenize (source : String) : Numbered 0 (tokenize source).toList := by
  intro i token found
  rw [Array.getElem?_toList] at found
  rw [Nat.zero_add]
  exact tokenize_indexed found

/-- Relabelled tokens begin with corresponding statements, up to their ends or to the same
malformed statement. -/
theorem Relabels.exists_begins {rename : String → String} {names : Set String}
    {tokens others : List Token} (relabels : Relabels rename names tokens others)
    (fresh : ∀ name ∈ names, IsName (rename name)) {start : Nat} (numbered : Numbered start tokens)
    (renumbered : Numbered start others) :
    ∃ front back rest left, Begins tokens front rest ∧ Begins others back left ∧
      List.Forall₂ (Statement.Renamed rename names) front back ∧
      (rest = [] ∧ left = [] ∨ ∃ error other, Malformed rest error ∧ Malformed left other ∧
        error.Renamed rename other) := by
  induction relabels generalizing start with
  | done => exact ⟨[], [], [], [], .done _, .done _, .nil, .inl ⟨rfl, rfl⟩⟩
  | label declares listed renamed more ih =>
      obtain ⟨here, numbered⟩ := numbered.cons
      obtain ⟨there, renumbered⟩ := renumbered.cons
      obtain ⟨front, back, rest, left, begins, rebegins, alike, ends⟩ := ih numbered renumbered
      have declared := (fresh _ listed).declares
      rw [← renamed] at declared
      exact ⟨_, _, rest, left, .label declares begins, .label declared rebegins,
        .cons (.label listed (here.trans there.symm)) alike, ends⟩
  | plain written same more ih =>
      obtain ⟨front, back, rest, left, begins, rebegins, alike, ends⟩ :=
        ih numbered.cons.2 renumbered.cons.2
      exact ⟨_, _, rest, left, .plain written begins, .plain (same ▸ written) rebegins,
        .cons (.plain _ _ _) alike, ends⟩
  | literal written same means kept more ih =>
      obtain ⟨here, numbered⟩ := numbered.cons
      obtain ⟨there, renumbered⟩ := renumbered.cons
      obtain ⟨next, numbered⟩ := numbered.cons
      obtain ⟨renext, renumbered⟩ := renumbered.cons
      obtain ⟨front, back, rest, left, begins, rebegins, alike, ends⟩ := ih numbered renumbered
      exact ⟨_, _, rest, left, .operand written means begins,
        .operand (same ▸ written) (kept ▸ means) rebegins,
        .cons (.operand _ (.literal _) (here.trans there.symm) (next.trans renext.symm)) alike,
        ends⟩
  | name written same means listed renamed more ih =>
      obtain ⟨here, numbered⟩ := numbered.cons
      obtain ⟨there, renumbered⟩ := renumbered.cons
      obtain ⟨next, numbered⟩ := numbered.cons
      obtain ⟨renext, renumbered⟩ := renumbered.cons
      obtain ⟨front, back, rest, left, begins, rebegins, alike, ends⟩ := ih numbered renumbered
      have meant := (fresh _ listed).means
      rw [← renamed] at meant
      exact ⟨_, _, rest, left, .operand written means begins,
        .operand (same ▸ written) meant rebegins, .cons (.operand _ (renamed ▸ .label listed)
          (here.trans there.symm) (next.trans renext.symm)) alike, ends⟩
  | head wrong alike =>
      have same := numbered.cons.1.trans renumbered.cons.1.symm
      exact ⟨[], [], _, _, .done _, .done _, .nil, .inr ⟨_, _, .head wrong, .head alike,
        AssemblyError.renamed_at wrong.label?_eq_none same⟩⟩
  | missing written spelled =>
      have same := numbered.cons.1.trans renumbered.cons.1.symm
      exact ⟨[], [], _, _, .done _, .done _, .nil, .inr ⟨_, _, .missingOperand written,
        .missingOperand (spelled ▸ written), AssemblyError.renamed_at rfl same⟩⟩
  | operand written spelled wrong alike =>
      have same := numbered.cons.2.cons.1.trans renumbered.cons.2.cons.1.symm
      exact ⟨[], [], _, _, .done _, .done _, .nil, .inr ⟨_, _, .operand written wrong,
        .operand (spelled ▸ written) alike, AssemblyError.renamed_at wrong.label?_eq_none same⟩⟩

end TwoStack
