import TwoStack.Proofs.Source.Meaning

/-!
# Reading statements

What `Statement.parse` answers is described without it.  `Begins tokens statements rest` says that
the tokens begin with those statements, each well formed, and that `rest` is left;
`Malformed rest error` says what is wrong with the statement that `rest` begins with.  Every series
of tokens begins with well-formed statements up to its end or up to a malformed one
(`exists_begins`), and reading follows: it appends the statements (`parseFrom_of_begins`) and stops
with the error (`parseFrom_of_malformed`).
-/

namespace TwoStack

/-- Tokens that begin with well-formed statements, and what is left of them. -/
inductive Begins : List Token → List Statement → List Token → Prop
  | done (rest : List Token) : Begins rest [] rest
  | label {token : Token} {name : String} {tokens rest : List Token} {statements : List Statement}
    (declares : Declares token.text name) (more : Begins tokens statements rest) :
    Begins (token :: tokens) (.label name token :: statements) rest
  | plain {token : Token} {opcode : Opcode} {tokens rest : List Token}
    {statements : List Statement} (written : Keyword.ofName? token.text = some (.plain opcode))
    (more : Begins tokens statements rest) :
    Begins (token :: tokens) (.plain opcode token :: statements) rest
  | operand {token operandToken : Token} {keyword : OperandKeyword} {value : Operand}
    {tokens rest : List Token} {statements : List Statement}
    (written : Keyword.ofName? token.text = some (.operand keyword))
    (means : Operand.Means operandToken.text value) (more : Begins tokens statements rest) :
    Begins (token :: operandToken :: tokens)
      (.operand keyword value token operandToken :: statements) rest

/-- Tokens that begin with a malformed statement, with the error and its place. -/
inductive Malformed : List Token → AssemblyError → Prop
  | head {token : Token} {rest : List Token} {cause : SourceError}
    (wrong : Head.Wrong token.text cause) :
    Malformed (token :: rest) ⟨cause, some token.location⟩
  | missingOperand {token : Token} {keyword : OperandKeyword}
    (written : Keyword.ofName? token.text = some (.operand keyword)) :
    Malformed [token] ⟨.missingOperand keyword, some token.location⟩
  | operand {token operandToken : Token} {keyword : OperandKeyword} {rest : List Token}
    {cause : SourceError} (written : Keyword.ofName? token.text = some (.operand keyword))
    (wrong : Operand.Wrong keyword operandToken.text cause) :
    Malformed (token :: operandToken :: rest) ⟨cause, some operandToken.location⟩

namespace Statement

/-- The tokens that a statement is written in. -/
def tokens : Statement → List Token
  | label _ token => [token]
  | plain _ token => [token]
  | operand _ _ token operandToken => [token, operandToken]

theorem parseFrom_of_begins {tokens rest : List Token} {statements : List Statement}
    (begins : Begins tokens statements rest) (done : Array Statement) :
    parseFrom done tokens = parseFrom (done ++ statements.toArray) rest := by
  induction begins generalizing done with
  | done rest => simp
  | label declares more ih =>
      rw [parseFrom, Head.ofText_of_declares declares]
      exact (ih _).trans (by simp)
  | plain written more ih =>
      rw [parseFrom, Head.ofText_of_keyword written]
      exact (ih _).trans (by simp)
  | operand written means more ih =>
      rw [parseFrom, Head.ofText_of_keyword written]
      dsimp only
      rw [Operand.ofText_of_means _ means]
      exact (ih _).trans (by simp)

theorem parseFrom_of_malformed {rest : List Token} {error : AssemblyError}
    (malformed : Malformed rest error) (done : Array Statement) :
    parseFrom done rest = (done, some error) := by
  cases malformed with
  | head wrong => rw [parseFrom, Head.ofText_of_wrong wrong]
  | missingOperand written => rw [parseFrom, Head.ofText_of_keyword written]
  | operand written wrong =>
      rw [parseFrom, Head.ofText_of_keyword written]
      dsimp only
      rw [Operand.ofText_of_wrong wrong]

end Statement

/-- Tokens begin with well-formed statements up to their end or up to a malformed one. -/
theorem exists_begins : ∀ tokens : List Token, ∃ statements rest,
    Begins tokens statements rest ∧ (rest = [] ∨ ∃ error, Malformed rest error)
  | [] => ⟨[], [], .done [], .inl rfl⟩
  | token :: tokens => by
      rcases Head.keyword_or_declares_or_wrong token.text with
        ⟨keyword, written⟩ | ⟨name, declares⟩ | ⟨cause, wrong⟩
      · cases keyword with
        | plain opcode =>
            obtain ⟨statements, rest, begins, ends⟩ := exists_begins tokens
            exact ⟨_, rest, .plain written begins, ends⟩
        | operand keyword =>
            rcases tokens with _ | ⟨operandToken, tokens⟩
            · exact ⟨[], _, .done _, .inr ⟨_, .missingOperand written⟩⟩
            · rcases Operand.means_or_wrong keyword operandToken.text with
                ⟨value, means⟩ | ⟨cause, wrong⟩
              · obtain ⟨statements, rest, begins, ends⟩ := exists_begins tokens
                exact ⟨_, rest, .operand written means begins, ends⟩
              · exact ⟨[], _, .done _, .inr ⟨_, .operand written wrong⟩⟩
      · obtain ⟨statements, rest, begins, ends⟩ := exists_begins tokens
        exact ⟨_, rest, .label declares begins, ends⟩
      · exact ⟨[], _, .done _, .inr ⟨_, .head wrong⟩⟩

namespace Begins

/-- The statements are written in the tokens, in the same order. -/
theorem tokens_eq {tokens rest : List Token} {statements : List Statement}
    (begins : Begins tokens statements rest) :
    tokens = statements.flatMap Statement.tokens ++ rest := by
  induction begins with
  | done rest => rfl
  | label declares more ih => rw [List.flatMap_cons, List.append_assoc, ← ih]; rfl
  | plain written more ih => rw [List.flatMap_cons, List.append_assoc, ← ih]; rfl
  | operand written means more ih => rw [List.flatMap_cons, List.append_assoc, ← ih]; rfl

theorem mem_tokens {tokens rest : List Token} {statements : List Statement}
    (begins : Begins tokens statements rest) {statement : Statement}
    (listed : statement ∈ statements) {token : Token} (written : token ∈ statement.tokens) :
    token ∈ tokens := by
  rw [begins.tokens_eq]
  exact List.mem_append_left _ (List.mem_flatMap.2 ⟨statement, listed, written⟩)

/-- What is left begins with further statements. -/
theorem append {tokens middle rest : List Token} {front back : List Statement}
    (first : Begins tokens front middle) (second : Begins middle back rest) :
    Begins tokens (front ++ back) rest := by
  induction first with
  | done rest => exact second
  | label declares more ih => exact .label declares (ih second)
  | plain written more ih => exact .plain written (ih second)
  | operand written means more ih => exact .operand written means (ih second)

/-- Tokens that end where well-formed statements end have no malformed one. -/
theorem parse_eq {tokens : List Token} {statements : List Statement}
    (begins : Begins tokens statements []) :
    Statement.parse tokens.toArray = (statements.toArray, none) := by
  rw [Statement.parse, Statement.parseFrom_of_begins begins]
  simp [Statement.parseFrom]

theorem parse_eq_of_malformed {tokens rest : List Token} {statements : List Statement}
    {error : AssemblyError} (begins : Begins tokens statements rest)
    (malformed : Malformed rest error) :
    Statement.parse tokens.toArray = (statements.toArray, some error) := by
  rw [Statement.parse, Statement.parseFrom_of_begins begins,
    Statement.parseFrom_of_malformed malformed]
  simp

end Begins

end TwoStack
