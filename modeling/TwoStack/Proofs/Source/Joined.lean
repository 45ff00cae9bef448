import TwoStack.Proofs.Source.Reading
import TwoStack.Proofs.Source.Scan

/-!
# Joined texts

The tokens of two texts with a line feed between them are the tokens of the first and then those of
the second, which stand as many lines lower and have as many tokens before them as the first text
has (`tokenize_joined`).  The line feed closes a token or a comment that the first text ends in, so
nothing of it reaches the second: the two scans of the second text differ only in what has been
counted before (`Scanner.Behind`).

Statements that are read from the tokens of both texts are read from each one, since none of them
reaches over the join (`Begins.join`), and what a token means does not depend on where it stands
(`Begins.mapTokens`).
-/

namespace TwoStack

/-! ## Places in a joined text -/

/-- A location with lines and tokens before it. -/
def Location.after (lines tokens : Nat) (location : Location) : Location :=
  ⟨lines + location.line, location.column, tokens + location.index⟩

/-- A token with lines and other tokens before it. -/
def Token.after (lines tokens : Nat) (token : Token) : Token :=
  ⟨token.text, token.location.after lines tokens⟩

/-- The number of lines that a text takes when another one begins on a new line after it. -/
def lineCount (text : String) : Nat := text.toList.count '\n' + 1

/-! ## Scans -/

namespace Scanner

/-- A scan and the same scan with lines and tokens before it. -/
structure Behind (lines : Nat) (before : List Token) (scanner behind : Scanner) : Prop where
  line : behind.line = lines + scanner.line
  column : behind.column = scanner.column
  comment : behind.comment = scanner.comment
  word : behind.word = scanner.word
  start : scanner.word ≠ [] → behind.start = scanner.start
  tokens : behind.tokens.toList =
    before ++ scanner.tokens.toList.map (Token.after lines before.length)

section Behind

variable {lines : Nat} {before : List Token} {scanner behind : Scanner}

theorem Behind.size_tokens (follows : Behind lines before scanner behind) :
    behind.tokens.size = before.length + scanner.tokens.size := by
  have length := congrArg List.length follows.tokens
  rwa [List.length_append, List.length_map, Array.length_toList, Array.length_toList] at length

theorem Behind.close (follows : Behind lines before scanner behind) :
    Behind lines before scanner.close behind.close := by
  have size := follows.size_tokens
  obtain ⟨line, column, comment, word, start, tokens⟩ := follows
  rcases scanner with ⟨_, _, _, _, _, _⟩
  rcases behind with ⟨_, _, _, letters, _, _⟩
  dsimp only at line column comment word start tokens size
  subst line column comment word
  cases letters with
  | nil => exact ⟨rfl, rfl, rfl, rfl, nofun, tokens⟩
  | cons c letters =>
      refine ⟨rfl, rfl, rfl, rfl, nofun, ?_⟩
      have begun := start (List.cons_ne_nil c letters)
      simp [Scanner.close, tokens, begun, size, Token.after, Location.after]

theorem Behind.advance (follows : Behind lines before scanner behind) :
    Behind lines before scanner.advance behind.advance :=
  { follows with column := congrArg (· + 1) follows.column }

theorem Behind.nextLine (follows : Behind lines before scanner behind) :
    Behind lines before scanner.nextLine behind.nextLine :=
  { follows with line := congrArg (· + 1) follows.line, column := rfl, comment := rfl }

theorem Behind.extend (follows : Behind lines before scanner behind) (c : Char) :
    Behind lines before (scanner.extend c) (behind.extend c) := by
  refine { follows with word := congrArg (c :: ·) follows.word, start := fun _ => ?_ }
  rw [Scanner.extend, Scanner.extend]
  dsimp only
  rw [follows.word, follows.column]
  split
  · rfl
  · next begun => exact follows.start fun none => begun (List.isEmpty_iff.2 none)

theorem Behind.feed (follows : Behind lines before scanner behind) (c : Char) :
    Behind lines before (scanner.feed c) (behind.feed c) := by
  unfold Scanner.feed
  rw [follows.comment]
  split
  · exact follows.close.nextLine
  · split
    · exact follows.advance
    · split
      · exact { follows.close.advance with comment := rfl }
      · split
        · exact follows.close.advance
        · exact (follows.extend c).advance

theorem Behind.feedAll (follows : Behind lines before scanner behind) (text : List Char) :
    Behind lines before (scanner.feedAll text) (behind.feedAll text) := by
  induction text generalizing scanner behind with
  | nil => exact follows
  | cons c text ih => exact ih (follows.feed c)

end Behind

theorem line_close (scanner : Scanner) : scanner.close.line = scanner.line := by
  rcases scanner with ⟨line, column, comment, word, start, tokens⟩
  cases word <;> rfl

theorem line_feed (scanner : Scanner) (c : Char) :
    (scanner.feed c).line = scanner.line + if c = '\n' then 1 else 0 := by
  unfold feed
  split
  · exact congrArg (· + 1) scanner.line_close
  · split
    · rfl
    · split
      · exact scanner.line_close
      · split
        · exact scanner.line_close
        · rfl

/-- A scan counts the line feeds. -/
theorem line_feedAll (scanner : Scanner) (text : List Char) :
    (scanner.feedAll text).line = scanner.line + text.count '\n' := by
  induction text generalizing scanner with
  | nil => rfl
  | cons c text ih =>
      rw [List.count_cons, Nat.add_comm (text.count '\n'), ← Nat.add_assoc]
      refine (ih (scanner.feed c)).trans ?_
      rw [line_feed]
      simp only [beq_iff_eq]

end Scanner

/-- The tokens of a text that is continued on a new line. -/
theorem tokenize_joined (first second : String) :
    (tokenize (first ++ "\n" ++ second)).toList =
      (tokenize first).toList ++
        (tokenize second).toList.map (Token.after (lineCount first) (tokenize first).size) := by
  have newLine : "\n".toList = ['\n'] := rfl
  have start : Scanner.Behind (lineCount first) (tokenize first).toList {}
      (Scanner.feedAll {} first.toList).close.nextLine :=
    { line := by
        have line : (Scanner.feedAll {} first.toList).close.line = lineCount first := by
          rw [Scanner.line_close, Scanner.line_feedAll, lineCount, Nat.add_comm]
        exact congrArg (· + 1) line
      column := rfl
      comment := rfl
      word := Scanner.word_close
      start := nofun
      tokens := (List.append_nil _).symm }
  have read := (start.feedAll second.toList).close.tokens
  rw [tokenize, String.toList_append, String.toList_append, newLine, Scanner.feedAll_append,
    Scanner.feedAll_append]
  exact read

/-! ## Statements -/

/-- A statement with its tokens in other places. -/
def Statement.mapTokens (move : Token → Token) : Statement → Statement
  | label name token => label name (move token)
  | plain opcode token => plain opcode (move token)
  | operand keyword value token operandToken =>
    operand keyword value (move token) (move operandToken)

namespace Begins

variable {tokens rest : List Token} {statements : List Statement}

/-- What tokens begin with does not depend on where they stand. -/
theorem mapTokens (begins : Begins tokens statements rest) {move : Token → Token}
    (same : ∀ token, (move token).text = token.text) :
    Begins (tokens.map move) (statements.map (Statement.mapTokens move)) (rest.map move) := by
  induction begins with
  | done rest => exact .done _
  | @label token name tokens rest statements declares more ih =>
      rw [← same token] at declares
      exact .label declares ih
  | @plain token opcode tokens rest statements written more ih =>
      rw [← same token] at written
      exact .plain written ih
  | @operand token operandToken keyword value tokens rest statements written means more ih =>
      rw [← same token] at written
      rw [← same operandToken] at means
      exact .operand written means ih

/-- What tokens begin with, longer ones begin with. -/
theorem extend (begins : Begins tokens statements rest) (further : List Token) :
    Begins (tokens ++ further) statements (rest ++ further) := by
  induction begins with
  | done rest => exact .done _
  | label declares more ih => exact .label declares ih
  | plain written more ih => exact .plain written ih
  | operand written means more ih => exact .operand written means ih

/-- Tokens that are read to the end can be continued. -/
theorem join {others : List Token} {more : List Statement} (first : Begins tokens statements [])
    (second : Begins others more []) : Begins (tokens ++ others) (statements ++ more) [] :=
  (first.extend others).append second

end Begins

end TwoStack
