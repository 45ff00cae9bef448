import Mathlib.Data.List.Induction
import TwoStack.Proofs.Source.Slices

/-!
# Tokens as runs of characters

What `tokenize` finds is described on the text itself (`Occurs`): the text consists of lines, the
code of a line is what stands before its first semicolon, and a token is a maximal run of characters
in the code that are not separators.  The tokens are exactly these runs, in order, each with its
line and column (`tokenize_exact`).

The scanner knows nothing about lines and their code.  Its invariant (`Scanner.Has`) speaks about
the text read so far: the runs that some character has ended are the tokens, and the run that
reaches the end of the text is the word under way.  There is only one such run, because a text can
be cut in only one way behind the last character of a kind (`CutBehind.unique`).
-/

namespace TwoStack

/-! ## Lines and runs -/

/-- What stands in front is empty or ends in a character with a property, and what stands behind has
no such character. -/
structure CutBehind (p : Char → Bool) (front rest : List Char) : Prop where
  last : ∀ c, front.getLast? = some c → p c = true
  free : ∀ c ∈ rest, p c = false

/-- A line of a text, with what stands before it, its ending, and what stands after it.  A line ends
at a line feed, and a carriage return before the line feed belongs to the ending; the last line may
end at the end of the text. -/
structure LineAt (source before line ending after : List Char) : Prop where
  split : source = before ++ line ++ ending ++ after
  cut : CutBehind (· == '\n') before line
  ends : ending = ['\r', '\n'] ∨ ending = ['\n'] ∧ line.getLast? ≠ some '\r' ∨
    ending = [] ∧ after = []

/-- A maximal run of characters that are not separators, with what stands on its left and on its
right. -/
structure RunIn (code left word right : List Char) : Prop where
  split : code = left ++ word ++ right
  nonempty : word ≠ []
  cut : CutBehind isSeparator left word
  ended : ∀ c, right.head? = some c → isSeparator c = true

/-- A run in the code of a line, with the number of the line and the column where the run begins,
both counted from one. -/
def Occurs (source : List Char) (text : String) (line column : Nat) : Prop :=
  ∃ before written ending after left right,
    LineAt source before written ending after ∧
    RunIn (codeOf written) left text.toList right ∧
    line = before.count '\n' + 1 ∧ column = left.length + 1

/-! ## Cutting behind the last character of a kind -/

namespace CutBehind

variable {p : Char → Bool} {front rest : List Char}

theorem nil : CutBehind p [] [] := ⟨nofun, nofun⟩

theorem unique {other behind : List Char} (cut : CutBehind p front rest)
    (again : CutBehind p other behind) (same : front ++ rest = other ++ behind) :
    front = other ∧ rest = behind := by
  -- where one front part is longer, its last character stands in the other rest
  have shorter {front rest other between behind : List Char} (cut : CutBehind p front rest)
      (longer : other = front ++ between) (again : CutBehind p other behind)
      (inside : rest = between ++ behind) : between = [] := by
    rcases List.eq_nil_or_concat between with empty | ⟨start, c, rfl⟩
    · exact empty
    · have found := again.last c (by rw [longer, List.concat_eq_append]; simp)
      rw [cut.free c (by rw [inside, List.concat_eq_append]; simp)] at found
      cases found
  rcases List.append_eq_append_iff.1 same with ⟨between, longer, inside⟩ | ⟨between, longer, inside⟩
  · have empty := shorter cut longer again inside
    subst empty
    rw [List.append_nil] at longer
    exact ⟨longer.symm, inside⟩
  · have empty := shorter again longer cut inside
    subst empty
    rw [List.append_nil] at longer
    exact ⟨longer, inside.symm⟩

theorem extend (cut : CutBehind p front rest) {c : Char} (other : p c = false) :
    CutBehind p front (rest ++ [c]) := by
  refine ⟨cut.last, fun d listed => ?_⟩
  rw [List.mem_append, List.mem_singleton] at listed
  rcases listed with listed | rfl
  · exact cut.free d listed
  · exact other

theorem behind (text : List Char) {c : Char} (found : p c = true) :
    CutBehind p (text ++ [c]) [] := by
  refine ⟨fun d last => ?_, nofun⟩
  rw [List.getLast?_append, List.getLast?_singleton, Option.some_or, Option.some.injEq] at last
  exact last ▸ found

/-- Every text is cut behind the last character of a kind. -/
theorem exists_cut (p : Char → Bool) (text : List Char) :
    ∃ front rest, text = front ++ rest ∧ CutBehind p front rest := by
  induction text using List.reverseRecOn with
  | nil => exact ⟨[], [], rfl, nil⟩
  | append_singleton text c ih =>
      obtain ⟨front, rest, split, cut⟩ := ih
      rcases found : p c with _ | _
      · exact ⟨front, rest ++ [c], by rw [split, List.append_assoc], cut.extend found⟩
      · exact ⟨text ++ [c], [], (List.append_nil _).symm, behind text found⟩

end CutBehind

/-! ## Runs in a text -/

/-- The beginning of a run in the code of a line: the lines before it, what stands on its left in
its line, and what has been read of the run. -/
structure RunFrom (before left word : List Char) : Prop where
  line : CutBehind (· == '\n') before left
  code : ';' ∉ left
  nonempty : word ≠ []
  cut : CutBehind isSeparator left word
  plain : ';' ∉ word

/-- A text ends in a run. -/
def EndsIn (read : List Char) (text : String) (line column : Nat) : Prop :=
  ∃ before left, read = before ++ left ++ text.toList ∧ RunFrom before left text.toList ∧
    line = before.count '\n' + 1 ∧ column = left.length + 1

/-- A character that ends the run before it. -/
def endsRun (c : Char) : Prop := isSeparator c = true ∨ c = ';'

/-- A text has a run in it that some character has ended. -/
def HasRun (read : List Char) (text : String) (line column : Nat) : Prop :=
  ∃ front c back, read = front ++ c :: back ∧ endsRun c ∧ EndsIn front text line column

theorem hasRun_append {read : List Char} {c : Char} {text : String} {line column : Nat} :
    HasRun (read ++ [c]) text line column ↔
      HasRun read text line column ∨ endsRun c ∧ EndsIn read text line column := by
  constructor
  · rintro ⟨front, d, back, split, ends, run⟩
    rcases List.eq_nil_or_concat back with rfl | ⟨start, last, rfl⟩
    · obtain ⟨rfl, same⟩ := List.append_inj' split rfl
      cases same
      exact .inr ⟨ends, run⟩
    · rw [List.concat_eq_append, ← List.cons_append, ← List.append_assoc] at split
      obtain ⟨rfl, _⟩ := List.append_inj' split rfl
      exact .inl ⟨front, d, start, rfl, ends, run⟩
  · rintro (⟨front, d, back, rfl, ends, run⟩ | ⟨ends, run⟩)
    · exact ⟨front, d, back ++ [c], by simp, ends, run⟩
    · exact ⟨read, c, [], rfl, ends, run⟩

/-! ## The scanner -/

namespace Scanner

/-- The token at a line and column is among those found. -/
def Found (scanner : Scanner) (text : String) (line column : Nat) : Prop :=
  ∃ index, (⟨text, line, column, index⟩ : Token) ∈ scanner.tokens

/-- A token ends the text. -/
def Begun (scanner : Scanner) (text : String) (line column : Nat) : Prop :=
  scanner.word ≠ [] ∧ text = String.ofList scanner.word.reverse ∧ line = scanner.line ∧
    column = scanner.start

/-- What a scanner has found in the text that it has read, which is some lines and the beginning of
another one. -/
structure Has (scanner : Scanner) (before line : List Char) : Prop where
  cut : CutBehind (· == '\n') before line
  number : scanner.line = before.count '\n' + 1
  place : scanner.column = line.length + 1
  comment : scanner.comment = true → ';' ∈ line ∧ scanner.word = []
  code : scanner.comment = false → ';' ∉ line ∧
    ∃ left, line = left ++ scanner.word.reverse ∧
      CutBehind isSeparator left scanner.word.reverse ∧
      (scanner.word ≠ [] → scanner.start = left.length + 1)
  tokens : ∀ text number column, scanner.Found text number column ↔
    HasRun (before ++ line) text number column

theorem has_start : Has {} [] [] := by
  refine ⟨.nil, rfl, rfl, nofun, fun _ => ⟨nofun, [], rfl, .nil, fun begun => absurd rfl begun⟩, ?_⟩
  intro text number column
  constructor
  · rintro ⟨index, listed⟩
    cases listed
    contradiction
  · rintro ⟨front, c, back, split, _⟩
    simp at split

theorem found_close {scanner : Scanner} {text : String} {line column : Nat} :
    scanner.close.Found text line column ↔
      scanner.Found text line column ∨ scanner.Begun text line column := by
  rcases scanner with ⟨number, place, comment, word, start, tokens⟩
  cases word with
  | nil => simp [Found, Begun, close]
  | cons c word =>
      simp only [Found, Begun, close, List.isEmpty_cons, Bool.false_eq_true, if_false,
        Array.mem_push, Token.mk.injEq, Location.mk.injEq, exists_or]
      simp

section Step

variable {scanner : Scanner} {before line : List Char}

/-- The run that the text ends in is the word under way. -/
theorem Has.endsIn_iff (has : scanner.Has before line) {text : String} {number column : Nat} :
    EndsIn (before ++ line) text number column ↔ scanner.Begun text number column := by
  constructor
  · rintro ⟨others, left, split, run, rfl, rfl⟩
    have sameLine : CutBehind (· == '\n') others (left ++ text.toList) := by
      refine ⟨run.line.last, fun c listed => ?_⟩
      rcases List.mem_append.1 listed with listed | listed
      · exact run.line.free c listed
      · rw [beq_eq_false_iff_ne]
        rintro rfl
        exact absurd (run.cut.free '\n' listed) (by decide)
    rw [List.append_assoc] at split
    obtain ⟨rfl, rfl⟩ := has.cut.unique sameLine split
    rcases commented : scanner.comment with _ | _
    · obtain ⟨_, start, split, cut, begun⟩ := has.code commented
      obtain ⟨rfl, same⟩ := run.cut.unique cut split
      have nonempty : scanner.word ≠ [] := by
        rw [← List.reverse_ne_nil_iff, ← same]
        exact run.nonempty
      refine ⟨nonempty, ?_, has.number.symm, (begun nonempty).symm⟩
      rw [← same, String.ofList_toList]
    · rcases List.mem_append.1 (has.comment commented).1 with listed | listed
      · exact absurd listed run.code
      · exact absurd listed run.plain
  · rintro ⟨nonempty, rfl, rfl, rfl⟩
    rcases commented : scanner.comment with _ | _
    · obtain ⟨code, start, rfl, cut, begun⟩ := has.code commented
      rw [List.mem_append, not_or] at code
      have line : CutBehind (· == '\n') before start :=
        ⟨has.cut.last, fun c listed => has.cut.free c (List.mem_append_left _ listed)⟩
      refine ⟨before, start, ?_, ?_, has.number, begun nonempty⟩
      · rw [String.toList_ofList, List.append_assoc]
      · rw [String.toList_ofList]
        exact ⟨line, code.1, List.reverse_ne_nil_iff.2 nonempty, cut, code.2⟩
    · exact absurd (has.comment commented).2 nonempty

/-- A character that ends the word under way makes it a token. -/
theorem Has.tokens_close (has : scanner.Has before line) {c : Char} (ends : endsRun c)
    (text : String) (number column : Nat) :
    scanner.close.Found text number column ↔ HasRun (before ++ line ++ [c]) text number column := by
  rw [found_close, hasRun_append, has.tokens, has.endsIn_iff, and_iff_right ends]

/-- A character that ends no word leaves the tokens as they are. -/
theorem Has.tokens_keep (has : scanner.Has before line) {c : Char}
    (keeps : endsRun c → scanner.word = []) (text : String) (number column : Nat) :
    scanner.Found text number column ↔ HasRun (before ++ line ++ [c]) text number column := by
  rw [hasRun_append, has.tokens, has.endsIn_iff, or_iff_left]
  exact fun ended => ended.2.1 (keeps ended.1)

theorem column_close (scanner : Scanner) : scanner.close.column = scanner.column := by
  rcases scanner with ⟨line, column, comment, word, start, tokens⟩
  cases word <;> rfl

theorem Has.cut_extend (has : scanner.Has before line) {c : Char} (sameLine : c ≠ '\n') :
    CutBehind (· == '\n') before (line ++ [c]) :=
  has.cut.extend (beq_eq_false_iff_ne.2 sameLine)

theorem length_concat (line : List Char) (c : Char) :
    (line ++ [c]).length + 1 = line.length + 1 + 1 := by
  rw [List.length_append, List.length_singleton]

/-- A line feed ends the word under way, and the scanner goes on in the next line. -/
theorem Has.lineFeed (has : scanner.Has before line) :
    scanner.close.nextLine.Has (before ++ line ++ ['\n']) [] := by
  have closed : scanner.close.nextLine.word = [] := word_close
  have lines : line.count '\n' = 0 :=
    List.count_eq_zero.2 fun listed => absurd (has.cut.free '\n' listed) (by decide)
  refine ⟨.behind _ rfl, ?_, rfl, nofun, fun _ => ⟨nofun, [], ?_⟩, ?_⟩
  · show scanner.close.line + 1 = _
    rw [line_close, has.number, List.count_append, List.count_append, lines]
    rfl
  · rw [closed]
    exact ⟨rfl, .nil, fun begun => absurd rfl begun⟩
  · rw [List.append_nil]
    exact has.tokens_close (.inl rfl)

/-- In a comment nothing happens. -/
theorem Has.inComment (has : scanner.Has before line) (commented : scanner.comment = true)
    {c : Char} (sameLine : c ≠ '\n') : scanner.advance.Has before (line ++ [c]) := by
  obtain ⟨semicolon, closed⟩ := has.comment commented
  refine ⟨has.cut_extend sameLine, has.number, ?_, fun _ => ⟨?_, closed⟩, fun code => ?_, ?_⟩
  · rw [length_concat, ← has.place]
    rfl
  · exact List.mem_append_left _ semicolon
  · exact absurd (code.symm.trans commented) (by decide)
  · rw [← List.append_assoc]
    exact has.tokens_keep fun _ => closed

/-- A semicolon ends the word under way and opens a comment. -/
theorem Has.semicolon (has : scanner.Has before line) :
    Has { scanner.close.advance with comment := true } before (line ++ [';']) := by
  refine ⟨has.cut_extend (by decide), ?_, ?_, fun _ => ⟨?_, word_close⟩, nofun, ?_⟩
  · exact scanner.line_close.trans has.number
  · rw [length_concat, ← has.place]
    exact congrArg (· + 1) scanner.column_close
  · exact List.mem_append_right _ List.mem_cons_self
  · rw [← List.append_assoc]
    exact has.tokens_close (.inr rfl)

/-- A separator ends the word under way. -/
theorem Has.separator (has : scanner.Has before line) (code : scanner.comment = false) {c : Char}
    (separates : isSeparator c = true) (sameLine : c ≠ '\n') (plain : c ≠ ';') :
    scanner.close.advance.Has before (line ++ [c]) := by
  have closed : scanner.close.advance.word = [] := word_close
  have commented : scanner.close.advance.comment = false := (comment_close scanner).trans code
  refine ⟨has.cut_extend sameLine, scanner.line_close.trans has.number, ?_, fun open_ => ?_,
    fun _ => ⟨?_, line ++ [c], ?_⟩, ?_⟩
  · rw [length_concat, ← has.place]
    exact congrArg (· + 1) scanner.column_close
  · exact absurd (commented.symm.trans open_) (by decide)
  · rw [List.mem_append, List.mem_singleton, not_or]
    exact ⟨(has.code code).1, plain.symm⟩
  · rw [closed]
    exact ⟨(List.append_nil _).symm, .behind line separates, fun begun => absurd rfl begun⟩
  · rw [← List.append_assoc]
    exact has.tokens_close (.inl separates)

/-- Any other character belongs to the word under way, or begins one. -/
theorem Has.solid (has : scanner.Has before line) (code : scanner.comment = false) {c : Char}
    (solid : Solid c) : (scanner.extend c).advance.Has before (line ++ [c]) := by
  have sameLine : c ≠ '\n' := by
    rintro rfl
    exact absurd solid.joins (by decide)
  obtain ⟨plain, left, split, cut, begun⟩ := has.code code
  refine ⟨has.cut_extend sameLine, has.number, ?_, fun commented => ?_,
    fun _ => ⟨?_, left, ?_⟩, ?_⟩
  · rw [length_concat, ← has.place]
    rfl
  · exact absurd (code.symm.trans commented) (by decide)
  · rw [List.mem_append, List.mem_singleton, not_or]
    exact ⟨plain, solid.plain.symm⟩
  · have extended : (scanner.extend c).advance.word.reverse = scanner.word.reverse ++ [c] :=
      List.reverse_cons
    rw [extended]
    refine ⟨by rw [split, List.append_assoc], cut.extend solid.joins, fun _ => ?_⟩
    show (if scanner.word.isEmpty then scanner.column else scanner.start) = left.length + 1
    split
    · next empty =>
        rw [List.isEmpty_iff] at empty
        rw [has.place, split, empty, List.reverse_nil, List.append_nil]
    · next nonempty => exact begun fun empty => nonempty (List.isEmpty_iff.2 empty)
  · rw [← List.append_assoc]
    refine has.tokens_keep fun ends => ?_
    rcases ends with separates | semicolon
    · exact absurd (solid.joins.symm.trans separates) (by decide)
    · exact absurd semicolon solid.plain

/-- Reading a character keeps the invariant. -/
theorem Has.feed (has : scanner.Has before line) (c : Char) :
    ∃ lines rest, lines ++ rest = before ++ line ++ [c] ∧ (scanner.feed c).Has lines rest := by
  unfold Scanner.feed
  split
  · next same =>
      subst same
      exact ⟨_, _, List.append_nil _, has.lineFeed⟩
  · next sameLine =>
      refine ⟨before, line ++ [c], (List.append_assoc ..).symm, ?_⟩
      split
      · next commented => exact has.inComment commented sameLine
      · next uncommented =>
          have code := eq_false_of_ne_true uncommented
          split
          · next same =>
              subst same
              exact has.semicolon
          · next plain =>
              split
              · next separates => exact has.separator code separates sameLine plain
              · next joins => exact has.solid code ⟨eq_false_of_ne_true joins, plain⟩

theorem Has.feedAll (has : scanner.Has before line) (text : List Char) :
    ∃ lines rest, lines ++ rest = before ++ line ++ text ∧
      (scanner.feedAll text).Has lines rest := by
  induction text generalizing scanner before line with
  | nil => exact ⟨before, line, (List.append_nil _).symm, has⟩
  | cons c text ih =>
      obtain ⟨lines, rest, split, next⟩ := has.feed c
      obtain ⟨others, last, splits, has⟩ := ih next
      refine ⟨others, last, ?_, has⟩
      rw [splits, split, List.append_assoc]
      rfl

end Step

end Scanner

/-- The tokens of a text are the runs that some character has ended and the run at its end. -/
theorem mem_tokenize_iff {source text : String} {line column : Nat} :
    (∃ index, (⟨text, line, column, index⟩ : Token) ∈ tokenize source) ↔
      HasRun source.toList text line column ∨ EndsIn source.toList text line column := by
  obtain ⟨lines, rest, split, has⟩ := Scanner.has_start.feedAll source.toList
  rw [List.nil_append, List.nil_append] at split
  rw [← split, ← has.tokens, has.endsIn_iff, ← Scanner.found_close]
  rfl

/-! ## Runs in lines -/

/-- A text ends its first line somewhere. -/
theorem exists_line_end (text : List Char) :
    ∃ line ending after, text = line ++ ending ++ after ∧ '\n' ∉ line ∧
      (ending = ['\r', '\n'] ∨ ending = ['\n'] ∧ line.getLast? ≠ some '\r' ∨
        ending = [] ∧ after = []) := by
  by_cases fed : '\n' ∈ text
  · obtain ⟨line, after, rfl, sameLine⟩ := List.eq_append_cons_of_mem fed
    rcases returned : line.getLast? with _ | c
    · exact ⟨line, ['\n'], after, by simp, sameLine, .inr (.inl ⟨rfl, by simp [returned]⟩)⟩
    · by_cases same : c = '\r'
      · subst same
        obtain ⟨start, rfl⟩ := List.getLast?_eq_some_iff.1 returned
        rw [List.mem_append, not_or] at sameLine
        exact ⟨start, ['\r', '\n'], after, by simp, sameLine.1, .inl rfl⟩
      · exact ⟨line, ['\n'], after, by simp, sameLine, .inr (.inl ⟨rfl, by simp [returned, same]⟩)⟩
  · exact ⟨text, [], [], by simp, fed, .inr (.inr ⟨rfl, rfl⟩)⟩

theorem codeOf_append {front : List Char} (plain : ';' ∉ front) (rest : List Char) :
    codeOf (front ++ rest) = front ++ codeOf rest := by
  refine List.takeWhile_append_of_pos fun c listed => decide_eq_true ?_
  rintro rfl
  exact plain listed

theorem head?_of_head?_codeOf {line : List Char} {c : Char} (first : (codeOf line).head? = some c) :
    line.head? = some c ∧ c ≠ ';' := by
  obtain ⟨rest, split⟩ := List.head?_eq_some_iff.1 first
  have plain : c ≠ ';' := @ne_of_mem_codeOf line c (split ▸ List.mem_cons_self)
  rcases eq_codeOf_or line with same | ⟨comment, same⟩
  · rw [same, split]
    exact ⟨rfl, plain⟩
  · rw [same, split]
    exact ⟨rfl, plain⟩

theorem ended_or_last_iff {source : List Char} {text : String} {line column : Nat} :
    HasRun source text line column ∨ EndsIn source text line column ↔
      ∃ front back, source = front ++ back ∧ EndsIn front text line column ∧
        ∀ c, back.head? = some c → endsRun c := by
  constructor
  · rintro (⟨front, c, back, split, ends, run⟩ | run)
    · refine ⟨front, c :: back, split, run, fun d first => ?_⟩
      rw [List.head?_cons, Option.some.injEq] at first
      exact first ▸ ends
    · exact ⟨source, [], (List.append_nil _).symm, run, nofun⟩
  · rintro ⟨front, back, rfl, run, ends⟩
    cases back with
    | nil => exact .inr ((List.append_nil front).symm ▸ run)
    | cons c back => exact .inl ⟨front, c, back, rfl, ends c rfl, run⟩

/-- A run that begins in the code of a line, and behind which it is ended, is one in the code of
that line. -/
theorem occurs_of_endsIn {front back : List Char} {text : String} {line column : Nat}
    (run : EndsIn front text line column) (ends : ∀ c, back.head? = some c → endsRun c) :
    Occurs (front ++ back) text line column := by
  obtain ⟨before, left, rfl, begun, number, place⟩ := run
  obtain ⟨rest, ending, after, rfl, sameLine, ended⟩ := exists_line_end back
  have solid (c : Char) (listed : c ∈ text.toList) : c ≠ '\n' ∧ c ≠ '\r' := by
    constructor
    · rintro rfl
      exact absurd (begun.cut.free '\n' listed) (by decide)
    · rintro rfl
      exact absurd (begun.cut.free '\r' listed) (by decide)
  have plain : ';' ∉ left ++ text.toList := by
    rw [List.mem_append, not_or]
    exact ⟨begun.code, begun.plain⟩
  refine ⟨before, left ++ text.toList ++ rest, ending, after, left, codeOf rest,
    ⟨by simp, ⟨begun.line.last, fun c listed => ?_⟩, ?_⟩,
    ⟨codeOf_append plain rest, begun.nonempty, begun.cut, fun c first => ?_⟩, number, place⟩
  · rw [beq_eq_false_iff_ne]
    rw [List.append_assoc, List.mem_append, List.mem_append] at listed
    rcases listed with listed | listed | listed
    · exact beq_eq_false_iff_ne.1 (begun.line.free c listed)
    · exact (solid c listed).1
    · rintro rfl
      exact sameLine listed
  · rcases ended with returned | ⟨fed, unreturned⟩ | last
    · exact .inl returned
    · refine .inr (.inl ⟨fed, fun found => ?_⟩)
      -- the last character is that of the run if nothing follows in the line
      rw [List.getLast?_append, List.getLast?_append] at found
      rcases final : rest.getLast? with _ | c
      · rw [final, Option.none_or, List.getLast?_eq_some_getLast begun.nonempty,
          Option.some_or, Option.some.injEq] at found
        exact (solid '\r' (found ▸ List.getLast_mem begun.nonempty)).2 rfl
      · rw [final, Option.some_or, Option.some.injEq] at found
        rw [final, found] at unreturned
        exact unreturned rfl
    · exact .inr (.inr last)
  · obtain ⟨head, plain⟩ := head?_of_head?_codeOf first
    have next : (rest ++ ending ++ after).head? = some c := by
      rw [List.append_assoc, List.head?_append, head, Option.some_or]
    rcases ends c next with separates | semicolon
    · exact separates
    · exact absurd semicolon plain

/-- Behind a run in the code of a line comes a separator, the comment, the ending of the line, or
the end of the text. -/
theorem exists_endsIn_of_occurs {source : List Char} {text : String} {line column : Nat}
    (occurs : Occurs source text line column) :
    ∃ front back, source = front ++ back ∧ EndsIn front text line column ∧
      ∀ c, back.head? = some c → endsRun c := by
  obtain ⟨before, written, ending, after, left, right, here, run, number, place⟩ := occurs
  have within (c : Char) (listed : c ∈ left ++ text.toList) : c ∈ codeOf written := by
    rw [run.split]
    exact List.mem_append_left _ listed
  have plain (c : Char) (listed : c ∈ left ++ text.toList) : c ≠ ';' :=
    ne_of_mem_codeOf (within c listed)
  have begun : RunFrom before left text.toList := by
    refine ⟨⟨here.cut.last, fun c listed => here.cut.free c ?_⟩, ?_, run.nonempty, run.cut, ?_⟩
    · exact (List.takeWhile_prefix _).subset (within c (List.mem_append_left _ listed))
    · exact fun listed => plain ';' (List.mem_append_left _ listed) rfl
    · exact fun listed => plain ';' (List.mem_append_right _ listed) rfl
  obtain ⟨comment, split, opened⟩ : ∃ comment, written = codeOf written ++ comment ∧
      ∀ c, comment.head? = some c → c = ';' := by
    rcases eq_codeOf_or written with same | ⟨comment, same⟩
    · exact ⟨[], by rw [List.append_nil]; exact same, nofun⟩
    · refine ⟨';' :: comment, same, fun c first => ?_⟩
      rw [List.head?_cons, Option.some.injEq] at first
      exact first.symm
  refine ⟨before ++ left ++ text.toList, right ++ comment ++ ending ++ after, ?_,
    ⟨before, left, rfl, begun, number, place⟩, fun c first => ?_⟩
  · rw [here.split, split, run.split]
    simp
  · cases right with
    | cons d right =>
        rw [List.cons_append, List.cons_append, List.cons_append, List.head?_cons,
          Option.some.injEq] at first
        exact .inl (first ▸ run.ended d rfl)
    | nil =>
        cases comment with
        | cons d comment =>
            rw [List.nil_append, List.cons_append, List.cons_append, List.head?_cons,
              Option.some.injEq] at first
            exact .inr (first ▸ opened d rfl)
        | nil =>
            rcases here.ends with rfl | ⟨rfl, _⟩ | ⟨rfl, rfl⟩
            · cases first
              exact .inl rfl
            · cases first
              exact .inl rfl
            · cases first

/-- The tokens of a text are the maximal runs of characters in the code of its lines. -/
theorem mem_tokenize_iff_occurs {source text : String} {line column : Nat} :
    (∃ index, (⟨text, line, column, index⟩ : Token) ∈ tokenize source) ↔
      Occurs source.toList text line column := by
  rw [mem_tokenize_iff, ended_or_last_iff]
  constructor
  · rintro ⟨front, back, split, run, ends⟩
    rw [split]
    exact occurs_of_endsIn run ends
  · exact exists_endsIn_of_occurs

/-- A character in the code of a line that is no separator belongs to a run. -/
theorem exists_runIn {code front back : List Char} {c : Char} (split : code = front ++ c :: back)
    (joins : isSeparator c = false) :
    ∃ left start, front = left ++ start ∧
      RunIn code left (start ++ [c] ++ back.takeWhile (!isSeparator ·))
        (back.dropWhile (!isSeparator ·)) := by
  obtain ⟨left, begun, parts, cut⟩ := CutBehind.exists_cut isSeparator (front ++ [c])
  rcases List.eq_nil_or_concat begun with rfl | ⟨start, d, rfl⟩
  · have separates := cut.last c (by rw [← List.append_nil left, ← parts]; simp)
    exact absurd (joins.symm.trans separates) (by decide)
  · rw [List.concat_eq_append] at parts cut
    rw [← List.append_assoc] at parts
    obtain ⟨same, single⟩ := List.append_inj' parts rfl
    cases single
    refine ⟨left, start, same, ?_, by simp, ⟨cut.last, fun d listed => ?_⟩, fun d first => ?_⟩
    · rw [split, same, List.append_assoc, List.append_assoc, List.append_assoc, List.append_assoc,
        List.takeWhile_append_dropWhile]
      rfl
    · rcases List.mem_append.1 listed with listed | listed
      · exact cut.free d listed
      · simpa using List.mem_takeWhile_imp listed
    · have stopped := List.head?_dropWhile_not (!isSeparator ·) back
      rw [first] at stopped
      simpa using stopped

/-! ## The tokens of a text -/

/-- What `tokenize` finds in a text. -/
structure TokenizedExactly (source : String) : Prop where
  separators : ∀ c, isSeparator c = true ↔ c ∈ [' ', '\t', '\n', '\x0C', '\r']
  /-- The tokens are the maximal runs in the code of the lines, with their places. -/
  runs : ∀ text line column,
    (∃ index, (⟨text, line, column, index⟩ : Token) ∈ tokenize source) ↔
      Occurs source.toList text line column
  indexed : ∀ (i : Nat) (token : Token), (tokenize source)[i]? = some token →
    token.location.index = i
  increasing : (tokenize source).toList.Pairwise fun a b =>
    a.location.line < b.location.line ∨
      a.location.line = b.location.line ∧ a.location.column < b.location.column
  /-- No token is empty or has a separator or a semicolon in it. -/
  solid : ∀ token ∈ tokenize source, token.text ≠ "" ∧
    ∀ c ∈ token.text.toList, c ∉ [' ', '\t', '\n', '\x0C', '\r', ';']
  /-- The text that stands at the place of a token is that of the token. -/
  found : ∀ token ∈ tokenize source, ∃ before line ending after,
    LineAt source.toList before line ending after ∧
    token.location.line = before.count '\n' + 1 ∧
    1 ≤ token.location.column ∧
    (line.drop (token.location.column - 1)).take token.text.length = token.text.toList
  /-- A character in the code of a line that is no separator is in some token, at its own place. -/
  covered : ∀ before line ending after front c back,
    LineAt source.toList before line ending after → codeOf line = front ++ c :: back →
    isSeparator c = false →
    ∃ token ∈ tokenize source, token.location.line = before.count '\n' + 1 ∧
      ∃ skipped, token.location.column + skipped = front.length + 1 ∧
        token.text.toList[skipped]? = some c

theorem occurs_of_mem {source : String} {token : Token} (listed : token ∈ tokenize source) :
    Occurs source.toList token.text token.location.line token.location.column :=
  mem_tokenize_iff_occurs.1 ⟨token.location.index, listed⟩

/-- The tokens of a text are the maximal runs of characters that are not separators in what stands
before the first semicolon of each line: all of them, in order, with their lines and columns. -/
theorem tokenize_exact (source : String) : TokenizedExactly source where
  separators c := by simp [isSeparator, or_assoc]
  runs _ _ _ := mem_tokenize_iff_occurs
  indexed _ _ := tokenize_indexed
  increasing := (Scanner.ordered_tokenize source).apart
  solid := by
    intro token listed
    obtain ⟨_, written, _, _, left, right, _, run, _, _⟩ := occurs_of_mem listed
    refine ⟨fun empty => run.nonempty (by rw [empty]; rfl), fun c inside => ?_⟩
    have joins := run.cut.free c inside
    have plain : c ≠ ';' := by
      refine @ne_of_mem_codeOf written c ?_
      rw [run.split]
      exact List.mem_append_left _ (List.mem_append_right _ inside)
    simp only [isSeparator, Bool.or_eq_false_iff, beq_eq_false_iff_ne] at joins
    simp [joins, plain]
  found := by
    intro token listed
    obtain ⟨before, written, ending, after, left, right, here, run, number, place⟩ :=
      occurs_of_mem listed
    refine ⟨before, written, ending, after, here, number, by omega, ?_⟩
    have inside : left ++ (token.text.toList ++ right) <+: written := by
      rw [← List.append_assoc, ← run.split]
      exact List.takeWhile_prefix _
    obtain ⟨rest, split⟩ := inside
    rw [place, Nat.add_sub_cancel, ← split, List.append_assoc, List.drop_left, List.append_assoc,
      ← String.length_toList, List.take_left]
  covered := by
    intro before line ending after front c back here split joins
    obtain ⟨left, start, same, run⟩ := exists_runIn split joins
    have occurs : Occurs source.toList
        (String.ofList (start ++ [c] ++ back.takeWhile (!isSeparator ·)))
        (before.count '\n' + 1) (left.length + 1) := by
      rw [← String.toList_ofList
        (l := start ++ [c] ++ back.takeWhile (!isSeparator ·))] at run
      exact ⟨before, line, ending, after, left, _, here, run, rfl, rfl⟩
    obtain ⟨index, listed⟩ := mem_tokenize_iff_occurs.2 occurs
    refine ⟨_, listed, rfl, start.length, ?_, ?_⟩
    · rw [same, List.length_append]
      exact Nat.add_right_comm _ _ _
    · rw [String.toList_ofList]
      simp

/-- A carriage return alone separates, a vertical tab does not, and a comment hides the rest of its
line. -/
example : tokenize "é a;b\r\nc\x0Bd\re ;" =
    #[⟨"é", ⟨1, 1, 0⟩⟩, ⟨"a", ⟨1, 3, 1⟩⟩, ⟨"c\x0Bd", ⟨2, 1, 2⟩⟩, ⟨"e", ⟨2, 5, 3⟩⟩] := by
  decide +kernel

end TwoStack
