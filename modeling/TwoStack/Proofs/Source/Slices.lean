import Mathlib.Data.List.TakeWhile
import TwoStack.Proofs.Source.Joined
import TwoStack.Proofs.Text.Slice
import TwoStack.Source.Statement

/-!
# Source text cut by byte offsets

The columns of tokens count characters, while a text is cut by the offsets of its bytes.  The reader
of literals and the reader of tokens are written down here once more with such cuts
(`integerLiteralSliced?`, `tokenizeSliced?`); they have no answer if one of them falls outside the
text or into a character.

That never happens, and they find what `integerLiteral?` and `tokenize` find.  A cut in a literal
goes around a sign or `0x`, which are one byte for each character.  A token begins where the scanner
found its first character and ends before the separator behind it, and the characters in between
are those that the scanner has collected (`LineScan.Agrees`).
-/

namespace TwoStack

/-! ## Literals -/

/-- Cuts a sign off a text. -/
def signSliced? (text : String) : Option (Bool × String) :=
  match (utf8Bytes text.toList).head? with
  | some 45 => (slice? text 1 text.utf8ByteSize).map fun body => (true, body)
  | some 43 => (slice? text 1 text.utf8ByteSize).map fun body => (false, body)
  | _ => some (false, text)

/-- Cuts the mark of hexadecimal digits off a text, and tells the base of the digits. -/
def radixSliced? (body : String) : Option (Nat × String) :=
  if slice? body 0 2 = some "0x" ∨ slice? body 0 2 = some "0X" then
    (slice? body 2 body.utf8ByteSize).map fun digits => (16, digits)
  else
    some (10, body)

/-- The integer that a literal denotes, where the literal is cut by the offsets of its bytes. -/
def integerLiteralSliced? (text : String) : Option (Option Int) := do
  let (negative, body) ← signSliced? text
  let (base, digits) ← radixSliced? body
  return (Numeral.natural? base digits.toList).map (Numeral.signed negative)

/-- What stands behind some first characters can be cut out. -/
theorem slice?_behind {text : String} (front : List Char) {rest : List Char} {start : Nat}
    (spelled : text.toList = front ++ rest) (size : (String.ofList front).utf8ByteSize = start) :
    slice? text start text.utf8ByteSize = some (String.ofList rest) := by
  have split : text = String.ofList front ++ String.ofList rest := by
    rw [← String.ofList_append, ← spelled, String.ofList_toList]
  refine slice?_eq_some_iff.2 ⟨String.ofList front, "", ?_, size.symm, ?_⟩
  · rw [split, String.append_empty]
  · rw [split, String.utf8ByteSize_append]

theorem signSliced?_eq (text : String) :
    signSliced? text = some ((Numeral.sign text.toList).1,
      String.ofList (Numeral.sign text.toList).2) := by
  have minus : (utf8Bytes text.toList).head? = some 45 ↔ text.toList.head? = some '-' :=
    head?_utf8Bytes_iff (c := '-') (by decide)
  have plus : (utf8Bytes text.toList).head? = some 43 ↔ text.toList.head? = some '+' :=
    head?_utf8Bytes_iff (c := '+') (by decide)
  unfold signSliced?
  split
  · next first =>
      obtain ⟨rest, spelled⟩ := List.head?_eq_some_iff.1 (minus.1 first)
      have cut : slice? text 1 text.utf8ByteSize = some (String.ofList rest) :=
        slice?_behind ['-'] spelled rfl
      rw [cut, spelled]
      rfl
  · next first =>
      obtain ⟨rest, spelled⟩ := List.head?_eq_some_iff.1 (plus.1 first)
      have cut : slice? text 1 text.utf8ByteSize = some (String.ofList rest) :=
        slice?_behind ['+'] spelled rfl
      rw [cut, spelled]
      rfl
  · next negative positive =>
      have unsigned : Numeral.sign text.toList = (false, text.toList) := by
        unfold Numeral.sign
        split
        · next rest spelled => exact absurd (minus.2 (by rw [spelled]; rfl)) negative
        · next rest spelled => exact absurd (plus.2 (by rw [spelled]; rfl)) positive
        · rfl
      rw [unsigned, String.ofList_toList]

theorem slice?_two_iff {body mark : String} (two : mark.utf8ByteSize = 2) :
    slice? body 0 2 = some mark ↔ ∃ digits, body.toList = mark.toList ++ digits := by
  rw [slice?_eq_some_iff]
  constructor
  · rintro ⟨front, back, rfl, empty, _⟩
    rw [String.utf8ByteSize_eq_zero_iff.1 empty.symm]
    exact ⟨back.toList, by simp⟩
  · rintro ⟨digits, spelled⟩
    refine ⟨"", String.ofList digits, ?_, rfl, ?_⟩
    · rw [← String.toList_inj, spelled]
      simp
    · rw [two]
      rfl

/-- The digits of a literal are what stands behind its mark, or all of it if it has none. -/
theorem radixSliced?_cases (body : List Char) :
    (∃ digits, (body = '0' :: 'x' :: digits ∨ body = '0' :: 'X' :: digits) ∧
      radixSliced? (String.ofList body) = some (16, String.ofList digits)) ∨
    (∀ digits, body ≠ '0' :: 'x' :: digits ∧ body ≠ '0' :: 'X' :: digits) ∧
      radixSliced? (String.ofList body) = some (10, String.ofList body) := by
  have lower := @slice?_two_iff (String.ofList body) "0x" rfl
  have upper := @slice?_two_iff (String.ofList body) "0X" rfl
  rw [String.toList_ofList] at lower upper
  unfold radixSliced?
  split
  · next marked =>
      left
      rcases marked with marked | marked
      · obtain ⟨digits, rfl⟩ : ∃ digits, body = '0' :: 'x' :: digits := lower.1 marked
        have cut : slice? (String.ofList ('0' :: 'x' :: digits)) 2 _ =
            some (String.ofList digits) := slice?_behind ['0', 'x'] String.toList_ofList rfl
        exact ⟨digits, .inl rfl, by rw [cut]; rfl⟩
      · obtain ⟨digits, rfl⟩ : ∃ digits, body = '0' :: 'X' :: digits := upper.1 marked
        have cut : slice? (String.ofList ('0' :: 'X' :: digits)) 2 _ =
            some (String.ofList digits) := slice?_behind ['0', 'X'] String.toList_ofList rfl
        exact ⟨digits, .inr rfl, by rw [cut]; rfl⟩
  · next unmarked =>
      rw [not_or] at unmarked
      refine .inr ⟨fun digits => ⟨?_, ?_⟩, rfl⟩
      · exact fun same => unmarked.1 (lower.2 ⟨digits, same⟩)
      · exact fun same => unmarked.2 (upper.2 ⟨digits, same⟩)

/-- No literal is cut outside its text or inside a character. -/
theorem integerLiteralSliced?_eq (text : String) :
    integerLiteralSliced? text = some (integerLiteral? text) := by
  rw [integerLiteralSliced?, signSliced?_eq]
  unfold integerLiteral?
  rcases Numeral.sign text.toList with ⟨negative, body⟩
  dsimp only [Option.bind_eq_bind, Option.bind_some]
  rcases radixSliced?_cases body with ⟨digits, marked, cut⟩ | ⟨unmarked, cut⟩
  · rw [cut, Option.bind_some, String.toList_ofList]
    rcases marked with rfl | rfl
    · rfl
    · rfl
  · rw [cut, Option.bind_some, String.toList_ofList]
    split
    · exact absurd rfl (unmarked _).1
    · exact absurd rfl (unmarked _).2
    · rfl

/-! ## Tokens -/

/-- A scan of a line: the offset and the column where the token under way began, and all tokens that
have ended. -/
structure LineScan where
  begun : Option (Nat × Nat)
  tokens : Array Token

namespace LineScan

/-- Reads the character at a column and an offset; a separator cuts the token under way out of the
line. -/
def read (code : String) (line column offset : Nat) (c : Char) (scan : LineScan) :
    Option LineScan :=
  match isSeparator c, scan.begun with
  | false, none => some ⟨some (offset, column), scan.tokens⟩
  | true, some (start, first) =>
    (slice? code start offset).map fun text =>
      ⟨none, scan.tokens.push ⟨text, line, first, scan.tokens.size⟩⟩
  | _, _ => some scan

/-- Reads the characters from a column and an offset on, and a blank behind the last one. -/
def readFrom (code : String) (line : Nat) : Nat → Nat → List Char → LineScan → Option LineScan
  | column, _, [], scan => scan.read code line column code.utf8ByteSize ' '
  | column, offset, c :: rest, scan =>
    (scan.read code line column offset c).bind
      (readFrom code line (column + 1) (offset + c.utf8Size) rest)

end LineScan

/-- The code of a line, without the comment. -/
def codeOf (line : List Char) : List Char := line.takeWhile (· ≠ ';')

/-- Appends the tokens of a line. -/
def tokenizeLine? (line : Nat) (text : List Char) (tokens : Array Token) :
    Option (Array Token) :=
  (LineScan.readFrom (String.ofList (codeOf text)) line 1 0 (codeOf text) ⟨none, tokens⟩).map
    LineScan.tokens

/-- A line that is spelled backwards, without the carriage return at its end. -/
def endedLine : List Char → List Char
  | '\r' :: line => line.reverse
  | line => line.reverse

/-- The lines of a text, given the line under way, spelled backwards. -/
def linesFrom (line : List Char) : List Char → List (List Char)
  | [] => if line.isEmpty then [] else [line.reverse]
  | '\n' :: rest => endedLine line :: linesFrom [] rest
  | c :: rest => linesFrom (c :: line) rest

/-- Appends the tokens of lines that are numbered from a number on. -/
def tokenizeLines? : Nat → List (List Char) → Array Token → Option (Array Token)
  | _, [], tokens => some tokens
  | line, text :: rest, tokens =>
    (tokenizeLine? line text tokens).bind (tokenizeLines? (line + 1) rest)

/-- The tokens of a source text, where the lines are cut by the offsets of their bytes. -/
def tokenizeSliced? (source : String) : Option (Array Token) :=
  tokenizeLines? 1 (linesFrom [] source.toList) #[]

namespace LineScan

/-- A scanner in a line of code and a scan by offsets that have read the same characters. -/
inductive Agrees (line column : Nat) (front : List Char) : Scanner → LineScan → Prop
  | between {start : Nat} {tokens : Array Token} :
    Agrees line column front ⟨line, column, false, [], start, tokens⟩ ⟨none, tokens⟩
  | within {start : Nat} {tokens : Array Token} {before word : List Char}
    (split : front = before ++ word.reverse) (nonempty : word ≠ []) :
    Agrees line column front ⟨line, column, false, word, start, tokens⟩
      ⟨some ((String.ofList before).utf8ByteSize, start), tokens⟩

theorem slice?_word (before word rest : List Char) :
    slice? (String.ofList (before ++ word ++ rest)) (String.ofList before).utf8ByteSize
      (String.ofList (before ++ word)).utf8ByteSize = some (String.ofList word) := by
  have cut := slice?_append (String.ofList before) (String.ofList word) (String.ofList rest)
  rwa [← String.utf8ByteSize_append, ← String.ofList_append, ← String.ofList_append] at cut

section Agrees

variable {line column : Nat} {front : List Char} {scanner : Scanner} {scan : LineScan}

/-- At a separator the scan by offsets ends the token that the scanner has collected. -/
theorem Agrees.read_separator (agrees : Agrees line column front scanner scan) {c : Char}
    (separates : isSeparator c = true) (rest : List Char) :
    scan.read (String.ofList (front ++ rest)) line column (String.ofList front).utf8ByteSize c =
      some ⟨none, scanner.close.tokens⟩ := by
  cases agrees with
  | between =>
      rw [read, separates]
      rfl
  | within split nonempty =>
      subst split
      rw [read, separates]
      dsimp only
      rw [slice?_word, Scanner.close, if_neg (by rwa [List.isEmpty_iff])]
      rfl

theorem Agrees.feed_separator (agrees : Agrees line column front scanner scan) {c : Char}
    (separates : isSeparator c = true) (plain : c ≠ ';') (sameLine : c ≠ '\n') :
    Agrees line (column + 1) (front ++ [c]) (scanner.feed c) ⟨none, scanner.close.tokens⟩ := by
  cases agrees with
  | between =>
      rw [Scanner.feed, if_neg sameLine, if_neg Bool.false_ne_true, if_neg plain, if_pos separates]
      exact .between
  | within split nonempty =>
      rw [Scanner.feed, if_neg sameLine, if_neg Bool.false_ne_true, if_neg plain, if_pos separates,
        Scanner.close, if_neg (by rwa [List.isEmpty_iff])]
      exact .between

/-- Any other character belongs to the token under way, or begins one. -/
theorem Agrees.solid (agrees : Agrees line column front scanner scan) {c : Char}
    (solid : Scanner.Solid c) (code : String) :
    ∃ next, scan.read code line column (String.ofList front).utf8ByteSize c = some next ∧
      Agrees line (column + 1) (front ++ [c]) (scanner.feed c) next := by
  cases agrees with
  | between =>
      rw [read, solid.joins, Scanner.feed_solid rfl solid]
      exact ⟨_, rfl, .within rfl (List.cons_ne_nil c [])⟩
  | @within start tokens before word split nonempty =>
      rw [read, solid.joins, Scanner.feed_solid rfl solid]
      refine ⟨_, rfl, ?_⟩
      have extended : (Scanner.extend ⟨line, column, false, word, start, tokens⟩ c).advance =
          ⟨line, column + 1, false, c :: word, start, tokens⟩ := by
        simp [Scanner.extend, Scanner.advance, nonempty]
      rw [extended]
      exact .within (by rw [split, List.reverse_cons, List.append_assoc]) (List.cons_ne_nil c word)

/-- The scan by offsets finds in a line of code what the scanner finds. -/
theorem Agrees.readFrom {rest : List Char} (agrees : Agrees line column front scanner scan)
    (plain : ∀ c ∈ rest, c ≠ ';' ∧ c ≠ '\n') :
    LineScan.readFrom (String.ofList (front ++ rest)) line column
        (String.ofList front).utf8ByteSize rest scan =
      some ⟨none, (scanner.feedAll rest).close.tokens⟩ := by
  induction rest generalizing column front scanner scan with
  | nil =>
      have ended := agrees.read_separator (show isSeparator ' ' = true from rfl) []
      rw [List.append_nil] at ended ⊢
      exact ended
  | cons c rest ih =>
      rw [List.forall_mem_cons] at plain
      have offset : (String.ofList front).utf8ByteSize + c.utf8Size =
          (String.ofList (front ++ [c])).utf8ByteSize := by
        rw [String.ofList_append, String.utf8ByteSize_append, ← String.singleton_eq_ofList,
          String.utf8ByteSize_singleton]
      rw [LineScan.readFrom, offset, Scanner.feedAll, List.foldl_cons]
      rcases joins : isSeparator c with _ | _
      · obtain ⟨next, found, agree⟩ := agrees.solid ⟨joins, plain.1.1⟩
          (String.ofList (front ++ c :: rest))
        rw [found, Option.bind_some, List.append_cons]
        exact ih agree plain.2
      · rw [agrees.read_separator joins (c :: rest), Option.bind_some, List.append_cons]
        exact ih (agrees.feed_separator joins plain.1.1 plain.1.2) plain.2

end Agrees

end LineScan

/-! ## Lines -/

namespace Scanner

/-- A scanner at the beginning of a line. -/
structure Fresh (scanner : Scanner) (line : Nat) (tokens : Array Token) : Prop where
  line : scanner.line = line
  column : scanner.column = 1
  idle : scanner.Idle
  tokens : scanner.tokens = tokens

theorem Fresh.agrees {scanner : Scanner} {line : Nat} {tokens : Array Token}
    (fresh : scanner.Fresh line tokens) : LineScan.Agrees line 1 [] scanner ⟨none, tokens⟩ := by
  rcases scanner with ⟨number, column, comment, word, start, found⟩
  obtain ⟨rfl, rfl, ⟨rfl, rfl⟩, rfl⟩ := fresh
  exact .between

theorem tokens_close_of_closed {scanner : Scanner} (closed : scanner.word = []) :
    scanner.close.tokens = scanner.tokens := by
  rcases scanner with ⟨line, column, comment, word, start, tokens⟩
  cases closed
  rfl

/-- Nothing is found in a comment. -/
theorem feedAll_comment {scanner : Scanner} (commented : scanner.comment = true) {text : List Char}
    (sameLine : '\n' ∉ text) :
    (scanner.feedAll text).word = scanner.word ∧
      (scanner.feedAll text).tokens = scanner.tokens := by
  induction text generalizing scanner with
  | nil => exact ⟨rfl, rfl⟩
  | cons c text ih =>
      rw [List.mem_cons, not_or] at sameLine
      have read : scanner.feed c = scanner.advance := by
        rw [feed, if_neg (Ne.symm sameLine.1), if_pos commented]
      rw [feedAll, List.foldl_cons, read]
      exact @ih scanner.advance commented sameLine.2

theorem comment_feed {scanner : Scanner} (code : scanner.comment = false) {c : Char}
    (plain : c ≠ ';') : (scanner.feed c).comment = false := by
  by_cases newline : c = '\n'
  · rw [feed, if_pos newline]
    rfl
  · rw [feed, if_neg newline, if_neg (by rw [code]; exact Bool.false_ne_true), if_neg plain]
    split
    · exact (comment_close scanner).trans code
    · exact code

theorem comment_feedAll {scanner : Scanner} (code : scanner.comment = false) {text : List Char}
    (plain : ∀ c ∈ text, c ≠ ';') : (scanner.feedAll text).comment = false := by
  induction text generalizing scanner with
  | nil => exact code
  | cons c text ih =>
      rw [List.forall_mem_cons] at plain
      exact ih (comment_feed code plain.1) plain.2

end Scanner

theorem ne_of_mem_codeOf {line : List Char} {c : Char} (listed : c ∈ codeOf line) : c ≠ ';' :=
  of_decide_eq_true (List.mem_takeWhile_imp (p := fun c => decide (c ≠ ';')) listed)

/-- A line is its code, or its code and a comment. -/
theorem eq_codeOf_or (line : List Char) :
    line = codeOf line ∨ ∃ comment, line = codeOf line ++ ';' :: comment := by
  induction line with
  | nil => exact .inl rfl
  | cons c line ih =>
      by_cases semicolon : c = ';'
      · subst semicolon
        exact .inr ⟨line, rfl⟩
      · have kept : codeOf (c :: line) = c :: codeOf line :=
          List.takeWhile_cons_of_pos (decide_eq_true semicolon)
        rw [kept]
        rcases ih with same | ⟨comment, split⟩
        · exact .inl (congrArg (c :: ·) same)
        · exact .inr ⟨comment, congrArg (c :: ·) split⟩

namespace Scanner

/-- A line is read like its code: the comment adds nothing. -/
theorem tokens_feedAll_codeOf {scanner : Scanner} (code : scanner.comment = false)
    {line : List Char} (sameLine : '\n' ∉ line) :
    (scanner.feedAll line).close.tokens = (scanner.feedAll (codeOf line)).close.tokens := by
  rcases eq_codeOf_or line with same | ⟨comment, split⟩
  · rw [← same]
  · have inside : '\n' ∉ comment := fun listed => sameLine (by
      rw [split]
      exact List.mem_append_right _ (List.mem_cons_of_mem _ listed))
    have before := comment_feedAll code fun c => @ne_of_mem_codeOf line c
    have opened : (scanner.feedAll (codeOf line)).feed ';' =
        { (scanner.feedAll (codeOf line)).close.advance with comment := true } := by
      rw [feed, if_neg (by decide), if_neg (by rw [before]; exact Bool.false_ne_true), if_pos rfl]
    obtain ⟨closed, found⟩ := @feedAll_comment
      { (scanner.feedAll (codeOf line)).close.advance with comment := true } rfl comment inside
    have all : scanner.feedAll line =
        ((scanner.feedAll (codeOf line)).feed ';').feedAll comment := by
      conv_lhs => rw [split, feedAll_append]
      rfl
    rw [all, opened, tokens_close_of_closed (closed.trans word_close), found]
    rfl

/-- A carriage return at the end of a line adds nothing. -/
theorem tokens_feedAll_return (scanner : Scanner) (line : List Char) :
    (scanner.feedAll (line ++ ['\r'])).close.tokens = (scanner.feedAll line).close.tokens := by
  rw [feedAll_append]
  generalize scanner.feedAll line = read
  have advanced : read.advance.close.tokens = read.close.tokens := by
    rcases read with ⟨number, column, comment, word, start, tokens⟩
    cases word <;> rfl
  rw [feedAll, List.foldl_cons, List.foldl_nil, feed, if_neg (by decide)]
  split
  · exact advanced
  · rw [if_neg (by decide), if_pos (by decide)]
    exact tokens_close_of_closed word_close

end Scanner

/-- A line has the tokens that the scanner finds in it. -/
theorem tokenizeLine?_eq {scanner : Scanner} {number : Nat} {tokens : Array Token}
    (fresh : scanner.Fresh number tokens) {line : List Char} (sameLine : '\n' ∉ line) :
    tokenizeLine? number line tokens = some (scanner.feedAll line).close.tokens := by
  have plain : ∀ c ∈ codeOf line, c ≠ ';' ∧ c ≠ '\n' := fun c listed =>
    ⟨ne_of_mem_codeOf listed, fun same =>
      sameLine (same ▸ (List.takeWhile_prefix _).subset listed)⟩
  have read := fresh.agrees.readFrom plain
  rw [tokenizeLine?, Scanner.tokens_feedAll_codeOf fresh.idle.code sameLine]
  exact congrArg (Option.map LineScan.tokens) read

theorem endedLine_cases (line : List Char) :
    endedLine line = line.reverse ∨ line.reverse = endedLine line ++ ['\r'] := by
  unfold endedLine
  split
  · exact .inr (List.reverse_cons ..)
  · exact .inl rfl

/-- A line that is ended has the tokens that the scanner finds in it, and the scanner goes on at the
beginning of the next line. -/
theorem Scanner.Fresh.ended {scanner : Scanner} {number : Nat} {tokens : Array Token}
    (fresh : scanner.Fresh number tokens) {line : List Char} (sameLine : '\n' ∉ line) :
    ∃ found, tokenizeLine? number (endedLine line) tokens = some found ∧
      ((scanner.feedAll line.reverse).feed '\n').Fresh (number + 1) found := by
  have within : '\n' ∉ line.reverse := fun listed => sameLine (List.mem_reverse.1 listed)
  refine ⟨(scanner.feedAll line.reverse).close.tokens, ?_, ?_⟩
  · rcases endedLine_cases line with same | split
    · rw [same]
      exact tokenizeLine?_eq fresh within
    · rw [split, List.mem_append, not_or] at within
      rw [split, Scanner.tokens_feedAll_return]
      exact tokenizeLine?_eq fresh within.1
  · rw [Scanner.feed, if_pos rfl]
    refine ⟨?_, rfl, ⟨rfl, Scanner.word_close⟩, rfl⟩
    refine congrArg (· + 1) ((Scanner.line_close _).trans ?_)
    rw [Scanner.line_feedAll, List.count_eq_zero.2 within, fresh.line, Nat.add_zero]

/-- The lines of a text have the tokens that the scanner finds in the text. -/
theorem tokenizeLines?_eq {scanner : Scanner} {number : Nat} {tokens : Array Token}
    (fresh : scanner.Fresh number tokens) (rest : List Char) {line : List Char}
    (sameLine : '\n' ∉ line) :
    tokenizeLines? number (linesFrom line rest) tokens =
      some (scanner.feedAll (line.reverse ++ rest)).close.tokens := by
  induction rest generalizing scanner number tokens line with
  | nil =>
      rw [List.append_nil, linesFrom]
      split
      · next empty =>
          rw [List.isEmpty_iff] at empty
          subst empty
          rw [tokenizeLines?, ← fresh.tokens]
          exact congrArg some (Scanner.tokens_close_of_closed fresh.idle.closed).symm
      · have within : '\n' ∉ line.reverse := fun listed => sameLine (List.mem_reverse.1 listed)
        rw [tokenizeLines?, tokenizeLine?_eq fresh within]
        rfl
  | cons c rest ih =>
      by_cases newline : c = '\n'
      · subst newline
        obtain ⟨found, read, next⟩ := fresh.ended sameLine
        rw [linesFrom, tokenizeLines?, read, Option.bind_some, Scanner.feedAll_append,
          ih next List.not_mem_nil]
        rfl
      · rw [linesFrom, ih fresh (List.not_mem_cons_of_ne_of_not_mem (Ne.symm newline) sameLine),
          List.reverse_cons, List.append_assoc]
        · rfl
        · exact newline

/-- No line is cut outside itself or inside a character. -/
theorem tokenizeSliced?_eq (source : String) :
    tokenizeSliced? source = some (tokenize source) :=
  tokenizeLines?_eq ⟨rfl, rfl, Scanner.idle_start, rfl⟩ source.toList List.not_mem_nil

end TwoStack
