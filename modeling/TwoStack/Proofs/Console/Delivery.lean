import Mathlib.Data.List.Forall2
import TwoStack.Proofs.Text.Literal
import TwoStack.Proofs.Text.Utf8
import TwoStack.Proofs.Text.Words

/-!
# What a text console delivers

What a text console answers is determined by its input alone, line by line and token by token
(`AnswersInput`): a line of UTF-8 has an answer for each of its words, and any other line has one
error.  After the last of these answers the input is closed.

At any time the console owes the answers for the words that wait and for the lines that it has not
read (`Stream.due`).  A read gives the first of them and leaves the others
(`Stream.read_gives_due`), and a write leaves them all, so each answer is given once, in order, for
all requests (`Stream.delivers`).
-/

namespace TwoStack

/-! ## Lines of bytes -/

/-- The lines of an input, each with the line feed that ends it; the last one may end with the
input. -/
inductive LinesOf : List UInt8 → List (List UInt8) → Prop
  | ended : LinesOf [] []
  | last {line : List UInt8} (plain : 10 ∉ line) (nonempty : line ≠ []) : LinesOf line [line]
  | line {line rest : List UInt8} {lines : List (List UInt8)} (plain : 10 ∉ line)
    (others : LinesOf rest lines) : LinesOf (line ++ 10 :: rest) ((line ++ [10]) :: lines)

/-- The lines of an input. -/
def byteLines : List UInt8 → List (List UInt8)
  | [] => []
  | byte :: rest =>
    if byte = 10 then [10] :: byteLines rest
    else
      match byteLines rest with
      | [] => [[byte]]
      | line :: lines => (byte :: line) :: lines

theorem linesOf_byteLines (input : List UInt8) : LinesOf input (byteLines input) := by
  induction input with
  | nil => exact .ended
  | cons byte rest ih =>
      rw [byteLines]
      split
      · next lineFeed =>
          subst lineFeed
          exact .line List.not_mem_nil ih
      · next other =>
          -- the byte belongs to the first of the lines after it
          have apart {line : List UInt8} (plain : 10 ∉ line) : 10 ∉ byte :: line :=
            List.not_mem_cons_of_ne_of_not_mem (Ne.symm other) plain
          generalize byteLines rest = lines at ih
          cases ih with
          | ended => exact .last (apart nofun) (List.cons_ne_nil _ _)
          | last plain => exact .last (apart plain) (List.cons_ne_nil _ _)
          | line plain others => exact .line (apart plain) others

theorem byteLines_cut {line : List UInt8} (plain : 10 ∉ line) (rest : List UInt8) :
    byteLines (line ++ 10 :: rest) = (line ++ [10]) :: byteLines rest := by
  induction line with
  | nil => rfl
  | cons byte line ih =>
      rw [List.mem_cons, not_or] at plain
      rw [List.cons_append, byteLines, if_neg (Ne.symm plain.1), ih plain.2]
      rfl

theorem byteLines_last {line : List UInt8} (plain : 10 ∉ line) (nonempty : line ≠ []) :
    byteLines line = [line] := by
  induction line with
  | nil => exact absurd rfl nonempty
  | cons byte line ih =>
      rw [List.mem_cons, not_or] at plain
      rw [byteLines, if_neg (Ne.symm plain.1)]
      cases line with
      | nil => rfl
      | cons next line => rw [ih plain.2 (List.cons_ne_nil _ _)]

theorem byteLines_eq_iff {input : List UInt8} {lines : List (List UInt8)} :
    byteLines input = lines ↔ LinesOf input lines := by
  constructor
  · intro same
    exact same ▸ linesOf_byteLines input
  · intro cut
    induction cut with
    | ended => rfl
    | last plain nonempty => exact byteLines_last plain nonempty
    | line plain others ih => rw [byteLines_cut plain, ih]

/-- An input may be cut behind a line feed. -/
theorem byteLines_append (front back : List UInt8) :
    byteLines (front ++ 10 :: back) = byteLines (front ++ [10]) ++ byteLines back := by
  obtain ⟨lines, cut⟩ : ∃ lines, LinesOf front lines := ⟨_, linesOf_byteLines front⟩
  induction cut with
  | ended => rfl
  | last plain => rw [byteLines_cut plain, byteLines_cut plain]; rfl
  | @line line rest lines plain others ih =>
      rw [List.append_assoc, List.append_assoc, List.cons_append, List.cons_append,
        byteLines_cut plain, byteLines_cut plain, ih]
      rfl

/-! ## Answers -/

/-- The answer for a token. -/
inductive AnswersToken (token : String) : Except ConsoleError Word → Prop
  | word {word : Word} (numeral : DecimalWord token word) : AnswersToken token (.ok word)
  | malformed (other : ∀ word, ¬DecimalWord token word) :
    AnswersToken token (.error (.malformed token))

/-- The answers for a line: one for each word if it is the encoding of a text, or else one error. -/
inductive AnswersLine (line : List UInt8) : List (Except ConsoleError Word) → Prop
  | text {text : String} {tokens : List String} {answers : List (Except ConsoleError Word)}
    (encoded : line = utf8Bytes text.toList) (runs : WordsOf text.toList tokens)
    (answered : List.Forall₂ AnswersToken tokens answers) : AnswersLine line answers
  | dropped (other : ∀ text : String, line ≠ utf8Bytes text.toList) :
    AnswersLine line [.error .undecodable]

/-- The answers for an input are those for its lines. -/
def AnswersInput (input : List UInt8) (answers : List (Except ConsoleError Word)) : Prop :=
  ∃ lines answered, LinesOf input lines ∧ List.Forall₂ AnswersLine lines answered ∧
    answers = answered.flatten

/-- Reads a token as a machine word. -/
def tokenAnswer (token : String) : Except ConsoleError Word :=
  match Word.ofText? token with
  | none => .error (.malformed token)
  | some word => .ok word

/-- Reads a line as machine words. -/
def lineAnswers (line : List UInt8) : List (Except ConsoleError Word) :=
  match Stream.decodeLine? line with
  | none => [.error .undecodable]
  | some text => (words text).map tokenAnswer

/-- Reads an input as machine words. -/
def inputAnswers (input : List UInt8) : List (Except ConsoleError Word) :=
  (byteLines input).flatMap lineAnswers

theorem answersToken_iff (token : String) (answer : Except ConsoleError Word) :
    AnswersToken token answer ↔ tokenAnswer token = answer := by
  unfold tokenAnswer
  rcases read : Word.ofText? token with _ | word
  · have other (word : Word) : ¬DecimalWord token word := by
      rw [← Word.ofText?_eq_some_iff, read]
      nofun
    constructor
    · intro answered
      cases answered with
      | word numeral => exact absurd numeral (other _)
      | malformed => rfl
    · intro same
      subst same
      exact .malformed other
  · have numeral := Word.ofText?_eq_some_iff.1 read
    constructor
    · intro answered
      cases answered with
      | word again =>
          rw [← Word.ofText?_eq_some_iff, read] at again
          cases again
          rfl
      | malformed other => exact absurd numeral (other word)
    · intro same
      subst same
      exact .word numeral

/-- A relation that is a function relates lists as the function maps them. -/
theorem forall₂_iff_map {α β : Type} {related : α → β → Prop} {f : α → β}
    (function : ∀ a b, related a b ↔ f a = b) {as : List α} {bs : List β} :
    List.Forall₂ related as bs ↔ as.map f = bs := by
  constructor
  · intro all
    induction all with
    | nil => rfl
    | cons first _ ih => rw [List.map_cons, (function _ _).1 first, ih]
  · intro same
    subst same
    exact List.forall₂_map_right_iff.2 (List.forall₂_same.2 fun a _ => (function a _).2 rfl)

theorem answersLine_iff (line : List UInt8) (answers : List (Except ConsoleError Word)) :
    AnswersLine line answers ↔ lineAnswers line = answers := by
  unfold lineAnswers
  rcases decoded : Stream.decodeLine? line with _ | text
  · have other (text : String) : line ≠ utf8Bytes text.toList := by
      rw [ne_eq, ← Stream.decodeLine?_eq_some_iff, decoded]
      nofun
    constructor
    · intro answered
      cases answered with
      | text encoded => exact absurd encoded (other _)
      | dropped => rfl
    · intro same
      subst same
      exact .dropped other
  · have encoded := Stream.decodeLine?_eq_some_iff.1 decoded
    constructor
    · intro answered
      cases answered with
      | text again runs answered =>
          rw [← Stream.decodeLine?_eq_some_iff, decoded] at again
          cases again
          dsimp only
          rw [words_eq_iff.2 runs]
          exact (forall₂_iff_map answersToken_iff).1 answered
      | dropped other => exact absurd encoded (other text)
    · intro same
      subst same
      have runs : WordsOf text.toList (words text) := words_eq_iff.1 rfl
      exact .text encoded runs ((forall₂_iff_map answersToken_iff).2 rfl)

theorem answersInput_iff {input : List UInt8} {answers : List (Except ConsoleError Word)} :
    AnswersInput input answers ↔ inputAnswers input = answers := by
  constructor
  · intro ⟨lines, answered, cut, all, same⟩
    rw [inputAnswers, byteLines_eq_iff.2 cut, List.flatMap_def,
      (forall₂_iff_map answersLine_iff).1 all, same]
  · intro same
    exact ⟨_, _, linesOf_byteLines input, (forall₂_iff_map answersLine_iff).2 rfl, same.symm⟩

/-! ## Inputs in parts -/

theorem inputAnswers_cut {line : List UInt8} (plain : 10 ∉ line) (rest : List UInt8) :
    inputAnswers (line ++ 10 :: rest) = lineAnswers (line ++ [10]) ++ inputAnswers rest := by
  rw [inputAnswers, byteLines_cut plain, List.flatMap_cons, inputAnswers]

theorem inputAnswers_last {line : List UInt8} (plain : 10 ∉ line) (nonempty : line ≠ []) :
    inputAnswers line = lineAnswers line := by
  rw [inputAnswers, byteLines_last plain nonempty, List.flatMap_singleton]

/-- Lines have their answers independently of the lines before them. -/
theorem inputAnswers_append (front back : List UInt8) :
    inputAnswers (front ++ 10 :: back) = inputAnswers (front ++ [10]) ++ inputAnswers back := by
  rw [inputAnswers, byteLines_append, List.flatMap_append, inputAnswers, inputAnswers]

theorem lineAnswers_utf8Bytes (line : List Char) :
    lineAnswers (utf8Bytes line) = (words (String.ofList line)).map tokenAnswer := by
  rw [lineAnswers, Stream.decodeLine?_utf8Bytes]

/-- The tokens of a text are its words, however it is laid out in lines. -/
theorem inputAnswers_utf8Bytes (text : List Char) :
    inputAnswers (utf8Bytes text) = (words (String.ofList text)).map tokenAnswer := by
  induction text using lines_induction with
  | last line plain =>
      cases line with
      | nil => rfl
      | cons c line =>
          have nonempty : utf8Bytes (c :: line) ≠ [] := utf8Bytes_ne_nil (List.cons_ne_nil _ _)
          rw [inputAnswers_last (not_mem_utf8Bytes plain) nonempty, lineAnswers_utf8Bytes]
  | line line rest plain ih =>
      have bytes : utf8Bytes (line ++ '\n' :: rest) = utf8Bytes line ++ 10 :: utf8Bytes rest :=
        utf8Bytes_append line ('\n' :: rest)
      have start : utf8Bytes line ++ [10] = utf8Bytes (line ++ ['\n']) :=
        (utf8Bytes_append line ['\n']).symm
      have cut : words (String.ofList (line ++ '\n' :: rest)) = _ := words_cut (by decide) line rest
      rw [bytes, inputAnswers_cut (not_mem_utf8Bytes plain), start, lineAnswers_utf8Bytes, ih, cut,
        List.map_append]

/-! ## Requests -/

/-- What a console is asked. -/
inductive ConsoleRequest where
  | read
  | write (word : Word)
  deriving DecidableEq, Repr

/-- The answers to the reads among some requests. -/
def Console.answers {σ : Type} [Console σ] :
    σ → List ConsoleRequest → List (Except ConsoleError Word)
  | _, [] => []
  | console, .read :: requests =>
    (Console.read console).1 :: Console.answers (Console.read console).2 requests
  | console, .write word :: requests => Console.answers (Console.write console word).2 requests

namespace Stream

/-- The answers that a console owes: for the words that wait and for the input not yet read. -/
def due (stream : Stream) : List (Except ConsoleError Word) :=
  stream.pending.map tokenAnswer ++ inputAnswers stream.unread

/-- Taking a token takes the first of the answers that are due, and leaves the others. -/
structure Takes (taken : Except ConsoleError String × List String × List UInt8)
    (due : List (Except ConsoleError Word)) : Prop where
  first : taken.1.bind tokenAnswer = due.headD (.error .closed)
  others : taken.2.1.map tokenAnswer ++ inputAnswers taken.2.2 = due.tail

theorem takes_pending {unread : List UInt8}
    (takes : Takes (nextToken [] unread) (inputAnswers unread)) (pending : List String) :
    Takes (nextToken pending unread) (pending.map tokenAnswer ++ inputAnswers unread) := by
  cases pending with
  | nil => exact takes
  | cons token pending =>
      rw [nextToken]
      exact ⟨rfl, rfl⟩

/-- A line is read when no word waits; if there is none in it, the next line is. -/
theorem takes_line {unread line rest : List UInt8} (more : unread ≠ [])
    (split : splitLine unread = (line, rest))
    (takes : Takes (nextToken [] rest) (inputAnswers rest)) :
    Takes (nextToken [] unread) (lineAnswers line ++ inputAnswers rest) := by
  rw [nextToken, dif_neg more]
  dsimp only
  rw [split, lineAnswers]
  rcases decodeLine? line with _ | text
  · exact ⟨rfl, rfl⟩
  · exact takes_pending takes _

theorem takes_nextToken (unread : List UInt8) :
    Takes (nextToken [] unread) (inputAnswers unread) := by
  have ended : Takes (nextToken [] []) (inputAnswers []) := by
    rw [nextToken]
    exact ⟨rfl, rfl⟩
  obtain ⟨lines, cut⟩ : ∃ lines, LinesOf unread lines := ⟨_, linesOf_byteLines unread⟩
  induction cut with
  | ended => exact ended
  | last plain nonempty =>
      have takes := takes_line nonempty (splitLine_last plain) ended
      rw [inputAnswers_last plain nonempty]
      rwa [show inputAnswers [] = [] from rfl, List.append_nil] at takes
  | @line line rest lines plain others ih =>
      rw [inputAnswers_cut plain]
      exact takes_line (List.append_ne_nil_of_right_ne_nil _ (List.cons_ne_nil _ _))
        (splitLine_cut plain rest) ih

/-! ## Steps and runs -/

/-- A read gives the first answer that is due, or that the input is closed. -/
theorem read_gives_due (stream : Stream) :
    (Console.read stream).1 = stream.due.headD (.error .closed) ∧
      (Console.read stream).2.due = stream.due.tail := by
  have takes := takes_pending (takes_nextToken stream.unread) stream.pending
  show (read stream).1 = _ ∧ (read stream).2.due = _
  unfold read
  generalize nextToken stream.pending stream.unread = taken at takes
  obtain ⟨token, pending, unread⟩ := taken
  refine ⟨Eq.trans ?_ takes.first, takes.others⟩
  cases token with
  | error cause => rfl
  | ok token => rfl

theorem due_write (stream : Stream) (word : Word) :
    (Console.write stream word).2.due = stream.due := rfl

/-- All reads together are given the answers that are due, in order. -/
theorem answers_eq_due (stream : Stream) (requests : List ConsoleRequest) :
    Console.answers stream requests = (List.range (requests.count .read)).map fun i =>
      stream.due[i]?.getD (.error .closed) := by
  induction requests generalizing stream with
  | nil => rfl
  | cons request requests ih =>
      cases request with
      | read =>
          obtain ⟨first, others⟩ := stream.read_gives_due
          rw [Console.answers, ih, first, others, List.count_cons_self, List.range_succ_eq_map,
            List.map_cons, List.map_map]
          rcases stream.due with _ | ⟨answer, due⟩
          · rfl
          · rfl
      | write word =>
          have other : ConsoleRequest.write word ≠ .read := nofun
          rw [Console.answers, ih, due_write, List.count_cons_of_ne other]

/-- What a text console delivers for an input. -/
structure Delivers (input : List UInt8) : Prop where
  /-- The answers for the input are determined by its lines and their tokens. -/
  answers : ∀ answers, AnswersInput input answers ↔ inputAnswers input = answers
  /-- The reads among any requests are given these answers, each once and in order, and from then on
  the input is closed. -/
  reads : ∀ sink requests, Console.answers (ofInput input sink) requests =
    (List.range (requests.count .read)).map fun i =>
      (inputAnswers input)[i]?.getD (.error .closed)
  /-- If the input is a text, there is one answer for each word of the whole text. -/
  text : ∀ text tokens, input = utf8Bytes text → WordsOf text tokens →
    List.Forall₂ AnswersToken tokens (inputAnswers input)
  /-- What comes after a line has its answers whatever the lines before are like. -/
  undisturbed : ∀ front back, input = front ++ 10 :: back →
    inputAnswers input = inputAnswers (front ++ [10]) ++ inputAnswers back

theorem delivers (input : List UInt8) : Delivers input where
  answers _ := answersInput_iff
  reads sink requests := answers_eq_due (ofInput input sink) requests
  text := by
    intro text tokens encoded runs
    rw [forall₂_iff_map answersToken_iff, encoded, inputAnswers_utf8Bytes, runs.words_eq]
  undisturbed := by
    intro front back split
    rw [split]
    exact inputAnswers_append front back

/-- A malformed token, a line that is not UTF-8, a blank line, and a last line without an end. -/
example : inputAnswers [53, 32, 120, 10, 255, 32, 55, 10, 32, 10, 55] =
    [.ok 5, .error (.malformed "x"), .error .undecodable, .ok 7] := by
  decide +kernel

end Stream

end TwoStack
