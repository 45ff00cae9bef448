import Mathlib.Tactic.Common
import TwoStack.Source.Token

/-!
# Scanning

The tokens of a text are numbered in the order in which they stand there: the token with index `i`
is the `i`-th (`tokenize_indexed`), and it stands before every later one by line and column
(`tokenize_before`).  Both come from one invariant of the scanner, `Scanner.Ordered`.

A word with a separator after it is one token, whatever is around it (`Scanner.Idle.word`).
-/

namespace TwoStack

/-! ## Places -/

/-- A location that lies before a line and column. -/
def Location.Above (location : Location) (line column : Nat) : Prop :=
  location.line < line ∨ location.line = line ∧ location.column < column

theorem Location.Above.before {a b : Location} (above : a.Above b.line b.column) :
    a.before b = true := by
  rcases above with earlier | ⟨level, left⟩
  · simp [Location.before, earlier]
  · simp [Location.before, level, left]

theorem Location.Above.advance {location : Location} {line column : Nat}
    (above : location.Above line column) : location.Above line (column + 1) := by
  rcases above with earlier | ⟨level, left⟩
  · exact .inl earlier
  · exact .inr ⟨level, Nat.lt_succ_of_lt left⟩

namespace Scanner

/-- What holds of a scan at any time: the tokens are numbered in order and stand one before the
other, and all of them stand before the token that has begun and before the next character. -/
structure Ordered (scanner : Scanner) : Prop where
  indexed : ∀ (i : Nat) (token : Token), scanner.tokens[i]? = some token → token.location.index = i
  apart : scanner.tokens.toList.Pairwise fun a b =>
    a.location.Above b.location.line b.location.column
  above : ∀ token ∈ scanner.tokens, token.location.Above scanner.line scanner.column
  begun : scanner.word ≠ [] → scanner.start < scanner.column ∧
    ∀ token ∈ scanner.tokens, token.location.Above scanner.line scanner.start

theorem ordered_start : Ordered {} :=
  ⟨nofun, .nil, nofun, nofun⟩

section Step

variable {scanner : Scanner}

theorem Ordered.close (ordered : scanner.Ordered) : scanner.close.Ordered := by
  rcases scanner with ⟨line, column, comment, word, start, tokens⟩
  obtain ⟨indexed, apart, above, begun⟩ := ordered
  dsimp only at indexed apart above begun
  cases word with
  | nil => exact ⟨indexed, apart, above, nofun⟩
  | cons c word =>
      obtain ⟨left, right⟩ := begun (List.cons_ne_nil c word)
      refine ⟨?_, ?_, ?_, nofun⟩
      · intro i token found
        simp only [Scanner.close, List.isEmpty_cons, Bool.false_eq_true, if_false,
          Array.getElem?_push] at found
        split at found
        · next last =>
            cases found
            exact last.symm
        · exact indexed i token found
      · simp only [Scanner.close, List.isEmpty_cons, Bool.false_eq_true, if_false,
          Array.toList_push, List.pairwise_append]
        refine ⟨apart, List.pairwise_singleton _ _, ?_⟩
        intro token listed last single
        rw [List.mem_singleton] at single
        subst single
        exact right token (Array.mem_toList_iff.1 listed)
      · intro token listed
        simp only [Scanner.close, List.isEmpty_cons, Bool.false_eq_true, if_false,
          Array.mem_push] at listed
        rcases listed with listed | rfl
        · exact above token listed
        · exact .inr ⟨rfl, left⟩

theorem word_close : scanner.close.word = [] := by
  rcases scanner with ⟨line, column, comment, word, start, tokens⟩
  cases word <;> rfl

theorem Ordered.advance (ordered : scanner.Ordered) : scanner.advance.Ordered := by
  obtain ⟨indexed, apart, above, begun⟩ := ordered
  refine ⟨indexed, apart, fun token listed => (above token listed).advance, ?_⟩
  intro opened
  obtain ⟨left, right⟩ := begun opened
  exact ⟨Nat.lt_succ_of_lt left, right⟩

theorem Ordered.nextLine (ordered : scanner.Ordered) (closed : scanner.word = []) :
    scanner.nextLine.Ordered := by
  obtain ⟨indexed, apart, above, begun⟩ := ordered
  refine ⟨indexed, apart, ?_, fun opened => absurd closed opened⟩
  intro token listed
  rcases above token listed with earlier | ⟨level, left⟩
  · exact .inl (Nat.lt_succ_of_lt earlier)
  · exact .inl (Nat.lt_succ_of_le (Nat.le_of_eq level))

theorem Ordered.extend (ordered : scanner.Ordered) (c : Char) :
    (scanner.extend c).advance.Ordered := by
  rcases scanner with ⟨line, column, comment, word, start, tokens⟩
  obtain ⟨indexed, apart, above, begun⟩ := ordered
  refine ⟨indexed, apart, fun token listed => (above token listed).advance, fun _ => ?_⟩
  cases word with
  | nil => exact ⟨Nat.lt_succ_self column, above⟩
  | cons d word =>
      obtain ⟨left, right⟩ := begun (List.cons_ne_nil d word)
      exact ⟨Nat.lt_succ_of_lt left, right⟩

/-- Reading a character keeps the order. -/
theorem Ordered.feed (ordered : scanner.Ordered) (c : Char) : (scanner.feed c).Ordered := by
  unfold Scanner.feed
  split
  · exact ordered.close.nextLine word_close
  · split
    · exact ordered.advance
    · split
      · obtain ⟨indexed, apart, above, begun⟩ := ordered.close.advance
        exact ⟨indexed, apart, above, begun⟩
      · split
        · exact ordered.close.advance
        · exact ordered.extend c

theorem Ordered.feedAll (ordered : scanner.Ordered) (text : List Char) :
    (scanner.feedAll text).Ordered := by
  induction text generalizing scanner with
  | nil => exact ordered
  | cons c text ih => exact ih (ordered.feed c)

end Step

end Scanner

theorem Scanner.ordered_tokenize (source : String) :
    ((Scanner.feedAll {} source.toList).close).Ordered :=
  (Scanner.ordered_start.feedAll source.toList).close

/-- The index of a token is its place among the tokens. -/
theorem tokenize_indexed {source : String} {i : Nat} {token : Token}
    (found : (tokenize source)[i]? = some token) : token.location.index = i :=
  (Scanner.ordered_tokenize source).indexed i token found

/-- The tokens stand one before the other. -/
theorem tokenize_before {source : String} {i j : Nat} {a b : Token}
    (first : (tokenize source)[i]? = some a) (second : (tokenize source)[j]? = some b)
    (order : i < j) : a.location.before b.location = true := by
  have apart := (Scanner.ordered_tokenize source).apart
  rw [List.pairwise_iff_getElem] at apart
  obtain ⟨_, rfl⟩ := Array.getElem?_eq_some_iff.1 first
  obtain ⟨_, rfl⟩ := Array.getElem?_eq_some_iff.1 second
  exact (apart i j (by simpa) (by simpa) order).before

/-- A token is found at its index. -/
theorem tokenize_getElem? {source : String} {token : Token} (listed : token ∈ tokenize source) :
    (tokenize source)[token.location.index]? = some token := by
  obtain ⟨i, inside, rfl⟩ := Array.mem_iff_getElem.1 listed
  have found := Array.getElem?_eq_getElem inside
  rw [tokenize_indexed found, found]

/-! ## Words -/

namespace Scanner

/-- The texts of the tokens found so far. -/
def texts (scanner : Scanner) : List String := scanner.tokens.toList.map Token.text

/-- A scan that is neither in a token nor in a comment. -/
structure Idle (scanner : Scanner) : Prop where
  code : scanner.comment = false
  closed : scanner.word = []

theorem idle_start : Idle {} := ⟨rfl, rfl⟩

/-- A character of a token: neither a separator nor the start of a comment. -/
structure Solid (c : Char) : Prop where
  joins : isSeparator c = false
  plain : c ≠ ';'

theorem feed_solid {scanner : Scanner} (code : scanner.comment = false) {c : Char}
    (solid : Solid c) : scanner.feed c = (scanner.extend c).advance := by
  have sameLine : c ≠ '\n' := by
    rintro rfl
    exact absurd solid.joins (by decide)
  simp [feed, sameLine, code, solid.plain, solid.joins]

theorem feedAll_solid {scanner : Scanner} (code : scanner.comment = false) {word : List Char}
    (solid : ∀ c ∈ word, Solid c) :
    (scanner.feedAll word).comment = false ∧
      (scanner.feedAll word).word = word.reverse ++ scanner.word ∧
      (scanner.feedAll word).tokens = scanner.tokens := by
  induction word generalizing scanner with
  | nil => exact ⟨code, rfl, rfl⟩
  | cons c word ih =>
      rw [List.forall_mem_cons] at solid
      have read := feed_solid code solid.1
      obtain ⟨later, begun, found⟩ := @ih (scanner.feed c) (by rw [read]; exact code) solid.2
      refine ⟨later, ?_, ?_⟩
      · refine begun.trans ?_
        rw [read, List.reverse_cons, List.append_assoc]
        rfl
      · refine found.trans ?_
        rw [read]
        rfl

theorem texts_close (scanner : Scanner) :
    scanner.close.texts =
      if scanner.word = [] then scanner.texts
      else scanner.texts ++ [String.ofList scanner.word.reverse] := by
  rcases scanner with ⟨line, column, comment, word, start, tokens⟩
  cases word with
  | nil => rfl
  | cons c word => simp [close, texts]

theorem comment_close (scanner : Scanner) : scanner.close.comment = scanner.comment := by
  rcases scanner with ⟨line, column, comment, word, start, tokens⟩
  cases word <;> rfl

/-- A separator ends a token. -/
theorem feed_separator {scanner : Scanner} (code : scanner.comment = false) {c : Char}
    (separates : isSeparator c = true) :
    (scanner.feed c).Idle ∧ (scanner.feed c).texts = scanner.close.texts := by
  unfold feed
  split
  · exact ⟨⟨rfl, word_close⟩, rfl⟩
  · split
    · next commented => exact absurd commented (by simp [code])
    · split
      · next semicolon =>
          subst semicolon
          exact absurd separates (by decide)
      · exact ⟨⟨(comment_close scanner).trans code, word_close⟩, rfl⟩

/-- A word with a separator after it is one token. -/
theorem Idle.word {scanner : Scanner} (idle : scanner.Idle) {word : List Char}
    (nonempty : word ≠ []) (solid : ∀ c ∈ word, Solid c) {c : Char}
    (separates : isSeparator c = true) :
    (scanner.feedAll (word ++ [c])).Idle ∧
      (scanner.feedAll (word ++ [c])).texts = scanner.texts ++ [String.ofList word] := by
  obtain ⟨code, begun, found⟩ := feedAll_solid idle.code solid
  obtain ⟨next, read⟩ := feed_separator code separates
  rw [idle.closed, List.append_nil] at begun
  rw [feedAll_append]
  refine ⟨next, read.trans ?_⟩
  rw [texts_close, if_neg (by rw [begun]; simpa using nonempty), begun, List.reverse_reverse, texts,
    found, texts]

end Scanner

end TwoStack
