import TwoStack.Proofs.Text.Decimal
import TwoStack.Text.Blank

/-!
# Words of a text

The words of a text are its maximal runs of characters that are not blank (`words_eq_iff`).  A text
may be cut behind any blank character: its words are those of the first part and then those of the
second (`words_cut`).  So the words can be read line by line.  Machine words that are printed one to
a line are the words of that text (`words_printed`), and each of them is read back as the machine
word that was printed (`Word.ofText?_text`).
-/

namespace TwoStack

/-! ## Cutting a text -/

theorem wordsFrom_eq_append (word : List Char) (before : List String) (text : List Char) :
    wordsFrom word before text = before.reverse ++ wordsFrom word [] text := by
  induction text generalizing word before with
  | nil =>
      rw [wordsFrom, wordsFrom, closeWord, closeWord]
      split <;> simp
  | cons c rest ih =>
      rw [wordsFrom, wordsFrom]
      split
      · rw [ih, ih [] (closeWord word [])]
        rw [closeWord, closeWord]
        split <;> simp
      · exact ih _ _

/-- A blank character ends the word before it. -/
theorem wordsFrom_cut {c : Char} (blank : isBlank c = true) (word : List Char)
    (before : List String) (front back : List Char) :
    wordsFrom word before (front ++ c :: back) =
      wordsFrom word before (front ++ [c]) ++ wordsFrom [] [] back := by
  induction front generalizing word before with
  | nil =>
      rw [List.nil_append, List.nil_append, wordsFrom, wordsFrom, if_pos blank, if_pos blank,
        wordsFrom_eq_append, wordsFrom]
      rfl
  | cons d front ih =>
      rw [List.cons_append, List.cons_append, wordsFrom, wordsFrom]
      split
      · exact ih _ _
      · exact ih _ _

theorem words_cut {c : Char} (blank : isBlank c = true) (front back : List Char) :
    words (String.ofList (front ++ c :: back)) =
      words (String.ofList (front ++ [c])) ++ words (String.ofList back) := by
  simp only [words, String.toList_ofList]
  exact wordsFrom_cut blank [] [] front back

/-- Characters that are not blank belong to one word. -/
theorem wordsFrom_solid {solid : List Char} (visible : ∀ c ∈ solid, isBlank c = false)
    (word : List Char) (before : List String) (rest : List Char) :
    wordsFrom word before (solid ++ rest) = wordsFrom (solid.reverse ++ word) before rest := by
  induction solid generalizing word with
  | nil => rfl
  | cons c solid ih =>
      rw [List.forall_mem_cons] at visible
      rw [List.cons_append, wordsFrom, if_neg (by rw [visible.1]; exact Bool.false_ne_true),
        ih visible.2, List.reverse_cons, List.append_assoc]
      rfl

theorem closeWord_reverse {solid : List Char} (nonempty : solid ≠ []) :
    closeWord solid.reverse [] = [String.ofList solid] := by
  rw [closeWord, if_neg (by simpa using nonempty), List.reverse_reverse]

/-- A line with one word on it. -/
theorem words_line {solid : List Char} (visible : ∀ c ∈ solid, isBlank c = false)
    (nonempty : solid ≠ []) :
    words (String.ofList (solid ++ ['\n'])) = [String.ofList solid] := by
  rw [words, String.toList_ofList, wordsFrom_solid visible, List.append_nil, wordsFrom,
    if_pos (by decide), closeWord_reverse nonempty]
  rfl

/-! ## Runs of characters -/

/-- A text and its maximal runs of characters that are not blank, in order. -/
inductive WordsOf : List Char → List String → Prop
  | blank {text : List Char} (blank : ∀ c ∈ text, isBlank c = true) : WordsOf text []
  | word {blanks solid rest : List Char} {words : List String}
    (blank : ∀ c ∈ blanks, isBlank c = true) (visible : ∀ c ∈ solid, isBlank c = false)
    (nonempty : solid ≠ []) (ended : ∀ c, rest.head? = some c → isBlank c = true)
    (others : WordsOf rest words) :
    WordsOf (blanks ++ solid ++ rest) (String.ofList solid :: words)

theorem wordsFrom_blank {blanks : List Char} (blank : ∀ c ∈ blanks, isBlank c = true)
    (before : List String) (rest : List Char) :
    wordsFrom [] before (blanks ++ rest) = wordsFrom [] before rest := by
  induction blanks with
  | nil => rfl
  | cons c blanks ih =>
      rw [List.forall_mem_cons] at blank
      rw [List.cons_append, wordsFrom, if_pos blank.1]
      exact ih blank.2

/-- A word is closed where it ends. -/
theorem wordsFrom_ended {rest : List Char} (ended : ∀ c, rest.head? = some c → isBlank c = true)
    (word : List Char) (before : List String) :
    wordsFrom word before rest = wordsFrom [] (closeWord word before) rest := by
  cases rest with
  | nil => rfl
  | cons c rest =>
      have blank := ended c rfl
      rw [wordsFrom, wordsFrom, if_pos blank, if_pos blank]
      rfl

theorem WordsOf.words_eq {text : List Char} {found : List String} (runs : WordsOf text found) :
    words (String.ofList text) = found := by
  rw [words, String.toList_ofList]
  induction runs with
  | blank blank =>
      have all := wordsFrom_blank blank [] []
      rwa [List.append_nil] at all
  | @word blanks solid rest found blank visible nonempty ended others ih =>
      rw [List.append_assoc, wordsFrom_blank blank, wordsFrom_solid visible, List.append_nil,
        wordsFrom_ended ended, closeWord_reverse nonempty, wordsFrom_eq_append, ih]
      rfl

/-- A word at the beginning of a text. -/
theorem WordsOf.first {solid rest : List Char} {found : List String}
    (visible : ∀ c ∈ solid, isBlank c = false) (nonempty : solid ≠ [])
    (ended : ∀ c, rest.head? = some c → isBlank c = true) (others : WordsOf rest found) :
    WordsOf (solid ++ rest) (String.ofList solid :: found) := by
  have blank : ∀ c ∈ ([] : List Char), isBlank c = true := nofun
  exact .word blank visible nonempty ended others

/-- One more character in front is blank, begins a word, or belongs to the first one. -/
theorem exists_wordsOf (text : List Char) : ∃ found, WordsOf text found := by
  induction text with
  | nil => exact ⟨[], .blank nofun⟩
  | cons c text ih =>
      obtain ⟨found, runs⟩ := ih
      rcases kind : isBlank c with _ | _
      · have single : ∀ d ∈ [c], isBlank d = false := List.forall_mem_singleton.2 kind
        cases runs with
        | blank blank =>
            refine ⟨_, .first single (List.cons_ne_nil _ _) ?_ (.blank blank)⟩
            exact fun d first => blank d (List.mem_of_head? first)
        | @word blanks solid rest others blank visible nonempty ended runs =>
            cases blanks with
            | nil =>
                have longer : ∀ d ∈ c :: solid, isBlank d = false :=
                  List.forall_mem_cons.2 ⟨kind, visible⟩
                exact ⟨_, .first longer (List.cons_ne_nil _ _) ended runs⟩
            | cons d blanks =>
                refine ⟨_, .first single (List.cons_ne_nil _ _) ?_
                  (.word blank visible nonempty ended runs)⟩
                rintro e ⟨⟩
                exact blank d List.mem_cons_self
      · cases runs with
        | blank blank => exact ⟨_, .blank (List.forall_mem_cons.2 ⟨kind, blank⟩)⟩
        | @word blanks solid rest others blank visible nonempty ended runs =>
            have longer : ∀ d ∈ c :: blanks, isBlank d = true :=
              List.forall_mem_cons.2 ⟨kind, blank⟩
            exact ⟨_, .word longer visible nonempty ended runs⟩

theorem words_eq_iff {text : String} {found : List String} :
    words text = found ↔ WordsOf text.toList found := by
  constructor
  · intro same
    obtain ⟨others, runs⟩ := exists_wordsOf text.toList
    have equal := runs.words_eq
    rw [String.ofList_toList, same] at equal
    exact equal ▸ runs
  · intro runs
    rw [← runs.words_eq, String.ofList_toList]

/-! ## Printed words -/

/-- Machine words in decimal, one to a line. -/
def printed (values : List Word) : String := String.join (values.map fun value => value.text ++ "\n")

theorem isBlank_of_mem_text {value : Word} {c : Char} (listed : c ∈ value.text.toList) :
    isBlank c = false := by
  have range : 45 ≤ c.toNat ∧ c.toNat ≤ 57 := by
    rcases Word.isDigit_or_minus listed with digit | rfl
    · have range := Char.isDigit_iff_toNat.1 digit
      have least : '0'.toNat = 48 := rfl
      have most : '9'.toNat = 57 := rfl
      omega
    · decide
  have apart (n : Nat) (other : n < 45 ∨ 57 < n) : (c.toNat == n) = false := by
    rw [beq_eq_false_iff_ne]
    omega
  have outside (least most : Nat) (other : most < 45 ∨ 57 < least) :
      (decide (least ≤ c.toNat) && decide (c.toNat ≤ most)) = false := by
    rw [Bool.and_eq_false_iff, decide_eq_false_iff_not, decide_eq_false_iff_not]
    omega
  unfold isBlank
  dsimp only
  simp [apart, outside]

theorem printed_cons (value : Word) (values : List Word) :
    printed (value :: values) = value.text ++ "\n" ++ printed values := by
  rw [printed, List.map_cons, String.join_cons, printed]

/-- What is printed one to a line is one word each. -/
theorem words_printed (values : List Word) : words (printed values) = values.map Word.text := by
  induction values with
  | nil => rfl
  | cons value values ih =>
      have line : printed (value :: values) =
          String.ofList (value.text.toList ++ '\n' :: (printed values).toList) := by
        rw [printed_cons, ← String.toList_inj, String.toList_ofList, String.toList_append,
          String.toList_append, List.append_assoc]
        rfl
      rw [line, words_cut (by decide), words_line (fun c => isBlank_of_mem_text)
        value.toList_text_ne_nil, String.ofList_toList, String.ofList_toList, ih]
      rfl

end TwoStack
