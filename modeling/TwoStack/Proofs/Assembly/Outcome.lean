import Mathlib.Data.List.Induction
import TwoStack.Proofs.Assembly.Completion
import TwoStack.Proofs.Source.Reading

/-!
# The outcomes of assembly

What `assemble` answers, from what its tokens begin with.  If well-formed statements without a
repeated declaration end at a malformed statement or at a declaration of a label that has been
declared, that is the answer; if they reach the end, the answer is that of completing the build.
-/

namespace TwoStack

/-- What becomes of the statements that were read and the error that ended reading. -/
def concluded (tokens : Nat) (statements : List Statement) (stop : Option AssemblyError) :
    Except AssemblyError Assembly :=
  match Build.empty.addAll statements with
  | .error error => .error error
  | .ok build =>
    match stop with
    | some error => .error error
    | none => build.finish tokens

theorem concluded_eq_bind (tokens : Nat) (statements : List Statement)
    (stop : Option AssemblyError) :
    concluded tokens statements stop = (Build.empty.addAll statements).bind fun build =>
      stop.elim (build.finish tokens) .error := by
  rw [concluded]
  rcases Build.empty.addAll statements with error | build
  · rfl
  · cases stop <;> rfl

/-- Tokens that are a program: well-formed statements to the end, no label declared twice, every
label that is used declared, and code that fits in memory. -/
structure IsProgram (tokens : List Token) (statements : List Statement) : Prop where
  begins : Begins tokens statements []
  distinct : (labelNames statements).Nodup
  settled : Settled statements
  fits : codeSize statements ≤ memorySize

section Reading

variable {source : String} {statements : List Statement} {rest : List Token}

/-- A beginning of well-formed statements is part of what is read. -/
theorem Begins.parse_extends {tokens : List Token} (begins : Begins tokens statements rest) :
    ∃ more stop, Statement.parse tokens.toArray = ((statements ++ more).toArray, stop) := by
  obtain ⟨more, last, continues, ends⟩ := exists_begins rest
  rcases ends with rfl | ⟨error, malformed⟩
  · exact ⟨more, none, (begins.append continues).parse_eq⟩
  · exact ⟨more, some error, (begins.append continues).parse_eq_of_malformed malformed⟩

theorem assemble_of_parse {stop : Option AssemblyError}
    (parsed : Statement.parse (tokenize source) = (statements.toArray, stop)) :
    assemble source = concluded (tokenize source).size statements stop := by
  rw [assemble, parsed]
  rfl

/-- Statements without a repeated declaration can all be added. -/
theorem Build.addAll_of_distinct (distinct : (labelNames statements).Nodup)
    (small : codeSize statements < 2147483648) :
    ∃ build, Build.empty.addAll statements = .ok build ∧ build.Holds statements :=
  Build.holds_empty.addAll distinct small

theorem assemble_malformed {error : AssemblyError}
    (begins : Begins (tokenize source).toList statements rest)
    (distinct : (labelNames statements).Nodup) (small : codeSize statements < 2147483648)
    (malformed : Malformed rest error) : assemble source = .error error := by
  have parsed := begins.parse_eq_of_malformed malformed
  rw [Array.toArray_toList] at parsed
  obtain ⟨build, added, _⟩ := Build.addAll_of_distinct distinct small
  rw [assemble_of_parse parsed, concluded, added]

theorem assemble_redeclared {name : String} {first token : Token}
    (begins : Begins (tokenize source).toList statements (token :: rest))
    (distinct : (labelNames statements).Nodup) (small : codeSize statements < 2147483648)
    (declared : .label name first ∈ statements) (declares : Declares token.text name) :
    assemble source = .error ⟨.duplicateLabel name first.location, some token.location⟩ := by
  obtain ⟨more, stop, parsed⟩ := (begins.append (.label declares (.done rest))).parse_extends
  rw [Array.toArray_toList] at parsed
  obtain ⟨build, added, holds⟩ := Build.addAll_of_distinct distinct small
  rw [assemble_of_parse parsed, concluded, List.append_assoc, Build.addAll_append, added]
  dsimp only
  rw [List.singleton_append, Build.addAll, holds.add_again declared token]

theorem assemble_finish (begins : Begins (tokenize source).toList statements [])
    (distinct : (labelNames statements).Nodup) (small : codeSize statements < 2147483648) :
    ∃ build : Build, build.Holds statements ∧
      assemble source = build.finish (tokenize source).size := by
  have parsed := begins.parse_eq
  rw [Array.toArray_toList] at parsed
  obtain ⟨build, added, holds⟩ := Build.addAll_of_distinct distinct small
  exact ⟨build, holds, by rw [assemble_of_parse parsed, concluded, added]⟩

theorem IsProgram.small {tokens : List Token} (program : IsProgram tokens statements) :
    codeSize statements < 2147483648 :=
  Nat.lt_of_le_of_lt program.fits (by decide)

theorem IsProgram.assemble_eq (program : IsProgram (tokenize source).toList statements)
    {value : String → Word} (addresses : Addresses value statements) :
    ∃ assembly, assemble source = .ok assembly ∧ assembly.Laid statements value := by
  obtain ⟨build, holds, assembled⟩ :=
    assemble_finish program.begins program.distinct program.small
  rw [assembled]
  exact holds.finish_program _ program.settled program.fits addresses

end Reading

/-! ## Repeated declarations -/

theorem mem_labelNames_iff {statements : List Statement} {name : String} :
    name ∈ labelNames statements ↔ ∃ token, .label name token ∈ statements := by
  rw [labelNames, List.mem_filterMap]
  constructor
  · rintro ⟨statement, listed, found⟩
    cases statement with
    | label other token =>
        cases found
        exact ⟨token, listed⟩
    | plain opcode token => cases found
    | operand keyword target token operandToken => cases found
  · rintro ⟨token, listed⟩
    exact ⟨_, listed, rfl⟩

/-- If a label is declared twice, there is a first declaration of a label that has been declared. -/
theorem exists_redeclared (statements : List Statement)
    (repeated : ¬(labelNames statements).Nodup) :
    ∃ front name first token back, statements = front ++ .label name token :: back ∧
      (labelNames front).Nodup ∧ .label name first ∈ front := by
  induction statements using List.reverseRecOn with
  | nil => exact absurd List.nodup_nil repeated
  | append_singleton front statement ih =>
      by_cases distinct : (labelNames front).Nodup
      · cases statement with
        | label name token =>
            by_cases declared : name ∈ labelNames front
            · obtain ⟨first, listed⟩ := mem_labelNames_iff.1 declared
              exact ⟨front, name, first, token, [], rfl, distinct, listed⟩
            · refine absurd ?_ repeated
              rw [labelNames_append]
              exact List.nodup_append.2 ⟨distinct, List.pairwise_singleton _ name, by
                rintro other listed _ single rfl
                rw [show labelNames [.label name token] = [name] from rfl,
                  List.mem_singleton] at single
                exact declared (single ▸ listed)⟩
        | plain opcode token =>
            rw [labelNames_append] at repeated
            exact absurd (by simpa [labelNames] using distinct) repeated
        | operand keyword target token operandToken =>
            rw [labelNames_append] at repeated
            exact absurd (by simpa [labelNames] using distinct) repeated
      · obtain ⟨before, name, first, token, back, rfl, apart, listed⟩ := ih distinct
        exact ⟨before, name, first, token, back ++ [statement], by simp, apart, listed⟩

namespace Begins

/-- What begins with two series of statements begins with the first and goes on with the second. -/
theorem split {tokens rest : List Token} {front back : List Statement}
    (begins : Begins tokens (front ++ back) rest) :
    ∃ middle, Begins tokens front middle ∧ Begins middle back rest := by
  induction front generalizing tokens with
  | nil => exact ⟨tokens, .done tokens, begins⟩
  | cons statement front ih =>
      cases begins with
      | label declares more =>
          obtain ⟨middle, first, second⟩ := ih more
          exact ⟨middle, .label declares first, second⟩
      | plain written more =>
          obtain ⟨middle, first, second⟩ := ih more
          exact ⟨middle, .plain written first, second⟩
      | operand written means more =>
          obtain ⟨middle, first, second⟩ := ih more
          exact ⟨middle, .operand written means first, second⟩

end Begins

/-! ## Sizes

A statement that can be added becomes as many bytes as its size says, however many bytes are there
already.  So what assembles is small, and its other properties follow from the outcomes above. -/

theorem Draft.size_emitPush (draft : Draft) (value : Operand) (location : Location) :
    (draft.emitPush value location).code.size = draft.code.size + Opcode.push.size := by
  cases value with
  | literal word => rw [emitPush_literal, Array.size_append, Array.size_push]; rfl
  | label name => rw [emitPush_label, Array.size_append, Array.size_push]; rfl

theorem Draft.size_of_emitCall {draft next : Draft} {target : Operand} {location : Location}
    (emitted : draft.emitCall target location = .ok next) :
    next.code.size = draft.code.size + callSize := by
  rw [emitCall] at emitted
  rcases reached : addressWord (draft.code.size + callSize) with cause | word
  · rw [reached] at emitted
    cases emitted
  · rw [reached] at emitted
    cases emitted
    simp only [emit, Array.size_push, size_emitPush]
    rfl

theorem Draft.size_of_add {draft next : Draft} {statement : Statement}
    (added : draft.add statement = .ok next) :
    next.code.size = draft.code.size + statement.size := by
  cases statement with
  | label name token =>
      rw [add] at added
      split at added
      · cases added
        rfl
      · cases added
  | plain opcode token =>
      cases added
      exact Array.size_push ..
  | operand keyword value token operandToken =>
      cases keyword with
      | push =>
          cases added
          exact size_emitPush draft value operandToken.location
      | call =>
          rw [add] at added
          split at added
          · next emitted =>
              cases added
              exact size_of_emitCall emitted
          · cases added

namespace Build

/-- What the build becomes with a statement, the draft becomes with it. -/
theorem draft_of_add {build next : Build} {statement : Statement}
    (added : build.add statement = .ok next) : build.draft.add statement = .ok next.draft := by
  rcases build with ⟨draft, spans⟩
  rw [add] at added
  split at added
  · cases added
  · next grown =>
      split at added
      · cases added
        exact grown
      · cases added
        exact grown

theorem size_of_addAll {build next : Build} {statements : List Statement}
    (added : build.addAll statements = .ok next) :
    next.draft.code.size = build.draft.code.size + codeSize statements := by
  induction statements generalizing build with
  | nil =>
      cases added
      rfl
  | cons statement rest ih =>
      rw [addAll] at added
      rcases first : build.add statement with error | middle
      · rw [first] at added
        cases added
      · rw [first] at added
        rw [ih added, Draft.size_of_add (draft_of_add first), codeSize_cons, Nat.add_assoc]

/-- What completing a build has gone through. -/
theorem exists_of_finish {build : Build} {tokens : Nat} {assembly : Assembly}
    (finished : build.finish tokens = .ok assembly) :
    build.draft.code.size ≤ memorySize ∧ ∃ symbols draft image,
      build.draft.symbols.resolve = .ok symbols ∧
      patchAll build.draft build.draft.symbols.fixups = .ok draft ∧
      Image.ofBytes draft.code = .ok image ∧
      assembly =
        ⟨image, build.spans.map fun span => span.entry image.bytes, symbols, tokens⟩ := by
  rcases build with ⟨draft, spans⟩
  rw [finish] at finished
  split at finished
  · cases finished
  · next symbols resolved =>
      split at finished
      · cases finished
      · next room =>
          split at finished
          · cases finished
          · next last patched =>
              split at finished
              · cases finished
              · next image accepted =>
                  cases finished
                  exact ⟨Nat.le_of_not_lt room, symbols, last, image, resolved, patched, accepted,
                    rfl⟩

end Build

section Converse

variable {source : String} {assembly : Assembly}

/-- What assembles is read to its end, and its code fits in memory. -/
theorem exists_begins_of_assemble (assembled : assemble source = .ok assembly) :
    ∃ statements, Begins (tokenize source).toList statements [] ∧
      codeSize statements ≤ memorySize := by
  obtain ⟨statements, rest, begins, ends⟩ := exists_begins (tokenize source).toList
  rcases ends with rfl | ⟨error, malformed⟩
  · have parsed := begins.parse_eq
    rw [Array.toArray_toList] at parsed
    rw [assemble_of_parse parsed, concluded] at assembled
    split at assembled
    · cases assembled
    · next build added =>
        have size := Build.size_of_addAll added
        have fits := (Build.exists_of_finish assembled).1
        rw [size] at fits
        exact ⟨statements, begins, Nat.le_trans (Nat.le_add_left _ _) fits⟩
  · have parsed := begins.parse_eq_of_malformed malformed
    rw [Array.toArray_toList] at parsed
    rw [assemble_of_parse parsed, concluded] at assembled
    split at assembled
    · cases assembled
    · cases assembled

/-- What assembles is a program. -/
theorem exists_isProgram (assembled : assemble source = .ok assembly) :
    ∃ statements, IsProgram (tokenize source).toList statements := by
  obtain ⟨statements, begins, fits⟩ := exists_begins_of_assemble assembled
  have small : codeSize statements < 2147483648 := Nat.lt_of_le_of_lt fits (by decide)
  have distinct : (labelNames statements).Nodup := by
    by_contra repeated
    obtain ⟨front, name, first, token, back, rfl, apart, declared⟩ :=
      exists_redeclared statements repeated
    obtain ⟨middle, before, after⟩ := begins.split
    rw [codeSize_append] at small
    cases after with
    | label declares more =>
        rw [assemble_redeclared before apart (Nat.lt_of_le_of_lt (Nat.le_add_right _ _) small)
          declared declares] at assembled
        cases assembled
  refine ⟨statements, begins, distinct, ?_, fits⟩
  by_contra unsettled
  rw [Settled] at unsettled
  push Not at unsettled
  obtain ⟨build, holds, finished⟩ := assemble_finish begins distinct small
  obtain ⟨name, usage, answered, _⟩ := holds.finish_undeclared (tokenize source).size unsettled
  rw [finished, answered] at assembled
  cases assembled

end Converse

end TwoStack
