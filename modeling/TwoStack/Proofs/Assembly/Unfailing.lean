import TwoStack.Proofs.Assembly.FirstError
import TwoStack.Proofs.Assembly.Linking
import TwoStack.Proofs.Assembly.RecordedUses
import TwoStack.Proofs.Source.Slices

/-!
# What cannot go wrong in assembly

Assembly makes checks whose failure nobody should see: that a place to fill in lies in the code,
that an address is a word, that the finished bytes are an image.  For a source text whose code stays
small they always succeed (`assemble_unfailing`), so the errors that are left are those of
statements and labels and the one about the size of the program.

A build that some statements have become is determined by them, whatever they are (`Build.Made`):
its code and spans are those of the layout, no label is declared twice, and the table of symbols has
recorded the uses of each label in the order of the code.  The table keeps them by name, so the
places to fill in are all uses in another order (`Symbols.Records.fixups_perm`).
-/

namespace TwoStack

/-! ## Places to fill in -/

namespace Symbols

theorem lookup_addresses {symbols : Symbols} {name : String} {address : Nat} {location : Location}
    (declared : symbols.declaredAt name = some (address, location)) :
    symbols.addresses.lookup name = some address :=
  lookup_of_mem (nodup_of_sorted symbols.addresses_pairwise)
    (mem_addresses_iff.2 ⟨location, declared⟩)

/-- If every label that is used is declared, the places to fill in are those of all uses, each with
the address of its label. -/
theorem Records.fixups_perm {symbols : Symbols} {uses : List (String × Usage)}
    (records : symbols.Records uses) (settled : symbols.undeclared = []) :
    (symbols.fixups.map fun place => (place.1, some place.2)).Perm
      (uses.map fun use => (use.2.offset, symbols.addresses.lookup use.1)) := by
  have declared : ∀ use ∈ uses, ∃ declaration, symbols.declaredAt use.1 = some declaration := by
    intro use used
    rcases found : symbols.declaredAt use.1 with _ | declaration
    · have missing := mem_undeclared_iff.2 ⟨found, use.2, records.mem_usagesOf used, rfl⟩
      rw [settled] at missing
      cases missing
    · exact ⟨declaration, rfl⟩
  have same : (uses.map fun use => (use.2.offset, (symbols.declaredAt use.1).map Prod.fst)) =
      uses.map fun use => (use.2.offset, symbols.addresses.lookup use.1) := by
    refine List.map_congr_left fun use used => ?_
    obtain ⟨⟨address, location⟩, found⟩ := declared use used
    rw [found, lookup_addresses found]
    rfl
  rw [← same]
  exact records.fixups_perm_of_declared declared

end Symbols

/-! ## What has been added -/

namespace Draft

variable {draft next : Draft} {statement : Statement}

/-- A call that is added can be returned to. -/
theorem hasReturn_of_add (added : draft.add statement = .ok next) :
    statement.HasReturn draft.code.size := by
  rcases statement with _ | _ | ⟨_ | _, target, token, operandToken⟩
  · trivial
  · trivial
  · trivial
  · by_contra large
    rw [add, emitCall_of_large target operandToken.location large] at added
    cases added

/-- A statement records the uses that the layout says. -/
theorem records_of_add {uses : List (String × Usage)} (records : draft.symbols.Records uses)
    (added : draft.add statement = .ok next) :
    next.symbols.Records (uses ++ statement.uses draft.code.size) := by
  cases statement with
  | label name token =>
      refine (List.append_nil uses).symm ▸ ?_
      rw [add] at added
      split at added
      · next declared =>
          cases added
          exact records.declare declared
      · cases added
  | plain opcode token =>
      cases added
      exact (List.append_nil uses).symm ▸ records
  | operand keyword value token operandToken =>
      obtain ⟨other, again, _, noted⟩ := add_operand (hasReturn_of_add added)
      rw [added] at again
      cases again
      rw [noted]
      cases value with
      | literal word =>
          exact (List.append_nil uses).symm ▸ records
      | label name => exact records.use name _ operandToken.location

end Draft

theorem Image.bytes_of_ofBytes {bytes : Bytes} {image : Image}
    (accepted : Image.ofBytes bytes = .ok image) : image.bytes = bytes := by
  rw [Image.ofBytes] at accepted
  split at accepted
  · cases accepted
    rfl
  · cases accepted

namespace Build

/-- A build that some statements have become. -/
structure Made (build : Build) (statements : List Statement) : Prop where
  holds : build.Holds statements
  distinct : (labelNames statements).Nodup
  records : build.draft.symbols.Records (placed Statement.uses 0 statements)

theorem made_empty : Build.empty.Made [] := ⟨holds_empty, List.nodup_nil, Symbols.records_empty⟩

section Made

variable {build next : Build} {done : List Statement}

/-- A statement that can be added declares no label again. -/
theorem Made.distinct_concat (made : build.Made done) {statement : Statement}
    (added : build.add statement = .ok next) : (labelNames (done ++ [statement])).Nodup := by
  rw [labelNames_append]
  cases statement with
  | label name token =>
      refine List.nodup_append.2 ⟨made.distinct, List.nodup_singleton name, ?_⟩
      rintro other listed _ single rfl
      cases List.mem_singleton.1 single
      obtain ⟨first, declared⟩ := mem_labelNames_iff.1 listed
      rw [made.holds.add_again declared token] at added
      cases added
  | plain opcode token => exact (List.append_nil _).symm ▸ made.distinct
  | operand keyword value token operandToken => exact (List.append_nil _).symm ▸ made.distinct

theorem Made.add (made : build.Made done) {statement : Statement}
    (added : build.add statement = .ok next) : next.Made (done ++ [statement]) := by
  have grown := draft_of_add added
  have size := made.holds.size_code
  have distinct := made.distinct_concat added
  have returns : statement.HasReturn (codeSize done) := size ▸ Draft.hasReturn_of_add grown
  obtain ⟨other, again, holds⟩ := made.holds.add distinct returns
  rw [added] at again
  cases again
  refine ⟨holds, distinct, ?_⟩
  rw [placed_concat, Nat.zero_add, ← size]
  exact Draft.records_of_add made.records grown

theorem Made.addAll (made : build.Made done) {statements : List Statement}
    (added : build.addAll statements = .ok next) : next.Made (done ++ statements) := by
  induction statements generalizing build done with
  | nil =>
      cases added
      rwa [List.append_nil]
  | cons statement rest ih =>
      rw [addAll_cons] at added
      rcases first : build.add statement with error | middle
      · rw [first] at added
        cases added
      · rw [first] at added
        rw [List.append_cons]
        exact ih (made.add first) added

end Made

/-! ## Completion -/

/-- A build is completed: the uses have been recorded, their places are those to fill in, each once
and with the address of its label; all of them can be filled in; the statements that are listed lie
in the finished code; and the finished code is an image. -/
structure Completes (build : Build) (tokens : Nat) (symbols : List (String × Nat))
    (uses : List (String × Usage)) : Prop where
  recorded : build.draft.symbols.Records uses
  fixups : (build.draft.symbols.fixups.map fun place => (place.1, some place.2)).Perm
    (uses.map fun use => (use.2.offset, symbols.lookup use.1))
  finished : ∃ draft image, patchAll build.draft build.draft.symbols.fixups = .ok draft ∧
    (∀ span ∈ build.spans, span.start ≤ span.stop ∧ span.stop ≤ draft.code.size) ∧
    Image.ofBytes draft.code = .ok image ∧
    build.finish tokens =
      .ok ⟨image, build.spans.map fun span => span.entry image.bytes, symbols, tokens⟩

section Completes

variable {build : Build} {symbols : List (String × Nat)}

theorem undeclared_of_resolve (resolved : build.draft.symbols.resolve = .ok symbols) :
    build.draft.symbols.undeclared = [] := by
  by_contra missing
  obtain ⟨first, refused, _⟩ := Symbols.resolve_of_undeclared missing
  rw [resolved] at refused
  cases refused

/-- If all labels are declared and the code is not too large, nothing is left that can fail. -/
theorem Made.completes {statements : List Statement} (made : build.Made statements)
    (resolved : build.draft.symbols.resolve = .ok symbols)
    (fits : build.draft.code.size ≤ memorySize) (tokens : Nat) :
    build.Completes tokens symbols (placed Statement.uses 0 statements) := by
  have none := undeclared_of_resolve resolved
  have same := Symbols.resolve_of_all_declared none
  rw [resolved] at same
  cases same
  have settled : Settled statements := by
    intro name usage used
    by_contra unknown
    have listed := made.holds.mem_undeclared_iff.2 ⟨unknown, usage, used, rfl⟩
    rw [none] at listed
    cases listed
  refine ⟨made.records, made.records.fixups_perm none, ?_⟩
  -- There is a program, so each check on the way to it has succeeded.
  rw [made.holds.size_code] at fits
  obtain ⟨value, addresses⟩ := exists_addresses made.distinct
  obtain ⟨assembly, finished, laid⟩ := made.holds.finish_program tokens settled fits addresses
  obtain ⟨_, table, draft, image, again, patched, accepted, rfl⟩ := exists_of_finish finished
  rw [resolved] at again
  cases again
  refine ⟨draft, image, patched, fun span listed => ?_, accepted, finished⟩
  have size : draft.code.size = codeSize statements := by
    rw [← Image.bytes_of_ofBytes accepted]
    exact laid.size_image
  rw [size]
  apply le_codeSize_of_mem_spans
  rw [← made.holds.spans]
  exact Array.mem_toList_iff.2 listed

end Completes

end Build

/-! ## Texts -/

theorem Begins.of_parse (source : String) :
    ∃ rest, Begins (tokenize source).toList (Statement.parse (tokenize source)).1.toList rest := by
  obtain ⟨statements, rest, begins, ends⟩ := exists_begins (tokenize source).toList
  rcases ends with rfl | ⟨error, malformed⟩
  · have parsed := begins.parse_eq
    rw [Array.toArray_toList] at parsed
    exact ⟨[], by rwa [parsed]⟩
  · have parsed := begins.parse_eq_of_malformed malformed
    rw [Array.toArray_toList] at parsed
    exact ⟨rest, by rwa [parsed]⟩

/-- What does not fail in the assembly of a text, and which errors are left. -/
structure Unfailing (source : String) : Prop where
  /-- Tokens are cut out of their lines between characters. -/
  tokens : tokenizeSliced? source = some (tokenize source)
  /-- So are signs and digits of literals. -/
  literals : ∀ text, integerLiteralSliced? text = some (integerLiteral? text)
  /-- Wherever a call is added, the address to which it returns is a word. -/
  returns : ∀ front target token operandToken back build,
    (Statement.parse (tokenize source)).1.toList =
      front ++ .operand .call target token operandToken :: back →
    Build.empty.addAll front = .ok build →
    ∃ word, addressWord (build.draft.code.size + callSize) = .ok word ∧
      word.toInt = build.draft.code.size + callSize
  /-- A build whose labels are declared and that is not too large is completed. -/
  completes : ∀ build symbols,
    Build.empty.addAll (Statement.parse (tokenize source)).1.toList = .ok build →
    build.draft.symbols.resolve = .ok symbols → build.draft.code.size ≤ memorySize →
    build.Completes (tokenize source).size symbols
      (placed Statement.uses 0 (Statement.parse (tokenize source)).1.toList)
  /-- The errors are those of statements and labels, and the one about the size of the program. -/
  errors : ∀ error, assemble source = .error error → FirstError (tokenize source).toList error

section Unfailing

variable {source : String} (small : StaysSmall (tokenize source).toList)
include small

/-- A call that is read is added where it can be returned to. -/
theorem size_add_callSize_lt {front back : List Statement} {target : Operand}
    {token operandToken : Token} {build : Build}
    (read : (Statement.parse (tokenize source)).1.toList =
      front ++ .operand .call target token operandToken :: back)
    (added : Build.empty.addAll front = .ok build) :
    build.draft.code.size + callSize < 2147483648 := by
  obtain ⟨rest, begins⟩ := Begins.of_parse source
  rw [read, List.append_cons] at begins
  obtain ⟨middle, before, _⟩ := begins.split
  have made : build.Made front := Build.made_empty.addAll added
  have distinct : (labelNames (front ++ [.operand .call target token operandToken])).Nodup := by
    rw [labelNames_append]
    exact (List.append_nil _).symm ▸ made.distinct
  have bound := small _ _ before distinct
  rwa [codeSize_append, codeSize_cons, ← made.holds.size_code] at bound

theorem firstError_of_assemble {error : AssemblyError} (answered : assemble source = .error error) :
    FirstError (tokenize source).toList error := by
  rcases exists_firstError_or_program small with ⟨first, wrong⟩ | ⟨assembly, program⟩
  · have same := wrong.assemble_eq small
    rw [answered] at same
    cases same
    exact wrong
  · rw [program] at answered
    cases answered

/-- In the assembly of a text whose code stays small nothing fails but statements, labels and the
size of the whole program. -/
theorem assemble_unfailing : Unfailing source where
  tokens := tokenizeSliced?_eq source
  literals := integerLiteralSliced?_eq
  returns := by
    intro front target token operandToken back build read added
    have bound := size_add_callSize_lt small read added
    exact ⟨_, addressWord_of_small bound, Int32.toInt_ofNat_of_lt bound⟩
  completes := by
    intro build symbols added resolved fits
    have made : build.Made _ := Build.made_empty.addAll added
    exact made.completes resolved fits _
  errors _ := firstError_of_assemble small

end Unfailing

/-- A text with characters of two bytes in a label, a call and a comment, and with a signed
hexadecimal literal: it has a call that returns and a build that is completed. -/
theorem assemble_unfailing_of_accents :
    StaysSmall (tokenize "é: CALL é ; ü\nPUSH -0x10").toList ∧
      (Statement.parse (tokenize "é: CALL é ; ü\nPUSH -0x10")).1.toList =
        [.label "é" ⟨"é:", ⟨1, 1, 0⟩⟩,
          .operand .call (.label "é") ⟨"CALL", ⟨1, 4, 1⟩⟩ ⟨"é", ⟨1, 9, 2⟩⟩,
          .operand .push (.literal (-16)) ⟨"PUSH", ⟨2, 1, 3⟩⟩ ⟨"-0x10", ⟨2, 6, 4⟩⟩] ∧
      (∃ build symbols,
        Build.empty.addAll (Statement.parse (tokenize "é: CALL é ; ü\nPUSH -0x10")).1.toList =
          .ok build ∧
        build.draft.symbols.resolve = .ok symbols ∧ build.draft.code.size ≤ memorySize) ∧
      Unfailing "é: CALL é ; ü\nPUSH -0x10" := by
  have length : (tokenize "é: CALL é ; ü\nPUSH -0x10").toList.length = 5 := by decide +kernel
  have small : StaysSmall (tokenize "é: CALL é ; ü\nPUSH -0x10").toList :=
    staysSmall_of_length (by rw [length]; decide)
  have read : (Statement.parse (tokenize "é: CALL é ; ü\nPUSH -0x10")).1.toList =
      [.label "é" ⟨"é:", ⟨1, 1, 0⟩⟩,
        .operand .call (.label "é") ⟨"CALL", ⟨1, 4, 1⟩⟩ ⟨"é", ⟨1, 9, 2⟩⟩,
        .operand .push (.literal (-16)) ⟨"PUSH", ⟨2, 1, 3⟩⟩ ⟨"-0x10", ⟨2, 6, 4⟩⟩] := by
    decide +kernel
  refine ⟨small, read, ?_, assemble_unfailing small⟩
  obtain ⟨build, added, holds⟩ := @Build.addAll_of_distinct
    (Statement.parse (tokenize "é: CALL é ; ü\nPUSH -0x10")).1.toList
    (by rw [read]; decide) (by rw [read]; decide)
  have settled : Settled (Statement.parse (tokenize "é: CALL é ; ü\nPUSH -0x10")).1.toList := by
    rw [read]
    intro name usage used
    cases List.mem_singleton.1 used
    exact List.mem_cons_self
  refine ⟨build, _, added, holds.resolve_eq settled, ?_⟩
  rw [holds.size_code, read]
  decide

end TwoStack
