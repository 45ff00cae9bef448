import TwoStack.Assembly.Draft
import TwoStack.Assembly.Listing
import TwoStack.Image
import TwoStack.Log

/-!
# Assembly

A source text becomes a program in one pass over its statements: code is emitted from the left, with
room for the addresses of labels, and the addresses are filled in at the end.  Of several errors the
first in this order is reported: statements that are not well formed and labels declared again, from
the left; then the first use of a label that is declared nowhere; then a program that is too large.
-/

namespace TwoStack

/-- A program with what is known about its making. -/
structure Assembly where
  image : Image
  /-- What every statement but the declarations became, in the order of addresses. -/
  listing : Array ListingEntry
  /-- The address of every label, in the order of the names. -/
  symbols : List (String × Nat)
  /-- The number of tokens of the source. -/
  tokens : Nat

/-- The place of a statement in the code. -/
structure Span where
  start : Nat
  stop : Nat
  text : String
  location : Location
  deriving DecidableEq, Repr

namespace Span

/-- What a statement became, given the finished code. -/
def entry (span : Span) (code : Bytes) : ListingEntry :=
  ⟨span.start, code.extract span.start span.stop, span.text, span.location⟩

end Span

/-- A draft and the places of the statements that it is made of. -/
structure Build where
  draft : Draft
  spans : Array Span

namespace Statement

/-- The text and place under which a statement is listed; declarations are not listed. -/
def listed? : Statement → Option (String × Location)
  | label .. => none
  | plain _ token => some (token.text, token.location)
  | operand _ _ token operandToken => some (token.text ++ " " ++ operandToken.text, token.location)

end Statement

namespace Build

/-- The build of an empty program. -/
def empty : Build := ⟨.empty, #[]⟩

/-- Adds one statement and notes its place. -/
def add (build : Build) (statement : Statement) : Except AssemblyError Build :=
  match build with
  | ⟨draft, spans⟩ =>
    match draft.add statement with
    | .error error => .error error
    | .ok draft =>
      match statement.listed? with
      | some (text, location) =>
        let stop := draft.code.size
        .ok ⟨draft, spans.push ⟨stop - statement.size, stop, text, location⟩⟩
      | none => .ok ⟨draft, spans⟩

/-- Adds statements in order, up to the first that cannot be added. -/
def addAll : Build → List Statement → Except AssemblyError Build
  | build, [] => .ok build
  | build, statement :: rest =>
    match build.add statement with
    | .error error => .error error
    | .ok build => addAll build rest

/-- Fills in addresses, up to the first that cannot be filled in. -/
def patchAll : Draft → List (Nat × Nat) → Except SourceError Draft
  | draft, [] => .ok draft
  | draft, (offset, address) :: rest =>
    match draft.patch offset address with
    | .error cause => .error cause
    | .ok draft => patchAll draft rest

/-- Resolves the labels and fills their addresses in. -/
def finish (build : Build) (tokens : Nat) : Except AssemblyError Assembly :=
  match build with
  | ⟨draft, spans⟩ =>
    match draft.symbols.resolve with
    | .error (location, name) => .error ⟨.undeclaredLabel name, some location⟩
    | .ok symbols =>
      if memorySize < draft.code.size then .error ⟨.programTooLarge draft.code.size, none⟩
      else
        match patchAll draft draft.symbols.fixups with
        | .error cause => .error ⟨cause, none⟩
        | .ok draft =>
          match Image.ofBytes draft.code with
          | .error refused => .error ⟨.programTooLarge refused.size, none⟩
          | .ok image => .ok ⟨image, spans.map fun span => span.entry image.bytes, symbols, tokens⟩

end Build

/-- Makes a program of a source text. -/
def assemble (source : String) : Except AssemblyError Assembly :=
  let tokens := tokenize source
  let (statements, stop) := Statement.parse tokens
  match Build.empty.addAll statements.toList with
  | .error error => .error error
  | .ok build =>
    match stop with
    | some error => .error error
    | none => build.finish tokens.size

namespace Assembly

/-- The target of the notes about assembly. -/
def noteTarget : String := "qproc_asm::assembler"

/-- Makes a note of an assembly. -/
def note (assembly : Assembly) (journal : Journal) : Journal :=
  journal.add .debug noteTarget fun _ =>
    s!"assembled {assembly.tokens} tokens into {assembly.image.size} bytes with {assembly.symbols.length} labels"

end Assembly

end TwoStack
