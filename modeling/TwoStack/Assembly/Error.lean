import TwoStack.Memory
import TwoStack.Source.Keyword
import TwoStack.Source.Token

/-!
# Errors of source text

Every reason for which a source text has no program, with its wording.  All but one of them point at
a token.
-/

namespace TwoStack

/-- The reasons why a source text cannot be assembled. -/
inductive SourceError where
  /-- A declaration with nothing before its colon. -/
  | emptyLabel
  /-- Neither a keyword nor a declaration. -/
  | unknownSymbol (token : String)
  /-- A keyword is declared as a label. -/
  | reservedLabel (name : String)
  /-- Nothing or a declaration follows a keyword that takes an operand. -/
  | missingOperand (keyword : OperandKeyword)
  /-- A keyword stands in the place of an operand. -/
  | operandIsKeyword (token : String)
  /-- A numeral whose value is no machine word. -/
  | integerOutOfRange (token : String)
  /-- A label is declared again. -/
  | duplicateLabel (name : String) (first : Location)
  /-- A label is used and declared nowhere. -/
  | undeclaredLabel (name : String)
  /-- The program does not fit in memory. -/
  | programTooLarge (size : Nat)
  deriving DecidableEq, Repr

namespace SourceError

/-- The wording of an error. -/
def message : SourceError → String
  | emptyLabel => "empty label name"
  | unknownSymbol token => s!"unknown symbol '{token}'"
  | reservedLabel name => s!"'{name}' is a reserved word and cannot name a label"
  | missingOperand keyword => s!"{keyword.name} requires an operand"
  | operandIsKeyword token => s!"operand '{token}' is a mnemonic"
  | integerOutOfRange token => s!"integer literal '{token}' does not fit in 32 bits"
  | duplicateLabel name first => s!"label '{name}' redeclared (first declared at {first.text})"
  | undeclaredLabel name => s!"undeclared label '{name}'"
  | programTooLarge size => s!"program is {size} bytes, maximum is {memorySize} bytes"

end SourceError

/-- An error and the token it points at. -/
structure AssemblyError where
  cause : SourceError
  location : Option Location
  deriving DecidableEq, Repr

namespace AssemblyError

/-- An error as a line: where it is, if it has a place, and what it is. -/
def message (error : AssemblyError) : String :=
  match error.location with
  | some location => s!"{location.text}: error: {error.cause.message}"
  | none => s!"error: {error.cause.message}"

end AssemblyError

end TwoStack
