import TwoStack.Assembly.Error
import TwoStack.Text.Numeral

/-!
# Statements

A source text is a series of statements: declarations `name:`, instructions, and `PUSH` or `CALL`
with an operand.  What a token means depends on its place.  In front of a statement it is a keyword
or a declaration; as an operand it is an integer literal or else the name of a label.

`Statement.parse` reads statements from the left and stops at the first that is not well formed, so
it yields the statements before the error together with the error.
-/

namespace TwoStack

/-- A token in front of a statement. -/
inductive Head where
  | keyword (keyword : Keyword)
  /-- Declares a label. -/
  | label (name : String)
  deriving DecidableEq, Repr

/-- What follows `PUSH` or `CALL`. -/
inductive Operand where
  | literal (word : Word)
  /-- The address of a label. -/
  | label (name : String)
  deriving DecidableEq, Repr

/-- A text without the colon at its end. -/
def withoutColon? (text : String) : Option String :=
  if text.toList.getLast? = some ':' then some (String.ofList text.toList.dropLast) else none

/-- The integer that a literal denotes: an optional sign, and then decimal digits, or `0x` and
hexadecimal digits. -/
def integerLiteral? (text : String) : Option Int :=
  let (negative, body) := Numeral.sign text.toList
  let magnitude := match body with
    | '0' :: 'x' :: digits | '0' :: 'X' :: digits => Numeral.natural? 16 digits
    | digits => Numeral.natural? 10 digits
  magnitude.map (Numeral.signed negative)

namespace Head

/-- What a token means in front of a statement. -/
def ofText (text : String) : Except SourceError Head :=
  match Keyword.ofName? text with
  | some word => .ok (.keyword word)
  | none =>
    match withoutColon? text with
    | none => .error (.unknownSymbol text)
    | some name =>
      if name.isEmpty then .error .emptyLabel
      else if isReserved name then .error (.reservedLabel name)
      else .ok (.label name)

end Head

namespace Operand

/-- What a token means after a keyword that takes an operand. -/
def ofText (keyword : OperandKeyword) (text : String) : Except SourceError Operand :=
  if isReserved text then .error (.operandIsKeyword text)
  else if (withoutColon? text).isSome then .error (.missingOperand keyword)
  else
    match integerLiteral? text with
    | none => .ok (.label text)
    | some value =>
      match Word.ofInt? value with
      | some word => .ok (.literal word)
      | none => .error (.integerOutOfRange text)

end Operand

/-- One statement, with the tokens it is written in. -/
inductive Statement where
  /-- Declares a label at the address of the next byte. -/
  | label (name : String) (token : Token)
  /-- An instruction without operand. -/
  | plain (opcode : Opcode) (token : Token)
  /-- A keyword with its operand. -/
  | operand (keyword : OperandKeyword) (value : Operand) (token operandToken : Token)
  deriving DecidableEq, Repr

namespace Statement

/-- Reads statements and appends them to `done`; at the first one that is not well formed, reading
ends with its error. -/
def parseFrom (done : Array Statement) : List Token → Array Statement × Option AssemblyError
  | [] => (done, none)
  | token :: rest =>
    match Head.ofText token.text with
    | .error cause => (done, some ⟨cause, some token.location⟩)
    | .ok (.label name) => parseFrom (done.push (.label name token)) rest
    | .ok (.keyword (.plain opcode)) => parseFrom (done.push (.plain opcode token)) rest
    | .ok (.keyword (.operand keyword)) =>
      match rest with
      | [] => (done, some ⟨.missingOperand keyword, some token.location⟩)
      | operandToken :: rest =>
        match Operand.ofText keyword operandToken.text with
        | .error cause => (done, some ⟨cause, some operandToken.location⟩)
        | .ok value => parseFrom (done.push (.operand keyword value token operandToken)) rest

/-- The well-formed statements that a series of tokens begins with, and the error that ends them. -/
def parse (tokens : Array Token) : Array Statement × Option AssemblyError :=
  parseFrom #[] tokens.toList

end Statement

end TwoStack
