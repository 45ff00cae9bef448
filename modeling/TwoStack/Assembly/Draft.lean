import TwoStack.Assembly.Symbols
import TwoStack.Source.Statement

/-!
# Drafts

A draft is the code emitted so far with the labels met so far.  Code only grows at its end.  Where
the address of a label belongs, four zero bytes hold its place until all labels are known; `patch`
then fills them in.

`CALL name` is twelve bytes: `PUSH` of the address after them, `PUSHIP`, `PUSH name`, `JMP`.
-/

namespace TwoStack

/-- Code and labels of a program under way. -/
structure Draft where
  code : Bytes
  symbols : Symbols

/-- The word that denotes an address, if the address is small enough. -/
def addressWord (address : Nat) : Except SourceError Word :=
  if address < 2147483648 then .ok (Int32.ofNat address) else .error (.programTooLarge address)

/-- The number of bytes that `CALL` stands for. -/
def callSize : Nat :=
  Opcode.push.size + Opcode.pushIp.size + Opcode.push.size + Opcode.jmp.size

/-- The number of bytes that a statement becomes. -/
def Statement.size : Statement → Nat
  | label .. => 0
  | plain .. => 1
  | operand .push .. => Opcode.push.size
  | operand .call .. => callSize

namespace Draft

/-- The draft of an empty program. -/
def empty : Draft := ⟨#[], .empty⟩

/-- Emits the byte of an instruction. -/
def emit (draft : Draft) (opcode : Opcode) : Draft :=
  { draft with code := draft.code.push opcode.toByte }

/-- Emits `PUSH` with its operand; for a label, a place that is filled in later. -/
def emitPush (draft : Draft) (value : Operand) (location : Location) : Draft :=
  match draft.emit .push, value with
  | ⟨code, symbols⟩, .literal word => ⟨code ++ word.toBytes, symbols⟩
  | ⟨code, symbols⟩, .label name =>
    let symbols := symbols.use name code.size location
    ⟨code ++ #[0, 0, 0, 0], symbols⟩

/-- Emits the instructions that `CALL` stands for. -/
def emitCall (draft : Draft) (target : Operand) (location : Location) :
    Except SourceError Draft := do
  let word ← addressWord (draft.code.size + callSize)
  return (((draft.emitPush (.literal word) location).emit .pushIp).emitPush target location).emit .jmp

/-- Writes an address into the four bytes at `offset`. -/
def patch (draft : Draft) (offset address : Nat) : Except SourceError Draft := do
  let word ← addressWord address
  if offset + Word.size ≤ draft.code.size then
    return { draft with code := draft.code.storeWord offset word }
  else
    throw (.programTooLarge draft.code.size)

/-- Adds one statement. -/
def add (draft : Draft) : Statement → Except AssemblyError Draft
  | .label name token =>
    match draft.symbols.declare name draft.code.size token.location with
    | .ok symbols => .ok { draft with symbols }
    | .error first => .error ⟨.duplicateLabel name first, some token.location⟩
  | .plain opcode _ => .ok (draft.emit opcode)
  | .operand .push value _ operandToken => .ok (draft.emitPush value operandToken.location)
  | .operand .call value token operandToken =>
    match draft.emitCall value operandToken.location with
    | .ok draft => .ok draft
    | .error cause => .error ⟨cause, some token.location⟩

end Draft

end TwoStack
