import TwoStack.Instruction
import TwoStack.Text.Field

/-!
# Linear disassembly

A program is read from address `0`, one instruction after the other, up to and including the first
`HALT`, or to the end of the bytes.  Jumps are not followed.  The rows that come out are printed one
to a line, and the printed text is source text.
-/

namespace TwoStack

/-- An instruction and the address of its opcode. -/
structure Row where
  address : Nat
  instruction : Instruction
  deriving DecidableEq, Repr

/-- The reasons why a program has no disassembly, with the address where reading stopped. -/
inductive DisassemblyError where
  /-- The byte stands for no instruction. -/
  | unknownOpcode (byte : UInt8) (address : Nat)
  /-- Fewer than four bytes follow the `PUSH`. -/
  | truncatedOperand (address : Nat)
  deriving DecidableEq, Repr

namespace DisassemblyError

/-- The wording of a disassembly error. -/
def message : DisassemblyError → String
  | unknownOpcode byte address =>
    s!"unknown operation 0x{hexByte byte} ; instruction #{address}"
  | truncatedOperand address =>
    s!"PUSH used without a proper operand ; instruction #{address}"

end DisassemblyError

namespace Row

/-- The number of bytes that the instruction of a row occupies. -/
def size (row : Row) : Nat := row.instruction.size

/-- Reads instructions from `address` on and appends their rows to `rows`. -/
def readFrom (bytes : Bytes) (address : Nat) (rows : Array Row) :
    Except DisassemblyError (Array Row) :=
  match h : Instruction.decode bytes address with
  | .error .outOfRange => .ok rows
  | .error (.unknownOpcode byte) => .error (.unknownOpcode byte address)
  | .error .truncatedOperand => .error (.truncatedOperand address)
  | .ok instruction =>
    if instruction.opcode = .halt then
      .ok (rows.push ⟨address, instruction⟩)
    else
      have : address < bytes.size := Instruction.lt_size_of_decode h
      have : 0 < instruction.size := instruction.opcode.size_pos
      readFrom bytes (address + instruction.size) (rows.push ⟨address, instruction⟩)
  termination_by bytes.size - address

end Row

/-- The rows of a program, from address `0` to the first `HALT` or the end. -/
def disassemble (bytes : Bytes) : Except DisassemblyError (Array Row) :=
  Row.readFrom bytes 0 #[]

/-- Rows as source text, one statement to a line. -/
def printRows (rows : Array Row) : String :=
  rows.foldl (fun text row => text ++ row.instruction.text ++ "\n") ""

end TwoStack
