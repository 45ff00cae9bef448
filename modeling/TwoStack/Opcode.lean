import TwoStack.Arithmetic

/-!
# The instruction set

Twenty-three instructions, one byte each; only `PUSH` is followed by an operand, one word.  The
byte of an instruction is its place in `Opcode.all`, so a byte names an instruction exactly when it
is below `0x17`.
-/

namespace TwoStack

/-- The instructions of the machine. -/
inductive Opcode where
  /-- Does nothing. -/
  | nop
  /-- Replaces the two words on top of the data stack by one. -/
  | binary (op : BinaryOp)
  /-- Replaces the word on top of the data stack. -/
  | unary (op : UnaryOp)
  /-- Jumps to the address on top of the data stack. -/
  | jmp
  /-- Jumps to the address on top if the word below it is zero. -/
  | jz
  /-- Jumps to the address on top unless the word below it is zero. -/
  | jnz
  /-- Puts its operand on the data stack. -/
  | push
  /-- Removes the top of the data stack. -/
  | rm
  /-- Moves an address from the data stack to the instruction stack. -/
  | pushIp
  /-- Jumps to the address on top of the instruction stack, and removes it. -/
  | popIp
  /-- Removes the top of the instruction stack. -/
  | rmIp
  /-- Replaces the address on top of the data stack by the word there. -/
  | pushPm
  /-- Stores the word on top of the data stack at the address below it. -/
  | popPm
  /-- Puts a word from the console on the data stack. -/
  | input
  /-- Gives the top of the data stack to the console. -/
  | peek
  /-- Stops the machine. -/
  | halt
  deriving DecidableEq, Repr, Inhabited

namespace Opcode

/-- Every instruction, in the order of the bytes. -/
def all : Array Opcode :=
  #[nop, binary .add, binary .sub, unary .neg, binary .shl, binary .shr, binary .and, binary .or,
    binary .xor, unary .not, jmp, jz, jnz, push, rm, pushIp, popIp, rmIp, pushPm, popPm, input, peek,
    halt]

/-- The byte that stands for an instruction in a program. -/
def toByte : Opcode → UInt8
  | nop => 0x00
  | binary .add => 0x01
  | binary .sub => 0x02
  | unary .neg => 0x03
  | binary .shl => 0x04
  | binary .shr => 0x05
  | binary .and => 0x06
  | binary .or => 0x07
  | binary .xor => 0x08
  | unary .not => 0x09
  | jmp => 0x0A
  | jz => 0x0B
  | jnz => 0x0C
  | push => 0x0D
  | rm => 0x0E
  | pushIp => 0x0F
  | popIp => 0x10
  | rmIp => 0x11
  | pushPm => 0x12
  | popPm => 0x13
  | input => 0x14
  | peek => 0x15
  | halt => 0x16

/-- The instruction that a byte stands for. -/
def ofByte? (byte : UInt8) : Option Opcode := all[byte.toNat]?

/-- The word that stands for an instruction in source text. -/
def mnemonic : Opcode → String
  | nop => "NOP"
  | binary .add => "ADD"
  | binary .sub => "SUB"
  | unary .neg => "NEG"
  | binary .shl => "SHL"
  | binary .shr => "SHR"
  | binary .and => "AND"
  | binary .or => "OR"
  | binary .xor => "XOR"
  | unary .not => "NOT"
  | jmp => "JMP"
  | jz => "JZ"
  | jnz => "JNZ"
  | push => "PUSH"
  | rm => "RM"
  | pushIp => "PUSHIP"
  | popIp => "POPIP"
  | rmIp => "RMIP"
  | pushPm => "PUSHPM"
  | popPm => "POPPM"
  | input => "INPUT"
  | peek => "PEEK"
  | halt => "HALT"

/-- The instruction with a given mnemonic; upper and lower case differ. -/
def ofMnemonic? (name : String) : Option Opcode := all.find? fun opcode => opcode.mnemonic == name

/-- The number of bytes after the instruction's own byte. -/
def operandBytes : Opcode → Nat
  | push => Word.size
  | _ => 0

/-- The number of bytes that an instruction occupies with its operand. -/
def size (opcode : Opcode) : Nat := 1 + opcode.operandBytes

theorem ofByte?_toByte (opcode : Opcode) : ofByte? opcode.toByte = some opcode := by
  cases opcode with
  | binary op => cases op <;> rfl
  | unary op => cases op <;> rfl
  | _ => rfl

theorem ofByte?_eq_none_iff (byte : UInt8) : ofByte? byte = none ↔ 0x16 < byte := by
  rw [ofByte?, Array.getElem?_eq_none_iff, UInt8.lt_iff_toNat_lt]
  exact Iff.rfl

theorem ofMnemonic?_mnemonic (opcode : Opcode) : ofMnemonic? opcode.mnemonic = some opcode := by
  cases opcode with
  | binary op => cases op <;> decide
  | unary op => cases op <;> decide
  | _ => decide

theorem size_pos (opcode : Opcode) : 0 < opcode.size := by
  unfold size
  omega

end Opcode

end TwoStack
