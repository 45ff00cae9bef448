import TwoStack.Bytes
import TwoStack.Opcode
import TwoStack.Text.Numeral

/-!
# Instructions in a program

An instruction is an opcode with the operand that follows it.  `decode` reads the instruction at an
address and is shared by the machine and the disassembly; what it reads occupies `size` bytes, and
it has an operand exactly when it is `PUSH` (`operand_isSome_of_decode`).
-/

namespace TwoStack

/-- An instruction: an opcode, and the operand of `PUSH`. -/
structure Instruction where
  opcode : Opcode
  operand : Option Word
  deriving DecidableEq, Repr, Inhabited

/-- The reasons why no instruction can be read at an address. -/
inductive DecodeError where
  /-- The address lies past the last byte. -/
  | outOfRange
  /-- The byte stands for no instruction. -/
  | unknownOpcode (byte : UInt8)
  /-- Fewer than four bytes follow a `PUSH`. -/
  | truncatedOperand
  deriving DecidableEq, Repr

namespace Instruction

/-- The number of bytes that an instruction occupies. -/
def size (instruction : Instruction) : Nat := instruction.opcode.size

/-- An instruction in source text: the mnemonic, then the operand after a blank. -/
def text (instruction : Instruction) : String :=
  match instruction.operand with
  | some word => instruction.opcode.mnemonic ++ " " ++ word.text
  | none => instruction.opcode.mnemonic

/-- Reads the instruction that starts at `address`. -/
def decode (bytes : Bytes) (address : Nat) : Except DecodeError Instruction :=
  match bytes[address]? with
  | none => .error .outOfRange
  | some byte =>
    match Opcode.ofByte? byte with
    | none => .error (.unknownOpcode byte)
    | some .push =>
      match bytes.readWord? (address + 1) with
      | none => .error .truncatedOperand
      | some word => .ok ⟨.push, some word⟩
    | some opcode => .ok ⟨opcode, none⟩

theorem operand_isSome_of_decode {bytes : Bytes} {address : Nat} {instruction : Instruction}
    (h : decode bytes address = .ok instruction) :
    instruction.operand.isSome = decide (instruction.opcode = .push) := by
  unfold decode at h
  split at h
  · cases h
  · split at h
    · cases h
    · split at h
      · cases h
      · cases h
        rfl
    · next opcode hne _ =>
      cases h
      cases opcode <;> first | rfl | exact absurd rfl hne

theorem lt_size_of_decode {bytes : Bytes} {address : Nat} {instruction : Instruction}
    (h : decode bytes address = .ok instruction) : address < bytes.size := by
  unfold decode at h
  split at h
  · cases h
  · next hget => exact (Array.getElem?_eq_some_iff.1 hget).1

end Instruction

end TwoStack
