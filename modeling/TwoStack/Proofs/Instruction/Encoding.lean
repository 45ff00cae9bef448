import Mathlib.Algebra.Order.Ring.Nat
import TwoStack.Instruction

/-!
# Encodings of instructions

An instruction that has an operand exactly if it is `PUSH` is written in bytes: its opcode, then the
operand, most significant byte first.  `Instruction.decode` reads at an address just what is written
there (`WellFormed.decode_eq`, `encoding_of_decode`), so decoding and encoding are inverse.
-/

namespace TwoStack

/-- The byte of an opcode is the byte that it was read from. -/
theorem Opcode.toByte_of_ofByte? {byte : UInt8} {opcode : Opcode}
    (found : Opcode.ofByte? byte = some opcode) : opcode.toByte = byte := by
  have table : ∀ i : Fin 23, (Opcode.all[i.val]?).map (fun op => op.toByte.toNat) = some i.val := by
    decide
  rw [Opcode.ofByte?] at found
  have inside : byte.toNat < 23 := (Array.getElem?_eq_some_iff.1 found).1
  have listed := table ⟨byte.toNat, inside⟩
  rw [found] at listed
  exact UInt8.toNat_inj.1 (Option.some.inj listed)

theorem Word.index_lt_size {k : Nat} (inside : k < Word.size) : k = 0 ∨ k = 1 ∨ k = 2 ∨ k = 3 := by
  rw [Word.size] at inside
  omega

theorem Word.getElem?_toBytes (word : Word) {k : Nat} (inside : k < Word.size) :
    word.toBytes.toList[k]? = some (word.byte k) := by
  rcases Word.index_lt_size inside with rfl | rfl | rfl | rfl <;> rfl

theorem Bytes.readWord?_eq_some_iff {bytes : Bytes} {address : Nat} {word : Word} :
    bytes.readWord? address = some word ↔
      ∀ k < Word.size, bytes[address + k]? = some (word.byte k) := by
  constructor
  · intro read k inside
    unfold Bytes.readWord? at read
    split at read
    · next fits =>
        cases read
        have written := Word.byte_ofBytes bytes[address] bytes[address + 1] bytes[address + 2]
          bytes[address + 3]
        rw [Word.toBytes, Array.mk.injEq, List.cons.injEq, List.cons.injEq, List.cons.injEq,
          List.cons.injEq] at written
        obtain ⟨zero, one, two, three, _⟩ := written
        rcases Word.index_lt_size inside with rfl | rfl | rfl | rfl
        · rw [zero]; exact Array.getElem?_eq_getElem _
        · rw [one]; exact Array.getElem?_eq_getElem _
        · rw [two]; exact Array.getElem?_eq_getElem _
        · rw [three]; exact Array.getElem?_eq_getElem _
    · cases read
  · intro written
    obtain ⟨_, zero⟩ := Array.getElem?_eq_some_iff.1 (written 0 (by decide))
    obtain ⟨_, one⟩ := Array.getElem?_eq_some_iff.1 (written 1 (by decide))
    obtain ⟨_, two⟩ := Array.getElem?_eq_some_iff.1 (written 2 (by decide))
    obtain ⟨last, three⟩ := Array.getElem?_eq_some_iff.1 (written 3 (by decide))
    rw [Bytes.readWord?, dif_pos (by omega), one, two, three]
    simp only [Nat.add_zero] at zero
    rw [zero, Word.ofBytes_byte]

/-- Bytes that agree with others where some code stands have the same code there. -/
theorem Bytes.drop_eq_of_agree {bytes others : Bytes} {address : Nat} {code rest : List UInt8}
    (written : others.toList.drop address = code ++ rest)
    (agree : ∀ i, address ≤ i → i < address + code.length → bytes[i]? = others[i]?) :
    ∃ more, bytes.toList.drop address = code ++ more := by
  have spelled : code <+: bytes.toList.drop address := by
    rw [List.prefix_iff_getElem?]
    intro i inside
    have byte : (others.toList.drop address)[i]? = some code[i] := by
      rw [written, List.getElem?_append_left inside, List.getElem?_eq_getElem inside]
    rw [List.getElem?_drop, Array.getElem?_toList] at byte ⊢
    rw [agree _ (Nat.le_add_right _ _) (Nat.add_lt_add_left inside _), byte]
  obtain ⟨more, same⟩ := spelled
  exact ⟨more, same.symm⟩

namespace Instruction

/-- An instruction that has an operand exactly if it is `PUSH`. -/
def WellFormed (instruction : Instruction) : Prop :=
  instruction.operand.isSome = decide (instruction.opcode = .push)

/-- The bytes of an instruction. -/
def encoding (instruction : Instruction) : List UInt8 :=
  instruction.opcode.toByte ::
    match instruction.operand with
    | some word => word.toBytes.toList
    | none => []

theorem wellFormed_push (word : Word) : WellFormed ⟨.push, some word⟩ := rfl

theorem wellFormed_plain {opcode : Opcode} (plain : opcode ≠ .push) : WellFormed ⟨opcode, none⟩ :=
  (decide_eq_false plain).symm

theorem WellFormed.push_or_plain {instruction : Instruction} (formed : instruction.WellFormed) :
    (∃ word, instruction = ⟨.push, some word⟩) ∨
      ∃ opcode, opcode ≠ .push ∧ instruction = ⟨opcode, none⟩ := by
  rcases instruction with ⟨opcode, _ | word⟩
  · exact .inr ⟨opcode, of_decide_eq_false formed.symm, rfl⟩
  · have push : opcode = .push := of_decide_eq_true formed.symm
    exact .inl ⟨word, by rw [push]⟩

theorem WellFormed.eq_plain {instruction : Instruction} {opcode : Opcode}
    (formed : instruction.WellFormed) (named : instruction.opcode = opcode)
    (plain : opcode ≠ .push) : instruction = ⟨opcode, none⟩ := by
  rcases formed.push_or_plain with ⟨word, rfl⟩ | ⟨other, _, rfl⟩
  · exact absurd named.symm plain
  · cases named
    rfl

theorem size_plain {opcode : Opcode} (plain : opcode ≠ .push) :
    Instruction.size ⟨opcode, none⟩ = 1 := by
  cases opcode <;> first | rfl | exact absurd rfl plain

theorem WellFormed.length_encoding {instruction : Instruction} (formed : instruction.WellFormed) :
    instruction.encoding.length = instruction.size := by
  rcases formed.push_or_plain with ⟨word, rfl⟩ | ⟨opcode, plain, rfl⟩
  · rfl
  · exact (size_plain plain).symm

/-- After the bytes of an instruction stands the rest. -/
theorem WellFormed.drop_add_size {instruction : Instruction} (formed : instruction.WellFormed)
    {bytes : Bytes} {address : Nat} {rest : List UInt8}
    (written : bytes.toList.drop address = instruction.encoding ++ rest) :
    bytes.toList.drop (address + instruction.size) = rest := by
  rw [← List.drop_drop, written, ← formed.length_encoding, List.drop_left]

theorem decode_plain {bytes : Bytes} {address : Nat} {opcode : Opcode} (plain : opcode ≠ .push)
    (found : bytes[address]? = some opcode.toByte) : decode bytes address = .ok ⟨opcode, none⟩ := by
  rw [decode, found]
  dsimp only
  rw [Opcode.ofByte?_toByte]
  split
  · next same => cases same
  · next same => exact absurd (Option.some.inj same) plain
  · next same =>
      cases same
      rfl

theorem decode_push {bytes : Bytes} {address : Nat} {word : Word}
    (found : bytes[address]? = some Opcode.push.toByte)
    (read : bytes.readWord? (address + 1) = some word) :
    decode bytes address = .ok ⟨.push, some word⟩ := by
  rw [decode, found]
  dsimp only
  rw [Opcode.ofByte?_toByte, read]

/-- Where the bytes of an instruction stand, that instruction is read. -/
theorem WellFormed.decode_eq {instruction : Instruction} (formed : instruction.WellFormed)
    {bytes : Bytes} {address : Nat} {rest : List UInt8}
    (written : bytes.toList.drop address = instruction.encoding ++ rest) :
    decode bytes address = .ok instruction := by
  have byte (k : Nat) : bytes[address + k]? = (instruction.encoding ++ rest)[k]? := by
    rw [← written, List.getElem?_drop, Array.getElem?_toList]
  rcases formed.push_or_plain with ⟨word, rfl⟩ | ⟨opcode, plain, rfl⟩
  · refine decode_push (byte 0) (Bytes.readWord?_eq_some_iff.2 fun k inside => ?_)
    rw [Nat.add_assoc, Nat.add_comm 1 k, byte]
    exact (List.getElem?_append_left (Nat.succ_lt_succ inside)).trans
      (Word.getElem?_toBytes word inside)
  · exact decode_plain plain (byte 0)

theorem wellFormed_of_decode {bytes : Bytes} {address : Nat} {instruction : Instruction}
    (decoded : decode bytes address = .ok instruction) : instruction.WellFormed :=
  operand_isSome_of_decode decoded

/-- What is read at an address: its first byte, and the word after a `PUSH`. -/
theorem bytes_of_decode {bytes : Bytes} {address : Nat} {instruction : Instruction}
    (decoded : decode bytes address = .ok instruction) :
    bytes[address]? = some instruction.opcode.toByte ∧
      ∀ word, instruction.operand = some word → bytes.readWord? (address + 1) = some word := by
  unfold decode at decoded
  split at decoded
  · cases decoded
  · next byte found =>
      rw [found]
      split at decoded
      · cases decoded
      · next push =>
          split at decoded
          · cases decoded
          · next word read =>
              cases decoded
              refine ⟨congrArg some (Opcode.toByte_of_ofByte? push).symm, ?_⟩
              rintro _ ⟨⟩
              exact read
      · next opcode _ named =>
          cases decoded
          exact ⟨congrArg some (Opcode.toByte_of_ofByte? named).symm, nofun⟩

/-- Where an instruction is read, its bytes stand. -/
theorem encoding_of_decode {bytes : Bytes} {address : Nat} {instruction : Instruction}
    (decoded : decode bytes address = .ok instruction) :
    bytes.toList.drop address =
      instruction.encoding ++ bytes.toList.drop (address + instruction.size) := by
  have formed := wellFormed_of_decode decoded
  obtain ⟨first, operand⟩ := bytes_of_decode decoded
  have written : instruction.encoding <+: bytes.toList.drop address := by
    rw [List.prefix_iff_getElem?]
    intro i inside
    rw [List.getElem?_drop, Array.getElem?_toList, ← List.getElem?_eq_getElem inside]
    rcases formed.push_or_plain with ⟨word, rfl⟩ | ⟨opcode, plain, rfl⟩
    · rcases i with _ | k
      · exact first
      · have within : k < Word.size := Nat.lt_of_succ_lt_succ inside
        have read := Bytes.readWord?_eq_some_iff.1 (operand word rfl) k within
        rw [Nat.add_assoc, Nat.add_comm 1 k] at read
        exact read.trans (Word.getElem?_toBytes word within).symm
    · have index : i = 0 := by
        rw [formed.length_encoding, size_plain plain] at inside
        omega
      subst index
      exact first
  obtain ⟨rest, spelled⟩ := written
  rw [formed.drop_add_size spelled.symm, spelled]

end Instruction

end TwoStack
