import TwoStack.Proofs.Disassembly.Linear

/-!
# Disassembly as the inverse of encoding

Instructions that are written one after the other are read again at consecutive addresses, with
anything behind a final `HALT` left out (`Linear.reads`).  In the other direction the rows of a
disassembly are such instructions, and their bytes are those that were read (`Reads.linear`,
`Reads.eq_rowsFrom`).

A disassembly that fails has read a run of instructions up to the reported address, and no
instruction stands there (`Breaks.exists_run`).  What stands there instead, the error says
(`DisassemblyError.Describes`).

That reading comes to an end is part of the definition of `Row.readFrom`.  `Row.readWithin` is the
same loop with its rounds counted and no argument for its end, and it does not run out of rounds
(`Row.readWithin_eq`).
-/

namespace TwoStack

/-! ## Instructions in a line -/

/-- Instructions at consecutive addresses. -/
def rowsFrom : Nat → List Instruction → List Row
  | _, [] => []
  | address, instruction :: instructions =>
    ⟨address, instruction⟩ :: rowsFrom (address + instruction.size) instructions

/-- Instructions that linear decoding does not leave before the last one. -/
structure Linear (instructions : List Instruction) : Prop where
  /-- `PUSH` has an operand, and nothing else has one. -/
  formed : ∀ instruction ∈ instructions, instruction.WellFormed
  /-- At most the last instruction is `HALT`. -/
  last : ∀ instruction ∈ instructions.dropLast, instruction.opcode ≠ .halt

instance (instruction : Instruction) : Decidable instruction.WellFormed :=
  inferInstanceAs (Decidable (_ = _))

instance (instructions : List Instruction) : Decidable (Linear instructions) :=
  decidable_of_iff ((∀ instruction ∈ instructions, instruction.WellFormed) ∧
      ∀ instruction ∈ instructions.dropLast, instruction.opcode ≠ .halt)
    ⟨fun ⟨formed, last⟩ => ⟨formed, last⟩, fun ⟨formed, last⟩ => ⟨formed, last⟩⟩

section Linear

variable {bytes : Bytes} {address : Nat} {rows : List Row}

theorem Linear.tail {instruction : Instruction} {instructions : List Instruction}
    (linear : Linear (instruction :: instructions)) : Linear instructions := by
  refine ⟨(List.forall_mem_cons.1 linear.formed).2, fun other listed => ?_⟩
  have more : instructions ≠ [] := by
    rintro rfl
    cases listed
  refine linear.last other ?_
  rw [List.dropLast_cons_of_ne_nil more]
  exact List.mem_cons_of_mem _ listed

/-- Instructions that are written in a line are read as they are written.  Something may follow
them if the last of them is `HALT`. -/
theorem Linear.reads {instructions : List Instruction} {rest : List UInt8}
    (linear : Linear instructions)
    (written : bytes.toList.drop address = instructions.flatMap Instruction.encoding ++ rest)
    (behind : rest = [] ∨ instructions.getLast? = some ⟨.halt, none⟩) :
    Reads bytes address (rowsFrom address instructions) := by
  induction instructions generalizing address with
  | nil =>
      have nothing : rest = [] := behind.resolve_right nofun
      rw [nothing] at written
      exact .done (List.drop_eq_nil_iff.1 written)
  | cons instruction instructions ih =>
      have formed := linear.formed instruction List.mem_cons_self
      rw [List.flatMap_cons, List.append_assoc] at written
      have decoded := formed.decode_eq written
      by_cases halts : instruction.opcode = .halt
      · have final : instructions = [] := by
          by_contra more
          refine linear.last instruction ?_ halts
          rw [List.dropLast_cons_of_ne_nil more]
          exact List.mem_cons_self
        subst final
        exact .halt decoded halts
      · refine .next decoded halts (ih linear.tail (formed.drop_add_size written) ?_)
        refine behind.imp_right fun last => ?_
        rcases instructions with _ | ⟨other, instructions⟩
        · cases last
          exact absurd rfl halts
        · rwa [List.getLast?_cons_cons] at last

/-- Rows stand at consecutive addresses. -/
theorem Reads.eq_rowsFrom (reads : Reads bytes address rows) :
    rows = rowsFrom address (rows.map Row.instruction) := by
  induction reads with
  | done ended => rfl
  | halt decoded halts => rfl
  | next decoded goes more ih =>
      rw [List.map_cons, rowsFrom, ← ih]

/-- Reading goes on after every row that is not a `HALT`. -/
theorem Reads.linear (reads : Reads bytes address rows) : Linear (rows.map Row.instruction) := by
  refine ⟨List.forall_mem_map.2 reads.wellFormed, ?_⟩
  induction reads with
  | done ended => exact nofun
  | halt decoded halts => exact nofun
  | @next address instruction rows decoded goes more ih =>
      intro other listed
      rcases rows with _ | ⟨row, rows⟩
      · cases listed
      · rw [List.map_cons, List.map_cons, List.dropLast_cons_cons, List.mem_cons] at listed
        rcases listed with rfl | listed
        · exact goes
        · exact ih other listed

/-- Reading ends at the end of the bytes, or after a `HALT`. -/
theorem Reads.covers (reads : Reads bytes address rows) (inside : address ≤ bytes.size) :
    address + rowsSize rows = bytes.size ∨
      (rows.map Row.instruction).getLast? = some ⟨.halt, none⟩ := by
  induction reads with
  | done ended => exact .inl (Nat.le_antisymm inside ended)
  | halt decoded halts =>
      exact .inr (congrArg some ((Instruction.wellFormed_of_decode decoded).eq_plain halts nofun))
  | next decoded goes more ih =>
      rw [rowsSize_cons, ← Nat.add_assoc]
      refine (ih (Instruction.add_size_le_of_decode decoded)).imp_right fun last => ?_
      rw [List.map_cons, List.getLast?_cons, last]
      rfl

end Linear

/-! ## Where decoding breaks off -/

/-- Reading from an address on fails. -/
inductive Breaks (bytes : Bytes) : Nat → DisassemblyError → Prop
  | unknownOpcode {address : Nat} {byte : UInt8}
    (refused : Instruction.decode bytes address = .error (.unknownOpcode byte)) :
    Breaks bytes address (.unknownOpcode byte address)
  | truncatedOperand {address : Nat}
    (refused : Instruction.decode bytes address = .error .truncatedOperand) :
    Breaks bytes address (.truncatedOperand address)
  | next {address : Nat} {instruction : Instruction} {error : DisassemblyError}
    (decoded : Instruction.decode bytes address = .ok instruction)
    (goes : instruction.opcode ≠ .halt)
    (more : Breaks bytes (address + instruction.size) error) : Breaks bytes address error

/-- What stands at the address that an error reports. -/
inductive DisassemblyError.Describes (bytes : Bytes) : DisassemblyError → Nat → Prop
  | unknownOpcode {byte : UInt8} {address : Nat} (found : bytes[address]? = some byte)
    (unknown : 0x16 < byte) : Describes bytes (.unknownOpcode byte address) address
  | truncatedOperand {address : Nat} (found : bytes[address]? = some 0x0D)
    (short : bytes.size - (address + 1) < 4) : Describes bytes (.truncatedOperand address) address

/-- The bytes before an address are instructions that let decoding go on, and no further
instruction stands there. -/
structure MaximalRun (bytes : Bytes) (instructions : List Instruction) (stop : Nat) : Prop where
  formed : ∀ instruction ∈ instructions, instruction.WellFormed
  goes : ∀ instruction ∈ instructions, instruction.opcode ≠ .halt
  inside : stop < bytes.size
  written : bytes.toList.take stop = instructions.flatMap Instruction.encoding
  maximal : ∀ instruction : Instruction, instruction.WellFormed →
    ¬ instruction.encoding <+: bytes.toList.drop stop

section Breaks

variable {bytes : Bytes} {address : Nat} {error : DisassemblyError}

theorem Instruction.decode_eq_unknownOpcode_iff {byte : UInt8} :
    decode bytes address = .error (.unknownOpcode byte) ↔
      bytes[address]? = some byte ∧ 0x16 < byte := by
  rw [← Opcode.ofByte?_eq_none_iff]
  unfold decode
  constructor
  · intro refused
    split at refused
    · cases refused
    · next found =>
        split at refused
        · next unknown =>
            cases refused
            exact ⟨found, unknown⟩
        · split at refused <;> cases refused
        · cases refused
  · rintro ⟨found, unknown⟩
    rw [found]
    dsimp only
    rw [unknown]

theorem Instruction.decode_eq_truncatedOperand_iff :
    decode bytes address = .error .truncatedOperand ↔
      bytes[address]? = some 0x0D ∧ bytes.size - (address + 1) < 4 := by
  have short (found : bytes[address]? = some 0x0D) :
      bytes.readWord? (address + 1) = none ↔ bytes.size - (address + 1) < 4 := by
    have inside := (Array.getElem?_eq_some_iff.1 found).1
    rw [← Option.isNone_iff_eq_none, ← Option.not_isSome, Bytes.isSome_readWord?]
    simp only [Bool.not_eq_true', decide_eq_false_iff_not]
    omega
  constructor
  · intro refused
    unfold decode at refused
    split at refused
    · cases refused
    · next byte found =>
        split at refused
        · cases refused
        · next push =>
            rw [← Opcode.toByte_of_ofByte? push] at found
            split at refused
            · next absent => exact ⟨found, (short found).1 absent⟩
            · cases refused
        · cases refused
  · rintro ⟨found, few⟩
    rw [decode, found]
    dsimp only
    rw [show Opcode.ofByte? 0x0D = some .push from Opcode.ofByte?_toByte .push,
      (short found).2 few]

theorem Row.readFrom_of_unknownOpcode {byte : UInt8}
    (refused : Instruction.decode bytes address = .error (.unknownOpcode byte))
    (before : Array Row) :
    Row.readFrom bytes address before = .error (.unknownOpcode byte address) := by
  rw [Row.readFrom]
  split
  · next other => rw [refused] at other; cases other
  · next other => rw [refused] at other; cases other; rfl
  · next other => rw [refused] at other; cases other
  · next other => rw [refused] at other; cases other

theorem Row.readFrom_of_truncatedOperand
    (refused : Instruction.decode bytes address = .error .truncatedOperand)
    (before : Array Row) :
    Row.readFrom bytes address before = .error (.truncatedOperand address) := by
  rw [Row.readFrom]
  split
  · next other => rw [refused] at other; cases other
  · next other => rw [refused] at other; cases other
  · rfl
  · next other => rw [refused] at other; cases other

theorem Breaks.readFrom_eq (breaks : Breaks bytes address error) (before : Array Row) :
    Row.readFrom bytes address before = .error error := by
  induction breaks generalizing before with
  | unknownOpcode refused => exact Row.readFrom_of_unknownOpcode refused before
  | truncatedOperand refused => exact Row.readFrom_of_truncatedOperand refused before
  | next decoded goes more ih => rw [Row.readFrom_of_decode decoded, if_neg goes, ih]

theorem breaks_of_readFrom {before : Array Row}
    (failed : Row.readFrom bytes address before = .error error) : Breaks bytes address error := by
  fun_induction Row.readFrom bytes address before with
  | case1 => cases failed
  | case2 address before byte refused =>
      cases failed
      exact .unknownOpcode refused
  | case3 address before refused =>
      cases failed
      exact .truncatedOperand refused
  | case4 => cases failed
  | case5 address before instruction decoded goes _ _ ih => exact .next decoded goes (ih failed)

/-- A disassembly fails if reading from the first byte on does. -/
theorem disassemble_eq_error_iff : disassemble bytes = .error error ↔ Breaks bytes 0 error :=
  ⟨breaks_of_readFrom, fun breaks => breaks.readFrom_eq #[]⟩

/-- Where an error has something to report, no instruction can be read. -/
theorem DisassemblyError.Describes.decode_ne_ok (describes : error.Describes bytes address)
    (instruction : Instruction) : Instruction.decode bytes address ≠ .ok instruction := by
  intro decoded
  cases describes with
  | unknownOpcode found unknown =>
      rw [Instruction.decode_eq_unknownOpcode_iff.2 ⟨found, unknown⟩] at decoded
      cases decoded
  | truncatedOperand found short =>
      rw [Instruction.decode_eq_truncatedOperand_iff.2 ⟨found, short⟩] at decoded
      cases decoded

theorem DisassemblyError.Describes.maximal (describes : error.Describes bytes address)
    (instruction : Instruction) (formed : instruction.WellFormed) :
    ¬ instruction.encoding <+: bytes.toList.drop address := by
  rintro ⟨rest, spelled⟩
  exact describes.decode_ne_ok instruction (formed.decode_eq spelled.symm)

theorem DisassemblyError.Describes.lt_size (describes : error.Describes bytes address) :
    address < bytes.size := by
  cases describes with
  | unknownOpcode found unknown => exact (Array.getElem?_eq_some_iff.1 found).1
  | truncatedOperand found short => exact (Array.getElem?_eq_some_iff.1 found).1

/-- A reading that fails has come through instructions to the place that the error describes. -/
theorem Breaks.exists_run (breaks : Breaks bytes address error) :
    ∃ instructions : List Instruction, ∃ stop,
      (∀ instruction ∈ instructions, instruction.WellFormed) ∧
      (∀ instruction ∈ instructions, instruction.opcode ≠ .halt) ∧
      bytes.toList.drop address =
        instructions.flatMap Instruction.encoding ++ bytes.toList.drop stop ∧
      stop = address + (instructions.flatMap Instruction.encoding).length ∧
      error.Describes bytes stop := by
  induction breaks with
  | unknownOpcode refused =>
      obtain ⟨found, unknown⟩ := Instruction.decode_eq_unknownOpcode_iff.1 refused
      exact ⟨[], _, nofun, nofun, rfl, rfl, .unknownOpcode found unknown⟩
  | truncatedOperand refused =>
      obtain ⟨found, short⟩ := Instruction.decode_eq_truncatedOperand_iff.1 refused
      exact ⟨[], _, nofun, nofun, rfl, rfl, .truncatedOperand found short⟩
  | next decoded goes more ih =>
      obtain ⟨instructions, stop, formed, going, written, reached, describes⟩ := ih
      have first := Instruction.wellFormed_of_decode decoded
      refine ⟨_ :: instructions, stop, List.forall_mem_cons.2 ⟨first, formed⟩,
        List.forall_mem_cons.2 ⟨goes, going⟩, ?_, ?_, describes⟩
      · rw [Instruction.encoding_of_decode decoded, written, List.flatMap_cons, List.append_assoc]
      · rw [reached, List.flatMap_cons, List.length_append, first.length_encoding, Nat.add_assoc]

/-- A disassembly that fails has read a run of instructions that cannot be continued, up to the
place that the error describes. -/
theorem Breaks.exists_maximalRun (breaks : Breaks bytes 0 error) :
    ∃ instructions stop, MaximalRun bytes instructions stop ∧ error.Describes bytes stop := by
  obtain ⟨instructions, stop, formed, goes, written, reached, describes⟩ := breaks.exists_run
  rw [Nat.zero_add] at reached
  rw [List.drop_zero] at written
  refine ⟨instructions, stop, ⟨formed, goes, describes.lt_size, ?_, describes.maximal⟩, describes⟩
  rw [written, List.take_left' reached.symm]

/-- Reading comes through instructions that are not `HALT` to what stands behind them. -/
theorem Breaks.of_encodings {instructions : List Instruction} {rest : List UInt8}
    (formed : ∀ instruction ∈ instructions, instruction.WellFormed)
    (goes : ∀ instruction ∈ instructions, instruction.opcode ≠ .halt)
    (written : bytes.toList.drop address = instructions.flatMap Instruction.encoding ++ rest)
    (behind : Breaks bytes (address + (instructions.flatMap Instruction.encoding).length) error) :
    Breaks bytes address error := by
  induction instructions generalizing address with
  | nil => exact behind
  | cons instruction instructions ih =>
      rw [List.forall_mem_cons] at formed goes
      rw [List.flatMap_cons, List.append_assoc] at written
      rw [List.flatMap_cons, List.length_append, formed.1.length_encoding,
        ← Nat.add_assoc] at behind
      exact .next (formed.1.decode_eq written) goes.1
        (ih formed.2 goes.2 (formed.1.drop_add_size written) behind)

theorem DisassemblyError.Describes.breaks (describes : error.Describes bytes address) :
    Breaks bytes address error := by
  cases describes with
  | unknownOpcode found unknown =>
      exact .unknownOpcode (Instruction.decode_eq_unknownOpcode_iff.2 ⟨found, unknown⟩)
  | truncatedOperand found short =>
      exact .truncatedOperand (Instruction.decode_eq_truncatedOperand_iff.2 ⟨found, short⟩)

/-- Reading fails where a run ends and an error has something to describe. -/
theorem MaximalRun.breaks {instructions : List Instruction} {stop : Nat}
    (run : MaximalRun bytes instructions stop) (describes : error.Describes bytes stop) :
    Breaks bytes 0 error := by
  have reached : (instructions.flatMap Instruction.encoding).length = stop := by
    rw [← run.written, List.length_take, Array.length_toList]
    exact Nat.min_eq_left run.inside.le
  have written : bytes.toList.drop 0 =
      instructions.flatMap Instruction.encoding ++ bytes.toList.drop stop := by
    rw [List.drop_zero, ← run.written, List.take_append_drop]
  refine .of_encodings run.formed run.goes written ?_
  rw [Nat.zero_add, reached]
  exact describes.breaks

end Breaks

/-! ## The number of rounds -/

/-- The loop of a disassembly, given up after a number of rounds. -/
def Row.readWithin (bytes : Bytes) :
    Nat → Nat → Array Row → Option (Except DisassemblyError (Array Row))
  | 0, _, _ => none
  | rounds + 1, address, rows =>
    match Instruction.decode bytes address with
    | .error .outOfRange => some (.ok rows)
    | .error (.unknownOpcode byte) => some (.error (.unknownOpcode byte address))
    | .error .truncatedOperand => some (.error (.truncatedOperand address))
    | .ok instruction =>
      if instruction.opcode = .halt then
        some (.ok (rows.push ⟨address, instruction⟩))
      else
        readWithin bytes rounds (address + instruction.size) (rows.push ⟨address, instruction⟩)

/-- Every round but the last reads a byte, so there are no more rounds than bytes and one. -/
theorem Row.readWithin_eq {bytes : Bytes} {rounds address : Nat}
    (enough : bytes.size - address < rounds) (rows : Array Row) :
    readWithin bytes rounds address rows = some (readFrom bytes address rows) := by
  induction rounds generalizing address rows with
  | zero => exact absurd enough (Nat.not_lt_zero _)
  | succ rounds ih =>
      rw [readWithin]
      split
      · next refused =>
          rw [readFrom_of_ended (Instruction.decode_eq_outOfRange_iff.1 refused)]
      · next refused => rw [readFrom_of_unknownOpcode refused]
      · next refused => rw [readFrom_of_truncatedOperand refused]
      · next instruction decoded =>
          have inside := Instruction.lt_size_of_decode decoded
          have longer : 0 < instruction.size := instruction.opcode.size_pos
          rw [readFrom_of_decode decoded]
          split
          · rfl
          · exact ih (by omega) _

/-! ## The inverse -/

/-- Disassembling and encoding are inverse.  Instructions that are written in a line are found
again, also if something follows a final `HALT`.  The rows that are found are instructions in a
line, and their encodings are just the bytes that they cover.  A disassembly fails exactly where a
run of instructions ends before an unknown byte or a `PUSH` that is cut off.  And its loop ends for
all bytes. -/
theorem disassemble_inverse :
    (∀ (instructions : List Instruction) (rest : List UInt8), Linear instructions →
      rest = [] ∨ instructions.getLast? = some ⟨.halt, none⟩ →
      disassemble (instructions.flatMap Instruction.encoding ++ rest).toArray =
        .ok (rowsFrom 0 instructions).toArray) ∧
    (∀ (bytes : Bytes) (rows : Array Row), disassemble bytes = .ok rows →
      Linear (rows.toList.map Row.instruction) ∧
        rows.toList = rowsFrom 0 (rows.toList.map Row.instruction) ∧
        rowsSize rows.toList ≤ bytes.size ∧
        rowsCode rows.toList = bytes.toList.take (rowsSize rows.toList) ∧
        (rowsSize rows.toList = bytes.size ∨
          (rows.toList.map Row.instruction).getLast? = some ⟨.halt, none⟩)) ∧
    (∀ (bytes : Bytes) (error : DisassemblyError), disassemble bytes = .error error ↔
      ∃ instructions stop, MaximalRun bytes instructions stop ∧ error.Describes bytes stop) ∧
    ∀ (bytes : Bytes) (rounds : Nat), bytes.size < rounds →
      Row.readWithin bytes rounds 0 #[] = some (disassemble bytes) := by
  refine ⟨?_, ?_, ?_, ?_⟩
  · intro instructions rest linear behind
    exact disassemble_eq_ok_iff.2 (linear.reads rfl behind)
  · intro bytes rows read
    have reads := disassemble_eq_ok_iff.1 read
    have inside := reads.add_rowsSize_le (Nat.zero_le _)
    have covers := reads.covers (Nat.zero_le _)
    rw [Nat.zero_add] at inside covers
    refine ⟨reads.linear, reads.eq_rowsFrom, inside, ?_, covers⟩
    rw [← reads.toList_extract, Array.toList_extract, List.extract_eq_take_drop, List.drop_zero,
      Nat.sub_zero]
  · intro bytes error
    rw [disassemble_eq_error_iff]
    constructor
    · exact Breaks.exists_maximalRun
    · rintro ⟨instructions, stop, run, describes⟩
      exact run.breaks describes
  · intro bytes rounds enough
    exact Row.readWithin_eq enough #[]

/-- Operand bytes that look like instructions are not read as such, and neither is what follows a
`HALT`; a `PUSH` with two bytes behind it is reported at its own address. -/
theorem disassemble_of_deceptive :
    disassemble #[0x0D, 0x16, 0x17, 0x0D, 0x16, 0x16, 0x0D, 0xFF] =
        .ok #[⟨0, .push, some 370609430⟩, ⟨5, .halt, none⟩] ∧
      rowsCode [⟨0, .push, some 370609430⟩, ⟨5, .halt, none⟩] =
        [0x0D, 0x16, 0x17, 0x0D, 0x16, 0x16] ∧
      disassemble #[0x00, 0x0D, 0x16, 0x16] = .error (.truncatedOperand 1) ∧
      Row.readWithin #[0x00, 0x0D, 0x16, 0x16] 5 0 #[] =
        some (disassemble #[0x00, 0x0D, 0x16, 0x16]) := by
  obtain ⟨encoded, found, failed, ends⟩ := disassemble_inverse
  have read := encoded [⟨.push, some 370609430⟩, ⟨.halt, none⟩] [0x0D, 0xFF] (by decide) (.inr rfl)
  have cut : DisassemblyError.Describes #[0x00, 0x0D, 0x16, 0x16] (.truncatedOperand 1) 1 :=
    .truncatedOperand rfl (by decide)
  have run : MaximalRun #[0x00, 0x0D, 0x16, 0x16] [⟨.nop, none⟩] 1 :=
    ⟨by decide, by decide, by decide, rfl, cut.maximal⟩
  exact ⟨read, (found _ _ read).2.2.2.1, (failed _ _).2 ⟨_, _, run, cut⟩, ends _ _ (by decide)⟩

end TwoStack
