import TwoStack.Proofs.Assembly.Calls
import TwoStack.Proofs.Disassembly.RoundTrip

/-!
# Programs as streams of instructions

What assembles is a whole number of instructions: decoding from address `0` on, also past a `HALT`,
never fails and arrives at the end of the code.  It meets every address that the assembler gives
out: those of the listing, the return addresses of calls, those of the labels, and so every word
that is filled in for a label (`assemble_streams`).

The bytes of a literal may look like an instruction, so it does not help to look at the bytes.  The
statements in front of an address end there, and their bytes are encodings of instructions
(`Assembly.Laid.meets`).
-/

namespace TwoStack

/-- A program that can be decoded as a whole, and whose addresses are met by decoding.  The places
are those that were filled in, each with the address that was written there. -/
structure Assembly.Streams (assembly : Assembly) (places : List (Nat × Nat)) : Prop where
  /-- Decoding arrives at the end. -/
  ends : Meets assembly.image.bytes 0 assembly.image.bytes.size
  /-- Decoding does not fail on its way. -/
  decodes : ∀ address, Meets assembly.image.bytes 0 address → address = assembly.image.bytes.size ∨
    ∃ instruction, Instruction.decode assembly.image.bytes address = .ok instruction
  listing : ∀ entry ∈ assembly.listing, Meets assembly.image.bytes 0 entry.address
  /-- A call begins with a `PUSH` of its return address. -/
  calls : ∀ entry ∈ assembly.listing, ∀ operand, entry.text = "CALL " ++ operand →
    Instruction.decode assembly.image.bytes entry.address =
        .ok ⟨.push, some (Int32.ofNat (entry.address + callSize))⟩ ∧
      Meets assembly.image.bytes 0 (entry.address + callSize)
  symbols : ∀ name address, (name, address) ∈ assembly.symbols →
    Meets assembly.image.bytes 0 address
  /-- What was filled in is the operand of a `PUSH`. -/
  patched : ∀ offset address, (offset, address) ∈ places → ∃ start, offset = start + 1 ∧
    Meets assembly.image.bytes 0 start ∧
    Instruction.decode assembly.image.bytes start = .ok ⟨.push, some (Int32.ofNat address)⟩ ∧
    Meets assembly.image.bytes 0 address

section Streams

variable {assembly : Assembly} {tokens : List Token} {front back : List Statement}
  {value : String → Word}

/-- Decoding meets the address where some first statements end. -/
theorem Assembly.Laid.meets (laid : assembly.Laid (front ++ back) value)
    (begins : Begins tokens (front ++ back) []) :
    Meets assembly.image.bytes 0 (codeSize front) := by
  obtain ⟨_, before, _⟩ := begins.split
  obtain ⟨instructions, formed, code⟩ := before.exists_instructions value 0
  have written : assembly.image.bytes.toList.drop 0 = instructions.flatMap Instruction.encoding ++
      placed (Statement.code value) (0 + codeSize front) back := by
    rw [List.drop_zero, laid.code, placed_append, code]
  have met := Meets.of_encodings formed written
  rwa [← code, length_placed_code, Nat.zero_add] at met

/-- The `PUSH` to which the operand of a statement belongs is met, with the word in its slot. -/
theorem Assembly.Laid.exists_push {keyword : OperandKeyword} {target : Operand}
    {token operandToken : Token}
    (laid : assembly.Laid (front ++ .operand keyword target token operandToken :: back) value)
    (begins : Begins tokens (front ++ .operand keyword target token operandToken :: back) []) :
    ∃ start, codeSize front + keyword.slot = start + 1 ∧ Meets assembly.image.bytes 0 start ∧
      Instruction.decode assembly.image.bytes start = .ok ⟨.push, some (target.word value)⟩ := by
  obtain ⟨rest, written⟩ := laid.drop_eq
  obtain ⟨before, after, split, slot⟩ :=
    keyword.exists_expansion_eq (codeSize front) (target.word value)
  have formed := keyword.wellFormed_of_mem_expansion (codeSize front) (target.word value)
  rw [split] at formed
  rw [Statement.code_operand, split, List.flatMap_append, List.flatMap_cons, List.append_assoc,
    List.append_assoc] at written
  have reached := Meets.of_encodings (List.forall_mem_append.1 formed).1 written
  have here : assembly.image.bytes.toList.drop
      (codeSize front + (before.flatMap Instruction.encoding).length) =
        Instruction.encoding ⟨.push, some (target.word value)⟩ ++
          (after.flatMap Instruction.encoding ++ rest) := by
    rw [← List.drop_drop, written, List.drop_left]
  exact ⟨codeSize front + (before.flatMap Instruction.encoding).length,
    by rw [← slot, Nat.add_assoc], (laid.meets begins).trans reached,
    (Instruction.wellFormed_push _).decode_eq here⟩

/-- A call begins with a `PUSH` of the address after it. -/
theorem Assembly.Laid.decode_call {target : Operand} {token operandToken : Token}
    (laid : assembly.Laid (front ++ .operand .call target token operandToken :: back) value) :
    Instruction.decode assembly.image.bytes (codeSize front) =
      .ok ⟨.push, some (Int32.ofNat (codeSize front + callSize))⟩ := by
  obtain ⟨rest, written⟩ := laid.drop_eq
  rw [Statement.code_operand, OperandKeyword.expansion, List.flatMap_cons,
    List.append_assoc] at written
  exact (Instruction.wellFormed_push _).decode_eq written

theorem Assembly.Laid.streams {statements : List Statement} {build : Build}
    (laid : assembly.Laid statements value) (begins : Begins tokens statements [])
    (addresses : Addresses value statements) (holds : build.Holds statements) :
    assembly.Streams build.draft.symbols.fixups := by
  have size : assembly.image.bytes.size = codeSize statements := by
    rw [← Array.length_toList, laid.code, length_placed_code]
  have ends : Meets assembly.image.bytes 0 assembly.image.bytes.size := by
    rw [← List.append_nil statements] at laid begins
    rw [size]
    exact laid.meets begins
  have declared {name : String} {address : Nat} {location : Location}
      (known : (name, address, location) ∈ placed Statement.declarations 0 statements) :
      Meets assembly.image.bytes 0 address := by
    obtain ⟨front, token, back, rfl, rfl⟩ := exists_label_of_placed known
    exact laid.meets begins
  refine ⟨ends, ?_, ?_, ?_, ?_, ?_⟩
  · intro address met
    rcases ends.total met with past | before
    · exact .inl (past.eq_of_ended (Nat.le_refl _))
    · cases before with
      | here => exact .inl rfl
      | later decoded _ => exact .inr ⟨_, decoded⟩
  · intro entry listed
    obtain ⟨front, statement, back, _, rfl, address, _⟩ := laid.exists_of_mem_listing listed
    rw [address]
    exact laid.meets begins
  · intro entry listed operand text
    obtain ⟨front, target, token, operandToken, back, rfl, address, _⟩ :=
      laid.exists_call begins listed text
    rw [address]
    refine ⟨laid.decode_call, ?_⟩
    rw [List.append_cons] at laid begins
    have after := laid.meets begins
    rwa [codeSize_append] at after
  · intro name address listed
    obtain ⟨location, known⟩ := (laid.symbols name address).1 listed
    exact declared known
  · intro offset address listed
    obtain ⟨name, location, known, usage, used, rfl⟩ := Symbols.mem_fixups_iff.1 listed
    rw [holds.known.used] at used
    rw [holds.known.declared] at known
    obtain ⟨front, keyword, token, operandToken, back, rfl, rfl⟩ := exists_operand_of_placed used
    obtain ⟨start, slot, met, decoded⟩ := laid.exists_push begins
    rw [Operand.word, addresses _ _ _ known] at decoded
    exact ⟨start, slot, met, decoded, declared known⟩

end Streams

/-- What assembles is a stream of instructions, with the places that the build of its statements
fills in, and it can be disassembled. -/
theorem assemble_streams {source : String} {assembly : Assembly}
    (assembled : assemble source = .ok assembly) :
    (∃ build, Build.empty.addAll (Statement.parse (tokenize source)).1.toList = .ok build ∧
      assembly.Streams build.draft.symbols.fixups) ∧
    ∃ rows, disassemble assembly.image.bytes = .ok rows := by
  obtain ⟨statements, value, program, addresses, laid⟩ := exists_laid assembled
  have parsed := program.begins.parse_eq
  rw [Array.toArray_toList] at parsed
  obtain ⟨build, added, holds⟩ := Build.addAll_of_distinct program.distinct program.small
  obtain ⟨rows, reads⟩ := exists_reads_of_assemble assembled
  refine ⟨⟨build, ?_, laid.streams program.begins addresses holds⟩, rows.toArray,
    disassemble_eq_ok_iff.2 reads⟩
  rw [parsed]
  exact added

/-- A literal whose bytes are those of `HALT`, `JMP`, `PUSH` and `HALT`, between a call and its
label: decoding goes over it, and over the first `HALT`. -/
theorem assemble_streams_over_literal :
    ∃ assembly, assemble "CALL f HALT PUSH 369757462 f: POPIP" = .ok assembly ∧
      assembly.symbols = [("f", 18)] ∧ assembly.image.bytes.size = 19 ∧
      assembly.image.bytes.extract 12 18 = #[0x16, 0x0D, 0x16, 0x0A, 0x0D, 0x16] ∧
      Meets assembly.image.bytes 0 18 ∧ Meets assembly.image.bytes 0 19 ∧
      ∃ rows, disassemble assembly.image.bytes = .ok rows := by
  have made : (assemble "CALL f HALT PUSH 369757462 f: POPIP").toOption.map
      (fun assembly => (assembly.symbols, assembly.image.bytes.size,
        assembly.image.bytes.extract 12 18)) =
      some ([("f", 18)], 19, #[0x16, 0x0D, 0x16, 0x0A, 0x0D, 0x16]) := by
    decide +kernel
  rcases assembled : assemble "CALL f HALT PUSH 369757462 f: POPIP" with _ | assembly
  · rw [assembled] at made
    cases made
  · rw [assembled, Except.toOption, Option.map_some, Option.some.injEq, Prod.mk.injEq,
      Prod.mk.injEq] at made
    obtain ⟨symbols, size, bytes⟩ := made
    obtain ⟨⟨build, _, streams⟩, rows⟩ := assemble_streams assembled
    have ends := streams.ends
    rw [size] at ends
    have label := streams.symbols "f" 18 (by rw [symbols]; exact List.mem_singleton_self _)
    exact ⟨assembly, rfl, symbols, size, bytes, label, ends, rows⟩

end TwoStack
