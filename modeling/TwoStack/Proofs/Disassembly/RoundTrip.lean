import TwoStack.Proofs.Assembly.Outcome
import TwoStack.Proofs.Disassembly.Linear
import TwoStack.Proofs.Source.Scan
import TwoStack.Proofs.Text.Decimal

/-!
# Disassembly and assembly

The rows of a disassembly are printed as source text.  Read again, the text has the words of the
instructions for tokens (`words_printRows`), these are statements (`exists_spelled`), and the
statements become the bytes of the rows.  So what a disassembly covers is assembled again
(`assemble_printRows`).
-/

namespace TwoStack

/-! ## The words of a disassembly -/

namespace Instruction

/-- An instruction in words: the mnemonic, and the operand of `PUSH`. -/
def words (instruction : Instruction) : List String :=
  instruction.opcode.mnemonic ::
    match instruction.operand with
    | some word => [word.text]
    | none => []

end Instruction

namespace Scanner

theorem solid_of_toNat {c : Char} (visible : 32 < c.toNat) (plain : c.toNat ≠ 59) : Solid c := by
  constructor
  · by_contra separates
    rw [Bool.not_eq_false] at separates
    simp only [isSeparator, Bool.or_eq_true, beq_iff_eq] at separates
    rcases separates with (((rfl | rfl) | rfl) | rfl) | rfl <;> exact absurd visible (by decide)
  · rintro rfl
    exact plain rfl

theorem solid_of_mem_mnemonic {opcode : Opcode} {c : Char} (listed : c ∈ opcode.mnemonic.toList) :
    Solid c := by
  have capital : 'A'.val ≤ c.val ∧ c.val ≤ 'Z'.val :=
    of_decide_eq_true ((Keyword.plain opcode).isUpper_of_mem_name c listed)
  have least : 65 ≤ c.toNat := capital.1
  exact solid_of_toNat (by omega) (by omega)

theorem solid_of_mem_text {word : Word} {c : Char} (listed : c ∈ word.text.toList) : Solid c := by
  rcases Word.isDigit_or_minus listed with digit | rfl
  · have range := Char.isDigit_iff_toNat.1 digit
    have least : '0'.toNat = 48 := rfl
    have most : '9'.toNat = 57 := rfl
    exact solid_of_toNat (by omega) (by omega)
  · exact solid_of_toNat (by decide) (by decide)

/-- A line with an instruction is read as its words. -/
theorem Idle.line {scanner : Scanner} (idle : scanner.Idle) {instruction : Instruction}
    (formed : instruction.WellFormed) :
    (scanner.feedAll (instruction.text.toList ++ ['\n'])).Idle ∧
      (scanner.feedAll (instruction.text.toList ++ ['\n'])).texts =
        scanner.texts ++ instruction.words := by
  have mnemonic (opcode : Opcode) : opcode.mnemonic.toList ≠ [] :=
    (Keyword.plain opcode).name_ne_empty
  rcases formed.push_or_plain with ⟨word, rfl⟩ | ⟨opcode, plain, rfl⟩
  · have split : (Instruction.text ⟨.push, some word⟩).toList ++ ['\n'] =
        (Opcode.push.mnemonic.toList ++ [' ']) ++ (word.text.toList ++ ['\n']) := by
      rw [Instruction.text, String.toList_append, String.toList_append, List.append_assoc]
      rfl
    obtain ⟨between, first⟩ := idle.word (mnemonic .push) (fun c => solid_of_mem_mnemonic)
      (show isSeparator ' ' = true from rfl)
    obtain ⟨after, second⟩ := between.word word.toList_text_ne_nil (fun c => solid_of_mem_text)
      (show isSeparator '\n' = true from rfl)
    rw [split, feedAll_append]
    refine ⟨after, ?_⟩
    rw [second, first, List.append_assoc, String.ofList_toList, String.ofList_toList]
    rfl
  · obtain ⟨after, read⟩ := idle.word (mnemonic opcode) (fun c => solid_of_mem_mnemonic)
      (show isSeparator '\n' = true from rfl)
    refine ⟨after, read.trans ?_⟩
    rw [String.ofList_toList]
    rfl

theorem Idle.lines {scanner : Scanner} (idle : scanner.Idle) {rows : List Row}
    (formed : ∀ row ∈ rows, row.instruction.WellFormed) :
    (scanner.feedAll (rows.flatMap fun row => row.instruction.text.toList ++ ['\n'])).Idle ∧
      (scanner.feedAll (rows.flatMap fun row => row.instruction.text.toList ++ ['\n'])).texts =
        scanner.texts ++ rows.flatMap fun row => row.instruction.words := by
  induction rows generalizing scanner with
  | nil => exact ⟨idle, (List.append_nil _).symm⟩
  | cons row rows ih =>
      rw [List.forall_mem_cons] at formed
      obtain ⟨between, first⟩ := idle.line formed.1
      obtain ⟨after, more⟩ := ih between formed.2
      rw [List.flatMap_cons, feedAll_append, List.flatMap_cons, ← List.append_assoc, ← first]
      exact ⟨after, more⟩

end Scanner

theorem toList_printRows (rows : Array Row) :
    (printRows rows).toList =
      rows.toList.flatMap fun row => row.instruction.text.toList ++ ['\n'] := by
  have fold (rows : List Row) (text : String) :
      (rows.foldl (fun text row => text ++ row.instruction.text ++ "\n") text).toList =
        text.toList ++ rows.flatMap fun row => row.instruction.text.toList ++ ['\n'] := by
    induction rows generalizing text with
    | nil => exact (List.append_nil _).symm
    | cons row rows ih =>
        rw [List.foldl_cons, ih, List.flatMap_cons, String.toList_append, String.toList_append,
          List.append_assoc, List.append_assoc, List.append_assoc]
        rfl
  rw [printRows, ← Array.foldl_toList, fold]
  rfl

/-- The tokens of a printed disassembly are the words of its instructions. -/
theorem words_printRows {rows : Array Row}
    (formed : ∀ row ∈ rows.toList, row.instruction.WellFormed) :
    (tokenize (printRows rows)).toList.map Token.text =
      rows.toList.flatMap fun row => row.instruction.words := by
  obtain ⟨idle, read⟩ := Scanner.idle_start.lines formed
  rw [tokenize, toList_printRows]
  refine (Scanner.texts_close _).trans ?_
  rw [if_pos idle.closed, read]
  rfl

/-! ## Statements of instructions -/

/-- Statements that spell instructions, one for each. -/
inductive Spelled : List Instruction → List Statement → Prop
  | done : Spelled [] []
  | plain {opcode : Opcode} {token : Token} {instructions : List Instruction}
    {statements : List Statement} (plain : opcode ≠ .push)
    (more : Spelled instructions statements) :
    Spelled (⟨opcode, none⟩ :: instructions) (.plain opcode token :: statements)
  | push {word : Word} {token operandToken : Token} {instructions : List Instruction}
    {statements : List Statement} (more : Spelled instructions statements) :
    Spelled (⟨.push, some word⟩ :: instructions)
      (.operand .push (.literal word) token operandToken :: statements)

theorem Keyword.ofName?_mnemonic (opcode : Opcode) :
    Keyword.ofName? opcode.mnemonic = some (Keyword.ofOpcode opcode) := by
  rw [Keyword.ofName?, Opcode.ofMnemonic?_mnemonic]

theorem Keyword.ofOpcode_of_ne_push {opcode : Opcode} (plain : opcode ≠ .push) :
    Keyword.ofOpcode opcode = .plain opcode := by
  cases opcode <;> first | rfl | exact absurd rfl plain

/-- Words of instructions are read as statements that spell them. -/
theorem exists_spelled {instructions : List Instruction} {tokens : List Token}
    (formed : ∀ instruction ∈ instructions, instruction.WellFormed)
    (words : tokens.map Token.text = instructions.flatMap Instruction.words) :
    ∃ statements, Begins tokens statements [] ∧ Spelled instructions statements := by
  induction instructions generalizing tokens with
  | nil =>
      rw [List.flatMap_nil, List.map_eq_nil_iff] at words
      subst words
      exact ⟨[], .done [], .done⟩
  | cons instruction instructions ih =>
      rw [List.forall_mem_cons] at formed
      rw [List.flatMap_cons] at words
      rcases formed.1.push_or_plain with ⟨word, rfl⟩ | ⟨opcode, plain, rfl⟩
      · obtain ⟨token, tokens, rfl, first, words⟩ := List.map_eq_cons_iff.1 words
        obtain ⟨operandToken, tokens, rfl, second, words⟩ := List.map_eq_cons_iff.1 words
        obtain ⟨statements, begins, spelled⟩ := ih formed.2 words
        have written : Keyword.ofName? token.text = some (.operand .push) := by
          rw [first, Keyword.ofName?_mnemonic]
          rfl
        have means : Operand.Means operandToken.text (.literal word) := by
          rw [second]
          exact .literal word.integerLiteral?_text (Word.ofInt?_toInt word)
        exact ⟨_, .operand written means begins, .push spelled⟩
      · obtain ⟨token, tokens, rfl, first, words⟩ := List.map_eq_cons_iff.1 words
        obtain ⟨statements, begins, spelled⟩ := ih formed.2 words
        have written : Keyword.ofName? token.text = some (.plain opcode) := by
          rw [first, Keyword.ofName?_mnemonic, Keyword.ofOpcode_of_ne_push plain]
        exact ⟨_, .plain written begins, .plain plain spelled⟩

namespace Spelled

variable {instructions : List Instruction} {statements : List Statement}

theorem codeSize_eq (spelled : Spelled instructions statements) :
    codeSize statements = (instructions.map Instruction.size).sum := by
  induction spelled with
  | done => rfl
  | plain plain more ih =>
      rw [codeSize_cons, ih, List.map_cons, List.sum_cons, Instruction.size_plain plain]
      rfl
  | push more ih =>
      rw [codeSize_cons, ih, List.map_cons, List.sum_cons]
      rfl

theorem code_eq (spelled : Spelled instructions statements) (value : String → Word)
    (address : Nat) :
    placed (Statement.code value) address statements =
      instructions.flatMap Instruction.encoding := by
  induction spelled generalizing address with
  | done => rfl
  | plain plain more ih =>
      rw [placed, ih, List.flatMap_cons]
      rfl
  | push more ih =>
      rw [placed, ih, List.flatMap_cons]
      rfl

theorem declarations_eq (spelled : Spelled instructions statements) (address : Nat) :
    placed Statement.declarations address statements = [] := by
  induction spelled generalizing address with
  | done => rfl
  | plain plain more ih => exact ih _
  | push more ih => exact ih _

theorem uses_eq (spelled : Spelled instructions statements) (address : Nat) :
    placed Statement.uses address statements = [] := by
  induction spelled generalizing address with
  | done => rfl
  | plain plain more ih => exact ih _
  | push more ih => exact ih _

theorem isProgram (spelled : Spelled instructions statements) {tokens : List Token}
    (begins : Begins tokens statements [])
    (fits : (instructions.map Instruction.size).sum ≤ memorySize) :
    IsProgram tokens statements := by
  refine ⟨begins, ?_, ?_, by rwa [spelled.codeSize_eq]⟩
  · rw [← map_fst_placed_declarations 0, spelled.declarations_eq]
    exact List.nodup_nil
  · intro name usage used
    rw [spelled.uses_eq] at used
    cases used

end Spelled

/-- Every row is listed at its address. -/
theorem Reads.starts_eq {bytes : Bytes} {address : Nat} {rows : List Row}
    (reads : Reads bytes address rows) {statements : List Statement}
    (spelled : Spelled (rows.map Row.instruction) statements) :
    (placed Statement.spans address statements).map Span.start = rows.map Row.address := by
  induction reads generalizing statements with
  | done ended =>
      cases spelled
      rfl
  | halt decoded halts =>
      cases spelled with
      | plain plain more =>
          cases more
          rfl
      | push more =>
          cases more
          rfl
  | next decoded goes reads ih =>
      cases spelled with
      | plain plain more =>
          rw [Instruction.size_plain plain] at ih
          exact congrArg (_ :: ·) (ih more)
      | push more => exact congrArg (_ :: ·) (ih more)

/-! ## The round trip -/

section RoundTrip

variable {bytes : Bytes} {rows : Array Row}

theorem exists_assembly_of_reads (reads : Reads bytes 0 rows.toList)
    (fits : bytes.size ≤ memorySize) :
    ∃ assembly, assemble (printRows rows) = .ok assembly ∧ assembly.symbols = [] ∧
      assembly.listing.map ListingEntry.address = rows.map Row.address ∧
      assembly.image.bytes = bytes.extract 0 (rowsSize rows.toList) := by
  have covered := reads.add_rowsSize_le (Nat.zero_le _)
  rw [Nat.zero_add] at covered
  have formed : ∀ instruction ∈ rows.toList.map Row.instruction, instruction.WellFormed := by
    rw [List.forall_mem_map]
    exact reads.wellFormed
  have words := words_printRows reads.wellFormed
  obtain ⟨statements, begins, spelled⟩ :=
    exists_spelled formed (words.trans (List.flatMap_map ..).symm)
  have size :
      ((rows.toList.map Row.instruction).map Instruction.size).sum = rowsSize rows.toList := by
    rw [List.map_map]
    rfl
  have program := spelled.isProgram begins (by rw [size]; exact Nat.le_trans covered fits)
  obtain ⟨value, addresses⟩ := exists_addresses program.distinct
  obtain ⟨assembly, assembled, laid⟩ := program.assemble_eq addresses
  refine ⟨assembly, assembled, ?_, ?_, ?_⟩
  · rw [List.eq_nil_iff_forall_not_mem]
    rintro ⟨name, address⟩ listed
    obtain ⟨location, declared⟩ := (laid.symbols name address).1 listed
    rw [spelled.declarations_eq] at declared
    cases declared
  · apply Array.toList_inj.1
    rw [Array.toList_map, Array.toList_map, laid.listing, List.map_map]
    exact reads.starts_eq spelled
  · have code := laid.code.trans (spelled.code_eq value 0)
    rw [List.flatMap_map] at code
    apply Array.toList_inj.1
    rw [reads.toList_extract]
    exact code

/-- The bytes of statements are encodings of instructions. -/
theorem Begins.exists_instructions {tokens rest : List Token} {statements : List Statement}
    (begins : Begins tokens statements rest) (value : String → Word) (address : Nat) :
    ∃ instructions : List Instruction,
      (∀ instruction ∈ instructions, instruction.WellFormed) ∧
        placed (Statement.code value) address statements =
          instructions.flatMap Instruction.encoding := by
  induction begins generalizing address with
  | done rest => exact ⟨[], List.forall_mem_nil _, rfl⟩
  | label declares more ih => exact ih address
  | @plain token opcode tokens rest statements written more ih =>
      obtain ⟨instructions, formed, code⟩ := ih (address + 1)
      have plain := Instruction.wellFormed_plain (Keyword.plain_ne_push written)
      exact ⟨⟨opcode, none⟩ :: instructions, List.forall_mem_cons.2 ⟨plain, formed⟩,
        congrArg (opcode.toByte :: ·) code⟩
  | @operand token operandToken keyword target tokens rest statements written means more ih =>
      obtain ⟨instructions, formed, code⟩ :=
        ih (address + (Statement.operand keyword target token operandToken).size)
      refine ⟨keyword.expansion address (target.word value) ++ instructions, ?_, ?_⟩
      · exact List.forall_mem_append.2 ⟨keyword.wellFormed_of_mem_expansion _ _, formed⟩
      · rw [placed, code, Statement.code_operand, List.flatMap_append]

/-- What is assembled can be disassembled. -/
theorem exists_reads_of_assemble {source : String} {assembly : Assembly}
    (assembled : assemble source = .ok assembly) :
    ∃ rows, Reads assembly.image.bytes 0 rows := by
  obtain ⟨statements, program⟩ := exists_isProgram assembled
  obtain ⟨value, addresses⟩ := exists_addresses program.distinct
  obtain ⟨same, again, laid⟩ := program.assemble_eq addresses
  rw [assembled] at again
  cases again
  obtain ⟨instructions, formed, code⟩ := program.begins.exists_instructions value 0
  exact exists_reads formed (laid.code.trans code)

/-- A disassembly is assembled to the bytes that its rows cover, and to all bytes if none of its
rows is a `HALT` with bytes after it.  So a program that was assembled, disassembled and assembled
again is the same up to and including the first `HALT` that linear decoding meets. -/
theorem assemble_printRows :
    (∀ (bytes : Bytes) (rows : Array Row), bytes.size ≤ memorySize → disassemble bytes = .ok rows →
      ∃ assembly, assemble (printRows rows) = .ok assembly ∧ assembly.symbols = [] ∧
        assembly.listing.map ListingEntry.address = rows.map Row.address ∧
        assembly.image.bytes = bytes.extract 0 (rowsSize rows.toList) ∧
        ((∀ row ∈ rows, row.instruction.opcode = .halt → row.address + row.size = bytes.size) →
          assembly.image.bytes = bytes)) ∧
    ∀ (source : String) (first : Assembly), assemble source = .ok first →
      ∃ rows second, disassemble first.image.bytes = .ok rows ∧
        assemble (printRows rows) = .ok second ∧
        ((∃ halt, FirstHalt first.image.bytes 0 halt ∧
            second.image.bytes = first.image.bytes.extract 0 (halt + 1)) ∨
          (∀ address, Meets first.image.bytes 0 address →
            Instruction.decode first.image.bytes address ≠ .ok ⟨.halt, none⟩) ∧
            second.image.bytes = first.image.bytes) := by
  constructor
  · intro bytes rows fits read
    have reads := disassemble_eq_ok_iff.1 read
    obtain ⟨assembly, assembled, symbols, listing, image⟩ := exists_assembly_of_reads reads fits
    refine ⟨assembly, assembled, symbols, listing, image, fun last => ?_⟩
    have whole := reads.add_rowsSize_eq (Nat.zero_le _) (fun row listed => last row
      (Array.mem_toList_iff.1 listed))
    rw [Nat.zero_add] at whole
    rw [image, whole, Array.extract_size]
  · intro source first assembled
    obtain ⟨rows, reads⟩ := exists_reads_of_assemble assembled
    obtain ⟨second, again, _, _, image⟩ :=
      @exists_assembly_of_reads first.image.bytes rows.toArray reads first.image.size_le
    refine ⟨rows.toArray, second, disassemble_eq_ok_iff.2 reads, again, ?_⟩
    rcases reads.stops (Nat.zero_le _) with ⟨halt, met, stop⟩ | ⟨free, stop⟩
    · rw [Nat.zero_add] at stop
      exact .inl ⟨halt, met, by rw [image, ← stop]⟩
    · rw [Nat.zero_add] at stop
      exact .inr ⟨free, by rw [image, stop, Array.extract_size]⟩

/-- The least word is printed and read back, and the byte after `HALT` is cut off. -/
theorem assemble_printRows_of_least :
    disassemble #[0x0D, 0x80, 0, 0, 0, 0x16, 0xFF] =
        .ok #[⟨0, .push, some (-2147483648)⟩, ⟨5, .halt, none⟩] ∧
      ∃ assembly,
        assemble (printRows #[⟨0, .push, some (-2147483648)⟩, ⟨5, .halt, none⟩]) = .ok assembly ∧
          assembly.image.bytes = #[0x0D, 0x80, 0, 0, 0, 0x16] := by
  have read : disassemble #[0x0D, 0x80, 0, 0, 0, 0x16, 0xFF] =
      .ok #[⟨0, .push, some (-2147483648)⟩, ⟨5, .halt, none⟩] :=
    disassemble_eq_ok_iff.2 (.next rfl (by decide) (.halt rfl rfl))
  obtain ⟨assembly, assembled, _, _, image, _⟩ := assemble_printRows.1 _ _ (by decide) read
  exact ⟨read, assembly, assembled, image⟩

end RoundTrip

end TwoStack
