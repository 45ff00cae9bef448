import TwoStack.Proofs.Assembly.Outcome

/-!
# Calls in a program

A listing shows a call as it is written, `CALL name`.  If the name is that of a label, the twelve
bytes at the call are four instructions: `PUSH` of the address after them, `PUSHIP`, `PUSH` of the
address of the label, `JMP` (`Assembly.Calls.drop_eq`).

That the entry is a call has to be read off its text.  The other entries have other texts: keywords
are spelled in capital letters, so a plain statement has no blank in it, and `PUSH` begins with
another letter.
-/

namespace TwoStack

/-- The listing has `CALL name` at `site`, and `name` is a label with the address `target`. -/
structure Assembly.Calls (assembly : Assembly) (name : String) (site target : Nat) : Prop where
  listed : ∃ entry ∈ assembly.listing, entry.address = site ∧ entry.text = "CALL " ++ name
  label : Operand.ofText .call name = .ok (.label name)
  declared : (name, target) ∈ assembly.symbols

/-- The instructions that a call of `target` at `site` stands for. -/
def callInstructions (site target : Nat) : List Instruction :=
  [⟨.push, some (Int32.ofNat (site + 12))⟩, ⟨.pushIp, none⟩, ⟨.push, some (Int32.ofNat target)⟩,
    ⟨.jmp, none⟩]

/-! ## The text of an entry -/

/-- No keyword is spelled with a blank. -/
theorem Keyword.blank_not_mem_name (keyword : Keyword) : ' ' ∉ keyword.name.toList := by
  intro found
  have upper := keyword.isUpper_of_mem_name ' ' found
  cases upper

theorem callText_ne_plain {text name : String} {opcode : Opcode}
    (written : Keyword.ofName? text = some (.plain opcode)) : text ≠ "CALL " ++ name := by
  rintro rfl
  apply (Keyword.plain opcode).blank_not_mem_name
  rw [Keyword.name_of_ofName? written, String.toList_append]
  exact List.mem_append_left _ (by decide)

/-- Only a call has the text of a call, and the text shows its operand. -/
theorem eq_call_of_text {text operandText name : String} {keyword : OperandKeyword}
    (written : Keyword.ofName? text = some (.operand keyword))
    (same : text ++ " " ++ operandText = "CALL " ++ name) :
    keyword = .call ∧ operandText = name := by
  have spelled : keyword.name = text := Keyword.name_of_ofName? written
  rw [← spelled, ← String.toList_inj, String.toList_append, String.toList_append,
    String.toList_append] at same
  -- both keywords have four letters, so what stands after them is told apart by its place
  obtain ⟨keywords, operands⟩ := List.append_inj same (by cases keyword <;> decide)
  refine ⟨?_, String.toList_inj.1 operands⟩
  cases keyword with
  | push => exact absurd keywords (by decide)
  | call => rfl

/-! ## The code of a call -/

/-- The entries of a listing are the statements that are listed, each at its address. -/
theorem Assembly.Laid.exists_of_mem_listing {assembly : Assembly} {statements : List Statement}
    {value : String → Word} (laid : assembly.Laid statements value) {entry : ListingEntry}
    (listed : entry ∈ assembly.listing) :
    ∃ front statement back location, statements = front ++ statement :: back ∧
      entry.address = codeSize front ∧ statement.listed? = some (entry.text, location) := by
  rw [← Array.mem_toList_iff, laid.listing] at listed
  obtain ⟨span, placed, rfl⟩ := List.mem_map.1 listed
  obtain ⟨front, statement, back, split, here⟩ := mem_placed_iff.1 placed
  obtain ⟨⟨text, location⟩, shown, rfl⟩ := List.mem_map.1 here
  exact ⟨front, statement, back, location, split, Nat.zero_add _, Option.mem_toList.1 shown⟩

theorem Statement.code_call (value : String → Word) (site : Nat) {name : String} {target : Nat}
    (known : value name = Int32.ofNat target) (token operandToken : Token) :
    (Statement.operand .call (.label name) token operandToken).code value site =
      (callInstructions site target).flatMap Instruction.encoding := by
  rw [Statement.code_operand, Operand.word, known]
  rfl

/-- Where a statement stands in the code. -/
theorem Assembly.Laid.drop_eq {assembly : Assembly} {front back : List Statement}
    {statement : Statement} {value : String → Word}
    (laid : assembly.Laid (front ++ statement :: back) value) :
    ∃ rest, assembly.image.bytes.toList.drop (codeSize front) =
      statement.code value (codeSize front) ++ rest := by
  rw [laid.code, placed_append, placed, Nat.zero_add]
  exact ⟨_, List.drop_left' (length_placed_code value 0 front)⟩

/-- What assembles is laid out with the addresses of its labels. -/
theorem exists_laid {source : String} {assembly : Assembly}
    (assembled : assemble source = .ok assembly) :
    ∃ statements value, IsProgram (tokenize source).toList statements ∧
      Addresses value statements ∧ assembly.Laid statements value := by
  obtain ⟨statements, program⟩ := exists_isProgram assembled
  obtain ⟨value, addresses⟩ := exists_addresses program.distinct
  obtain ⟨made, again, laid⟩ := program.assemble_eq addresses
  rw [assembled] at again
  cases again
  exact ⟨statements, value, program, addresses, laid⟩

/-- An entry with the text of a call is a call, and its operand is what the text shows. -/
theorem Assembly.Laid.exists_call {assembly : Assembly} {tokens : List Token}
    {statements : List Statement} {value : String → Word} (laid : assembly.Laid statements value)
    (begins : Begins tokens statements []) {entry : ListingEntry} {name : String}
    (listed : entry ∈ assembly.listing) (text : entry.text = "CALL " ++ name) :
    ∃ front target token operandToken back,
      statements = front ++ .operand .call target token operandToken :: back ∧
        entry.address = codeSize front ∧ Operand.Means name target := by
  obtain ⟨front, statement, back, _, rfl, address, shown⟩ := laid.exists_of_mem_listing listed
  obtain ⟨_, _, after⟩ := begins.split
  rw [text] at shown
  cases after with
  | label declares more => cases shown
  | plain written more =>
      rw [Statement.listed?, Option.some.injEq, Prod.mk.injEq] at shown
      exact absurd shown.1 (callText_ne_plain written)
  | operand written means more =>
      rw [Statement.listed?, Option.some.injEq, Prod.mk.injEq] at shown
      obtain ⟨rfl, rfl⟩ := eq_call_of_text written shown.1
      exact ⟨front, _, _, _, back, rfl, address, means⟩

/-- At a call of a label stand the four instructions that push the address after the call on the
instruction stack and jump to the label. -/
theorem Assembly.Calls.drop_eq {source : String} {assembly : Assembly}
    (assembled : assemble source = .ok assembly) {name : String} {site target : Nat}
    (calls : assembly.Calls name site target) :
    ∃ rest, assembly.image.bytes.toList.drop site =
      (callInstructions site target).flatMap Instruction.encoding ++ rest := by
  obtain ⟨statements, value, program, addresses, laid⟩ := exists_laid assembled
  obtain ⟨location, declared⟩ := (laid.symbols name target).1 calls.declared
  obtain ⟨entry, listed, rfl, text⟩ := calls.listed
  obtain ⟨front, label, token, operandToken, back, rfl, address, means⟩ :=
    laid.exists_call program.begins listed text
  have same := (Operand.ofText_of_means .call means).symm.trans calls.label
  cases same
  obtain ⟨rest, written⟩ := laid.drop_eq
  refine ⟨rest, ?_⟩
  rw [address, written, Statement.code_call value _ (addresses _ _ _ declared)]

end TwoStack
