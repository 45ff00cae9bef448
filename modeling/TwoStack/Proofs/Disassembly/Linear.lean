import TwoStack.Disassembly
import TwoStack.Proofs.Instruction.Encoding

/-!
# Linear decoding

`Reads bytes address rows` says that the rows are those that a disassembly from `address` on finds,
and `disassemble` finds just them (`disassemble_eq_ok_iff`).  The bytes from `address` on begin with
the encodings of the rows (`Reads.drop_eq`), and bytes that are encodings of instructions can be
read (`exists_reads`).

Where the reading stops is said without the rows.  `Meets bytes start address` says that decoding
one instruction after the other from `start` on, also past a `HALT`, arrives at `address`.  The
rows cover the bytes up to the first `HALT` that is met, or to the end if none is (`Reads.stops`).
-/

namespace TwoStack

/-! ## Rows -/

/-- The rows that are read from an address on. -/
inductive Reads (bytes : Bytes) : Nat → List Row → Prop
  | done {address : Nat} (ended : bytes.size ≤ address) : Reads bytes address []
  | halt {address : Nat} {instruction : Instruction}
    (decoded : Instruction.decode bytes address = .ok instruction)
    (halts : instruction.opcode = .halt) : Reads bytes address [⟨address, instruction⟩]
  | next {address : Nat} {instruction : Instruction} {rows : List Row}
    (decoded : Instruction.decode bytes address = .ok instruction)
    (goes : instruction.opcode ≠ .halt)
    (more : Reads bytes (address + instruction.size) rows) :
    Reads bytes address (⟨address, instruction⟩ :: rows)

theorem Instruction.decode_eq_outOfRange_iff {bytes : Bytes} {address : Nat} :
    Instruction.decode bytes address = .error .outOfRange ↔ bytes.size ≤ address := by
  rw [← Array.getElem?_eq_none_iff]
  unfold Instruction.decode
  split
  · next absent => exact ⟨fun _ => absent, fun _ => rfl⟩
  · next byte found =>
      rw [found]
      refine ⟨fun refused => ?_, nofun⟩
      split at refused
      · cases refused
      · split at refused <;> cases refused
      · cases refused

theorem Row.readFrom_of_ended {bytes : Bytes} {address : Nat} (ended : bytes.size ≤ address)
    (before : Array Row) : Row.readFrom bytes address before = .ok before := by
  have refused := Instruction.decode_eq_outOfRange_iff.2 ended
  rw [Row.readFrom]
  split
  · rfl
  · next other => rw [refused] at other; cases other
  · next other => rw [refused] at other; cases other
  · next other => rw [refused] at other; cases other

theorem Row.readFrom_of_decode {bytes : Bytes} {address : Nat} {instruction : Instruction}
    (decoded : Instruction.decode bytes address = .ok instruction) (before : Array Row) :
    Row.readFrom bytes address before =
      if instruction.opcode = .halt then .ok (before.push ⟨address, instruction⟩)
      else
        Row.readFrom bytes (address + instruction.size) (before.push ⟨address, instruction⟩) := by
  rw [Row.readFrom]
  split
  · next other => rw [decoded] at other; cases other
  · next other => rw [decoded] at other; cases other
  · next other => rw [decoded] at other; cases other
  · next other =>
      rw [decoded] at other
      cases other
      rfl

theorem Reads.readFrom_eq {bytes : Bytes} {address : Nat} {rows : List Row}
    (reads : Reads bytes address rows) (before : Array Row) :
    Row.readFrom bytes address before = .ok (before ++ rows.toArray) := by
  induction reads generalizing before with
  | done ended => simp [Row.readFrom_of_ended ended]
  | halt decoded halts =>
      rw [Row.readFrom_of_decode decoded, if_pos halts]
      simp
  | next decoded goes more ih =>
      rw [Row.readFrom_of_decode decoded, if_neg goes, ih]
      simp

theorem exists_reads_of_readFrom {bytes : Bytes} {address : Nat} {before rows : Array Row}
    (read : Row.readFrom bytes address before = .ok rows) :
    ∃ more, rows = before ++ more.toArray ∧ Reads bytes address more := by
  fun_induction Row.readFrom bytes address before with
  | case1 address before ended =>
      cases read
      exact ⟨[], by simp, .done (Instruction.decode_eq_outOfRange_iff.1 ended)⟩
  | case2 => cases read
  | case3 => cases read
  | case4 address before instruction decoded halts =>
      cases read
      exact ⟨_, by simp, .halt decoded halts⟩
  | case5 address before instruction decoded goes _ _ ih =>
      obtain ⟨more, same, reads⟩ := ih read
      exact ⟨_, by rw [same]; simp, .next decoded goes reads⟩

/-- A disassembly finds the rows that are read from the first byte on. -/
theorem disassemble_eq_ok_iff {bytes : Bytes} {rows : Array Row} :
    disassemble bytes = .ok rows ↔ Reads bytes 0 rows.toList := by
  constructor
  · intro read
    obtain ⟨more, rfl, reads⟩ := exists_reads_of_readFrom read
    simpa using reads
  · intro reads
    rw [disassemble, reads.readFrom_eq]
    simp

/-! ## Bytes -/

/-- The number of bytes that rows occupy. -/
def rowsSize (rows : List Row) : Nat := (rows.map Row.size).sum

/-- The bytes of rows. -/
def rowsCode (rows : List Row) : List UInt8 := rows.flatMap fun row => row.instruction.encoding

theorem rowsSize_cons (row : Row) (rows : List Row) :
    rowsSize (row :: rows) = row.size + rowsSize rows := by
  rw [rowsSize, List.map_cons, List.sum_cons, rowsSize]

theorem rowsCode_cons (row : Row) (rows : List Row) :
    rowsCode (row :: rows) = row.instruction.encoding ++ rowsCode rows := by
  rw [rowsCode, List.flatMap_cons, rowsCode]

section Reads

variable {bytes : Bytes} {address : Nat} {rows : List Row}

theorem Reads.wellFormed (reads : Reads bytes address rows) :
    ∀ row ∈ rows, row.instruction.WellFormed := by
  induction reads with
  | done ended => exact nofun
  | halt decoded halts =>
      rw [List.forall_mem_singleton]
      exact Instruction.wellFormed_of_decode decoded
  | next decoded goes more ih =>
      rw [List.forall_mem_cons]
      exact ⟨Instruction.wellFormed_of_decode decoded, ih⟩

/-- The bytes from an address on begin with the bytes of the rows read there. -/
theorem Reads.drop_eq (reads : Reads bytes address rows) :
    bytes.toList.drop address = rowsCode rows ++ bytes.toList.drop (address + rowsSize rows) := by
  induction reads with
  | done ended => rfl
  | halt decoded halts =>
      rw [rowsCode_cons, rowsSize_cons, Instruction.encoding_of_decode decoded]
      simp [rowsCode, rowsSize, Row.size]
  | next decoded goes more ih =>
      rw [Instruction.encoding_of_decode decoded, ih, rowsCode_cons, rowsSize_cons,
        List.append_assoc, ← Nat.add_assoc]
      rfl

/-- An instruction that is read lies inside the bytes. -/
theorem Instruction.add_size_le_of_decode {instruction : Instruction}
    (decoded : Instruction.decode bytes address = .ok instruction) :
    address + instruction.size ≤ bytes.size := by
  have inside := Instruction.lt_size_of_decode decoded
  have lengths := congrArg List.length (Instruction.encoding_of_decode decoded)
  rw [List.length_append, List.length_drop, List.length_drop, Array.length_toList,
    (Instruction.wellFormed_of_decode decoded).length_encoding] at lengths
  omega

theorem Reads.add_rowsSize_le (reads : Reads bytes address rows) (inside : address ≤ bytes.size) :
    address + rowsSize rows ≤ bytes.size := by
  induction reads with
  | done ended => exact inside
  | halt decoded halts =>
      rw [rowsSize_cons]
      exact Instruction.add_size_le_of_decode decoded
  | next decoded goes more ih =>
      rw [rowsSize_cons, ← Nat.add_assoc]
      exact ih (Instruction.add_size_le_of_decode decoded)

theorem Reads.length_rowsCode (reads : Reads bytes address rows) :
    (rowsCode rows).length = rowsSize rows := by
  induction reads with
  | done ended => rfl
  | halt decoded halts =>
      rw [rowsCode_cons, rowsSize_cons, List.length_append,
        (Instruction.wellFormed_of_decode decoded).length_encoding]
      rfl
  | next decoded goes more ih =>
      rw [rowsCode_cons, rowsSize_cons, List.length_append, ih,
        (Instruction.wellFormed_of_decode decoded).length_encoding]
      rfl

/-- The bytes that the rows of a disassembly cover are the bytes of the rows. -/
theorem Reads.toList_extract (reads : Reads bytes 0 rows) :
    (bytes.extract 0 (rowsSize rows)).toList = rowsCode rows := by
  have spelled := reads.drop_eq
  rw [List.drop_zero] at spelled
  rw [Array.toList_extract, List.extract_eq_take_drop, List.drop_zero, Nat.sub_zero, spelled,
    List.take_left' reads.length_rowsCode]

/-- Encodings of instructions can be read. -/
theorem exists_reads {instructions : List Instruction}
    (formed : ∀ instruction ∈ instructions, instruction.WellFormed)
    (written : bytes.toList.drop address = instructions.flatMap Instruction.encoding) :
    ∃ rows, Reads bytes address rows := by
  induction instructions generalizing address with
  | nil =>
      have ended : bytes.size ≤ address := by
        rw [← Array.length_toList]
        exact List.drop_eq_nil_iff.1 written
      exact ⟨[], .done ended⟩
  | cons instruction instructions ih =>
      rw [List.forall_mem_cons] at formed
      rw [List.flatMap_cons] at written
      have decoded := formed.1.decode_eq written
      by_cases halts : instruction.opcode = .halt
      · exact ⟨_, .halt decoded halts⟩
      · obtain ⟨rows, more⟩ := ih formed.2 (formed.1.drop_add_size written)
        exact ⟨_, .next decoded halts more⟩

end Reads

/-! ## Where reading stops -/

/-- Decoding one instruction after the other from the first address on arrives at the second. -/
inductive Meets (bytes : Bytes) : Nat → Nat → Prop
  | here (address : Nat) : Meets bytes address address
  | later {address other : Nat} {instruction : Instruction}
    (decoded : Instruction.decode bytes address = .ok instruction)
    (further : Meets bytes (address + instruction.size) other) : Meets bytes address other

/-- The first `HALT` that decoding from `start` on meets. -/
structure FirstHalt (bytes : Bytes) (start address : Nat) : Prop where
  met : Meets bytes start address
  halts : Instruction.decode bytes address = .ok ⟨.halt, none⟩
  first : ∀ other < address, Meets bytes start other →
    Instruction.decode bytes other ≠ .ok ⟨.halt, none⟩

section Meets

variable {bytes : Bytes} {start address : Nat}

theorem Meets.le (meets : Meets bytes start address) : start ≤ address := by
  induction meets with
  | here address => exact Nat.le_refl address
  | later decoded further ih => exact Nat.le_trans (Nat.le_add_right _ _) ih

/-- After an instruction, what is met is met from the next one on. -/
theorem Meets.eq_or_next (meets : Meets bytes start address) {instruction : Instruction}
    (decoded : Instruction.decode bytes start = .ok instruction) :
    address = start ∨ Meets bytes (start + instruction.size) address := by
  cases meets with
  | here => exact .inl rfl
  | later other further =>
      rw [decoded] at other
      cases other
      exact .inr further

theorem Meets.eq_of_ended (meets : Meets bytes start address) (ended : bytes.size ≤ start) :
    address = start := by
  cases meets with
  | here => rfl
  | later decoded further =>
      rw [Instruction.decode_eq_outOfRange_iff.2 ended] at decoded
      cases decoded

theorem Meets.trans {last : Nat} (meets : Meets bytes start address)
    (further : Meets bytes address last) : Meets bytes start last := by
  induction meets with
  | here address => exact further
  | later decoded _ ih => exact .later decoded (ih further)

/-- Of two addresses that are met one is met from the other on. -/
theorem Meets.total {other : Nat} (meets : Meets bytes start address)
    (others : Meets bytes start other) : Meets bytes address other ∨ Meets bytes other address := by
  induction meets with
  | here address => exact .inl others
  | later decoded further ih =>
      rcases others.eq_or_next decoded with rfl | next
      · exact .inr (.later decoded further)
      · exact ih next

/-- Decoding goes over the encodings of instructions, whatever comes after them. -/
theorem Meets.of_encodings {instructions : List Instruction} {rest : List UInt8}
    (formed : ∀ instruction ∈ instructions, instruction.WellFormed)
    (written : bytes.toList.drop start = instructions.flatMap Instruction.encoding ++ rest) :
    Meets bytes start (start + (instructions.flatMap Instruction.encoding).length) := by
  induction instructions generalizing start with
  | nil => exact .here start
  | cons instruction instructions ih =>
      rw [List.forall_mem_cons] at formed
      rw [List.flatMap_cons, List.append_assoc] at written
      rw [List.flatMap_cons, List.length_append, formed.1.length_encoding, ← Nat.add_assoc]
      exact .later (formed.1.decode_eq written) (ih formed.2 (formed.1.drop_add_size written))

/-- Reading stops after the first `HALT` that is met, or at the end if none is. -/
theorem Reads.stops {rows : List Row} (reads : Reads bytes start rows)
    (inside : start ≤ bytes.size) :
    (∃ halt, FirstHalt bytes start halt ∧ start + rowsSize rows = halt + 1) ∨
      (∀ address, Meets bytes start address →
        Instruction.decode bytes address ≠ .ok ⟨.halt, none⟩) ∧
        start + rowsSize rows = bytes.size := by
  induction reads with
  | done ended =>
      refine .inr ⟨fun address meets halts => ?_, Nat.le_antisymm inside ended⟩
      rw [meets.eq_of_ended ended, Instruction.decode_eq_outOfRange_iff.2 ended] at halts
      cases halts
  | @halt address instruction decoded halts =>
      have same := (Instruction.wellFormed_of_decode decoded).eq_plain halts nofun
      subst same
      refine .inl ⟨address, ⟨.here address, decoded, fun other before meets => ?_⟩, rfl⟩
      exact absurd meets.le (Nat.not_le_of_lt before)
  | @next address instruction rows decoded goes more ih =>
      have here : Instruction.decode bytes address ≠ .ok ⟨.halt, none⟩ := by
        intro halts
        rw [decoded] at halts
        cases halts
        exact goes rfl
      have size : address + rowsSize (⟨address, instruction⟩ :: rows) =
          address + instruction.size + rowsSize rows := by
        rw [rowsSize_cons, ← Nat.add_assoc]
        rfl
      rw [size]
      rcases ih (Instruction.add_size_le_of_decode decoded) with
        ⟨halt, first, stop⟩ | ⟨free, stop⟩
      · refine .inl ⟨halt, ⟨.later decoded first.met, first.halts, ?_⟩, stop⟩
        intro other before meets
        rcases meets.eq_or_next decoded with rfl | further
        · exact here
        · exact first.first other before further
      · refine .inr ⟨fun other meets => ?_, stop⟩
        rcases meets.eq_or_next decoded with rfl | further
        · exact here
        · exact free other further

end Meets

/-- Rows cover all bytes if none of them is a `HALT` with bytes after it. -/
theorem Reads.add_rowsSize_eq {bytes : Bytes} {address : Nat} {rows : List Row}
    (reads : Reads bytes address rows) (inside : address ≤ bytes.size)
    (last : ∀ row ∈ rows, row.instruction.opcode = .halt → row.address + row.size = bytes.size) :
    address + rowsSize rows = bytes.size := by
  induction reads with
  | done ended => exact Nat.le_antisymm inside ended
  | halt decoded halts =>
      rw [rowsSize_cons]
      exact last _ List.mem_cons_self halts
  | next decoded goes more ih =>
      rw [List.forall_mem_cons] at last
      rw [rowsSize_cons, ← Nat.add_assoc]
      exact ih (Instruction.add_size_le_of_decode decoded) last.2

end TwoStack
