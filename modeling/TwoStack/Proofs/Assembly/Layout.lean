import Mathlib.Data.List.Forall2
import TwoStack.Assembly
import TwoStack.Proofs.Instruction.Encoding

/-!
# The layout of a program

A statement at an address becomes bytes, declares a label or not, uses a label or not, and is listed
or not.  Each of these is a list, and `placed` puts the lists of all statements one after the other,
every statement at the address where the bytes before it end.

The bytes depend on the addresses of labels only in the slots of the label operands: a slot holds
the value of its label (`placed_slot`), and every other byte is the same for all values
(`placed_code_agree`).  So code that was emitted with zeros can be filled in afterwards.
-/

namespace TwoStack

/-- The number of bytes that statements become. -/
def codeSize (statements : List Statement) : Nat := (statements.map Statement.size).sum

/-- What statements contribute from `address` on, each at its own address. -/
def placed {α : Type} (part : Nat → Statement → List α) : Nat → List Statement → List α
  | _, [] => []
  | address, statement :: rest =>
    part address statement ++ placed part (address + statement.size) rest

section Placed

variable {α : Type} {part : Nat → Statement → List α}

theorem codeSize_cons (statement : Statement) (rest : List Statement) :
    codeSize (statement :: rest) = statement.size + codeSize rest := by
  rw [codeSize, List.map_cons, List.sum_cons, codeSize]

theorem codeSize_append (front back : List Statement) :
    codeSize (front ++ back) = codeSize front + codeSize back := by
  rw [codeSize, List.map_append, List.sum_append, codeSize, codeSize]

theorem placed_append (address : Nat) (front back : List Statement) :
    placed part address (front ++ back) =
      placed part address front ++ placed part (address + codeSize front) back := by
  induction front generalizing address with
  | nil => rfl
  | cons statement front ih =>
      rw [List.cons_append, placed, placed, ih, codeSize_cons, List.append_assoc, Nat.add_assoc]

theorem placed_concat (address : Nat) (front : List Statement) (statement : Statement) :
    placed part address (front ++ [statement]) =
      placed part address front ++ part (address + codeSize front) statement := by
  rw [placed_append, placed, placed, List.append_nil]

theorem mem_placed_iff {address : Nat} {statements : List Statement} {x : α} :
    x ∈ placed part address statements ↔ ∃ front statement back,
      statements = front ++ statement :: back ∧ x ∈ part (address + codeSize front) statement := by
  induction statements generalizing address with
  | nil =>
      constructor
      · nofun
      · rintro ⟨front, statement, back, split, _⟩
        exact absurd split (by simp)
  | cons statement rest ih =>
      rw [placed, List.mem_append, ih]
      constructor
      · rintro (here | ⟨front, other, back, rfl, there⟩)
        · exact ⟨[], statement, rest, rfl, here⟩
        · exact ⟨statement :: front, other, back, rfl, by rwa [codeSize_cons, ← Nat.add_assoc]⟩
      · rintro ⟨front, other, back, split, found⟩
        rcases List.cons_eq_append_iff.1 split with ⟨rfl, same⟩ | ⟨front, rfl, rfl⟩
        · cases same
          exact .inl found
        · exact .inr ⟨front, other, back, rfl, by rwa [codeSize_cons, ← Nat.add_assoc] at found⟩

end Placed

section Corresponding

variable {related : Statement → Statement → Prop} {front back : List Statement}
  (sizes : ∀ statement other, related statement other → other.size = statement.size)
  (same : List.Forall₂ related front back)
include sizes same

theorem codeSize_of_forall₂ : codeSize back = codeSize front := by
  induction same with
  | nil => rfl
  | cons first more ih => rw [codeSize_cons, codeSize_cons, sizes _ _ first, ih]

/-- If statements contribute alike one by one, so do all of them, also further up. -/
theorem map_placed_of_forall₂ {α β γ : Type} {part : Nat → Statement → List α}
    {counterpart : Nat → Statement → List β} {f : α → γ} {g : β → γ} {distance : Nat}
    (agree : ∀ address statement other, related statement other →
      (counterpart (distance + address) other).map g = (part address statement).map f)
    (address : Nat) :
    (placed counterpart (distance + address) back).map g = (placed part address front).map f := by
  induction same generalizing address with
  | nil => rfl
  | cons first more ih =>
      rw [placed, placed, List.map_append, List.map_append, agree address _ _ first,
        sizes _ _ first, Nat.add_assoc, ih]

end Corresponding

/-! ## What one statement becomes -/

namespace OperandKeyword

/-- The bytes in front of the operand. -/
def opening (address : Nat) : OperandKeyword → List UInt8
  | push => [Opcode.push.toByte]
  | call => Opcode.push.toByte :: ((Word.toBytes (Int32.ofNat (address + callSize))).toList ++
      [Opcode.pushIp.toByte, Opcode.push.toByte])

/-- The bytes after the operand. -/
def closing : OperandKeyword → List UInt8
  | push => []
  | call => [Opcode.jmp.toByte]

/-- The number of bytes in front of the operand. -/
def slot : OperandKeyword → Nat
  | push => 1
  | call => 7

/-- The instructions that a keyword and the word of its operand stand for. -/
def expansion (address : Nat) (word : Word) : OperandKeyword → List Instruction
  | push => [⟨.push, some word⟩]
  | call => [⟨.push, some (Int32.ofNat (address + callSize))⟩, ⟨.pushIp, none⟩,
      ⟨.push, some word⟩, ⟨.jmp, none⟩]

theorem wellFormed_of_mem_expansion (keyword : OperandKeyword) (address : Nat) (word : Word) :
    ∀ instruction ∈ keyword.expansion address word, instruction.WellFormed := by
  have push (word : Word) := Instruction.wellFormed_push word
  cases keyword with
  | push => exact List.forall_mem_singleton.2 (push word)
  | call =>
      have pushIp := @Instruction.wellFormed_plain .pushIp (by decide)
      have jmp := @Instruction.wellFormed_plain .jmp (by decide)
      simp only [expansion, List.forall_mem_cons]
      exact ⟨push _, pushIp, push _, jmp, List.forall_mem_nil _⟩

/-- The operand belongs to a `PUSH`, which has its word in the slot. -/
theorem exists_expansion_eq (keyword : OperandKeyword) (address : Nat) (word : Word) :
    ∃ before after, keyword.expansion address word = before ++ ⟨.push, some word⟩ :: after ∧
      (before.flatMap Instruction.encoding).length + 1 = keyword.slot := by
  cases keyword with
  | push => exact ⟨[], [], rfl, rfl⟩
  | call => exact ⟨[_, _], [_], rfl, rfl⟩

theorem length_opening (keyword : OperandKeyword) (address : Nat) :
    (keyword.opening address).length = keyword.slot := by
  cases keyword <;> rfl

end OperandKeyword

/-- The word that an operand stands for, given the words of the labels. -/
def Operand.word (value : String → Word) : Operand → Word
  | literal word => word
  | label name => value name

namespace Statement

/-- The bytes that a statement becomes at an address. -/
def code (value : String → Word) (address : Nat) : Statement → List UInt8
  | label .. => []
  | plain opcode _ => [opcode.toByte]
  | operand keyword target .. =>
    keyword.opening address ++ ((target.word value).toBytes.toList ++ keyword.closing)

/-- The bytes of a statement with an operand are those of the instructions it stands for. -/
theorem code_operand (value : String → Word) (address : Nat) (keyword : OperandKeyword)
    (target : Operand) (token operandToken : Token) :
    (operand keyword target token operandToken).code value address =
      (keyword.expansion address (target.word value)).flatMap Instruction.encoding := by
  cases keyword <;> rfl

/-- The label that a statement declares, with its address and place. -/
def declarations (address : Nat) : Statement → List (String × Nat × Location)
  | label name token => [(name, address, token.location)]
  | _ => []

/-- The label that a statement uses, with the place where its address belongs. -/
def uses (address : Nat) : Statement → List (String × Usage)
  | operand keyword (.label name) _ operandToken =>
    [(name, ⟨address + keyword.slot, operandToken.location⟩)]
  | _ => []

/-- The place of a statement that is listed. -/
def spans (address : Nat) (statement : Statement) : List Span :=
  statement.listed?.toList.map fun (text, location) =>
    ⟨address, address + statement.size, text, location⟩

theorem length_code (statement : Statement) (value : String → Word) (address : Nat) :
    (statement.code value address).length = statement.size := by
  cases statement with
  | label name token => rfl
  | plain opcode token => rfl
  | operand keyword operand token operandToken => cases keyword <;> rfl

end Statement

/-- A declared address is that of the statements before the declaration. -/
theorem exists_label_of_placed {statements : List Statement} {name : String} {address : Nat}
    {location : Location}
    (declared : (name, address, location) ∈ placed Statement.declarations 0 statements) :
    ∃ front token back,
      statements = front ++ .label name token :: back ∧ address = codeSize front := by
  obtain ⟨front, statement, back, split, here⟩ := mem_placed_iff.1 declared
  cases statement with
  | label other token =>
      rw [Statement.declarations, List.mem_singleton] at here
      cases here
      exact ⟨front, token, back, split, Nat.zero_add _⟩
  | plain opcode token => cases here
  | operand keyword target token operandToken => cases here

/-- A used label is the operand of a statement, and its place is the slot. -/
theorem exists_operand_of_placed {statements : List Statement} {name : String} {usage : Usage}
    (used : (name, usage) ∈ placed Statement.uses 0 statements) :
    ∃ front keyword token operandToken back,
      statements = front ++ .operand keyword (.label name) token operandToken :: back ∧
        usage = ⟨codeSize front + keyword.slot, operandToken.location⟩ := by
  obtain ⟨front, statement, back, split, here⟩ := mem_placed_iff.1 used
  rcases statement with _ | _ | ⟨keyword, operand, token, operandToken⟩
  · cases here
  · cases here
  · rcases operand with word | target
    · cases here
    · rw [Statement.uses, List.mem_singleton] at here
      cases here
      exact ⟨front, keyword, token, operandToken, back, split, by rw [Nat.zero_add]⟩

theorem length_placed_code (value : String → Word) (address : Nat) (statements : List Statement) :
    (placed (Statement.code value) address statements).length = codeSize statements := by
  induction statements generalizing address with
  | nil => rfl
  | cons statement rest ih =>
      rw [placed, List.length_append, Statement.length_code, ih, codeSize_cons]

/-! ## Slots -/

theorem Word.size_toBytes (word : Word) : word.toBytes.size = Word.size := rfl

namespace Statement

/-- The slot of a label operand lies in the bytes of its statement and holds the label's word. -/
theorem code_slot {statement : Statement} {address : Nat} {name : String} {usage : Usage}
    (used : (name, usage) ∈ statement.uses address) (value : String → Word) :
    ∃ j, usage.offset = address + j ∧ j + Word.size ≤ statement.size ∧
      ∀ k < Word.size, (statement.code value address)[j + k]? = some ((value name).byte k) := by
  rcases statement with _ | _ | ⟨keyword, operand, token, operandToken⟩
  · cases used
  · cases used
  · rcases operand with word | target
    · cases used
    · rw [Statement.uses, List.mem_singleton] at used
      cases used
      refine ⟨keyword.slot, rfl, by cases keyword <;> exact Nat.le_of_ble_eq_true rfl, ?_⟩
      intro k inside
      have window : k < (value name).toBytes.toList.length := inside
      rw [Statement.code, List.getElem?_append_right
        (by rw [keyword.length_opening]; exact Nat.le_add_right _ k), keyword.length_opening,
        Nat.add_sub_cancel_left, Operand.word, List.getElem?_append_left window]
      exact Word.getElem?_toBytes _ inside

/-- A byte that is in no slot does not depend on the words of the labels. -/
theorem code_agree (statement : Statement) (address i : Nat) (v w : String → Word) :
    (statement.code v address)[i]? = (statement.code w address)[i]? ∨
      ∃ name usage, (name, usage) ∈ statement.uses address ∧
        usage.offset ≤ address + i ∧ address + i < usage.offset + Word.size := by
  rcases statement with _ | _ | ⟨keyword, operand, token, operandToken⟩
  · exact .inl rfl
  · exact .inl rfl
  · rcases operand with word | name
    · exact .inl rfl
    · by_cases inside : keyword.slot ≤ i ∧ i < keyword.slot + Word.size
      · refine .inr ⟨name, _, List.mem_singleton_self _, ?_, ?_⟩
        · dsimp only
          omega
        · dsimp only
          omega
      · left
        by_cases before : i < keyword.slot
        · have kept (value : String → Word) :
              (code value address (.operand keyword (.label name) token operandToken))[i]? =
                (keyword.opening address)[i]? := by
            rw [Statement.code, List.getElem?_append_left (by rwa [keyword.length_opening])]
          rw [kept v, kept w]
        · have past (value : String → Word) :
              (code value address (.operand keyword (.label name) token operandToken))[i]? =
                keyword.closing[i - keyword.slot - Word.size]? := by
            rw [Statement.code, List.getElem?_append_right (by rw [keyword.length_opening]; omega),
              keyword.length_opening]
            exact List.getElem?_append_right (show Word.size ≤ i - keyword.slot by omega)
          rw [past v, past w]

end Statement

/-- The slot of a label operand lies in the code and holds the label's word. -/
theorem placed_slot {address : Nat} {statements : List Statement} {name : String} {usage : Usage}
    (used : (name, usage) ∈ placed Statement.uses address statements) (value : String → Word) :
    ∃ j, usage.offset = address + j ∧ j + Word.size ≤ codeSize statements ∧
      ∀ k < Word.size, (placed (Statement.code value) address statements)[j + k]? =
        some ((value name).byte k) := by
  obtain ⟨front, statement, back, rfl, here⟩ := mem_placed_iff.1 used
  obtain ⟨j, offset, fits, holds⟩ := Statement.code_slot here value
  refine ⟨codeSize front + j, by omega, ?_, ?_⟩
  · rw [codeSize_append, codeSize_cons]
    omega
  · intro k inside
    have skip : codeSize front + j + k - codeSize front = j + k := by omega
    rw [placed_append, placed, List.getElem?_append_right
      (by rw [length_placed_code]; omega), length_placed_code, skip,
      List.getElem?_append_left (by rw [Statement.length_code]; omega)]
    exact holds k inside

/-- A byte of the code that is in no slot does not depend on the words of the labels. -/
theorem placed_code_agree (address i : Nat) (statements : List Statement) (v w : String → Word) :
    (placed (Statement.code v) address statements)[i]? =
        (placed (Statement.code w) address statements)[i]? ∨
      ∃ name usage, (name, usage) ∈ placed Statement.uses address statements ∧
        usage.offset ≤ address + i ∧ address + i < usage.offset + Word.size := by
  induction statements generalizing address i with
  | nil => exact .inl rfl
  | cons statement rest ih =>
      rw [placed, placed, placed]
      by_cases here : i < statement.size
      · rw [List.getElem?_append_left (by rwa [Statement.length_code]),
          List.getElem?_append_left (by rwa [Statement.length_code])]
        rcases statement.code_agree address i v w with same | ⟨name, usage, used, covered⟩
        · exact .inl same
        · exact .inr ⟨name, usage, List.mem_append_left _ used, covered⟩
      · rw [List.getElem?_append_right (by rw [Statement.length_code]; omega),
          List.getElem?_append_right (by rw [Statement.length_code]; omega),
          Statement.length_code, Statement.length_code]
        rcases ih (address + statement.size) (i - statement.size) with
          same | ⟨name, usage, used, covered⟩
        · exact .inl same
        · exact .inr ⟨name, usage, List.mem_append_right _ used, by omega⟩

end TwoStack
