import TwoStack.Proofs.Assembly.Layout
import TwoStack.Proofs.Source.Joined

/-!
# Relocation

Code that is laid out further up has the same bytes except for the words that stand for addresses:
the operands that are labels and the addresses to which calls return.  `Statement.relocations` lists
where these words stand.  `Relocates` reads two pieces of code side by side, byte for byte, and at
the listed places word for word; `placed_relocates` says that the two layouts are related in this
way, and `Relocates.relocated` says what that means for every byte.

A literal is never moved, also if it happens to be the address of a label.
-/

namespace TwoStack

/-! ## Words that are moved -/

/-- Bytes in which the words at some places have been increased, and no other byte has changed. -/
structure Bytes.Relocated (distance : Nat) (slots : List Nat) (old new : Bytes) : Prop where
  size : new.size = old.size
  moved : ∀ slot ∈ slots, ∃ before after, old.readWord? slot = some before ∧
    new.readWord? slot = some after ∧ after.toInt = before.toInt + distance
  kept : ∀ i, (∀ slot ∈ slots, i < slot ∨ slot + Word.size ≤ i) → new[i]? = old[i]?

/-- Bytes from an address on and what becomes of them: at the places that are listed a word is
increased, and all other bytes are kept. -/
inductive Relocates (distance : Nat) : Nat → List UInt8 → List UInt8 → List Nat → Prop
  | nil (address : Nat) : Relocates distance address [] [] []
  | byte {address : Nat} {old new : List UInt8} {slots : List Nat} (byte : UInt8)
    (more : Relocates distance (address + 1) old new slots) :
    Relocates distance address (byte :: old) (byte :: new) slots
  | word {address : Nat} {old new : List UInt8} {slots : List Nat} {before after : Word}
    (moved : after.toInt = before.toInt + distance)
    (more : Relocates distance (address + Word.size) old new slots) :
    Relocates distance address (before.toBytes.toList ++ old) (after.toBytes.toList ++ new)
      (address :: slots)

namespace Relocates

variable {distance address : Nat} {old new : List UInt8} {slots : List Nat}

theorem length_toBytes (word : Word) : word.toBytes.toList.length = Word.size := rfl

theorem getElem?_after_word (word : Word) (bytes : List UInt8) (i : Nat) :
    (word.toBytes.toList ++ bytes)[Word.size + i]? = bytes[i]? := by
  have beyond : word.toBytes.toList.length ≤ Word.size + i := Nat.le_add_right _ _
  rw [List.getElem?_append_right beyond, length_toBytes, Nat.add_sub_cancel_left]

/-- Code without such places stays as it is. -/
theorem same (distance address : Nat) (bytes : List UInt8) :
    Relocates distance address bytes bytes [] := by
  induction bytes generalizing address with
  | nil => exact .nil address
  | cons byte bytes ih => exact .byte byte (ih (address + 1))

theorem append {others changed : List UInt8} {more : List Nat}
    (first : Relocates distance address old new slots)
    (second : Relocates distance (address + old.length) others changed more) :
    Relocates distance address (old ++ others) (new ++ changed) (slots ++ more) := by
  induction first with
  | nil address => exact second
  | byte byte further ih =>
      rw [List.length_cons, Nat.add_comm _ 1, ← Nat.add_assoc] at second
      exact .byte byte (ih second)
  | word moved further ih =>
      rw [List.length_append, length_toBytes, ← Nat.add_assoc] at second
      rw [List.append_assoc, List.append_assoc, List.cons_append]
      exact .word moved (ih second)

theorem length_eq (relocates : Relocates distance address old new slots) :
    new.length = old.length := by
  induction relocates with
  | nil address => rfl
  | byte byte more ih => rw [List.length_cons, List.length_cons, ih]
  | word moved more ih =>
      rw [List.length_append, List.length_append, ih, length_toBytes, length_toBytes]

/-- At a place that is listed stand a word and the increased word. -/
theorem moved_of_mem (relocates : Relocates distance address old new slots) {slot : Nat}
    (listed : slot ∈ slots) :
    ∃ j before after, slot = address + j ∧ after.toInt = Int32.toInt before + distance ∧
      ∀ k < Word.size, old[j + k]? = some (Word.byte before k) ∧
        new[j + k]? = some (Word.byte after k) := by
  induction relocates with
  | nil address => cases listed
  | byte byte more ih =>
      obtain ⟨j, before, after, rfl, moved, words⟩ := ih listed
      refine ⟨j + 1, before, after, by omega, moved, fun k inside => ?_⟩
      rw [Nat.add_right_comm, List.getElem?_cons_succ, List.getElem?_cons_succ]
      exact words k inside
  | @word address old new slots before after moved more ih =>
      rcases List.mem_cons.1 listed with rfl | listed
      · refine ⟨0, before, after, rfl, moved, fun k inside => ?_⟩
        rw [Nat.zero_add, List.getElem?_append_left inside, List.getElem?_append_left inside]
        exact ⟨Word.getElem?_toBytes before inside, Word.getElem?_toBytes after inside⟩
      · obtain ⟨j, before, after, rfl, moved, words⟩ := ih listed
        refine ⟨Word.size + j, before, after, by omega, moved, fun k inside => ?_⟩
        rw [Nat.add_assoc, getElem?_after_word, getElem?_after_word]
        exact words k inside

/-- A byte is kept unless it is part of a word that is moved. -/
theorem kept_or_mem (relocates : Relocates distance address old new slots) (i : Nat) :
    new[i]? = old[i]? ∨ ∃ slot ∈ slots, slot ≤ address + i ∧ address + i < slot + Word.size := by
  induction relocates generalizing i with
  | nil address => exact .inl rfl
  | byte byte more ih =>
      rcases i with _ | i
      · exact .inl rfl
      · rw [List.getElem?_cons_succ, List.getElem?_cons_succ]
        refine (ih i).imp_right ?_
        rintro ⟨slot, listed, covered⟩
        exact ⟨slot, listed, by omega⟩
  | @word address old new slots before after moved more ih =>
      by_cases inside : i < Word.size
      · exact .inr ⟨address, List.mem_cons_self, by omega⟩
      · have beyond := Nat.le_of_not_lt inside
        rw [List.getElem?_append_right beyond, List.getElem?_append_right beyond]
        refine (ih (i - Word.size)).imp_right ?_
        rintro ⟨slot, listed, covered⟩
        exact ⟨slot, List.mem_cons_of_mem _ listed, by omega⟩

/-- What this means for the bytes of a whole program. -/
theorem relocated {bytes others : Bytes}
    (relocates : Relocates distance 0 bytes.toList others.toList slots) :
    Bytes.Relocated distance slots bytes others where
  size := relocates.length_eq
  moved slot listed := by
    obtain ⟨j, before, after, rfl, moved, words⟩ := relocates.moved_of_mem listed
    rw [Nat.zero_add]
    refine ⟨before, after, Bytes.readWord?_eq_some_iff.2 fun k inside => ?_,
      Bytes.readWord?_eq_some_iff.2 fun k inside => ?_, moved⟩
    · rw [← Array.getElem?_toList]
      exact (words k inside).1
    · rw [← Array.getElem?_toList]
      exact (words k inside).2
  kept i apart := by
    rw [← Array.getElem?_toList, ← Array.getElem?_toList]
    rcases relocates.kept_or_mem i with same | ⟨slot, listed, covered⟩
    · exact same
    · have missed := apart slot listed
      omega

end Relocates

/-! ## Words that stand for addresses -/

/-- Where the word with the address after a call stands. -/
def OperandKeyword.returnSlots (address : Nat) : OperandKeyword → List Nat
  | push => []
  | call => [address + 1]

/-- The words of a statement that stand for addresses: to which a call returns, and which a label
has. -/
def Statement.relocations (address : Nat) : Statement → List Nat
  | operand keyword (.label _) _ _ => keyword.returnSlots address ++ [address + keyword.slot]
  | operand keyword (.literal _) _ _ => keyword.returnSlots address
  | _ => []

theorem toInt_ofNat_add {distance address : Nat} (small : distance + address < 2147483648) :
    (Int32.ofNat (distance + address)).toInt = (Int32.ofNat address).toInt + distance := by
  rw [Int32.toInt_ofNat_of_lt (by omega), Int32.toInt_ofNat_of_lt (by omega)]
  omega

section Code

variable {distance address : Nat} {value moved : String → Word}

theorem OperandKeyword.opening_relocates (keyword : OperandKeyword)
    (small : distance + address + callSize < 2147483648) :
    Relocates distance address (keyword.opening address) (keyword.opening (distance + address))
      (keyword.returnSlots address) := by
  cases keyword with
  | push => exact .same _ _ _
  | call =>
      rw [Nat.add_assoc] at small
      have returned := toInt_ofNat_add small
      rw [← Nat.add_assoc] at returned
      exact .byte _ (.word returned (.same _ _ _))

/-- The code of a statement further up, where the labels have moved as far. -/
theorem Statement.code_relocates (statement : Statement)
    (small : distance + address + callSize < 2147483648)
    (values : ∀ name usage, (name, usage) ∈ statement.uses address →
      (moved name).toInt = (value name).toInt + distance) :
    Relocates distance address (statement.code value address)
      (statement.code moved (distance + address)) (statement.relocations address) := by
  cases statement with
  | label name token => exact .nil address
  | plain opcode token => exact .byte _ (.nil _)
  | operand keyword target token operandToken =>
      have opening := keyword.opening_relocates small
      cases target with
      | literal word =>
          have whole := opening.append (.same _ _ (word.toBytes.toList ++ keyword.closing))
          rwa [List.append_nil] at whole
      | label name =>
          refine opening.append ?_
          rw [keyword.length_opening]
          exact .word (values name _ (List.mem_singleton_self _)) (.same _ _ _)

/-- The code of statements further up, where the labels have moved as far. -/
theorem placed_relocates (statements : List Statement)
    (small : distance + address + codeSize statements + callSize < 2147483648)
    (values : ∀ name usage, (name, usage) ∈ placed Statement.uses address statements →
      (moved name).toInt = (value name).toInt + distance) :
    Relocates distance address (placed (Statement.code value) address statements)
      (placed (Statement.code moved) (distance + address) statements)
      (placed Statement.relocations address statements) := by
  induction statements generalizing address with
  | nil => exact .nil address
  | cons statement rest ih =>
      rw [codeSize_cons] at small
      have here := statement.code_relocates (by omega)
        fun name usage used => values name usage (List.mem_append_left _ used)
      have there := @ih (address + statement.size) (by omega)
        fun name usage used => values name usage (List.mem_append_right _ used)
      rw [placed, placed, placed]
      refine here.append ?_
      rw [Statement.length_code, Nat.add_assoc]
      exact there

/-- Code depends only on the words of the labels that are used. -/
theorem placed_code_congr (statements : List Statement)
    (values : ∀ name usage, (name, usage) ∈ placed Statement.uses address statements →
      moved name = value name) :
    placed (Statement.code moved) address statements =
      placed (Statement.code value) address statements := by
  induction statements generalizing address with
  | nil => rfl
  | cons statement rest ih =>
      have there := ih fun name usage used => values name usage (List.mem_append_right _ used)
      have here : statement.code moved address = statement.code value address := by
        rcases statement with _ | _ | ⟨keyword, word | name, token, operandToken⟩
        · rfl
        · rfl
        · rfl
        · have same := values name _ (List.mem_append_left _ (List.mem_singleton_self _))
          rw [Statement.code, Statement.code, Operand.word, Operand.word, same]
      rw [placed, placed, here, there]

end Code

end TwoStack
