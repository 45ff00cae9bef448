import TwoStack.Proofs.Assembly.Layout
import TwoStack.Proofs.Assembly.SymbolTable

/-!
# Emitting a program

`Build.Holds` says that a build is what the layout of its statements says: its code is the bytes
with zeros for all labels, its symbols know the declarations and uses, and its spans are those of
the listed statements.  Adding a statement keeps this (`Build.Holds.add`) as long as no label is
declared twice and no call stands too high to be returned to, and then so does adding a series of
them (`Build.Holds.addAll`).  Those are the only statements that are refused
(`Build.Holds.add_again`, `Build.Holds.add_large`).
-/

namespace TwoStack

/-- The labels that statements declare, in order. -/
def labelNames (statements : List Statement) : List String :=
  statements.filterMap fun
    | .label name _ => some name
    | _ => none

theorem labelNames_append (front back : List Statement) :
    labelNames (front ++ back) = labelNames front ++ labelNames back :=
  List.filterMap_append

theorem map_fst_placed_declarations (address : Nat) (statements : List Statement) :
    (placed Statement.declarations address statements).map Prod.fst = labelNames statements := by
  induction statements generalizing address with
  | nil => rfl
  | cons statement rest ih =>
      rw [placed, List.map_append, ih]
      cases statement <;> rfl

/-! ## Addresses as words -/

theorem addressWord_of_small {address : Nat} (small : address < 2147483648) :
    addressWord address = .ok (Int32.ofNat address) := by
  rw [addressWord, if_pos small]

/-- A statement that is no call, or a call that can be returned to: the address after it is a word
that is not negative. -/
def Statement.HasReturn (address : Nat) : Statement → Prop
  | operand .call .. => address + callSize < 2147483648
  | _ => True

theorem Statement.hasReturn_of_small {statement : Statement} {address : Nat}
    (small : address + statement.size < 2147483648) : statement.HasReturn address := by
  rcases statement with _ | _ | ⟨_ | _, _, _, _⟩
  · trivial
  · trivial
  · trivial
  · exact small

/-- What holds the place of an address. -/
theorem toBytes_zero : Word.toBytes 0 = #[0, 0, 0, 0] := rfl

/-! ## One statement -/

namespace Draft

/-- The bytes and uses of an operand of `PUSH`. -/
theorem emitPush_literal (draft : Draft) (word : Word) (location : Location) :
    draft.emitPush (.literal word) location =
      ⟨draft.code.push Opcode.push.toByte ++ word.toBytes, draft.symbols⟩ := rfl

theorem emitPush_label (draft : Draft) (name : String) (location : Location) :
    draft.emitPush (.label name) location =
      ⟨draft.code.push Opcode.push.toByte ++ #[0, 0, 0, 0],
        draft.symbols.use name (draft.code.size + 1) location⟩ := by
  simp [emitPush, emit]

theorem emitCall_of_small {draft : Draft} (target : Operand) (location : Location)
    (small : draft.code.size + callSize < 2147483648) :
    draft.emitCall target location =
      .ok ((((draft.emitPush (.literal (Int32.ofNat (draft.code.size + callSize))) location).emit
        .pushIp).emitPush target location).emit .jmp) := by
  rw [emitCall, addressWord_of_small small]
  rfl

/-- A call that cannot be returned to is refused. -/
theorem emitCall_of_large {draft : Draft} (target : Operand) (location : Location)
    (large : ¬draft.code.size + callSize < 2147483648) :
    draft.emitCall target location = .error (.programTooLarge (draft.code.size + callSize)) := by
  rw [emitCall, addressWord, if_neg large]
  rfl

theorem add_call {draft next : Draft} {target : Operand} {token operandToken : Token}
    (emitted : draft.emitCall target operandToken.location = .ok next) :
    draft.add (.operand .call target token operandToken) = .ok next := by
  rw [add, emitted]

/-- What is known after the operand of a statement. -/
def noted (draft : Draft) (keyword : OperandKeyword) (value : Operand) (location : Location) :
    Symbols :=
  match value with
  | .literal _ => draft.symbols
  | .label name => draft.symbols.use name (draft.code.size + keyword.slot) location

/-- A keyword with its operand emits its bytes, with zeros for a label, and notes the use. -/
theorem add_operand {draft : Draft} {keyword : OperandKeyword} {value : Operand}
    {token operandToken : Token}
    (returns : (Statement.operand keyword value token operandToken).HasReturn draft.code.size) :
    ∃ next, draft.add (.operand keyword value token operandToken) = .ok next ∧
      next.code.toList = draft.code.toList ++
        (Statement.operand keyword value token operandToken).code (fun _ => 0) draft.code.size ∧
      next.symbols = draft.noted keyword value operandToken.location := by
  cases keyword with
  | push =>
      refine ⟨_, rfl, ?_, ?_⟩
      · cases value with
        | literal word => simp [emitPush_literal, Statement.code, OperandKeyword.opening,
            OperandKeyword.closing, Operand.word]
        | label name => simp [emitPush_label, Statement.code, OperandKeyword.opening,
            OperandKeyword.closing, Operand.word, toBytes_zero]
      · cases value with
        | literal word => rfl
        | label name => exact congrArg Draft.symbols (emitPush_label draft name _)
  | call =>
      have emitted := emitCall_of_small value operandToken.location returns
      refine ⟨_, add_call emitted, ?_, ?_⟩
      · cases value with
        | literal word =>
            simp [emitPush_literal, emit, Statement.code, OperandKeyword.opening,
              OperandKeyword.closing, Operand.word]
        | label name =>
            simp [emitPush_label, emitPush_literal, emit, Statement.code, OperandKeyword.opening,
              OperandKeyword.closing, Operand.word, toBytes_zero]
      · cases value with
        | literal word => rfl
        | label name =>
            simp [emitPush_label, emitPush_literal, emit, noted, OperandKeyword.slot,
              Word.size_toBytes, Word.size]

end Draft

/-! ## Builds -/

namespace Build

/-- A build that is what the layout of these statements says, with zeros for all labels. -/
structure Holds (build : Build) (statements : List Statement) : Prop where
  code : build.draft.code.toList = placed (Statement.code fun _ => 0) 0 statements
  known : build.draft.symbols.Knows (placed Statement.declarations 0 statements)
    (placed Statement.uses 0 statements)
  spans : build.spans.toList = placed Statement.spans 0 statements

theorem holds_empty : Build.empty.Holds [] := ⟨rfl, Symbols.knows_empty, rfl⟩

section Add

variable {build : Build} {done : List Statement}

theorem Holds.size_code (holds : build.Holds done) : build.draft.code.size = codeSize done := by
  rw [← Array.length_toList, holds.code, length_placed_code]

/-- What a draft becomes with a new statement, the build becomes with it. -/
theorem Holds.add_of_draft (holds : build.Holds done) {statement : Statement} {next : Draft}
    (added : build.draft.add statement = .ok next)
    (code : next.code.toList =
      build.draft.code.toList ++ statement.code (fun _ => 0) build.draft.code.size)
    (known : next.symbols.Knows (placed Statement.declarations 0 (done ++ [statement]))
      (placed Statement.uses 0 (done ++ [statement]))) :
    ∃ result, build.add statement = .ok result ∧ result.Holds (done ++ [statement]) := by
  have start := holds.size_code
  have emitted : next.code.toList = placed (Statement.code fun _ => 0) 0 (done ++ [statement]) := by
    rw [code, placed_concat, holds.code, start, Nat.zero_add]
  have stop : next.code.size = codeSize done + statement.size := by
    rw [← Array.length_toList, emitted, length_placed_code, codeSize_append, codeSize_cons]
    rfl
  rcases build with ⟨draft, spans⟩
  rw [Build.add, added]
  rcases listed : statement.listed? with _ | ⟨text, location⟩
  · refine ⟨_, rfl, emitted, known, ?_⟩
    rw [placed_concat, Statement.spans, listed]
    simpa using holds.spans
  · refine ⟨_, rfl, emitted, known, ?_⟩
    rw [placed_concat, Statement.spans, listed, Array.toList_push, ← holds.spans, stop,
      Nat.zero_add, Nat.add_sub_cancel]
    rfl

/-- Adding a statement that does not redeclare a label keeps the build what the layout says. -/
theorem Holds.add (holds : build.Holds done) {statement : Statement}
    (distinct : (labelNames (done ++ [statement])).Nodup)
    (returns : statement.HasReturn (codeSize done)) :
    ∃ next, build.add statement = .ok next ∧ next.Holds (done ++ [statement]) := by
  have start := holds.size_code
  cases statement with
  | label name token =>
      have fresh : name ∉ (placed Statement.declarations 0 done).map Prod.fst := by
        rw [map_fst_placed_declarations]
        rw [labelNames_append, List.nodup_append] at distinct
        exact fun listed => distinct.2.2 name listed name List.mem_cons_self rfl
      obtain ⟨symbols, declared, known⟩ :=
        holds.known.declare fresh build.draft.code.size token.location
      have added : build.draft.add (.label name token) = .ok ⟨build.draft.code, symbols⟩ := by
        rw [Draft.add, declared]
      refine holds.add_of_draft added (List.append_nil _).symm ?_
      rw [placed_concat, placed_concat, Nat.zero_add, ← start]
      simpa [Statement.declarations, Statement.uses] using known
  | plain opcode token =>
      refine holds.add_of_draft rfl (Array.toList_push ..) ?_
      rw [placed_concat, placed_concat]
      simpa [Statement.declarations, Statement.uses, Draft.emit] using holds.known
  | operand keyword value token operandToken =>
      rw [← start] at returns
      obtain ⟨next, added, code, symbols⟩ := Draft.add_operand returns
      refine holds.add_of_draft added code ?_
      rw [placed_concat, placed_concat, Nat.zero_add, ← start, symbols]
      cases value with
      | literal word =>
          simpa [Statement.declarations, Statement.uses, Draft.noted] using holds.known
      | label name =>
          have known := holds.known.use name (build.draft.code.size + keyword.slot)
            operandToken.location
          simpa [Statement.declarations, Statement.uses, Draft.noted] using known

/-- A label that is declared again is refused, and the answer names its first declaration. -/
theorem Holds.add_again (holds : build.Holds done) {name : String} {first : Token}
    (declared : .label name first ∈ done) (token : Token) :
    build.add (.label name token) =
      .error ⟨.duplicateLabel name first.location, some token.location⟩ := by
  obtain ⟨front, back, rfl⟩ := List.append_of_mem declared
  have known : (name, codeSize front, first.location) ∈
      placed Statement.declarations 0 (front ++ .label name first :: back) :=
    mem_placed_iff.2 ⟨front, _, back, rfl, by simp [Statement.declarations]⟩
  have refused := holds.known.declare_again known build.draft.code.size token.location
  rcases build with ⟨draft, spans⟩
  rw [Build.add, Draft.add, refused]

/-- A call that cannot be returned to is refused. -/
theorem Holds.add_large (holds : build.Holds done)
    (large : 2147483648 ≤ codeSize done + callSize) (target : Operand)
    (token operandToken : Token) :
    build.add (.operand .call target token operandToken) =
      .error ⟨.programTooLarge (codeSize done + callSize), some token.location⟩ := by
  rw [← holds.size_code] at large ⊢
  have refused := Draft.emitCall_of_large target operandToken.location (Nat.not_lt.2 large)
  rcases build with ⟨draft, spans⟩
  rw [Build.add, Draft.add, refused]

theorem addAll_cons (build : Build) (statement : Statement) (rest : List Statement) :
    build.addAll (statement :: rest) = (build.add statement).bind fun next => next.addAll rest := by
  rw [addAll]
  rcases build.add statement with error | next
  · rfl
  · rfl

theorem addAll_append (build : Build) (front back : List Statement) :
    build.addAll (front ++ back) =
      match build.addAll front with
      | .error error => .error error
      | .ok next => next.addAll back := by
  induction front generalizing build with
  | nil => rfl
  | cons statement front ih =>
      rw [List.cons_append, addAll, addAll]
      rcases build.add statement with error | next
      · rfl
      · exact ih next

/-- Statements that declare no label twice can all be added. -/
theorem Holds.addAll (holds : build.Holds done) {statements : List Statement}
    (distinct : (labelNames (done ++ statements)).Nodup)
    (small : codeSize (done ++ statements) < 2147483648) :
    ∃ next, build.addAll statements = .ok next ∧ next.Holds (done ++ statements) := by
  induction statements generalizing build done with
  | nil => exact ⟨build, rfl, by rwa [List.append_nil]⟩
  | cons statement rest ih =>
      rw [List.append_cons] at distinct small ⊢
      have apart : (labelNames (done ++ [statement])).Nodup := by
        rw [labelNames_append] at distinct
        exact (List.nodup_append.1 distinct).1
      have returns : statement.HasReturn (codeSize done) := by
        apply Statement.hasReturn_of_small
        rw [codeSize_append, codeSize_append, codeSize_cons] at small
        omega
      obtain ⟨next, added, holding⟩ := holds.add apart returns
      obtain ⟨last, more, held⟩ := ih holding distinct small
      exact ⟨last, by rw [Build.addAll, added]; exact more, held⟩

end Add

end Build

end TwoStack
