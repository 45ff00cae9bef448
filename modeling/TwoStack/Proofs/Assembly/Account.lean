import Mathlib.Data.List.Chain
import Mathlib.Data.List.Nodup
import TwoStack.Proofs.Assembly.Calls

/-!
# What a listing accounts for

The entries of a listing lie end to end in the program: the first is at address `0`, each of the
others begins where the one before it ends, and together they have all bytes.  So do they have all
tokens but the declarations (`Accounts`), and a declaration stands for the address of the next
entry.

All of this is read off the statements of the source from some address on, where the bytes from that
address are the code of these statements (`Begins.accounts`,
`Stands.consecutive`, `Stands.flatMap_bytes`).
-/

namespace TwoStack

/-- What the bytes of a program hold in the place of an operand. -/
inductive Operand.Filled (symbols : List (String × Nat)) : Operand → Word → Prop
  | literal (word : Word) : Filled symbols (.literal word) word
  | label {name : String} {address : Nat} (known : (name, address) ∈ symbols) :
    Filled symbols (.label name) (Int32.ofNat address)

/-- The address of the next entry, or that behind the last byte if there is none. -/
def nextAddress (size : Nat) (entries : List ListingEntry) : Nat :=
  (entries.head?.map ListingEntry.address).getD size

/-- The tokens are those of the entries and of the declarations of labels, in this order.  An entry
shows its keyword and its operand, and its bytes hold the word of the operand. -/
inductive Accounts (symbols : List (String × Nat)) (size : Nat) :
    List Token → List ListingEntry → List (String × Nat) → Prop
  | done : Accounts symbols size [] [] []
  | label {token : Token} {name : String} {tokens : List Token} {entries : List ListingEntry}
    {labels : List (String × Nat)} (declares : Declares token.text name)
    (more : Accounts symbols size tokens entries labels) :
    Accounts symbols size (token :: tokens) entries ((name, nextAddress size entries) :: labels)
  | plain {token : Token} {opcode : Opcode} {entry : ListingEntry} {tokens : List Token}
    {entries : List ListingEntry} {labels : List (String × Nat)}
    (written : Keyword.ofName? token.text = some (.plain opcode))
    (text : entry.text = token.text) (location : entry.location = token.location)
    (bytes : entry.bytes = #[opcode.toByte])
    (more : Accounts symbols size tokens entries labels) :
    Accounts symbols size (token :: tokens) (entry :: entries) labels
  | operand {token operandToken : Token} {keyword : OperandKeyword} {value : Operand} {word : Word}
    {entry : ListingEntry} {tokens : List Token} {entries : List ListingEntry}
    {labels : List (String × Nat)} (written : Keyword.ofName? token.text = some (.operand keyword))
    (means : Operand.Means operandToken.text value)
    (text : entry.text = token.text ++ " " ++ operandToken.text)
    (location : entry.location = token.location)
    (filled : value.Filled symbols word)
    (bytes : entry.bytes.toList =
      (keyword.expansion entry.address word).flatMap Instruction.encoding)
    (more : Accounts symbols size tokens entries labels) :
    Accounts symbols size (token :: operandToken :: tokens) (entry :: entries) labels

/-- The listing and the symbols of a program account for all its bytes and all tokens. -/
structure Assembly.AccountsFor (assembly : Assembly) (tokens : List Token) : Prop where
  /-- The first entry is at address zero. -/
  first : ∀ entry ∈ assembly.listing.toList.head?, entry.address = 0
  /-- Every other entry begins where the one before it ends. -/
  consecutive : assembly.listing.toList.IsChain fun entry next =>
    next.address = entry.address + entry.bytes.size
  /-- Together the entries have all bytes. -/
  bytes : assembly.listing.toList.flatMap (fun entry => entry.bytes.toList) =
    assembly.image.bytes.toList
  /-- They have all tokens but the declarations, which declare each symbol once. -/
  tokens : ∃ labels,
    Accounts assembly.symbols assembly.image.size tokens assembly.listing.toList labels ∧
      (labels.map Prod.fst).Nodup ∧ assembly.symbols.Perm labels

/-! ## The entries of statements -/

/-- The entries that statements have from an address on. -/
def entriesFrom (bytes : Bytes) (address : Nat) (statements : List Statement) :
    List ListingEntry :=
  (placed Statement.spans address statements).map fun span => span.entry bytes

/-- The labels that statements declare from an address on. -/
def labelsFrom (address : Nat) (statements : List Statement) : List (String × Nat) :=
  (placed Statement.declarations address statements).map fun declaration =>
    (declaration.1, declaration.2.1)

/-- The bytes from an address on are the code of statements. -/
structure Stands (bytes : Bytes) (value : String → Word) (address : Nat)
    (statements : List Statement) : Prop where
  code : bytes.toList.drop address = placed (Statement.code value) address statements
  reach : address + codeSize statements = bytes.size

section Entries

variable {bytes : Bytes} {value : String → Word} {address : Nat} {statement : Statement}
  {statements : List Statement}

theorem entriesFrom_label (name : String) (token : Token) :
    entriesFrom bytes address (.label name token :: statements) =
      entriesFrom bytes address statements := rfl

/-- The first entry is at the address where the statements begin; without entries there are no
bytes. -/
theorem head?_entriesFrom (bytes : Bytes) (address : Nat) (statements : List Statement) :
    (entriesFrom bytes address statements).head? = none ∧ codeSize statements = 0 ∨
      ∃ entry, (entriesFrom bytes address statements).head? = some entry ∧
        entry.address = address := by
  induction statements with
  | nil => exact .inl ⟨rfl, rfl⟩
  | cons statement statements ih =>
      cases statement with
      | label name token =>
          rw [entriesFrom_label, codeSize_cons, Statement.size, Nat.zero_add]
          exact ih
      | plain opcode token => exact .inr ⟨_, rfl, rfl⟩
      | operand keyword target token operandToken => exact .inr ⟨_, rfl, rfl⟩

theorem address_of_head?_entriesFrom {entry : ListingEntry}
    (first : entry ∈ (entriesFrom bytes address statements).head?) : entry.address = address := by
  rcases head?_entriesFrom bytes address statements with ⟨none, _⟩ | ⟨other, some, same⟩
  · rw [none] at first
    cases first
  · rw [some] at first
    cases first
    exact same

namespace Stands

theorem nextAddress_eq (stands : Stands bytes value address statements) :
    nextAddress bytes.size (entriesFrom bytes address statements) = address := by
  rw [nextAddress, ← stands.reach]
  rcases head?_entriesFrom bytes address statements with ⟨none, empty⟩ | ⟨entry, some, same⟩
  · rw [none, empty]
    rfl
  · rw [some]
    exact same

theorem tail (stands : Stands bytes value address (statement :: statements)) :
    Stands bytes value (address + statement.size) statements := by
  obtain ⟨code, reach⟩ := stands
  constructor
  · rw [← List.drop_drop, code, placed]
    exact List.drop_left' (statement.length_code value address)
  · rw [← reach, codeSize_cons, Nat.add_assoc]

/-- The bytes of an entry are the code of its statement. -/
theorem toList_extract (stands : Stands bytes value address (statement :: statements)) :
    (bytes.extract address (address + statement.size)).toList = statement.code value address := by
  rw [Array.toList_extract, List.extract_eq_take_drop, Nat.add_sub_cancel_left, stands.code, placed]
  exact List.take_left' (statement.length_code value address)

theorem size_extract (stands : Stands bytes value address (statement :: statements)) :
    (bytes.extract address (address + statement.size)).size = statement.size := by
  rw [← Array.length_toList, stands.toList_extract, statement.length_code]

/-- Every entry begins where the one before it ends. -/
theorem consecutive (stands : Stands bytes value address statements) :
    (entriesFrom bytes address statements).IsChain fun entry next =>
      next.address = entry.address + entry.bytes.size := by
  induction statements generalizing address with
  | nil => exact .nil
  | cons statement statements ih =>
      have more := ih stands.tail
      have listed (text : String) (location : Location) :
          (Span.entry ⟨address, address + statement.size, text, location⟩ bytes ::
            entriesFrom bytes (address + statement.size) statements).IsChain fun entry next =>
              next.address = entry.address + entry.bytes.size := by
        refine more.cons fun next first => ?_
        rw [address_of_head?_entriesFrom first]
        exact congrArg (address + ·) stands.size_extract.symm
      cases statement with
      | label name token => exact more
      | plain opcode token => exact listed _ _
      | operand keyword target token operandToken => exact listed _ _

/-- The entries have all bytes from the address on. -/
theorem flatMap_bytes (stands : Stands bytes value address statements) :
    (entriesFrom bytes address statements).flatMap (fun entry => entry.bytes.toList) =
      bytes.toList.drop address := by
  rw [stands.code]
  induction statements generalizing address with
  | nil => rfl
  | cons statement statements ih =>
      have more := ih stands.tail
      rw [placed]
      cases statement with
      | label name token => exact more
      | plain opcode token =>
          rw [← more, ← stands.toList_extract]
          rfl
      | operand keyword target token operandToken =>
          rw [← more, ← stands.toList_extract]
          rfl

end Stands

/-- Statements from some address on, with their entries and labels, account for their tokens. -/
theorem Begins.accounts {tokens rest : List Token} (begins : Begins tokens statements rest)
    (ends : rest = []) (stands : Stands bytes value address statements)
    {symbols : List (String × Nat)}
    (known : ∀ name usage, (name, usage) ∈ placed Statement.uses address statements →
      ∃ target, (name, target) ∈ symbols ∧ value name = Int32.ofNat target) :
    Accounts symbols bytes.size tokens (entriesFrom bytes address statements)
      (labelsFrom address statements) := by
  induction begins generalizing address with
  | done rest =>
      subst ends
      exact .done
  | @label token name tokens rest statements declares more ih =>
      have labels : labelsFrom address (.label name token :: statements) =
          (name, nextAddress bytes.size (entriesFrom bytes address statements)) ::
            labelsFrom address statements := by
        have tail : Stands bytes value address statements := stands.tail
        rw [tail.nextAddress_eq]
        rfl
      rw [labels, entriesFrom_label]
      exact .label declares (ih ends stands.tail known)
  | @plain token opcode tokens rest statements written more ih =>
      refine .plain written rfl rfl ?_ (ih ends stands.tail known)
      exact Array.toList_inj.1 stands.toList_extract
  | @operand token operandToken keyword target tokens rest statements written means more ih =>
      have tail := ih ends stands.tail fun name usage used =>
        known name usage (List.mem_append_right _ used)
      have filled : target.Filled symbols (target.word value) := by
        cases target with
        | literal word => exact .literal word
        | label name =>
            obtain ⟨target, listed, same⟩ := known name _ (List.mem_append_left _
              (List.mem_singleton_self _))
            rw [Operand.word, same]
            exact .label listed
      refine .operand written means rfl rfl filled ?_ tail
      exact stands.toList_extract.trans
        (Statement.code_operand value address keyword target token operandToken)

end Entries

/-! ## The account -/

theorem map_fst_labelsFrom (address : Nat) (statements : List Statement) :
    (labelsFrom address statements).map Prod.fst = labelNames statements := by
  rw [labelsFrom, List.map_map]
  exact map_fst_placed_declarations address statements

theorem Assembly.Laid.symbols_perm {assembly : Assembly} {statements : List Statement}
    {value : String → Word} (laid : assembly.Laid statements value)
    (distinct : (labelNames statements).Nodup) :
    assembly.symbols.Perm (labelsFrom 0 statements) := by
  rw [← map_fst_labelsFrom 0] at distinct
  refine (List.perm_ext_iff_of_nodup (List.Nodup.of_map _ laid.nodup_symbols)
    (List.Nodup.of_map _ distinct)).2 ?_
  rintro ⟨name, address⟩
  rw [laid.symbols, labelsFrom, List.mem_map]
  constructor
  · rintro ⟨location, declared⟩
    exact ⟨_, declared, rfl⟩
  · rintro ⟨⟨_, _, location⟩, declared, same⟩
    cases same
    exact ⟨location, declared⟩

/-- The listing of a program and its symbols account for all its bytes and all tokens. -/
theorem listing_accounts_for {source : String} {assembly : Assembly}
    (assembled : assemble source = .ok assembly) :
    assembly.AccountsFor (tokenize source).toList := by
  obtain ⟨statements, value, program, addresses, laid⟩ := exists_laid assembled
  have stands : Stands assembly.image.bytes value 0 statements := by
    refine ⟨by rw [List.drop_zero, laid.code], ?_⟩
    rw [Nat.zero_add]
    exact laid.size_image.symm
  have listing : assembly.listing.toList = entriesFrom assembly.image.bytes 0 statements :=
    laid.listing
  have known : ∀ name usage, (name, usage) ∈ placed Statement.uses 0 statements →
      ∃ target, (name, target) ∈ assembly.symbols ∧ value name = Int32.ofNat target := by
    intro name usage used
    obtain ⟨target, location, declared⟩ :=
      exists_declared_of_mem_labelNames (program.settled name usage used)
    exact ⟨target, (laid.symbols name target).2 ⟨location, declared⟩,
      addresses name target location declared⟩
  constructor
  · rw [listing]
    exact fun entry => address_of_head?_entriesFrom
  · rw [listing]
    exact stands.consecutive
  · rw [listing, stands.flatMap_bytes, List.drop_zero]
  · refine ⟨labelsFrom 0 statements, ?_, ?_, laid.symbols_perm program.distinct⟩
    · rw [listing]
      exact program.begins.accounts rfl stands known
    · rw [map_fst_labelsFrom]
      exact program.distinct

/-- A push of a label behind the last byte, and a call of a label at its own place. -/
theorem listing_accounts_for_labels :
    ∃ assembly, assemble "PUSH end ; behind all\nx: CALL x end:" = .ok assembly ∧
      assembly.AccountsFor (tokenize "PUSH end ; behind all\nx: CALL x end:").toList ∧
      assembly.symbols = [("end", 17), ("x", 5)] ∧
      assembly.listing.map (fun entry => (entry.address, entry.bytes, entry.text)) =
        #[(0, #[0x0D, 0, 0, 0, 17], "PUSH end"),
          (5, #[0x0D, 0, 0, 0, 17, 0x0F, 0x0D, 0, 0, 0, 5, 0x0A], "CALL x")] := by
  have listed : (assemble "PUSH end ; behind all\nx: CALL x end:").toOption.map
      (fun assembly => (assembly.symbols, assembly.listing.map fun entry =>
        (entry.address, entry.bytes, entry.text))) =
      some ([("end", 17), ("x", 5)], #[(0, #[0x0D, 0, 0, 0, 17], "PUSH end"),
          (5, #[0x0D, 0, 0, 0, 17, 0x0F, 0x0D, 0, 0, 0, 5, 0x0A], "CALL x")]) := by
    decide +kernel
  rcases assembled : assemble "PUSH end ; behind all\nx: CALL x end:" with _ | assembly
  · rw [assembled] at listed
    cases listed
  rw [assembled, Except.toOption, Option.map_some, Option.some.injEq, Prod.mk.injEq] at listed
  exact ⟨assembly, rfl, listing_accounts_for assembled, listed⟩

end TwoStack
