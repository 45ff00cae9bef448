import TwoStack.Proofs.Assembly.Outcome
import TwoStack.Proofs.Source.Scan

/-!
# The first error

`FirstError tokens error` says which error a series of tokens has and where, in words about the
tokens only.  The leftmost malformed statement or repeated declaration comes first; then, of the
uses of labels that are declared nowhere, the one with the least token index; then the size of the
program.  `assemble` answers this error and no other (`assemble_eq_error_iff`).

The table of symbols is kept by name, so that the use it answers is the least by token index is not
seen in it: it comes from the places of the tokens, which grow with their indices.
-/

namespace TwoStack

/-- A label operand among statements, and the token that it is written in. -/
def UsedAt (statements : List Statement) (name : String) (operandToken : Token) : Prop :=
  ∃ keyword token, .operand keyword (.label name) token operandToken ∈ statements

/-- The first error of a series of tokens. -/
inductive FirstError (tokens : List Token) : AssemblyError → Prop
  | malformed {statements : List Statement} {rest : List Token} {error : AssemblyError}
    (begins : Begins tokens statements rest) (distinct : (labelNames statements).Nodup)
    (malformed : Malformed rest error) : FirstError tokens error
  | redeclared {statements : List Statement} {first token : Token} {rest : List Token}
    {name : String} (begins : Begins tokens statements (token :: rest))
    (distinct : (labelNames statements).Nodup) (declared : .label name first ∈ statements)
    (declares : Declares token.text name) :
    FirstError tokens ⟨.duplicateLabel name first.location, some token.location⟩
  | undeclared {statements : List Statement} {name : String} {operandToken : Token}
    (begins : Begins tokens statements []) (distinct : (labelNames statements).Nodup)
    (used : UsedAt statements name operandToken) (unknown : name ∉ labelNames statements)
    (least : ∀ other another, UsedAt statements other another → other ∉ labelNames statements →
      operandToken.location.index ≤ another.location.index) :
    FirstError tokens ⟨.undeclaredLabel name, some operandToken.location⟩
  | tooLarge {statements : List Statement} (begins : Begins tokens statements [])
    (distinct : (labelNames statements).Nodup)
    (settled : ∀ name operandToken, UsedAt statements name operandToken →
      name ∈ labelNames statements)
    (large : memorySize < codeSize statements) :
    FirstError tokens ⟨.programTooLarge (codeSize statements), none⟩

/-- The code that is emitted before the first repeated declaration or malformed statement stays
below `2 ^ 31` bytes. -/
def StaysSmall (tokens : List Token) : Prop :=
  ∀ statements rest, Begins tokens statements rest → (labelNames statements).Nodup →
    codeSize statements < 2147483648

/-- The places that an error reports. -/
def AssemblyError.places (error : AssemblyError) : List Location :=
  error.location.toList ++
    match error.cause with
    | .duplicateLabel _ first => [first]
    | _ => []

/-! ## Uses -/

theorem usedAt_of_mem_uses {statements : List Statement} {name : String} {usage : Usage}
    (used : (name, usage) ∈ placed Statement.uses 0 statements) :
    ∃ operandToken, UsedAt statements name operandToken ∧
      usage.location = operandToken.location := by
  obtain ⟨front, keyword, token, operandToken, back, rfl, rfl⟩ := exists_operand_of_placed used
  exact ⟨operandToken, ⟨keyword, token, List.mem_append_right _ List.mem_cons_self⟩, rfl⟩

theorem UsedAt.mem_uses {statements : List Statement} {name : String} {operandToken : Token}
    (used : UsedAt statements name operandToken) :
    ∃ usage, (name, usage) ∈ placed Statement.uses 0 statements ∧
      usage.location = operandToken.location := by
  obtain ⟨keyword, token, listed⟩ := used
  obtain ⟨front, back, rfl⟩ := List.append_of_mem listed
  exact ⟨_, mem_placed_iff.2 ⟨front, _, back, rfl, List.mem_singleton_self _⟩, rfl⟩

theorem settled_iff {statements : List Statement} :
    Settled statements ↔
      ∀ name operandToken, UsedAt statements name operandToken → name ∈ labelNames statements := by
  constructor
  · intro settled name operandToken used
    obtain ⟨usage, listed, _⟩ := used.mem_uses
    exact settled name usage listed
  · intro settled name usage used
    obtain ⟨operandToken, found, _⟩ := usedAt_of_mem_uses used
    exact settled name operandToken found

namespace Begins

variable {tokens rest : List Token} {statements : List Statement}

/-- A label operand is the text of its token. -/
theorem text_of_usedAt (begins : Begins tokens statements rest) {name : String}
    {operandToken : Token} (used : UsedAt statements name operandToken) :
    operandToken.text = name := by
  obtain ⟨keyword, token, listed⟩ := used
  induction begins with
  | done rest => cases listed
  | label declares more ih =>
      rcases List.mem_cons.1 listed with same | listed
      · cases same
      · exact ih listed
  | plain written more ih =>
      rcases List.mem_cons.1 listed with same | listed
      · cases same
      · exact ih listed
  | operand written means more ih =>
      rcases List.mem_cons.1 listed with same | listed
      · cases same
        cases means
        rfl
      · exact ih listed

theorem mem_of_usedAt (begins : Begins tokens statements rest) {name : String}
    {operandToken : Token} (used : UsedAt statements name operandToken) :
    operandToken ∈ tokens := by
  obtain ⟨keyword, token, listed⟩ := used
  exact begins.mem_tokens listed (List.mem_cons_of_mem _ List.mem_cons_self)

/-- No statement becomes more than twelve bytes for each of its tokens. -/
theorem codeSize_le (begins : Begins tokens statements rest) :
    codeSize statements ≤ callSize * tokens.length := by
  induction begins with
  | done rest => exact Nat.zero_le _
  | label declares more ih =>
      rw [codeSize_cons, List.length_cons, Statement.size, Nat.mul_succ]
      omega
  | plain written more ih =>
      have bound : (1 : Nat) ≤ callSize := by decide
      rw [codeSize_cons, List.length_cons, Statement.size, Nat.mul_succ]
      omega
  | @operand token operandToken keyword value tokens rest statements written means more ih =>
      have bound : (Statement.operand keyword value token operandToken).size ≤ callSize := by
        cases keyword <;> exact Nat.le_of_ble_eq_true rfl
      rw [codeSize_cons, List.length_cons, List.length_cons, Nat.mul_succ, Nat.mul_succ]
      omega

end Begins

/-- The code of a short text stays small. -/
theorem staysSmall_of_length {tokens : List Token}
    (short : callSize * tokens.length < 2147483648) : StaysSmall tokens :=
  fun _ _ begins _ => Nat.lt_of_le_of_lt begins.codeSize_le short

/-! ## Places -/

/-- A malformed statement is reported at one of its tokens. -/
theorem Malformed.places {rest : List Token} {error : AssemblyError}
    (malformed : Malformed rest error) :
    ∀ location ∈ error.places, ∃ token ∈ rest, token.location = location := by
  have one {token : Token} {cause : SourceError}
      (plain : ∀ name first, cause ≠ .duplicateLabel name first) (listed : token ∈ rest) :
      ∀ location ∈ AssemblyError.places ⟨cause, some token.location⟩,
        ∃ token ∈ rest, token.location = location := by
    intro location reported
    rw [AssemblyError.places, Option.toList_some, List.singleton_append, List.mem_cons] at reported
    rcases reported with rfl | reported
    · exact ⟨token, listed, rfl⟩
    · dsimp only at reported
      split at reported
      · next name first => exact absurd rfl (plain name first)
      · cases reported
  cases malformed with
  | head wrong => exact one (by cases wrong <;> nofun) List.mem_cons_self
  | missingOperand written => exact one nofun List.mem_cons_self
  | operand written wrong =>
      exact one (by cases wrong <;> nofun) (List.mem_cons_of_mem _ List.mem_cons_self)

/-- Every place that is reported is the place of a token. -/
theorem FirstError.places {tokens : List Token} {error : AssemblyError}
    (wrong : FirstError tokens error) :
    ∀ location ∈ error.places, ∃ token ∈ tokens, token.location = location := by
  cases wrong with
  | malformed begins distinct malformed =>
      intro location reported
      obtain ⟨token, listed, same⟩ := malformed.places location reported
      exact ⟨token, begins.tokens_eq ▸ List.mem_append_right _ listed, same⟩
  | redeclared begins distinct declared declares =>
      intro location reported
      rcases List.mem_cons.1 reported with rfl | reported
      · exact ⟨_, begins.tokens_eq ▸ List.mem_append_right _ List.mem_cons_self, rfl⟩
      · have other := List.mem_singleton.1 reported
        exact ⟨_, begins.mem_tokens declared List.mem_cons_self, other.symm⟩
  | undeclared begins distinct used unknown least =>
      intro location reported
      rcases List.mem_cons.1 reported with rfl | reported
      · exact ⟨_, begins.mem_of_usedAt used, rfl⟩
      · cases reported
  | tooLarge begins distinct settled large => exact nofun

/-! ## The answer -/

section Answer

variable {source : String} {statements : List Statement}

/-- The least use by token index is the first by place. -/
theorem Build.Holds.finish_least {build : Build} (holds : build.Holds statements)
    (begins : Begins (tokenize source).toList statements []) (tokens : Nat)
    (missing : ∃ name operandToken, UsedAt statements name operandToken ∧
      name ∉ labelNames statements) :
    ∃ name operandToken,
      build.finish tokens = .error ⟨.undeclaredLabel name, some operandToken.location⟩ ∧
      UsedAt statements name operandToken ∧ name ∉ labelNames statements ∧
      ∀ other another, UsedAt statements other another → other ∉ labelNames statements →
        operandToken.location.index ≤ another.location.index := by
  obtain ⟨name, operandToken, used, unknown⟩ := missing
  obtain ⟨usage, listed, _⟩ := used.mem_uses
  obtain ⟨first, place, answered, noted, free, least⟩ :=
    holds.finish_undeclared tokens ⟨name, usage, listed, unknown⟩
  obtain ⟨firstToken, found, same⟩ := usedAt_of_mem_uses noted
  refine ⟨first, firstToken, by rw [answered, same], found, free, ?_⟩
  intro other another later missed
  obtain ⟨elsewhere, written, there⟩ := later.mem_uses
  have order := least other elsewhere written missed
  rw [there, same] at order
  by_contra sooner
  have here := tokenize_getElem? (Array.mem_toList_iff.1 (begins.mem_of_usedAt found))
  have before := tokenize_getElem? (Array.mem_toList_iff.1 (begins.mem_of_usedAt later))
  exact order (.inl (tokenize_before before here (Nat.lt_of_not_le sooner)))

/-- There is one label operand at an index. -/
theorem Begins.eq_of_usedAt {rest : List Token}
    (begins : Begins (tokenize source).toList statements rest) {name other : String}
    {operandToken another : Token} (used : UsedAt statements name operandToken)
    (found : UsedAt statements other another)
    (index : operandToken.location.index = another.location.index) :
    name = other ∧ operandToken = another := by
  have here := tokenize_getElem? (Array.mem_toList_iff.1 (begins.mem_of_usedAt used))
  have there := tokenize_getElem? (Array.mem_toList_iff.1 (begins.mem_of_usedAt found))
  rw [index, there] at here
  cases here
  exact ⟨(begins.text_of_usedAt used).symm.trans (begins.text_of_usedAt found), rfl⟩

theorem assemble_undeclared (begins : Begins (tokenize source).toList statements [])
    (distinct : (labelNames statements).Nodup) (small : codeSize statements < 2147483648)
    (missing : ∃ name operandToken, UsedAt statements name operandToken ∧
      name ∉ labelNames statements) :
    ∃ name operandToken,
      assemble source = .error ⟨.undeclaredLabel name, some operandToken.location⟩ ∧
      UsedAt statements name operandToken ∧ name ∉ labelNames statements ∧
      ∀ other another, UsedAt statements other another → other ∉ labelNames statements →
        operandToken.location.index ≤ another.location.index := by
  obtain ⟨build, holds, assembled⟩ := assemble_finish begins distinct small
  rw [assembled]
  exact holds.finish_least begins _ missing

theorem FirstError.assemble_eq {error : AssemblyError}
    (wrong : FirstError (tokenize source).toList error)
    (small : StaysSmall (tokenize source).toList) : assemble source = .error error := by
  cases wrong with
  | malformed begins distinct malformed =>
      exact assemble_malformed begins distinct (small _ _ begins distinct) malformed
  | redeclared begins distinct declared declares =>
      exact assemble_redeclared begins distinct (small _ _ begins distinct) declared declares
  | @undeclared statements name operandToken begins distinct used unknown least =>
      obtain ⟨first, firstToken, answered, found, free, lowest⟩ := assemble_undeclared begins
        distinct (small _ _ begins distinct) ⟨name, operandToken, used, unknown⟩
      have index : firstToken.location.index = operandToken.location.index :=
        Nat.le_antisymm (lowest name operandToken used unknown) (least first firstToken found free)
      obtain ⟨rfl, rfl⟩ := begins.eq_of_usedAt found used index
      exact answered
  | tooLarge begins distinct settled large =>
      obtain ⟨build, holds, assembled⟩ :=
        assemble_finish begins distinct (small _ _ begins distinct)
      rw [assembled]
      exact holds.finish_large _ (settled_iff.2 settled) large

/-- Without a first error there is a program. -/
theorem exists_firstError_or_program (small : StaysSmall (tokenize source).toList) :
    (∃ error, FirstError (tokenize source).toList error) ∨
      ∃ assembly, assemble source = .ok assembly := by
  obtain ⟨statements, rest, begins, ends⟩ := exists_begins (tokenize source).toList
  by_cases distinct : (labelNames statements).Nodup
  · rcases ends with rfl | ⟨error, malformed⟩
    · by_cases settled : Settled statements
      · by_cases fits : codeSize statements ≤ memorySize
        · obtain ⟨value, addresses⟩ := exists_addresses distinct
          have program : IsProgram _ statements := ⟨begins, distinct, settled, fits⟩
          obtain ⟨assembly, assembled, _⟩ := program.assemble_eq addresses
          exact .inr ⟨assembly, assembled⟩
        · exact .inl ⟨_, .tooLarge begins distinct (settled_iff.1 settled) (Nat.lt_of_not_le fits)⟩
      · rw [settled_iff] at settled
        push Not at settled
        obtain ⟨name, operandToken, answered, used, unknown, least⟩ :=
          assemble_undeclared begins distinct (small _ _ begins distinct) settled
        exact .inl ⟨_, .undeclared begins distinct used unknown least⟩
    · exact .inl ⟨error, .malformed begins distinct malformed⟩
  · obtain ⟨front, name, first, token, back, rfl, apart, declared⟩ :=
      exists_redeclared statements distinct
    obtain ⟨middle, before, after⟩ := begins.split
    cases after with
    | label declares more => exact .inl ⟨_, .redeclared before apart declared declares⟩

/-- Assembly answers the first error and only that, and every place it reports is the place of the
token with that index. -/
theorem assemble_eq_error_iff (small : StaysSmall (tokenize source).toList) :
    (∀ error, assemble source = .error error ↔ FirstError (tokenize source).toList error) ∧
      ∀ error, assemble source = .error error → ∀ location ∈ error.places,
        ∃ token, (tokenize source)[location.index]? = some token ∧ token.location = location := by
  have answers (error : AssemblyError) :
      assemble source = .error error ↔ FirstError (tokenize source).toList error := by
    constructor
    · intro assembled
      rcases exists_firstError_or_program small with ⟨first, wrong⟩ | ⟨assembly, program⟩
      · have same := wrong.assemble_eq small
        rw [assembled] at same
        cases same
        exact wrong
      · rw [program] at assembled
        cases assembled
    · exact fun wrong => wrong.assemble_eq small
  refine ⟨answers, fun error assembled location reported => ?_⟩
  obtain ⟨token, listed, rfl⟩ := ((answers error).1 assembled).places location reported
  exact ⟨token, tokenize_getElem? (Array.mem_toList_iff.1 listed), rfl⟩

/-- A repeated declaration comes before a use of a label that is declared nowhere. -/
theorem assemble_eq_error_of_repeated :
    StaysSmall (tokenize "f: f: PUSH g").toList ∧
      assemble "f: f: PUSH g" =
        .error ⟨.duplicateLabel "f" ⟨1, 1, 0⟩, some ⟨1, 4, 1⟩⟩ := by
  have tokens : (tokenize "f: f: PUSH g").toList = [⟨"f:", ⟨1, 1, 0⟩⟩, ⟨"f:", ⟨1, 4, 1⟩⟩,
      ⟨"PUSH", ⟨1, 7, 2⟩⟩, ⟨"g", ⟨1, 12, 3⟩⟩] := by decide +kernel
  have small : StaysSmall (tokenize "f: f: PUSH g").toList := by
    rw [tokens]
    exact staysSmall_of_length (by decide)
  have declares : Declares "f:" "f" := ⟨by decide, by decide, by decide⟩
  refine ⟨small, ((assemble_eq_error_iff small).1 _).2 ?_⟩
  rw [tokens]
  exact .redeclared (.label declares (.done _)) (by decide) List.mem_cons_self declares

end Answer

end TwoStack
