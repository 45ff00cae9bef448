import Mathlib.Data.List.Nodup
import TwoStack.Proofs.Assembly.Outcome

/-!
# The two-pass assembler

The plain way to assemble is to read the words of a source text twice.  The first pass counts bytes
and gives every label the count where it is declared; the second writes the code, with every address
at hand (`TwoPass.assemble`).  `assemble` reads once and fills addresses in afterwards, in the order
of the names.  Both make the same symbols and the same image of the same sources
(`assemble_eq_twoPass`).
-/

namespace TwoStack

namespace TwoPass

/-- The four bytes of an integer in two's complement, most significant first. -/
def bigEndian (value : Int) : List UInt8 :=
  let bits := (value % 4294967296).toNat
  [.ofNat (bits / 16777216), .ofNat (bits / 65536), .ofNat (bits / 256), .ofNat bits]

/-- `PUSH` with its operand. -/
def push (value : Int) : List UInt8 := 0x0D :: bigEndian value

/-- The bytes of a keyword with an operand, at an address. -/
def instructions (address : Nat) (value : Int) : OperandKeyword → List UInt8
  | .push => push value
  | .call => push (address + 12) ++ [0x0F] ++ push value ++ [0x0A]

/-- The number of bytes of a keyword with an operand. -/
def width : OperandKeyword → Nat
  | .push => 5
  | .call => 12

/-- The label that a word declares. -/
def declared? (word : String) : Option String :=
  (withoutColon? word).filter fun name => name ≠ "" && !isReserved name

/-- The integer that an operand denotes: a literal in the range of words, or an address. -/
def operand? (addressOf : String → Option Nat) (word : String) : Option Int :=
  if isReserved word || (withoutColon? word).isSome then none
  else
    match integerLiteral? word with
    | some value => if -2147483648 ≤ value ∧ value ≤ 2147483647 then some value else none
    | none => (addressOf word).map Int.ofNat

/-- The first pass: the labels with their addresses, and the address of the end. -/
def walk (address : Nat) : List String → Option (List (String × Nat) × Nat)
  | [] => some ([], address)
  | word :: rest =>
    match Keyword.ofName? word with
    | some (.plain _) => walk (address + 1) rest
    | some (.operand keyword) =>
      match rest with
      | [] => none
      | _ :: rest => walk (address + width keyword) rest
    | none =>
      match declared? word with
      | none => none
      | some name => (walk address rest).map fun (labels, stop) => ((name, address) :: labels, stop)

/-- The second pass: the code. -/
def emit (addressOf : String → Option Nat) (address : Nat) : List String → Option (List UInt8)
  | [] => some []
  | word :: rest =>
    match Keyword.ofName? word with
    | some (.plain opcode) => (emit addressOf (address + 1) rest).map (opcode.toByte :: ·)
    | some (.operand keyword) =>
      match rest with
      | [] => none
      | operand :: rest =>
        match operand? addressOf operand with
        | none => none
        | some value =>
          (emit addressOf (address + width keyword) rest).map
            (instructions address value keyword ++ ·)
    | none => emit addressOf address rest

/-- The symbols in the order of their names, and the image. -/
def assemble (words : List String) : Option (List (String × Nat) × List UInt8) :=
  match walk 0 words with
  | none => none
  | some (labels, size) =>
    if (labels.map Prod.fst).Nodup ∧ size ≤ 16384 then
      (emit (fun name => labels.lookup name) 0 words).map fun code =>
        (labels.mergeSort fun a b => a.1 ≤ b.1, code)
    else none

/-! ## Words -/

theorem bits_ofInt (value : Int) : Word.bits (Int32.ofInt value) = (value % 4294967296).toNat := by
  have bits : Word.bits (Int32.ofInt value) = (BitVec.ofInt 32 value).toNat := rfl
  rw [bits, BitVec.toNat_ofInt]
  rfl

theorem toBytes_ofInt (value : Int) :
    (Word.toBytes (Int32.ofInt value)).toList = bigEndian value := by
  have bytes : (Word.toBytes (Int32.ofInt value)).toList =
      [Word.byte (Int32.ofInt value) 0, Word.byte (Int32.ofInt value) 1,
        Word.byte (Int32.ofInt value) 2, Word.byte (Int32.ofInt value) 3] := rfl
  rw [bytes]
  simp only [Word.byte, Word.weight, bits_ofInt, Nat.div_one]
  rfl

theorem toBytes_ofNat (address : Nat) :
    (Word.toBytes (Int32.ofNat address)).toList = bigEndian address := by
  rw [← toBytes_ofInt, Int32.ofInt_eq_ofNat]

theorem size_eq_width (keyword : OperandKeyword) (operand : Operand) (token operandToken : Token) :
    (Statement.operand keyword operand token operandToken).size = width keyword := by
  cases keyword <;> rfl

theorem code_eq_instructions {value : String → Word} {operand : Operand} {number : Int}
    (denotes : (operand.word value).toBytes.toList = bigEndian number) (keyword : OperandKeyword)
    (address : Nat) (token operandToken : Token) :
    (Statement.operand keyword operand token operandToken).code value address =
      instructions address number keyword := by
  rw [Statement.code, denotes]
  cases keyword with
  | push => rfl
  | call =>
      rw [OperandKeyword.opening, toBytes_ofNat]
      rfl

/-! ## What the passes read -/

theorem declared?_of_declares {word name : String} (declares : Declares word name) :
    declared? word = some name := by
  obtain ⟨spelled, nonempty, free⟩ := declares
  rw [declared?, withoutColon?_eq_some_iff.2 spelled]
  simp [nonempty, free]

theorem declared?_of_wrong {word : String} {cause : SourceError} (wrong : Head.Wrong word cause) :
    declared? word = none := by
  cases wrong with
  | unknownSymbol free bare => rw [declared?, withoutColon?_eq_none_iff.2 bare]; rfl
  | emptyLabel spelled =>
      subst spelled
      decide
  | reservedLabel spelled reserved =>
      rw [declared?, withoutColon?_eq_some_iff.2 spelled]
      simp [reserved]

theorem ofName?_of_declares {word name : String} (declares : Declares word name) :
    Keyword.ofName? word = none := by
  rw [← isReserved_eq_false_iff, declares.spelled]
  exact isReserved_append_colon name

theorem ofName?_of_wrong {word : String} {cause : SourceError} (wrong : Head.Wrong word cause) :
    Keyword.ofName? word = none := by
  rw [← isReserved_eq_false_iff]
  cases wrong with
  | unknownSymbol free bare => exact free
  | emptyLabel spelled =>
      subst spelled
      decide
  | reservedLabel spelled reserved =>
      rw [spelled]
      exact isReserved_append_colon _

theorem operand?_of_wrong {word : String} {keyword : OperandKeyword} {cause : SourceError}
    (wrong : Operand.Wrong keyword word cause) (addressOf : String → Option Nat) :
    operand? addressOf word = none := by
  cases wrong with
  | operandIsKeyword reserved => simp [operand?, reserved]
  | missingOperand spelled => simp [operand?, withoutColon?_eq_some_iff.2 spelled]
  | integerOutOfRange read outside =>
      rw [Word.ofInt?, ite_eq_right_iff] at outside
      have out := fun inside => Option.some_ne_none _ (outside inside)
      simp only [operand?, isReserved_eq_false_of_literal read,
        withoutColon?_eq_none_of_literal read, read]
      exact if_neg out

/-- The words of the addresses that are known. -/
def words (addressOf : String → Option Nat) (name : String) : Word :=
  Int32.ofNat ((addressOf name).getD 0)

section Operand

variable {word : String} {operand : Operand} {addressOf : String → Option Nat}

theorem operand?_label (free : isReserved word = false) (bare : ∀ name, word ≠ name ++ ":")
    (unread : integerLiteral? word = none) :
    operand? addressOf word = (addressOf word).map Int.ofNat := by
  simp [operand?, free, withoutColon?_eq_none_iff.2 bare, unread]

theorem operand?_literal {value : Int} {literal : Word} (read : integerLiteral? word = some value)
    (fits : Word.ofInt? value = some literal) (addressOf : String → Option Nat) :
    operand? addressOf word = some value ∧ literal = Int32.ofInt value := by
  rw [Word.ofInt?, Option.ite_none_right_eq_some] at fits
  obtain ⟨inside, same⟩ := fits
  cases same
  refine ⟨?_, rfl⟩
  simp only [operand?, isReserved_eq_false_of_literal read, withoutColon?_eq_none_of_literal read,
    read]
  exact if_pos inside

/-- An operand has a number if its label has an address. -/
theorem isSome_operand?_iff (means : Operand.Means word operand) :
    (operand? addressOf word).isSome ↔
      ∀ name, operand = .label name → (addressOf name).isSome := by
  cases means with
  | literal read fits =>
      rw [(operand?_literal read fits addressOf).1]
      exact ⟨nofun, fun _ => rfl⟩
  | label free bare unread =>
      rw [operand?_label free bare unread, Option.isSome_map]
      constructor
      · rintro known name same
        cases same
        exact known
      · exact fun known => known word rfl

theorem toBytes_of_operand? (means : Operand.Means word operand) {number : Int}
    (denotes : operand? addressOf word = some number) :
    (operand.word (words addressOf)).toBytes.toList = bigEndian number := by
  cases means with
  | literal read fits =>
      obtain ⟨denoted, same⟩ := operand?_literal read fits addressOf
      rw [denoted] at denotes
      cases denotes
      rw [Operand.word, same, toBytes_ofInt]
  | label free bare unread =>
      rw [operand?_label free bare unread] at denotes
      obtain ⟨address, known, rfl⟩ := Option.map_eq_some_iff.1 denotes
      rw [Operand.word, words, known, Option.getD_some, toBytes_ofNat]
      rfl

end Operand

/-! ## The passes -/

section Passes

variable {tokens rest : List Token} {statements : List Statement}

/-- The labels of declarations with their addresses. -/
def labels (address : Nat) (statements : List Statement) : List (String × Nat) :=
  (placed Statement.declarations address statements).map fun (name, place, _) => (name, place)

theorem walk_of_begins (begins : Begins tokens statements rest) (address : Nat) :
    walk address (tokens.map Token.text) =
      (walk (address + codeSize statements) (rest.map Token.text)).map
        fun (found, stop) => (labels address statements ++ found, stop) := by
  induction begins generalizing address with
  | done rest => exact Option.map_id'.symm
  | label declares more ih =>
      rw [List.map_cons, walk, ofName?_of_declares declares, declared?_of_declares declares]
      dsimp only
      rw [ih, Option.map_map, codeSize_cons, ← Nat.add_assoc]
      rfl
  | plain written more ih =>
      rw [List.map_cons, walk, written]
      dsimp only
      rw [ih, codeSize_cons, ← Nat.add_assoc]
      rfl
  | @operand token operandToken keyword value tokens rest statements written means more ih =>
      rw [List.map_cons, List.map_cons, walk, written]
      dsimp only
      rw [← size_eq_width keyword value token operandToken, ih, codeSize_cons, ← Nat.add_assoc]
      rfl

/-- The second pass needs the addresses of the labels that are used, and only those. -/
theorem emit_of_begins (begins : Begins tokens statements rest) (addressOf : String → Option Nat)
    (address : Nat)
    (known : ∀ name usage, (name, usage) ∈ placed Statement.uses address statements →
      (addressOf name).isSome) :
    emit addressOf address (tokens.map Token.text) =
      (emit addressOf (address + codeSize statements) (rest.map Token.text)).map
        (placed (Statement.code (words addressOf)) address statements ++ ·) := by
  induction begins generalizing address with
  | done rest => exact Option.map_id'.symm
  | label declares more ih =>
      rw [List.map_cons, emit, ofName?_of_declares declares]
      dsimp only
      rw [ih address known, codeSize_cons, ← Nat.add_assoc]
      rfl
  | plain written more ih =>
      rw [List.map_cons, emit, written]
      dsimp only
      rw [ih (address + 1) known, Option.map_map, codeSize_cons, ← Nat.add_assoc]
      rfl
  | @operand token operandToken keyword value tokens rest statements written means more ih =>
      have found : (operand? addressOf operandToken.text).isSome := by
        rw [isSome_operand?_iff means]
        rintro name rfl
        exact known name _ (List.mem_append_left _ (List.mem_singleton_self _))
      obtain ⟨number, denotes⟩ := Option.isSome_iff_exists.1 found
      have code := code_eq_instructions (toBytes_of_operand? means denotes) keyword address token
        operandToken
      rw [List.map_cons, List.map_cons, emit, written]
      dsimp only
      rw [denotes]
      dsimp only
      rw [← size_eq_width keyword value token operandToken,
        ih _ fun name usage used => known name usage (List.mem_append_right _ used), Option.map_map,
        codeSize_cons, ← Nat.add_assoc, ← code, placed]
      exact congrArg (Option.map · _) (funext fun back => (List.append_assoc ..).symm)

/-- If the second pass succeeds, the labels that are used have addresses, and the rest of the words
is well formed as far as the second pass looks. -/
theorem known_of_emit (begins : Begins tokens statements rest) {addressOf : String → Option Nat}
    (address : Nat) (emitted : (emit addressOf address (tokens.map Token.text)).isSome) :
    (∀ name usage, (name, usage) ∈ placed Statement.uses address statements →
      (addressOf name).isSome) ∧
      (emit addressOf (address + codeSize statements) (rest.map Token.text)).isSome := by
  induction begins generalizing address with
  | done rest => exact ⟨nofun, emitted⟩
  | label declares more ih =>
      rw [List.map_cons, emit, ofName?_of_declares declares] at emitted
      obtain ⟨known, later⟩ := ih address emitted
      rw [codeSize_cons, ← Nat.add_assoc]
      exact ⟨known, later⟩
  | plain written more ih =>
      rw [List.map_cons, emit, written] at emitted
      dsimp only at emitted
      rw [Option.isSome_map] at emitted
      obtain ⟨known, later⟩ := ih (address + 1) emitted
      rw [codeSize_cons, ← Nat.add_assoc]
      exact ⟨known, later⟩
  | @operand token operandToken keyword value tokens rest statements written means more ih =>
      rw [List.map_cons, List.map_cons, emit, written] at emitted
      dsimp only at emitted
      split at emitted
      · cases emitted
      · next number denotes =>
          rw [Option.isSome_map, ← size_eq_width keyword value token operandToken] at emitted
          obtain ⟨known, later⟩ := ih _ emitted
          rw [codeSize_cons, ← Nat.add_assoc]
          refine ⟨fun name usage used => ?_, later⟩
          rcases List.mem_append.1 used with here | there
          · cases value with
            | literal word => cases here
            | label target =>
                rw [Statement.uses, List.mem_singleton] at here
                cases here
                exact (isSome_operand?_iff means).1 (by rw [denotes]; rfl) _ rfl
          · exact known name usage there

/-- No pass gets past a malformed statement. -/
theorem passes_of_malformed {error : AssemblyError} (malformed : Malformed rest error)
    (addressOf : String → Option Nat) (address : Nat) :
    walk address (rest.map Token.text) = none ∨
      emit addressOf address (rest.map Token.text) = none := by
  cases malformed with
  | head wrong =>
      left
      rw [List.map_cons, walk, ofName?_of_wrong wrong, declared?_of_wrong wrong]
  | missingOperand written =>
      left
      rw [List.map_cons, walk, written]
      rfl
  | operand written wrong =>
      right
      rw [List.map_cons, List.map_cons, emit, written]
      dsimp only
      rw [operand?_of_wrong wrong]

end Passes

/-! ## Agreement -/

theorem map_fst_labels (address : Nat) (statements : List Statement) :
    (labels address statements).map Prod.fst = labelNames statements := by
  rw [labels, List.map_map, ← map_fst_placed_declarations address]
  rfl

theorem mem_labels_iff {address place : Nat} {statements : List Statement} {name : String} :
    (name, place) ∈ labels address statements ↔
      ∃ location, (name, place, location) ∈ placed Statement.declarations address statements := by
  rw [labels, List.mem_map]
  constructor
  · rintro ⟨⟨label, here, location⟩, listed, same⟩
    cases same
    exact ⟨location, listed⟩
  · rintro ⟨location, listed⟩
    exact ⟨_, listed, rfl⟩

theorem isSome_lookup_iff {pairs : List (String × Nat)} {name : String} :
    (pairs.lookup name).isSome ↔ name ∈ pairs.map Prod.fst := by
  rw [List.lookup_isSome_iff, List.mem_map]
  exact exists_congr fun pair => and_congr_right fun _ => beq_iff_eq.trans eq_comm

/-- What the two passes make of a program. -/
theorem assemble_of_isProgram {tokens : List Token} {statements : List Statement}
    (program : IsProgram tokens statements) :
    assemble (tokens.map Token.text) =
      some ((labels 0 statements).mergeSort fun a b => a.1 ≤ b.1,
        placed (Statement.code (words fun name => (labels 0 statements).lookup name)) 0
          statements) := by
  have walked := walk_of_begins program.begins 0
  rw [List.map_nil, walk, Option.map_some] at walked
  dsimp only at walked
  rw [List.append_nil, Nat.zero_add] at walked
  have accepted : ((labels 0 statements).map Prod.fst).Nodup ∧ codeSize statements ≤ 16384 :=
    ⟨by rw [map_fst_labels]; exact program.distinct, program.fits⟩
  have emitted := emit_of_begins program.begins
    (fun name => (labels 0 statements).lookup name) 0 (by
      intro name usage used
      rw [isSome_lookup_iff, map_fst_labels]
      exact program.settled name usage used)
  rw [List.map_nil, emit, Option.map_some, List.append_nil] at emitted
  rw [assemble, walked]
  dsimp only
  rw [if_pos accepted, emitted]
  rfl

/-- What the two passes accept is a program. -/
theorem exists_isProgram {tokens : List Token} {made : List (String × Nat) × List UInt8}
    (assembled : assemble (tokens.map Token.text) = some made) :
    ∃ statements, IsProgram tokens statements := by
  obtain ⟨statements, rest, begins, ends⟩ := exists_begins tokens
  have walking := walk_of_begins begins 0
  rw [assemble] at assembled
  split at assembled
  · cases assembled
  · next found size walked =>
      rw [walked] at walking
      obtain ⟨⟨further, stop⟩, rested, same⟩ := Option.map_eq_some_iff.1 walking.symm
      split at assembled
      · next accepted =>
          obtain ⟨code, emitted, _⟩ := Option.map_eq_some_iff.1 assembled
          obtain ⟨known, later⟩ := known_of_emit begins 0 (Option.isSome_of_eq_some emitted)
          rcases ends with rfl | ⟨error, malformed⟩
          · cases rested
            cases same
            rw [List.append_nil, map_fst_labels, Nat.zero_add] at accepted
            refine ⟨statements, begins, accepted.1, fun name usage used => ?_, accepted.2⟩
            have listed := isSome_lookup_iff.1 (known name usage used)
            rwa [List.append_nil, map_fst_labels] at listed
          · rcases passes_of_malformed malformed (fun name => found.lookup name)
              (0 + codeSize statements) with none | none
            · rw [none] at rested
              cases rested
            · rw [none] at later
              cases later
      · cases assembled

/-- Two lists of symbols with the same members are the same in the order of the names. -/
theorem eq_mergeSort {sorted found : List (String × Nat)}
    (order : sorted.Pairwise fun a b => a.1 < b.1) (distinct : (found.map Prod.fst).Nodup)
    (same : ∀ symbol, symbol ∈ sorted ↔ symbol ∈ found) :
    sorted = found.mergeSort fun a b => a.1 ≤ b.1 := by
  have apart : sorted.Nodup := order.imp fun less => by
    rintro rfl
    exact String.lt_irrefl _ less
  have reordered : sorted.Perm (found.mergeSort fun a b => a.1 ≤ b.1) :=
    ((List.perm_ext_iff_of_nodup apart distinct.of_map).2 same).trans
      (List.mergeSort_perm found _).symm
  have ascending : (found.mergeSort fun a b => a.1 ≤ b.1).Pairwise fun a b =>
      decide (a.1 ≤ b.1) = true := by
    apply List.pairwise_mergeSort
    · intro a b c
      simp only [decide_eq_true_eq]
      exact String.le_trans
    · intro a b
      simpa only [Bool.or_eq_true, decide_eq_true_eq] using String.le_total a.1 b.1
  refine reordered.eq_of_pairwise ?_ (order.imp fun less => ?_) ascending
  · intro a b here there ab ba
    rw [decide_eq_true_eq] at ab ba
    rw [same] at here
    rw [List.mem_mergeSort] at there
    exact List.inj_on_of_nodup_map distinct here there (String.le_antisymm ab ba)
  · rw [decide_eq_true_eq]
    exact String.not_lt.1 (String.lt_asymm less)

end TwoPass

/-- Assembly in one pass makes what the two passes make: it succeeds for the same sources, and then
with the same symbols and the same image. -/
theorem assemble_eq_twoPass (source : String) :
    (assemble source).toOption.map
        (fun assembly => (assembly.symbols, assembly.image.bytes.toList)) =
      TwoPass.assemble ((tokenize source).toList.map Token.text) := by
  by_cases program : ∃ statements, IsProgram (tokenize source).toList statements
  · obtain ⟨statements, program⟩ := program
    have distinct : ((TwoPass.labels 0 statements).map Prod.fst).Nodup := by
      rw [TwoPass.map_fst_labels]
      exact program.distinct
    have addresses : Addresses
        (TwoPass.words fun name => (TwoPass.labels 0 statements).lookup name) statements := by
      intro name address location listed
      rw [TwoPass.words, lookup_of_mem distinct (TwoPass.mem_labels_iff.2 ⟨location, listed⟩)]
      rfl
    obtain ⟨assembly, assembled, laid⟩ := program.assemble_eq addresses
    have symbols := TwoPass.eq_mergeSort laid.sorted distinct fun (name, address) =>
      (laid.symbols name address).trans TwoPass.mem_labels_iff.symm
    rw [assembled, TwoPass.assemble_of_isProgram program, Except.toOption, Option.map_some, symbols,
      laid.code]
  · rcases assembled : assemble source with error | assembly
    · rcases made : TwoPass.assemble ((tokenize source).toList.map Token.text) with _ | result
      · rfl
      · exact absurd (TwoPass.exists_isProgram made) program
    · exact absurd (exists_isProgram assembled) program

end TwoStack
