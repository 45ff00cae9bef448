import TwoStack.Proofs.Assembly.Calls
import TwoStack.Proofs.Assembly.FirstError
import TwoStack.Proofs.Assembly.Relocation
import TwoStack.Proofs.Assembly.TwoPass

/-!
# Linking

Two texts with a line feed between them assemble to their two programs linked together
(`assemble_joined`).  The image is the first image and then the second one, in which the words that
stand for addresses are increased by the size of the first; the symbols are those of both; and the
listing is the first listing and then the second one, with its entries moved.

The joined text has the statements of both (`IsProgram.join`), and their layout is the layout of the
first ones and then that of the second ones, further up.  What the symbol table holds plays no part:
programs are compared by their layouts.
-/

namespace TwoStack

/-! ## Programs linked together -/

/-- Where the words that stand for addresses are in the image of a text: the operands that are
labels, and the addresses to which calls return. -/
def relocations (source : String) : List Nat :=
  placed Statement.relocations 0 (Statement.parse (tokenize source)).1.toList

/-- An entry of a listing, moved up in an image, with lines and tokens before it. -/
def ListingEntry.moved (image : Bytes) (distance lines tokens : Nat) (entry : ListingEntry) :
    ListingEntry :=
  { address := distance + entry.address
    bytes := image.extract (distance + entry.address)
      (distance + entry.address + entry.bytes.size)
    text := entry.text
    location := entry.location.after lines tokens }

/-- A program that is the programs of two texts, the second behind the first. -/
structure Assembly.Links (linked : Assembly) (first second : String) (one two : Assembly) :
    Prop where
  image : ∃ moved, linked.image.bytes = one.image.bytes ++ moved ∧
    Bytes.Relocated one.image.size (relocations second) two.image.bytes moved
  symbols : linked.symbols =
    (one.symbols ++ two.symbols.map (Prod.map id (one.image.size + ·))).mergeSort
      fun a b => a.1 ≤ b.1
  listing : linked.listing = one.listing ++
    two.listing.map (.moved linked.image.bytes one.image.size (lineCount first) one.tokens)
  tokens : linked.tokens = one.tokens + two.tokens

/-! ## Statements in other places -/

section MapTokens

variable {move : Token → Token} {statements : List Statement}

theorem Statement.size_mapTokens (statement : Statement) :
    (statement.mapTokens move).size = statement.size := by
  rcases statement with _ | _ | ⟨keyword, _, _, _⟩
  · rfl
  · rfl
  · cases keyword <;> rfl

theorem forall₂_mapTokens :
    List.Forall₂ (fun statement other => other = statement.mapTokens move) statements
      (statements.map (.mapTokens move)) :=
  List.forall₂_map_right_iff.2 (List.forall₂_same.2 fun _ _ => rfl)

theorem codeSize_mapTokens :
    codeSize (statements.map (.mapTokens move)) = codeSize statements := by
  refine codeSize_of_forall₂ ?_ forall₂_mapTokens
  rintro statement _ rfl
  exact statement.size_mapTokens

theorem labelNames_mapTokens :
    labelNames (statements.map (.mapTokens move)) = labelNames statements := by
  rw [labelNames, List.filterMap_map, labelNames]
  congr 1
  funext statement
  cases statement <;> rfl

theorem UsedAt.of_mapTokens {name : String} {operandToken : Token}
    (used : UsedAt (statements.map (.mapTokens move)) name operandToken) :
    ∃ token, UsedAt statements name token := by
  obtain ⟨keyword, token, moved⟩ := used
  obtain ⟨statement, listed, same⟩ := List.mem_map.1 moved
  cases statement with
  | label other token => cases same
  | plain opcode token => cases same
  | operand keyword target token operandToken =>
      cases same
      exact ⟨_, _, _, listed⟩

/-- What statements contribute further up, if each of them contributes this there. -/
theorem placed_mapTokens {α β : Type} {part : Nat → Statement → List α}
    {there : Nat → Statement → List β} {f : α → β} {distance : Nat}
    (each : ∀ address statement,
      there (distance + address) (statement.mapTokens move) = (part address statement).map f)
    (address : Nat) :
    placed there (distance + address) (statements.map (.mapTokens move)) =
      (placed part address statements).map f := by
  have alike : (placed there (distance + address) (statements.map (.mapTokens move))).map id =
      (placed part address statements).map f := by
    refine map_placed_of_forall₂ ?_ forall₂_mapTokens ?_ address
    · rintro statement _ rfl
      exact statement.size_mapTokens
    · rintro address statement _ rfl
      rw [List.map_id]
      exact each address statement
  rwa [List.map_id] at alike

end MapTokens

section After

variable {distance lines tokens : Nat} {statements : List Statement}

theorem placed_code_mapTokens {move : Token → Token} (value : String → Word) (address : Nat) :
    placed (Statement.code value) address (statements.map (.mapTokens move)) =
      placed (Statement.code value) address statements := by
  have same := @placed_mapTokens move statements UInt8 UInt8 (Statement.code value)
    (Statement.code value) id 0 (fun address statement => by
      rw [Nat.zero_add, List.map_id]
      cases statement <;> rfl) address
  rwa [Nat.zero_add, List.map_id] at same

theorem placed_declarations_after :
    placed Statement.declarations distance (statements.map (.mapTokens (.after lines tokens))) =
      (placed Statement.declarations 0 statements).map fun (name, address, location) =>
        (name, distance + address, location.after lines tokens) := by
  refine placed_mapTokens (fun address statement => ?_) 0
  cases statement <;> rfl

/-- The place of a statement further up. -/
def Span.after (distance lines tokens : Nat) (span : Span) : Span :=
  ⟨distance + span.start, distance + span.stop, span.text, span.location.after lines tokens⟩

theorem placed_spans_after :
    placed Statement.spans distance (statements.map (.mapTokens (.after lines tokens))) =
      (placed Statement.spans 0 statements).map (Span.after distance lines tokens) := by
  refine placed_mapTokens (fun address statement => ?_) 0
  rw [Statement.spans, Statement.spans, statement.size_mapTokens, Nat.add_assoc]
  cases statement <;> rfl

end After

/-! ## Joined programs -/

/-- Two programs without a common label that fit in memory together are one program. -/
theorem IsProgram.join {first second : String} {front back : List Statement}
    (one : IsProgram (tokenize first).toList front)
    (two : IsProgram (tokenize second).toList back)
    (apart : ∀ name ∈ labelNames front, name ∉ labelNames back)
    (fits : codeSize front + codeSize back ≤ memorySize) :
    IsProgram (tokenize (first ++ "\n" ++ second)).toList
      (front ++ back.map (.mapTokens (.after (lineCount first) (tokenize first).size))) where
  begins := by
    rw [tokenize_joined]
    exact one.begins.join (two.begins.mapTokens fun _ => rfl)
  distinct := by
    rw [labelNames_append, labelNames_mapTokens, List.nodup_append]
    refine ⟨one.distinct, two.distinct, fun name here other there same => ?_⟩
    subst same
    exact apart name here there
  settled := by
    rw [settled_iff, labelNames_append, labelNames_mapTokens]
    rintro name operandToken ⟨keyword, token, listed⟩
    rcases List.mem_append.1 listed with here | there
    · exact List.mem_append_left _ (settled_iff.1 one.settled _ _ ⟨keyword, token, here⟩)
    · have used : UsedAt _ name operandToken := ⟨keyword, token, there⟩
      obtain ⟨original, used⟩ := used.of_mapTokens
      exact List.mem_append_right _ (settled_iff.1 two.settled _ _ used)
  fits := by rwa [codeSize_append, codeSize_mapTokens]

theorem tokens_of_assemble {source : String} {assembly : Assembly}
    (assembled : assemble source = .ok assembly) : assembly.tokens = (tokenize source).size := by
  rw [assemble] at assembled
  dsimp only at assembled
  split at assembled
  · cases assembled
  · split at assembled
    · cases assembled
    · obtain ⟨_, _, _, _, _, _, _, rfl⟩ := Build.exists_of_finish assembled
      rfl

/-! ## Layouts of joined programs -/

/-- A listed statement lies in the code. -/
theorem le_codeSize_of_mem_spans {statements : List Statement} {span : Span}
    (listed : span ∈ placed Statement.spans 0 statements) :
    span.start ≤ span.stop ∧ span.stop ≤ codeSize statements := by
  obtain ⟨front, statement, back, rfl, here⟩ := mem_placed_iff.1 listed
  obtain ⟨⟨text, location⟩, -, rfl⟩ := List.mem_map.1 here
  rw [codeSize_append, codeSize_cons]
  dsimp only
  omega

section Entry

variable {code tail : Bytes} {span : Span}

/-- What is put behind an image does not change the entries of its listing. -/
theorem Span.entry_append (inside : span.stop ≤ code.size) :
    span.entry (code ++ tail) = span.entry code := by
  have none : tail.extract (span.start - code.size) 0 = #[] := by
    apply Array.extract_eq_empty_of_le
    rw [Nat.zero_min]
    exact Nat.zero_le _
  rw [Span.entry, Span.entry, Array.extract_append, Nat.sub_eq_zero_of_le inside, none,
    Array.append_empty]

theorem Span.entry_after (order : span.start ≤ span.stop) (inside : span.stop ≤ code.size)
    (image : Bytes) (distance lines tokens : Nat) :
    (span.after distance lines tokens).entry image =
      (span.entry code).moved image distance lines tokens := by
  have size : (code.extract span.start span.stop).size = span.stop - span.start := by
    rw [Array.size_extract, Nat.min_eq_left inside]
  have stop : distance + span.start + (span.stop - span.start) = distance + span.stop := by omega
  rw [Span.entry, ListingEntry.moved, Span.entry]
  dsimp only
  rw [size, stop, Span.after]

end Entry

section Joined

variable {one two linked : Assembly} {front back : List Statement}
  {first second joined : String → Word} {lines tokens : Nat}

/-- What linking makes of two layouts: that of the first statements and then that of the second
ones, further up. -/
theorem Assembly.Laid.joined_code (layOne : one.Laid front first) (layTwo : two.Laid back second)
    (laid : linked.Laid (front ++ back.map (.mapTokens (.after lines tokens))) joined)
    (here : ∀ name usage, (name, usage) ∈ placed Statement.uses 0 front →
      joined name = first name)
    (there : ∀ name usage, (name, usage) ∈ placed Statement.uses 0 back →
      (joined name).toInt = (second name).toInt + one.image.size)
    (small : codeSize front + codeSize back ≤ memorySize) :
    ∃ moved, linked.image.bytes = one.image.bytes ++ moved ∧
      Bytes.Relocated one.image.size (placed Statement.relocations 0 back) two.image.bytes
        moved := by
  have size := layOne.size_image
  have code := laid.code
  rw [placed_append, placed_code_congr front here, ← layOne.code, placed_code_mapTokens,
    Nat.zero_add, ← size] at code
  refine ⟨(placed (Statement.code joined) one.image.size back).toArray, ?_, ?_⟩
  · rw [← Array.toList_inj, code, Array.toList_append]
  · have call : callSize = 12 := rfl
    have bound : one.image.size + 0 + codeSize back + callSize < 2147483648 := by
      rw [size, call]
      rw [memorySize] at small
      omega
    have relocates := placed_relocates back bound there
    rw [Nat.add_zero, ← layTwo.code] at relocates
    exact relocates.relocated

theorem Assembly.Laid.joined_symbols (layOne : one.Laid front first)
    (layTwo : two.Laid back second)
    (laid : linked.Laid (front ++ back.map (.mapTokens (.after lines tokens))) joined)
    (apart : ∀ name ∈ labelNames front, name ∉ labelNames back) :
    linked.symbols =
      (one.symbols ++ two.symbols.map (Prod.map id (one.image.size + ·))).mergeSort
        fun a b => a.1 ≤ b.1 := by
  apply TwoPass.eq_mergeSort laid.sorted
  · rw [List.map_append, List.map_map, List.nodup_append]
    refine ⟨layOne.nodup_symbols, layTwo.nodup_symbols, ?_⟩
    rintro name here _ there rfl
    exact apart name (layOne.mem_labelNames_iff.2 here) (layTwo.mem_labelNames_iff.2 there)
  · rintro ⟨name, address⟩
    rw [laid.symbols, placed_append, Nat.zero_add, placed_declarations_after, layOne.size_image]
    constructor
    · rintro ⟨location, listed⟩
      rcases List.mem_append.1 listed with here | there
      · exact List.mem_append_left _ ((layOne.symbols name address).2 ⟨location, here⟩)
      · obtain ⟨⟨label, before, place⟩, declared, same⟩ := List.mem_map.1 there
        cases same
        have found := (layTwo.symbols _ _).2 ⟨place, declared⟩
        exact List.mem_append_right _ (List.mem_map.2 ⟨_, found, rfl⟩)
    · intro listed
      rcases List.mem_append.1 listed with here | there
      · obtain ⟨location, declared⟩ := (layOne.symbols name address).1 here
        exact ⟨location, List.mem_append_left _ declared⟩
      · obtain ⟨⟨label, before⟩, found, same⟩ := List.mem_map.1 there
        cases same
        obtain ⟨place, declared⟩ := (layTwo.symbols _ _).1 found
        exact ⟨_, List.mem_append_right _ (List.mem_map.2 ⟨_, declared, rfl⟩)⟩

theorem Assembly.Laid.joined_listing (layOne : one.Laid front first)
    (layTwo : two.Laid back second)
    (laid : linked.Laid (front ++ back.map (.mapTokens (.after lines tokens))) joined)
    {moved : Bytes} (image : linked.image.bytes = one.image.bytes ++ moved) :
    linked.listing = one.listing ++
      two.listing.map (.moved linked.image.bytes one.image.size lines tokens) := by
  rw [← Array.toList_inj, laid.listing, placed_append, Nat.zero_add, placed_spans_after,
    List.map_append, Array.toList_append, Array.toList_map, layOne.listing, layTwo.listing,
    List.map_map, List.map_map, layOne.size_image]
  congr 1
  · apply List.map_congr_left
    intro span listed
    have bounds := le_codeSize_of_mem_spans listed
    rw [← layOne.size_image] at bounds
    rw [image, Span.entry_append bounds.2]
  · apply List.map_congr_left
    intro span listed
    have bounds := le_codeSize_of_mem_spans listed
    rw [← layTwo.size_image] at bounds
    exact Span.entry_after bounds.1 bounds.2 _ _ _ _

end Joined

/-! ## Joined texts -/

section Values

variable {front back : List Statement} {first second joined : String → Word} {move : Token → Token}

/-- Labels that stay where they are have the same words. -/
theorem Addresses.eq_of_append (addresses : Addresses joined (front ++ back))
    (before : Addresses first front) (settled : Settled front) {name : String} {usage : Usage}
    (used : (name, usage) ∈ placed Statement.uses 0 front) : joined name = first name := by
  obtain ⟨address, location, declared⟩ :=
    exists_declared_of_mem_labelNames (settled name usage used)
  have kept : (name, address, location) ∈ placed Statement.declarations 0 (front ++ back) := by
    rw [placed_append]
    exact List.mem_append_left _ declared
  rw [addresses name address location kept, before name address location declared]

/-- Labels that are moved have words that are increased as much. -/
theorem Addresses.toInt_of_append {lines tokens : Nat}
    (addresses : Addresses joined (front ++ back.map (.mapTokens (.after lines tokens))))
    (before : Addresses second back) (settled : Settled back)
    (small : codeSize front + codeSize back ≤ memorySize) {name : String} {usage : Usage}
    (used : (name, usage) ∈ placed Statement.uses 0 back) :
    (joined name).toInt = (second name).toInt + codeSize front := by
  obtain ⟨address, location, declared⟩ :=
    exists_declared_of_mem_labelNames (settled name usage used)
  have moved : (name, codeSize front + address, location.after lines tokens) ∈
      placed Statement.declarations 0 (front ++ back.map (.mapTokens (.after lines tokens))) := by
    rw [placed_append, Nat.zero_add, placed_declarations_after]
    exact List.mem_append_right _ (List.mem_map.2 ⟨_, declared, rfl⟩)
  have inside : address ≤ codeSize back := by
    obtain ⟨_, _, _, rfl, rfl⟩ := exists_label_of_placed declared
    rw [codeSize_append]
    exact Nat.le_add_right _ _
  rw [addresses _ _ _ moved, before _ _ _ declared]
  apply toInt_ofNat_add
  rw [memorySize] at small
  omega

end Values

/-- Two texts that assemble, have no label in common and fit in memory together assemble to their
programs linked together when they are joined by a line feed. -/
theorem assemble_joined {first second : String} {one two : Assembly}
    (assembledFirst : assemble first = .ok one) (assembledSecond : assemble second = .ok two)
    (apart : (one.symbols.map Prod.fst).Disjoint (two.symbols.map Prod.fst))
    (fits : one.image.size + two.image.size ≤ memorySize) :
    ∃ linked, assemble (first ++ "\n" ++ second) = .ok linked ∧
      linked.Links first second one two := by
  obtain ⟨front, valueFirst, programFirst, addressesFirst, layOne⟩ := exists_laid assembledFirst
  obtain ⟨back, valueSecond, programSecond, addressesSecond, layTwo⟩ := exists_laid assembledSecond
  rw [layOne.size_image, layTwo.size_image] at fits
  have distinct : ∀ name ∈ labelNames front, name ∉ labelNames back := fun name here there =>
    apart (layOne.mem_labelNames_iff.1 here) (layTwo.mem_labelNames_iff.1 there)
  have program := programFirst.join programSecond distinct fits
  obtain ⟨value, addresses⟩ := exists_addresses program.distinct
  obtain ⟨linked, assembled, laid⟩ := program.assemble_eq addresses
  have parsed := programSecond.begins.parse_eq
  rw [Array.toArray_toList] at parsed
  have slots : relocations second = placed Statement.relocations 0 back := by
    rw [relocations, parsed]
  have tokens := tokens_of_assemble assembledFirst
  obtain ⟨moved, image, relocated⟩ := layOne.joined_code layTwo laid
    (fun _ _ used => addresses.eq_of_append addressesFirst programFirst.settled used)
    (fun _ _ used => by
      rw [layOne.size_image]
      exact addresses.toInt_of_append addressesSecond programSecond.settled fits used)
    fits
  refine ⟨linked, assembled, ?_, ?_, ?_, ?_⟩
  · rw [slots]
    exact ⟨moved, image, relocated⟩
  · exact layOne.joined_symbols layTwo laid distinct
  · rw [tokens]
    exact layOne.joined_listing layTwo laid image
  · rw [tokens_of_assemble assembled, tokens, tokens_of_assemble assembledSecond,
      ← Array.length_toList, tokenize_joined, List.length_append, List.length_map,
      Array.length_toList, Array.length_toList]

/-- A loop behind which a call is put.  The literal `1` could be an address in it, and stays. -/
theorem assemble_joined_loop_and_call :
    ∃ one two linked, assemble "a: PUSH a JMP ; again" = .ok one ∧
      assemble "CALL f HALT f: PUSH 1 POPIP" = .ok two ∧
      assemble ("a: PUSH a JMP ; again" ++ "\n" ++ "CALL f HALT f: PUSH 1 POPIP") = .ok linked ∧
      linked.Links "a: PUSH a JMP ; again" "CALL f HALT f: PUSH 1 POPIP" one two ∧
      relocations "CALL f HALT f: PUSH 1 POPIP" = [1, 7] := by
  have loop : (assemble "a: PUSH a JMP ; again").toOption.map
      (fun assembly => (assembly.symbols, assembly.image.size)) = some ([("a", 0)], 6) := by
    decide +kernel
  have call : (assemble "CALL f HALT f: PUSH 1 POPIP").toOption.map
      (fun assembly => (assembly.symbols, assembly.image.size)) = some ([("f", 13)], 19) := by
    decide +kernel
  rcases first : assemble "a: PUSH a JMP ; again" with _ | one
  · rw [first] at loop
    cases loop
  rcases second : assemble "CALL f HALT f: PUSH 1 POPIP" with _ | two
  · rw [second] at call
    cases call
  rw [first, Except.toOption, Option.map_some, Option.some.injEq, Prod.mk.injEq] at loop
  rw [second, Except.toOption, Option.map_some, Option.some.injEq, Prod.mk.injEq] at call
  have apart : (one.symbols.map Prod.fst).Disjoint (two.symbols.map Prod.fst) := by
    rw [loop.1, call.1, List.disjoint_iff_ne]
    decide
  have fits : one.image.size + two.image.size ≤ memorySize := by
    rw [loop.2, call.2]
    decide
  obtain ⟨linked, assembled, links⟩ := assemble_joined first second apart fits
  exact ⟨one, two, linked, rfl, rfl, assembled, links, by decide +kernel⟩

end TwoStack
