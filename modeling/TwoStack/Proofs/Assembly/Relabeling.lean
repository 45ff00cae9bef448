import TwoStack.Proofs.Assembly.FirstError
import TwoStack.Proofs.Assembly.TwoPass
import TwoStack.Proofs.Source.Relabeling

/-!
# The names of labels do not matter

Texts that differ in the names of their labels, in their layout and in their comments assemble to
the same image, or have the same error (`assemble_relabeled`).

The two sources are followed side by side.  Their builds hold corresponding statements as long as
both can be added, and both are refused otherwise, for the same reason (`Build.InStep.add`,
`Build.InStep.addAll`); the completed programs are the same or fail alike (`Build.InStep.finish`).
The tables of symbols are in different orders, but neither the code nor the answer shows it: the
code is that of the layout, and the undeclared use that is answered is the one with the least index.
-/

namespace TwoStack

/-! ## Answers side by side -/

/-- Two answers that are results in a relation or errors that differ in the names of labels. -/
inductive Parallel {α β : Type} (rename : String → String) (related : α → β → Prop) :
    Except AssemblyError α → Except AssemblyError β → Prop
  | ok {result other} (same : related result other) :
    Parallel rename related (.ok result) (.ok other)
  | error {wrong other} (same : wrong.Renamed rename other) :
    Parallel rename related (.error wrong) (.error other)

/-- What goes on alike from related results goes on alike from these answers. -/
theorem Parallel.bind {α β γ δ : Type} {rename : String → String} {related : α → β → Prop}
    {following : γ → δ → Prop} {one : Except AssemblyError α} {two : Except AssemblyError β}
    {next : α → Except AssemblyError γ} {follow : β → Except AssemblyError δ}
    (first : Parallel rename related one two)
    (more : ∀ result other, related result other →
      Parallel rename following (next result) (follow other)) :
    Parallel rename following (one.bind next) (two.bind follow) := by
  cases first with
  | ok same => exact more _ _ same
  | error same => exact .error same

/-- Two programs with the same image and the same listing, but for the texts and places of the
statements, and with the same labels under other names. -/
structure Assembly.Renamed (rename : String → String) (assembly other : Assembly) : Prop where
  image : other.image = assembly.image
  listing : other.listing.toList.map (fun entry => (entry.address, entry.bytes)) =
    assembly.listing.toList.map fun entry => (entry.address, entry.bytes)
  symbols : other.symbols =
    (assembly.symbols.map (Prod.map rename id)).mergeSort fun a b => a.1 ≤ b.1

/-! ## Corresponding statements -/

section Statements

variable {rename : String → String} {names : Set String} {front back : List Statement}

theorem Statement.Renamed.size_eq {statement other : Statement}
    (renamed : statement.Renamed rename names other) : other.size = statement.size := by
  cases renamed with
  | label listed same => rfl
  | plain opcode token other => rfl
  | operand keyword called same alike => cases keyword <;> rfl

theorem codeSize_renamed (renamed : List.Forall₂ (Statement.Renamed rename names) front back) :
    codeSize back = codeSize front :=
  codeSize_of_forall₂ (fun _ _ same => same.size_eq) renamed

theorem placed_code_renamed (renamed : List.Forall₂ (Statement.Renamed rename names) front back)
    (value : String → Word) :
    placed (Statement.code value) 0 back = placed (Statement.code (value ∘ rename)) 0 front := by
  have agree (address : Nat) (statement other : Statement)
      (same : statement.Renamed rename names other) :
      (other.code value (0 + address)).map id =
        (statement.code (value ∘ rename) address).map id := by
    rw [Nat.zero_add]
    cases same with
    | label listed same => rfl
    | plain opcode token other => rfl
    | operand keyword called same alike => cases called <;> rfl
  have bytes := map_placed_of_forall₂ (fun _ _ same => same.size_eq) renamed agree 0
  rwa [List.map_id, List.map_id] at bytes

theorem labels_renamed (renamed : List.Forall₂ (Statement.Renamed rename names) front back) :
    TwoPass.labels 0 back = (TwoPass.labels 0 front).map (Prod.map rename id) := by
  rw [TwoPass.labels, TwoPass.labels, List.map_map]
  refine map_placed_of_forall₂ (fun _ _ same => same.size_eq) renamed ?_ 0
  intro address statement other same
  rw [Nat.zero_add]
  cases same with
  | label listed same => rfl
  | plain opcode token other => rfl
  | operand keyword called same alike => rfl

theorem labelNames_renamed (renamed : List.Forall₂ (Statement.Renamed rename names) front back) :
    labelNames back = (labelNames front).map rename := by
  rw [← TwoPass.map_fst_labels 0 back, ← TwoPass.map_fst_labels 0 front, labels_renamed renamed,
    List.map_map, List.map_map]
  rfl

/-- The places of corresponding statements are the same. -/
theorem placed_spans_renamed (renamed : List.Forall₂ (Statement.Renamed rename names) front back) :
    (placed Statement.spans 0 back).map (fun span => (span.start, span.stop)) =
      (placed Statement.spans 0 front).map fun span => (span.start, span.stop) := by
  refine map_placed_of_forall₂ (fun _ _ same => same.size_eq) renamed ?_ 0
  intro address statement other same
  have size := same.size_eq
  rw [Nat.zero_add]
  cases same with
  | label listed same => rfl
  | plain opcode token other => rfl
  | operand keyword called same alike =>
      rw [Statement.spans, Statement.spans, size]
      rfl

/-- What is in the first of two related lists has a counterpart in the second. -/
theorem exists_mem_of_forall₂ {α β : Type} {related : α → β → Prop} {front : List α}
    {back : List β} (same : List.Forall₂ related front back) {x : α} (listed : x ∈ front) :
    ∃ y ∈ back, related x y := by
  induction same with
  | nil => cases listed
  | cons first more ih =>
      rcases List.mem_cons.1 listed with rfl | listed
      · exact ⟨_, List.mem_cons_self, first⟩
      · obtain ⟨y, found, later⟩ := ih listed
        exact ⟨y, List.mem_cons_of_mem _ found, later⟩

section Counterparts

variable (renamed : List.Forall₂ (Statement.Renamed rename names) front back)
include renamed

/-- A declaration has a counterpart with the new name, at the same token. -/
theorem exists_declared_renamed {name : String} {first : Token}
    (declared : .label name first ∈ front) :
    name ∈ names ∧ ∃ other, .label (rename name) other ∈ back ∧
      first.location.index = other.location.index := by
  obtain ⟨_, found, same⟩ := exists_mem_of_forall₂ renamed declared
  cases same with
  | label listed same => exact ⟨listed, _, found, same⟩

theorem mem_names_of_mem_labelNames {name : String} (declared : name ∈ labelNames front) :
    name ∈ names := by
  obtain ⟨first, listed⟩ := mem_labelNames_iff.1 declared
  exact (exists_declared_renamed renamed listed).1

/-- A use has a counterpart with the new name, at the same token. -/
theorem exists_usedAt_renamed {name : String} {operandToken : Token}
    (used : UsedAt front name operandToken) :
    name ∈ names ∧ ∃ another, UsedAt back (rename name) another ∧
      operandToken.location.index = another.location.index := by
  obtain ⟨keyword, token, written⟩ := used
  obtain ⟨_, found, same⟩ := exists_mem_of_forall₂ renamed written
  cases same with
  | operand keyword called same alike =>
      cases called with
      | label listed => exact ⟨listed, _, ⟨_, _, found⟩, alike⟩

/-- A use under a new name is the counterpart of a use. -/
theorem exists_usedAt_of_renamed {called : String} {another : Token}
    (used : UsedAt back called another) :
    ∃ name ∈ names, ∃ operandToken, called = rename name ∧ UsedAt front name operandToken ∧
      operandToken.location.index = another.location.index := by
  obtain ⟨keyword, token, written⟩ := used
  obtain ⟨_, found, same⟩ := exists_mem_of_forall₂ renamed.flip written
  cases same with
  | operand keyword called same alike =>
      cases called with
      | label listed => exact ⟨_, listed, _, rfl, ⟨_, _, found⟩, alike⟩

variable (injective : Set.InjOn rename names)
include injective

theorem mem_labelNames_renamed_iff {name : String} (listed : name ∈ names) :
    rename name ∈ labelNames back ↔ name ∈ labelNames front := by
  rw [labelNames_renamed renamed, List.mem_map]
  constructor
  · rintro ⟨other, declared, same⟩
    rwa [← injective (mem_names_of_mem_labelNames renamed declared) listed same]
  · exact fun declared => ⟨name, declared, rfl⟩

/-- Distinct labels have distinct new names. -/
theorem nodup_map_rename {called : List String} (distinct : called.Nodup)
    (declared : ∀ name ∈ called, name ∈ labelNames front) : (called.map rename).Nodup := by
  refine distinct.map_on fun name here other there same => ?_
  exact injective (mem_names_of_mem_labelNames renamed (declared name here))
    (mem_names_of_mem_labelNames renamed (declared other there)) same

theorem nodup_labelNames_renamed (distinct : (labelNames front).Nodup) :
    (labelNames back).Nodup := by
  rw [labelNames_renamed renamed]
  exact nodup_map_rename renamed injective distinct fun _ declared => declared

theorem settled_renamed_iff : Settled back ↔ Settled front := by
  rw [settled_iff, settled_iff]
  constructor
  · intro settled name operandToken used
    obtain ⟨listed, another, found, _⟩ := exists_usedAt_renamed renamed used
    exact (mem_labelNames_renamed_iff renamed injective listed).1 (settled _ _ found)
  · intro settled called another used
    obtain ⟨name, listed, operandToken, rfl, found, _⟩ := exists_usedAt_of_renamed renamed used
    exact (mem_labelNames_renamed_iff renamed injective listed).2 (settled _ _ found)

end Counterparts

end Statements

/-! ## Layouts of corresponding statements -/

section Laid

variable {rename : String → String} {names : Set String} {front back : List Statement}
  {value : String → Word} (renamed : List.Forall₂ (Statement.Renamed rename names) front back)
include renamed

theorem Addresses.comp_rename (addresses : Addresses value back) :
    Addresses (value ∘ rename) front := by
  intro name address location declared
  have listed : (rename name, address) ∈ TwoPass.labels 0 back := by
    rw [labels_renamed renamed]
    exact List.mem_map.2 ⟨_, TwoPass.mem_labels_iff.2 ⟨location, declared⟩, rfl⟩
  obtain ⟨place, redeclared⟩ := TwoPass.mem_labels_iff.1 listed
  exact addresses _ _ _ redeclared

theorem Assembly.Laid.renamed_symbols {assembly other : Assembly}
    (laid : assembly.Laid front (value ∘ rename)) (injective : Set.InjOn rename names)
    (relaid : other.Laid back value) :
    other.symbols =
      (assembly.symbols.map (Prod.map rename id)).mergeSort fun a b => a.1 ≤ b.1 := by
  have called : (assembly.symbols.map (Prod.map rename id)).map Prod.fst =
      (assembly.symbols.map Prod.fst).map rename := by
    rw [List.map_map, List.map_map]
    rfl
  apply TwoPass.eq_mergeSort relaid.sorted
  · rw [called]
    exact nodup_map_rename renamed injective laid.nodup_symbols fun _ => laid.mem_labelNames_iff.2
  · rintro ⟨name, address⟩
    rw [relaid.symbols, ← TwoPass.mem_labels_iff, labels_renamed renamed, List.mem_map,
      List.mem_map]
    refine exists_congr fun symbol => and_congr_left fun _ => ?_
    rw [TwoPass.mem_labels_iff, laid.symbols]

/-- Corresponding statements are laid out as the same program. -/
theorem Assembly.Laid.relabel {assembly other : Assembly}
    (laid : assembly.Laid front (value ∘ rename)) (injective : Set.InjOn rename names)
    (relaid : other.Laid back value) : assembly.Renamed rename other := by
  have bytes : other.image.bytes = assembly.image.bytes := by
    rw [← Array.toList_inj, laid.code, relaid.code, placed_code_renamed renamed]
  refine ⟨?_, ?_, laid.renamed_symbols renamed injective relaid⟩
  · rcases image : assembly.image with ⟨code, small⟩
    rcases reimage : other.image with ⟨recode, resmall⟩
    rw [image, reimage] at bytes
    subst bytes
    rfl
  · have places := congrArg (List.map fun place : Nat × Nat =>
      (place.1, assembly.image.bytes.extract place.1 place.2)) (placed_spans_renamed renamed)
    rw [List.map_map, List.map_map] at places
    rw [laid.listing, relaid.listing, List.map_map, List.map_map, bytes]
    exact places

end Laid

/-! ## Builds side by side -/

/-- Two builds that hold corresponding statements, no label being declared twice. -/
structure Build.InStep (rename : String → String) (names : Set String)
    (front back : List Statement) (build rebuild : Build) : Prop where
  holds : build.Holds front
  reholds : rebuild.Holds back
  renamed : List.Forall₂ (Statement.Renamed rename names) front back
  distinct : (labelNames front).Nodup

section InStep

variable {rename : String → String} {names : Set String} {front back : List Statement}
  {build rebuild : Build}

theorem Statement.Renamed.hasReturn {statement other : Statement} {address : Nat}
    (renamed : statement.Renamed rename names other) (returns : statement.HasReturn address) :
    other.HasReturn address := by
  cases renamed with
  | label listed same => trivial
  | plain opcode token other => trivial
  | operand keyword called same alike =>
      cases keyword with
      | push => trivial
      | call => exact returns

namespace Build.InStep

theorem add_fresh (inStep : InStep rename names front back build rebuild)
    (injective : Set.InjOn rename names) {statement other : Statement}
    (same : statement.Renamed rename names other)
    (fresh : (labelNames (front ++ [statement])).Nodup)
    (returns : statement.HasReturn (codeSize front)) :
    Parallel rename (InStep rename names (front ++ [statement]) (back ++ [other]))
      (build.add statement) (rebuild.add other) := by
  have renamed := List.rel_append inStep.renamed (.cons same .nil)
  have refresh := nodup_labelNames_renamed renamed injective fresh
  have rereturns := same.hasReturn returns
  rw [← codeSize_renamed inStep.renamed] at rereturns
  obtain ⟨next, added, holds⟩ := inStep.holds.add fresh returns
  obtain ⟨renext, readded, reholds⟩ := inStep.reholds.add refresh rereturns
  rw [added, readded]
  exact .ok ⟨holds, reholds, renamed, fresh⟩

/-- Corresponding statements are both added, or both refused for the same reason. -/
theorem add (inStep : InStep rename names front back build rebuild)
    (injective : Set.InjOn rename names) {statement other : Statement}
    (same : statement.Renamed rename names other) :
    Parallel rename (InStep rename names (front ++ [statement]) (back ++ [other]))
      (build.add statement) (rebuild.add other) := by
  cases same with
  | @label name token other listed index =>
      by_cases declared : name ∈ labelNames front
      · obtain ⟨first, found⟩ := mem_labelNames_iff.1 declared
        obtain ⟨_, another, refound, place⟩ := exists_declared_renamed inStep.renamed found
        rw [inStep.holds.add_again found token, inStep.reholds.add_again refound other]
        exact .error ⟨.duplicateLabel name place, congrArg some index⟩
      · refine inStep.add_fresh injective (.label listed index) ?_ trivial
        rw [labelNames_append]
        exact List.nodup_append.2 ⟨inStep.distinct, List.pairwise_singleton _ name, by
          rintro other here _ single rfl
          exact declared (List.mem_singleton.1 single ▸ here)⟩
  | plain opcode token other =>
      refine inStep.add_fresh injective (.plain opcode token other) ?_ trivial
      rw [labelNames_append]
      exact (List.append_nil _).symm ▸ inStep.distinct
  | @operand keyword target goal token operandToken other another called index alike =>
      by_cases returns :
          (Statement.operand keyword target token operandToken).HasReturn (codeSize front)
      · refine inStep.add_fresh injective (.operand keyword called index alike) ?_ returns
        rw [labelNames_append]
        exact (List.append_nil _).symm ▸ inStep.distinct
      · cases keyword with
        | push => exact absurd trivial returns
        | call =>
            have large := Nat.le_of_not_lt returns
            have size := codeSize_renamed inStep.renamed
            rw [inStep.holds.add_large large target token operandToken,
              inStep.reholds.add_large (size ▸ large) goal other another, size]
            exact .error (AssemblyError.renamed_at rfl index)

theorem addAll (inStep : InStep rename names front back build rebuild)
    (injective : Set.InjOn rename names) {statements others : List Statement}
    (renamed : List.Forall₂ (Statement.Renamed rename names) statements others) :
    Parallel rename (InStep rename names (front ++ statements) (back ++ others))
      (build.addAll statements) (rebuild.addAll others) := by
  induction renamed generalizing front back build rebuild with
  | nil =>
      rw [List.append_nil, List.append_nil]
      exact .ok inStep
  | @cons statement other statements others same more ih =>
      rw [List.append_cons, List.append_cons back, Build.addAll_cons, Build.addAll_cons]
      exact (inStep.add injective same).bind fun next renext following => ih following

/-- The undeclared uses that are answered are at the same token. -/
theorem finish_undeclared (inStep : InStep rename names front back build rebuild)
    (injective : Set.InjOn rename names) {first second : String}
    (begins : Begins (tokenize first).toList front [])
    (rebegins : Begins (tokenize second).toList back []) (unsettled : ¬Settled front)
    (tokens others : Nat) :
    Parallel rename (Assembly.Renamed rename) (build.finish tokens) (rebuild.finish others) := by
  have renamed := inStep.renamed
  have unresolved := mt (settled_renamed_iff renamed injective).1 unsettled
  rw [settled_iff] at unsettled unresolved
  push Not at unsettled unresolved
  obtain ⟨name, token, finished, used, unknown, least⟩ :=
    inStep.holds.finish_least begins tokens unsettled
  obtain ⟨called, other, refinished, reused, missing, lowest⟩ :=
    inStep.reholds.finish_least rebegins others unresolved
  obtain ⟨listed, image, found, place⟩ := exists_usedAt_renamed renamed used
  obtain ⟨origin, known, source, rfl, written, index⟩ := exists_usedAt_of_renamed renamed reused
  have free := mt (mem_labelNames_renamed_iff renamed injective listed).1 unknown
  have bound := mt (mem_labelNames_renamed_iff renamed injective known).2 missing
  have here := least origin source written bound
  have there := lowest _ image found free
  have same : image.location.index = other.location.index := by omega
  obtain ⟨named, rfl⟩ := rebegins.eq_of_usedAt found reused same
  rw [finished, refinished, ← named]
  exact .error ⟨.undeclaredLabel name, congrArg some place⟩

/-- Corresponding builds are completed to the same program, or fail alike. -/
theorem finish (inStep : InStep rename names front back build rebuild)
    (injective : Set.InjOn rename names) {first second : String}
    (begins : Begins (tokenize first).toList front [])
    (rebegins : Begins (tokenize second).toList back []) (tokens others : Nat) :
    Parallel rename (Assembly.Renamed rename) (build.finish tokens) (rebuild.finish others) := by
  have renamed := inStep.renamed
  have size := codeSize_renamed renamed
  by_cases settled : Settled front
  · have resettled := (settled_renamed_iff renamed injective).2 settled
    by_cases fits : codeSize front ≤ memorySize
    · have refits : codeSize back ≤ memorySize := size ▸ fits
      obtain ⟨value, addresses⟩ :=
        exists_addresses (nodup_labelNames_renamed renamed injective inStep.distinct)
      obtain ⟨other, refinished, relaid⟩ :=
        inStep.reholds.finish_program others resettled refits addresses
      obtain ⟨assembly, finished, laid⟩ :=
        inStep.holds.finish_program tokens settled fits (addresses.comp_rename renamed)
      rw [finished, refinished]
      exact .ok (laid.relabel renamed injective relaid)
    · have large := Nat.lt_of_not_le fits
      rw [inStep.holds.finish_large tokens settled large,
        inStep.reholds.finish_large others resettled (size ▸ large), size]
      exact .error ⟨.same rfl, rfl⟩
  · exact inStep.finish_undeclared injective begins rebegins settled tokens others

end Build.InStep

end InStep

/-! ## Relabelled texts -/

/-- Texts that differ in the names of their labels, in their layout and in their comments assemble
to the same image with the same labels under their new names, or have the same error at the same
token. -/
theorem assemble_relabeled {first second : String} {rename : String → String} {names : Set String}
    (relabels : Relabels rename names (tokenize first).toList (tokenize second).toList)
    (fresh : ∀ name ∈ names, IsName (rename name)) (injective : Set.InjOn rename names) :
    Parallel rename (Assembly.Renamed rename) (assemble first) (assemble second) := by
  obtain ⟨front, back, rest, left, begins, rebegins, renamed, ends⟩ :=
    relabels.exists_begins fresh (numbered_tokenize first) (numbered_tokenize second)
  have start : Build.InStep rename names [] [] .empty .empty :=
    ⟨Build.holds_empty, Build.holds_empty, .nil, List.nodup_nil⟩
  have added := start.addAll injective renamed
  rw [List.nil_append, List.nil_append] at added
  rcases ends with ⟨rfl, rfl⟩ | ⟨error, other, malformed, remalformed, alike⟩
  · have parsed := begins.parse_eq
    have reparsed := rebegins.parse_eq
    rw [Array.toArray_toList] at parsed reparsed
    rw [assemble_of_parse parsed, assemble_of_parse reparsed, concluded_eq_bind, concluded_eq_bind]
    exact added.bind fun build rebuild inStep => inStep.finish injective begins rebegins _ _
  · have parsed := begins.parse_eq_of_malformed malformed
    have reparsed := rebegins.parse_eq_of_malformed remalformed
    rw [Array.toArray_toList] at parsed reparsed
    rw [assemble_of_parse parsed, assemble_of_parse reparsed, concluded_eq_bind, concluded_eq_bind]
    exact added.bind fun _ _ _ => .error alike

/-- New names, a new layout and a comment.  The order of the names is the other way round. -/
theorem assemble_relabeled_in_other_order :
    Parallel (fun name => if name = "a" then "z" else "y")
      (Assembly.Renamed fun name => if name = "a" then "z" else "y")
      (assemble "a: PUSH b CALL a b: HALT")
      (assemble "z: ; the start\n  PUSH y\n  CALL z\ny:\n  HALT") := by
  have one : (tokenize "a: PUSH b CALL a b: HALT").toList = [⟨"a:", ⟨1, 1, 0⟩⟩,
      ⟨"PUSH", ⟨1, 4, 1⟩⟩, ⟨"b", ⟨1, 9, 2⟩⟩, ⟨"CALL", ⟨1, 11, 3⟩⟩, ⟨"a", ⟨1, 16, 4⟩⟩,
      ⟨"b:", ⟨1, 18, 5⟩⟩, ⟨"HALT", ⟨1, 21, 6⟩⟩] := by decide +kernel
  have two : (tokenize "z: ; the start\n  PUSH y\n  CALL z\ny:\n  HALT").toList = [
      ⟨"z:", ⟨1, 1, 0⟩⟩, ⟨"PUSH", ⟨2, 3, 1⟩⟩, ⟨"y", ⟨2, 8, 2⟩⟩, ⟨"CALL", ⟨3, 3, 3⟩⟩,
      ⟨"z", ⟨3, 8, 4⟩⟩, ⟨"y:", ⟨4, 1, 5⟩⟩, ⟨"HALT", ⟨5, 3, 6⟩⟩] := by decide +kernel
  have bare {name : String} (uncut : withoutColon? name = none) := withoutColon?_eq_none_iff.1 uncut
  have a : Operand.Means "a" (.label "a") := .label (by decide) (bare (by decide)) (by decide)
  have b : Operand.Means "b" (.label "b") := .label (by decide) (bare (by decide)) (by decide)
  have push : Keyword.ofName? "PUSH" = some (.operand .push) := by decide
  have call : Keyword.ofName? "CALL" = some (.operand .call) := by decide
  have halt : Keyword.ofName? "HALT" = some (.plain .halt) := by decide
  have fresh : ∀ name ∈ ({"a", "b"} : Set String), IsName (if name = "a" then "z" else "y") := by
    rintro name (rfl | rfl)
    · exact ⟨by decide, by decide, bare (by decide), by decide⟩
    · exact ⟨by decide, by decide, bare (by decide), by decide⟩
  have injective : Set.InjOn (fun name => if name = "a" then "z" else "y")
      ({"a", "b"} : Set String) := by
    rintro first (rfl | rfl) second (rfl | rfl) same
    · rfl
    · exact absurd same (by decide)
    · exact absurd same (by decide)
    · rfl
  refine assemble_relabeled ?_ fresh injective
  rw [one, two]
  exact .label ⟨rfl, by decide, by decide⟩ (.inl rfl) rfl
    (.name push rfl b (.inr rfl) rfl
      (.name call rfl a (.inl rfl) rfl
        (.label ⟨rfl, by decide, by decide⟩ (.inr rfl) rfl
          (.plain halt rfl .done))))

end TwoStack
