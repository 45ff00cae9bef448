import Mathlib.Data.List.Induction
import TwoStack.Proofs.Assembly.RecordedUses

/-!
# Symbol tables with a history

A table of symbols is told of declarations and uses in any order, and a declaration that it refuses
leaves it as it is.  After any such history the two observers of the table are functions of the
history: a label is declared where the history declares it for the first time
(`Symbols.declaredAt_after`), and its uses are those of the history (`Symbols.records_after`).

So everything the table answers is said in terms of the history alone (`Symbols.answers_history`).
Nothing is hidden from these answers, because each label that the table knows is declared or has a
use (`Symbols.Grounded.perform`).
-/

namespace TwoStack

/-! ## Histories -/

/-- What a table of symbols is told. -/
inductive SymbolRequest where
  | declare (name : String) (address : Nat) (location : Location)
  | use (name : String) (offset : Nat) (location : Location)
  deriving DecidableEq, Repr

namespace SymbolRequest

/-- The label that a request is about. -/
def name : SymbolRequest → String
  | declare name _ _ => name
  | use name _ _ => name

/-- What a request declares for a name. -/
def declaration? (label : String) : SymbolRequest → Option (Nat × Location)
  | declare name address location => if name = label then some (address, location) else none
  | use _ _ _ => none

/-- The use that a request notes. -/
def use? : SymbolRequest → Option (String × Usage)
  | declare _ _ _ => none
  | use name offset location => some (name, ⟨offset, location⟩)

end SymbolRequest

/-- The first declaration of a name in a history. -/
def firstDeclaration? (history : List SymbolRequest) (name : String) : Option (Nat × Location) :=
  history.findSome? (SymbolRequest.declaration? name)

/-- The uses in a history. -/
def usesIn (history : List SymbolRequest) : List (String × Usage) :=
  history.filterMap SymbolRequest.use?

namespace Symbols

/-- The table after a request; a declaration that is refused changes nothing. -/
def perform (symbols : Symbols) : SymbolRequest → Symbols
  | .declare name address location =>
    match symbols.declare name address location with
    | .ok next => next
    | .error _ => symbols
  | .use name offset location => symbols.use name offset location

/-- The table after a history, empty at its beginning. -/
def after (history : List SymbolRequest) : Symbols := history.foldl perform .empty

theorem after_concat (history : List SymbolRequest) (request : SymbolRequest) :
    after (history ++ [request]) = (after history).perform request := by
  rw [after, List.foldl_append]
  rfl

/-! ## What a request does -/

section Perform

variable (symbols : Symbols)

theorem declare_cases (name : String) (address : Nat) (location : Location) :
    (∃ before first, symbols.declaredAt name = some (before, first) ∧
      symbols.declare name address location = .error first) ∨
    symbols.declaredAt name = none ∧
      ∃ next, symbols.declare name address location = .ok next ∧
        (∀ other, next.declaredAt other =
          if name = other then some (address, location) else symbols.declaredAt other) ∧
        ∀ other, next.usagesOf other = symbols.usagesOf other := by
  rcases known : symbols.declaredAt name with _ | ⟨before, first⟩
  · exact .inr ⟨rfl, declare_of_undeclared known address location⟩
  · exact .inl ⟨before, first, rfl, (declare_eq_error_iff ..).2 ⟨before, known⟩⟩

/-- Only the first declaration of a label counts. -/
theorem declaredAt_perform (request : SymbolRequest) (label : String) :
    (symbols.perform request).declaredAt label =
      (symbols.declaredAt label).or (request.declaration? label) := by
  cases request with
  | use name offset location =>
      rw [perform, declaredAt_use, SymbolRequest.declaration?, Option.or_none]
  | declare name address location =>
      rw [perform, SymbolRequest.declaration?]
      rcases symbols.declare_cases name address location with
        ⟨before, first, known, refused⟩ | ⟨unknown, next, accepted, places, _⟩
      · rw [refused]
        dsimp only
        split
        · next same =>
            subst same
            rw [known, Option.some_or]
        · rw [Option.or_none]
      · rw [accepted]
        dsimp only
        rw [places]
        split
        · next same =>
            subst same
            rw [unknown, Option.none_or]
        · rw [Option.or_none]

theorem Records.perform {symbols : Symbols} {uses : List (String × Usage)}
    (records : symbols.Records uses) (request : SymbolRequest) :
    (symbols.perform request).Records (uses ++ request.use?.toList) := by
  cases request with
  | use name offset location => exact records.use name offset location
  | declare name address location =>
      rw [Symbols.perform, SymbolRequest.use?, Option.toList_none, List.append_nil]
      split
      · next accepted => exact records.declare accepted
      · exact records

/-- Each label that the table knows is declared or has a use. -/
def Grounded (symbols : Symbols) : Prop :=
  ∀ name label, symbols.get? name = some label → label.declared = none → label.usages ≠ #[]

theorem Grounded.perform {symbols : Symbols} (grounded : symbols.Grounded)
    (request : SymbolRequest) : (symbols.perform request).Grounded := by
  intro name label known undeclared
  cases request with
  | use other offset location =>
      rw [Symbols.perform, get?_use] at known
      split at known
      · cases known
        exact Array.push_ne_empty
      · exact grounded name label known undeclared
  | declare other address location =>
      rw [Symbols.perform, declare] at known
      split at known
      · next accepted =>
          split at accepted
          · cases accepted
          · cases accepted
            rw [get?_insert] at known
            split at known
            · cases known
              cases undeclared
            · exact grounded name label known undeclared
          · cases accepted
            rw [get?_insert] at known
            split at known
            · cases known
              cases undeclared
            · exact grounded name label known undeclared
      · exact grounded name label known undeclared

end Perform

/-! ## What a history does -/

theorem declaredAt_after (history : List SymbolRequest) (name : String) :
    (after history).declaredAt name = firstDeclaration? history name := by
  induction history using List.reverseRecOn with
  | nil => exact congrArg (·.bind Label.declared) (get?_empty name)
  | append_singleton history request ih =>
      rw [after_concat, declaredAt_perform, ih, firstDeclaration?, firstDeclaration?,
        List.findSome?_append]
      cases declared : request.declaration? name <;> simp [declared]

theorem records_after (history : List SymbolRequest) :
    (after history).Records (usesIn history) := by
  induction history using List.reverseRecOn with
  | nil => exact records_empty
  | append_singleton history request ih =>
      rw [after_concat, usesIn, List.filterMap_append]
      have noted := ih.perform request
      cases use : request.use? <;> simpa [use, usesIn] using noted

theorem grounded_after (history : List SymbolRequest) : (after history).Grounded := by
  induction history using List.reverseRecOn with
  | nil =>
      intro name label known
      rw [after, List.foldl_nil, get?_empty] at known
      cases known
  | append_singleton history request ih =>
      rw [after_concat]
      exact ih.perform request

/-! ## Accepted declarations -/

/-- At some point of the history a declaration of the name was made and accepted. -/
def Accepted (history : List SymbolRequest) (name : String) (address : Nat)
    (location : Location) : Prop :=
  ∃ front back next, history = front ++ .declare name address location :: back ∧
    (after front).declare name address location = .ok next

section Accepted

variable {history : List SymbolRequest} {name : String}

/-- The first declaration is the one that is accepted, and no other is. -/
theorem accepted_iff {address : Nat} {location : Location} :
    Accepted history name address location ↔
      firstDeclaration? history name = some (address, location) := by
  constructor
  · intro ⟨front, back, next, parts, accepted⟩
    have fresh : firstDeclaration? front name = none := by
      rw [← declaredAt_after]
      rcases (after front).declare_cases name address location with
        ⟨before, first, _, refused⟩ | ⟨unknown, _⟩
      · rw [refused] at accepted
        cases accepted
      · exact unknown
    rw [firstDeclaration?] at fresh
    rw [parts, firstDeclaration?, List.findSome?_append, fresh, Option.none_or,
      List.findSome?_cons, SymbolRequest.declaration?, if_pos rfl]
  · intro found
    obtain ⟨front, request, back, parts, declares, before⟩ := List.findSome?_eq_some_iff.1 found
    have fresh : (after front).declaredAt name = none := by
      rw [declaredAt_after, firstDeclaration?, List.findSome?_eq_none_iff]
      exact before
    obtain ⟨next, accepted, _⟩ := declare_of_undeclared fresh address location
    cases request with
    | use => cases declares
    | declare other =>
        rw [SymbolRequest.declaration?] at declares
        split at declares
        · next same =>
            cases declares
            cases same
            exact ⟨front, back, next, parts, accepted⟩
        · cases declares

/-- A name that has been declared is refused, and the answer is where it was accepted. -/
theorem declare_after_eq_error_iff {address : Nat} {location first : Location} :
    (after history).declare name address location = .error first ↔
      ∃ before, Accepted history name before first := by
  rw [declare_eq_error_iff]
  exact exists_congr fun before => by rw [accepted_iff, ← declaredAt_after, declaredAt]

/-- A label is declared if some declaration of it was accepted. -/
def Declared (history : List SymbolRequest) (name : String) : Prop :=
  ∃ address location, Accepted history name address location

theorem not_declared_iff : ¬Declared history name ↔ firstDeclaration? history name = none := by
  rw [Option.eq_none_iff_forall_ne_some]
  constructor
  · intro undeclared ⟨address, location⟩ found
    exact undeclared ⟨address, location, accepted_iff.2 found⟩
  · intro none ⟨address, location, accepted⟩
    exact none _ (accepted_iff.1 accepted)

/-- Each declared label has a declaration in the history. -/
theorem Declared.exists_mem (declared : Declared history name) :
    ∃ request ∈ history, request.name = name := by
  obtain ⟨address, location, front, back, next, parts, _⟩ := declared
  exact ⟨.declare name address location, parts ▸ List.mem_append_cons_self, rfl⟩

end Accepted

/-! ## Uses without a declaration -/

theorem mem_usesIn_iff {history : List SymbolRequest} {name : String} {usage : Usage} :
    (name, usage) ∈ usesIn history ↔ .use name usage.offset usage.location ∈ history := by
  rw [usesIn, List.mem_filterMap]
  constructor
  · intro ⟨request, listed, used⟩
    cases request with
    | declare => cases used
    | use =>
        cases used
        exact listed
  · intro listed
    exact ⟨_, listed, rfl⟩

/-- A use, at this place, of a label that is not declared in the history. -/
def Missing (history : List SymbolRequest) (use : Location × String) : Prop :=
  ¬Declared history use.2 ∧ ∃ offset, .use use.2 offset use.1 ∈ history

theorem mem_undeclared_after_iff {history : List SymbolRequest} {use : Location × String} :
    use ∈ (after history).undeclared ↔ Missing history use := by
  rw [mem_undeclared_iff, declaredAt_after, Missing, not_declared_iff]
  refine and_congr_right fun _ => ?_
  constructor
  · intro ⟨_, used, place⟩
    rw [records_after, List.mem_map] at used
    obtain ⟨⟨name, usage⟩, listed, rfl⟩ := used
    obtain ⟨listed, same⟩ := List.mem_filter.1 listed
    have named : name = use.2 := of_decide_eq_true same
    rw [named] at listed
    exact ⟨usage.offset, place ▸ mem_usesIn_iff.1 listed⟩
  · intro ⟨offset, listed⟩
    refine ⟨⟨offset, use.1⟩, ?_, rfl⟩
    exact (records_after history).mem_usagesOf (mem_usesIn_iff.2 listed)

/-- Of two uses one comes first, if they are not the same. -/
theorem sooner_trichotomy (a b : Location × String) : a = b ∨ Sooner a b ∨ Sooner b a := by
  obtain ⟨place, name⟩ := a
  obtain ⟨otherPlace, other⟩ := b
  have places : place = otherPlace ∨ place.before otherPlace = true ∨
      otherPlace.before place = true := by
    obtain ⟨line, column, index⟩ := place
    obtain ⟨otherLine, otherColumn, otherIndex⟩ := otherPlace
    simp only [Location.before, Bool.or_eq_true, Bool.and_eq_true, decide_eq_true_eq, beq_iff_eq,
      Location.mk.injEq]
    omega
  rcases places with rfl | earlier | later
  · rcases Std.lt_trichotomy name other with less | rfl | greater
    · exact .inr (.inl (.inr ⟨rfl, less⟩))
    · exact .inl rfl
    · exact .inr (.inr (.inr ⟨rfl, greater⟩))
  · exact .inr (.inl (.inl earlier))
  · exact .inr (.inr (.inl later))

/-- The first use of a label that is not declared: by place and then by name it comes before all
others. -/
structure FirstMissing (history : List SymbolRequest) (use : Location × String) : Prop where
  missing : Missing history use
  first : ∀ other, Missing history other → other = use ∨ Sooner use other

theorem FirstMissing.unique {history : List SymbolRequest} {use other : Location × String}
    (first : FirstMissing history use) (again : FirstMissing history other) : use = other := by
  rcases first.first other again.missing with same | order
  · exact same.symm
  · exact (again.first use first.missing).resolve_right order.asymm

theorem firstMissing_of_least {history : List SymbolRequest} {use : Location × String}
    (listed : use ∈ (after history).undeclared)
    (least : ∀ other ∈ (after history).undeclared, ¬Sooner other use) :
    FirstMissing history use := by
  refine ⟨mem_undeclared_after_iff.1 listed, fun other missing => ?_⟩
  have later := least other (mem_undeclared_after_iff.2 missing)
  exact (sooner_trichotomy other use).imp_right fun order => order.resolve_left later

section Resolve

variable (history : List SymbolRequest)

theorem undeclared_after_eq_nil_iff :
    (after history).undeclared = [] ↔ ∀ request ∈ history, Declared history request.name := by
  rw [List.eq_nil_iff_forall_not_mem]
  constructor
  · intro none request listed
    cases request with
    | declare name address location =>
        by_contra undeclared
        rw [not_declared_iff, firstDeclaration?, List.findSome?_eq_none_iff] at undeclared
        have fresh := undeclared _ listed
        rw [SymbolRequest.name, SymbolRequest.declaration?, if_pos rfl] at fresh
        cases fresh
    | use name offset location =>
        by_contra undeclared
        exact none (location, name) (mem_undeclared_after_iff.2 ⟨undeclared, offset, listed⟩)
  · intro declared use listed
    obtain ⟨undeclared, offset, used⟩ := mem_undeclared_after_iff.1 listed
    exact undeclared (declared _ used)

theorem resolve_after_eq_ok_iff {addresses : List (String × Nat)} :
    (after history).resolve = .ok addresses ↔
      (∀ request ∈ history, Declared history request.name) ∧
        addresses = (after history).addresses := by
  rw [← undeclared_after_eq_nil_iff]
  by_cases none : (after history).undeclared = []
  · rw [resolve_of_all_declared none, Except.ok.injEq, and_iff_right none, eq_comm]
  · obtain ⟨first, refused, _⟩ := resolve_of_undeclared none
    rw [refused]
    exact ⟨nofun, fun declared => absurd declared.1 none⟩

/-- The error of a table is the first use of a label that is not declared. -/
theorem resolve_after_eq_error_iff {use : Location × String} :
    (after history).resolve = .error use ↔ FirstMissing history use := by
  have answers : (after history).undeclared ≠ [] →
      ∃ answer, (after history).resolve = .error answer ∧ FirstMissing history answer := by
    intro missing
    obtain ⟨answer, answered, listed, least⟩ := resolve_of_undeclared missing
    exact ⟨answer, answered, firstMissing_of_least listed least⟩
  constructor
  · intro refused
    have missing : (after history).undeclared ≠ [] := by
      intro none
      rw [resolve_of_all_declared none] at refused
      cases refused
    obtain ⟨answer, answered, first⟩ := answers missing
    rw [refused] at answered
    cases answered
    exact first
  · intro first
    have listed := mem_undeclared_after_iff.2 first.missing
    obtain ⟨answer, answered, again⟩ := answers (List.ne_nil_of_mem listed)
    rw [answered, again.unique first]

end Resolve

/-! ## What a table answers -/

/-- The place of a use, with the address at which its label is declared in the history. -/
def placeIn (history : List SymbolRequest) (use : String × Usage) : Option (Nat × Nat) :=
  (firstDeclaration? history use.1).map fun declaration => (use.2.offset, declaration.1)

theorem fixups_after_perm (history : List SymbolRequest) :
    (after history).fixups.Perm ((usesIn history).filterMap (placeIn history)) := by
  have same : placeIn history = (after history).placeOf := by
    funext use
    rw [placeIn, placeOf, declaredAt_after]
  rw [same]
  exact (records_after history).fixups_perm_placeOf

/-- If all labels are declared, no use is left out of the places to fill in. -/
theorem fixups_after_perm_of_declared {history : List SymbolRequest}
    (declared : ∀ request ∈ history, Declared history request.name) :
    ((after history).fixups.map fun place => (place.1, some place.2)).Perm
      ((usesIn history).map fun use =>
        (use.2.offset, (firstDeclaration? history use.1).map Prod.fst)) := by
  have found : ∀ use ∈ usesIn history, ∃ declaration,
      (after history).declaredAt use.1 = some declaration := by
    intro use used
    obtain ⟨address, location, accepted⟩ := declared _ (mem_usesIn_iff.1 used)
    exact ⟨_, (declaredAt_after history use.1).trans (accepted_iff.1 accepted)⟩
  have placed := (records_after history).fixups_perm_of_declared found
  simp only [declaredAt_after] at placed
  exact placed

/-- What a table says after a history, told by the history alone. -/
structure AnswersHistory (history : List SymbolRequest) : Prop where
  /-- Of the declarations of a name exactly the first one was accepted. -/
  accepted : ∀ name address location,
    Accepted history name address location ↔
      firstDeclaration? history name = some (address, location)
  /-- A name is refused exactly if it was accepted before, with the place where it was. -/
  refused : ∀ name address location first,
    (after history).declare name address location = .error first ↔
      ∃ before, Accepted history name before first
  /-- A declaration that is refused changes nothing. -/
  unchanged : ∀ name address location first,
    (after history).declare name address location = .error first →
    after (history ++ [.declare name address location]) = after history
  /-- The table has addresses exactly if every name that it was told is declared. -/
  resolves : (∃ addresses, (after history).resolve = .ok addresses) ↔
    ∀ request ∈ history, Declared history request.name
  /-- These are the names it was told, each once and with the address that was accepted. -/
  addresses : ∀ addresses, (after history).resolve = .ok addresses →
    (addresses.map Prod.fst).Nodup ∧
    (∀ name, name ∈ addresses.map Prod.fst ↔ ∃ request ∈ history, request.name = name) ∧
    ∀ name address, (name, address) ∈ addresses ↔ ∃ location, Accepted history name address location
  /-- Then each use is filled in once, with the address of its label. -/
  filled : ∀ addresses, (after history).resolve = .ok addresses →
    ((after history).fixups.map fun place => (place.1, some place.2)).Perm
      ((usesIn history).map fun use =>
        (use.2.offset, (firstDeclaration? history use.1).map Prod.fst))
  /-- Otherwise it answers the first use, by place and then by name, of a name not declared. -/
  missing : ∀ use, (after history).resolve = .error use ↔ FirstMissing history use
  /-- In any case the uses of the declared names are filled in, each once, and no others. -/
  fixups : (after history).fixups.Perm ((usesIn history).filterMap (placeIn history))
  /-- The table keeps no name that is neither declared nor used. -/
  grounded : (after history).Grounded

theorem answers_history (history : List SymbolRequest) : AnswersHistory history where
  accepted _ _ _ := accepted_iff
  refused _ _ _ _ := declare_after_eq_error_iff
  unchanged := by
    intro name address location first refused
    rw [after_concat, perform, refused]
  resolves := by
    simp only [resolve_after_eq_ok_iff, exists_and_left, exists_eq, and_true]
  addresses := by
    intro addresses resolved
    obtain ⟨declared, same⟩ := (resolve_after_eq_ok_iff history).1 resolved
    have listed (name : String) (address : Nat) :
        (name, address) ∈ addresses ↔ ∃ location, Accepted history name address location := by
      rw [same, mem_addresses_iff, declaredAt_after]
      exact exists_congr fun location => accepted_iff.symm
    refine ⟨?_, fun name => ?_, listed⟩
    · rw [same]
      refine List.pairwise_map.2 ((addresses_pairwise _).imp fun order equal => ?_)
      exact String.lt_irrefl _ (equal ▸ order)
    · constructor
      · intro found
        obtain ⟨⟨_, address⟩, entry, rfl⟩ := List.mem_map.1 found
        obtain ⟨location, accepted⟩ := (listed _ _).1 entry
        exact Declared.exists_mem ⟨address, location, accepted⟩
      · intro ⟨request, told, named⟩
        obtain ⟨address, location, accepted⟩ := declared request told
        exact List.mem_map.2 ⟨(request.name, address), (listed _ _).2 ⟨location, accepted⟩, named⟩
  filled := by
    intro addresses resolved
    exact fixups_after_perm_of_declared ((resolve_after_eq_ok_iff history).1 resolved).1
  missing _ := resolve_after_eq_error_iff history
  fixups := fixups_after_perm history
  grounded := grounded_after history

/-- Of two uses in one place the one of the smaller name is the first; a third name is declared. -/
example :
    (after [.use "b" 0 ⟨2, 6, 3⟩, .use "c" 4 ⟨1, 1, 0⟩, .use "a" 8 ⟨2, 6, 3⟩,
      .declare "c" 5 ⟨3, 1, 4⟩]).resolve = .error (⟨2, 6, 3⟩, "a") := by
  decide +kernel

end Symbols

end TwoStack
