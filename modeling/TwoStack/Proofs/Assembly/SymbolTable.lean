import Mathlib.Tactic.Common
import TwoStack.Assembly.Symbols

/-!
# What a symbol table knows

Two observers say everything about a table of symbols: `declaredAt` gives the address and the place
of a declaration, `usagesOf` the uses of a name.  `Symbols.Knows` compares them with a list of
declarations and a list of uses, and each operation of the table extends one of the lists.

What the table answers at the end is read off the observers: the addresses in the order of the
names, the places to fill in, and the first use of a label that is not declared.
-/

namespace TwoStack

namespace Symbols

/-- The address of a label, and where it is declared. -/
def declaredAt (symbols : Symbols) (name : String) : Option (Nat × Location) :=
  (symbols.get? name).bind Label.declared

/-- The uses of a label. -/
def usagesOf (symbols : Symbols) (name : String) : List Usage :=
  ((symbols.get? name).map fun label => label.usages.toList).getD []

/-! ## Operations -/

theorem get?_empty (name : String) : Symbols.empty.get? name = none :=
  Std.TreeMap.getElem?_emptyc

theorem declaredAt_use (symbols : Symbols) (name other : String) (offset : Nat)
    (location : Location) :
    (symbols.use name offset location).declaredAt other = symbols.declaredAt other := by
  rw [declaredAt, get?_use]
  split
  · next same =>
      subst same
      rfl
  · rfl

theorem usagesOf_use (symbols : Symbols) (name other : String) (offset : Nat)
    (location : Location) :
    (symbols.use name offset location).usagesOf other =
      if name = other then symbols.usagesOf other ++ [⟨offset, location⟩]
      else symbols.usagesOf other := by
  rw [usagesOf, get?_use]
  split
  · next same =>
      subst same
      rw [usagesOf]
      cases symbols.get? name <;> simp
  · rfl

theorem get?_insert (symbols : Symbols) (name other : String) (label : Label) :
    Symbols.get? ⟨symbols.labels.insert name label⟩ other =
      if name = other then some label else symbols.get? other := by
  simp only [get?, Std.TreeMap.getElem?_insert, Std.compare_eq_iff_eq]

/-- A label with a declaration and the uses that are known already: only the declaration is new. -/
theorem observers_insert {symbols : Symbols} {name : String} {usages : Array Usage}
    (known : symbols.usagesOf name = usages.toList) (declaration : Nat × Location) :
    (∀ other, declaredAt ⟨symbols.labels.insert name ⟨usages, some declaration⟩⟩ other =
        if name = other then some declaration else symbols.declaredAt other) ∧
      ∀ other, usagesOf ⟨symbols.labels.insert name ⟨usages, some declaration⟩⟩ other =
        symbols.usagesOf other := by
  constructor
  · intro other
    rw [declaredAt, get?_insert]
    split <;> rfl
  · intro other
    rw [usagesOf, get?_insert]
    split
    · next same =>
        subst same
        exact known.symm
    · rfl

/-- A name that is not declared can be declared; its uses stay. -/
theorem declare_of_undeclared {symbols : Symbols} {name : String}
    (undeclared : symbols.declaredAt name = none) (address : Nat) (location : Location) :
    ∃ next, symbols.declare name address location = .ok next ∧
      (∀ other, next.declaredAt other =
        if name = other then some (address, location) else symbols.declaredAt other) ∧
      ∀ other, next.usagesOf other = symbols.usagesOf other := by
  unfold declaredAt get? at undeclared
  unfold declare
  rcases known : symbols.labels[name]? with _ | ⟨usages, _ | ⟨before, first⟩⟩
  · have unused : symbols.usagesOf name = [] := by rw [usagesOf, get?, known]; rfl
    exact ⟨_, rfl, observers_insert unused (address, location)⟩
  · have used : symbols.usagesOf name = usages.toList := by rw [usagesOf, get?, known]; rfl
    exact ⟨_, rfl, observers_insert used (address, location)⟩
  · rw [known] at undeclared
    cases undeclared

/-! ## Declarations and uses -/

/-- A table that has been told exactly these declarations and uses. -/
structure Knows (symbols : Symbols) (declarations : List (String × Nat × Location))
    (uses : List (String × Usage)) : Prop where
  declared : ∀ name address location,
    symbols.declaredAt name = some (address, location) ↔ (name, address, location) ∈ declarations
  used : ∀ name usage, usage ∈ symbols.usagesOf name ↔ (name, usage) ∈ uses

theorem knows_empty : Symbols.empty.Knows [] [] := by
  constructor
  · intro name address location
    rw [declaredAt, get?_empty]
    exact ⟨nofun, nofun⟩
  · intro name usage
    rw [usagesOf, get?_empty]
    exact ⟨nofun, nofun⟩

section Knows

variable {symbols : Symbols} {declarations : List (String × Nat × Location)}
  {uses : List (String × Usage)}

theorem Knows.declaredAt_eq_none_iff (knows : symbols.Knows declarations uses) (name : String) :
    symbols.declaredAt name = none ↔ name ∉ declarations.map Prod.fst := by
  constructor
  · intro undeclared listed
    obtain ⟨⟨_, address, location⟩, found, rfl⟩ := List.mem_map.1 listed
    rw [(knows.declared _ _ _).2 found] at undeclared
    cases undeclared
  · intro unlisted
    rcases known : symbols.declaredAt name with _ | ⟨address, location⟩
    · rfl
    · exact absurd (List.mem_map.2 ⟨_, (knows.declared _ _ _).1 known, rfl⟩) unlisted

theorem Knows.use (knows : symbols.Knows declarations uses) (name : String) (offset : Nat)
    (location : Location) :
    (symbols.use name offset location).Knows declarations
      (uses ++ [(name, ⟨offset, location⟩)]) := by
  constructor
  · intro other address place
    rw [declaredAt_use, knows.declared]
  · intro other usage
    rw [usagesOf_use, List.mem_append, List.mem_singleton, ← knows.used]
    split
    · next same =>
        subst same
        rw [List.mem_append, List.mem_singleton, Prod.mk.injEq, and_iff_right rfl]
    · next different =>
        rw [Prod.mk.injEq, or_iff_left fun same => different same.1.symm]

theorem Knows.declare (knows : symbols.Knows declarations uses) {name : String}
    (fresh : name ∉ declarations.map Prod.fst) (address : Nat) (location : Location) :
    ∃ next, symbols.declare name address location = .ok next ∧
      next.Knows (declarations ++ [(name, address, location)]) uses := by
  have undeclared := (knows.declaredAt_eq_none_iff name).2 fresh
  obtain ⟨next, declared, places, usages⟩ := declare_of_undeclared undeclared address location
  refine ⟨next, declared, ?_, fun other usage => by rw [usages, knows.used]⟩
  intro other before place
  rw [places, List.mem_append, List.mem_singleton, ← knows.declared]
  split
  · next same =>
      subst same
      simp [undeclared, eq_comm]
  · next different =>
      rw [Prod.mk.injEq, or_iff_left fun same => different same.1.symm]

/-- A label that is declared cannot be declared again, and the answer is the first place. -/
theorem Knows.declare_again (knows : symbols.Knows declarations uses) {name : String}
    {before : Nat} {first : Location} (known : (name, before, first) ∈ declarations) (address : Nat)
    (location : Location) : symbols.declare name address location = .error first :=
  (declare_eq_error_iff _ _ _ _ _).2 ⟨before, (knows.declared _ _ _).2 known⟩

end Knows

/-! ## Answers -/

theorem mem_toList_iff (symbols : Symbols) (name : String) (label : Label) :
    (name, label) ∈ symbols.labels.toList ↔ symbols.get? name = some label :=
  Std.TreeMap.mem_toList_iff_getElem?_eq_some

theorem mem_addresses_iff {symbols : Symbols} {name : String} {address : Nat} :
    (name, address) ∈ symbols.addresses ↔
      ∃ location, symbols.declaredAt name = some (address, location) := by
  rw [addresses, List.mem_filterMap]
  constructor
  · rintro ⟨⟨other, label⟩, listed, found⟩
    rw [mem_toList_iff] at listed
    obtain ⟨⟨before, location⟩, declared, same⟩ := Option.map_eq_some_iff.1 found
    cases same
    exact ⟨location, by rw [declaredAt, listed]; exact declared⟩
  · rintro ⟨location, declared⟩
    obtain ⟨label, listed, known⟩ := Option.bind_eq_some_iff.1 declared
    exact ⟨(name, label), (mem_toList_iff _ _ _).2 listed, by simp [known]⟩

/-- The addresses are in the order of the names, and no name comes twice. -/
theorem addresses_pairwise (symbols : Symbols) :
    symbols.addresses.Pairwise fun a b => a.1 < b.1 := by
  rw [addresses, List.pairwise_filterMap]
  refine symbols.labels.ordered_keys_toList.imp ?_
  rintro ⟨a, before⟩ ⟨b, after⟩ order x found y next
  obtain ⟨_, _, rfl⟩ := Option.map_eq_some_iff.1 found
  obtain ⟨_, _, rfl⟩ := Option.map_eq_some_iff.1 next
  exact compareOfLessAndEq_eq_lt.1 order

theorem mem_undeclared_iff {symbols : Symbols} {name : String} {location : Location} :
    (location, name) ∈ symbols.undeclared ↔
      symbols.declaredAt name = none ∧
        ∃ usage ∈ symbols.usagesOf name, usage.location = location := by
  rw [undeclared, List.mem_flatMap]
  constructor
  · rintro ⟨⟨other, label⟩, listed, found⟩
    rw [mem_toList_iff] at listed
    dsimp only at found
    split at found
    · cases found
    · next unknown =>
        obtain ⟨usage, used, same⟩ := List.mem_map.1 found
        cases same
        refine ⟨by rw [declaredAt, listed]; exact unknown, usage, ?_, rfl⟩
        rw [usagesOf, listed]
        exact used
  · rintro ⟨unknown, usage, used, rfl⟩
    rcases listed : symbols.get? name with _ | label
    · rw [usagesOf, listed] at used
      cases used
    · rw [declaredAt, listed, Option.bind_some] at unknown
      rw [usagesOf, listed] at used
      refine ⟨(name, label), (mem_toList_iff _ _ _).2 listed, ?_⟩
      dsimp only
      rw [unknown]
      exact List.mem_map.2 ⟨usage, used, rfl⟩

theorem mem_fixups_iff {symbols : Symbols} {offset address : Nat} :
    (offset, address) ∈ symbols.fixups ↔
      ∃ name location, symbols.declaredAt name = some (address, location) ∧
        ∃ usage ∈ symbols.usagesOf name, usage.offset = offset := by
  rw [fixups, List.mem_flatMap]
  constructor
  · rintro ⟨⟨name, label⟩, listed, found⟩
    rw [mem_toList_iff] at listed
    dsimp only at found
    split at found
    · cases found
    · next before location known =>
        obtain ⟨usage, used, same⟩ := List.mem_map.1 found
        cases same
        refine ⟨name, location, by rw [declaredAt, listed]; exact known, usage, ?_, rfl⟩
        rw [usagesOf, listed]
        exact used
  · rintro ⟨name, location, known, usage, used, rfl⟩
    obtain ⟨label, listed, declared⟩ := Option.bind_eq_some_iff.1 known
    rw [usagesOf, listed] at used
    refine ⟨(name, label), (mem_toList_iff _ _ _).2 listed, ?_⟩
    dsimp only
    rw [declared]
    exact List.mem_map.2 ⟨usage, used, rfl⟩

/-! ## The first use of a label that is not declared -/

/-- Whether a use comes before another one: by place, and then by name. -/
def Sooner (a b : Location × String) : Prop :=
  a.1.before b.1 = true ∨ a.1 = b.1 ∧ a.2 < b.2

theorem Sooner.trans {a b c : Location × String} (first : Sooner a b) (second : Sooner b c) :
    Sooner a c := by
  rcases first with first | ⟨same, first⟩
  · rcases second with second | ⟨same, second⟩
    · refine .inl ?_
      simp only [Location.before, Bool.or_eq_true, Bool.and_eq_true, decide_eq_true_eq, beq_iff_eq]
        at first second ⊢
      omega
    · exact .inl (same ▸ first)
  · rcases second with second | ⟨equal, second⟩
    · exact .inl (same ▸ second)
    · exact .inr ⟨same.trans equal, String.lt_trans first second⟩

theorem Sooner.irrefl (use : Location × String) : ¬Sooner use use := by
  rintro (earlier | ⟨_, less⟩)
  · simp [Location.before] at earlier
  · exact String.lt_irrefl _ less

theorem Sooner.asymm {a b : Location × String} (order : Sooner a b) : ¬Sooner b a :=
  fun back => Sooner.irrefl a (order.trans back)

/-- The sooner of two uses, where there may be no first one. -/
def sooner (first : Option (Location × String)) (use : Location × String) :
    Option (Location × String) :=
  match first with
  | none => some use
  | some best =>
    if use.1.before best.1 || use.1 == best.1 && decide (use.2 < best.2) then some use
    else some best

theorem firstUndeclared?_eq (symbols : Symbols) :
    symbols.firstUndeclared? = symbols.undeclared.foldl sooner none := rfl

theorem sooner_some (best use : Location × String) :
    sooner (some best) use = some use ∧ Sooner use best ∨
      sooner (some best) use = some best ∧ ¬Sooner use best := by
  have decided : (use.1.before best.1 || use.1 == best.1 && decide (use.2 < best.2)) = true ↔
      Sooner use best := by simp [Sooner]
  by_cases earlier : Sooner use best
  · exact .inl ⟨if_pos (decided.2 earlier), earlier⟩
  · exact .inr ⟨if_neg fun found => earlier (decided.1 found), earlier⟩

/-- The fold keeps a use that no other comes before. -/
theorem foldl_sooner (uses : List (Location × String)) (best : Location × String) :
    ∃ first, uses.foldl sooner (some best) = some first ∧
      (first = best ∨ first ∈ uses ∧ Sooner first best) ∧ ∀ other ∈ uses, ¬Sooner other first := by
  induction uses generalizing best with
  | nil => exact ⟨best, rfl, .inl rfl, nofun⟩
  | cons use uses ih =>
      rw [List.foldl_cons]
      rcases sooner_some best use with ⟨kept, earlier⟩ | ⟨kept, later⟩
      · obtain ⟨first, folded, origin, least⟩ := ih use
        refine ⟨first, by rw [kept, folded], ?_, List.forall_mem_cons.2 ⟨?_, least⟩⟩
        · rcases origin with rfl | ⟨listed, sooner⟩
          · exact .inr ⟨List.mem_cons_self, earlier⟩
          · exact .inr ⟨List.mem_cons_of_mem _ listed, sooner.trans earlier⟩
        · rcases origin with rfl | ⟨listed, sooner⟩
          · exact Sooner.irrefl _
          · exact sooner.asymm
      · obtain ⟨first, folded, origin, least⟩ := ih best
        refine ⟨first, by rw [kept, folded], ?_, List.forall_mem_cons.2 ⟨?_, least⟩⟩
        · rcases origin with rfl | ⟨listed, sooner⟩
          · exact .inl rfl
          · exact .inr ⟨List.mem_cons_of_mem _ listed, sooner⟩
        · rcases origin with rfl | ⟨listed, sooner⟩
          · exact later
          · exact fun back => later (back.trans sooner)

theorem resolve_of_all_declared {symbols : Symbols} (all : symbols.undeclared = []) :
    symbols.resolve = .ok symbols.addresses := by
  rw [resolve, firstUndeclared?_eq, all]
  rfl

/-- Some use of a label that is not declared is answered, and no other comes before it. -/
theorem resolve_of_undeclared {symbols : Symbols} (missing : symbols.undeclared ≠ []) :
    ∃ first, symbols.resolve = .error first ∧ first ∈ symbols.undeclared ∧
      ∀ other ∈ symbols.undeclared, ¬Sooner other first := by
  obtain ⟨use, uses, listed⟩ := List.exists_cons_of_ne_nil missing
  obtain ⟨first, folded, origin, least⟩ := foldl_sooner uses use
  have found : symbols.firstUndeclared? = some first := by
    rw [firstUndeclared?_eq, listed, List.foldl_cons]
    exact folded
  refine ⟨first, by rw [resolve, found], ?_, ?_⟩
  · rw [listed, List.mem_cons]
    exact origin.imp_right And.left
  · rw [listed, List.forall_mem_cons]
    refine ⟨?_, least⟩
    rcases origin with rfl | ⟨_, sooner⟩
    · exact Sooner.irrefl _
    · exact sooner.asymm

end Symbols

end TwoStack
