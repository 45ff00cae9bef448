import Mathlib.Data.List.Basic
import TwoStack.Proofs.Assembly.SymbolTable

/-!
# Recorded uses

A table of symbols keeps the uses of each label in the order in which they came
(`Symbols.Records`), and lists the places to fill in by the names of the labels.  So the places are
those of all uses whose labels are declared, in another order
(`Symbols.Records.fixups_perm_placeOf`), and if all are declared no use is left out.
-/

namespace TwoStack

namespace Symbols

/-- The uses of each label are recorded in the order in which they came. -/
def Records (symbols : Symbols) (uses : List (String × Usage)) : Prop :=
  ∀ name, symbols.usagesOf name = (uses.filter fun use => use.1 = name).map Prod.snd

section Records

variable {symbols next : Symbols} {uses : List (String × Usage)}

theorem records_empty : Symbols.empty.Records [] := by
  intro name
  rw [usagesOf, get?_empty]
  rfl

theorem Records.use (records : symbols.Records uses) (name : String) (offset : Nat)
    (location : Location) :
    (symbols.use name offset location).Records (uses ++ [(name, ⟨offset, location⟩)]) := by
  intro other
  rw [usagesOf_use, records other, List.filter_append, List.map_append]
  split
  · next same =>
      subst same
      simp
  · next different =>
      rw [List.filter_cons_of_neg (by simpa using different)]
      exact (List.append_nil _).symm

theorem Records.declare (records : symbols.Records uses) {name : String} {address : Nat}
    {location : Location} (declared : symbols.declare name address location = .ok next) :
    next.Records uses := by
  have undeclared : symbols.declaredAt name = none := by
    rcases known : symbols.declaredAt name with _ | ⟨before, first⟩
    · rfl
    · have refused := (declare_eq_error_iff symbols name address location first).2 ⟨before, known⟩
      rw [declared] at refused
      cases refused
  obtain ⟨same, again, _, kept⟩ := declare_of_undeclared undeclared address location
  rw [declared] at again
  cases again
  exact fun other => (kept other).trans (records other)

end Records

/-- Pairs sorted by their names are the same pairs, if every name comes once. -/
theorem flatMap_filter_perm {α : Type} {names : List String} (distinct : names.Nodup)
    {pairs : List (String × α)} (all : ∀ pair ∈ pairs, pair.1 ∈ names) :
    (names.flatMap fun name => pairs.filter fun pair => pair.1 = name).Perm pairs := by
  induction names generalizing pairs with
  | nil =>
      have none : pairs = [] := List.eq_nil_iff_forall_not_mem.2 fun pair listed =>
        List.not_mem_nil (all pair listed)
      rw [none]
      rfl
  | cons first names ih =>
      -- The pairs of the first name are taken out, and the other names do not miss them.
      rw [List.nodup_cons] at distinct
      have others : ∀ pair ∈ pairs.filter fun pair => !decide (pair.1 = first),
          pair.1 ∈ names := by
        intro pair listed
        rw [List.mem_filter] at listed
        refine (List.mem_cons.1 (all pair listed.1)).resolve_left fun same => ?_
        simp [same] at listed
      have same : (names.flatMap fun name => pairs.filter fun pair => pair.1 = name) =
          names.flatMap fun name =>
            (pairs.filter fun pair => !decide (pair.1 = first)).filter fun pair =>
              pair.1 = name := by
        refine List.flatMap_congr fun name listed => ?_
        rw [List.filter_filter]
        refine List.filter_congr fun pair _ => ?_
        by_cases here : pair.1 = name
        · have apart : pair.1 ≠ first := fun other => distinct.1 (other ▸ here ▸ listed)
          simp [here, here ▸ apart]
        · simp [here]
      rw [List.flatMap_cons, same]
      exact ((ih distinct.2 others).append_left _).trans (List.filter_append_perm _ pairs)

/-- A table lists no name twice. -/
theorem nodup_names (symbols : Symbols) : (symbols.labels.toList.map Prod.fst).Nodup := by
  refine List.pairwise_map.2 (symbols.labels.distinct_keys_toList.imp ?_)
  intro a b different same
  exact different (by rw [same]; exact Std.ReflCmp.compare_self)

/-- The places to fill in of one label. -/
def places (label : Label) : List (Nat × Nat) :=
  match label.declared with
  | none => []
  | some (address, _) => label.usages.toList.map fun usage => (usage.offset, address)

theorem fixups_eq (symbols : Symbols) :
    symbols.fixups = symbols.labels.toList.flatMap fun entry => places entry.2 := rfl

section Fixups

variable {symbols : Symbols} {uses : List (String × Usage)} (records : symbols.Records uses)
include records

theorem Records.mem_usagesOf {use : String × Usage} (used : use ∈ uses) :
    use.2 ∈ symbols.usagesOf use.1 := by
  rw [records use.1]
  exact List.mem_map.2 ⟨use, List.mem_filter.2 ⟨used, decide_eq_true rfl⟩, rfl⟩

theorem Records.mem_names {name : String} {usage : Usage} (used : (name, usage) ∈ uses) :
    name ∈ symbols.labels.toList.map Prod.fst := by
  have listed := records.mem_usagesOf used
  rcases known : symbols.get? name with _ | label
  · rw [usagesOf, known] at listed
    cases listed
  · exact List.mem_map.2 ⟨_, (mem_toList_iff _ _ _).2 known, rfl⟩

/-- The place of a use, with the address that belongs there, if its label is declared. -/
def placeOf (symbols : Symbols) (use : String × Usage) : Option (Nat × Nat) :=
  (symbols.declaredAt use.1).map fun declaration => (use.2.offset, declaration.1)

/-- The places of a label are those of its uses. -/
theorem Records.places_eq {name : String} {label : Label}
    (listed : (name, label) ∈ symbols.labels.toList) :
    places label = (uses.filter fun use => use.1 = name).filterMap symbols.placeOf := by
  rw [mem_toList_iff] at listed
  have known : symbols.usagesOf name = label.usages.toList := by rw [usagesOf, listed]; rfl
  have declared : symbols.declaredAt name = label.declared := by rw [declaredAt, listed]; rfl
  have named : (uses.filter fun use => use.1 = name).filterMap symbols.placeOf =
      label.usages.toList.filterMap fun usage =>
        label.declared.map fun declaration => (usage.offset, declaration.1) := by
    rw [← known, records name, List.filterMap_map]
    refine List.filterMap_congr fun use kept => ?_
    have same : use.1 = name := of_decide_eq_true (List.mem_filter.1 kept).2
    rw [placeOf, same, declared]
    rfl
  rw [named, places]
  rcases label.declared with _ | ⟨address, location⟩
  · exact (List.filterMap_eq_nil_iff.2 fun _ _ => rfl).symm
  · exact (congrFun List.filterMap_eq_map' label.usages.toList).symm

/-- The places to fill in are those of all uses whose labels are declared. -/
theorem Records.fixups_perm_placeOf : symbols.fixups.Perm (uses.filterMap symbols.placeOf) := by
  have sorted : symbols.fixups = ((symbols.labels.toList.map Prod.fst).flatMap fun name =>
      uses.filter fun use => use.1 = name).filterMap symbols.placeOf := by
    rw [fixups_eq, List.filterMap_flatMap, List.flatMap_map]
    exact List.flatMap_congr fun label listed => records.places_eq listed
  rw [sorted]
  exact (flatMap_filter_perm symbols.nodup_names fun use => records.mem_names).filterMap _

/-- If every label that is used is declared, no use is left out of the places to fill in. -/
theorem Records.fixups_perm_of_declared
    (declared : ∀ use ∈ uses, ∃ declaration, symbols.declaredAt use.1 = some declaration) :
    (symbols.fixups.map fun place => (place.1, some place.2)).Perm
      (uses.map fun use => (use.2.offset, (symbols.declaredAt use.1).map Prod.fst)) := by
  have placed : (uses.filterMap symbols.placeOf).map (fun place => (place.1, some place.2)) =
      uses.map fun use => (use.2.offset, (symbols.declaredAt use.1).map Prod.fst) := by
    rw [List.map_filterMap, ← List.filterMap_eq_map']
    refine List.filterMap_congr fun use used => ?_
    obtain ⟨declaration, found⟩ := declared use used
    rw [placeOf, found]
    rfl
  rw [← placed]
  exact records.fixups_perm_placeOf.map _

end Fixups

end Symbols

end TwoStack
