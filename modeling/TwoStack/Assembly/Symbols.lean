import Std.Data.TreeMap
import TwoStack.Source.Token

/-!
# Symbols

A label may be used before and after its declaration, so the table keeps, for every label met so
far, the places in the code where its address belongs, and its address once it is declared.  Labels
are listed in the order of their names.
-/

namespace TwoStack

/-- A place in the code where the address of a label belongs. -/
structure Usage where
  /-- The address of the first of four bytes. -/
  offset : Nat
  /-- Where the label is written. -/
  location : Location
  deriving DecidableEq, Repr

/-- What is known about a label. -/
structure Label where
  usages : Array Usage
  /-- The address, and where the label is declared. -/
  declared : Option (Nat × Location)
  deriving DecidableEq, Repr, Inhabited

/-- The labels met so far. -/
structure Symbols where
  labels : Std.TreeMap String Label

namespace Symbols

/-- The table without labels. -/
def empty : Symbols := ⟨∅⟩

/-- What is known about a name. -/
def get? (symbols : Symbols) (name : String) : Option Label := symbols.labels[name]?

/-- Declares a label, or answers where it was declared before. -/
def declare (symbols : Symbols) (name : String) (address : Nat) (location : Location) :
    Except Location Symbols :=
  match symbols.labels[name]? with
  | some ⟨_, some (_, first)⟩ => .error first
  | some ⟨usages, none⟩ => .ok ⟨symbols.labels.insert name ⟨usages, some (address, location)⟩⟩
  | none => .ok ⟨symbols.labels.insert name ⟨#[], some (address, location)⟩⟩

/-- Notes that the address of a label belongs at `offset`. -/
def use (symbols : Symbols) (name : String) (offset : Nat) (location : Location) : Symbols :=
  ⟨symbols.labels.alter name fun
    | some ⟨usages, declared⟩ => some ⟨usages.push ⟨offset, location⟩, declared⟩
    | none => some ⟨#[⟨offset, location⟩], none⟩⟩

/-- A use is noted for its name, and nothing changes for other names. -/
theorem get?_use (symbols : Symbols) (name other : String) (offset : Nat) (location : Location) :
    (symbols.use name offset location).get? other =
      if name = other then
        some ⟨((symbols.get? name).map Label.usages).getD #[] |>.push ⟨offset, location⟩,
          (symbols.get? name).bind Label.declared⟩
      else symbols.get? other := by
  unfold use get?
  simp only [Std.TreeMap.getElem?_alter, Std.compare_eq_iff_eq]
  split
  · cases symbols.labels[name]? <;> rfl
  · rfl

/-- A label can be declared exactly if it is not declared. -/
theorem declare_eq_error_iff (symbols : Symbols) (name : String) (address : Nat)
    (location first : Location) :
    symbols.declare name address location = .error first ↔
      ∃ before, (symbols.get? name).bind Label.declared = some (before, first) := by
  unfold declare get?
  split
  · next h => simp [h]
  · next h => simp [h]
  · next h => simp [h]

/-- Every use of a label that is not declared: where it is, and the name. -/
def undeclared (symbols : Symbols) : List (Location × String) :=
  symbols.labels.toList.flatMap fun (name, label) =>
    match label.declared with
    | some _ => []
    | none => label.usages.toList.map fun usage => (usage.location, name)

/-- The first use of a label that is not declared, by place in the source and then by name. -/
def firstUndeclared? (symbols : Symbols) : Option (Location × String) :=
  symbols.undeclared.foldl (fun first use =>
    match first with
    | none => some use
    | some best =>
      if use.1.before best.1 || use.1 == best.1 && decide (use.2 < best.2) then some use
      else some best) none

/-- The addresses of the declared labels, in the order of their names. -/
def addresses (symbols : Symbols) : List (String × Nat) :=
  symbols.labels.toList.filterMap fun (name, label) =>
    label.declared.map fun (address, _) => (name, address)

/-- The address of every label, or the first use of one that is not declared. -/
def resolve (symbols : Symbols) : Except (Location × String) (List (String × Nat)) :=
  match symbols.firstUndeclared? with
  | some use => .error use
  | none => .ok symbols.addresses

/-- The places to fill in, each with the address that belongs there; those of labels that are not
declared are left out. -/
def fixups (symbols : Symbols) : List (Nat × Nat) :=
  symbols.labels.toList.flatMap fun (_, label) =>
    match label.declared with
    | none => []
    | some (address, _) => label.usages.toList.map fun usage => (usage.offset, address)

end Symbols

end TwoStack
