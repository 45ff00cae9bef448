import TwoStack.Proofs.Assembly.Emission

/-!
# Completing a program

After its last statement a build is completed in one of three ways.  If some label is used and
declared nowhere, the error names a use that no other such use comes before
(`Build.Holds.finish_undeclared`); otherwise, if the code is too large, the error has its exact size
(`Build.Holds.finish_large`); otherwise there is a program (`Build.Holds.finish_program`), and its
bytes are those of the layout with every label at its address.

The last needs no order among the places that are filled in: each of them holds what the finished
layout has there, and all bytes outside are right from the beginning (`Build.patchAll_eq`).
-/

namespace TwoStack

/-! ## Filling in addresses -/

theorem Draft.patch_of_fits {draft : Draft} {offset address : Nat} (small : address < 2147483648)
    (fits : offset + Word.size ≤ draft.code.size) :
    draft.patch offset address =
      .ok ⟨draft.code.storeWord offset (Int32.ofNat address), draft.symbols⟩ := by
  rw [Draft.patch, addressWord_of_small small]
  exact if_pos fits

/-- A place that can be filled in so that it holds what the finished code has there. -/
structure Fills (target : List UInt8) (offset address : Nat) : Prop where
  small : address < 2147483648
  fits : offset + Word.size ≤ target.length
  holds : ∀ k < Word.size, target[offset + k]? = some (Word.byte (Int32.ofNat address) k)

/-- Code whose bytes outside the places are those of the finished code becomes the finished code,
whatever the order of the places. -/
theorem Build.patchAll_eq {target : List UInt8} {draft : Draft} {places : List (Nat × Nat)}
    (length : draft.code.size = target.length)
    (fills : ∀ place ∈ places, Fills target place.1 place.2)
    (agree : ∀ i, draft.code.toList[i]? = target[i]? ∨
      ∃ place ∈ places, place.1 ≤ i ∧ i < place.1 + Word.size) :
    ∃ next, Build.patchAll draft places = .ok next ∧ next.code.toList = target := by
  induction places generalizing draft with
  | nil =>
      refine ⟨draft, rfl, List.ext_getElem? fun i => ?_⟩
      rcases agree i with same | ⟨_, listed, _⟩
      · exact same
      · cases listed
  | cons place places ih =>
      rcases place with ⟨offset, address⟩
      rw [List.forall_mem_cons] at fills
      obtain ⟨⟨small, fits, holds⟩, others⟩ := fills
      dsimp only at small fits holds
      have inside : offset + Word.size ≤ draft.code.size := by rwa [length]
      have patched := Draft.patch_of_fits small inside
      obtain ⟨last, more, reached⟩ :=
        @ih ⟨draft.code.storeWord offset (Int32.ofNat address), draft.symbols⟩
          ((Bytes.size_storeWord _ _ _).trans length) others (by
            intro i
            rw [Array.getElem?_toList, Bytes.getElem?_storeWord _ _ _ _ inside]
            split
            · next here =>
                left
                have found := holds (i - offset) (Nat.sub_lt_left_of_lt_add here.1 here.2)
                rw [Nat.add_sub_of_le here.1] at found
                exact found.symm
            · next away =>
                rw [← Array.getElem?_toList]
                rcases agree i with same | ⟨place, listed, covered⟩
                · exact .inl same
                · rcases List.mem_cons.1 listed with rfl | listed
                  · exact absurd covered away
                  · exact .inr ⟨place, listed, covered⟩)
      exact ⟨last, by rw [Build.patchAll, patched]; exact more, reached⟩

/-! ## Addresses of labels -/

/-- A value for the labels that is their addresses, as far as they are declared. -/
def Addresses (value : String → Word) (statements : List Statement) : Prop :=
  ∀ name address location, (name, address, location) ∈ placed Statement.declarations 0 statements →
    value name = Int32.ofNat address

theorem lookup_of_mem {α : Type} {pairs : List (String × α)} {name : String} {x : α}
    (distinct : (pairs.map Prod.fst).Nodup) (listed : (name, x) ∈ pairs) :
    pairs.lookup name = some x := by
  induction pairs with
  | nil => cases listed
  | cons pair pairs ih =>
      rcases pair with ⟨other, y⟩
      rw [List.map_cons, List.nodup_cons] at distinct
      rcases List.mem_cons.1 listed with same | later
      · cases same
        rw [List.lookup_cons_self]
      · have different : name ≠ other := by
          rintro rfl
          exact distinct.1 (List.mem_map.2 ⟨_, later, rfl⟩)
        rw [List.lookup_cons, beq_false_of_ne different]
        exact ih distinct.2 later

/-- No name comes twice in the order of the names. -/
theorem nodup_of_sorted {α : Type} {pairs : List (String × α)}
    (sorted : pairs.Pairwise fun a b => a.1 < b.1) : (pairs.map Prod.fst).Nodup := by
  apply List.pairwise_map.2
  apply sorted.imp
  intro a b less same
  rw [same] at less
  exact String.lt_irrefl _ less

/-- Labels that are declared once have addresses. -/
theorem exists_addresses {statements : List Statement} (distinct : (labelNames statements).Nodup) :
    ∃ value, Addresses value statements := by
  rw [← map_fst_placed_declarations 0] at distinct
  refine ⟨fun name => Int32.ofNat
    (((placed Statement.declarations 0 statements).lookup name).map Prod.fst |>.getD 0), ?_⟩
  intro name address location listed
  dsimp only
  rw [lookup_of_mem distinct listed]
  rfl

theorem exists_declared_of_mem_labelNames {statements : List Statement} {name : String}
    (listed : name ∈ labelNames statements) :
    ∃ address location, (name, address, location) ∈ placed Statement.declarations 0 statements := by
  rw [← map_fst_placed_declarations 0] at listed
  obtain ⟨⟨_, address, location⟩, declared, rfl⟩ := List.mem_map.1 listed
  exact ⟨address, location, declared⟩

/-- The statements of a text use only labels that they declare. -/
def Settled (statements : List Statement) : Prop :=
  ∀ name usage, (name, usage) ∈ placed Statement.uses 0 statements → name ∈ labelNames statements

/-! ## Completing a build -/

namespace Build

section Finish

variable {build : Build} {statements : List Statement}

/-- The uses of labels that are declared nowhere. -/
theorem Holds.mem_undeclared_iff (holds : build.Holds statements) {name : String}
    {location : Location} :
    (location, name) ∈ build.draft.symbols.undeclared ↔ name ∉ labelNames statements ∧
      ∃ usage, (name, usage) ∈ placed Statement.uses 0 statements ∧ usage.location = location := by
  rw [Symbols.mem_undeclared_iff, holds.known.declaredAt_eq_none_iff, map_fst_placed_declarations]
  simp only [holds.known.used]

theorem Holds.finish_undeclared (holds : build.Holds statements) (tokens : Nat)
    (missing : ∃ name usage, (name, usage) ∈ placed Statement.uses 0 statements ∧
      name ∉ labelNames statements) :
    ∃ name usage, build.finish tokens = .error ⟨.undeclaredLabel name, some usage.location⟩ ∧
      (name, usage) ∈ placed Statement.uses 0 statements ∧ name ∉ labelNames statements ∧
      ∀ other another, (other, another) ∈ placed Statement.uses 0 statements →
        other ∉ labelNames statements →
        ¬Symbols.Sooner (another.location, other) (usage.location, name) := by
  obtain ⟨name, usage, used, free⟩ := missing
  have listed := holds.mem_undeclared_iff.2 ⟨free, usage, used, rfl⟩
  obtain ⟨⟨location, first⟩, resolved, found, least⟩ :=
    Symbols.resolve_of_undeclared (List.ne_nil_of_mem listed)
  obtain ⟨unknown, place, noted, rfl⟩ := holds.mem_undeclared_iff.1 found
  refine ⟨first, place, ?_, noted, unknown, ?_⟩
  · rcases build with ⟨draft, spans⟩
    rw [finish, resolved]
  · intro other another written undeclared
    exact least _ (holds.mem_undeclared_iff.2 ⟨undeclared, another, written, rfl⟩)

theorem Holds.resolve_eq (holds : build.Holds statements) (settled : Settled statements) :
    build.draft.symbols.resolve = .ok build.draft.symbols.addresses := by
  apply Symbols.resolve_of_all_declared
  rw [List.eq_nil_iff_forall_not_mem]
  rintro ⟨location, name⟩ listed
  obtain ⟨free, usage, used, _⟩ := holds.mem_undeclared_iff.1 listed
  exact free (settled name usage used)

theorem Holds.finish_large (holds : build.Holds statements) (tokens : Nat)
    (settled : Settled statements) (large : memorySize < codeSize statements) :
    build.finish tokens = .error ⟨.programTooLarge (codeSize statements), none⟩ := by
  have resolved := holds.resolve_eq settled
  rw [← holds.size_code] at large ⊢
  rcases build with ⟨draft, spans⟩
  rw [finish, resolved]
  exact if_pos large

theorem Holds.fills (holds : build.Holds statements) (small : codeSize statements < 2147483648)
    {value : String → Word} (addresses : Addresses value statements) {place : Nat × Nat}
    (listed : place ∈ build.draft.symbols.fixups) :
    Fills (placed (Statement.code value) 0 statements) place.1 place.2 := by
  rcases place with ⟨offset, address⟩
  obtain ⟨name, location, declared, usage, used, rfl⟩ := Symbols.mem_fixups_iff.1 listed
  rw [holds.known.used] at used
  rw [holds.known.declared] at declared
  obtain ⟨j, offset, fits, held⟩ := placed_slot used value
  rw [Nat.zero_add] at offset
  constructor
  · obtain ⟨front, token, back, rfl, rfl⟩ := exists_label_of_placed declared
    rw [codeSize_append] at small
    dsimp only
    omega
  · rw [length_placed_code]
    dsimp only
    omega
  · dsimp only
    rw [offset, ← addresses name address location declared]
    exact held

theorem Holds.agree (holds : build.Holds statements) (value : String → Word)
    (settled : Settled statements) (i : Nat) :
    build.draft.code.toList[i]? = (placed (Statement.code value) 0 statements)[i]? ∨
      ∃ place ∈ build.draft.symbols.fixups, place.1 ≤ i ∧ i < place.1 + Word.size := by
  rw [holds.code]
  refine (placed_code_agree 0 i statements _ value).imp_right ?_
  rintro ⟨name, usage, used, covered⟩
  obtain ⟨address, location, known⟩ :=
    exists_declared_of_mem_labelNames (settled name usage used)
  refine ⟨(usage.offset, address),
    Symbols.mem_fixups_iff.2 ⟨name, location, ?_, usage, ?_, rfl⟩, ?_⟩
  · exact (holds.known.declared _ _ _).2 known
  · exact (holds.known.used _ _).2 used
  · rwa [Nat.zero_add] at covered

end Finish

end Build

/-- A program that is what the layout of these statements says. -/
structure Assembly.Laid (assembly : Assembly) (statements : List Statement)
    (value : String → Word) : Prop where
  code : assembly.image.bytes.toList = placed (Statement.code value) 0 statements
  symbols : ∀ name address, (name, address) ∈ assembly.symbols ↔
    ∃ location, (name, address, location) ∈ placed Statement.declarations 0 statements
  sorted : assembly.symbols.Pairwise fun a b => a.1 < b.1
  listing : assembly.listing.toList =
    (placed Statement.spans 0 statements).map fun span => span.entry assembly.image.bytes

namespace Assembly

section Laid

variable {assembly : Assembly} {statements : List Statement} {value : String → Word}

theorem Laid.size_image (laid : assembly.Laid statements value) :
    assembly.image.size = codeSize statements := by
  rw [Image.size, ← Array.length_toList, laid.code, length_placed_code]

theorem Laid.mem_labelNames_iff (laid : assembly.Laid statements value) {name : String} :
    name ∈ labelNames statements ↔ name ∈ assembly.symbols.map Prod.fst := by
  constructor
  · intro listed
    obtain ⟨address, location, declared⟩ := exists_declared_of_mem_labelNames listed
    exact List.mem_map.2 ⟨_, (laid.symbols name address).2 ⟨location, declared⟩, rfl⟩
  · intro listed
    obtain ⟨⟨_, address⟩, found, rfl⟩ := List.mem_map.1 listed
    obtain ⟨location, declared⟩ := (laid.symbols _ address).1 found
    rw [← map_fst_placed_declarations 0]
    exact List.mem_map.2 ⟨_, declared, rfl⟩

theorem Laid.nodup_symbols (laid : assembly.Laid statements value) :
    (assembly.symbols.map Prod.fst).Nodup := nodup_of_sorted laid.sorted

end Laid

end Assembly

theorem Build.Holds.finish_program {build : Build} {statements : List Statement}
    (holds : build.Holds statements) (tokens : Nat)
    (settled : Settled statements) (fits : codeSize statements ≤ memorySize)
    {value : String → Word} (addresses : Addresses value statements) :
    ∃ assembly, build.finish tokens = .ok assembly ∧ assembly.Laid statements value := by
  have resolved := holds.resolve_eq settled
  have small : codeSize statements < 2147483648 := Nat.lt_of_le_of_lt fits (by decide)
  have room : ¬memorySize < build.draft.code.size := by
    rw [holds.size_code]
    exact Nat.not_lt.2 fits
  obtain ⟨last, patched, reached⟩ := Build.patchAll_eq
    (by rw [holds.size_code, length_placed_code]) (fun place => holds.fills small addresses)
    (holds.agree value settled)
  have inside : last.code.size ≤ memorySize := by
    rw [← Array.length_toList, reached, length_placed_code]
    exact fits
  have accepted : Image.ofBytes last.code = .ok ⟨last.code, inside⟩ := dif_pos inside
  have spans := holds.spans
  have known := holds.known
  rcases build with ⟨draft, listed⟩
  rw [Build.finish, resolved]
  dsimp only
  rw [if_neg room, patched]
  dsimp only
  rw [accepted]
  refine ⟨_, rfl, reached, ?_, draft.symbols.addresses_pairwise, ?_⟩
  · intro name address
    rw [Symbols.mem_addresses_iff]
    exact exists_congr fun location => known.declared name address location
  · rw [Array.toList_map, spans]

end TwoStack
