import Mathlib.Data.List.Pairwise
import TwoStack.Proofs.Assembly.Completion
import TwoStack.Proofs.Assembly.History
import TwoStack.Proofs.Assembly.Outcome
import TwoStack.Proofs.Assembly.TwoPass

/-!
# Slots of a draft

A draft may be asked for instructions, operands and calls in any order, and its table of symbols may
be told of declarations at any addresses in between.  Each label operand gets a slot: four zero
bytes behind a `PUSH`, which the table records.

`Draft.Reserves` relates the code and the table: every recorded use has its slot in the code, and
the slots come one after the other.  Code only grows at its end, so a slot that is there stays there
(`Draft.Reserves.grow`), and a new one lies behind all others (`Draft.Reserves.reserve`).  These two
make up everything that a draft can be asked for (`Draft.Reserves.perform`), calls included, which
are a literal and an operand with instructions in between.

Since no two slots have a byte in common, filling them in has one result, whatever the order: the
code in which all slots are filled in at once (`Draft.patchAll_of_perm`).  What follows after any
requests is `Draft.keeps_slots`.
-/

namespace TwoStack

/-! ## Requests -/

/-- What a draft is asked for; a declaration may be made at any address. -/
inductive DraftRequest where
  | emit (opcode : Opcode)
  | push (value : Operand) (location : Location)
  | call (target : Operand) (location : Location)
  | declare (name : String) (address : Nat) (location : Location)
  deriving DecidableEq, Repr

/-- The use that an operand is, with its slot at `offset`. -/
def Operand.use? (offset : Nat) (location : Location) : Operand → Option (String × Usage)
  | literal _ => none
  | label name => some (name, ⟨offset, location⟩)

namespace DraftRequest

/-- The number of bytes by which a draft grows; a call that cannot be returned to is refused. -/
def size (start : Nat) : DraftRequest → Nat
  | emit _ => 1
  | push .. => Opcode.push.size
  | call .. => if start + callSize < 2147483648 then callSize else 0
  | declare .. => 0

/-- The use that is recorded for a request. -/
def use? (start : Nat) : DraftRequest → Option (String × Usage)
  | emit _ => none
  | push value location => value.use? (start + OperandKeyword.push.slot) location
  | call target location =>
    if start + callSize < 2147483648 then target.use? (start + OperandKeyword.call.slot) location
    else none
  | declare .. => none

end DraftRequest

/-- The number of bytes by which a draft grows over some requests. -/
def sizeFrom (start : Nat) : List DraftRequest → Nat
  | [] => 0
  | request :: rest => request.size start + sizeFrom (start + request.size start) rest

/-- The uses that are recorded for some requests, in the order of their slots. -/
def usesFrom (start : Nat) : List DraftRequest → List (String × Usage)
  | [] => []
  | request :: rest => (request.use? start).toList ++ usesFrom (start + request.size start) rest

namespace Draft

/-- The draft after a request; what is refused changes nothing. -/
def perform (draft : Draft) : DraftRequest → Draft
  | .emit opcode => draft.emit opcode
  | .push value location => draft.emitPush value location
  | .call target location =>
    match draft.emitCall target location with
    | .ok next => next
    | .error _ => draft
  | .declare name address location =>
    { draft with symbols := draft.symbols.perform (.declare name address location) }

/-- The draft after some requests. -/
def performAll (draft : Draft) (requests : List DraftRequest) : Draft :=
  requests.foldl perform draft

theorem size_perform (draft : Draft) (request : DraftRequest) :
    (draft.perform request).code.size = draft.code.size + request.size draft.code.size := by
  cases request with
  | emit opcode => exact Array.size_push _
  | push value location => exact size_emitPush draft value location
  | call target location =>
      by_cases small : draft.code.size + callSize < 2147483648
      · have emitted := emitCall_of_small target location small
        rw [perform, emitted, DraftRequest.size, if_pos small]
        exact size_of_emitCall emitted
      · rw [perform, emitCall_of_large target location small, DraftRequest.size, if_neg small]
        rfl
  | declare name address location => rfl

theorem size_performAll (draft : Draft) (requests : List DraftRequest) :
    (draft.performAll requests).code.size =
      draft.code.size + sizeFrom draft.code.size requests := by
  induction requests generalizing draft with
  | nil => rfl
  | cons request rest ih =>
      rw [performAll, List.foldl_cons, sizeFrom, ← Nat.add_assoc, ← size_perform]
      exact ih _

end Draft

/-! ## Slots -/

/-- A slot that is not filled in: four zero bytes of the code behind a `PUSH`. -/
structure OpenSlot (code : Bytes) (offset : Nat) : Prop where
  inside : offset + Word.size ≤ code.size
  zeros : ∀ k < Word.size, code[offset + k]? = some 0
  behindPush : ∃ before, before + 1 = offset ∧ code[before]? = some Opcode.push.toByte

/-- Two slots without a common byte. -/
def Apart (offset other : Nat) : Prop :=
  offset + Word.size ≤ other ∨ other + Word.size ≤ offset

theorem Apart.symm {offset other : Nat} (apart : Apart offset other) : Apart other offset :=
  Or.symm apart

theorem OpenSlot.grow {code : Bytes} {offset : Nat} (slot : OpenSlot code offset) (added : Bytes) :
    OpenSlot (code ++ added) offset := by
  have inside := slot.inside
  refine ⟨?_, fun k within => ?_, ?_⟩
  · rw [Array.size_append]
    omega
  · rw [Array.getElem?_append_left (by omega)]
    exact slot.zeros k within
  · obtain ⟨before, behind, push⟩ := slot.behindPush
    refine ⟨before, behind, ?_⟩
    rw [Array.getElem?_append_left (by omega)]
    exact push

/-- A new slot stands at the end of the code. -/
theorem openSlot_end (code : Bytes) :
    OpenSlot (code.push Opcode.push.toByte ++ #[0, 0, 0, 0]) (code.size + 1) where
  inside := by
    rw [Array.size_append, Array.size_push]
    rfl
  zeros := by
    intro k within
    rw [Array.getElem?_append_right (by rw [Array.size_push]; omega), Array.size_push,
      Nat.add_sub_cancel_left]
    rcases Word.index_lt_size within with rfl | rfl | rfl | rfl <;> rfl
  behindPush := by
    refine ⟨code.size, rfl, ?_⟩
    rw [Array.getElem?_append_left (by rw [Array.size_push]; omega), Array.getElem?_push_size]

/-! ## Drafts with slots -/

namespace Draft

/-- The uses in the table have their slots in the code, one after the other. -/
structure Reserves (draft : Draft) (uses : List (String × Usage)) : Prop where
  records : draft.symbols.Records uses
  slots : ∀ use ∈ uses, OpenSlot draft.code use.2.offset
  ordered : uses.Pairwise fun a b => a.2.offset + Word.size ≤ b.2.offset

theorem reserves_empty : Draft.empty.Reserves [] :=
  ⟨Symbols.records_empty, List.forall_mem_nil _, .nil⟩

section Reserves

variable {draft next : Draft} {uses : List (String × Usage)} (reserves : draft.Reserves uses)
include reserves

theorem Reserves.grow (added : Bytes) :
    Draft.Reserves ⟨draft.code ++ added, draft.symbols⟩ uses where
  records := reserves.records
  slots use used := (reserves.slots use used).grow added
  ordered := reserves.ordered

/-- A new slot lies behind all others, because they lie in the code. -/
theorem Reserves.reserve (name : String) (location : Location) :
    Draft.Reserves
      ⟨draft.code.push Opcode.push.toByte ++ #[0, 0, 0, 0],
        draft.symbols.use name (draft.code.size + 1) location⟩
      (uses ++ [(name, ⟨draft.code.size + 1, location⟩)]) where
  records := reserves.records.use name _ location
  slots := by
    rw [List.forall_mem_append, List.forall_mem_singleton, Array.push_eq_append, Array.append_assoc]
    refine ⟨fun use used => (reserves.slots use used).grow _, ?_⟩
    rw [← Array.append_assoc, ← Array.push_eq_append]
    exact openSlot_end draft.code
  ordered := by
    refine List.pairwise_append.2 ⟨reserves.ordered, List.pairwise_singleton .., ?_⟩
    intro use used other single
    have inside := (reserves.slots use used).inside
    rw [List.mem_singleton.1 single]
    dsimp only
    omega

theorem Reserves.emit (opcode : Opcode) : (draft.emit opcode).Reserves uses := by
  have grown := reserves.grow #[opcode.toByte]
  rwa [← Array.push_eq_append] at grown

theorem Reserves.emitPush (value : Operand) (location : Location) :
    (draft.emitPush value location).Reserves
      (uses ++ (value.use? (draft.code.size + OperandKeyword.push.slot) location).toList) := by
  cases value with
  | literal word =>
      rw [emitPush_literal, Operand.use?, Option.toList_none, List.append_nil]
      exact (reserves.emit .push).grow word.toBytes
  | label name =>
      rw [emitPush_label]
      exact reserves.reserve name location

/-- A call is a literal and an operand, with instructions in between. -/
theorem Reserves.emitCall {target : Operand} {location : Location}
    (small : draft.code.size + callSize < 2147483648)
    (emitted : draft.emitCall target location = .ok next) :
    next.Reserves
      (uses ++ (target.use? (draft.code.size + OperandKeyword.call.slot) location).toList) := by
  rw [emitCall_of_small target location small] at emitted
  cases emitted
  have front := (reserves.emitPush (.literal (Int32.ofNat (draft.code.size + callSize)))
    location).emit .pushIp
  rw [Operand.use?, Option.toList_none, List.append_nil] at front
  have whole := (front.emitPush target location).emit .jmp
  have slot : ((draft.emitPush (.literal (Int32.ofNat (draft.code.size + callSize)))
      location).emit .pushIp).code.size + OperandKeyword.push.slot =
        draft.code.size + OperandKeyword.call.slot := by
    rw [Draft.emit, Array.size_push, size_emitPush]
    rfl
  rwa [slot] at whole

/-- Nothing that a draft can be asked for takes a slot away, and each label gets its own. -/
theorem Reserves.perform (request : DraftRequest) :
    (draft.perform request).Reserves (uses ++ (request.use? draft.code.size).toList) := by
  cases request with
  | emit opcode =>
      rw [DraftRequest.use?, Option.toList_none, List.append_nil]
      exact reserves.emit opcode
  | push value location => exact reserves.emitPush value location
  | call target location =>
      by_cases small : draft.code.size + callSize < 2147483648
      · have emitted := emitCall_of_small target location small
        rw [Draft.perform, emitted, DraftRequest.use?, if_pos small]
        exact reserves.emitCall small emitted
      · rw [Draft.perform, emitCall_of_large target location small, DraftRequest.use?,
          if_neg small, Option.toList_none, List.append_nil]
        exact reserves
  | declare name address location =>
      have records := reserves.records.perform (.declare name address location)
      exact
        { records
          slots := (List.append_nil uses).symm ▸ reserves.slots
          ordered := (List.append_nil uses).symm ▸ reserves.ordered }

theorem Reserves.performAll (requests : List DraftRequest) :
    (draft.performAll requests).Reserves (uses ++ usesFrom draft.code.size requests) := by
  -- for any draft, because the rest is asked of one that has grown
  induction requests generalizing draft uses with
  | nil => exact (List.append_nil uses).symm ▸ reserves
  | cons request rest ih =>
      rw [Draft.performAll, List.foldl_cons, usesFrom, ← List.append_assoc, ← size_perform]
      exact ih (reserves.perform request)

end Reserves

end Draft

/-! ## Filling in -/

/-- Whether a byte lies in the slot of a place to fill in. -/
def covers (i : Nat) (place : Nat × Nat) : Bool :=
  decide (place.1 ≤ i ∧ i < place.1 + Word.size)

/-- Code with all places filled in at once: a byte in a slot is that of the address that belongs
there, and every other byte is as it was. -/
def filledCode (code : Bytes) (places : List (Nat × Nat)) : List UInt8 :=
  code.toList.mapIdx fun i byte =>
    match places.find? (covers i) with
    | some (offset, address) => Word.byte (Int32.ofNat address) (i - offset)
    | none => byte

section FilledCode

variable {code : Bytes} {places : List (Nat × Nat)}

theorem length_filledCode : (filledCode code places).length = code.size := by
  rw [filledCode, List.length_mapIdx, Array.length_toList]

theorem getElem?_filledCode_of_uncovered {i : Nat}
    (uncovered : ∀ place ∈ places, covers i place = false) :
    (filledCode code places)[i]? = code[i]? := by
  have none : places.find? (covers i) = none :=
    List.find?_eq_none.2 fun place listed => Bool.not_eq_true _ ▸ uncovered place listed
  rw [filledCode, List.getElem?_mapIdx, none, Array.getElem?_toList]
  exact Option.map_id' ..

/-- A byte lies in one slot at most, and this is the one that is found for it. -/
theorem find?_covers (apart : places.Pairwise fun a b => Apart a.1 b.1) {place : Nat × Nat}
    (listed : place ∈ places) {i : Nat} (covered : covers i place = true) :
    places.find? (covers i) = some place := by
  obtain ⟨other, found⟩ := Option.isSome_iff_exists.1
    (List.find?_isSome.2 ⟨place, listed, covered⟩)
  have again : covers i other = true := List.find?_some found
  have same : place = other := by
    by_contra different
    have : Std.Symm fun a b : Nat × Nat => Apart a.1 b.1 := ⟨fun _ _ => Apart.symm⟩
    have separate := apart.forall listed (List.mem_of_find?_eq_some found) different
    have here := of_decide_eq_true covered
    have there := of_decide_eq_true again
    unfold Apart at separate
    omega
  rw [found, same]

theorem fills_filledCode (apart : places.Pairwise fun a b => Apart a.1 b.1) {place : Nat × Nat}
    (listed : place ∈ places) (small : place.2 < 2147483648)
    (inside : place.1 + Word.size ≤ code.size) :
    Fills (filledCode code places) place.1 place.2 where
  small := small
  fits := by rwa [length_filledCode]
  holds := by
    intro k within
    have covered : covers (place.1 + k) place = true := decide_eq_true ⟨by omega, by omega⟩
    rw [filledCode, List.getElem?_mapIdx, find?_covers apart listed covered,
      Array.getElem?_toList, Array.getElem?_eq_getElem (by omega), Option.map_some]
    dsimp only
    rw [Nat.add_sub_cancel_left]

end FilledCode

theorem Draft.symbols_of_patch {draft next : Draft} {offset address : Nat}
    (patched : draft.patch offset address = .ok next) : next.symbols = draft.symbols := by
  rw [Draft.patch] at patched
  rcases reached : addressWord address with cause | word
  · rw [reached] at patched
    cases patched
  · rw [reached] at patched
    by_cases inside : offset + Word.size ≤ draft.code.size
    · cases (if_pos inside).symm.trans patched
      rfl
    · cases (if_neg inside).symm.trans patched

theorem Build.symbols_of_patchAll {draft next : Draft} {places : List (Nat × Nat)}
    (patched : Build.patchAll draft places = .ok next) : next.symbols = draft.symbols := by
  induction places generalizing draft with
  | nil =>
      cases patched
      rfl
  | cons place places ih =>
      rw [Build.patchAll] at patched
      split at patched
      · cases patched
      · next first => exact (ih patched).trans (Draft.symbols_of_patch first)

/-- Places that are apart can be filled in in any order, and the order makes no difference: every
order reaches the code in which all of them are filled in at once. -/
theorem Draft.patchAll_of_perm {draft : Draft} {places order : List (Nat × Nat)}
    (apart : places.Pairwise fun a b => Apart a.1 b.1)
    (small : ∀ place ∈ places, place.2 < 2147483648)
    (inside : ∀ place ∈ places, place.1 + Word.size ≤ draft.code.size)
    (reordered : order.Perm places) :
    Build.patchAll draft order =
      .ok ⟨(filledCode draft.code places).toArray, draft.symbols⟩ := by
  have fills : ∀ place ∈ order, Fills (filledCode draft.code places) place.1 place.2 := by
    intro place toFill
    have listed := reordered.mem_iff.1 toFill
    exact fills_filledCode apart listed (small place listed) (inside place listed)
  have agree : ∀ i, draft.code.toList[i]? = (filledCode draft.code places)[i]? ∨
      ∃ place ∈ order, place.1 ≤ i ∧ i < place.1 + Word.size := by
    intro i
    by_cases covered : ∃ place ∈ order, place.1 ≤ i ∧ i < place.1 + Word.size
    · exact .inr covered
    · left
      rw [Array.getElem?_toList, getElem?_filledCode_of_uncovered]
      intro place listed
      exact decide_eq_false fun here => covered ⟨place, reordered.mem_iff.2 listed, here⟩
  obtain ⟨next, patched, reached⟩ := Build.patchAll_eq length_filledCode.symm fills agree
  rw [patched, ← reached, ← Build.symbols_of_patchAll patched]

/-! ## Uses in a table -/

namespace Symbols

/-- All uses that a table has recorded, by the names of their labels. -/
def usages (symbols : Symbols) : List (String × Usage) :=
  symbols.labels.toList.flatMap fun entry =>
    entry.2.usages.toList.map fun usage => (entry.1, usage)

theorem Records.usages_perm {symbols : Symbols} {uses : List (String × Usage)}
    (records : symbols.Records uses) : symbols.usages.Perm uses := by
  have sorted : symbols.usages = (symbols.labels.toList.map Prod.fst).flatMap fun name =>
      uses.filter fun use => use.1 = name := by
    rw [usages, List.flatMap_map]
    refine List.flatMap_congr fun (name, label) listed => ?_
    have known : symbols.usagesOf name = label.usages.toList := by
      rw [usagesOf, (mem_toList_iff ..).1 listed]
      rfl
    have named : ∀ use ∈ uses.filter fun use => use.1 = name, (name, use.2) = use := by
      intro use kept
      have same : use.1 = name := of_decide_eq_true (List.mem_filter.1 kept).2
      rw [← same]
    dsimp only
    rw [← known, records name, List.map_map]
    exact (List.map_congr_left named).trans (List.map_id _)
  rw [sorted]
  exact flatMap_filter_perm symbols.nodup_names fun use used => records.mem_names used

/-- The place of a use whose label is declared is one of those to fill in, and there are no
others. -/
theorem Records.mem_fixups_iff {symbols : Symbols} {uses : List (String × Usage)}
    (records : symbols.Records uses) {place : Nat × Nat} :
    place ∈ symbols.fixups ↔ ∃ use ∈ uses, use.2.offset = place.1 ∧
      ∃ location, symbols.declaredAt use.1 = some (place.2, location) := by
  rcases place with ⟨offset, address⟩
  rw [records.fixups_perm_placeOf.mem_iff, List.mem_filterMap]
  refine exists_congr fun use => and_congr_right fun _ => ?_
  rw [placeOf, Option.map_eq_some_iff]
  constructor
  · rintro ⟨⟨_, location⟩, declared, same⟩
    cases same
    exact ⟨rfl, location, declared⟩
  · rintro ⟨rfl, location, declared⟩
    exact ⟨(address, location), declared, rfl⟩

end Symbols

/-! ## Slots after requests -/

namespace Draft

/-- What becomes of a draft when the addresses of its labels are filled in. -/
structure FilledBy (draft filled : Draft) : Prop where
  /-- In whatever order the places are filled in, this is the result. -/
  orders : ∀ order : List (Nat × Nat), order.Perm draft.symbols.fixups →
    Build.patchAll draft order = .ok filled
  symbols : filled.symbols = draft.symbols
  size : filled.code.size = draft.code.size
  /-- Only the bytes in slots are changed. -/
  changed : ∀ i : Nat, filled.code[i]? ≠ draft.code[i]? →
    ∃ use ∈ draft.symbols.usages, use.2.offset ≤ i ∧ i < use.2.offset + Word.size
  /-- Each slot holds the address of its label. -/
  holds : ∀ use ∈ draft.symbols.usages, ∀ address location,
    draft.symbols.declaredAt use.1 = some (address, location) →
    ∀ k < Word.size, filled.code[use.2.offset + k]? = (TwoPass.bigEndian address)[k]?

section Reserves

variable {draft : Draft} {uses : List (String × Usage)} (reserves : draft.Reserves uses)
include reserves

theorem Reserves.fixups_apart :
    draft.symbols.fixups.Pairwise fun a b => Apart a.1 b.1 := by
  rw [reserves.records.fixups_perm_placeOf.pairwise_iff Apart.symm, List.pairwise_filterMap]
  refine reserves.ordered.imp fun {use other} order place placed next follows => ?_
  obtain ⟨_, _, rfl⟩ := Option.map_eq_some_iff.1 placed
  obtain ⟨_, _, rfl⟩ := Option.map_eq_some_iff.1 follows
  exact .inl order

/-- If every label that is used has a declared address that is a word, all slots are filled in. -/
theorem Reserves.exists_filled
    (declared : ∀ use ∈ draft.symbols.usages, ∃ address location,
      draft.symbols.declaredAt use.1 = some (address, location) ∧ address < 2147483648) :
    ∃ filled, draft.FilledBy filled := by
  have listed {use : String × Usage} : use ∈ draft.symbols.usages ↔ use ∈ uses :=
    reserves.records.usages_perm.mem_iff
  have small : ∀ place ∈ draft.symbols.fixups, place.2 < 2147483648 := by
    intro place toFill
    obtain ⟨use, used, _, location, found⟩ := reserves.records.mem_fixups_iff.1 toFill
    obtain ⟨address, _, known, bound⟩ := declared use (listed.2 used)
    rw [found] at known
    cases known
    exact bound
  have inside : ∀ place ∈ draft.symbols.fixups, place.1 + Word.size ≤ draft.code.size := by
    intro place toFill
    obtain ⟨use, used, same, _⟩ := reserves.records.mem_fixups_iff.1 toFill
    exact same ▸ (reserves.slots use used).inside
  refine ⟨⟨(filledCode draft.code draft.symbols.fixups).toArray, draft.symbols⟩, ?_⟩
  constructor
  · exact fun order => patchAll_of_perm reserves.fixups_apart small inside
  · rfl
  · exact length_filledCode
  · intro i differs
    by_contra untouched
    refine differs ((List.getElem?_toArray ..).trans (getElem?_filledCode_of_uncovered ?_))
    intro place toFill
    obtain ⟨use, used, same, _⟩ := reserves.records.mem_fixups_iff.1 toFill
    refine decide_eq_false fun covered => untouched ⟨use, listed.2 used, ?_⟩
    rwa [same]
  · intro use used address location found k within
    have toFill : (use.2.offset, address) ∈ draft.symbols.fixups :=
      reserves.records.mem_fixups_iff.2 ⟨use, listed.1 used, rfl, location, found⟩
    have fills := fills_filledCode reserves.fixups_apart toFill (small _ toFill) (inside _ toFill)
    rw [← TwoPass.toBytes_ofNat, Word.getElem?_toBytes _ within]
    exact (List.getElem?_toArray ..).trans (fills.holds k within)

end Reserves

/-- What is known of the slots of a draft after some requests. -/
structure KeepsSlots (requests : List DraftRequest) (draft : Draft) : Prop where
  size : draft.code.size = sizeFrom 0 requests
  /-- Each label operand is recorded with its slot, and nothing else is. -/
  recorded : draft.symbols.usages.Perm (usesFrom 0 requests)
  slots : ∀ use ∈ draft.symbols.usages, OpenSlot draft.code use.2.offset
  apart : draft.symbols.usages.Pairwise fun a b => Apart a.2.offset b.2.offset
  filled : (∀ use ∈ draft.symbols.usages, ∃ address location,
      draft.symbols.declaredAt use.1 = some (address, location) ∧ address < 2147483648) →
    ∃ filled, draft.FilledBy filled

/-- Whatever a draft is asked for, its slots do not collide, and they can be filled in in any
order. -/
theorem keeps_slots (requests : List DraftRequest) :
    KeepsSlots requests (empty.performAll requests) := by
  have reserves := reserves_empty.performAll requests
  rw [List.nil_append] at reserves
  have perm := reserves.records.usages_perm
  constructor
  · exact (size_performAll empty requests).trans (Nat.zero_add _)
  · exact perm
  · exact fun use used => reserves.slots use (perm.mem_iff.1 used)
  · exact (perm.pairwise_iff Apart.symm).2 (reserves.ordered.imp Or.inl)
  · exact reserves.exists_filled

/-- A `PUSH` without an operand in front does not move the slot of the last label. -/
example :
    (usesFrom 0 [.push (.label "b") ⟨1, 6, 1⟩, .call (.label "a") ⟨1, 13, 3⟩, .emit .push,
      .push (.label "b") ⟨2, 6, 6⟩]).map (fun use => (use.1, use.2.offset)) =
        [("b", 1), ("a", 12), ("b", 19)] := by
  decide

end Draft

end TwoStack
