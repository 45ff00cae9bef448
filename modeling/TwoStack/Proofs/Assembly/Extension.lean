import TwoStack.Proofs.Assembly.Linking

/-!
# Texts that are continued

A text that assembles may be continued on a new line, by a text that need not assemble on its own:
it may use the labels of the first.  The program of the whole then begins with the program of the
first (`assemble_extends`): code, addresses and listing are the same as if nothing came after them.

The addresses of labels are filled in at the end, when the labels of both texts are known.  What the
statements of the first text use they also declare, so the words that are filled in among their
bytes are the same; and the statements of the whole text are those of the first and then others
(`Begins.exists_append`), each with its own part of the layout.
-/

namespace TwoStack

/-- A program that begins with another one: its code, the addresses of its labels and its listing
are there unchanged. -/
structure Assembly.Extends (longer shorter : Assembly) : Prop where
  image : shorter.image.bytes.toList <+: longer.image.bytes.toList
  symbols : ∀ name address, shorter.symbols.lookup name = some address →
    longer.symbols.lookup name = some address
  listing : shorter.listing.toList <+: longer.listing.toList

/-- Tokens that can be read to their end are read first, whatever comes after them. -/
theorem Begins.exists_append {tokens others : List Token} {front statements : List Statement}
    (first : Begins tokens front []) (whole : Begins (tokens ++ others) statements []) :
    ∃ back, statements = front ++ back := by
  rcases exists_begins others with ⟨back, rest, second, ends⟩
  have both : Begins (tokens ++ others) (front ++ back) rest := (first.extend others).append second
  have parsed := whole.parse_eq
  rcases ends with rfl | ⟨error, malformed⟩
  · rw [both.parse_eq, Prod.mk.injEq] at parsed
    exact ⟨back, (congrArg Array.toList parsed.1).symm⟩
  · rw [both.parse_eq_of_malformed malformed] at parsed
    cases parsed

namespace Assembly

section Laid

variable {shorter longer : Assembly} {front back : List Statement} {early late : String → Word}

/-- The code of the first statements uses only words that are the same in both layouts. -/
theorem Laid.image_prefix (before : shorter.Laid front early)
    (after : longer.Laid (front ++ back) late)
    (same : ∀ name usage, (name, usage) ∈ placed Statement.uses 0 front →
      late name = early name) :
    shorter.image.bytes.toList <+: longer.image.bytes.toList := by
  rw [before.code, after.code, placed_append, placed_code_congr front same]
  exact List.prefix_append _ _

theorem Laid.lookup_of_append (before : shorter.Laid front early)
    (after : longer.Laid (front ++ back) late) {name : String} {address : Nat}
    (found : shorter.symbols.lookup name = some address) :
    longer.symbols.lookup name = some address := by
  rcases List.lookup_eq_some_iff.1 found with ⟨earlier, later, split, _⟩
  have listed : (name, address) ∈ shorter.symbols := by
    rw [split]
    exact List.mem_append_right _ List.mem_cons_self
  rcases (before.symbols name address).1 listed with ⟨location, declared⟩
  apply lookup_of_mem after.nodup_symbols
  rw [after.symbols, placed_append]
  exact ⟨location, List.mem_append_left _ declared⟩

/-- An entry shows bytes of its own statement only, and those are in the shorter image. -/
theorem Laid.listing_prefix (before : shorter.Laid front early)
    (after : longer.Laid (front ++ back) late)
    (image : shorter.image.bytes.toList <+: longer.image.bytes.toList) :
    shorter.listing.toList <+: longer.listing.toList := by
  rcases image with ⟨tail, grown⟩
  have bytes : longer.image.bytes = shorter.image.bytes ++ tail.toArray := by
    rw [← Array.toList_inj, Array.toList_append, grown]
  have entries : ∀ span ∈ placed Statement.spans 0 front,
      span.entry longer.image.bytes = span.entry shorter.image.bytes := by
    intro span listed
    have bounds := le_codeSize_of_mem_spans listed
    rw [← before.size_image] at bounds
    rw [bytes, Span.entry_append bounds.2]
  rw [before.listing, after.listing, placed_append, List.map_append, List.map_congr_left entries]
  exact List.prefix_append _ _

end Laid

end Assembly

/-- What assembles is not changed by what is put behind it on a new line. -/
theorem assemble_extends {first second : String} {shorter longer : Assembly}
    (assembled : assemble first = .ok shorter)
    (continued : assemble (first ++ "\n" ++ second) = .ok longer) : longer.Extends shorter := by
  rcases exists_laid assembled with ⟨front, early, one, earlyAddresses, before⟩
  rcases exists_laid continued with ⟨statements, late, whole, lateAddresses, after⟩
  have begins := whole.begins
  rw [tokenize_joined] at begins
  rcases one.begins.exists_append begins with ⟨back, rfl⟩
  have image := before.image_prefix after fun name usage used =>
    lateAddresses.eq_of_append earlyAddresses one.settled used
  exact ⟨image, fun _ _ found => before.lookup_of_append after found,
    before.listing_prefix after image⟩

/-- A loop, continued by a call of it and a label that sorts before its own. -/
theorem assemble_extends_loop :
    ∃ shorter longer, assemble "b: PUSH b JMP ; again" = .ok shorter ∧
      assemble ("b: PUSH b JMP ; again" ++ "\n" ++ "a: CALL b PUSH a") = .ok longer ∧
      longer.Extends shorter ∧ shorter.symbols = [("b", 0)] ∧
      longer.symbols = [("a", 6), ("b", 0)] ∧ shorter.listing.size = 2 := by
  have loop : (assemble "b: PUSH b JMP ; again").toOption.map
      (fun assembly => (assembly.symbols, assembly.listing.size)) = some ([("b", 0)], 2) := by
    decide +kernel
  have whole : (assemble ("b: PUSH b JMP ; again" ++ "\n" ++ "a: CALL b PUSH a")).toOption.map
      Assembly.symbols = some [("a", 6), ("b", 0)] := by
    decide +kernel
  rcases first : assemble "b: PUSH b JMP ; again" with _ | shorter
  · rw [first] at loop
    cases loop
  rcases both : assemble ("b: PUSH b JMP ; again" ++ "\n" ++ "a: CALL b PUSH a") with _ | longer
  · rw [both] at whole
    cases whole
  rw [first, Except.toOption, Option.map_some, Option.some.injEq, Prod.mk.injEq] at loop
  rw [both, Except.toOption, Option.map_some, Option.some.injEq] at whole
  exact ⟨shorter, longer, rfl, rfl, assemble_extends first both, loop.1, whole, loop.2⟩

end TwoStack
