import TwoStack.Proofs.Json.Parts

/-!
# Printed JSON is read back

Whatever value is printed, in either layout, is the value that the text denotes
(`Json.parse?_print`).  So texts are the same only if the values are (`Json.print_injective`).

The proof is by induction on the value (`Json.induct`), for all depths and with an arbitrary rest
behind the value (`Json.Reads`).  The fuel is counted by the characters that are still to be read.
-/

namespace TwoStack.Json

/-! ## Numbers and blanks in front -/

/-- Blanks in front of a value do not matter. -/
theorem takeValue?_congr {text other : List Char} (same : skipBlanks text = skipBlanks other)
    (fuel : Nat) : takeValue? fuel text = takeValue? fuel other := by
  cases fuel with
  | zero => rw [takeValue?, takeValue?]
  | succ fuel => rw [takeValue?, takeValue?, same]

/-- A value that begins with a digit is a number. -/
theorem takeValue?_digit {c : Char} (digit : c.isDigit = true) (fuel : Nat) (rest : List Char) :
    takeValue? (fuel + 1) (c :: rest) = takeNumber? false (c :: rest) := by
  rw [takeValue?, skipBlanks_cons (isBlank_of_isDigit digit)]
  split
  case h_8 => rfl
  -- no other kind of value begins with a digit
  all_goals
    next same =>
      rw [(List.cons.inj same).1] at digit
      exact absurd digit (by decide)

theorem takeValue?_minus (fuel : Nat) (rest : List Char) :
    takeValue? (fuel + 1) ('-' :: rest) = takeNumber? true rest := rfl

theorem takeValue?_integer {rest : List Char} (closes : Closes rest) (fuel : Nat) (value : Int) :
    takeValue? (fuel + 1) (value.repr.toList ++ rest) = some (integer value, rest) := by
  rw [Numeral.toList_repr]
  split
  · next nonnegative =>
      obtain ⟨c, digits, begins⟩ :=
        List.exists_cons_of_ne_nil (Nat.toDigits_ne_nil (b := 10) (n := value.toNat))
      have digit : c.isDigit = true :=
        Numeral.isDigit_of_mem_toDigits (begins ▸ List.mem_cons_self)
      have number := takeNumber?_toDigits closes false value.toNat
      rw [begins, List.cons_append] at number ⊢
      rw [takeValue?_digit digit, number, Bool.false_and, if_neg Bool.false_ne_true,
        Numeral.signed, if_neg Bool.false_ne_true, Int.toNat_of_nonneg nonnegative]
  · next negative =>
      have nonzero : (true && (-value).toNat == 0) = false := by
        rw [Bool.true_and, beq_eq_false_iff_ne]
        omega
      rw [List.cons_append, takeValue?_minus, takeNumber?_toDigits closes, nonzero,
        if_neg Bool.false_ne_true, Numeral.signed, if_pos rfl]
      congr 3
      omega

/-! ## Parts of values -/

/-- What holds of a value if it holds of the parts holds of every value. -/
theorem induct {motive : Json → Prop} (null : motive null) (bool : ∀ value, motive (bool value))
    (integer : ∀ value, motive (integer value)) (real : motive real)
    (string : ∀ text, motive (string text))
    (array : ∀ items, (∀ item ∈ items, motive item) → motive (array items))
    (object : ∀ members, (∀ member ∈ members, motive member.2) → motive (object members)) :
    ∀ value, motive value
  | .null => null
  | .bool value => bool value
  | .integer value => integer value
  | .real => real
  | .string text => string text
  | .array items => array items fun item _ => induct null bool integer real string array object item
  | .object members => object members fun member _ =>
      induct null bool integer real string array object member.2
  termination_by value => sizeOf value
  decreasing_by
    · next listed =>
        have smaller := List.sizeOf_lt_of_mem listed
        simp only [Json.array.sizeOf_spec]
        omega
    · next listed =>
        have smaller := List.sizeOf_lt_of_mem listed
        have part : sizeOf member.2 < sizeOf member := by
          cases member
          simp only [Prod.mk.sizeOf_spec]
          omega
        simp only [Json.object.sizeOf_spec]
        omega

/-- A printed value begins neither with a blank nor with a closing bracket. -/
theorem exists_head (layout : Layout) (depth : Nat) (value : Json) :
    ∃ c more, chars layout depth value = c :: more ∧ isBlank c = false ∧ c ≠ ']' := by
  cases value with
  | null =>
      rw [chars]
      exact ⟨_, _, rfl, rfl, by decide⟩
  | bool value =>
      cases value with
      | true =>
          rw [chars]
          exact ⟨_, _, rfl, rfl, by decide⟩
      | false =>
          rw [chars]
          exact ⟨_, _, rfl, rfl, by decide⟩
  | integer value =>
      rw [chars, Numeral.toList_repr]
      split
      · obtain ⟨c, digits, begins⟩ :=
          List.exists_cons_of_ne_nil (Nat.toDigits_ne_nil (b := 10) (n := value.toNat))
        have digit : c.isDigit = true :=
          Numeral.isDigit_of_mem_toDigits (begins ▸ List.mem_cons_self)
        refine ⟨c, digits, begins, isBlank_of_isDigit digit, ?_⟩
        rintro rfl
        exact absurd digit (by decide)
      · exact ⟨_, _, rfl, rfl, by decide⟩
  | real =>
      rw [chars]
      exact ⟨_, _, rfl, rfl, by decide⟩
  | string content =>
      obtain ⟨inner, begins, _⟩ := takeString?_quoted content []
      rw [chars, ← List.append_nil (quoted content), begins]
      exact ⟨_, _, rfl, rfl, by decide⟩
  | array items =>
      cases items with
      | nil =>
          rw [chars]
          exact ⟨_, _, rfl, rfl, by decide⟩
      | cons item items =>
          rw [chars]
          exact ⟨_, _, rfl, rfl, by decide⟩
  | object members =>
      cases members with
      | nil =>
          rw [chars]
          exact ⟨_, _, rfl, rfl, by decide⟩
      | cons member members =>
          rw [chars]
          exact ⟨_, _, rfl, rfl, by decide⟩

section Parts

variable {fuel : Nat} {text behind rest more : List Char} {item value : Json}
  {name : Option String}

theorem takeItems?_last (read : takeValue? fuel text = some (item, behind))
    (closed : skipBlanks behind = ']' :: rest) :
    takeItems? (fuel + 1) text = some ([item], rest) := by
  rw [takeItems?, read]
  simp only [Option.bind_eq_bind, Option.bind_some, closed]
  rfl

theorem takeItems?_more {items : List Json} (read : takeValue? fuel text = some (item, behind))
    (comma : skipBlanks behind = ',' :: more) (others : takeItems? fuel more = some (items, rest)) :
    takeItems? (fuel + 1) text = some (item :: items, rest) := by
  rw [takeItems?, read]
  simp only [Option.bind_eq_bind, Option.bind_some, comma, others]
  rfl

theorem takeItems?_congr {other : List Char} (same : skipBlanks text = skipBlanks other)
    (fuel : Nat) : takeItems? fuel text = takeItems? fuel other := by
  cases fuel with
  | zero => rw [takeItems?, takeItems?]
  | succ fuel => rw [takeItems?, takeItems?, takeValue?_congr same]

theorem takeMembers?_congr {other : List Char} (same : skipBlanks text = skipBlanks other)
    (fuel : Nat) : takeMembers? fuel text = takeMembers? fuel other := by
  cases fuel with
  | zero => rw [takeMembers?, takeMembers?]
  | succ fuel => rw [takeMembers?, takeMembers?, same]

/-- An array with items begins with a bracket, and then with an item. -/
theorem takeValue?_items {items : List Json} {c : Char} (first : skipBlanks text = c :: more)
    (other : c ≠ ']') (taken : takeItems? fuel text = some (items, rest)) :
    takeValue? (fuel + 1) ('[' :: text) = some (array items, rest) := by
  have solid : skipBlanks (c :: more) = skipBlanks text := first ▸ skipBlanks_skipBlanks text
  rw [takeValue?, skipBlanks_cons rfl]
  simp only [first]
  split
  · next closing => exact absurd (List.cons.inj closing).1 other
  · rw [takeItems?_congr solid, taken, Option.map_some]

/-- An object with members begins with a brace, and then with a member. -/
theorem takeValue?_members {members : List (Option String × Json)} {c : Char}
    (first : skipBlanks text = c :: more) (other : c ≠ '}')
    (taken : takeMembers? fuel text = some (members, rest)) :
    takeValue? (fuel + 1) ('{' :: text) = some (object members, rest) := by
  have solid : skipBlanks (c :: more) = skipBlanks text := first ▸ skipBlanks_skipBlanks text
  rw [takeValue?, skipBlanks_cons rfl]
  simp only [first]
  split
  · next closing => exact absurd (List.cons.inj closing).1 other
  · rw [takeMembers?_congr solid, taken, Option.map_some]

theorem takeMembers?_last {inner valued : List Char} (named : takeString? inner = some (name, text))
    (colon : skipBlanks text = ':' :: valued) (read : takeValue? fuel valued = some (value, behind))
    (closed : skipBlanks behind = '}' :: rest) :
    takeMembers? (fuel + 1) ('"' :: inner) = some ([(name, value)], rest) := by
  rw [takeMembers?, skipBlanks_cons rfl]
  simp only [named, Option.bind_eq_bind, Option.bind_some, colon, read, closed]
  rfl

theorem takeMembers?_more {inner valued : List Char} {members : List (Option String × Json)}
    (named : takeString? inner = some (name, text)) (colon : skipBlanks text = ':' :: valued)
    (read : takeValue? fuel valued = some (value, behind))
    (comma : skipBlanks behind = ',' :: more)
    (others : takeMembers? fuel more = some (members, rest)) :
    takeMembers? (fuel + 1) ('"' :: inner) = some ((name, value) :: members, rest) := by
  rw [takeMembers?, skipBlanks_cons rfl]
  simp only [named, Option.bind_eq_bind, Option.bind_some, colon, read, comma, others]
  rfl

end Parts

/-! ## Printed values -/

section Reads

variable {layout : Layout} {depth : Nat} {rest : List Char}

/-- A printed value is taken off the front of a text. -/
def Reads (layout : Layout) (value : Json) : Prop :=
  ∀ depth fuel rest, (chars layout depth value).length ≤ fuel → Closes rest →
    takeValue? fuel (chars layout depth value ++ rest) = some (value, rest)

/-- What stands behind an item of an array. -/
theorem closes_itemChars (items : List Json) (outer : Nat) :
    Closes (itemChars layout depth items ++ (layout.gap outer ++ ']' :: rest)) := by
  cases items with
  | nil => exact closes_gap (closes_cons (by decide) _)
  | cons item items => exact closes_cons (by decide) _

/-- What stands behind the value of a member of an object. -/
theorem closes_memberChars (members : List (Option String × Json)) (outer : Nat) :
    Closes (memberChars layout depth members ++ (layout.gap outer ++ '}' :: rest)) := by
  cases members with
  | nil => exact closes_gap (closes_cons (by decide) _)
  | cons member members => exact closes_cons (by decide) _

theorem itemChars_cons (item : Json) (items : List Json) :
    itemChars layout depth (item :: items) =
      ',' :: (layout.gap depth ++ (chars layout depth item ++ itemChars layout depth items)) := by
  simp only [itemChars, List.cons_append, List.append_assoc]

theorem memberChars_cons (name : Option String) (value : Json)
    (members : List (Option String × Json)) :
    memberChars layout depth ((name, value) :: members) =
      ',' :: (layout.gap depth ++ (quoted name ++ ':' :: (layout.afterColon ++
        (chars layout depth value ++ memberChars layout depth members)))) := by
  simp only [memberChars, List.cons_append, List.append_assoc]

/-- The items of an array are read one after the other, and the bracket after them. -/
theorem takeItems?_chars {item : Json} {items : List Json} (outer : Nat) (rest : List Char)
    (reads : Reads layout item) (others : ∀ item ∈ items, Reads layout item) {fuel : Nat}
    (fueled : (chars layout depth item ++ itemChars layout depth items).length < fuel) :
    takeItems? fuel (chars layout depth item ++ (itemChars layout depth items ++
      (layout.gap outer ++ ']' :: rest))) = some (item :: items, rest) := by
  induction items generalizing item fuel with
  | nil =>
      obtain ⟨fuel, rfl⟩ : ∃ more, fuel = more + 1 := Nat.exists_eq_succ_of_ne_zero (by omega)
      rw [itemChars, List.append_nil] at fueled
      refine takeItems?_last (reads depth fuel _ (by omega) (closes_itemChars [] outer)) ?_
      rw [itemChars, List.nil_append, skipBlanks_gap, skipBlanks_cons rfl]
  | cons next items ih =>
      obtain ⟨fuel, rfl⟩ : ∃ more, fuel = more + 1 := Nat.exists_eq_succ_of_ne_zero (by omega)
      rw [itemChars_cons, List.length_append, List.length_cons, List.length_append] at fueled
      have tail := ih (others next List.mem_cons_self)
        (fun other listed => others other (List.mem_cons_of_mem _ listed))
        (show (chars layout depth next ++ itemChars layout depth items).length < fuel by omega)
      rw [← takeItems?_congr (skipBlanks_gap layout depth _)] at tail
      refine takeItems?_more (reads depth fuel _ (by omega) (closes_itemChars _ outer)) ?_ tail
      rw [itemChars_cons, List.cons_append, List.append_assoc, List.append_assoc]
      exact skipBlanks_cons rfl _

/-- The name of a member and its value are taken one after the other. -/
theorem takes_member {value : Json} {fuel : Nat} {behind : List Char} (reads : Reads layout value)
    (fueled : (chars layout depth value).length ≤ fuel) (closes : Closes behind)
    (name : Option String) :
    ∃ inner valued, quoted name ++ ':' :: (layout.afterColon ++ (chars layout depth value ++
        behind)) = '"' :: inner ∧
      takeString? inner = some (name, ':' :: valued) ∧
      takeValue? fuel valued = some (value, behind) := by
  obtain ⟨inner, begins, named⟩ := takeString?_quoted name
    (':' :: (layout.afterColon ++ (chars layout depth value ++ behind)))
  have read := reads depth fuel behind fueled closes
  rw [← takeValue?_congr (skipBlanks_afterColon layout _)] at read
  exact ⟨inner, _, begins, named, read⟩

/-- The members of an object are read one after the other, and the brace after them. -/
theorem takeMembers?_chars {name : Option String} {value : Json}
    {members : List (Option String × Json)} (outer : Nat) (rest : List Char)
    (reads : Reads layout value) (others : ∀ member ∈ members, Reads layout member.2) {fuel : Nat}
    (fueled : (quoted name ++ ':' :: (layout.afterColon ++ (chars layout depth value ++
      memberChars layout depth members))).length < fuel) :
    takeMembers? fuel (quoted name ++ ':' :: (layout.afterColon ++ (chars layout depth value ++
      (memberChars layout depth members ++ (layout.gap outer ++ '}' :: rest))))) =
        some ((name, value) :: members, rest) := by
  induction members generalizing name value fuel with
  | nil =>
      obtain ⟨fuel, rfl⟩ : ∃ more, fuel = more + 1 := Nat.exists_eq_succ_of_ne_zero (by omega)
      simp only [List.length_append, List.length_cons] at fueled
      have bounded : (chars layout depth value).length ≤ fuel := by omega
      obtain ⟨inner, valued, begins, named, read⟩ :=
        takes_member reads bounded (closes_memberChars [] outer) name
      rw [begins]
      refine takeMembers?_last named (skipBlanks_cons rfl _) read ?_
      rw [memberChars, List.nil_append, skipBlanks_gap, skipBlanks_cons rfl]
  | cons next members ih =>
      obtain ⟨fuel, rfl⟩ : ∃ more, fuel = more + 1 := Nat.exists_eq_succ_of_ne_zero (by omega)
      obtain ⟨second, following⟩ := next
      simp only [memberChars_cons, List.length_append, List.length_cons] at fueled
      have tail := ih (others _ List.mem_cons_self)
        (fun other listed => others other (List.mem_cons_of_mem _ listed))
        (show (quoted second ++ ':' :: (layout.afterColon ++ (chars layout depth following ++
          memberChars layout depth members))).length < fuel by
            simp only [List.length_append, List.length_cons]
            omega)
      rw [← takeMembers?_congr (skipBlanks_gap layout depth _)] at tail
      have bounded : (chars layout depth value).length ≤ fuel := by omega
      obtain ⟨inner, valued, begins, named, read⟩ :=
        takes_member reads bounded (closes_memberChars _ outer) name
      rw [begins]
      refine takeMembers?_more named (skipBlanks_cons rfl _) read ?_ tail
      simp only [memberChars_cons, List.cons_append, List.append_assoc]
      exact skipBlanks_cons rfl _

/-- A printed value is not empty, so there is fuel for its first character. -/
theorem reads_of_succ {value : Json}
    (read : ∀ depth fuel rest, (chars layout depth value).length ≤ fuel + 1 → Closes rest →
      takeValue? (fuel + 1) (chars layout depth value ++ rest) = some (value, rest)) :
    Reads layout value := by
  intro depth fuel rest fueled closes
  obtain ⟨fuel, rfl⟩ : ∃ more, fuel = more + 1 := by
    obtain ⟨c, more, begins, _⟩ := exists_head layout depth value
    rw [begins, List.length_cons] at fueled
    exact Nat.exists_eq_succ_of_ne_zero (by omega)
  exact read depth fuel rest fueled closes

theorem reads_array {items : List Json} (parts : ∀ item ∈ items, Reads layout item) :
    Reads layout (array items) := by
  refine reads_of_succ fun depth fuel rest fueled closes => ?_
  cases items with
  | nil =>
      rw [chars]
      rfl
  | cons item items =>
      have spelled : chars layout depth (array (item :: items)) ++ rest =
          '[' :: (layout.gap (depth + 1) ++ (chars layout (depth + 1) item ++
            (itemChars layout (depth + 1) items ++ (layout.gap depth ++ ']' :: rest)))) := by
        simp only [chars, List.cons_append, List.append_assoc, List.nil_append]
      have bounded : (chars layout (depth + 1) item ++
          itemChars layout (depth + 1) items).length < fuel := by
        simp only [chars, List.length_append, List.length_cons, List.length_nil] at fueled ⊢
        omega
      have taken := takeItems?_chars depth rest (parts item List.mem_cons_self)
        (fun other listed => parts other (List.mem_cons_of_mem _ listed)) bounded
      rw [← takeItems?_congr (skipBlanks_gap layout (depth + 1) _)] at taken
      obtain ⟨c, more, begins, solid, other⟩ := exists_head layout (depth + 1) item
      have first (tail : List Char) : skipBlanks (layout.gap (depth + 1) ++
          (chars layout (depth + 1) item ++ tail)) = c :: (more ++ tail) := by
        rw [skipBlanks_gap, begins, List.cons_append, skipBlanks_cons solid]
      rw [spelled]
      exact takeValue?_items (first _) other taken

theorem reads_object {members : List (Option String × Json)}
    (parts : ∀ member ∈ members, Reads layout member.2) : Reads layout (object members) := by
  refine reads_of_succ fun depth fuel rest fueled closes => ?_
  cases members with
  | nil =>
      rw [chars]
      rfl
  | cons member members =>
      obtain ⟨name, value⟩ := member
      have spelled : chars layout depth (object ((name, value) :: members)) ++ rest =
          '{' :: (layout.gap (depth + 1) ++ (quoted name ++ ':' :: (layout.afterColon ++
            (chars layout (depth + 1) value ++ (memberChars layout (depth + 1) members ++
              (layout.gap depth ++ '}' :: rest)))))) := by
        simp only [chars, List.cons_append, List.append_assoc, List.nil_append]
      have bounded : (quoted name ++ ':' :: (layout.afterColon ++
          (chars layout (depth + 1) value ++
            memberChars layout (depth + 1) members))).length < fuel := by
        simp only [chars, List.length_append, List.length_cons, List.length_nil] at fueled ⊢
        omega
      have taken := takeMembers?_chars depth rest (parts _ List.mem_cons_self)
        (fun other listed => parts other (List.mem_cons_of_mem _ listed)) bounded
      rw [← takeMembers?_congr (skipBlanks_gap layout (depth + 1) _)] at taken
      have first (tail : List Char) : ∃ inner, skipBlanks (layout.gap (depth + 1) ++
          (quoted name ++ tail)) = '"' :: inner := by
        obtain ⟨inner, begins, _⟩ := takeString?_quoted name tail
        exact ⟨inner, by rw [skipBlanks_gap, begins, skipBlanks_cons rfl]⟩
      obtain ⟨inner, first⟩ := first _
      rw [spelled]
      exact takeValue?_members first (by decide) taken

/-- Whatever is printed is taken off the front of a text. -/
theorem reads (layout : Layout) (value : Json) : Reads layout value := by
  induction value using Json.induct with
  | null =>
      refine reads_of_succ fun depth fuel rest _ _ => ?_
      rw [chars]
      rfl
  | bool value =>
      refine reads_of_succ fun depth fuel rest _ _ => ?_
      cases value with
      | true =>
          rw [chars]
          rfl
      | false =>
          rw [chars]
          rfl
  | integer value =>
      refine reads_of_succ fun depth fuel rest _ closes => ?_
      rw [chars]
      exact takeValue?_integer closes fuel value
  | real =>
      refine reads_of_succ fun depth fuel rest _ closes => ?_
      rw [chars]
      exact takeNumber?_toDigits closes true 0
  | string content =>
      refine reads_of_succ fun depth fuel rest _ _ => ?_
      obtain ⟨inner, begins, read⟩ := takeString?_quoted content rest
      rw [chars, begins]
      exact congrArg (Option.map fun taken => (string taken.1, taken.2)) read
  | array items ih => exact reads_array ih
  | object members ih => exact reads_object ih

end Reads

/-- Printed text denotes the value that was printed. -/
theorem parse?_print (layout : Layout) (value : Json) :
    parse? (print layout value) = some value := by
  have taken :=
    reads layout value 0 (2 * (chars layout 0 value).length + 2) [] (by omega) closes_nil
  rw [List.append_nil] at taken
  rw [parse?, print, String.toList_ofList, String.length_ofList, taken]
  rfl

theorem print_injective (layout : Layout) : Function.Injective (print layout) := by
  intro value other same
  have read := parse?_print layout value
  rw [same, parse?_print] at read
  exact (Option.some.inj read).symm

end TwoStack.Json
