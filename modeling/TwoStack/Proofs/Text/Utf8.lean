import TwoStack.Console.Stream

/-!
# Lines of UTF-8

A text in UTF-8 is split into lines without decoding it: the byte of the line feed occurs in the
encoding of no other character.  So a stream that holds the bytes of a text reads its first line
(`Stream.splitLine_utf8Bytes`).  The bytes of a line are decoded exactly if they are the encoding of
a text, and to that text (`Stream.decodeLine?_eq_some_iff`).
-/

namespace TwoStack

/-- The bytes of a text in UTF-8. -/
def utf8Bytes (text : List Char) : List UInt8 := text.flatMap String.utf8EncodeChar

theorem utf8Bytes_append (front back : List Char) :
    utf8Bytes (front ++ back) = utf8Bytes front ++ utf8Bytes back :=
  List.flatMap_append

/-- These are the bytes of which the text consists. -/
theorem mk_utf8Bytes (text : List Char) :
    ByteArray.mk (utf8Bytes text).toArray = (String.ofList text).toByteArray := by
  rw [String.toByteArray_ofList, List.utf8Encode]
  exact ByteArray.ext (List.data_toByteArray).symm

theorem utf8Bytes_toList (text : String) : utf8Bytes text.toList = text.toUTF8.data.toList := by
  have bytes := mk_utf8Bytes text.toList
  rw [String.ofList_toList] at bytes
  rw [String.toUTF8_eq_toByteArray, ← bytes]

theorem fromUTF8?_eq_some_iff {bytes : ByteArray} {text : String} :
    String.fromUTF8? bytes = some text ↔ text.toByteArray = bytes := by
  rw [String.fromUTF8?]
  constructor
  · intro read
    split at read
    · cases read
      rfl
    · cases read
  · rintro rfl
    rw [dif_pos text.isValidUTF8]
    rfl

theorem utf8Bytes_ne_nil {text : List Char} (nonempty : text ≠ []) : utf8Bytes text ≠ [] := by
  cases text with
  | nil => exact absurd rfl nonempty
  | cons c text =>
      rw [utf8Bytes, List.flatMap_cons]
      exact List.append_ne_nil_of_left_ne_nil String.utf8EncodeChar_ne_nil _

/-- Only the line feed has a byte of a line feed. -/
theorem eq_of_mem_utf8EncodeChar {c : Char} (found : 10 ∈ String.utf8EncodeChar c) : c = '\n' := by
  -- the bytes of all longer encodings are 128 or more
  have byte (n : Nat) : (10 : UInt8) = UInt8.ofNat n ↔ 10 = n % 256 := by
    rw [← UInt8.toNat_inj, UInt8.toNat_ofNat']
    rfl
  unfold String.utf8EncodeChar at found
  dsimp only at found
  split at found
  · rw [List.mem_singleton, byte] at found
    have same : c.val.toNat = '\n'.val.toNat := by
      have value : '\n'.val.toNat = 10 := rfl
      omega
    exact Char.ext (UInt32.toNat_inj.1 same)
  · split at found
    · simp only [List.mem_cons, List.not_mem_nil, or_false, byte] at found
      omega
    · split at found
      · simp only [List.mem_cons, List.not_mem_nil, or_false, byte] at found
        omega
      · simp only [List.mem_cons, List.not_mem_nil, or_false, byte] at found
        omega

theorem not_mem_utf8Bytes {text : List Char} (plain : '\n' ∉ text) : 10 ∉ utf8Bytes text := by
  intro found
  obtain ⟨c, listed, here⟩ := List.mem_flatMap.1 found
  rw [eq_of_mem_utf8EncodeChar here] at listed
  exact plain listed

/-! ## Lines -/

/-- Induction over the lines of a text: the last line has no end. -/
@[elab_as_elim]
theorem lines_induction {motive : List Char → Prop} (last : ∀ line, '\n' ∉ line → motive line)
    (line : ∀ line rest, '\n' ∉ line → motive rest → motive (line ++ '\n' :: rest))
    (text : List Char) : motive text := by
  -- what has been read of a line stands in front of the rest
  suffices rest_of_line : ∀ front, '\n' ∉ front → motive (front ++ text) from
    rest_of_line [] List.not_mem_nil
  induction text with
  | nil =>
      intro front plain
      rw [List.append_nil]
      exact last front plain
  | cons c text ih =>
      intro front plain
      by_cases lineFeed : c = '\n'
      · subst lineFeed
        exact line front text plain (ih [] List.not_mem_nil)
      · rw [List.append_cons]
        apply ih
        rw [List.mem_append, List.mem_singleton]
        exact not_or.2 ⟨plain, Ne.symm lineFeed⟩

namespace Stream

theorem bne_of_plain {line : List UInt8} (plain : 10 ∉ line) :
    ∀ byte ∈ line, (byte != 10) = true :=
  fun _ found => bne_iff_ne.2 fun same => plain (same ▸ found)

/-- The first line is read up to and including its line feed. -/
theorem splitLine_cut {line : List UInt8} (plain : 10 ∉ line) (rest : List UInt8) :
    splitLine (line ++ 10 :: rest) = (line ++ [10], rest) := by
  have dropped : (line ++ 10 :: rest).dropWhile (· != 10) = 10 :: rest := by
    rw [List.dropWhile_append_of_pos (bne_of_plain plain)]
    rfl
  have taken : (line ++ 10 :: rest).takeWhile (· != 10) = line := by
    rw [List.takeWhile_append_of_pos (bne_of_plain plain)]
    exact List.append_nil _
  rw [splitLine, dropped]
  dsimp only
  rw [taken]

/-- An input without a line feed is one line. -/
theorem splitLine_last {line : List UInt8} (plain : 10 ∉ line) : splitLine line = (line, []) := by
  have dropped : (line ++ []).dropWhile (· != 10) = [] := by
    rw [List.dropWhile_append_of_pos (bne_of_plain plain)]
    rfl
  rw [List.append_nil] at dropped
  rw [splitLine, dropped]

/-- The first line of a text is read up to and including its line feed. -/
theorem splitLine_utf8Bytes {line : List Char} (plain : '\n' ∉ line) (rest : List Char) :
    splitLine (utf8Bytes (line ++ '\n' :: rest)) =
      (utf8Bytes (line ++ ['\n']), utf8Bytes rest) := by
  have bytes : utf8Bytes (line ++ '\n' :: rest) = utf8Bytes line ++ 10 :: utf8Bytes rest :=
    utf8Bytes_append line ('\n' :: rest)
  have start : utf8Bytes (line ++ ['\n']) = utf8Bytes line ++ [10] := utf8Bytes_append line ['\n']
  rw [bytes, start]
  exact splitLine_cut (not_mem_utf8Bytes plain) _

/-- A text without a line feed is one line. -/
theorem splitLine_utf8Bytes_last {line : List Char} (plain : '\n' ∉ line) :
    splitLine (utf8Bytes line) = (utf8Bytes line, []) :=
  splitLine_last (not_mem_utf8Bytes plain)

/-- A line is decoded exactly if it is the encoding of a text, and to that text. -/
theorem decodeLine?_eq_some_iff {line : List UInt8} {text : String} :
    decodeLine? line = some text ↔ line = utf8Bytes text.toList := by
  rw [decodeLine?, fromUTF8?_eq_some_iff, utf8Bytes_toList, String.toUTF8_eq_toByteArray]
  constructor
  · intro same
    rw [same]
  · intro same
    rw [same, Array.toArray_toList]

theorem decodeLine?_utf8Bytes (line : List Char) :
    decodeLine? (utf8Bytes line) = some (String.ofList line) := by
  rw [decodeLine?_eq_some_iff, String.toList_ofList]

end Stream

end TwoStack
