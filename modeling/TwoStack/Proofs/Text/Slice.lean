import Mathlib.Tactic.Common
import TwoStack.Proofs.Text.Utf8

/-!
# Slices of UTF-8

A text can be cut by the offsets of its bytes, but only between characters.  `slice?` has an answer
exactly for two offsets between characters, in order (`slice?_eq_some_iff`).

Cutting off a character is safe after its first byte has been seen to be below 128: no byte of a
longer encoding is (`utf8EncodeChar_cases`).
-/

namespace TwoStack

/-- The text from one byte offset to another, if both lie between characters of the text, and in
this order. -/
def slice? (text : String) (start stop : Nat) : Option String :=
  if start ≤ stop ∧ String.Pos.Raw.IsValid text ⟨start⟩ ∧ String.Pos.Raw.IsValid text ⟨stop⟩ then
    String.fromUTF8? (text.toByteArray.extract start stop)
  else
    none

/-- The offsets around some characters of a text cut them out of it. -/
theorem slice?_append (front text back : String) :
    slice? (front ++ text ++ back) front.utf8ByteSize
      (front.utf8ByteSize + text.utf8ByteSize) = some text := by
  have start : String.Pos.Raw.IsValid (front ++ text ++ back) ⟨front.utf8ByteSize⟩ :=
    String.Pos.Raw.isValid_iff_exists_append.2 ⟨front, text ++ back, String.append_assoc .., rfl⟩
  have stop : String.Pos.Raw.IsValid (front ++ text ++ back)
      ⟨front.utf8ByteSize + text.utf8ByteSize⟩ := by
    refine String.Pos.Raw.isValid_iff_exists_append.2 ⟨front ++ text, back, rfl, ?_⟩
    rw [String.rawEndPos, String.utf8ByteSize_append]
  rw [slice?, if_pos ⟨Nat.le_add_right _ _, start, stop⟩, fromUTF8?_eq_some_iff,
    String.append_assoc, String.toByteArray_append, String.toByteArray_append,
    ← String.size_toByteArray, ← String.size_toByteArray, ← Nat.add_zero front.toByteArray.size,
    Nat.add_assoc, Nat.zero_add, ByteArray.extract_append_size_add,
    ByteArray.extract_append_eq_left rfl]

/-- A slice is some characters of the text, with the offsets around them. -/
theorem slice?_eq_some_iff {text slice : String} {start stop : Nat} :
    slice? text start stop = some slice ↔
      ∃ front back, text = front ++ slice ++ back ∧ start = front.utf8ByteSize ∧
        stop = front.utf8ByteSize + slice.utf8ByteSize := by
  constructor
  · intro cut
    unfold slice? at cut
    split at cut
    · next valid =>
        obtain ⟨order, first, last⟩ := valid
        obtain ⟨front, behind, split, begins⟩ := String.Pos.Raw.isValid_iff_exists_append.1 first
        obtain ⟨before, back, parts, ends⟩ := String.Pos.Raw.isValid_iff_exists_append.1 last
        rw [String.rawEndPos, String.Pos.Raw.mk.injEq] at begins ends
        rw [fromUTF8?_eq_some_iff] at cut
        have prior {part rest : String} (split : text = part ++ rest) :
            part.toByteArray = text.toByteArray.extract 0 part.utf8ByteSize := by
          rw [split, String.toByteArray_append, ← String.size_toByteArray,
            ByteArray.extract_append_eq_left rfl]
        have joined : before = front ++ slice := by
          rw [← String.toByteArray_inj, String.toByteArray_append, prior split, prior parts, cut,
            ← begins, ← ends]
          exact ByteArray.extract_eq_extract_append_extract start (Nat.zero_le _) order
        refine ⟨front, back, by rw [parts, joined], begins, ?_⟩
        rw [ends, joined, String.utf8ByteSize_append]
    · cases cut
  · rintro ⟨front, back, rfl, rfl, rfl⟩
    exact slice?_append front slice back

/-! ## The first byte -/

/-- A character below 128 is its own byte, and all bytes of the others are 128 or more. -/
theorem utf8EncodeChar_cases (c : Char) :
    c.toNat < 128 ∧ String.utf8EncodeChar c = [UInt8.ofNat c.toNat] ∨
      128 ≤ c.toNat ∧ ∀ byte ∈ String.utf8EncodeChar c, 128 ≤ byte.toNat := by
  unfold String.utf8EncodeChar
  dsimp only
  split
  · next small => exact .inl ⟨Nat.lt_succ_of_le small, rfl⟩
  · next large =>
      refine .inr ⟨Nat.lt_of_not_le large, ?_⟩
      split
      · simp only [List.forall_mem_cons, UInt8.toNat_ofNat']
        exact ⟨by omega, by omega, List.forall_mem_nil _⟩
      · split
        · simp only [List.forall_mem_cons, UInt8.toNat_ofNat']
          exact ⟨by omega, by omega, by omega, List.forall_mem_nil _⟩
        · simp only [List.forall_mem_cons, UInt8.toNat_ofNat']
          exact ⟨by omega, by omega, by omega, by omega, List.forall_mem_nil _⟩

/-- A text begins with a character below 128 if its bytes begin with the byte of that character. -/
theorem head?_utf8Bytes_iff {text : List Char} {c : Char} (small : c.toNat < 128) :
    (utf8Bytes text).head? = some (UInt8.ofNat c.toNat) ↔ text.head? = some c := by
  have byte {n : Nat} (fits : n < 128) : (UInt8.ofNat n).toNat = n := by
    rw [UInt8.toNat_ofNat']
    omega
  cases text with
  | nil => exact ⟨nofun, nofun⟩
  | cons first rest =>
      rw [utf8Bytes, List.flatMap_cons, List.head?_cons, Option.some.injEq]
      rcases utf8EncodeChar_cases first with ⟨fits, encoded⟩ | ⟨large, high⟩
      · rw [encoded, List.singleton_append, List.head?_cons, Option.some.injEq, ← UInt8.toNat_inj,
          byte small, byte fits]
        exact ⟨fun same => Char.ext (UInt32.toNat_inj.1 same), congrArg Char.toNat⟩
      · obtain ⟨lead, others, encoded⟩ :=
          List.exists_cons_of_ne_nil (String.utf8EncodeChar_ne_nil (c := first))
        have least := high lead (encoded ▸ List.mem_cons_self)
        rw [encoded, List.cons_append, List.head?_cons, Option.some.injEq]
        constructor
        · rintro rfl
          rw [byte small] at least
          exact absurd small (Nat.not_lt.2 least)
        · rintro rfl
          exact absurd small (Nat.not_lt.2 large)

end TwoStack
