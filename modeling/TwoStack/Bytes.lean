import TwoStack.Word

/-!
# Words in byte sequences

Programs, program memory and frames are byte sequences.  A word occupies the window of four bytes
from its address, at any alignment.  `readWord?` and `writeWord?` succeed exactly when that window
lies inside the sequence; a word that cannot be written leaves nothing behind.
-/

namespace TwoStack

/-- A sequence of bytes; the index of a byte is its address. -/
abbrev Bytes := Array UInt8

namespace Bytes

/-- The word in the window that starts at `address`. -/
def readWord? (bytes : Bytes) (address : Nat) : Option Word :=
  if h : address + 4 ≤ bytes.size then
    some (Word.ofBytes bytes[address] bytes[address + 1] bytes[address + 2] bytes[address + 3])
  else
    none

/-- Stores the bytes of a word from `address` on; bytes that would fall outside are dropped. -/
def storeWord (bytes : Bytes) (address : Nat) (value : Word) : Bytes :=
  (((bytes.setIfInBounds address (value.byte 0)).setIfInBounds (address + 1) (value.byte 1)
    ).setIfInBounds (address + 2) (value.byte 2)).setIfInBounds (address + 3) (value.byte 3)

/-- Writes a word into the window that starts at `address`. -/
def writeWord? (bytes : Bytes) (address : Nat) (value : Word) : Option Bytes :=
  if address + 4 ≤ bytes.size then some (bytes.storeWord address value) else none

@[simp]
theorem size_storeWord (bytes : Bytes) (address : Nat) (value : Word) :
    (bytes.storeWord address value).size = bytes.size := by
  simp [storeWord]

/-- A stored word is seen in its window, and nothing else is. -/
theorem getElem?_storeWord (bytes : Bytes) (address : Nat) (value : Word) (i : Nat)
    (h : address + 4 ≤ bytes.size) :
    (bytes.storeWord address value)[i]? =
      if address ≤ i ∧ i < address + 4 then some (value.byte (i - address)) else bytes[i]? := by
  unfold storeWord
  simp only [Array.getElem?_setIfInBounds, Array.size_setIfInBounds]
  by_cases inside : address ≤ i ∧ i < address + 4
  · obtain ⟨k, hk, rfl⟩ : ∃ k, k < 4 ∧ i = address + k := ⟨i - address, by omega, by omega⟩
    rw [if_pos inside, Nat.add_sub_cancel_left]
    have : k = 0 ∨ k = 1 ∨ k = 2 ∨ k = 3 := by omega
    rcases this with rfl | rfl | rfl | rfl <;> simp <;> omega
  · have h₀ : address ≠ i := by omega
    have h₁ : address + 1 ≠ i := by omega
    have h₂ : address + 2 ≠ i := by omega
    have h₃ : address + 3 ≠ i := by omega
    simp only [if_neg inside, if_neg h₀, if_neg h₁, if_neg h₂, if_neg h₃]

/-- The window of a stored word reads back as that word. -/
theorem readWord?_storeWord (bytes : Bytes) (address : Nat) (value : Word)
    (h : address + 4 ≤ bytes.size) :
    (bytes.storeWord address value).readWord? address = some value := by
  have get (k : Nat) (hk : k < 4) (hi : address + k < (bytes.storeWord address value).size) :
      (bytes.storeWord address value)[address + k] = value.byte k := by
    have seen := getElem?_storeWord bytes address value (address + k) h
    rw [if_pos (by omega), Nat.add_sub_cancel_left] at seen
    exact (Array.getElem?_eq_some_iff.1 seen).2
  have h₀ := get 0 (by omega) (by simp; omega)
  have h₁ := get 1 (by omega) (by simp; omega)
  have h₂ := get 2 (by omega) (by simp; omega)
  have h₃ := get 3 (by omega) (by simp; omega)
  rw [readWord?, dif_pos (by simpa using h), h₁, h₂, h₃]
  simp only [Nat.add_zero] at h₀
  rw [h₀, Word.ofBytes_byte]

theorem isSome_readWord? (bytes : Bytes) (address : Nat) :
    (bytes.readWord? address).isSome = decide (address + 4 ≤ bytes.size) := by
  unfold readWord?
  split <;> simp_all

end Bytes

end TwoStack
