import TwoStack.Display
import TwoStack.Fault

/-!
# Program memory

Memory is 16384 bytes.  It holds the program from address `0` on, any data the program keeps, and
the frame buffer at its upper end.  Addresses come off the stacks as integers of any sign and pass
through `codeAddress` (a byte is there) or `wordAddress` (four bytes are there) before they are used.
-/

namespace TwoStack

/-- The number of bytes of program memory, and the size of the largest program. -/
def memorySize : Nat := 16384

/-- The address of the first pixel of the frame buffer. -/
def frameStart : Nat := memorySize - Frame.size

/-- Program memory: exactly `memorySize` bytes. -/
structure Memory where
  bytes : Bytes
  size_bytes : bytes.size = memorySize

namespace Memory

/-- Memory that begins with the given bytes and is zero after them; bytes beyond its end are not
loaded. -/
def ofBytes (program : Bytes) : Memory :=
  ⟨program.extract 0 memorySize ++ Array.replicate (memorySize - program.size) 0, by
    simp only [Array.size_append, Array.size_extract, Array.size_replicate]
    omega⟩

/-- The word at an address. -/
def readWord? (memory : Memory) (address : Nat) : Option Word := memory.bytes.readWord? address

/-- Stores a word; bytes that would fall outside memory are dropped. -/
def storeWord (memory : Memory) (address : Nat) (value : Word) : Memory :=
  ⟨memory.bytes.storeWord address value, by simp [memory.size_bytes]⟩

/-- Stores a word whose window lies inside memory. -/
def writeWord? (memory : Memory) (address : Nat) (value : Word) : Option Memory :=
  if address + 4 ≤ memorySize then some (memory.storeWord address value) else none

theorem writeWord?_of_fits (memory : Memory) {address : Nat} (fits : address + 4 ≤ memorySize)
    (value : Word) : memory.writeWord? address value = some (memory.storeWord address value) :=
  if_pos fits

/-- The frame buffer as it is now. -/
def frame (memory : Memory) : Frame :=
  ⟨memory.bytes.extract frameStart memorySize, by
    simp only [Array.size_extract, memory.size_bytes]
    rfl⟩

end Memory

/-- Accepts the address of a byte of memory. -/
def codeAddress (address : Int) : Except FaultCode Nat :=
  if 0 ≤ address ∧ address < memorySize then .ok address.toNat
  else .error (.addressOutOfBounds address)

/-- Accepts the address of a word that lies inside memory. -/
def wordAddress (address : Int) : Except FaultCode Nat :=
  if 0 ≤ address ∧ address + 4 ≤ memorySize then .ok address.toNat
  else .error (.addressOutOfBounds address)

theorem eq_of_wordAddress {address : Int} {place : Nat} (inside : wordAddress address = .ok place) :
    place = address.toNat ∧ place + 4 ≤ memorySize := by
  unfold wordAddress at inside
  split at inside
  · cases inside
    omega
  · cases inside

end TwoStack
