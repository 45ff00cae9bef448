import TwoStack.Memory

/-!
# Program images

A program image is a byte sequence that fits in memory.  It has no header: the first byte is an
opcode, and the index of a byte is its address.
-/

namespace TwoStack

/-- A program that fits in memory. -/
structure Image where
  bytes : Bytes
  size_le : bytes.size ≤ memorySize

/-- The size of a program that does not fit in memory. -/
structure ImageTooLarge where
  size : Nat
  deriving DecidableEq, Repr

namespace ImageTooLarge

/-- The wording of the refusal. -/
def message (error : ImageTooLarge) : String :=
  s!"program image is {error.size} bytes, maximum is {memorySize} bytes"

end ImageTooLarge

namespace Image

/-- Accepts the bytes of a program that fits in memory. -/
def ofBytes (bytes : Bytes) : Except ImageTooLarge Image :=
  if h : bytes.size ≤ memorySize then .ok ⟨bytes, h⟩ else .error ⟨bytes.size⟩

/-- The number of bytes of a program. -/
def size (image : Image) : Nat := image.bytes.size

end Image

end TwoStack
