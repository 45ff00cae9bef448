import TwoStack.Word

/-!
# Arithmetic on words

The operations that the machine computes from one or two words.  Of two operands the first, `x`, lies
deeper in the stack and the second, `y`, on top.
-/

namespace TwoStack

/-- The operations on two words. -/
inductive BinaryOp where
  | add
  | sub
  | shl
  | shr
  | and
  | or
  | xor
  deriving DecidableEq, Repr

/-- The operations on one word. -/
inductive UnaryOp where
  | neg
  | not
  deriving DecidableEq, Repr

namespace BinaryOp

/-- The result of an operation on two words. -/
def apply : BinaryOp → Word → Word → Word
  | add, x, y => x + y
  | sub, x, y => x - y
  | shl, x, y => Word.shiftLeft x y
  | shr, x, y => Word.shiftRight x y
  | and, x, y => x &&& y
  | or, x, y => x ||| y
  | xor, x, y => x ^^^ y

end BinaryOp

namespace UnaryOp

/-- The result of an operation on one word. -/
def apply : UnaryOp → Word → Word
  | neg, x => -x
  | not, x => ~~~x

end UnaryOp

end TwoStack
