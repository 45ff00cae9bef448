import TwoStack.Opcode

/-!
# Keywords

The keywords of source text are the mnemonics of the instructions and `CALL`, which stands for four
instructions.  Two of them, `PUSH` and `CALL`, are followed by an operand.  No keyword can name a
label.
-/

namespace TwoStack

/-- The keywords that are followed by an operand. -/
inductive OperandKeyword where
  | push
  | call
  deriving DecidableEq, Repr

/-- The keywords of source text. -/
inductive Keyword where
  /-- An instruction without operand. -/
  | plain (opcode : Opcode)
  | operand (keyword : OperandKeyword)
  deriving DecidableEq, Repr

namespace OperandKeyword

/-- A keyword as it is written. -/
def name : OperandKeyword → String
  | push => Opcode.push.mnemonic
  | call => "CALL"

end OperandKeyword

namespace Keyword

/-- A keyword as it is written. -/
def name : Keyword → String
  | plain opcode => opcode.mnemonic
  | operand keyword => keyword.name

/-- The keyword of an instruction. -/
def ofOpcode : Opcode → Keyword
  | .push => operand .push
  | opcode => plain opcode

/-- The keyword that is written in a given way; upper and lower case differ. -/
def ofName? (name : String) : Option Keyword :=
  match Opcode.ofMnemonic? name with
  | some opcode => some (ofOpcode opcode)
  | none => if name = OperandKeyword.call.name then some (operand .call) else none

/-- Whether an operand follows a keyword. -/
def takesOperand : Keyword → Bool
  | plain _ => false
  | operand _ => true

end Keyword

/-- Whether a word cannot name a label. -/
def isReserved (name : String) : Bool := (Keyword.ofName? name).isSome

end TwoStack
