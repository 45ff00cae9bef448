import TwoStack.Proofs.Instruction.Encoding
import TwoStack.Stack

/-!
# Counting below a limit

Places, depths and sizes are natural numbers, so no sum of them is too large.  A register of 64 bits
holds the numbers below a limit only, and a sum that it does not hold gives no answer.

The answers are the same with registers.  What a stack is asked for takes sums that stay below the
limit (`Stack.peekCounted?_eq`, `Stack.hasRoomCounted?_eq`).  The window of a word may begin so
close to the limit that its end is not held, but then it sticks out of all bytes whose size is below
the limit (`Bytes.readWordCounted?_eq`, `Bytes.writeWordCounted?_eq`).
-/

namespace TwoStack

/-- A sum in a register that holds the numbers below a limit. -/
def sumBelow? (limit a b : Nat) : Option Nat := if a + b < limit then some (a + b) else none

theorem sumBelow?_of_lt {limit a b : Nat} (small : a + b < limit) :
    sumBelow? limit a b = some (a + b) :=
  if_pos small

theorem sumBelow?_of_le {limit a b : Nat} (large : limit ≤ a + b) : sumBelow? limit a b = none :=
  if_neg (Nat.not_lt.2 large)

/-- A sum that is compared with a size below the limit may be counted: where the register does not
hold it, the comparison fails anyway. -/
theorem sumBelow?_bind_ite {β : Type} {limit size : Nat} (small : size < limit) (a b : Nat)
    (found : Nat → Option β) :
    ((sumBelow? limit a b).bind fun sum => if sum ≤ size then found sum else none) =
      if a + b ≤ size then found (a + b) else none := by
  rcases Nat.lt_or_ge (a + b) limit with held | lost
  · rw [sumBelow?_of_lt held, Option.bind_some]
  · rw [sumBelow?_of_le lost, Option.bind_none, if_neg (by omega)]

/-! ## Stacks -/

namespace Stack

variable {α : Type}

/-- The entry below the top, where its place is counted in registers. -/
def peekCounted? (limit : Nat) (stack : Stack α) (below : Nat) : Option (Option α) :=
  (sumBelow? limit below 1).map fun reach =>
    if reach ≤ stack.depth then stack.entries[stack.depth - reach]? else none

/-- Whether there is room, where the entries are counted in registers. -/
def hasRoomCounted? (limit : Nat) (stack : Stack α) (pops count : Nat) : Option Bool :=
  (sumBelow? limit (stack.depth - pops) count).map fun total => decide (total ≤ stack.capacity)

theorem peekCounted?_eq {limit below : Nat} (small : below + 1 < limit) (stack : Stack α) :
    stack.peekCounted? limit below = some (stack.peek? below) := by
  rw [peekCounted?, sumBelow?_of_lt small, Option.map_some, peek?, Nat.sub_sub, Nat.add_comm 1]
  rfl

theorem hasRoomCounted?_eq {limit count : Nat} {stack : Stack α}
    (small : stack.capacity + count < limit) (pops : Nat) :
    stack.hasRoomCounted? limit pops count = some (stack.hasRoom pops count) := by
  have fits : stack.depth - pops + count < limit := by
    have := stack.size_le
    unfold depth
    omega
  rw [hasRoomCounted?, sumBelow?_of_lt fits, Option.map_some]
  rfl

end Stack

/-! ## Windows of words -/

namespace Bytes

/-- The word in a window that is cut out of the bytes, where the end of the window is counted in a
register. -/
def readWordCounted? (limit : Nat) (bytes : Bytes) (address : Nat) : Option Word :=
  (sumBelow? limit address 4).bind fun stop =>
    if stop ≤ bytes.size then readWord? (bytes.extract address stop) 0 else none

/-- The bytes with those of a word in place of a window, where the end of the window is counted in a
register. -/
def writeWordCounted? (limit : Nat) (bytes : Bytes) (address : Nat) (value : Word) : Option Bytes :=
  (sumBelow? limit address 4).bind fun stop =>
    if stop ≤ bytes.size then
      some (bytes.extract 0 address ++ value.toBytes ++ bytes.extract stop bytes.size)
    else none

section Windows

variable {bytes : Bytes} {address : Nat}

/-- A window that is cut out holds the word that it held among the other bytes. -/
theorem readWord?_extract (fits : address + 4 ≤ bytes.size) :
    readWord? (bytes.extract address (address + 4)) 0 = bytes.readWord? address := by
  refine Option.ext fun word => ?_
  rw [readWord?_eq_some_iff, readWord?_eq_some_iff]
  refine forall₂_congr fun k inside => ?_
  rw [Word.size] at inside
  rw [Nat.zero_add, Array.getElem?_extract, if_pos (by omega)]

/-- A stored word stands between the bytes in front of its window and those behind it. -/
theorem extract_append_toBytes_append_extract (fits : address + 4 ≤ bytes.size) (value : Word) :
    bytes.extract 0 address ++ value.toBytes ++ bytes.extract (address + 4) bytes.size =
      bytes.storeWord address value := by
  have front : (bytes.extract 0 address).size = address := by
    rw [Array.size_extract]
    omega
  have through : (bytes.extract 0 address ++ value.toBytes).size = address + 4 := by
    rw [Array.size_append, front]
    rfl
  apply Array.ext_getElem?
  intro place
  rw [getElem?_storeWord _ _ _ _ fits]
  rcases Nat.lt_or_ge place address with before | begun
  · rw [if_neg (by omega), Array.getElem?_append_left (by omega),
      Array.getElem?_append_left (by omega), Array.getElem?_extract, if_pos (by omega),
      Nat.zero_add]
  · rcases Nat.lt_or_ge place (address + 4) with within | behind
    · have inside : place - address < Word.size := by
        rw [Word.size]
        omega
      have byte := value.getElem?_toBytes inside
      rw [if_pos ⟨begun, within⟩, Array.getElem?_append_left (by omega),
        Array.getElem?_append_right (by omega), front, ← byte, Array.getElem?_toList]
    · rw [if_neg (by omega), Array.getElem?_append_right (by omega), through,
        Array.getElem?_extract, Nat.add_sub_cancel' behind, Nat.min_self]
      split
      · rfl
      · rw [Array.getElem?_eq_none (by omega)]

theorem readWordCounted?_eq {limit : Nat} (small : bytes.size < limit) (address : Nat) :
    bytes.readWordCounted? limit address = bytes.readWord? address := by
  rw [readWordCounted?, sumBelow?_bind_ite small]
  split
  · next fits => exact readWord?_extract fits
  · next sticksOut => rw [readWord?, dif_neg sticksOut]

theorem writeWordCounted?_eq {limit : Nat} (small : bytes.size < limit) (address : Nat)
    (value : Word) :
    bytes.writeWordCounted? limit address value = bytes.writeWord? address value := by
  rw [writeWordCounted?, sumBelow?_bind_ite small, writeWord?]
  split
  · next fits => rw [extract_append_toBytes_append_extract fits]
  · rfl

end Windows

end Bytes

end TwoStack
