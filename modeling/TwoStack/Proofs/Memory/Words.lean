import TwoStack.Memory
import TwoStack.Proofs.Word.Counting

/-!
# Reading and writing words

A word may stand at any place of a byte sequence, so the windows of two words may overlap.
`Bytes.Words` says what reading and writing come to at any two places: when they succeed, which
integer the bytes of a window denote, which bytes a write leaves alone, what is then read at places
that overlap the window, and how two writes go together.  Places are natural numbers of any size,
and the end of a window is never taken modulo anything.  Reading and writing come to the same where
the end is counted in 64 bits, also at places so large that it cannot be.

The two checks of addresses let through exactly those integers at which program memory has a byte or
a word (`Memory.codeAddress_checksFor`, `Memory.wordAddress_checksFor`).
-/

namespace TwoStack

/-! ## The laws -/

/-- The bytes as they are after an attempt to write a word. -/
def Bytes.written (bytes : Bytes) (address : Nat) (value : Word) : Bytes :=
  (bytes.writeWord? address value).getD bytes

/-- The byte at a place when the bytes of a word lie over a sequence. -/
def Bytes.overlaid? (bytes : Bytes) (address : Nat) (value : Word) (place : Nat) : Option UInt8 :=
  if address ≤ place ∧ place < address + 4 then some (value.byte (place - address))
  else bytes[place]?

/-- The word at a place when the bytes of another word lie over a sequence. -/
def Bytes.mixed? (bytes : Bytes) (address : Nat) (value : Word) (place : Nat) : Option Word := do
  let b₀ ← bytes.overlaid? address value place
  let b₁ ← bytes.overlaid? address value (place + 1)
  let b₂ ← bytes.overlaid? address value (place + 2)
  let b₃ ← bytes.overlaid? address value (place + 3)
  return Word.ofBytes b₀ b₁ b₂ b₃

/-- The integer that four bytes denote in two's complement, most significant first: the first byte
counts with its sign. -/
def signedBigEndian (b₀ b₁ b₂ b₃ : UInt8) : Int :=
  ((b₀.toInt8.toInt * 256 + b₁.toNat) * 256 + b₂.toNat) * 256 + b₃.toNat

/-- What reading and writing a word at `a` come to, and how they go together with reading and
writing another one at `b`. -/
structure Bytes.Words (bytes : Bytes) (a b : Nat) (v w : Word) : Prop where
  writable : (bytes.writeWord? a v).isSome ↔ a + 4 ≤ bytes.size
  readable : (bytes.readWord? a).isSome ↔ a + 4 ≤ bytes.size
  denotes : bytes.readWord? a = some v ↔ ∃ b₀ b₁ b₂ b₃, bytes[a]? = some b₀ ∧
    bytes[a + 1]? = some b₁ ∧ bytes[a + 2]? = some b₂ ∧ bytes[a + 3]? = some b₃ ∧
    v.toInt = signedBigEndian b₀ b₁ b₂ b₃
  failed : bytes.writeWord? a v = none → bytes.written a v = bytes
  size : (bytes.written a v).size = bytes.size
  elsewhere : ∀ place, ¬(a ≤ place ∧ place < a + 4) → (bytes.written a v)[place]? = bytes[place]?
  there : a + 4 ≤ bytes.size → (bytes.written a v).readWord? a = some v
  /-- At a distance below four, and at any other, a word is read that is mixed from the written
  bytes and those that were there. -/
  overlap : a + 4 ≤ bytes.size → (bytes.written a v).readWord? b = bytes.mixed? a v b
  /-- Writing back what was read changes nothing. -/
  restores : bytes.readWord? a = some v → bytes.writeWord? a v = some bytes
  /-- Of two writes at one place the second one counts. -/
  overrides : ((bytes.writeWord? a v).bind fun once => once.writeWord? a w) = bytes.writeWord? a w
  /-- Writes whose windows are apart may change places, be they successful or not. -/
  commutes : a + 4 ≤ b ∨ b + 4 ≤ a →
    ((bytes.writeWord? a v).bind fun once => once.writeWord? b w) =
        ((bytes.writeWord? b w).bind fun once => once.writeWord? a v) ∧
      (bytes.written a v).written b w = (bytes.written b w).written a v
  /-- A register of 64 bits that does not hold the end of a window makes no difference. -/
  readCounted : bytes.size < 18446744073709551616 →
    bytes.readWordCounted? 18446744073709551616 a = bytes.readWord? a
  writeCounted : bytes.size < 18446744073709551616 →
    bytes.writeWordCounted? 18446744073709551616 a v = bytes.writeWord? a v

/-- A check of addresses lets through those integers, as they are, at which something is there, and
reports every other one. -/
structure ChecksFor (check : Int → Except FaultCode Nat) (there : Nat → Prop) : Prop where
  accepted : ∀ address place, check address = .ok place ↔ (place : Int) = address ∧ there place
  refused : ∀ address code, check address = .error code ↔ code = .addressOutOfBounds address ∧
    ∀ place : Nat, (place : Int) = address → ¬there place

/-! ## Windows -/

theorem Word.toInt_eq_bits (word : Word) :
    word.toInt = if word.bits < 2147483648 then (word.bits : Int) else word.bits - 4294967296 := by
  have signed : word.toInt = (BitVec.toInt word.toBitVec) := rfl
  have bits : word.bits = word.toBitVec.toNat := rfl
  rw [signed, BitVec.toInt_eq_toNat_cond, ← bits]
  split <;> split <;> omega

theorem toInt_toInt8 (byte : UInt8) :
    byte.toInt8.toInt = if byte.toNat < 128 then (byte.toNat : Int) else byte.toNat - 256 := by
  have signed : byte.toInt8.toInt = (BitVec.toInt byte.toBitVec) := rfl
  have bits : byte.toNat = byte.toBitVec.toNat := rfl
  rw [signed, BitVec.toInt_eq_toNat_cond, ← bits]
  split <;> split <;> omega

/-- The word that four bytes denote, as an integer. -/
theorem Word.toInt_ofBytes (b₀ b₁ b₂ b₃ : UInt8) :
    (Word.ofBytes b₀ b₁ b₂ b₃).toInt = signedBigEndian b₀ b₁ b₂ b₃ := by
  have h₁ := b₁.toNat_lt
  have h₂ := b₂.toNat_lt
  have h₃ := b₃.toNat_lt
  rw [Word.toInt_eq_bits, Word.bits_ofBytes, signedBigEndian, toInt_toInt8]
  split <;> split <;> omega

namespace Bytes

variable {bytes : Bytes} {a b place : Nat} {v w : Word}

/-- A word is read byte by byte. -/
theorem readWord?_eq_bind (bytes : Bytes) (place : Nat) :
    bytes.readWord? place = do
      let b₀ ← bytes[place]?
      let b₁ ← bytes[place + 1]?
      let b₂ ← bytes[place + 2]?
      let b₃ ← bytes[place + 3]?
      return Word.ofBytes b₀ b₁ b₂ b₃ := by
  rw [readWord?]
  split
  · next fits =>
      rw [Array.getElem?_eq_getElem (show place < bytes.size by omega),
        Array.getElem?_eq_getElem (show place + 1 < bytes.size by omega),
        Array.getElem?_eq_getElem (show place + 2 < bytes.size by omega),
        Array.getElem?_eq_getElem (show place + 3 < bytes.size by omega)]
      rfl
  · next sticksOut =>
      rw [Array.getElem?_eq_none (show bytes.size ≤ place + 3 by omega)]
      simp

theorem isSome_readWord?_iff : (bytes.readWord? a).isSome ↔ a + 4 ≤ bytes.size := by
  rw [isSome_readWord?, decide_eq_true_iff]

theorem readWord?_eq_some_iff_denotes :
    bytes.readWord? a = some v ↔ ∃ b₀ b₁ b₂ b₃, bytes[a]? = some b₀ ∧
      bytes[a + 1]? = some b₁ ∧ bytes[a + 2]? = some b₂ ∧ bytes[a + 3]? = some b₃ ∧
      v.toInt = signedBigEndian b₀ b₁ b₂ b₃ := by
  rw [readWord?_eq_bind]
  simp only [Option.bind_eq_bind, Option.bind_eq_some_iff, Option.pure_def, Option.some.injEq]
  constructor
  · rintro ⟨b₀, h₀, b₁, h₁, b₂, h₂, b₃, h₃, rfl⟩
    exact ⟨b₀, b₁, b₂, b₃, h₀, h₁, h₂, h₃, Word.toInt_ofBytes b₀ b₁ b₂ b₃⟩
  · rintro ⟨b₀, b₁, b₂, b₃, h₀, h₁, h₂, h₃, same⟩
    refine ⟨b₀, h₀, b₁, h₁, b₂, h₂, b₃, h₃, ?_⟩
    rw [← Int32.toInt_inj, Word.toInt_ofBytes, same]

theorem writeWord?_of_fits (fits : a + 4 ≤ bytes.size) (v : Word) :
    bytes.writeWord? a v = some (bytes.storeWord a v) :=
  if_pos fits

theorem isSome_writeWord?_iff : (bytes.writeWord? a v).isSome ↔ a + 4 ≤ bytes.size := by
  rw [writeWord?]
  split
  · next fits => exact iff_of_true rfl fits
  · next sticksOut => exact iff_of_false Bool.false_ne_true sticksOut

theorem writeWord?_of_sticksOut (sticksOut : ¬a + 4 ≤ bytes.size) (v : Word) :
    bytes.writeWord? a v = none :=
  if_neg sticksOut

theorem written_of_fits (fits : a + 4 ≤ bytes.size) (v : Word) :
    bytes.written a v = bytes.storeWord a v := by
  rw [written, writeWord?_of_fits fits, Option.getD_some]

theorem written_of_sticksOut (sticksOut : ¬a + 4 ≤ bytes.size) (v : Word) :
    bytes.written a v = bytes := by
  rw [written, writeWord?_of_sticksOut sticksOut, Option.getD_none]

theorem size_written (bytes : Bytes) (a : Nat) (v : Word) :
    (bytes.written a v).size = bytes.size := by
  by_cases fits : a + 4 ≤ bytes.size
  · rw [written_of_fits fits, size_storeWord]
  · rw [written_of_sticksOut fits]

theorem getElem?_storeWord_eq_overlaid? (fits : a + 4 ≤ bytes.size) (v : Word) (place : Nat) :
    (bytes.storeWord a v)[place]? = bytes.overlaid? a v place := by
  rw [getElem?_storeWord _ _ _ _ fits, overlaid?]

/-- A write leaves alone what lies outside its window. -/
theorem getElem?_written_of_outside (outside : ¬(a ≤ place ∧ place < a + 4)) (v : Word) :
    (bytes.written a v)[place]? = bytes[place]? := by
  by_cases fits : a + 4 ≤ bytes.size
  · rw [written_of_fits fits, getElem?_storeWord_eq_overlaid? fits, overlaid?, if_neg outside]
  · rw [written_of_sticksOut fits]

theorem readWord?_storeWord_eq_mixed? (fits : a + 4 ≤ bytes.size) (v : Word) (b : Nat) :
    (bytes.storeWord a v).readWord? b = bytes.mixed? a v b := by
  rw [readWord?_eq_bind, mixed?]
  simp only [getElem?_storeWord_eq_overlaid? fits]

/-! ## Two writes -/

/-- Storing what was read changes nothing. -/
theorem storeWord_of_read (read : bytes.readWord? a = some v) : bytes.storeWord a v = bytes := by
  have fits : a + 4 ≤ bytes.size := isSome_readWord?_iff.1 (Option.isSome_of_eq_some read)
  apply Array.ext_getElem?
  intro place
  rw [getElem?_storeWord _ _ _ _ fits]
  split
  · next inside =>
      have found := readWord?_eq_some_iff.1 read (place - a) (by rw [Word.size]; omega)
      rw [Nat.add_sub_cancel' inside.1] at found
      exact found.symm
  · rfl

theorem storeWord_storeWord (fits : a + 4 ≤ bytes.size) (v w : Word) :
    (bytes.storeWord a v).storeWord a w = bytes.storeWord a w := by
  apply Array.ext_getElem?
  intro place
  rw [getElem?_storeWord _ _ _ _ (by rwa [size_storeWord]), getElem?_storeWord _ _ _ _ fits,
    getElem?_storeWord _ _ _ _ fits]
  split <;> rfl

theorem storeWord_comm (fitsA : a + 4 ≤ bytes.size) (fitsB : b + 4 ≤ bytes.size)
    (apart : a + 4 ≤ b ∨ b + 4 ≤ a) (v w : Word) :
    (bytes.storeWord a v).storeWord b w = (bytes.storeWord b w).storeWord a v := by
  apply Array.ext_getElem?
  intro place
  rw [getElem?_storeWord _ _ _ _ (by rwa [size_storeWord]), getElem?_storeWord _ _ _ _ fitsA,
    getElem?_storeWord _ _ _ _ (by rwa [size_storeWord]), getElem?_storeWord _ _ _ _ fitsB]
  by_cases insideA : a ≤ place ∧ place < a + 4
  · rw [if_pos insideA, if_neg (by omega), if_pos insideA]
  · rw [if_neg insideA, if_neg insideA]

theorem writeWord?_writeWord? (bytes : Bytes) (a : Nat) (v w : Word) :
    ((bytes.writeWord? a v).bind fun once => once.writeWord? a w) = bytes.writeWord? a w := by
  by_cases fits : a + 4 ≤ bytes.size
  · rw [writeWord?_of_fits fits, Option.bind_some, writeWord?_of_fits (by rwa [size_storeWord]),
      storeWord_storeWord fits, writeWord?_of_fits fits]
  · rw [writeWord?_of_sticksOut fits, writeWord?_of_sticksOut fits, Option.bind_none]

theorem writeWord?_comm (apart : a + 4 ≤ b ∨ b + 4 ≤ a) (bytes : Bytes) (v w : Word) :
    ((bytes.writeWord? a v).bind fun once => once.writeWord? b w) =
      (bytes.writeWord? b w).bind fun once => once.writeWord? a v := by
  by_cases fitsA : a + 4 ≤ bytes.size
  · rw [writeWord?_of_fits fitsA, Option.bind_some]
    by_cases fitsB : b + 4 ≤ bytes.size
    · rw [writeWord?_of_fits (by rwa [size_storeWord]), writeWord?_of_fits fitsB,
        Option.bind_some, writeWord?_of_fits (by rwa [size_storeWord]),
        storeWord_comm fitsA fitsB apart]
    · rw [writeWord?_of_sticksOut (by rwa [size_storeWord]), writeWord?_of_sticksOut fitsB,
        Option.bind_none]
  · rw [writeWord?_of_sticksOut fitsA, Option.bind_none]
    by_cases fitsB : b + 4 ≤ bytes.size
    · rw [writeWord?_of_fits fitsB, Option.bind_some,
        writeWord?_of_sticksOut (by rwa [size_storeWord])]
    · rw [writeWord?_of_sticksOut fitsB, Option.bind_none]

theorem written_comm (apart : a + 4 ≤ b ∨ b + 4 ≤ a) (bytes : Bytes) (v w : Word) :
    (bytes.written a v).written b w = (bytes.written b w).written a v := by
  by_cases fitsA : a + 4 ≤ bytes.size
  · rw [written_of_fits fitsA]
    by_cases fitsB : b + 4 ≤ bytes.size
    · rw [written_of_fits (by rwa [size_storeWord]), written_of_fits fitsB,
        written_of_fits (by rwa [size_storeWord]), storeWord_comm fitsA fitsB apart]
    · rw [written_of_sticksOut (by rwa [size_storeWord]), written_of_sticksOut fitsB,
        written_of_fits fitsA]
  · have sticksOut : ¬a + 4 ≤ (bytes.written b w).size := by rwa [size_written]
    rw [written_of_sticksOut fitsA, written_of_sticksOut sticksOut]

end Bytes

/-! ## Addresses -/

/-- A check that asks for an address at which something is there. -/
theorem ChecksFor.of_ite {asked : Int → Prop} [DecidablePred asked] {there : Nat → Prop}
    (asks : ∀ address, asked address ↔ 0 ≤ address ∧ there address.toNat) :
    ChecksFor (fun address =>
      if asked address then .ok address.toNat else .error (.addressOutOfBounds address)) there where
  accepted address place := by
    split
    · next granted =>
        obtain ⟨nonnegative, found⟩ := (asks address).1 granted
        rw [Except.ok.injEq]
        constructor
        · rintro rfl
          exact ⟨Int.toNat_of_nonneg nonnegative, found⟩
        · rintro ⟨rfl, _⟩
          exact Int.toNat_natCast place
    · next denied =>
        refine ⟨nofun, ?_⟩
        rintro ⟨rfl, found⟩
        exact absurd ((asks place).2 ⟨Int.natCast_nonneg place, found⟩) denied
  refused address code := by
    split
    · next granted =>
        obtain ⟨nonnegative, found⟩ := (asks address).1 granted
        refine ⟨nofun, fun missing => ?_⟩
        exact absurd found (missing.2 _ (Int.toNat_of_nonneg nonnegative))
    · next denied =>
        rw [Except.error.injEq]
        refine ⟨fun same => ⟨same.symm, ?_⟩, fun missing => missing.1.symm⟩
        rintro place rfl found
        exact denied ((asks place).2 ⟨Int.natCast_nonneg place, found⟩)

theorem Memory.isSome_readWord?_iff (memory : Memory) (place : Nat) :
    (memory.readWord? place).isSome ↔ place + 4 ≤ memorySize := by
  rw [Memory.readWord?, Bytes.isSome_readWord?_iff, memory.size_bytes]

theorem Memory.isSome_byte?_iff (memory : Memory) (place : Nat) :
    (memory.bytes[place]?).isSome ↔ place < memorySize := by
  rw [← memory.size_bytes]
  simp

/-- The address of a word is accepted exactly if a word can be read there. -/
theorem Memory.wordAddress_checksFor (memory : Memory) :
    ChecksFor wordAddress fun place => (memory.readWord? place).isSome := by
  refine ChecksFor.of_ite fun address => ?_
  rw [memory.isSome_readWord?_iff]
  omega

theorem Memory.codeAddress_checksFor (memory : Memory) :
    ChecksFor codeAddress fun place => (memory.bytes[place]?).isSome := by
  refine ChecksFor.of_ite fun address => ?_
  rw [memory.isSome_byte?_iff]
  omega

/-- Program memory writes a word as its bytes do. -/
theorem Memory.map_bytes_writeWord? (memory : Memory) (address : Nat) (value : Word) :
    (memory.writeWord? address value).map Memory.bytes =
      memory.bytes.writeWord? address value := by
  rw [Memory.writeWord?, Bytes.writeWord?, memory.size_bytes]
  split
  · rfl
  · rfl

/-- Words in any bytes, at any two places, obey the laws of reading and writing; program memory has
the words of its bytes, and the checks of addresses ask for nothing but a word or a byte there. -/
theorem word_access (bytes : Bytes) (a b : Nat) (v w : Word) (memory : Memory) :
    bytes.Words a b v w ∧
      memory.readWord? a = memory.bytes.readWord? a ∧
      (memory.writeWord? a v).map Memory.bytes = memory.bytes.writeWord? a v ∧
      (ChecksFor wordAddress fun place => (memory.readWord? place).isSome) ∧
      ChecksFor codeAddress fun place => (memory.bytes[place]?).isSome := by
  refine ⟨?_, rfl, memory.map_bytes_writeWord? a v, memory.wordAddress_checksFor,
    memory.codeAddress_checksFor⟩
  exact
    { writable := Bytes.isSome_writeWord?_iff
      readable := Bytes.isSome_readWord?_iff
      denotes := Bytes.readWord?_eq_some_iff_denotes
      failed := fun failed => by rw [Bytes.written, failed, Option.getD_none]
      size := Bytes.size_written bytes a v
      elsewhere := fun _ outside => Bytes.getElem?_written_of_outside outside v
      there := fun fits => by
        rw [Bytes.written_of_fits fits]
        exact Bytes.readWord?_storeWord bytes a v fits
      overlap := fun fits => by
        rw [Bytes.written_of_fits fits]
        exact Bytes.readWord?_storeWord_eq_mixed? fits v b
      restores := fun read => by
        have fits := Bytes.isSome_readWord?_iff.1 (Option.isSome_of_eq_some read)
        rw [Bytes.writeWord?_of_fits fits, Bytes.storeWord_of_read read]
      overrides := Bytes.writeWord?_writeWord? bytes a v w
      commutes := fun apart =>
        ⟨Bytes.writeWord?_comm apart bytes v w, Bytes.written_comm apart bytes v w⟩
      readCounted := fun small => Bytes.readWordCounted?_eq small a
      writeCounted := fun small => Bytes.writeWordCounted?_eq small a v }

end TwoStack
