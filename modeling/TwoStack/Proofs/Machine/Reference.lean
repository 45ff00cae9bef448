import TwoStack.Proofs.Machine.Reachable

/-!
# A one-phase interpreter

`Machine.step` looks at the operands, checks everything, and commits in the end.  The interpreter
here has no such phases: `Reference.execute` takes each operand off its stack when it needs it,
puts results back at once, and stops at the first check that fails, with whatever it has done so
far.  Its stacks are plain lists, and every primitive makes its own check.

The lemmas `run_…` say what each primitive does to given registers and a given console, and how the
computation goes on after it.
-/

namespace TwoStack

/-- What instructions work on; the stacks are listed from the top. -/
structure Registers where
  memory : Memory
  data : List Word
  returns : List Nat
  ip : Nat
  halted : Bool
  /-- The limits of the stacks. -/
  config : Config

/-- A machine as the one-phase interpreter sees it. -/
def Machine.registers (machine : Machine) : Registers :=
  { memory := machine.memory
    data := machine.data.topFirst
    returns := machine.returns.topFirst
    ip := machine.ip
    halted := decide (machine.status = .halted)
    config := machine.config }

namespace Reference

variable {σ : Type}

/-- Computations that change the registers as they go.  The first check that fails ends them; what
the console has become by then is kept. -/
abbrev Exec (σ : Type) := StateT Registers (ExceptT FaultCode (StateM σ))

/-! ## Primitives -/

/-- Ends the computation unless a condition holds. -/
def require (condition : Prop) [Decidable condition] (code : FaultCode) : Exec σ Unit :=
  if condition then pure () else throw code

def popWord : Exec σ Word := do
  match (← get).data with
  | [] => throw .dataStackUnderflow
  | word :: rest =>
    modify fun registers => { registers with data := rest }
    return word

def requireDataRoom : Exec σ Unit := do
  let registers ← get
  require (registers.data.length < registers.config.dataCapacity) .stackOverflow

def pushWord (word : Word) : Exec σ Unit := do
  requireDataRoom
  modify fun registers => { registers with data := word :: registers.data }

def popReturn : Exec σ Nat := do
  match (← get).returns with
  | [] => throw .instructionStackUnderflow
  | address :: rest =>
    modify fun registers => { registers with returns := rest }
    return address

def pushReturn (address : Nat) : Exec σ Unit := do
  let registers ← get
  require (registers.returns.length < registers.config.returnCapacity) .stackOverflow
  modify fun registers => { registers with returns := address :: registers.returns }

/-- Checks that a byte of memory has this address. -/
def requireCode (address : Int) : Exec σ Nat := do
  require (0 ≤ address ∧ address < memorySize) (.addressOutOfBounds address)
  return address.toNat

def jump (target : Nat) : Exec σ Unit :=
  modify fun registers => { registers with ip := target }

/-- The word at an address, if memory has one there. -/
def load (address : Int) : Exec σ Word := do
  require (0 ≤ address) (.addressOutOfBounds address)
  match (← get).memory.readWord? address.toNat with
  | some word => return word
  | none => throw (.addressOutOfBounds address)

/-- Stores a word at an address, if memory has room for it there. -/
def store (address : Int) (word : Word) : Exec σ Unit := do
  require (0 ≤ address) (.addressOutOfBounds address)
  match (← get).memory.writeWord? address.toNat word with
  | some memory => modify fun registers => { registers with memory }
  | none => throw (.addressOutOfBounds address)

def readConsole [Console σ] : Exec σ Word := fun registers console =>
  match Console.read console with
  | (.ok word, console) => (.ok (word, registers), console)
  | (.error _, console) => (.error .malformedInput, console)

def writeConsole [Console σ] (word : Word) : Exec σ Unit := fun registers console =>
  match Console.write console word with
  | (.ok (), console) => (.ok ((), registers), console)
  | (.error _, console) => (.error .outputFailed, console)

/-! ## Instructions -/

/-- What an instruction does once the instruction pointer is behind it. -/
def execute [Console σ] (instruction : Instruction) : Exec σ Unit := do
  match instruction.opcode with
  | .nop => return
  | .binary op =>
    let y ← popWord
    let x ← popWord
    pushWord (op.apply x y)
  | .unary op =>
    let x ← popWord
    pushWord (op.apply x)
  | .jmp =>
    let target ← popWord
    jump (← requireCode target.toInt)
  | .jz =>
    let target ← popWord
    let tested ← popWord
    let target ← requireCode target.toInt
    if tested = 0 then jump target
  | .jnz =>
    let target ← popWord
    let tested ← popWord
    let target ← requireCode target.toInt
    if tested ≠ 0 then jump target
  | .push =>
    requireDataRoom
    match instruction.operand with
    | some word => pushWord word
    | none => throw .truncatedOperand
  | .rm =>
    let _ ← popWord
  | .pushIp =>
    let target ← popWord
    require (0 ≤ target) (.addressOutOfBounds target.toInt)
    pushReturn target.toInt.toNat
  | .popIp =>
    let target ← popReturn
    jump (← requireCode target)
  | .rmIp =>
    let _ ← popReturn
  | .pushPm =>
    let address ← popWord
    pushWord (← load address.toInt)
  | .popPm =>
    let word ← popWord
    let address ← popWord
    store address.toInt word
  | .input =>
    requireDataRoom
    pushWord (← readConsole)
  | .peek =>
    let word ← popWord
    writeConsole word
    pushWord word
  | .halt => modify fun registers => { registers with halted := true }

/-- Reads the instruction at the instruction pointer, moves past it, and executes it. -/
def step [Console σ] : Exec σ Unit := do
  let registers ← get
  match Instruction.decode registers.memory.bytes registers.ip with
  | .error .outOfRange => return
  | .error (.unknownOpcode byte) => throw (.unknownOpcode byte)
  | .error .truncatedOperand => throw .truncatedOperand
  | .ok instruction =>
    jump (registers.ip + instruction.size)
    execute instruction

/-! ## Running the primitives -/

section Primitives

variable {α : Type} (registers : Registers) (console : σ)

theorem run_bind {β : Type} (first : Exec σ α) (next : α → Exec σ β) :
    (first >>= next) registers console =
      match first registers console with
      | (.ok (value, registers), console) => next value registers console
      | (.error code, console) => (.error code, console) := by
  show (_ : StateM σ _) console = _
  simp only [bind, StateT.bind, ExceptT.bind, ExceptT.mk, ExceptT.bindCont]
  rcases first registers console with ⟨⟨⟩ | ⟨⟨⟩⟩, _⟩ <;> rfl

theorem run_get_bind (next : Registers → Exec σ α) :
    (get >>= next) registers console = next registers registers console := rfl

theorem run_modify (change : Registers → Registers) :
    (modify change : Exec σ Unit) registers console = (.ok ((), change registers), console) := rfl

theorem run_pure (value : α) :
    (pure value : Exec σ α) registers console = (.ok (value, registers), console) := rfl

theorem run_require_bind (condition : Prop) [Decidable condition] (code : FaultCode)
    (next : Unit → Exec σ α) :
    (require condition code >>= next) registers console =
      if condition then next () registers console else (.error code, console) := by
  unfold require
  split <;> rfl

theorem run_popWord_bind (next : Word → Exec σ α) :
    (popWord >>= next) registers console =
      match registers.data with
      | [] => (.error .dataStackUnderflow, console)
      | word :: rest => next word { registers with data := rest } console := by
  rcases registers with ⟨memory, _ | ⟨word, rest⟩, returns, ip, halted, config⟩ <;> rfl

theorem run_popReturn_bind (next : Nat → Exec σ α) :
    (popReturn >>= next) registers console =
      match registers.returns with
      | [] => (.error .instructionStackUnderflow, console)
      | address :: rest => next address { registers with returns := rest } console := by
  rcases registers with ⟨memory, data, _ | ⟨word, rest⟩, ip, halted, config⟩ <;> rfl

theorem run_requireDataRoom_bind (next : Unit → Exec σ α) :
    (requireDataRoom >>= next) registers console =
      if registers.data.length < registers.config.dataCapacity then next () registers console
      else (.error .stackOverflow, console) := by
  have same : (requireDataRoom >>= next) registers console =
      (require (registers.data.length < registers.config.dataCapacity) .stackOverflow >>= next)
        registers console := by
    rw [run_bind, run_bind]
    rfl
  rw [same, run_require_bind]

theorem run_pushWord (word : Word) :
    pushWord word registers console =
      if registers.data.length < registers.config.dataCapacity then
        (.ok ((), { registers with data := word :: registers.data }), console)
      else (.error .stackOverflow, console) :=
  run_requireDataRoom_bind registers console _

theorem run_pushReturn (address : Nat) :
    pushReturn address registers console =
      if registers.returns.length < registers.config.returnCapacity then
        (.ok ((), { registers with returns := address :: registers.returns }), console)
      else (.error .stackOverflow, console) := by
  rw [pushReturn, run_get_bind]
  exact run_require_bind ..

theorem run_requireCode_bind {address : Int} {checked : Except FaultCode Nat}
    (next : Nat → Exec σ α) : codeAddress address = checked →
      (requireCode address >>= next) registers console =
        match checked with
        | .ok target => next target registers console
        | .error code => (.error code, console) := by
  intro same
  unfold codeAddress at same
  rw [run_bind, requireCode, run_require_bind]
  by_cases inside : 0 ≤ address ∧ address < memorySize
  · rw [if_pos inside] at same ⊢
    cases same
    rfl
  · rw [if_neg inside] at same ⊢
    cases same
    rfl

/-- A word is loaded exactly from the addresses that `wordAddress` accepts. -/
theorem run_load_bind (address : Int) (next : Word → Exec σ α) :
    (load address >>= next) registers console =
      match wordAddress address with
      | .ok place =>
        match registers.memory.readWord? place with
        | some word => next word registers console
        | none => (.error (.addressOutOfBounds address), console)
      | .error code => (.error code, console) := by
  rw [run_bind, load, run_require_bind, wordAddress]
  by_cases inside : 0 ≤ address ∧ address + 4 ≤ memorySize
  · rw [if_pos inside, if_pos inside.1, run_get_bind]
    dsimp only
    cases registers.memory.readWord? address.toNat with
    | none => rfl
    | some word => rfl
  · rw [if_neg inside]
    by_cases positive : 0 ≤ address
    · have outside : registers.memory.readWord? address.toNat = none := by
        have size := registers.memory.size_bytes
        unfold Memory.readWord? Bytes.readWord?
        rw [dif_neg]
        omega
      rw [if_pos positive, run_get_bind, outside]
      rfl
    · rw [if_neg positive]

/-- A word is stored exactly at the addresses that `wordAddress` accepts. -/
theorem run_store (address : Int) (word : Word) :
    store address word registers console =
      match wordAddress address with
      | .ok place =>
        (.ok ((), { registers with memory := registers.memory.storeWord place word }), console)
      | .error code => (.error code, console) := by
  rw [store, run_require_bind, wordAddress]
  by_cases inside : 0 ≤ address ∧ address + 4 ≤ memorySize
  · have fits : address.toNat + 4 ≤ memorySize := by omega
    rw [if_pos inside, if_pos inside.1, run_get_bind, Memory.writeWord?_of_fits _ fits]
    rfl
  · rw [if_neg inside]
    by_cases positive : 0 ≤ address
    · have outside : ¬ address.toNat + 4 ≤ memorySize := by omega
      rw [if_pos positive, run_get_bind, Memory.writeWord?, if_neg outside]
      rfl
    · rw [if_neg positive]

theorem run_readConsole_bind [Console σ] (next : Word → Exec σ α) :
    (readConsole >>= next) registers console =
      match Console.read console with
      | (.ok word, console) => next word registers console
      | (.error _, console) => (.error .malformedInput, console) := by
  rw [run_bind, readConsole]
  rcases Console.read console with ⟨_ | _, _⟩ <;> rfl

theorem run_writeConsole_bind [Console σ] (word : Word) (next : Unit → Exec σ α) :
    (writeConsole word >>= next) registers console =
      match Console.write console word with
      | (.ok (), console) => next () registers console
      | (.error _, console) => (.error .outputFailed, console) := by
  rw [run_bind, writeConsole]
  rcases Console.write console word with ⟨_ | _, _⟩ <;> rfl

end Primitives

end Reference

end TwoStack
