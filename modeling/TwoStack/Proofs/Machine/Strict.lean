import TwoStack.Console.Scripted
import TwoStack.Proofs.Machine.Effects
import TwoStack.Proofs.Machine.Invariant
import TwoStack.Proofs.Stack.Underlaid

/-!
# Strict machines

`Machine.commit` drops what cannot be done: a push onto a full stack, a pop of an empty one, a word
outside memory.  `Machine.commit?` insists on all of it: entries that are taken have to be there, a
push has to be accepted, a word has to lie in memory, and the step counter has to stay below
`2 ^ 64`.

The two come to the same for every instruction that a reachable machine executes, whatever its
console answers (`Machine.nothing_is_dropped`).  The same theorem says that other precautions are
not needed either: a check that repeats an earlier one never fails, no sum overflows, and there is
always a frame of the right size.
-/

namespace TwoStack

/-! ## Strict parts -/

section Stack

variable {α : Type} {stack : Stack α}

/-- Removes `count` entries, all of which have to be there. -/
def Stack.drop? (stack : Stack α) : Nat → Option (Stack α)
  | 0 => some stack
  | count + 1 => if stack.isEmpty then none else stack.pop.drop? count

/-- Removes `pops` entries and then puts one on top, if one is given. -/
def Stack.replace? (stack : Stack α) (pops : Nat) : Option α → Option (Stack α)
  | none => stack.drop? pops
  | some entry => (stack.drop? pops).bind fun rest => rest.push? entry

theorem Stack.drop?_of_le {count : Nat} (enough : count ≤ stack.depth) :
    stack.drop? count = some (stack.drop count) := by
  induction count generalizing stack with
  | zero => rfl
  | succ count ih =>
      have nonempty : stack.isEmpty = false := by
        rw [Stack.isEmpty, Array.isEmpty_eq_false_iff]
        intro empty
        rw [Stack.depth, empty] at enough
        cases enough
      rw [Stack.drop?, nonempty, if_neg Bool.false_ne_true, Stack.drop]
      apply ih
      rw [Stack.depth_pop]
      omega

theorem Stack.push?_of_lt (room : stack.depth < stack.capacity) (entry : α) :
    stack.push? entry = some (stack.push entry) := by
  have accepted : stack.push? entry ≠ none := by
    rw [ne_eq, Stack.push?_eq_none_iff]
    omega
  obtain ⟨grown, pushed⟩ := Option.ne_none_iff_exists'.1 accepted
  rw [Stack.push, pushed, Option.getD_some]

end Stack

/-- Changes the instruction stack; what is removed has to be there, and what is added has to fit. -/
def ReturnChange.perform? (returns : Stack Nat) : ReturnChange → Option (Stack Nat)
  | keep => some returns
  | push address => returns.push? address
  | pop => returns.drop? 1

/-- Stores a word, if one is given; its window has to lie inside memory. -/
def Memory.store? (memory : Memory) : Option (Nat × Word) → Option Memory
  | none => some memory
  | some (address, word) => memory.writeWord? address word

variable {machine : Machine}

/-- Applies the effects of an instruction, if every one of them can be applied in full and the
instruction can be counted in 64 bits. -/
def Machine.commit? (machine : Machine) (effects : Effects) : Option Machine :=
  match machine.data.replace? effects.pops effects.push, effects.returns.perform? machine.returns,
    machine.memory.store? effects.write with
  | some data, some returns, some memory =>
    if machine.steps + 1 < 2 ^ 64 then
      some { machine with memory, data, returns, ip := effects.next, steps := machine.steps + 1 }
    else none
  | _, _, _ => none

/-! ## Strict effects -/

section Effects

variable {effects : Effects}

theorem Machine.Admits.data_eq (admits : machine.Admits effects) :
    machine.data.replace? effects.pops effects.push = some (machine.commit effects).data := by
  have dropped := Stack.drop?_of_le admits.pops
  cases pushed : effects.push with
  | none => simp only [Stack.replace?, dropped, Machine.commit, pushed]
  | some word =>
      have accepted := Stack.push?_of_lt (admits.push word pushed) word
      simp only [Stack.replace?, dropped, Option.bind_some, accepted, Machine.commit, pushed]

theorem Machine.Admits.returns_eq (admits : machine.Admits effects) :
    effects.returns.perform? machine.returns = some (machine.commit effects).returns := by
  cases change : effects.returns with
  | keep => simp only [ReturnChange.perform?, Machine.commit, change]
  | push address =>
      have accepted := Stack.push?_of_lt (admits.back address change) address
      simp only [ReturnChange.perform?, accepted, Machine.commit, change]
  | pop =>
      have dropped := Stack.drop?_of_le (admits.held change)
      simp only [ReturnChange.perform?, dropped, Stack.drop, Machine.commit, change]

theorem Machine.memory_eq_of_inside
    (inside : ∀ address word, effects.write = some (address, word) → address + 4 ≤ memorySize) :
    machine.memory.store? effects.write = some (machine.commit effects).memory := by
  rcases write : effects.write with _ | ⟨address, word⟩
  · simp only [Memory.store?, Machine.commit, write]
  · have stored := machine.memory.writeWord?_of_fits (inside address word write) word
    simp only [Memory.store?, stored, Option.getD_some, Machine.commit, write]

/-- Effects that the stacks admit and that store only in memory can be applied in full. -/
theorem Machine.Admits.commit?_eq (admits : machine.Admits effects)
    (inside : ∀ address word, effects.write = some (address, word) → address + 4 ≤ memorySize)
    (counted : machine.steps + 1 < 2 ^ 64) :
    machine.commit? effects = some (machine.commit effects) := by
  rw [Machine.commit?, admits.data_eq, admits.returns_eq, Machine.memory_eq_of_inside inside]
  exact if_pos counted

end Effects

/-- Only `POPPM` stores a word, and it has checked the address. -/
theorem Machine.Plans.inside_of_write {instruction : Instruction} {effects : Effects}
    {use : ConsoleUse} (plans : machine.Plans instruction effects use) {address : Nat} {word : Word}
    (write : effects.write = some (address, word)) : address + 4 ≤ memorySize := by
  cases plans with
  | popPm top below inside =>
      cases write
      exact (eq_of_wordAddress inside).2
  | _ => cases write

/-! ## Instructions that are executed -/

/-- The instruction stands at the instruction pointer and has these effects with some console. -/
def Machine.Executes (machine : Machine) (instruction : Instruction) (effects : Effects) : Prop :=
  Instruction.decode machine.memory.bytes machine.ip = .ok instruction ∧
    ∃ (σ : Type) (_ : Console σ) (console next : σ),
      machine.execute instruction console = (.ok effects, next)

section Executes

variable {instruction : Instruction} {effects : Effects}

theorem Machine.Executes.exists_attempts (executes : machine.Executes instruction effects) :
    ∃ (σ : Type) (_ : Console σ) (console next : σ),
      machine.Attempts console (.completed instruction effects) next := by
  obtain ⟨decoded, σ, answers, console, next, executed⟩ := executes
  have attempted := Machine.attempt_of_completed decoded executed
  exact ⟨σ, answers, console, next, Machine.attempt_eq_iff.1 attempted⟩

theorem Machine.Executes.commit?_eq (executes : machine.Executes instruction effects)
    (counted : machine.steps + 1 < 2 ^ 64) :
    machine.commit? effects = some (machine.commit effects) := by
  obtain ⟨σ, _, console, next, attempts⟩ := executes.exists_attempts
  obtain ⟨use, planned, plans, write, _⟩ := attempts.exists_plans
  refine attempts.admits.commit?_eq (fun address word stored => ?_) counted
  exact plans.inside_of_write (write.trans stored)

theorem Machine.Executes.binary {op : BinaryOp} {operand : Option Word}
    (executes : machine.Executes ⟨.binary op, operand⟩ effects) :
    ∃ y x, machine.operand 0 = .ok y ∧ machine.operand 1 = .ok x ∧
      effects.push = some (op.apply x y) := by
  obtain ⟨σ, _, console, next, attempts⟩ := executes.exists_attempts
  obtain ⟨use, planned, plans, _, same⟩ := attempts.exists_plans
  obtain rfl := same nofun
  cases plans with
  | binary top below => exact ⟨_, _, top, below, rfl⟩

theorem Machine.Executes.unary {op : UnaryOp} {operand : Option Word}
    (executes : machine.Executes ⟨.unary op, operand⟩ effects) :
    ∃ x, machine.operand 0 = .ok x ∧ effects.push = some (op.apply x) := by
  obtain ⟨σ, _, console, next, attempts⟩ := executes.exists_attempts
  obtain ⟨use, planned, plans, _, same⟩ := attempts.exists_plans
  obtain rfl := same nofun
  cases plans with
  | unary top => exact ⟨_, top, rfl⟩

end Executes

/-! ## Precautions that are not needed -/

/-- A word address is all that the second check of `PUSHPM` asks for. -/
theorem Memory.exists_readWord?_of_wordAddress (memory : Memory) {source : Int} {address : Nat}
    (inside : wordAddress source = .ok address) : ∃ word, memory.readWord? address = some word := by
  apply Option.isSome_iff_exists.1
  rw [Memory.readWord?, Bytes.isSome_readWord?, memory.size_bytes]
  exact decide_eq_true (eq_of_wordAddress inside).2

/-- The bytes from the start of the frame buffer on are as many as a frame has. -/
theorem Memory.ofBytes?_frame (memory : Memory) :
    Frame.ofBytes? (memory.bytes.extract frameStart memory.bytes.size) = some memory.frame := by
  have shown : memory.frame.bytes = memory.bytes.extract frameStart memorySize := by
    rw [Memory.frame]
  rw [memory.size_bytes, ← shown, Frame.ofBytes?, dif_pos memory.frame.size_bytes]

/-- What an instruction of a machine does can always be done in full, and the further precautions
of a machine are never called upon. -/
structure Machine.Assured (machine : Machine) : Prop where
  /-- No effect is dropped. -/
  applies : ∀ instruction effects, machine.Executes instruction effects →
    machine.commit? effects = some (machine.commit effects)
  /-- Arithmetic has a result. -/
  binary : ∀ op operand effects, machine.Executes ⟨.binary op, operand⟩ effects →
    ∃ y x, machine.operand 0 = .ok y ∧ machine.operand 1 = .ok x ∧
      effects.push = some (op.apply x y)
  unary : ∀ op operand effects, machine.Executes ⟨.unary op, operand⟩ effects →
    ∃ x, machine.operand 0 = .ok x ∧ effects.push = some (op.apply x)
  /-- A `PUSH` that was decoded has its operand. -/
  pushes : ∀ operand, Instruction.decode machine.memory.bytes machine.ip = .ok ⟨.push, operand⟩ →
    ∃ word, operand = some word
  /-- There is a word at every address that was checked. -/
  reads : ∀ source address, wordAddress source = .ok address →
    ∃ word, machine.memory.readWord? address = some word
  /-- A machine that goes on does not find itself outside memory. -/
  inside : machine.status = .running → ∀ {σ : Type} [Console σ] (console : σ),
    (machine.attempt console).1 ≠ .outside
  /-- No sum exceeds 64 bits. -/
  next : ∀ instruction, Instruction.decode machine.memory.bytes machine.ip = .ok instruction →
    machine.ip + instruction.size < 2 ^ 64
  data : machine.data.depth + 1 < 2 ^ 64
  returns : machine.returns.depth + 1 < 2 ^ 64
  /-- There is always a frame to show. -/
  frame : Frame.ofBytes? (machine.memory.bytes.extract frameStart machine.memory.bytes.size) =
    some machine.memory.frame

theorem Machine.Sound.attempt_ne_outside (sound : machine.Sound)
    (running : machine.status = .running) {σ : Type} [Console σ] (console : σ) :
    (machine.attempt console).1 ≠ .outside := by
  intro left
  have attempts := machine.attempts console
  rw [left] at attempts
  generalize (machine.attempt console).2 = next at attempts
  cases attempts with
  | outside decoded => exact Machine.decode_ne_outOfRange (sound.ip_lt running) decoded

theorem Machine.lt_of_decode {instruction : Instruction}
    (decoded : Instruction.decode machine.memory.bytes machine.ip = .ok instruction) :
    machine.ip + instruction.size < 2 ^ 64 := by
  have fits := Instruction.add_size_le_of_decode decoded
  rw [machine.memory.size_bytes, memorySize] at fits
  omega

/-- Whatever instruction a reachable machine executes, with whatever console, all of its effects
are applied, no matter how little the stacks may hold. -/
theorem Machine.nothing_is_dropped (reachable : machine.Reachable)
    (data : machine.config.dataCapacity < 2 ^ 63) (returns : machine.config.returnCapacity < 2 ^ 63)
    (counted : machine.steps < 2 ^ 64 - 1) : machine.Assured where
  applies _ _ executes := executes.commit?_eq (by omega)
  binary _ _ _ executes := executes.binary
  unary _ _ _ executes := executes.unary
  pushes operand decoded := by
    have formed := Instruction.operand_isSome_of_decode decoded
    exact Option.isSome_iff_exists.1 (formed.trans (decide_eq_true rfl))
  reads _ _ inside := machine.memory.exists_readWord?_of_wordAddress inside
  inside running _ _ console := reachable.sound.attempt_ne_outside running console
  next _ decoded := Machine.lt_of_decode decoded
  data := by
    have depth : machine.data.depth ≤ machine.data.capacity := machine.data.size_le
    rw [reachable.fits.data] at depth
    omega
  returns := by
    have depth : machine.returns.depth ≤ machine.returns.capacity := machine.returns.size_le
    rw [reachable.fits.returns] at depth
    omega
  frame := machine.memory.ofBytes?_frame

/-- A stack of one entry takes the word that the first `INPUT` receives.  It has no room for
another, which the machine notices before it reads one. -/
theorem Machine.nothing_is_dropped_of_one_word :
    let start := Machine.load ⟨#[0x14, 0x14], by decide⟩ { dataCapacity := 1 }
    let host : Host Scripted := .ofConsole (Scripted.ofInputs [7, 8]) (.empty ⟨[], none⟩)
    let machine := (start.step host).2.1
    start.Executes ⟨.input, none⟩ { next := 1, push := some 7 } ∧ start.Assured ∧
      machine.Assured ∧ Machine.requireRoom machine.data = .error .stackOverflow := by
  intro start host machine
  have reachable : start.Reachable := .load _ _
  have decoded : Instruction.decode start.memory.bytes start.ip = .ok ⟨.input, none⟩ :=
    Instruction.decode_plain nofun (Memory.getElem?_ofBytes (by decide) (by decide))
  have executed : start.execute ⟨.input, none⟩ host.console =
      (.ok { next := 1, push := some 7 }, (Console.read host.console).2) := rfl
  have stepped : machine = start.after (start.attempt host.console).1 :=
    Machine.step_machine_of_running rfl host
  rw [Machine.attempt_of_completed decoded executed] at stepped
  have reached : machine.Reachable := .step host reachable
  have config : machine.config = start.config := start.keepsConfig.step host
  refine ⟨⟨decoded, _, _, _, _, executed⟩, ?_, ?_, ?_⟩
  · exact Machine.nothing_is_dropped reachable (by decide) (by decide) (by decide)
  · apply Machine.nothing_is_dropped reached
    · rw [config]
      decide
    · rw [config]
      decide
    · rw [stepped]
      decide
  · rw [stepped]
    rfl

end TwoStack
