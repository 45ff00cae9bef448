import TwoStack.Proofs.Machine.Observers
import TwoStack.Proofs.Machine.Strict

/-!
# Memory is what was written last

Only `POPPM` writes to memory.  `Machine.stores` lists the words that the first steps of a run have
stored, the latest first, and `Memory.lastWritten` is the program with those words over it: every
place holds the byte that the latest word over it put there.

This is the memory of the machine after any number of steps (`Machine.memory_is_last_written`), also
when words overlap each other, the program or the frame buffer.  Everything that reads memory reads
this one: the next instruction, `PUSHPM` and the frame that is shown.
-/

namespace TwoStack

/-! ## Words over a program -/

/-- The byte that a word stored at an address leaves at a place, if it covers the place. -/
def storedByte? (place : Nat) : Nat × Word → Option UInt8
  | (address, word) =>
    if address ≤ place ∧ place < address + 4 then some (word.byte (place - address)) else none

/-- Memory with a program in it and words stored over it, the latest first. -/
def Memory.lastWritten (program : Bytes) (stores : List (Nat × Word)) : Bytes :=
  Array.ofFn fun place : Fin memorySize =>
    (stores.findSome? (storedByte? place)).getD (program[place.val]?.getD 0)

section LastWritten

variable {program : Bytes} {stores : List (Nat × Word)} {address : Nat} {word : Word}

theorem Memory.size_lastWritten : (Memory.lastWritten program stores).size = memorySize :=
  Array.size_ofFn

theorem Memory.getElem?_lastWritten {place : Nat} (inside : place < memorySize) :
    (Memory.lastWritten program stores)[place]? =
      some ((stores.findSome? (storedByte? place)).getD (program[place]?.getD 0)) := by
  rw [Memory.lastWritten, Array.getElem?_ofFn, dif_pos inside]

theorem Memory.bytes_storeWord (memory : Memory) (address : Nat) (word : Word) :
    (memory.storeWord address word).bytes = memory.bytes.storeWord address word := by
  rw [Memory.storeWord]

/-- Two memories are the same if they agree at every place in memory. -/
theorem Memory.bytes_ext {bytes others : Bytes} (size : bytes.size = memorySize)
    (sizes : others.size = memorySize)
    (agree : ∀ place, place < memorySize → bytes[place]? = others[place]?) : bytes = others := by
  apply Array.ext_getElem?
  intro place
  rcases Nat.lt_or_ge place memorySize with inside | outside
  · exact agree place inside
  · rw [Array.getElem?_eq_none (size ▸ outside), Array.getElem?_eq_none (sizes ▸ outside)]

theorem Memory.lastWritten_nil :
    Memory.lastWritten program [] = (Memory.ofBytes program).bytes := by
  apply Memory.bytes_ext Memory.size_lastWritten (Memory.ofBytes program).size_bytes
  intro place inside
  rw [Memory.getElem?_lastWritten inside, List.findSome?_nil, Option.getD_none]
  rcases Nat.lt_or_ge place program.size with loaded | beyond
  · rw [Memory.getElem?_ofBytes loaded inside, Array.getElem?_eq_getElem loaded, Option.getD_some]
  · rw [Memory.getElem?_ofBytes_of_le beyond inside, Array.getElem?_eq_none beyond, Option.getD_none]

theorem Memory.lastWritten_cons (inside : address + 4 ≤ memorySize) :
    Memory.lastWritten program ((address, word) :: stores) =
      (Memory.lastWritten program stores).storeWord address word := by
  have size : (Memory.lastWritten program stores).size = memorySize := Memory.size_lastWritten
  apply Memory.bytes_ext Memory.size_lastWritten ((Bytes.size_storeWord _ _ _).trans size)
  intro place within
  rw [Bytes.getElem?_storeWord _ _ _ _ (size ▸ inside), Memory.getElem?_lastWritten within,
    List.findSome?_cons, storedByte?]
  split
  · next covered =>
      split at covered
      · next window =>
          cases covered
          rw [if_pos window, Option.getD_some]
      · cases covered
  · next missed =>
      split at missed
      · cases missed
      · next window => rw [if_neg window, Memory.getElem?_lastWritten within]

end LastWritten

/-! ## The stores of a run -/

/-- The word that the instruction at the instruction pointer stores once it retires, with its
address: the top of the data stack goes to the address below it. -/
def Machine.storing? (machine : Machine) : Option (Nat × Word) :=
  match Instruction.decode machine.memory.bytes machine.ip, machine.operand 0,
    machine.operand 1 with
  | .ok ⟨.popPm, _⟩, .ok word, .ok target => some (target.toInt.toNat, word)
  | _, _, _ => none

section Stores

variable {σ : Type} [Console σ]

/-- The word that the next step stores, which it does if it retires a `POPPM`. -/
def Machine.stored? (state : Machine × Host σ) : Option (Nat × Word) :=
  if (Machine.tick state).1.steps = state.1.steps + 1 then state.1.storing? else none

/-- The words that the first `count` steps have stored, the latest first. -/
def Machine.stores (start : Machine × Host σ) : Nat → List (Nat × Word)
  | 0 => []
  | count + 1 =>
    (Machine.stored? (Machine.tick^[count] start)).toList ++ Machine.stores start count

end Stores

/-! ## One step -/

section Step

variable {σ : Type} [Console σ] {machine : Machine} {instruction : Instruction}
  {effects : Effects} {state : Machine × Host σ}

/-- `POPPM` plans to store what `Machine.storing?` says, and no other instruction stores
anything. -/
theorem Machine.Plans.write_eq {use : ConsoleUse} (plans : machine.Plans instruction effects use)
    (decoded : Instruction.decode machine.memory.bytes machine.ip = .ok instruction) :
    effects.write = machine.storing? := by
  rw [Machine.storing?, decoded]
  cases plans with
  | popPm top below inside =>
      obtain ⟨rfl, -⟩ := eq_of_wordAddress inside
      rw [top, below]
  | _ => rfl

/-- A word that a completed instruction stores lies in memory, and it is the one that was to be
stored. -/
theorem Machine.Attempts.write_eq {console next : σ}
    (attempts : machine.Attempts console (.completed instruction effects) next) :
    effects.write = machine.storing? ∧
      ∀ address word, effects.write = some (address, word) → address + 4 ≤ memorySize := by
  obtain ⟨use, planned, plans, write, _⟩ := attempts.exists_plans
  rw [← write]
  exact ⟨plans.write_eq attempts.decoded_of_completed, fun _ _ => plans.inside_of_write⟩

/-- A step completes an instruction and counts it, or leaves memory and the counter alone. -/
theorem Machine.completes_or_keeps (state : Machine × Host σ) :
    (∃ instruction effects, state.1.status = .running ∧
        (state.1.attempt state.2.console).1 = .completed instruction effects ∧
        (Machine.tick state).1.steps = state.1.steps + 1) ∨
      (Machine.tick state).1.memory = state.1.memory ∧
        (Machine.tick state).1.steps = state.1.steps := by
  by_cases running : state.1.status = .running
  · cases attempted : (state.1.attempt state.2.console).1 with
    | outside =>
        rw [Machine.tick_machine running attempted]
        exact .inr ⟨rfl, rfl⟩
    | unreadable code =>
        rw [Machine.tick_machine running attempted]
        exact .inr ⟨rfl, rfl⟩
    | refused instruction code =>
        rw [Machine.tick_machine running attempted]
        exact .inr ⟨rfl, rfl⟩
    | completed instruction effects =>
        obtain ⟨status, left⟩ := state.1.after_completed instruction effects
        refine .inl ⟨instruction, effects, running, rfl, ?_⟩
        rw [Machine.tick_machine running attempted, left]
        rfl
  · rw [Machine.tick_of_stopped running]
    exact .inr ⟨rfl, rfl⟩

/-- A step stores the word of the `POPPM` that it retires, and nothing else. -/
theorem Machine.memory_tick (state : Machine × Host σ) :
    (∃ address word, Machine.stored? state = some (address, word) ∧ address + 4 ≤ memorySize ∧
        (Machine.tick state).1.memory = state.1.memory.storeWord address word) ∨
      Machine.stored? state = none ∧ (Machine.tick state).1.memory = state.1.memory := by
  rcases Machine.completes_or_keeps state with
    ⟨instruction, effects, running, attempted, counted⟩ | ⟨kept, uncounted⟩
  · have attempts := state.1.attempts state.2.console
    rw [attempted] at attempts
    obtain ⟨planned, within⟩ := attempts.write_eq
    obtain ⟨status, left⟩ := state.1.after_completed instruction effects
    rw [Machine.stored?, if_pos counted, Machine.tick_machine running attempted, left, ← planned]
    rcases write : effects.write with _ | ⟨address, word⟩
    · exact .inr ⟨rfl, by simp only [Machine.commit, write]⟩
    · have fits := within address word write
      refine .inl ⟨address, word, rfl, fits, ?_⟩
      simp only [Machine.commit, write, Memory.writeWord?_of_fits _ fits, Option.getD_some]
  · refine .inr ⟨?_, kept⟩
    rw [Machine.stored?, if_neg]
    omega

end Step

/-! ## A whole run -/

section Run

variable {σ : Type} [Console σ]

/-- The bytes in memory after any number of steps are those that were stored last. -/
theorem Machine.bytes_iterate_tick (program : Image) (config : Config) (host : Host σ)
    (count : Nat) :
    (Machine.tick^[count] (.load program config, host)).1.memory.bytes =
      Memory.lastWritten program.bytes (Machine.stores (.load program config, host) count) := by
  induction count with
  | zero => exact Memory.lastWritten_nil.symm
  | succ count ih =>
      rw [Function.iterate_succ_apply', Machine.stores]
      rcases Machine.memory_tick (Machine.tick^[count] (.load program config, host)) with
        ⟨address, word, stored, inside, left⟩ | ⟨nothing, left⟩
      · rw [left, stored, Option.toList_some, List.singleton_append,
          Memory.lastWritten_cons inside, ← ih, Memory.bytes_storeWord]
      · rw [left, nothing, Option.toList_none, List.nil_append, ih]

end Run

/-! ## Readers of memory -/

/-- What an attempt has read at the instruction pointer. -/
def Attempt.fetched : Attempt → Except DecodeError Instruction
  | outside => .error .outOfRange
  | unreadable (.unknownOpcode byte) => .error (.unknownOpcode byte)
  | unreadable _ => .error .truncatedOperand
  | refused instruction _ => .ok instruction
  | completed instruction _ => .ok instruction

section Readers

variable {σ : Type} [Console σ]

/-- Whatever the next step reads from memory, it reads from these bytes. -/
structure Machine.ReadsFrom (bytes : Bytes) (state : Machine × Host σ) : Prop where
  /-- The instruction that is attempted. -/
  fetch : (state.1.attempt state.2.console).1.fetched = Instruction.decode bytes state.1.ip
  /-- The word that a retired `PUSHPM` puts in the place of its address. -/
  word : ∀ operand source, Instruction.decode bytes state.1.ip = .ok ⟨.pushPm, operand⟩ →
    state.1.operand 0 = .ok source → (Machine.tick state).1.steps = state.1.steps + 1 →
    ∃ word, bytes.readWord? source.toInt.toNat = some word ∧
      (Machine.tick state).1.data.topFirst = word :: state.1.data.topFirst.tail
  /-- The frame that is shown. -/
  frame : state.1.status = .running → ∀ screen, state.2.screen = some screen →
    ∃ frame, (Machine.tick state).2.screen = some (screen.present frame) ∧
      frame.bytes = bytes.extract frameStart memorySize

theorem Machine.Attempts.fetched_eq {machine : Machine} {console next : σ} {attempt : Attempt}
    (attempts : machine.Attempts console attempt next) :
    attempt.fetched = Instruction.decode machine.memory.bytes machine.ip := by
  cases attempts with
  | outside decoded => exact decoded.symm
  | unknown decoded => exact decoded.symm
  | truncated decoded => exact decoded.symm
  | refused decoded planned => exact decoded.symm
  | silent decoded plans => exact decoded.symm
  | received decoded plans read => exact decoded.symm
  | unanswered decoded plans read => exact decoded.symm
  | sent decoded plans written => exact decoded.symm
  | unsent decoded plans written => exact decoded.symm

/-- A `PUSHPM` that is done has replaced the address by the word there. -/
theorem Machine.Attempts.topFirst_of_pushPm {machine : Machine} {console next : σ}
    {operand : Option Word} {effects : Effects} {source : Word}
    (attempts : machine.Attempts console (.completed ⟨.pushPm, operand⟩ effects) next)
    (top : machine.operand 0 = .ok source) :
    ∃ word, machine.memory.readWord? source.toInt.toNat = some word ∧
      (machine.commit effects).data.topFirst = word :: machine.data.topFirst.tail := by
  have room := attempts.admits.push
  obtain ⟨use, planned, plans, _, same⟩ := attempts.exists_plans
  obtain rfl := same nofun
  cases plans with
  | pushPm found inside read =>
      cases top.symm.trans found
      obtain ⟨rfl, -⟩ := eq_of_wordAddress inside
      have free := room _ rfl
      rw [← Stack.length_topFirst] at free
      refine ⟨_, read, ?_⟩
      simp only [Machine.commit]
      rw [Stack.topFirst_push free, Stack.topFirst_drop, List.drop_one]

theorem Machine.readsFrom (state : Machine × Host σ) :
    Machine.ReadsFrom state.1.memory.bytes state where
  fetch := (state.1.attempts state.2.console).fetched_eq
  word operand source decoded top counted := by
    rcases Machine.completes_or_keeps state with
      ⟨instruction, effects, running, attempted, _⟩ | ⟨_, uncounted⟩
    · have attempts := state.1.attempts state.2.console
      rw [attempted] at attempts
      cases decoded.symm.trans attempts.decoded_of_completed
      obtain ⟨status, left⟩ := state.1.after_completed ⟨.pushPm, operand⟩ effects
      rw [Machine.tick_machine running attempted, left]
      exact attempts.topFirst_of_pushPm top
    · omega
  frame running screen shown := by
    refine ⟨state.1.memory.frame, ?_, ?_⟩
    · rw [Machine.screen_tick running, shown]
      rfl
    · rw [Memory.frame]

/-- After any number of steps memory is the program with the stored words over it, the latest on
top, and everything is read from there.  A word that the next step stores is there after it. -/
theorem Machine.memory_is_last_written (program : Image) (config : Config) (host : Host σ)
    (count : Nat) :
    let start := (Machine.load program config, host)
    let state := Machine.tick^[count] start
    let bytes := Memory.lastWritten program.bytes (Machine.stores start count)
    let later := Memory.lastWritten program.bytes (Machine.stores start (count + 1))
    state.1.memory.bytes = bytes ∧ Machine.ReadsFrom bytes state ∧
      Machine.ReadsFrom later (Machine.tick state) ∧
      ∀ address word, Machine.stored? state = some (address, word) →
        later.readWord? address = some word := by
  intro start state bytes later
  have now : state.1.memory.bytes = bytes := Machine.bytes_iterate_tick program config host count
  have next : (Machine.tick state).1.memory.bytes = later := by
    have reached := Machine.bytes_iterate_tick program config host (count + 1)
    rwa [Function.iterate_succ_apply'] at reached
  refine ⟨now, now ▸ Machine.readsFrom state, next ▸ Machine.readsFrom (Machine.tick state), ?_⟩
  intro address word stored
  rcases Machine.memory_tick state with ⟨place, value, found, inside, left⟩ | ⟨nothing, _⟩
  · cases stored.symm.trans found
    rw [← next, left, Memory.bytes_storeWord]
    exact Bytes.readWord?_storeWord _ _ _ (state.1.memory.size_bytes ▸ inside)
  · cases stored.symm.trans nothing

end Readers

/-- What a step stores if the machine can execute the instruction at its instruction pointer. -/
theorem Machine.tick_of_executed {σ : Type} [Console σ] {state : Machine × Host σ}
    {machine : Machine} {console next : σ} {instruction : Instruction} {effects : Effects}
    (here : state.1 = machine ∧ state.2.console = console) (running : machine.status = .running)
    (decoded : Instruction.decode machine.memory.bytes machine.ip = .ok instruction)
    (executed : machine.execute instruction console = (.ok effects, next)) :
    Machine.stored? state = effects.write ∧
      (Machine.tick state).1 = machine.after (.completed instruction effects) ∧
      (Machine.tick state).2.console = next := by
  obtain ⟨rfl, rfl⟩ := here
  have attempted := Machine.attempt_of_completed decoded executed
  obtain ⟨planned, _⟩ := (Machine.attempt_eq_iff.1 attempted).write_eq
  obtain ⟨status, left⟩ := state.1.after_completed instruction effects
  have reached := Machine.tick_machine running (congrArg Prod.fst attempted)
  refine ⟨?_, reached, ?_⟩
  · rw [Machine.stored?, if_pos, planned]
    rw [reached, left]
    rfl
  · rw [Machine.tick, Machine.step_console_of_running running, attempted]

/-- A program of three instructions stores a fourth one behind itself, and arrives there. -/
theorem Machine.memory_is_last_written_behind_itself :
    let program : Image := ⟨#[0x14, 0x14, 0x13], by decide⟩
    let start : Machine × Host Scripted := (.load program {},
      .ofConsole (Scripted.ofInputs [3, 0x16000000]) (.empty ⟨[], none⟩))
    let bytes := Memory.lastWritten program.bytes [(3, 0x16000000)]
    Machine.stores start 3 = [(3, 0x16000000)] ∧ Machine.ReadsFrom bytes (Machine.tick^[3] start) ∧
      (Machine.tick^[3] start).1.ip = 3 ∧ Instruction.decode bytes 3 = .ok ⟨.halt, none⟩ := by
  intro program start bytes
  have fetched (place : Nat) (opcode : Opcode) (plain : opcode ≠ .push)
      (inside : place < program.bytes.size) (found : program.bytes[place]? = some opcode.toByte) :
      Instruction.decode start.1.memory.bytes place = .ok ⟨opcode, none⟩ := by
    apply Instruction.decode_plain plain
    exact (Memory.getElem?_ofBytes inside (Nat.lt_of_lt_of_le inside program.size_le)).trans found
  let one := start.1.after (.completed ⟨.input, none⟩ { next := 1, push := some 3 })
  let two := one.after (.completed ⟨.input, none⟩ { next := 2, push := some 0x16000000 })
  have plans : two.Plans ⟨.popPm, none⟩
      { next := 3, pops := 2, write := some (3, 0x16000000) } .none :=
    .popPm rfl rfl (if_pos (by decide))
  have first : _ ∧ (Machine.tick start).1 = one ∧ _ :=
    Machine.tick_of_executed ⟨rfl, rfl⟩ rfl (fetched 0 .input (by decide) (by decide) rfl) rfl
  have second : _ ∧ (Machine.tick (Machine.tick start)).1 = two ∧ _ :=
    Machine.tick_of_executed first.2 rfl (fetched 1 .input (by decide) (by decide) rfl) rfl
  have executed (console : Scripted) : two.execute ⟨.popPm, none⟩ console =
      (.ok { next := 3, pops := 2, write := some (3, 0x16000000) }, console) := by
    rw [Machine.execute, plans.plan_eq]
  have third := Machine.tick_of_executed second.2 rfl (fetched 2 .popPm (by decide) (by decide) rfl)
    (executed _)
  have stores : Machine.stores start 3 = [(3, 0x16000000)] := by
    rw [Machine.stores, Machine.stores, Machine.stores, Machine.stores,
      Function.iterate_succ_apply', Function.iterate_one, Function.iterate_zero_apply, first.1,
      second.1, third.1]
    rfl
  have reads : Machine.ReadsFrom (Memory.lastWritten program.bytes (Machine.stores start 3))
      (Machine.tick^[3] start) := (Machine.memory_is_last_written program {} start.2 3).2.1
  rw [stores] at reads
  have halt : bytes[3]? = some Opcode.halt.toByte :=
    (Memory.getElem?_lastWritten (by decide)).trans rfl
  refine ⟨stores, reads, ?_, Instruction.decode_plain (by decide) halt⟩
  obtain ⟨status, left⟩ := two.after_completed ⟨.popPm, none⟩
    { next := 3, pops := 2, write := some (3, 0x16000000) }
  rw [Function.iterate_succ_apply', Function.iterate_succ_apply', Function.iterate_one, third.2.1,
    left]
  rfl

end TwoStack
